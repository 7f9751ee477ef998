import SlideDeck.Config

/-!
# Command-line arguments

* `Options` are the arguments of a conversion, `Options.settings` the settings they make.
* `Request.ofArguments` reads arguments from left to right.  The first thing wrong and the first
  request for help or the version decide; what can only be judged at the end comes last.
-/

set_option autoImplicit false

namespace SlideDeck

/-- The arguments of a conversion. -/
structure Options where
  input : Text
  output : Text
  title : Option Text
  removePatterns : List Text
  commentPatterns : List Text
  noDefaultPatterns : Bool
  /-- Whether to print the statistics as JSON. -/
  json : Bool
  verbose : Bool
  quiet : Bool
  deriving DecidableEq, Repr

/-- The settings that options make. -/
def Options.settings (o : Options) : List Setting :=
  (if o.noDefaultPatterns then [.clearDefaultPatterns] else [])
    ++ o.title.toList.map .title
    ++ o.removePatterns.map .removePattern
    ++ o.commentPatterns.map .commentPattern

/-- What arguments ask for. -/
inductive Request where
  | convert (options : Options)
  | help
  | version
  /-- The arguments make no sense. -/
  | usageError
  deriving DecidableEq, Repr

/-- An option without a value. -/
inductive Switch where
  | noDefaultPatterns
  | json
  | verbose
  | quiet
  | help
  | version
  deriving DecidableEq, Repr

/-- An option with a value. -/
inductive ValueOption where
  | title
  | removePattern
  | commentPattern
  deriving DecidableEq, Repr

/-- The switch with a long name. -/
def Switch.ofName? (name : Text) : Option Switch :=
  [("no-default-patterns".toList, Switch.noDefaultPatterns), ("json".toList, json),
    ("verbose".toList, verbose), ("quiet".toList, quiet), ("help".toList, help),
    ("version".toList, version)].lookup name

/-- The switch with a letter. -/
def Switch.ofLetter? : Char → Option Switch
  | 'v' => some verbose
  | 'q' => some quiet
  | 'h' => some help
  | 'V' => some version
  | _ => none

/-- The option with a value that has a long name. -/
def ValueOption.ofName? (name : Text) : Option ValueOption :=
  [("title".toList, ValueOption.title), ("remove-pattern".toList, removePattern),
    ("comment-pattern".toList, commentPattern)].lookup name

namespace Request

/-- Arguments as far as they have been read. -/
structure Reading where
  /-- The paths so far, the latest first. -/
  paths : List Text
  title : Option Text
  removePatterns : List Text
  commentPatterns : List Text
  /-- The switches so far. -/
  switches : List Switch
  deriving DecidableEq, Repr

/-- The state before the first argument. -/
def Reading.start : Reading := ⟨[], none, [], [], []⟩

/-- Takes a switch.  None may be given twice, and help and version end the reading. -/
def Reading.switch (a : Reading) (s : Switch) : Except Request Reading :=
  if s = .help then .error .help
  else if s = .version then .error .version
  else if s ∈ a.switches then .error .usageError
  else .ok { a with switches := s :: a.switches }

/-- Takes the switches of a group of letters. -/
def Reading.letters (a : Reading) : Text → Except Request Reading
  | [] => .ok a
  | c :: r =>
    match Switch.ofLetter? c with
    | none => .error .usageError
    | some s =>
      match a.switch s with
      | .error e => .error e
      | .ok a => a.letters r

/-- Takes an option with its value.  A title may not be given twice. -/
def Reading.value (a : Reading) (value : Text) : ValueOption → Except Request Reading
  | .title =>
    if a.title.isSome then .error .usageError else .ok { a with title := some value }
  | .removePattern => .ok { a with removePatterns := a.removePatterns ++ [value] }
  | .commentPattern => .ok { a with commentPatterns := a.commentPatterns ++ [value] }

/-- Takes a path.  There are two of them, and neither is empty. -/
def Reading.path (a : Reading) (p : Text) : Except Request Reading :=
  if p.isEmpty || 2 ≤ a.paths.length then .error .usageError
  else .ok { a with paths := p :: a.paths }

/-- Whether an argument looks like an option.  A lone hyphen does not. -/
def looksLikeOption : Text → Bool
  | '-' :: _ :: _ => true
  | _ => false

/-- What the arguments ask for when all have been read. -/
def Reading.finish (a : Reading) : Request :=
  match a.paths with
  | [output, input] =>
    if .verbose ∈ a.switches ∧ .quiet ∈ a.switches then .usageError
    else .convert
      { input := input
        output := output
        title := a.title
        removePatterns := a.removePatterns
        commentPatterns := a.commentPatterns
        noDefaultPatterns := decide (.noDefaultPatterns ∈ a.switches)
        json := decide (.json ∈ a.switches)
        verbose := decide (.verbose ∈ a.switches)
        quiet := decide (.quiet ∈ a.switches) }
  | _ => .usageError

/-- Reads arguments that are all paths. -/
def readPaths (a : Reading) : List Text → Request
  | [] => a.finish
  | p :: rest =>
    match a.path p with
    | .error e => e
    | .ok a => readPaths a rest

/-- The name and the value of a long option, after its hyphens. -/
def splitLong (s : Text) : Text × Option Text :=
  (s.takeWhile (· != '='), (s.dropWhile (· != '=')).tail?)

/-- Reads arguments.  Two hyphens by themselves end the options. -/
def read (a : Reading) : List Text → Request
  | [] => a.finish
  | ['-', '-'] :: rest => readPaths a rest
  | ('-' :: '-' :: long) :: rest =>
    let (name, attached) := splitLong long
    match Switch.ofName? name, ValueOption.ofName? name, attached, rest with
    | some s, _, none, rest =>
      match a.switch s with
      | .error e => e
      | .ok a => read a rest
    | none, some o, some v, rest =>
      match a.value v o with
      | .error e => e
      | .ok a => read a rest
    | none, some o, none, v :: rest =>
      if looksLikeOption v then .usageError
      else
        match a.value v o with
        | .error e => e
        | .ok a => read a rest
    | _, _, _, _ => .usageError
  | ('-' :: c :: letters) :: rest =>
    match a.letters (c :: letters) with
    | .error e => e
    | .ok a => read a rest
  | p :: rest =>
    match a.path p with
    | .error e => e
    | .ok a => read a rest

/-- What arguments ask for. -/
def ofArguments (arguments : List Text) : Request := read .start arguments

end Request
end SlideDeck
