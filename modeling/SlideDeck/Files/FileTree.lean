import SlideDeck.Error
import SlideDeck.Files.Path
import SlideDeck.Text.Utf8

/-!
# A file system as a value

* `FileTree` holds files and directories by their location, the list of names from the root.
* `resolve` follows a path, name by name, through directories that exist.
* `read`, `makeDirectories` and `replaceFile` are the operations that a conversion needs.  A file
  is replaced in steps, through a temporary file that is renamed at the end.
* `Refusals` are the steps that fail for reasons outside of the tree; `attempt` is a step that may
  be refused.
-/

set_option autoImplicit false

namespace SlideDeck

/-- A place in a file system: the names from the root. -/
abbrev Location := List Text

/-- What can be at a place. -/
inductive Entry where
  | file (content : Bytes)
  | directory
  deriving DecidableEq, Repr

/-- A file system, and the directory in which relative paths start. -/
structure FileTree where
  entries : List (Location × Entry)
  workingDirectory : Location
  deriving DecidableEq, Repr

namespace FileTree

/-! ## Single places -/

/-- What is at a place.  The root is always a directory. -/
def lookup (fs : FileTree) (place : Location) : Option Entry :=
  if place = [] then some .directory else fs.entries.lookup place

/-- The file system with nothing at a place. -/
def erase (fs : FileTree) (place : Location) : FileTree :=
  { fs with entries := fs.entries.filter fun e => e.1 != place }

/-- The file system with an entry at a place, in the stead of what was there. -/
def insert (fs : FileTree) (place : Location) (e : Entry) : FileTree :=
  { fs.erase place with entries := (place, e) :: (fs.erase place).entries }

/-! ## Paths -/

/-- Follows names from a place.  Every place from which a name is taken has to be a directory;
whether there is anything at the end is left open. -/
def follow (fs : FileTree) : Location → List Text → Except SystemError Location
  | place, [] => .ok place
  | place, n :: names =>
    match fs.lookup place with
    | none => .error .notFound
    | some (.file _) => .error .notDirectory
    | some .directory =>
      if n = Path.here then fs.follow place names
      else if n = Path.up then fs.follow place.dropLast names
      else if 255 < Text.utf8Size n then .error .nameTooLong
      else fs.follow (place ++ [n]) names

/-- The place in which a path starts. -/
def origin (fs : FileTree) (absolute : Bool) : Location :=
  if absolute then [] else fs.workingDirectory

/-- How many bytes a path may have. -/
def maxPathSize : Nat := 4095

/-- The place that a path leads to. -/
def resolve (fs : FileTree) (path : Text) : Except SystemError Location :=
  if path.any (· == '\x00') then .error .nulInPath
  else if path.isEmpty then .error .notFound
  else if maxPathSize < Text.utf8Size path then .error .nameTooLong
  else fs.follow (fs.origin (Path.isAbsolute path)) (Path.names path)

/-- Whether the last name of a path is one that every directory has. -/
def endsInDots (names : List Text) : Bool :=
  match names.getLast? with
  | none => true
  | some n => n == Path.here || n == Path.up

/-! ## Reading -/

/-- The content of a file. -/
def read (fs : FileTree) (path : Text) : Except SystemError Bytes := do
  let place ← fs.resolve path
  match fs.lookup place with
  | none => .error .notFound
  | some .directory => .error .isDirectory
  | some (.file content) =>
    if Path.endsWithSlash path then .error .notDirectory else .ok content

/-! ## Refused steps -/

/-- A step that is asked of a file system. -/
inductive Step where
  | read (path : Text)
  | makeDirectory (path : Text)
  | makeTemporary (directory : Text)
  | write (content : Bytes)
  | rename (path : Text)
  deriving DecidableEq, Repr

/-- The steps that a machine refuses whatever the tree says: for want of a permission or of space,
say.  A step that is refused has no effect.  Removing a file that has just been made is no such
step. -/
abbrev Refusals := FileTree → Step → Option SystemError

/-- A machine that refuses nothing. -/
def refuseNothing : Refusals := fun _ _ => none

/-- The outcome of a step, unless it is refused. -/
def attempt {α : Type} (refuse : Refusals) (fs : FileTree) (step : Step)
    (outcome : Except SystemError α) : Except SystemError α :=
  match refuse fs step with
  | some e => .error e
  | none => outcome

/-! ## Directories -/

/-- Whether a path leads to a directory. -/
def isDirectory (fs : FileTree) (path : Text) : Bool :=
  match fs.resolve path with
  | .ok place => fs.lookup place == some .directory
  | .error _ => false

/-- Makes a directory in one that exists. -/
def makeDirectory (fs : FileTree) (path : Text) : Except SystemError FileTree := do
  let place ← fs.resolve path
  if endsInDots (Path.names path) || (fs.lookup place).isSome then .error .alreadyExists
  else .ok (fs.insert place .directory)

/-- What an error in making a directory means: none, if the directory is there already. -/
def madeUnless (fs : FileTree) (path : Text) (e : SystemError) : Except SystemError Unit :=
  if e = .alreadyExists ∧ fs.isDirectory path then .ok () else .error e

/-- Makes the first directory of a list of ancestors and those of the others that are missing.
What has been made stays if a later step fails. -/
def makeAncestors (refuse : Refusals) (fs : FileTree) :
    List Text → Except SystemError Unit × FileTree
  | [] => (.ok (), fs)
  | path :: above =>
    match attempt refuse fs (.makeDirectory path) (fs.makeDirectory path) with
    | .ok made => (.ok (), made)
    | .error .notFound =>
      match makeAncestors refuse fs above with
      | (.error e, made) => (.error e, made)
      | (.ok (), made) =>
        match attempt refuse made (.makeDirectory path) (made.makeDirectory path) with
        | .ok all => (.ok (), all)
        | .error e => (made.madeUnless path e, made)
    | .error e => (fs.madeUnless path e, fs)

/-- Makes the directory with a path and those above it that are missing. -/
def makeDirectories (fs : FileTree) (path : Text) (refuse : Refusals := refuseNothing) :
    Except SystemError Unit × FileTree :=
  makeAncestors refuse fs (Path.toMake path)

/-! ## Writing -/

/-- A name that no entry has: it is longer than all names of all entries together. -/
def freshName (fs : FileTree) : Text :=
  ".tmp".toList ++ List.replicate (fs.entries.flatMap fun e => e.1.flatten).length '0'

/-- Makes an empty file in a directory, with a name that no entry has. -/
def makeTemporary (fs : FileTree) (directory : Text) :
    Except SystemError (Location × FileTree) := do
  let place ← fs.resolve directory
  match fs.lookup place with
  | none => .error .notFound
  | some (.file _) => .error .notDirectory
  | some .directory =>
    .ok (place ++ [fs.freshName], fs.insert (place ++ [fs.freshName]) (.file []))

/-- Moves a file to a path, in the stead of a file that is there. -/
def rename (fs : FileTree) (source : Location) (path : Text) : Except SystemError FileTree := do
  let place ← if path.any (· == '\x00') then .error .invalidArgument else fs.resolve path
  if endsInDots (Path.names path) then .error .busy
  else if Path.endsWithSlash path then .error .notDirectory
  else
    match fs.lookup place, fs.lookup source with
    | some .directory, _ => .error .isDirectory
    | _, some e => .ok ((fs.erase source).insert place e)
    | _, none => .error .notFound

/-- Writes a temporary file and moves it to a path. -/
def fillAndRename (refuse : Refusals) (fs : FileTree) (temporary : Location) (path : Text)
    (content : Bytes) : Except SystemError FileTree := do
  let written ← attempt refuse fs (.write content) (.ok (fs.insert temporary (.file content)))
  attempt refuse written (.rename path) (written.rename temporary path)

/-- Writes a file by way of a temporary file in a directory.  The temporary file is gone
afterwards in any case. -/
def replaceFile (fs : FileTree) (directory path : Text) (content : Bytes)
    (refuse : Refusals := refuseNothing) : Except SystemError Unit × FileTree :=
  match attempt refuse fs (.makeTemporary directory) (fs.makeTemporary directory) with
  | .error e => (.error e, fs)
  | .ok (temporary, made) =>
    match fillAndRename refuse made temporary path content with
    | .ok renamed => (.ok (), renamed)
    | .error e => (.error e, made.erase temporary)

/-! ## Listing -/

/-- Whether a place lies below another. -/
def isBelow (above place : Location) : Bool := above.isPrefixOf place && above.length < place.length

/-- Every place below the working directory as a relative path; directories end with a slash. -/
def list (fs : FileTree) : List Text :=
  (fs.entries.filter fun e => isBelow fs.workingDirectory e.1).map fun e =>
    Text.joinWith ['/'] (e.1.drop fs.workingDirectory.length)
      ++ (if e.2 = .directory then ['/'] else [])

end FileTree
end SlideDeck
