import SlideDeck.Pattern.Bracket

/-!
# Reading patterns

* `Parse.step` reads one construct: a literal, a class, a repetition mark, the start or the end of
  a group, a bar.  What encloses it waits on a stack.
* `parse` reads a whole pattern.  Every step takes at least one character, so the length of the
  pattern bounds their number.
-/

set_option autoImplicit false

namespace SlideDeck.Pattern

/-- A choice that is being read. -/
structure Level where
  /-- The finished branches, the latest first. -/
  branches : List Ast
  /-- The items of the current branch, the latest first. -/
  items : List Ast
  deriving DecidableEq, Repr

namespace Level

/-- A choice of which nothing has been read. -/
def start : Level := ⟨[], []⟩

/-- The level with one more item. -/
def push (a : Ast) (l : Level) : Level := { l with items := a :: l.items }

/-- The level with a new branch. -/
def branch (l : Level) : Level := ⟨Ast.sequence l.items.reverse :: l.branches, []⟩

/-- The choice that has been read. -/
def close (l : Level) : Ast :=
  Ast.choice (l.branches.reverse ++ [Ast.sequence l.items.reverse])

/-- The level with its latest item repeated. -/
def repeatLast (n : Repeats) (l : Level) : Except PatternError Level :=
  match l.items with
  | [] | .empty :: _ | .setFlags _ :: _ => .error .repetitionMissing
  | a :: items => .ok { l with items := .times a n.min n.max n.lazyMark :: items }

end Level

/-- A group that has been opened. -/
structure GroupFrame where
  /-- The level that the group stands in. -/
  outer : Level
  capturing : Bool
  /-- The flags of the group. -/
  flags : FlagList
  /-- Whether the pattern was verbose before the group. -/
  verbose : Bool
  deriving DecidableEq, Repr

/-- How far a pattern has been read. -/
structure Parse where
  level : Level
  /-- The open groups, the innermost first. -/
  groups : List GroupFrame
  /-- Whether the pattern is verbose here. -/
  verbose : Bool
  /-- The names of groups so far. -/
  names : List Text
  deriving DecidableEq, Repr

namespace Parse

/-- The state before the first character. -/
def start : Parse := ⟨.start, [], false, []⟩

/-- The state with one more item. -/
def push (a : Ast) (p : Parse) : Parse := { p with level := p.level.push a }

/-- What a list of flags makes of being verbose. -/
def verboseAfter (flags : FlagList) (verbose : Bool) : Bool :=
  ((flags.find? (·.1 == .verbose)).map (·.2)).getD verbose

/-- Enters what stands behind an opening parenthesis. -/
def enter (p : Parse) : GroupHead → Except PatternError Parse
  | .flagsOnly flags =>
    .ok { p.push (.setFlags flags) with verbose := verboseAfter flags p.verbose }
  | .opened capturing flags name =>
    if name.any fun n => p.names.any fun m => m == n then .error .groupNameDuplicate
    else .ok
      { level := .start
        groups := ⟨p.level, capturing, flags, p.verbose⟩ :: p.groups
        verbose := verboseAfter flags p.verbose
        names := name.toList ++ p.names }

/-- Leaves the innermost group. -/
def leave (p : Parse) : Except PatternError Parse :=
  match p.groups with
  | [] => .error .groupUnopened
  | g :: groups =>
    .ok
      { level := g.outer.push (.group g.capturing g.flags p.level.close)
        groups := groups
        verbose := g.verbose
        names := p.names }

/-- The pattern that has been read. -/
def finish (p : Parse) : Except PatternError Ast :=
  if p.groups.isEmpty then .ok p.level.close else .error .groupUnclosed

/-- Repeats the latest item. -/
def repeatLast (n : Repeats) (p : Parse) : Except PatternError Parse :=
  (p.level.repeatLast n).map fun l => { p with level := l }

/-- Reads a repetition of the latest item, whose counts are known. -/
def repeatMark (min : Nat) (max : Option Nat) (p : Parse) (r : Text) :
    Except PatternError (Parse × Text) :=
  let (n, rest) := Repeats.withMark min max r
  (p.repeatLast n).map fun p => (p, rest)

/-- Reads the construct that starts with `c`. -/
def step (p : Parse) (c : Char) (r : Text) : Except PatternError (Parse × Text) := do
  match c with
  | '(' =>
    let (head, rest) ← groupHead p.verbose r
    return (← p.enter head, rest)
  | ')' => return (← p.leave, r)
  | '|' => return ({ p with level := p.level.branch }, r)
  | '[' =>
    let (set, rest) ← readClass p.verbose r
    return (p.push (.set set), rest)
  | '?' => p.repeatMark 0 (some 1) r
  | '*' => p.repeatMark 0 none r
  | '+' => p.repeatMark 1 none r
  | '\x7b' =>
    let (n, rest) ← countedRange p.verbose r
    return (← p.repeatLast n, rest)
  | '\\' =>
    let (a, rest) ← escape p.verbose r
    return (p.push a, rest)
  | '.' => return (p.push .dot, r)
  | '^' => return (p.push (.assertion .lineStart), r)
  | '$' => return (p.push (.assertion .lineEnd), r)
  | c => return (p.push (.literal c false), r)

/-- Reads on to the end of the pattern, in at most the given number of steps. -/
def run : Nat → Parse → Text → Except PatternError Ast
  | 0, p, _ => p.finish
  | steps + 1, p, s =>
    match skip p.verbose s with
    | [] => p.finish
    | c :: r =>
      match p.step c r with
      | .error e => .error e
      | .ok (p, rest) => run steps p rest

end Parse

/-- How deep a pattern may nest. -/
def maxDepth : Nat := 250

/-- Reads a pattern. -/
def parse (s : Text) : Except PatternError Ast :=
  match Parse.run s.length .start s with
  | .error e => .error e
  | .ok a => if maxDepth < a.depth then .error .nestingTooDeep else .ok a

end SlideDeck.Pattern
