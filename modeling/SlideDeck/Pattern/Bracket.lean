import SlideDeck.Pattern.Token

/-!
# Reading classes in brackets

A class in brackets is a union of items: characters, ranges, shorthands and further classes.
Between such unions stand the operators `&&`, `--` and `~~`, all of one strength, read from the
left.

* `readClass` reads a class after its opening bracket.  It keeps the enclosing classes and the
  pending operators on a stack, and takes at least one character at each turn, so the length of
  the text bounds the number of turns.
-/

set_option autoImplicit false

namespace SlideDeck.Pattern

open Unicode (isSpace)

/-- An operator between sets. -/
inductive SetOperator where
  | inter
  | diff
  | symmDiff
  deriving DecidableEq, Repr

/-- The set that an operator makes of two. -/
def SetOperator.apply : SetOperator → SetAst → SetAst → SetAst
  | inter => .inter
  | diff => .diff
  | symmDiff => .symmDiff

/-- What is waiting for the class that is being read. -/
inductive ClassFrame where
  /-- A bracket was opened; `before` is the union that it continues. -/
  | opened (before : SetAst) (negated : Bool)
  /-- An operator has been read and its left-hand side. -/
  | operand (op : SetOperator) (left : SetAst)
  deriving DecidableEq, Repr

/-- The set that is complete when an operator or a closing bracket follows, and the frames
below. -/
def applyOperator (stack : List ClassFrame) (right : SetAst) : SetAst × List ClassFrame :=
  match stack with
  | .operand op left :: stack => (op.apply left right, stack)
  | stack => (right, stack)

/-- The literal that starts a class, if a bracket that closes it would come too early. -/
def leadingBracket (verbose : Bool) (items : SetAst) : Text → SetAst × Text
  | ']' :: r => if items = .empty then (.literal ']' false, skip verbose r) else (items, ']' :: r)
  | s => (items, s)

/-- Reads the start of a class after its opening bracket: whether it is negated, and the hyphens
or the closing bracket that stand for themselves there. -/
def classStart (verbose : Bool) (s : Text) : Answer (Bool × SetAst) :=
  let (negated, s) := match skip verbose s with
    | '^' :: r => (true, skip verbose r)
    | s => (false, s)
  let (hyphens, s) := takeSpaced verbose (· == '-') s
  let items := hyphens.foldl (fun a c => a.add (.literal c false)) .empty
  let (items, s) := leadingBracket verbose items s
  if s.isEmpty then .error .classUnclosed else .ok ((negated, items), s)

/-- Reads an ASCII class after its opening bracket. -/
def posixClass? (s : Text) : Option (SetAst × Text) := do
  let r ← Text.after? [':'] s
  let (negated, r) := match r with
    | '^' :: r => (true, r)
    | r => (false, r)
  let rest ← Text.after? ":]".toList (r.dropWhile (· != ':'))
  if (CharSet.ascii? (r.takeWhile (· != ':'))).isSome then
    return (.posix (r.takeWhile (· != ':')) negated, rest)
  else none

/-- Reads a single item of a class. -/
def classItem (verbose : Bool) : Text → Answer Ast
  | [] => .error .classUnclosed
  | '\\' :: r => escape verbose r
  | c :: r => .ok (.literal c false, r)

/-- An item as a set of its own. -/
def itemSet : Ast → Except PatternError SetAst
  | .literal c byte => .ok (.literal c byte)
  | .set s => .ok s
  | _ => .error .classItemInvalid

/-- The range between two items. -/
def itemRange : Ast → Ast → Except PatternError SetAst
  | .literal a aByte, .literal b bByte =>
    if a ≤ b then .ok (.range a aByte b bByte) else .error .classRangeInvalid
  | _, _ => .error .classRangeInvalid

/-- The character after a hyphen.  In a verbose pattern this passes over white space, and over
one number sign with the white space after it. -/
def peekAfterHyphen (verbose : Bool) (s : Text) : Option Char :=
  if verbose then
    match s.dropWhile isSpace with
    | '#' :: r => (r.dropWhile isSpace).head?
    | s => s.head?
  else s.head?

/-- Reads an item of a class, or a range between two items.  A hyphen does not start a range if a
closing bracket or another hyphen follows it. -/
def classRange (verbose : Bool) (s : Text) : Except PatternError (SetAst × Text) := do
  let (first, s) ← classItem verbose s
  match skip verbose s with
  | [] => .error .classUnclosed
  | '-' :: r =>
    let next := peekAfterHyphen verbose r
    if next = some ']' ∨ next = some '-' then return (← itemSet first, '-' :: r)
    else
      let (last, rest) ← classItem verbose (skip verbose r)
      return (← itemRange first last, rest)
  | s => return (← itemSet first, s)

/-- Reads the operator at the start of a text. -/
def setOperator? : Text → Option (SetOperator × Text)
  | '&' :: '&' :: r => some (.inter, r)
  | '-' :: '-' :: r => some (.diff, r)
  | '~' :: '~' :: r => some (.symmDiff, r)
  | _ => none

/-- Reads on in a class: `items` is the union read so far, `stack` what is waiting for it. -/
def readClassFrom (verbose : Bool) :
    Nat → List ClassFrame → SetAst → Text → Except PatternError (SetAst × Text)
  | 0, _, _, _ => .error .classUnclosed
  | turns + 1, stack, items, s => do
    match skip verbose s with
    | [] => .error .classUnclosed
    | '[' :: r =>
      match posixClass? r with
      | some (set, rest) => readClassFrom verbose turns stack (items.add set) rest
      | none =>
        let ((negated, inner), rest) ← classStart verbose r
        readClassFrom verbose turns (.opened items negated :: stack) inner rest
    | ']' :: r =>
      match applyOperator stack items with
      | (set, [.opened _ negated]) => return (.bracket set negated, r)
      | (set, .opened before negated :: stack) =>
        readClassFrom verbose turns stack (before.add (.bracket set negated)) r
      | _ => .error .classUnclosed
    | c :: r =>
      match setOperator? (c :: r) with
      | some (op, rest) =>
        let (left, stack) := applyOperator stack items
        readClassFrom verbose turns (.operand op left :: stack) .empty rest
      | none =>
        let (set, rest) ← classRange verbose (c :: r)
        readClassFrom verbose turns stack (items.add set) rest

/-- Reads a class after its opening bracket. -/
def readClass (verbose : Bool) (s : Text) : Except PatternError (SetAst × Text) := do
  let ((negated, items), rest) ← classStart verbose s
  readClassFrom verbose rest.length [.opened .empty negated] items rest

end SlideDeck.Pattern
