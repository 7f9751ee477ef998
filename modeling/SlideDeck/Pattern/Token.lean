import SlideDeck.Pattern.Ast
import SlideDeck.Pattern.CharSet

/-!
# Reading the parts of a pattern

Each reader takes the text of a pattern from where it stands and returns what it read and the
rest, or says what is wrong.  In a verbose pattern blanks and comments may stand between most
characters; `skip` passes over them.

* `countedRange` reads a counted repetition, `escape` what follows a backslash.
* `groupHead` reads the head of a group, with its name or its flags.
-/

set_option autoImplicit false

namespace SlideDeck.Pattern

open Unicode (isSpace isAlphabetic isNumeric)

/-- A reader's answer: what was read and the rest, or what is wrong. -/
abbrev Answer (α : Type) : Type := Except PatternError (α × Text)

/-! ## Blanks and comments -/

/-- The text after white space and comments; `comment` says that it starts within a comment. -/
def skipBlanks : (comment : Bool) → Text → Text
  | _, [] => []
  | true, c :: r => skipBlanks (c != '\n') r
  | false, c :: r =>
    if isSpace c then skipBlanks false r
    else if c = '#' then skipBlanks true r
    else c :: r

/-- The text after white space and comments, if the pattern is verbose. -/
def skip (verbose : Bool) (s : Text) : Text := if verbose then skipBlanks false s else s

theorem length_skipBlanks_le (comment : Bool) (s : Text) :
    (skipBlanks comment s).length ≤ s.length := by
  induction s generalizing comment with
  | nil => cases comment <;> simp [skipBlanks]
  | cons c r ih =>
    cases comment with
    | true => exact Nat.le_succ_of_le (ih _)
    | false =>
      rw [skipBlanks]
      split
      · exact Nat.le_succ_of_le (ih _)
      · split
        · exact Nat.le_succ_of_le (ih _)
        · exact Nat.le_refl _

theorem length_skip_le (verbose : Bool) (s : Text) : (skip verbose s).length ≤ s.length := by
  cases verbose with
  | true => exact length_skipBlanks_le false s
  | false => exact Nat.le_refl _

/-- Reads the characters that satisfy `p`, passing over blanks after each. -/
def takeSpaced (verbose : Bool) (p : Char → Bool) : Text → Text × Text
  | [] => ([], [])
  | c :: r =>
    if p c then
      let (cs, rest) := takeSpaced verbose p (skip verbose r)
      (c :: cs, rest)
    else ([], c :: r)
  termination_by s => s.length
  decreasing_by
    have := length_skip_le verbose r
    simp only [List.length_cons]
    omega

/-! ## Numbers -/

/-- The value of a digit in base sixteen. -/
def hexDigit? (c : Char) : Option Nat :=
  if '0' ≤ c ∧ c ≤ '9' then some (c.toNat - '0'.toNat)
  else if 'a' ≤ c ∧ c ≤ 'f' then some (c.toNat - 'a'.toNat + 10)
  else if 'A' ≤ c ∧ c ≤ 'F' then some (c.toNat - 'A'.toNat + 10)
  else none

/-- The value of digits in a base, the digits read with `hexDigit?`. -/
def valueOf (base : Nat) (digits : Text) : Nat :=
  digits.foldl (fun n c => n * base + (hexDigit? c).getD 0) 0

/-- The character with a number, if there is one. -/
def charOfNat? (n : Nat) : Option Char :=
  if h : n.isValidChar then some (Char.ofNatAux n h) else none

/-- Reads a decimal number below 2³², with white space on both sides. -/
def decimal (verbose : Bool) (s : Text) : Answer Nat :=
  let (digits, rest) := takeSpaced verbose Char.isDigit (s.dropWhile isSpace)
  if digits.isEmpty ∨ 4294967296 ≤ valueOf 10 digits then .error .repetitionCountMissing
  else .ok (valueOf 10 digits, rest.dropWhile isSpace)

/-! ## Repetitions -/

/-- How often something is to be matched. -/
structure Repeats where
  min : Nat
  max : Option Nat
  /-- Whether there is the mark of a lazy repetition. -/
  lazyMark : Bool
  deriving DecidableEq, Repr

/-- Reads the mark of a lazy repetition, if there is one. -/
def readLazyMark : Text → Bool × Text
  | '?' :: r => (true, r)
  | s => (false, s)

/-- A repetition whose counts are known, with the mark of a lazy one. -/
def Repeats.withMark (min : Nat) (max : Option Nat) (s : Text) : Repeats × Text :=
  (⟨min, max, (readLazyMark s).1⟩, (readLazyMark s).2)

/-- Reads the brace that closes a counted repetition and the mark of a lazy one. -/
def closeRange (verbose : Bool) (min : Nat) (max : Option Nat) : Text → Answer Repeats
  | '\x7d' :: r =>
    if max.any (· < min) then .error .repetitionCountInvalid
    else .ok (Repeats.withMark min max (skip verbose r))
  | _ => .error .repetitionUnclosed

/-- Reads a counted repetition after its opening brace: the least and the greatest count. -/
def countedRange (verbose : Bool) (s : Text) : Except PatternError (Repeats × Text) := do
  let (min, s) ← decimal verbose (skip verbose s)
  match s with
  | ',' :: r =>
    match skip verbose r with
    | [] => .error .repetitionUnclosed
    | '\x7d' :: r => closeRange verbose min none ('\x7d' :: r)
    | r =>
      let (max, s) ← decimal verbose r
      closeRange verbose min (some max) s
  | s => closeRange verbose min (some min) s

/-! ## Escapes -/

/-- Reads `n` hexadecimal digits, adding them to `value`. -/
def hexFixed (verbose : Bool) : (n value : Nat) → Text → Answer Nat
  | 0, value, s => .ok (value, s)
  | _ + 1, _, [] => .error .escapeUnfinished
  | n + 1, value, c :: r =>
    match hexDigit? c with
    | some d => hexFixed verbose n (value * 16 + d) (skip verbose r)
    | none => .error .hexInvalid

/-- Reads hexadecimal digits up to a closing brace. -/
def hexBraced (verbose : Bool) (s : Text) : Answer Nat :=
  match takeSpaced verbose (· != '\x7d') (skip verbose s) with
  | (_, []) => .error .escapeUnfinished
  | (digits, _ :: rest) =>
    if digits.isEmpty || digits.any fun c => (hexDigit? c).isNone then .error .hexInvalid
    else .ok (valueOf 16 digits, skip verbose rest)

/-- Reads a character given by its number, which has `n` digits unless it stands in braces. -/
def hexEscape (verbose : Bool) (n : Nat) (s : Text) : Except PatternError (Ast × Text) := do
  match skip verbose s with
  | [] => .error .escapeUnfinished
  | '\x7b' :: r =>
    let (value, rest) ← hexBraced verbose r
    match charOfNat? value with
    | some c => .ok (.literal c false, rest)
    | none => .error .hexInvalid
  | s =>
    let (value, rest) ← hexFixed verbose n 0 s
    match charOfNat? value with
    | some c => .ok (.literal c (n == 2), rest)
    | none => .error .hexInvalid

/-- The text before and after the first occurrence of `mark`. -/
def cutAt? (mark : Text) : Text → Option (Text × Text)
  | [] => none
  | c :: r =>
    match Text.after? mark (c :: r) with
    | some rest => some ([], rest)
    | none => (cutAt? mark r).map fun (a, b) => (c :: a, b)

/-- The set that a name in braces stands for: a property, or a property and a value. -/
def propertySet (name : Text) (negated : Bool) : SetAst :=
  match cutAt? "!=".toList name with
  | some (a, b) => .propertyValue a b (!negated)
  | none =>
    match (cutAt? ":".toList name).or (cutAt? "=".toList name) with
    | some (a, b) => .propertyValue a b negated
    | none => .property name negated

/-- Reads a Unicode class after its letter: one letter, or a name in braces. -/
def propertyEscape (verbose negated : Bool) (s : Text) : Answer Ast :=
  match skip verbose s with
  | [] => .error .escapeUnfinished
  | '\x7b' :: r =>
    match takeSpaced verbose (· != '\x7d') (skip verbose r) with
    | (_, []) => .error .escapeUnfinished
    | (name, _ :: rest) => .ok (.set (propertySet name negated), rest)
  | c :: r =>
    if c = '\\' then .error .propertyInvalid
    else .ok (.set (.property [c] negated), skip verbose r)

/-- The word boundaries that have a name. -/
def namedBoundary? (name : Text) : Option Assertion :=
  [("start".toList, Assertion.wordStart), ("end".toList, .wordEnd),
    ("start-half".toList, .wordStartHalf), ("end-half".toList, .wordEndHalf)].lookup name

/-- Whether a character can stand in the name of a word boundary. -/
def isBoundaryNameChar (c : Char) : Bool :=
  ('A' ≤ c && c ≤ 'Z') || ('a' ≤ c && c ≤ 'z') || c == '-'

/-- Reads a word boundary after its letter.  A brace after it starts a name, if a letter or a
hyphen follows, and otherwise a counted repetition. -/
def boundaryEscape (verbose : Bool) : Text → Answer Ast
  | '\x7b' :: r =>
    match skip verbose r with
    | [] => .error .boundaryInvalid
    | c :: s =>
      if isBoundaryNameChar c then
        match takeSpaced verbose isBoundaryNameChar (c :: s) with
        | (name, '\x7d' :: rest) =>
          match namedBoundary? name with
          | some a => .ok (.assertion a, rest)
          | none => .error .boundaryInvalid
        | _ => .error .boundaryInvalid
      else .ok (.assertion .wordBoundary, '\x7b' :: r)
  | s => .ok (.assertion .wordBoundary, s)

/-- Whether a character stands for itself after a backslash: every ASCII character does but
letters, digits and the two angle brackets. -/
def standsForItself (c : Char) : Bool :=
  c.toNat < 128 && !c.isAlphanum && c != '<' && c != '>'

/-- What a letter means after a backslash, if the letter is all of it. -/
def letterEscape? : Char → Option Ast
  | 'd' => some (.set (.shorthand .digit false))
  | 'D' => some (.set (.shorthand .digit true))
  | 's' => some (.set (.shorthand .space false))
  | 'S' => some (.set (.shorthand .space true))
  | 'w' => some (.set (.shorthand .word false))
  | 'W' => some (.set (.shorthand .word true))
  | 'a' => some (.literal '\x07' false)
  | 'f' => some (.literal '\x0c' false)
  | 't' => some (.literal '\t' false)
  | 'n' => some (.literal '\n' false)
  | 'r' => some (.literal '\r' false)
  | 'v' => some (.literal '\x0b' false)
  | 'A' => some (.assertion .textStart)
  | 'z' => some (.assertion .textEnd)
  | 'B' => some (.assertion .notWordBoundary)
  | '<' => some (.assertion .wordStart)
  | '>' => some (.assertion .wordEnd)
  | _ => none

/-- Reads what follows a backslash. -/
def escape (verbose : Bool) : Text → Answer Ast
  | [] => .error .escapeUnfinished
  | c :: r =>
    if c.isDigit then .error .backreference
    else if c = 'x' then hexEscape verbose 2 r
    else if c = 'u' then hexEscape verbose 4 r
    else if c = 'U' then hexEscape verbose 8 r
    else if c = 'p' then propertyEscape verbose false r
    else if c = 'P' then propertyEscape verbose true r
    else if c = 'b' then boundaryEscape verbose r
    else if standsForItself c then .ok (.literal c false, r)
    else
      match letterEscape? c with
      | some a => .ok (a, r)
      | none => .error .escapeUnknown

/-! ## Heads of groups -/

/-- What stands behind an opening parenthesis. -/
inductive GroupHead where
  /-- A group with its flags, and its name if it has one. -/
  | opened (capturing : Bool) (flags : FlagList) (name : Option Text)
  /-- Flags for the rest of the enclosing group; the closing parenthesis has been read. -/
  | flagsOnly (flags : FlagList)
  deriving DecidableEq, Repr

/-- Whether a character can stand in the name of a group. -/
def isNameChar (first : Bool) (c : Char) : Bool :=
  c == '_' || isAlphabetic c
    || (!first && (c == '.' || c == '[' || c == ']' || isNumeric c))

/-- Reads the name of a group up to the closing angle bracket. -/
def groupName (s : Text) : Answer Text :=
  match s.takeWhile (· != '>'), s.dropWhile (· != '>') with
  | c :: name, _ :: rest =>
    if isNameChar true c && name.all (isNameChar false) then .ok (c :: name, rest)
    else .error .groupNameInvalid
  | _, _ => .error .groupNameInvalid

/-- Reads flags up to the colon or the parenthesis that ends them.  `negated` says that a hyphen
has been read, `dangling` that it was the last thing read, `flags` what came before. -/
def flagList (negated dangling : Bool) (flags : FlagList) : Text → Answer (FlagList × Bool)
  | [] => .error .groupUnclosed
  | c :: r =>
    if c = ':' ∨ c = ')' then
      if dangling then .error .flagNegationDangling else .ok ((flags, c == ':'), r)
    else if c = '-' then
      if negated then .error .flagDuplicate else flagList true true flags r
    else
      match Flag.ofLetter? c with
      | none => .error .flagUnknown
      | some f =>
        if flags.any (·.1 == f) then .error .flagDuplicate
        else flagList negated false (flags ++ [(f, !negated)]) r

/-- Whether a group would look around. -/
def looksAround (s : Text) : Bool :=
  ["?=".toList, "?!".toList, "?<=".toList, "?<!".toList].any (Text.startsWith s)

/-- Reads the head of a group after its opening parenthesis. -/
def groupHead (verbose : Bool) (s : Text) : Except PatternError (GroupHead × Text) := do
  let s := skip verbose s
  if looksAround s then .error .lookAround
  else
    match (Text.after? "?P<".toList s).or (Text.after? "?<".toList s) with
    | some r =>
      let (name, rest) ← groupName r
      return (.opened true [] (some name), rest)
    | none =>
      match s with
      | '?' :: r =>
        let ((flags, opened), rest) ← flagList false false [] r
        if opened then return (.opened false flags none, rest)
        else if flags.isEmpty then .error .repetitionMissing
        else return (.flagsOnly flags, rest)
      | s => return (.opened true [] none, s)

end SlideDeck.Pattern
