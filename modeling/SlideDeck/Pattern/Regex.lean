import SlideDeck.Pattern.CharSet
import SlideDeck.Text.Basic

/-!
# Regular expressions and where they match

A pattern is only ever asked whether it matches somewhere in a line, so what counts is the set of
positions that a match can reach, not which of several matches is preferred.

* `Regex` are the expressions.
* `Regex.reach` takes a set of positions to the set of those that a match starting in it can end
  at.  A set of positions of a text of `n` characters is a list of `n + 1` truth values.
* `Regex.isMatch` asks for a match anywhere, `Regex.matchesAtStart` for one at the first position.
* `Regex.isMatch_atTextStart`: an expression tied to the start of the text matches exactly where
  the expression itself matches at the start.
-/

set_option autoImplicit false

namespace SlideDeck

/-! ## Anchors -/

/-- A condition on a position of a text.  Those on words exist for all words and for ASCII words. -/
inductive Anchor where
  | textStart
  | textEnd
  /-- The start of a line; `crlf` counts CR and CR LF as line ends, too. -/
  | lineStart (crlf : Bool)
  /-- The end of a line. -/
  | lineEnd (crlf : Bool)
  | wordBoundary (ascii : Bool)
  | notWordBoundary (ascii : Bool)
  | wordStart (ascii : Bool)
  | wordEnd (ascii : Bool)
  /-- There is no word before the position. -/
  | wordStartHalf (ascii : Bool)
  /-- There is no word after the position. -/
  | wordEndHalf (ascii : Bool)
  deriving DecidableEq, Repr

/-- Whether a character, if there is one, belongs to a word. -/
def isWordAt (ascii : Bool) : Option Char → Bool
  | none => false
  | some c => (if ascii then CharSet.asciiWord else CharSet.word).contains c

/-- Whether an anchor holds between two neighbours. -/
def Anchor.holds (before after : Option Char) : Anchor → Bool
  | textStart => before.isNone
  | textEnd => after.isNone
  | lineStart false => before.isNone || before == some '\n'
  | lineStart true =>
    before.isNone || before == some '\n' || (before == some '\r' && after != some '\n')
  | lineEnd false => after.isNone || after == some '\n'
  | lineEnd true =>
    after.isNone || after == some '\r' || (after == some '\n' && before != some '\r')
  | wordBoundary ascii => isWordAt ascii before != isWordAt ascii after
  | notWordBoundary ascii => isWordAt ascii before == isWordAt ascii after
  | wordStart ascii => !isWordAt ascii before && isWordAt ascii after
  | wordEnd ascii => isWordAt ascii before && !isWordAt ascii after
  | wordStartHalf ascii => !isWordAt ascii before
  | wordEndHalf ascii => !isWordAt ascii after

/-! ## Sets of positions -/

/-- A set of positions of a text: for each position whether it is in the set. -/
abbrev Positions := List Bool

namespace Positions

/-- The union of two sets. -/
def union (a b : Positions) : Positions := List.zipWith (· || ·) a b

/-- The positions of the first set that are not in the second. -/
def diff (a b : Positions) : Positions := List.zipWith (fun x y => x && !y) a b

/-- All positions of a text. -/
def all (s : Text) : Positions := List.replicate (s.length + 1) true

/-- The first position of a text alone. -/
def first (s : Text) : Positions := true :: List.replicate s.length false

/-- The neighbours of each position of a text, the first of which has `before` in front of it. -/
def neighbours (before : Option Char) : Text → List (Option Char × Option Char)
  | [] => [(before, none)]
  | c :: r => (before, some c) :: neighbours (some c) r

/-- The positions after one character from the set, starting in `start`. -/
def afterChar (set : CharSet) (s : Text) (start : Positions) : Positions :=
  false :: List.zipWith (fun here c => here && set.contains c) start s

/-- The positions of a set at which an anchor holds. -/
def atAnchor (a : Anchor) (s : Text) (start : Positions) : Positions :=
  List.zipWith (fun here n => here && a.holds n.1 n.2) start (neighbours none s)

/-- A step taken `n` times. -/
def iterate (step : Positions → Positions) : Nat → Positions → Positions
  | 0, p => p
  | n + 1, p => if step p = p then p else iterate step n (step p)

/-- A step taken up to `n` times: `seen` are the positions reached so far, `fresh` those among
them from which no step has been taken yet. -/
def spread (step : Positions → Positions) : Nat → (seen fresh : Positions) → Positions
  | 0, seen, _ => seen
  | n + 1, seen, fresh =>
    let next := (step fresh).diff seen
    if next.any id then spread step n (seen.union next) next else seen

end Positions

/-! ## Expressions -/

/-- A regular expression. -/
inductive Regex where
  | empty
  | chars (set : CharSet)
  | anchor (a : Anchor)
  | seq (a b : Regex)
  | alt (a b : Regex)
  /-- The expression at least `min` and at most `max` times in sequence; a greedy one tries more
  before less, which is of no consequence for where a match can end. -/
  | times (a : Regex) (min : Nat) (max : Option Nat) (greedy : Bool)
  /-- A group, which matches what the expression in it does. -/
  | group (capturing : Bool) (a : Regex)
  deriving DecidableEq, Repr

namespace Regex

/-- The positions at which a match can end that starts at one of the given positions. -/
def reach (s : Text) : Regex → Positions → Positions
  | empty, p => p
  | chars set, p => Positions.afterChar set s p
  | anchor a, p => Positions.atAnchor a s p
  | seq a b, p => b.reach s (a.reach s p)
  | alt a b, p => (a.reach s p).union (b.reach s p)
  | group _ a, p => a.reach s p
  | times a min max _, p =>
    let p := Positions.iterate (a.reach s) min p
    Positions.spread (a.reach s) (match max with | none => s.length + 1 | some m => m - min) p p

/-- Whether an expression matches somewhere in a text. -/
def isMatch (r : Regex) (s : Text) : Bool := (r.reach s (Positions.all s)).any id

/-- Whether an expression matches a part of a text that begins at its first character. -/
def matchesAtStart (r : Regex) (s : Text) : Bool := (r.reach s (Positions.first s)).any id

theorem atAnchor_textStart_tail (c : Char) (s : Text) :
    List.zipWith (fun here n => here && Anchor.textStart.holds n.1 n.2)
      (List.replicate (s.length + 1) true) (Positions.neighbours (some c) s)
      = List.replicate (s.length + 1) false := by
  induction s generalizing c with
  | nil => rfl
  | cons d r ih =>
    rw [List.length_cons, List.replicate_succ, Positions.neighbours, List.zipWith_cons_cons,
      ih d]
    rfl

/-- Of all positions, the first one alone is at the start of the text. -/
theorem atAnchor_textStart_all (s : Text) :
    Positions.atAnchor .textStart s (Positions.all s) = Positions.first s := by
  cases s with
  | nil => rfl
  | cons c r =>
    rw [Positions.atAnchor, Positions.all, List.length_cons, List.replicate_succ,
      Positions.neighbours, List.zipWith_cons_cons, atAnchor_textStart_tail]
    rfl

/-- **Anchoring.**  An expression tied to the start of the text matches a text exactly if the
expression matches at the start of the text. -/
theorem isMatch_atTextStart (r : Regex) (s : Text) :
    (seq (anchor .textStart) r).isMatch s = r.matchesAtStart s := by
  rw [isMatch, matchesAtStart, reach, reach, atAnchor_textStart_all]

end Regex
end SlideDeck
