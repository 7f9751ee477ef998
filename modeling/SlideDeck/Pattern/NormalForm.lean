import SlideDeck.Pattern.Regex

/-!
# Normal forms of expressions

An expression is brought into a normal form before its automaton is built: neighbouring characters
become one fixed text, a choice between characters becomes a set, a beginning that all branches of
a choice share is taken out of it, and repetitions that change nothing are dropped.

* `NormalForm.ofRegex` is the normal form of an expression.
* `minLength` and `maxLength` bound how many bytes it can match, `startsAtTextStart` and
  `endsAtTextEnd` say whether every match is tied to an end of the text.
-/

set_option autoImplicit false

namespace SlideDeck

/-- An expression in normal form. -/
inductive NormalForm where
  | empty
  /-- A fixed text, which is not empty. -/
  | literal (t : Text)
  /-- A set of characters that does not have exactly one member. -/
  | chars (s : CharSet)
  | anchor (a : Anchor)
  | capture (a : NormalForm)
  | times (a : NormalForm) (min : Nat) (max : Option Nat) (greedy : Bool)
  /-- Several parts, none of which is empty or of this kind, and no two neighbours of which are
  fixed texts. -/
  | seq (parts : List NormalForm)
  /-- Several branches, none of which is of this kind. -/
  | alt (branches : List NormalForm)
  deriving Repr

namespace NormalForm

/-! ## Lengths -/

/-- What `f` makes of two bounds, if both exist. -/
def joinBounds (f : Nat → Nat → Nat) : Option Nat → Option Nat → Option Nat
  | some m, some n => some (f m n)
  | _, _ => none

mutual

/-- The least number of bytes that is matched; there is none if nothing can be matched. -/
def minLength : NormalForm → Option Nat
  | empty => some 0
  | literal t => some (Text.utf8Size t)
  | chars s => s.intervals.head?.map fun i => (Char.ofNat i.1).utf8Size
  | anchor _ => some 0
  | capture a => a.minLength
  | times a min _ _ => a.minLength.map (· * min)
  | seq parts => minLengthSum parts
  | alt branches => minLengthMin branches

/-- The least number of bytes that the parts match together. -/
def minLengthSum : List NormalForm → Option Nat
  | [] => some 0
  | a :: r => joinBounds (· + ·) a.minLength (minLengthSum r)

/-- The least number of bytes that one of the branches matches; there is none if there is none for
a branch. -/
def minLengthMin : List NormalForm → Option Nat
  | [] => none
  | [a] => a.minLength
  | a :: r => joinBounds Nat.min a.minLength (minLengthMin r)

end

mutual

/-- The greatest number of bytes that is matched, if there is one. -/
def maxLength : NormalForm → Option Nat
  | empty => some 0
  | literal t => some (Text.utf8Size t)
  | chars s => s.intervals.getLast?.map fun i => (Char.ofNat i.2).utf8Size
  | anchor _ => some 0
  | capture a => a.maxLength
  | times a _ max _ => joinBounds (· * ·) max a.maxLength
  | seq parts => maxLengthSum parts
  | alt branches => maxLengthMax branches

/-- The greatest number of bytes that the parts match together. -/
def maxLengthSum : List NormalForm → Option Nat
  | [] => some 0
  | a :: r => joinBounds (· + ·) a.maxLength (maxLengthSum r)

/-- The greatest number of bytes that one of the branches matches. -/
def maxLengthMax : List NormalForm → Option Nat
  | [] => none
  | [a] => a.maxLength
  | a :: r => joinBounds Nat.max a.maxLength (maxLengthMax r)

end

/-- Whether only the empty text is matched. -/
def isZeroWidth (a : NormalForm) : Bool := a.maxLength == some 0

/-! ## Ties to the ends of the text -/

mutual

/-- Whether every match has to begin at the start of the text. -/
def startsAtTextStart : NormalForm → Bool
  | anchor a => a == .textStart
  | capture a => a.startsAtTextStart
  | times a min _ _ => 0 < min && a.startsAtTextStart
  | seq parts => firstStartsAtTextStart parts
  | alt branches => allStartAtTextStart branches
  | _ => false

/-- Whether one of the parts up to the first that has a width is tied to the start. -/
def firstStartsAtTextStart : List NormalForm → Bool
  | [] => false
  | a :: r => a.startsAtTextStart || (a.isZeroWidth && firstStartsAtTextStart r)

/-- Whether all branches are tied to the start. -/
def allStartAtTextStart : List NormalForm → Bool
  | [] => true
  | a :: r => a.startsAtTextStart && allStartAtTextStart r

end

mutual

/-- Whether every match has to end at the end of the text. -/
def endsAtTextEnd : NormalForm → Bool
  | anchor a => a == .textEnd
  | capture a => a.endsAtTextEnd
  | times a min _ _ => 0 < min && a.endsAtTextEnd
  | seq parts => (lastEndsAtTextEnd parts).2
  | alt branches => allEndAtTextEnd branches
  | _ => false

/-- Whether no part has a width, and whether one of those from the last that has one is tied to
the end. -/
def lastEndsAtTextEnd : List NormalForm → Bool × Bool
  | [] => (true, false)
  | a :: r =>
    let (narrow, tied) := lastEndsAtTextEnd r
    (narrow && a.isZeroWidth, tied || (narrow && a.endsAtTextEnd))

/-- Whether all branches are tied to the end. -/
def allEndAtTextEnd : List NormalForm → Bool
  | [] => true
  | a :: r => a.endsAtTextEnd && allEndAtTextEnd r

end

/-! ## Comparison -/

mutual

/-- Whether two forms are the same.  Two groups that capture are different groups. -/
def same : NormalForm → NormalForm → Bool
  | empty, empty => true
  | literal t, literal u => t == u
  | chars s, chars t => s == t
  | anchor a, anchor b => a == b
  | times a min max greedy, times b min' max' greedy' =>
    min == min' && max == max' && greedy == greedy' && same a b
  | seq as, seq bs => allSame as bs
  | alt as, alt bs => allSame as bs
  | _, _ => false

/-- Whether two lists of forms are the same. -/
def allSame : List NormalForm → List NormalForm → Bool
  | [], [] => true
  | a :: as, b :: bs => same a b && allSame as bs
  | _, _ => false

end

/-! ## Building normal forms -/

/-- The form of a set: with one member it is a fixed text. -/
def ofSet (s : CharSet) : NormalForm :=
  match s.onlyMember? with
  | some c => literal [c]
  | none => chars s

/-- The parts of a sequence. -/
def parts : NormalForm → List NormalForm
  | empty => []
  | seq as => as
  | a => [a]

/-- The sequence of parts. -/
def ofParts : List NormalForm → NormalForm
  | [] => empty
  | [a] => a
  | as => seq as

/-- Parts in front of others; fixed texts that meet are joined. -/
def joinParts : List NormalForm → List NormalForm → List NormalForm
  | [], bs => bs
  | [literal t], literal u :: bs => literal (t ++ u) :: bs
  | a :: as, bs => a :: joinParts as bs

/-- One form after the other. -/
def andThen (a b : NormalForm) : NormalForm := ofParts (joinParts a.parts b.parts)

/-- Several forms one after the other. -/
def sequence (as : List NormalForm) : NormalForm := as.foldr andThen empty

/-- A form repeated.  Of what has no width, one repetition is as good as many. -/
def repeated (a : NormalForm) (min : Nat) (max : Option Nat) (greedy : Bool) : NormalForm :=
  let (min, max) :=
    if a.isZeroWidth then (Nat.min min 1, some ((max.map (Nat.min 1)).getD 1)) else (min, max)
  if min = 0 ∧ max = some 0 then empty
  else if min = 1 ∧ max = some 1 then a
  else times a min max greedy

/-- The branches of a choice. -/
def branches : NormalForm → List NormalForm
  | alt as => as
  | a => [a]

/-- The set of a form that is a single character. -/
def singleSet? : NormalForm → Option CharSet
  | literal [c] => some (CharSet.single c)
  | _ => none

/-- The set of a form that is a set. -/
def set? : NormalForm → Option CharSet
  | chars s => some s
  | _ => none

/-- The choice between branches, which is a set if all are characters or all are sets. -/
def choiceOf (as : List NormalForm) : NormalForm :=
  match as.flatMap branches with
  | [a] => a
  | as =>
    match (as.mapM singleSet?).or (as.mapM set?) with
    | some sets => ofSet (CharSet.unions sets)
    | none => alt as

/-- How many parts two lists have in common at their beginnings. -/
def commonParts : List NormalForm → List NormalForm → Nat
  | a :: as, b :: bs => if same a b then commonParts as bs + 1 else 0
  | _, _ => 0

/-- The parts of a form that is a sequence of several. -/
def seqParts? : NormalForm → Option (List NormalForm)
  | seq as => some as
  | _ => none

/-- The choice between branches, with a beginning that all have in common taken out. -/
def choice (as : List NormalForm) : NormalForm :=
  let as := as.flatMap branches
  match as, as.mapM seqParts? with
  | _ :: _ :: _, some (first :: rest) =>
    let n := (rest.map (commonParts first)).foldl Nat.min first.length
    if n = 0 then choiceOf as
    else
      sequence
        (first.take n ++ [choiceOf ((first :: rest).map fun ps => ofParts (ps.drop n))])
  | _, _ => choiceOf as

/-- The normal forms of the branches of an expression. -/
def branchesOf : Regex → List NormalForm
  | .empty => [empty]
  | .chars s => [ofSet s]
  | .anchor a => [anchor a]
  | .group capturing a =>
    [if capturing then capture (choice (branchesOf a)) else choice (branchesOf a)]
  | .times a min max greedy => [repeated (choice (branchesOf a)) min max greedy]
  | .seq a b => [andThen (choice (branchesOf a)) (choice (branchesOf b))]
  | .alt a b => choice (branchesOf a) :: branchesOf b

/-- The normal form of an expression. -/
def ofRegex (r : Regex) : NormalForm := choice (branchesOf r)

end NormalForm
end SlideDeck
