import SlideDeck.Unicode.CaseFold
import SlideDeck.Unicode.Category

/-!
# Sets of characters

* `CharSet` is a set of characters as an inversion list, so that equal sets are equal.
* `CharSet.contains` is membership; `contains_union`, `contains_compl` and their like say what the
  operations do to it.
* `CharSet.digit`, `CharSet.space` and `CharSet.word` are the classes of the shorthands, and the
  ones with `ascii` in front their ASCII parts.
-/

set_option autoImplicit false

namespace SlideDeck

open Unicode (Ascends member combine ascends_combine member_combine)

/-- A set of characters, by the code points at which membership changes. -/
structure CharSet where
  bounds : List Nat
  ascends : Ascends 0 bounds
  deriving DecidableEq, Repr

namespace CharSet

/-- Membership. -/
def contains (s : CharSet) (c : Char) : Bool := member c.toNat s.bounds

/-! ## Operations -/

/-- The set without members. -/
def empty : CharSet := ⟨[], trivial⟩

/-- The set with one member. -/
def single (c : Char) : CharSet :=
  ⟨[c.toNat, c.toNat + 1], Nat.zero_le _, Nat.le_refl _, trivial⟩

/-- All characters: the code points that are not surrogates. -/
def all : CharSet := ⟨[0, 0xD800, 0xE000, 0x110000], by decide⟩

/-- The union of two sets. -/
def union (a b : CharSet) : CharSet :=
  ⟨combine (· || ·) false a.bounds false b.bounds, ascends_combine _ a.ascends b.ascends⟩

/-- The intersection of two sets. -/
def inter (a b : CharSet) : CharSet :=
  ⟨combine (· && ·) false a.bounds false b.bounds, ascends_combine _ a.ascends b.ascends⟩

/-- The members of the first set that are not in the second. -/
def diff (a b : CharSet) : CharSet :=
  ⟨combine (fun x y => x && !y) false a.bounds false b.bounds,
    ascends_combine _ a.ascends b.ascends⟩

/-- The members of either set that are not in both. -/
def symmDiff (a b : CharSet) : CharSet :=
  ⟨combine (· ^^ ·) false a.bounds false b.bounds, ascends_combine _ a.ascends b.ascends⟩

/-- The characters that are not in a set. -/
def compl (a : CharSet) : CharSet := diff all a

/-- The characters from the first to the last. -/
def range (first last : Char) : CharSet :=
  if h : first.toNat ≤ last.toNat then
    inter all ⟨[first.toNat, last.toNat + 1], Nat.zero_le _, Nat.succ_le_succ h, trivial⟩
  else empty

/-- The set with given bounds. -/
def ofBounds (bounds : List Nat) (h : Ascends 0 bounds := by decide +kernel) : CharSet :=
  ⟨bounds, h⟩

/-- The set of the characters with given code points. -/
def ofPoints (points : List Nat) : CharSet :=
  ⟨Unicode.ofPoints points, Unicode.ascends_ofPoints points⟩

/-- The union of several sets. -/
def unions : List CharSet → CharSet
  | [] => empty
  | [a] => a
  | a :: as => union a (unions as)

/-! ## Membership in the results -/

theorem contains_empty (c : Char) : empty.contains c = false := rfl

theorem contains_single (c d : Char) : (single c).contains d = decide (c = d) := by
  rw [Bool.eq_iff_iff, contains, single, Unicode.member_pair_iff, decide_eq_true_eq,
    ← Char.toNat_inj]
  omega

theorem contains_all (c : Char) : all.contains c = true := by
  have h := c.valid
  simp only [UInt32.isValidChar, Nat.isValidChar, ← Char.toNat.eq_def] at h
  simp only [contains, all, Unicode.member_cons, Unicode.member_nil]
  rcases h with h | h
  · simp [h]
  · have h1 : ¬ c.toNat < 0xD800 := by omega
    have h2 : ¬ c.toNat < 0xE000 := by omega
    simp [h1, h2, h.2]

theorem contains_union (a b : CharSet) (c : Char) :
    (a.union b).contains c = (a.contains c || b.contains c) :=
  member_combine rfl a.ascends b.ascends c.toNat

theorem contains_inter (a b : CharSet) (c : Char) :
    (a.inter b).contains c = (a.contains c && b.contains c) :=
  member_combine rfl a.ascends b.ascends c.toNat

theorem contains_diff (a b : CharSet) (c : Char) :
    (a.diff b).contains c = (a.contains c && !b.contains c) :=
  member_combine (f := fun x y => x && !y) rfl a.ascends b.ascends c.toNat

theorem contains_symmDiff (a b : CharSet) (c : Char) :
    (a.symmDiff b).contains c = (a.contains c ^^ b.contains c) :=
  member_combine rfl a.ascends b.ascends c.toNat

theorem contains_compl (a : CharSet) (c : Char) : a.compl.contains c = !a.contains c := by
  rw [compl, contains_diff, contains_all, Bool.true_and]

theorem contains_range {first last : Char} (h : first ≤ last) (c : Char) :
    (range first last).contains c = (decide (first ≤ c) && decide (c ≤ last)) := by
  have hn : first.toNat ≤ last.toNat := h
  rw [range, dif_pos hn, contains_inter, contains_all, Bool.true_and, Bool.eq_iff_iff, contains,
    Unicode.member_pair_iff, Bool.and_eq_true, decide_eq_true_eq, decide_eq_true_eq]
  exact and_congr Iff.rfl Nat.lt_succ_iff

/-! ## Case -/

/-- The characters that are in the set up to case. -/
def anyCase (s : CharSet) : CharSet :=
  ⟨Unicode.anyCase s.bounds, Unicode.ascends_anyCase s.ascends⟩

/-- The code points of the ASCII letters, each with that of the same letter in the other case. -/
def asciiCasePairs : List (Nat × Nat) :=
  ((List.range 26).map fun i => (i + 65, i + 97)) ++ (List.range 26).map fun i => (i + 97, i + 65)

/-- The characters that are in the set up to the case of ASCII letters. -/
def asciiAnyCase (s : CharSet) : CharSet :=
  s.union (ofPoints (Unicode.valuesAt false s.bounds asciiCasePairs))

/-! ## Extent -/

/-- The intervals of code points that a list of bounds describes: first and last points. -/
def intervalsOf : List Nat → List (Nat × Nat)
  | first :: stop :: rest => (first, stop - 1) :: intervalsOf rest
  | _ => []

/-- The intervals of code points that make up the set. -/
def intervals (s : CharSet) : List (Nat × Nat) := intervalsOf s.bounds

/-- The only member of a set with a single member. -/
def onlyMember? (s : CharSet) : Option Char :=
  match s.bounds with
  | [first, stop] => if stop = first + 1 then some (Char.ofNat first) else none
  | _ => none

/-- Whether all members are ASCII characters. -/
def isAscii (s : CharSet) : Bool := s.bounds.all (· ≤ 128)

/-! ## ASCII classes -/

/-- The ASCII digits. -/
def asciiDigit : CharSet := range '0' '9'

/-- The ASCII capitals. -/
def asciiUpper : CharSet := range 'A' 'Z'

/-- The ASCII small letters. -/
def asciiLower : CharSet := range 'a' 'z'

/-- The ASCII letters. -/
def asciiAlpha : CharSet := union asciiUpper asciiLower

/-- The ASCII letters and digits. -/
def asciiAlnum : CharSet := union asciiDigit asciiAlpha

/-- The ASCII characters of words. -/
def asciiWord : CharSet := union asciiAlnum (single '_')

/-- The ASCII white space. -/
def asciiSpace : CharSet := union (range '\t' '\r') (single ' ')

/-- The ASCII classes that have a name of their own. -/
def ascii? (name : List Char) : Option CharSet :=
  [("alnum".toList, asciiAlnum),
    ("alpha".toList, asciiAlpha),
    ("ascii".toList, range '\x00' '\x7f'),
    ("blank".toList, union (single '\t') (single ' ')),
    ("cntrl".toList, union (range '\x00' '\x1f') (single '\x7f')),
    ("digit".toList, asciiDigit),
    ("graph".toList, range '!' '~'),
    ("lower".toList, asciiLower),
    ("print".toList, range ' ' '~'),
    ("punct".toList,
      unions [range '!' '/', range ':' '@', range '[' '\x60', range '\x7b' '~']),
    ("space".toList, asciiSpace),
    ("upper".toList, asciiUpper),
    ("word".toList, asciiWord),
    ("xdigit".toList, unions [asciiDigit, range 'A' 'F', range 'a' 'f'])].lookup name

/-! ## Classes of the shorthands -/

open Unicode (Category)

/-- The characters of several general categories. -/
def ofCategories (gs : List Category) : CharSet :=
  unions (gs.map fun g => ⟨g.settled, g.ascends_settled⟩)

/-- The decimal digits. -/
def digit : CharSet := ofCategories [.decimalNumber]

/-- The white space. -/
def space : CharSet := ofBounds Unicode.Table.whiteSpace

/-- The latest characters, which version 16 of the standard had not. -/
def recent : CharSet := ofBounds Unicode.Table.recent

/-- The alphabetic characters that are neither letters nor letter-like numbers. -/
def otherAlphabetic : CharSet :=
  diff (ofBounds Unicode.Table.otherAlphabetic) recent

/-- The characters of words: those that are alphabetic, a mark, a decimal digit, a connector or a
join control. -/
def word : CharSet :=
  unions [ofCategories (Category.letters ++ Category.marks ++ [.decimalNumber, .letterNumber]),
    ofCategories [.connectorPunctuation], otherAlphabetic, range '\u200c' '\u200d']

end CharSet
end SlideDeck
