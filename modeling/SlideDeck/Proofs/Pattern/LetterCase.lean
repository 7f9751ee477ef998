import SlideDeck.Pattern.CharSet
import Mathlib.Data.List.Chain

/-!
# Letters up to case

A set of characters up to case is found in two passes over the table of foldings, one to what the
members fold to and one back to all that folds to that.  Two passes are enough, since what a
character is folded to is not folded further (`Unicode.fold_fold`).

* `CharSet.contains_anyCase`: the members are the characters that fold to the same as a member.
* `CharSet.contains_asciiAnyCase`: outside of Unicode mode they are those with the same small
  letter.
-/

set_option autoImplicit false

namespace SlideDeck

namespace Unicode

/-! ## Sets of numbers as bits

The table is too long to look up every target among the keys.  As the bits of two numbers the sets
are compared in one step. -/

/-- The numbers of a list as the bits of one number. -/
def bits (l : List Nat) : Nat := l.foldr (fun n b => b ||| 1 <<< n) 0

theorem testBit_bits (l : List Nat) (n : Nat) : (bits l).testBit n = decide (n ∈ l) := by
  induction l with
  | nil => simp [bits]
  | cons m l ih =>
    rw [bits, List.foldr_cons, ← bits, Nat.testBit_or, ih, Nat.one_shiftLeft, Nat.testBit_two_pow]
    simp [Bool.or_comm, eq_comm]

theorem not_mem_of_bits {l l' : List Nat} (h : bits l &&& bits l' = 0) {n : Nat} (hn : n ∈ l') :
    n ∉ l := by
  intro hl
  have hb : (bits l &&& bits l').testBit n = true := by
    rw [Nat.testBit_and, testBit_bits, testBit_bits, decide_eq_true hl, decide_eq_true hn]
    rfl
  rw [h, Nat.zero_testBit] at hb
  exact Bool.false_ne_true hb

/-! ## What a code point folds to -/

theorem ascending_foldPairs : foldPairs.Pairwise fun p q => p.1 < q.1 :=
  have : Trans (fun p q : Nat × Nat => p.1 < q.1) (fun p q : Nat × Nat => p.1 < q.1)
    (fun p q : Nat × Nat => p.1 < q.1) := ⟨Nat.lt_trans⟩
  List.isChain_iff_pairwise.1 (by decide +kernel)

/-- What a code point is folded to is not folded further. -/
theorem target_not_folded {p : Nat × Nat} (hp : p ∈ foldPairs) : p.2 ∉ foldPairs.map Prod.fst :=
  not_mem_of_bits (by decide +kernel) (List.mem_map_of_mem hp)

theorem lookup_eq_some_of_mem {l : List (Nat × Nat)} (h : l.Pairwise fun p q => p.1 < q.1)
    {n m : Nat} (hm : (n, m) ∈ l) : l.lookup n = some m := by
  induction l with
  | nil => nomatch hm
  | cons p l ih =>
    obtain ⟨hp, hl⟩ := List.pairwise_cons.1 h
    rcases List.mem_cons.1 hm with rfl | hm
    · exact List.lookup_cons_self
    · have hne : (n == p.1) = false := beq_eq_false_iff_ne.2 (Nat.ne_of_gt (hp _ hm))
      rw [List.lookup_cons, hne, ih hl hm]

theorem fold_eq_of_mem {n m : Nat} (h : (n, m) ∈ foldPairs) : fold n = m := by
  rw [fold, lookup_eq_some_of_mem ascending_foldPairs h, Option.getD_some]

/-- A code point is folded by the table or stays. -/
theorem mem_or_fold_eq (n : Nat) : (n, fold n) ∈ foldPairs ∨ fold n = n := by
  unfold fold
  cases h : foldPairs.lookup n with
  | none => exact .inr rfl
  | some m =>
    obtain ⟨front, rest, hl, -⟩ := List.lookup_eq_some_iff.1 h
    exact .inl (by simp [hl])

theorem fold_fold (n : Nat) : fold (fold n) = fold n := by
  rcases mem_or_fold_eq n with h | h
  · rcases mem_or_fold_eq (fold n) with h' | h'
    · exact absurd (List.mem_map_of_mem h') (target_not_folded h)
    · exact h'
  · rw [h, h]

/-! ## Sets up to case -/

theorem mem_unfoldPairs {n m : Nat} : (m, n) ∈ unfoldPairs ↔ (n, m) ∈ foldPairs := by
  rw [unfoldPairs, List.mem_mergeSort, List.mem_map]
  exact ⟨fun ⟨_, h, hs⟩ => by cases hs; exact h, fun h => ⟨(n, m), h, rfl⟩⟩

theorem ascending_unfoldPairs : unfoldPairs.Pairwise fun p q => p.1 ≤ q.1 := by
  have h : unfoldPairs.Pairwise fun p q => decide (p.1 ≤ q.1) = true :=
    List.pairwise_mergeSort (fun p q r => by simpa using Nat.le_trans)
      (fun p q => by simpa using Nat.le_total p.1 q.1) _
  exact h.imp of_decide_eq_true

/-- **Folding a set.**  What is in the set up to case folds to the same as something in the set. -/
theorem member_anyCase {l : List Nat} (hl : Ascends 0 l) (n : Nat) :
    member n (anyCase l) = true ↔ ∃ m, member m l = true ∧ fold m = fold n := by
  have hkeys := ascending_foldPairs.imp Nat.le_of_lt
  rw [anyCase, member_combine rfl (ascends_combine _ hl (ascends_ofPoints _)) (ascends_ofPoints _),
    Bool.or_eq_true, member_ofPoints_valuesAt ascending_unfoldPairs]
  simp only [member_combine (f := (· || ·)) rfl hl (ascends_ofPoints _), Bool.or_eq_true,
    member_ofPoints_valuesAt hkeys, mem_unfoldPairs]
  constructor
  · rintro ((h | ⟨m, hm, h⟩) | ⟨m, hm, h | ⟨k, hk, h⟩⟩)
    · exact ⟨n, h, rfl⟩
    · exact ⟨m, h, by rw [← fold_eq_of_mem hm, fold_fold]⟩
    · exact ⟨m, h, by rw [← fold_eq_of_mem hm, fold_fold]⟩
    · exact ⟨k, h, by rw [fold_eq_of_mem hk, fold_eq_of_mem hm]⟩
  · rintro ⟨m, h, hmn⟩
    -- whether the member changes, and whether the point in question does
    rcases mem_or_fold_eq m, mem_or_fold_eq n with ⟨hm | hm, hn | hn⟩
    · exact .inr ⟨fold n, hn, .inr ⟨m, hmn ▸ hm, h⟩⟩
    · exact .inl (.inr ⟨m, by rwa [hmn, hn] at hm, h⟩)
    · exact .inr ⟨fold n, hn, .inl (by rwa [← hmn, hm])⟩
    · exact .inl (.inl (by rwa [← hn, ← hmn, hm]))

/-- The foldings are among characters. -/
theorem isValidChar_of_mem {p : Nat × Nat} (hp : p ∈ foldPairs) :
    p.1.isValidChar ∧ p.2.isValidChar := by
  revert p
  decide +kernel

theorem isValidChar_fold_iff (n : Nat) : (fold n).isValidChar ↔ n.isValidChar := by
  rcases mem_or_fold_eq n with h | h
  · exact iff_of_true (isValidChar_of_mem h).2 (isValidChar_of_mem h).1
  · rw [h]

end Unicode

namespace CharSet

/-! ## Sets of characters -/

/-- **A set up to case** has the characters that fold to the same as one of its members. -/
theorem contains_anyCase (s : CharSet) (c : Char) :
    s.anyCase.contains c = true
      ↔ ∃ d, s.contains d = true ∧ Unicode.fold d.toNat = Unicode.fold c.toNat := by
  rw [contains, anyCase, Unicode.member_anyCase s.ascends]
  constructor
  · rintro ⟨m, hm, h⟩
    have hv : m.isValidChar := by
      rw [← Unicode.isValidChar_fold_iff, h, Unicode.isValidChar_fold_iff]
      exact c.valid
    exact ⟨Char.ofNatAux m hv, hm, h⟩
  · rintro ⟨d, hd, h⟩
    exact ⟨d.toNat, hd, h⟩

theorem mem_asciiCasePairs {n m : Nat} :
    (n, m) ∈ asciiCasePairs
      ↔ (65 ≤ n ∧ n ≤ 90 ∧ m = n + 32) ∨ (97 ≤ n ∧ n ≤ 122 ∧ n = m + 32) := by
  simp only [asciiCasePairs, List.mem_append, List.mem_map, List.mem_range, Prod.mk.injEq]
  constructor
  · rintro (⟨i, hi, rfl, rfl⟩ | ⟨i, hi, rfl, rfl⟩) <;> omega
  · rintro (h | h)
    · exact .inl ⟨n - 65, by omega⟩
    · exact .inr ⟨n - 97, by omega⟩

theorem toNat_toLower (c : Char) :
    c.toLower.toNat = if 65 ≤ c.toNat ∧ c.toNat ≤ 90 then c.toNat + 32 else c.toNat := by
  by_cases h : 65 ≤ c.toNat ∧ c.toNat ≤ 90
  · have hv : c.val ≥ 'A'.val ∧ c.val ≤ 'Z'.val := h
    have hlower : c.toLower.val = c.val + ('a'.val - 'A'.val) := congrArg Char.val (dif_pos hv)
    have hle : c.val.toNat ≤ 90 := h.2
    rw [if_pos h, Char.toNat, hlower]
    change (c.val.toNat + 32) % 4294967296 = c.val.toNat + 32
    omega
  · have hv : ¬ (c.val ≥ 'A'.val ∧ c.val ≤ 'Z'.val) := h
    have hlower : c.toLower = c := dif_neg hv
    rw [if_neg h, hlower]

theorem toLower_eq_iff (c d : Char) :
    c.toLower = d.toLower ↔ c = d ∨ (c.toNat, d.toNat) ∈ asciiCasePairs := by
  rw [← Char.toNat_inj, ← Char.toNat_inj, toNat_toLower, toNat_toLower, mem_asciiCasePairs]
  split <;> split <;> omega

/-- **A set up to the case of ASCII letters** has the characters with the same small letter as one
of its members. -/
theorem contains_asciiAnyCase (s : CharSet) (c : Char) :
    s.asciiAnyCase.contains c = true
      ↔ ∃ d, s.contains d = true ∧ d.toLower = c.toLower := by
  have hkeys : asciiCasePairs.Pairwise fun p q => p.1 ≤ q.1 := by decide
  rw [asciiAnyCase, contains_union, Bool.or_eq_true]
  simp only [contains, ofPoints, toLower_eq_iff, Unicode.member_ofPoints_valuesAt hkeys]
  constructor
  · rintro (h | ⟨k, hk, h⟩)
    · exact ⟨c, h, .inl rfl⟩
    · have hv : k.isValidChar := .inl (by have := mem_asciiCasePairs.1 hk; omega)
      exact ⟨Char.ofNatAux k hv, h, .inr hk⟩
  · rintro ⟨d, h, rfl | hd⟩
    · exact .inl h
    · exact .inr ⟨d.toNat, hd, h⟩

end CharSet
end SlideDeck
