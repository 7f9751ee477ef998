import SlideDeck.Config
import SlideDeck.Proofs.Text.Trim

/-!
# Where a fixed text matches

The built-in patterns are fixed texts, one of them tied to the start of the line.  Followed from a
set of positions, a fixed text reaches exactly the positions behind its occurrences, so asking for
a match is asking whether the line contains the text, or starts with it.

* `Regex.reach_literal` — the positions that a fixed text reaches.
* `Config.isMatch_defaultRemove` and `Config.isMatch_defaultComment` — what the built-in patterns
  pick out.
-/

set_option autoImplicit false

namespace SlideDeck

/-! ## Positions -/

namespace Positions

theorem any_iff (p : Positions) : p.any id = true ↔ ∃ j : Nat, p[j]? = some true := by
  rw [List.any_eq_true]
  constructor
  · rintro ⟨b, hb, rfl⟩
    exact List.mem_iff_getElem?.1 hb
  · rintro ⟨j, hj⟩
    exact ⟨true, List.mem_of_getElem? hj, rfl⟩

theorem mem_all_iff (s : Text) (i : Nat) : (all s)[i]? = some true ↔ i ≤ s.length := by
  rw [all, List.getElem?_replicate]
  split
  · next h => exact ⟨fun _ => Nat.le_of_lt_succ h, fun _ => rfl⟩
  · next h => exact ⟨fun h' => absurd h' (by decide), fun h' => absurd (Nat.lt_succ_of_le h') h⟩

theorem mem_first_iff (s : Text) (i : Nat) : (first s)[i]? = some true ↔ i = 0 := by
  cases i with
  | zero => exact ⟨fun _ => rfl, fun _ => rfl⟩
  | succ i =>
    rw [first, List.getElem?_cons_succ, List.getElem?_replicate]
    split
    · exact ⟨fun h => absurd h (by decide), fun h => absurd h (Nat.succ_ne_zero i)⟩
    · exact ⟨fun h => absurd h (by decide), fun h => absurd h (Nat.succ_ne_zero i)⟩

theorem mem_afterChar_iff (set : CharSet) (s : Text) (p : Positions) (j : Nat) :
    (afterChar set s p)[j]? = some true ↔
      ∃ i c, p[i]? = some true ∧ s[i]? = some c ∧ set.contains c = true ∧ j = i + 1 := by
  rw [afterChar]
  cases j with
  | zero => simp
  | succ j =>
    rw [List.getElem?_cons_succ, List.getElem?_zipWith]
    constructor
    · intro h
      split at h
      · next here c hhere hc =>
        rw [Option.some.injEq, Bool.and_eq_true] at h
        obtain ⟨rfl, hset⟩ := h
        exact ⟨j, c, hhere, hc, hset, rfl⟩
      · exact absurd h (by simp)
    · rintro ⟨i, c, hi, hc, hset, hj⟩
      obtain rfl := Nat.succ.inj hj
      rw [hi, hc]
      exact congrArg some hset

end Positions

/-! ## Fixed texts -/

theorem Text.cons_prefix_drop_iff (c : Char) (t s : Text) (i : Nat) :
    c :: t <+: s.drop i ↔ s[i]? = some c ∧ t <+: s.drop (i + 1) := by
  by_cases h : i < s.length
  · rw [List.drop_eq_getElem_cons h, List.cons_prefix_cons, List.getElem?_eq_getElem h,
      Option.some.injEq, eq_comm]
  · have hlen : s.length ≤ i := Nat.le_of_not_lt h
    rw [List.drop_eq_nil_of_le hlen, List.getElem?_eq_none hlen]
    simp

namespace Regex

open Config (literalRegex)

theorem reach_literal_cons (s : Text) (c : Char) (t : Text) (p : Positions) :
    (literalRegex (c :: t)).reach s p
      = (literalRegex t).reach s (Positions.afterChar (CharSet.single c) s p) := by
  cases t with
  | nil => rfl
  | cons d t => rfl

/-- A fixed text leads from a position to the one behind an occurrence of it there. -/
theorem reach_literal (s t : Text) (p : Positions) (j : Nat) :
    ((literalRegex t).reach s p)[j]? = some true ↔
      ∃ i, p[i]? = some true ∧ t <+: s.drop i ∧ j = i + t.length := by
  induction t generalizing p with
  | nil =>
    constructor
    · exact fun h => ⟨j, h, List.nil_prefix, rfl⟩
    · rintro ⟨i, hi, -, rfl⟩
      exact hi
  | cons c t ih =>
    rw [reach_literal_cons, ih]
    constructor
    · rintro ⟨k, hk, ht, rfl⟩
      obtain ⟨i, d, hi, hd, hcd, rfl⟩ := (Positions.mem_afterChar_iff _ s p k).1 hk
      rw [CharSet.contains_single, decide_eq_true_eq] at hcd
      rw [← hcd] at hd
      refine ⟨i, hi, (Text.cons_prefix_drop_iff c t s i).2 ⟨hd, ht⟩, ?_⟩
      rw [List.length_cons]
      omega
    · rintro ⟨i, hi, ht, rfl⟩
      obtain ⟨hc, ht⟩ := (Text.cons_prefix_drop_iff c t s i).1 ht
      have hsingle : (CharSet.single c).contains c = true := by
        rw [CharSet.contains_single, decide_eq_true_eq]
      refine ⟨i + 1, (Positions.mem_afterChar_iff _ s p _).2 ⟨i, c, hi, hc, hsingle, rfl⟩, ht, ?_⟩
      rw [List.length_cons]
      omega

theorem isMatch_literal (t s : Text) : (literalRegex t).isMatch s = s.contains t := by
  rw [Bool.eq_iff_iff, Text.contains_iff, isMatch, Positions.any_iff]
  constructor
  · rintro ⟨j, hj⟩
    obtain ⟨i, -, ht, -⟩ := (reach_literal s t _ j).1 hj
    exact ht.isInfix.trans (List.drop_suffix i s).isInfix
  · rintro ⟨a, b, rfl⟩
    refine ⟨a.length + t.length, (reach_literal _ t _ _).2 ⟨a.length, ?_, ?_, rfl⟩⟩
    · rw [Positions.mem_all_iff, List.append_assoc, List.length_append]
      exact Nat.le_add_right ..
    · rw [List.append_assoc, List.drop_left]
      exact List.prefix_append t b

theorem matchesAtStart_literal (t s : Text) :
    (literalRegex t).matchesAtStart s = s.startsWith t := by
  rw [Bool.eq_iff_iff, Text.startsWith_iff, matchesAtStart, Positions.any_iff]
  constructor
  · rintro ⟨j, hj⟩
    obtain ⟨i, hi, ht, -⟩ := (reach_literal s t _ j).1 hj
    obtain rfl := (Positions.mem_first_iff s i).1 hi
    exact ht
  · intro ht
    exact ⟨0 + t.length,
      (reach_literal s t _ _).2 ⟨0, (Positions.mem_first_iff s 0).2 rfl, ht, rfl⟩⟩

end Regex

/-! ## The built-in patterns -/

namespace Config

/-- **Lines to drop** are those that start with the name of the package. -/
theorem isMatch_defaultRemove (l : Line) :
    defaultRemove.isMatch l = Text.startsWith l "xaringanExtra::".toList := by
  rw [Pattern.isMatch, defaultRemove, Regex.isMatch_atTextStart]
  exact Regex.matchesAtStart_literal _ l

/-- **Lines to comment out** are those that contain the call that runs the tests. -/
theorem isMatch_defaultComment (l : Line) :
    defaultComment.isMatch l = Text.contains l "testthat::test_dir(\"tests\")".toList :=
  Regex.isMatch_literal _ l

end Config
end SlideDeck
