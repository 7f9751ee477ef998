import SlideDeck.Proofs.Document.Cursor
import SlideDeck.Proofs.Pipeline.Front

/-!
# Compact lists by their context

Lists are compacted in one pass that leaves lines out as it goes, but which lines it leaves out can
be told from the given document alone: those that are blank and stand alone between two list items.
The pass never leaves out two lines in a row, and what follows a line that is left out is an item,
so no decision hangs on an earlier one; and for the same reason none is left to be taken afterwards.

* `looseAt` — whether a line stands alone between two list items, by its index.
* `compactLists_eq_keptFrom` — the lines that are kept, from any line on that is kept itself.
* `not_looseAt_compactLists` and `compactLists_of_not_looseAt` — a compacted document has no such
  line, and a document without one is left as it is.
* `compactLists_by_context` — the rule by context, the form of what it returns, and that a second
  run changes nothing.
-/

set_option autoImplicit false

namespace SlideDeck

theorem Line.not_isListItem_of_isBlank {l : Line} (h : Text.isBlank l = true) :
    l.isListItem = false := by
  rw [isListItem, (Text.trim_eq_nil_iff l).2 h]
  rfl

theorem Line.not_isBlank_of_isListItem {l : Line} (h : l.isListItem = true) :
    Text.isBlank l = false := by
  rw [Bool.eq_false_iff, Ne]
  intro hblank
  rw [not_isListItem_of_isBlank hblank] at h
  exact absurd h (by decide)

namespace Reveal

/-- Whether the line with an index is blank and the lines with the next lower and the next higher
index are there and are list items. -/
def looseAt (d : Document) : Nat → Bool
  | 0 => false
  | i + 1 => d[i]?.any Line.isListItem && d[i + 1]?.any Text.isBlank && d[i + 2]?.any Line.isListItem

theorem looseAt_add_one (d : Document) (i : Nat) : looseAt d (i + 1) = looseAt (d.drop i) 1 := by
  simp only [looseAt, List.getElem?_drop, Nat.add_zero, Nat.zero_add]

theorem looseAt_of_not_blank {d r : Document} {l : Line} {i : Nat} (h : d.drop i = l :: r)
    (hl : Text.isBlank l = false) : looseAt d i = false := by
  cases i with
  | zero => rfl
  | succ i =>
    rw [looseAt, getElem?_of_drop h, Option.any_some, hl, Bool.and_false, Bool.false_and]

/-- The last line does not stand between two others. -/
theorem looseAt_of_last {d : Document} {i : Nat} (h : (d.drop i).length ≤ 1) :
    looseAt d i = false := by
  cases i with
  | zero => rfl
  | succ i =>
    rw [List.length_drop] at h
    rw [looseAt, List.getElem?_eq_none (i := i + 2) (by omega), Option.any_none, Bool.and_false]

/-- What the pass finds too short to look into has at most two lines. -/
theorem length_le_two {d : Document} (h : ∀ a b c r, d = a :: b :: c :: r → False) :
    d.length ≤ 2 := by
  rcases d with _ | ⟨a, _ | ⟨b, _ | ⟨c, r⟩⟩⟩
  · exact Nat.zero_le 2
  · exact Nat.le_succ 1
  · exact Nat.le_refl 2
  · exact absurd rfl (h a b c r)

theorem not_looseAt_of_length_le {d : Document} (h : d.length ≤ 2) : ∀ j, looseAt d j = false
  | 0 => rfl
  | j + 1 => looseAt_of_last (by rw [List.length_drop]; omega)

/-! ## The lines that are kept -/

/-- The lines of a part that has index `k` in a document, without those that stand alone between
two list items of that document. -/
def keptFrom (d : Document) (k : Nat) (s : Document) : Document :=
  ((s.zipIdx k).filter fun p => !looseAt d p.2).map Prod.fst

/-- A part of which no line stands alone is kept as it is. -/
theorem keptFrom_of_not_loose {d s : Document} {k : Nat}
    (h : ∀ i, i < s.length → looseAt d (k + i) = false) : keptFrom d k s = s := by
  have hall : ∀ p ∈ s.zipIdx k, (!looseAt d p.2) = true := by
    intro p hp
    have hkp := List.le_snd_of_mem_zipIdx hp
    have hps := List.snd_lt_add_of_mem_zipIdx hp
    have hline := h (p.2 - k) (by omega)
    rw [Nat.add_sub_cancel' hkp] at hline
    rw [hline]
    rfl
  rw [keptFrom, List.filter_eq_self.2 hall, List.zipIdx_map_fst]

theorem keptFrom_cons_of_loose {d : Document} {k : Nat} (hk : looseAt d k = true) (l : Line)
    (s : Document) : keptFrom d k (l :: s) = keptFrom d (k + 1) s := by
  rw [keptFrom, List.zipIdx_cons, List.filter_cons_of_neg (by simp [hk]), keptFrom]

theorem keptFrom_cons_of_not_loose {d : Document} {k : Nat} (hk : looseAt d k = false) (l : Line)
    (s : Document) : keptFrom d k (l :: s) = l :: keptFrom d (k + 1) s := by
  rw [keptFrom, List.zipIdx_cons, List.filter_cons_of_pos (by simp [hk]), List.map_cons, keptFrom]

/-- Compacting a part that starts with a line which is kept keeps what the context says. -/
theorem compactLists_eq_keptFrom {d s : Document} {k : Nat} (hs : d.drop k = s)
    (hk : looseAt d k = false) : compactLists s = keptFrom d k s := by
  induction s using compactLists.induct generalizing k with
  | case1 a b c s hloose ih =>
    have hb : looseAt d (k + 1) = true := by
      rw [looseAt_add_one, hs]
      exact hloose
    have hdrop : d.drop (k + 2) = c :: s := drop_succ_of_drop (drop_succ_of_drop hs)
    -- the item behind a line that is left out is kept, so the pass goes on as it began
    have hitem : c.isListItem = true := ((Bool.and_eq_true ..).mp hloose).2
    have hc : looseAt d (k + 2) = false :=
      looseAt_of_not_blank hdrop (Line.not_isBlank_of_isListItem hitem)
    rw [compactLists, if_pos hloose, ih hdrop hc, keptFrom_cons_of_not_loose hk,
      keptFrom_cons_of_loose hb]
  | case2 a b c s hloose ih =>
    have hdrop : d.drop (k + 1) = b :: c :: s := drop_succ_of_drop hs
    have hb : looseAt d (k + 1) = false := by
      rw [looseAt_add_one, hs]
      exact Bool.eq_false_iff.2 hloose
    rw [compactLists, if_neg hloose, ih hdrop hb, keptFrom_cons_of_not_loose hk]
  | case3 s hshort =>
    rw [compactLists, keptFrom_of_not_loose]
    · rintro (_ | i) hi
      · exact hk
      · have hlast : (d.drop (k + (i + 1))).length ≤ 1 := by
          have hlength := length_le_two hshort
          rw [← hs, List.length_drop] at hlength
          rw [List.length_drop]
          omega
        exact looseAt_of_last hlast
    · exact hshort

theorem compactLists_of_not_looseAt {d : Document} (h : ∀ j, looseAt d j = false) :
    compactLists d = d := by
  have hkept : compactLists d = keptFrom d 0 d := compactLists_eq_keptFrom rfl rfl
  rw [hkept, keptFrom_of_not_loose fun i _ => h (0 + i)]

/-! ## What is returned -/

theorem head?_compactLists (d : Document) : (compactLists d).head? = d.head? := by
  cases d using compactLists.fun_cases with
  | case1 a b c d hloose => rw [compactLists, if_pos hloose]; rfl
  | case2 a b c d hloose => rw [compactLists, if_neg hloose]; rfl
  | case3 d hshort => rw [compactLists]; exact hshort

theorem looseAt_cons_one (a b : Line) (d : Document) :
    looseAt (a :: b :: d) 1
      = (a.isListItem && Text.isBlank b && d.head?.any Line.isListItem) := by
  rw [List.head?_eq_getElem?]
  rfl

/-- A line in front adds one line that may stand alone, the one behind it. -/
theorem not_looseAt_cons {l : Line} {d : Document} (hd : ∀ j, looseAt d j = false)
    (hfirst : looseAt (l :: d) 1 = false) : ∀ j, looseAt (l :: d) j = false
  | 0 => rfl
  | 1 => hfirst
  | j + 2 => hd (j + 1)

/-- The second line of a compacted document does not stand alone if it did not before. -/
theorem not_looseAt_cons_compactLists {a b : Line} {d : Document}
    (h : looseAt (a :: b :: d) 1 = false) : looseAt (a :: compactLists (b :: d)) 1 = false := by
  cases hb : Text.isBlank b with
  | true =>
    rw [compactLists_cons (Line.not_isListItem_of_isBlank hb), looseAt_cons_one,
      head?_compactLists, ← looseAt_cons_one]
    exact h
  | false =>
    obtain ⟨s, hs⟩ := List.head?_eq_some_iff.1 (head?_compactLists (b :: d))
    rw [hs]
    exact looseAt_of_not_blank rfl hb

theorem not_looseAt_compactLists (d : Document) : ∀ j, looseAt (compactLists d) j = false := by
  induction d using compactLists.induct with
  | case1 a b c d hloose ih =>
    have hc : Text.isBlank c = false :=
      Line.not_isBlank_of_isListItem ((Bool.and_eq_true ..).mp hloose).2
    have hfirst : looseAt (a :: c :: d) 1 = false := looseAt_of_not_blank rfl hc
    rw [compactLists, if_pos hloose]
    exact not_looseAt_cons ih (not_looseAt_cons_compactLists hfirst)
  | case2 a b c d hloose ih =>
    have hfirst : looseAt (a :: b :: c :: d) 1 = false := Bool.eq_false_iff.2 hloose
    rw [compactLists, if_neg hloose]
    exact not_looseAt_cons ih (not_looseAt_cons_compactLists hfirst)
  | case3 d hshort =>
    rw [compactLists]
    · exact not_looseAt_of_length_le (length_le_two hshort)
    · exact hshort

/-- **Lists are compacted by context.**  A line is left out exactly if it is blank and the lines
before and behind it in the given document are list items; the others stay as they are, in order.
No line of the result stands alone between two list items, so a second run changes nothing. -/
theorem compactLists_by_context (d : Document) :
    compactLists d = (d.zipIdx.filter fun p => !looseAt d p.2).map Prod.fst
      ∧ (∀ j, looseAt (compactLists d) j = false)
      ∧ compactLists (compactLists d) = compactLists d :=
  ⟨compactLists_eq_keptFrom rfl rfl, not_looseAt_compactLists d,
    compactLists_of_not_looseAt (not_looseAt_compactLists d)⟩

end Reveal
end SlideDeck
