import SlideDeck.Document.Line
import Mathlib.Data.List.Basic

/-!
# Documents with one physical line per element

A line is well formed if it ends in a newline and has no other, and a document if all its lines
are.  That is what reading a text gives, and what writing it back relies on.

* `Text.line_induction` is induction along the lines of a text; `cutAfterNewlines_append` and
  `cutAfterNewlines_of_not_mem` say what cutting does in its two cases.
* `Document.wellFormed_ofText` — a text is read as a well-formed document.
* `Text.wellFormed_of_mem_cut` — a text that ends in a newline is cut into well-formed lines.
* `Document.count_newline_text` — a well-formed document has as many newlines as lines.
-/

set_option autoImplicit false

namespace SlideDeck

/-- A line that ends in a newline and has no other. -/
def Line.WellFormed (l : Line) : Prop := l.getLast? = some '\n' ∧ '\n' ∉ l.dropLast

instance (l : Line) : Decidable l.WellFormed := inferInstanceAs (Decidable (_ ∧ _))

/-- A document each of whose elements is one physical line. -/
def Document.WellFormed (d : Document) : Prop := ∀ l ∈ d, Line.WellFormed l

instance (d : Document) : Decidable d.WellFormed :=
  inferInstanceAs (Decidable (∀ l ∈ d, Line.WellFormed l))

theorem Line.wellFormed_append_newline {t : Text} (ht : '\n' ∉ t) :
    Line.WellFormed (t ++ ['\n']) := by
  refine ⟨List.getLast?_concat, ?_⟩
  rwa [List.dropLast_concat]

theorem Line.wellFormed_iff (l : Line) : l.WellFormed ↔ ∃ t, '\n' ∉ t ∧ l = t ++ ['\n'] := by
  constructor
  · rintro ⟨hlast, hrest⟩
    exact ⟨l.dropLast, hrest, (List.dropLast_append_getLast? '\n' hlast).symm⟩
  · rintro ⟨t, ht, rfl⟩
    exact wellFormed_append_newline ht

theorem Line.wellFormed_append {t : Text} {l : Line} (ht : '\n' ∉ t) (hl : l.WellFormed) :
    Line.WellFormed (t ++ l) := by
  obtain ⟨u, hu, rfl⟩ := (wellFormed_iff l).1 hl
  rw [← List.append_assoc]
  exact wellFormed_append_newline fun h => (List.mem_append.1 h).elim ht hu

/-- A front part of a well-formed line that does not reach its end has no newline. -/
theorem Line.wellFormed_of_append {t : Text} {l : Line} (h : Line.WellFormed (t ++ l))
    (ht : t.getLast? ≠ some '\n') : '\n' ∉ t ∧ l.WellFormed := by
  obtain ⟨u, hu, hul⟩ := (wellFormed_iff _).1 h
  rcases List.eq_nil_or_concat' l with rfl | ⟨r, c, rfl⟩
  · rw [List.append_nil] at hul
    rw [hul, List.getLast?_concat] at ht
    exact absurd rfl ht
  · rw [← List.append_assoc] at hul
    obtain ⟨rfl, hc⟩ := List.append_inj' hul rfl
    rw [hc]
    exact ⟨fun hn => hu (List.mem_append_left r hn),
      wellFormed_append_newline fun hn => hu (List.mem_append_right t hn)⟩

theorem Line.WellFormed.eq_nil_of_cons_newline {l : Line} (h : Line.WellFormed ('\n' :: l)) :
    l = [] := by
  by_contra hne
  rw [Line.WellFormed, List.dropLast_cons_of_ne_nil hne] at h
  exact h.2 (List.mem_cons_self ..)

theorem Line.terminate_concat (t : Text) : Line.terminate (t ++ ['\n']) = t ++ ['\n'] :=
  if_pos List.getLast?_concat

theorem Line.terminate_of_not_mem {t : Text} (ht : '\n' ∉ t) : Line.terminate t = t ++ ['\n'] :=
  if_neg fun h => ht (List.mem_of_getLast? h)

/-! ## Cutting a text after its newlines -/

namespace Text

/-- Induction along the lines of a text: it is a last line without newline, or a line with its
newline in front of more text. -/
theorem line_induction {motive : Text → Prop} (last : ∀ t, '\n' ∉ t → motive t)
    (line : ∀ t r, '\n' ∉ t → motive r → motive (t ++ '\n' :: r)) (s : Text) : motive s := by
  induction hn : s.length using Nat.strongRecOn generalizing s with
  | ind n ih =>
    by_cases h : '\n' ∈ s
    · obtain ⟨t, r, rfl, ht⟩ := List.eq_append_cons_of_mem h
      refine line t r ht (ih r.length ?_ r rfl)
      rw [← hn, List.length_append, List.length_cons]
      omega
    · exact last s h

theorem cutAfterNewlines_of_not_mem {t : Text} (ht : '\n' ∉ t) (hne : t ≠ []) :
    cutAfterNewlines t = [t] := by
  induction t with
  | nil => exact absurd rfl hne
  | cons c r ih =>
    obtain ⟨hc, hr⟩ := not_or.1 (mt List.mem_cons.2 ht)
    rw [cutAfterNewlines, if_neg (Ne.symm hc)]
    by_cases h : r = []
    · rw [h]
      rfl
    · rw [ih hr h]

theorem cutAfterNewlines_append {t : Text} (ht : '\n' ∉ t) (r : Text) :
    cutAfterNewlines (t ++ '\n' :: r) = (t ++ ['\n']) :: cutAfterNewlines r := by
  induction t with
  | nil => rw [List.nil_append, cutAfterNewlines, if_pos rfl, List.nil_append]
  | cons c t ih =>
    obtain ⟨hc, ht⟩ := not_or.1 (mt List.mem_cons.2 ht)
    rw [List.cons_append, cutAfterNewlines, if_neg (Ne.symm hc), ih ht, List.cons_append]

/-- A piece of a cut is a line, or the last one, which may lack its newline. -/
theorem terminate_wellFormed_of_mem_cut (s : Text) :
    ∀ p ∈ cutAfterNewlines s, Line.WellFormed (Line.terminate p) := by
  induction s using line_induction with
  | last t ht =>
    by_cases hne : t = []
    · rw [hne]
      exact List.forall_mem_nil _
    · rw [cutAfterNewlines_of_not_mem ht hne]
      intro p hp
      obtain rfl := List.mem_singleton.1 hp
      rw [Line.terminate_of_not_mem ht]
      exact Line.wellFormed_append_newline ht
  | line t r ht ih =>
    rw [cutAfterNewlines_append ht]
    refine List.forall_mem_cons.2 ⟨?_, ih⟩
    rw [Line.terminate_concat]
    exact Line.wellFormed_append_newline ht

theorem getLast?_append_cons_newline {t r : Text} (hr : r ≠ []) :
    (t ++ '\n' :: r).getLast? = r.getLast? := by
  rw [List.getLast?_append_of_ne_nil _ (List.cons_ne_nil _ r), List.getLast?_cons_of_ne_nil hr]

theorem wellFormed_of_mem_cut {s : Text} (hs : s.getLast? = some '\n') :
    ∀ p ∈ cutAfterNewlines s, Line.WellFormed p := by
  induction s using line_induction with
  | last t ht => exact absurd (List.mem_of_getLast? hs) ht
  | line t r ht ih =>
    rw [cutAfterNewlines_append ht]
    refine List.forall_mem_cons.2 ⟨Line.wellFormed_append_newline ht, ?_⟩
    by_cases hr : r = []
    · rw [hr]
      exact List.forall_mem_nil _
    · rw [getLast?_append_cons_newline hr] at hs
      exact ih hs

end Text

/-! ## Reading and writing a document -/

namespace Document

theorem wellFormed_ofText (s : Text) : (ofText s).WellFormed := by
  intro l hl
  obtain ⟨p, hp, rfl⟩ := List.mem_map.1 hl
  exact Text.terminate_wellFormed_of_mem_cut _ p hp

theorem count_newline_text {d : Document} (hd : d.WellFormed) :
    d.text.count '\n' = d.length := by
  induction d with
  | nil => rfl
  | cons l d ih =>
    obtain ⟨hl, hrest⟩ := List.forall_mem_cons.1 hd
    obtain ⟨t, ht, rfl⟩ := (Line.wellFormed_iff l).1 hl
    rw [text, List.flatten_cons, List.count_append, List.count_append,
      List.count_eq_zero_of_not_mem ht, ← text, ih hrest, List.count_singleton_self,
      List.length_cons]
    omega

end Document
end SlideDeck
