import SlideDeck.Proofs.Pipeline.ColumnPairs
import SlideDeck.Proofs.Slide.LooseLists

/-!
# Lists that are revealed item by item

A list that is shown one item at a time has pauses between its items, and blank lines beside the
pauses.  Two rules work together to make it one list again: the first one drops the pauses that
stand next to an item, the second one drops a blank line that is then alone between two items.
Each gap is judged by itself, because an item on either side is all that the two rules see of the
rest.

* `convertPausesAfter_gap` — what the first rule leaves of a gap: only the pauses at its ends go.
* `compactLists_item_gap` — what the second rule leaves of that: nothing, if it is `tight`.
* `ListStep` — an item with the gap in front of it; `compactLists_steps_iff` joins the steps.
* `Pipeline.lines_runStages_incremental` — the items alone are left exactly if every gap is one of
  `joiningGaps`.
-/

set_option autoImplicit false

namespace SlideDeck
namespace Reveal

/-! ## Gaps between items -/

/-- What a line between two items is there for. -/
inductive Mark where
  /-- It reveals what follows. -/
  | pause
  /-- It is blank. -/
  | blank
  deriving DecidableEq, Repr

/-- The mark that a pause or a blank line is. -/
def Mark.ofLine (l : Line) : Mark := if isPause l then .pause else .blank

/-- The gaps that do not keep the items around them apart. -/
def joiningGaps : List (List Mark) :=
  [[], [.pause], [.pause, .blank], [.blank, .pause], [.pause, .pause], [.blank],
    [.pause, .blank, .pause]]

/-- A list item, and the pauses and blank lines between the item before and it. -/
structure ListStep where
  gap : Document
  item : Line
  isPause_or_isBlank : ∀ l ∈ gap, isPause l = true ∨ Text.isBlank l = true
  isListItem_item : item.isListItem = true

namespace ListStep

/-- The lines of a step. -/
def lines (s : ListStep) : Document := s.gap ++ [s.item]

/-- The gap of a step, mark by mark. -/
def marks (s : ListStep) : List Mark := s.gap.map Mark.ofLine

end ListStep

theorem not_isBlank_of_isPause {l : Line} (h : isPause l = true) : Text.isBlank l = false := by
  rw [isPause, Line.trimsTo_iff] at h
  rw [Line.isBlank_eq_trimsTo, Line.trimsTo, h]
  decide

theorem isBlank_eq_not_isPause {l : Line} (h : isPause l = true ∨ Text.isBlank l = true) :
    Text.isBlank l = !isPause l := by
  cases hpause : isPause l with
  | false => exact h.resolve_left (by rw [hpause]; decide)
  | true => exact not_isBlank_of_isPause hpause

theorem isGap_of_isPause_or_isBlank {l : Line} (h : isPause l = true ∨ Text.isBlank l = true) :
    Layout.isGap l = true := by
  rw [Layout.isGap]
  rcases h with h | h
  · rw [isPause] at h
    rw [h]
    rfl
  · rw [h, Bool.or_true]

theorem not_isPause_of_isListItem {l : Line} (h : l.isListItem = true) : isPause l = false := by
  rw [Bool.eq_false_iff, Ne]
  intro hpause
  rw [Layout.not_isListItem_of_isGap (isGap_of_isPause_or_isBlank (Or.inl hpause))] at h
  exact absurd h (by decide)

/-! ## What the first rule leaves of a gap -/

/-- Whether the second rule drops what is left of a gap. -/
def tight : Document → Bool
  | [] => true
  | [b] => Text.isBlank b
  | _ :: _ :: _ => false

theorem tight_iff (gap : Document) :
    tight gap = true ↔ gap.map Text.isBlank = [] ∨ gap.map Text.isBlank = [true] := by
  rcases gap with _ | ⟨b, _ | ⟨c, gap⟩⟩ <;> simp [tight]

/-- What is left of a line next to an item. -/
def unlessPause (l : Line) : Document := if isPause l then [] else [l]

theorem isGap_of_mem_unlessPause {l : Line} (h : isPause l = true ∨ Text.isBlank l = true) :
    ∀ k ∈ unlessPause l, Layout.isGap k = true := by
  rw [unlessPause]
  split
  · exact List.forall_mem_nil _
  · exact List.forall_mem_singleton.2 (isGap_of_isPause_or_isBlank h)

/-- Next to an item a pause is dropped. -/
theorem convertPausesAfter_beside_item {previous l : Line} {d : Document}
    (h : previous.isListItem = true ∨ (d.headD []).isListItem = true) :
    convertPausesAfter previous (l :: d) = unlessPause l ++ convertPausesAfter l d := by
  rw [convertPausesAfter, convertPause, (Bool.or_eq_true ..).mpr h, if_pos rfl]
  rfl

/-- Away from items a pause stays in some form. -/
theorem exists_convertPause_eq {previous l next : Line} (hprevious : previous.isListItem = false)
    (hnext : next.isListItem = false) (hl : Layout.isGap l = true) :
    ∃ k, convertPause previous l next = [k] ∧ Layout.isGap k = true
      ∧ Text.isBlank k = Text.isBlank l := by
  rw [convertPause, hprevious, hnext]
  split
  · next hpause =>
    rw [Bool.or_false, if_neg Bool.false_ne_true]
    split
    · exact ⟨pauseLine, rfl, by decide, by rw [not_isBlank_of_isPause hpause]; decide⟩
    · exact ⟨l, rfl, hl, rfl⟩
  · exact ⟨l, rfl, hl, rfl⟩

/-- Lines inside of a gap are kept one by one. -/
theorem exists_convertPausesAfter_inside {previous z : Line} {inner : Document}
    (hprevious : previous.isListItem = false) (hinner : ∀ l ∈ inner, Layout.isGap l = true)
    (hz : z.isListItem = false) (d : Document) :
    ∃ kept, convertPausesAfter previous (inner ++ z :: d)
        = kept ++ convertPausesAfter (inner.getLastD previous) (z :: d)
      ∧ (∀ l ∈ kept, Layout.isGap l = true) ∧ kept.map Text.isBlank = inner.map Text.isBlank := by
  induction inner generalizing previous with
  | nil => exact ⟨[], rfl, List.forall_mem_nil _, rfl⟩
  | cons y inner ih =>
    obtain ⟨hy, hinner⟩ := List.forall_mem_cons.1 hinner
    have hnext : ((inner ++ z :: d).headD []).isListItem = false := by
      cases inner with
      | nil => exact hz
      | cons w inner => exact Layout.not_isListItem_of_isGap (hinner w (List.mem_cons_self ..))
    obtain ⟨k, hk, hgap, hblank⟩ := exists_convertPause_eq hprevious hnext hy
    obtain ⟨kept, hkept, hgaps, hblanks⟩ := ih (Layout.not_isListItem_of_isGap hy) hinner
    refine ⟨k :: kept, ?_, List.forall_mem_cons.2 ⟨hgap, hgaps⟩, ?_⟩
    · rw [List.cons_append, convertPausesAfter, hk, hkept, List.getLastD_cons]
      rfl
    · rw [List.map_cons, hblank, hblanks, List.map_cons]

/-- A gap whose ends lose their pauses while its inside is kept is tight exactly if it is a joining
gap. -/
theorem tight_ends_iff {x z : Line} {inner kept : Document}
    (hgap : ∀ l ∈ x :: (inner ++ [z]), isPause l = true ∨ Text.isBlank l = true)
    (hkept : kept.map Text.isBlank = inner.map Text.isBlank) :
    tight (unlessPause x ++ (kept ++ unlessPause z)) = true
      ↔ (x :: (inner ++ [z])).map Mark.ofLine ∈ joiningGaps := by
  have hblank : ∀ l ∈ x :: (inner ++ [z]), Text.isBlank l = !isPause l :=
    fun l hl => isBlank_eq_not_isPause (hgap l hl)
  have hx := hblank x (by simp)
  have hz := hblank z (by simp)
  rw [tight_iff, List.map_append, List.map_append, hkept, unlessPause, unlessPause]
  -- with two lines inside, two lines are left; up to one, each line is a pause or blank
  rcases inner with _ | ⟨y, _ | ⟨y', inner⟩⟩
  · cases hpause : isPause x <;> cases hpause' : isPause z <;>
      simp [Mark.ofLine, joiningGaps, hpause, hpause', hx, hz]
  · have hy := hblank y (by simp)
    cases hpause : isPause x <;> cases hpause' : isPause z <;> cases hpause'' : isPause y <;>
      simp [Mark.ofLine, joiningGaps, hpause, hpause', hpause'', hx, hy, hz]
  · cases hpause : isPause x <;> simp [joiningGaps]

/-- **What the first rule leaves of a gap** is tight exactly for the joining gaps. -/
theorem convertPausesAfter_gap {a c : Line} {gap : Document} (ha : a.isListItem = true)
    (hgap : ∀ l ∈ gap, isPause l = true ∨ Text.isBlank l = true) (hc : c.isListItem = true)
    (d : Document) :
    ∃ left, convertPausesAfter a (gap ++ c :: d) = left ++ c :: convertPausesAfter c d
      ∧ (∀ l ∈ left, Layout.isGap l = true)
      ∧ (tight left = true ↔ gap.map Mark.ofLine ∈ joiningGaps) := by
  have hitem : ∀ previous, convertPausesAfter previous (c :: d) = c :: convertPausesAfter c d :=
    fun previous => convertPausesAfter_cons (not_isPause_of_isListItem hc) previous d
  rcases gap with _ | ⟨x, rest⟩
  · exact ⟨[], hitem a, List.forall_mem_nil _, by decide⟩
  obtain ⟨hx, hrest⟩ := List.forall_mem_cons.1 hgap
  rcases List.eq_nil_or_concat' rest with rfl | ⟨inner, z, rfl⟩
  · refine ⟨unlessPause x, ?_, isGap_of_mem_unlessPause hx, ?_⟩
    · rw [List.singleton_append, convertPausesAfter_beside_item (Or.inl ha), hitem]
    · have hblank := isBlank_eq_not_isPause hx
      cases hpause : isPause x <;>
        simp [unlessPause, tight, Mark.ofLine, joiningGaps, hpause, hblank]
  · obtain ⟨hinner, hz⟩ := List.forall_mem_append.1 hrest
    have hz := hz z (List.mem_singleton_self z)
    have hgaps : ∀ l ∈ inner, Layout.isGap l = true :=
      fun l hl => isGap_of_isPause_or_isBlank (hinner l hl)
    have hnot : ∀ {l}, isPause l = true ∨ Text.isBlank l = true → l.isListItem = false :=
      fun h => Layout.not_isListItem_of_isGap (isGap_of_isPause_or_isBlank h)
    obtain ⟨kept, hkept, hkeptGap, hblanks⟩ :=
      exists_convertPausesAfter_inside (hnot hx) hgaps (hnot hz) (c :: d)
    refine ⟨unlessPause x ++ (kept ++ unlessPause z), ?_, ?_, tight_ends_iff hgap hblanks⟩
    · rw [List.cons_append, List.append_assoc, List.singleton_append,
        convertPausesAfter_beside_item (Or.inl ha), hkept,
        convertPausesAfter_beside_item (d := c :: d) (Or.inr hc), hitem]
      simp only [List.append_assoc]
    · exact List.forall_mem_append.2 ⟨isGap_of_mem_unlessPause hx,
        List.forall_mem_append.2 ⟨hkeptGap, isGap_of_mem_unlessPause hz⟩⟩

/-! ## What the second rule leaves -/

theorem compactLists_item_gap {a c : Line} {gap : Document} (ha : a.isListItem = true)
    (hgap : ∀ g ∈ gap, Layout.isGap g = true) (hc : c.isListItem = true) (d : Document) :
    compactLists (a :: (gap ++ c :: d))
      = a :: ((if tight gap then [] else gap) ++ compactLists (c :: d)) := by
  match gap with
  | [] => exact compactLists_cons_of_not_blank (Line.not_isBlank_of_isListItem hc) a d
  | [b] =>
    have hb := hgap b (List.mem_singleton_self b)
    rw [List.singleton_append, compactLists, ha, hc, Bool.true_and, Bool.and_true, tight]
    split
    · rfl
    · rw [compactLists_cons (Layout.not_isListItem_of_isGap hb)]
      rfl
  | b :: b' :: gap =>
    have hb' := hgap b' (List.mem_cons_of_mem b (List.mem_cons_self ..))
    have hrest := compactLists_gap_append hgap (c :: d)
    rw [List.cons_append, List.cons_append] at hrest ⊢
    rw [compactLists, Layout.not_isListItem_of_isGap hb', Bool.and_false, if_neg (by decide), hrest]
    rfl

/-! ## Step by step -/

/-- **The items of a list come together** exactly if every gap is a joining one. -/
theorem compactLists_steps_iff {first : Line} (hfirst : first.isListItem = true)
    (steps : List ListStep) :
    compactLists (first :: convertPausesAfter first (steps.flatMap ListStep.lines))
        = first :: steps.map ListStep.item
      ↔ ∀ s ∈ steps, s.marks ∈ joiningGaps := by
  induction steps generalizing first with
  | nil => simp [convertPausesAfter, compactLists]
  | cons s steps ih =>
    obtain ⟨left, hleft, hgap, htight⟩ := convertPausesAfter_gap hfirst s.isPause_or_isBlank
      s.isListItem_item (steps.flatMap ListStep.lines)
    have hlines : (s :: steps).flatMap ListStep.lines
        = s.gap ++ s.item :: steps.flatMap ListStep.lines := by
      rw [List.flatMap_cons, ListStep.lines, List.append_assoc, List.singleton_append]
    rw [hlines, hleft, compactLists_item_gap hfirst hgap s.isListItem_item, List.map_cons,
      List.forall_mem_cons, ← ih s.isListItem_item, ListStep.marks, ← htight,
      List.cons_inj_right]
    cases ht : tight left with
    | true =>
      rw [if_pos rfl, List.nil_append]
      exact (and_iff_right rfl).symm
    | false =>
      -- a gap that is left starts with a line that is no item
      rw [if_neg Bool.false_ne_true]
      refine iff_of_false (fun heq => ?_) fun h => absurd h.1 Bool.false_ne_true
      cases left with
      | nil => cases ht
      | cons g left =>
        have hitem := Layout.not_isListItem_of_isGap (hgap g (List.mem_cons_self ..))
        rw [(List.cons.inj heq).1, s.isListItem_item] at hitem
        cases hitem

end Reveal

/-- **Incremental lists become one list.**  Of a list whose items have pauses and blank lines
between them the two rules leave the items alone, as they are and in order, exactly if each gap is
empty, a pause, a blank line, a pause and a blank line in either order, two pauses, or a blank line
between two pauses. -/
theorem Pipeline.lines_runStages_incremental (config : Config) {first : Line}
    (hfirst : first.isListItem = true) (steps : List Reveal.ListStep) :
    (runStages config [.pauses, .compactLists]
        (first :: steps.flatMap Reveal.ListStep.lines)).lines
        = first :: steps.map Reveal.ListStep.item
      ↔ ∀ s ∈ steps, s.marks ∈ Reveal.joiningGaps := by
  have hpauses : Reveal.convertPauses (first :: steps.flatMap Reveal.ListStep.lines)
      = first :: Reveal.convertPausesAfter first (steps.flatMap Reveal.ListStep.lines) :=
    Reveal.convertPausesAfter_cons (Reveal.not_isPause_of_isListItem hfirst) [] _
  show Reveal.compactLists (Reveal.convertPauses _) = _ ↔ _
  rw [hpauses]
  exact Reveal.compactLists_steps_iff hfirst steps

/-- Every joining gap in one list, with items of all three kinds, indented and not, and white space
around the pauses. -/
theorem Pipeline.lines_runStages_incremental_mixed :
    Line.isListItem "- a\n".toList = true
      ∧ (runStages Config.default [.pauses, .compactLists]
          (["- a\n", "* b\n", "--\n", "1. c\n", "--\n", "\n", "  - d\n", "\n", " -- \n", "- e\n",
            "--\n", "--\n", "- f\n", " \n", "- g\n", "--\n", "\n", "--\n", "- h\n"].map
              String.toList)).lines
        = ["- a\n", "* b\n", "1. c\n", "  - d\n", "- e\n", "- f\n", "- g\n", "- h\n"].map
            String.toList := by
  have hitem : Line.isListItem "- a\n".toList = true := by decide
  have h := Pipeline.lines_runStages_incremental Config.default hitem
    [⟨[], "* b\n".toList, by decide, by decide⟩,
      ⟨["--\n".toList], "1. c\n".toList, by decide, by decide⟩,
      ⟨["--\n".toList, "\n".toList], "  - d\n".toList, by decide, by decide⟩,
      ⟨["\n".toList, " -- \n".toList], "- e\n".toList, by decide, by decide⟩,
      ⟨["--\n".toList, "--\n".toList], "- f\n".toList, by decide, by decide⟩,
      ⟨[" \n".toList], "- g\n".toList, by decide, by decide⟩,
      ⟨["--\n".toList, "\n".toList, "--\n".toList], "- h\n".toList, by decide, by decide⟩]
  exact ⟨hitem, h.2 (by decide)⟩

end SlideDeck
