import SlideDeck.Proofs.Pipeline.ColumnPairs

/-!
# Layouts in their context

A layout with all its closing brackets is read in the same way whatever follows it, with one
exception: a left block looks past blank lines and pauses for its partner.  So a document can be
converted in parts, cut anywhere but inside of a block and in front of what a left block may still
take.

* `Layout.read_form_append` — a layout is read from each of its forms, whatever follows.
* `Layout.EndsInLeft` — the documents that end in a left block which still waits for its partner.
* `Layout.convert_append` — a document that misses no bracket is converted apart from what follows.
* `Layout.convert_in_context` — the three layouts with anything before and behind them.
-/

set_option autoImplicit false

namespace SlideDeck

namespace Layout

/-! ## Reading a layout whatever follows it -/

theorem not_isLeft_of_isRight {l : Line} (h : isRight l = true) : isLeft l = false := by
  rw [isRight, Bool.or_eq_true, Line.trimsTo_iff, Line.trimsTo_iff] at h
  rw [isLeft, Line.trimsTo, Line.trimsTo]
  rcases h with h | h <;> rw [h] <;> decide

theorem read_cons_eq_none_iff (l : Line) (d : Document) :
    read (l :: d) = none ↔ isLeft l = false ∧ isRight l = false := by
  refine ⟨fun h => ?_, fun h => read_of_not_opener h.1 h.2 d⟩
  rw [read] at h
  split at h
  · cases h
  · next hl =>
    split at h
    · cases h
    · next hr => exact ⟨Bool.eq_false_iff.2 hl, Bool.eq_false_iff.2 hr⟩

/-- **A layout with all its brackets is read whatever follows it**, unless a left block takes what
follows for its gap or its partner. -/
theorem read_form_append {front : Document} {b : Layout} (h : Form front b) (hb : lacks b = 0)
    {e : Document} (he : b.Ends e) : recogniser.read (front ++ e) = some (b, e) := by
  show read (front ++ e) = some (b, e)
  cases h with
  | @pair l c r left gap right hl hleft hc hgap hr hright =>
    have hclosed : right.closed = true := by
      cases hright' : right.closed with
      | true => rfl
      | false => simp [lacks, Body.toColumn, hright'] at hb
    have hback : ∀ m ∈ (r :: (right.source ++ e)).head?, isGap m = false := by
      intro m hm
      obtain rfl := Option.some.inj hm
      exact (isBorder_of_isRight hr).gap
    simp only [List.cons_append, List.append_assoc]
    rw [read, if_pos hl, Body.read_append_cons hleft hc]
    dsimp only
    rw [readAfterLeft_gap_append _ _ hgap hback, readBehindGap, if_pos hr,
      hright.read_source_append hclosed]
    rfl
  | @loneLeft l c left gap hl hleft hc hgap =>
    have hback : ∀ m ∈ e.head?, isGap m = false := fun m hm => (he m hm).1
    simp only [List.cons_append, List.append_assoc]
    rw [read, if_pos hl, Body.read_append_cons hleft hc]
    dsimp only
    rw [readAfterLeft_gap_append _ _ hgap hback]
    cases e with
    | nil => rfl
    | cons m e => rw [readBehindGap, if_neg (Bool.eq_false_iff.1 (he m rfl).2)]; rfl
  | openLeft hl hleft => simp [lacks] at hb
  | @loneRight r right hr hright =>
    have hclosed : right.closed = true := by
      cases hright' : right.closed with
      | true => rfl
      | false => simp [lacks, Body.toColumn, hright'] at hb
    rw [List.cons_append, read, if_neg (Bool.eq_false_iff.1 (not_isLeft_of_isRight hr)), if_pos hr,
      hright.read_source_append hclosed]
    rfl

theorem convert_form_append {front : Document} {b : Layout} (h : Form front b) (hb : lacks b = 0)
    {e : Document} (he : b.Ends e) : convert (front ++ e) = render b ++ convert e :=
  recogniser.rewrite_of_some render (read_form_append h hb he)

/-! ## Converting in parts -/

/-- A document without warnings lacks no closing bracket. -/
theorem warnings_events_eq_nil_iff (d : Document) :
    Event.warnings (events d) = [] ↔ recogniser.missing lacks d = 0 := by
  rw [← length_warnings_events, List.length_eq_zero_iff]

/-- The documents that end in a left block with nothing but blank lines and pauses behind it.  The
block stands by itself, not inside of another one: what is before it lacks no bracket. -/
def EndsInLeft (d : Document) : Prop :=
  ∃ before block left, d = before ++ block ∧ Event.warnings (events before) = []
    ∧ Form block (.loneLeft ⟨left, true⟩)

theorem EndsInLeft.cons {l : Line} {d : Document} (hl : isLeft l = false) (hr : isRight l = false)
    (h : EndsInLeft d) : EndsInLeft (l :: d) := by
  obtain ⟨before, block, left, rfl, hbefore, hblock⟩ := h
  refine ⟨l :: before, block, left, rfl, ?_, hblock⟩
  rw [warnings_events_eq_nil_iff] at hbefore ⊢
  rwa [recogniser.missing_cons_of_none lacks (read_of_not_opener hl hr before)]

/-- A block in front does not change how a document ends. -/
theorem EndsInLeft.append {front r : Document} {b : Layout} (hform : Form front b)
    (hb : lacks b = 0) (hends : b.Ends r) (h : EndsInLeft r) : EndsInLeft (front ++ r) := by
  obtain ⟨before, block, left, rfl, hbefore, hblock⟩ := h
  have hends' : b.Ends before := by
    cases b with
    | pair | loneRight => trivial
    | loneLeft =>
      intro l hl
      refine hends l ?_
      rw [List.head?_append, hl, Option.some_or]
      exact rfl
  refine ⟨front ++ before, block, left, (List.append_assoc ..).symm, ?_, hblock⟩
  rw [warnings_events_eq_nil_iff] at hbefore ⊢
  rw [recogniser.missing_of_some lacks (read_form_append hform hb hends'), hb, hbefore]

/-- A last line that is text shows that no left block is waiting. -/
theorem EndsInLeft.isGap_or_isClose {d : Document} (h : EndsInLeft d) :
    ∀ l ∈ d.getLast?, isGap l = true ∨ isClose l = true := by
  obtain ⟨before, block, left, rfl, -, hblock⟩ := h
  cases hblock with
  | @loneLeft l c left gap hl hleft hc hgap =>
    intro k hk
    rw [List.getLast?_append_of_ne_nil _ (List.cons_ne_nil _ _), ← List.cons_append,
      List.getLast?_append_of_ne_nil _ (List.cons_ne_nil _ _)] at hk
    rcases List.mem_cons.1 (List.mem_of_getLast? hk) with rfl | hk
    · exact Or.inr hc
    · exact Or.inl (hgap k hk)

/-- **A document that lacks no bracket is converted apart from what follows it**, if what follows
does not go on with a left block at its end. -/
theorem convert_append {a e : Document} (ha : Event.warnings (events a) = [])
    (hgap : ∀ l ∈ e.head?, isGap l = false)
    (hright : EndsInLeft a → ∀ l ∈ e.head?, isRight l = false) :
    convert (a ++ e) = convert a ++ convert e := by
  rw [warnings_events_eq_nil_iff] at ha
  induction a using recogniser.scan_induction with
  | nil =>
    show convert e = recogniser.rewrite render [] ++ convert e
    rw [Recogniser.rewrite_nil, List.nil_append]
  | plain l s hread ih =>
    obtain ⟨hl, hr⟩ := (read_cons_eq_none_iff l s).1 hread
    rw [recogniser.missing_cons_of_none lacks hread] at ha
    have hrest := ih ha fun h => hright (h.cons hl hr)
    have hread' : recogniser.read (l :: (s ++ e)) = none := read_of_not_opener hl hr _
    rw [convert, convert, List.cons_append, recogniser.rewrite_cons_of_none render hread',
      recogniser.rewrite_cons_of_none render hread, List.cons_append]
    exact congrArg (l :: ·) hrest
  | block front b r hread ih =>
    rw [recogniser.missing_of_some lacks hread, Nat.add_eq_zero_iff] at ha
    obtain ⟨hb, ha⟩ := ha
    obtain ⟨front', hfront, hform, hends⟩ := form_of_read hread
    obtain rfl := List.append_cancel_right hfront
    have hrest := ih ha fun h => hright (h.append hform hb hends)
    have hends' : b.Ends (r ++ e) := by
      cases b with
      | pair | loneRight => trivial
      | loneLeft left =>
        intro l hl
        cases r with
        | nil =>
          -- the block is the last one of the first document
          obtain ⟨lines, closed⟩ := left
          have hclosed : closed = true := by
            cases closed with
            | true => rfl
            | false => cases hb
          subst hclosed
          have hlast : EndsInLeft (front ++ []) :=
            ⟨[], front, lines, List.append_nil front,
              (warnings_events_eq_nil_iff []).2 (recogniser.missing_nil lacks), hform⟩
          exact ⟨hgap l hl, hright hlast l hl⟩
        | cons m r => exact hends l hl
    rw [List.append_assoc, convert_form_append hform hb hends', hrest,
      convert_form_append hform hb hends, List.append_assoc]

/-- **The three layouts in their context.**  Behind a document that lacks no bracket, and before
anything, a left and a right block with a gap between them become one container; so do a left
block, if no partner follows, and a right block, if none is waiting for it; and what is before and
behind them is converted as if it stood alone. -/
theorem convert_in_context {a b left right gap : Document} {l r c c' : Line}
    (ha : Event.warnings (events a) = []) (hl : isLeft l = true) (hr : isRight r = true)
    (hc : isClose c = true) (hc' : isClose c' = true) (hleft : ∀ m ∈ left, isClose m = false)
    (hright : ∀ m ∈ right, isClose m = false) (hgap : ∀ g ∈ gap, isGap g = true) :
    convert (a ++ [l] ++ left ++ [c] ++ gap ++ [r] ++ right ++ [c'] ++ b)
        = convert a ++ container left right ++ convert b
      ∧ ((∀ g ∈ gap, Text.isBlank g = true) →
        (∀ m ∈ b.head?, isGap m = false ∧ isRight m = false) →
        convert (a ++ [l] ++ left ++ [c] ++ gap ++ b)
          = convert a ++ container left [] ++ convert b)
      ∧ (¬ EndsInLeft a →
        convert (a ++ [r] ++ right ++ [c'] ++ b)
          = convert a ++ container [] right ++ convert b) := by
  have hcolumn : (Body.mk right (some c') []).Delimited isClose :=
    ⟨hright, fun k hk => Option.some.inj hk ▸ hc'⟩
  have hborder : ∀ d : Document, ∀ m ∈ (l :: d).head?, isGap m = false ∧ isRight m = false := by
    intro d m hm
    obtain rfl := Option.some.inj hm
    refine ⟨(isBorder_of_isLeft hl).gap, ?_⟩
    rw [Bool.eq_false_iff]
    intro hm
    rw [not_isLeft_of_isRight hm] at hl
    cases hl
  have hleftAfter : ∀ d, convert (a ++ l :: d) = convert a ++ convert (l :: d) := fun d =>
    convert_append ha (fun m hm => (hborder d m hm).1) fun _ m hm => (hborder d m hm).2
  refine ⟨?_, fun _ hb => ?_, fun hends => ?_⟩
  · have hform := convert_form_append (e := b) (.pair hl hleft hc hgap hr hcolumn) rfl trivial
    have hrest := hleftAfter (left ++ c :: (gap ++ r :: (right ++ c' :: b)))
    simp only [Body.source, Option.toList_some, List.append_assoc, List.cons_append,
      List.nil_append] at hform hrest ⊢
    rw [hrest, hform]
    rfl
  · have hform := convert_form_append (e := b) (.loneLeft hl hleft hc hgap) rfl hb
    have hrest := hleftAfter (left ++ c :: (gap ++ b))
    simp only [List.append_assoc, List.cons_append, List.nil_append] at hform hrest ⊢
    rw [hrest, hform]
    rfl
  · have hform := convert_form_append (e := b) (.loneRight hr hcolumn) rfl trivial
    have hrest : convert (a ++ r :: (right ++ c' :: b))
        = convert a ++ convert (r :: (right ++ c' :: b)) := by
      refine convert_append ha (fun m hm => ?_) fun h => absurd h hends
      obtain rfl := Option.some.inj hm
      exact (isBorder_of_isRight hr).gap
    simp only [Body.source, Option.toList_some, List.append_assoc, List.cons_append,
      List.nil_append] at hform hrest ⊢
    rw [hrest, hform]
    rfl

/-- Between text and text, with white space around a bracket, an opener inside of a column, and
two blank lines behind the left one. -/
theorem convert_in_context_blank_gap :
    Event.warnings (events (["text\n", ".pull-left[\n", "]\n", "more\n"].map String.toList)) = []
      ∧ ¬ EndsInLeft (["text\n", ".pull-left[\n", "]\n", "more\n"].map String.toList)
      ∧ convert (["text\n", ".pull-left[\n", "]\n", "more\n", ".two-column-left[\n",
          ".pull-right[\n", " ]\n", "\n", " \n", ".pull-right[\n", "x\n", "]\n", "end\n"].map
            String.toList)
        = convert (["text\n", ".pull-left[\n", "]\n", "more\n"].map String.toList)
          ++ container [".pull-right[\n".toList] ["x\n".toList] ++ convert ["end\n".toList]
      ∧ convert (["text\n", ".pull-left[\n", "]\n", "more\n", ".two-column-left[\n",
          ".pull-right[\n", " ]\n", "\n", " \n", "end\n"].map String.toList)
        = convert (["text\n", ".pull-left[\n", "]\n", "more\n"].map String.toList)
          ++ container [".pull-right[\n".toList] [] ++ convert ["end\n".toList]
      ∧ convert (["text\n", ".pull-left[\n", "]\n", "more\n", ".pull-right[\n", "x\n", "]\n",
          "end\n"].map String.toList)
        = convert (["text\n", ".pull-left[\n", "]\n", "more\n"].map String.toList)
          ++ container [] ["x\n".toList] ++ convert ["end\n".toList] := by
  have hwarn : Event.warnings
      (events (["text\n", ".pull-left[\n", "]\n", "more\n"].map String.toList)) = [] := by
    decide +kernel
  have hends : ¬ EndsInLeft (["text\n", ".pull-left[\n", "]\n", "more\n"].map String.toList) :=
    fun h => absurd (h.isGap_or_isClose "more\n".toList rfl) (by decide)
  have h := @convert_in_context _ ["end\n".toList] [".pull-right[\n".toList] ["x\n".toList]
    ["\n".toList, " \n".toList] ".two-column-left[\n".toList ".pull-right[\n".toList
    " ]\n".toList "]\n".toList hwarn (by decide) (by decide) (by decide) (by decide) (by decide)
    (by decide) (by decide)
  exact ⟨hwarn, hends, h.1, h.2.1 (by decide) (by decide), h.2.2 hends⟩

end Layout
end SlideDeck
