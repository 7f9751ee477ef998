import SlideDeck.Proofs.Slide.LeadingBlock

/-!
# Notes slide by slide

A separator ends the notes before it, and so does the end of the document, with the same two lines.
So notes are for one slide: a deck is converted slide by slide, and what is before a separator is
converted as if nothing followed.

* `Notes.BeginsSlide` — what a slide can begin with, if it is not the first one.
* `Notes.read_append_of_beginsSlide` — notes are read in the same way whatever slides follow.
* `Notes.SlideBySlide` collects three laws: slides are converted apart, the first marker of a slide
  opens its notes, and a document without marker stays as it is.
* `Notes.slideBySlide_iff` — the conversion of notes is the one function with these laws.
-/

set_option autoImplicit false

namespace SlideDeck.Notes

/-- Whether a document begins a slide: with a separator, unless there is nothing in it. -/
def BeginsSlide (d : Document) : Prop := ∀ l ∈ d.head?, isSeparator l = true

/-! ## Notes before a slide -/

/-- The lines of notes before a slide, and what is left behind them. -/
theorem takeWhile_dropWhile_append_slide {b : Document} (hb : BeginsSlide b) (d : Document) :
    (d ++ b).takeWhile (fun m => !isSeparator m) = d.takeWhile (fun m => !isSeparator m)
      ∧ (d ++ b).dropWhile (fun m => !isSeparator m)
        = d.dropWhile (fun m => !isSeparator m) ++ b := by
  have hlines : ∀ m ∈ d.takeWhile (fun m => !isSeparator m), (!isSeparator m) = true :=
    fun m hm => List.mem_takeWhile_imp (p := fun m => !isSeparator m) hm
  have hstop : ∀ m ∈ (d.dropWhile (fun m => !isSeparator m) ++ b).head?,
      (!isSeparator m) = false := by
    intro m hm
    have hhead := List.head?_dropWhile_not (fun m => !isSeparator m) d
    cases hrest : d.dropWhile fun m => !isSeparator m with
    | nil =>
      rw [hrest, List.nil_append] at hm
      rw [hb m hm]
      rfl
    | cons k rest =>
      rw [hrest] at hhead hm
      obtain rfl := Option.some.inj hm
      simpa using hhead
  have hd : d ++ b = d.takeWhile (fun m => !isSeparator m)
      ++ (d.dropWhile (fun m => !isSeparator m) ++ b) := by
    rw [← List.append_assoc, List.takeWhile_append_dropWhile]
  rw [hd]
  exact takeWhile_dropWhile_append hlines hstop

/-- A slide that follows leaves notes as they are; at most it shows that they are closed. -/
theorem read_append_of_beginsSlide {b : Document} (hb : BeginsSlide b) {d : Document}
    (hd : d ≠ []) :
    (recogniser.read (d ++ b)).map (fun p => (render p.1, p.2))
      = (recogniser.read d).map fun p => (render p.1, p.2 ++ b) := by
  obtain ⟨l, d, rfl⟩ := List.exists_cons_of_ne_nil hd
  show (read (l :: (d ++ b))).map _ = (read (l :: d)).map _
  obtain ⟨htake, hdrop⟩ := takeWhile_dropWhile_append_slide hb d
  rw [read, read]
  split
  · simp only [Option.map_some, render, htake, hdrop]
  · rfl

theorem convert_append_slide (a : Document) {b : Document} (hb : BeginsSlide b) :
    convert (a ++ b) = convert a ++ convert b :=
  recogniser.rewrite_append_of_read_append render fun _ hne _ => read_append_of_beginsSlide hb hne

/-! ## The notes of one slide -/

theorem convert_eq_self {d : Document} (h : ∀ l ∈ d, isMarker l = false) : convert d = d :=
  recogniser.rewrite_eq_self render fun l hl => read_of_not_marker (h l hl)

theorem convert_slide {before lines : Document} {marker : Line}
    (hbefore : ∀ l ∈ before, isMarker l = false) (hmarker : isMarker marker = true)
    (hlines : ∀ l ∈ lines, isSeparator l = false) :
    convert (before ++ [marker] ++ lines)
      = before ++ ["::: \x7b.notes\x7d\n".toList] ++ lines ++ [":::\n".toList, "\n".toList] := by
  have hall : ∀ l ∈ lines, (!isSeparator l) = true := fun l hl => by rw [hlines l hl]; rfl
  have hrest : lines.dropWhile (fun m => !isSeparator m) = [] :=
    List.dropWhile_eq_nil_iff.2 hall
  have hread : recogniser.read (marker :: lines) = some (⟨lines, lines.any isSeparator⟩, []) := by
    show read (marker :: lines) = _
    rw [read, if_pos hmarker, List.takeWhile_eq_self_iff.2 hall, hrest]
  have hnotes : convert (marker :: lines) = render ⟨lines, lines.any isSeparator⟩ ++ [] :=
    (recogniser.rewrite_of_some render hread).trans (by rw [Recogniser.rewrite_nil])
  rw [List.append_assoc, List.singleton_append, convert_append hbefore, hnotes, render]
  simp

/-! ## The laws -/

/-- What it is to bring notes into divisions, slide by slide. -/
structure SlideBySlide (f : Document → Document) : Prop where
  /-- Nothing of a slide reaches into the next one. -/
  append : ∀ a b, BeginsSlide b → f (a ++ b) = f a ++ f b
  /-- The first marker opens the notes, and they take the rest of the slide. -/
  notes : ∀ before marker lines, (∀ l ∈ before, isMarker l = false) → isMarker marker = true →
    (∀ l ∈ lines, isSeparator l = false) →
    f (before ++ [marker] ++ lines)
      = before ++ ["::: \x7b.notes\x7d\n".toList] ++ lines ++ [":::\n".toList, "\n".toList]
  /-- Where there is no marker there are no notes. -/
  plain : ∀ d, (∀ l ∈ d, isMarker l = false) → f d = d

theorem slideBySlide_convert : SlideBySlide convert where
  append a _ hb := convert_append_slide a hb
  notes _ _ _ hbefore hmarker hlines := convert_slide hbefore hmarker hlines
  plain _ hd := convert_eq_self hd

/-- A document is one slide, or it can be cut in front of another one. -/
theorem oneSlide_or_cut (d : Document) :
    (∀ l ∈ d.tail, isSeparator l = false)
      ∨ ∃ a b, d = a ++ b ∧ BeginsSlide b ∧ a ≠ [] ∧ b ≠ [] := by
  by_cases h : ∀ l ∈ d.tail, isSeparator l = false
  · exact Or.inl h
  · right
    obtain ⟨l, hl, hseparator⟩ : ∃ l ∈ d.tail, isSeparator l = true := by simpa using h
    obtain ⟨a, b, htail⟩ := List.append_of_mem hl
    cases d with
    | nil => exact absurd hl List.not_mem_nil
    | cons k d =>
      refine ⟨k :: a, l :: b, congrArg (k :: ·) htail, fun m hm => ?_, List.cons_ne_nil k a,
        List.cons_ne_nil l b⟩
      obtain rfl := Option.some.inj hm
      exact hseparator

/-- Two functions with the laws agree on one slide. -/
theorem SlideBySlide.eq_of_oneSlide {f g : Document → Document} (hf : SlideBySlide f)
    (hg : SlideBySlide g) {d : Document} (hd : ∀ l ∈ d.tail, isSeparator l = false) :
    f d = g d := by
  by_cases hmarker : ∀ l ∈ d, isMarker l = false
  · rw [hf.plain d hmarker, hg.plain d hmarker]
  · have hmarker : ∃ l ∈ d, isMarker l = true := by simpa using hmarker
    obtain ⟨before, marker, lines, rfl, hm, hbefore⟩ := Body.exists_read_closed hmarker
    -- the notes do not begin before the first line of the slide, so their lines are in its tail
    have hlines : ∀ l ∈ lines, isSeparator l = false := by
      intro l hl
      refine hd l ?_
      cases before with
      | nil => exact hl
      | cons b before => exact List.mem_append_right before (List.mem_cons_of_mem marker hl)
    rw [List.append_cons, hf.notes before marker lines hbefore hm hlines,
      hg.notes before marker lines hbefore hm hlines]

theorem SlideBySlide.eq {f g : Document → Document} (hf : SlideBySlide f) (hg : SlideBySlide g)
    (d : Document) : f d = g d := by
  induction hn : d.length using Nat.strongRecOn generalizing d with
  | ind n ih =>
    rcases oneSlide_or_cut d with hd | ⟨a, b, rfl, hb, hane, hbne⟩
    · exact hf.eq_of_oneSlide hg hd
    · have ha := List.length_pos_iff.2 hane
      have hb' := List.length_pos_iff.2 hbne
      rw [List.length_append] at hn
      rw [hf.append a b hb, hg.append a b hb, ih a.length (by omega) a rfl,
        ih b.length (by omega) b rfl]

/-- **Notes stay on their slide.**  The conversion of notes goes slide by slide: whatever a document
is, and with whatever notes it ends, slides that follow it are converted apart from it; on one slide
the first marker opens the notes, and they take the rest of it; and without a marker there are no
notes.  These laws say what becomes of every document, for no other function has them. -/
theorem slideBySlide_iff (f : Document → Document) : SlideBySlide f ↔ f = convert := by
  constructor
  · exact fun hf => funext fun d => hf.eq slideBySlide_convert d
  · rintro rfl
    exact slideBySlide_convert

end SlideDeck.Notes
