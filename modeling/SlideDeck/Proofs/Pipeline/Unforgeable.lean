import SlideDeck.Proofs.Pipeline.PhysicalLines
import SlideDeck.Proofs.Slide.FootnoteLines

/-!
# Lines that no stage can write

A slide separator that has been taken out must not come back, neither among the lines that stages
write nor by rewriting a line that is something else.  `Unforgeable` is what makes that sure of a
test of lines: fixed lines fail it, so does whatever begins as a comment, an image link or an
inline footnote, and a line that has been respelled, trimmed or cut passes it only if the line it
was made from does.

* `unforgeable_trimsTo` and `unforgeable_opensWith` — what a mark has to be like for the tests
  that look for it to be unforgeable.
* `Stage.writes_of_unforgeable` — no stage but the first one writes a line that passes.
-/

set_option autoImplicit false

namespace SlideDeck

open Text (trimEnd)
open Unicode (isSpace)

/-- The lines that stages write as they are. -/
def Stage.fixedLines : Document :=
  Notes.render ⟨[], true⟩ ++ Reveal.pauseLine :: Layout.container [] []

/-- How lines begin that stages put together. -/
def Stage.openings : List Text := ["#".toList, "![".toList, "^[".toList]

/-- A test of lines that no line passes because of what a stage writes. -/
structure Unforgeable (test : Line → Bool) : Prop where
  fixed : ∀ l ∈ Stage.fixedLines, test l = false
  opened : ∀ front ∈ Stage.openings, ∀ l, test (front ++ l) = false
  respelled : ∀ f : Line → Line, KeepsMarks f → ∀ l, test (f l) = true → test l = true
  trimmed : ∀ l, test (trimEnd l ++ ['\n']) = test l
  bracketed : ∀ l q, q <+: l → test (q ++ "]\n".toList) = true → test l = true

/-! ## Marks -/

theorem Stage.opensWith_opening {front : Text} (h : front ∈ openings) (l : Line) :
    Line.opensWith (front ++ l) front = true := by
  have hopenings : ∀ front ∈ openings, front ≠ [] ∧ front.head?.any isSpace = false
      ∧ front.getLast?.any isSpace = false := by decide
  obtain ⟨hne, hhead, hlast⟩ := hopenings front h
  exact Line.opensWith_append hne hhead hlast l

theorem trim_trimEnd_append_newline (l : Line) :
    Text.trim (trimEnd l ++ ['\n']) = Text.trim l := by
  rw [Text.trim_append_right _ (by decide), Text.trim_trimEnd]

theorem unforgeable_trimsTo {mark : Text}
    (hfixed : ∀ l ∈ Stage.fixedLines, Line.trimsTo l mark = false)
    (hopened : ∀ front ∈ Stage.openings, Text.startsWith mark front = false)
    (hparen : '(' ∉ mark) (hbracket : ']' ∉ mark) : Unforgeable (·.trimsTo mark) where
  fixed := hfixed
  opened front hfront l :=
    Line.trimsTo_eq_false (Stage.opensWith_opening hfront l) (hopened front hfront)
  respelled f hf l h := by rwa [hf.trimsTo_eq hparen] at h
  trimmed l := by rw [Line.trimsTo, Line.trimsTo, trim_trimEnd_append_newline]
  bracketed l q _ h := by
    rw [Line.trimsTo_iff] at h
    have hmem : ']' ∈ Text.trim (q ++ "]\n".toList) :=
      (Text.mem_trim_iff (by decide)).2 (List.mem_append_right q (by decide))
    rw [h] at hmem
    exact absurd hmem hbracket

/-- A mark in front of a bracket does not need the bracket. -/
theorem Line.opensWith_of_bracketed {mark : Text} (hne : mark ≠ [])
    (hlast : mark.getLast?.any isSpace = false) (hbracket : ']' ∉ mark) {l : Line} {q : Text}
    (hq : q <+: l) (h : Line.opensWith (q ++ "]\n".toList) mark = true) :
    l.opensWith mark = true := by
  rw [opensWith_iff _ hlast] at h ⊢
  have hstart : mark <+: Text.trimStart q := by
    by_cases hblank : Text.isBlank q = true
    · rw [Text.trimStart_append_of_isBlank hblank] at h
      have hmark : mark <+: [] := Text.prefix_of_prefix_append_cons h hbracket
      exact absurd (List.prefix_nil.1 hmark) hne
    · have hnonempty : Text.trimStart q ≠ [] := mt (Text.trimStart_eq_nil_iff q).1 hblank
      rw [Text.trimStart_append hnonempty] at h
      exact Text.prefix_of_prefix_append_cons h hbracket
  obtain ⟨r, rfl⟩ := hq
  have hnonempty : Text.trimStart q ≠ [] := fun h0 => hne (List.prefix_nil.1 (h0 ▸ hstart))
  rw [Text.trimStart_append hnonempty]
  exact hstart.trans (List.prefix_append _ r)

theorem unforgeable_opensWith {mark : Text}
    (hfixed : ∀ l ∈ Stage.fixedLines, Line.opensWith l mark = false)
    (hopened : ∀ front ∈ Stage.openings, Text.startsWith front mark = false
      ∧ Text.startsWith mark front = false)
    (hspelled : avoidsSpellings mark = true) (hne : mark ≠ [])
    (hlast : mark.getLast?.any isSpace = false) (hbracket : ']' ∉ mark) :
    Unforgeable (·.opensWith mark) where
  fixed := hfixed
  opened front hfront l :=
    Line.opensWith_eq_false (Stage.opensWith_opening hfront l) (hopened front hfront).1
      (hopened front hfront).2
  respelled f hf l h := hf.opensWith_of hspelled hlast h
  trimmed l := by rw [Line.opensWith, Line.opensWith, trim_trimEnd_append_newline]
  bracketed l q hq h := Line.opensWith_of_bracketed hne hlast hbracket hq h

theorem Unforgeable.or {test test' : Line → Bool} (h : Unforgeable test) (h' : Unforgeable test') :
    Unforgeable fun l => test l || test' l where
  fixed l hl := Bool.or_eq_false_iff.2 ⟨h.fixed l hl, h'.fixed l hl⟩
  opened front hfront l := Bool.or_eq_false_iff.2
    ⟨h.opened front hfront l, h'.opened front hfront l⟩
  respelled f hf l hl := Bool.or_eq_true_iff.2
    ((Bool.or_eq_true_iff.1 hl).imp (h.respelled f hf l) (h'.respelled f hf l))
  trimmed l := by rw [h.trimmed, h'.trimmed]
  bracketed l q hq hl := Bool.or_eq_true_iff.2
    ((Bool.or_eq_true_iff.1 hl).imp (h.bracketed l q hq) (h'.bracketed l q hq))

/-- A test that looks for one of many marks is unforgeable if each of these is. -/
theorem Unforgeable.of_exists {ι : Type} {p : ι → Prop} {tests : ι → Line → Bool}
    {test : Line → Bool} (h : ∀ i, p i → Unforgeable (tests i))
    (htest : ∀ l, test l = true ↔ ∃ i, p i ∧ tests i l = true) : Unforgeable test where
  fixed l hl := by
    rw [Bool.eq_false_iff, Ne, htest]
    rintro ⟨i, hi, hpass⟩
    rw [(h i hi).fixed l hl] at hpass
    exact absurd hpass (by decide)
  opened front hfront l := by
    rw [Bool.eq_false_iff, Ne, htest]
    rintro ⟨i, hi, hpass⟩
    rw [(h i hi).opened front hfront l] at hpass
    exact absurd hpass (by decide)
  respelled f hf l hl := by
    obtain ⟨i, hi, hpass⟩ := (htest _).1 hl
    exact (htest l).2 ⟨i, hi, (h i hi).respelled f hf l hpass⟩
  trimmed l := by
    rw [Bool.eq_iff_iff, htest, htest]
    exact exists_congr fun i => and_congr_right fun hi => by rw [(h i hi).trimmed l]
  bracketed l q hq hl := by
    obtain ⟨i, hi, hpass⟩ := (htest _).1 hl
    exact (htest l).2 ⟨i, hi, (h i hi).bracketed l q hq hpass⟩

/-! ## Stages -/

namespace Unforgeable

variable {test : Line → Bool}

theorem keepsMarks (h : Unforgeable test) {f : Line → Line} (hf : KeepsMarks f) {l : Line}
    (hl : test l = false) : test (f l) = false := by
  rw [Bool.eq_false_iff, Ne]
  intro hpass
  rw [h.respelled f hf l hpass] at hl
  exact absurd hl (by decide)

/-- An inline footnote has no line that passes if the block has none. -/
theorem footnote (h : Unforgeable test) {front : Document} {b : Footnote}
    (hsource : Footnote.Source front b) (hfront : front.WellFormed)
    (htest : ∀ l ∈ front, test l = false) : ∀ k ∈ Footnote.render b, test k = false := by
  intro k hk
  rcases Footnote.mem_render_of_source hsource hfront hk
    with ⟨r, rfl⟩ | ⟨l, hl, rfl⟩ | ⟨l, hl, q, hq, -, rfl⟩
  · exact h.opened _ (by decide) r
  · rw [h.trimmed]
    exact htest l hl
  · rw [Bool.eq_false_iff, Ne]
    intro hpass
    have hl := htest l hl
    rw [h.bracketed l q hq hpass] at hl
    exact absurd hl (by decide)

end Unforgeable

/-- **No stage forges a line.**  Given physical lines that fail the test, a stage writes such
lines only; the first stage is left out, since it writes delimiters and titles. -/
theorem Stage.writes_of_unforgeable {config : Config} {test : Line → Bool} (h : Unforgeable test)
    {stage : Stage} (hstage : stage ≠ .header) :
    stage.Writes config fun l => l.WellFormed ∧ test l = false := by
  have hphysical : stage.Writes config Line.WellFormed := writes_wellFormed_of_ne hstage
  cases stage with
  | header => exact absurd rfl hstage
  | notes =>
    exact fun l hl => ⟨hphysical l hl, h.fixed l (List.mem_append_left _ hl)⟩
  | commentPatterns =>
    exact fun l hl => ⟨hphysical l hl.1, h.opened "#".toList (by decide) (' ' :: l)⟩
  | pauses => exact ⟨hphysical, h.fixed _ (by decide)⟩
  | columns =>
    exact fun l hl => ⟨hphysical l hl, h.fixed l
      (List.mem_append_right _ (List.mem_cons_of_mem _ hl))⟩
  | imageChunks =>
    intro d r b hread hd l hl
    refine ⟨Figure.wellFormed_render hread l hl, ?_⟩
    obtain rfl := List.mem_singleton.1 hl
    simp only [List.append_assoc]
    exact h.opened "![".toList (by decide) ("](".toList ++ _)
  | codePaths =>
    exact fun l hl => ⟨hphysical l hl.1, h.keepsMarks ProjectPath.rewriteLine_keepsMarks hl.2⟩
  | imageLinks =>
    exact fun l hl => ⟨hphysical l hl.1, h.keepsMarks ProjectPath.fixLine_keepsMarks hl.2⟩
  | footnotes =>
    intro d r b hread hd k hk
    obtain ⟨front, rfl, hsource⟩ := Footnote.source_of_read hread
    obtain ⟨hfront, -⟩ := List.forall_mem_append.1 hd
    exact ⟨Footnote.wellFormed_render b k hk,
      h.footnote hsource (fun l hl => (hfront l hl).1) (fun l hl => (hfront l hl).2) k hk⟩
  | stripSeparators | removePatterns | compactLists | setupChunks => exact trivial

end SlideDeck
