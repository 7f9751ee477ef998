import SlideDeck.Proofs.Pipeline.Front
import SlideDeck.Proofs.Slide.Content

/-!
# Documents that the rules on slides leave alone

The stages up to the columns look for marks, for list items and for the lines that the patterns of
the configuration pick out.  A document with none of these reaches the stages on code as it was
read.

* `Line.IsPlain` — a line that means nothing to the rules on slides.
* `Stage.apply_of_plain` — one stage; `Pipeline.lines_run_of_plain` — the run up to the code.
-/

set_option autoImplicit false

namespace SlideDeck

/-! ## Plain lines -/

/-- A line that means nothing to the rules on slides. -/
structure Line.IsPlain (l : Line) : Prop where
  mark : l.isMark = false
  classes : l.opensWith "class:".toList = false
  item : l.isListItem = false

namespace Line.IsPlain

variable {l : Line}

theorem trimsTo_eq_false (h : l.IsPlain) {mark : Text} (hmark : mark ∈ marks) :
    l.trimsTo mark = false := by
  have hmarks := List.any_eq_false.1 h.mark mark hmark
  exact Bool.eq_false_iff.2 hmarks

theorem not_separator (h : l.IsPlain) : Separator.isSeparator l = false :=
  Bool.or_eq_false_iff.2 ⟨h.trimsTo_eq_false (by decide), h.classes⟩

theorem not_left (h : l.IsPlain) : Layout.isLeft l = false :=
  Bool.or_eq_false_iff.2 ⟨h.trimsTo_eq_false (by decide), h.trimsTo_eq_false (by decide)⟩

theorem not_right (h : l.IsPlain) : Layout.isRight l = false :=
  Bool.or_eq_false_iff.2 ⟨h.trimsTo_eq_false (by decide), h.trimsTo_eq_false (by decide)⟩

/-- The first character of a line may be enough to tell that it is plain. -/
theorem of_opensWith {c : Char} (h : l.opensWith [c] = true)
    (hmarks : ∀ m ∈ marks, Text.startsWith m [c] = false) (hclass : c ≠ 'c')
    (hdigit : Unicode.isDigit c = false) (hstar : c ≠ '*') : l.IsPlain where
  mark := by
    rw [isMark, List.any_eq_false]
    intro m hm
    rw [Line.trimsTo_eq_false h (hmarks m hm)]
    decide
  classes := by
    refine Line.opensWith_eq_false h ?_ ?_
    · simp [Text.startsWith, List.isPrefixOf]
    · simp [Text.startsWith, List.isPrefixOf, hclass]
  item := by
    have hdash : c ≠ '-' := by
      rintro rfl
      exact absurd (hmarks "--".toList (by decide)) (by decide)
    exact isListItem_eq_false h hdigit hdash hstar

end Line.IsPlain

/-! ## Stages -/

theorem Reveal.convertPausesAfter_eq_self {d : Document} (h : ∀ l ∈ d, isPause l = false)
    (previous : Line) : convertPausesAfter previous d = d := by
  induction d generalizing previous with
  | nil => rfl
  | cons l d ih =>
    obtain ⟨hl, hd⟩ := List.forall_mem_cons.1 h
    rw [convertPausesAfter_cons hl, ih hd]

theorem Reveal.compactLists_eq_self {d : Document} (h : ∀ l ∈ d, l.isListItem = false) :
    compactLists d = d := by
  induction d with
  | nil => rfl
  | cons l d ih =>
    obtain ⟨hl, hd⟩ := List.forall_mem_cons.1 h
    rw [compactLists_cons hl, ih hd]

/-- The patterns of a configuration leave a document alone. -/
def Config.Spares (config : Config) (d : Document) : Prop :=
  ∀ l ∈ d, Pattern.anyMatch config.removePatterns l = false
    ∧ Pattern.anyMatch config.commentPatterns l = false

theorem Config.spares_default_iff (d : Document) :
    Config.default.Spares d ↔ ∀ l ∈ d, Text.startsWith l "xaringanExtra::".toList = false
      ∧ Text.contains l "testthat::test_dir(\"tests\")".toList = false := by
  simp [Spares, default, Pattern.anyMatch, isMatch_defaultRemove, isMatch_defaultComment]

namespace Stage

/-- The stages that run before those on code. -/
def onSlides : List Stage :=
  [header, notes, stripSeparators, removePatterns, commentPatterns, pauses, compactLists, columns]

/-- The stages on code and on what is written in its place. -/
def onCode : List Stage := [imageChunks, setupChunks, codePaths, imageLinks, footnotes]

variable {config : Config} {d : Document}

/-- **One stage** on slides does nothing to plain lines that the patterns leave alone. -/
theorem apply_of_plain (hplain : ∀ l ∈ d, l.IsPlain) (hspares : config.Spares d) {stage : Stage}
    (hstage : stage ∈ onSlides) : stage.apply config d = d := by
  have hread : Leading.read d = .absent := by
    refine (Leading.read_eq_absent_iff d).2 fun l hl => ?_
    exact (hplain l (List.mem_of_mem_head? hl)).trimsTo_eq_false (by decide)
  simp only [onSlides, List.mem_cons, List.not_mem_nil, or_false] at hstage
  rcases hstage with rfl | rfl | rfl | rfl | rfl | rfl | rfl | rfl
  · show Metadata.normalize config.title d = d
    rw [Metadata.normalize, hread]
  · have hmarker : ∀ l ∈ d, Notes.isMarker l = false := fun l hl =>
      (hplain l hl).trimsTo_eq_false (by decide)
    exact Notes.recogniser.rewrite_eq_self _ fun l hl => Notes.read_of_not_marker (hmarker l hl)
  · show Separator.strip d = d
    rw [Separator.strip_of_absent hread, List.filter_eq_self]
    intro l hl
    simp [(hplain l hl).not_separator]
  · show LineFilter.remove config.removePatterns d = d
    rw [LineFilter.remove, List.filter_eq_self]
    intro l hl
    simp [(hspares l hl).1]
  · show LineFilter.comment config.commentPatterns d = d
    have hline : ∀ l ∈ d, LineFilter.commentLine config.commentPatterns l = l := by
      intro l hl
      simp [LineFilter.commentLine, (hspares l hl).2]
    rw [LineFilter.comment, List.map_congr_left hline, List.map_id']
  · have hpause : ∀ l ∈ d, Reveal.isPause l = false := fun l hl =>
      (hplain l hl).trimsTo_eq_false (by decide)
    exact Reveal.convertPausesAfter_eq_self hpause []
  · exact Reveal.compactLists_eq_self fun l hl => (hplain l hl).item
  · exact Layout.recogniser.rewrite_eq_self _ fun l hl =>
      Layout.read_of_not_opener (hplain l hl).not_left (hplain l hl).not_right

end Stage

/-! ## The run -/

namespace Pipeline

variable {config : Config} {d : Document}

theorem lines_runStages_append (config : Config) (before after : List Stage) (d : Document) :
    (runStages config (before ++ after) d).lines
      = (runStages config after (runStages config before d).lines).lines := by
  simp [runStages_lines, List.foldl_append]

theorem lines_runStages_eq_self {stages : List Stage}
    (h : ∀ stage ∈ stages, stage.apply config d = d) : (runStages config stages d).lines = d := by
  induction stages with
  | nil => rfl
  | cons stage stages ih =>
    obtain ⟨hstage, hstages⟩ := List.forall_mem_cons.1 h
    rw [runStages, hstage, ih hstages]

/-- **Plain lines** reach the stages on code as they were read. -/
theorem lines_run_of_plain (hplain : ∀ l ∈ d, l.IsPlain) (hspares : config.Spares d) :
    (run config d).lines = (runStages config Stage.onCode d).lines := by
  have hstages : Stage.all = Stage.onSlides ++ Stage.onCode := rfl
  have hslides : (runStages config Stage.onSlides d).lines = d :=
    lines_runStages_eq_self fun stage => Stage.apply_of_plain hplain hspares
  rw [run, hstages, lines_runStages_append, hslides]

end Pipeline
end SlideDeck
