import SlideDeck.Proofs.Code.Respelling
import SlideDeck.Proofs.Pipeline.Written
import SlideDeck.Proofs.Slide.Content
import SlideDeck.Proofs.Slide.LeadingBlock

/-!
# The content of a deck, through all stages

With the built-in patterns the stages lose no content, double none and keep its order, as long as
the deck has no metadata block and nothing that is taken out or merged as a block.  Three stages
rewrite content line by line, all others leave it alone.

* `Stage.Spares` — what a document must be for a stage to keep its content; `Stage.content_apply`
  is the step.
* `Pipeline.Spared` — every stage of a run is given such a document; `Pipeline.content_runStages`
  is the run.
* `Line.Plain` and `Line.Settled` — the two invariants that make a run of all stages such a run.
* `Pipeline.content_run` — the statement about decks.
-/

set_option autoImplicit false

namespace SlideDeck

open Document (content)

/-! ## Lines that stages do not remove -/

/-- A line at which no block starts that would be taken out of the document, or merged. -/
structure Line.Plain (l : Line) : Prop where
  footnote : l.opensWith ".footnote[".toList = false
  chunk : Text.startsWith l "```\x7br".toList = false
  optionsCall : SetupCode.startsOptionsCall l = false
  cropHook : SetupCode.setsCropHook l = false

/-- A line that neither gives a slide its classes nor belongs to the package that lines are
dropped for.  Commenting such a line out does not turn markup into content. -/
structure Line.Settled (l : Line) : Prop where
  classes : l.opensWith "class:".toList = false
  package : Text.startsWith l "xaringanExtra::".toList = false

instance (l : Line) : Decidable l.Plain :=
  decidable_of_iff (l.opensWith ".footnote[".toList = false
      ∧ Text.startsWith l "```\x7br".toList = false ∧ SetupCode.startsOptionsCall l = false
      ∧ SetupCode.setsCropHook l = false)
    ⟨fun h => ⟨h.1, h.2.1, h.2.2.1, h.2.2.2⟩, fun h => ⟨h.1, h.2, h.3, h.4⟩⟩

instance (l : Line) : Decidable l.Settled :=
  decidable_of_iff (l.opensWith "class:".toList = false
      ∧ Text.startsWith l "xaringanExtra::".toList = false)
    ⟨fun h => ⟨h.1, h.2⟩, fun h => ⟨h.1, h.2⟩⟩

/-! ## Lines that are rewritten -/

theorem Line.opensWith_comment (l : Line) : Line.opensWith ("# ".toList ++ l) ['#'] = true :=
  opensWith_append (by decide) (by decide) (by decide) (' ' :: l)

theorem Line.isMark_comment (l : Line) : Line.isMark ("# ".toList ++ l) = false := by
  rw [isMark, List.any_eq_false]
  intro m hm
  have hmarks : ∀ m ∈ marks, Text.startsWith m ['#'] = false := by decide
  rw [trimsTo_eq_false (opensWith_comment l) (hmarks m hm)]
  decide

theorem Line.settled_comment (l : Line) : Line.Settled ("# ".toList ++ l) where
  classes := opensWith_eq_false (opensWith_comment l) (by decide) (by decide)
  package := rfl

theorem Line.plain_comment {l : Line} (h : l.Plain) : Line.Plain ("# ".toList ++ l) where
  footnote := opensWith_eq_false (opensWith_comment l) (by decide) (by decide)
  chunk := rfl
  optionsCall := rfl
  cropHook := h.cropHook

/-- Commenting out makes no content of markup, since no mark contains what is commented out. -/
theorem LineFilter.isMarkup_commentLine {l : Line} (h : l.Settled) :
    (commentLine Config.default.commentPatterns l).isMarkup = l.isMarkup := by
  rw [commentLine]
  split
  · next hmatch =>
    have hcall : Config.defaultComment.isMatch l = true := by
      rw [Bool.and_eq_true] at hmatch
      simpa [Pattern.anyMatch, Config.default] using hmatch.1
    rw [Config.isMatch_defaultComment, Text.contains_iff] at hcall
    have hl : l.isMark = false := Line.isMark_eq_false_of_paren (hcall.subset (by decide))
    have hcomment := Line.settled_comment l
    rw [Line.isMarkup, Line.isMarkup, hl, h.classes, h.package, Line.isMark_comment,
      hcomment.classes, hcomment.package]
  · rfl

namespace KeepsMarks

variable {f : Line → Line}

theorem opensWith_eq_false (hf : KeepsMarks f) {mark : Text} (hm : avoidsSpellings mark = true)
    (hlast : mark.getLast?.any Unicode.isSpace = false) {l : Line} (h : l.opensWith mark = false) :
    (f l).opensWith mark = false := by
  rw [Bool.eq_false_iff, Ne]
  intro hopens
  rw [hf.opensWith_of hm hlast hopens] at h
  exact absurd h (by decide)

theorem settled (hf : KeepsMarks f) {l : Line} (h : l.Settled) : (f l).Settled where
  classes := hf.opensWith_eq_false (by decide) (by decide) h.classes
  package := by
    rw [Bool.eq_false_iff, Ne, Text.startsWith_iff]
    intro hpackage
    have hl := hf.isPrefix_of (by decide) hpackage
    rw [← Text.startsWith_iff, h.package] at hl
    exact absurd hl (by decide)

theorem isMarkup_eq (hf : KeepsMarks f) {l : Line} (h : l.Settled) :
    (f l).isMarkup = l.isMarkup := by
  have hmark : (f l).isMark = l.isMark := by
    have hparen : ∀ m ∈ Line.marks, '(' ∉ m := by decide
    rw [Line.isMark, Line.isMark, Bool.eq_iff_iff, List.any_eq_true, List.any_eq_true]
    refine exists_congr fun m => and_congr_right fun hm => ?_
    rw [hf.trimsTo_eq (hparen m hm)]
  have hsettled := hf.settled h
  rw [Line.isMarkup, Line.isMarkup, hmark, h.classes, h.package, hsettled.classes,
    hsettled.package]

end KeepsMarks

/-! ## The step -/

/-- What a document must be for a stage to keep its content. -/
def Stage.Spares (d : Document) : Stage → Prop
  | header => Leading.read d = .absent
  | commentPatterns | codePaths | imageLinks => ∀ l ∈ d, l.Settled
  | imageChunks => ∀ l ∈ d, Text.startsWith l "```\x7br".toList = false
  | setupChunks => ∀ l ∈ d, SetupCode.startsOptionsCall l = false ∧ SetupCode.setsCropHook l = false
  | footnotes => ∀ l ∈ d, l.opensWith ".footnote[".toList = false
  | notes | stripSeparators | removePatterns | pauses | compactLists | columns => True

/-- What a stage makes of a line of content. -/
def Stage.contentLine (config : Config) (l : Line) : Stage → Line
  | commentPatterns => LineFilter.commentLine config.commentPatterns l
  | codePaths => ProjectPath.rewriteLine l
  | imageLinks => ProjectPath.fixLine l
  | header | notes | stripSeparators | removePatterns | pauses | compactLists | columns
  | imageChunks | setupChunks | footnotes => l

/-- **A stage keeps the content of a document that it spares**, up to what it makes of single
lines. -/
theorem Stage.content_apply {stage : Stage} {d : Document} (h : stage.Spares d) :
    content (stage.apply Config.default d)
      = (content d).map fun l => stage.contentLine Config.default l := by
  cases stage with
  | header =>
    have hd : Metadata.normalize Config.default.title d = d := by
      rw [Metadata.normalize, show Leading.read d = .absent from h]
    rw [apply, hd]
    exact (List.map_id _).symm
  | notes => exact (Notes.content_convert d).trans (List.map_id _).symm
  | stripSeparators => exact (Separator.content_strip d).trans (List.map_id _).symm
  | removePatterns => exact (LineFilter.content_remove d).trans (List.map_id _).symm
  | commentPatterns =>
    exact Document.content_map fun l hl => LineFilter.isMarkup_commentLine (h l hl)
  | pauses => exact (Reveal.content_convertPauses d).trans (List.map_id _).symm
  | compactLists => exact (Reveal.content_compactLists d).trans (List.map_id _).symm
  | columns => exact (Layout.content_convert d).trans (List.map_id _).symm
  | imageChunks =>
    have hd : Figure.convert d = d := Figure.recogniser.rewrite_eq_self Figure.render
      fun l hl => Figure.read_of_not_chunk (h l hl)
    rw [apply, hd]
    exact (List.map_id _).symm
  | setupChunks =>
    have hd : SetupCode.remove d = d := SetupCode.recogniser.rewrite_eq_self _
      fun l hl => SetupCode.read_of_not_setup (h l hl).1 (h l hl).2
    rw [apply, hd]
    exact (List.map_id _).symm
  | codePaths =>
    exact Document.content_map fun l hl => ProjectPath.rewriteLine_keepsMarks.isMarkup_eq (h l hl)
  | imageLinks =>
    exact Document.content_map fun l hl => ProjectPath.fixLine_keepsMarks.isMarkup_eq (h l hl)
  | footnotes =>
    have hd : Footnote.convert d = d := Footnote.recogniser.rewrite_eq_self Footnote.render
      fun l hl => Footnote.read_of_not_opening (h l hl)
    rw [apply, hd]
    exact (List.map_id _).symm

/-- Apart from the first one, every stage spares a document of plain and settled lines. -/
theorem Stage.spares_of_plain_settled {stage : Stage} (hstage : stage ≠ .header) {d : Document}
    (hd : ∀ l ∈ d, l.Plain ∧ l.Settled) : stage.Spares d := by
  cases stage with
  | header => exact absurd rfl hstage
  | commentPatterns | codePaths | imageLinks => exact fun l hl => (hd l hl).2
  | imageChunks => exact fun l hl => (hd l hl).1.chunk
  | setupChunks => exact fun l hl => ⟨(hd l hl).1.optionsCall, (hd l hl).1.cropHook⟩
  | footnotes => exact fun l hl => (hd l hl).1.footnote
  | notes | stripSeparators | removePatterns | pauses | compactLists | columns => exact trivial

/-! ## The run -/

namespace Pipeline

/-- Every stage of a run with the built-in patterns is given a document that it spares. -/
def Spared : List Stage → Document → Prop
  | [], _ => True
  | stage :: stages, d => stage.Spares d ∧ Spared stages (stage.apply Config.default d)

theorem spared_append (stages more : List Stage) (d : Document) :
    Spared (stages ++ more) d ↔
      Spared stages d ∧ Spared more (runStages Config.default stages d).lines := by
  induction stages generalizing d with
  | nil => exact ⟨fun h => ⟨trivial, h⟩, fun h => h.2⟩
  | cons stage stages ih =>
    rw [List.cons_append, Spared, Spared, ih, and_assoc]
    exact Iff.rfl

/-- A property of all lines that the stages keep, and that makes each of them spare a document. -/
theorem spared_of_writes {P : Line → Prop} {stages : List Stage}
    (hwrites : ∀ stage ∈ stages, stage.Writes Config.default P)
    (hspares : ∀ stage ∈ stages, ∀ d : Document, (∀ l ∈ d, P l) → stage.Spares d)
    {d : Document} (hd : ∀ l ∈ d, P l) : Spared stages d := by
  induction stages generalizing d with
  | nil => exact trivial
  | cons stage stages ih =>
    obtain ⟨hstage, hwrites⟩ := List.forall_mem_cons.1 hwrites
    obtain ⟨hspare, hspares⟩ := List.forall_mem_cons.1 hspares
    exact ⟨hspare d hd, ih hwrites hspares (Stage.forall_mem_apply hstage hd)⟩

theorem content_runStages {stages : List Stage} {d : Document} (h : Spared stages d) :
    content (runStages Config.default stages d).lines
      = (content d).map fun l =>
        stages.foldl (fun l stage => stage.contentLine Config.default l) l := by
  induction stages generalizing d with
  | nil => exact (List.map_id _).symm
  | cons stage stages ih =>
    have hrest := ih h.2
    rw [Stage.content_apply h.1, List.map_map] at hrest
    exact hrest

/-! ## All stages -/

/-- What the first four stages leave of a plain deck is plain and settled. -/
theorem plain_settled_front {d : Document} (hfirst : Leading.read d = .absent)
    (hplain : ∀ l ∈ d, l.Plain) {l : Line}
    (hl : l ∈ (runStages Config.default [.header, .notes, .stripSeparators, .removePatterns]
      d).lines) : l.Plain ∧ l.Settled := by
  obtain ⟨hl, hkept⟩ := List.mem_filter.1 hl
  have hstrip : l ∈ Separator.strip
      (Notes.convert (Metadata.normalize Config.default.title d)) := hl
  rw [Separator.front_of_absent hfirst] at hstrip
  obtain ⟨hl, hseparator⟩ := List.mem_filter.1 hstrip
  have hnotes : ∀ l ∈ Notes.convert d, l.Plain := Notes.forall_mem_convert (by decide) hplain
  rw [Bool.not_eq_true', Separator.isSeparator, Bool.or_eq_false_iff] at hseparator
  have hpackage : Config.defaultRemove.isMatch l = false := by
    simpa [Pattern.anyMatch, Config.default] using hkept
  rw [Config.isMatch_defaultRemove] at hpackage
  exact ⟨hnotes l hl, hseparator.2, hpackage⟩

theorem writes_plain_settled : ∀ stage ∈ [Stage.commentPatterns, .pauses, .compactLists, .columns,
    .imageChunks, .setupChunks],
    stage.Writes Config.default fun l => l.Plain ∧ l.Settled := by
  refine List.forall_mem_cons.2 ⟨fun l hl => ⟨Line.plain_comment hl.1, Line.settled_comment l⟩,
    List.forall_mem_cons.2 ⟨?_, List.forall_mem_cons.2 ⟨trivial, List.forall_mem_cons.2 ⟨?_,
    List.forall_mem_cons.2 ⟨?_, List.forall_mem_singleton.2 trivial⟩⟩⟩⟩⟩
  · exact show Reveal.pauseLine.Plain ∧ Reveal.pauseLine.Settled by decide
  · exact show ∀ l ∈ Layout.container [] [], Line.Plain l ∧ Line.Settled l by decide
  · intro d r b hread hd
    cases d with
    | nil => exact absurd hread (by simp [Figure.read])
    | cons l d =>
      rw [Figure.read_of_not_chunk (hd l (List.mem_cons_self ..)).1.chunk] at hread
      exact absurd hread (by simp)

theorem writes_settled : ∀ stage ∈ [Stage.codePaths, .imageLinks, .footnotes],
    stage.Writes Config.default
      fun l => l.Settled ∧ l.opensWith ".footnote[".toList = false := by
  have hkeeps : ∀ f : Line → Line, KeepsMarks f → ∀ l : Line,
      l.Settled ∧ l.opensWith ".footnote[".toList = false →
      (f l).Settled ∧ (f l).opensWith ".footnote[".toList = false := fun f hf l hl =>
    ⟨hf.settled hl.1, hf.opensWith_eq_false (by decide) (by decide) hl.2⟩
  refine List.forall_mem_cons.2 ⟨hkeeps _ ProjectPath.rewriteLine_keepsMarks,
    List.forall_mem_cons.2 ⟨hkeeps _ ProjectPath.fixLine_keepsMarks,
    List.forall_mem_singleton.2 ?_⟩⟩
  intro d r b hread hd
  cases d with
  | nil => exact absurd hread (by simp [Footnote.read])
  | cons l d =>
    rw [Footnote.read_of_not_opening (hd l (List.mem_cons_self ..)).2] at hread
    exact absurd hread (by simp)

/-- A deck without metadata whose lines are plain is spared by all stages. -/
theorem spared_all {d : Document} (hfirst : Leading.read d = .absent)
    (hplain : ∀ l ∈ d, l.Plain) : Spared Stage.all d := by
  have hmiddle := fun l => plain_settled_front hfirst hplain (l := l)
  have hback := forall_mem_runStages writes_plain_settled hmiddle
  refine (spared_append [.header, .notes, .stripSeparators, .removePatterns] _ d).2
    ⟨⟨hfirst, trivial, trivial, trivial, trivial⟩, ?_⟩
  refine (spared_append [.commentPatterns, .pauses, .compactLists, .columns, .imageChunks,
    .setupChunks] [.codePaths, .imageLinks, .footnotes] _).2
    ⟨spared_of_writes writes_plain_settled ?_ hmiddle,
      spared_of_writes writes_settled ?_ fun l hl => ⟨(hback l hl).2, (hback l hl).1.footnote⟩⟩
  · intro stage hstage d hd
    refine Stage.spares_of_plain_settled ?_ hd
    rintro rfl
    exact absurd hstage (by decide)
  · exact List.forall_mem_cons.2 ⟨fun d hd l hl => (hd l hl).1,
      List.forall_mem_cons.2 ⟨fun d hd l hl => (hd l hl).1,
      List.forall_mem_singleton.2 fun d hd l hl => (hd l hl).2⟩⟩

/-- **No content is lost, doubled or moved.**  If a deck has no metadata block, no footnotes, no R
chunks and no setup code, then the content of what it is converted to is its own content, line by
line, each line commented out and respelled on its own.  Nothing is asked of notes and columns:
they may be nested, without partner or without end. -/
theorem content_run {d : Document} (hfirst : ∀ l ∈ d.head?, l.trimsTo delimiter = false)
    (hplain : ∀ l ∈ d, l.Plain) :
    content (run Config.default d).lines
      = (content d).map fun l => ProjectPath.fixLine (ProjectPath.rewriteLine
        (LineFilter.commentLine Config.default.commentPatterns l)) :=
  content_runStages (spared_all ((Leading.read_eq_absent_iff d).2 hfirst) hplain)

/-- Notes in a column that has no end, and a column in the notes, which have none either. -/
theorem content_run_nested :
    (∀ l ∈ (Document.ofText
        ".pull-left[\na\n???\n![](images/b)\n.pull-right[\ntestthat::test_dir(\"tests\")".toList
        ).head?, l.trimsTo delimiter = false)
      ∧ (∀ l ∈ Document.ofText
          ".pull-left[\na\n???\n![](images/b)\n.pull-right[\ntestthat::test_dir(\"tests\")".toList,
        l.Plain)
      ∧ content (run Config.default (Document.ofText
          ".pull-left[\na\n???\n![](images/b)\n.pull-right[\ntestthat::test_dir(\"tests\")".toList
          )).lines
        = ["a\n".toList, "![](../images/b)\n".toList,
          "# testthat::test_dir(\"tests\")\n".toList] := by
  have hfirst : ∀ l ∈ (Document.ofText
      ".pull-left[\na\n???\n![](images/b)\n.pull-right[\ntestthat::test_dir(\"tests\")".toList
      ).head?, l.trimsTo delimiter = false := by decide
  have hplain : ∀ l ∈ Document.ofText
      ".pull-left[\na\n???\n![](images/b)\n.pull-right[\ntestthat::test_dir(\"tests\")".toList,
      l.Plain := by decide
  refine ⟨hfirst, hplain, ?_⟩
  rw [content_run hfirst hplain]
  decide +kernel

end Pipeline
end SlideDeck
