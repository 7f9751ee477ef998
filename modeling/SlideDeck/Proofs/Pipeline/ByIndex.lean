import SlideDeck.Pipeline
import SlideDeck.Proofs.Code.ByIndex
import SlideDeck.Proofs.Slide.ByIndex

/-!
# Running the stages, by index

The stages as they are carried out on an array of lines: a stage has a result only if every index,
every range and every difference that it asks for exists, and if its loops end.  The filters by
patterns and the two rewritings of single lines ask for nothing by index, and what a reader of a
single line captures is part of what it returns.

* `Stage.apply?`, `Pipeline.runStages?` — a stage and a run of stages, by index.
* `Pipeline.stages_total` — they have a result for every document, whatever its elements are, and
  every configuration; it is the one of the stages that recurse on the document.
-/

set_option autoImplicit false

namespace SlideDeck

/-- What a stage makes of a document, by index. -/
noncomputable def Stage.apply? (config : Config) (d : Document) : Stage → Option Document
  | header => Metadata.normalize? config.title d
  | notes => Notes.convert? d
  | stripSeparators => Separator.strip? d
  | removePatterns => some (LineFilter.remove config.removePatterns d)
  | commentPatterns => some (LineFilter.comment config.commentPatterns d)
  | pauses => Reveal.convertPauses? d
  | compactLists => Reveal.compactLists? d
  | columns => Layout.convert? d
  | imageChunks => Figure.convert? d
  | setupChunks => SetupCode.remove? d
  | codePaths => some (ProjectPath.rewriteCalls d)
  | imageLinks => some (ProjectPath.fixImageLinks d)
  | footnotes => Footnote.convert? d

theorem Stage.apply?_eq (config : Config) (d : Document) (stage : Stage) :
    stage.apply? config d = some (stage.apply config d) := by
  cases stage with
  | header => exact Metadata.normalize?_eq config.title d
  | notes => exact Notes.convert?_eq d
  | stripSeparators => exact Separator.strip?_eq d
  | pauses => exact Reveal.convertPauses?_eq d
  | compactLists => exact Reveal.compactLists?_eq d
  | columns => exact Layout.convert?_eq d
  | imageChunks => exact Figure.convert?_eq d
  | setupChunks => exact SetupCode.remove?_eq d
  | footnotes => exact Footnote.convert?_eq d
  | removePatterns | commentPatterns | codePaths | imageLinks => rfl

namespace Pipeline

/-- Runs stages one after the other, by index. -/
noncomputable def runStages? (config : Config) : List Stage → Document → Option Pipeline
  | [], d => some ⟨d, [], []⟩
  | stage :: stages, d => do
    let returned ← stage.apply? config d
    let report := stage.report d returned
    let rest ← runStages? config stages returned
    return ⟨rest.lines, report :: rest.reports,
      stage.events config d ++ .stageDone report :: rest.events⟩

/-- Runs all stages, by index. -/
noncomputable def run? (config : Config) (d : Document) : Option Pipeline :=
  runStages? config Stage.all d

theorem runStages?_eq (config : Config) (stages : List Stage) (d : Document) :
    runStages? config stages d = some (runStages config stages d) := by
  induction stages generalizing d with
  | nil => rfl
  | cons stage stages ih =>
    rw [runStages?, stage.apply?_eq]
    change (runStages? config stages (stage.apply config d) >>= fun rest => some _) = _
    rw [ih]
    rfl

/-- **The stages are total.**  On every document, be its elements physical lines or not, and with
every configuration, checked or not, each stage and the run of all stages end, and nothing that
they ask for by index is out of range. -/
theorem stages_total (config : Config) (d : Document) :
    (∀ stage : Stage, stage.apply? config d = some (stage.apply config d))
      ∧ run? config d = some (run config d) :=
  ⟨Stage.apply?_eq config d, runStages?_eq config Stage.all d⟩

end Pipeline
end SlideDeck
