import SlideDeck.Code.SetupCode
import SlideDeck.Code.Figure
import SlideDeck.Code.LineFilter
import SlideDeck.Code.ProjectPath
import SlideDeck.Config
import SlideDeck.Slide.Layout
import SlideDeck.Slide.Footnote
import SlideDeck.Slide.Metadata
import SlideDeck.Slide.Notes
import SlideDeck.Slide.Reveal
import SlideDeck.Slide.Separator

/-!
# Running the stages

* `Stage.apply` is a stage as a function on documents, `Stage.events` what it tells of one.
* `Pipeline.run` runs all stages in order and keeps a report of each.
* `Conversion.ofText` converts a text.
-/

set_option autoImplicit false

namespace SlideDeck

namespace Stage

/-- What a stage makes of a document. -/
def apply (config : Config) (d : Document) : Stage → Document
  | header => Metadata.normalize config.title d
  | notes => Notes.convert d
  | stripSeparators => Separator.strip d
  | removePatterns => LineFilter.remove config.removePatterns d
  | commentPatterns => LineFilter.comment config.commentPatterns d
  | pauses => Reveal.convertPauses d
  | compactLists => Reveal.compactLists d
  | columns => Layout.convert d
  | imageChunks => Figure.convert d
  | setupChunks => SetupCode.remove d
  | codePaths => ProjectPath.rewriteCalls d
  | imageLinks => ProjectPath.fixImageLinks d
  | footnotes => Footnote.convert d

/-- What a stage tells of a document. -/
def events (config : Config) (d : Document) : Stage → List Event
  | header => Metadata.events config.title d
  | notes => Notes.events d
  | columns => Layout.events d
  | imageChunks => Figure.events d
  | setupChunks => SetupCode.events d
  | footnotes => Footnote.events d
  | stripSeparators | removePatterns | commentPatterns | pauses | compactLists | codePaths
  | imageLinks => []

/-- The report of a stage that was given one document and returned another. -/
def report (stage : Stage) (given returned : Document) : StageReport where
  stage := stage
  linesIn := given.length
  linesOut := returned.length
  changed := decide (returned ≠ given)

end Stage

/-- A document that has run through stages, with their reports and what they told. -/
structure Pipeline where
  lines : Document
  reports : List StageReport
  events : List Event
  deriving DecidableEq, Repr

namespace Pipeline

/-- Runs stages one after the other. -/
def runStages (config : Config) : List Stage → Document → Pipeline
  | [], d => ⟨d, [], []⟩
  | stage :: stages, d =>
    let returned := stage.apply config d
    let report := stage.report d returned
    let rest := runStages config stages returned
    ⟨rest.lines, report :: rest.reports,
      stage.events config d ++ .stageDone report :: rest.events⟩

/-- Runs all stages. -/
def run (config : Config) (d : Document) : Pipeline := runStages config Stage.all d

theorem runStages_lines (config : Config) (stages : List Stage) (d : Document) :
    (runStages config stages d).lines = stages.foldl (fun d stage => stage.apply config d) d := by
  induction stages generalizing d with
  | nil => rfl
  | cons stage stages ih => exact ih _

end Pipeline

/-- A converted text. -/
structure Conversion where
  /-- The converted document. -/
  text : Text
  stats : Stats
  events : List Event
  deriving DecidableEq, Repr

/-- Converts a text. -/
def Conversion.ofText (config : Config) (s : Text) : Conversion :=
  let given := Document.ofText s
  let result := Pipeline.run config given
  { text := Document.text result.lines
    stats := ⟨given.length, result.lines.length, result.reports⟩
    events := result.events }

end SlideDeck
