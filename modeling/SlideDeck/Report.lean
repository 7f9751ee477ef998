import SlideDeck.Text.Basic

/-!
# Stages and what is reported of them

* `Stage` names the rewriting stages, `Stage.all` lists them in the order in which they run.
* `StageReport` says what one stage did to a document, `Stats` what a whole conversion did.
* `Stats.json` is the statistics as a JSON text with two blanks of indentation per level.
-/

set_option autoImplicit false

namespace SlideDeck

/-- A rewriting stage. -/
inductive Stage where
  | header
  | notes
  | stripSeparators
  | removePatterns
  | commentPatterns
  | pauses
  | compactLists
  | columns
  | imageChunks
  | setupChunks
  | codePaths
  | imageLinks
  | footnotes
  deriving DecidableEq, Repr

namespace Stage

/-- Every stage, in running order.  Notes come before separators, because a separator ends a
notes block.  Pauses come before columns, because a pause must not split a pair of columns.
Image chunks come before code paths and image links, so that a path inside such a chunk is
rewritten once. -/
def all : List Stage :=
  [header, notes, stripSeparators, removePatterns, commentPatterns, pauses, compactLists, columns,
    imageChunks, setupChunks, codePaths, imageLinks, footnotes]

/-- The name of a stage in reports. -/
def name : Stage → Text
  | header => "header".toList
  | notes => "notes".toList
  | stripSeparators => "strip-separators".toList
  | removePatterns => "remove-patterns".toList
  | commentPatterns => "comment-patterns".toList
  | pauses => "pauses".toList
  | compactLists => "compact-lists".toList
  | columns => "columns".toList
  | imageChunks => "image-chunks".toList
  | setupChunks => "setup-chunks".toList
  | codePaths => "code-paths".toList
  | imageLinks => "image-links".toList
  | footnotes => "footnotes".toList

/-- The stage with a given name. -/
def ofName? (s : Text) : Option Stage := all.find? fun stage => stage.name == s

theorem mem_all (stage : Stage) : stage ∈ all := by
  cases stage <;> decide

theorem ofName?_name (stage : Stage) : ofName? stage.name = some stage := by
  cases stage <;> decide

end Stage

/-- What one stage did to a document. -/
structure StageReport where
  stage : Stage
  /-- How many lines the stage was given. -/
  linesIn : Nat
  /-- How many lines it returned. -/
  linesOut : Nat
  /-- Whether any line was added, removed or rewritten. -/
  changed : Bool
  deriving DecidableEq, Repr

/-- What a conversion did to a document. -/
structure Stats where
  inputLines : Nat
  outputLines : Nat
  /-- One report per stage, in running order. -/
  stages : List StageReport
  deriving DecidableEq, Repr

namespace Stats

/-- The stages that changed something. -/
def changedStages (stats : Stats) : List Stage :=
  (stats.stages.filter (·.changed)).map (·.stage)

/-! ## Statistics as JSON -/

/-- One field of a JSON object, on a line of its own. -/
def jsonField (indent : Nat) (key value : Text) : Text :=
  List.replicate indent ' ' ++ "\"".toList ++ key ++ "\": ".toList ++ value

/-- A stage report as a JSON object at the indentation of a list element. -/
def jsonReport (r : StageReport) : Text :=
  "    \x7b\n".toList
    ++ Text.joinWith ",\n".toList
      [jsonField 6 "stage".toList ("\"".toList ++ r.stage.name ++ "\"".toList),
        jsonField 6 "lines_in".toList (Text.ofNat r.linesIn),
        jsonField 6 "lines_out".toList (Text.ofNat r.linesOut),
        jsonField 6 "changed".toList (if r.changed then "true".toList else "false".toList)]
    ++ "\n    \x7d".toList

/-- The reports as a JSON list; the list without elements has no line breaks. -/
def jsonReports (rs : List StageReport) : Text :=
  if rs.isEmpty then "[]".toList
  else "[\n".toList ++ Text.joinWith ",\n".toList (rs.map jsonReport) ++ "\n  ]".toList

/-- The statistics as a JSON object; `duration` is in milliseconds. -/
def json (stats : Stats) (duration : Nat) : Text :=
  "\x7b\n".toList
    ++ Text.joinWith ",\n".toList
      [jsonField 2 "input_lines".toList (Text.ofNat stats.inputLines),
        jsonField 2 "output_lines".toList (Text.ofNat stats.outputLines),
        jsonField 2 "stages".toList (jsonReports stats.stages),
        jsonField 2 "duration_ms".toList (Text.ofNat duration)]
    ++ "\n\x7d".toList

end Stats
end SlideDeck
