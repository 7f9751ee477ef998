import SlideDeck.Report
import SlideDeck.Text.Quoted

/-!
# The log

* `Event` is what can happen during a conversion that is worth telling: malformed markup, what a
  stage found, what was read and written.
* `Event.level` ranks it, `Event.message` words it, `Event.origin` says which part of the program
  speaks.

Line numbers count from 1 and refer to the document that the reporting stage was given.  No time is
measured, so that a conversion takes 0 ms.
-/

set_option autoImplicit false

namespace SlideDeck

/-- How serious an event is. -/
inductive Level where
  | debug
  | info
  | warn
  | error
  deriving DecidableEq, Repr

namespace Level

/-- The rank of a level; a more serious one is higher. -/
def rank : Level → Nat
  | debug => 0
  | info => 1
  | warn => 2
  | error => 3

/-- The name of a level in the log. -/
def name : Level → Text
  | debug => "DEBUG".toList
  | info => "INFO".toList
  | warn => "WARN".toList
  | error => "ERROR".toList

end Level

/-- The place of a column in a two-column layout. -/
inductive Side where
  | left
  | right
  deriving DecidableEq, Repr

/-- The name of a side at the start of a sentence. -/
def Side.name : Side → Text
  | .left => "Left".toList
  | .right => "Right".toList

/-- Something that happened during a conversion. -/
inductive Event where
  /-- The metadata block has no second delimiter. -/
  | metadataUnclosed
  /-- The title that the metadata block will have. -/
  | title (title : Option Text)
  /-- A notes block has no separator after it. -/
  | notesUnclosed
  /-- A column has no closing bracket. -/
  | columnUnclosed (side : Side) (line : Nat)
  /-- A left and a right column were paired; the pair ends at the line. -/
  | columnsPaired (line : Nat)
  /-- An image chunk has no closing fence. -/
  | imageChunkUnclosed (line : Nat)
  /-- An image chunk became a link to the path. -/
  | imageChunk (line : Nat) (path : Text)
  /-- A call that sets chunk options has no closing parenthesis of its own. -/
  | optionsCallUnclosed (line : Nat)
  /-- A call that sets chunk options was removed. -/
  | optionsCallRemoved (line : Nat)
  /-- A footnote has no closing bracket. -/
  | footnoteUnclosed
  /-- A stage is done. -/
  | stageDone (report : StageReport)
  /-- The conversion of a file begins. -/
  | started (input output : Text)
  /-- A file was read. -/
  | bytesRead (count : Nat) (path : Text)
  /-- A file was written. -/
  | bytesWritten (count : Nat) (path : Text)
  /-- The conversion of a file is done. -/
  | finished (stats : Stats)
  deriving DecidableEq, Repr

namespace Event

/-- How serious an event is: malformed markup is a warning, the two ends of a conversion are
information, the rest is detail. -/
def level : Event → Level
  | metadataUnclosed | notesUnclosed | columnUnclosed _ _ | imageChunkUnclosed _
  | optionsCallUnclosed _ | footnoteUnclosed => .warn
  | started _ _ | finished _ => .info
  | title _ | columnsPaired _ | imageChunk _ _ | optionsCallRemoved _ | stageDone _
  | bytesRead _ _ | bytesWritten _ _ => .debug

/-- A title that may be missing, in the notation of the log. -/
def optionText : Option Text → Text
  | some t => "Some(".toList ++ Text.quoted t ++ ")".toList
  | none => "None".toList

/-- The line of the log for a stage: its name and the two line counts in columns. -/
def stageMessage (r : StageReport) : Text :=
  "Stage ".toList ++ Text.padEnd 16 r.stage.name ++ " ".toList
    ++ Text.padStart 5 (Text.ofNat r.linesIn) ++ " -> ".toList
    ++ Text.padStart 5 (Text.ofNat r.linesOut) ++ " lines".toList
    ++ (if r.changed then [] else " (unchanged)".toList)

/-- The wording of an event.  Durations are written as zero. -/
def message : Event → Text
  | metadataUnclosed => "Metadata block is never closed; leaving it untouched".toList
  | title t => "Header title: ".toList ++ optionText t
  | notesUnclosed => "Notes block runs to end of document".toList
  | columnUnclosed side line =>
    side.name ++ " column opened at line ".toList ++ Text.ofNat line ++ " is never closed".toList
  | columnsPaired line => "Paired columns ending at line ".toList ++ Text.ofNat line
  | imageChunkUnclosed line =>
    "Image chunk opened at line ".toList ++ Text.ofNat line ++ " is never closed".toList
  | imageChunk line path =>
    "Image chunk at line ".toList ++ Text.ofNat line ++ " -> ".toList ++ path
  | optionsCallUnclosed line =>
    "opts_chunk$set call at line ".toList ++ Text.ofNat line ++ " is never closed".toList
  | optionsCallRemoved line =>
    "Removed opts_chunk$set call at line ".toList ++ Text.ofNat line
  | footnoteUnclosed => "Footnote runs to end of document".toList
  | stageDone r => stageMessage r
  | started input output =>
    "Converting ".toList ++ input ++ " -> ".toList ++ output
  | bytesRead n path =>
    "Read ".toList ++ Text.ofNat n ++ " bytes from ".toList ++ path
  | bytesWritten n path =>
    "Wrote ".toList ++ Text.ofNat n ++ " bytes to ".toList ++ path
  | finished s =>
    "Conversion complete: ".toList ++ Text.ofNat s.inputLines ++ " -> ".toList
      ++ Text.ofNat s.outputLines ++ " lines, ".toList ++ Text.ofNat s.changedStages.length
      ++ " stages changed, 0ms".toList

/-- The part of the program that tells of an event. -/
def origin : Event → Text
  | metadataUnclosed | title _ => "xaringan2qmd::pipeline::header".toList
  | notesUnclosed => "xaringan2qmd::pipeline::notes".toList
  | columnUnclosed _ _ | columnsPaired _ => "xaringan2qmd::pipeline::columns".toList
  | imageChunkUnclosed _ | imageChunk _ _ => "xaringan2qmd::pipeline::images".toList
  | optionsCallUnclosed _ | optionsCallRemoved _ => "xaringan2qmd::pipeline::setup".toList
  | footnoteUnclosed => "xaringan2qmd::pipeline::footnotes".toList
  | stageDone _ => "xaringan2qmd::pipeline".toList
  | started _ _ | bytesRead _ _ | bytesWritten _ _ | finished _ =>
    "xaringan2qmd::convert".toList

/-- The text of an event with its level in front. -/
def line (e : Event) : Text := e.level.name ++ " ".toList ++ e.message

end Event
end SlideDeck
