import SlideDeck.Document.Line
import SlideDeck.Document.Piece
import SlideDeck.Event

/-!
# Speaker notes

Everything after a line `???` is for the speaker only, up to the next slide separator or the end
of the document.  In the converted document the notes stand in a fenced division.  The separator
stays where it is.

* `Notes.recogniser` reads a notes block, `Notes.render` writes the division.
-/

set_option autoImplicit false

namespace SlideDeck

/-- The lines of a notes block, and whether a separator follows them. -/
structure Notes where
  lines : Document
  closed : Bool
  deriving DecidableEq, Repr

namespace Notes

/-- Whether a line starts speaker notes. -/
def isMarker (l : Line) : Bool := l.trimsTo "???".toList

/-- Whether a line ends speaker notes: it begins like a slide separator. -/
def isSeparator (l : Line) : Bool := l.opensWith "---".toList

/-- Reads the notes that start at the first line. -/
def read : Document → Option (Notes × Document)
  | [] => none
  | l :: d =>
    if isMarker l then
      some (⟨d.takeWhile fun m => !isSeparator m, d.any isSeparator⟩,
        d.dropWhile fun m => !isSeparator m)
    else none

/-- Notes in a document. -/
def recogniser : Recogniser Line Notes where
  read := read
  read_front := by
    intro s r b h
    cases s with
    | nil => simp [read] at h
    | cons l d =>
      simp only [read] at h
      split at h
      · obtain ⟨-, rfl⟩ := Prod.mk.inj (Option.some.inj h)
        exact ⟨l, d.takeWhile fun m => !isSeparator m, by simp⟩
      · simp at h

/-- Notes as a fenced division with an empty line after it. -/
def render (b : Notes) : Document :=
  "::: \x7b.notes\x7d\n".toList :: b.lines ++ [":::\n".toList, "\n".toList]

/-- The document with its notes in divisions. -/
def convert (d : Document) : Document := recogniser.rewrite render d

/-- Notes without a separator after them are worth a warning. -/
def events (d : Document) : List Event :=
  (recogniser.blocks d).flatMap fun (_, _, b) => if b.closed then [] else [.notesUnclosed]

end Notes
end SlideDeck
