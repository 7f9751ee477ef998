import SlideDeck.Document.Line

/-!
# Step-by-step reveals

A line `--` reveals the rest of a slide.  Standing between blank lines it becomes the pause of the
converted document.  Next to a list item it only reveals the list item by item, so it goes, and
with it the blank line that would make the list loose.

* `Reveal.convertPauses` rewrites or drops the pauses.
* `Reveal.compactLists` drops a single blank line between two list items.
-/

set_option autoImplicit false

namespace SlideDeck.Reveal

/-! ## Pauses -/

/-- Whether a line is a pause of the deck. -/
def isPause (l : Line) : Bool := l.trimsTo "--".toList

/-- A pause of the converted document. -/
def pauseLine : Line := ". . .\n".toList

/-- What becomes of a line between its two neighbours. -/
def convertPause (previous l next : Line) : Document :=
  if isPause l then
    if previous.isListItem || next.isListItem then []
    else if Text.isBlank previous && Text.isBlank next then [pauseLine]
    else [l]
  else [l]

/-- The lines of a document after `previous` with their pauses rewritten.  Neighbours are those of
the given document; at its end the neighbour is empty. -/
def convertPausesAfter (previous : Line) : Document → Document
  | [] => []
  | l :: d => convertPause previous l (d.headD []) ++ convertPausesAfter l d

/-- The document with its pauses rewritten. -/
def convertPauses (d : Document) : Document := convertPausesAfter [] d

/-! ## Loose lists -/

/-- The document without the blank lines that stand alone between two list items. -/
def compactLists : Document → Document
  | a :: b :: c :: d =>
    if a.isListItem && Text.isBlank b && c.isListItem then a :: compactLists (c :: d)
    else a :: compactLists (b :: c :: d)
  | d => d

end SlideDeck.Reveal
