import SlideDeck.Slide.Metadata

/-!
# Slide separators

The converted document starts a slide at each heading, so the separator lines `---` and the
`class:` lines of single slides go.  The metadata block is left alone, because its delimiters look
like separators.  This rule looks for the block by itself: it is after the end of the block alone,
and by now the speaker notes have been rewritten.
-/

set_option autoImplicit false

namespace SlideDeck.Separator

/-- Whether a line separates slides or gives a slide its classes. -/
def isSeparator (l : Line) : Bool := l.trimsTo delimiter || l.opensWith "class:".toList

/-- How many lines the metadata block at the start of a document takes, delimiters included.  A
block without an end takes all of them. -/
def leadingLength : Document → Nat
  | [] => 0
  | l :: d =>
    if l.trimsTo delimiter then
      match d.findIdx? fun m => m.trimsTo delimiter with
      | some i => i + 2
      | none => d.length + 1
    else 0

/-- The document without separators outside the metadata block. -/
def strip (d : Document) : Document :=
  d.take (leadingLength d) ++ (d.drop (leadingLength d)).filter fun l => !isSeparator l

end SlideDeck.Separator
