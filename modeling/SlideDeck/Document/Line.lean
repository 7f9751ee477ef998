import SlideDeck.Text.Basic
import SlideDeck.Unicode.Category

/-!
# Documents as lists of lines

A document is the list of its physical lines, each ending in its own newline.  Rules compare on
the trimmed line and pass the line itself on, so what no rule touches survives unchanged.

* `Document.ofText` reads a document; `Document.text` writes it back.
* `Document.pushFragment` appends a text of several lines.
* `Line.isListItem` and `Text.isBlank` classify single lines; `Line.trimsTo` and `Line.opensWith`
  compare one with a mark.
-/

set_option autoImplicit false

namespace SlideDeck

open Unicode (isSpace isDigit)

/-- One physical line, its newline included. -/
abbrev Line := Text

/-- A document, line by line. -/
abbrev Document := List Line

/-! ## Reading and writing -/

/-- The text with each of the line ends CR LF and CR written as a newline, the longer one first. -/
def Text.unifyNewlines (s : Text) : Text :=
  replace ['\r'] ['\n'] (replace ['\r', '\n'] ['\n'] s)

/-- The line with a newline at its end, added if it has none. -/
def Line.terminate (l : Line) : Line :=
  if l.getLast? = some '\n' then l else l ++ ['\n']

/-- The lines of a text.  A rest without newline is a last line and gets one. -/
def Document.ofText (s : Text) : Document :=
  (Text.cutAfterNewlines (Text.unifyNewlines s)).map Line.terminate

/-- The text of a document. -/
def Document.text (d : Document) : Text := d.flatten

/-- The document followed by the lines of a fragment. -/
def Document.pushFragment (d : Document) (fragment : Text) : Document :=
  d ++ Text.cutAfterNewlines fragment

@[simp] theorem Document.pushFragment_nil (fragment : Text) :
    pushFragment [] fragment = Text.cutAfterNewlines fragment := rfl

/-- A fragment is written as it is, however it is cut. -/
theorem Document.text_pushFragment (d : Document) (fragment : Text) :
    (d.pushFragment fragment).text = d.text ++ fragment := by
  rw [text, pushFragment, List.flatten_append, Text.cutAfterNewlines_flatten, text]

/-! ## Classes of lines -/

/-- Whether a text starts with a number, a full stop and white space. -/
def Text.startsOrderedItem (s : Text) : Bool :=
  match s.dropWhile isDigit with
  | '.' :: c :: _ => isSpace c && !(s.takeWhile isDigit).isEmpty
  | _ => false

/-- Whether a line is a list item: `- item`, `* item` or `1. item`, at any indentation. -/
def Line.isListItem (l : Line) : Bool :=
  Text.startsWith (Text.trim l) "- ".toList || Text.startsWith (Text.trim l) "* ".toList
    || Text.startsOrderedItem (Text.trim l)

/-- Whether a line is nothing but `mark`, up to white space at its ends. -/
def Line.trimsTo (l : Line) (mark : Text) : Bool := Text.trim l == mark

/-- Whether a line begins with `mark`, after white space. -/
def Line.opensWith (l : Line) (mark : Text) : Bool := Text.startsWith (Text.trim l) mark

end SlideDeck
