import SlideDeck.Document.Body
import SlideDeck.Document.Piece
import SlideDeck.Event

/-!
# Footnotes

A footnote block opens with `.footnote[` at the start of a line.  It ends on the same line if that
line ends with a bracket, and otherwise at the first line that does; without one it runs to the
end of the document.  The converted document has an inline footnote.

* `Footnote.recogniser` reads a block, `Footnote.render` writes the inline footnote.
-/

set_option autoImplicit false

namespace SlideDeck

/-- The text of a footnote, and whether its closing bracket is there. -/
structure Footnote where
  content : Text
  closed : Bool
  deriving DecidableEq, Repr

namespace Footnote

/-- Whether a line ends with a closing bracket, up to white space. -/
def endsBlock (l : Line) : Bool := Text.endsWith (Text.trim l) "]".toList

/-- A text without the last bracket, which white space may follow. -/
def dropBracket (s : Text) : Text := (Text.trimEnd s).dropLast

/-- What stands after the opener of a footnote, if the line opens one. -/
def opening? (l : Line) : Option Text := Text.after? ".footnote[".toList (Text.trimStart l)

/-- The text of a footnote of several lines: the rest of the first line, the lines of the body and
the last line without its bracket, each without white space at its end. -/
def blockContent (first : Text) (body : Body) : Text :=
  Text.joinWith ['\n']
    (Text.trimEnd first :: body.lines.map Text.trimEnd
      ++ body.closing.toList.map fun l => Text.trimEnd (dropBracket l))

/-- Reads the footnote that starts at the first line. -/
def read : Document → Option (Footnote × Document)
  | [] => none
  | l :: d =>
    match opening? l with
    | none => none
    | some first =>
      if endsBlock first then some (⟨Text.trim (dropBracket first), true⟩, d)
      else
        let body := Body.read endsBlock d
        some (⟨Text.trim (blockContent first body), body.closed⟩, body.rest)

/-- Footnotes in a document. -/
def recogniser : Recogniser Line Footnote where
  read := read
  read_front := by
    intro s r b h
    cases s with
    | nil => simp [read] at h
    | cons l d =>
      simp only [read] at h
      split at h
      · simp at h
      · split at h
        · obtain ⟨-, rfl⟩ := Prod.mk.inj (Option.some.inj h)
          exact ⟨l, [], rfl⟩
        · obtain ⟨-, rfl⟩ := Prod.mk.inj (Option.some.inj h)
          refine ⟨l, (Body.read endsBlock d).lines ++ (Body.read endsBlock d).closing.toList, ?_⟩
          simp [Body.read_append]

/-- A footnote as an inline footnote, on lines of its own. -/
def render (b : Footnote) : Document :=
  Document.pushFragment [] ("^[".toList ++ b.content ++ "]\n".toList)

theorem text_render (b : Footnote) :
    (render b).text = "^[".toList ++ b.content ++ "]\n".toList :=
  Document.text_pushFragment [] _

/-- The document with its footnotes inline. -/
def convert (d : Document) : Document := recogniser.rewrite render d

/-- A footnote without its bracket is worth a warning. -/
def events (d : Document) : List Event :=
  (recogniser.blocks d).flatMap fun (_, _, b) => if b.closed then [] else [.footnoteUnclosed]

end Footnote
end SlideDeck
