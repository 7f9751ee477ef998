import SlideDeck.Document.Line
import SlideDeck.Pattern.Basic

/-!
# Lines that a pattern picks out

* `LineFilter.remove` drops the lines that match a pattern.
* `LineFilter.comment` comments such lines out, unless they are comments already.
-/

set_option autoImplicit false

namespace SlideDeck.LineFilter

/-- The document without the lines that match one of the patterns. -/
def remove (patterns : List Pattern) (d : Document) : Document :=
  d.filter fun l => !Pattern.anyMatch patterns l

/-- Whether a line is a comment already. -/
def isComment (l : Line) : Bool := Text.startsWith (Text.trimStart l) ['#']

/-- The line, commented out if it matches one of the patterns and is no comment yet. -/
def commentLine (patterns : List Pattern) (l : Line) : Line :=
  if Pattern.anyMatch patterns l && !isComment l then "# ".toList ++ l else l

/-- The document with the lines commented out that match one of the patterns. -/
def comment (patterns : List Pattern) (d : Document) : Document := d.map (commentLine patterns)

end SlideDeck.LineFilter
