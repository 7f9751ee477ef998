import SlideDeck.Document.Body
import SlideDeck.Document.Piece
import SlideDeck.Event

/-!
# Two-column layouts

A left block and a right block, with nothing but blank lines and pauses between them, are a
two-column layout.  The converted document has one container with two columns.  A block without
its partner gets the full container with the other column empty, so that the width stays.

* `Layout.recogniser` reads a layout: a pair, a lone left or a lone right block.
* `Layout.render` writes the container.
* `Layout.events` tells of blocks without end and of pairs.
-/

set_option autoImplicit false

namespace SlideDeck

/-- One column: its lines, and whether its closing bracket is there. -/
structure Column where
  lines : Document
  closed : Bool
  deriving DecidableEq, Repr

/-- The column that a body makes. -/
def Body.toColumn (b : Body) : Column := ⟨b.lines, b.closed⟩

/-- A two-column layout as it stands in a deck. -/
inductive Layout where
  /-- A left block, `gap` lines between the blocks, and a right block. -/
  | pair (left : Column) (gap : Nat) (right : Column)
  /-- A left block without a right one. -/
  | loneLeft (left : Column)
  /-- A right block without a left one. -/
  | loneRight (right : Column)
  deriving DecidableEq, Repr

namespace Layout

/-! ## Lines that make up a layout -/

/-- Whether a line opens a left block. -/
def isLeft (l : Line) : Bool :=
  l.trimsTo ".pull-left[".toList || l.trimsTo ".two-column-left[".toList

/-- Whether a line opens a right block. -/
def isRight (l : Line) : Bool :=
  l.trimsTo ".pull-right[".toList || l.trimsTo ".two-column-right[".toList

/-- Whether a line closes a block. -/
def isClose (l : Line) : Bool := l.trimsTo "]".toList

/-- Whether a line may stand between the two blocks of a pair: it is blank or a pause, converted
or not. -/
def isGap (l : Line) : Bool :=
  l.trimsTo "--".toList || l.trimsTo ". . .".toList || Text.isBlank l

/-! ## Reading -/

/-- Reads on after a left block: the right block that makes it a pair, if there is one. -/
def readAfterLeft (left : Column) (d : Document) : Layout × Document :=
  match d.dropWhile isGap with
  | [] => (loneLeft left, [])
  | l :: rest =>
    if isRight l then
      let right := Body.read isClose rest
      (pair left (d.takeWhile isGap).length right.toColumn, right.rest)
    else (loneLeft left, l :: rest)

/-- Reads the layout that starts at the first line. -/
def read : Document → Option (Layout × Document)
  | [] => none
  | l :: d =>
    if isLeft l then
      let left := Body.read isClose d
      some (readAfterLeft left.toColumn left.rest)
    else if isRight l then
      let right := Body.read isClose d
      some (loneRight right.toColumn, right.rest)
    else none

theorem suffix_of_readAfterLeft (left : Column) (d : Document) :
    (readAfterLeft left d).2 <:+ d := by
  have hd : d.dropWhile isGap <:+ d := List.dropWhile_suffix isGap
  rw [readAfterLeft]
  split
  · exact List.nil_suffix
  · next l rest h =>
    rw [h] at hd
    split
    · refine List.IsSuffix.trans ?_ hd
      refine ⟨l :: ((Body.read isClose rest).lines ++ (Body.read isClose rest).closing.toList), ?_⟩
      simp [Body.read_append]
    · exact hd

/-- Layouts in a document. -/
def recogniser : Recogniser Line Layout where
  read := read
  read_front := by
    intro s r b h
    cases s with
    | nil => simp [read] at h
    | cons l d =>
      have hbody : (Body.read isClose d).rest <:+ d :=
        ⟨(Body.read isClose d).lines ++ (Body.read isClose d).closing.toList, by
          simp [Body.read_append]⟩
      suffices hr : r <:+ d by
        obtain ⟨t, rfl⟩ := hr
        exact ⟨l, t, rfl⟩
      simp only [read] at h
      split at h
      · have hsuf := suffix_of_readAfterLeft (Body.read isClose d).toColumn
          (Body.read isClose d).rest
        rw [Option.some.inj h] at hsuf
        exact hsuf.trans hbody
      · split at h
        · obtain ⟨-, rfl⟩ := Prod.mk.inj (Option.some.inj h)
          exact hbody
        · simp at h

/-! ## Writing -/

/-- One column of a container. -/
def renderColumn (lines : Document) : Document :=
  "::: \x7b.column width=\"50%\"\x7d\n".toList :: lines
    ++ ["\n".toList, ":::\n".toList, "\n".toList]

/-- The container with a left and a right column. -/
def container (left right : Document) : Document :=
  [":::: \x7b.columns\x7d\n".toList, "\n".toList] ++ renderColumn left ++ renderColumn right
    ++ ["::::\n".toList, "\n".toList]

/-- A layout as a container. -/
def render : Layout → Document
  | pair left _ right => container left.lines right.lines
  | loneLeft left => container left.lines []
  | loneRight right => container [] right.lines

/-- The document with its layouts in containers. -/
def convert (d : Document) : Document := recogniser.rewrite render d

/-! ## Telling -/

/-- A warning if a column is not closed. -/
def unclosedEvents (side : Side) (line : Nat) (c : Column) : List Event :=
  if c.closed then [] else [.columnUnclosed side line]

/-- What is to be told of a layout that starts at line `n` and takes `span` lines. -/
def layoutEvents (n span : Nat) : Layout → List Event
  | pair left gap right =>
    unclosedEvents .left n left
      ++ unclosedEvents .right (n + left.lines.length + gap + 2) right
      ++ [.columnsPaired (n + span - 1)]
  | loneLeft left => unclosedEvents .left n left
  | loneRight right => unclosedEvents .right n right

/-- What is to be told of the layouts of a document. -/
def events (d : Document) : List Event :=
  (recogniser.blocks d).flatMap fun (n, source, b) => layoutEvents n source.length b

end Layout
end SlideDeck
