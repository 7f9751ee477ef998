import SlideDeck.Document.Body
import SlideDeck.Document.Piece
import SlideDeck.Event

/-!
# Setup code

Chunk options of a deck are set by a call that the converted document has no use for, and so is
the hook that crops figures for print.  Both are removed: the hook as one line, the call with all
lines up to the first one that is a closing parenthesis.

* `SetupCode.recogniser` reads either of them.
-/

set_option autoImplicit false

namespace SlideDeck

/-- Setup code that is to be removed. -/
inductive SetupCode where
  /-- The line that sets the crop hook. -/
  | cropHook
  /-- A call that sets chunk options, and whether its closing parenthesis is there. -/
  | optionsCall (closed : Bool)
  deriving DecidableEq, Repr

namespace SetupCode

/-- Whether a line sets the crop hook. -/
def setsCropHook (l : Line) : Bool :=
  Text.contains l "knitr::knit_hooks$set(crop = knitr::hook_pdfcrop)".toList

/-- Whether a line starts a call that sets chunk options. -/
def startsOptionsCall (l : Line) : Bool :=
  match Text.after? "knitr::opts_chunk$set".toList (Text.trimStart l) with
  | some r => Text.startsWith (Text.trimStart r) ['(']
  | none => false

/-- Whether a line is a closing parenthesis and nothing else. -/
def isCloseParen (l : Line) : Bool := l.trimsTo ")".toList

/-- Reads the setup code that starts at the first line. -/
def read : Document → Option (SetupCode × Document)
  | [] => none
  | l :: d =>
    if setsCropHook l then some (cropHook, d)
    else if startsOptionsCall l then
      let body := Body.read isCloseParen d
      some (optionsCall body.closed, body.rest)
    else none

/-- Setup code in a document. -/
def recogniser : Recogniser Line SetupCode where
  read := read
  read_front := by
    intro s r b h
    cases s with
    | nil => simp [read] at h
    | cons l d =>
      simp only [read] at h
      split at h
      · obtain ⟨-, rfl⟩ := Prod.mk.inj (Option.some.inj h)
        exact ⟨l, [], rfl⟩
      · split at h
        · obtain ⟨-, rfl⟩ := Prod.mk.inj (Option.some.inj h)
          refine ⟨l, (Body.read isCloseParen d).lines
            ++ (Body.read isCloseParen d).closing.toList, ?_⟩
          simp [Body.read_append]
        · simp at h

/-- The document without its setup code. -/
def remove (d : Document) : Document := recogniser.rewrite (fun _ => []) d

/-- What is to be told of one piece of setup code that starts at line `n`. -/
def codeEvents (n : Nat) : SetupCode → List Event
  | cropHook => []
  | optionsCall closed =>
    (if closed then [] else [.optionsCallUnclosed n]) ++ [.optionsCallRemoved n]

/-- What is to be told of the setup code of a document. -/
def events (d : Document) : List Event :=
  (recogniser.blocks d).flatMap fun (n, _, b) => codeEvents n b

end SetupCode
end SlideDeck
