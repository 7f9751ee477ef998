import SlideDeck.Document.Body
import SlideDeck.Event

/-!
# The metadata block

A deck may start with a metadata block between two delimiter lines.  Of its fields only the title
means anything in the converted document.

* `Leading.read` finds the block and its fields.
* `Metadata.normalize` reduces the block to its title, which a configured title replaces.
* `Leading.read_eq_closed_iff` says when a document has a closed block, and what its parts are.
-/

set_option autoImplicit false

namespace SlideDeck

open Unicode (isSpace)

/-- The line that opens and closes the metadata block and separates slides. -/
def delimiter : Text := "---".toList

/-- The start of a document, as far as metadata is concerned. -/
inductive Leading where
  /-- The document does not start with a delimiter. -/
  | absent
  /-- The document starts with a delimiter, and there is no second one. -/
  | unclosed
  /-- The fields between the first two delimiters, and the lines after the second one. -/
  | closed (fields body : Document)
  deriving DecidableEq, Repr

namespace Leading

/-- Finds the metadata block at the start of a document. -/
def read : Document → Leading
  | [] => absent
  | l :: d =>
    if l.trimsTo delimiter then
      let body := Body.read (·.trimsTo delimiter) d
      if body.closed then closed body.lines body.rest else unclosed
    else absent

/-- A document has a closed block exactly if it starts with a delimiter and a second one follows;
the fields are the lines before the first delimiter that does. -/
theorem read_eq_closed_iff (d fields body : Document) :
    read d = closed fields body ↔
      ∃ first last, d = first :: fields ++ last :: body ∧ first.trimsTo delimiter = true
        ∧ last.trimsTo delimiter = true ∧ ∀ l ∈ fields, l.trimsTo delimiter = false := by
  cases d with
  | nil => simp [read]
  | cons l d =>
    have hbody : (∃ last, Body.read (·.trimsTo delimiter) d = ⟨fields, some last, body⟩) ↔
        ∃ last, d = fields ++ last :: body ∧ last.trimsTo delimiter = true
          ∧ ∀ m ∈ fields, m.trimsTo delimiter = false :=
      exists_congr fun last => Body.read_eq_closed_iff _ d fields body last
    constructor
    · intro h
      simp only [read] at h
      split at h
      · next hl =>
        split at h
        · next hclosed =>
          obtain ⟨rfl, rfl⟩ := (Leading.closed.injEq ..).mp h
          obtain ⟨last, hlast⟩ := Option.isSome_iff_exists.1 hclosed
          obtain ⟨last', hd, hend, hall⟩ := hbody.mp ⟨last, by rw [← hlast]⟩
          exact ⟨l, last', by rw [List.cons_append, ← hd], hl, hend, hall⟩
        · simp at h
      · simp at h
    · rintro ⟨first, last, heq, hfirst, hend, hall⟩
      obtain ⟨rfl, hd⟩ := List.cons.inj heq
      obtain ⟨last', hread⟩ := hbody.mpr ⟨last, hd, hend, hall⟩
      rw [read, if_pos hfirst, hread]
      rfl

end Leading

namespace Metadata

/-- The title that a field gives, if it is the title field: what follows the colon up to the end
of that line, trimmed. -/
def titleOfField? (l : Line) : Option Text := do
  let key ← Text.after? "title".toList (Text.trimStart l)
  let value ← Text.after? ":".toList (Text.trimStart key)
  return Text.trim ((Text.trimStart value).takeWhile (· ≠ '\n'))

/-- The title of a block: the configured one, else that of the first title field. -/
def chosenTitle (configured : Option Text) (fields : Document) : Option Text :=
  configured.or (fields.findSome? titleOfField?)

/-- The lines that state a title; an empty title is not stated. -/
def titleLines : Option Text → Document
  | some t => if t.isEmpty then [] else ["title: ".toList ++ t ++ ['\n']]
  | none => []

/-- A delimiter as a line of the converted document. -/
def delimiterLine : Line := delimiter ++ ['\n']

/-- A document with its metadata block reduced to the title.  Without a closed block it stays as
it is. -/
def normalize (configured : Option Text) (d : Document) : Document :=
  match Leading.read d with
  | .closed fields body =>
    delimiterLine :: titleLines (chosenTitle configured fields) ++ delimiterLine :: body
  | _ => d

/-- What is to be told of the metadata block. -/
def events (configured : Option Text) (d : Document) : List Event :=
  match Leading.read d with
  | .closed fields _ => [.title (chosenTitle configured fields)]
  | .unclosed => [.metadataUnclosed]
  | .absent => []

end Metadata
end SlideDeck
