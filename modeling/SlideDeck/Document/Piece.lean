/-!
# Recognised blocks and what lies between them

Most rules of this library find blocks in a list, left to right, and rewrite each of them: blocks
of lines in a document, calls in a line.

* A `Recogniser` reads a block off the front of a list.  Its law says that it takes a nonempty
  front part, so the scan makes progress.
* `Recogniser.pieces` is the scan: where a block can be read it is, everywhere else one element
  is passed by.
* `pieces_source` says that the scan loses nothing and keeps the order; `scan_induction` is
  induction along the scan.
* `Recogniser.rewrite` replaces each block and keeps every other element.
-/

set_option autoImplicit false

namespace SlideDeck

/-- An element outside of all blocks, or a block together with the elements it was read from. -/
inductive Piece (α β : Type) where
  | plain (a : α)
  | block (source : List α) (b : β)
  deriving DecidableEq, Repr

namespace Piece

variable {α β : Type}

/-- The elements that a piece was read from. -/
def source : Piece α β → List α
  | plain a => [a]
  | block s _ => s

/-- The elements of a piece when blocks are written with `render`. -/
def render (render : β → List α) : Piece α β → List α
  | plain a => [a]
  | block _ b => render b

@[simp] theorem source_plain (a : α) : (plain a : Piece α β).source = [a] := rfl

@[simp] theorem source_block (s : List α) (b : β) : (block s b).source = s := rfl

@[simp] theorem render_plain (f : β → List α) (a : α) : (plain a).render f = [a] := rfl

@[simp] theorem render_block (f : β → List α) (s : List α) (b : β) :
    (block s b).render f = f b := rfl

/-- The blocks among the pieces of a list, each with the number of its first element and the
elements it was read from; the first piece starts at `n`. -/
def numbered : Nat → List (Piece α β) → List (Nat × List α × β)
  | _, [] => []
  | n, plain _ :: ps => numbered (n + 1) ps
  | n, block s b :: ps => (n, s, b) :: numbered (n + s.length) ps

end Piece

/-- A way to read a block off the front of a list. -/
structure Recogniser (α β : Type) where
  /-- The block at the front, if there is one, and the rest of the list. -/
  read : List α → Option (β × List α)
  /-- A block takes a nonempty front part of the list. -/
  read_front : ∀ {s r : List α} {b : β}, read s = some (b, r) → ∃ a t, s = a :: t ++ r

namespace Recogniser

variable {α β : Type}

theorem length_lt_of_read (rec : Recogniser α β) {s r : List α} {b : β}
    (h : rec.read s = some (b, r)) : r.length < s.length := by
  obtain ⟨a, t, rfl⟩ := rec.read_front h
  rw [List.length_append, List.length_cons]
  omega

/-- The blocks of a list and the elements between them, in order. -/
def pieces (rec : Recogniser α β) : List α → List (Piece α β)
  | [] => []
  | a :: s =>
    match _h : rec.read (a :: s) with
    | none => .plain a :: rec.pieces s
    | some (b, r) => .block ((a :: s).take ((a :: s).length - r.length)) b :: rec.pieces r
  termination_by s => s.length
  decreasing_by
  · simp
  · exact rec.length_lt_of_read _h

/-- The blocks of a list with the number of their first element, counted from 1, and the elements
they were read from. -/
def blocks (rec : Recogniser α β) (s : List α) : List (Nat × List α × β) :=
  Piece.numbered 1 (rec.pieces s)

/-- The list with each block written anew and everything else kept. -/
def rewrite (rec : Recogniser α β) (render : β → List α) (s : List α) : List α :=
  (rec.pieces s).flatMap (Piece.render render)

/-! ## Unfolding the scan -/

@[simp] theorem pieces_nil (rec : Recogniser α β) : rec.pieces [] = [] := by
  rw [pieces]

theorem pieces_cons_of_none (rec : Recogniser α β) {a : α} {s : List α}
    (h : rec.read (a :: s) = none) : rec.pieces (a :: s) = .plain a :: rec.pieces s := by
  rw [pieces]
  split
  · rfl
  · next h' => simp [h] at h'

theorem pieces_of_some (rec : Recogniser α β) {s r : List α} {b : β}
    (h : rec.read s = some (b, r)) :
    rec.pieces s = .block (s.take (s.length - r.length)) b :: rec.pieces r := by
  obtain ⟨a, t, rfl⟩ := rec.read_front h
  simp only [List.cons_append] at h ⊢
  rw [pieces]
  split
  · next h' => simp [h] at h'
  · next h' =>
    rw [h] at h'
    obtain ⟨rfl, rfl⟩ := Prod.mk.inj (Option.some.inj h')
    rfl

/-- A block that is read from `front ++ r` with rest `r` has `front` as its source. -/
theorem pieces_append_of_some (rec : Recogniser α β) {front r : List α} {b : β}
    (h : rec.read (front ++ r) = some (b, r)) :
    rec.pieces (front ++ r) = .block front b :: rec.pieces r := by
  rw [rec.pieces_of_some h]
  simp

/-- Induction along the scan: at a plain element it goes on with the tail, at a block with what
the block leaves. -/
theorem scan_induction (rec : Recogniser α β) {motive : List α → Prop} (nil : motive [])
    (plain : ∀ a s, rec.read (a :: s) = none → motive s → motive (a :: s))
    (block : ∀ front b r, rec.read (front ++ r) = some (b, r) → motive r → motive (front ++ r))
    (s : List α) : motive s := by
  induction hn : s.length using Nat.strongRecOn generalizing s with
  | ind n ih =>
    cases s with
    | nil => exact nil
    | cons a s =>
      cases h : rec.read (a :: s) with
      | none => exact plain a s h (ih s.length (by rw [List.length_cons] at hn; omega) s rfl)
      | some p =>
        obtain ⟨b, r⟩ := p
        have hlt := rec.length_lt_of_read h
        obtain ⟨a', t, hs⟩ := rec.read_front h
        rw [hs] at h ⊢
        exact block (a' :: t) b r h (ih r.length (by omega) r rfl)

/-- The scan loses nothing and keeps the order. -/
theorem pieces_source (rec : Recogniser α β) (s : List α) :
    (rec.pieces s).flatMap Piece.source = s := by
  induction s using rec.scan_induction with
  | nil => rw [pieces_nil, List.flatMap_nil]
  | plain a s h ih => rw [rec.pieces_cons_of_none h, List.flatMap_cons, ih]; rfl
  | block front b r h ih => rw [rec.pieces_append_of_some h, List.flatMap_cons, ih]; rfl

/-! ## Unfolding a rewrite -/

@[simp] theorem rewrite_nil (rec : Recogniser α β) (render : β → List α) :
    rec.rewrite render [] = [] := by
  simp [rewrite]

theorem rewrite_cons_of_none (rec : Recogniser α β) (render : β → List α) {a : α} {s : List α}
    (h : rec.read (a :: s) = none) :
    rec.rewrite render (a :: s) = a :: rec.rewrite render s := by
  simp [rewrite, rec.pieces_cons_of_none h]

theorem rewrite_of_some (rec : Recogniser α β) (render : β → List α) {s r : List α} {b : β}
    (h : rec.read s = some (b, r)) :
    rec.rewrite render s = render b ++ rec.rewrite render r := by
  simp [rewrite, rec.pieces_of_some h]

end Recogniser
end SlideDeck
