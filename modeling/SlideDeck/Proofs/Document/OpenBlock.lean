import SlideDeck.Document.Piece
import SlideDeck.Proofs.Slide.Sources
import Mathlib.Algebra.GroupWithZero.Nat

/-!
# Blocks that are open at the end

A block whose end is missing runs to the end of the list.  Writing the end there should change
nothing but that the block is closed, and a list that ends outside of all blocks should just pass
the end on.

* `Body.read_append_of_closed` and `read_concat_of_open` — a body before more lines, and before the
  line that would have ended it.
* `Recogniser.missing` counts the ends that a list lacks.
* `Recogniser.ClosedBy` — what a block must be like for an element to close it;
  `ClosedBy.rewrite_concat` is the consequence for the whole list, by induction along the scan.
* `Body.closedWith` — most blocks are made from a body, and so are closed by what ends the body.
-/

set_option autoImplicit false

namespace SlideDeck

/-! ## Bodies -/

namespace Body

variable {isEnd : Line → Bool} {d : Document}

/-- What stands after a body with an end is left to be read. -/
theorem read_append_of_closed (h : (read isEnd d).closed = true) (e : Document) :
    read isEnd (d ++ e) = { read isEnd d with rest := (read isEnd d).rest ++ e } := by
  obtain ⟨l, hl⟩ := Option.isSome_iff_exists.1 h
  have hread : read isEnd d = ⟨(read isEnd d).lines, some l, (read isEnd d).rest⟩ := by rw [← hl]
  obtain ⟨hd, hend, hlines⟩ := (read_eq_closed_iff isEnd d _ _ l).1 hread
  generalize (read isEnd d).lines = lines at hread hd hlines
  generalize (read isEnd d).rest = rest at hread hd
  rw [hread, hd, List.append_assoc, List.cons_append]
  exact read_append_cons hlines hend (rest ++ e)

theorem read_concat_of_open (h : (read isEnd d).closed = false) {t : Line}
    (ht : isEnd t = true) : read isEnd (d ++ [t]) = ⟨d, some t, []⟩ :=
  read_append_cons (not_isEnd_of_open h) ht []

end Body

/-! ## Lists of blocks -/

namespace Recogniser

variable {α β : Type}

/-- The blocks of a list, wherever they stand. -/
def found (rec : Recogniser α β) (s : List α) : List β := (rec.blocks s).map fun b => b.2.2

theorem map_numbered {γ : Type} (f : List α × β → γ) (n m : Nat) (ps : List (Piece α β)) :
    (Piece.numbered n ps).map (fun b => f b.2) = (Piece.numbered m ps).map fun b => f b.2 := by
  induction ps generalizing n m with
  | nil => rfl
  | cons p ps ih =>
    cases p with
    | plain a => exact ih (n + 1) (m + 1)
    | block s b =>
      simp only [Piece.numbered, List.map_cons]
      rw [ih (n + s.length) (m + s.length)]

@[simp] theorem found_nil (rec : Recogniser α β) : rec.found [] = [] := by
  simp [found, blocks, Piece.numbered]

theorem found_cons_of_none (rec : Recogniser α β) {a : α} {s : List α}
    (h : rec.read (a :: s) = none) : rec.found (a :: s) = rec.found s := by
  rw [found, blocks, rec.pieces_cons_of_none h]
  exact map_numbered Prod.snd 2 1 _

theorem found_of_some (rec : Recogniser α β) {s r : List α} {b : β}
    (h : rec.read s = some (b, r)) : rec.found s = b :: rec.found r := by
  rw [found, blocks, rec.pieces_of_some h, Piece.numbered, List.map_cons]
  exact congrArg (b :: ·) (map_numbered Prod.snd _ 1 _)

/-- How many ends the blocks of a list lack, if `lacks` says it of one block. -/
def missing (rec : Recogniser α β) (lacks : β → Nat) (s : List α) : Nat :=
  ((rec.found s).map lacks).sum

@[simp] theorem missing_nil (rec : Recogniser α β) (lacks : β → Nat) :
    rec.missing lacks [] = 0 := by
  simp [missing]

theorem missing_cons_of_none (rec : Recogniser α β) (lacks : β → Nat) {a : α} {s : List α}
    (h : rec.read (a :: s) = none) : rec.missing lacks (a :: s) = rec.missing lacks s := by
  simp [missing, rec.found_cons_of_none h]

theorem missing_of_some (rec : Recogniser α β) (lacks : β → Nat) {s r : List α} {b : β}
    (h : rec.read s = some (b, r)) : rec.missing lacks s = lacks b + rec.missing lacks r := by
  simp [missing, rec.found_of_some h]

/-- What is read, before and after an element is added at the end.  A block that has its end is
read as before, and the element is left over.  A block that lacks its end leaves nothing to be
read; with the element it lacks nothing and is written as it was. -/
def ClosedWith (render : β → List α) (lacks : β → Nat) (t : α) :
    (before after : Option (β × List α)) → Prop
  | none, after => after = none
  | some (b, r), after =>
    (lacks b = 0 ∧ after = some (b, r ++ [t]))
      ∨ (lacks b = 1 ∧ r = [] ∧ ∃ b', after = some (b', []) ∧ lacks b' = 0 ∧ render b' = render b)

/-- An element that closes the block that is open at the end of a list and means nothing
elsewhere. -/
structure ClosedBy (rec : Recogniser α β) (render : β → List α) (lacks : β → Nat) (t : α) :
    Prop where
  read_singleton : rec.read [t] = none
  read_concat : ∀ a s, ClosedWith render lacks t (rec.read (a :: s)) (rec.read (a :: (s ++ [t])))

/-- **An end that is missing, written at the end.**  Either one end was missing, and then the
result stays and none is missing any more; or none was, and then the element is passed on. -/
theorem ClosedBy.rewrite_concat {rec : Recogniser α β} {render : β → List α} {lacks : β → Nat}
    {t : α} (h : rec.ClosedBy render lacks t) (s : List α) :
    (rec.missing lacks s = 1 ∧ rec.rewrite render (s ++ [t]) = rec.rewrite render s
        ∧ rec.missing lacks (s ++ [t]) = 0)
      ∨ (rec.missing lacks s = 0 ∧ rec.missing lacks (s ++ [t]) = 0
        ∧ rec.rewrite render (s ++ [t]) = rec.rewrite render s ++ [t]) := by
  induction s using rec.scan_induction with
  | nil =>
    right
    rw [List.nil_append, rec.missing_cons_of_none lacks h.read_singleton,
      rec.rewrite_cons_of_none render h.read_singleton]
    simp
  | plain a s hread ih =>
    have hclosed := h.read_concat a s
    rw [hread] at hclosed
    rw [List.cons_append, rec.missing_cons_of_none lacks hread,
      rec.missing_cons_of_none lacks hclosed, rec.rewrite_cons_of_none render hread,
      rec.rewrite_cons_of_none render hclosed]
    simpa using ih
  | block front b r hread ih =>
    obtain ⟨a, s, hs⟩ := rec.read_front hread
    rw [List.cons_append] at hs
    have hclosed := h.read_concat a (s ++ r)
    rw [← hs, hread, ← List.cons_append, ← hs] at hclosed
    rw [rec.missing_of_some lacks hread, rec.rewrite_of_some render hread]
    rcases hclosed with ⟨hlacks, hread'⟩ | ⟨hlacks, rfl, b', hread', hb', hsame⟩
    · rw [rec.missing_of_some lacks hread', rec.rewrite_of_some render hread', hlacks]
      simpa using ih
    · -- nothing is left to be read behind the block, with its end or without
      left
      rw [rec.missing_of_some lacks hread', rec.rewrite_of_some render hread', hlacks, hb', hsame]
      simp

end Recogniser

/-! ## Blocks that are made from a body -/

/-- How many ends a block lacks that has one end. -/
def lacksEnd (closed : Bool) : Nat := if closed then 0 else 1

@[simp] theorem lacksEnd_true : lacksEnd true = 0 := rfl

@[simp] theorem lacksEnd_false : lacksEnd false = 1 := rfl

/-- **A line that ends a body closes the block that is made from it**, if the block is written
without looking at that line. -/
theorem Body.closedWith {β : Type} {render : β → Document} {lacks : β → Nat}
    {isEnd : Line → Bool} {t : Line} (ht : isEnd t = true) (make : Body → Option β)
    (hrest : ∀ body rest, make { body with rest := rest } = make body)
    (hlacks : ∀ body b, make body = some b → lacks b = lacksEnd body.closed)
    (hrender : ∀ lines, (make ⟨lines, some t, []⟩).map render = (make ⟨lines, none, []⟩).map render)
    (d : Document) :
    Recogniser.ClosedWith render lacks t
      ((make (read isEnd d)).map fun b => (b, (read isEnd d).rest))
      ((make (read isEnd (d ++ [t]))).map fun b => (b, (read isEnd (d ++ [t])).rest)) := by
  cases hclosed : (read isEnd d).closed with
  | true =>
    have hsame : make (read isEnd (d ++ [t])) = make (read isEnd d) := by
      rw [read_append_of_closed hclosed]
      exact hrest _ _
    rw [hsame, read_append_of_closed hclosed]
    cases hmake : make (read isEnd d) with
    | none => rfl
    | some b =>
      have hb := hlacks _ b hmake
      rw [hclosed] at hb
      exact Or.inl ⟨hb, rfl⟩
  | false =>
    rw [read_of_open hclosed, read_concat_of_open hclosed ht]
    have hsame := hrender d
    cases hmake : make ⟨d, none, []⟩ with
    | none =>
      rw [hmake, Option.map_none, Option.map_eq_none_iff] at hsame
      rw [hsame]
      rfl
    | some b =>
      rw [hmake, Option.map_some, Option.map_eq_some_iff] at hsame
      obtain ⟨b', hmake', hb'⟩ := hsame
      rw [hmake']
      exact Or.inr ⟨hlacks _ b hmake, rfl, b', rfl, hlacks _ b' hmake', hb'⟩

end SlideDeck
