import SlideDeck.Proofs.Document.OpenBlock

/-!
# Counting along a rewrite

A rewrite makes a list longer or shorter block by block, so a law about lengths comes down to one
about a block and the elements that it was read from.

* `Recogniser.sourced` — the blocks of a list with the elements they were read from;
  `forall_mem_sourced` carries a fact about reading over to all of them.
* `Piece.numbered_append` — where the blocks begin that stand behind other pieces.
* `Recogniser.total` — a weight of the blocks, summed up; `total_const` counts the blocks.
* `length_rewrite_add` — what the blocks take away and what they add balance; `length_rewrite_le` is
  the case in which no block grows.
-/

set_option autoImplicit false

namespace SlideDeck

theorem Piece.numbered_append {α β : Type} (n : Nat) (ps qs : List (Piece α β)) :
    numbered n (ps ++ qs) = numbered n ps ++ numbered (n + (ps.flatMap source).length) qs := by
  induction ps generalizing n with
  | nil => rfl
  | cons p ps ih =>
    cases p with
    | plain a =>
      rw [List.cons_append, numbered, ih, numbered, List.flatMap_cons, List.length_append,
        source_plain, List.length_singleton, Nat.add_assoc]
    | block s b =>
      rw [List.cons_append, numbered, ih, numbered, List.flatMap_cons, List.length_append,
        source_block, Nat.add_assoc, List.cons_append]

namespace Recogniser

variable {α β : Type}

/-! ## Blocks and their sources -/

/-- The blocks of a list with the elements they were read from. -/
def sourced (rec : Recogniser α β) (s : List α) : List (List α × β) :=
  (rec.blocks s).map fun b => b.2

theorem map_snd_sourced (rec : Recogniser α β) (s : List α) :
    (rec.sourced s).map Prod.snd = rec.found s := by
  rw [sourced, found, List.map_map]
  rfl

@[simp] theorem sourced_nil (rec : Recogniser α β) : rec.sourced [] = [] := by
  simp [sourced, blocks, Piece.numbered]

theorem sourced_cons_of_none (rec : Recogniser α β) {a : α} {s : List α}
    (h : rec.read (a :: s) = none) : rec.sourced (a :: s) = rec.sourced s := by
  rw [sourced, blocks, rec.pieces_cons_of_none h]
  exact map_numbered id 2 1 _

theorem sourced_append_of_some (rec : Recogniser α β) {front r : List α} {b : β}
    (h : rec.read (front ++ r) = some (b, r)) :
    rec.sourced (front ++ r) = (front, b) :: rec.sourced r := by
  rw [sourced, blocks, rec.pieces_append_of_some h, Piece.numbered, List.map_cons]
  exact congrArg ((front, b) :: ·) (map_numbered id _ 1 _)

theorem forall_mem_sourced (rec : Recogniser α β) {P : List α → β → Prop}
    (h : ∀ (front r : List α) (b : β), rec.read (front ++ r) = some (b, r) → P front b)
    (s : List α) : ∀ p ∈ rec.sourced s, P p.1 p.2 := by
  induction s using rec.scan_induction with
  | nil =>
    rw [sourced_nil]
    exact List.forall_mem_nil _
  | plain a s hread ih => rwa [rec.sourced_cons_of_none hread]
  | block front b r hread ih =>
    rw [rec.sourced_append_of_some hread]
    exact List.forall_mem_cons.2 ⟨h front r b hread, ih⟩

/-! ## Weights -/

/-- The weights of the blocks of a list, summed up. -/
def total (rec : Recogniser α β) (weight : List α → β → Nat) (s : List α) : Nat :=
  ((rec.sourced s).map fun p => weight p.1 p.2).sum

@[simp] theorem total_nil (rec : Recogniser α β) (weight : List α → β → Nat) :
    rec.total weight [] = 0 := by
  simp [total]

theorem total_cons_of_none (rec : Recogniser α β) (weight : List α → β → Nat) {a : α}
    {s : List α} (h : rec.read (a :: s) = none) :
    rec.total weight (a :: s) = rec.total weight s := by
  rw [total, rec.sourced_cons_of_none h, total]

theorem total_append_of_some (rec : Recogniser α β) (weight : List α → β → Nat)
    {front r : List α} {b : β} (h : rec.read (front ++ r) = some (b, r)) :
    rec.total weight (front ++ r) = weight front b + rec.total weight r := by
  rw [total, rec.sourced_append_of_some h, List.map_cons, List.sum_cons, total]

/-- Blocks of one weight are counted. -/
theorem total_const (rec : Recogniser α β) (n : Nat) (s : List α) :
    rec.total (fun _ _ => n) s = n * (rec.found s).length := by
  rw [← map_snd_sourced, List.length_map, total, List.map_const', List.sum_replicate_nat,
    Nat.mul_comm]

/-! ## Lengths -/

/-- **A rewrite balances.**  If each block, written anew, makes up with what it takes away for the
elements it was read from and what it adds, then so does the whole list. -/
theorem length_rewrite_add (rec : Recogniser α β) {render : β → List α}
    {taken added : List α → β → Nat}
    (h : ∀ (front r : List α) (b : β), rec.read (front ++ r) = some (b, r) →
      (render b).length + taken front b = front.length + added front b)
    (s : List α) :
    (rec.rewrite render s).length + rec.total taken s = s.length + rec.total added s := by
  induction s using rec.scan_induction with
  | nil => simp
  | plain a s hread ih =>
    rw [rec.rewrite_cons_of_none render hread, rec.total_cons_of_none taken hread,
      rec.total_cons_of_none added hread, List.length_cons, List.length_cons]
    omega
  | block front b r hread ih =>
    have hblock := h front r b hread
    rw [rec.rewrite_of_some render hread, rec.total_append_of_some taken hread,
      rec.total_append_of_some added hread, List.length_append, List.length_append]
    omega

/-- Nothing grows if no block does; what all elements of the list have in common may be used of
the block. -/
theorem length_rewrite_le (rec : Recogniser α β) {render : β → List α} {P : α → Prop}
    (h : ∀ (front r : List α) (b : β), rec.read (front ++ r) = some (b, r) → (∀ a ∈ front, P a) →
      (render b).length ≤ front.length)
    {s : List α} (hs : ∀ a ∈ s, P a) : (rec.rewrite render s).length ≤ s.length := by
  induction s using rec.scan_induction with
  | nil => simp
  | plain a s hread ih =>
    have hrest := ih (List.forall_mem_cons.1 hs).2
    rw [rec.rewrite_cons_of_none render hread, List.length_cons, List.length_cons]
    omega
  | block front b r hread ih =>
    obtain ⟨hfront, hr⟩ := List.forall_mem_append.1 hs
    have hblock := h front r b hread hfront
    have hrest := ih hr
    rw [rec.rewrite_of_some render hread, List.length_append, List.length_append]
    omega

end Recogniser
end SlideDeck
