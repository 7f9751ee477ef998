import SlideDeck.Document.Piece

/-!
# What a rewrite keeps

A rewrite replaces blocks and passes everything else by, so a statement about its result comes
down to one about a single block.  These are the forms of that step, each an induction along the
scan.

* `forall_mem_rewrite` — a property of all elements survives if every block is written with it.
* `filter_rewrite` — the elements of a class survive in order if every block is written with
  those it was read from; `any_rewrite` — whether there is one.
* `forall_suffix_rewrite` — a property of what goes to the end of a rewritten list.
* `rewrite_append_of_unread` and `rewrite_append` — a front in which nothing starts a block stays
  as it is; `rewrite_append_of_read_append` — a front whose blocks end in it is rewritten by itself,
  and `pieces_append_of_read_append` — it has its own pieces.
* `read_of_pieces` — a block among the pieces was read where it stands.
* `rewrite_eq_self_of_suffix` — so does a list in which no block can be read, wherever one begins.
-/

set_option autoImplicit false

namespace SlideDeck

/-- An end of two lists is an end of the second one, or reaches into the first one. -/
theorem suffix_append_cases {α : Type} {m s t : List α} (h : m <:+ s ++ t) :
    m <:+ t ∨ ∃ r, r ≠ [] ∧ r <:+ s ∧ m = r ++ t := by
  rcases List.suffix_or_suffix_of_suffix h (List.suffix_append s t) with hm | ⟨r, rfl⟩
  · exact Or.inl hm
  · by_cases hr : r = []
    · rw [hr, List.nil_append]
      exact Or.inl (List.suffix_refl t)
    · obtain ⟨x, hx⟩ := h
      rw [← List.append_assoc] at hx
      exact Or.inr ⟨r, hr, ⟨x, List.append_cancel_right hx⟩, rfl⟩

namespace Recogniser

variable {α β : Type}

theorem forall_mem_rewrite (rec : Recogniser α β) {render : β → List α} {P : α → Prop}
    (hblock : ∀ (s r : List α) (b : β), rec.read s = some (b, r) → (∀ a ∈ s, P a) →
      ∀ a ∈ render b, P a)
    {s : List α} (hs : ∀ a ∈ s, P a) : ∀ a ∈ rec.rewrite render s, P a := by
  induction s using rec.scan_induction with
  | nil =>
    rw [rewrite_nil]
    exact hs
  | plain a s h ih =>
    rw [rec.rewrite_cons_of_none render h]
    obtain ⟨ha, hs⟩ := List.forall_mem_cons.1 hs
    exact List.forall_mem_cons.2 ⟨ha, ih hs⟩
  | block front b r h ih =>
    rw [rec.rewrite_of_some render h]
    exact List.forall_mem_append.2
      ⟨hblock _ _ _ h hs, ih (List.forall_mem_append.1 hs).2⟩

theorem filter_rewrite (rec : Recogniser α β) {render : β → List α} {p : α → Bool}
    (hblock : ∀ (front r : List α) (b : β), rec.read (front ++ r) = some (b, r) →
      (render b).filter p = front.filter p)
    (s : List α) : (rec.rewrite render s).filter p = s.filter p := by
  induction s using rec.scan_induction with
  | nil => rw [rewrite_nil]
  | plain a s h ih => rw [rec.rewrite_cons_of_none render h, List.filter_cons, ih, List.filter_cons]
  | block front b r h ih =>
    rw [rec.rewrite_of_some render h, List.filter_append, ih, hblock front r b h,
      List.filter_append]

/-- Whether there is an element of a class does not change if each block is written with one
exactly if it was read from one. -/
theorem any_rewrite (rec : Recogniser α β) {render : β → List α} {p : α → Bool}
    (hblock : ∀ (front r : List α) (b : β), rec.read (front ++ r) = some (b, r) →
      (render b).any p = front.any p)
    (s : List α) : (rec.rewrite render s).any p = s.any p := by
  induction s using rec.scan_induction with
  | nil => rw [rewrite_nil]
  | plain a s h ih => rw [rec.rewrite_cons_of_none render h, List.any_cons, ih, List.any_cons]
  | block front b r h ih =>
    rw [rec.rewrite_of_some render h, List.any_append, ih, hblock front r b h, List.any_append]

/-- The parts of a rewritten list that go to its end start at a plain element or inside a new
block. -/
theorem forall_suffix_rewrite (rec : Recogniser α β) {render : β → List α} {Q : List α → Prop}
    {s : List α} (nil : Q [])
    (plain : ∀ a t, a :: t <:+ s → rec.read (a :: t) = none → Q (a :: rec.rewrite render t))
    (block : ∀ front b r, front ++ r <:+ s → rec.read (front ++ r) = some (b, r) →
      ∀ z, z ≠ [] → z <:+ render b → Q (z ++ rec.rewrite render r)) :
    ∀ u, u <:+ rec.rewrite render s → Q u := by
  induction s using rec.scan_induction with
  | nil =>
    intro u hu
    rw [rewrite_nil] at hu
    rw [List.suffix_nil.1 hu]
    exact nil
  | plain a s h ih =>
    intro u hu
    have hsuffix : s <:+ a :: s := List.suffix_cons a s
    rw [rec.rewrite_cons_of_none render h] at hu
    rcases List.suffix_cons_iff.1 hu with rfl | hu
    · exact plain a s (List.suffix_refl _) h
    · exact ih (fun a t ht => plain a t (ht.trans hsuffix))
        (fun front b r hr => block front b r (hr.trans hsuffix)) u hu
  | block front b r h ih =>
    intro u hu
    have hsuffix : r <:+ front ++ r := List.suffix_append front r
    rw [rec.rewrite_of_some render h] at hu
    have hrest := ih (fun a t ht => plain a t (ht.trans hsuffix))
      fun front b r hr => block front b r (hr.trans hsuffix)
    rcases suffix_append_cases hu with hu | ⟨z, hz, hsource, rfl⟩
    · exact hrest u hu
    · exact block front b r (List.suffix_refl _) h z hz hsource

/-- A front in which no block starts, given what follows it, stays in front of the rest. -/
theorem rewrite_append_of_unread (rec : Recogniser α β) (render : β → List α) {front s : List α}
    (hfront : ∀ t, t ≠ [] → t <:+ front → rec.read (t ++ s) = none) :
    rec.rewrite render (front ++ s) = front ++ rec.rewrite render s := by
  induction front with
  | nil => rfl
  | cons a front ih =>
    have ha : rec.read (a :: (front ++ s)) = none :=
      hfront (a :: front) (List.cons_ne_nil a front) (List.suffix_refl _)
    have hrest := ih fun t hne ht => hfront t hne (ht.trans (List.suffix_cons a front))
    rw [List.cons_append, rec.rewrite_cons_of_none render ha, hrest, List.cons_append]

/-- Elements that start no block, whatever follows them, stay in front of the rest. -/
theorem rewrite_append (rec : Recogniser α β) (render : β → List α) {front : List α}
    (hfront : ∀ a ∈ front, ∀ s, rec.read (a :: s) = none) (s : List α) :
    rec.rewrite render (front ++ s) = front ++ rec.rewrite render s := by
  refine rec.rewrite_append_of_unread render fun t hne ht => ?_
  obtain ⟨a, t, rfl⟩ := List.exists_cons_of_ne_nil hne
  exact hfront a (ht.subset (List.mem_cons_self ..)) _

/-- A front and what follows it have their own pieces, if no block of the front takes in what
follows and none begins because of it.  Blocks are compared by what `g` says of them, and that has
to be all that `f` asks for. -/
theorem flatMap_pieces_append (rec : Recogniser α β) {γ δ : Type} {f : Piece α β → List γ}
    {g : β → δ} (hf : ∀ source b b', g b = g b' → f (.block source b) = f (.block source b'))
    {front s : List α}
    (hfront : ∀ t, t ≠ [] → t <:+ front →
      (rec.read (t ++ s)).map (fun p => (g p.1, p.2))
        = (rec.read t).map fun p => (g p.1, p.2 ++ s)) :
    (rec.pieces (front ++ s)).flatMap f
      = (rec.pieces front).flatMap f ++ (rec.pieces s).flatMap f := by
  induction front using rec.scan_induction with
  | nil => rw [pieces_nil, List.nil_append, List.flatMap_nil, List.nil_append]
  | plain a t h ih =>
    have hread := hfront (a :: t) (List.cons_ne_nil a t) (List.suffix_refl _)
    rw [h, Option.map_none, Option.map_eq_none_iff] at hread
    have hrest := ih fun u hne hu => hfront u hne (hu.trans (List.suffix_cons a t))
    rw [List.cons_append] at hread ⊢
    rw [rec.pieces_cons_of_none hread, rec.pieces_cons_of_none h, List.flatMap_cons, hrest,
      List.flatMap_cons, List.append_assoc]
  | block source b r h ih =>
    obtain ⟨a, t, hsource⟩ := rec.read_front h
    have hne : source ++ r ≠ [] := by simp [hsource]
    have hread := hfront (source ++ r) hne (List.suffix_refl _)
    rw [h, Option.map_some, Option.map_eq_some_iff] at hread
    obtain ⟨⟨b', r'⟩, hread, hsame⟩ := hread
    obtain ⟨hblock, rfl⟩ := Prod.mk.inj hsame
    rw [List.append_assoc] at hread ⊢
    have hrest := ih fun u hne hu => hfront u hne (hu.trans (List.suffix_append source r))
    rw [rec.pieces_append_of_some hread, rec.pieces_append_of_some h, List.flatMap_cons, hrest,
      List.flatMap_cons, List.append_assoc, hf source b' b hblock]

/-- A front is rewritten by itself, if what is read in it is written in the same way whatever
follows. -/
theorem rewrite_append_of_read_append (rec : Recogniser α β) (render : β → List α)
    {front s : List α}
    (hfront : ∀ t, t ≠ [] → t <:+ front →
      (rec.read (t ++ s)).map (fun p => (render p.1, p.2))
        = (rec.read t).map fun p => (render p.1, p.2 ++ s)) :
    rec.rewrite render (front ++ s) = rec.rewrite render front ++ rec.rewrite render s :=
  rec.flatMap_pieces_append (fun _ _ _ hsame => hsame) hfront

/-- The parts of a list have their own pieces if what is read in the first one does not depend on
the second. -/
theorem pieces_append_of_read_append (rec : Recogniser α β) {front s : List α}
    (h : ∀ t, t ≠ [] → t <:+ front →
      rec.read (t ++ s) = (rec.read t).map fun p => (p.1, p.2 ++ s)) :
    rec.pieces (front ++ s) = rec.pieces front ++ rec.pieces s := by
  have hparts := rec.flatMap_pieces_append (f := fun p => [p]) (g := id)
    (fun _ _ _ hsame => by rw [id, id] at hsame; rw [hsame])
    fun t hne ht => by rw [h t hne ht, Option.map_map]; rfl
  simpa only [List.flatMap_singleton'] using hparts

/-- A block among the pieces of a list was read in front of what the pieces behind it are made
of. -/
theorem read_of_pieces (rec : Recogniser α β) {d s : List α} {b : β}
    {before after : List (Piece α β)} (h : rec.pieces d = before ++ .block s b :: after) :
    ∃ r, after = rec.pieces r ∧ rec.read (s ++ r) = some (b, r) := by
  induction d using rec.scan_induction generalizing before with
  | nil =>
    rw [pieces_nil] at h
    cases before <;> cases h
  | plain a d hread ih =>
    rw [rec.pieces_cons_of_none hread] at h
    cases before with
    | nil => cases h
    | cons p before => exact ih (List.cons.inj h).2
  | block front b' r hread ih =>
    rw [rec.pieces_append_of_some hread] at h
    cases before with
    | nil =>
      obtain ⟨hblock, hafter⟩ := List.cons.inj h
      obtain ⟨rfl, rfl⟩ := Piece.block.inj hblock
      exact ⟨r, hafter.symm, hread⟩
    | cons p before => exact ih (List.cons.inj h).2

theorem read_of_pieces_eq (rec : Recogniser α β) {s source : List α} {b : β}
    {before after : List (Piece α β)} (h : rec.pieces s = before ++ .block source b :: after) :
    rec.read (source ++ after.flatMap Piece.source) = some (b, after.flatMap Piece.source) := by
  obtain ⟨r, rfl, hread⟩ := rec.read_of_pieces h
  rwa [rec.pieces_source]

/-- A list in which nothing starts a block stays as it is. -/
theorem rewrite_eq_self (rec : Recogniser α β) (render : β → List α) {s : List α}
    (hs : ∀ a ∈ s, ∀ t, rec.read (a :: t) = none) : rec.rewrite render s = s := by
  have h := rec.rewrite_append render hs []
  rwa [List.append_nil, rewrite_nil, List.append_nil] at h

/-- A list in which no part read to its end starts with a block stays as it is. -/
theorem rewrite_eq_self_of_suffix (rec : Recogniser α β) (render : β → List α) {s : List α}
    (hs : ∀ t, t <:+ s → rec.read t = none) : rec.rewrite render s = s := by
  have h := rec.rewrite_append_of_unread render (s := []) fun t _ ht => by
    rw [List.append_nil]
    exact hs t ht
  rwa [List.append_nil, rewrite_nil, List.append_nil] at h

end Recogniser
end SlideDeck
