/-!
# Sets of code points as inversion lists

A set of code points is written as the ascending list of the points at which membership changes,
starting outside: `[9, 14]` is the set of the five points from 9 to 13.

* `member` tests a code point against such a list, `Ascends` says that a list is one.
* `combine` makes the list of a set that is described by a truth table over two others.
* `member_combine` says that it does, and `ascends_combine` that the result ascends again.
* `ofPoints` lists a set of points, `valuesAt` looks up ascending keys in one go.
-/

set_option autoImplicit false

namespace SlideDeck.Unicode

/-! ## Membership -/

/-- Whether `n` belongs to the set with this inversion list. -/
def member (n : Nat) : List Nat → Bool
  | [] => false
  | first :: rest => if n < first then false else !member n rest

@[simp] theorem member_nil (n : Nat) : member n [] = false := rfl

theorem member_cons (n first : Nat) (rest : List Nat) :
    member n (first :: rest) = (!decide (n < first) && !member n rest) := by
  by_cases h : n < first <;> simp [member, h]

theorem member_pair_iff (n a b : Nat) : member n [a, b] = true ↔ a ≤ n ∧ n < b := by
  simp [member_cons]

/-! ## Ascending lists -/

/-- The points ascend strictly, and none of them is below `low`. -/
def Ascends : (low : Nat) → List Nat → Prop
  | _, [] => True
  | low, first :: rest => low ≤ first ∧ Ascends (first + 1) rest

instance decidableAscends : (low : Nat) → (l : List Nat) → Decidable (Ascends low l)
  | _, [] => .isTrue trivial
  | low, first :: rest =>
    have := decidableAscends (first + 1) rest
    inferInstanceAs (Decidable (low ≤ first ∧ Ascends (first + 1) rest))

theorem Ascends.mono {low below : Nat} {l : List Nat} (h : Ascends low l) (hle : below ≤ low) :
    Ascends below l := by
  cases l with
  | nil => trivial
  | cons first rest => exact ⟨Nat.le_trans hle h.1, h.2⟩

theorem member_eq_false_of_lt {low n : Nat} {l : List Nat} (h : Ascends low l) (hn : n < low) :
    member n l = false := by
  cases l with
  | nil => rfl
  | cons first rest => simp [member_cons, Nat.lt_of_lt_of_le hn h.1]

/-- An inversion list and the names it goes by. -/
structure NamedSet where
  names : List String
  bounds : List Nat

/-! ## Combining two sets -/

/-- The list with one more change in front, if there is a change. -/
def consIf (changes : Bool) (x : Nat) (rest : List Nat) : List Nat :=
  if changes then x :: rest else rest

theorem ascends_consIf {low x : Nat} {changes : Bool} {rest : List Nat} (hx : low ≤ x)
    (hr : Ascends (x + 1) rest) : Ascends low (consIf changes x rest) := by
  cases changes with
  | true => exact ⟨hx, hr⟩
  | false => exact hr.mono (by omega)

/-- A change in front flips membership from there on. -/
theorem member_consIf {n x : Nat} {before after : Bool} {rest : List Nat}
    (hr : Ascends (x + 1) rest) :
    (before ^^ member n (consIf (before != after) x rest))
      = if n < x then before else after ^^ member n rest := by
  by_cases hn : n < x
  · have hm := member_eq_false_of_lt hr (show n < x + 1 by omega)
    cases before <;> cases after <;> simp [consIf, member_cons, hn, hm]
  · cases before <;> cases after <;> simp [consIf, member_cons, hn]

/-- The changes of the combination up to the change of the first set at `x`, and then what `rest`
makes of the second set. -/
def combineUpTo (f : Bool → Bool → Bool) (x : Nat) (inA : Bool)
    (rest : Bool → List Nat → List Nat) : Bool → List Nat → List Nat
  | inB, [] => consIf (f inA inB != f (!inA) inB) x (rest inB [])
  | inB, y :: b =>
    if y < x then consIf (f inA inB != f inA (!inB)) y (combineUpTo f x inA rest (!inB) b)
    else if y = x then consIf (f inA inB != f (!inA) (!inB)) x (rest (!inB) b)
    else consIf (f inA inB != f (!inA) inB) x (rest inB (y :: b))

/-- The changes of the set that `f` makes of two sets; `inA` and `inB` say whether what comes
before the first change belongs to them. -/
def combine (f : Bool → Bool → Bool) : Bool → List Nat → Bool → List Nat → List Nat
  | inA, [], inB, b => if f inA inB = f inA (!inB) then [] else b
  | inA, x :: a, inB, b => combineUpTo f x inA (combine f (!inA) a) inB b

/-- What a combination has to satisfy: it ascends, and it is the set that `f` makes. -/
def Combines (f : Bool → Bool → Bool) (low : Nat) (inA : Bool) (a : List Nat) (inB : Bool)
    (b c : List Nat) : Prop :=
  Ascends low c ∧
    ∀ n, (f inA inB ^^ member n c) = f (inA ^^ member n a) (inB ^^ member n b)

theorem combines_cons_left {f : Bool → Bool → Bool} {low x : Nat} {inA inB : Bool}
    {a b rest : List Nat} (hx : low ≤ x) (hb : Ascends (x + 1) b)
    (h : Combines f (x + 1) (!inA) a inB b rest) :
    Combines f low inA (x :: a) inB b (consIf (f inA inB != f (!inA) inB) x rest) := by
  refine ⟨ascends_consIf hx h.1, fun n => ?_⟩
  rw [member_consIf h.1, member_cons]
  by_cases hn : n < x
  · simp [hn, member_eq_false_of_lt hb (show n < x + 1 by omega)]
  · rw [if_neg hn, h.2 n]
    simp [hn]

theorem combines_cons_right {f : Bool → Bool → Bool} {low y : Nat} {inA inB : Bool}
    {a b rest : List Nat} (hy : low ≤ y) (ha : Ascends (y + 1) a)
    (h : Combines f (y + 1) inA a (!inB) b rest) :
    Combines f low inA a inB (y :: b) (consIf (f inA inB != f inA (!inB)) y rest) := by
  refine ⟨ascends_consIf hy h.1, fun n => ?_⟩
  rw [member_consIf h.1, member_cons]
  by_cases hn : n < y
  · simp [hn, member_eq_false_of_lt ha (show n < y + 1 by omega)]
  · rw [if_neg hn, h.2 n]
    simp [hn]

theorem combines_cons_cons {f : Bool → Bool → Bool} {low x : Nat} {inA inB : Bool}
    {a b rest : List Nat} (hx : low ≤ x) (h : Combines f (x + 1) (!inA) a (!inB) b rest) :
    Combines f low inA (x :: a) inB (x :: b)
      (consIf (f inA inB != f (!inA) (!inB)) x rest) := by
  refine ⟨ascends_consIf hx h.1, fun n => ?_⟩
  rw [member_consIf h.1, member_cons, member_cons]
  by_cases hn : n < x
  · simp [hn]
  · rw [if_neg hn, h.2 n]
    simp [hn]

theorem combines_combineUpTo {f : Bool → Bool → Bool} {x : Nat} {inA : Bool} {a : List Nat}
    {rest : Bool → List Nat → List Nat} (ha : Ascends (x + 1) a)
    (hrest : ∀ inB b, Ascends (x + 1) b → Combines f (x + 1) (!inA) a inB b (rest inB b))
    (low : Nat) (hx : low ≤ x) (inB : Bool) (b : List Nat) (hb : Ascends low b) :
    Combines f low inA (x :: a) inB b (combineUpTo f x inA rest inB b) := by
  induction b generalizing inB low with
  | nil => exact combines_cons_left hx trivial (hrest inB [] trivial)
  | cons y b ih =>
    rw [combineUpTo]
    split
    · next hyx => exact combines_cons_right hb.1 ⟨hyx, ha⟩ (ih (y + 1) hyx (!inB) hb.2)
    · split
      · next hyx => subst hyx; exact combines_cons_cons hx (hrest (!inB) b hb.2)
      · have hy : Ascends (x + 1) (y :: b) := ⟨by omega, hb.2⟩
        exact combines_cons_left hx hy (hrest inB (y :: b) hy)

theorem combines_combine (f : Bool → Bool → Bool) {low : Nat} {a b : List Nat} (inA inB : Bool)
    (ha : Ascends low a) (hb : Ascends low b) :
    Combines f low inA a inB b (combine f inA a inB b) := by
  induction a generalizing inA inB b low with
  | nil =>
    rw [combine]
    split
    · next h => exact ⟨trivial, fun n => by cases inB <;> cases hm : member n b <;> simp_all⟩
    · next h =>
      refine ⟨hb, fun n => ?_⟩
      cases inB <;> cases hm : member n b <;> cases h1 : f inA true <;> cases h2 : f inA false <;>
        simp_all
  | cons x a ih =>
    exact combines_combineUpTo ha.2 (fun inB b hb => ih (!inA) inB ha.2 hb) low ha.1 inB b hb

theorem ascends_combine (f : Bool → Bool → Bool) {a b : List Nat} (ha : Ascends 0 a)
    (hb : Ascends 0 b) : Ascends 0 (combine f false a false b) :=
  (combines_combine f false false ha hb).1

/-- **Combining.**  Membership in a combination is the truth table over the two memberships. -/
theorem member_combine {f : Bool → Bool → Bool} (hf : f false false = false) {a b : List Nat}
    (ha : Ascends 0 a) (hb : Ascends 0 b) (n : Nat) :
    member n (combine f false a false b) = f (member n a) (member n b) := by
  simpa [hf] using (combines_combine f false false ha hb).2 n

/-! ## Sets of points -/

/-- The inversion list of a set of points. -/
def ofPoints (points : List Nat) : List Nat :=
  points.foldr (fun n l => combine (· || ·) false [n, n + 1] false l) []

theorem ascends_ofPoints (points : List Nat) : Ascends 0 (ofPoints points) := by
  induction points with
  | nil => trivial
  | cons n points ih => exact ascends_combine _ ⟨Nat.zero_le n, Nat.le_refl _, trivial⟩ ih

theorem member_ofPoints (m : Nat) (points : List Nat) :
    member m (ofPoints points) = points.contains m := by
  induction points with
  | nil => rfl
  | cons n points ih =>
    have hp : Ascends 0 [n, n + 1] := ⟨Nat.zero_le n, Nat.le_refl _, trivial⟩
    have h := member_combine (f := (· || ·)) rfl hp (ascends_ofPoints points) m
    rw [ofPoints, List.foldr_cons, ← ofPoints, h, ih, List.contains_cons]
    congr 1
    by_cases hm : m = n
    · simp [member_cons, hm]
    · simp only [beq_eq_false_iff_ne.2 hm, Bool.eq_false_iff]
      rw [Ne, member_pair_iff]
      omega

/-! ## Values with a key in the set -/

/-- The part of a list from the first change above `n`, and whether `n` belongs to the set;
`inside` says whether what comes before the list does. -/
def advance (n : Nat) : (inside : Bool) → List Nat → Bool × List Nat
  | inside, [] => (inside, [])
  | inside, x :: rest => if n < x then (inside, x :: rest) else advance n (!inside) rest

/-- The values with a key in the set, for keys that ascend.  After the last member there is nothing
to look for. -/
def valuesAt {α : Type} : (inside : Bool) → List Nat → List (Nat × α) → List α
  | _, _, [] => []
  | inside, l, (n, v) :: rest =>
    if inside = false ∧ l = [] then []
    else
      let next := advance n inside l
      if next.1 then v :: valuesAt next.1 next.2 rest else valuesAt next.1 next.2 rest

/-- What has been passed over does not matter for the points that follow. -/
theorem advance_member {n m : Nat} (hm : n ≤ m) (inside : Bool) (l : List Nat) :
    ((advance n inside l).1 ^^ member m (advance n inside l).2) = (inside ^^ member m l) := by
  induction l generalizing inside with
  | nil => rfl
  | cons x rest ih =>
    rw [advance]
    split
    · rfl
    · next h => rw [ih, member_cons]; simp [show ¬ m < x by omega]

theorem advance_fst (n : Nat) (inside : Bool) (l : List Nat) :
    (advance n inside l).1 = (inside ^^ member n l) := by
  induction l generalizing inside with
  | nil => simp [advance]
  | cons x rest ih =>
    rw [advance, member_cons]
    by_cases h : n < x
    · simp [h]
    · simp [h, ih]

/-- Going through the keys and the changes side by side finds the values whose key belongs to the
set. -/
theorem valuesAt_eq {α : Type} (inside : Bool) (l : List Nat) (entries : List (Nat × α))
    (h : entries.Pairwise fun e e' => e.1 ≤ e'.1) :
    valuesAt inside l entries
      = (entries.filter fun e => inside ^^ member e.1 l).map Prod.snd := by
  induction entries generalizing inside l with
  | nil => rfl
  | cons e rest ih =>
    obtain ⟨n, v⟩ := e
    by_cases hdone : inside = false ∧ l = []
    · simp [valuesAt, hdone]
    · have hr := List.pairwise_cons.1 h
      have hf : (rest.filter fun e =>
            (advance n inside l).1 ^^ member e.1 (advance n inside l).2)
          = rest.filter fun e => inside ^^ member e.1 l :=
        List.filter_congr fun e he => advance_member (hr.1 e he) inside l
      simp only [advance_fst] at hf
      simp only [valuesAt, if_neg hdone, ih _ _ hr.2, advance_fst, hf, List.filter_cons]
      split <;> rfl

/-- The set of the values with a key in the set. -/
theorem member_ofPoints_valuesAt {l : List Nat} {entries : List (Nat × Nat)}
    (h : entries.Pairwise fun e e' => e.1 ≤ e'.1) (n : Nat) :
    member n (ofPoints (valuesAt false l entries)) = true
      ↔ ∃ k, (k, n) ∈ entries ∧ member k l = true := by
  rw [member_ofPoints, valuesAt_eq false l entries h]
  simp

end SlideDeck.Unicode
