import SlideDeck.Document.Body
import SlideDeck.Document.Piece
import SlideDeck.Proofs.Slide.Sources
import Mathlib.Data.PFun

/-!
# Scanning by index

The scans of this library recurse on lists.  On an array the same scans hold an index, move it past
what they have read and ask for elements and ranges by number, where a number that is too large ends
the program and an index that stays where it is keeps it running for ever.  Here are scans with an
index in `Option`, with no result in either case, and what it takes for them to have one.

* `sub?`, `slice?` — a difference and a range, where there are such.
* `loop` — steps from state to state up to a result; `loop_eq_none` is about loops that never end.
* `pass` — moves an index up to the first element that stops it; `pass_eq` gives it a result.
* `takeTurns` — takes turns, each from the index where the one before ended; `takeTurns_eq` asks of
  a turn that it moves the index, no matter how far beyond the end, and `takeTurns_eq_none` says
  why.
* `Recogniser.takeTurns_eq_rewrite` — turns that read a block or pass one element by.
* `collectUntil?_eq` — the lines from an index, collected by index.
-/

set_option autoImplicit false

namespace SlideDeck

/-! ## Differences and ranges -/

/-- A difference, if it is not negative. -/
def sub? (a b : Nat) : Option Nat := if b ≤ a then some (a - b) else none

theorem sub?_eq {a b : Nat} (h : b ≤ a) : sub? a b = some (a - b) := if_pos h

section

variable {α β : Type}

/-- The elements from an index up to another, if there is such a range. -/
def slice? (s : List α) (first past : Nat) : Option (List α) :=
  if first ≤ past ∧ past ≤ s.length then some ((s.take past).drop first) else none

theorem slice?_eq {s : List α} {first past : Nat} (h : first ≤ past) (h' : past ≤ s.length) :
    slice? s first past = some ((s.take past).drop first) := if_pos ⟨h, h'⟩

/-- The range behind some elements. -/
theorem slice?_append (a b c : List α) :
    slice? (a ++ (b ++ c)) a.length (a.length + b.length) = some b := by
  rw [slice?_eq (Nat.le_add_right _ _) (by simp only [List.length_append]; omega),
    ← List.append_assoc, ← List.length_append, List.take_left, List.drop_left]

theorem slice?_to_end (a b : List α) :
    slice? (a ++ b) a.length (a ++ b).length = some b := by
  have h := slice?_append a b []
  rwa [List.append_nil, ← List.length_append] at h

theorem getElem?_of_drop {s r : List α} {i : Nat} {a : α} (h : s.drop i = a :: r) :
    s[i]? = some a := by
  rw [← List.head?_drop, h]
  rfl

theorem lt_length_of_drop {s r : List α} {i : Nat} {a : α} (h : s.drop i = a :: r) :
    i < s.length :=
  (List.getElem?_eq_some_iff.1 (getElem?_of_drop h)).1

theorem drop_succ_of_drop {s r : List α} {i : Nat} {a : α} (h : s.drop i = a :: r) :
    s.drop (i + 1) = r := by
  rw [← List.tail_drop, h]
  rfl

theorem exists_drop_eq_cons {s : List α} {i : Nat} (h : i < s.length) :
    ∃ a r, s.drop i = a :: r :=
  ⟨s[i], s.drop (i + 1), List.drop_eq_getElem_cons h⟩

end

/-! ## Loops -/

section

variable {σ β : Type}

/-- The loop that a step makes up, as a partial function: the states follow one another up to one
from which the step gives a result. -/
def iterate (step : σ → Option (β ⊕ σ)) : σ →. β :=
  PFun.fix fun x => Part.ofOption (step x)

open Classical in
/-- The result of a loop from a state on.  There is none if a step fails, or if the loop does not
end. -/
noncomputable def loop (step : σ → Option (β ⊕ σ)) (x : σ) : Option β := (iterate step x).toOption

variable {step : σ → Option (β ⊕ σ)} {x y : σ} {b : β}

theorem mem_loop_iff : b ∈ loop step x ↔ b ∈ iterate step x := by
  classical
  exact Part.mem_toOption

theorem loop_of_stop (h : step x = some (.inl b)) : loop step x = some b :=
  mem_loop_iff.2 (PFun.fix_stop (Part.mem_ofOption.2 h))

theorem loop_of_step (h : step x = some (.inr y)) : loop step x = loop step y := by
  have hfix : iterate step x = iterate step y := PFun.fix_fwd_eq (Part.mem_ofOption.2 h)
  rw [loop, hfix, loop]

/-- A loop that never leaves the states from which it goes on has no result. -/
theorem loop_eq_none {P : σ → Prop} (hP : ∀ z, P z → ∃ z', step z = some (.inr z') ∧ P z')
    (hx : P x) : loop step x = none := by
  refine Option.eq_none_iff_forall_not_mem.2 fun b hb => ?_
  -- by induction on how the result came about
  refine PFun.fixInduction (C := fun z => ¬ P z) (mem_loop_iff.1 hb) (fun z _ ih hz => ?_) hx
  obtain ⟨z', hstep, hz'⟩ := hP z hz
  exact ih z' (Part.mem_ofOption.2 hstep) hz'

end

section

variable {α β : Type}

/-! ## Moving an index -/

/-- Moves an index past an element that does not stop it. -/
def passStep (stop : α → Bool) (s : List α) :
    List α × Nat → Option (List α × Nat ⊕ List α × Nat)
  | (passed, i) =>
    if i < s.length then do
      let a ← s[i]?
      if stop a then return .inl (passed, i) else return .inr (passed ++ [a], i + 1)
    else some (.inl (passed, i))

/-- Moves an index up to the first element that stops it.  Returns the elements on the way and the
index that is reached. -/
noncomputable def pass (stop : α → Bool) (s : List α) (i : Nat) : Option (List α × Nat) :=
  loop (passStep stop s) ([], i)

theorem loop_passStep (stop : α → Bool) (s passed : List α) (i : Nat) :
    loop (passStep stop s) (passed, i)
      = some (passed ++ (s.drop i).takeWhile fun a => !stop a, i + (s.drop i).findIdx stop) := by
  induction hr : s.drop i generalizing passed i with
  | nil =>
    have hend : passStep stop s (passed, i) = some (.inl (passed, i)) :=
      if_neg (Nat.not_lt.2 (List.drop_eq_nil_iff.1 hr))
    rw [loop_of_stop hend, List.takeWhile_nil, List.append_nil]
    rfl
  | cons a r ih =>
    have hstep : passStep stop s (passed, i)
        = if stop a then some (.inl (passed, i)) else some (.inr (passed ++ [a], i + 1)) := by
      rw [passStep, if_pos (lt_length_of_drop hr), getElem?_of_drop hr]
      rfl
    rw [List.findIdx_cons]
    by_cases ha : stop a = true
    · rw [if_pos ha] at hstep
      rw [loop_of_stop hstep, List.takeWhile_cons_of_neg (by simp [ha]), List.append_nil, ha]
      rfl
    · rw [if_neg ha] at hstep
      rw [loop_of_step hstep, ih _ (i + 1) (drop_succ_of_drop hr),
        List.takeWhile_cons_of_pos (by simp [ha]), Bool.eq_false_iff.2 ha, cond_false,
        List.append_assoc, List.singleton_append, Nat.add_assoc, Nat.add_comm 1]

/-- **Moving an index** ends, at the first element that stops it or at the end. -/
theorem pass_eq (stop : α → Bool) (s : List α) (i : Nat) :
    pass stop s i
      = some ((s.drop i).takeWhile fun a => !stop a, i + (s.drop i).findIdx stop) :=
  loop_passStep stop s [] i

/-! ## Taking turns -/

/-- Takes the turn at the element with an index, if there is one. -/
def turnStep (turn : α → Nat → Option (List β × Nat)) (s : List α) :
    List β × Nat → Option (List β ⊕ List β × Nat)
  | (written, i) =>
    if i < s.length then do
      let a ← s[i]?
      let (more, next) ← turn a i
      return .inr (written ++ more, next)
    else some (.inl written)

/-- Takes turns as long as the index is that of an element.  A turn is given the element and its
index, and returns what it writes and the index of the next turn. -/
noncomputable def takeTurns (turn : α → Nat → Option (List β × Nat)) (s : List α) (i : Nat) :
    Option (List β) :=
  loop (turnStep turn s) ([], i)

theorem turnStep_of_drop {turn : α → Nat → Option (List β × Nat)} {s r : List α} {i next : Nat}
    {a : α} {more : List β} (hr : s.drop i = a :: r) (hturn : turn a i = some (more, next))
    (written : List β) :
    turnStep turn s (written, i) = some (.inr (written ++ more, next)) := by
  rw [turnStep, if_pos (lt_length_of_drop hr), getElem?_of_drop hr, Option.bind_eq_bind,
    Option.bind_some, hturn]
  rfl

/-- **Taking turns** ends if every turn ends and moves the index; `f` tells what is written from an
index on. -/
theorem takeTurns_eq {turn : α → Nat → Option (List β × Nat)} {s : List α} {f : Nat → List β}
    (hend : ∀ i, s.length ≤ i → f i = [])
    (hturn : ∀ i a r, s.drop i = a :: r →
      ∃ more next, turn a i = some (more, next) ∧ i < next ∧ f i = more ++ f next)
    (i : Nat) : takeTurns turn s i = some (f i) := by
  suffices h : ∀ written, loop (turnStep turn s) (written, i) = some (written ++ f i) from h []
  induction hk : s.length - i using Nat.strongRecOn generalizing i with
  | ind k ih =>
    intro written
    by_cases hi : i < s.length
    · obtain ⟨a, r, hr⟩ := exists_drop_eq_cons hi
      obtain ⟨more, next, hnext, hlt, hf⟩ := hturn i a r hr
      rw [loop_of_step (turnStep_of_drop hr hnext written), hf, ← List.append_assoc]
      exact ih (s.length - next) (by omega) next rfl (written ++ more)
    · have hstop : turnStep turn s (written, i) = some (.inl written) := if_neg hi
      rw [loop_of_stop hstop, hend i (Nat.le_of_not_lt hi), List.append_nil]

/-- An index that a turn leaves where it is stays there: there is no result. -/
theorem takeTurns_eq_none {turn : α → Nat → Option (List β × Nat)} {s r : List α} {i : Nat} {a : α}
    {more : List β} (hr : s.drop i = a :: r) (hturn : turn a i = some (more, i)) :
    takeTurns turn s i = none := by
  refine loop_eq_none (P := fun z => z.2 = i) (fun z hz => ?_) rfl
  obtain ⟨written, j⟩ := z
  obtain rfl : j = i := hz
  exact ⟨_, turnStep_of_drop hr hturn written, rfl⟩

/-- A scan that recurses on the list, taken by index. -/
theorem takeTurns_eq_drop {turn : α → Nat → Option (List β × Nat)} {s : List α}
    {f : List α → List β} (hnil : f [] = [])
    (hturn : ∀ i a r, s.drop i = a :: r →
      ∃ written next, turn a i = some (written, next) ∧ i < next
        ∧ f (a :: r) = written ++ f (s.drop next)) :
    takeTurns turn s 0 = some (f s) := by
  refine takeTurns_eq (f := fun i => f (s.drop i)) (fun i hi => ?_) (fun i a r hr => ?_) 0
  · rw [List.drop_eq_nil_of_le hi, hnil]
  · rw [hr]
    exact hturn i a r hr

/-- **A scan for blocks**: a turn passes one element by, or reads a block and goes on where the rest
begins.  The index moves, because a block takes something. -/
theorem Recogniser.takeTurns_eq_rewrite (rec : Recogniser α β) {render : β → List α} {s : List α}
    {turn : α → Nat → Option (List α × Nat)}
    (hplain : ∀ i a r, s.drop i = a :: r → rec.read (a :: r) = none →
      turn a i = some ([a], i + 1))
    (hblock : ∀ i a t b r, s.drop i = a :: t → rec.read (a :: t) = some (b, r) →
      ∃ next, turn a i = some (render b, next) ∧ s.drop next = r) :
    takeTurns turn s 0 = some (rec.rewrite render s) := by
  refine takeTurns_eq_drop (rec.rewrite_nil render) fun i a r hr => ?_
  cases hread : rec.read (a :: r) with
  | none =>
    refine ⟨[a], i + 1, hplain i a r hr hread, Nat.lt_succ_self i, ?_⟩
    rw [rec.rewrite_cons_of_none render hread, drop_succ_of_drop hr]
    rfl
  | some p =>
    obtain ⟨b, rest⟩ := p
    obtain ⟨next, hnext, hrest⟩ := hblock i a r b rest hr hread
    have hlt := rec.length_lt_of_read hread
    rw [← hr, ← hrest, List.length_drop, List.length_drop] at hlt
    refine ⟨render b, next, hnext, by omega, ?_⟩
    rw [rec.rewrite_of_some render hread, hrest]

end

/-! ## Bodies -/

section

variable (isEnd : Line → Bool) (d : Document) (i : Nat)

namespace Body

/-- The index behind the lines of the body that starts at an index. -/
def past : Nat := i + (d.drop i).findIdx isEnd

theorem drop_past : d.drop (past isEnd d i) = (d.drop i).dropWhile fun l => !isEnd l := by
  rw [past, ← List.drop_drop, List.dropWhile_eq_drop_findIdx_not]
  simp only [Bool.not_not]

theorem take_past : (d.drop i).take (past isEnd d i - i) = (read isEnd (d.drop i)).lines := by
  rw [past, Nat.add_sub_cancel_left, read, List.takeWhile_eq_take_findIdx_not]
  simp only [Bool.not_not]

/-- The line that ends a body has the index behind its lines. -/
theorem getElem?_past : d[past isEnd d i]? = (read isEnd (d.drop i)).closing := by
  rw [← List.head?_drop, drop_past, read, List.find?_eq_head?_dropWhile_not]

theorem drop_succ_past : d.drop (past isEnd d i + 1) = (read isEnd (d.drop i)).rest := by
  rw [← List.tail_drop, drop_past, read]

theorem past_lt_length_iff :
    past isEnd d i < d.length ↔ (read isEnd (d.drop i)).closed = true := by
  rw [closed, ← getElem?_past, isSome_getElem?]

/-- Collecting goes on behind the line that ends the body. -/
theorem past_succ_eq (h : (read isEnd (d.drop i)).closed = true) :
    past isEnd d i + 1 = i + (read isEnd (d.drop i)).span := by
  obtain ⟨l, hl⟩ := Option.isSome_iff_exists.1 h
  have hlt := (past_lt_length_iff isEnd d i).2 h
  have hlines := congrArg List.length (take_past isEnd d i)
  rw [List.length_take, List.length_drop] at hlines
  rw [span, ← hlines, hl, Option.toList_some, List.length_singleton]
  have hle : i ≤ past isEnd d i := Nat.le_add_right _ _
  omega

theorem past_le_length (h : i ≤ d.length) : past isEnd d i ≤ d.length := by
  have hlength : (d.drop i).findIdx isEnd ≤ (d.drop i).length := List.findIdx_le_length
  rw [List.length_drop] at hlength
  rw [past]
  omega

theorem slice?_past (h : i ≤ d.length) :
    slice? d i (past isEnd d i) = some (read isEnd (d.drop i)).lines := by
  have hle : i ≤ past isEnd d i := Nat.le_add_right _ _
  rw [slice?_eq hle (past_le_length isEnd d i h), List.drop_take, take_past]

end Body

theorem pass_eq_body :
    pass isEnd d i = some ((Body.read isEnd (d.drop i)).lines, Body.past isEnd d i) :=
  pass_eq isEnd d i

/-- Collects lines by index.  A range that does not exist counts as empty. -/
noncomputable def collectUntil? : Option Collected := do
  let (_, past) ← pass isEnd d i
  let lines := (slice? d i past).getD []
  if past < d.length then return ⟨lines, past + 1, true⟩
  else return ⟨lines, d.length, false⟩

theorem getD_slice?_past :
    (slice? d i (Body.past isEnd d i)).getD [] = (Body.read isEnd (d.drop i)).lines := by
  by_cases h : i ≤ d.length
  · rw [Body.slice?_past isEnd d i h]
    rfl
  · rw [List.drop_eq_nil_of_le (by omega), slice?, if_neg (by rw [Body.past]; omega)]
    rfl

/-- **Collecting by index** is collecting, wherever it starts. -/
theorem collectUntil?_eq : collectUntil? isEnd d i = some (collectUntil d i isEnd) := by
  rw [collectUntil?, pass_eq_body, Option.bind_eq_bind, Option.bind_some]
  dsimp only
  rw [getD_slice?_past, collectUntil]
  by_cases h : (Body.read isEnd (d.drop i)).closed = true
  · rw [if_pos ((Body.past_lt_length_iff isEnd d i).2 h), if_pos h, h,
      Body.past_succ_eq isEnd d i h]
    rfl
  · rw [if_neg (mt (Body.past_lt_length_iff isEnd d i).1 h), if_neg h, Bool.eq_false_iff.2 h]
    rfl

theorem drop_next_collectUntil :
    d.drop (collectUntil d i isEnd).next = (Body.read isEnd (d.drop i)).rest := by
  rw [← Body.drop_succ_past, collectUntil]
  dsimp only
  by_cases h : (Body.read isEnd (d.drop i)).closed = true
  · rw [if_pos h, Body.past_succ_eq isEnd d i h]
  · have hge := mt (Body.past_lt_length_iff isEnd d i).1 h
    rw [if_neg h, List.drop_length, List.drop_eq_nil_of_le (by omega)]

end

end SlideDeck
