import SlideDeck.Text.Basic

/-!
# Byte offsets

Ranges of a text may be given by offsets in its UTF-8 encoding.  An offset counts only if it lies
between two characters, that is if it is the size of what stands before it.

* `Text.byteSlice?` — the text between two offsets, if both count; `byteSlice?_append` is the case
  that a text is put together from what is before, in and behind the range.
* `Text.findByte?`, `Text.rfindByte?` — where a character stands for the first and the last time.
-/

set_option autoImplicit false

namespace SlideDeck.Text

@[simp] theorem utf8Size_append (s t : Text) : utf8Size (s ++ t) = utf8Size s + utf8Size t := by
  induction s with
  | nil => rw [List.nil_append, utf8Size, Nat.zero_add]
  | cons c s ih => rw [List.cons_append, utf8Size, ih, utf8Size, Nat.add_assoc]

/-! ## Ranges -/

/-- The front of a text that has a number of bytes. -/
def takeBytes? : Nat → Text → Option Text
  | 0, _ => some []
  | _ + 1, [] => none
  | n + 1, c :: s =>
    if c.utf8Size ≤ n + 1 then (takeBytes? (n + 1 - c.utf8Size) s).map (c :: ·) else none

/-- What stands behind the front of a text that has a number of bytes. -/
def dropBytes? : Nat → Text → Option Text
  | 0, s => some s
  | _ + 1, [] => none
  | n + 1, c :: s => if c.utf8Size ≤ n + 1 then dropBytes? (n + 1 - c.utf8Size) s else none

/-- The text from a byte offset up to another, if there is such a range and both lie between
characters. -/
def byteSlice? (s : Text) (first past : Nat) : Option Text := do
  let front ← takeBytes? past s
  dropBytes? first front

theorem takeBytes?_append (s t : Text) : takeBytes? (utf8Size s) (s ++ t) = some s := by
  induction s with
  | nil => cases t <;> rfl
  | cons c s ih =>
    obtain ⟨n, hn⟩ := Nat.exists_eq_add_one_of_ne_zero (Nat.ne_of_gt c.utf8Size_pos)
    rw [utf8Size, hn, Nat.add_right_comm, List.cons_append, takeBytes?, hn]
    rw [if_pos (by omega), show n + utf8Size s + 1 - (n + 1) = utf8Size s by omega, ih]
    rfl

theorem dropBytes?_append (s t : Text) : dropBytes? (utf8Size s) (s ++ t) = some t := by
  induction s with
  | nil => cases t <;> rfl
  | cons c s ih =>
    obtain ⟨n, hn⟩ := Nat.exists_eq_add_one_of_ne_zero (Nat.ne_of_gt c.utf8Size_pos)
    rw [utf8Size, hn, Nat.add_right_comm, List.cons_append, dropBytes?, hn]
    rw [if_pos (by omega), show n + utf8Size s + 1 - (n + 1) = utf8Size s by omega, ih]

/-- **Offsets between characters** give a range. -/
theorem byteSlice?_append (a b c : Text) :
    byteSlice? (a ++ (b ++ c)) (utf8Size a) (utf8Size (a ++ b)) = some b := by
  rw [byteSlice?, ← List.append_assoc, takeBytes?_append, Option.bind_eq_bind, Option.bind_some,
    dropBytes?_append]

/-- The offset between two characters counts, one inside of a character does not. -/
example : byteSlice? "é]".toList 2 3 = some "]".toList ∧ byteSlice? "é]".toList 1 3 = none := by
  decide

theorem byteSlice?_to_end (a b : Text) :
    byteSlice? (a ++ b) (utf8Size a) (utf8Size (a ++ b)) = some b := by
  have h := byteSlice?_append a b []
  rwa [List.append_nil] at h

theorem byteSlice?_from_start (a b : Text) :
    byteSlice? (a ++ b) 0 (utf8Size a) = some a :=
  byteSlice?_append [] a b

/-! ## Finding a character -/

/-- The offset of a character where it stands for the first time. -/
def findByte? (c : Char) : Text → Option Nat
  | [] => none
  | a :: s => if a = c then some 0 else (findByte? c s).map (a.utf8Size + ·)

/-- The offset of a character where it stands for the last time. -/
def rfindByte? (c : Char) : Text → Option Nat
  | [] => none
  | a :: s =>
    match rfindByte? c s with
    | some n => some (a.utf8Size + n)
    | none => if a = c then some 0 else none

theorem findByte?_append {c : Char} {a : Text} (h : c ∉ a) (b : Text) :
    findByte? c (a ++ c :: b) = some (utf8Size a) := by
  induction a with
  | nil => exact if_pos rfl
  | cons x a ih =>
    obtain ⟨hx, ha⟩ := not_or.1 (mt List.mem_cons.2 h)
    rw [List.cons_append, findByte?, if_neg (Ne.symm hx), ih ha]
    rfl

theorem rfindByte?_eq_none {c : Char} {s : Text} (h : c ∉ s) : rfindByte? c s = none := by
  induction s with
  | nil => rfl
  | cons x s ih =>
    obtain ⟨hx, hs⟩ := not_or.1 (mt List.mem_cons.2 h)
    rw [rfindByte?, ih hs]
    exact if_neg (Ne.symm hx)

theorem rfindByte?_append {c : Char} {b : Text} (h : c ∉ b) (a : Text) :
    rfindByte? c (a ++ c :: b) = some (utf8Size a) := by
  induction a with
  | nil =>
    rw [List.nil_append, rfindByte?, rfindByte?_eq_none h]
    exact if_pos rfl
  | cons x a ih => rw [List.cons_append, rfindByte?, ih]; rfl

end SlideDeck.Text
