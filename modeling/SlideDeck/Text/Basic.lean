import SlideDeck.Unicode.Blank

/-!
# Text

A text is the list of its characters, so that everything that reads text recurses on it.

* `trim`, `trimStart`, `trimEnd` cut off white space; `isBlank` says that nothing would remain.
* `after?` takes a fixed beginning off a text, `contains` looks for a fixed part of it.
* `replace` puts one text in the place of another, `replace_append` and `replace_cons` say where.
* `firstMatch?` is leftmost search: the first suffix that a reader accepts.
* `cutAfterNewlines` cuts a text after each newline and loses nothing (`cutAfterNewlines_flatten`).
-/

set_option autoImplicit false

namespace SlideDeck

/-- A text, character by character. -/
abbrev Text := List Char

namespace Text

open Unicode (isSpace)

/-! ## White space at the ends -/

/-- A text without the white space at its start. -/
def trimStart (s : Text) : Text := s.dropWhile isSpace

/-- A text without the white space at its end. -/
def trimEnd (s : Text) : Text := (s.reverse.dropWhile isSpace).reverse

/-- A text without the white space at both ends. -/
def trim (s : Text) : Text := trimEnd (trimStart s)

/-- Whether a text is nothing but white space. -/
def isBlank (s : Text) : Bool := s.all isSpace

theorem trimStart_eq_nil_iff (s : Text) : trimStart s = [] ↔ isBlank s = true := by
  induction s with
  | nil => simp [trimStart, isBlank]
  | cons c r ih =>
    by_cases h : isSpace c = true
    · rw [trimStart, List.dropWhile_cons_of_pos h, isBlank, List.all_cons, h, Bool.true_and]
      exact ih
    · simp [trimStart, isBlank, h]

theorem isBlank_reverse (s : Text) : isBlank s.reverse = isBlank s := by
  simp [isBlank]

theorem trimEnd_eq_nil_iff (s : Text) : trimEnd s = [] ↔ isBlank s = true := by
  rw [trimEnd, List.reverse_eq_nil_iff, ← isBlank_reverse]
  exact trimStart_eq_nil_iff s.reverse

theorem isBlank_trimStart (s : Text) : isBlank (trimStart s) = isBlank s := by
  induction s with
  | nil => rfl
  | cons c r ih =>
    by_cases h : isSpace c = true
    · have hr : isBlank (c :: r) = isBlank r := by simp [isBlank, h]
      rw [hr, ← ih, trimStart, List.dropWhile_cons_of_pos h, trimStart]
    · rw [trimStart, List.dropWhile_cons_of_neg h]

/-- Trimming leaves nothing exactly of the blank texts. -/
theorem trim_eq_nil_iff (s : Text) : trim s = [] ↔ isBlank s = true := by
  rw [trim, trimEnd_eq_nil_iff, isBlank_trimStart]

/-! ## Fixed parts -/

/-- Whether `s` starts with `front`. -/
def startsWith (s front : Text) : Bool := front.isPrefixOf s

/-- Whether `s` ends with `back`. -/
def endsWith (s back : Text) : Bool := back.isSuffixOf s

/-- What follows `front` in a text that starts with it. -/
def after? : (front s : Text) → Option Text
  | [], s => some s
  | _ :: _, [] => none
  | a :: front, c :: s => if a = c then after? front s else none

theorem after?_eq_some_iff (front s rest : Text) :
    after? front s = some rest ↔ s = front ++ rest := by
  induction front generalizing s with
  | nil => simp [after?]
  | cons a front ih =>
    cases s with
    | nil => simp [after?]
    | cons c s =>
      by_cases h : a = c
      · simp [after?, h, ih]
      · simp [after?, h, eq_comm]

theorem after?_append (front rest : Text) : after? front (front ++ rest) = some rest :=
  (after?_eq_some_iff front (front ++ rest) rest).2 rfl

/-- Whether `part` occurs in a text. -/
def contains (s part : Text) : Bool :=
  match s with
  | [] => part.isEmpty
  | c :: r => part.isPrefixOf (c :: r) || contains r part

theorem contains_iff (s part : Text) : contains s part = true ↔ part <:+: s := by
  induction s with
  | nil => cases part <;> simp [contains]
  | cons c r ih => simp [contains, ih, List.infix_cons_iff]

/-- Whether a character is a quotation mark, single or double. -/
def isQuote (c : Char) : Bool := c == '"' || c == '\''

theorem isQuote_iff (c : Char) : isQuote c = true ↔ c = '"' ∨ c = '\'' := by
  rw [isQuote, Bool.or_eq_true, beq_iff_eq, beq_iff_eq]

theorem isSpace_of_isQuote {c : Char} (h : isQuote c = true) : isSpace c = false := by
  rcases (isQuote_iff c).1 h with rfl | rfl <;> decide

theorem any_eq_false_iff {p : Char → Bool} {s : Text} :
    s.any p = false ↔ ∀ c ∈ s, p c = false := by
  simp

theorem not_mem_of_isQuote {q : Char} {s : Text} (hq : isQuote q = true)
    (hs : s.any isQuote = false) : q ∉ s := by
  intro hmem
  rw [any_eq_false_iff.1 hs q hmem] at hq
  exact absurd hq (by decide)

/-! ## Replacing -/

/-- What is behind the first `skip` characters of a text, with `new` for each occurrence of `old`. -/
def replaceBehind (old new : Text) : (skip : Nat) → Text → Text
  | _, [] => []
  | skip + 1, _ :: r => replaceBehind old new skip r
  | 0, c :: r =>
    if startsWith (c :: r) old then new ++ replaceBehind old new (old.length - 1) r
    else c :: replaceBehind old new 0 r

/-- A text with `new` for each occurrence of `old`, which is not empty.  Occurrences are looked for
from left to right and do not overlap, and what is put in is not read again. -/
def replace (old new s : Text) : Text := replaceBehind old new 0 s

@[simp] theorem replace_nil (old new : Text) : replace old new [] = [] := rfl

theorem replaceBehind_append (old new t r : Text) :
    replaceBehind old new t.length (t ++ r) = replace old new r := by
  induction t with
  | nil => rfl
  | cons c t ih => exact ih

theorem replace_append {old : Text} (h : old ≠ []) (new r : Text) :
    replace old new (old ++ r) = new ++ replace old new r := by
  obtain ⟨c, t, rfl⟩ := List.exists_cons_of_ne_nil h
  have hstarts : startsWith (c :: (t ++ r)) (c :: t) = true :=
    List.isPrefixOf_iff_prefix.2 (List.prefix_append (c :: t) r)
  rw [List.cons_append, replace, replaceBehind, if_pos hstarts, List.length_cons,
    Nat.add_sub_cancel, replaceBehind_append]

theorem replace_cons {old r : Text} {c : Char} (h : startsWith (c :: r) old = false) (new : Text) :
    replace old new (c :: r) = c :: replace old new r := by
  rw [replace, replaceBehind, if_neg (Bool.eq_false_iff.1 h), replace]

/-! ## Search -/

/-- The first result of `read` on a suffix of the text, longest suffix first. -/
def firstMatch? {α : Type} (read : Text → Option α) : Text → Option α
  | [] => read []
  | c :: r => (read (c :: r)).or (firstMatch? read r)

/-! ## Lines of a text -/

/-- The text cut after each newline. -/
def cutAfterNewlines : Text → List Text
  | [] => []
  | c :: r =>
    if c = '\n' then [c] :: cutAfterNewlines r
    else
      match cutAfterNewlines r with
      | [] => [[c]]
      | p :: ps => (c :: p) :: ps

/-- Cutting loses nothing. -/
theorem cutAfterNewlines_flatten (s : Text) : (cutAfterNewlines s).flatten = s := by
  induction s with
  | nil => rfl
  | cons c r ih =>
    rw [cutAfterNewlines]
    split
    · simp [ih]
    · split
      · next h => simp [h] at ih; simp [ih]
      · next h => simp [h] at ih; simp [ih]

/-! ## Size and layout -/

/-- How many bytes a text takes in UTF-8. -/
def utf8Size : Text → Nat
  | [] => 0
  | c :: r => c.utf8Size + utf8Size r

/-- A number in decimal. -/
def ofNat (n : Nat) : Text := (toString n).toList

/-- A text with spaces put in front up to the width. -/
def padStart (width : Nat) (s : Text) : Text := List.replicate (width - s.length) ' ' ++ s

/-- A text with spaces added at the end up to the width. -/
def padEnd (width : Nat) (s : Text) : Text := s ++ List.replicate (width - s.length) ' '

/-- Texts joined with a separator between neighbours. -/
def joinWith (separator : Text) (parts : List Text) : Text := List.intercalate separator parts

end Text
end SlideDeck
