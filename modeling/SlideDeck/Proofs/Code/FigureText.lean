import SlideDeck.Proofs.Slide.Sources
import SlideDeck.Proofs.Text.Trim
import Mathlib.Data.List.TakeWhile

/-!
# The characters of an image link

An image link is written from texts that are cut out of a code chunk: the path out of the call,
the size out of the options.  Nothing is made up on the way but the slashes that join the segments
of a path.

* `Text.mem_joinWith` and `Text.mem_of_mem_splitOn` — joining and splitting, seen at a character.
* `Text.exists_suffix_of_firstMatch?` — what a leftmost search finds, it finds in a suffix.
* `Figure.mem_resolvePath`, `mem_of_mem_argument` and `mem_sizeAttribute` — the characters of a
  path, of the argument it is found in, and of a size.
* `Figure.exists_render_eq` — those of an image link.
-/

set_option autoImplicit false

namespace SlideDeck

open Unicode (isDigit)

namespace Text

/-! ## Joining, splitting and searching -/

theorem mem_joinWith {separator : Text} {parts : List Text} {c : Char}
    (h : c ∈ joinWith separator parts) : c ∈ separator ∨ ∃ p ∈ parts, c ∈ p := by
  rw [joinWith] at h
  induction parts with
  | nil => exact absurd h List.not_mem_nil
  | cons p parts ih =>
    cases parts with
    | nil =>
      rw [List.intercalate_singleton] at h
      exact Or.inr ⟨p, List.mem_singleton_self p, h⟩
    | cons q parts =>
      rw [List.intercalate_cons_cons, List.mem_append, List.mem_append] at h
      rcases h with (h | h) | h
      · exact Or.inr ⟨p, List.mem_cons_self .., h⟩
      · exact Or.inl h
      · rcases ih h with h | ⟨r, hr, hc⟩
        · exact Or.inl h
        · exact Or.inr ⟨r, List.mem_cons_of_mem p hr, hc⟩

theorem mem_joinWith_of_mem {separator p : Text} {parts : List Text} (hp : p ∈ parts) {c : Char}
    (hc : c ∈ p) : c ∈ joinWith separator parts := by
  rw [joinWith]
  induction parts with
  | nil => exact absurd hp List.not_mem_nil
  | cons q parts ih =>
    by_cases hparts : parts = []
    · rw [hparts, List.mem_singleton] at hp
      rw [hparts, List.intercalate_singleton, ← hp]
      exact hc
    · rw [List.intercalate_cons_of_ne_nil hparts]
      rcases List.mem_cons.1 hp with rfl | hp
      · exact List.mem_append_left _ (List.mem_append_left _ hc)
      · exact List.mem_append_right _ (ih hp)

theorem mem_of_mem_splitOn {separator : Char} {s p : Text} (hp : p ∈ s.splitOn separator)
    {c : Char} (hc : c ∈ p) : c ∈ s := by
  have h : c ∈ joinWith [separator] (s.splitOn separator) := mem_joinWith_of_mem hp hc
  rwa [joinWith, List.intercalate_splitOn] at h

theorem exists_suffix_of_firstMatch? {α : Type} {read : Text → Option α} {s : Text} {a : α}
    (h : firstMatch? read s = some a) : ∃ t, t <:+ s ∧ read t = some a := by
  induction s with
  | nil => exact ⟨[], List.suffix_refl [], h⟩
  | cons c r ih =>
    rw [firstMatch?, Option.or_eq_some_iff] at h
    rcases h with h | ⟨-, h⟩
    · exact ⟨c :: r, List.suffix_refl _, h⟩
    · obtain ⟨t, ht, hread⟩ := ih h
      exact ⟨t, ht.trans (List.suffix_cons c r), hread⟩

end Text

/-! ## The path -/

namespace Figure

theorem mem_of_mem_stripEnds {c d : Char} {s : Text} (h : d ∈ stripEnds c s) : d ∈ s := by
  rw [stripEnds, List.mem_reverse] at h
  exact (List.dropWhile_suffix _).subset (List.mem_reverse.1 ((List.dropWhile_suffix _).subset h))

theorem mem_of_mem_unquote {d : Char} {s : Text} (h : d ∈ unquote s) : d ∈ s :=
  Text.mem_of_mem_trim (mem_of_mem_stripEnds (mem_of_mem_stripEnds h))

theorem mem_of_mem_pathArguments {argument arguments : Text}
    (h : pathArguments? argument = some arguments) {c : Char} (hc : c ∈ arguments) :
    c ∈ argument := by
  obtain ⟨t, ht, hread⟩ := Text.exists_suffix_of_firstMatch? h
  simp only [pathArgumentsHere?, Option.bind_eq_bind, Option.bind_eq_some_iff] at hread
  obtain ⟨r, hr, hread⟩ := hread
  rw [Text.after?_eq_some_iff] at hr
  split at hread
  · obtain rfl := Option.some.inj hread
    refine ht.subset ?_
    rw [hr]
    exact List.mem_append_right _ (List.takeWhile_subset _ hc)
  · simp at hread

theorem mem_of_mem_literal {s t : Text} (h : literal? s = some t) {c : Char} (hc : c ∈ t) :
    c ∈ s := by
  cases s with
  | nil => simp [literal?] at h
  | cons q s =>
    rw [literal?] at h
    split at h
    · obtain rfl := Option.some.inj h
      exact List.mem_cons_of_mem q (List.takeWhile_subset _ hc)
    · simp at h

/-- A path is made of the characters of the argument it is found in, and of slashes. -/
theorem mem_resolvePath {argument : Text} {c : Char} (h : c ∈ resolvePath argument) :
    c = '/' ∨ c ∈ argument := by
  rw [resolvePath] at h
  split at h
  · next arguments harguments =>
    rcases Text.mem_joinWith h with h | ⟨p, hp, hc⟩
    · exact Or.inl (List.mem_singleton.1 h)
    · obtain ⟨segment, hsegment, rfl⟩ := List.mem_map.1 hp
      exact Or.inr (mem_of_mem_pathArguments harguments
        (Text.mem_of_mem_splitOn hsegment (mem_of_mem_unquote hc)))
  · right
    cases hliteral : literal? (Text.trim argument) with
    | none =>
      rw [hliteral, Option.getD_none] at h
      exact Text.mem_of_mem_trim (mem_of_mem_unquote h)
    | some t =>
      rw [hliteral, Option.getD_some] at h
      exact Text.mem_of_mem_trim (mem_of_mem_literal hliteral h)

/-- The argument of a call is cut out of the line on which the call begins. -/
theorem mem_of_mem_argument {s argument : Text} (h : argument? s = some argument) {c : Char}
    (hc : c ∈ argument) : c ∈ s ∧ c ≠ '\n' := by
  obtain ⟨t, ht, hread⟩ := Text.exists_suffix_of_firstMatch? h
  simp only [argumentHere?, Option.bind_eq_bind, Option.bind_eq_some_iff] at hread
  obtain ⟨r, hr, hread⟩ := hread
  rw [Text.after?_eq_some_iff] at hr
  rw [beforeLastParen?] at hread
  split at hread
  · obtain rfl := Option.some.inj hread
    have hline : c ∈ r.takeWhile (· != '\n') :=
      List.mem_reverse.1 ((List.dropWhile_suffix _).subset
        ((List.tail_suffix _).subset (List.mem_reverse.1 hc)))
    constructor
    · rw [hr] at ht
      exact ht.subset (List.mem_append_right _ (List.takeWhile_subset _ hline))
    · simpa using List.mem_takeWhile_imp hline
  · simp at hread

/-! ## The size -/

theorem mem_of_optionNumber {key s number rest : Text}
    (h : optionNumber? key s = some (number, rest)) {c : Char} (hc : c ∈ number) :
    isDigit c = true ∨ c = '.' := by
  simp only [optionNumber?, Option.bind_eq_bind, Option.bind_eq_some_iff] at h
  obtain ⟨r, -, value, -, h⟩ := h
  rw [Option.ite_none_left_eq_some] at h
  obtain ⟨rfl, -⟩ := Prod.mk.inj (Option.some.inj h.2)
  simpa using List.mem_takeWhile_imp hc

theorem mem_of_width {options w : Text} (h : Text.firstMatch? widthHere? options = some w)
    {c : Char} (hc : c ∈ w) : isDigit c = true ∨ c = '.' ∨ c = '%' := by
  obtain ⟨t, -, hread⟩ := Text.exists_suffix_of_firstMatch? h
  simp only [widthHere?, Option.bind_eq_bind, Option.bind_eq_some_iff] at hread
  obtain ⟨⟨number, rest⟩, hnumber, after, -, hread⟩ := hread
  obtain rfl := Option.some.inj hread
  rcases List.mem_append.1 hc with hc | hc
  · exact (mem_of_optionNumber hnumber hc).imp_right Or.inl
  · exact Or.inr (Or.inr (List.mem_singleton.1 hc))

theorem mem_of_height {options height : Text}
    (h : Text.firstMatch? heightHere? options = some height) {c : Char} (hc : c ∈ height) :
    isDigit c = true ∨ c = '.' := by
  obtain ⟨t, -, hread⟩ := Text.exists_suffix_of_firstMatch? h
  simp only [heightHere?, Option.bind_eq_bind, Option.bind_eq_some_iff] at hread
  obtain ⟨⟨number, rest⟩, hnumber, hread⟩ := hread
  obtain rfl := Option.some.inj hread
  exact mem_of_optionNumber hnumber hc

/-- The fixed characters of a size attribute. -/
def sizeChars : List Char := "\x7bwidth=\x7bheight=.%\x7d".toList

/-- A size attribute is made of digits and of a few fixed characters. -/
theorem mem_sizeAttribute {options : Text} {c : Char} (h : c ∈ sizeAttribute (size? options)) :
    isDigit c = true ∨ c ∈ sizeChars := by
  have hclosing : "\x7d".toList ⊆ sizeChars := by decide
  have hframe : ∀ front value : Text, front ⊆ sizeChars →
      (c ∈ value → isDigit c = true ∨ c ∈ sizeChars) → c ∈ front ++ value ++ "\x7d".toList →
      isDigit c = true ∨ c ∈ sizeChars := by
    intro front value hfront hvalue hc
    rcases List.mem_append.1 hc with hc | hc
    · rcases List.mem_append.1 hc with hc | hc
      · exact Or.inr (hfront hc)
      · exact hvalue hc
    · exact Or.inr (hclosing hc)
  have hdot : '.' ∈ sizeChars := by decide
  have hpercent : '%' ∈ sizeChars := by decide
  rw [size?] at h
  cases hw : Text.firstMatch? widthHere? options with
  | some w =>
    rw [hw] at h
    refine hframe "\x7bwidth=".toList w (by decide) (fun hc => ?_) h
    rcases mem_of_width hw hc with hc | rfl | rfl
    · exact Or.inl hc
    · exact Or.inr hdot
    · exact Or.inr hpercent
  | none =>
    rw [hw] at h
    cases hh : Text.firstMatch? heightHere? options with
    | some height =>
      rw [hh] at h
      refine hframe "\x7bheight=".toList height (by decide) (fun hc => ?_) h
      rcases mem_of_height hh hc with hc | rfl
      · exact Or.inl hc
      · exact Or.inr hdot
    | none =>
      rw [hh] at h
      exact absurd h List.not_mem_nil

/-! ## The link -/

theorem read_eq_some {d r : Document} {b : ImageChunk} (h : read d = some (b, r)) :
    ∃ l ∈ d, ∃ argument options, argument? (Text.trim l) = some argument
      ∧ b.path = resolvePath argument ∧ b.size = size? options := by
  obtain ⟨front, rfl, hsource⟩ := source_of_read h
  cases hsource with
  | @mk l call options argument body _ _ _ hcall _ hargument =>
    have hmem : call ∈ l :: body.lines ++ body.closing.toList :=
      List.mem_append_left _ (List.mem_cons_of_mem l hcall)
    exact ⟨call, List.mem_append_left r hmem, argument, options, hargument, rfl, rfl⟩

/-- The fixed characters of an image link, its newline excepted. -/
def linkChars : List Char := "![](/)".toList ++ sizeChars

/-- **An image link** is made of characters that stand on a line of the chunk, of digits and of
fixed characters, and of the newline at its end. -/
theorem exists_render_eq {d r : Document} {b : ImageChunk} (h : read d = some (b, r)) :
    ∃ link : Text, render b = [link ++ ['\n']] ∧ ∀ c ∈ link,
      (c ≠ '\n' ∧ ∃ l ∈ d, c ∈ l) ∨ isDigit c = true ∨ c ∈ linkChars := by
  obtain ⟨l, hl, argument, options, hargument, hpath, hsize⟩ := read_eq_some h
  refine ⟨_, rfl, fun c hc => ?_⟩
  have hfixed : "![](".toList ++ ")".toList ++ ['/'] ⊆ linkChars := by decide
  rcases List.mem_append.1 hc with hc | hc
  · rcases List.mem_append.1 hc with hc | hc
    · rcases List.mem_append.1 hc with hc | hc
      · exact Or.inr (Or.inr (hfixed (List.mem_append_left _ (List.mem_append_left _ hc))))
      · rw [hpath] at hc
        rcases mem_resolvePath hc with rfl | hc
        · exact Or.inr (Or.inr (hfixed (List.mem_append_right _ (List.mem_singleton_self _))))
        · obtain ⟨hcall, hne⟩ := mem_of_mem_argument hargument hc
          exact Or.inl ⟨hne, l, hl, Text.mem_of_mem_trim hcall⟩
    · exact Or.inr (Or.inr (hfixed (List.mem_append_left _ (List.mem_append_right _ hc))))
  · rw [hsize] at hc
    exact Or.inr ((mem_sizeAttribute hc).imp_right fun hc => List.mem_append_right _ hc)

/-- A character that is neither a digit nor fixed is on an image link only if the chunk has it. -/
theorem not_mem_render {c : Char} (hdigit : isDigit c = false) (hfixed : c ∉ '\n' :: linkChars)
    {d r : Document} {b : ImageChunk} (h : read d = some (b, r)) (hd : ∀ l ∈ d, c ∉ l) :
    ∀ l ∈ render b, c ∉ l := by
  obtain ⟨link, hrender, hlink⟩ := exists_render_eq h
  rw [hrender]
  refine List.forall_mem_singleton.2 fun hc => ?_
  rcases List.mem_append.1 hc with hc | hc
  · rcases hlink c hc with ⟨-, l, hl, hmem⟩ | hc | hc
    · exact hd l hl hmem
    · rw [hdigit] at hc
      exact absurd hc (by decide)
    · exact hfixed (List.mem_cons_of_mem _ hc)
  · obtain rfl := List.mem_singleton.1 hc
    exact hfixed (List.mem_cons_self ..)

end Figure
end SlideDeck
