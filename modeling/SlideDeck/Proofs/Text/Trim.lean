import SlideDeck.Document.Line
import Mathlib.Data.List.DropRight

/-!
# What trimming takes off and what it keeps

A text is white space, its trimmed text, and white space again (`exists_trim`).  Rules of this
library look at a line through `trim`, so here stands what a look at the trimmed text says about
the line itself, and what it does not see.

* `trim_append_of_isBlank` — white space added at either end goes unnoticed.
* `isPrefixOf_trim_iff` — a mark that does not end in white space stands at the start of the
  trimmed text exactly if it stands there before the end is trimmed.
* `mem_trim_iff` — a character that is no white space is kept.
-/

set_option autoImplicit false

namespace SlideDeck

open Unicode (isSpace isDigit)

/-- Elements that go on, in front of one that stops. -/
theorem takeWhile_dropWhile_append {α : Type} {p : α → Bool} {s rest : List α}
    (hs : ∀ a ∈ s, p a = true) (hrest : ∀ a ∈ rest.head?, p a = false) :
    (s ++ rest).takeWhile p = s ∧ (s ++ rest).dropWhile p = rest := by
  rw [List.takeWhile_append_of_pos hs, List.dropWhile_append_of_pos hs]
  cases rest with
  | nil => simp
  | cons a rest => simp [hrest a rfl]

theorem bne_of_not_mem {c : Char} {s : List Char} (h : c ∉ s) : ∀ d ∈ s, (d != c) = true := by
  intro d hd
  rw [bne_iff_ne]
  rintro rfl
  exact h hd

/-- A text up to the first place of a character. -/
theorem takeWhile_dropWhile_append_cons {c : Char} {s : List Char} (h : c ∉ s)
    (rest : List Char) :
    (s ++ c :: rest).takeWhile (· != c) = s ∧ (s ++ c :: rest).dropWhile (· != c) = c :: rest :=
  takeWhile_dropWhile_append (bne_of_not_mem h) (by simp)

namespace Text

theorem startsWith_iff (s front : Text) : startsWith s front = true ↔ front <+: s :=
  List.isPrefixOf_iff_prefix

theorem endsWith_iff (s back : Text) : endsWith s back = true ↔ back <:+ s :=
  List.isSuffixOf_iff_suffix

theorem isBlank_iff (s : Text) : isBlank s = true ↔ ∀ c ∈ s, isSpace c = true :=
  List.all_eq_true

theorem isBlank_append (s t : Text) : isBlank (s ++ t) = (isBlank s && isBlank t) :=
  List.all_append

/-! ## Trimming the start -/

theorem exists_trimStart (s : Text) : ∃ a, isBlank a = true ∧ a ++ trimStart s = s :=
  ⟨s.takeWhile isSpace, List.all_takeWhile, List.takeWhile_append_dropWhile⟩

theorem trimStart_append_of_isBlank {a : Text} (ha : isBlank a = true) (s : Text) :
    trimStart (a ++ s) = trimStart s :=
  List.dropWhile_append_of_pos ((isBlank_iff a).1 ha)

theorem trimStart_cons_of_space {c : Char} (hc : isSpace c = true) (s : Text) :
    trimStart (c :: s) = trimStart s :=
  List.dropWhile_cons_of_pos hc

theorem trimStart_cons {c : Char} (hc : isSpace c = false) (s : Text) :
    trimStart (c :: s) = c :: s :=
  List.dropWhile_cons_of_neg (by rw [hc]; decide)

theorem trimStart_of_isBlank {s : Text} (hs : isBlank s = true) : trimStart s = [] :=
  (trimStart_eq_nil_iff s).2 hs

theorem head?_trimStart (s : Text) {c : Char} (h : (trimStart s).head? = some c) :
    isSpace c = false := by
  have hnot := List.head?_dropWhile_not isSpace s
  rw [show s.dropWhile isSpace = trimStart s from rfl, h] at hnot
  simpa using hnot

/-- A text whose start needs no trimming, seen at its first character. -/
theorem trimStart_append {s t : Text} (hs : trimStart s ≠ []) :
    trimStart (s ++ t) = trimStart s ++ t := by
  obtain ⟨a, ha, has⟩ := exists_trimStart s
  obtain ⟨c, r, hcr⟩ := List.exists_cons_of_ne_nil hs
  have hc : isSpace c = false := head?_trimStart s (by rw [hcr]; rfl)
  rw [← has, List.append_assoc, trimStart_append_of_isBlank ha, trimStart_append_of_isBlank ha,
    hcr, List.cons_append, trimStart_cons hc, trimStart_cons hc, List.cons_append]

/-! ## Trimming the end -/

theorem exists_trimEnd (s : Text) : ∃ b, isBlank b = true ∧ trimEnd s ++ b = s := by
  refine ⟨s.rtakeWhile isSpace, ?_, List.rdropWhile_append_rtakeWhile⟩
  rw [isBlank_iff]
  exact fun c hc => List.mem_rtakeWhile_imp hc

theorem trimEnd_isPrefix (s : Text) : trimEnd s <+: s :=
  List.rdropWhile_prefix isSpace s

theorem trimEnd_append_of_isBlank (s : Text) {b : Text} (hb : isBlank b = true) :
    trimEnd (s ++ b) = trimEnd s := by
  rw [trimEnd, List.reverse_append,
    List.dropWhile_append_of_pos ((isBlank_iff _).1 ((isBlank_reverse b).trans hb)), trimEnd]

theorem trimEnd_concat (s : Text) {c : Char} (hc : isSpace c = false) :
    trimEnd (s ++ [c]) = s ++ [c] :=
  List.rdropWhile_concat_neg isSpace s c (by rw [hc]; decide)

/-- Only what stands behind a character that is no white space is trimmed at the end. -/
theorem trimEnd_append_cons (s : Text) {c : Char} (hc : isSpace c = false) (t : Text) :
    trimEnd (s ++ c :: t) = s ++ c :: trimEnd t := by
  induction t using List.reverseRecOn with
  | nil => exact trimEnd_concat s hc
  | append_singleton t e ih =>
    rw [← List.cons_append, ← List.append_assoc]
    cases he : isSpace e with
    | true =>
      have hblank : isBlank [e] = true := by rw [isBlank, List.all_cons, he]; rfl
      rw [trimEnd_append_of_isBlank _ hblank, trimEnd_append_of_isBlank _ hblank, ih]
    | false => rw [trimEnd_concat _ he, trimEnd_concat _ he, List.append_assoc, List.cons_append]

theorem getLast?_trimEnd (s : Text) {c : Char} (h : (trimEnd s).getLast? = some c) :
    isSpace c = false := by
  rw [trimEnd, List.getLast?_reverse] at h
  exact head?_trimStart s.reverse h

/-! ## Trimming both ends -/

theorem exists_trimStart_eq_trim (s : Text) :
    ∃ b, isBlank b = true ∧ trimStart s = trim s ++ b := by
  obtain ⟨b, hb, h⟩ := exists_trimEnd (trimStart s)
  exact ⟨b, hb, h.symm⟩

/-- A text is its trimmed text between white space. -/
theorem exists_trim (s : Text) :
    ∃ a b, isBlank a = true ∧ isBlank b = true ∧ s = a ++ (trim s ++ b) := by
  obtain ⟨a, ha, has⟩ := exists_trimStart s
  obtain ⟨b, hb, hbs⟩ := exists_trimStart_eq_trim s
  exact ⟨a, b, ha, hb, by rw [← hbs, has]⟩

/-- White space at the ends goes unnoticed. -/
theorem trim_append_of_isBlank {a b : Text} (ha : isBlank a = true) (s : Text)
    (hb : isBlank b = true) : trim (a ++ (s ++ b)) = trim s := by
  rw [trim, trimStart_append_of_isBlank ha]
  rcases Bool.eq_false_or_eq_true (isBlank s) with hs | hs
  · have hsb : isBlank (s ++ b) = true := by rw [isBlank_append, hs, hb]; rfl
    rw [trimStart_of_isBlank hsb, trim, trimStart_of_isBlank hs]
  · have hne : trimStart s ≠ [] := by
      rw [Ne, trimStart_eq_nil_iff, hs]
      decide
    rw [trimStart_append hne, trimEnd_append_of_isBlank _ hb, trim]

theorem trim_append_right (s : Text) {b : Text} (hb : isBlank b = true) :
    trim (s ++ b) = trim s :=
  trim_append_of_isBlank (a := []) rfl s hb

theorem trim_append_left {a : Text} (ha : isBlank a = true) (s : Text) :
    trim (a ++ s) = trim s := by
  have h := trim_append_of_isBlank ha s (b := []) rfl
  rwa [List.append_nil] at h

theorem trim_trim (s : Text) : trim (trim s) = trim s := by
  obtain ⟨a, b, ha, hb, hs⟩ := exists_trim s
  have h := trim_append_of_isBlank ha (trim s) hb
  rw [← hs] at h
  exact h.symm

theorem trim_trimEnd (s : Text) : trim (trimEnd s) = trim s := by
  obtain ⟨b, hb, h⟩ := exists_trimEnd s
  rw [← trim_append_right (trimEnd s) hb, h]

/-- A last character that is no white space leaves only the start to be trimmed. -/
theorem trim_concat {s : Text} (hs : isBlank s = false) {c : Char} (hc : isSpace c = false) :
    trim (s ++ [c]) = trimStart s ++ [c] := by
  have hne : trimStart s ≠ [] := by
    rw [Ne, trimStart_eq_nil_iff, hs]
    decide
  rw [trim, trimStart_append hne, trimEnd_concat _ hc]

theorem mem_of_mem_trim {s : Text} {c : Char} (h : c ∈ trim s) : c ∈ s := by
  obtain ⟨a, b, -, -, hs⟩ := exists_trim s
  rw [hs]
  exact List.mem_append_right _ (List.mem_append_left _ h)

/-- Trimming keeps every character that is no white space. -/
theorem mem_trim_iff {s : Text} {c : Char} (hc : isSpace c = false) : c ∈ trim s ↔ c ∈ s := by
  refine ⟨mem_of_mem_trim, fun h => ?_⟩
  obtain ⟨a, b, ha, hb, hs⟩ := exists_trim s
  rw [hs, List.mem_append, List.mem_append] at h
  rcases h with h | h | h
  · rw [(isBlank_iff a).1 ha c h] at hc
    exact absurd hc (by decide)
  · exact h
  · rw [(isBlank_iff b).1 hb c h] at hc
    exact absurd hc (by decide)

/-- A mark that does not end in white space is not cut by trimming the end. -/
theorem isPrefixOf_trim_iff {s m : Text} (hm : m.getLast?.any isSpace = false) :
    m <+: trim s ↔ m <+: trimStart s := by
  obtain ⟨b, hb, hs⟩ := exists_trimStart_eq_trim s
  rw [hs]
  refine ⟨fun h => h.trans (List.prefix_append _ b), fun h => ?_⟩
  rcases List.prefix_or_prefix_of_prefix h (List.prefix_append (trim s) b) with h' | ⟨b', rfl⟩
  · exact h'
  · rw [List.prefix_append_right_inj] at h
    -- what the mark has beyond the trimmed text would be white space at its end
    rcases List.eq_nil_or_concat' b' with rfl | ⟨t, c, rfl⟩
    · exact ⟨[], by rw [List.append_nil, List.append_nil]⟩
    · have hspace : isSpace c = true :=
        (isBlank_iff b).1 hb c (h.subset (List.mem_append_right t (List.mem_singleton_self c)))
      rw [← List.append_assoc, List.getLast?_concat, Option.any_some, hspace] at hm
      exact absurd hm (by decide)

end Text

/-! ## Lines and marks -/

namespace Line

theorem trimsTo_iff (l : Line) (mark : Text) : l.trimsTo mark = true ↔ Text.trim l = mark :=
  beq_iff_eq

theorem isBlank_eq_trimsTo (l : Line) : Text.isBlank l = l.trimsTo [] := by
  rw [Bool.eq_iff_iff, trimsTo_iff, Text.trim_eq_nil_iff]

theorem opensWith_iff (l : Line) {mark : Text}
    (hm : mark.getLast?.any isSpace = false) :
    l.opensWith mark = true ↔ mark <+: Text.trimStart l := by
  rw [opensWith, Text.startsWith_iff, Text.isPrefixOf_trim_iff hm]

/-- A line opens with any text at its start that white space neither begins nor ends. -/
theorem opensWith_append {front : Text} (hne : front ≠ []) (hhead : front.head?.any isSpace = false)
    (hlast : front.getLast?.any isSpace = false) (l : Line) :
    Line.opensWith (front ++ l) front = true := by
  obtain ⟨c, r, rfl⟩ := List.exists_cons_of_ne_nil hne
  rw [opensWith_iff _ hlast, List.cons_append, Text.trimStart_cons hhead]
  exact List.prefix_append (c :: r) l

theorem opensWith_cons {c : Char} (hc : isSpace c = false) (l : Line) :
    Line.opensWith (c :: l) [c] = true :=
  opensWith_append (List.cons_ne_nil c []) hc hc l

/-- What a line opens with tells it from any mark that does not open in the same way. -/
theorem trimsTo_eq_false {l : Line} {front mark : Text} (h : l.opensWith front = true)
    (hmark : Text.startsWith mark front = false) : l.trimsTo mark = false := by
  rw [Bool.eq_false_iff, Ne, trimsTo_iff]
  rintro rfl
  rw [opensWith, hmark] at h
  exact absurd h (by decide)

/-- A line does not open in two ways of which neither starts with the other. -/
theorem opensWith_eq_false {l : Line} {front mark : Text} (h : l.opensWith front = true)
    (hfront : Text.startsWith front mark = false) (hmark : Text.startsWith mark front = false) :
    l.opensWith mark = false := by
  rw [Bool.eq_false_iff, Ne]
  intro hl
  rw [opensWith, Text.startsWith_iff] at h hl
  rcases List.prefix_or_prefix_of_prefix h hl with h' | h'
  · rw [(Text.startsWith_iff mark front).2 h'] at hmark
    exact absurd hmark (by decide)
  · rw [(Text.startsWith_iff front mark).2 h'] at hfront
    exact absurd hfront (by decide)

/-- A character that begins no list item tells a line from one. -/
theorem isListItem_eq_false {l : Line} {c : Char} (h : l.opensWith [c] = true)
    (hdigit : isDigit c = false) (hdash : c ≠ '-') (hstar : c ≠ '*') : l.isListItem = false := by
  rw [opensWith, Text.startsWith_iff] at h
  obtain ⟨r, hr⟩ := h
  have hother : ∀ d ≠ c, Text.startsWith (c :: r) [d, ' '] = false := by
    intro d hd
    rw [Bool.eq_false_iff, Ne, Text.startsWith_iff, List.cons_prefix_cons, not_and]
    exact fun heq => absurd heq hd
  have hordered : Text.startsOrderedItem (c :: r) = false := by
    rw [Text.startsOrderedItem]
    split
    · simp [hdigit]
    · rfl
  rw [isListItem, ← hr, List.singleton_append, hordered, Bool.or_false]
  exact Bool.or_eq_false_iff.2 ⟨hother '-' hdash.symm, hother '*' hstar.symm⟩

end Line
end SlideDeck
