import SlideDeck.Proofs.Code.FigureText
import SlideDeck.Proofs.Text.Segments

/-!
# Sizes in written chunk options

The options of a chunk are a list with commas.  A size may stand anywhere in it, written with or
without quotes and with any white space; it is found by its key.

* `ChunkOption` is an option as it is written: a size, or a text that names neither key.
* `Text.firstMatch?_append_of_blank` and `Text.firstMatch?_append_cons` — what a search for a key
  passes over.
* `SizeKey.read_written` reads a size, `SizeKey.search_options` finds the first one of a key.
* `Figure.sizeAttribute_options` — a width becomes the attribute, and without one a height.
-/

set_option autoImplicit false

namespace SlideDeck

open Unicode (isDigit isSpace)
open Text (isQuote firstMatch?)

/-! ## Search for a key -/

namespace Text

variable {α : Type} {read : Text → Option α} {key : Text}

theorem firstMatch?_of_some {s : Text} {a : α} (h : read s = some a) :
    firstMatch? read s = some a := by
  cases s <;> simp [firstMatch?, h]

theorem firstMatch?_append_of_none {front s : Text}
    (h : ∀ t, t <:+ front → t ≠ [] → read (t ++ s) = none) :
    firstMatch? read (front ++ s) = firstMatch? read s := by
  induction front with
  | nil => rfl
  | cons c front ih =>
    have hhere : read (c :: front ++ s) = none := h _ (List.suffix_refl _) (by simp)
    have hrest := ih fun t ht hne => h t (ht.trans (List.suffix_cons c front)) hne
    rw [List.cons_append] at hhere ⊢
    rw [firstMatch?, hhere, hrest, Option.none_or]

/-- White space before a key. -/
theorem firstMatch?_append_of_blank (hread : ∀ s a, read s = some a → key <+: s)
    (hkey : key.head?.any isSpace = false) (hne : key ≠ []) {front : Text}
    (hfront : isBlank front = true) (s : Text) :
    firstMatch? read (front ++ s) = firstMatch? read s := by
  obtain ⟨k, key, rfl⟩ := List.exists_cons_of_ne_nil hne
  refine firstMatch?_append_of_none fun t ht hne => ?_
  obtain ⟨c, t, rfl⟩ := List.exists_cons_of_ne_nil hne
  rw [Option.eq_none_iff_forall_ne_some]
  intro a ha
  obtain ⟨rfl, -⟩ := List.cons_prefix_cons.1 (hread _ a ha)
  have hspace : isSpace k = true := (isBlank_iff front).1 hfront k (ht.subset (by simp))
  simp [hspace] at hkey

/-- A part without key, up to a character that is none of the key. -/
theorem firstMatch?_append_cons (hread : ∀ s a, read s = some a → key <+: s) {front : Text}
    (hfront : ¬ key <:+: front) {c : Char} (hc : c ∉ key) (s : Text) :
    firstMatch? read (front ++ c :: s) = firstMatch? read s := by
  have hnone : ∀ t, t <:+ front → read (t ++ c :: s) = none := by
    intro t ht
    rw [Option.eq_none_iff_forall_ne_some]
    intro a ha
    exact hfront ((prefix_of_prefix_append_cons (hread _ a ha) hc).isInfix.trans ht.isInfix)
  rw [firstMatch?_append_of_none fun t ht _ => hnone t ht, firstMatch?,
    show read (c :: s) = none from hnone [] List.nil_suffix, Option.none_or]

theorem firstMatch?_eq_none (hread : ∀ s a, read s = some a → key <+: s) {s : Text}
    (hs : ¬ key <:+: s) : firstMatch? read s = none := by
  rw [Option.eq_none_iff_forall_ne_some]
  intro a ha
  obtain ⟨t, ht, hmatch⟩ := exists_suffix_of_firstMatch? ha
  exact hs ((hread t a hmatch).isInfix.trans ht.isInfix)

end Text

/-! ## Options as they are written -/

/-- White space within a line. -/
abbrev Gap : Type := { s : Text // Text.isBlank s = true ∧ '\n' ∉ s }

/-- A quotation mark. -/
abbrev Quote : Type := { c : Char // isQuote c = true }

/-- A quotation mark that may be missing. -/
def optionalQuote : Option Quote → Text
  | none => []
  | some c => [c.1]

/-- The character of a number. -/
def isNumberChar (c : Char) : Bool := isDigit c || c == '.'

/-- Digits and dots. -/
abbrev SizeNumber : Type := { s : Text // s ≠ [] ∧ ∀ c ∈ s, isNumberChar c = true }

/-- How the value of an option is set off: white space, and quotation marks that may be missing. -/
structure OptionSpelling where
  before : Gap
  beforeEquals : Gap
  afterEquals : Gap
  opening : Option Quote
  closing : Option Quote
  after : Gap

/-- The options that ask for a size. -/
inductive SizeKey where
  | width
  | height
  deriving DecidableEq, Repr

namespace SizeKey

/-- The name of an option. -/
def name : SizeKey → Text
  | width => "out.width".toList
  | height => "out.height".toList

/-- The unit in which a size is written. -/
def unit : SizeKey → Text
  | width => ['%']
  | height => []

/-- Reads the value of an option at the start of a text. -/
def read : SizeKey → Text → Option Text
  | width => Figure.widthHere?
  | height => Figure.heightHere?

end SizeKey

/-- An option of a chunk: a size, or a text that names no size. -/
inductive ChunkOption where
  | size (key : SizeKey) (spelling : OptionSpelling) (number : SizeNumber)
  | other (text : Text) (plain : '\x7d' ∉ text)
      (noSize : ∀ key : SizeKey, ¬ key.name <:+: text)

namespace ChunkOption

/-- The option as it is written. -/
def text : ChunkOption → Text
  | size key s number =>
    s.before.1 ++ (key.name ++ (s.beforeEquals.1 ++ '=' :: (s.afterEquals.1
      ++ (optionalQuote s.opening ++ (number.1 ++ (key.unit
      ++ (optionalQuote s.closing ++ s.after.1)))))))
  | other t _ _ => t

/-- The size that an option asks for by a key. -/
def number? (key : SizeKey) : ChunkOption → Option Text
  | size k _ number => if k = key then some number.1 else none
  | other _ _ _ => none

/-- The text of options. -/
def textAll (options : List ChunkOption) : Text := Text.joinWith [','] (options.map text)

/-- The attribute for the first width among options, or else for the first height. -/
def sizeText (options : List ChunkOption) : Text :=
  match options.findSome? (number? .width) with
  | some w => "\x7bwidth=".toList ++ (w ++ ['%']) ++ "\x7d".toList
  | none =>
    match options.findSome? (number? .height) with
    | some h => "\x7bheight=".toList ++ h ++ "\x7d".toList
    | none => []

end ChunkOption

/-! ## Characters of a number -/

/-- Digits are no white space. -/
theorem isSpace_of_isDigit {c : Char} (h : isDigit c = true) : isSpace c = false := by
  have hapart : Unicode.combine (· && ·) false Unicode.Table.decimalNumber false
      Unicode.Table.whiteSpace = [] := by decide +kernel
  have hboth := Unicode.member_combine (f := (· && ·)) rfl
    (Unicode.Category.ascends_table .decimalNumber)
    (show Unicode.Ascends 0 Unicode.Table.whiteSpace by decide) c.toNat
  rw [isDigit, Bool.and_eq_true] at h
  have hdigit : Unicode.member c.toNat Unicode.Category.decimalNumber.table = true := h.1
  rw [hdigit, Bool.true_and] at hboth
  rw [isSpace, ← hboth]
  exact congrArg (Unicode.member c.toNat) hapart

theorem isSpace_of_isNumberChar {c : Char} (h : isNumberChar c = true) : isSpace c = false := by
  rw [isNumberChar, Bool.or_eq_true, beq_iff_eq] at h
  rcases h with h | rfl
  · exact isSpace_of_isDigit h
  · decide

theorem isNumberChar_of_isQuote {c : Char} (h : isQuote c = true) : isNumberChar c = false := by
  rcases (Text.isQuote_iff c).1 h with rfl | rfl <;> decide

/-! ## Reading a size -/

namespace Figure

/-- An option with a number is read up to the end of the number. -/
theorem optionNumber?_written (key : Text) (g₁ g₂ : Gap) (q : Option Quote) (number : SizeNumber)
    {rest : Text} (hrest : ∀ c ∈ rest.head?, isNumberChar c = false) :
    optionNumber? key (key ++ (g₁.1 ++ '=' :: (g₂.1 ++ (optionalQuote q
      ++ (number.1 ++ rest))))) = some (number.1, rest) := by
  obtain ⟨n, ns, hnumber⟩ := List.exists_cons_of_ne_nil number.2.1
  obtain ⟨htake, hdrop⟩ := takeWhile_dropWhile_append number.2.2 hrest
  -- the value, once the quotation mark is off
  have hread : (if ((number.1 ++ rest).takeWhile isNumberChar).isEmpty then none
      else some ((number.1 ++ rest).takeWhile isNumberChar,
        (number.1 ++ rest).dropWhile isNumberChar)) = some (number.1, rest) := by
    rw [htake, hdrop]
    simp [hnumber]
  have hequals : Text.trimStart (g₁.1 ++ '=' :: (g₂.1 ++ (optionalQuote q ++ (number.1 ++ rest))))
      = ['='] ++ (g₂.1 ++ (optionalQuote q ++ (number.1 ++ rest))) := by
    rw [Text.trimStart_append_of_isBlank g₁.2.1, Text.trimStart_cons (by decide)]
    rfl
  rw [optionNumber?, Text.after?_append]
  simp only [Option.bind_eq_bind, Option.bind_some]
  rw [hequals, Text.after?_append, Option.bind_some, Text.trimStart_append_of_isBlank g₂.2.1]
  cases q with
  | none =>
    have hn : isNumberChar n = true := number.2.2 n (by simp [hnumber])
    have hquote : isQuote n = false := by
      by_contra h
      rw [isNumberChar_of_isQuote (by simpa using h)] at hn
      exact absurd hn (by decide)
    have hvalue : Text.trimStart (optionalQuote none ++ (number.1 ++ rest))
        = n :: (ns ++ rest) := by
      simp [optionalQuote, hnumber, Text.trimStart_cons (isSpace_of_isNumberChar hn)]
    simp only [hvalue, hquote, Bool.false_eq_true, if_false]
    rw [hnumber] at hread ⊢
    exact hread
  | some c =>
    have hvalue : Text.trimStart (optionalQuote (some c) ++ (number.1 ++ rest))
        = c.1 :: (number.1 ++ rest) := Text.trimStart_cons (Text.isSpace_of_isQuote c.2) _
    simp only [hvalue, c.2]
    exact hread

end Figure

namespace SizeKey

theorem read_eq_some {key : SizeKey} {s value : Text} (h : key.read s = some value) :
    key.name <+: s := by
  have hnumber : ∃ number rest, Figure.optionNumber? key.name s = some (number, rest) := by
    cases key with
    | width =>
      simp only [read, Figure.widthHere?, Option.bind_eq_bind, Option.bind_eq_some_iff] at h
      obtain ⟨⟨number, rest⟩, hnumber, -⟩ := h
      exact ⟨number, rest, hnumber⟩
    | height =>
      simp only [read, Figure.heightHere?, Option.bind_eq_bind, Option.bind_eq_some_iff] at h
      obtain ⟨⟨number, rest⟩, hnumber, -⟩ := h
      exact ⟨number, rest, hnumber⟩
  obtain ⟨number, rest, hnumber⟩ := hnumber
  simp only [Figure.optionNumber?, Option.bind_eq_bind, Option.bind_eq_some_iff] at hnumber
  obtain ⟨r, hr, -⟩ := hnumber
  exact ⟨r, ((Text.after?_eq_some_iff _ _ _).1 hr).symm⟩

theorem read_of_optionNumber {key : SizeKey} {s number rest : Text}
    (h : Figure.optionNumber? key.name s = some (number, key.unit ++ rest)) :
    key.read s = some (number ++ key.unit) := by
  cases key with
  | width =>
    have hnumber : Figure.optionNumber? "out.width".toList s = some (number, ['%'] ++ rest) := h
    have hread : Figure.widthHere? s = some (number ++ ['%']) := by
      rw [Figure.widthHere?, hnumber]
      simp [Text.after?]
    exact hread
  | height =>
    have hnumber : Figure.optionNumber? "out.height".toList s = some (number, rest) := h
    have hread : Figure.heightHere? s = some number := by
      rw [Figure.heightHere?, hnumber]
      rfl
    rw [unit, List.append_nil]
    exact hread

/-- A size is read with its unit. -/
theorem read_written (key : SizeKey) (g₁ g₂ : Gap) (q : Option Quote) (number : SizeNumber)
    {rest : Text} (hrest : ∀ c ∈ rest.head?, isNumberChar c = false) :
    key.read (key.name ++ (g₁.1 ++ '=' :: (g₂.1 ++ (optionalQuote q
      ++ (number.1 ++ (key.unit ++ rest)))))) = some (number.1 ++ key.unit) := by
  have hunit : ∀ c ∈ (key.unit ++ rest).head?, isNumberChar c = false := by
    cases key with
    | width =>
      intro c hc
      obtain rfl := Option.some.inj hc
      decide
    | height => exact hrest
  exact read_of_optionNumber (Figure.optionNumber?_written key.name g₁ g₂ q number hunit)

end SizeKey

/-! ## Searching written options -/

/-- A character that tells the name of an option from all that another one is written with. -/
def SizeKey.mark : SizeKey → Char
  | width => 'w'
  | height => 'g'

namespace ChunkOption

theorem isQuote_of_mem_optionalQuote {q : Option Quote} {c : Char} (h : c ∈ optionalQuote q) :
    isQuote c = true := by
  cases q with
  | none => exact absurd h List.not_mem_nil
  | some d =>
    obtain rfl := List.mem_singleton.1 h
    exact d.2

theorem isSpace_of_mem_gap {g : Gap} {c : Char} (h : c ∈ g.1) : isSpace c = true :=
  (Text.isBlank_iff g.1).1 g.2.1 c h

/-- The characters that a size is written with. -/
theorem mem_text_size {key : SizeKey} {s : OptionSpelling} {number : SizeNumber} {c : Char}
    (h : c ∈ (size key s number).text) :
    isSpace c = true ∨ isQuote c = true ∨ isNumberChar c = true
      ∨ c ∈ '=' :: (key.name ++ key.unit) := by
  simp only [text, List.mem_append, List.mem_cons] at h ⊢
  rcases h with h | h | h | h | h | h | h | h | h | h
  · exact Or.inl (isSpace_of_mem_gap h)
  · simp [h]
  · exact Or.inl (isSpace_of_mem_gap h)
  · simp [h]
  · exact Or.inl (isSpace_of_mem_gap h)
  · exact Or.inr (Or.inl (isQuote_of_mem_optionalQuote h))
  · exact Or.inr (Or.inr (Or.inl (number.2.2 c h)))
  · simp [h]
  · exact Or.inr (Or.inl (isQuote_of_mem_optionalQuote h))
  · exact Or.inl (isSpace_of_mem_gap h)

/-- An option that asks for one size does not name the other one. -/
theorem size_not_names {key k : SizeKey} (hk : k ≠ key) (s : OptionSpelling)
    (number : SizeNumber) : ¬ key.name <:+: (size k s number).text := by
  intro h
  have hmem : key.mark ∈ key.name := by cases key <;> decide
  rcases mem_text_size (h.subset hmem) with hmark | hmark | hmark | hmark
  · cases key <;> exact absurd hmark (by decide)
  · cases key <;> exact absurd hmark (by decide)
  · cases key <;> exact absurd hmark (by decide)
  · cases key <;> cases k <;> contradiction

theorem brace_not_mem_text (o : ChunkOption) : '\x7d' ∉ o.text := by
  cases o with
  | other t plain noSize => exact plain
  | size key s number =>
    intro h
    rcases mem_text_size h with hbrace | hbrace | hbrace | hbrace
    · exact absurd hbrace (by decide)
    · exact absurd hbrace (by decide)
    · exact absurd hbrace (by decide)
    · cases key <;> exact absurd hbrace (by decide)

theorem brace_not_mem_textAll (options : List ChunkOption) : '\x7d' ∉ textAll options := by
  intro h
  rcases Text.mem_joinWith h with h | ⟨p, hp, h⟩
  · exact absurd h (by decide)
  · obtain ⟨o, -, rfl⟩ := List.mem_map.1 hp
    exact o.brace_not_mem_text h

theorem textAll_cons_cons (o p : ChunkOption) (options : List ChunkOption) :
    textAll (o :: p :: options) = o.text ++ ',' :: textAll (p :: options) := by
  simp [textAll, Text.joinWith, List.intercalate_cons_cons]

end ChunkOption

namespace SizeKey

open ChunkOption

/-- What follows a number in an option does not go on with it. -/
theorem head?_after_number {q : Option Quote} {g : Gap} {tail : Text}
    (htail : ∀ c ∈ tail.head?, isNumberChar c = false) :
    ∀ c ∈ (optionalQuote q ++ (g.1 ++ tail)).head?, isNumberChar c = false := by
  cases q with
  | some d =>
    intro c hc
    obtain rfl := Option.some.inj hc
    exact isNumberChar_of_isQuote d.2
  | none =>
    obtain ⟨g, hblank, -⟩ := g
    cases g with
    | nil => exact htail
    | cons d g =>
      intro c hc
      obtain rfl := Option.some.inj hc
      have hspace : isSpace d = true := (Text.isBlank_iff _).1 hblank d (by simp)
      by_contra hnumber
      rw [isSpace_of_isNumberChar (by simpa using hnumber)] at hspace
      exact absurd hspace (by decide)

/-- A size that is written is found behind its white space. -/
theorem search_size (key : SizeKey) (s : OptionSpelling) (number : SizeNumber) {tail : Text}
    (htail : ∀ c ∈ tail.head?, isNumberChar c = false) :
    firstMatch? key.read ((size key s number).text ++ tail) = some (number.1 ++ key.unit) := by
  have hhead : key.name.head?.any isSpace = false := by cases key <;> decide
  have hne : key.name ≠ [] := by cases key <;> decide
  simp only [text, List.append_assoc, List.cons_append]
  rw [Text.firstMatch?_append_of_blank (fun _ _ => read_eq_some) hhead hne s.before.2.1]
  exact Text.firstMatch?_of_some
    (key.read_written s.beforeEquals s.afterEquals s.opening number (head?_after_number htail))

/-- **A search for a key** finds the first option that asks for this size. -/
theorem search_options (key : SizeKey) (options : List ChunkOption) :
    firstMatch? key.read (textAll options)
      = (options.findSome? (number? key)).map (· ++ key.unit) := by
  have hread : ∀ s value, key.read s = some value → key.name <+: s := fun _ _ => read_eq_some
  have hcomma : ',' ∉ key.name := by cases key <;> decide
  induction options with
  | nil =>
    have hne : ¬ key.name <:+: [] := by cases key <;> decide
    exact Text.firstMatch?_eq_none hread hne
  | cons o options ih =>
    -- an option that does not name the key is passed over
    have hskip : ¬ key.name <:+: o.text → firstMatch? key.read (textAll (o :: options))
        = (options.findSome? (number? key)).map (· ++ key.unit) := by
      intro hname
      cases options with
      | nil =>
        have hnone := Text.firstMatch?_eq_none hread hname
        simpa [textAll, Text.joinWith] using hnone
      | cons p options =>
        rw [textAll_cons_cons, Text.firstMatch?_append_cons hread hname hcomma, ih]
    cases o with
    | other t plain noSize =>
      have hpassed : (other t plain noSize :: options).findSome? (number? key)
          = options.findSome? (number? key) := rfl
      rw [hpassed]
      exact hskip (noSize key)
    | size k s number =>
      by_cases hk : k = key
      · subst hk
        have hfound : (size k s number :: options).findSome? (number? k) = some number.1 := by
          simp [number?]
        rw [hfound]
        cases options with
        | nil =>
          have hend : ∀ c ∈ ([] : Text).head?, isNumberChar c = false := by simp
          simpa [textAll, Text.joinWith] using k.search_size s number hend
        | cons p options =>
          rw [textAll_cons_cons]
          refine k.search_size s number fun c hc => ?_
          obtain rfl := Option.some.inj hc
          decide
      · have hpassed : (size k s number :: options).findSome? (number? key)
            = options.findSome? (number? key) := by
          simp [number?, hk]
        rw [hpassed]
        exact hskip (size_not_names hk s number)

end SizeKey

/-- **The size of a chunk.**  Its width becomes the attribute of the link, and its height if there
is no width. -/
theorem Figure.sizeAttribute_options (options : List ChunkOption) :
    sizeAttribute (size? (' ' :: ChunkOption.textAll options)) = ChunkOption.sizeText options := by
  have hsearch : ∀ key : SizeKey, firstMatch? key.read (' ' :: ChunkOption.textAll options)
      = (options.findSome? (ChunkOption.number? key)).map (· ++ key.unit) := by
    intro key
    have hhead : key.name.head?.any isSpace = false := by cases key <;> decide
    have hne : key.name ≠ [] := by cases key <;> decide
    have hblank : Text.isBlank [' '] = true := by decide
    rw [← key.search_options options]
    exact Text.firstMatch?_append_of_blank (fun _ _ => SizeKey.read_eq_some) hhead hne hblank _
  have hwidth : firstMatch? widthHere? (' ' :: ChunkOption.textAll options)
      = (options.findSome? (ChunkOption.number? .width)).map (· ++ ['%']) := hsearch .width
  have hheight : firstMatch? heightHere? (' ' :: ChunkOption.textAll options)
      = options.findSome? (ChunkOption.number? .height) := by
    have h := hsearch .height
    simp only [SizeKey.unit, List.append_nil, Option.map_id'] at h
    exact h
  rw [size?, hwidth, hheight, ChunkOption.sizeText]
  cases options.findSome? (ChunkOption.number? .width) with
  | some w => dsimp only [Option.map_some, sizeAttribute]
  | none =>
    cases options.findSome? (ChunkOption.number? .height) with
    | some h => dsimp only [Option.map_some, Option.map_none, sizeAttribute]
    | none => rfl

end SlideDeck
