import SlideDeck.Proofs.Code.Respelling

/-!
# Calls as they are written

A call that is respelled is read off the front of a text, up to its closing parenthesis or up to
the end of its first argument.  Here stands what such a front looks like, for each kind of call, so
that later proofs reason about the text and not about the steps that read it.

* `PathLiteral.IsWritten`, `PathCall.IsWritten` and `ReadCall.IsWritten` — what is true of a literal
  and of a call that are read.
* `PathLiteral.read_eq_some_iff`, `PathCall.read_eq_some_iff`, `ReadCall.read_eq_some_iff` and
  `SourceCall.read_eq_some_iff` — a call is read exactly where it is written.
* `PathCall.respell`, `ReadCall.respell` and `SourceCall.respell` are the three passes over a line,
  one for each kind of call.
-/

set_option autoImplicit false

namespace SlideDeck

open Text (isQuote)

/-! ## Literals -/

/-- Of texts that do not begin one another, the one that is there is read. -/
theorem Text.oneOf?_append_cons {fronts : List Text} {front : Text} {c : Char}
    (hmem : front ∈ fronts) (hc : ∀ f ∈ fronts, c ∉ f)
    (hapart : ∀ f ∈ fronts, f <+: front → f = front) (rest : Text) :
    oneOf? fronts (front ++ c :: rest) = some (front, c :: rest) := by
  induction fronts with
  | nil => simp at hmem
  | cons f fronts ih =>
    rw [oneOf?, List.findSome?_cons]
    by_cases hf : f = front
    · rw [hf, after?_append]
      rfl
    · have hnone : after? f (front ++ c :: rest) = none := by
        rw [Option.eq_none_iff_forall_ne_some]
        intro r hr
        rw [after?_eq_some_iff] at hr
        have hprefix := prefix_of_prefix_append_cons ⟨r, hr.symm⟩ (hc f (List.mem_cons_self ..))
        exact hf (hapart f (List.mem_cons_self ..) hprefix)
      rw [hnone]
      exact ih (List.mem_of_ne_of_mem (Ne.symm hf) hmem)
        (fun g hg => hc g (List.mem_cons_of_mem f hg))
        (fun g hg => hapart g (List.mem_cons_of_mem f hg))

namespace PathLiteral

/-- What is true of a literal that is read: its path goes from the slash behind the directory to a
quotation mark, and there is none in between. -/
structure IsWritten (roots : List Text) (b : PathLiteral) : Prop where
  opening : isQuote b.opening = true
  root : b.root ∈ roots
  path_ne : b.path ≠ []
  path : b.path.any isQuote = false
  closing : isQuote b.closing = true

theorem isWritten_of_read {roots : List Text} {s rest : Text} {b : PathLiteral}
    (h : read roots s = some (b, rest)) : b.IsWritten roots := by
  have hclosing := isQuote_closing h
  have hroot := (read_eq_some h).1
  cases s with
  | nil => simp [read] at h
  | cons q s =>
    simp only [read] at h
    split at h
    · next hq =>
      simp only [Option.bind_eq_bind, Option.bind_eq_some_iff] at h
      obtain ⟨⟨root, s₁⟩, -, s₂, -, h⟩ := h
      split at h
      · next c path q' rest' hpath hrest =>
        obtain ⟨rfl, rfl⟩ := Prod.mk.inj (Option.some.inj h)
        refine ⟨hq, hroot, List.cons_ne_nil c path, ?_, hclosing⟩
        rw [← hpath, Text.any_eq_false_iff]
        exact fun d hd => by simpa using List.mem_takeWhile_imp hd
      · simp at h
    · simp at h

theorem read_text {roots : List Text} (hslash : ∀ f ∈ roots, '/' ∉ f)
    (hapart : ∀ f ∈ roots, ∀ g ∈ roots, f <+: g → f = g) {b : PathLiteral} (h : b.IsWritten roots)
    (rest : Text) : read roots (b.text ++ rest) = some (b, rest) := by
  obtain ⟨opening, root, path, closing⟩ := b
  obtain ⟨hopening, hroot, hne, hpath, hclosing⟩ := h
  dsimp only at hopening hroot hne hpath hclosing
  obtain ⟨c, path, rfl⟩ := List.exists_cons_of_ne_nil hne
  have hshape : text ⟨opening, root, c :: path, closing⟩ ++ rest
      = opening :: (root ++ '/' :: (c :: path ++ closing :: rest)) := by simp [text]
  have hread := Text.oneOf?_append_cons hroot hslash (fun f hf => hapart f hf _ hroot)
    (c :: path ++ closing :: rest)
  have hslashed : Text.after? ['/'] ('/' :: (c :: path ++ closing :: rest))
      = some (c :: path ++ closing :: rest) := Text.after?_append ['/'] _
  have hall : ∀ d ∈ c :: path, (!isQuote d) = true := fun d hd => by
    rw [Text.any_eq_false_iff.1 hpath d hd]
    rfl
  have hstop : ∀ d ∈ (closing :: rest).head?, (!isQuote d) = false := by simp [hclosing]
  obtain ⟨htake, hdrop⟩ := takeWhile_dropWhile_append hall hstop
  rw [hshape, read, if_pos hopening, hread]
  simp only [Option.bind_eq_bind, Option.bind_some, hslashed, htake, hdrop]

/-- **A literal is read exactly where it is written**, below directories that do not begin one
another. -/
theorem read_eq_some_iff {roots : List Text} (hslash : ∀ f ∈ roots, '/' ∉ f)
    (hapart : ∀ f ∈ roots, ∀ g ∈ roots, f <+: g → f = g) {s rest : Text} {b : PathLiteral} :
    read roots s = some (b, rest) ↔ b.IsWritten roots ∧ s = b.text ++ rest := by
  constructor
  · exact fun h => ⟨isWritten_of_read h, (read_eq_some h).2⟩
  · rintro ⟨h, rfl⟩
    exact read_text hslash hapart h rest

end PathLiteral

/-! ## Calls -/

/-- The directories of data and images. -/
def dataRoots : List Text := ["data".toList, "images".toList]

namespace PathCall

/-- The call as it stands in code. -/
def text (b : PathCall) : Text := "file.path(".toList ++ b.arguments ++ [')']

/-- What is true of a call that is read: its arguments start with a directory, and they end at the
first closing parenthesis. -/
structure IsWritten (b : PathCall) : Prop where
  root : hasRoot b.arguments = true
  arguments : ')' ∉ b.arguments

/-- The line with its `file.path` calls respelled. -/
def respell (l : Line) : Line := recogniser.rewrite render l

/-- Arguments that start with a directory of data or images. -/
theorem hasRoot_iff (arguments : Text) :
    hasRoot arguments = true ↔ ∃ q root q' more, isQuote q = true ∧ root ∈ dataRoots
      ∧ isQuote q' = true ∧ arguments = q :: (root ++ q' :: ',' :: more) := by
  cases arguments with
  | nil => simp [hasRoot]
  | cons q s =>
    simp only [hasRoot, Bool.and_eq_true]
    constructor
    · rintro ⟨hq, h⟩
      split at h
      · next root q' more hroot =>
        obtain ⟨hmem, rfl⟩ := Text.oneOf?_eq_some hroot
        exact ⟨q, root, q', more, hq, hmem, h, rfl⟩
      · simp at h
    · rintro ⟨q₁, root, q', more, hq, hmem, hq', heq⟩
      obtain ⟨rfl, rfl⟩ := List.cons.inj heq
      have hplain : ∀ f ∈ dataRoots, f.any isQuote = false := by decide
      have hquote : ∀ f ∈ dataRoots, q' ∉ f := fun f hf =>
        Text.not_mem_of_isQuote hq' (hplain f hf)
      have hapart : ∀ f ∈ dataRoots, ∀ g ∈ dataRoots, f <+: g → f = g := by decide
      have hread := Text.oneOf?_append_cons hmem hquote (fun f hf => hapart f hf root hmem)
        (',' :: more)
      rw [dataRoots] at hread
      rw [hread]
      exact ⟨hq, hq'⟩

/-- **A `file.path` call is read exactly where it is written.** -/
theorem read_eq_some_iff {s rest : Text} {b : PathCall} :
    read s = some (b, rest) ↔ b.IsWritten ∧ s = b.text ++ rest := by
  constructor
  · intro h
    refine ⟨?_, read_eq_some h⟩
    simp only [read, Option.bind_eq_bind, Option.bind_eq_some_iff] at h
    obtain ⟨r₁, -, r₂, -, h⟩ := h
    split at h
    · next hroot =>
      obtain ⟨rfl, rfl⟩ := Prod.mk.inj (Option.some.inj h)
      refine ⟨hroot, fun hmem => ?_⟩
      exact absurd (List.mem_takeWhile_imp hmem) (by decide)
    · simp at h
  · rintro ⟨h, rfl⟩
    obtain ⟨htake, hdrop⟩ := takeWhile_dropWhile_append_cons h.arguments rest
    have hafter : Text.after? "file.path(".toList (b.text ++ rest)
        = some (b.arguments ++ ')' :: rest) := by
      unfold text
      rw [List.append_assoc, List.append_assoc]
      exact Text.after?_append _ _
    have hparen : Text.after? [')'] (')' :: rest) = some rest := Text.after?_append [')'] rest
    rw [read, hafter]
    simp only [Option.bind_eq_bind, Option.bind_some, htake, hdrop, hparen, if_pos h.root]

end PathCall

namespace ReadCall

/-- The call as it stands in code, up to the end of its first argument; white space may stand in
front of that. -/
def text (blank : Text) (b : ReadCall) : Text := b.function ++ '(' :: blank ++ b.literal.text

/-- What is true of a call that is read. -/
structure IsWritten (b : ReadCall) : Prop where
  function : b.function ∈ functions
  literal : b.literal.IsWritten dataRoots

/-- The line with its calls that read a table respelled. -/
def respell (l : Line) : Line := recogniser.rewrite render l

/-- **A call that reads a table is read exactly where it is written.** -/
theorem read_eq_some_iff {s rest : Text} {b : ReadCall} :
    read s = some (b, rest) ↔
      b.IsWritten ∧ ∃ blank, Text.isBlank blank = true ∧ s = b.text blank ++ rest := by
  have hslash : ∀ f ∈ dataRoots, '/' ∉ f := by decide
  have hapart : ∀ f ∈ dataRoots, ∀ g ∈ dataRoots, f <+: g → f = g := by decide
  constructor
  · intro h
    simp only [read, Option.bind_eq_bind, Option.bind_eq_some_iff] at h
    obtain ⟨⟨function, r₁⟩, h₁, r₂, h₂, ⟨literal, r₃⟩, h₃, h₄⟩ := h
    obtain ⟨rfl, rfl⟩ := Prod.mk.inj (Option.some.inj h₄)
    obtain ⟨hfunction, rfl⟩ := Text.oneOf?_eq_some h₁
    rw [Text.after?_eq_some_iff] at h₂
    obtain ⟨hliteral, hrest⟩ := (PathLiteral.read_eq_some_iff hslash hapart).1 h₃
    obtain ⟨blank, hblank, hr₂⟩ := Text.exists_trimStart r₂
    refine ⟨⟨hfunction, hliteral⟩, blank, hblank, ?_⟩
    have hparen : r₁ = '(' :: r₂ := h₂
    dsimp only
    rw [text, hparen, ← hr₂, hrest]
    simp
  · rintro ⟨h, blank, hblank, rfl⟩
    have hparen : ∀ f ∈ functions, '(' ∉ f := by decide
    have hfree : ∀ f ∈ functions, ∀ g ∈ functions, f <+: g → f = g := by decide
    have hfunction := Text.oneOf?_append_cons h.function hparen
      (fun f hf => hfree f hf _ h.function) (blank ++ (b.literal.text ++ rest))
    have hspace := Text.isSpace_of_isQuote h.literal.opening
    have htrim : Text.trimStart (blank ++ (b.literal.text ++ rest)) = b.literal.text ++ rest := by
      rw [Text.trimStart_append_of_isBlank hblank]
      exact Text.trimStart_cons hspace _
    have hshape : b.text blank ++ rest
        = b.function ++ '(' :: (blank ++ (b.literal.text ++ rest)) := by simp [text]
    have hliteral := PathLiteral.read_text hslash hapart h.literal rest
    rw [dataRoots] at hliteral
    have hafter : Text.after? ['('] ('(' :: (blank ++ (b.literal.text ++ rest)))
        = some (blank ++ (b.literal.text ++ rest)) := Text.after?_append ['('] _
    rw [hshape, read, hfunction]
    simp only [Option.bind_eq_bind, Option.bind_some, hafter, htrim, hliteral]
    rfl

end ReadCall

namespace SourceCall

/-- The call as it stands in code, up to the end of its first argument. -/
def text (b : SourceCall) : Text := "source(".toList ++ b.literal.text

/-- The line with its calls that run a source file respelled. -/
def respell (l : Line) : Line := recogniser.rewrite render l

/-- **A call that runs a source file is read exactly where it is written.** -/
theorem read_eq_some_iff {s rest : Text} {b : SourceCall} :
    read s = some (b, rest) ↔ b.literal.IsWritten ["R".toList] ∧ s = b.text ++ rest := by
  have hslash : ∀ f ∈ ["R".toList], '/' ∉ f := by decide
  have hapart : ∀ f ∈ ["R".toList], ∀ g ∈ ["R".toList], f <+: g → f = g := by decide
  constructor
  · intro h
    refine ⟨?_, read_eq_some h⟩
    simp only [read, Option.bind_eq_bind, Option.bind_eq_some_iff] at h
    obtain ⟨r₁, -, ⟨literal, r₂⟩, h₂, h₃⟩ := h
    obtain ⟨rfl, rfl⟩ := Prod.mk.inj (Option.some.inj h₃)
    exact ((PathLiteral.read_eq_some_iff hslash hapart).1 h₂).1
  · rintro ⟨h, rfl⟩
    have hliteral := PathLiteral.read_text hslash hapart h rest
    have hafter : Text.after? "source(".toList (b.text ++ rest)
        = some (b.literal.text ++ rest) := by
      unfold text
      rw [List.append_assoc]
      exact Text.after?_append _ _
    rw [read, hafter]
    simp only [Option.bind_eq_bind, Option.bind_some, hliteral]
    rfl

end SourceCall

theorem ProjectPath.rewriteLine_eq (l : Line) :
    rewriteLine l = SourceCall.respell (ReadCall.respell (PathCall.respell l)) := rfl

end SlideDeck
