import SlideDeck.Document.Line
import SlideDeck.Document.Piece

/-!
# Paths in the project

The converted document lies one directory below the root of its project.  Code finds the data,
the images and the R sources of the project through `here::here`, and image links go up one
directory.

* `PathLiteral` is a quoted path below a directory of the project.
* `PathCall`, `ReadCall`, `SourceCall` and `ImageLink` are the places in a line that name such a
  path, each with its recogniser and its new spelling.
* `ProjectPath.rewriteLine` rewrites the calls of a line, one kind after the other;
  `ProjectPath.fixLine` rewrites its image links.  What is written is not read again.
-/

set_option autoImplicit false

namespace SlideDeck

open Text (isQuote)

/-- Reads one of several fixed texts off the start of a text, the first that fits. -/
def Text.oneOf? (fronts : List Text) (s : Text) : Option (Text × Text) :=
  fronts.findSome? fun front => (Text.after? front s).map fun r => (front, r)

theorem Text.oneOf?_eq_some {fronts : List Text} {s front r : Text}
    (h : Text.oneOf? fronts s = some (front, r)) : front ∈ fronts ∧ s = front ++ r := by
  obtain ⟨f, hf, hr⟩ := List.exists_of_findSome?_eq_some h
  obtain ⟨r', hr', heq⟩ := Option.map_eq_some_iff.1 hr
  obtain ⟨rfl, rfl⟩ := Prod.mk.inj heq
  exact ⟨hf, (Text.after?_eq_some_iff _ _ _).1 hr'⟩

/-! ## Path literals -/

/-- A quoted path below a directory of the project, its quotes of either sort. -/
structure PathLiteral where
  opening : Char
  /-- The directory, without the slash that follows it. -/
  root : Text
  /-- The path below the directory. -/
  path : Text
  closing : Char
  deriving DecidableEq, Repr

namespace PathLiteral

/-- The literal as it stands in code. -/
def text (b : PathLiteral) : Text :=
  b.opening :: b.root ++ '/' :: b.path ++ [b.closing]

/-- Reads a literal below one of the directories.  The path below the directory is not empty and
goes up to the next quote of either sort. -/
def read (roots : List Text) : Text → Option (PathLiteral × Text)
  | [] => none
  | q :: s =>
    if isQuote q then do
      let (root, s) ← Text.oneOf? roots s
      let s ← Text.after? ['/'] s
      match s.takeWhile (fun c => !isQuote c), s.dropWhile (fun c => !isQuote c) with
      | c :: path, q' :: rest => some (⟨q, root, c :: path, q'⟩, rest)
      | _, _ => none
    else none

theorem read_eq_some {roots : List Text} {s rest : Text} {b : PathLiteral}
    (h : read roots s = some (b, rest)) : b.root ∈ roots ∧ s = b.text ++ rest := by
  cases s with
  | nil => simp [read] at h
  | cons q s =>
    simp only [read] at h
    split at h
    · simp only [Option.bind_eq_bind, Option.bind_eq_some_iff] at h
      obtain ⟨⟨root, s₁⟩, h₁, s₂, h₂, h₃⟩ := h
      obtain ⟨hroot, rfl⟩ := Text.oneOf?_eq_some h₁
      rw [Text.after?_eq_some_iff] at h₂
      split at h₃
      · next c path q' rest' hpath hrest =>
        obtain ⟨rfl, rfl⟩ := Prod.mk.inj (Option.some.inj h₃)
        refine ⟨hroot, ?_⟩
        have h₂' : s₁ = '/' :: s₂ := h₂
        rw [h₂', ← List.takeWhile_append_dropWhile (p := fun c => !isQuote c) (l := s₂),
          hpath, hrest]
        simp [text]
      · simp at h₃
    · simp at h

end PathLiteral

/-! ## `file.path` calls -/

/-- A `file.path` call below a root directory: everything between its parentheses. -/
structure PathCall where
  arguments : Text
  deriving DecidableEq, Repr

namespace PathCall

/-- Whether arguments start with a quoted root directory and a comma. -/
def hasRoot (arguments : Text) : Bool :=
  match arguments with
  | [] => false
  | q :: s =>
    isQuote q &&
      match Text.oneOf? ["data".toList, "images".toList] s with
      | some (_, q' :: ',' :: _) => isQuote q'
      | _ => false

/-- Reads the call at the start of a text. -/
def read (s : Text) : Option (PathCall × Text) := do
  let r ← Text.after? "file.path(".toList s
  let arguments := r.takeWhile (· != ')')
  let rest ← Text.after? [')'] (r.dropWhile (· != ')'))
  if hasRoot arguments then some (⟨arguments⟩, rest) else none

/-- The calls of a line. -/
def recogniser : Recogniser Char PathCall where
  read := read
  read_front := by
    intro s r b h
    simp only [read, Option.bind_eq_bind, Option.bind_eq_some_iff] at h
    obtain ⟨r₁, h₁, r₂, h₂, h₃⟩ := h
    split at h₃
    · obtain ⟨-, rfl⟩ := Prod.mk.inj (Option.some.inj h₃)
      rw [Text.after?_eq_some_iff] at h₁ h₂
      refine ⟨'f', "ile.path(".toList ++ r₁.takeWhile (· != ')') ++ [')'], ?_⟩
      rw [h₁, List.cons_append, List.append_assoc, List.append_assoc, ← h₂,
        List.takeWhile_append_dropWhile]
      rfl
    · simp at h₃

/-- The call through `here::here`. -/
def render (b : PathCall) : Text := "here::here(".toList ++ b.arguments ++ [')']

end PathCall

/-! ## Calls that read a table -/

/-- A call that reads a file of the project: the function and its first argument. -/
structure ReadCall where
  function : Text
  literal : PathLiteral
  deriving DecidableEq, Repr

namespace ReadCall

/-- The functions that read a table. -/
def functions : List Text := ["read_table".toList, "read_csv".toList, "read_delim".toList]

/-- Reads the call at the start of a text, up to the end of its first argument. -/
def read (s : Text) : Option (ReadCall × Text) := do
  let (function, r) ← Text.oneOf? functions s
  let r ← Text.after? ['('] r
  let (literal, rest) ← PathLiteral.read ["data".toList, "images".toList] (Text.trimStart r)
  return (⟨function, literal⟩, rest)

theorem read_eq_some {s rest : Text} {b : ReadCall} (h : read s = some (b, rest)) :
    b.function ∈ functions ∧
      ∃ blank, s = b.function ++ '(' :: blank ++ b.literal.text ++ rest := by
  simp only [read, Option.bind_eq_bind, Option.bind_eq_some_iff] at h
  obtain ⟨⟨function, r₁⟩, h₁, r₂, h₂, ⟨literal, r₃⟩, h₃, h₄⟩ := h
  obtain ⟨rfl, rfl⟩ := Prod.mk.inj (Option.some.inj h₄)
  obtain ⟨hf, rfl⟩ := Text.oneOf?_eq_some h₁
  rw [Text.after?_eq_some_iff] at h₂
  obtain ⟨-, h₃⟩ := PathLiteral.read_eq_some h₃
  refine ⟨hf, r₂.takeWhile Unicode.isSpace, ?_⟩
  have h₂' : r₁ = '(' :: r₂ := h₂
  have htrim : r₂ = r₂.takeWhile Unicode.isSpace ++ Text.trimStart r₂ :=
    List.takeWhile_append_dropWhile.symm
  rw [h₃] at htrim
  rw [h₂']
  conv => lhs; rw [htrim]
  simp

/-- The calls of a line. -/
def recogniser : Recogniser Char ReadCall where
  read := read
  read_front := by
    intro s r b h
    obtain ⟨hf, blank, rfl⟩ := read_eq_some h
    have hne : b.function ≠ [] := by
      intro h0
      rw [h0] at hf
      revert hf
      decide
    obtain ⟨a, f, hf'⟩ := List.exists_cons_of_ne_nil hne
    exact ⟨a, f ++ '(' :: blank ++ b.literal.text, by simp [hf']⟩

/-- The call with its first argument through `here::here`. -/
def render (b : ReadCall) : Text :=
  b.function ++ "(here::here(\"".toList ++ b.literal.root ++ "\", \"".toList
    ++ b.literal.path ++ "\")".toList

end ReadCall

/-! ## Calls that run a source file -/

/-- A call that runs a source file of the project: its first argument. -/
structure SourceCall where
  literal : PathLiteral
  deriving DecidableEq, Repr

namespace SourceCall

/-- Reads the call at the start of a text, up to the end of its first argument. -/
def read (s : Text) : Option (SourceCall × Text) := do
  let r ← Text.after? "source(".toList s
  let (literal, rest) ← PathLiteral.read ["R".toList] r
  return (⟨literal⟩, rest)

theorem read_eq_some {s rest : Text} {b : SourceCall} (h : read s = some (b, rest)) :
    s = "source(".toList ++ b.literal.text ++ rest := by
  simp only [read, Option.bind_eq_bind, Option.bind_eq_some_iff] at h
  obtain ⟨r₁, h₁, ⟨literal, r₂⟩, h₂, h₃⟩ := h
  obtain ⟨rfl, rfl⟩ := Prod.mk.inj (Option.some.inj h₃)
  rw [Text.after?_eq_some_iff] at h₁
  rw [h₁, (PathLiteral.read_eq_some h₂).2, List.append_assoc]

/-- The calls of a line. -/
def recogniser : Recogniser Char SourceCall where
  read := read
  read_front := by
    intro s r b h
    exact ⟨'s', "ource(".toList ++ b.literal.text, by rw [read_eq_some h]; simp⟩

/-- The call with its first argument through `here::here`. -/
def render (b : SourceCall) : Text :=
  "source(here::here(".toList ++ b.literal.text ++ [')']

end SourceCall

/-! ## Image links -/

/-- The start of an image link below a root directory: its alternative text and the root. -/
structure ImageLink where
  alternative : Text
  root : Text
  deriving DecidableEq, Repr

namespace ImageLink

/-- Reads the link at the start of a text, up to the slash after the root. -/
def read (s : Text) : Option (ImageLink × Text) := do
  let r ← Text.after? "![".toList s
  let target ← Text.after? "](".toList (r.dropWhile (· != ']'))
  let (root, rest) ← Text.oneOf? ["images/".toList, "data/".toList] target
  return (⟨r.takeWhile (· != ']'), root⟩, rest)

/-- The image links of a line. -/
def recogniser : Recogniser Char ImageLink where
  read := read
  read_front := by
    intro s r b h
    simp only [read, Option.bind_eq_bind, Option.bind_eq_some_iff] at h
    obtain ⟨r₁, h₁, r₂, h₂, ⟨root, rest⟩, h₃, h₄⟩ := h
    obtain ⟨-, rfl⟩ := Prod.mk.inj (Option.some.inj h₄)
    rw [Text.after?_eq_some_iff] at h₁ h₂
    obtain ⟨-, rfl⟩ := Text.oneOf?_eq_some h₃
    refine ⟨'!', '[' :: r₁.takeWhile (· != ']') ++ "](".toList ++ root, ?_⟩
    rw [h₁]
    conv => lhs; rw [← List.takeWhile_append_dropWhile (p := (· != ']')) (l := r₁), h₂]
    simp

/-- The start of the link one directory up. -/
def render (b : ImageLink) : Text :=
  "![".toList ++ b.alternative ++ "](../".toList ++ b.root

end ImageLink

/-! ## Whole lines -/

namespace ProjectPath

/-- A line with its calls through `here::here`. -/
def rewriteLine (l : Line) : Line :=
  SourceCall.recogniser.rewrite SourceCall.render
    (ReadCall.recogniser.rewrite ReadCall.render
      (PathCall.recogniser.rewrite PathCall.render l))

/-- A line with its image links one directory up. -/
def fixLine (l : Line) : Line := ImageLink.recogniser.rewrite ImageLink.render l

/-- The document with all calls through `here::here`. -/
def rewriteCalls (d : Document) : Document := d.map rewriteLine

/-- The document with all image links one directory up. -/
def fixImageLinks (d : Document) : Document := d.map fixLine

end ProjectPath
end SlideDeck
