import SlideDeck.Proofs.Code.ChunkOptions
import SlideDeck.Proofs.Pipeline.FencedChunks

/-!
# Which chunks become a link

A chunk with its closing fence is converted by itself, whatever is in front of it and behind it,
unless a chunk in front of it is open.  Two things decide what becomes of it: whether its header
begins as that of an R chunk does, which is asked of five characters and not of the whole name of
the engine; and whether the first line of its body that names the function for images has a
complete call.  The other lines of the body are not looked at, so they go with the chunk.

* `Figure.exists_argument_iff` — what a line with a complete call looks like.
* `Chunk` is a chunk from its header to its closing fence; `Chunk.image?` is the image it shows.
* `Chunk.convert_around` — a chunk in its document, and `Chunk.kept_iff` — whether it is kept.
* `Chunk.code_kept_iff` — what becomes of an R chunk, with the code that it has besides the call.
* `Chunk.engine_kept_iff` — what becomes of a chunk of any engine.
-/

set_option autoImplicit false

namespace SlideDeck

open Unicode (isAlphabetic isNumeric)

/-! ## Calls -/

/-- A search succeeds exactly if some end of the text is accepted. -/
theorem Text.exists_firstMatch?_iff {α : Type} (read : Text → Option α) (s : Text) :
    (∃ a, firstMatch? read s = some a) ↔ ∃ t, t <:+ s ∧ ∃ a, read t = some a := by
  constructor
  · rintro ⟨a, ha⟩
    obtain ⟨t, ht, hread⟩ := exists_suffix_of_firstMatch? ha
    exact ⟨t, ht, a, hread⟩
  · rintro ⟨t, ⟨front, rfl⟩, a, ha⟩
    induction front with
    | nil => exact ⟨a, firstMatch?_of_some ha⟩
    | cons c front ih =>
      obtain ⟨b, hb⟩ := ih
      cases hhere : read (c :: (front ++ t)) with
      | some d => exact ⟨d, firstMatch?_of_some hhere⟩
      | none => exact ⟨b, by rw [List.cons_append, firstMatch?, hhere, hb]; rfl⟩

namespace Figure

/-- Whether a line names the function that shows an image. -/
def namesCall (l : Line) : Bool := Text.contains l graphicsCall

/-- Whether a line has a complete call that shows an image: the name of the function, an opening
parenthesis, and further on in the line a closing one. -/
def HasCall (l : Line) : Prop :=
  ∃ front rest, Text.trim l = front ++ (graphicsCall ++ '(' :: rest)
    ∧ ')' ∈ rest.takeWhile (· != '\n')

theorem beforeLastParen?_isSome_iff (s : Text) : (∃ t, beforeLastParen? s = some t) ↔ ')' ∈ s := by
  rw [beforeLastParen?]
  by_cases h : ')' ∈ s
  · have hany : s.any (· == ')') = true := List.any_eq_true.2 ⟨')', h, rfl⟩
    rw [if_pos hany]
    exact iff_of_true ⟨_, rfl⟩ h
  · have hany : s.any (· == ')') = false := by simpa using fun c hc => ne_of_mem_of_not_mem hc h
    rw [hany]
    exact iff_of_false (by simp) h

/-- **A call is found exactly in a line that has a complete one.** -/
theorem exists_argument_iff (l : Line) :
    (∃ argument, argument? (Text.trim l) = some argument) ↔ HasCall l := by
  have hhere : ∀ t : Text, (∃ argument, argumentHere? t = some argument)
      ↔ ∃ rest, t = graphicsCall ++ '(' :: rest ∧ ')' ∈ rest.takeWhile (· != '\n') := by
    intro t
    simp only [argumentHere?, Option.bind_eq_bind, Option.bind_eq_some_iff,
      Text.after?_eq_some_iff, List.append_assoc, List.singleton_append]
    constructor
    · rintro ⟨argument, rest, ht, hargument⟩
      exact ⟨rest, ht, (beforeLastParen?_isSome_iff _).1 ⟨argument, hargument⟩⟩
    · rintro ⟨rest, ht, hparen⟩
      obtain ⟨argument, hargument⟩ := (beforeLastParen?_isSome_iff _).2 hparen
      exact ⟨argument, rest, ht, hargument⟩
  rw [argument?, Text.exists_firstMatch?_iff, HasCall]
  constructor
  · rintro ⟨t, ⟨front, hfront⟩, ht⟩
    obtain ⟨rest, rfl, hparen⟩ := (hhere t).1 ht
    exact ⟨front, rest, hfront.symm, hparen⟩
  · rintro ⟨front, rest, hline, hparen⟩
    exact ⟨_, ⟨front, hline.symm⟩, (hhere _).2 ⟨rest, rfl, hparen⟩⟩

/-- A line opens no R chunk if it does not begin with its five characters, or without a brace
behind them. -/
theorem chunkOptions?_eq_none_iff (l : Line) :
    chunkOptions? l = none ↔ ∀ r, l = "```\x7br".toList ++ r → '\x7d' ∉ r := by
  simp only [chunkOptions?, Option.bind_eq_bind, Option.bind_eq_none_iff,
    Text.after?_eq_some_iff]
  refine forall₂_congr fun r _ => ?_
  rw [ite_eq_right_iff]
  simp

end Figure

/-! ## Chunks -/

/-- A chunk from its header to its closing fence. -/
structure Chunk where
  header : Line
  body : Document
  closing : Line
  /-- The first fence behind the header is the one that closes the chunk. -/
  body_plain : ∀ m ∈ body, Figure.isFence m = false
  closing_fence : Figure.isFence closing = true
  /-- It does not open a chunk itself. -/
  closing_plain : Figure.chunkOptions? closing = none

namespace Chunk

open Figure

variable (k : Chunk)

/-- The lines of a chunk. -/
def lines : Document := k.header :: (k.body ++ [k.closing])

/-- The image that is made of a chunk, if one is. -/
def image? : Option ImageChunk :=
  (chunkOptions? k.header).bind fun options => ofChunk? options ⟨k.body, some k.closing, []⟩

theorem read_lines : Figure.read k.lines = k.image?.map fun b => (b, []) := by
  have hbody : Body.read isFence (k.body ++ [k.closing]) = ⟨k.body, some k.closing, []⟩ :=
    Body.read_append_cons k.body_plain k.closing_fence []
  rw [lines, Figure.read, image?, hbody]
  cases chunkOptions? k.header <;> rfl

/-- Fences alone open a chunk, so behind the header nothing does. -/
theorem forall_mem_plain : ∀ l ∈ k.body ++ [k.closing], chunkOptions? l = none := by
  intro l hl
  rcases List.mem_append.1 hl with hl | hl
  · rw [Option.eq_none_iff_forall_ne_some]
    intro options hoptions
    have hfence := isFence_of_chunkOptions hoptions
    rw [k.body_plain l hl] at hfence
    cases hfence
  · rw [List.mem_singleton.1 hl]
    exact k.closing_plain

theorem convert_lines : convert k.lines = (k.image?.map render).getD k.lines := by
  have hread : recogniser.read k.lines = k.image?.map fun b => (b, []) := k.read_lines
  cases himage : k.image? with
  | some b =>
    rw [himage, Option.map_some] at hread
    rw [convert, recogniser.rewrite_of_some render hread, Recogniser.rewrite_nil,
      List.append_nil]
    rfl
  | none =>
    rw [himage, Option.map_none] at hread
    rw [convert, lines, recogniser.rewrite_cons_of_none render hread,
      recogniser.rewrite_eq_self render fun l hl => read_of_plain (k.forall_mem_plain l hl)]
    rfl

theorem insideChunk_lines : insideChunk k.lines = false := by
  have hfences : k.lines.filter isFence = (k.header :: k.body).filter isFence ++ [k.closing] := by
    rw [lines, ← List.cons_append, List.filter_append, List.filter_singleton, k.closing_fence]
    rfl
  rw [insideChunk, hfences, List.getLast?_concat, Option.any_some, k.closing_plain]
  rfl

variable {a : Document} (ha : insideChunk a = false) (e : Document)
include ha

/-- **A chunk in its document** becomes a link, or it is kept, whatever is behind it and in front
of it. -/
theorem convert_around :
    convert (a ++ (k.lines ++ e))
      = convert a ++ ((k.image?.map render).getD k.lines ++ convert e) := by
  rw [convert_append ha, convert_append k.insideChunk_lines, convert_lines]

/-- A chunk stays as it is exactly if no image is made of it: it has two lines, and a link is
one. -/
theorem kept_iff :
    convert (a ++ (k.lines ++ e)) = convert a ++ (k.lines ++ convert e) ↔ k.image? = none := by
  rw [k.convert_around ha e, List.append_cancel_left_eq, List.append_cancel_right_eq]
  cases himage : k.image? with
  | none => exact iff_of_true rfl rfl
  | some b =>
    refine iff_of_false (fun h => ?_) (by simp)
    have hlength : (render b).length = k.lines.length := congrArg List.length h
    simp [render, lines] at hlength

omit ha in
/-- No image is made of a chunk without the header of an R chunk, or if the first line that names
the function has no complete call. -/
theorem image?_eq_none_iff :
    k.image? = none ↔
      chunkOptions? k.header = none ∨ ∀ call ∈ k.body.find? namesCall, ¬ HasCall call := by
  rw [image?]
  cases chunkOptions? k.header with
  | none => exact iff_of_true rfl (Or.inl rfl)
  | some options =>
    have hcall : k.body.find? (fun l => Text.contains l graphicsCall) = k.body.find? namesCall :=
      rfl
    simp only [Option.bind_some, ofChunk?, hcall, reduceCtorEq, false_or]
    cases k.body.find? namesCall with
    | none => simp
    | some call =>
      have hfound := exists_argument_iff call
      cases hargument : argument? (Text.trim call) with
      | none => simpa [hargument] using hfound
      | some argument => simpa [hargument] using hfound

/-! ## Code besides the call -/

/-- **What becomes of the code of an R chunk.**  The chunk is kept, line by line, exactly if the
first line of its body that names the function for images has no complete call, and so if there is
no such line.  If it has one, then a single link takes the place of the chunk, whatever other lines
the body has. -/
theorem code_kept_iff {options : Text} (hk : chunkOptions? k.header = some options) :
    (convert (a ++ (k.lines ++ e)) = convert a ++ (k.lines ++ convert e)
        ↔ ∀ call ∈ k.body.find? namesCall, ¬ HasCall call)
      ∧ ∀ call argument, k.body.find? namesCall = some call →
        argument? (Text.trim call) = some argument →
        convert (a ++ (k.lines ++ e))
          = convert a ++ (render ⟨resolvePath argument, size? options, true⟩ ++ convert e) := by
  constructor
  · rw [k.kept_iff ha, k.image?_eq_none_iff, hk]
    simp
  · intro call argument hcall hargument
    have himage : k.image? = some ⟨resolvePath argument, size? options, true⟩ := by
      have hfind : k.body.find? (fun l => Text.contains l graphicsCall) = some call := hcall
      simp [image?, hk, ofChunk?, hfind, hargument, Body.closed]
    rw [k.convert_around ha, himage]
    rfl

omit ha

/-- A chunk that names the function and does not call it is kept, behind a chunk that is not. -/
theorem code_kept_iff_uncalled :
    insideChunk (["```\x7br a\x7d\n", "knitr::include_graphics('a')\n", "```\n"].map String.toList)
        = false
      ∧ chunkOptions? "```\x7br b\x7d\n".toList = some " b".toList
      ∧ convert (["```\x7br a\x7d\n", "knitr::include_graphics('a')\n", "```\n",
          "```\x7br b\x7d\n", "show <- knitr::include_graphics\n", "show('b')\n", "```\n",
          "text\n"].map String.toList)
        = ["![](a)\n", "```\x7br b\x7d\n", "show <- knitr::include_graphics\n", "show('b')\n",
          "```\n", "text\n"].map String.toList := by
  let k : Chunk :=
    { header := "```\x7br b\x7d\n".toList
      body := ["show <- knitr::include_graphics\n".toList, "show('b')\n".toList]
      closing := "```\n".toList
      body_plain := by decide
      closing_fence := by decide
      closing_plain := by decide }
  have ha : insideChunk
      (["```\x7br a\x7d\n", "knitr::include_graphics('a')\n", "```\n"].map String.toList)
        = false := by
    decide +kernel
  have hk : chunkOptions? k.header = some " b".toList := by decide
  have hcall : ∀ call ∈ k.body.find? namesCall, ¬ HasCall call := by
    have hfound : k.body.find? namesCall = some "show <- knitr::include_graphics\n".toList := by
      decide +kernel
    have hnone : argument? (Text.trim "show <- knitr::include_graphics\n".toList) = none := by
      decide +kernel
    rw [hfound]
    rintro call hcall
    obtain rfl := Option.some.inj hcall
    rw [← exists_argument_iff, hnone]
    simp
  have hkept := (code_kept_iff k ha ["text\n".toList] hk).1.2 hcall
  have hparts : convert
        (["```\x7br a\x7d\n", "knitr::include_graphics('a')\n", "```\n"].map String.toList)
        = ["![](a)\n".toList]
      ∧ convert ["text\n".toList] = ["text\n".toList] := by
    decide +kernel
  rw [hparts.1, hparts.2] at hkept
  exact ⟨ha, hk, hkept⟩

/-- A statement in front of the call is lost with the chunk. -/
theorem convert_code_beside_call :
    convert (["```\x7br\x7d\n", "x <- 1\n", "knitr::include_graphics('a')\n", "```\n"].map
        String.toList) = ["![](a)\n".toList]
      ∧ convert (["```\x7br\x7d\n", "x <- 1\n", "knitr::include_graphics('a')\n", "```\n"].map
          String.toList)
        ≠ ["```\x7br\x7d\n", "x <- 1\n", "knitr::include_graphics('a')\n", "```\n"].map
          String.toList := by
  decide +kernel

end Chunk

/-! ## The name of the engine -/

/-- Whether a character can stand in the name of an engine: letters, digits and underscores. -/
def isEngineChar (c : Char) : Bool := isAlphabetic c || isNumeric c || c == '_'

/-- The header of a chunk: the name of the engine goes as far as it can, and the options up to the
first closing brace. -/
structure EngineHeader where
  engine : Text
  options : Text
  /-- What is behind the closing brace. -/
  rest : Text
  engine_name : ∀ c ∈ engine, isEngineChar c = true
  options_apart : ∀ c ∈ options.head?, isEngineChar c = false
  options_plain : '\x7d' ∉ options

namespace EngineHeader

variable (header : EngineHeader)

/-- The header as it is written. -/
def line : Line :=
  "```\x7b".toList ++ (header.engine ++ (header.options ++ '\x7d' :: header.rest))

/-- Of the name of the engine only the first letter is looked at. -/
theorem chunkOptions?_line_eq_none_iff :
    Figure.chunkOptions? header.line = none ↔ header.engine.head? ≠ some 'r' := by
  rw [Figure.chunkOptions?_eq_none_iff, line]
  constructor
  · intro h hr
    obtain ⟨more, hmore⟩ := List.head?_eq_some_iff.1 hr
    refine h (more ++ (header.options ++ '\x7d' :: header.rest)) ?_ (by simp)
    rw [hmore]
    rfl
  · -- without a letter of the name, the options or the brace would begin with it
    intro hr r hline
    have hname : isEngineChar 'r' = true := by decide +kernel
    have hfront : "```\x7b".toList ++ (header.engine ++ (header.options ++ '\x7d' :: header.rest))
        = "```\x7b".toList ++ 'r' :: r := hline
    have hcut := List.append_cancel_left hfront
    cases hengine : header.engine with
    | cons c more =>
      rw [hengine] at hcut hr
      exact absurd (congrArg some (List.cons.inj hcut).1) hr
    | nil =>
      rw [hengine, List.nil_append] at hcut
      cases hopts : header.options with
      | nil =>
        rw [hopts] at hcut
        exact absurd (List.cons.inj hcut).1 (by decide)
      | cons d more =>
        rw [hopts] at hcut
        have hd := header.options_apart d (by rw [hopts]; rfl)
        rw [(List.cons.inj hcut).1, hname] at hd
        cases hd

end EngineHeader

namespace Chunk

open Figure

/-- **What becomes of a chunk of any engine.**  The chunk is kept, line by line, exactly if the
name of the engine does not begin with `r`, or if no line of the body would make an image of an R
chunk. -/
theorem engine_kept_iff (k : Chunk) {header : EngineHeader} (hk : k.header = header.line)
    {a : Document} (ha : insideChunk a = false) (e : Document) :
    convert (a ++ (k.lines ++ e)) = convert a ++ (k.lines ++ convert e) ↔
      header.engine.head? ≠ some 'r'
        ∨ ∀ call ∈ k.body.find? namesCall, ¬ HasCall call := by
  rw [k.kept_iff ha, k.image?_eq_none_iff, hk, header.chunkOptions?_line_eq_none_iff]

/-- A chunk of another engine with options and a complete call. -/
theorem engine_kept_iff_python :
    insideChunk ["text\n".toList] = false
      ∧ convert (["text\n", "```\x7bpython, r=1\x7d\n", "knitr::include_graphics('a')\n", "```\n",
          "text\n"].map String.toList)
        = ["text\n", "```\x7bpython, r=1\x7d\n", "knitr::include_graphics('a')\n", "```\n",
          "text\n"].map String.toList := by
  let k : Chunk :=
    { header := "```\x7bpython, r=1\x7d\n".toList
      body := ["knitr::include_graphics('a')\n".toList]
      closing := "```\n".toList
      body_plain := by decide
      closing_fence := by decide
      closing_plain := by decide }
  let header : EngineHeader :=
    { engine := "python".toList
      options := ", r=1".toList
      rest := ['\n']
      engine_name := List.all_eq_true.1 (by decide +kernel)
      options_apart := by
        intro c hc
        obtain rfl := Option.some.inj hc
        decide +kernel
      options_plain := by decide }
  have ha : insideChunk ["text\n".toList] = false := by decide
  have hother : header.engine.head? ≠ some 'r' := by decide
  have hk : k.header = header.line := rfl
  have hkept := (engine_kept_iff k hk ha ["text\n".toList]).2 (Or.inl hother)
  have htext : convert ["text\n".toList] = ["text\n".toList] := by decide +kernel
  rw [htext] at hkept
  exact ⟨ha, hkept⟩

/-- An engine whose name begins with the letter of R is taken for it. -/
theorem convert_ruby_chunk :
    convert (["```\x7bruby\x7d\n", "knitr::include_graphics('a')\n", "```\n"].map String.toList)
        = ["![](a)\n".toList]
      ∧ convert (["```\x7bruby\x7d\n", "knitr::include_graphics('a')\n", "```\n"].map String.toList)
        ≠ ["```\x7bruby\x7d\n", "knitr::include_graphics('a')\n", "```\n"].map String.toList := by
  decide +kernel

end Chunk
end SlideDeck
