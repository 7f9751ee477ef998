import SlideDeck.Proofs.Code.ChunkOptions

/-!
# The path of a written image call

The path of an image is written as the arguments of a `file.path` call: segments between quotation
marks, with commas and white space between them.  Read back, the segments are joined with slashes.

* `Segment` and `ImagePath` are a segment and a path as they are written.
* `Figure.unquote_between` — a segment is what stands between its quotation marks.
* `Figure.argument?_callLine` and `Figure.pathArguments?_fileCall` — the argument of a call that
  shows an image, and the arguments of a `file.path` call.
* `ImagePath.argument_callLine` and `ImagePath.resolvePath_argument` — the argument of the call,
  and the path in it.
-/

set_option autoImplicit false

namespace SlideDeck

open Unicode (isSpace)
open Text (isQuote)

/-! ## Paths as they are written -/

/-- The characters that a segment does without: they mean something to the call, to the link that
is made of it, or to the line. -/
def segmentMarks : List Char := ['"', '\'', ',', '(', ')', '[', ']', '\n']

/-- A segment of a path as an argument of a call: white space, and its name between quotation
marks. -/
structure Segment where
  gap : Gap
  quote : Quote
  name : Text
  plain : ∀ c ∈ name, c ∉ segmentMarks

/-- The argument as it is written. -/
def Segment.text (s : Segment) : Text := s.gap.1 ++ (s.quote.1 :: s.name ++ [s.quote.1])

/-- A path below a directory of the project that holds images. -/
structure ImagePath where
  root : Segment
  below : List Segment
  root_mem : root.name ∈ ["images".toList, "data".toList]
  below_ne : below ≠ []

namespace ImagePath

/-- The segments of a path, its root first. -/
def segments (p : ImagePath) : List Segment := p.root :: p.below

/-- The arguments of the `file.path` call. -/
def arguments (p : ImagePath) : Text := Text.joinWith [','] (p.segments.map Segment.text)

/-- The path with slashes. -/
def path (p : ImagePath) : Text := Text.joinWith ['/'] (p.segments.map Segment.name)

/-- The line with the call that shows the image. -/
def callLine (p : ImagePath) : Line :=
  "knitr::include_graphics(file.path(".toList ++ p.arguments ++ "))\n".toList

end ImagePath

/-! ## Segments -/

namespace Figure

theorem dropWhile_of_not_mem {c : Char} {s : Text} (h : c ∉ s) : s.dropWhile (· == c) = s := by
  cases s with
  | nil => rfl
  | cons d s =>
    have hd : (d == c) = false := beq_eq_false_iff_ne.2 (List.ne_of_not_mem_cons h).symm
    simp [hd]

theorem stripEnds_of_not_mem {c : Char} {s : Text} (h : c ∉ s) : stripEnds c s = s := by
  have hreverse : c ∉ s.reverse := by simpa using h
  rw [stripEnds, dropWhile_of_not_mem h, dropWhile_of_not_mem hreverse, List.reverse_reverse]

theorem stripEnds_between {c : Char} {s : Text} (h : c ∉ s) :
    stripEnds c (c :: s ++ [c]) = s := by
  have hreverse : c ∉ s.reverse := by simpa using h
  cases s with
  | nil => simp [stripEnds]
  | cons d s =>
    have hd : (d == c) = false := beq_eq_false_iff_ne.2 (List.ne_of_not_mem_cons h).symm
    have hfront : (c :: (d :: s) ++ [c]).dropWhile (· == c) = d :: s ++ [c] := by simp [hd]
    rw [stripEnds, hfront, List.reverse_append, List.reverse_singleton, List.singleton_append,
      List.dropWhile_cons_of_pos (by simp), dropWhile_of_not_mem hreverse, List.reverse_reverse]

/-- **A segment is read back**: what stands between two quotation marks, behind white space. -/
theorem unquote_between {gap s : Text} {q : Char} (hgap : Text.isBlank gap = true)
    (hq : isQuote q = true) (hs : s.any isQuote = false) :
    unquote (gap ++ (q :: s ++ [q])) = s := by
  have htrim : Text.trim (gap ++ (q :: s ++ [q])) = q :: s ++ [q] := by
    have hspace := Text.isSpace_of_isQuote hq
    have hblank : Text.isBlank (q :: s) = false := by simp [Text.isBlank, hspace]
    rw [Text.trim_append_left hgap, Text.trim_concat hblank hspace, Text.trimStart_cons hspace]
  have hdouble : '"' ∉ s := Text.not_mem_of_isQuote (by decide) hs
  have hsingle : '\'' ∉ s := Text.not_mem_of_isQuote (by decide) hs
  rw [unquote, htrim]
  rcases (Text.isQuote_iff q).1 hq with rfl | rfl
  · rw [stripEnds_between hdouble, stripEnds_of_not_mem hsingle]
  · have hmem : '"' ∉ '\'' :: s ++ ['\''] := by simp [hdouble]
    rw [stripEnds_of_not_mem hmem, stripEnds_between hsingle]

/-! ## Calls -/

/-- The line that shows the image which an argument names. -/
def callLine (argument : Text) : Line :=
  graphicsCall ++ ['('] ++ (argument ++ [')']) ++ ['\n']

/-- A `file.path` call. -/
def fileCall (arguments : Text) : Text := "file.path(".toList ++ (arguments ++ [')'])

theorem newline_not_mem_fileCall {arguments : Text} (h : '\n' ∉ arguments) :
    '\n' ∉ fileCall arguments := by
  have hfront : '\n' ∉ "file.path(".toList := by decide
  unfold fileCall
  rw [List.mem_append, List.mem_append, not_or, not_or]
  exact ⟨hfront, h, by decide⟩

/-- The call without the newline at its end. -/
theorem trim_callLine (argument : Text) :
    Text.trim (callLine argument) = graphicsCall ++ ['('] ++ (argument ++ [')']) := by
  have hblank : Text.isBlank (graphicsCall ++ ['('] ++ argument) = false := by
    have hk : 'k' ∈ graphicsCall ++ ['('] ++ argument := List.mem_append_left _ (by decide)
    rw [Bool.eq_false_iff, Ne, Text.isBlank_iff]
    exact fun h => absurd (h 'k' hk) (by decide)
  have hstart : Text.trimStart (graphicsCall ++ ['('] ++ argument)
      = graphicsCall ++ ['('] ++ argument := Text.trimStart_cons (by decide) _
  rw [callLine, Text.trim_append_right _ (by decide), ← List.append_assoc,
    Text.trim_concat hblank (by decide), hstart]

/-- The argument goes up to the last parenthesis, which is the one that closes the call. -/
theorem argument?_callLine {argument : Text} (h : '\n' ∉ argument) :
    argument? (Text.trim (callLine argument)) = some argument := by
  have hline : '\n' ∉ argument ++ [')'] := by
    rw [List.mem_append, not_or]
    exact ⟨h, by decide⟩
  have htake : (argument ++ [')']).takeWhile (· != '\n') = argument ++ [')'] :=
    List.takeWhile_eq_self_iff.2 (bne_of_not_mem hline)
  have hlast : beforeLastParen? (argument ++ [')']) = some argument := by
    simp [beforeLastParen?]
  have hafter := Text.after?_append (graphicsCall ++ ['(']) (argument ++ [')'])
  have hread : argumentHere? (graphicsCall ++ ['('] ++ (argument ++ [')'])) = some argument := by
    rw [argumentHere?, hafter]
    simp only [Option.bind_eq_bind, Option.bind_some, htake, hlast]
  rw [trim_callLine]
  exact Text.firstMatch?_of_some hread

/-- The arguments of a `file.path` call go up to the first parenthesis that closes. -/
theorem pathArgumentsHere?_append {arguments : Text} (hparen : ')' ∉ arguments)
    (hline : '\n' ∉ arguments) (rest : Text) :
    pathArgumentsHere? ("file.path(".toList ++ (arguments ++ ')' :: rest)) = some arguments := by
  have hall : ∀ c ∈ arguments, (c != ')' && c != '\n') = true := fun c hc => by
    rw [bne_of_not_mem hparen c hc, bne_of_not_mem hline c hc]
    rfl
  have hstop : ∀ c ∈ (')' :: rest).head?, (c != ')' && c != '\n') = false := by simp
  obtain ⟨htake, hdrop⟩ := takeWhile_dropWhile_append hall hstop
  rw [pathArgumentsHere?, Text.after?_append]
  simp only [Option.bind_eq_bind, Option.bind_some, hdrop, htake]

/-- That parenthesis may stand in one of the arguments. -/
theorem pathArguments?_fileCall {arguments : Text} (h : '\n' ∉ arguments) :
    pathArguments? (fileCall arguments) = some (arguments.takeWhile (· != ')')) := by
  have hcut : ∃ rest, arguments ++ [')'] = arguments.takeWhile (· != ')') ++ ')' :: rest := by
    by_cases hmem : ')' ∈ arguments
    · obtain ⟨front, rest, rfl, hfront⟩ := List.eq_append_cons_of_mem hmem
      refine ⟨rest ++ [')'], ?_⟩
      rw [(takeWhile_dropWhile_append_cons hfront rest).1, List.append_assoc, List.cons_append]
    · exact ⟨[], by rw [List.takeWhile_eq_self_iff.2 (bne_of_not_mem hmem)]⟩
  obtain ⟨rest, hcut⟩ := hcut
  have hparen : ')' ∉ arguments.takeWhile (· != ')') := fun hmem =>
    absurd (List.mem_takeWhile_imp hmem) (by decide)
  have hline : '\n' ∉ arguments.takeWhile (· != ')') := fun hmem => h (List.takeWhile_subset _ hmem)
  have hread := pathArgumentsHere?_append hparen hline rest
  rw [← hcut] at hread
  exact Text.firstMatch?_of_some hread

end Figure

namespace Segment

/-- A segment is read back. -/
theorem unquote_text (s : Segment) : Figure.unquote s.text = s.name := by
  have hname : s.name.any isQuote = false := by
    rw [Text.any_eq_false_iff]
    intro c hc
    rw [Bool.eq_false_iff, Ne, Text.isQuote_iff]
    rintro (rfl | rfl) <;> exact s.plain _ hc (by decide)
  exact Figure.unquote_between s.gap.2.1 s.quote.2 hname

/-- The characters of a segment as it is written. -/
theorem mem_text {s : Segment} {c : Char} (h : c ∈ s.text) :
    c ∈ s.gap.1 ∨ isQuote c = true ∨ c ∉ segmentMarks := by
  simp only [text, List.mem_append, List.mem_cons, List.not_mem_nil, or_false] at h
  rcases h with h | (rfl | h) | rfl
  · exact Or.inl h
  · exact Or.inr (Or.inl s.quote.2)
  · exact Or.inr (Or.inr (s.plain c h))
  · exact Or.inr (Or.inl s.quote.2)

/-- Commas, parentheses and newlines are no part of a segment. -/
theorem not_mem_text (s : Segment) {c : Char} (hc : c ∈ [',', '(', ')', '\n']) : c ∉ s.text := by
  intro h
  simp only [List.mem_cons, List.not_mem_nil, or_false] at hc
  rcases mem_text h with hgap | hquote | hplain
  · rcases hc with rfl | rfl | rfl | rfl
    · exact absurd (ChunkOption.isSpace_of_mem_gap hgap) (by decide)
    · exact absurd (ChunkOption.isSpace_of_mem_gap hgap) (by decide)
    · exact absurd (ChunkOption.isSpace_of_mem_gap hgap) (by decide)
    · exact s.gap.2.2 hgap
  · rcases hc with rfl | rfl | rfl | rfl <;> exact absurd hquote (by decide)
  · rcases hc with rfl | rfl | rfl | rfl <;> exact hplain (by decide)

end Segment

/-! ## The call -/

namespace ImagePath

variable (p : ImagePath)

theorem not_mem_arguments {c : Char} (hc : c ∈ ['(', ')', '\n']) : c ∉ p.arguments := by
  intro h
  rcases Text.mem_joinWith h with h | ⟨t, ht, h⟩
  · obtain rfl := List.mem_singleton.1 h
    exact absurd hc (by decide)
  · obtain ⟨s, -, rfl⟩ := List.mem_map.1 ht
    exact s.not_mem_text (List.mem_cons_of_mem ',' hc) h

theorem splitOn_arguments : p.arguments.splitOn ',' = p.segments.map Segment.text := by
  refine List.splitOn_intercalate _ ?_ (by simp [segments])
  intro t ht
  obtain ⟨s, -, rfl⟩ := List.mem_map.1 ht
  exact s.not_mem_text (by decide)

/-- The argument of the call that shows the image. -/
def argument : Text := Figure.fileCall p.arguments

theorem pathArguments_argument : Figure.pathArguments? p.argument = some p.arguments := by
  have hparen : ')' ∉ p.arguments := p.not_mem_arguments (by decide)
  rw [argument, Figure.pathArguments?_fileCall (p.not_mem_arguments (by decide)),
    List.takeWhile_eq_self_iff.2 (bne_of_not_mem hparen)]

/-- **The path is read back** from the argument of the call. -/
theorem resolvePath_argument : Figure.resolvePath p.argument = p.path := by
  have hsegments : p.segments.map (Figure.unquote ∘ Segment.text) = p.segments.map Segment.name :=
    List.map_congr_left fun s _ => s.unquote_text
  rw [Figure.resolvePath, p.pathArguments_argument]
  dsimp only
  rw [p.splitOn_arguments, List.map_map, hsegments, path]

/-- The line, call by call. -/
theorem callLine_eq : p.callLine = Figure.callLine p.argument := by
  have hfront : "knitr::include_graphics(file.path(".toList
      = Figure.graphicsCall ++ ['('] ++ "file.path(".toList := by decide
  have hend : "))\n".toList = [')'] ++ [')'] ++ ['\n'] := by decide
  unfold callLine Figure.callLine argument Figure.fileCall
  rw [hfront, hend]
  simp only [List.append_assoc]

theorem argument_callLine : Figure.argument? (Text.trim p.callLine) = some p.argument := by
  have hline : '\n' ∉ p.argument :=
    Figure.newline_not_mem_fileCall (p.not_mem_arguments (by decide))
  rw [callLine_eq, Figure.argument?_callLine hline]

end ImagePath

end SlideDeck
