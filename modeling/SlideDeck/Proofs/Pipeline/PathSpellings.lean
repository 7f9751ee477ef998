import SlideDeck.Proofs.Code.FigurePath
import SlideDeck.Proofs.Pipeline.WholeChunks
import SlideDeck.Proofs.Text.Cuts

/-!
# Two spellings of a path

The path of an image is written as the segments of a `file.path` call, or as one text with slashes.
The segments are found by their commas and the call ends at its first closing parenthesis, in
quotation marks or not; so the spellings say the same if no segment has either of them, and only
then is the path of the call the one that is written.

* `Figure.resolvePath_fileCall_iff` and `Figure.resolvePath_quoted_iff` — when the path of a
  spelling is the one that is written.
* `Chunk.ofCall` is a chunk with a call that shows an image and nothing else.
* `Chunk.spellings_iff` — the links that chunks with the two spellings become.
-/

set_option autoImplicit false

namespace SlideDeck

open Text (isQuote joinWith)

/-! ## Joining and splitting -/

namespace Text

/-- What is between two separators has none. -/
theorem not_mem_of_mem_splitOn {separator : Char} {s p : Text} (h : p ∈ s.splitOn separator) :
    separator ∉ p := by
  induction hn : s.length using Nat.strongRecOn generalizing s with
  | ind n ih =>
    by_cases hs : separator ∈ s
    · obtain ⟨front, rest, rfl, hfront⟩ := List.eq_append_cons_of_mem hs
      rw [List.splitOn_append_cons_self_of_not_mem hfront] at h
      rcases List.mem_cons.1 h with rfl | h
      · exact hfront
      · exact ih rest.length (by rw [← hn, List.length_append, List.length_cons]; omega) h rfl
    · rw [List.splitOn_eq_singleton hs] at h
      rwa [List.mem_singleton.1 h]

/-- Of a separator of several characters, all but the first go to the parts behind them. -/
theorem joinWith_cons (c : Char) (separator p : Text) (parts : List Text) :
    joinWith (c :: separator) (p :: parts) = joinWith [c] (p :: parts.map (separator ++ ·)) := by
  induction parts generalizing p with
  | nil => rfl
  | cons q parts ih =>
    rw [List.map_cons, joinWith_cons_cons, joinWith_cons_cons, joinWith_append, ih]
    simp

end Text

namespace Figure

/-! ## The two spellings -/

/-- A text between double quotation marks. -/
def quoted (s : Text) : Text := '"' :: s ++ ['"']

/-- The arguments that stand for segments. -/
def segmentArguments (segments : List Text) : Text := joinWith ", ".toList (segments.map quoted)

/-- A path with slashes. -/
def slashed (segments : List Text) : Text := joinWith ['/'] segments

/-- A segment as it can stand between quotation marks on a line. -/
def IsSegment (s : Text) : Prop := s.any isQuote = false ∧ '\n' ∉ s

/-- Whether a text has a `file.path` call with a closing parenthesis. -/
def HasFileCall (s : Text) : Prop :=
  ∃ front rest, s = front ++ ("file.path(".toList ++ rest) ∧ ')' ∈ rest

theorem not_mem_segmentArguments {segments : List Text} {c : Char} (hc : c ∉ [',', ' ', '"'])
    (h : ∀ s ∈ segments, c ∉ s) : c ∉ segmentArguments segments := by
  intro hmem
  rcases Text.mem_joinWith hmem with hsep | ⟨t, ht, hmem⟩
  · exact hc (List.mem_append_left ['"'] hsep)
  · obtain ⟨s, hs, rfl⟩ := List.mem_map.1 ht
    have hquote : c ≠ '"' := by
      rintro rfl
      exact hc (by decide)
    simp [quoted, hquote, h s hs] at hmem

theorem not_mem_slashed {segments : List Text} {c : Char} (hc : c ≠ '/')
    (h : ∀ s ∈ segments, c ∉ s) : c ∉ slashed segments := by
  intro hmem
  rcases Text.mem_joinWith hmem with hsep | ⟨s, hs, hmem⟩
  · exact hc (List.mem_singleton.1 hsep)
  · exact h s hs hmem

/-- Segments without commas are found between the commas of the arguments. -/
theorem map_unquote_splitOn {segments : List Text} (hne : segments ≠ [])
    (hplain : ∀ s ∈ segments, IsSegment s) (hcomma : ∀ s ∈ segments, ',' ∉ s) :
    ((segmentArguments segments).splitOn ',').map unquote = segments := by
  obtain ⟨p, parts, rfl⟩ := List.exists_cons_of_ne_nil hne
  have hjoin : segmentArguments (p :: parts)
      = joinWith [','] (quoted p :: parts.map fun s => ' ' :: quoted s) := by
    rw [segmentArguments, List.map_cons, show ", ".toList = [',', ' '] from rfl,
      Text.joinWith_cons, List.map_map]
    rfl
  have hquoted : ∀ s ∈ p :: parts, ',' ∉ quoted s := by
    intro s hs
    simp [quoted, hcomma s hs]
  have hsplit : (segmentArguments (p :: parts)).splitOn ','
      = quoted p :: parts.map fun s => ' ' :: quoted s := by
    rw [hjoin]
    refine List.splitOn_intercalate _ ?_ (List.cons_ne_nil _ _)
    refine List.forall_mem_cons.2 ⟨hquoted p (List.mem_cons_self ..), ?_⟩
    rintro t ht
    obtain ⟨s, hs, rfl⟩ := List.mem_map.1 ht
    simpa using hquoted s (List.mem_cons_of_mem p hs)
  have hread : ∀ gap, Text.isBlank gap = true → ∀ s ∈ p :: parts, unquote (gap ++ quoted s) = s :=
    fun gap hgap s hs => unquote_between hgap (by decide) (hplain s hs).1
  have hfirst : unquote (quoted p) = p := hread [] rfl p (List.mem_cons_self ..)
  have hothers : ∀ s ∈ parts, unquote (' ' :: quoted s) = s := fun s hs =>
    hread [' '] (by decide) s (List.mem_cons_of_mem p hs)
  rw [hsplit, List.map_cons, List.map_map, hfirst]
  exact congrArg (p :: ·) ((List.map_congr_left hothers).trans (List.map_id parts))

/-- Nothing of a comma or of a closing parenthesis is left of the arguments of a call. -/
theorem not_mem_resolvePath {argument arguments : Text}
    (h : pathArguments? argument = some arguments) {c : Char} (hc : c ∈ [',', ')']) :
    c ∉ resolvePath argument := by
  have hparen : ')' ∉ arguments := by
    obtain ⟨t, -, hread⟩ := Text.exists_suffix_of_firstMatch? h
    simp only [pathArgumentsHere?, Option.bind_eq_bind, Option.bind_eq_some_iff] at hread
    obtain ⟨r, -, hread⟩ := hread
    split at hread
    · obtain rfl := Option.some.inj hread
      exact fun hmem => absurd (List.mem_takeWhile_imp hmem) (by decide)
    · cases hread
  intro hmem
  rw [resolvePath, h] at hmem
  rcases Text.mem_joinWith hmem with hslash | ⟨q, hq, hmem⟩
  · rw [List.mem_singleton.1 hslash] at hc
    exact absurd hc (by decide)
  · obtain ⟨p, hp, rfl⟩ := List.mem_map.1 hq
    have hpart := mem_of_mem_unquote hmem
    simp only [List.mem_cons, List.not_mem_nil, or_false] at hc
    rcases hc with rfl | rfl
    · exact Text.not_mem_of_mem_splitOn hp hpart
    · exact hparen (Text.mem_of_mem_splitOn hp hpart)

/-- **The path of a `file.path` call** is the one that is written exactly if no segment has a comma
or a closing parenthesis. -/
theorem resolvePath_fileCall_iff {segments : List Text} (hne : segments ≠ [])
    (hplain : ∀ s ∈ segments, IsSegment s) :
    resolvePath (fileCall (segmentArguments segments)) = slashed segments
      ↔ ∀ s ∈ segments, ',' ∉ s ∧ ')' ∉ s := by
  have hnewline : '\n' ∉ segmentArguments segments :=
    not_mem_segmentArguments (by decide) fun s hs => (hplain s hs).2
  have harguments := pathArguments?_fileCall hnewline
  constructor
  · intro h s hs
    have hapart : ∀ c ∈ [',', ')'], c ∉ s := by
      intro c hc hmem
      refine not_mem_resolvePath harguments hc ?_
      rw [h]
      exact Text.mem_joinWith_of_mem hs hmem
    exact ⟨hapart ',' (by decide), hapart ')' (by decide)⟩
  · intro h
    have hparen : ')' ∉ segmentArguments segments :=
      not_mem_segmentArguments (by decide) fun s hs => (h s hs).2
    rw [List.takeWhile_eq_self_iff.2 (bne_of_not_mem hparen)] at harguments
    rw [resolvePath, harguments]
    dsimp only
    rw [map_unquote_splitOn hne hplain fun s hs => (h s hs).1, slashed]

/-- What is read as a call in a quoted text stands between the quotation marks. -/
theorem hasFileCall_of_quoted {t front rest : Text}
    (h : quoted t = front ++ ("file.path(".toList ++ rest)) (hparen : ')' ∈ rest) :
    HasFileCall t := by
  rcases List.eq_nil_or_concat' rest with rfl | ⟨rest, c, rfl⟩
  · exact absurd hparen List.not_mem_nil
  cases front with
  | nil => exact absurd (List.cons.inj h).1 (by decide)
  | cons q front =>
    have hline : t ++ ['"'] = front ++ ("file.path(".toList ++ rest) ++ [c] :=
      (List.cons.inj h).2.trans (by simp)
    obtain ⟨ht, hc⟩ := List.append_inj' hline rfl
    rw [← hc, List.mem_append] at hparen
    exact ⟨front, rest, ht, hparen.resolve_right (by decide)⟩

/-- A call is read in a quoted text exactly if the text has one. -/
theorem exists_pathArguments_quoted_iff {t : Text} (hline : '\n' ∉ t) :
    (∃ arguments, pathArguments? (quoted t) = some arguments) ↔ HasFileCall t := by
  rw [pathArguments?, Text.exists_firstMatch?_iff]
  constructor
  · rintro ⟨u, ⟨front, hfront⟩, arguments, hread⟩
    simp only [pathArgumentsHere?, Option.bind_eq_bind, Option.bind_eq_some_iff] at hread
    obtain ⟨rest, hrest, hread⟩ := hread
    rw [Text.after?_eq_some_iff] at hrest
    split at hread
    · next after hafter =>
      have hparen : ')' ∈ rest := by
        have hmem : ')' ∈ rest.dropWhile fun c => c != ')' && c != '\n' := by
          rw [hafter]
          exact List.mem_cons_self ..
        exact (List.dropWhile_suffix _).subset hmem
      rw [hrest] at hfront
      exact hasFileCall_of_quoted hfront.symm hparen
    · cases hread
  · rintro ⟨front, rest, rfl, hparen⟩
    obtain ⟨arguments, after, rfl, harguments⟩ := List.eq_append_cons_of_mem hparen
    have hnewline : '\n' ∉ arguments := fun hmem => hline (by simp [hmem])
    refine ⟨"file.path(".toList ++ (arguments ++ ')' :: (after ++ ['"'])), ⟨'"' :: front, ?_⟩,
      arguments, pathArgumentsHere?_append harguments hnewline _⟩
    simp [quoted]

theorem literal?_quoted {t : Text} (hquote : t.any isQuote = false) :
    literal? (Text.trim (quoted t)) = some t := by
  have htrim : Text.trim (quoted t) = quoted t := by
    have hblank : Text.isBlank ('"' :: t) = false := by
      have hspace : Unicode.isSpace '"' = false := by decide
      simp [Text.isBlank, hspace]
    rw [quoted, Text.trim_concat hblank (by decide), Text.trimStart_cons (by decide)]
  have hall : ∀ c ∈ t, (!isQuote c) = true := fun c hc => by
    rw [Text.any_eq_false_iff.1 hquote c hc]
    rfl
  have hstop : ∀ c ∈ ['"'].head?, (!isQuote c) = false := by
    intro c hc
    obtain rfl := Option.some.inj hc
    rfl
  have htake := (takeWhile_dropWhile_append hall hstop).1
  rw [htrim, quoted, List.cons_append, literal?, if_pos (by simp [isQuote]), htake]

/-- **The path of a quoted text** is the text, unless the text itself has a `file.path` call. -/
theorem resolvePath_quoted_iff {t : Text} (ht : IsSegment t) :
    resolvePath (quoted t) = t ↔ ¬ HasFileCall t := by
  have hcall := exists_pathArguments_quoted_iff ht.2
  cases harguments : pathArguments? (quoted t) with
  | some arguments =>
    rw [harguments] at hcall
    have hfile : HasFileCall t := hcall.1 ⟨arguments, rfl⟩
    refine iff_of_false (fun h => ?_) (not_not.2 hfile)
    obtain ⟨front, rest, heq, hparen⟩ := hfile
    refine not_mem_resolvePath harguments (c := ')') (by decide) ?_
    rw [h, heq]
    exact List.mem_append_right _ (List.mem_append_right _ hparen)
  | none =>
    rw [harguments] at hcall
    refine iff_of_true ?_ fun h => by simpa using hcall.2 h
    rw [resolvePath, harguments]
    dsimp only
    rw [literal?_quoted ht.1, Option.getD_some]

theorem isSegment_slashed {segments : List Text} (hplain : ∀ s ∈ segments, IsSegment s) :
    IsSegment (slashed segments) := by
  constructor
  · rw [Text.any_eq_false_iff]
    intro c hc
    rcases Text.mem_joinWith hc with hslash | ⟨s, hs, hmem⟩
    · rw [List.mem_singleton.1 hslash]
      decide
    · exact Text.any_eq_false_iff.1 (hplain s hs).1 c hmem
  · exact not_mem_slashed (by decide) fun s hs => (hplain s hs).2

/-! ## Chunks with a call and nothing else -/

theorem isFence_callLine (argument : Text) : isFence (callLine argument) = false := by
  have hopens : Line.opensWith (callLine argument) ['k'] = true :=
    Line.opensWith_cons (by decide)
      ("nitr::include_graphics".toList ++ ['('] ++ (argument ++ [')']) ++ ['\n'])
  exact Line.opensWith_eq_false hopens (by decide) (by decide)

theorem namesCall_callLine (argument : Text) : namesCall (callLine argument) = true := by
  rw [namesCall, Text.contains_iff, callLine]
  simp only [List.append_assoc]
  exact (List.prefix_append _ _).isInfix

end Figure

namespace Chunk

open Figure

/-- The chunk whose body is a call that shows an image. -/
def ofCall (header closing : Line) (hfence : isFence closing = true)
    (hclosing : chunkOptions? closing = none) (argument : Text) : Chunk where
  header := header
  body := [callLine argument]
  closing := closing
  body_plain := List.forall_mem_singleton.2 (isFence_callLine argument)
  closing_fence := hfence
  closing_plain := hclosing

section Spellings

variable {header closing : Line} {options : Text} (hheader : chunkOptions? header = some options)
  (hfence : isFence closing = true) (hclosing : chunkOptions? closing = none)
  {a : Document} (ha : insideChunk a = false) (e : Document)
include hheader hfence hclosing ha

/-- The link is that of a path exactly if the argument of the call is resolved to it. -/
theorem convert_ofCall_iff {argument : Text} (hargument : '\n' ∉ argument) (path : Text) :
    convert (a ++ ([header, callLine argument, closing] ++ e))
        = convert a ++ (render ⟨path, size? options, true⟩ ++ convert e)
      ↔ resolvePath argument = path := by
  have hread := argument?_callLine hargument
  have hfind : [callLine argument].find? (fun l => Text.contains l graphicsCall)
      = some (callLine argument) :=
    List.find?_cons_of_pos (p := namesCall) (namesCall_callLine argument)
  have himage : (ofCall header closing hfence hclosing argument).image?
      = some ⟨resolvePath argument, size? options, true⟩ := by
    simp [image?, ofCall, hheader, ofChunk?, hfind, hread, Body.closed]
  have hconvert := (ofCall header closing hfence hclosing argument).convert_around ha e
  rw [himage] at hconvert
  have hlines : (ofCall header closing hfence hclosing argument).lines
      = [header, callLine argument, closing] := rfl
  rw [hlines] at hconvert
  rw [hconvert, List.append_cancel_left_eq, List.append_cancel_right_eq]
  simp [render]

/-- **The two spellings of a path.**  A chunk with the segments of a path becomes the link to the
path exactly if no segment has a comma or a closing parenthesis.  A chunk with the path as one text
becomes it exactly if the path does not have a `file.path` call in it.  So they become the same link
if no segment has a comma or a closing parenthesis. -/
theorem spellings_iff {segments : List Text} (hne : segments ≠ [])
    (hplain : ∀ s ∈ segments, IsSegment s) :
    (convert (a ++ ([header, callLine (fileCall (segmentArguments segments)), closing] ++ e))
          = convert a ++ (render ⟨slashed segments, size? options, true⟩ ++ convert e)
        ↔ ∀ s ∈ segments, ',' ∉ s ∧ ')' ∉ s)
      ∧ (convert (a ++ ([header, callLine (quoted (slashed segments)), closing] ++ e))
          = convert a ++ (render ⟨slashed segments, size? options, true⟩ ++ convert e)
        ↔ ¬ HasFileCall (slashed segments))
      ∧ ((∀ s ∈ segments, ',' ∉ s ∧ ')' ∉ s) →
        convert (a ++ ([header, callLine (fileCall (segmentArguments segments)), closing] ++ e))
          = convert (a ++ ([header, callLine (quoted (slashed segments)), closing] ++ e))) := by
  have hsegments : '\n' ∉ fileCall (segmentArguments segments) :=
    newline_not_mem_fileCall
      (not_mem_segmentArguments (by decide) fun s hs => (hplain s hs).2)
  have hpath := isSegment_slashed hplain
  have hquoted : '\n' ∉ quoted (slashed segments) := by simp [quoted, hpath.2]
  have hcalls := convert_ofCall_iff hheader hfence hclosing ha e hsegments (slashed segments)
  have htext := convert_ofCall_iff hheader hfence hclosing ha e hquoted (slashed segments)
  rw [resolvePath_fileCall_iff hne hplain] at hcalls
  rw [resolvePath_quoted_iff hpath] at htext
  refine ⟨hcalls, htext, fun h => (hcalls.2 h).trans (htext.2 ?_).symm⟩
  rintro ⟨front, rest, heq, hparen⟩
  have hnone : ')' ∉ slashed segments := not_mem_slashed (by decide) fun s hs => (h s hs).2
  rw [heq] at hnone
  exact hnone (List.mem_append_right _ (List.mem_append_right _ hparen))

end Spellings

/-- A name with a blank and an opening parenthesis, in a chunk with a size. -/
theorem spellings_iff_paren :
    chunkOptions? "```\x7br, out.width='50%'\x7d\n".toList = some ", out.width='50%'".toList
      ∧ (∀ s ∈ ["images".toList, "a b(c.png".toList], IsSegment s)
      ∧ convert (["```\x7br, out.width='50%'\x7d\n",
          "knitr::include_graphics(file.path(\"images\", \"a b(c.png\"))\n", "```\n"].map
            String.toList)
        = ["![](images/a b(c.png)\x7bwidth=50%\x7d\n".toList]
      ∧ convert (["```\x7br, out.width='50%'\x7d\n",
          "knitr::include_graphics(\"images/a b(c.png\")\n", "```\n"].map String.toList)
        = ["![](images/a b(c.png)\x7bwidth=50%\x7d\n".toList] := by
  have hheader : chunkOptions? "```\x7br, out.width='50%'\x7d\n".toList
      = some ", out.width='50%'".toList := by decide
  have hplain : ∀ s ∈ ["images".toList, "a b(c.png".toList], IsSegment s :=
    List.forall_mem_cons.2 ⟨⟨by decide, by decide⟩,
      List.forall_mem_singleton.2 ⟨by decide, by decide⟩⟩
  have ha : insideChunk [] = false := rfl
  have hfence : isFence "```\n".toList = true := by decide
  have hclosing : chunkOptions? "```\n".toList = none := by decide
  obtain ⟨hcalls, -, hsame⟩ :=
    spellings_iff hheader hfence hclosing ha [] (List.cons_ne_nil _ _) hplain
  have hnames : ∀ s ∈ ["images".toList, "a b(c.png".toList], ',' ∉ s ∧ ')' ∉ s := by decide
  have hlink : convert [] ++ (render ⟨slashed ["images".toList, "a b(c.png".toList],
        size? ", out.width='50%'".toList, true⟩ ++ convert [])
      = ["![](images/a b(c.png)\x7bwidth=50%\x7d\n".toList] := by
    decide +kernel
  have hfirst := (hcalls.2 hnames).trans hlink
  have hsecond := (hsame hnames).symm.trans hfirst
  have hcall : callLine (fileCall (segmentArguments ["images".toList, "a b(c.png".toList]))
      = "knitr::include_graphics(file.path(\"images\", \"a b(c.png\"))\n".toList := by
    decide +kernel
  have htext : callLine (quoted (slashed ["images".toList, "a b(c.png".toList]))
      = "knitr::include_graphics(\"images/a b(c.png\")\n".toList := by
    decide +kernel
  rw [hcall] at hfirst
  rw [htext] at hsecond
  exact ⟨hheader, hplain, hfirst, hsecond⟩

/-- A comma in a name, and a pair of parentheses. -/
theorem convert_comma_paren :
    convert (["```\x7br\x7d\n", "knitr::include_graphics(file.path(\"images\", \"a,b.png\"))\n",
          "```\n"].map String.toList) = ["![](images/a/b.png)\n".toList]
      ∧ convert (["```\x7br\x7d\n", "knitr::include_graphics(\"images/a,b.png\")\n", "```\n"].map
          String.toList) = ["![](images/a,b.png)\n".toList]
      ∧ convert (["```\x7br\x7d\n",
          "knitr::include_graphics(file.path(\"images\", \"a(1).png\"))\n", "```\n"].map
            String.toList) = ["![](images/a(1)\n".toList]
      ∧ convert (["```\x7br\x7d\n", "knitr::include_graphics(\"images/a(1).png\")\n", "```\n"].map
          String.toList) = ["![](images/a(1).png)\n".toList] := by
  decide +kernel

end Chunk
end SlideDeck
