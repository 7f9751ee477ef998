import SlideDeck.Proofs.Code.FigurePath
import SlideDeck.Proofs.Code.PathMarks
import SlideDeck.Proofs.Pipeline.PlainLines

/-!
# An image chunk becomes one link

A chunk that shows an image of the project goes through three stages that know about paths: it is
read as a chunk, its calls would be respelled, and image links go up one directory.  Its path is
respelled once, because what the first of these stages leaves has no call any more, and what the
last one writes does not begin with a root directory.

* `Line.eq_bracket_before_paren` — in a line that is one link, the one parenthesis that opens stands
  behind a bracket; so no call is read there, by whatever stage.
* `Pipeline.lines_runStages_link` — what the stages after the chunks make of a link.
* `Figure.convert_chunk` — the link that a chunk becomes.
* `Pipeline.lines_run_imageChunk` — the whole run.
-/

set_option autoImplicit false

namespace SlideDeck

/-! ## A line that is one link -/

/-- A line that starts with an image link without alternative text; `rest` is its target and all
that follows. -/
def Line.link (rest : Text) : Line := "![](".toList ++ rest

section Link

variable {rest : Text}

theorem Line.opensWith_link (rest : Text) : (link rest).opensWith ['!'] = true :=
  opensWith_cons (by decide) ("[](".toList ++ rest)

/-- There is one place for an opening parenthesis. -/
theorem Line.eq_bracket_before_paren (hrest : '(' ∉ rest) {front : Text} {c : Char}
    (h : front ++ [c, '('] <:+: link rest) : c = ']' := by
  obtain ⟨a, b, hab⟩ := h
  have hlink : link rest = "![]".toList ++ '(' :: rest := rfl
  have hcall : a ++ (front ++ [c, '(']) ++ b = (a ++ front ++ [c]) ++ '(' :: b := by simp
  rw [hlink, hcall] at hab
  have hopening : '(' ∉ "![]".toList := by decide
  obtain ⟨hfront, -, -⟩ := (List.append_cons_inj_of_notMem hopening hrest).1 hab.symm
  have hlast : "![]".toList.getLast? = some c := by
    rw [hfront, List.getLast?_concat]
  exact (Option.some.inj hlast).symm

theorem SetupCode.remove_link (hrest : '(' ∉ rest) :
    remove [Line.link rest] = [Line.link rest] := by
  have hstart : startsOptionsCall (Line.link rest) = false := by
    have htrim : Text.trimStart (Line.link rest) = Line.link rest :=
      Text.trimStart_cons (by decide) _
    have hafter : Text.after? "knitr::opts_chunk$set".toList (Line.link rest) = none := rfl
    rw [startsOptionsCall, htrim, hafter]
  have hhook : setsCropHook (Line.link rest) = false := by
    rw [setsCropHook, Bool.eq_false_iff, Ne, Text.contains_iff]
    intro h
    have hcall : "knitr::knit_hooks$se".toList ++ ['t', '(']
        <+: "knitr::knit_hooks$set(crop = knitr::hook_pdfcrop)".toList := by decide
    exact absurd (Line.eq_bracket_before_paren hrest (hcall.isInfix.trans h)) (by decide)
  rw [remove_singleton hstart, hhook]
  simp

theorem ProjectPath.rewriteLine_link (hrest : '(' ∉ rest) :
    rewriteLine (Line.link rest) = Line.link rest := by
  -- in all calls a letter stands before the parenthesis
  have hcall : ∀ mark ∈ callMarks, ∃ front c, mark = front ++ [c, '('] ∧ c ≠ ']' := by
    simp only [callMarks, List.forall_mem_cons]
    exact ⟨⟨"file.pat".toList, 'h', rfl, by decide⟩, ⟨"read_tabl".toList, 'e', rfl, by decide⟩,
      ⟨"read_cs".toList, 'v', rfl, by decide⟩, ⟨"read_deli".toList, 'm', rfl, by decide⟩,
      ⟨"sourc".toList, 'e', rfl, by decide⟩, List.forall_mem_nil _⟩
  refine rewriteLine_eq_self fun mark hmark hinfix => ?_
  obtain ⟨front, c, rfl, hc⟩ := hcall mark hmark
  exact hc (Line.eq_bracket_before_paren hrest hinfix)

/-- The target goes up one directory, once: nothing is left of the line in which a second link
could begin. -/
theorem ProjectPath.fixLine_link {root : Text} (hroot : root ∈ ["images".toList, "data".toList])
    (hrest : '(' ∉ rest) :
    fixLine (Line.link (root ++ '/' :: rest))
      = Line.link ("../".toList ++ (root ++ '/' :: rest)) := by
  have hread : ImageLink.recogniser.read (Line.link (root ++ '/' :: rest))
      = some (⟨[], root ++ ['/']⟩, rest) := by
    show ImageLink.read _ = _
    simp only [List.mem_cons, List.not_mem_nil, or_false] at hroot
    rcases hroot with rfl | rfl
    · simp [ImageLink.read, Line.link, Text.after?, Text.oneOf?]
    · simp [ImageLink.read, Line.link, Text.after?, Text.oneOf?]
  rw [fixLine, ImageLink.recogniser.rewrite_of_some _ hread, ImageLink.respells.eq_self hrest]
  simp [ImageLink.render, Line.link]

theorem Footnote.convert_link (rest : Text) : convert [Line.link rest] = [Line.link rest] := by
  have hopening : (Line.link rest).opensWith ".footnote[".toList = false :=
    Line.opensWith_eq_false (Line.opensWith_link rest) (by decide) (by decide)
  refine recogniser.rewrite_eq_self render fun l hl => ?_
  obtain rfl := List.mem_singleton.1 hl
  exact read_of_not_opening hopening

end Link

/-- **The stages after the chunks** put a link one directory up and do nothing else to it. -/
theorem Pipeline.lines_runStages_link (config : Config) {root rest : Text}
    (hroot : root ∈ ["images".toList, "data".toList]) (hrest : '(' ∉ rest) :
    (runStages config Stage.onCode.tail [Line.link (root ++ '/' :: rest)]).lines
      = [Line.link ("../".toList ++ (root ++ '/' :: rest))] := by
  have hparen : '(' ∉ root ++ '/' :: rest := by
    simp only [List.mem_cons, List.not_mem_nil, or_false] at hroot
    rcases hroot with rfl | rfl <;> simp [hrest]
  have hsetup : Stage.setupChunks.apply config [Line.link (root ++ '/' :: rest)]
      = [Line.link (root ++ '/' :: rest)] := SetupCode.remove_link hparen
  have hcalls : Stage.codePaths.apply config [Line.link (root ++ '/' :: rest)]
      = [Line.link (root ++ '/' :: rest)] := by
    simp [Stage.apply, ProjectPath.rewriteCalls, ProjectPath.rewriteLine_link hparen]
  have hlinks : Stage.imageLinks.apply config [Line.link (root ++ '/' :: rest)]
      = [Line.link ("../".toList ++ (root ++ '/' :: rest))] := by
    simp only [Stage.apply, ProjectPath.fixImageLinks, List.map_singleton]
    rw [ProjectPath.fixLine_link hroot hrest]
  have hnotes : Stage.footnotes.apply config [Line.link ("../".toList ++ (root ++ '/' :: rest))]
      = [Line.link ("../".toList ++ (root ++ '/' :: rest))] := Footnote.convert_link _
  simp only [runStages_lines, Stage.onCode, List.tail_cons, List.foldl_cons, List.foldl_nil]
  rw [hsetup, hcalls, hlinks, hnotes]

/-! ## The chunk -/

namespace ChunkOption

theorem paren_not_mem_sizeText (options : List ChunkOption) : '(' ∉ sizeText options := by
  have hnumber : ∀ key number, options.findSome? (number? key) = some number → '(' ∉ number := by
    intro key number h hmem
    obtain ⟨o, -, ho⟩ := List.exists_of_findSome?_eq_some h
    cases o with
    | other t plain noSize => simp [number?] at ho
    | size k s n =>
      simp only [number?] at ho
      split at ho
      · obtain rfl := Option.some.inj ho
        exact absurd (n.2.2 '(' hmem) (by decide)
      · cases ho
  rw [sizeText]
  cases hw : options.findSome? (number? .width) with
  | some w => simp [hnumber _ _ hw]
  | none =>
    cases hh : options.findSome? (number? .height) with
    | some h => simp [hnumber _ _ hh]
    | none => simp

end ChunkOption

namespace ImagePath

variable (p : ImagePath)

theorem paren_not_mem_path : '(' ∉ p.path := by
  intro h
  rcases Text.mem_joinWith h with h | ⟨t, ht, h⟩
  · simp at h
  · obtain ⟨s, -, rfl⟩ := List.mem_map.1 ht
    exact s.plain '(' h (by decide)

theorem exists_path_eq : ∃ below, p.path = p.root.name ++ '/' :: below := by
  have hne : p.below.map Segment.name ≠ [] := by simp [p.below_ne]
  refine ⟨Text.joinWith ['/'] (p.below.map Segment.name), ?_⟩
  simp [path, segments, Text.joinWith, List.intercalate_cons_of_ne_nil hne]

/-- The lines of a chunk with these options that shows the image. -/
def chunk (options : List ChunkOption) : Document :=
  ["```\x7br ".toList ++ ChunkOption.textAll options ++ "\x7d\n".toList, p.callLine, "```\n".toList]

theorem opensWith_callLine : p.callLine.opensWith ['k'] = true :=
  Line.opensWith_cons (by decide)
    ("nitr::include_graphics(file.path(".toList ++ p.arguments ++ "))\n".toList)

theorem isPlain_of_mem_chunk {options : List ChunkOption} {l : Line} (hl : l ∈ p.chunk options) :
    l.IsPlain := by
  simp only [chunk, List.mem_cons, List.not_mem_nil, or_false] at hl
  have hfence : ∀ l : Line, Line.opensWith ('`' :: l) ['`'] = true :=
    Line.opensWith_cons (by decide)
  rcases hl with rfl | rfl | rfl
  · have hopens := hfence ("``\x7br ".toList ++ ChunkOption.textAll options ++ "\x7d\n".toList)
    exact .of_opensWith hopens (by decide) (by decide) (by decide) (by decide)
  · exact .of_opensWith p.opensWith_callLine (by decide) (by decide) (by decide) (by decide)
  · have hopens := hfence "``\n".toList
    exact .of_opensWith hopens (by decide) (by decide) (by decide) (by decide)

end ImagePath

namespace Figure

theorem chunkOptions?_textAll (options : List ChunkOption) :
    chunkOptions? ("```\x7br ".toList ++ ChunkOption.textAll options ++ "\x7d\n".toList)
      = some (' ' :: ChunkOption.textAll options) := by
  have hbrace : '\x7d' ∉ ' ' :: ChunkOption.textAll options := by
    simp [ChunkOption.brace_not_mem_textAll options]
  have hall := bne_of_not_mem hbrace
  have hline : "```\x7br ".toList ++ ChunkOption.textAll options ++ "\x7d\n".toList
      = "```\x7br".toList ++ (' ' :: ChunkOption.textAll options ++ "\x7d\n".toList) := by simp
  rw [chunkOptions?, hline, Text.after?_append]
  simp only [Option.bind_eq_bind, Option.bind_some]
  rw [List.takeWhile_append_of_pos hall]
  simp

/-- **A chunk becomes a link** to its image, of the size that its options ask for. -/
theorem convert_chunk (p : ImagePath) (options : List ChunkOption) :
    convert (p.chunk options)
      = [Line.link (p.path ++ (')' :: (ChunkOption.sizeText options ++ ['\n'])))] := by
  have hfence : isFence p.callLine = false :=
    Line.opensWith_eq_false p.opensWith_callLine (by decide) (by decide)
  have hbody : Body.read isFence [p.callLine, "```\n".toList]
      = ⟨[p.callLine], some "```\n".toList, []⟩ :=
    Body.read_append_cons (List.forall_mem_singleton.2 hfence) (by decide) []
  have hcontains : Text.contains p.callLine graphicsCall = true := by
    rw [Text.contains_iff, p.callLine_eq, callLine]
    simp only [List.append_assoc]
    exact (List.prefix_append _ _).isInfix
  have hfind : [p.callLine].find? (fun l => Text.contains l graphicsCall) = some p.callLine := by
    simp [hcontains]
  have hchunk : recogniser.read (p.chunk options)
      = some (⟨p.path, size? (' ' :: ChunkOption.textAll options), true⟩, []) := by
    show read (p.chunk options) = _
    rw [ImagePath.chunk, read, chunkOptions?_textAll]
    dsimp only
    rw [hbody, ofChunk?, hfind]
    simp [p.argument_callLine, p.resolvePath_argument, Body.closed]
  rw [convert, recogniser.rewrite_of_some _ hchunk, Recogniser.rewrite_nil, List.append_nil]
  simp [render, sizeAttribute_options, Line.link]

end Figure

/-! ## The run -/

namespace Pipeline

/-- **An image chunk becomes one link**, and its path goes up one directory exactly once.  The link
has the width that the options of the chunk ask for, or else the height. -/
theorem lines_run_imageChunk (config : Config) (p : ImagePath) (options : List ChunkOption)
    (hspares : config.Spares (p.chunk options)) :
    (run config (p.chunk options)).lines
      = ["![](../".toList ++ p.path ++ ")".toList ++ ChunkOption.sizeText options ++ ['\n']] := by
  obtain ⟨below, hpath⟩ := p.exists_path_eq
  -- behind the root of the path nothing opens a parenthesis, so one link is all there is
  have hbelow : '(' ∉ below ++ (')' :: (ChunkOption.sizeText options ++ ['\n'])) := by
    have hparen := p.paren_not_mem_path
    rw [hpath] at hparen
    simp only [List.mem_append, List.mem_cons, not_or] at hparen
    simp [hparen.2.2, ChunkOption.paren_not_mem_sizeText]
  have hchunk : Stage.imageChunks.apply config (p.chunk options)
      = [Line.link (p.root.name ++ '/' :: (below
        ++ (')' :: (ChunkOption.sizeText options ++ ['\n']))))] := by
    have hconvert := Figure.convert_chunk p options
    rw [hpath, List.append_assoc, List.cons_append] at hconvert
    exact hconvert
  have hrun : (runStages config Stage.onCode (p.chunk options)).lines
      = (runStages config Stage.onCode.tail
        (Stage.imageChunks.apply config (p.chunk options))).lines := rfl
  rw [lines_run_of_plain (fun l => p.isPlain_of_mem_chunk) hspares, hrun, hchunk,
    lines_runStages_link config p.root_mem hbelow, hpath]
  simp [Line.link]

/-- A width behind a height, quotation marks of both sorts, and a name with a blank. -/
theorem lines_run_imageChunk_width :
    Config.default.Spares
      ["```\x7br a, out.height = 3, out.width= '50%'\x7d\n".toList,
        "knitr::include_graphics(file.path(\"images\", 'b c.png'))\n".toList, "```\n".toList]
    ∧ (run Config.default
        ["```\x7br a, out.height = 3, out.width= '50%'\x7d\n".toList,
          "knitr::include_graphics(file.path(\"images\", 'b c.png'))\n".toList,
          "```\n".toList]).lines
      = ["![](../images/b c.png)\x7bwidth=50%\x7d\n".toList] := by
  have hspares : Config.default.Spares
      ["```\x7br a, out.height = 3, out.width= '50%'\x7d\n".toList,
        "knitr::include_graphics(file.path(\"images\", 'b c.png'))\n".toList, "```\n".toList] := by
    rw [Config.spares_default_iff]
    decide +kernel
  obtain ⟨p, options, hchunk, hpath, hsize⟩ : ∃ (p : ImagePath) (options : List ChunkOption),
      p.chunk options = ["```\x7br a, out.height = 3, out.width= '50%'\x7d\n".toList,
        "knitr::include_graphics(file.path(\"images\", 'b c.png'))\n".toList, "```\n".toList]
      ∧ p.path = "images/b c.png".toList
      ∧ ChunkOption.sizeText options = "\x7bwidth=50%\x7d".toList := by
    let blank : Gap := ⟨[' '], by decide⟩
    let noGap : Gap := ⟨[], by decide⟩
    let single : Quote := ⟨'\'', by decide⟩
    let root : Segment := ⟨noGap, ⟨'"', by decide⟩, "images".toList, by simp [segmentMarks]⟩
    let file : Segment := ⟨blank, single, "b c.png".toList, by simp [segmentMarks]⟩
    let three : SizeNumber := ⟨['3'], by simp, List.forall_mem_singleton.2 (by decide)⟩
    let fifty : SizeNumber := ⟨['5', '0'], by simp,
      List.forall_mem_cons.2 ⟨by decide, List.forall_mem_singleton.2 (by decide)⟩⟩
    let height : ChunkOption := .size .height ⟨blank, blank, blank, none, none, noGap⟩ three
    let width : ChunkOption :=
      .size .width ⟨blank, noGap, blank, some single, some single, noGap⟩ fifty
    let label : ChunkOption := .other ['a'] (by decide) fun key => by cases key <;> decide
    exact ⟨⟨root, [file], by decide, by simp⟩, [label, height, width],
      by decide +kernel, by decide +kernel, by decide +kernel⟩
  refine ⟨hspares, ?_⟩
  rw [← hchunk] at hspares ⊢
  have hrun := lines_run_imageChunk Config.default p options hspares
  rw [hpath, hsize] at hrun
  exact hrun

end Pipeline
end SlideDeck
