import SlideDeck.Proofs.Document.Rewriting
import SlideDeck.Proofs.Slide.FootnoteLines

/-!
# Footnotes in columns

A column ends at the first line that is nothing but a closing bracket, and a footnote at the first
line that ends with one.  Columns are converted first, so a footnote in a column keeps the column
whole as long as its own closing bracket ends a line of text.  A bracket on a line of its own ends
the column instead, and the footnote then runs through the scaffolding of the container.

* `ColumnPiece` — prose or a footnote of several lines, `ColumnPiece.source` as it stands in a
  column and `ColumnPiece.converted` as it comes out.
* `Footnote.endsBlock_text_convert` — the last bracket of a document is there after conversion.
* `convert_column_eq_container_iff` — which columns stay whole.
-/

set_option autoImplicit false

namespace SlideDeck

open Text (trimEnd)

/-! ## What stands in a column -/

/-- A line of prose: it opens no block and ends none. -/
structure Line.IsProse (l : Line) : Prop where
  left : Layout.isLeft l = false
  right : Layout.isRight l = false
  footnote : l.opensWith ".footnote[".toList = false
  bracket : Footnote.endsBlock l = false

instance (l : Line) : Decidable l.IsProse :=
  decidable_of_iff (Layout.isLeft l = false ∧ Layout.isRight l = false
      ∧ l.opensWith ".footnote[".toList = false ∧ Footnote.endsBlock l = false)
    ⟨fun h => ⟨h.1, h.2.1, h.2.2.1, h.2.2.2⟩, fun h => ⟨h.1, h.2, h.3, h.4⟩⟩

/-- A piece of what stands in a column. -/
inductive ColumnPiece where
  | prose (lines : Document)
  /-- A footnote of several lines: the line that opens it, its text and the line that closes it. -/
  | footnote (opening : Line) (lines : Document) (closing : Line)
  deriving DecidableEq, Repr

namespace ColumnPiece

/-- The lines of a piece in a deck. -/
def source : ColumnPiece → Document
  | prose lines => lines
  | footnote opening lines closing => opening :: lines ++ [closing]

/-- The lines of a piece with the footnote inline. -/
def converted : ColumnPiece → Document
  | prose lines => lines
  | footnote _ lines closing =>
    Footnote.render ⟨Text.trim (Text.joinWith ['\n']
      (lines.map trimEnd ++ [trimEnd (Footnote.dropBracket closing)])), true⟩

/-- Whether a piece is a footnote whose closing bracket stands on a line of its own. -/
def closesAlone : ColumnPiece → Bool
  | prose _ => false
  | footnote _ _ closing => Layout.isClose closing

/-- A piece is prose, or it is a footnote around prose. -/
def Valid : ColumnPiece → Prop
  | prose lines => ∀ l ∈ lines, l.IsProse
  | footnote opening lines closing =>
    opening.trimsTo ".footnote[".toList = true ∧ (∀ l ∈ lines, l.IsProse)
      ∧ Footnote.endsBlock closing = true

instance : (p : ColumnPiece) → Decidable p.Valid
  | prose lines => inferInstanceAs (Decidable (∀ l ∈ lines, l.IsProse))
  | footnote _ _ _ => inferInstanceAs (Decidable (_ ∧ _ ∧ _))

end ColumnPiece

/-! ## The last bracket -/

namespace Footnote

theorem endsBlock_append (s : Text) {t : Text} (ht : endsBlock t = true) :
    endsBlock (s ++ t) = true := by
  obtain ⟨u, b, hb, rfl⟩ := (endsBlock_iff t).1 ht
  exact (endsBlock_iff _).2 ⟨s ++ u, b, hb, by rw [List.append_assoc]⟩

theorem endsBlock_text_render (b : Footnote) : endsBlock (Document.text (render b)) = true := by
  rw [text_render]
  exact endsBlock_append _ (by decide)

/-- A document that ends with a bracket does so after its footnotes are converted, whether the
bracket belongs to one of them or not. -/
theorem endsBlock_text_convert {d : Document} {l : Line} (hl : endsBlock l = true)
    (hd : d.getLast? = some l) : endsBlock (Document.text (convert d)) = true := by
  induction d using recogniser.scan_induction with
  | nil => cases hd
  | plain k s hread ih =>
    rw [convert, recogniser.rewrite_cons_of_none render hread, Document.text, List.flatten_cons]
    cases s with
    | nil =>
      obtain rfl := Option.some.inj hd
      rw [Recogniser.rewrite_nil, List.flatten_nil, List.append_nil]
      exact hl
    | cons m s =>
      rw [List.getLast?_cons_cons] at hd
      exact endsBlock_append k (ih hd)
  | block front b r hread ih =>
    rw [convert, recogniser.rewrite_of_some render hread, Document.text, List.flatten_append]
    cases r with
    | nil =>
      rw [Recogniser.rewrite_nil, List.flatten_nil, List.append_nil]
      exact endsBlock_text_render b
    | cons m r =>
      rw [List.getLast?_append_of_ne_nil _ (List.cons_ne_nil m r)] at hd
      exact endsBlock_append _ (ih hd)

end Footnote

theorem Layout.not_endsBlock_text_container (left right : Document) :
    Footnote.endsBlock (Document.text (container left right)) = false := by
  have hshape : ∃ s, Document.text (container left right) = s ++ "::::\n\n".toList := by
    rw [container, Document.text, List.flatten_append]
    exact ⟨_, rfl⟩
  obtain ⟨s, hs⟩ := hshape
  rw [Bool.eq_false_iff, Ne, Footnote.endsBlock_iff]
  rintro ⟨u, b, hb, heq⟩
  rw [hs] at heq
  have htrim : trimEnd (s ++ ":::".toList ++ [':']) = trimEnd (u ++ [']']) := by
    rw [← Text.trimEnd_append_of_isBlank _ (show Text.isBlank ['\n', '\n'] = true by decide),
      ← Text.trimEnd_append_of_isBlank (u ++ [']']) hb]
    refine congrArg trimEnd ?_
    rw [List.append_assoc u, List.singleton_append, ← heq]
    simp
  rw [Text.trimEnd_concat _ (by decide), Text.trimEnd_concat _ (by decide)] at htrim
  exact absurd (List.append_inj' htrim rfl).2 (by decide)

/-! ## Lines of a column -/

theorem Footnote.endsBlock_of_isClose {l : Line} (h : Layout.isClose l = true) :
    endsBlock l = true := by
  rw [Layout.isClose, Line.trimsTo_iff] at h
  rw [endsBlock, h]
  decide

theorem Line.IsProse.not_isClose {l : Line} (h : l.IsProse) : Layout.isClose l = false := by
  rw [Bool.eq_false_iff, Ne]
  intro hclose
  have hbracket := h.bracket
  rw [Footnote.endsBlock_of_isClose hclose] at hbracket
  exact absurd hbracket (by decide)

theorem Footnote.not_trimsTo_of_endsBlock {l : Line} (h : endsBlock l = true) {mark : Text}
    (hmark : Text.endsWith mark "]".toList = false) : l.trimsTo mark = false := by
  rw [Bool.eq_false_iff, Ne, Line.trimsTo_iff]
  rintro rfl
  rw [← endsBlock, h] at hmark
  exact absurd hmark (by decide)

/-- Openers of columns end with an opening bracket. -/
theorem Layout.not_opener_of_endsBlock {l : Line} (h : Footnote.endsBlock l = true) :
    isLeft l = false ∧ isRight l = false := by
  have hmarks : ∀ mark : Text, Text.endsWith mark "]".toList = false → l.trimsTo mark = false :=
    fun _ => Footnote.not_trimsTo_of_endsBlock h
  exact ⟨Bool.or_eq_false_iff.2 ⟨hmarks _ (by decide), hmarks _ (by decide)⟩,
    Bool.or_eq_false_iff.2 ⟨hmarks _ (by decide), hmarks _ (by decide)⟩⟩

theorem Layout.not_isGap_of_endsBlock {l : Line} (h : Footnote.endsBlock l = true) :
    isGap l = false := by
  have hmarks : ∀ mark : Text, Text.endsWith mark "]".toList = false → l.trimsTo mark = false :=
    fun _ => Footnote.not_trimsTo_of_endsBlock h
  have hblank : Text.isBlank l = false := by
    rw [Bool.eq_false_iff, Ne, ← Text.trim_eq_nil_iff, ← Line.trimsTo_iff, hmarks [] (by decide)]
    decide
  rw [isGap, hmarks _ (by decide), hmarks _ (by decide), hblank]
  rfl

namespace ColumnPiece

theorem Valid.not_opener {p : ColumnPiece} (hp : p.Valid) :
    ∀ l ∈ p.source, Layout.isLeft l = false ∧ Layout.isRight l = false := by
  cases p with
  | prose lines => exact fun l hl => ⟨(hp l hl).left, (hp l hl).right⟩
  | footnote opening lines closing =>
    obtain ⟨hopening, hlines, hclosing⟩ := hp
    rw [Line.trimsTo_iff] at hopening
    refine List.forall_mem_append.2 ⟨List.forall_mem_cons.2 ⟨?_, ?_⟩,
      List.forall_mem_singleton.2 (Layout.not_opener_of_endsBlock hclosing)⟩
    · rw [Layout.isLeft, Layout.isRight]
      simp only [Line.trimsTo, hopening]
      decide
    · exact fun l hl => ⟨(hlines l hl).left, (hlines l hl).right⟩

theorem Valid.not_isClose {p : ColumnPiece} (hp : p.Valid) (halone : p.closesAlone = false) :
    ∀ l ∈ p.source, Layout.isClose l = false := by
  cases p with
  | prose lines => exact fun l hl => (hp l hl).not_isClose
  | footnote opening lines closing =>
    obtain ⟨hopening, hlines, -⟩ := hp
    rw [Line.trimsTo_iff] at hopening
    refine List.forall_mem_append.2 ⟨List.forall_mem_cons.2 ⟨?_, ?_⟩,
      List.forall_mem_singleton.2 halone⟩
    · rw [Layout.isClose, Line.trimsTo, hopening]
      decide
    · exact fun l hl => (hlines l hl).not_isClose

theorem exists_isClose {p : ColumnPiece} (halone : p.closesAlone = true) :
    ∃ c ∈ p.source, Layout.isClose c = true := by
  cases p with
  | prose lines => cases halone
  | footnote opening lines closing =>
    exact ⟨closing, List.mem_append_right _ (List.mem_singleton_self closing), halone⟩

/-- A footnote around prose is read from its own lines, whatever follows. -/
theorem Valid.read_footnote {opening closing : Line} {lines : Document}
    (hp : (footnote opening lines closing).Valid) (rest : Document) :
    Footnote.read ((footnote opening lines closing).source ++ rest)
      = some (⟨Text.trim (Text.joinWith ['\n']
        (lines.map trimEnd ++ [trimEnd (Footnote.dropBracket closing)])), true⟩, rest) := by
  obtain ⟨hopening, hlines, hclosing⟩ := hp
  rw [Line.trimsTo_iff] at hopening
  obtain ⟨first, hfirst, hstart⟩ := Text.exists_trimStart_eq_trim opening
  have hafter : Footnote.opening? opening = some first := by
    rw [Footnote.opening?, hstart, hopening]
    exact Text.after?_append _ first
  have hopen : Footnote.endsBlock first = false := by
    rw [Bool.eq_false_iff, Ne, Footnote.endsBlock_iff]
    rintro ⟨u, b, -, rfl⟩
    have hspace := (Text.isBlank_iff _).1 hfirst ']'
      (List.mem_append_right u (List.mem_cons_self ..))
    exact absurd hspace (by decide)
  have hbody : Body.read Footnote.endsBlock (lines ++ closing :: rest)
      = ⟨lines, some closing, rest⟩ :=
    Body.read_append_cons (fun l hl => (hlines l hl).bracket) hclosing rest
  have hcontent : Text.trim (Footnote.blockContent first ⟨lines, some closing, rest⟩)
      = Text.trim (Text.joinWith ['\n']
        (lines.map trimEnd ++ [trimEnd (Footnote.dropBracket closing)])) := by
    rw [Footnote.blockContent, (Text.trimEnd_eq_nil_iff first).2 hfirst, List.cons_append,
      Text.joinWith, List.intercalate_cons_of_ne_nil (by simp), List.nil_append,
      Text.trim_append_left (by decide)]
    rfl
  have hsource : (footnote opening lines closing).source ++ rest
      = opening :: (lines ++ closing :: rest) := by
    rw [source, List.cons_append, List.cons_append, List.append_assoc, List.singleton_append]
  rw [hsource, Footnote.read, hafter]
  simp only [hopen, Bool.false_eq_true, if_false, hbody, hcontent]
  rfl

theorem Valid.convert_append {p : ColumnPiece} (hp : p.Valid) (rest : Document) :
    Footnote.convert (p.source ++ rest) = p.converted ++ Footnote.convert rest := by
  cases p with
  | prose lines =>
    exact Footnote.recogniser.rewrite_append _
      (fun l hl d => Footnote.read_of_not_opening (hp l hl).footnote d) rest
  | footnote opening lines closing =>
    exact Footnote.recogniser.rewrite_of_some _ (hp.read_footnote rest)

/-- An inline footnote has no bracket on a line of its own if its source has none. -/
theorem Valid.not_isClose_converted {p : ColumnPiece} (hp : p.Valid)
    (halone : p.closesAlone = false) (hsource : p.source.WellFormed) :
    ∀ l ∈ p.converted, Layout.isClose l = false := by
  cases p with
  | prose lines => exact hp.not_isClose halone
  | footnote opening lines closing =>
    intro l hl
    rcases Footnote.mem_render_of_source (Footnote.source_of_read_append (hp.read_footnote []))
        hsource hl
      with hopen | ⟨m, hm, rfl⟩ | ⟨-, -, q, -, hq, rfl⟩
    · obtain ⟨r, rfl⟩ := hopen
      exact Line.trimsTo_eq_false
        (Line.opensWith_append (List.cons_ne_nil _ _) (by decide) (by decide) r) (by decide)
    · have hclose := hp.not_isClose halone m hm
      rw [Layout.isClose, Line.trimsTo] at hclose ⊢
      rw [Text.trim_append_right _ (by decide), Text.trim_trimEnd]
      exact hclose
    · have htrim : Text.trim (q ++ "]\n".toList) = Text.trimStart q ++ [']'] := by
        have hsplit : q ++ "]\n".toList = (q ++ [']']) ++ ['\n'] := by simp
        rw [hsplit, Text.trim_append_right _ (by decide), Text.trim_concat hq (by decide)]
      rw [Bool.eq_false_iff, Ne, Layout.isClose, Line.trimsTo_iff, htrim]
      intro heq
      have hnil : Text.trimStart q = [] := List.append_left_eq_self.1 heq
      rw [Text.trimStart_eq_nil_iff, hq] at hnil
      exact absurd hnil (by decide)

theorem convert_pieces_append {pieces : List ColumnPiece} (hpieces : ∀ p ∈ pieces, p.Valid)
    (rest : Document) :
    Footnote.convert (pieces.flatMap source ++ rest)
      = pieces.flatMap converted ++ Footnote.convert rest := by
  induction pieces with
  | nil => rfl
  | cons p pieces ih =>
    obtain ⟨hp, hpieces⟩ := List.forall_mem_cons.1 hpieces
    rw [List.flatMap_cons, List.append_assoc, hp.convert_append, ih hpieces, List.flatMap_cons,
      List.append_assoc]

end ColumnPiece

/-! ## The column -/

/-- A left block without a right one behind it. -/
theorem Layout.convert_loneLeft {opener closer : Line} {lines rest : Document}
    (hopener : isLeft opener = true) (hlines : ∀ l ∈ lines, isClose l = false)
    (hcloser : isClose closer = true)
    (hrest : ∀ l ∈ rest, isLeft l = false ∧ isRight l = false) :
    convert (opener :: lines ++ closer :: rest) = container lines [] ++ rest.dropWhile isGap := by
  have hbody : Body.read isClose (lines ++ closer :: rest) = ⟨lines, some closer, rest⟩ :=
    Body.read_append_cons hlines hcloser rest
  have hgap : ∀ l ∈ rest.dropWhile isGap, isLeft l = false ∧ isRight l = false :=
    fun l hl => hrest l ((List.dropWhile_suffix isGap).subset hl)
  have hafter : readAfterLeft ⟨lines, true⟩ rest
      = (loneLeft ⟨lines, true⟩, rest.dropWhile isGap) := by
    rw [readAfterLeft]
    split
    · next h => rw [h]
    · next l more h =>
      rw [h] at hgap
      rw [if_neg (Bool.eq_false_iff.1 (hgap l (List.mem_cons_self ..)).2), h]
  have hread : recogniser.read (opener :: (lines ++ closer :: rest))
      = some (loneLeft ⟨lines, true⟩, rest.dropWhile isGap) := by
    show Layout.read (opener :: (lines ++ closer :: rest)) = _
    rw [read, if_pos hopener, hbody]
    exact congrArg some hafter
  have hstay : recogniser.rewrite render (rest.dropWhile isGap) = rest.dropWhile isGap :=
    recogniser.rewrite_eq_self _ fun l hl t =>
      read_of_not_opener (hgap l hl).1 (hgap l hl).2 t
  rw [List.cons_append, convert, recogniser.rewrite_of_some _ hread, hstay]
  rfl

/-- Of two closing brackets the first one ends the column, and the second one is left behind the
container. -/
theorem Layout.getLast?_convert_of_isClose {opener closer : Line} {lines : Document}
    (hopener : isLeft opener = true) (hcloser : Footnote.endsBlock closer = true)
    (hlines : ∀ l ∈ lines, isLeft l = false ∧ isRight l = false)
    (hclose : ∃ l ∈ lines, isClose l = true) :
    (convert (opener :: lines ++ [closer])).getLast? = some closer := by
  obtain ⟨column, first, more, rfl, hfirst, hcolumn⟩ := Body.exists_read_closed hclose
  obtain ⟨-, hmore⟩ := List.forall_mem_append.1 hlines
  obtain ⟨-, hmore⟩ := List.forall_mem_cons.1 hmore
  have hrest : ∀ l ∈ more ++ [closer], isLeft l = false ∧ isRight l = false :=
    List.forall_mem_append.2 ⟨hmore, List.forall_mem_singleton.2 (not_opener_of_endsBlock hcloser)⟩
  have hconvert : convert (opener :: (column ++ first :: more) ++ [closer])
      = container column [] ++ (more ++ [closer]).dropWhile isGap := by
    rw [List.cons_append, List.append_assoc, List.cons_append, ← List.cons_append]
    exact convert_loneLeft hopener hcolumn hfirst hrest
  have hgap : [closer].dropWhile isGap = [closer] :=
    List.dropWhile_cons_of_neg (Bool.eq_false_iff.1 (not_isGap_of_endsBlock hcloser))
  have htail : (more ++ [closer]).dropWhile isGap = more.dropWhile isGap ++ [closer] := by
    rw [List.dropWhile_append, hgap]
    split
    · next h => rw [List.isEmpty_iff.1 h, List.nil_append]
    · rfl
  rw [hconvert, htail, ← List.append_assoc, List.getLast?_concat]

/-- A container is the column between scaffolding that neither opens a footnote nor closes a
block. -/
theorem Layout.exists_scaffold : ∃ front back : Document,
    (∀ l ∈ front ++ back, l.opensWith ".footnote[".toList = false ∧ isClose l = false)
      ∧ ∀ left, container left [] = front ++ (left ++ back) := by
  refine ⟨[":::: \x7b.columns\x7d\n".toList, "\n".toList,
      "::: \x7b.column width=\"50%\"\x7d\n".toList],
    ["\n".toList, ":::\n".toList, "\n".toList] ++ renderColumn [] ++ ["::::\n".toList, "\n".toList],
    by decide, fun left => ?_⟩
  simp only [container, renderColumn, List.cons_append, List.nil_append, List.append_assoc]

/-- Conversion reaches the footnotes in a container and leaves its scaffolding alone. -/
theorem Footnote.convert_container {pieces : List ColumnPiece} (hpieces : ∀ p ∈ pieces, p.Valid) :
    convert (Layout.container (pieces.flatMap ColumnPiece.source) [])
      = Layout.container (pieces.flatMap ColumnPiece.converted) [] := by
  obtain ⟨front, back, hscaffold, hcontainer⟩ := Layout.exists_scaffold
  obtain ⟨hfront, hback⟩ := List.forall_mem_append.1 hscaffold
  have hstay : convert back = back :=
    recogniser.rewrite_eq_self render fun l hl => read_of_not_opening (hback l hl).1
  rw [hcontainer, hcontainer]
  calc convert (front ++ (pieces.flatMap ColumnPiece.source ++ back))
      = front ++ convert (pieces.flatMap ColumnPiece.source ++ back) :=
        recogniser.rewrite_append render (fun l hl => read_of_not_opening (hfront l hl).1) _
    _ = front ++ (pieces.flatMap ColumnPiece.converted ++ convert back) := by
        rw [ColumnPiece.convert_pieces_append hpieces]
    _ = front ++ (pieces.flatMap ColumnPiece.converted ++ back) := by rw [hstay]

/-! ## Columns that stay whole -/

section Column

variable {opener closer : Line} {pieces : List ColumnPiece}

theorem convert_column (hopener : Layout.isLeft opener = true)
    (hcloser : Layout.isClose closer = true) (hpieces : ∀ p ∈ pieces, p.Valid)
    (halone : ∀ p ∈ pieces, p.closesAlone = false) :
    Footnote.convert (Layout.convert (opener :: pieces.flatMap ColumnPiece.source ++ [closer]))
      = Layout.container (pieces.flatMap ColumnPiece.converted) [] := by
  have hlines : ∀ l ∈ pieces.flatMap ColumnPiece.source, Layout.isClose l = false := by
    intro l hl
    obtain ⟨p, hp, hl⟩ := List.mem_flatMap.1 hl
    exact (hpieces p hp).not_isClose (halone p hp) l hl
  have hnone : ∀ l ∈ ([] : Document), Layout.isLeft l = false ∧ Layout.isRight l = false :=
    fun l hl => absurd hl List.not_mem_nil
  rw [Layout.convert_loneLeft hopener hlines hcloser hnone, List.dropWhile_nil, List.append_nil]
  exact Footnote.convert_container hpieces

/-- A bracket on a line of its own leaves the closing bracket of the column behind the container,
and a bracket that is left there ends the document, whoever takes it. -/
theorem convert_column_ne_container (hopener : Layout.isLeft opener = true)
    (hcloser : Layout.isClose closer = true) (hpieces : ∀ p ∈ pieces, p.Valid)
    (halone : ∃ p ∈ pieces, p.closesAlone = true) (left right : Document) :
    Footnote.convert (Layout.convert (opener :: pieces.flatMap ColumnPiece.source ++ [closer]))
      ≠ Layout.container left right := by
  have hends := Footnote.endsBlock_of_isClose hcloser
  have hlines : ∀ l ∈ pieces.flatMap ColumnPiece.source,
      Layout.isLeft l = false ∧ Layout.isRight l = false := by
    intro l hl
    obtain ⟨p, hp, hl⟩ := List.mem_flatMap.1 hl
    exact (hpieces p hp).not_opener l hl
  have hclose : ∃ l ∈ pieces.flatMap ColumnPiece.source, Layout.isClose l = true := by
    obtain ⟨p, hp, halone⟩ := halone
    obtain ⟨l, hl, hclose⟩ := ColumnPiece.exists_isClose halone
    exact ⟨l, List.mem_flatMap.2 ⟨p, hp, hl⟩, hclose⟩
  have hlast := Layout.getLast?_convert_of_isClose hopener hends hlines hclose
  intro heq
  have htext := Footnote.endsBlock_text_convert hends hlast
  rw [heq, Layout.not_endsBlock_text_container] at htext
  exact absurd htext (by decide)

/-- **Which columns stay whole.**  A left column of prose and footnotes becomes one container, with
the inline footnotes in its first column, exactly if no footnote closes with a bracket on a line of
its own; then no such bracket is left over.  Otherwise what comes out is no container at all. -/
theorem convert_column_eq_container_iff (hopener : Layout.isLeft opener = true)
    (hcloser : Layout.isClose closer = true) (hpieces : ∀ p ∈ pieces, p.Valid) :
    (Footnote.convert (Layout.convert (opener :: pieces.flatMap ColumnPiece.source ++ [closer]))
        = Layout.container (pieces.flatMap ColumnPiece.converted) []
      ↔ ∀ p ∈ pieces, p.closesAlone = false)
    ∧ ((∃ p ∈ pieces, p.closesAlone = true) → ∀ left right,
      Footnote.convert (Layout.convert (opener :: pieces.flatMap ColumnPiece.source ++ [closer]))
        ≠ Layout.container left right)
    ∧ ((∀ p ∈ pieces, p.closesAlone = false) →
      Document.WellFormed (pieces.flatMap ColumnPiece.source) →
      ∀ l ∈ Footnote.convert
        (Layout.convert (opener :: pieces.flatMap ColumnPiece.source ++ [closer])),
        Layout.isClose l = false) := by
  refine ⟨⟨fun heq p hp => ?_, convert_column hopener hcloser hpieces⟩,
    convert_column_ne_container hopener hcloser hpieces, fun halone hsource l hl => ?_⟩
  · rw [Bool.eq_false_iff, Ne]
    exact fun halone =>
      convert_column_ne_container hopener hcloser hpieces ⟨p, hp, halone⟩ _ _ heq
  · rw [convert_column hopener hcloser hpieces halone] at hl
    obtain ⟨front, back, hscaffold, hcontainer⟩ := Layout.exists_scaffold
    obtain ⟨hfront, hback⟩ := List.forall_mem_append.1 hscaffold
    rw [hcontainer] at hl
    rcases List.mem_append.1 hl with hl | hl
    · exact (hfront l hl).2
    · rcases List.mem_append.1 hl with hl | hl
      · obtain ⟨p, hp, hl⟩ := List.mem_flatMap.1 hl
        exact (hpieces p hp).not_isClose_converted (halone p hp)
          (fun k hk => hsource k (List.mem_flatMap.2 ⟨p, hp, hk⟩)) l hl
      · exact (hback l hl).2

end Column

/-- A footnote between two lines of prose, in a column that stays whole. -/
theorem convert_column_footnote_between_prose :
    Layout.isLeft ".pull-left[\n".toList = true ∧ Layout.isClose "]\n".toList = true
    ∧ (∀ p ∈ [ColumnPiece.prose ["prose\n".toList], .footnote ".footnote[\n".toList
        ["a note\n".toList] "of two lines]\n".toList, .prose ["more prose\n".toList]], p.Valid)
    ∧ Footnote.convert (Layout.convert [".pull-left[\n".toList, "prose\n".toList,
        ".footnote[\n".toList, "a note\n".toList, "of two lines]\n".toList,
        "more prose\n".toList, "]\n".toList])
      = Layout.container ["prose\n".toList, "^[a note\n".toList, "of two lines]\n".toList,
        "more prose\n".toList] []
    ∧ ∀ l ∈ Footnote.convert (Layout.convert [".pull-left[\n".toList, "prose\n".toList,
        ".footnote[\n".toList, "a note\n".toList, "of two lines]\n".toList,
        "more prose\n".toList, "]\n".toList]), Layout.isClose l = false := by
  have hopener : Layout.isLeft ".pull-left[\n".toList = true := by decide
  have hcloser : Layout.isClose "]\n".toList = true := by decide
  have hpieces : ∀ p ∈ [ColumnPiece.prose ["prose\n".toList], .footnote ".footnote[\n".toList
      ["a note\n".toList] "of two lines]\n".toList, .prose ["more prose\n".toList]], p.Valid := by
    decide
  have h := convert_column_eq_container_iff hopener hcloser hpieces
  exact ⟨hopener, hcloser, hpieces, (h.1.2 (by decide)).trans (by decide),
    h.2.2 (by decide) (by decide)⟩

/-- A column that does not: the bracket of the footnote ends it, and the footnote runs from the
first column through the second. -/
theorem convert_column_lone_bracket :
    ColumnPiece.Valid (.footnote ".footnote[\n".toList ["note\n".toList] "]\n".toList)
    ∧ Footnote.convert (Layout.convert [".pull-left[\n".toList, ".footnote[\n".toList,
        "note\n".toList, "]\n".toList, "]\n".toList])
      = [":::: \x7b.columns\x7d\n".toList, "\n".toList,
        "::: \x7b.column width=\"50%\"\x7d\n".toList, "^[note\n".toList, "\n".toList,
        ":::\n".toList, "\n".toList, "::: \x7b.column width=\"50%\"\x7d\n".toList, "\n".toList,
        ":::\n".toList, "\n".toList, "::::]\n".toList]
    ∧ ∀ left right, Footnote.convert (Layout.convert [".pull-left[\n".toList,
        ".footnote[\n".toList, "note\n".toList, "]\n".toList, "]\n".toList])
      ≠ Layout.container left right := by
  have hout : Footnote.convert (Layout.convert [".pull-left[\n".toList, ".footnote[\n".toList,
        "note\n".toList, "]\n".toList, "]\n".toList])
      = [":::: \x7b.columns\x7d\n".toList, "\n".toList,
        "::: \x7b.column width=\"50%\"\x7d\n".toList, "^[note\n".toList, "\n".toList,
        ":::\n".toList, "\n".toList, "::: \x7b.column width=\"50%\"\x7d\n".toList, "\n".toList,
        ":::\n".toList, "\n".toList, "::::]\n".toList] := by
    decide +kernel
  refine ⟨by decide, hout, fun left right heq => ?_⟩
  have hends := Layout.not_endsBlock_text_container left right
  rw [← heq, hout] at hends
  exact absurd hends (by decide)

end SlideDeck
