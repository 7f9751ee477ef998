import SlideDeck.Proofs.Document.OpenBlock
import SlideDeck.Proofs.Slide.FootnoteLines

/-!
# The text of a footnote

A footnote is cut out of its lines at the opener, at the last bracket and at white space, and its
closing bracket is written anew.  Up to white space this moves nothing: the converted document has
the text it had, with `^[` for the openers of its footnotes, and with one bracket more if the last
footnote was open.

* `Text.squash` takes the white space out of a text, so it does not see where a text is trimmed.
* `Footnote.insideAfter` tells, line by line, what is inside a footnote; `Footnote.respellOpeners`
  writes the openers anew that stand outside.
* `Footnote.squash_render` — the text of one footnote.
* `Footnote.convert_append` — what ends outside of footnotes is converted by itself.
* `Footnote.text_kept` — the text of a whole document.
-/

set_option autoImplicit false

namespace SlideDeck

open Unicode (isSpace)

/-! ## Text without white space -/

namespace Text

/-- A text without its white space. -/
def squash (s : Text) : Text := s.filter fun c => !isSpace c

@[simp] theorem squash_append (s t : Text) : squash (s ++ t) = squash s ++ squash t :=
  List.filter_append s t

theorem squash_of_isBlank {s : Text} (hs : isBlank s = true) : squash s = [] := by
  rw [squash, List.filter_eq_nil_iff]
  intro c hc
  rw [(isBlank_iff s).1 hs c hc]
  decide

@[simp] theorem squash_trimStart (s : Text) : squash (trimStart s) = squash s := by
  obtain ⟨a, ha, hs⟩ := exists_trimStart s
  conv => rhs; rw [← hs, squash_append, squash_of_isBlank ha, List.nil_append]

@[simp] theorem squash_trimEnd (s : Text) : squash (trimEnd s) = squash s := by
  obtain ⟨b, hb, hs⟩ := exists_trimEnd s
  conv => rhs; rw [← hs, squash_append, squash_of_isBlank hb, List.append_nil]

@[simp] theorem squash_trim (s : Text) : squash (trim s) = squash s := by
  rw [trim, squash_trimEnd, squash_trimStart]

theorem squash_joinWith {separator : Text} (h : isBlank separator = true) (parts : List Text) :
    squash (joinWith separator parts) = parts.flatMap squash := by
  induction parts with
  | nil => rfl
  | cons p parts ih =>
    by_cases hparts : parts = []
    · rw [hparts, joinWith, List.intercalate_singleton, List.flatMap_singleton]
    · rw [joinWith, List.intercalate_cons_of_ne_nil hparts, squash_append, squash_append,
        squash_of_isBlank h, List.append_nil, List.flatMap_cons, ← ih, joinWith]

end Text

open Text (squash)

theorem Document.squash_text (d : Document) : squash d.text = d.flatMap squash := by
  induction d with
  | nil => rfl
  | cons l d ih => rw [text, List.flatten_cons, Text.squash_append, List.flatMap_cons, ← ih, text]

namespace Footnote

/-! ## Inside and outside -/

/-- Whether what follows a line is inside a footnote, if the line itself is inside one or not. -/
def insideAfter (inside : Bool) (l : Line) : Bool :=
  if inside then !endsBlock l else (opening? l).any fun first => !endsBlock first

/-- Whether a document ends inside a footnote. -/
def endsInside (d : Document) : Bool := d.foldl insideAfter false

/-- A line with `^[` for the opener, if it has one. -/
def respell (l : Line) : Line :=
  match opening? l with
  | none => l
  | some first => l.takeWhile isSpace ++ "^[".toList ++ first

/-- A document with `^[` for the openers that stand outside of footnotes, which are those that begin
one. -/
def respellOpeners : Bool → Document → Document
  | _, [] => []
  | inside, l :: d =>
    (if inside then l else respell l) :: respellOpeners (insideAfter inside l) d

theorem respellOpeners_append (inside : Bool) (a b : Document) :
    respellOpeners inside (a ++ b)
      = respellOpeners inside a ++ respellOpeners (a.foldl insideAfter inside) b := by
  induction a generalizing inside with
  | nil => rfl
  | cons l a ih => rw [List.cons_append, respellOpeners, ih, respellOpeners, List.cons_append,
      List.foldl_cons]

theorem foldl_insideAfter_lines {lines : Document} (h : ∀ m ∈ lines, endsBlock m = false) :
    lines.foldl insideAfter true = true := by
  induction lines with
  | nil => rfl
  | cons m lines ih =>
    obtain ⟨hm, hlines⟩ := List.forall_mem_cons.1 h
    rw [List.foldl_cons, insideAfter, if_pos rfl, hm]
    exact ih hlines

theorem respellOpeners_lines {lines : Document} (h : ∀ m ∈ lines, endsBlock m = false) :
    respellOpeners true lines = lines := by
  induction lines with
  | nil => rfl
  | cons m lines ih =>
    obtain ⟨hm, hlines⟩ := List.forall_mem_cons.1 h
    have hinside : insideAfter true m = true := by rw [insideAfter, if_pos rfl, hm]; rfl
    rw [respellOpeners, if_pos rfl, hinside, ih hlines]

theorem insideAfter_of_opening {l : Line} {first : Text} (h : opening? l = some first) :
    insideAfter false l = !endsBlock first := by
  rw [insideAfter, if_neg Bool.false_ne_true, h, Option.any_some]

theorem insideAfter_of_plain {l : Line} (h : opening? l = none) : insideAfter false l = false := by
  rw [insideAfter, if_neg Bool.false_ne_true, h, Option.any_none]

/-! ## One footnote -/

/-- The lines of a footnote end inside it exactly if it has no closing bracket. -/
theorem endsInside_of_source {front : Document} {b : Footnote} (h : Source front b) :
    endsInside front = !b.closed := by
  cases h with
  | line hl hfirst =>
    rw [endsInside, List.foldl_cons, insideAfter_of_opening hl, hfirst]
    rfl
  | @block l first body hl hfirst hlines hclosing =>
    rw [endsInside, List.foldl_append, List.foldl_cons, insideAfter_of_opening hl, hfirst,
      Bool.not_false, foldl_insideAfter_lines hlines, Body.closed]
    cases hlast : body.closing with
    | none => rfl
    | some c =>
      have hend : endsBlock c = true := hclosing c hlast
      rw [Option.toList_some, List.foldl_cons, insideAfter, if_pos rfl, hend]
      rfl

theorem squash_dropBracket {s : Text} (h : endsBlock s = true) :
    squash s = squash (dropBracket s) ++ [']'] := by
  obtain ⟨u, b, hb, hs⟩ := (endsBlock_iff s).1 h
  have hbracket : squash [']'] = [']'] := by decide
  rw [dropBracket_of_endsBlock hb hs, hs, List.append_cons, Text.squash_append, Text.squash_append,
    Text.squash_of_isBlank hb, hbracket, List.append_nil]

theorem squash_respell {l : Line} {first : Text} (h : opening? l = some first) :
    squash (respell l) = "^[".toList ++ squash first := by
  have hblank : Text.isBlank (l.takeWhile isSpace) = true := List.all_takeWhile
  have hopener : squash "^[".toList = "^[".toList := by decide
  rw [respell, h]
  dsimp only
  rw [Text.squash_append, Text.squash_append, Text.squash_of_isBlank hblank, hopener,
    List.nil_append]

theorem squash_render (b : Footnote) :
    squash (Document.text (render b)) = "^[".toList ++ squash b.content ++ [']'] := by
  have hopener : squash "^[".toList = "^[".toList := by decide
  have hbracket : squash "]\n".toList = [']'] := by decide
  rw [text_render, Text.squash_append, Text.squash_append, hopener, hbracket]

theorem squash_blockContent (first : Text) (body : Body) :
    squash (blockContent first body)
      = squash first ++ body.lines.flatMap squash
        ++ body.closing.toList.flatMap fun l => squash (dropBracket l) := by
  rw [blockContent, Text.squash_joinWith (by decide), List.flatMap_append, List.flatMap_cons,
    List.flatMap_map, List.flatMap_map, Text.squash_trimEnd]
  simp only [Text.squash_trimEnd]

/-- **The text of one footnote**, up to white space: that of the lines it was read from with its
opener written anew, and a bracket if there was none. -/
theorem squash_render_of_source {front : Document} {b : Footnote} (h : Source front b) :
    squash (Document.text (render b))
      = squash (Document.text (respellOpeners false front)) ++ if b.closed then [] else [']'] := by
  rw [squash_render, Document.squash_text]
  cases h with
  | @line l first hl hfirst =>
    have hopeners : respellOpeners false [l] = [respell l] := rfl
    rw [hopeners, List.flatMap_singleton, squash_respell hl, squash_dropBracket hfirst,
      Text.squash_trim, if_pos rfl, List.append_nil, List.append_assoc]
  | @block l first body hl hfirst hlines hclosing =>
    have hinside : insideAfter false l = true := by rw [insideAfter_of_opening hl, hfirst]; rfl
    have hopeners : respellOpeners false (l :: body.lines ++ body.closing.toList)
        = respell l :: (body.lines ++ body.closing.toList) := by
      rw [List.cons_append, respellOpeners, if_neg Bool.false_ne_true, hinside,
        respellOpeners_append, respellOpeners_lines hlines, foldl_insideAfter_lines hlines]
      cases body.closing <;> rfl
    rw [hopeners, List.flatMap_cons, List.flatMap_append, squash_respell hl, Text.squash_trim,
      squash_blockContent, Body.closed]
    cases hlast : body.closing with
    | none => simp
    | some c =>
      have hend : squash c = squash (dropBracket c) ++ [']'] :=
        squash_dropBracket (hclosing c hlast)
      simp [hend]

/-! ## What follows a footnote -/

/-- A footnote without closing bracket takes all that follows. -/
theorem rest_of_open {s r : Document} {b : Footnote} (h : read s = some (b, r))
    (hb : b.closed = false) : r = [] := by
  cases s with
  | nil => cases h
  | cons l d =>
    rw [read] at h
    split at h
    · cases h
    · split at h
      · obtain ⟨rfl, -⟩ := Prod.mk.inj (Option.some.inj h)
        cases hb
      · obtain ⟨rfl, rfl⟩ := Prod.mk.inj (Option.some.inj h)
        rw [Body.read_of_open hb]

/-- A footnote with a closing bracket is read in the same way whatever follows. -/
theorem read_append_of_closed {s r : Document} {b : Footnote} (h : read s = some (b, r))
    (hb : b.closed = true) (e : Document) : read (s ++ e) = some (b, r ++ e) := by
  cases s with
  | nil => cases h
  | cons l d =>
    rw [read] at h
    rw [List.cons_append, read]
    split at h
    · cases h
    · split at h
      · next hfirst =>
        obtain ⟨rfl, rfl⟩ := Prod.mk.inj (Option.some.inj h)
        rw [if_pos hfirst]
      · next hfirst =>
        obtain ⟨rfl, rfl⟩ := Prod.mk.inj (Option.some.inj h)
        rw [if_neg hfirst, Body.read_append_of_closed hb]
        rfl

theorem opening?_of_read {l : Line} {d : Document} (h : read (l :: d) = none) :
    opening? l = none := by
  cases hl : opening? l with
  | none => rfl
  | some first =>
    rw [read, hl] at h
    dsimp only at h
    split at h <;> cases h

/-- What ends outside of footnotes is converted by itself. -/
theorem convert_append {a : Document} (h : endsInside a = false) (e : Document) :
    convert (a ++ e) = convert a ++ convert e := by
  rw [convert, convert, convert]
  induction a using recogniser.scan_induction with
  | nil => rw [Recogniser.rewrite_nil, List.nil_append, List.nil_append]
  | plain l d hread ih =>
    have hl := opening?_of_read hread
    have hd : endsInside d = false := by
      rwa [endsInside, List.foldl_cons, insideAfter_of_plain hl] at h
    rw [recogniser.rewrite_cons_of_none render hread, List.cons_append,
      recogniser.rewrite_cons_of_none render (read_of_plain hl (d ++ e)), ih hd,
      List.cons_append]
  | block front b r hread ih =>
    have hinside := endsInside_of_source (source_of_read_append hread)
    cases hclosed : b.closed with
    | false =>
      rw [rest_of_open hread hclosed, List.append_nil, hinside, hclosed] at h
      cases h
    | true =>
      have hr : endsInside r = false := by
        rw [endsInside] at hinside
        rwa [endsInside, List.foldl_append, hinside, hclosed] at h
      rw [recogniser.rewrite_of_some render hread,
        recogniser.rewrite_of_some render (read_append_of_closed hread hclosed e), ih hr,
        List.append_assoc]

/-! ## The text of a document -/

theorem squash_convert (d : Document) :
    squash (Document.text (convert d))
      = squash (Document.text (respellOpeners false d))
        ++ if endsInside d then [']'] else [] := by
  rw [convert, Document.squash_text, Document.squash_text]
  induction d using recogniser.scan_induction with
  | nil =>
    rw [Recogniser.rewrite_nil]
    rfl
  | plain l d hread ih =>
    have hl := opening?_of_read hread
    have hopeners : respellOpeners false (l :: d) = l :: respellOpeners false d := by
      rw [respellOpeners, if_neg Bool.false_ne_true, insideAfter_of_plain hl, respell, hl]
    rw [recogniser.rewrite_cons_of_none render hread, hopeners, List.flatMap_cons, ih,
      List.flatMap_cons, endsInside, endsInside, List.foldl_cons, insideAfter_of_plain hl,
      List.append_assoc]
  | block front b r hread ih =>
    have hsource := source_of_read_append hread
    have hinside := endsInside_of_source hsource
    have hblock := squash_render_of_source hsource
    rw [Document.squash_text, Document.squash_text] at hblock
    rw [recogniser.rewrite_of_some render hread, List.flatMap_append, hblock]
    cases hclosed : b.closed with
    | false =>
      rw [rest_of_open hread hclosed, Recogniser.rewrite_nil, List.append_nil, hinside, hclosed]
      simp
    | true =>
      rw [hclosed] at hinside
      rw [endsInside] at hinside
      rw [respellOpeners_append, hinside, List.flatMap_append, ih, endsInside, endsInside,
        List.foldl_append, hinside]
      simp

/-- **Footnotes keep the text.**  Up to white space, a document with its footnotes inline has the
text it had, with `^[` for the openers of the footnotes and, if it ends inside a footnote, with one
bracket more at its end.  A line outside of footnotes is kept as it is, between what becomes of the
lines before it and of those behind it. -/
theorem text_kept (d : Document) :
    squash (Document.text (convert d))
        = squash (Document.text (respellOpeners false d)) ++ (if endsInside d then [']'] else [])
      ∧ ∀ a l e, d = a ++ l :: e → endsInside a = false → opening? l = none →
        convert d = convert a ++ l :: convert e := by
  refine ⟨squash_convert d, fun a l e hd ha hl => ?_⟩
  rw [hd, convert_append ha]
  exact congrArg (convert a ++ ·)
    (recogniser.rewrite_cons_of_none render (read_of_plain hl e))

/-- A footnote with brackets and a second opener in it, a line outside, and a footnote that is not
closed. -/
theorem text_kept_nested :
    squash (Document.text (convert (["a\n".toList, " .footnote[see [x] and\n".toList,
        "\t.footnote[b]] \n".toList] ++ "c\n".toList :: [".footnote[\n".toList, "d\n".toList])))
          = "a^[see[x]and.footnote[b]]c^[d]".toList
      ∧ convert (["a\n".toList, " .footnote[see [x] and\n".toList, "\t.footnote[b]] \n".toList]
          ++ "c\n".toList :: [".footnote[\n".toList, "d\n".toList])
        = convert ["a\n".toList, " .footnote[see [x] and\n".toList, "\t.footnote[b]] \n".toList]
          ++ "c\n".toList :: convert [".footnote[\n".toList, "d\n".toList] := by
  obtain ⟨htext, houtside⟩ := text_kept (["a\n".toList, " .footnote[see [x] and\n".toList,
    "\t.footnote[b]] \n".toList] ++ "c\n".toList :: [".footnote[\n".toList, "d\n".toList])
  exact ⟨htext.trans (by decide +kernel),
    houtside _ _ _ rfl (by decide +kernel) (by decide +kernel)⟩

end Footnote
end SlideDeck
