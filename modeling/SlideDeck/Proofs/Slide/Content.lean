import SlideDeck.Proofs.Document.Rewriting
import SlideDeck.Proofs.Pattern.Literal
import SlideDeck.Proofs.Slide.Sources
import SlideDeck.Code.LineFilter
import SlideDeck.Slide.Reveal
import SlideDeck.Slide.Separator

/-!
# The content of a deck

Some lines of a deck are there for what they do to the slides, the others are content.  The rules
on slides move, replace and drop lines of the first sort alone, whatever blocks there are: nested,
without a partner or without an end.

* `Line.isMarkup` tells the two sorts apart; `Document.content` are the lines of content in order.
* `Notes.content_convert`, `Layout.content_convert`, `Separator.content_strip`,
  `LineFilter.content_remove`, `Reveal.content_convertPauses` and `Reveal.content_compactLists` —
  one rule each, all saying that the content stays as it is.
-/

set_option autoImplicit false

namespace SlideDeck

/-! ## Markup and content -/

/-- What a line can be that is nothing but a mark, on slides and in the converted document. -/
def Line.marks : List Text :=
  [[], delimiter, "--".toList, ". . .".toList, "???".toList, "]".toList, ".pull-left[".toList,
    ".two-column-left[".toList, ".pull-right[".toList, ".two-column-right[".toList,
    "::: \x7b.notes\x7d".toList, ":::".toList, ":::: \x7b.columns\x7d".toList, "::::".toList,
    "::: \x7b.column width=\"50%\"\x7d".toList]

/-- Whether a line is a mark, up to white space at its ends. -/
def Line.isMark (l : Line) : Bool := marks.any fun m => l.trimsTo m

/-- Whether a line is no content: a mark, the classes of a slide, or a call of the package that
lines are dropped for. -/
def Line.isMarkup (l : Line) : Bool :=
  l.isMark || l.opensWith "class:".toList || Text.startsWith l "xaringanExtra::".toList

/-- The lines of a document that are content, in order. -/
def Document.content (d : Document) : Document := d.filter fun l => !l.isMarkup

namespace Line

theorem isMarkup_of_trimsTo {l : Line} {m : Text} (hm : m ∈ marks) (h : l.trimsTo m = true) :
    l.isMarkup = true := by
  have hl : l.isMark = true := List.any_eq_true.2 ⟨m, hm, h⟩
  rw [isMarkup, hl, Bool.true_or, Bool.true_or]

theorem isMarkup_of_isBlank {l : Line} (h : Text.isBlank l = true) : l.isMarkup = true :=
  isMarkup_of_trimsTo (m := []) (by decide) ((trimsTo_iff l []).2 ((Text.trim_eq_nil_iff l).2 h))

/-- No mark has a parenthesis. -/
theorem isMark_eq_false_of_paren {l : Line} (h : '(' ∈ l) : l.isMark = false := by
  rw [isMark, List.any_eq_false]
  intro m hm htrim
  have hparen : ∀ m ∈ marks, '(' ∉ m := by decide
  rw [trimsTo_iff] at htrim
  refine hparen m hm ?_
  rw [← htrim]
  exact (Text.mem_trim_iff (by decide)).2 h

end Line

namespace Document

@[simp] theorem content_nil : content [] = [] := rfl

@[simp] theorem content_append (d e : Document) : content (d ++ e) = content d ++ content e :=
  List.filter_append ..

theorem content_cons (l : Line) (d : Document) :
    content (l :: d) = if l.isMarkup then content d else l :: content d := by
  rw [content, List.filter_cons]
  cases l.isMarkup <;> rfl

theorem content_cons_of_isMarkup {l : Line} (h : l.isMarkup = true) (d : Document) :
    content (l :: d) = content d := by
  rw [content_cons, if_pos h]

theorem content_eq_nil {d : Document} (h : ∀ l ∈ d, l.isMarkup = true) : content d = [] := by
  refine List.filter_eq_nil_iff.2 fun l hl => ?_
  rw [h l hl]
  decide

/-- Dropping markup leaves the content. -/
theorem content_filter {p : Line → Bool} (h : ∀ l, p l = false → l.isMarkup = true)
    (d : Document) : content (d.filter p) = content d := by
  rw [content, List.filter_filter, content]
  refine List.filter_congr fun l _ => ?_
  cases hp : p l with
  | true => rw [Bool.and_true]
  | false => rw [h l hp]; rfl

theorem content_map {f : Line → Line} {d : Document}
    (h : ∀ l ∈ d, (f l).isMarkup = l.isMarkup) : content (d.map f) = (content d).map f := by
  rw [content, List.filter_map, content]
  refine congrArg (List.map f) (List.filter_congr fun l hl => ?_)
  rw [Function.comp_apply, h l hl]

end Document

/-! ## Blocks -/

open Document (content content_append content_cons_of_isMarkup content_eq_nil content_filter)

theorem Notes.content_convert (d : Document) : content (convert d) = content d := by
  refine recogniser.filter_rewrite (fun front r b h => ?_) d
  obtain ⟨marker, hmarker, hs⟩ := read_eq_some h
  have hfront : front = marker :: b.lines := List.append_cancel_right hs
  have hclose : content [":::\n".toList, "\n".toList] = [] := by decide
  have hrender : content (render b) = content b.lines := by
    rw [render, List.cons_append, content_cons_of_isMarkup (by decide), content_append, hclose,
      List.append_nil]
  have hsource : content front = content b.lines := by
    rw [hfront, content_cons_of_isMarkup (Line.isMarkup_of_trimsTo (by decide) hmarker)]
  exact hrender.trans hsource.symm

namespace Layout

theorem isMarkup_of_isLeft {l : Line} (h : isLeft l = true) : l.isMarkup = true := by
  rcases Bool.or_eq_true_iff.1 h with h | h
  · exact Line.isMarkup_of_trimsTo (by decide) h
  · exact Line.isMarkup_of_trimsTo (by decide) h

theorem isMarkup_of_isRight {l : Line} (h : isRight l = true) : l.isMarkup = true := by
  rcases Bool.or_eq_true_iff.1 h with h | h
  · exact Line.isMarkup_of_trimsTo (by decide) h
  · exact Line.isMarkup_of_trimsTo (by decide) h

theorem isMarkup_of_isClose {l : Line} (h : isClose l = true) : l.isMarkup = true :=
  Line.isMarkup_of_trimsTo (by decide) h

theorem isMarkup_of_isGap {l : Line} (h : isGap l = true) : l.isMarkup = true := by
  rcases Bool.or_eq_true_iff.1 h with h | h
  · rcases Bool.or_eq_true_iff.1 h with h | h
    · exact Line.isMarkup_of_trimsTo (by decide) h
    · exact Line.isMarkup_of_trimsTo (by decide) h
  · exact Line.isMarkup_of_isBlank h

theorem content_source {b : Body} (h : b.Delimited isClose) : content b.source = content b.lines := by
  have hclosing : content b.closing.toList = [] :=
    content_eq_nil fun c hc => isMarkup_of_isClose (h.isEnd_closing c (Option.mem_toList.1 hc))
  rw [Body.source, content_append, hclosing, List.append_nil]

theorem content_gap_append {gap : Document} (hgap : ∀ g ∈ gap, isGap g = true) (d : Document) :
    content (gap ++ d) = content d := by
  rw [content_append, content_eq_nil fun g hg => isMarkup_of_isGap (hgap g hg), List.nil_append]

theorem content_renderColumn (lines : Document) :
    content (renderColumn lines) = content lines := by
  have hclose : content ["\n".toList, ":::\n".toList, "\n".toList] = [] := by decide
  rw [renderColumn, List.cons_append, content_cons_of_isMarkup (by decide), content_append, hclose,
    List.append_nil]

/-- The scaffolding of a container is no content. -/
theorem content_container (left right : Document) :
    content (container left right) = content left ++ content right := by
  have hopen : content [":::: \x7b.columns\x7d\n".toList, "\n".toList] = [] := by decide
  have hclose : content ["::::\n".toList, "\n".toList] = [] := by decide
  rw [container, content_append, content_append, content_append, hopen, hclose,
    content_renderColumn, content_renderColumn, List.nil_append, List.append_nil]

/-- A layout is written with the content that it was read from. -/
theorem content_render_of_form {front : Document} {b : Layout} (h : Form front b) :
    content (render b) = content front := by
  cases h with
  | pair hl hleft hc hgap hr hright =>
    rw [content_cons_of_isMarkup (isMarkup_of_isLeft hl), content_append,
      content_cons_of_isMarkup (isMarkup_of_isClose hc), content_gap_append hgap,
      content_cons_of_isMarkup (isMarkup_of_isRight hr), content_source hright]
    exact content_container _ _
  | @loneLeft l c left gap hl hleft hc hgap =>
    have hgap := content_gap_append hgap []
    rw [List.append_nil] at hgap
    rw [content_cons_of_isMarkup (isMarkup_of_isLeft hl), content_append,
      content_cons_of_isMarkup (isMarkup_of_isClose hc), hgap]
    exact content_container left []
  | @openLeft l left hl hleft =>
    rw [content_cons_of_isMarkup (isMarkup_of_isLeft hl), render, content_container,
      Document.content_nil, List.append_nil]
  | loneRight hr hright =>
    rw [content_cons_of_isMarkup (isMarkup_of_isRight hr), content_source hright]
    exact content_container [] _

theorem content_convert (d : Document) : content (convert d) = content d :=
  recogniser.filter_rewrite (fun _ _ _ h => content_render_of_form (form_of_read_append h)) d

end Layout

/-! ## Single lines -/

theorem Separator.content_strip (d : Document) : content (strip d) = content d := by
  have hmarkup : ∀ l : Line, (!isSeparator l) = false → l.isMarkup = true := by
    intro l hl
    rw [Bool.not_eq_false', isSeparator, Bool.or_eq_true] at hl
    rcases hl with hl | hl
    · exact Line.isMarkup_of_trimsTo (by decide) hl
    · rw [Line.isMarkup, hl, Bool.or_true, Bool.true_or]
  rw [strip, content_append, content_filter hmarkup, ← content_append,
    List.take_append_drop]

theorem LineFilter.content_remove (d : Document) :
    content (remove Config.default.removePatterns d) = content d := by
  refine content_filter (fun l hl => ?_) d
  have hmatch : Config.defaultRemove.isMatch l = true := by
    simpa [Pattern.anyMatch, Config.default] using hl
  rw [Config.isMatch_defaultRemove] at hmatch
  rw [Line.isMarkup, hmatch, Bool.or_true]

namespace Reveal

theorem content_convertPause (previous l next : Line) :
    content (convertPause previous l next) = content [l] := by
  have hpause : content [pauseLine] = [] := by decide
  rw [convertPause]
  split
  · next hl =>
    have hcontent : content [l] = [] :=
      content_cons_of_isMarkup (Line.isMarkup_of_trimsTo (by decide) hl) []
    split
    · rw [hcontent]
      rfl
    · split
      · rw [hcontent, hpause]
      · rfl
  · rfl

theorem content_convertPausesAfter (previous : Line) (d : Document) :
    content (convertPausesAfter previous d) = content d := by
  induction d generalizing previous with
  | nil => rfl
  | cons l d ih =>
    rw [convertPausesAfter, content_append, content_convertPause, ih, ← content_append,
      List.singleton_append]

theorem content_convertPauses (d : Document) : content (convertPauses d) = content d :=
  content_convertPausesAfter [] d

theorem content_compactLists (d : Document) : content (compactLists d) = content d := by
  induction d using compactLists.induct with
  | case1 a b c d hloose ih =>
    have hb : Line.isMarkup b = true := by
      rw [Bool.and_eq_true, Bool.and_eq_true] at hloose
      exact Line.isMarkup_of_isBlank hloose.1.2
    rw [compactLists, if_pos hloose, Document.content_cons a, Document.content_cons a, ih,
      content_cons_of_isMarkup hb]
  | case2 a b c d hloose ih =>
    rw [compactLists, if_neg hloose, Document.content_cons a, Document.content_cons a, ih]
  | case3 d hshort =>
    rw [compactLists]
    exact hshort

end Reveal
end SlideDeck
