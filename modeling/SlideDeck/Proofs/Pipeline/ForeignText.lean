import SlideDeck.Proofs.Code.Respelling
import SlideDeck.Proofs.Pipeline.Written
import SlideDeck.Proofs.Slide.FootnoteLines

/-!
# Text that respelling and joining cannot bring about

A piece of code can stand anywhere in a line of the document, behind a comment sign for example, so
that it is gone is a statement about parts of lines and not about how they begin.  What is written
late must not complete such a part: neither a new spelling of a path, which keeps pieces of the old
one between fixed texts, nor a footnote that is joined from several lines.

* `Text.IsForeign` — a part that begins in none of the fixed texts that are written late and runs
  across none of the quotes, brackets and newlines around what is kept.
* `Recogniser.CompletesNo` — a block brings no such part about; each of the four rewrites of paths
  is of that kind (`PathCall.completesNo` and its three siblings).
* `Recogniser.CompletesNo.infix_of_rewrite` — the step from a block to a line, by induction along
  the scan.
* `Footnote.infix_of_mem_render` — the same for the lines of an inline footnote.
* `Stage.writes_of_isForeign` — the stages that respell and join.
-/

set_option autoImplicit false

namespace SlideDeck

open Text (isQuote)

/-! ## Foreign parts -/

/-- The fixed texts that are written around what is kept, in new spellings and in footnotes. -/
def framingTexts : List Text :=
  ReadCall.functions ++ ["here::here(".toList, "(here::here(\"".toList, ", \"".toList, ")".toList,
    "source(here::here(".toList, "![".toList, "(../".toList, "images/".toList, "data/".toList,
    "^[".toList, "\n".toList]

/-- A part of a line that has nothing in common with what is written late but what is kept there. -/
structure Text.IsForeign (part : Text) : Prop where
  opening : ∃ c, part.head? = some c ∧ ∀ t ∈ framingTexts, c ∉ t
  quote : part.any isQuote = false
  bracket : ']' ∉ part
  newline : '\n' ∉ part
  spelling : avoidsSpellings part = true

/-- Behind a fixed text, a foreign part is still to come. -/
theorem Text.IsForeign.behind {part x y : Text} (h : part.IsForeign) (hx : x ∈ framingTexts)
    (hpart : part <:+: x ++ y) : part <:+: y := by
  obtain ⟨c, hc, hfixed⟩ := h.opening
  exact Text.infix_of_infix_append hc (hfixed x hx) hpart

theorem Text.IsForeign.ne_nil {part : Text} (h : part.IsForeign) : part ≠ [] := by
  obtain ⟨c, hc, -⟩ := h.opening
  rintro rfl
  exact absurd hc (by simp)

theorem Text.IsForeign.beside_quote {part x y : Text} {q : Char} (h : part.IsForeign)
    (hq : isQuote q = true) (hpart : part <:+: x ++ q :: y) : part <:+: x ∨ part <:+: y := by
  refine Text.infix_or_infix_of_infix_append_cons hpart fun hmem => ?_
  exact List.any_eq_false.1 h.quote q hmem hq

/-- A part of a text that starts in what is written for a block was there before. -/
def Recogniser.CompletesNo {β : Type} (rec : Recogniser Char β) (render : β → Text)
    (part : Text) : Prop :=
  ∀ (s r : Text) (b : β), rec.read s = some (b, r) →
    ∃ old, s = old ++ r ∧ ∀ t, part <:+: render b ++ t → part <:+: old ++ t

/-! ## The four rewrites -/

variable {part : Text}

theorem PathCall.completesNo (h : part.IsForeign) :
    PathCall.recogniser.CompletesNo PathCall.render part := by
  intro s r b hread
  refine ⟨"file.path(".toList ++ b.arguments ++ [')'], read_eq_some hread, fun t hpart => ?_⟩
  unfold render at hpart
  rw [List.append_assoc, List.append_assoc] at hpart
  rw [List.append_assoc, List.append_assoc]
  exact (h.behind (by simp [framingTexts]) hpart).trans (List.suffix_append _ _).isInfix

theorem ReadCall.completesNo (h : part.IsForeign) :
    ReadCall.recogniser.CompletesNo ReadCall.render part := by
  intro s r b hread
  obtain ⟨hfunction, blank, hs⟩ := read_eq_some hread
  refine ⟨b.function ++ '(' :: blank ++ b.literal.text, hs, fun t hpart => ?_⟩
  have hshape : render b ++ t = b.function ++ ("(here::here(\"".toList ++ (b.literal.root
      ++ '"' :: (", \"".toList ++ (b.literal.path ++ '"' :: (")".toList ++ t))))) := by
    simp [render]
  have hroot : b.literal.root <:+: b.function ++ '(' :: blank ++ b.literal.text ++ t :=
    ⟨b.function ++ '(' :: blank ++ [b.literal.opening],
      '/' :: b.literal.path ++ b.literal.closing :: t, by simp [PathLiteral.text]⟩
  have hpath : b.literal.path <:+: b.function ++ '(' :: blank ++ b.literal.text ++ t :=
    ⟨b.function ++ '(' :: blank ++ b.literal.opening :: b.literal.root ++ ['/'],
      b.literal.closing :: t, by simp [PathLiteral.text]⟩
  -- from left to right, past each fixed text and each quote
  rw [hshape] at hpart
  have hbehind := h.behind (by simp [framingTexts])
    (h.behind (List.mem_append_left _ hfunction) hpart)
  rcases h.beside_quote rfl hbehind with hpart | hpart
  · exact hpart.trans hroot
  · rcases h.beside_quote rfl (h.behind (by simp [framingTexts]) hpart) with hpart | hpart
    · exact hpart.trans hpath
    · exact (h.behind (by simp [framingTexts]) hpart).trans (List.suffix_append _ t).isInfix

theorem SourceCall.completesNo (h : part.IsForeign) :
    SourceCall.recogniser.CompletesNo SourceCall.render part := by
  intro s r b hread
  refine ⟨"source(".toList ++ b.literal.text, read_eq_some hread, fun t hpart => ?_⟩
  have hshape : render b ++ t = "source(here::here(".toList ++ (b.literal.opening
      :: b.literal.root ++ '/' :: b.literal.path ++ b.literal.closing :: (")".toList ++ t)) := by
    unfold render
    simp [PathLiteral.text]
  have hliteral : b.literal.opening :: b.literal.root ++ '/' :: b.literal.path
      <:+: "source(".toList ++ b.literal.text ++ t :=
    ⟨"source(".toList, b.literal.closing :: t, by simp [PathLiteral.text]⟩
  rw [hshape] at hpart
  rcases h.beside_quote (isQuote_closing hread) (h.behind (by simp [framingTexts]) hpart)
    with hpart | hpart
  · exact hpart.trans hliteral
  · exact (h.behind (by simp [framingTexts]) hpart).trans (List.suffix_append _ t).isInfix

theorem ImageLink.completesNo (h : part.IsForeign) :
    ImageLink.recogniser.CompletesNo ImageLink.render part := by
  intro s r b hread
  obtain ⟨hroot, hs⟩ := read_eq_some hread
  refine ⟨"![".toList ++ b.alternative ++ "](".toList ++ b.root, hs, fun t hpart => ?_⟩
  have hshape : render b ++ t
      = "![".toList ++ (b.alternative ++ ']' :: ("(../".toList ++ (b.root ++ t))) := by
    simp [render]
  have halternative : b.alternative
      <:+: "![".toList ++ b.alternative ++ "](".toList ++ b.root ++ t :=
    ⟨"![".toList, "](".toList ++ b.root ++ t, by simp⟩
  rw [hshape] at hpart
  rcases Text.infix_or_infix_of_infix_append_cons (h.behind (by simp [framingTexts]) hpart)
    h.bracket with hpart | hpart
  · exact hpart.trans halternative
  · rw [List.append_assoc]
    exact (h.behind (by simp [framingTexts]) hpart).trans (List.suffix_append _ _).isInfix

/-! ## The whole line -/

namespace Recogniser

variable {β : Type} {rec : Recogniser Char β} {render : β → Text}

/-- A part that runs from a kept text into a rewritten one did so before. -/
theorem Respells.infix_of_append_rewrite (h : rec.Respells render)
    (hpart : avoidsSpellings part = true) {x s : Text} (hx : part <:+: x ++ rec.rewrite render s) :
    part <:+: x ++ s ∨ part <:+: rec.rewrite render s := by
  induction x with
  | nil => exact Or.inr hx
  | cons a x ih =>
    rcases List.infix_cons_iff.1 hx with hprefix | hx
    · left
      have hprefix : part <+: (a :: x) ++ rec.rewrite render s := hprefix
      rcases Text.prefix_append_cases hprefix with hfront | ⟨m, hrest, rfl⟩
      · exact (hfront.trans (List.prefix_append _ s)).isInfix
      · have hm := avoidsSpellings_of_suffix hpart (List.suffix_append (a :: x) m)
        exact ((List.prefix_append_right_inj _).2 (h.isPrefix_of_rewrite hm hrest)).isInfix
    · exact (ih hx).imp_left List.infix_cons

/-- **A line that is respelled** has no foreign part that it did not have before. -/
theorem CompletesNo.infix_of_rewrite (h : rec.CompletesNo render part)
    (hrespells : rec.Respells render) (hpart : avoidsSpellings part = true) {s : Text}
    (hs : part <:+: rec.rewrite render s) : part <:+: s := by
  induction s using rec.scan_induction with
  | nil => rwa [rewrite_nil] at hs
  | plain a s hread ih =>
    rw [rec.rewrite_cons_of_none render hread, ← List.singleton_append] at hs
    rcases hrespells.infix_of_append_rewrite hpart hs with hs | hs
    · exact hs
    · exact List.infix_cons (ih hs)
  | block old b r hread ih =>
    obtain ⟨old', heq, hold⟩ := h _ _ _ hread
    obtain rfl := List.append_cancel_right heq
    rw [rec.rewrite_of_some render hread] at hs
    rcases hrespells.infix_of_append_rewrite hpart (hold _ hs) with hs | hs
    · exact hs
    · exact (ih hs).trans (List.suffix_append old r).isInfix

end Recogniser

namespace ProjectPath

theorem infix_of_rewriteLine (h : part.IsForeign) {l : Line} (hl : part <:+: rewriteLine l) :
    part <:+: l := by
  have hsource := (SourceCall.completesNo h).infix_of_rewrite SourceCall.respells h.spelling hl
  have hread := (ReadCall.completesNo h).infix_of_rewrite ReadCall.respells h.spelling hsource
  exact (PathCall.completesNo h).infix_of_rewrite PathCall.respells h.spelling hread

theorem infix_of_fixLine (h : part.IsForeign) {l : Line} (hl : part <:+: fixLine l) :
    part <:+: l :=
  (ImageLink.completesNo h).infix_of_rewrite ImageLink.respells h.spelling hl

end ProjectPath

/-! ## Footnotes -/

theorem Text.infix_of_infix_trim {s : Text} (h : part <:+: trim s) : part <:+: s := by
  obtain ⟨a, b, -, -, hs⟩ := exists_trim s
  rw [hs]
  exact h.trans ⟨a, b, by rw [List.append_assoc]⟩

/-- A part of a joined text that is not empty and has no newline is a part of what was joined. -/
theorem Text.infix_of_infix_joinWith (hne : part ≠ []) (hpart : '\n' ∉ part) {parts : List Text}
    (h : part <:+: joinWith ['\n'] parts) : ∃ p ∈ parts, part <:+: p := by
  rw [joinWith] at h
  induction parts with
  | nil => exact absurd (List.infix_nil.1 h) hne
  | cons p parts ih =>
    by_cases hparts : parts = []
    · rw [hparts, List.intercalate_singleton] at h
      exact ⟨p, List.mem_cons_self .., h⟩
    · rw [List.intercalate_cons_of_ne_nil hparts, List.append_assoc, List.singleton_append] at h
      rcases infix_or_infix_of_infix_append_cons h hpart with h | h
      · exact ⟨p, List.mem_cons_self .., h⟩
      · obtain ⟨q, hq, h⟩ := ih h
        exact ⟨q, List.mem_cons_of_mem p hq, h⟩

theorem Footnote.infix_of_mem_parts {l : Line} {first : Text} {body : Body} (hfirst : first <:+ l)
    {p : Text} (hp : p ∈ parts first body) (hpart : part <:+: p) :
    ∃ m ∈ l :: body.lines ++ body.closing.toList, part <:+: m := by
  have hparts : parts first body = Text.trimEnd first :: (parts first body).tail := rfl
  rw [hparts] at hp
  rcases List.mem_cons.1 hp with rfl | hp
  · exact ⟨l, List.mem_append_left _ (List.mem_cons_self ..),
      (hpart.trans (Text.trimEnd_isPrefix first).isInfix).trans hfirst.isInfix⟩
  · obtain ⟨m, hm, hpm⟩ := exists_prefix_of_mem_parts hp
    refine ⟨m, ?_, hpart.trans hpm.isInfix⟩
    rcases hm with hm | hm
    · exact List.mem_append_left _ (List.mem_cons_of_mem l hm)
    · exact List.mem_append_right _ (Option.mem_toList.2 hm)

/-- **A line of an inline footnote** has no foreign part that no line of the block had. -/
theorem Footnote.infix_of_mem_render (h : part.IsForeign) {front : Document} {b : Footnote}
    (hsource : Source front b) {k : Line} (hk : k ∈ render b) (hpart : part <:+: k) :
    ∃ l ∈ front, part <:+: l := by
  have hline : k <:+: "^[".toList ++ (b.content ++ ']' :: ("\n".toList ++ [])) := by
    have hinfix : k <:+: Document.text (render b) := List.infix_of_mem_flatten hk
    rwa [text_render, List.append_assoc] at hinfix
  have hcontent : part <:+: b.content := by
    rcases Text.infix_or_infix_of_infix_append_cons
      (h.behind (by simp [framingTexts]) (hpart.trans hline)) h.bracket with hpart | hpart
    · exact hpart
    · exact absurd (List.infix_nil.1 (h.behind (by simp [framingTexts]) hpart)) h.ne_nil
  cases hsource with
  | @line l first hl hfirst =>
    exact ⟨l, List.mem_singleton_self l, ((Text.infix_of_infix_trim hcontent).trans
      (dropBracket_isPrefix first).isInfix).trans (suffix_of_opening hl).isInfix⟩
  | @block l first body hl hfirst hlines hclosing =>
    have hjoined : part <:+: Text.joinWith ['\n'] (parts first body) :=
      Text.infix_of_infix_trim hcontent
    obtain ⟨p, hp, hpart⟩ := Text.infix_of_infix_joinWith h.ne_nil h.newline hjoined
    exact infix_of_mem_parts (suffix_of_opening hl) hp hpart

/-! ## Stages -/

/-- The stages that run behind the removal of setup code: they respell paths and join footnotes. -/
def Stage.afterSetup : List Stage := [codePaths, imageLinks, footnotes]

/-- **No stage that respells or joins** brings a foreign part about. -/
theorem Stage.writes_of_isForeign {config : Config} (h : part.IsForeign) {stage : Stage}
    (hstage : stage ∈ afterSetup) : stage.Writes config fun l => ¬ part <:+: l := by
  simp only [afterSetup, List.mem_cons, List.not_mem_nil, or_false] at hstage
  rcases hstage with rfl | rfl | rfl
  · exact fun l hl => mt (ProjectPath.infix_of_rewriteLine h) hl
  · exact fun l hl => mt (ProjectPath.infix_of_fixLine h) hl
  · intro d r b hread hd k hk hpart
    obtain ⟨front, rfl, hsource⟩ := Footnote.source_of_read hread
    obtain ⟨l, hl, hmem⟩ := Footnote.infix_of_mem_render h hsource hk hpart
    exact hd l (List.mem_append_left r hl) hmem

end SlideDeck
