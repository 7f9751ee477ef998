import SlideDeck.Proofs.Code.SeparateCalls
import Mathlib.Data.List.Infix

/-!
# How calls begin

Whether a call is read depends on how it begins, up to its directory, and on little of what
follows.  The beginning has a fixed form, so it can be followed through a pass over the line: where
it stands behind the pass, it stood in front of it, unless it stands in a new spelling.

* `CallLead` is the beginning of a call; `PathCall.IsLead`, `ReadCall.IsLead` and
  `SourceCall.IsLead` are those of the three kinds.
* `PathCall.read_iff`, `ReadCall.readsFrom` and `SourceCall.readsFrom` — a call is read exactly
  where it begins and goes on: to a closing parenthesis, or to a quotation mark.
* `Recogniser.LeadOrigin` — how the beginning of a call comes to stand behind a pass;
  `Recogniser.Respells.leadOrigin` says that one of the two ways applies.
* `PathCall.suffix_arguments`, `ReadCall.front_of_render` and `SourceCall.front_of_render` — where
  the beginning of a call can stand in a new spelling.
-/

set_option autoImplicit false

namespace SlideDeck

open Text (isQuote)
open ProjectPath (callMarks)

/-! ## Quotation marks -/

namespace Text

/-- Where a text with a quotation mark stands in a text, given what stands in front of the first
quotation mark there. -/
theorem infix_quoted_cases {w v front rest : Text} {q q' : Char} (hw : w.any isQuote = false)
    (hfront : front.any isQuote = false) (hq : isQuote q = true) (hq' : isQuote q' = true)
    (h : w ++ q :: v <:+: front ++ q' :: rest) :
    (w <:+ front ∧ v <+: rest) ∨ w ++ q :: v <:+: rest := by
  obtain ⟨s, t, h⟩ := h
  have hsplit : (s ++ w) ++ q :: (v ++ t) = front ++ q' :: rest := by
    rw [← h]
    simp
  rcases List.append_eq_append_iff.1 hsplit with ⟨a, hfront', ha⟩ | ⟨a, hw', ha⟩
  · cases a with
    | nil =>
      obtain ⟨-, rfl⟩ := List.cons.inj ha
      rw [List.append_nil] at hfront'
      exact .inl ⟨⟨s, hfront'.symm⟩, List.prefix_append v t⟩
    | cons c a =>
      obtain ⟨rfl, -⟩ := List.cons.inj ha
      exact absurd (by rw [hfront']; simp) (not_mem_of_isQuote hq hfront)
  · cases a with
    | nil =>
      obtain ⟨-, rfl⟩ := List.cons.inj ha
      rw [List.append_nil] at hw'
      exact .inl ⟨⟨s, hw'⟩, List.prefix_append v t⟩
    | cons c a =>
      obtain ⟨rfl, rfl⟩ := List.cons.inj ha
      have hsuffix : q' :: a <:+ s ++ w := ⟨front, hw'.symm⟩
      rcases List.suffix_or_suffix_of_suffix hsuffix (List.suffix_append s w) with h' | h'
      · exact absurd (h'.subset (List.mem_cons_self ..)) (not_mem_of_isQuote hq' hw)
      · rcases List.suffix_cons_iff.1 h' with rfl | ⟨d, rfl⟩
        · exact absurd (List.mem_cons_self ..) (not_mem_of_isQuote hq' hw)
        · exact .inr ⟨d, t, by simp⟩

/-- A quoted path goes on: no quotation mark is next, but there is one. -/
structure GoesOn (s : Text) : Prop where
  head : s.head?.any isQuote = false
  quote : s.any isQuote = true

theorem goesOn_iff (s : Text) :
    GoesOn s ↔ ∃ path q rest, path ≠ [] ∧ path.any isQuote = false ∧ isQuote q = true
      ∧ s = path ++ q :: rest := by
  constructor
  · rintro ⟨hhead, hquote⟩
    have hsplit : s = s.takeWhile (fun c => !isQuote c) ++ s.dropWhile fun c => !isQuote c :=
      List.takeWhile_append_dropWhile.symm
    have hpath : (s.takeWhile fun c => !isQuote c).any isQuote = false :=
      any_eq_false_iff.2 fun c hc => by simpa using List.mem_takeWhile_imp hc
    cases hdrop : s.dropWhile fun c => !isQuote c with
    | nil =>
      rw [hdrop, List.append_nil] at hsplit
      rw [hsplit] at hquote
      exact absurd (hquote.symm.trans hpath) (by decide)
    | cons q rest =>
      have hhead' := List.head?_dropWhile_not (fun c => !isQuote c) s
      rw [hdrop] at hhead' hsplit
      have hq : isQuote q = true := by simpa using hhead'
      refine ⟨_, q, rest, fun hnil => ?_, hpath, hq, hsplit⟩
      rw [hnil] at hsplit
      rw [hsplit] at hhead
      exact absurd (hq.symm.trans hhead) (by decide)
  · rintro ⟨path, q, rest, hne, hpath, hq, rfl⟩
    obtain ⟨c, path, rfl⟩ := List.exists_cons_of_ne_nil hne
    exact ⟨any_eq_false_iff.1 hpath c (List.mem_cons_self ..), by simp [hq]⟩

end Text

namespace Recogniser

variable {β : Type} {rec : Recogniser Char β} {render : β → Text}

/-- Spellings with a quotation mark are replaced by such spellings. -/
def KeepsQuotes (rec : Recogniser Char β) (render : β → Text) : Prop :=
  ∀ front r b, rec.read (front ++ r) = some (b, r) →
    (render b).any isQuote = front.any isQuote

theorem Respells.head?_any_isQuote (h : rec.Respells render) (s : Text) :
    (rec.rewrite render s).head?.any isQuote = s.head?.any isQuote := by
  have hold : oldOpenings.any isQuote = false := by decide
  have hnew : ∀ o ∈ newOpenings, o.head?.any isQuote = false ∧ o ≠ [] := by decide
  cases s with
  | nil => rw [rewrite_nil]
  | cons a s =>
    cases hr : rec.read (a :: s) with
    | none => rw [rec.rewrite_cons_of_none render hr, List.head?_cons, List.head?_cons]
    | some p =>
      obtain ⟨old, hs, hspelling⟩ := h hr
      obtain ⟨c, hc, hhead⟩ := hspelling.opening
      obtain ⟨old, rfl⟩ := List.head?_eq_some_iff.1 hhead
      obtain ⟨o, ho, t, hrender⟩ := hspelling.newOpening
      obtain ⟨hquote, hne⟩ := hnew o ho
      obtain ⟨d, o, rfl⟩ := List.exists_cons_of_ne_nil hne
      rw [rec.rewrite_of_some render hr, hs, ← hrender]
      exact hquote.trans (Text.any_eq_false_iff.1 hold c hc).symm

/-- Where a path goes on behind a pass, it went on in front of it. -/
theorem Respells.goesOn_iff (h : rec.Respells render) (hquotes : rec.KeepsQuotes render)
    (z r : Text) : Text.GoesOn (z ++ rec.rewrite render r) ↔ Text.GoesOn (z ++ r) := by
  have hquote : (z ++ rec.rewrite render r).any isQuote = (z ++ r).any isQuote := by
    rw [List.any_append, List.any_append, rec.any_rewrite hquotes]
  have hhead : (z ++ rec.rewrite render r).head?.any isQuote = (z ++ r).head?.any isQuote := by
    cases z with
    | nil => exact h.head?_any_isQuote r
    | cons c z => rfl
  constructor
  · exact fun hgoes => ⟨hhead.symm.trans hgoes.head, hquote.symm.trans hgoes.quote⟩
  · exact fun hgoes => ⟨hhead.trans hgoes.head, hquote.trans hgoes.quote⟩

end Recogniser

theorem PathCall.keepsQuotes : recogniser.KeepsQuotes render := by
  intro front r b h
  obtain ⟨-, hfront⟩ := read_eq_some_iff.1 h
  obtain rfl := List.append_cancel_right hfront
  have hname : ("here::here(".toList).any isQuote = ("file.path(".toList).any isQuote := by decide
  unfold render text
  rw [List.any_append, List.any_append, List.any_append, List.any_append, hname]

theorem ReadCall.keepsQuotes : recogniser.KeepsQuotes render := by
  intro front r b h
  obtain ⟨hb, blank, -, hfront⟩ := read_eq_some_iff.1 h
  obtain rfl := List.append_cancel_right hfront
  have hold : (b.text blank).any isQuote = true :=
    List.any_eq_true.2 ⟨_, by simp [text, PathLiteral.text], hb.literal.opening⟩
  have hnew : (render b).any isQuote = true := by
    refine List.any_eq_true.2 ⟨'"', ?_, rfl⟩
    unfold render
    simp
  rw [hold, hnew]

theorem SourceCall.keepsQuotes : recogniser.KeepsQuotes render := by
  intro front r b h
  obtain ⟨hb, hfront⟩ := read_eq_some_iff.1 h
  obtain rfl := List.append_cancel_right hfront
  have hname : ("source(here::here(".toList).any isQuote = ("source(".toList).any isQuote := by
    decide
  unfold render text
  rw [List.any_append, List.any_append, List.any_append, hname]
  simp [isQuote]

/-! ## Beginnings of calls -/

/-- The beginning of a call: its name with the parenthesis, perhaps white space, a quotation mark,
and what follows that up to the end of the directory. -/
structure CallLead where
  front : Text
  opening : Char
  behind : Text

namespace CallLead

/-- The beginning of the call as it stands in code. -/
def text (l : CallLead) : Text := l.front ++ l.opening :: l.behind

/-- What the beginnings of all calls have in common. -/
structure IsSound (l : CallLead) : Prop where
  mark : ∃ mark ∈ callMarks, mark <+: l.front
  front : l.front.any isQuote = false
  opening : isQuote l.opening = true
  behind_ne : l.behind ≠ []
  not_mem_front : ')' ∉ l.front
  not_mem_behind : ')' ∉ l.behind
  front_avoids : avoidsSpellings l.front.tail = true
  behind_avoids : avoidsSpellings l.behind = true

namespace IsSound

variable {l : CallLead}

theorem front_ne (h : l.IsSound) : l.front ≠ [] := by
  obtain ⟨mark, hmark, hprefix⟩ := h.mark
  have hne : ∀ mark ∈ callMarks, mark ≠ [] := by decide
  intro hnil
  rw [hnil, List.prefix_nil] at hprefix
  exact hne mark hmark hprefix

theorem paren_mem (h : l.IsSound) : '(' ∈ l.front := by
  obtain ⟨mark, hmark, hprefix⟩ := h.mark
  have hmem : ∀ mark ∈ callMarks, '(' ∈ mark := by decide
  exact hprefix.subset (hmem mark hmark)

theorem not_mem_text (h : l.IsSound) : ')' ∉ l.text := by
  have hopening : ')' ≠ l.opening := by
    intro heq
    have hq := h.opening
    rw [← heq] at hq
    exact absurd hq (by decide)
  simp only [text, List.mem_append, List.mem_cons, not_or]
  exact ⟨h.not_mem_front, hopening, h.not_mem_behind⟩

theorem not_behind_paren (h : l.IsSound) : ¬ l.behind <+: [')'] := by
  obtain ⟨c, behind, hbehind⟩ := List.exists_cons_of_ne_nil h.behind_ne
  have hnot := h.not_mem_behind
  rw [hbehind] at hnot ⊢
  intro hparen
  obtain rfl := List.mem_singleton.1 (hparen.subset (List.mem_cons_self ..))
  exact hnot (List.mem_cons_self ..)

theorem not_infix_paren (h : l.IsSound) : ¬ l.text <:+: [')'] := fun hparen =>
  absurd (hparen.subset (List.mem_append_left _ h.paren_mem)) (by decide)

theorem avoids (h : l.IsSound) : avoidsSpellings l.text.tail = true := by
  have hopening : ∀ o ∈ newOpenings, l.opening ∉ o := by
    have hplain : ∀ o ∈ newOpenings, o.any isQuote = false := by decide
    exact fun o ho => Text.not_mem_of_isQuote h.opening (hplain o ho)
  obtain ⟨c, front, hfront⟩ := List.exists_cons_of_ne_nil h.front_ne
  have htail : l.text.tail = l.front.tail ++ l.opening :: l.behind := by
    rw [text, hfront]
    rfl
  rw [htail]
  exact avoidsSpellings_append_cons h.front_avoids hopening h.behind_avoids

end IsSound
end CallLead

theorem avoidsSpellings_of_isBlank {s : Text} (hs : Text.isBlank s = true) :
    avoidsSpellings s = true := by
  have hplain : ∀ o ∈ newOpenings, o.any Unicode.isSpace = false := by decide
  induction s with
  | nil => rfl
  | cons c s ih =>
    rw [Text.isBlank, List.all_cons, Bool.and_eq_true] at hs
    refine avoidsSpellings_append_cons (m := []) rfl (fun o ho hmem => ?_) (ih hs.2)
    rw [Text.any_eq_false_iff.1 (hplain o ho) c hmem] at hs
    exact absurd hs.1 (by decide)

namespace PathCall

/-- A `file.path` call begins, up to the comma behind its directory. -/
structure IsLead (l : CallLead) : Prop where
  front : l.front = "file.path(".toList
  opening : isQuote l.opening = true
  behind : ∃ root ∈ dataRoots, ∃ q, isQuote q = true ∧ l.behind = root ++ [q, ',']

theorem IsLead.sound {l : CallLead} (h : IsLead l) : l.IsSound := by
  obtain ⟨root, hroot, q, hq, hbehind⟩ := h.behind
  have hfront : ("file.path(".toList).any isQuote = false ∧ ')' ∉ "file.path(".toList
      ∧ avoidsSpellings ("file.path(".toList).tail = true := by decide
  have hplain : ')' ∉ l.behind ∧ avoidsSpellings l.behind = true := by
    have hdouble : ∀ root ∈ dataRoots, ')' ∉ root ++ ['"', ',']
        ∧ avoidsSpellings (root ++ ['"', ',']) = true := by decide
    have hsingle : ∀ root ∈ dataRoots, ')' ∉ root ++ ['\'', ',']
        ∧ avoidsSpellings (root ++ ['\'', ',']) = true := by decide
    rw [hbehind]
    rcases (Text.isQuote_iff q).1 hq with rfl | rfl
    · exact hdouble root hroot
    · exact hsingle root hroot
  constructor
  · exact ⟨"file.path(".toList, by decide, by rw [h.front]⟩
  · rw [h.front]
    exact hfront.1
  · exact h.opening
  · simp [hbehind]
  · rw [h.front]
    exact hfront.2.1
  · exact hplain.1
  · rw [h.front]
    exact hfront.2.2
  · exact hplain.2

/-- Whether a `file.path` call begins here, complete or not. -/
def opens (s : Text) : Bool := (Text.after? "file.path(".toList s).any hasRoot

theorem opens_iff (s : Text) : opens s = true ↔ ∃ l t, IsLead l ∧ s = l.text ++ t := by
  rw [opens, Option.any_eq_true]
  constructor
  · rintro ⟨arguments, hafter, hroot⟩
    rw [Text.after?_eq_some_iff] at hafter
    obtain ⟨q, root, q', more, hq, hmem, hq', rfl⟩ := (hasRoot_iff _).1 hroot
    refine ⟨⟨"file.path(".toList, q, root ++ [q', ',']⟩, more,
      ⟨rfl, hq, root, hmem, q', hq', rfl⟩, ?_⟩
    rw [hafter]
    simp [CallLead.text]
  · rintro ⟨⟨_, q, behind⟩, t, ⟨rfl, hq, root, hroot, q', hq', rfl⟩, rfl⟩
    refine ⟨q :: (root ++ q' :: ',' :: t), ?_, ?_⟩
    · rw [Text.after?_eq_some_iff]
      simp [CallLead.text]
    · exact (hasRoot_iff _).2 ⟨q, root, q', t, hq, hroot, hq', rfl⟩

/-- **A `file.path` call is read exactly where it begins, if a parenthesis closes behind that.** -/
theorem read_iff (s : Text) :
    (∃ p, read s = some p) ↔ ∃ l t, IsLead l ∧ s = l.text ++ t ∧ ')' ∈ t := by
  constructor
  · rintro ⟨⟨b, rest⟩, h⟩
    obtain ⟨hb, rfl⟩ := read_eq_some_iff.1 h
    obtain ⟨q, root, q', more, hq, hmem, hq', harguments⟩ := (hasRoot_iff _).1 hb.root
    refine ⟨⟨"file.path(".toList, q, root ++ [q', ',']⟩, more ++ ')' :: rest,
      ⟨rfl, hq, root, hmem, q', hq', rfl⟩, ?_, by simp⟩
    unfold text
    rw [harguments]
    simp [CallLead.text]
  · rintro ⟨l, t, hl, rfl, hclose⟩
    obtain ⟨more, rest, rfl, hmore⟩ := List.eq_append_cons_of_mem hclose
    have hnot := hl.sound.not_mem_text
    obtain ⟨front, q, behind⟩ := l
    obtain ⟨rfl, hq, root, hroot, q', hq', rfl⟩ := hl
    refine ⟨(⟨q :: (root ++ q' :: ',' :: more)⟩, rest), read_eq_some_iff.2 ⟨⟨?_, ?_⟩, ?_⟩⟩
    · exact (hasRoot_iff _).2 ⟨q, root, q', more, hq, hroot, hq', rfl⟩
    · have hsplit : q :: (root ++ q' :: ',' :: more) = q :: (root ++ [q', ',']) ++ more := by simp
      rw [hsplit, List.mem_append, not_or]
      exact ⟨fun hmem => hnot (List.mem_append_right _ hmem), hmore⟩
    · unfold text
      simp [CallLead.text]

end PathCall

/-- The calls of a kind are read exactly where one begins and its path goes on. -/
def Recogniser.ReadsFrom {β : Type} (rec : Recogniser Char β) (IsLead : CallLead → Prop) : Prop :=
  ∀ s, (∃ p, rec.read s = some p) ↔ ∃ l t, IsLead l ∧ s = l.text ++ t ∧ Text.GoesOn t

namespace ReadCall

/-- A call that reads a table begins, up to the slash behind its directory. -/
structure IsLead (l : CallLead) : Prop where
  front : ∃ f ∈ functions, ∃ blank, Text.isBlank blank = true ∧ l.front = f ++ '(' :: blank
  opening : isQuote l.opening = true
  behind : ∃ root ∈ dataRoots, l.behind = root ++ ['/']

theorem IsLead.sound {l : CallLead} (h : IsLead l) : l.IsSound := by
  obtain ⟨f, hf, blank, hblank, hfront⟩ := h.front
  obtain ⟨root, hroot, hbehind⟩ := h.behind
  have hspace := (Text.isBlank_iff blank).1 hblank
  have hfunctions : ∀ f ∈ functions, f.any isQuote = false ∧ ')' ∉ f ∧ f ≠ []
      ∧ avoidsSpellings f.tail = true := by decide
  have hroots : ∀ root ∈ dataRoots, root ++ ['/'] ≠ [] ∧ ')' ∉ root ++ ['/']
      ∧ avoidsSpellings (root ++ ['/']) = true := by decide
  obtain ⟨hquote, hclose, hne, havoid⟩ := hfunctions f hf
  constructor
  · refine ⟨f ++ ['('], marks_subset _ (List.mem_map_of_mem hf), blank, ?_⟩
    rw [hfront, List.append_assoc]
    rfl
  · have hblank' : blank.any isQuote = false := Text.any_eq_false_iff.2 fun c hc => by
      by_contra hq
      rw [Bool.not_eq_false] at hq
      exact absurd ((hspace c hc).symm.trans (Text.isSpace_of_isQuote hq)) (by decide)
    rw [hfront, List.any_append, List.any_cons, hquote, hblank']
    rfl
  · exact h.opening
  · rw [hbehind]
    exact (hroots root hroot).1
  · rw [hfront, List.mem_append, List.mem_cons, not_or, not_or]
    exact ⟨hclose, by decide, fun hmem => absurd (hspace _ hmem) (by decide)⟩
  · rw [hbehind]
    exact (hroots root hroot).2.1
  · rw [hfront, List.tail_append_of_ne_nil hne]
    exact avoidsSpellings_append_cons havoid (by decide) (avoidsSpellings_of_isBlank hblank)
  · rw [hbehind]
    exact (hroots root hroot).2.2

/-- **A call that reads a table is read exactly where it begins, if its path goes on there.** -/
theorem readsFrom : recogniser.ReadsFrom IsLead := by
  intro s
  constructor
  · rintro ⟨⟨b, rest⟩, h⟩
    obtain ⟨hb, blank, hblank, rfl⟩ := read_eq_some_iff.1 h
    obtain ⟨hquote, hroot, hne, hpath, hclosing⟩ := hb.literal
    refine ⟨⟨b.function ++ '(' :: blank, b.literal.opening, b.literal.root ++ ['/']⟩,
      b.literal.path ++ b.literal.closing :: rest,
      ⟨⟨_, hb.function, blank, hblank, rfl⟩, hquote, _, hroot, rfl⟩, ?_,
      (Text.goesOn_iff _).2 ⟨_, _, rest, hne, hpath, hclosing, rfl⟩⟩
    simp [text, PathLiteral.text, CallLead.text]
  · rintro ⟨⟨_, q, _⟩, t, ⟨⟨f, hf, blank, hblank, rfl⟩, hq, root, hroot, rfl⟩, rfl, ht⟩
    obtain ⟨path, q', rest, hne, hpath, hq', rfl⟩ := (Text.goesOn_iff t).1 ht
    refine ⟨(⟨f, ⟨q, root, path, q'⟩⟩, rest), read_eq_some_iff.2
      ⟨⟨hf, ⟨hq, hroot, hne, hpath, hq'⟩⟩, blank, hblank, ?_⟩⟩
    simp [text, PathLiteral.text, CallLead.text]

end ReadCall

namespace SourceCall

/-- A call that runs a source file begins, up to the slash behind its directory. -/
structure IsLead (l : CallLead) : Prop where
  front : l.front = "source(".toList
  opening : isQuote l.opening = true
  behind : l.behind = "R/".toList

theorem IsLead.sound {l : CallLead} (h : IsLead l) : l.IsSound := by
  constructor
  · exact ⟨"source(".toList, by decide, by rw [h.front]⟩
  · rw [h.front]
    decide
  · exact h.opening
  · rw [h.behind]
    decide
  · rw [h.front]
    decide
  · rw [h.behind]
    decide
  · rw [h.front]
    decide
  · rw [h.behind]
    decide

/-- **A call that runs a source file is read exactly where it begins, if its path goes on
there.** -/
theorem readsFrom : recogniser.ReadsFrom IsLead := by
  intro s
  constructor
  · rintro ⟨⟨b, rest⟩, h⟩
    obtain ⟨⟨hquote, hroot, hne, hpath, hclosing⟩, rfl⟩ := read_eq_some_iff.1 h
    refine ⟨⟨"source(".toList, b.literal.opening, "R/".toList⟩,
      b.literal.path ++ b.literal.closing :: rest, ⟨rfl, hquote, rfl⟩, ?_,
      (Text.goesOn_iff _).2 ⟨_, _, rest, hne, hpath, hclosing, rfl⟩⟩
    unfold text PathLiteral.text
    rw [List.mem_singleton.1 hroot]
    simp [CallLead.text]
  · rintro ⟨⟨_, q, _⟩, t, ⟨rfl, hq, rfl⟩, rfl, ht⟩
    obtain ⟨path, q', rest, hne, hpath, hq', rfl⟩ := (Text.goesOn_iff t).1 ht
    refine ⟨(⟨⟨q, "R".toList, path, q'⟩⟩, rest), read_eq_some_iff.2
      ⟨⟨hq, List.mem_singleton_self _, hne, hpath, hq'⟩, ?_⟩⟩
    unfold text PathLiteral.text
    simp [CallLead.text]

end SourceCall

/-! ## Back through a pass -/

namespace Recogniser

variable {β : Type} {rec : Recogniser Char β} {render : β → Text}

/-- How the beginning of a call comes to stand behind a pass over `s`, in front of `x`. -/
inductive LeadOrigin (rec : Recogniser Char β) (render : β → Text) (lead s x : Text) : Prop where
  /-- It stood in the line before, and no call was read there. -/
  | passed (t : Text) (suffix : lead ++ t <:+ s) (unread : rec.read (lead ++ t) = none)
      (whole : rec.rewrite render (lead ++ t) = lead ++ x) (rest : rec.rewrite render t = x)
  /-- It stands in a new spelling. -/
  | written (old : Text) (b : β) (r z : Text) (suffix : old ++ r <:+ s)
      (read : rec.read (old ++ r) = some (b, r)) (ne : z ≠ []) (inside : lead ++ z <:+ render b)
      (rest : x = z ++ rec.rewrite render r)

/-- The beginning of a call goes back to the line in front of a pass, if the spellings of the pass
end with a parenthesis. -/
theorem Respells.leadOrigin (h : rec.Respells render) (hend : ∀ b, ∃ t, render b = t ++ [')'])
    {l : CallLead} (hl : l.IsSound) {s x : Text} (hx : l.text ++ x <:+ rec.rewrite render s) :
    rec.LeadOrigin render l.text s x := by
  obtain ⟨a, lead, hlead⟩ : ∃ a lead, l.text = a :: lead := by
    refine List.exists_cons_of_ne_nil ?_
    simp [CallLead.text]
  have havoid : avoidsSpellings lead = true := by
    have h' := hl.avoids
    rwa [hlead] at h'
  have hnot := hl.not_mem_text
  rw [hlead] at hnot hx ⊢
  refine rec.forall_suffix_rewrite
    (Q := fun u => ∀ x, u = a :: lead ++ x → rec.LeadOrigin render (a :: lead) s x)
    ?_ ?_ ?_ _ hx x rfl
  · intro x hnil
    exact absurd hnil.symm (List.cons_ne_nil a _)
  · intro c t hsuffix hread x hc
    obtain ⟨rfl, ht⟩ := List.cons.inj hc
    obtain ⟨t, rfl, rfl⟩ := h.exists_of_rewrite_eq_append havoid ht
    have hwhole := (rec.rewrite_cons_of_none render hread).trans (congrArg (c :: ·) ht)
    exact .passed t hsuffix hread hwhole rfl
  · intro old b r hsuffix hread z hne hz x hzx
    -- a new spelling is closed by a parenthesis, and the beginning of a call has none
    obtain ⟨y, hy⟩ := hend b
    have hsuffix' := hz
    rw [hy] at hsuffix'
    obtain ⟨z, rfl, -⟩ := (List.suffix_concat_iff.1 hsuffix').resolve_left hne
    have hprefix : a :: lead <+: z ++ ')' :: rec.rewrite render r := by
      refine ⟨x, ?_⟩
      rw [← hzx]
      simp
    obtain ⟨z, rfl⟩ := Text.prefix_of_prefix_append_cons hprefix hnot
    rw [List.append_assoc] at hz hzx
    rw [List.append_assoc] at hzx
    refine .written old b r (z ++ [')']) hsuffix hread (by simp) hz ?_
    rw [List.append_assoc]
    exact (List.append_cancel_left hzx).symm

end Recogniser

/-! ## In a new spelling -/

theorem PathCall.render_eq (b : PathCall) : ∃ t, render b = t ++ [')'] := ⟨_, rfl⟩

theorem ReadCall.render_eq (b : ReadCall) : ∃ t, render b = t ++ [')'] := by
  refine ⟨b.function ++ "(here::here(\"".toList ++ b.literal.root ++ "\", \"".toList
    ++ b.literal.path ++ ['"'], ?_⟩
  unfold render
  simp

theorem SourceCall.render_eq (b : SourceCall) : ∃ t, render b = t ++ [')'] := ⟨_, rfl⟩

/-- In the new spelling of a `file.path` call, calls begin among its arguments only. -/
theorem PathCall.suffix_arguments {l : CallLead} (hl : l.IsSound) {b : PathCall} {z : Text}
    (h : l.text ++ z <:+ render b) : l.text ++ z <:+ b.arguments ++ [')'] := by
  have hrender : render b = "here::here(".toList ++ (b.arguments ++ [')']) :=
    List.append_assoc _ _ _
  rw [hrender] at h
  rcases suffix_append_cases h with h | ⟨t, hne, hname, ht⟩
  · exact h
  · -- the call would begin within the name `here::here`
    obtain ⟨mark, hmark, hprefix⟩ := hl.mark
    have hmark' : mark <+: t ++ (b.arguments ++ [')']) := by
      rw [← ht, CallLead.text, List.append_assoc]
      exact hprefix.trans (List.prefix_append _ _)
    have hhere :=
      ProjectPath.eq_opening_of_mark_prefix (List.mem_cons_self ..) hne hname hmark hmark'
    rw [hhere] at hmark
    exact absurd hmark (by decide)

/-- In the new spelling of a call that reads a table, a call could begin with the directory only. -/
theorem ReadCall.front_of_render {l : CallLead} (hl : l.IsSound) {b : ReadCall} (hb : b.IsWritten)
    (h : l.text <:+: render b) :
    l.front <:+ b.function ++ "(here::here(".toList
      ∧ ∃ rest, l.behind <+: b.literal.root ++ '"' :: rest := by
  have hplain : (∀ f ∈ functions, (f ++ "(here::here(".toList).any isQuote = false)
      ∧ ∀ root ∈ dataRoots, root.any isQuote = false ∧ '(' ∉ root := by decide
  have hfront := hplain.1 _ hb.function
  obtain ⟨hroot, hparen⟩ := hplain.2 _ hb.literal.root
  have hsplit : render b = b.function ++ "(here::here(".toList ++ '"' :: (b.literal.root
      ++ '"' :: (", ".toList ++ '"' :: (b.literal.path ++ '"' :: [')']))) := by
    unfold render
    simp
  have hq : isQuote '"' = true := rfl
  rw [hsplit, CallLead.text] at h
  rcases Text.infix_quoted_cases hl.front hfront hl.opening hq h with ⟨h₁, h₂⟩ | h
  · exact ⟨h₁, _, h₂⟩
  · exfalso
    rcases Text.infix_quoted_cases hl.front hroot hl.opening hq h with ⟨h₁, -⟩ | h
    · exact hparen (h₁.subset hl.paren_mem)
    rcases Text.infix_quoted_cases hl.front (by decide) hl.opening hq h with ⟨h₁, -⟩ | h
    · exact absurd (h₁.subset hl.paren_mem) (by decide)
    rcases Text.infix_quoted_cases hl.front hb.literal.path hl.opening hq h with ⟨-, h₂⟩ | h
    · exact hl.not_behind_paren h₂
    · exact hl.not_infix_paren h

/-- In the new spelling of a call that runs a source file, a call could begin with the directory
only. -/
theorem SourceCall.front_of_render {l : CallLead} (hl : l.IsSound) {b : SourceCall}
    (hb : b.literal.IsWritten ["R".toList]) (h : l.text <:+: render b) :
    l.front <:+ "source(here::here(".toList ∧ ∃ rest, l.behind <+: 'R' :: '/' :: rest := by
  have hroot : ('R' :: '/' :: b.literal.path).any isQuote = false := hb.path
  have hsplit : render b = "source(here::here(".toList
      ++ b.literal.opening :: (('R' :: '/' :: b.literal.path) ++ b.literal.closing :: [')']) := by
    unfold render PathLiteral.text
    rw [List.mem_singleton.1 hb.root]
    simp
  rw [hsplit, CallLead.text] at h
  rcases Text.infix_quoted_cases hl.front (by decide) hl.opening hb.opening h with ⟨h₁, h₂⟩ | h
  · exact ⟨h₁, _, h₂⟩
  · exfalso
    rcases Text.infix_quoted_cases hl.front hroot hl.opening hb.closing h with ⟨-, h₂⟩ | h
    · exact hl.not_behind_paren h₂
    · exact hl.not_infix_paren h

end SlideDeck
