import SlideDeck.Code.ProjectPath
import SlideDeck.Proofs.Text.Trim
import SlideDeck.Proofs.Document.Rewriting
import SlideDeck.Proofs.Document.WellFormed
import SlideDeck.Proofs.Text.Segments

/-!
# What respelling the paths of a line leaves alone

Four rewrites run over a line: of `file.path` calls, of calls that read a table, of calls that run
a source file, and of image links.  A place that one of them writes anew and what it writes there
have much in common, and from that follows all that other rules may rely on: a respelled line has
the marks of the line it was.

* `Respelling` collects what an old and a new spelling share; each of the four rewrites writes
  nothing else (`PathCall.respells` and its three siblings).
* `KeepsMarks` is the consequence for the whole line, closed under composition;
  `ProjectPath.rewriteLine_keepsMarks` and `ProjectPath.fixLine_keepsMarks` are the two that run.
* `KeepsMarks.trimsTo_eq` and `KeepsMarks.opensWith_of` — no mark of a slide appears or vanishes.
-/

set_option autoImplicit false

namespace SlideDeck

open Unicode (isSpace)
open Text (isQuote trimStart trim)

/-! ## Old and new spellings -/

/-- The characters that a place to be respelled can begin with. -/
def oldOpenings : List Char := ['f', 'r', 's', '!']

/-- The first two characters that a new spelling can have. -/
def newOpenings : List Text := ["he".toList, "re".toList, "so".toList, "![".toList]

/-- What a place in a line and its new spelling have in common. -/
structure Respelling (old new : Text) : Prop where
  opening : ∃ c ∈ oldOpenings, old.head? = some c
  newOpening : ∃ o ∈ newOpenings, o <+: new
  paren_mem : '(' ∈ old
  paren_mem_new : '(' ∈ new
  getLast?_ne : old.getLast? ≠ some '\n'
  newline_not_mem : '\n' ∉ old → '\n' ∉ new

/-- A rewrite whose blocks are all respellings. -/
def Recogniser.Respells {β : Type} (rec : Recogniser Char β) (render : β → Text) : Prop :=
  ∀ {s r : Text} {b : β}, rec.read s = some (b, r) →
    ∃ old, s = old ++ r ∧ Respelling old (render b)

/-! ## The four rewrites -/

theorem Text.ne_newline_of_isQuote {c : Char} (h : isQuote c = true) : c ≠ '\n' := by
  rintro rfl
  exact absurd h (by decide)

theorem PathLiteral.isQuote_closing {roots : List Text} {s rest : Text} {b : PathLiteral}
    (h : PathLiteral.read roots s = some (b, rest)) : isQuote b.closing = true := by
  cases s with
  | nil => simp [read] at h
  | cons q s =>
    simp only [read] at h
    split at h
    · simp only [Option.bind_eq_bind, Option.bind_eq_some_iff] at h
      obtain ⟨p, hp, s₂, hs₂, h⟩ := h
      split at h
      · next c path q' rest' hpath hrest =>
        obtain ⟨rfl, rfl⟩ := Prod.mk.inj (Option.some.inj h)
        have hhead := List.head?_dropWhile_not (fun c => !isQuote c) s₂
        rw [hrest] at hhead
        simpa using hhead
      · simp at h
    · simp at h

theorem PathLiteral.getLast?_text_append (front : Text) (b : PathLiteral) :
    (front ++ b.text).getLast? = some b.closing := by
  rw [text, ← List.append_assoc, List.getLast?_concat]

theorem PathCall.read_eq_some {s rest : Text} {b : PathCall} (h : read s = some (b, rest)) :
    s = "file.path(".toList ++ b.arguments ++ [')'] ++ rest := by
  simp only [read, Option.bind_eq_bind, Option.bind_eq_some_iff] at h
  obtain ⟨r₁, h₁, r₂, h₂, h₃⟩ := h
  split at h₃
  · obtain ⟨rfl, rfl⟩ := Prod.mk.inj (Option.some.inj h₃)
    rw [Text.after?_eq_some_iff] at h₁ h₂
    rw [h₁, List.append_assoc, List.append_assoc, ← h₂, List.takeWhile_append_dropWhile]
  · simp at h₃

theorem PathCall.respells : PathCall.recogniser.Respells PathCall.render := by
  intro s r b h
  refine ⟨"file.path(".toList ++ b.arguments ++ [')'], read_eq_some h, ?_⟩
  constructor
  · exact ⟨'f', by decide, rfl⟩
  · exact ⟨"he".toList, by decide, "re::here(".toList ++ b.arguments ++ [')'], rfl⟩
  · exact List.mem_append_left _ (List.mem_append_left _ (by decide))
  · exact List.mem_append_left _ (List.mem_append_left _ (by decide))
  · rw [List.getLast?_concat]
    decide
  · intro hn
    unfold render
    simp only [List.mem_append, not_or] at hn ⊢
    exact ⟨⟨by decide, hn.1.2⟩, by decide⟩

theorem ReadCall.isQuote_closing {s rest : Text} {b : ReadCall}
    (h : read s = some (b, rest)) : isQuote b.literal.closing = true := by
  simp only [read, Option.bind_eq_bind, Option.bind_eq_some_iff] at h
  obtain ⟨p, hp, r, hr, q, hq, h⟩ := h
  obtain ⟨rfl, rfl⟩ := Prod.mk.inj (Option.some.inj h)
  exact PathLiteral.isQuote_closing hq

/-- All functions that read a table begin alike. -/
theorem ReadCall.functions_eq {f : Text} (h : f ∈ functions) : ∃ t, f = "re".toList ++ t := by
  simp only [functions, List.mem_cons, List.not_mem_nil, or_false] at h
  rcases h with rfl | rfl | rfl
  · exact ⟨"ad_table".toList, rfl⟩
  · exact ⟨"ad_csv".toList, rfl⟩
  · exact ⟨"ad_delim".toList, rfl⟩

theorem ReadCall.respells : ReadCall.recogniser.Respells ReadCall.render := by
  intro s r b h
  obtain ⟨hf, blank, hs⟩ := read_eq_some h
  obtain ⟨f, hf⟩ := functions_eq hf
  refine ⟨b.function ++ '(' :: blank ++ b.literal.text, hs, ?_⟩
  constructor
  · exact ⟨'r', by decide, by rw [hf]; rfl⟩
  · refine ⟨"re".toList, by decide, ?_⟩
    rw [render, hf]
    simp only [List.append_assoc]
    exact List.prefix_append _ _
  · exact List.mem_append_left _ (List.mem_append_right _ (List.mem_cons_self ..))
  · simp only [render, List.append_assoc]
    exact List.mem_append_right _ (List.mem_append_left _ (by decide))
  · rw [PathLiteral.getLast?_text_append]
    exact fun h' => Text.ne_newline_of_isQuote (isQuote_closing h) (Option.some.inj h')
  · intro hn
    simp only [PathLiteral.text, List.mem_append, List.mem_cons, not_or] at hn
    simp only [render, List.mem_append, not_or]
    exact ⟨⟨⟨⟨⟨hn.1.1, by decide⟩, hn.2.1.1.2⟩, by decide⟩, hn.2.1.2.2⟩, by decide⟩

theorem SourceCall.isQuote_closing {s rest : Text} {b : SourceCall}
    (h : read s = some (b, rest)) : isQuote b.literal.closing = true := by
  simp only [read, Option.bind_eq_bind, Option.bind_eq_some_iff] at h
  obtain ⟨r, hr, q, hq, h⟩ := h
  obtain ⟨rfl, rfl⟩ := Prod.mk.inj (Option.some.inj h)
  exact PathLiteral.isQuote_closing hq

theorem SourceCall.respells : SourceCall.recogniser.Respells SourceCall.render := by
  intro s r b h
  refine ⟨"source(".toList ++ b.literal.text, read_eq_some h, ?_⟩
  constructor
  · exact ⟨'s', by decide, rfl⟩
  · exact ⟨"so".toList, by decide, "urce(here::here(".toList ++ b.literal.text ++ [')'], rfl⟩
  · exact List.mem_append_left _ (by decide)
  · exact List.mem_append_left _ (List.mem_append_left _ (by decide))
  · rw [PathLiteral.getLast?_text_append]
    exact fun h' => Text.ne_newline_of_isQuote (isQuote_closing h) (Option.some.inj h')
  · intro hn
    unfold render
    simp only [List.mem_append, not_or] at hn ⊢
    exact ⟨⟨by decide, hn.2⟩, by decide⟩

theorem ImageLink.read_eq_some {s rest : Text} {b : ImageLink} (h : read s = some (b, rest)) :
    b.root ∈ ["images/".toList, "data/".toList]
      ∧ s = "![".toList ++ b.alternative ++ "](".toList ++ b.root ++ rest := by
  simp only [read, Option.bind_eq_bind, Option.bind_eq_some_iff] at h
  obtain ⟨r₁, h₁, r₂, h₂, ⟨root, r₃⟩, h₃, h₄⟩ := h
  obtain ⟨rfl, rfl⟩ := Prod.mk.inj (Option.some.inj h₄)
  rw [Text.after?_eq_some_iff] at h₁ h₂
  obtain ⟨hroot, rfl⟩ := Text.oneOf?_eq_some h₃
  refine ⟨hroot, ?_⟩
  rw [h₁, List.append_assoc, List.append_assoc, List.append_assoc, ← h₂,
    List.takeWhile_append_dropWhile]

theorem ImageLink.respells : ImageLink.recogniser.Respells ImageLink.render := by
  intro s r b h
  obtain ⟨hroot, hs⟩ := read_eq_some h
  refine ⟨"![".toList ++ b.alternative ++ "](".toList ++ b.root, hs, ?_⟩
  constructor
  · exact ⟨'!', by decide, rfl⟩
  · exact ⟨"![".toList, by decide, b.alternative ++ "](../".toList ++ b.root, by
      simp only [render, List.append_assoc]⟩
  · exact List.mem_append_left _ (List.mem_append_right _ (by decide))
  · exact List.mem_append_left _ (List.mem_append_right _ (by decide))
  · simp only [List.mem_cons, List.not_mem_nil, or_false] at hroot
    rcases hroot with hroot | hroot <;> rw [hroot, List.getLast?_append_of_ne_nil] <;> decide
  · intro hn
    simp only [render, List.mem_append, not_or] at hn ⊢
    exact ⟨⟨⟨by decide, hn.1.1.2⟩, by decide⟩, hn.2⟩

/-! ## The whole line -/

/-- Whether a new spelling can neither begin inside a mark nor run beyond its end. -/
def avoidsSpellings : Text → Bool
  | [] => true
  | c :: m =>
    (newOpenings.all fun o => !o.isPrefixOf (c :: m) && !(c :: m).isPrefixOf o) && avoidsSpellings m

theorem avoidsSpellings_of_suffix {mark m : Text} (h : avoidsSpellings mark = true)
    (hm : m <:+ mark) : avoidsSpellings m = true := by
  induction mark with
  | nil => rwa [List.suffix_nil.1 hm]
  | cons c mark ih =>
    rcases List.suffix_cons_iff.1 hm with rfl | hm
    · exact h
    · rw [avoidsSpellings, Bool.and_eq_true] at h
      exact ih h.2 hm

/-- A character that is in no spelling keeps what stands on its two sides apart. -/
theorem avoidsSpellings_append_cons {m m' : Text} {c : Char} (hm : avoidsSpellings m = true)
    (hc : ∀ o ∈ newOpenings, c ∉ o) (hm' : avoidsSpellings m' = true) :
    avoidsSpellings (m ++ c :: m') = true := by
  have hapart : ∀ k : Text, ∀ o ∈ newOpenings, o.isPrefixOf k = false →
      (!o.isPrefixOf (k ++ c :: m') && !(k ++ c :: m').isPrefixOf o) = true := by
    intro k o ho hk
    rw [Bool.and_eq_true, Bool.not_eq_true', Bool.not_eq_true', Bool.eq_false_iff,
      Bool.eq_false_iff, Ne, Ne, List.isPrefixOf_iff_prefix, List.isPrefixOf_iff_prefix]
    constructor
    · intro h
      rw [List.isPrefixOf_iff_prefix.2 (Text.prefix_of_prefix_append_cons h (hc o ho))] at hk
      exact absurd hk (by decide)
    · exact fun h => hc o ho (h.subset (List.mem_append_right k (List.mem_cons_self ..)))
  induction m with
  | nil =>
    have hempty : ∀ o ∈ newOpenings, o.isPrefixOf [] = false := by decide
    rw [List.nil_append, avoidsSpellings, Bool.and_eq_true, List.all_eq_true]
    exact ⟨fun o ho => hapart [] o ho (hempty o ho), hm'⟩
  | cons a m ih =>
    rw [avoidsSpellings, Bool.and_eq_true, List.all_eq_true] at hm
    rw [List.cons_append, avoidsSpellings, Bool.and_eq_true, List.all_eq_true]
    refine ⟨fun o ho => hapart (a :: m) o ho ?_, ih hm.2⟩
    have ho' := hm.1 o ho
    rw [Bool.and_eq_true, Bool.not_eq_true'] at ho'
    exact ho'.1

/-- What a rewriting of the paths of a line leaves of the line. -/
structure KeepsMarks (f : Line → Line) : Prop where
  eq_self_of_not_mem : ∀ {l : Line}, '(' ∉ l → f l = l
  eq_self_of_not_mem_new : ∀ {l : Line}, '(' ∉ f l → f l = l
  trimStart_eq : ∀ l : Line, trimStart (f l) = f (trimStart l)
  isPrefix_of : ∀ {l : Line} {mark : Text}, avoidsSpellings mark = true → mark <+: f l → mark <+: l
  head?_eq : ∀ {l : Line} {c : Char}, c ∉ oldOpenings → l.head? = some c → (f l).head? = some c
  wellFormed : ∀ {l : Line}, l.WellFormed → (f l).WellFormed

theorem KeepsMarks.comp {f g : Line → Line} (hf : KeepsMarks f) (hg : KeepsMarks g) :
    KeepsMarks fun l => f (g l) where
  eq_self_of_not_mem hl := by rw [hg.eq_self_of_not_mem hl, hf.eq_self_of_not_mem hl]
  eq_self_of_not_mem_new hl := by
    have hfg := hf.eq_self_of_not_mem_new hl
    rw [hfg] at hl ⊢
    exact hg.eq_self_of_not_mem_new hl
  trimStart_eq l := by rw [hf.trimStart_eq, hg.trimStart_eq]
  isPrefix_of hm h := hg.isPrefix_of hm (hf.isPrefix_of hm h)
  head?_eq hc h := hf.head?_eq hc (hg.head?_eq hc h)
  wellFormed h := hf.wellFormed (hg.wellFormed h)

namespace Recogniser.Respells

variable {β : Type} {rec : Recogniser Char β} {render : β → Text}

theorem respelling_of_read (h : rec.Respells render) {old r : Text} {b : β}
    (hr : rec.read (old ++ r) = some (b, r)) : Respelling old (render b) := by
  obtain ⟨old', heq, hold⟩ := h hr
  rwa [List.append_cancel_right heq]

theorem eq_self (h : rec.Respells render) {s : Text} (hs : '(' ∉ s) :
    rec.rewrite render s = s := by
  induction s using rec.scan_induction with
  | nil => rw [rewrite_nil]
  | plain a s hr ih =>
    rw [rec.rewrite_cons_of_none render hr, ih fun hn => hs (List.mem_cons_of_mem a hn)]
  | block old b r hr ih =>
    exact absurd (List.mem_append_left r (h.respelling_of_read hr).paren_mem) hs

theorem eq_self_of_new (h : rec.Respells render) {s : Text} (hs : '(' ∉ rec.rewrite render s) :
    rec.rewrite render s = s := by
  induction s using rec.scan_induction with
  | nil => rw [rewrite_nil]
  | plain a s hr ih =>
    rw [rec.rewrite_cons_of_none render hr] at hs ⊢
    rw [ih fun hn => hs (List.mem_cons_of_mem a hn)]
  | block old b r hr ih =>
    rw [rec.rewrite_of_some render hr] at hs
    exact absurd (List.mem_append_left _ (h.respelling_of_read hr).paren_mem_new) hs

/-- Spellings, old and new, begin with no white space. -/
theorem trimStart_append_of_respelling {old new : Text} (h : Respelling old new) (r t : Text) :
    trimStart (old ++ r) = old ++ r ∧ trimStart (new ++ t) = new ++ t := by
  obtain ⟨c, hc, hold⟩ := h.opening
  obtain ⟨o, ho, u, rfl⟩ := h.newOpening
  obtain ⟨old', rfl⟩ := List.head?_eq_some_iff.1 hold
  constructor
  · simp only [oldOpenings, List.mem_cons, List.not_mem_nil, or_false] at hc
    rcases hc with rfl | rfl | rfl | rfl
    all_goals exact Text.trimStart_cons (by decide) _
  · simp only [newOpenings, List.mem_cons, List.not_mem_nil, or_false] at ho
    rcases ho with rfl | rfl | rfl | rfl
    all_goals exact Text.trimStart_cons (by decide) _

theorem trimStart_rewrite (h : rec.Respells render) (s : Text) :
    trimStart (rec.rewrite render s) = rec.rewrite render (trimStart s) := by
  induction s using rec.scan_induction with
  | nil => rw [rewrite_nil, show trimStart [] = [] from rfl, rewrite_nil]
  | plain a s hr ih =>
    rw [rec.rewrite_cons_of_none render hr]
    rcases Bool.eq_false_or_eq_true (isSpace a) with ha | ha
    · rw [Text.trimStart_cons_of_space ha, ih, Text.trimStart_cons_of_space ha]
    · rw [Text.trimStart_cons ha, Text.trimStart_cons ha, rec.rewrite_cons_of_none render hr]
  | block old b r hr ih =>
    obtain ⟨hold, hnew⟩ := trimStart_append_of_respelling (h.respelling_of_read hr) r
      (rec.rewrite render r)
    rw [hold, rec.rewrite_of_some render hr, hnew]

/-- A front of a respelled line into which no new spelling reaches was there before, and what
follows it is respelled by itself. -/
theorem exists_of_rewrite_eq_append (h : rec.Respells render) {s front t : Text}
    (hfront : avoidsSpellings front = true) (hs : rec.rewrite render s = front ++ t) :
    ∃ s', s = front ++ s' ∧ rec.rewrite render s' = t := by
  induction s using rec.scan_induction generalizing front with
  | nil =>
    rw [rewrite_nil] at hs
    obtain ⟨rfl, rfl⟩ := List.append_eq_nil_iff.1 hs.symm
    exact ⟨[], rfl, rewrite_nil rec render⟩
  | plain a s hr ih =>
    cases front with
    | nil => exact ⟨a :: s, rfl, hs⟩
    | cons c front =>
      rw [rec.rewrite_cons_of_none render hr] at hs
      obtain ⟨rfl, hrest⟩ := List.cons.inj hs
      rw [avoidsSpellings, Bool.and_eq_true] at hfront
      obtain ⟨s', rfl, ht⟩ := ih hfront.2 hrest
      exact ⟨s', rfl, ht⟩
  | block old b r hr ih =>
    cases front with
    | nil => exact ⟨old ++ r, rfl, hs⟩
    | cons c front =>
      -- what is left of the front and the new spelling would start at the same place
      obtain ⟨o, ho, hnew⟩ := (h.respelling_of_read hr).newOpening
      rw [rec.rewrite_of_some render hr] at hs
      rw [avoidsSpellings, Bool.and_eq_true, List.all_eq_true] at hfront
      have hapart := hfront.1 o ho
      rw [Bool.and_eq_true, Bool.not_eq_true', Bool.not_eq_true'] at hapart
      have hprefix : c :: front <+: render b ++ rec.rewrite render r := ⟨t, hs.symm⟩
      rcases List.prefix_or_prefix_of_prefix hprefix (hnew.trans (List.prefix_append _ _)) with
        h' | h'
      · rw [List.isPrefixOf_iff_prefix.2 h'] at hapart
        exact absurd hapart.2 (by decide)
      · rw [List.isPrefixOf_iff_prefix.2 h'] at hapart
        exact absurd hapart.1 (by decide)

theorem isPrefix_of_rewrite (h : rec.Respells render) {s mark : Text}
    (hm : avoidsSpellings mark = true) (hs : mark <+: rec.rewrite render s) : mark <+: s := by
  obtain ⟨t, ht⟩ := hs
  obtain ⟨s', rfl, -⟩ := h.exists_of_rewrite_eq_append hm ht.symm
  exact List.prefix_append mark s'

/-- A character that no place to be respelled begins with is passed by. -/
theorem read_cons_of_not_opening (h : rec.Respells render) {c : Char} (hc : c ∉ oldOpenings)
    (s : Text) : rec.read (c :: s) = none := by
  rw [Option.eq_none_iff_forall_ne_some]
  rintro ⟨b, r⟩ hr
  obtain ⟨old, heq, hold⟩ := h hr
  obtain ⟨d, hd, hhead⟩ := hold.opening
  obtain ⟨old', rfl⟩ := List.head?_eq_some_iff.1 hhead
  obtain ⟨rfl, -⟩ := List.cons.inj heq
  exact hc hd

theorem rewrite_append_of_not_opening (h : rec.Respells render) {front : Text}
    (hfront : ∀ c ∈ front, c ∉ oldOpenings) (s : Text) :
    rec.rewrite render (front ++ s) = front ++ rec.rewrite render s :=
  rec.rewrite_append render (fun c hc t => h.read_cons_of_not_opening (hfront c hc) t) s

theorem head?_rewrite (h : rec.Respells render) {s : Text} {c : Char} (hc : c ∉ oldOpenings)
    (hs : s.head? = some c) : (rec.rewrite render s).head? = some c := by
  obtain ⟨r, rfl⟩ := List.head?_eq_some_iff.1 hs
  rw [rec.rewrite_cons_of_none render (h.read_cons_of_not_opening hc r), List.head?_cons]

theorem wellFormed_rewrite (h : rec.Respells render) {l : Line} (hl : l.WellFormed) :
    Line.WellFormed (rec.rewrite render l) := by
  induction l using rec.scan_induction with
  | nil => rwa [rewrite_nil]
  | plain a s hr ih =>
    rw [rec.rewrite_cons_of_none render hr]
    by_cases ha : a = '\n'
    · rw [ha] at hl ⊢
      rw [hl.eq_nil_of_cons_newline, rewrite_nil]
      exact Line.wellFormed_append_newline List.not_mem_nil
    · obtain ⟨hn, hrest⟩ := Line.wellFormed_of_append (t := [a]) hl
        fun h' => ha (Option.some.inj h')
      exact Line.wellFormed_append hn (ih hrest)
  | block old b r hr ih =>
    have hold := h.respelling_of_read hr
    obtain ⟨hn, hrest⟩ := Line.wellFormed_of_append hl hold.getLast?_ne
    rw [rec.rewrite_of_some render hr]
    exact Line.wellFormed_append (hold.newline_not_mem hn) (ih hrest)

theorem keepsMarks (h : rec.Respells render) : KeepsMarks (rec.rewrite render) where
  eq_self_of_not_mem hl := h.eq_self hl
  eq_self_of_not_mem_new hl := h.eq_self_of_new hl
  trimStart_eq l := h.trimStart_rewrite l
  isPrefix_of hm hl := h.isPrefix_of_rewrite hm hl
  head?_eq hc hl := h.head?_rewrite hc hl
  wellFormed hl := h.wellFormed_rewrite hl

end Recogniser.Respells

namespace ProjectPath

theorem rewriteLine_keepsMarks : KeepsMarks rewriteLine :=
  SourceCall.respells.keepsMarks.comp
    (ReadCall.respells.keepsMarks.comp PathCall.respells.keepsMarks)

theorem fixLine_keepsMarks : KeepsMarks fixLine := ImageLink.respells.keepsMarks

end ProjectPath

/-! ## Marks of slides -/

namespace KeepsMarks

variable {f : Line → Line}

/-- A line is a mark before the rewriting exactly if it is one after. -/
theorem trimsTo_eq (hf : KeepsMarks f) {mark : Text} (hm : '(' ∉ mark) (l : Line) :
    (f l).trimsTo mark = l.trimsTo mark := by
  by_cases hl : '(' ∈ l
  · have hnot : ∀ k : Line, '(' ∈ k → k.trimsTo mark = false := by
      intro k hk
      rw [Bool.eq_false_iff, Ne, Line.trimsTo_iff]
      rintro rfl
      exact hm ((Text.mem_trim_iff (by decide)).2 hk)
    have hfl : '(' ∈ f l := by
      by_contra hn
      rw [hf.eq_self_of_not_mem_new hn] at hn
      exact hn hl
    rw [hnot l hl, hnot (f l) hfl]
  · rw [hf.eq_self_of_not_mem hl]

theorem opensWith_of (hf : KeepsMarks f) {mark : Text} (hm : avoidsSpellings mark = true)
    (hlast : mark.getLast?.any isSpace = false) {l : Line} (h : (f l).opensWith mark = true) :
    l.opensWith mark = true := by
  rw [Line.opensWith_iff _ hlast, hf.trimStart_eq] at h
  exact (Line.opensWith_iff l hlast).2 (hf.isPrefix_of hm h)

end KeepsMarks
end SlideDeck
