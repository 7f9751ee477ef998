import SlideDeck.Proofs.Code.Respelling
import SlideDeck.Proofs.Pipeline.Written
import SlideDeck.Proofs.Slide.LeadingBlock

/-!
# The front of a document and its body

Once the metadata block is reduced and the separators are out, the stages that follow find at the
start of the document delimiters and a title line, and behind these the body.  No rule starts a
block at such a line or looks across a delimiter, so the front is treated line by line and the body
as if it stood alone behind the delimiter.

* `Line.Inert` — what makes a line stay for itself; `Stage.applyAfter_cons` is that step.
* `Stage.apply_delimiter` and `Stage.apply_title` — the lines of a front; a delimiter stays, a title
  line (`Line.IsTitle`) stays a title line or goes.
* `Pipeline.exists_lines_runStages` — a run on a front and a body.
-/

set_option autoImplicit false

namespace SlideDeck

/-- The stages that follow after the metadata block and the separators are dealt with. -/
def Stage.afterFront : List Stage :=
  [removePatterns, commentPatterns, pauses, compactLists, columns, imageChunks, setupChunks,
    codePaths, imageLinks, footnotes]

theorem Stage.ne_header_of_afterFront {stage : Stage} (h : stage ∈ afterFront) :
    stage ≠ .header := by
  rintro rfl
  exact absurd h (by decide)

/-- What a stage makes of the lines after `previous`.  It is the pauses alone that look back. -/
def Stage.applyAfter (config : Config) (previous : Line) (d : Document) : Stage → Document
  | pauses => Reveal.convertPausesAfter previous d
  | stage => stage.apply config d

theorem Stage.applyAfter_nil (config : Config) (d : Document) (stage : Stage) :
    stage.applyAfter config [] d = stage.apply config d := by
  cases stage <;> rfl

theorem Stage.forall_mem_applyAfter {config : Config} {P : Line → Prop} {stage : Stage}
    (h : stage.Writes config P) (previous : Line) {d : Document} (hd : ∀ l ∈ d, P l) :
    ∀ l ∈ stage.applyAfter config previous d, P l := by
  by_cases hstage : stage = .pauses
  · subst hstage
    exact Reveal.forall_mem_convertPausesAfter h previous hd
  · have happly : stage.applyAfter config previous d = stage.apply config d := by
      cases stage with
      | pauses => exact absurd rfl hstage
      | _ => rfl
    rw [happly]
    exact forall_mem_apply h hd

/-! ## Lines that stay for themselves -/

/-- A line at which nothing starts, and that is no neighbour to pauses and list items. -/
structure Line.Inert (l : Line) : Prop where
  pause : Reveal.isPause l = false
  item : l.isListItem = false
  left : Layout.isLeft l = false
  right : Layout.isRight l = false
  chunk : Text.startsWith l "```\x7br".toList = false
  call : SetupCode.startsOptionsCall l = false
  footnote : l.opensWith ".footnote[".toList = false

theorem Reveal.convertPausesAfter_cons {l : Line} (h : isPause l = false) (previous : Line)
    (d : Document) : convertPausesAfter previous (l :: d) = l :: convertPausesAfter l d := by
  rw [convertPausesAfter, convertPause, if_neg (Bool.eq_false_iff.1 h), List.singleton_append]

theorem Reveal.compactLists_cons {l : Line} (h : l.isListItem = false) (d : Document) :
    compactLists (l :: d) = l :: compactLists d := by
  match d with
  | [] => rfl
  | [b] => rfl
  | b :: c :: d =>
    rw [compactLists, h, Bool.false_and, Bool.false_and, if_neg (by decide)]

theorem LineFilter.remove_cons (patterns : List Pattern) (l : Line) (d : Document) :
    remove patterns (l :: d) = remove patterns [l] ++ remove patterns d := by
  rw [remove, remove, remove, ← List.filter_append, List.singleton_append]

/-- Behind a line at which no call starts, setup code is removed as if the line were not there; the
line itself goes if it sets the crop hook. -/
theorem SetupCode.remove_cons {l : Line} (h : startsOptionsCall l = false) (d : Document) :
    remove (l :: d) = (if setsCropHook l then [] else [l]) ++ remove d := by
  cases hhook : setsCropHook l with
  | true =>
    have hread : recogniser.read (l :: d) = some (cropHook, d) := by
      show read (l :: d) = _
      rw [read, if_pos hhook]
    rw [remove, recogniser.rewrite_of_some _ hread]
    rfl
  | false =>
    rw [remove, recogniser.rewrite_cons_of_none _ (read_of_not_setup h hhook d)]
    rfl

theorem SetupCode.remove_singleton {l : Line} (h : startsOptionsCall l = false) :
    remove [l] = if setsCropHook l then [] else [l] := by
  rw [remove_cons h, remove, Recogniser.rewrite_nil, List.append_nil]

theorem Recogniser.rewrite_cons_of_forall_none {α β : Type} (rec : Recogniser α β)
    (render : β → List α) {a : α} (h : ∀ s, rec.read (a :: s) = none) (s : List α) :
    rec.rewrite render (a :: s) = rec.rewrite render [a] ++ rec.rewrite render s := by
  rw [rec.rewrite_cons_of_none render (h s), rec.rewrite_cons_of_none render (h []), rewrite_nil,
    List.singleton_append]

/-- **An inert line stays for itself**: it is treated as if it were the whole document, and so is
what follows it. -/
theorem Stage.applyAfter_cons {config : Config} {stage : Stage} (hstage : stage ∈ afterFront)
    {l : Line} (hl : l.Inert) (previous : Line) (d : Document) :
    stage.applyAfter config previous (l :: d)
      = stage.apply config [l] ++ stage.applyAfter config l d := by
  cases stage with
  | header => exact absurd hstage (by decide)
  | notes => exact absurd hstage (by decide)
  | stripSeparators => exact absurd hstage (by decide)
  | removePatterns => exact LineFilter.remove_cons _ l d
  | commentPatterns => rfl
  | pauses =>
    have hsingle : Stage.apply config [l] .pauses = [l] :=
      Reveal.convertPausesAfter_cons hl.pause _ _
    rw [hsingle]
    exact Reveal.convertPausesAfter_cons hl.pause previous d
  | compactLists => exact Reveal.compactLists_cons hl.item d
  | columns =>
    exact Layout.recogniser.rewrite_cons_of_forall_none _
      (Layout.read_of_not_opener hl.left hl.right) d
  | imageChunks =>
    exact Figure.recogniser.rewrite_cons_of_forall_none _ (Figure.read_of_not_chunk hl.chunk) d
  | setupChunks =>
    show SetupCode.remove (l :: d) = SetupCode.remove [l] ++ SetupCode.remove d
    rw [SetupCode.remove_cons hl.call, SetupCode.remove_singleton hl.call]
  | codePaths => rfl
  | imageLinks => rfl
  | footnotes =>
    exact Footnote.recogniser.rewrite_cons_of_forall_none _
      (Footnote.read_of_not_opening hl.footnote) d

/-- A front of inert lines is treated line by line. -/
theorem Stage.applyAfter_append {config : Config} {stage : Stage} (hstage : stage ∈ afterFront)
    {front : Document} (hfront : ∀ l ∈ front, l.Inert) (previous : Line) (d : Document) :
    stage.applyAfter config previous (front ++ d)
      = front.flatMap (fun l => stage.apply config [l])
        ++ stage.applyAfter config (front.getLastD previous) d := by
  induction front generalizing previous with
  | nil => rfl
  | cons l front ih =>
    obtain ⟨hl, hfront⟩ := List.forall_mem_cons.1 hfront
    rw [List.cons_append, applyAfter_cons hstage hl, ih hfront, List.flatMap_cons,
      List.append_assoc, List.getLastD_cons]

/-! ## Delimiters and titles -/

/-- How a title line begins, commented out or not. -/
def Line.titleOpenings : List Text := ["t".toList, "#".toList]

/-- A line of a front that is a title, perhaps commented out or respelled. -/
def Line.IsTitle (l : Line) : Prop := ∃ front ∈ titleOpenings, front <+: l

theorem Line.not_mem_of_trimsTo {l : Line} {mark : Text} (h : l.trimsTo mark = true) {c : Char}
    (hc : Unicode.isSpace c = false) (hmark : c ∉ mark) : c ∉ l := by
  rw [trimsTo_iff] at h
  rw [← h] at hmark
  exact fun hl => hmark ((Text.mem_trim_iff hc).2 hl)

theorem Line.inert_of_delimiter {l : Line} (h : l.trimsTo delimiter = true) : l.Inert := by
  have hbacktick : '`' ∉ l := not_mem_of_trimsTo h (by decide) (by decide)
  have hk : 'k' ∉ l := not_mem_of_trimsTo h (by decide) (by decide)
  rw [trimsTo_iff] at h
  constructor
  · rw [Reveal.isPause, trimsTo, h]
    decide
  · rw [isListItem, h]
    decide
  · rw [Layout.isLeft, trimsTo, trimsTo, h]
    decide
  · rw [Layout.isRight, trimsTo, trimsTo, h]
    decide
  · rw [Bool.eq_false_iff, Ne, Text.startsWith_iff]
    exact fun hstarts => hbacktick (hstarts.subset (by decide))
  · rw [SetupCode.startsOptionsCall]
    split
    · next r hr =>
      rw [Text.after?_eq_some_iff] at hr
      have hstart : Text.trimStart l <:+ l := List.dropWhile_suffix _
      rw [hr] at hstart
      exact absurd (hstart.subset (List.mem_append_left r (by decide))) hk
    · rfl
  · rw [opensWith, h]
    decide

namespace Line.IsTitle

variable {l : Line}

theorem exists_opensWith (h : l.IsTitle) :
    ∃ front ∈ titleOpenings, l.opensWith front = true := by
  obtain ⟨front, hfront, r, rfl⟩ := h
  have hopenings : ∀ front ∈ titleOpenings, front ≠ [] ∧ front.head?.any Unicode.isSpace = false
      ∧ front.getLast?.any Unicode.isSpace = false := by decide
  obtain ⟨hne, hhead, hlast⟩ := hopenings front hfront
  exact ⟨front, hfront, opensWith_append hne hhead hlast r⟩

theorem trimsTo_eq_false (h : l.IsTitle) {mark : Text}
    (hmark : ∀ front ∈ titleOpenings, Text.startsWith mark front = false) :
    l.trimsTo mark = false := by
  obtain ⟨front, hfront, hopens⟩ := h.exists_opensWith
  exact Line.trimsTo_eq_false hopens (hmark front hfront)

theorem opensWith_eq_false (h : l.IsTitle) {mark : Text}
    (hmark : ∀ front ∈ titleOpenings,
      Text.startsWith front mark = false ∧ Text.startsWith mark front = false) :
    l.opensWith mark = false := by
  obtain ⟨front, hfront, hopens⟩ := h.exists_opensWith
  obtain ⟨hopening, hmark⟩ := hmark front hfront
  exact Line.opensWith_eq_false hopens hopening hmark

theorem isListItem (h : l.IsTitle) : l.isListItem = false := by
  obtain ⟨front, hfront, hopens⟩ := h.exists_opensWith
  simp only [titleOpenings, List.mem_cons, List.not_mem_nil, or_false] at hfront
  rcases hfront with rfl | rfl
  · exact Line.isListItem_eq_false hopens (by decide) (by decide) (by decide)
  · exact Line.isListItem_eq_false hopens (by decide) (by decide) (by decide)

theorem inert (h : l.IsTitle) : l.Inert where
  pause := h.trimsTo_eq_false (by decide)
  item := h.isListItem
  left := Bool.or_eq_false_iff.2 ⟨h.trimsTo_eq_false (by decide), h.trimsTo_eq_false (by decide)⟩
  right := Bool.or_eq_false_iff.2 ⟨h.trimsTo_eq_false (by decide), h.trimsTo_eq_false (by decide)⟩
  chunk := by
    obtain ⟨front, hfront, r, rfl⟩ := h
    simp only [titleOpenings, List.mem_cons, List.not_mem_nil, or_false] at hfront
    rcases hfront with rfl | rfl <;> rfl
  call := by
    obtain ⟨front, hfront, r, rfl⟩ := h
    simp only [titleOpenings, List.mem_cons, List.not_mem_nil, or_false] at hfront
    rcases hfront with rfl | rfl <;> rfl
  footnote := h.opensWith_eq_false (by decide)

theorem not_delimiter (h : l.IsTitle) : l.trimsTo delimiter = false :=
  h.trimsTo_eq_false (by decide)

theorem keepsMarks (h : l.IsTitle) {f : Line → Line} (hf : KeepsMarks f) : IsTitle (f l) := by
  have hhead : ∀ c r, c ∉ oldOpenings → [c] <+: f (c :: r) := by
    intro c r hc
    have hfirst : (f (c :: r)).head? = some c := hf.head?_eq hc rfl
    obtain ⟨u, hu⟩ := List.head?_eq_some_iff.1 hfirst
    exact ⟨u, hu.symm⟩
  obtain ⟨front, hfront, r, rfl⟩ := h
  refine ⟨front, hfront, ?_⟩
  simp only [titleOpenings, List.mem_cons, List.not_mem_nil, or_false] at hfront
  rcases hfront with rfl | rfl
  · exact hhead 't' r (by decide)
  · exact hhead '#' r (by decide)

end Line.IsTitle

theorem Metadata.isTitle_of_mem_titleLines {title : Option Text} {l : Line}
    (h : l ∈ titleLines title) : l.IsTitle := by
  cases title with
  | none => exact absurd h List.not_mem_nil
  | some t =>
    rw [titleLines] at h
    split at h
    · exact absurd h List.not_mem_nil
    · obtain rfl := List.mem_singleton.1 h
      exact ⟨"t".toList, by decide, "itle: ".toList ++ t ++ ['\n'], rfl⟩

/-! ## Stages on a single line of a front -/

/-- The patterns of a configuration leave delimiters alone. -/
def Config.SparesDelimiters (config : Config) : Prop :=
  ∀ l : Line, l.trimsTo delimiter = true →
    Pattern.anyMatch config.removePatterns l = false
      ∧ Pattern.anyMatch config.commentPatterns l = false

namespace Stage

variable {config : Config} {stage : Stage}

/-- What a stage does to an inert line alone, if it does not rewrite lines and no setup code
is on it. -/
theorem apply_singleton_of_inert (hstage : stage ∈ [pauses, compactLists, columns, imageChunks,
    footnotes]) {l : Line} (hl : l.Inert) : stage.apply config [l] = [l] := by
  have hstay : ∀ {β : Type} (rec : Recogniser Line β) (render : β → Document),
      (∀ d, rec.read (l :: d) = none) → rec.rewrite render [l] = [l] :=
    fun rec render h => rec.rewrite_eq_self render (List.forall_mem_singleton.2 h)
  cases stage with
  | pauses => exact Reveal.convertPausesAfter_cons hl.pause [] []
  | compactLists => rfl
  | columns =>
    exact hstay Layout.recogniser _ (Layout.read_of_not_opener hl.left hl.right)
  | imageChunks => exact hstay Figure.recogniser _ (Figure.read_of_not_chunk hl.chunk)
  | footnotes => exact hstay Footnote.recogniser _ (Footnote.read_of_not_opening hl.footnote)
  | _ => exact absurd hstage (by decide)

/-- A delimiter stays. -/
theorem apply_delimiter (hconfig : config.SparesDelimiters) (hstage : stage ∈ afterFront) {l : Line}
    (hl : l.trimsTo delimiter = true) : stage.apply config [l] = [l] := by
  have hinert := Line.inert_of_delimiter hl
  have hparen : '(' ∉ l := Line.not_mem_of_trimsTo hl (by decide) (by decide)
  cases stage with
  | removePatterns =>
    rw [apply, LineFilter.remove, List.filter_cons, (hconfig l hl).1]
    rfl
  | commentPatterns =>
    rw [apply, LineFilter.comment, List.map_singleton, LineFilter.commentLine, (hconfig l hl).2]
    rfl
  | setupChunks =>
    have hhook : SetupCode.setsCropHook l = false := by
      rw [Bool.eq_false_iff, Ne, SetupCode.setsCropHook, Text.contains_iff]
      exact fun hpart => hparen (hpart.subset (by decide))
    rw [apply, SetupCode.remove_singleton hinert.call, hhook]
    rfl
  | codePaths =>
    exact congrArg (fun k => [k]) (ProjectPath.rewriteLine_keepsMarks.eq_self_of_not_mem hparen)
  | imageLinks =>
    exact congrArg (fun k => [k]) (ProjectPath.fixLine_keepsMarks.eq_self_of_not_mem hparen)
  | pauses | compactLists | columns | imageChunks | footnotes =>
    exact apply_singleton_of_inert (by decide) hinert
  | header | notes | stripSeparators => exact absurd hstage (by decide)

/-- A title line stays a title line, or goes. -/
theorem apply_title (hstage : stage ∈ afterFront) {l : Line} (hl : l.IsTitle) :
    (stage.apply config [l]).length ≤ 1 ∧ ∀ k ∈ stage.apply config [l], k.IsTitle := by
  cases stage with
  | removePatterns =>
    refine ⟨List.length_filter_le _ _, fun k hk => ?_⟩
    obtain rfl := List.mem_singleton.1 (List.mem_filter.1 hk).1
    exact hl
  | commentPatterns =>
    refine ⟨Nat.le_refl 1, List.forall_mem_singleton.2 ?_⟩
    rw [LineFilter.commentLine]
    split
    · exact ⟨"#".toList, by decide, ' ' :: l, rfl⟩
    · exact hl
  | setupChunks =>
    rw [apply, SetupCode.remove_singleton hl.inert.call]
    split
    · exact ⟨Nat.zero_le 1, List.forall_mem_nil _⟩
    · exact ⟨Nat.le_refl 1, List.forall_mem_singleton.2 hl⟩
  | codePaths =>
    exact ⟨Nat.le_refl 1,
      List.forall_mem_singleton.2 (hl.keepsMarks ProjectPath.rewriteLine_keepsMarks)⟩
  | imageLinks =>
    exact ⟨Nat.le_refl 1,
      List.forall_mem_singleton.2 (hl.keepsMarks ProjectPath.fixLine_keepsMarks)⟩
  | pauses | compactLists | columns | imageChunks | footnotes =>
    rw [apply_singleton_of_inert (by decide) hl.inert]
    exact ⟨Nat.le_refl 1, List.forall_mem_singleton.2 hl⟩
  | header | notes | stripSeparators => exact absurd hstage (by decide)

theorem length_flatMap_title_le (hstage : stage ∈ afterFront) {title : Document}
    (htitle : ∀ l ∈ title, l.IsTitle) :
    (title.flatMap fun l => stage.apply config [l]).length ≤ title.length := by
  induction title with
  | nil => exact Nat.le_refl 0
  | cons l title ih =>
    obtain ⟨hl, htitle⟩ := List.forall_mem_cons.1 htitle
    have hone : (stage.apply config [l]).length ≤ 1 := (apply_title hstage hl).1
    have hrest := ih htitle
    rw [List.flatMap_cons, List.length_append, List.length_cons]
    omega

/-- **A stage on a front and a body.**  Delimiters at the start stay, so does the one in front of
the body, title lines between them stay or go, and the body is what the stage makes of it behind
a delimiter. -/
theorem apply_front (hconfig : config.SparesDelimiters) (hstage : stage ∈ afterFront)
    {lead title : Document} {last : Line} (hlead : ∀ l ∈ lead, l.trimsTo delimiter = true)
    (htitle : ∀ l ∈ title, l.IsTitle) (hlast : last.trimsTo delimiter = true) (body : Document) :
    stage.apply config (lead ++ title ++ last :: body)
      = lead ++ title.flatMap (fun l => stage.apply config [l])
        ++ last :: stage.applyAfter config last body := by
  have hfront : ∀ l ∈ lead ++ title ++ [last], l.Inert := by
    refine List.forall_mem_append.2 ⟨List.forall_mem_append.2 ⟨?_, ?_⟩, ?_⟩
    · exact fun l hl => Line.inert_of_delimiter (hlead l hl)
    · exact fun l hl => (htitle l hl).inert
    · exact List.forall_mem_singleton.2 (Line.inert_of_delimiter hlast)
  have hstay : lead.flatMap (fun l => stage.apply config [l]) = lead := by
    rw [List.flatMap_congr fun l hl => apply_delimiter hconfig hstage (hlead l hl)]
    exact List.flatMap_singleton' lead
  have hbody : lead ++ title ++ last :: body = lead ++ title ++ [last] ++ body := by
    rw [List.append_assoc (lead ++ title), List.singleton_append]
  rw [← applyAfter_nil, hbody, applyAfter_append hstage hfront, List.flatMap_append,
    List.flatMap_append, hstay, List.flatMap_singleton, apply_delimiter hconfig hstage hlast,
    List.getLastD_concat, List.append_assoc, List.singleton_append]

end Stage

/-! ## A run on a front and a body -/

/-- What stages make of a body that stands behind a delimiter. -/
def Stage.runBody (config : Config) (last : Line) (stages : List Stage) (body : Document) :
    Document :=
  stages.foldl (fun body stage => stage.applyAfter config last body) body

theorem Stage.forall_mem_runBody {config : Config} {P : Line → Prop} {stages : List Stage}
    (h : ∀ stage ∈ stages, stage.Writes config P) (last : Line) {body : Document}
    (hbody : ∀ l ∈ body, P l) : ∀ l ∈ runBody config last stages body, P l := by
  induction stages generalizing body with
  | nil => exact hbody
  | cons stage stages ih =>
    obtain ⟨hstage, hstages⟩ := List.forall_mem_cons.1 h
    exact ih hstages (forall_mem_applyAfter hstage last hbody)

/-- **A run keeps the front.**  There are never more title lines than there were, and the body
does not depend on them. -/
theorem Pipeline.exists_lines_runStages {config : Config} (hconfig : config.SparesDelimiters)
    {stages : List Stage} (hstages : ∀ stage ∈ stages, stage ∈ Stage.afterFront)
    {lead title : Document} {last : Line} (hlead : ∀ l ∈ lead, l.trimsTo delimiter = true)
    (htitle : ∀ l ∈ title, l.IsTitle) (hlast : last.trimsTo delimiter = true) (body : Document) :
    ∃ title' : Document, title'.length ≤ title.length ∧ (∀ l ∈ title', l.IsTitle)
      ∧ (runStages config stages (lead ++ title ++ last :: body)).lines
        = lead ++ title' ++ last :: Stage.runBody config last stages body := by
  induction stages generalizing title body with
  | nil => exact ⟨title, Nat.le_refl _, htitle, rfl⟩
  | cons stage stages ih =>
    obtain ⟨hstage, hstages⟩ := List.forall_mem_cons.1 hstages
    have htitle' : ∀ l ∈ title.flatMap (fun l => stage.apply config [l]), l.IsTitle := by
      intro l hl
      obtain ⟨k, hk, hl⟩ := List.mem_flatMap.1 hl
      exact (Stage.apply_title hstage (htitle k hk)).2 l hl
    have hlength : (title.flatMap fun l => stage.apply config [l]).length ≤ title.length :=
      Stage.length_flatMap_title_le hstage htitle
    obtain ⟨title', hle, hall, hlines⟩ := ih hstages htitle' (stage.applyAfter config last body)
    refine ⟨title', hle.trans hlength, hall, ?_⟩
    rw [← Stage.apply_front hconfig hstage hlead htitle hlast body] at hlines
    exact hlines

end SlideDeck
