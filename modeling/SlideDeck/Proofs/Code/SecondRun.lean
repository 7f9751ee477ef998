import SlideDeck.Proofs.Code.CallLeads

/-!
# Respelling a respelled document

Each pass goes over a line once and does not read again what it has written, so a second run could
find calls that the first one left or completed.  Calls that read a table and calls that run a
source file are never among them.  A `file.path` call is, if it stands in the arguments of another
one, or if it was open at the end of its line until a pass closed a parenthesis behind it.

* `Recogniser.FindsNone` — a text in which nothing can be read; `Recogniser.findsNone_rewrite` says
  when a pass leaves such a text.
* `ProjectPath.rewriteLine_rewriteLine` — a second run is a pass over the `file.path` calls.
* `ProjectPath.nested` and `ProjectPath.leftOpen` are the two ways in which one can be left;
  `ProjectPath.nested_or_leftOpen` says that there is no other.
* `ProjectPath.rewriteCalls_again` — the whole document.
-/

set_option autoImplicit false

namespace SlideDeck

open Text (isQuote)

/-! ## Texts in which nothing is read -/

namespace Recogniser

variable {β γ : Type}

/-- Nothing can be read in a text, wherever one begins. -/
def FindsNone (rec : Recogniser Char β) (s : Text) : Prop := ∀ t, t <:+ s → rec.read t = none

theorem FindsNone.rewrite_eq_self {rec : Recogniser Char β} {s : Text} (h : rec.FindsNone s)
    (render : β → Text) : rec.rewrite render s = s :=
  rec.rewrite_eq_self_of_suffix render h

variable {rec : Recogniser Char β} {IsLead : CallLead → Prop} {pass : Recogniser Char γ}
  {render : γ → Text}

/-- Calls of a kind are not found behind a pass, if none was found in the places that the pass goes
past and none is in its new spellings. -/
theorem findsNone_rewrite (hreads : rec.ReadsFrom IsLead) (hsound : ∀ l, IsLead l → l.IsSound)
    (hpass : pass.Respells render) (hquotes : pass.KeepsQuotes render)
    (hend : ∀ b, ∃ t, render b = t ++ [')']) {s : Text}
    (hpassed : ∀ t, t <:+ s → pass.read t = none → rec.read t = none)
    (hwritten : ∀ old b r l z, old ++ r <:+ s → pass.read (old ++ r) = some (b, r) → IsLead l →
      l.text ++ z <:+ render b → ¬ Text.GoesOn (z ++ r)) :
    rec.FindsNone (pass.rewrite render s) := by
  intro u hu
  by_contra hne
  obtain ⟨l, x, hl, rfl, hx⟩ := (hreads u).1 (Option.ne_none_iff_exists'.1 hne)
  cases hpass.leadOrigin hend (hsound l hl) hu with
  | passed t hsuffix hunread hwhole hrest =>
    rw [← hrest] at hx
    have ht : Text.GoesOn t := (hpass.goesOn_iff hquotes [] t).1 hx
    obtain ⟨p, hp⟩ := (hreads (l.text ++ t)).2 ⟨l, t, hl, rfl, ht⟩
    rw [hpassed _ hsuffix hunread] at hp
    exact Option.some_ne_none p hp.symm
  | written old b r z hsuffix hread hz hinside hrest =>
    rw [hrest] at hx
    exact hwritten old b r l z hsuffix hread hl hinside ((hpass.goesOn_iff hquotes z r).1 hx)

/-- A pass over `file.path` calls brings up no call of another kind: what stands among the arguments
of a call stood there before. -/
theorem FindsNone.respell_path (hreads : rec.ReadsFrom IsLead) (hsound : ∀ l, IsLead l → l.IsSound)
    {s : Text} (h : rec.FindsNone s) : rec.FindsNone (PathCall.respell s) := by
  refine findsNone_rewrite hreads hsound PathCall.respells PathCall.keepsQuotes PathCall.render_eq
    (fun t ht _ => h t ht) ?_
  intro old b r l z hsuffix hread hl hinside hgoes
  obtain ⟨-, hold⟩ := PathCall.read_eq_some_iff.1 hread
  obtain rfl := List.append_cancel_right hold
  have harguments : l.text ++ z <:+ b.text :=
    (PathCall.suffix_arguments (hsound l hl) hinside).trans
      ⟨"file.path(".toList, (List.append_assoc _ _ _).symm⟩
  have hplace : l.text ++ (z ++ r) <:+ s := by
    rw [← List.append_assoc]
    exact ((List.suffix_append_inj_of_length_eq rfl).2 ⟨harguments, rfl⟩).trans hsuffix
  obtain ⟨p, hp⟩ := (hreads _).2 ⟨l, z ++ r, hl, rfl, hgoes⟩
  rw [h _ hplace] at hp
  exact Option.some_ne_none p hp.symm

end Recogniser

/-! ## The three passes -/

/-- No call that reads a table is left by the pass over such calls. -/
theorem ReadCall.findsNone_respell (s : Text) : recogniser.FindsNone (respell s) := by
  refine Recogniser.findsNone_rewrite readsFrom (fun l => IsLead.sound) respells keepsQuotes
    render_eq (fun t _ h => h) ?_
  intro old b r l z _ hread hl hinside _
  obtain ⟨hb, -⟩ := read_eq_some_iff.1 hread
  obtain ⟨root, hroot, hbehind⟩ := hl.behind
  obtain ⟨-, rest, hrest⟩ :=
    front_of_render hl.sound hb ((List.prefix_append _ z).isInfix.trans hinside.isInfix)
  have hplain : ∀ root ∈ dataRoots, '"' ∉ root ++ ['/'] ∧ '/' ∉ root := by decide
  rw [hbehind] at hrest
  have hslash := Text.prefix_of_prefix_append_cons hrest (hplain root hroot).1
  exact (hplain _ hb.literal.root).2 (hslash.subset (by simp))

/-- No call that runs a source file is left by the pass over such calls. -/
theorem SourceCall.findsNone_respell (s : Text) : recogniser.FindsNone (respell s) := by
  refine Recogniser.findsNone_rewrite readsFrom (fun l => IsLead.sound) respells keepsQuotes
    render_eq (fun t _ h => h) ?_
  intro old b r l z _ hread hl hinside _
  obtain ⟨hb, -⟩ := read_eq_some_iff.1 hread
  obtain ⟨hfront, -⟩ :=
    front_of_render hl.sound hb ((List.prefix_append _ z).isInfix.trans hinside.isInfix)
  rw [hl.front] at hfront
  exact absurd hfront (by decide)

/-- The pass over calls that run a source file brings up no call that reads a table. -/
theorem ReadCall.findsNone_respell_source {s : Text} (h : recogniser.FindsNone s) :
    recogniser.FindsNone (SourceCall.respell s) := by
  refine Recogniser.findsNone_rewrite readsFrom (fun l => IsLead.sound) SourceCall.respells
    SourceCall.keepsQuotes SourceCall.render_eq (fun t ht _ => h t ht) ?_
  intro old b r l z _ hread hl hinside _
  obtain ⟨hb, -⟩ := SourceCall.read_eq_some_iff.1 hread
  obtain ⟨root, hroot, hbehind⟩ := hl.behind
  obtain ⟨-, rest, hrest⟩ := SourceCall.front_of_render hl.sound hb
    ((List.prefix_append _ z).isInfix.trans hinside.isInfix)
  rw [hbehind] at hrest
  have hother : ∀ root ∈ dataRoots, root.head? ≠ some 'R' ∧ root ≠ [] := by decide
  obtain ⟨hhead, hne⟩ := hother root hroot
  obtain ⟨c, root, rfl⟩ := List.exists_cons_of_ne_nil hne
  obtain ⟨rfl, -⟩ := List.cons_prefix_cons.1 hrest
  exact hhead rfl

namespace ProjectPath

/-- **A second run is a pass over the `file.path` calls.** -/
theorem rewriteLine_rewriteLine (l : Line) :
    rewriteLine (rewriteLine l) = PathCall.respell (rewriteLine l) := by
  have hread : ReadCall.recogniser.FindsNone (rewriteLine l) :=
    ReadCall.findsNone_respell_source (ReadCall.findsNone_respell _)
  have hsource : SourceCall.recogniser.FindsNone (rewriteLine l) :=
    SourceCall.findsNone_respell _
  have hread' := hread.respell_path ReadCall.readsFrom fun l => ReadCall.IsLead.sound
  have hsource' := hsource.respell_path SourceCall.readsFrom fun l => SourceCall.IsLead.sound
  rw [rewriteLine_eq (rewriteLine l), ReadCall.respell, hread'.rewrite_eq_self,
    SourceCall.respell, hsource'.rewrite_eq_self]

end ProjectPath

/-! ## Calls that are left -/

/-- The pass over `file.path` calls changes a text exactly if it has such a call. -/
theorem PathCall.respell_eq_self_iff (s : Text) : respell s = s ↔ recogniser.FindsNone s := by
  constructor
  · intro h
    induction s using recogniser.scan_induction with
    | nil =>
      intro t ht
      rw [List.suffix_nil.1 ht]
      rfl
    | plain a s hr ih =>
      have hrest := ih (List.cons.inj ((recogniser.rewrite_cons_of_none render hr).symm.trans h)).2
      intro t ht
      rcases List.suffix_cons_iff.1 ht with rfl | ht
      · exact hr
      · exact hrest t ht
    | block old b r hr =>
      -- the new spelling begins with another character
      obtain ⟨-, hold⟩ := read_eq_some_iff.1 hr
      have hnew := (recogniser.rewrite_of_some render hr).symm.trans h
      rw [hold] at hnew
      exact absurd (List.cons.inj hnew).1 (by decide)
  · exact fun h => h.rewrite_eq_self render

namespace ProjectPath

/-- Whether a line has a `file.path` call with the beginning of another one among its arguments. -/
def nested (l : Line) : Bool :=
  l.tails.any fun t => (PathCall.read t).any fun p => p.1.arguments.tails.any PathCall.opens

/-- Whether a line has a `file.path` call that is open at the end of the line, and something that
is respelled behind its beginning. -/
def leftOpen (l : Line) : Bool :=
  l.tails.any fun t => PathCall.opens t && t.all (· != ')') && rewriteLine t != t

theorem nested_iff (l : Line) :
    nested l = true ↔ ∃ t b r, t <:+ l ∧ PathCall.read t = some (b, r)
      ∧ ∃ u, u <:+ b.arguments ∧ PathCall.opens u = true := by
  simp only [nested, List.any_eq_true, List.mem_tails, Option.any_eq_true, Prod.exists]
  constructor
  · rintro ⟨t, ht, b, r, hread, hopens⟩
    exact ⟨t, b, r, ht, hread, hopens⟩
  · rintro ⟨t, b, r, ht, hread, hopens⟩
    exact ⟨t, ht, b, r, hread, hopens⟩

theorem leftOpen_iff (l : Line) :
    leftOpen l = true ↔ ∃ t, t <:+ l ∧ PathCall.opens t = true ∧ ')' ∉ t ∧ rewriteLine t ≠ t := by
  simp only [leftOpen, List.any_eq_true, List.mem_tails, Bool.and_eq_true, List.all_eq_true,
    bne_iff_ne, and_assoc]
  have hforall : ∀ t : Text, (∀ c ∈ t, c ≠ ')') ↔ ')' ∉ t := fun t =>
    ⟨fun h hmem => h _ hmem rfl, fun h c hc heq => h (heq ▸ hc)⟩
  simp only [hforall]

variable {l : CallLead} {line x : Text}

/-- The pass over calls that read a table writes no beginning of a `file.path` call. -/
theorem exists_of_respell_read (hl : PathCall.IsLead l)
    (hx : l.text ++ x <:+ ReadCall.respell line) :
    ∃ t, l.text ++ t <:+ line ∧ ReadCall.respell (l.text ++ t) = l.text ++ x := by
  cases ReadCall.respells.leadOrigin ReadCall.render_eq hl.sound hx with
  | passed t hsuffix hunread hwhole hrest => exact ⟨t, hsuffix, hwhole⟩
  | written old b r z hsuffix hread hz hinside hrest =>
    obtain ⟨hb, -⟩ := ReadCall.read_eq_some_iff.1 hread
    obtain ⟨hfront, -⟩ := ReadCall.front_of_render hl.sound hb
      ((List.prefix_append _ z).isInfix.trans hinside.isInfix)
    have hother : ∀ f ∈ ReadCall.functions,
        ¬ "file.path(".toList <:+ f ++ "(here::here(".toList := by decide
    rw [hl.front] at hfront
    exact absurd hfront (hother _ hb.function)

/-- The pass over calls that run a source file writes no beginning of a `file.path` call. -/
theorem exists_of_respell_source (hl : PathCall.IsLead l)
    (hx : l.text ++ x <:+ SourceCall.respell line) :
    ∃ t, l.text ++ t <:+ line ∧ SourceCall.respell (l.text ++ t) = l.text ++ x := by
  cases SourceCall.respells.leadOrigin SourceCall.render_eq hl.sound hx with
  | passed t hsuffix hunread hwhole hrest => exact ⟨t, hsuffix, hwhole⟩
  | written old b r z hsuffix hread hz hinside hrest =>
    obtain ⟨hb, -⟩ := SourceCall.read_eq_some_iff.1 hread
    obtain ⟨hfront, -⟩ := SourceCall.front_of_render hl.sound hb
      ((List.prefix_append _ z).isInfix.trans hinside.isInfix)
    rw [hl.front] at hfront
    exact absurd hfront (by decide)

/-- **There is no other way to leave a call**: a complete `file.path` call in a respelled line stood
among the arguments of another one, or it was open at the end of the line. -/
theorem nested_or_leftOpen {p : PathCall × Text} {t : Text} (ht : t <:+ rewriteLine line)
    (hread : PathCall.read t = some p) : nested line = true ∨ leftOpen line = true := by
  obtain ⟨l, x, hl, rfl, hclose⟩ := (PathCall.read_iff t).1 ⟨p, hread⟩
  rw [rewriteLine_eq] at ht
  obtain ⟨x₁, h₁, hx₁⟩ := exists_of_respell_source hl ht
  obtain ⟨x₂, h₂, hx₂⟩ := exists_of_respell_read hl h₁
  cases PathCall.respells.leadOrigin PathCall.render_eq hl.sound h₂ with
  | passed t hsuffix hunread hwhole hrest =>
    right
    have hopen : ')' ∉ l.text ++ t := by
      rw [List.mem_append, not_or]
      refine ⟨hl.sound.not_mem_text, fun hmem => ?_⟩
      obtain ⟨p, hp⟩ := (PathCall.read_iff (l.text ++ t)).2 ⟨l, t, hl, rfl, hmem⟩
      exact Option.some_ne_none p (hp.symm.trans hunread)
    have hnew : rewriteLine (l.text ++ t) = l.text ++ x := by
      rw [rewriteLine_eq]
      exact (congrArg (fun s => SourceCall.respell (ReadCall.respell s)) hwhole).trans
        ((congrArg SourceCall.respell hx₂).trans hx₁)
    refine (leftOpen_iff line).2 ⟨_, hsuffix, (PathCall.opens_iff _).2 ⟨l, t, hl, rfl⟩, hopen, ?_⟩
    intro heq
    rw [← heq, hnew] at hopen
    exact hopen (List.mem_append_right _ hclose)
  | written old b r z hsuffix hread hz hinside hrest =>
    left
    have harguments := PathCall.suffix_arguments hl.sound hinside
    obtain ⟨y, hy, hsuffix'⟩ := (List.suffix_concat_iff.1 harguments).resolve_left (by
      simp [hz])
    have hprefix : l.text <+: y := by
      refine Text.prefix_of_prefix_append_cons (c := ')') (t := []) ?_ hl.sound.not_mem_text
      rw [← hy]
      exact List.prefix_append _ z
    obtain ⟨y, rfl⟩ := hprefix
    exact (nested_iff line).2 ⟨_, b, r, hsuffix, hread, _, hsuffix',
      (PathCall.opens_iff _).2 ⟨l, y, hl, rfl⟩⟩

/-! ## The whole document -/

/-- **What a second run over a document does.**  It is a pass over the `file.path` calls that the
first run has left, so it changes the document exactly if there is one.  There is none if no line
has such a call within another one, and none that is open at the end of its line where something
is respelled. -/
theorem rewriteCalls_again (d : Document) :
    rewriteCalls (rewriteCalls d) = (rewriteCalls d).map PathCall.respell
      ∧ (rewriteCalls (rewriteCalls d) = rewriteCalls d ↔
        ∀ l ∈ rewriteCalls d, ∀ t, t <:+ l → PathCall.read t = none)
      ∧ ((∀ l ∈ d, nested l = false ∧ leftOpen l = false) →
        rewriteCalls (rewriteCalls d) = rewriteCalls d) := by
  have hpass : rewriteCalls (rewriteCalls d) = (rewriteCalls d).map PathCall.respell := by
    simp only [rewriteCalls, List.map_map]
    exact List.map_congr_left fun l _ => rewriteLine_rewriteLine l
  have hsame : rewriteCalls (rewriteCalls d) = rewriteCalls d ↔
      ∀ l ∈ rewriteCalls d, ∀ t, t <:+ l → PathCall.read t = none := by
    have hlines := List.map_eq_map_iff (f := PathCall.respell) (g := id) (l := rewriteCalls d)
    rw [List.map_id] at hlines
    rw [hpass, hlines]
    exact forall₂_congr fun l _ => PathCall.respell_eq_self_iff l
  refine ⟨hpass, hsame, fun h => hsame.2 fun l hl t ht => ?_⟩
  obtain ⟨line, hline, rfl⟩ := List.mem_map.1 hl
  obtain ⟨hnested, hopen⟩ := h line hline
  rw [Option.eq_none_iff_forall_ne_some]
  intro p hp
  rcases nested_or_leftOpen ht hp with h' | h'
  · rw [hnested] at h'
    exact absurd h' (by decide)
  · rw [hopen] at h'
    exact absurd h' (by decide)

/-- Calls side by side, and one that goes on in the next line. -/
def callsBeside : Document :=
  ["x <- c(read_csv(\"data/a.csv\"), file.path('data', \"b\"))\n".toList,
    "y <- file.path(\"images\",\n".toList]

theorem rewriteCalls_again_beside :
    (∀ l ∈ callsBeside, nested l = false ∧ leftOpen l = false)
      ∧ rewriteCalls callsBeside
        = ["x <- c(read_csv(here::here(\"data\", \"a.csv\")), here::here('data', \"b\"))\n".toList,
          "y <- file.path(\"images\",\n".toList]
      ∧ rewriteCalls (rewriteCalls callsBeside) = rewriteCalls callsBeside := by
  have hcalls : ∀ l ∈ callsBeside, nested l = false ∧ leftOpen l = false := by decide +kernel
  exact ⟨hcalls, by decide +kernel, (rewriteCalls_again callsBeside).2.2 hcalls⟩

/-- A call among the arguments of another one is respelled by the second run. -/
theorem rewriteCalls_twice_nested :
    rewriteCalls ["file.path(\"data\", file.path(\"data\", \"x\"))\n".toList]
        = ["here::here(\"data\", file.path(\"data\", \"x\"))\n".toList]
      ∧ rewriteCalls (rewriteCalls ["file.path(\"data\", file.path(\"data\", \"x\"))\n".toList])
        = ["here::here(\"data\", here::here(\"data\", \"x\"))\n".toList]
      ∧ rewriteCalls (rewriteCalls ["file.path(\"data\", file.path(\"data\", \"x\"))\n".toList])
        ≠ rewriteCalls ["file.path(\"data\", file.path(\"data\", \"x\"))\n".toList] := by
  have honce : rewriteCalls ["file.path(\"data\", file.path(\"data\", \"x\"))\n".toList]
      = ["here::here(\"data\", file.path(\"data\", \"x\"))\n".toList] := by decide +kernel
  have htwice : rewriteCalls ["here::here(\"data\", file.path(\"data\", \"x\"))\n".toList]
      = ["here::here(\"data\", here::here(\"data\", \"x\"))\n".toList] := by decide +kernel
  rw [honce, htwice]
  decide

end ProjectPath

end SlideDeck
