import SlideDeck.Proofs.Code.SetupScan
import SlideDeck.Proofs.Pipeline.ForeignText
import SlideDeck.Proofs.Pipeline.PlainLines
import SlideDeck.Proofs.Pipeline.Unforgeable

/-!
# No setup code in a converted document

Setup code is removed before paths are respelled and footnotes are joined, so it must not come back
by what these stages write.  The crop hook is looked for anywhere in a line, and no piece of it is
among the texts that are written late.  A call that sets chunk options is looked for at the start
of a line, with any white space inside, and each of these starts is unforgeable.

* `SetupCode.isForeign_cropHookText` and `SetupCode.unforgeable_startsOptionsCall` — the two tests.
* `Pipeline.not_isSetup_of_afterSetup` — the stages behind the removal write no setup code.
* `Pipeline.setup_removed` — the scan, that one removal is enough, and the whole run.
-/

set_option autoImplicit false

namespace SlideDeck

open Unicode (isSpace)

namespace SetupCode

/-! ## The crop hook -/

/-- The text of the crop hook. -/
def cropHookText : Text := "knitr::knit_hooks$set(crop = knitr::hook_pdfcrop)".toList

theorem setsCropHook_iff (l : Line) : setsCropHook l = true ↔ cropHookText <:+: l :=
  Text.contains_iff l cropHookText

theorem isForeign_cropHookText : cropHookText.IsForeign where
  opening := ⟨'k', rfl, by decide⟩
  quote := by decide
  bracket := by decide
  newline := by decide
  spelling := by decide

/-! ## Calls that set chunk options -/

/-- The function that sets chunk options. -/
def optionsFunction : Text := "knitr::opts_chunk$set".toList

/-- The start of a call that sets chunk options, with white space before its parenthesis. -/
def optionsCallMark (blank : Text) : Text := optionsFunction ++ (blank ++ ['('])

theorem getLast?_optionsCallMark (blank : Text) :
    (optionsCallMark blank).getLast? = some '(' := by
  rw [optionsCallMark, ← List.append_assoc, List.getLast?_concat]

/-- A line starts such a call if it opens with one of these marks. -/
theorem startsOptionsCall_iff (l : Line) :
    startsOptionsCall l = true
      ↔ ∃ blank, Text.isBlank blank = true ∧ l.opensWith (optionsCallMark blank) = true := by
  have hopens : ∀ blank, l.opensWith (optionsCallMark blank) = true
      ↔ optionsCallMark blank <+: Text.trimStart l := fun blank =>
    Line.opensWith_iff l (by rw [getLast?_optionsCallMark]; decide)
  constructor
  · intro h
    rw [startsOptionsCall] at h
    split at h
    · next r hr =>
      rw [Text.after?_eq_some_iff] at hr
      rw [Text.startsWith_iff] at h
      obtain ⟨r', hr'⟩ := h
      obtain ⟨blank, hblank, hrest⟩ := Text.exists_trimStart r
      refine ⟨blank, hblank, (hopens blank).2 ⟨r', ?_⟩⟩
      rw [hr, ← hrest, ← hr', optionsCallMark, List.append_assoc, List.append_assoc]
      rfl
    · exact absurd h (by decide)
  · rintro ⟨blank, hblank, h⟩
    obtain ⟨r, hr⟩ := (hopens blank).1 h
    have hafter : Text.after? optionsFunction (Text.trimStart l) = some (blank ++ '(' :: r) := by
      rw [Text.after?_eq_some_iff, ← hr, optionsCallMark]
      simp
    have hparen : Text.trimStart (blank ++ '(' :: r) = '(' :: r := by
      rw [Text.trimStart_append_of_isBlank hblank]
      exact Text.trimStart_cons (by decide) r
    rw [startsOptionsCall]
    split
    · next r' hr' =>
      obtain rfl := Option.some.inj (hafter.symm.trans hr')
      rw [hparen]
      exact (Text.startsWith_iff _ _).2 (List.prefix_append ['('] r)
    · next hnone => exact absurd (hafter.symm.trans hnone) (by simp)

theorem avoidsSpellings_optionsCallMark {blank : Text} (hblank : Text.isBlank blank = true) :
    avoidsSpellings (optionsCallMark blank) = true := by
  have hopenings : ∀ o ∈ newOpenings, o.any isSpace = false := by decide
  have hparen : ∀ o ∈ newOpenings, '(' ∉ o := by decide
  have hspace : ∀ c ∈ blank, ∀ o ∈ newOpenings, c ∉ o := fun c hc o ho hmem =>
    List.any_eq_false.1 (hopenings o ho) c hmem ((Text.isBlank_iff blank).1 hblank c hc)
  have hend : avoidsSpellings (blank ++ ['(']) = true := by
    clear hblank
    induction blank with
    | nil => exact avoidsSpellings_append_cons rfl hparen rfl
    | cons c blank ih =>
      obtain ⟨hc, hspace⟩ := List.forall_mem_cons.1 hspace
      exact avoidsSpellings_append_cons (m := []) rfl hc (ih hspace)
  have hfront : avoidsSpellings optionsFunction = true := by decide
  cases blank with
  | nil => exact avoidsSpellings_append_cons hfront hparen rfl
  | cons c blank =>
    exact avoidsSpellings_append_cons hfront (hspace c (List.mem_cons_self ..))
      (avoidsSpellings_of_suffix hend (List.suffix_cons c _))

/-- No stage writes the start of a call that sets chunk options. -/
theorem unforgeable_startsOptionsCall : Unforgeable startsOptionsCall := by
  refine Unforgeable.of_exists (fun blank hblank => ?_) startsOptionsCall_iff
  have hletter : optionsCallMark blank
      = 'k' :: ("nitr::opts_chunk$set".toList ++ (blank ++ ['('])) := rfl
  refine unforgeable_opensWith (fun l hl => ?_) (fun front hfront => ?_)
    (avoidsSpellings_optionsCallMark hblank) ?_ ?_ ?_
  · have hfixed : ∀ l ∈ Stage.fixedLines, Text.startsWith (Text.trim l) ['k'] = false := by decide
    rw [Bool.eq_false_iff, Ne, Line.opensWith, Text.startsWith_iff, hletter]
    intro h
    have hk : Text.startsWith (Text.trim l) ['k'] = true :=
      (Text.startsWith_iff _ _).2 ((List.prefix_append ['k'] _).trans h)
    rw [hfixed l hl] at hk
    exact absurd hk (by decide)
  · rw [hletter]
    simp only [Stage.openings, List.mem_cons, List.not_mem_nil, or_false] at hfront
    rcases hfront with rfl | rfl | rfl <;> exact ⟨rfl, rfl⟩
  · exact List.cons_ne_nil _ _
  · rw [getLast?_optionsCallMark]
    decide
  · rw [optionsCallMark, List.mem_append, List.mem_append, not_or, not_or]
    refine ⟨by decide, fun hmem => ?_, by decide⟩
    exact absurd ((Text.isBlank_iff blank).1 hblank _ hmem) (by decide)

end SetupCode

/-! ## Behind the removal -/

namespace Pipeline

/-- Physical lines without setup code stay so behind the removal. -/
theorem not_isSetup_of_afterSetup (config : Config) {d : Document} (hd : d.WellFormed)
    (hsetup : ∀ l ∈ d, ¬ SetupCode.IsSetup l) :
    ∀ l ∈ (runStages config Stage.afterSetup d).lines, ¬ SetupCode.IsSetup l := by
  have hne : ∀ stage ∈ Stage.afterSetup, stage ≠ .header := by decide
  have hhook : ∀ l ∈ (runStages config Stage.afterSetup d).lines,
      ¬ SetupCode.cropHookText <:+: l :=
    forall_mem_runStages
      (fun stage hstage => Stage.writes_of_isForeign SetupCode.isForeign_cropHookText hstage)
      fun l hl => mt (SetupCode.setsCropHook_iff l).2 fun hhook => hsetup l hl (Or.inl hhook)
  have hcall : ∀ l ∈ (runStages config Stage.afterSetup d).lines,
      l.WellFormed ∧ SetupCode.startsOptionsCall l = false :=
    forall_mem_runStages (fun stage hstage => Stage.writes_of_unforgeable
      SetupCode.unforgeable_startsOptionsCall (hne stage hstage))
      fun l hl => ⟨hd l hl, ((SetupCode.not_isSetup_iff l).1 (hsetup l hl)).2⟩
  rintro l hl (hset | hstarts)
  · exact hhook l hl ((SetupCode.setsCropHook_iff l).1 hset)
  · rw [(hcall l hl).2] at hstarts
    exact absurd hstarts (by decide)

/-- **Setup code never survives.**  Its removal is a scan of the lines with two modes; a second
removal finds nothing; and no line of a converted text is setup code or begins it, whatever the
stages behind the removal put together. -/
theorem setup_removed {b : ConfigBuilder} {config : Config} (h : b.build = .ok config) :
    (∀ d : Document, SetupCode.remove d = SetupCode.scan .keep d)
      ∧ (∀ d : Document, SetupCode.remove (SetupCode.remove d) = SetupCode.remove d)
      ∧ ∀ s : Text, ∀ l ∈ (run config (Document.ofText s)).lines,
        SetupCode.setsCropHook l = false ∧ SetupCode.startsOptionsCall l = false := by
  refine ⟨SetupCode.remove_eq_scan, SetupCode.remove_remove, fun s l hl => ?_⟩
  have hstages : Stage.all
      = [.header, .notes, .stripSeparators, .removePatterns, .commentPatterns, .pauses,
          .compactLists, .columns, .imageChunks] ++ (.setupChunks :: Stage.afterSetup) := rfl
  rw [run, hstages, lines_runStages_append] at hl
  have hwrites := fun stage : Stage =>
    stage.writes_wellFormed (ConfigBuilder.newline_not_mem_title h)
  refine (SetupCode.not_isSetup_iff l).1 (not_isSetup_of_afterSetup config ?_
    SetupCode.not_isSetup_of_mem_remove l hl)
  exact Stage.forall_mem_apply (hwrites .setupChunks)
    (forall_mem_runStages (fun stage _ => hwrites stage) (Document.wellFormed_ofText s))

/-- The crop hook behind a comment sign and a call over several lines go; a footnote whose two
lines would read as the hook stays on two lines. -/
theorem setup_removed_footnote :
    (ConfigBuilder.ofSettings [.clearDefaultPatterns]).build = .ok ⟨none, [], []⟩
      ∧ (run ⟨none, [], []⟩ (Document.ofText
          ("# knitr::knit_hooks$set(crop = knitr::hook_pdfcrop)\nknitr::opts_chunk$set (\n)\n"
          ++ ".footnote[knitr::knit_hooks$set(crop =\nknitr::hook_pdfcrop)]\n").toList)).lines
        = ["^[knitr::knit_hooks$set(crop =\n".toList, "knitr::hook_pdfcrop)]\n".toList]
      ∧ ∀ l ∈ (run ⟨none, [], []⟩ (Document.ofText
          ("# knitr::knit_hooks$set(crop = knitr::hook_pdfcrop)\nknitr::opts_chunk$set (\n)\n"
          ++ ".footnote[knitr::knit_hooks$set(crop =\nknitr::hook_pdfcrop)]\n").toList)).lines,
        SetupCode.setsCropHook l = false ∧ SetupCode.startsOptionsCall l = false := by
  have hbuild : (ConfigBuilder.ofSettings [.clearDefaultPatterns]).build = .ok ⟨none, [], []⟩ := rfl
  exact ⟨hbuild, by decide +kernel, (setup_removed hbuild).2.2 _⟩

end Pipeline
end SlideDeck
