import SlideDeck.Proofs.Code.PathMarks
import SlideDeck.Proofs.Pipeline.FrontLines
import SlideDeck.Proofs.Pipeline.SetupRemoved

/-!
# What becomes of a configured title

A configured title stands between the delimiters of the converted document as it was given, or so
it seems: the rules on code know nothing of the metadata block and look at the title line as at any
other line.  A title that sets the crop hook goes, and a path in a title is respelled.  Every other
rule passes the title line by.

* `Metadata.convertTitle` — the title line as it is written in the end.
* `Metadata.convertTitle_of_no_code` — a title without code is written as it was given.
* `Pipeline.flatten_lines_runStages_titleLine` — the stages on a title line.
* `Pipeline.text_title` — the start of a converted text.
-/

set_option autoImplicit false

namespace SlideDeck

/-! ## The title line -/

namespace Metadata

/-- What stands in front of a title. -/
def titleKey : Text := "title: ".toList

/-- A title as a line of the metadata block. -/
def titleLine (t : Text) : Line := titleKey ++ (t ++ ['\n'])

theorem titleLines_of_ne_nil {t : Text} (h : t ≠ []) : titleLines (some t) = [titleLine t] := by
  rw [titleLines, if_neg (by simpa using h), List.append_assoc]
  rfl

/-- The title line of the converted document: nothing if the title sets the crop hook, and the
title with its paths respelled otherwise. -/
def convertTitle (t : Text) : Text :=
  if SetupCode.setsCropHook t then []
  else titleKey ++ ProjectPath.fixLine (ProjectPath.rewriteLine (t ++ ['\n']))

/-- What code in a title begins with. -/
def codeMarks : List Text :=
  SetupCode.cropHookText :: (ProjectPath.callMarks ++ ProjectPath.linkMarks)

/-- **A title without code** is written as it was given. -/
theorem convertTitle_of_no_code {t : Text}
    (h : ∀ mark ∈ codeMarks, Text.contains t mark = false) : convertTitle t = titleLine t := by
  have hmarks : ∀ mark ∈ codeMarks, '\n' ∉ mark ∧ mark ≠ [] := by decide
  have hline : ∀ mark ∈ codeMarks, ¬ mark <:+: t ++ ['\n'] := by
    intro mark hmark hinfix
    obtain ⟨hnewline, hne⟩ := hmarks mark hmark
    rcases Text.infix_or_infix_of_infix_append_cons hinfix hnewline with hinfix | hinfix
    · rw [← Text.contains_iff, h mark hmark] at hinfix
      exact absurd hinfix (by decide)
    · exact hne (List.infix_nil.1 hinfix)
  have hhook : SetupCode.setsCropHook t = false := h _ (List.mem_cons_self ..)
  have hcalls := ProjectPath.rewriteLine_eq_self fun mark hmark =>
    hline mark (List.mem_cons_of_mem _ (List.mem_append_left _ hmark))
  have hlinks := ProjectPath.fixLine_eq_self fun mark hmark =>
    hline mark (List.mem_cons_of_mem _ (List.mem_append_right _ hmark))
  rw [convertTitle, hhook, if_neg (by decide), hcalls, hlinks, titleLine]

theorem setsCropHook_titleLine (t : Text) :
    SetupCode.setsCropHook (titleLine t) = SetupCode.setsCropHook t := by
  rw [Bool.eq_iff_iff, SetupCode.setsCropHook_iff, SetupCode.setsCropHook_iff, titleLine]
  constructor
  · intro h
    have hbehind := Text.infix_of_infix_append (c := 'k') rfl (by decide) h
    rcases Text.infix_or_infix_of_infix_append_cons hbehind (by decide) with h | h
    · exact h
    · exact absurd (List.infix_nil.1 h) (by decide)
  · exact fun h => h.trans ⟨titleKey, ['\n'], List.append_assoc _ _ _⟩

theorem isTitle_titleLine (t : Text) : (titleLine t).IsTitle :=
  ⟨"t".toList, by decide, "itle: ".toList ++ (t ++ ['\n']), rfl⟩

theorem fixLine_rewriteLine_titleLine (t : Text) :
    ProjectPath.fixLine (ProjectPath.rewriteLine (titleLine t))
      = titleKey ++ ProjectPath.fixLine (ProjectPath.rewriteLine (t ++ ['\n'])) := by
  have hall : titleKey.all (fun c => c ∉ oldOpenings) = true := by decide
  have hkey : ∀ c ∈ titleKey, c ∉ oldOpenings := by simpa using hall
  rw [titleLine, ProjectPath.rewriteLine_append hkey, ProjectPath.fixLine_append hkey]

end Metadata

/-! ## The stages on a title line -/

namespace Pipeline

variable {config : Config} {t : Text}

/-- The stages behind the removal of setup code respell the paths of a title line. -/
theorem lines_runStages_afterSetup_titleLine (config : Config) (t : Text) :
    (runStages config Stage.afterSetup [Metadata.titleLine t]).lines
      = [ProjectPath.fixLine (ProjectPath.rewriteLine (Metadata.titleLine t))] := by
  have htitle := ((Metadata.isTitle_titleLine t).keepsMarks
    ProjectPath.rewriteLine_keepsMarks).keepsMarks ProjectPath.fixLine_keepsMarks
  show Stage.footnotes.apply config
    [ProjectPath.fixLine (ProjectPath.rewriteLine (Metadata.titleLine t))] = _
  exact Stage.apply_singleton_of_inert (by decide) htitle.inert

theorem lines_runStages_nil {stages : List Stage} (hstages : ∀ stage ∈ stages,
    stage ∈ Stage.afterFront) : (runStages config stages []).lines = [] :=
  lines_runStages_eq_self fun stage hstage => by
    rw [← Stage.applyAfter_nil, Stage.applyAfter_empty (hstages stage hstage)]

/-- The stages before the removal of setup code leave a title line alone. -/
theorem apply_titleLine (hremove : config.removePatterns = [])
    (hcomment : config.commentPatterns = []) {stage : Stage}
    (hstage : stage ∈ [Stage.removePatterns, .commentPatterns, .pauses, .compactLists, .columns,
      .imageChunks]) :
    stage.apply config [Metadata.titleLine t] = [Metadata.titleLine t] := by
  cases stage with
  | removePatterns =>
    rw [Stage.apply, hremove]
    rfl
  | commentPatterns =>
    rw [Stage.apply, hcomment]
    rfl
  | pauses | compactLists | columns | imageChunks =>
    exact Stage.apply_singleton_of_inert (by decide) (Metadata.isTitle_titleLine t).inert
  | _ => exact absurd hstage (by decide)

/-- **The stages on a title line.**  Without patterns it is the rules on code alone that look at
it. -/
theorem flatten_lines_runStages_titleLine (hremove : config.removePatterns = [])
    (hcomment : config.commentPatterns = []) :
    (runStages config Stage.afterFront [Metadata.titleLine t]).lines.flatten
      = Metadata.convertTitle t := by
  have hstages : Stage.afterFront = [.removePatterns, .commentPatterns, .pauses, .compactLists,
      .columns, .imageChunks] ++ (.setupChunks :: Stage.afterSetup) := rfl
  have hsetup : SetupCode.remove [Metadata.titleLine t]
      = if SetupCode.setsCropHook t then [] else [Metadata.titleLine t] := by
    rw [SetupCode.remove_singleton (Metadata.isTitle_titleLine t).inert.call,
      Metadata.setsCropHook_titleLine]
  rw [hstages, lines_runStages_append,
    lines_runStages_eq_self fun stage hstage => apply_titleLine hremove hcomment hstage]
  show (runStages config Stage.afterSetup (SetupCode.remove [Metadata.titleLine t])).lines.flatten
    = _
  rw [hsetup, Metadata.convertTitle]
  split
  · rw [lines_runStages_nil (by decide)]
    rfl
  · rw [lines_runStages_afterSetup_titleLine, Metadata.fixLine_rewriteLine_titleLine,
      List.flatten_singleton]

end Pipeline

/-! ## The start of a converted text -/

/-- What builds from a title and no patterns. -/
theorem ConfigBuilder.eq_of_build {b : ConfigBuilder} {config : Config} (h : b.build = .ok config)
    {t : Text} (htitle : b.title = some t) (hdefaults : b.useDefaults = false)
    (hremove : b.removeSources = []) (hcomment : b.commentSources = []) :
    config = ⟨some (Text.trim t), [], []⟩ ∧ Text.trim t ≠ [] := by
  obtain ⟨hcheck, ⟨removes, hremoves, hlines⟩, comments, hcomments, hlines'⟩ := build_eq_ok_iff.1 h
  obtain ⟨hline, htitle'⟩ := checkTitle_eq_ok_iff.1 hcheck
  rw [hremove] at hremoves
  rw [hcomment] at hcomments
  cases hremoves
  cases hcomments
  rw [htitle] at hline htitle'
  rw [hdefaults] at hlines hlines'
  obtain ⟨title, removePatterns, commentPatterns⟩ := config
  dsimp only at htitle' hlines hlines'
  rw [htitle', hlines, hlines']
  refine ⟨rfl, fun hnil => ?_⟩
  rw [Text.trim_eq_nil_iff, (hline t rfl).1] at hnil
  cases hnil

theorem Leading.exists_read_closed {first : Line} {rest : Document}
    (hfirst : first.trimsTo delimiter = true) (hsecond : ∃ l ∈ rest, l.trimsTo delimiter = true) :
    ∃ fields body, read (first :: rest) = .closed fields body := by
  obtain ⟨lines, l, body, rfl, hl, hlines⟩ := Body.exists_read_closed hsecond
  exact ⟨lines, body, (read_eq_closed_iff _ _ _).2 ⟨first, l, rfl, hfirst, hl, hlines⟩⟩

namespace Pipeline

/-- **What becomes of a configured title.**  Let a title be configured and no patterns.  Then a
text whose first line and a later one are delimiters is converted to a text that starts with a
delimiter, the converted title line and a delimiter.  If the title has no code that the rules look
for, that is the title as it was given, up to white space at its ends. -/
theorem text_title {b : ConfigBuilder} {config : Config} (h : b.build = .ok config) {t : Text}
    (htitle : b.title = some t) (hdefaults : b.useDefaults = false)
    (hremove : b.removeSources = []) (hcomment : b.commentSources = []) {s : Text} {first : Line}
    {rest : Document} (hs : Document.ofText s = first :: rest)
    (hfirst : first.trimsTo delimiter = true) (hsecond : ∃ l ∈ rest, l.trimsTo delimiter = true) :
    (∃ body : Text, (Conversion.ofText config s).text
        = "---\n".toList ++ Metadata.convertTitle (Text.trim t) ++ "---\n".toList ++ body)
      ∧ ((∀ mark ∈ Metadata.codeMarks, Text.contains (Text.trim t) mark = false) →
        ∃ body : Text, (Conversion.ofText config s).text
          = "---\ntitle: ".toList ++ Text.trim t ++ "\n---\n".toList ++ body) := by
  obtain ⟨rfl, hne⟩ := ConfigBuilder.eq_of_build h htitle hdefaults hremove hcomment
  obtain ⟨fields, body, hread⟩ := Leading.exists_read_closed hfirst hsecond
  obtain ⟨rest', hlines, -⟩ :=
    exists_lines_run_front ⟨some (Text.trim t), [], []⟩ hread
  have hchosen : Metadata.titleLines (Metadata.chosenTitle (some (Text.trim t)) fields)
      = [Metadata.titleLine (Text.trim t)] := Metadata.titleLines_of_ne_nil hne
  have hdelimiter : (runStages ⟨some (Text.trim t), [], []⟩ Stage.afterFront
      [Metadata.delimiterLine]).lines = [Metadata.delimiterLine] :=
    lines_runStages_eq_self fun stage hstage =>
      Stage.apply_delimiter (fun _ _ => ⟨rfl, rfl⟩) hstage (by decide)
  have htext : (Conversion.ofText ⟨some (Text.trim t), [], []⟩ s).text
      = "---\n".toList ++ Metadata.convertTitle (Text.trim t) ++ "---\n".toList
        ++ Document.text rest' := by
    show Document.text (run _ (Document.ofText s)).lines = _
    rw [hs, hlines, hdelimiter, hchosen, Document.text, List.flatten_append, List.flatten_append,
      List.flatten_append, flatten_lines_runStages_titleLine rfl rfl, List.flatten_singleton]
    rfl
  refine ⟨⟨_, htext⟩, fun hcode => ⟨Document.text rest', ?_⟩⟩
  have hstart : "---\ntitle: ".toList = "---\n".toList ++ Metadata.titleKey := rfl
  have hend : "\n---\n".toList = ['\n'] ++ "---\n".toList := rfl
  rw [htext, Metadata.convertTitle_of_no_code hcode, Metadata.titleLine, hstart, hend]
  simp only [List.append_assoc]

/-- A title without code, given with white space around it, replaces the one of the block. -/
theorem text_title_plain :
    (ConfigBuilder.ofSettings [.title " A plan ".toList, .clearDefaultPatterns]).build
        = .ok ⟨some "A plan".toList, [], []⟩
      ∧ Document.ofText "---\ntitle: b\n ---\nc".toList
        = "---\n".toList :: ["title: b\n".toList, " ---\n".toList, "c\n".toList]
      ∧ ∃ body : Text, (Conversion.ofText ⟨some "A plan".toList, [], []⟩
          "---\ntitle: b\n ---\nc".toList).text
        = "---\ntitle: ".toList ++ "A plan".toList ++ "\n---\n".toList ++ body := by
  have hbuild : (ConfigBuilder.ofSettings [.title " A plan ".toList, .clearDefaultPatterns]).build
      = .ok ⟨some "A plan".toList, [], []⟩ := rfl
  have hread : Document.ofText "---\ntitle: b\n ---\nc".toList
      = "---\n".toList :: ["title: b\n".toList, " ---\n".toList, "c\n".toList] := by decide
  refine ⟨hbuild, hread, ?_⟩
  exact (text_title hbuild rfl rfl rfl rfl hread (by decide)
    ⟨" ---\n".toList, by decide, by decide⟩).2 (by decide)

/-- A title is not always written as it was given: the path of an image in it is respelled. -/
theorem text_title_image :
    (ConfigBuilder.ofSettings [.title "![](images/a)".toList, .clearDefaultPatterns]).build
        = .ok ⟨some "![](images/a)".toList, [], []⟩
      ∧ Document.ofText "---\n---\n".toList = ["---\n".toList, "---\n".toList]
      ∧ (Conversion.ofText ⟨some "![](images/a)".toList, [], []⟩ "---\n---\n".toList).text
        = "---\ntitle: ![](../images/a)\n---\n".toList
      ∧ ¬ "---\ntitle: ![](images/a)\n---\n".toList <+:
        (Conversion.ofText ⟨some "![](images/a)".toList, [], []⟩ "---\n---\n".toList).text := by
  have htext : (Conversion.ofText ⟨some "![](images/a)".toList, [], []⟩ "---\n---\n".toList).text
      = "---\ntitle: ![](../images/a)\n---\n".toList := by decide +kernel
  refine ⟨rfl, by decide, htext, ?_⟩
  rw [htext]
  decide

end Pipeline
end SlideDeck
