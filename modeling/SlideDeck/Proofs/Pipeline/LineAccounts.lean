import SlideDeck.Proofs.Document.Counting
import SlideDeck.Proofs.Pipeline.PhysicalLines
import SlideDeck.Proofs.Slide.FootnoteLines
import SlideDeck.Proofs.Slide.Layouts

/-!
# What the line counts of a report account for

Each stage reports how many lines it was given and how many it returned.  The two counts differ by
what the stage is there for: lines that are dropped, the scaffolding of notes and columns, the
title of a block that had none.

* `Layout.taken` — the lines of a layout that are not in its container; `length_of_form` balances
  them against the scaffolding.
* `Footnote.length_render_le` — an inline footnote does not take more lines than it was read from.
* `Metadata.length_normalize_le` and `length_normalize_eq_iff` — the block grows only by a title.
* `Stage.linesAccounted` — the account of each stage, for a document of physical lines.
* `Pipeline.given` — what a stage of a run is given; `reports_runStages` lists the reports by it.
* `Pipeline.reports_linesAccounted` — the accounts of all reports of a run.
-/

set_option autoImplicit false

namespace SlideDeck

/-! ## Columns -/

namespace Layout

/-- How many openers a layout has. -/
def openers : Layout → Nat
  | pair _ _ _ => 2
  | loneLeft _ | loneRight _ => 1

/-- How many closing brackets a layout has. -/
def closers : Layout → Nat
  | pair left _ right => left.closed.toNat + right.closed.toNat
  | loneLeft column | loneRight column => column.closed.toNat

/-- The blank lines and pauses right behind the left block of a layout that was read from
`source`. -/
def skipped (source : Document) : Layout → Document
  | pair _ _ _ | loneLeft _ => (Body.read isClose source.tail).rest.takeWhile isGap
  | loneRight _ => []

/-- How many lines of a layout do not come out in its container. -/
def taken (source : Document) (b : Layout) : Nat :=
  b.openers + b.closers + (skipped source b).length

theorem length_container (left right : Document) :
    (container left right).length = left.length + right.length + 12 := by
  simp only [container, renderColumn, List.length_append, List.length_cons, List.length_nil]
  omega

theorem length_source (b : Body) : b.source.length = b.lines.length + b.closed.toNat := by
  rw [Body.source, List.length_append, Body.closed]
  cases b.closing <;> rfl

/-- **The account of a layout**: a container has the columns and twelve lines of scaffolding, and
nothing else that the layout was read from. -/
theorem length_of_form {front : Document} {b : Layout} (h : Form front b) :
    (render b).length + taken front b = front.length + 12 := by
  cases h with
  | @pair l c r left gap right hl hleft hc hgap hr hright =>
    have hskipped : (Body.read isClose (left ++ c :: (gap ++ r :: right.source))).rest.takeWhile
        isGap = gap := by
      rw [Body.read_append_cons hleft hc, List.takeWhile_append_of_pos hgap,
        List.takeWhile_cons_of_neg (Bool.eq_false_iff.1 (isBorder_of_isRight hr).gap),
        List.append_nil]
    simp only [render, taken, openers, closers, skipped, List.tail_cons, hskipped, length_container,
      List.length_cons, List.length_append, length_source, Body.toColumn, Bool.toNat_true]
    omega
  | @loneLeft l c left gap hl hleft hc hgap =>
    have hskipped : (Body.read isClose (left ++ c :: gap)).rest.takeWhile isGap = gap := by
      rw [Body.read_append_cons hleft hc, List.takeWhile_eq_self_iff.2 hgap]
    simp only [render, taken, openers, closers, skipped, List.tail_cons, hskipped, length_container,
      List.length_cons, List.length_append, List.length_nil, Bool.toNat_true]
    omega
  | @openLeft l left hl hleft =>
    have hopen : (Body.read isClose left).closed = false := by
      simpa [Body.closed, Body.read] using hleft
    simp only [render, taken, openers, closers, skipped, List.tail_cons, Body.read_of_open hopen,
      List.takeWhile_nil, length_container, List.length_cons, List.length_nil, Bool.toNat_false]
  | @loneRight r right hr hright =>
    simp only [render, taken, openers, closers, skipped, length_container, List.length_cons,
      length_source, Body.toColumn, List.length_nil]
    omega

theorem length_convert_add (d : Document) :
    (convert d).length + recogniser.total taken d
      = d.length + 12 * (recogniser.found d).length := by
  rw [← recogniser.total_const 12 d]
  exact recogniser.length_rewrite_add
    (fun _ _ _ hread => length_of_form (form_of_read_append hread)) d

end Layout

/-! ## Notes -/

/-- Notes gain the two lines behind their division. -/
theorem Notes.length_convert (d : Document) :
    (convert d).length = d.length + 2 * (recogniser.found d).length := by
  have h : (convert d).length + recogniser.total (fun _ _ => 0) d
      = d.length + recogniser.total (fun _ _ => 2) d := by
    refine recogniser.length_rewrite_add (fun front r b hread => ?_) d
    obtain ⟨marker, -, hfront⟩ := read_eq_some hread
    obtain rfl := List.append_cancel_right hfront
    rw [render, List.length_append, List.length_cons, List.length_cons]
    rfl
  rwa [recogniser.total_const, recogniser.total_const, Nat.zero_mul, Nat.add_zero] at h

/-! ## Footnotes -/

/-- A text and a newline are cut into one line more than the text has newlines. -/
theorem Text.length_cutAfterNewlines_concat (s : Text) :
    (cutAfterNewlines (s ++ ['\n'])).length = s.count '\n' + 1 := by
  rw [cutAfterNewlines_concat, List.length_map]
  induction s using line_induction with
  | last t ht => rw [List.splitOn_eq_singleton ht, List.count_eq_zero_of_not_mem ht]; rfl
  | line t r ht ih =>
    rw [List.splitOn_append_cons_self_of_not_mem ht, List.length_cons, ih, List.count_append,
      List.count_eq_zero_of_not_mem ht, List.count_cons_self, Nat.zero_add]

/-- Parts without newlines, joined by newlines. -/
theorem Text.count_newline_joinWith {parts : List Text} (hne : parts ≠ [])
    (hparts : ∀ p ∈ parts, '\n' ∉ p) : (joinWith ['\n'] parts).count '\n' + 1 = parts.length := by
  rw [← length_cutAfterNewlines_concat, cutAfterNewlines_concat, List.length_map, joinWith,
    List.splitOn_intercalate '\n' hparts hne]

namespace Footnote

/-- The lines of an inline footnote are counted by the newlines in its text. -/
theorem length_render (b : Footnote) : (render b).length = b.content.count '\n' + 1 := by
  have hrender : render b
      = Text.cutAfterNewlines ("^[".toList ++ b.content ++ [']'] ++ ['\n']) := by
    rw [render, Document.pushFragment_nil, List.append_assoc _ [']'] ['\n']]
    rfl
  rw [hrender, Text.length_cutAfterNewlines_concat, List.count_append, List.count_append]
  show 0 + b.content.count '\n' + 0 + 1 = _
  omega

theorem count_newline_trim_le (s : Text) : (Text.trim s).count '\n' ≤ s.count '\n' := by
  obtain ⟨a, b, -, -, hs⟩ := Text.exists_trim s
  have hinfix : Text.trim s <:+: s := ⟨a, b, by rw [List.append_assoc]; exact hs.symm⟩
  exact hinfix.sublist.count_le '\n'

/-- **An inline footnote takes no more lines than it was read from**: its text is put together from
one part a line, and then white space goes. -/
theorem length_render_le {front : Document} {b : Footnote} (h : Source front b)
    (hfront : front.WellFormed) : (render b).length ≤ front.length := by
  rw [length_render]
  cases h with
  | @line l first hl hfirst =>
    have hdrop : '\n' ∉ dropBracket first := newline_not_mem_dropBracket
      (hfront l (List.mem_singleton_self l)) (suffix_of_opening hl)
    have hcount := count_newline_trim_le (dropBracket first)
    rw [List.count_eq_zero_of_not_mem hdrop] at hcount
    exact Nat.add_le_add_right hcount 1
  | @block l first body hl hfirst hlines hclosing =>
    obtain ⟨hbefore, hafter⟩ := List.forall_mem_append.1 hfront
    obtain ⟨hopen, hbody⟩ := List.forall_mem_cons.1 hbefore
    have hend : ∀ c ∈ body.closing, Line.WellFormed c :=
      fun c hc => hafter c (Option.mem_toList.2 hc)
    have hparts := newline_not_mem_parts hopen (suffix_of_opening hl) hbody hend
    have hcount := count_newline_trim_le (blockContent first body)
    calc (Text.trim (blockContent first body)).count '\n' + 1
        ≤ (Text.joinWith ['\n'] (parts first body)).count '\n' + 1 :=
          Nat.add_le_add_right hcount 1
      _ = (parts first body).length :=
          Text.count_newline_joinWith (List.cons_ne_nil _ _) hparts
      _ = (l :: body.lines ++ body.closing.toList).length := by simp [parts]

theorem length_convert_le {d : Document} (hd : d.WellFormed) : (convert d).length ≤ d.length := by
  refine recogniser.length_rewrite_le (fun front r b hread hfront => ?_) hd
  exact length_render_le (source_of_read_append hread) hfront

end Footnote

/-! ## The metadata block -/

/-- A title that has been checked is not empty. -/
theorem ConfigBuilder.title_ne_nil {b : ConfigBuilder} {config : Config}
    (h : b.build = .ok config) : ∀ t ∈ config.title, t ≠ [] := by
  intro t ht hnil
  obtain ⟨s, -, hs, rfl⟩ := exists_title_of_build h ht
  rw [Text.trim_eq_nil_iff, hs.1] at hnil
  cases hnil

namespace Metadata

theorem length_normalize_of_closed (configured : Option Text) {d fields body : Document}
    (h : Leading.read d = .closed fields body) :
    (normalize configured d).length + fields.length
      = d.length + (titleLines (chosenTitle configured fields)).length := by
  obtain ⟨first, last, hd, -, -, -⟩ := (Leading.read_eq_closed_iff d fields body).1 h
  rw [normalize_of_closed h, hd]
  simp only [List.length_append, List.length_cons]
  omega

/-- A document gets longer by a title at most. -/
theorem length_normalize_le (configured : Option Text) (d : Document) :
    (normalize configured d).length ≤ d.length + 1 := by
  cases h : Leading.read d with
  | absent | unclosed => rw [normalize, h]; exact Nat.le_succ _
  | closed fields body =>
    have hlength := length_normalize_of_closed configured h
    have htitle := length_titleLines_le (chosenTitle configured fields)
    omega

/-- **A document gets longer** exactly if its metadata block is empty and a title is configured. -/
theorem length_normalize_eq_iff {configured : Option Text} (hne : ∀ t ∈ configured, t ≠ [])
    (d : Document) :
    (normalize configured d).length = d.length + 1
      ↔ configured.isSome ∧ ∃ body, Leading.read d = .closed [] body := by
  cases h : Leading.read d with
  | absent | unclosed =>
    rw [normalize, h]
    simp
  | closed fields body =>
    have hlength := length_normalize_of_closed configured h
    have htitle := length_titleLines_le (chosenTitle configured fields)
    cases fields with
    | nil =>
      cases configured with
      | none =>
        have hnone : titleLines (chosenTitle none []) = [] := rfl
        rw [hnone] at hlength
        simp only [List.length_nil, Nat.add_zero] at hlength
        constructor
        · omega
        · rintro ⟨hsome, -⟩
          cases hsome
      | some t =>
        have hsome : titleLines (chosenTitle (some t) []) = ["title: ".toList ++ t ++ ['\n']] := by
          rw [chosenTitle, Option.some_or, titleLines,
            if_neg (mt List.isEmpty_iff.1 (hne t rfl))]
        rw [hsome] at hlength
        simp only [List.length_nil, List.length_singleton, Nat.add_zero] at hlength
        exact ⟨fun _ => ⟨rfl, body, rfl⟩, fun _ => hlength⟩
    | cons l fields =>
      rw [List.length_cons] at hlength
      constructor
      · omega
      · rintro ⟨-, body', hbody⟩
        cases hbody

end Metadata

/-! ## Stages that only drop lines -/

theorem Separator.length_strip_le (d : Document) : (strip d).length ≤ d.length := by
  have hfilter := List.length_filter_le (fun l => !isSeparator l) (d.drop (leadingLength d))
  have hsplit := congrArg List.length (List.take_append_drop (leadingLength d) d)
  rw [List.length_append] at hsplit
  rw [strip, List.length_append]
  omega

theorem Reveal.length_convertPausesAfter_le (previous : Line) (d : Document) :
    (convertPausesAfter previous d).length ≤ d.length := by
  induction d generalizing previous with
  | nil => exact Nat.le_refl 0
  | cons l d ih =>
    have hline : (convertPause previous l (d.headD [])).length ≤ 1 := by
      rw [convertPause]
      repeat' split
      all_goals simp
    have hrest := ih l
    rw [convertPausesAfter, List.length_append, List.length_cons]
    omega

/-- An image chunk becomes one line. -/
theorem Figure.length_convert_le (d : Document) : (convert d).length ≤ d.length := by
  refine recogniser.length_rewrite_le (P := fun _ => True) (fun front r b hread _ => ?_)
    fun _ _ => trivial
  obtain ⟨l, t, hfront⟩ := recogniser.read_front hread
  obtain rfl := List.append_cancel_right hfront
  rw [render, List.length_singleton, List.length_cons]
  omega

theorem SetupCode.length_remove_le (d : Document) : (remove d).length ≤ d.length :=
  recogniser.length_rewrite_le (P := fun _ => True) (fun _ _ _ _ _ => Nat.zero_le _)
    fun _ _ => trivial

/-! ## The account of a stage -/

/-- What the two line counts of a report account for, if its stage was given this document. -/
def Stage.LinesAccounted (config : Config) (given : Document) (r : StageReport) : Prop :=
  match r.stage with
  | header =>
    r.linesOut ≤ r.linesIn + 1
      ∧ (r.linesOut = r.linesIn + 1
        ↔ config.title.isSome ∧ ∃ body, Leading.read given = .closed [] body)
  | notes => r.linesOut = r.linesIn + 2 * (Notes.recogniser.found given).length
  | columns =>
    (∀ p ∈ Layout.recogniser.sourced given, Layout.Form p.1 p.2)
      ∧ r.linesOut + Layout.recogniser.total Layout.taken given
        = r.linesIn + 12 * (Layout.recogniser.found given).length
  | commentPatterns | codePaths | imageLinks => r.linesOut = r.linesIn
  | stripSeparators | removePatterns | pauses | compactLists | imageChunks | setupChunks
  | footnotes => r.linesOut ≤ r.linesIn

theorem Stage.linesAccounted {config : Config} (htitle : ∀ t ∈ config.title, t ≠ [])
    {d : Document} (hd : d.WellFormed) (stage : Stage) :
    LinesAccounted config d (stage.report d (stage.apply config d)) := by
  cases stage with
  | header =>
    exact ⟨Metadata.length_normalize_le _ d, Metadata.length_normalize_eq_iff htitle d⟩
  | notes => exact Notes.length_convert d
  | stripSeparators => exact Separator.length_strip_le d
  | removePatterns => exact List.length_filter_le _ d
  | commentPatterns => exact List.length_map _
  | pauses => exact Reveal.length_convertPausesAfter_le [] d
  | compactLists => exact (Reveal.compactLists_sublist d).length_le
  | columns =>
    exact ⟨Layout.recogniser.forall_mem_sourced (fun _ _ _ => Layout.form_of_read_append) d,
      Layout.length_convert_add d⟩
  | imageChunks => exact Figure.length_convert_le d
  | setupChunks => exact SetupCode.length_remove_le d
  | codePaths => exact List.length_map _
  | imageLinks => exact List.length_map _
  | footnotes => exact Footnote.length_convert_le hd

/-! ## The accounts of a run -/

namespace Pipeline

/-- What a stage is given when several are run: what the stages before it have made. -/
def given (config : Config) (stages : List Stage) (d : Document) (stage : Stage) : Document :=
  (runStages config (stages.takeWhile (· ≠ stage)) d).lines

/-- The reports of a run of different stages, each with what its stage was given. -/
theorem reports_runStages (config : Config) {stages : List Stage} (h : stages.Nodup)
    (d : Document) :
    (runStages config stages d).reports
      = stages.map fun stage => stage.report (given config stages d stage)
          (stage.apply config (given config stages d stage)) := by
  induction stages generalizing d with
  | nil => rfl
  | cons stage stages ih =>
    obtain ⟨hstage, hstages⟩ := List.nodup_cons.1 h
    have hhead : given config (stage :: stages) d stage = d := by
      simp [given, runStages]
    have htail : ∀ next ∈ stages, given config (stage :: stages) d next
        = given config stages (stage.apply config d) next := by
      intro next hnext
      have hne : stage ≠ next := fun heq => hstage (heq ▸ hnext)
      simp [given, hne, runStages]
    rw [List.map_cons, hhead, runStages, ih hstages]
    refine congrArg (_ :: ·) (List.map_congr_left fun next hnext => ?_)
    rw [htail next hnext]

/-- **The line counts of the reports.**  In a run of a checked configuration on a document of
physical lines there is one report a stage, on what the stages before have made, and each accounts
for its counts. -/
theorem reports_linesAccounted {b : ConfigBuilder} {config : Config} (h : b.build = .ok config)
    {d : Document} (hd : d.WellFormed) :
    (run config d).reports
        = Stage.all.map (fun stage => stage.report (given config Stage.all d stage)
            (stage.apply config (given config Stage.all d stage)))
      ∧ ∀ r ∈ (run config d).reports,
        Stage.LinesAccounted config (given config Stage.all d r.stage) r := by
  have hall : Stage.all.Nodup := by decide
  have hreports := reports_runStages config hall d
  refine ⟨hreports, fun r hr => ?_⟩
  rw [run, hreports] at hr
  obtain ⟨stage, -, rfl⟩ := List.mem_map.1 hr
  have hgiven : (given config Stage.all d stage).WellFormed :=
    forall_mem_runStages (fun before _ =>
      before.writes_wellFormed (ConfigBuilder.newline_not_mem_title h)) hd
  exact stage.linesAccounted (ConfigBuilder.title_ne_nil h) hgiven

/-- An empty block gets a title, notes their fences and columns their container, and the pause
between the columns goes. -/
theorem reports_linesAccounted_titled :
    let config : Config := ⟨some "A plan".toList, [], []⟩
    let d := Document.ofText "---\n---\n.pull-left[\n]\n--\n.pull-right[\n]\n???\na\n".toList
    (run config d).reports.map (fun r => (r.linesIn, r.linesOut))
        = [(9, 10), (10, 12), (12, 12), (12, 12), (12, 12), (12, 12), (12, 12), (12, 19),
          (19, 19), (19, 19), (19, 19), (19, 19), (19, 19)]
      ∧ ∀ r ∈ (run config d).reports,
        Stage.LinesAccounted config (given config Stage.all d r.stage) r := by
  intro config d
  have hbuild : (ConfigBuilder.ofSettings [.title "A plan".toList, .clearDefaultPatterns]).build
      = .ok config := rfl
  exact ⟨by decide +kernel, (reports_linesAccounted hbuild (Document.wellFormed_ofText _)).2⟩

end Pipeline
end SlideDeck
