import SlideDeck.Proofs.Code.FigureText
import SlideDeck.Proofs.Code.Respelling
import SlideDeck.Proofs.Config.Build
import SlideDeck.Proofs.Document.WellFormed
import SlideDeck.Proofs.Pipeline.Written
import Mathlib.Data.List.Chain

/-!
# One physical line per element, through all stages

Line counts are reported by counting elements, so they mean something only as long as every
element is one physical line.  Reading a text establishes that, and every stage keeps it: what a
stage writes is either fixed, or put together from texts without newline.  The configured title
is one of them only because `ConfigBuilder.build` refuses a title on several lines.

* `Stage.writes_wellFormed` — what a stage writes is well formed, a title by assumption.
* `Pipeline.reports_isChain`, `head?_linesIn` and `getLast?_linesOut` — the counts of the reports
  fit together from the given to the returned document.
* `Pipeline.line_counts` — the statement about texts.
-/

set_option autoImplicit false

namespace SlideDeck

/-! ## Titles -/

/-- A title that has been checked stands on one line. -/
theorem ConfigBuilder.newline_not_mem_title {b : ConfigBuilder} {config : Config}
    (h : b.build = .ok config) : ∀ t ∈ config.title, '\n' ∉ t := by
  intro t ht hn
  obtain ⟨s, -, hs, rfl⟩ := exists_title_of_build h ht
  exact hs.2 (Text.mem_of_mem_trim hn)

theorem Metadata.newline_not_mem_titleOfField {l : Line} {t : Text}
    (h : titleOfField? l = some t) : '\n' ∉ t := by
  simp only [titleOfField?, Option.bind_eq_bind, Option.bind_eq_some_iff] at h
  obtain ⟨key, -, value, -, h⟩ := h
  obtain rfl := Option.some.inj h
  exact fun hn => absurd (List.mem_takeWhile_imp (Text.mem_of_mem_trim hn)) (by decide)

theorem Metadata.newline_not_mem_chosenTitle {configured : Option Text}
    (h : ∀ t ∈ configured, '\n' ∉ t) (fields : Document) :
    ∀ t ∈ chosenTitle configured fields, '\n' ∉ t := by
  intro t ht
  rcases Option.or_eq_some_iff.1 ht with ht | ⟨-, ht⟩
  · exact h t ht
  · obtain ⟨l, -, hl⟩ := List.exists_of_findSome?_eq_some ht
    exact newline_not_mem_titleOfField hl

theorem Metadata.wellFormed_titleLines {title : Option Text} (h : ∀ t ∈ title, '\n' ∉ t) :
    (titleLines title).WellFormed := by
  cases title with
  | none => exact List.forall_mem_nil _
  | some t =>
    rw [titleLines]
    split
    · exact List.forall_mem_nil _
    · refine List.forall_mem_singleton.2 (Line.wellFormed_append_newline ?_)
      rw [List.mem_append, not_or]
      exact ⟨by decide, h t rfl⟩

/-! ## Every stage writes physical lines -/

theorem Figure.wellFormed_render {d r : Document} {b : ImageChunk} (h : read d = some (b, r)) :
    (render b).WellFormed := by
  obtain ⟨link, hrender, hlink⟩ := exists_render_eq h
  rw [hrender]
  refine List.forall_mem_singleton.2 (Line.wellFormed_append_newline fun hn => ?_)
  rcases hlink '\n' hn with ⟨hne, -⟩ | hdigit | hfixed
  · exact hne rfl
  · exact absurd hdigit (by decide)
  · exact absurd hfixed (by decide)

theorem Footnote.wellFormed_render (b : Footnote) : (render b).WellFormed := by
  refine Text.wellFormed_of_mem_cut ?_
  rw [List.getLast?_append_of_ne_nil _ (by decide)]
  decide

/-- Titles apart, what stages write needs no check. -/
theorem Stage.writes_wellFormed_of_ne {config : Config} {stage : Stage} (h : stage ≠ .header) :
    stage.Writes config Line.WellFormed := by
  cases stage with
  | header => exact absurd rfl h
  | notes => exact show (Notes.render ⟨[], true⟩).WellFormed by decide
  | commentPatterns => exact fun l hl => Line.wellFormed_append (by decide) hl
  | pauses => exact show Reveal.pauseLine.WellFormed by decide
  | columns => exact show (Layout.container [] []).WellFormed by decide
  | imageChunks => exact fun d r b hread _ => Figure.wellFormed_render hread
  | codePaths => exact fun l hl => ProjectPath.rewriteLine_keepsMarks.wellFormed hl
  | imageLinks => exact fun l hl => ProjectPath.fixLine_keepsMarks.wellFormed hl
  | footnotes => exact fun d r b _ _ => Footnote.wellFormed_render b
  | stripSeparators | removePatterns | compactLists | setupChunks => exact trivial

theorem Stage.writes_wellFormed {config : Config} (h : ∀ t ∈ config.title, '\n' ∉ t)
    (stage : Stage) : stage.Writes config Line.WellFormed := by
  by_cases hstage : stage = .header
  · rw [hstage]
    exact ⟨by decide, fun fields _ =>
      Metadata.wellFormed_titleLines (Metadata.newline_not_mem_chosenTitle h fields)⟩
  · exact writes_wellFormed_of_ne hstage

/-! ## Reports -/

namespace Pipeline

theorem head?_linesIn (config : Config) (stages : List Stage) (d : Document) :
    (runStages config stages d).reports.head?.map (·.linesIn)
      = stages.head?.map fun _ => d.length := by
  cases stages with
  | nil => rfl
  | cons stage stages => rfl

theorem getLast?_linesOut (config : Config) (stages : List Stage) (d : Document) :
    (runStages config stages d).reports.getLast?.map (·.linesOut)
      = stages.getLast?.map fun _ => (runStages config stages d).lines.length := by
  induction stages generalizing d with
  | nil => rfl
  | cons stage stages ih =>
    cases stages with
    | nil => rfl
    | cons next stages =>
      have h := ih (stage.apply config d)
      simp only [runStages, List.getLast?_cons_cons] at h ⊢
      exact h

/-- Each stage is given what the one before it returned. -/
theorem reports_isChain (config : Config) (stages : List Stage) (d : Document) :
    (runStages config stages d).reports.IsChain fun r next => next.linesIn = r.linesOut := by
  induction stages generalizing d with
  | nil => exact .nil
  | cons stage stages ih =>
    refine List.isChain_cons.2 ⟨?_, ih (stage.apply config d)⟩
    intro r hr
    have h := head?_linesIn config stages (stage.apply config d)
    rw [hr, Option.map_some] at h
    obtain ⟨next, -, hlength⟩ := Option.map_eq_some_iff.1 h.symm
    exact hlength.symm

theorem reports_stage (config : Config) (stages : List Stage) (d : Document) :
    (runStages config stages d).reports.map (·.stage) = stages := by
  induction stages generalizing d with
  | nil => rfl
  | cons stage stages ih => exact congrArg (stage :: ·) (ih (stage.apply config d))

/-! ## Texts -/

/-- **Elements are physical lines.**  A text is read as a document of physical lines, every stage
of a checked configuration keeps such documents, and so the line counts that are reported are
those of the texts: newlines of the converted text are counted by the number of output lines, the
counts of consecutive reports agree, and the first and the last of them are the counts of the
whole conversion. -/
theorem line_counts {b : ConfigBuilder} {config : Config} (h : b.build = .ok config) :
    (∀ s : Text, (Document.ofText s).WellFormed)
      ∧ (∀ (stage : Stage) (d : Document), d.WellFormed → (stage.apply config d).WellFormed)
      ∧ ∀ s : Text,
        (Conversion.ofText config s).text.count '\n'
            = (Conversion.ofText config s).stats.outputLines
          ∧ (Conversion.ofText config s).stats.stages.map (·.stage) = Stage.all
          ∧ (Conversion.ofText config s).stats.stages.IsChain
            (fun r next => next.linesIn = r.linesOut)
          ∧ (Conversion.ofText config s).stats.stages.head?.map (·.linesIn)
            = some (Conversion.ofText config s).stats.inputLines
          ∧ (Conversion.ofText config s).stats.stages.getLast?.map (·.linesOut)
            = some (Conversion.ofText config s).stats.outputLines := by
  have hwrites := fun stage : Stage =>
    stage.writes_wellFormed (ConfigBuilder.newline_not_mem_title h)
  refine ⟨Document.wellFormed_ofText, fun stage d hd => Stage.forall_mem_apply (hwrites stage) hd,
    fun s => ?_⟩
  have hlines : (run config (Document.ofText s)).lines.WellFormed :=
    forall_mem_runStages (fun stage _ => hwrites stage) (Document.wellFormed_ofText s)
  exact ⟨Document.count_newline_text hlines, reports_stage config Stage.all _,
    reports_isChain config Stage.all _, head?_linesIn config Stage.all _,
    getLast?_linesOut config Stage.all _⟩

/-- A title with white space around it passes the check, and a text whose last line is open and
whose line ends are of three sorts comes out line by line. -/
theorem line_counts_titled :
    (ConfigBuilder.ofSettings [.title "  A plan ".toList, .clearDefaultPatterns]).build
        = .ok ⟨some "A plan".toList, [], []⟩
      ∧ (Document.ofText "---\rauthor: b\n---\r\n.footnote[c\nd]".toList).length = 5
      ∧ (Conversion.ofText ⟨some "A plan".toList, [], []⟩
          "---\rauthor: b\n---\r\n.footnote[c\nd]".toList).text.count '\n'
        = (Conversion.ofText ⟨some "A plan".toList, [], []⟩
          "---\rauthor: b\n---\r\n.footnote[c\nd]".toList).stats.outputLines := by
  have hbuild : (ConfigBuilder.ofSettings [.title "  A plan ".toList, .clearDefaultPatterns]).build
      = .ok ⟨some "A plan".toList, [], []⟩ := rfl
  exact ⟨hbuild, by decide, ((line_counts hbuild).2.2 _).1⟩

end Pipeline
end SlideDeck
