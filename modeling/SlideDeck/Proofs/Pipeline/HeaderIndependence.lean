import SlideDeck.Proofs.Pipeline.Delimiters

/-!
# The metadata block does not reach into the body

A title can hold any text, and so can the other fields of a metadata block.  Whatever they hold,
nothing of them is taken for a slide, a list or the start of a block: two decks that differ in
their metadata block, and are converted with different titles, have the same body.  Without a
closed block a title means nothing.

* `MetadataBlock` — the lines from one delimiter to the next at the start of a document;
  `MetadataBlock.exists_iff` says that these are the blocks that the search finds.
* `Pipeline.run_congr` — configurations that differ in the title differ in the first stage.
* `Pipeline.body_independent` — the statement about two runs.
-/

set_option autoImplicit false

namespace SlideDeck

/-! ## Blocks -/

/-- A closed metadata block. -/
structure MetadataBlock where
  first : Line
  fields : Document
  last : Line
  first_trimsTo : first.trimsTo delimiter = true
  last_trimsTo : last.trimsTo delimiter = true
  fields_trimsTo : ∀ l ∈ fields, l.trimsTo delimiter = false

namespace MetadataBlock

/-- The lines of a block, with its two delimiters. -/
def lines (block : MetadataBlock) : Document := block.first :: block.fields ++ [block.last]

theorem read_lines_append (block : MetadataBlock) (body : Document) :
    Leading.read (block.lines ++ body) = .closed block.fields body := by
  refine (Leading.read_eq_closed_iff _ _ _).2
    ⟨block.first, block.last, ?_, block.first_trimsTo, block.last_trimsTo, block.fields_trimsTo⟩
  simp [lines]

/-- The search for a block finds one exactly in documents that start with one. -/
theorem exists_iff (d : Document) :
    (∃ (block : MetadataBlock) (body : Document), d = block.lines ++ body)
      ↔ ∃ fields body, Leading.read d = .closed fields body := by
  constructor
  · rintro ⟨block, body, rfl⟩
    exact ⟨block.fields, body, block.read_lines_append body⟩
  · rintro ⟨fields, body, h⟩
    obtain ⟨first, last, rfl, hfirst, hlast, hfields⟩ := (Leading.read_eq_closed_iff d _ _).1 h
    exact ⟨⟨first, fields, last, hfirst, hlast, hfields⟩, body, by simp [lines]⟩

end MetadataBlock

/-! ## What a title can change -/

/-- Two configurations have the same patterns; their titles may differ. -/
structure Config.SamePatterns (c₁ c₂ : Config) : Prop where
  remove : c₁.removePatterns = c₂.removePatterns
  comment : c₁.commentPatterns = c₂.commentPatterns

namespace Config.SamePatterns

variable {c₁ c₂ : Config}

theorem sparesDelimiters (h : c₁.SamePatterns c₂) (hconfig : c₁.SparesDelimiters) :
    c₂.SparesDelimiters := by
  intro l hl
  rw [← h.remove, ← h.comment]
  exact hconfig l hl

/-- It is the first stage alone that looks at the title. -/
theorem apply_eq (h : c₁.SamePatterns c₂) {stage : Stage} (hstage : stage ≠ .header)
    (d : Document) : stage.apply c₁ d = stage.apply c₂ d := by
  cases stage with
  | header => contradiction
  | removePatterns => simp [Stage.apply, h.remove]
  | commentPatterns => simp [Stage.apply, h.comment]
  | _ => rfl

theorem events_eq {stage : Stage} (hstage : stage ≠ .header) (d : Document) :
    stage.events c₁ d = stage.events c₂ d := by
  cases stage with
  | header => contradiction
  | _ => rfl

theorem applyAfter_eq (h : c₁.SamePatterns c₂) {stage : Stage} (hstage : stage ≠ .header)
    (previous : Line) (d : Document) :
    stage.applyAfter c₁ previous d = stage.applyAfter c₂ previous d := by
  cases stage with
  | pauses => rfl
  | _ => exact h.apply_eq hstage d

theorem runBody_eq (h : c₁.SamePatterns c₂) {stages : List Stage}
    (hstages : ∀ stage ∈ stages, stage ≠ .header)
    (last : Line) (d : Document) :
    Stage.runBody c₁ last stages d = Stage.runBody c₂ last stages d := by
  induction stages generalizing d with
  | nil => rfl
  | cons stage stages ih =>
    obtain ⟨hstage, hstages⟩ := List.forall_mem_cons.1 hstages
    have hstep := h.applyAfter_eq hstage last d
    have hrest := ih hstages (stage.applyAfter c₁ last d)
    rw [hstep] at hrest
    simpa [Stage.runBody, hstep] using hrest

theorem body_eq (h : c₁.SamePatterns c₂) (d : Document) :
    Pipeline.body c₁ d = Pipeline.body c₂ d :=
  h.runBody_eq (by decide) _ _

theorem runStages_eq (h : c₁.SamePatterns c₂) {stages : List Stage}
    (hstages : ∀ stage ∈ stages, stage ≠ .header)
    (d : Document) : Pipeline.runStages c₁ stages d = Pipeline.runStages c₂ stages d := by
  induction stages generalizing d with
  | nil => rfl
  | cons stage stages ih =>
    obtain ⟨hstage, hstages⟩ := List.forall_mem_cons.1 hstages
    simp only [Pipeline.runStages]
    rw [h.apply_eq hstage, events_eq hstage, ih hstages]

end Config.SamePatterns

/-- Without a closed block the title is not even mentioned in the log. -/
theorem Metadata.events_of_not_closed {d : Document}
    (h : ∀ fields body, Leading.read d ≠ .closed fields body) (t₁ t₂ : Option Text) :
    events t₁ d = events t₂ d := by
  rw [events, events]
  cases hread : Leading.read d with
  | closed fields body => exact absurd hread (h fields body)
  | absent | unclosed => rfl

namespace Pipeline

/-- Two runs with the same patterns are the same after the first stage. -/
theorem run_congr {c₁ c₂ : Config} (h : c₁.SamePatterns c₂) {d : Document}
    (hnormalize : Metadata.normalize c₁.title d = Metadata.normalize c₂.title d)
    (hevents : Metadata.events c₁.title d = Metadata.events c₂.title d) :
    run c₁ d = run c₂ d := by
  have happly : Stage.header.apply c₁ d = Stage.header.apply c₂ d := hnormalize
  have htold : Stage.header.events c₁ d = Stage.header.events c₂ d := hevents
  have hrest : ∀ e, runStages c₁ Stage.all.tail e = runStages c₂ Stage.all.tail e :=
    h.runStages_eq (by decide)
  show runStages c₁ (.header :: Stage.all.tail) d = runStages c₂ (.header :: Stage.all.tail) d
  simp only [runStages]
  rw [happly, htold, hrest]

/-- **The body does not depend on the metadata block.**  Let two configurations have the same
patterns, and these leave delimiters alone.  Then the conversions of one body behind two blocks
are two delimiters with at most one line between them each, and behind these the same lines.  A
document without a closed block is converted as if there were no titles. -/
theorem body_independent {c₁ c₂ : Config} (hsame : c₁.SamePatterns c₂) :
    (c₁.SparesDelimiters → ∀ (block₁ block₂ : MetadataBlock) (d : Document),
      ∃ title₁ title₂ rest : Document, title₁.length ≤ 1 ∧ title₂.length ≤ 1
        ∧ (run c₁ (block₁.lines ++ d)).lines
          = ["---\n".toList] ++ title₁ ++ ["---\n".toList] ++ rest
        ∧ (run c₂ (block₂.lines ++ d)).lines
          = ["---\n".toList] ++ title₂ ++ ["---\n".toList] ++ rest)
    ∧ ∀ d : Document, (∀ (block : MetadataBlock) (rest : Document), d ≠ block.lines ++ rest) →
      run c₁ d = run c₂ d := by
  constructor
  · intro hconfig block₁ block₂ d
    obtain ⟨title₁, hle₁, -, hlines₁⟩ :=
      lines_run_of_closed hconfig (block₁.read_lines_append d)
    obtain ⟨title₂, hle₂, -, hlines₂⟩ :=
      lines_run_of_closed (hsame.sparesDelimiters hconfig) (block₂.read_lines_append d)
    refine ⟨title₁, title₂, body c₁ d, hle₁, hle₂, ?_, ?_⟩
    · simpa [Metadata.delimiterLine, delimiter] using hlines₁
    · rw [hsame.body_eq d]
      simpa [Metadata.delimiterLine, delimiter] using hlines₂
  · intro d hd
    have hread : ∀ fields rest, Leading.read d ≠ .closed fields rest := by
      intro fields rest h
      obtain ⟨block, rest', heq⟩ := (MetadataBlock.exists_iff d).2 ⟨fields, rest, h⟩
      exact hd block rest' heq
    refine run_congr hsame ?_ (Metadata.events_of_not_closed hread _ _)
    simp [Metadata.normalize_of_not_closed hread]

/-- A title that looks like a list item, in front of a list and in a document without block. -/
theorem body_independent_listItem :
    Config.default.SamePatterns { Config.default with title := some "- a".toList }
      ∧ Config.default.SparesDelimiters
      ∧ (∃ title₁ title₂ rest : Document, title₁.length ≤ 1 ∧ title₂.length ≤ 1
        ∧ (run Config.default (["---\n".toList, "title: b\n".toList, " ---\n".toList]
            ++ ["- c\n".toList, "\n".toList, "- d\n".toList])).lines
          = ["---\n".toList] ++ title₁ ++ ["---\n".toList] ++ rest
        ∧ (run { Config.default with title := some "- a".toList }
            (["---\n".toList, "---\n".toList]
            ++ ["- c\n".toList, "\n".toList, "- d\n".toList])).lines
          = ["---\n".toList] ++ title₂ ++ ["---\n".toList] ++ rest)
      ∧ (∀ (block : MetadataBlock) (rest : Document), ["- c\n".toList] ≠ block.lines ++ rest)
      ∧ run Config.default ["- c\n".toList]
        = run { Config.default with title := some "- a".toList } ["- c\n".toList] := by
  have hsame : Config.default.SamePatterns { Config.default with title := some "- a".toList } :=
    ⟨rfl, rfl⟩
  have hopen : ∀ (block : MetadataBlock) (rest : Document),
      ["- c\n".toList] ≠ block.lines ++ rest := by
    intro block rest h
    have hfirst := block.first_trimsTo
    have hitem : "- c\n".toList = block.first := (List.cons.inj h).1
    rw [← hitem] at hfirst
    exact absurd hfirst (by decide)
  refine ⟨hsame, Config.sparesDelimiters_default, ?_, hopen, ?_⟩
  · exact (body_independent hsame).1 Config.sparesDelimiters_default
      ⟨"---\n".toList, ["title: b\n".toList], " ---\n".toList, by decide, by decide, by decide⟩
      ⟨"---\n".toList, [], "---\n".toList, by decide, by decide, by decide⟩
      ["- c\n".toList, "\n".toList, "- d\n".toList]
  · exact (body_independent hsame).2 ["- c\n".toList] hopen

end Pipeline
end SlideDeck
