import SlideDeck.Proofs.Pipeline.Delimiters

/-!
# The front of a document under any patterns

The patterns of a configuration may drop the delimiters of a front or comment them out, and then
the body no longer stands behind a delimiter.  A front stays a front even so, and each of its lines
is treated as if it were the whole document.

* `Line.IsFront` — a delimiter or a title line; `Stage.isFront_of_mem_apply` says that a stage makes
  nothing else of one.
* `Stage.apply_front_append` — a stage on a front and a body.
* `Pipeline.lines_runStages_front_append` — a run on two parts of a front.
* `Pipeline.exists_lines_runStages_front_append` — a run on a front and a body: what holds of the
  body and of all that stages write holds of the lines behind the front.
* `Pipeline.exists_lines_run_front` — the same for a document with a closed block.
-/

set_option autoImplicit false

namespace SlideDeck

/-- A line of a front: a delimiter, or a title, perhaps commented out or respelled. -/
def Line.IsFront (l : Line) : Prop := l.trimsTo delimiter = true ∨ l.IsTitle

theorem Line.IsFront.inert {l : Line} (h : l.IsFront) : l.Inert :=
  h.elim inert_of_delimiter IsTitle.inert

namespace Stage

variable {config : Config} {stage : Stage}

/-- What a stage makes of a delimiter alone: patterns drop it or comment it out. -/
theorem isFront_of_mem_apply_delimiter (hstage : stage ∈ afterFront) {l : Line}
    (hl : l.trimsTo delimiter = true) : ∀ k ∈ stage.apply config [l], k.IsFront := by
  have hbare : Config.SparesDelimiters ⟨none, [], []⟩ := fun _ _ => ⟨rfl, rfl⟩
  have hstay : stage.apply ⟨none, [], []⟩ [l] = [l] := apply_delimiter hbare hstage hl
  have hfront : ∀ k ∈ [l], k.IsFront := List.forall_mem_singleton.2 (Or.inl hl)
  cases stage with
  | header | notes | stripSeparators => exact absurd hstage (by decide)
  | removePatterns => exact fun k hk => hfront k (List.mem_filter.1 hk).1
  | commentPatterns =>
    refine List.forall_mem_singleton.2 ?_
    rw [LineFilter.commentLine]
    split
    · exact Or.inr ⟨"#".toList, by decide, ' ' :: l, rfl⟩
    · exact Or.inl hl
  | pauses | compactLists | columns | imageChunks | setupChunks | codePaths | imageLinks
    | footnotes => exact hstay.symm ▸ hfront

theorem applyAfter_empty (hstage : stage ∈ afterFront) (previous : Line) :
    stage.applyAfter config previous [] = [] := by
  cases stage with
  | header | notes | stripSeparators => exact absurd hstage (by decide)
  | columns => exact Layout.recogniser.rewrite_nil _
  | imageChunks => exact Figure.recogniser.rewrite_nil _
  | setupChunks => exact SetupCode.recogniser.rewrite_nil _
  | footnotes => exact Footnote.recogniser.rewrite_nil _
  | removePatterns | commentPatterns | pauses | compactLists | codePaths | imageLinks => rfl

/-- A front alone is treated line by line. -/
theorem apply_of_front (hstage : stage ∈ afterFront) {front : Document}
    (hfront : ∀ l ∈ front, l.IsFront) :
    stage.apply config front = front.flatMap fun l => stage.apply config [l] := by
  have hinert : ∀ l ∈ front, l.Inert := fun l hl => (hfront l hl).inert
  have h : stage.applyAfter config [] (front ++ []) = _ := applyAfter_append hstage hinert [] []
  rwa [List.append_nil, applyAfter_nil, applyAfter_empty hstage, List.append_nil] at h

/-- A stage makes nothing of a front but a front. -/
theorem isFront_of_mem_apply (hstage : stage ∈ afterFront) {front : Document}
    (hfront : ∀ l ∈ front, l.IsFront) : ∀ k ∈ stage.apply config front, k.IsFront := by
  rw [apply_of_front hstage hfront]
  intro k hk
  obtain ⟨l, hl, hk⟩ := List.mem_flatMap.1 hk
  rcases hfront l hl with hdelimiter | htitle
  · exact isFront_of_mem_apply_delimiter hstage hdelimiter k hk
  · exact Or.inr ((apply_title hstage htitle).2 k hk)

/-- **A stage on a front and a body.** -/
theorem apply_front_append (hstage : stage ∈ afterFront) {front : Document}
    (hfront : ∀ l ∈ front, l.IsFront) (d : Document) :
    stage.apply config (front ++ d)
      = stage.apply config front ++ stage.applyAfter config (front.getLastD []) d := by
  rw [apply_of_front hstage hfront, ← applyAfter_nil,
    applyAfter_append hstage (fun l hl => (hfront l hl).inert)]

end Stage

namespace Pipeline

variable {config : Config} {stages : List Stage}

/-- A run on two parts of a front. -/
theorem lines_runStages_front_append (hstages : ∀ stage ∈ stages, stage ∈ Stage.afterFront)
    {a b : Document} (ha : ∀ l ∈ a, l.IsFront) (hb : ∀ l ∈ b, l.IsFront) :
    (runStages config stages (a ++ b)).lines
      = (runStages config stages a).lines ++ (runStages config stages b).lines := by
  induction stages generalizing a b with
  | nil => rfl
  | cons stage stages ih =>
    obtain ⟨hstage, hstages⟩ := List.forall_mem_cons.1 hstages
    have hab : ∀ l ∈ a ++ b, l.IsFront := List.forall_mem_append.2 ⟨ha, hb⟩
    have happly : stage.apply config (a ++ b) = stage.apply config a ++ stage.apply config b := by
      rw [Stage.apply_of_front hstage hab, Stage.apply_of_front hstage ha,
        Stage.apply_of_front hstage hb, List.flatMap_append]
    show (runStages config stages (stage.apply config (a ++ b))).lines
      = (runStages config stages (stage.apply config a)).lines
        ++ (runStages config stages (stage.apply config b)).lines
    rw [happly]
    exact ih hstages (Stage.isFront_of_mem_apply hstage ha) (Stage.isFront_of_mem_apply hstage hb)

/-- **A run on a front and a body.**  The front is converted as if nothing followed, and the lines
behind it are made of the body and of what stages write. -/
theorem exists_lines_runStages_front_append (config : Config)
    (hstages : ∀ stage ∈ stages, stage ∈ Stage.afterFront) {front : Document}
    (hfront : ∀ l ∈ front, l.IsFront) (body : Document) :
    ∃ rest : Document,
      (runStages config stages (front ++ body)).lines
          = (runStages config stages front).lines ++ rest
        ∧ ∀ P : Line → Prop, (∀ stage ∈ stages, stage.Writes config P) → (∀ l ∈ body, P l) →
          ∀ l ∈ rest, P l := by
  induction stages generalizing front body with
  | nil => exact ⟨body, rfl, fun P _ hbody => hbody⟩
  | cons stage stages ih =>
    obtain ⟨hstage, hstages⟩ := List.forall_mem_cons.1 hstages
    obtain ⟨rest, hlines, hrest⟩ := ih hstages (Stage.isFront_of_mem_apply hstage hfront)
      (stage.applyAfter config (front.getLastD []) body)
    rw [← Stage.apply_front_append hstage hfront] at hlines
    refine ⟨rest, hlines, fun P hP hbody => ?_⟩
    obtain ⟨hwrites, hP⟩ := List.forall_mem_cons.1 hP
    exact hrest P hP (Stage.forall_mem_applyAfter hwrites _ hbody)

/-- **A run on a document with a closed block**: the lines made of the two delimiters and of the
title line stand in front of those made of the body. -/
theorem exists_lines_run_front (config : Config) {d fields body : Document}
    (h : Leading.read d = .closed fields body) :
    ∃ rest : Document,
      (run config d).lines
          = (runStages config Stage.afterFront [Metadata.delimiterLine]).lines
            ++ (runStages config Stage.afterFront
              (Metadata.titleLines (Metadata.chosenTitle config.title fields))).lines
            ++ (runStages config Stage.afterFront [Metadata.delimiterLine]).lines ++ rest
        ∧ ∀ P : Line → Prop, (∀ stage ∈ Stage.afterFront, stage.Writes config P) →
          (∀ l ∈ (Notes.convert body).filter fun l => !Separator.isSeparator l, P l) →
          ∀ l ∈ rest, P l := by
  have hdelimiter : ∀ l ∈ [Metadata.delimiterLine], l.IsFront :=
    List.forall_mem_singleton.2 (Or.inl (by decide))
  have htitle : ∀ l ∈ Metadata.titleLines (Metadata.chosenTitle config.title fields), l.IsFront :=
    fun l hl => Or.inr (Metadata.isTitle_of_mem_titleLines hl)
  have hfirst := List.forall_mem_append.2 ⟨hdelimiter, htitle⟩
  obtain ⟨rest, hlines, hrest⟩ := exists_lines_runStages_front_append config
    (fun _ h => h) (List.forall_mem_append.2 ⟨hfirst, hdelimiter⟩)
    ((Notes.convert body).filter fun l => !Separator.isSeparator l)
  rw [lines_runStages_front_append (fun _ h => h) hfirst hdelimiter,
    lines_runStages_front_append (fun _ h => h) hdelimiter htitle] at hlines
  refine ⟨rest, ?_, hrest⟩
  rw [lines_run, Separator.front_of_closed h, ← hlines, List.append_assoc, List.append_assoc]
  rfl

end Pipeline
end SlideDeck
