import SlideDeck.Pipeline
import SlideDeck.Proofs.Document.Rewriting
import SlideDeck.Proofs.Slide.Sources

/-!
# What stages write

A stage passes lines on and writes some of its own.  A property of lines that holds of all that a
stage is given therefore holds of all that it returns as soon as it holds of what the stage
writes, and that is a handful of fixed lines for most of them.

* `Stage.Writes` says that a property holds of what a stage writes.
* `Stage.forall_mem_apply` is the step, `Pipeline.forall_mem_runStages` a run of several stages.
-/

set_option autoImplicit false

namespace SlideDeck

/-- What a stage writes into a document whose lines all satisfy `P` satisfies `P`. -/
def Stage.Writes (config : Config) (P : Line → Prop) : Stage → Prop
  | header =>
    P Metadata.delimiterLine ∧ ∀ fields : Document, (∀ l ∈ fields, P l) →
      ∀ l ∈ Metadata.titleLines (Metadata.chosenTitle config.title fields), P l
  | notes => ∀ l ∈ Notes.render ⟨[], true⟩, P l
  | commentPatterns => ∀ l, P l → P ("# ".toList ++ l)
  | pauses => P Reveal.pauseLine
  | columns => ∀ l ∈ Layout.container [] [], P l
  | imageChunks => ∀ (d r : Document) (b : ImageChunk), Figure.read d = some (b, r) →
      (∀ l ∈ d, P l) → ∀ l ∈ Figure.render b, P l
  | codePaths => ∀ l, P l → P (ProjectPath.rewriteLine l)
  | imageLinks => ∀ l, P l → P (ProjectPath.fixLine l)
  | footnotes => ∀ (d r : Document) (b : Footnote), Footnote.read d = some (b, r) →
      (∀ l ∈ d, P l) → ∀ l ∈ Footnote.render b, P l
  | stripSeparators | removePatterns | compactLists | setupChunks => True

variable {P : Line → Prop}

/-! ## Stage by stage -/

theorem Metadata.forall_mem_normalize {config : Config} (h : Stage.Writes config P .header)
    {d : Document} (hd : ∀ l ∈ d, P l) : ∀ l ∈ normalize config.title d, P l := by
  rw [normalize]
  split
  · next fields body hread =>
    obtain ⟨first, last, rfl, -, -, -⟩ := (Leading.read_eq_closed_iff d fields body).1 hread
    obtain ⟨-, hd⟩ := List.forall_mem_cons.1 hd
    obtain ⟨hfields, hd⟩ := List.forall_mem_append.1 hd
    obtain ⟨-, hbody⟩ := List.forall_mem_cons.1 hd
    exact List.forall_mem_cons.2 ⟨h.1, List.forall_mem_append.2
      ⟨h.2 fields hfields, List.forall_mem_cons.2 ⟨h.1, hbody⟩⟩⟩
  · exact hd

theorem Notes.forall_mem_convert (h : ∀ l ∈ render ⟨[], true⟩, P l) {d : Document}
    (hd : ∀ l ∈ d, P l) : ∀ l ∈ convert d, P l := by
  refine recogniser.forall_mem_rewrite ?_ hd
  intro s r b hread hs
  obtain ⟨marker, -, rfl⟩ := read_eq_some hread
  obtain ⟨hopen, hclose⟩ := List.forall_mem_cons.1 h
  obtain ⟨hlines, -⟩ := List.forall_mem_append.1 (List.forall_mem_cons.1 hs).2
  exact List.forall_mem_cons.2 ⟨hopen, List.forall_mem_append.2 ⟨hlines, hclose⟩⟩

theorem Separator.forall_mem_strip {d : Document} (hd : ∀ l ∈ d, P l) :
    ∀ l ∈ strip d, P l := by
  intro l hl
  rcases List.mem_append.1 hl with hl | hl
  · exact hd l (List.mem_of_mem_take hl)
  · exact hd l (List.mem_of_mem_drop (List.mem_filter.1 hl).1)

theorem LineFilter.forall_mem_comment {patterns : List Pattern}
    (h : ∀ l, P l → P ("# ".toList ++ l)) {d : Document} (hd : ∀ l ∈ d, P l) :
    ∀ l ∈ comment patterns d, P l := by
  intro l hl
  obtain ⟨k, hk, rfl⟩ := List.mem_map.1 hl
  rw [commentLine]
  split
  · exact h k (hd k hk)
  · exact hd k hk

theorem Reveal.forall_mem_convertPausesAfter (h : P pauseLine) (previous : Line) {d : Document}
    (hd : ∀ l ∈ d, P l) : ∀ l ∈ convertPausesAfter previous d, P l := by
  induction d generalizing previous with
  | nil => exact hd
  | cons l d ih =>
    obtain ⟨hl, hd⟩ := List.forall_mem_cons.1 hd
    refine List.forall_mem_append.2 ⟨?_, ih l hd⟩
    rw [convertPause]
    split
    · split
      · exact List.forall_mem_nil _
      · split
        · exact List.forall_mem_singleton.2 h
        · exact List.forall_mem_singleton.2 hl
    · exact List.forall_mem_singleton.2 hl

theorem Reveal.compactLists_sublist (d : Document) : (compactLists d).Sublist d := by
  induction d using compactLists.induct with
  | case1 a b c d hloose ih =>
    rw [compactLists, if_pos hloose]
    exact (ih.cons b).cons_cons a
  | case2 a b c d hloose ih =>
    rw [compactLists, if_neg hloose]
    exact ih.cons_cons a
  | case3 d hshort =>
    have hsame : compactLists d = d := by
      rw [compactLists]
      exact hshort
    exact hsame.symm ▸ List.Sublist.refl d

theorem Layout.mem_renderColumn {lines : Document} {l : Line} (h : l ∈ renderColumn lines) :
    l ∈ lines ∨ l ∈ renderColumn [] := by
  rw [renderColumn, List.cons_append, List.mem_cons, List.mem_append] at h
  rcases h with rfl | h | h
  · exact Or.inr (List.mem_cons_self ..)
  · exact Or.inl h
  · exact Or.inr (List.mem_cons_of_mem _ h)

theorem Layout.mem_container {left right : Document} {l : Line} (h : l ∈ container left right) :
    l ∈ left ∨ l ∈ right ∨ l ∈ container [] [] := by
  have hscaffold : ∀ k, k ∈ renderColumn [] → k ∈ container [] [] := fun k hk =>
    List.mem_append_left _ (List.mem_append_left _ (List.mem_append_right _ hk))
  rw [container] at h
  rcases List.mem_append.1 h with h | h
  · rcases List.mem_append.1 h with h | h
    · rcases List.mem_append.1 h with h | h
      · exact Or.inr (Or.inr (List.mem_append_left _
          (List.mem_append_left _ (List.mem_append_left _ h))))
      · exact (mem_renderColumn h).imp_right fun h => Or.inr (hscaffold l h)
    · exact Or.inr ((mem_renderColumn h).imp_right (hscaffold l))
  · exact Or.inr (Or.inr (List.mem_append_right _ h))

theorem Layout.mem_render_of_form {front : Document} {b : Layout} (h : Form front b) {l : Line}
    (hl : l ∈ render b) : l ∈ front ∨ l ∈ container [] [] := by
  cases h with
  | pair =>
    rcases mem_container hl with hl | hl | hl
    · exact Or.inl (List.mem_cons_of_mem _ (List.mem_append_left _ hl))
    · exact Or.inl (List.mem_cons_of_mem _ (List.mem_append_right _ (List.mem_cons_of_mem _
        (List.mem_append_right _ (List.mem_cons_of_mem _ (List.mem_append_left _ hl))))))
    · exact Or.inr hl
  | loneLeft =>
    rcases mem_container hl with hl | hl | hl
    · exact Or.inl (List.mem_cons_of_mem _ (List.mem_append_left _ hl))
    · exact absurd hl List.not_mem_nil
    · exact Or.inr hl
  | openLeft =>
    rcases mem_container hl with hl | hl | hl
    · exact Or.inl (List.mem_cons_of_mem _ hl)
    · exact absurd hl List.not_mem_nil
    · exact Or.inr hl
  | loneRight =>
    rcases mem_container hl with hl | hl | hl
    · exact absurd hl List.not_mem_nil
    · exact Or.inl (List.mem_cons_of_mem _ (List.mem_append_left _ hl))
    · exact Or.inr hl

theorem Layout.forall_mem_convert (h : ∀ l ∈ container [] [], P l) {d : Document}
    (hd : ∀ l ∈ d, P l) : ∀ l ∈ convert d, P l := by
  refine recogniser.forall_mem_rewrite ?_ hd
  intro s r b hread hs l hl
  obtain ⟨front, rfl, hform, -⟩ := form_of_read hread
  rcases mem_render_of_form hform hl with hl | hl
  · exact hs l (List.mem_append_left r hl)
  · exact h l hl

/-! ## The step and the run -/

/-- **What a stage passes on and what it writes is all it returns.** -/
theorem Stage.forall_mem_apply {config : Config} {stage : Stage} (h : stage.Writes config P)
    {d : Document} (hd : ∀ l ∈ d, P l) : ∀ l ∈ stage.apply config d, P l := by
  cases stage with
  | header => exact Metadata.forall_mem_normalize h hd
  | notes => exact Notes.forall_mem_convert h hd
  | stripSeparators => exact Separator.forall_mem_strip hd
  | removePatterns => exact fun l hl => hd l (List.mem_filter.1 hl).1
  | commentPatterns => exact LineFilter.forall_mem_comment h hd
  | pauses => exact Reveal.forall_mem_convertPausesAfter h [] hd
  | compactLists => exact fun l hl => hd l ((Reveal.compactLists_sublist d).subset hl)
  | columns => exact Layout.forall_mem_convert h hd
  | imageChunks => exact Figure.recogniser.forall_mem_rewrite h hd
  | setupChunks =>
    exact SetupCode.recogniser.forall_mem_rewrite (fun _ _ _ _ _ => List.forall_mem_nil _) hd
  | codePaths => exact List.forall_mem_map.2 fun l hl => h l (hd l hl)
  | imageLinks => exact List.forall_mem_map.2 fun l hl => h l (hd l hl)
  | footnotes => exact Footnote.recogniser.forall_mem_rewrite h hd

theorem Pipeline.forall_mem_runStages {config : Config} {stages : List Stage}
    (h : ∀ stage ∈ stages, stage.Writes config P) {d : Document} (hd : ∀ l ∈ d, P l) :
    ∀ l ∈ (runStages config stages d).lines, P l := by
  induction stages generalizing d with
  | nil => exact hd
  | cons stage stages ih =>
    obtain ⟨hstage, hstages⟩ := List.forall_mem_cons.1 h
    exact ih hstages (Stage.forall_mem_apply hstage hd)

end SlideDeck
