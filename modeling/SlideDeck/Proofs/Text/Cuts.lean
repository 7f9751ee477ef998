import SlideDeck.Proofs.Text.Trim

/-!
# Texts that are cut at certain places

What puts something in at certain places of a text leaves the parts between them as they were.  So
its result is the text, cut at these places, with what is put in between the parts.

* `CutAt` — the parts of a text that is cut at all places of a kind, and nowhere else.
* `CutAt.append` and `CutAt.cut` — a front before a text that is cut: it has no place of its own, or
  one at its end.
* `append_cons_inj` — the first place of a character cuts a text in one way.
* `joinWith_append` — a front before parts that are joined.
-/

set_option autoImplicit false

namespace SlideDeck.Text

/-- A text is cut in one way where a character stands for the first time. -/
theorem append_cons_inj {s s' t t' : Text} {c : Char} (hs : c ∉ s) (hs' : c ∉ s')
    (h : s ++ c :: t = s' ++ c :: t') : s = s' ∧ t = t' := by
  obtain ⟨hfront, hrest⟩ := takeWhile_dropWhile_append_cons hs t
  obtain ⟨hfront', hrest'⟩ := takeWhile_dropWhile_append_cons hs' t'
  rw [h] at hfront hrest
  exact ⟨hfront.symm.trans hfront', (List.cons.inj (hrest.symm.trans hrest')).2⟩

/-- Whether two neighbours among the parts of a text meet behind `front`. -/
def MeetAt (parts : List Text) (front : Text) : Prop :=
  ∃ before after, parts = before ++ after ∧ before ≠ [] ∧ after ≠ [] ∧ before.flatten = front

/-- The parts of a text that is cut exactly at the places of a kind.  A place is given by what
stands on its two sides. -/
structure CutAt (IsPlace : Text → Text → Prop) (s : Text) (parts : List Text) : Prop where
  /-- Without the cuts it is the text. -/
  flatten : parts.flatten = s
  /-- No place is cut twice. -/
  tail_ne : ∀ p ∈ parts.tail, p ≠ []
  place_iff : ∀ front rest, front ++ rest = s → (IsPlace front rest ↔ MeetAt parts front)

theorem not_meetAt_singleton (p front : Text) : ¬ MeetAt [p] front := by
  rintro ⟨before, after, hparts, hbefore, hafter, -⟩
  rcases List.singleton_eq_append_iff.1 hparts with ⟨h, -⟩ | ⟨-, h⟩
  · exact hbefore h
  · exact hafter h

theorem meetAt_cons_cons (q p : Text) (parts : List Text) (front : Text) :
    MeetAt (q :: p :: parts) front ↔ front = q ∨ ∃ f, front = q ++ f ∧ MeetAt (p :: parts) f := by
  constructor
  · rintro ⟨before, after, hparts, hbefore, hafter, rfl⟩
    obtain ⟨b, before, rfl⟩ := List.exists_cons_of_ne_nil hbefore
    obtain ⟨rfl, hrest⟩ := List.cons.inj hparts
    by_cases hne : before = []
    · rw [hne]
      exact Or.inl (by simp)
    · exact Or.inr ⟨before.flatten, rfl, before, after, hrest, hne, hafter, rfl⟩
  · rintro (rfl | ⟨f, rfl, before, after, hparts, hbefore, hafter, rfl⟩)
    · exact ⟨[front], p :: parts, rfl, List.cons_ne_nil _ _, List.cons_ne_nil _ _, by simp⟩
    · exact ⟨q :: before, after, congrArg (q :: ·) hparts, List.cons_ne_nil _ _, hafter, rfl⟩

theorem meetAt_append (x p : Text) (parts : List Text) (front : Text) :
    MeetAt ((x ++ p) :: parts) front ↔ ∃ f, front = x ++ f ∧ MeetAt (p :: parts) f := by
  cases parts with
  | nil =>
    refine iff_of_false (not_meetAt_singleton _ _) ?_
    rintro ⟨f, -, hf⟩
    exact not_meetAt_singleton p f hf
  | cons q parts =>
    simp only [meetAt_cons_cons]
    constructor
    · rintro (rfl | ⟨f, rfl, hf⟩)
      · exact ⟨p, rfl, Or.inl rfl⟩
      · exact ⟨p ++ f, List.append_assoc x p f, Or.inr ⟨f, rfl, hf⟩⟩
    · rintro ⟨f, rfl, rfl | ⟨f, rfl, hf⟩⟩
      · exact Or.inl rfl
      · exact Or.inr ⟨f, (List.append_assoc x p f).symm, hf⟩

variable {IsPlace : Text → Text → Prop} {s p : Text} {parts : List Text}

theorem cutAt_nil (h : ¬ IsPlace [] []) : CutAt IsPlace [] [[]] where
  flatten := rfl
  tail_ne := List.forall_mem_nil _
  place_iff := by
    intro front rest heq
    obtain ⟨rfl, rfl⟩ := List.append_eq_nil_iff.1 heq
    exact iff_of_false h (not_meetAt_singleton _ _)

/-- A front without places belongs to the first part. -/
theorem CutAt.append (h : CutAt IsPlace s (p :: parts)) (x : Text)
    (hplace : ∀ front rest, front ++ rest = x ++ s →
      (IsPlace front rest ↔ ∃ f, front = x ++ f ∧ IsPlace f rest)) :
    CutAt IsPlace (x ++ s) ((x ++ p) :: parts) where
  flatten := by rw [List.flatten_cons, List.append_assoc, ← List.flatten_cons, h.flatten]
  tail_ne := h.tail_ne
  place_iff := by
    intro front rest heq
    rw [hplace front rest heq, meetAt_append]
    refine exists_congr fun f => and_congr_right ?_
    rintro rfl
    rw [List.append_assoc] at heq
    exact h.place_iff f rest (List.append_cancel_left heq)

/-- A front that ends in a place is a part of its own. -/
theorem CutAt.cut (h : CutAt IsPlace s (p :: parts)) (hp : p ≠ []) (x : Text)
    (hplace : ∀ front rest, front ++ rest = x ++ s →
      (IsPlace front rest ↔ front = x ∨ ∃ f, front = x ++ f ∧ IsPlace f rest)) :
    CutAt IsPlace (x ++ s) (x :: p :: parts) where
  flatten := by rw [List.flatten_cons, h.flatten]
  tail_ne := List.forall_mem_cons.2 ⟨hp, h.tail_ne⟩
  place_iff := by
    intro front rest heq
    rw [hplace front rest heq, meetAt_cons_cons]
    refine or_congr_right (exists_congr fun f => and_congr_right ?_)
    rintro rfl
    rw [List.append_assoc] at heq
    exact h.place_iff f rest (List.append_cancel_left heq)

/-! ## Parts joined again -/

theorem joinWith_cons_cons (separator q p : Text) (parts : List Text) :
    joinWith separator (q :: p :: parts) = q ++ separator ++ joinWith separator (p :: parts) :=
  List.intercalate_cons_cons

theorem joinWith_append (separator x p : Text) (parts : List Text) :
    joinWith separator ((x ++ p) :: parts) = x ++ joinWith separator (p :: parts) := by
  cases parts with
  | nil => rw [joinWith, joinWith, List.intercalate_singleton, List.intercalate_singleton]
  | cons q parts => rw [joinWith_cons_cons, joinWith_cons_cons]; simp

end SlideDeck.Text
