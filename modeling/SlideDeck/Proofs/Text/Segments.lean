import SlideDeck.Proofs.Document.WellFormed
import SlideDeck.Proofs.Text.Trim

/-!
# The lines of a text put together from parts

An inline footnote is put together from parts, one a line, trimmed as a whole and put between
brackets.  So its lines are the parts again, except that the first one has an opening bracket in
front and the last one a closing bracket behind.

* `infix_of_infix_append` and `infix_or_infix_of_infix_append_cons` — where in a text a part of it
  can lie.
* `joinWith_concat` — a last part, joined to those before it.
* `cutAfterNewlines_concat` — cutting after newlines and splitting at newlines.
* `exists_of_mem_splitOn`, `mem_splitOn_of_between` and `exists_mem_splitOn_of_after` — the
  segments of a text, and where they stand in it.
* `mem_cut_of_parts` — the lines of such a footnote.
-/

set_option autoImplicit false

namespace SlideDeck.Text

/-- A front of two texts is a front of the first one, or reaches into the second one. -/
theorem prefix_append_cases {m s t : Text} (h : m <+: s ++ t) :
    m <+: s ∨ ∃ r, r <+: t ∧ m = s ++ r := by
  rcases List.prefix_or_prefix_of_prefix h (List.prefix_append s t) with hm | ⟨r, rfl⟩
  · exact Or.inl hm
  · exact Or.inr ⟨r, (List.prefix_append_right_inj s).1 h, rfl⟩

/-- A mark without a character that follows is not cut by it. -/
theorem prefix_of_prefix_append_cons {m s t : Text} {c : Char} (h : m <+: s ++ c :: t)
    (hc : c ∉ m) : m <+: s := by
  rcases prefix_append_cases h with hm | ⟨r, hr, rfl⟩
  · exact hm
  · cases r with
    | nil => exact ⟨[], by rw [List.append_nil, List.append_nil]⟩
    | cons d r =>
      obtain ⟨rfl, -⟩ := List.cons_prefix_cons.1 hr
      exact absurd (List.mem_append_right s (List.mem_cons_self ..)) hc

/-- A part of a text that begins with a character which the front of the text lacks lies behind
the front. -/
theorem infix_of_infix_append {m x y : Text} {c : Char} (hm : m.head? = some c) (hx : c ∉ x)
    (h : m <:+: x ++ y) : m <:+: y := by
  induction x with
  | nil => exact h
  | cons a x ih =>
    obtain ⟨ha, hx⟩ := not_or.1 (mt List.mem_cons.2 hx)
    rcases List.infix_cons_iff.1 h with hprefix | h
    · obtain ⟨m', rfl⟩ := List.head?_eq_some_iff.1 hm
      exact absurd (List.cons_prefix_cons.1 hprefix).1 ha
    · exact ih hx h

/-- A part of a text that lacks a character of the text lies on one side of it. -/
theorem infix_or_infix_of_infix_append_cons {m s t : Text} {c : Char} (h : m <:+: s ++ c :: t)
    (hc : c ∉ m) : m <:+: s ∨ m <:+: t := by
  induction s with
  | nil =>
    rcases List.infix_cons_iff.1 h with hprefix | h
    · exact Or.inl (prefix_of_prefix_append_cons hprefix hc).isInfix
    · exact Or.inr h
  | cons a s ih =>
    rcases List.infix_cons_iff.1 h with hprefix | h
    · exact Or.inl (prefix_of_prefix_append_cons hprefix hc).isInfix
    · exact (ih h).imp_left List.infix_cons

theorem joinWith_concat (separator p : Text) {parts : List Text} (hne : parts ≠ []) :
    joinWith separator (parts ++ [p]) = joinWith separator parts ++ (separator ++ p) := by
  rw [joinWith, joinWith]
  induction parts with
  | nil => exact absurd rfl hne
  | cons q parts ih =>
    by_cases hparts : parts = []
    · simp [hparts, List.intercalate_cons_cons]
    · rw [List.cons_append, List.intercalate_cons_of_ne_nil (by simp), ih hparts,
        List.intercalate_cons_of_ne_nil hparts]
      simp

/-! ## Segments between newlines -/

theorem cutAfterNewlines_concat (s : Text) :
    cutAfterNewlines (s ++ ['\n']) = (s.splitOn '\n').map (· ++ ['\n']) := by
  induction s using line_induction with
  | last t ht =>
    rw [cutAfterNewlines_append ht, List.splitOn_eq_singleton ht]
    rfl
  | line t r ht ih =>
    rw [List.append_assoc, List.cons_append, cutAfterNewlines_append ht, ih,
      List.splitOn_append_cons_self_of_not_mem ht, List.map_cons]

/-- A segment has no newline and stands between newlines, or at an end of the text. -/
theorem exists_of_mem_splitOn {q s : Text} (h : q ∈ s.splitOn '\n') :
    '\n' ∉ q ∧ ∃ x y, s = x ++ (q ++ y) ∧ (x = [] ∨ ∃ x', x = x' ++ ['\n'])
      ∧ (y = [] ∨ ∃ y', y = '\n' :: y') := by
  induction s using line_induction with
  | last t ht =>
    rw [List.splitOn_eq_singleton ht] at h
    obtain rfl := List.mem_singleton.1 h
    exact ⟨ht, [], [], (List.append_nil q).symm, Or.inl rfl, Or.inl rfl⟩
  | line t r ht ih =>
    rw [List.splitOn_append_cons_self_of_not_mem ht] at h
    rcases List.mem_cons.1 h with rfl | h
    · exact ⟨ht, [], '\n' :: r, rfl, Or.inl rfl, Or.inr ⟨r, rfl⟩⟩
    · obtain ⟨hq, x, y, rfl, hx, hy⟩ := ih h
      refine ⟨hq, t ++ '\n' :: x, y, by simp, Or.inr ?_, hy⟩
      rcases hx with rfl | ⟨x', rfl⟩
      · exact ⟨t, rfl⟩
      · exact ⟨t ++ '\n' :: x', by simp⟩

theorem mem_splitOn_of_between {q : Text} (hq : '\n' ∉ q) (w y : Text) :
    q ∈ ((w ++ '\n' :: (q ++ '\n' :: y)).splitOn '\n').tail.dropLast := by
  rw [List.splitOn_append_cons_self, List.splitOn_append_cons_self_of_not_mem hq]
  obtain ⟨first, more, hw⟩ := List.exists_cons_of_ne_nil (List.splitOn_ne_nil '\n' w)
  have hy := List.splitOn_ne_nil '\n' y
  rw [hw, List.cons_append, List.tail_cons, List.dropLast_append_of_ne_nil (List.cons_ne_nil _ _),
    List.dropLast_cons_of_ne_nil hy]
  exact List.mem_append_right more (List.mem_cons_self ..)

theorem exists_mem_splitOn_of_after {q : Text} (hq : '\n' ∉ q) (w b : Text) :
    ∃ p ∈ ((w ++ '\n' :: (q ++ b)).splitOn '\n').tail, q <+: p := by
  have hsegment : ∃ p ∈ (q ++ b).splitOn '\n', q <+: p := by
    by_cases hb : '\n' ∈ b
    · obtain ⟨b', r, rfl, hb'⟩ := List.eq_append_cons_of_mem hb
      have hqb : '\n' ∉ q ++ b' := fun h => (List.mem_append.1 h).elim hq hb'
      rw [← List.append_assoc, List.splitOn_append_cons_self_of_not_mem hqb]
      exact ⟨q ++ b', List.mem_cons_self .., List.prefix_append q b'⟩
    · have hqb : '\n' ∉ q ++ b := fun h => (List.mem_append.1 h).elim hq hb
      rw [List.splitOn_eq_singleton hqb]
      exact ⟨q ++ b, List.mem_singleton_self _, List.prefix_append q b⟩
  obtain ⟨p, hp, hqp⟩ := hsegment
  obtain ⟨first, more, hw⟩ := List.exists_cons_of_ne_nil (List.splitOn_ne_nil '\n' w)
  refine ⟨p, ?_, hqp⟩
  rw [List.splitOn_append_cons_self, hw, List.cons_append, List.tail_cons]
  exact List.mem_append_right more hp

/-! ## Parts between brackets -/

/-- A line of a text in brackets is the first one, a line further on, or the last one. -/
theorem mem_cut_of_brackets {t : Text} {l : Line}
    (h : l ∈ cutAfterNewlines ("^[".toList ++ t ++ "]\n".toList)) :
    "^[".toList <+: l
      ∨ (∃ w q y, '\n' ∉ q ∧ t = w ++ '\n' :: (q ++ '\n' :: y) ∧ l = q ++ ['\n'])
      ∨ ∃ w q, '\n' ∉ q ∧ t = w ++ '\n' :: q ∧ l = q ++ "]\n".toList := by
  have hconcat : "^[".toList ++ t ++ "]\n".toList = "^[".toList ++ (t ++ [']']) ++ ['\n'] := by
    simp
  rw [hconcat, cutAfterNewlines_concat] at h
  obtain ⟨q, hmem, rfl⟩ := List.mem_map.1 h
  obtain ⟨hq, x, y, heq, hx, hy⟩ := exists_of_mem_splitOn hmem
  have hopen : "^[".toList <+: x ++ (q ++ y) := heq ▸ List.prefix_append _ _
  rcases hx with rfl | ⟨x', rfl⟩
  · left
    refine List.IsPrefix.trans ?_ (List.prefix_append q ['\n'])
    rw [List.nil_append] at hopen
    rcases hy with rfl | ⟨y', rfl⟩
    · rwa [List.append_nil] at hopen
    · exact prefix_of_prefix_append_cons hopen (by decide)
  · right
    rw [List.append_assoc, List.singleton_append] at hopen heq
    obtain ⟨w, rfl⟩ := prefix_of_prefix_append_cons hopen (by decide)
    rw [List.append_assoc, List.append_cancel_left_eq] at heq
    rcases hy with rfl | ⟨y', rfl⟩
    · right
      rw [List.append_nil] at heq
      rcases List.eq_nil_or_concat' q with rfl | ⟨q', c, rfl⟩
      · exact absurd (List.append_inj' heq rfl).2 (by decide)
      · rw [← List.cons_append, ← List.append_assoc] at heq
        obtain ⟨ht, hc⟩ := List.append_inj' heq rfl
        rw [← hc] at hq ⊢
        exact ⟨w, q', fun hn => hq (List.mem_append_left _ hn), ht, by simp⟩
    · left
      rcases List.eq_nil_or_concat' y' with rfl | ⟨y'', c, rfl⟩
      · have hnewline : t ++ [']'] = (w ++ '\n' :: q) ++ ['\n'] := by
          rw [heq, List.append_assoc, List.cons_append]
        exact absurd (List.append_inj' hnewline rfl).2 (by decide)
      · have hlast : t ++ [']'] = (w ++ '\n' :: (q ++ '\n' :: y'')) ++ [c] := by
          rw [heq]
          simp
        exact ⟨w, q, y'', hq, (List.append_inj' hlast rfl).1, rfl⟩

/-- The last line of a trimmed text is not blank, if it is not the only one. -/
theorem not_isBlank_of_trim_eq {s w q : Text} (h : trim s = w ++ '\n' :: q) :
    isBlank q = false := by
  rw [Bool.eq_false_iff, Ne]
  intro hq
  have hblank : isBlank ('\n' :: q) = true := by
    rw [isBlank, List.all_cons, ← isBlank, hq]
    decide
  have hne : '\n' :: q ≠ [] := List.cons_ne_nil '\n' q
  have hlast : (trim s).getLast? = some (('\n' :: q).getLast hne) := by
    rw [h, List.getLast?_append_of_ne_nil _ hne, List.getLast?_eq_some_getLast hne]
  have hspace := (isBlank_iff _).1 hblank _ (List.getLast_mem hne)
  rw [getLast?_trimEnd (trimStart s) hlast] at hspace
  exact absurd hspace (by decide)

/-- **The lines of a bracketed text.**  The parts are joined line by line, trimmed as a whole and
put between brackets.  Then a line begins with the opening bracket, or it is one of the parts, the
first and the last excepted, or it is the beginning of a part with the closing bracket, and not
the bracket alone. -/
theorem mem_cut_of_parts {parts : List Text} (hne : parts ≠ []) (hparts : ∀ p ∈ parts, '\n' ∉ p)
    {l : Line}
    (h : l ∈ cutAfterNewlines ("^[".toList ++ trim (joinWith ['\n'] parts) ++ "]\n".toList)) :
    "^[".toList <+: l
      ∨ (∃ p ∈ parts.tail.dropLast, l = p ++ ['\n'])
      ∨ ∃ p ∈ parts.tail, ∃ q, q <+: p ∧ isBlank q = false ∧ l = q ++ "]\n".toList := by
  have hsplit : (joinWith ['\n'] parts).splitOn '\n' = parts :=
    List.splitOn_intercalate '\n' hparts hne
  -- the joined text is the trimmed one with white space around it, newlines among it
  obtain ⟨a, b, -, -, hjoined⟩ := exists_trim (joinWith ['\n'] parts)
  rcases mem_cut_of_brackets h with hfirst | ⟨w, q, y, hq, ht, hl⟩ | ⟨w, q, hq, ht, hl⟩
  · exact Or.inl hfirst
  · rw [ht] at hjoined
    have hmem := mem_splitOn_of_between hq (a ++ w) (y ++ b)
    have hshape : a ++ w ++ '\n' :: (q ++ '\n' :: (y ++ b)) = joinWith ['\n'] parts := by
      rw [hjoined]
      simp
    rw [hshape, hsplit] at hmem
    exact Or.inr (Or.inl ⟨q, hmem, hl⟩)
  · rw [ht] at hjoined
    obtain ⟨p, hp, hqp⟩ := exists_mem_splitOn_of_after hq (a ++ w) b
    have hshape : a ++ w ++ '\n' :: (q ++ b) = joinWith ['\n'] parts := by
      rw [hjoined]
      simp
    rw [hshape, hsplit] at hp
    exact Or.inr (Or.inr ⟨p, hp, q, hqp, not_isBlank_of_trim_eq ht, hl⟩)

end SlideDeck.Text
