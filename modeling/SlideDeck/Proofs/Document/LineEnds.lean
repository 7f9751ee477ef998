import SlideDeck.Proofs.Document.WellFormed

/-!
# Line ends, read and written

Reading unifies line ends, so a document that has been read has no carriage return, and a document
without one is read back from its text line by line.  With one it is not: a reader takes it for a
line end.

* `Text.unifyNewlines_crlf`, `unifyNewlines_return` and `unifyNewlines_cons` — what the two
  replacements come to at the front of a text.
* `Text.unifyNewlines_eq_self_iff` — the texts that are read as they are.
* `Document.return_not_mem_ofText` — no carriage return in a document that has been read.
* `Document.ofText_text_iff` — when a document of physical lines is read back from its text.
-/

set_option autoImplicit false

namespace SlideDeck

namespace Text

theorem startsWith_cons_of_ne {a b : Char} (h : a ≠ b) (s t : Text) :
    startsWith (a :: s) (b :: t) = false := by
  rw [Bool.eq_false_iff, Ne, startsWith, List.isPrefixOf_iff_prefix, List.cons_prefix_cons]
  exact fun hab => h hab.1.symm

theorem unifyNewlines_crlf (r : Text) :
    unifyNewlines ('\r' :: '\n' :: r) = '\n' :: unifyNewlines r := by
  have hpair : replace ['\r', '\n'] ['\n'] ('\r' :: '\n' :: r)
      = '\n' :: replace ['\r', '\n'] ['\n'] r := replace_append (List.cons_ne_nil _ _) _ r
  rw [unifyNewlines, hpair, replace_cons (startsWith_cons_of_ne (by decide) _ _), unifyNewlines]

/-- A carriage return with no newline behind it is left to the second replacement. -/
theorem unifyNewlines_return {r : Text} (h : r.head? ≠ some '\n') :
    unifyNewlines ('\r' :: r) = '\n' :: unifyNewlines r := by
  have hpair : startsWith ('\r' :: r) ['\r', '\n'] = false := by
    rw [Bool.eq_false_iff, Ne, startsWith, List.isPrefixOf_iff_prefix]
    rintro ⟨t, ht⟩
    rw [← (List.cons.inj ht).2] at h
    exact h rfl
  rw [unifyNewlines, replace_cons hpair]
  exact replace_append (List.cons_ne_nil _ _) _ _

theorem unifyNewlines_cons {c : Char} (hc : c ≠ '\r') (r : Text) :
    unifyNewlines (c :: r) = c :: unifyNewlines r := by
  rw [unifyNewlines, replace_cons (startsWith_cons_of_ne hc _ _),
    replace_cons (startsWith_cons_of_ne hc _ _), unifyNewlines]

theorem not_mem_replace {c : Char} {new : Text} (h : c ∉ new) (s : Text) :
    c ∉ replace [c] new s := by
  induction s with
  | nil => exact List.not_mem_nil
  | cons a r ih =>
    by_cases ha : a = c
    · have hreplace : replace [c] new (c :: r) = new ++ replace [c] new r :=
        replace_append (List.cons_ne_nil c []) new r
      rw [ha, hreplace, List.mem_append]
      exact not_or.2 ⟨h, ih⟩
    · rw [replace_cons (startsWith_cons_of_ne ha r []), List.mem_cons]
      exact not_or.2 ⟨Ne.symm ha, ih⟩

theorem return_not_mem_unifyNewlines (s : Text) : '\r' ∉ unifyNewlines s :=
  not_mem_replace (by decide) _

/-- A text is read as it is exactly if it has no carriage return. -/
theorem unifyNewlines_eq_self_iff (s : Text) : unifyNewlines s = s ↔ '\r' ∉ s := by
  refine ⟨fun h => h ▸ return_not_mem_unifyNewlines s, fun h => ?_⟩
  induction s with
  | nil => rfl
  | cons c r ih =>
    obtain ⟨hc, hr⟩ := not_or.1 (mt List.mem_cons.2 h)
    rw [unifyNewlines_cons (Ne.symm hc), ih hr]

end Text

namespace Document

/-- Cutting a text and ending its lines adds nothing but newlines. -/
theorem mem_of_mem_lines {s : Text} {c : Char} (hc : c ≠ '\n') {l : Line}
    (hl : l ∈ (Text.cutAfterNewlines s).map Line.terminate) (hmem : c ∈ l) : c ∈ s := by
  obtain ⟨p, hp, rfl⟩ := List.mem_map.1 hl
  have hpiece : c ∈ p := by
    rw [Line.terminate] at hmem
    split at hmem
    · exact hmem
    · exact (List.mem_append.1 hmem).resolve_right (by simpa using hc)
  rw [← Text.cutAfterNewlines_flatten s]
  exact List.mem_flatten.2 ⟨p, hp, hpiece⟩

theorem return_not_mem_ofText (s : Text) : ∀ l ∈ ofText s, '\r' ∉ l := fun _ hl hmem =>
  Text.return_not_mem_unifyNewlines s (mem_of_mem_lines (by decide) hl hmem)

/-- A document of physical lines is what its text is cut into. -/
theorem cutAfterNewlines_text {d : Document} (hd : d.WellFormed) :
    Text.cutAfterNewlines d.text = d := by
  induction d with
  | nil => rfl
  | cons l d ih =>
    obtain ⟨hl, hrest⟩ := List.forall_mem_cons.1 hd
    obtain ⟨t, ht, rfl⟩ := (Line.wellFormed_iff l).1 hl
    have htext : text ((t ++ ['\n']) :: d) = t ++ '\n' :: text d := by
      rw [text, List.flatten_cons, List.append_assoc, List.singleton_append, text]
    rw [htext, Text.cutAfterNewlines_append ht, ih hrest]

/-- **A document of physical lines is read back from its text** exactly if it has no carriage
return. -/
theorem ofText_text_iff {d : Document} (hd : d.WellFormed) : ofText d.text = d ↔ '\r' ∉ d.text := by
  constructor
  · intro h hmem
    obtain ⟨l, hl, hreturn⟩ := List.mem_flatten.1 hmem
    rw [← h] at hl
    exact return_not_mem_ofText _ l hl hreturn
  · intro h
    have hterminate : ∀ l ∈ d, Line.terminate l = l := fun l hl => by
      rw [Line.terminate, if_pos (hd l hl).1]
    rw [ofText, (Text.unifyNewlines_eq_self_iff _).2 h, cutAfterNewlines_text hd,
      List.map_congr_left hterminate, List.map_id']

end Document
end SlideDeck
