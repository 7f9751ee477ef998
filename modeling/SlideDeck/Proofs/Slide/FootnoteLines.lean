import SlideDeck.Proofs.Slide.Sources
import SlideDeck.Proofs.Text.Segments

/-!
# The lines of an inline footnote

A footnote is read from lines and written on lines, though its text is joined and trimmed in
between.  `Footnote.mem_render_of_source` says where a written line comes from: it begins the
footnote, or it is a line of the block up to white space at its end, or it is the front of one with
the closing bracket.
-/

set_option autoImplicit false

namespace SlideDeck

open Text (trimEnd)

/-- What stands at the end of a line has no newline once it is trimmed. -/
theorem Line.newline_not_mem_trimEnd {l : Line} (hl : l.WellFormed) {t : Text} (ht : t <:+ l) :
    '\n' ∉ trimEnd t := by
  obtain ⟨u, hu, rfl⟩ := (Line.wellFormed_iff l).1 hl
  rcases List.suffix_concat_iff.1 ht with rfl | ⟨t', rfl, ht'⟩
  · exact List.not_mem_nil
  · rw [Text.trimEnd_append_of_isBlank t' (by decide)]
    exact fun hn => hu (ht'.subset ((Text.trimEnd_isPrefix t').subset hn))

namespace Footnote

theorem suffix_of_opening {l : Line} {first : Text} (h : opening? l = some first) :
    first <:+ l := by
  rw [opening?, Text.after?_eq_some_iff] at h
  have hstart : Text.trimStart l <:+ l := List.dropWhile_suffix _
  exact List.IsSuffix.trans ⟨".footnote[".toList, h.symm⟩ hstart

theorem dropBracket_isPrefix (l : Line) : dropBracket l <+: l :=
  (List.dropLast_prefix _).trans (Text.trimEnd_isPrefix l)

theorem newline_not_mem_dropBracket {l : Line} (hl : l.WellFormed) {t : Text} (ht : t <:+ l) :
    '\n' ∉ dropBracket t :=
  fun hn => Line.newline_not_mem_trimEnd hl ht (List.dropLast_subset _ hn)

/-- The parts of a footnote of several lines, one a line. -/
def parts (first : Text) (body : Body) : List Text :=
  trimEnd first :: body.lines.map trimEnd
    ++ body.closing.toList.map fun l => trimEnd (dropBracket l)

theorem newline_not_mem_parts {l : Line} {first : Text} {body : Body} (hl : l.WellFormed)
    (hfirst : first <:+ l) (hlines : body.lines.WellFormed)
    (hclosing : ∀ c ∈ body.closing, Line.WellFormed c) :
    ∀ p ∈ parts first body, '\n' ∉ p := by
  refine List.forall_mem_append.2 ⟨List.forall_mem_cons.2
    ⟨Line.newline_not_mem_trimEnd hl hfirst, ?_⟩, ?_⟩
  · intro p hp
    obtain ⟨m, hm, rfl⟩ := List.mem_map.1 hp
    exact Line.newline_not_mem_trimEnd (hlines m hm) (List.suffix_refl m)
  · intro p hp
    obtain ⟨c, hc, rfl⟩ := List.mem_map.1 hp
    have hdrop := newline_not_mem_dropBracket (hclosing c (Option.mem_toList.1 hc))
      (List.suffix_refl c)
    exact fun hn => hdrop ((Text.trimEnd_isPrefix _).subset hn)

theorem mem_of_mem_inner_parts {first : Text} {body : Body} {p : Text}
    (h : p ∈ (parts first body).tail.dropLast) : ∃ m ∈ body.lines, p = trimEnd m := by
  have hp : p ∈ body.lines.map trimEnd := by
    rw [parts, List.cons_append, List.tail_cons] at h
    cases hclosing : body.closing with
    | none =>
      rw [hclosing, Option.toList_none, List.map_nil, List.append_nil] at h
      exact List.dropLast_subset _ h
    | some c =>
      rw [hclosing, Option.toList_some, List.map_singleton, List.dropLast_concat] at h
      exact h
  obtain ⟨m, hm, rfl⟩ := List.mem_map.1 hp
  exact ⟨m, hm, rfl⟩

theorem exists_prefix_of_mem_parts {first : Text} {body : Body} {p : Text}
    (h : p ∈ (parts first body).tail) :
    ∃ m, (m ∈ body.lines ∨ m ∈ body.closing) ∧ p <+: m := by
  rw [parts, List.cons_append, List.tail_cons] at h
  rcases List.mem_append.1 h with h | h
  · obtain ⟨m, hm, rfl⟩ := List.mem_map.1 h
    exact ⟨m, Or.inl hm, Text.trimEnd_isPrefix m⟩
  · obtain ⟨c, hc, rfl⟩ := List.mem_map.1 h
    exact ⟨c, Or.inr (Option.mem_toList.1 hc),
      (Text.trimEnd_isPrefix _).trans (dropBracket_isPrefix c)⟩

/-- **Where a line of an inline footnote comes from.** -/
theorem mem_render_of_source {front : Document} {b : Footnote} (h : Source front b)
    (hfront : front.WellFormed) {k : Line} (hk : k ∈ render b) :
    "^[".toList <+: k
      ∨ (∃ l ∈ front, k = trimEnd l ++ ['\n'])
      ∨ ∃ l ∈ front, ∃ q, q <+: l ∧ Text.isBlank q = false ∧ k = q ++ "]\n".toList := by
  cases h with
  | @line l first hl hfirst =>
    have hdrop : '\n' ∉ dropBracket first := newline_not_mem_dropBracket
      (hfront l (List.mem_singleton_self l)) (suffix_of_opening hl)
    have hjoin : Text.joinWith ['\n'] [dropBracket first] = dropBracket first :=
      List.intercalate_singleton
    rw [render, Document.pushFragment_nil, ← hjoin] at hk
    rcases Text.mem_cut_of_parts (List.cons_ne_nil _ _) (List.forall_mem_singleton.2 hdrop) hk
      with hk | ⟨p, hp, -⟩ | ⟨p, hp, -⟩
    · exact Or.inl hk
    · exact absurd hp List.not_mem_nil
    · exact absurd hp List.not_mem_nil
  | @block l first body hl hfirst hlines hclosing =>
    obtain ⟨hbefore, hafter⟩ := List.forall_mem_append.1 hfront
    obtain ⟨hopen, hbody⟩ := List.forall_mem_cons.1 hbefore
    have hend : ∀ c ∈ body.closing, Line.WellFormed c :=
      fun c hc => hafter c (Option.mem_toList.2 hc)
    have hparts := newline_not_mem_parts hopen (suffix_of_opening hl) hbody hend
    rcases Text.mem_cut_of_parts (List.cons_ne_nil _ _) hparts hk
      with hk | ⟨p, hp, hk⟩ | ⟨p, hp, q, hq, hblank, hk⟩
    · exact Or.inl hk
    · obtain ⟨m, hm, rfl⟩ := mem_of_mem_inner_parts hp
      exact Or.inr (Or.inl ⟨m, List.mem_append_left _ (List.mem_cons_of_mem l hm), hk⟩)
    · obtain ⟨m, hm, hpm⟩ := exists_prefix_of_mem_parts hp
      refine Or.inr (Or.inr ⟨m, ?_, q, hq.trans hpm, hblank, hk⟩)
      rcases hm with hm | hm
      · exact List.mem_append_left _ (List.mem_cons_of_mem l hm)
      · exact List.mem_append_right _ (Option.mem_toList.2 hm)

end Footnote
end SlideDeck
