import SlideDeck.Proofs.Pipeline.Written
import SlideDeck.Proofs.Text.Trim

/-!
# The metadata block, before and after

The block at the start of a document is looked for twice: when it is reduced to the title, and
when slide separators are taken out of what follows it.  In between, speaker notes are rewritten.
Both searches delimit the same block, because notes start at a marker, and no line of a block that
has been reduced is one.

* `Leading.read_eq_absent_iff` and `Leading.read_eq_unclosed_iff` — the two documents without a
  closed block; `Leading.read_eq_closed_iff` is the third.
* `Separator.leadingLength_of_absent`, `leadingLength_of_unclosed` and `leadingLength_of_closed` —
  the second search agrees with the first one.
* `Separator.strip_of_absent`, `strip_of_unclosed` and `strip_of_closed` — what is taken out.
* `Separator.front_of_absent`, `front_of_unclosed` and `front_of_closed` — the three rules
  together.
-/

set_option autoImplicit false

namespace SlideDeck

/-! ## Where the block ends -/

namespace Leading

theorem read_of_not_delimiter {l : Line} (h : l.trimsTo delimiter = false) (d : Document) :
    read (l :: d) = absent := by
  rw [read, if_neg (Bool.eq_false_iff.1 h)]

theorem read_of_delimiter {l : Line} (h : l.trimsTo delimiter = true) (d : Document) :
    read (l :: d) =
      if (Body.read (·.trimsTo delimiter) d).closed then
        closed (Body.read (·.trimsTo delimiter) d).lines (Body.read (·.trimsTo delimiter) d).rest
      else unclosed := by
  rw [read, if_pos h]

theorem read_eq_absent_iff (d : Document) :
    read d = absent ↔ ∀ l ∈ d.head?, l.trimsTo delimiter = false := by
  cases d with
  | nil => simp [read]
  | cons l d =>
    cases hl : l.trimsTo delimiter with
    | false =>
      refine ⟨fun _ k hk => ?_, fun _ => read_of_not_delimiter hl d⟩
      obtain rfl := Option.some.inj hk
      exact hl
    | true =>
      rw [read_of_delimiter hl]
      constructor
      · intro h
        split at h <;> cases h
      · intro h
        rw [h l rfl] at hl
        exact absurd hl (by decide)

theorem read_eq_unclosed_iff (d : Document) :
    read d = unclosed ↔
      ∃ first rest, d = first :: rest ∧ first.trimsTo delimiter = true
        ∧ ∀ l ∈ rest, l.trimsTo delimiter = false := by
  cases d with
  | nil => simp [read]
  | cons l d =>
    cases hl : l.trimsTo delimiter with
    | false =>
      rw [read_of_not_delimiter hl]
      refine ⟨fun h => (by cases h), ?_⟩
      rintro ⟨first, rest, heq, hfirst, -⟩
      obtain ⟨rfl, -⟩ := List.cons.inj heq
      rw [hl] at hfirst
      exact absurd hfirst (by decide)
    | true =>
      have hopen : (Body.read (·.trimsTo delimiter) d).closed = false ↔
          ∀ k ∈ d, k.trimsTo delimiter = false := by
        rw [Body.closed, Body.read, Option.isSome_eq_false_iff, Option.isNone_iff_eq_none,
          List.find?_eq_none]
        exact forall₂_congr fun k _ => Bool.eq_false_iff.symm
      rw [read_of_delimiter hl]
      constructor
      · intro h
        split at h
        · cases h
        · next hclosed => exact ⟨l, d, rfl, hl, hopen.1 (Bool.eq_false_iff.2 hclosed)⟩
      · rintro ⟨first, rest, heq, -, hrest⟩
        obtain ⟨-, rfl⟩ := List.cons.inj heq
        rw [if_neg (Bool.eq_false_iff.1 (hopen.2 hrest))]

/-- The second delimiter is the first one after the fields. -/
theorem findIdx?_of_closed {fields : Document} {last : Line}
    (hfields : ∀ l ∈ fields, l.trimsTo delimiter = false) (hlast : last.trimsTo delimiter = true)
    (body : Document) :
    ((fields ++ last :: body).findIdx? fun l => l.trimsTo delimiter) = some fields.length := by
  have hnone : (fields.findIdx? fun l => l.trimsTo delimiter) = none :=
    List.findIdx?_eq_none_iff.2 hfields
  rw [List.findIdx?_append, hnone, List.findIdx?_cons, if_pos hlast, Option.none_or,
    Option.map_some, Nat.zero_add]

end Leading

/-! ## Separators after the block -/

namespace Separator

theorem leadingLength_of_absent {d : Document} (h : Leading.read d = .absent) :
    leadingLength d = 0 := by
  cases d with
  | nil => rfl
  | cons l d =>
    have hl : l.trimsTo delimiter = false := (Leading.read_eq_absent_iff _).1 h l rfl
    rw [leadingLength, if_neg (Bool.eq_false_iff.1 hl)]

theorem leadingLength_of_unclosed {d : Document} (h : Leading.read d = .unclosed) :
    leadingLength d = d.length := by
  obtain ⟨first, rest, rfl, hfirst, hrest⟩ := (Leading.read_eq_unclosed_iff d).1 h
  have hnone : (rest.findIdx? fun l => l.trimsTo delimiter) = none :=
    List.findIdx?_eq_none_iff.2 hrest
  rw [leadingLength, if_pos hfirst, hnone, List.length_cons]

theorem leadingLength_of_closed {d fields body : Document}
    (h : Leading.read d = .closed fields body) : leadingLength d = fields.length + 2 := by
  obtain ⟨first, last, rfl, hfirst, hlast, hfields⟩ := (Leading.read_eq_closed_iff d _ _).1 h
  rw [List.cons_append, leadingLength, if_pos hfirst, Leading.findIdx?_of_closed hfields hlast]

theorem strip_of_absent {d : Document} (h : Leading.read d = .absent) :
    strip d = d.filter fun l => !isSeparator l := by
  rw [strip, leadingLength_of_absent h, List.take_zero, List.drop_zero, List.nil_append]

theorem strip_of_unclosed {d : Document} (h : Leading.read d = .unclosed) : strip d = d := by
  rw [strip, leadingLength_of_unclosed h, List.take_length, List.drop_length, List.filter_nil,
    List.append_nil]

theorem strip_of_closed {first last : Line} {fields body : Document}
    (h : Leading.read (first :: fields ++ last :: body) = .closed fields body) :
    strip (first :: fields ++ last :: body)
      = first :: fields ++ last :: body.filter fun l => !isSeparator l := by
  have hlength : leadingLength (first :: fields ++ last :: body)
      = (first :: fields ++ [last]).length := by
    rw [leadingLength_of_closed h, List.length_append]
    rfl
  have hd : first :: fields ++ last :: body = first :: fields ++ [last] ++ body := by
    rw [List.append_assoc, List.singleton_append]
  rw [strip, hlength, hd, List.take_left, List.drop_left, List.append_assoc, List.singleton_append]

end Separator

/-! ## Notes do not reach into the block -/

namespace Notes

theorem not_marker_of_delimiter {l : Line} (h : l.trimsTo delimiter = true) :
    isMarker l = false := by
  rw [Line.trimsTo_iff] at h
  rw [isMarker, Line.trimsTo, h]
  decide

theorem convert_append {front : Document} (h : ∀ l ∈ front, isMarker l = false) (d : Document) :
    convert (front ++ d) = front ++ convert d :=
  recogniser.rewrite_append render (fun l hl d => read_of_not_marker (h l hl) d) d

/-- Neither a first line that notes leave alone nor the one they write is a delimiter. -/
theorem read_convert_of_absent {d : Document} (h : Leading.read d = .absent) :
    Leading.read (convert d) = .absent := by
  cases d with
  | nil => rwa [convert, Recogniser.rewrite_nil]
  | cons l d =>
    cases hread : recogniser.read (l :: d) with
    | none =>
      rw [Leading.read_eq_absent_iff] at h ⊢
      rw [convert, recogniser.rewrite_cons_of_none render hread]
      exact h
    | some p =>
      rw [convert, recogniser.rewrite_of_some render hread]
      exact Leading.read_of_not_delimiter (by decide) _

theorem read_convert_of_unclosed {d : Document} (h : Leading.read d = .unclosed) :
    Leading.read (convert d) = .unclosed := by
  obtain ⟨first, rest, rfl, hfirst, hrest⟩ := (Leading.read_eq_unclosed_iff d).1 h
  have hconvert : convert (first :: rest) = first :: convert rest :=
    convert_append (List.forall_mem_singleton.2 (not_marker_of_delimiter hfirst)) rest
  have hlines : ∀ l ∈ convert rest, l.trimsTo delimiter = false :=
    forall_mem_convert (by decide) hrest
  exact (Leading.read_eq_unclosed_iff _).2 ⟨first, convert rest, hconvert, hfirst, hlines⟩

end Notes

/-! ## Title lines -/

namespace Metadata

/-- A title line cannot be mistaken for anything but what it is. -/
theorem opensWith_of_mem_titleLines {title : Option Text} {l : Line} (h : l ∈ titleLines title) :
    l.opensWith "title:".toList = true := by
  cases title with
  | none => exact absurd h List.not_mem_nil
  | some t =>
    rw [titleLines] at h
    split at h
    · exact absurd h List.not_mem_nil
    · obtain rfl := List.mem_singleton.1 h
      exact Line.opensWith_append (by decide) (by decide) (by decide) (' ' :: t ++ ['\n'])

theorem length_titleLines_le (title : Option Text) : (titleLines title).length ≤ 1 := by
  cases title with
  | none => exact Nat.zero_le 1
  | some t =>
    rw [titleLines]
    split
    · exact Nat.zero_le 1
    · exact Nat.le_refl 1

theorem normalize_of_closed {configured : Option Text} {d fields body : Document}
    (h : Leading.read d = .closed fields body) :
    normalize configured d
      = delimiterLine :: titleLines (chosenTitle configured fields) ++ delimiterLine :: body := by
  rw [normalize, h]

theorem normalize_of_not_closed {d : Document}
    (h : ∀ fields body, Leading.read d ≠ .closed fields body) (configured : Option Text) :
    normalize configured d = d := by
  rw [normalize]
  split
  · next fields body hread => exact absurd hread (h fields body)
  · rfl

end Metadata

/-! ## The three rules in a row -/

namespace Separator

theorem front_of_absent {configured : Option Text} {d : Document}
    (h : Leading.read d = .absent) :
    strip (Notes.convert (Metadata.normalize configured d))
      = (Notes.convert d).filter fun l => !isSeparator l := by
  rw [Metadata.normalize, h]
  exact strip_of_absent (Notes.read_convert_of_absent h)

theorem front_of_unclosed {configured : Option Text} {d : Document}
    (h : Leading.read d = .unclosed) :
    strip (Notes.convert (Metadata.normalize configured d)) = Notes.convert d := by
  rw [Metadata.normalize, h]
  exact strip_of_unclosed (Notes.read_convert_of_unclosed h)

/-- **Both searches find one block.**  What is stripped of separators is the body, after its notes
have been rewritten; the reduced block stands in front of it as it was written. -/
theorem front_of_closed {configured : Option Text} {d fields body : Document}
    (h : Leading.read d = .closed fields body) :
    strip (Notes.convert (Metadata.normalize configured d))
      = Metadata.delimiterLine
        :: Metadata.titleLines (Metadata.chosenTitle configured fields)
        ++ Metadata.delimiterLine
        :: (Notes.convert body).filter fun l => !isSeparator l := by
  have hdelimiter : Metadata.delimiterLine.trimsTo delimiter = true := by decide
  have htitle : ∀ l ∈ Metadata.titleLines (Metadata.chosenTitle configured fields),
      Notes.isMarker l = false ∧ l.trimsTo delimiter = false := by
    intro l hl
    have hopens := Metadata.opensWith_of_mem_titleLines hl
    exact ⟨Line.trimsTo_eq_false hopens (by decide), Line.trimsTo_eq_false hopens (by decide)⟩
  rw [Metadata.normalize_of_closed h]
  generalize Metadata.titleLines (Metadata.chosenTitle configured fields) = title at htitle ⊢
  have hconvert : Notes.convert (Metadata.delimiterLine :: title ++ Metadata.delimiterLine :: body)
      = Metadata.delimiterLine :: title ++ Metadata.delimiterLine :: Notes.convert body := by
    have hfront : ∀ l ∈ Metadata.delimiterLine :: title ++ [Metadata.delimiterLine],
        Notes.isMarker l = false := by
      have hmarker := Notes.not_marker_of_delimiter hdelimiter
      refine List.forall_mem_append.2 ⟨List.forall_mem_cons.2 ⟨hmarker, fun l hl => ?_⟩,
        List.forall_mem_singleton.2 hmarker⟩
      exact (htitle l hl).1
    have happend := Notes.convert_append hfront body
    rwa [List.append_assoc, List.append_assoc, List.singleton_append, List.singleton_append]
      at happend
  rw [hconvert]
  exact strip_of_closed ((Leading.read_eq_closed_iff _ _ _).2
    ⟨_, _, rfl, hdelimiter, hdelimiter, fun l hl => (htitle l hl).2⟩)

end Separator
end SlideDeck
