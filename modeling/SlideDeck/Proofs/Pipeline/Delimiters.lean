import SlideDeck.Proofs.Pattern.Literal
import SlideDeck.Proofs.Pipeline.Front
import SlideDeck.Proofs.Pipeline.Unforgeable

/-!
# Delimiters in the converted document

A line `---` delimits the metadata block at the start of a deck and separates slides everywhere
else.  In the converted document only the delimiters are left: two of them around the title if the
block was closed, the first line if it was not, and none if there was no block.

* `Stage.writes_body` — separators that are out stay out.
* `Pipeline.lines_run_of_closed` — a closed block is reduced, and the body treated apart from it.
* `Pipeline.delimiters_run` — the three cases.
-/

set_option autoImplicit false

namespace SlideDeck

/-! ## Separators that are out stay out -/

theorem unforgeable_delimiter : Unforgeable (·.trimsTo delimiter) :=
  unforgeable_trimsTo (by decide) (by decide) (by decide) (by decide)

theorem unforgeable_classes : Unforgeable (·.opensWith "class:".toList) :=
  unforgeable_opensWith (by decide) (by decide) (by decide) (by decide) (by decide) (by decide)

theorem unforgeable_separator : Unforgeable Separator.isSeparator :=
  unforgeable_delimiter.or unforgeable_classes

theorem Stage.writes_body (config : Config) {test : Line → Bool} (h : Unforgeable test) :
    ∀ stage ∈ afterFront, stage.Writes config fun l => l.WellFormed ∧ test l = false :=
  fun _ hstage => writes_of_unforgeable h (ne_header_of_afterFront hstage)

/-- What notes and the removal of separators leave of lines of a text. -/
theorem wellFormed_not_separator {d : Document} (hd : d.WellFormed) :
    ∀ l ∈ (Notes.convert d).filter fun l => !Separator.isSeparator l,
      l.WellFormed ∧ Separator.isSeparator l = false := by
  have hnotes : (Notes.convert d).WellFormed := Notes.forall_mem_convert (by decide) hd
  intro l hl
  obtain ⟨hmem, hkept⟩ := List.mem_filter.1 hl
  rw [Bool.not_eq_true'] at hkept
  exact ⟨hnotes l hmem, hkept⟩

/-- The built-in patterns look for texts that no delimiter contains. -/
theorem Config.sparesDelimiters_default : Config.default.SparesDelimiters := by
  intro l hl
  have hx : 'x' ∉ l := Line.not_mem_of_trimsTo hl (by decide) (by decide)
  have hparen : '(' ∉ l := Line.not_mem_of_trimsTo hl (by decide) (by decide)
  have hremove : defaultRemove.isMatch l = false := by
    rw [isMatch_defaultRemove, Bool.eq_false_iff, Ne, Text.startsWith_iff]
    exact fun hstarts => hx (hstarts.subset (by decide))
  have hcomment : defaultComment.isMatch l = false := by
    rw [isMatch_defaultComment, Bool.eq_false_iff, Ne, Text.contains_iff]
    exact fun hpart => hparen (hpart.subset (by decide))
  exact ⟨by simpa [Pattern.anyMatch, default] using hremove,
    by simpa [Pattern.anyMatch, default] using hcomment⟩

/-! ## The three cases -/

namespace Pipeline

variable {config : Config}

theorem lines_run (config : Config) (d : Document) :
    (run config d).lines
      = (runStages config Stage.afterFront
        (Separator.strip (Notes.convert (Metadata.normalize config.title d)))).lines := rfl

theorem not_separator_run_of_absent {d : Document} (hd : d.WellFormed)
    (h : Leading.read d = .absent) :
    ∀ l ∈ (run config d).lines, Separator.isSeparator l = false := by
  rw [lines_run, Separator.front_of_absent h]
  have hlines := forall_mem_runStages (Stage.writes_body config unforgeable_separator)
    (wellFormed_not_separator hd)
  exact fun l hl => (hlines l hl).2

/-- What a run makes of the body of a document, behind a closed block. -/
def body (config : Config) (d : Document) : Document :=
  Stage.runBody config Metadata.delimiterLine Stage.afterFront
    ((Notes.convert d).filter fun l => !Separator.isSeparator l)

/-- A run on a document with a closed block: the block is reduced to at most a title, and the body
is treated apart from it. -/
theorem lines_run_of_closed (hconfig : config.SparesDelimiters) {d fields rest : Document}
    (h : Leading.read d = .closed fields rest) :
    ∃ title : Document, title.length ≤ 1 ∧ (∀ l ∈ title, l.IsTitle)
      ∧ (run config d).lines
        = Metadata.delimiterLine :: title ++ Metadata.delimiterLine :: body config rest := by
  have hdelimiter : Metadata.delimiterLine.trimsTo delimiter = true := by decide
  have hchosen : ∀ l ∈ Metadata.titleLines (Metadata.chosenTitle config.title fields), l.IsTitle :=
    fun l hl => Metadata.isTitle_of_mem_titleLines hl
  obtain ⟨title, hle, htitle, hlines⟩ := exists_lines_runStages hconfig (fun _ h => h)
    (List.forall_mem_singleton.2 hdelimiter) hchosen hdelimiter
    ((Notes.convert rest).filter fun l => !Separator.isSeparator l)
  refine ⟨title, hle.trans (Metadata.length_titleLines_le _), htitle, ?_⟩
  rw [lines_run, Separator.front_of_closed h]
  exact hlines

theorem not_separator_body {d : Document} (hd : d.WellFormed) :
    ∀ l ∈ body config d, Separator.isSeparator l = false := by
  have hlines := Stage.forall_mem_runBody (Stage.writes_body config unforgeable_separator)
    Metadata.delimiterLine (wellFormed_not_separator hd)
  exact fun l hl => (hlines l hl).2

theorem exists_lines_run_of_closed (hconfig : config.SparesDelimiters) {d fields rest : Document}
    (hd : d.WellFormed) (h : Leading.read d = .closed fields rest) :
    ∃ title body' : Document,
      (run config d).lines = Metadata.delimiterLine :: title ++ Metadata.delimiterLine :: body'
        ∧ title.length ≤ 1 ∧ (∀ l ∈ title, l.IsTitle)
        ∧ ∀ l ∈ body', Separator.isSeparator l = false := by
  have hrest : rest.WellFormed := by
    obtain ⟨first, last, rfl, -, -, -⟩ := (Leading.read_eq_closed_iff d fields rest).1 h
    exact fun l hl => hd l (List.mem_append_right _ (List.mem_cons_of_mem last hl))
  obtain ⟨title, hle, htitle, hlines⟩ := lines_run_of_closed hconfig h
  exact ⟨title, body config rest, hlines, hle, htitle, not_separator_body hrest⟩

theorem exists_lines_run_of_unclosed (hconfig : config.SparesDelimiters) {first : Line}
    {rest : Document} (hd : Document.WellFormed (first :: rest))
    (hfirst : first.trimsTo delimiter = true) (hrest : ∀ l ∈ rest, l.trimsTo delimiter = false) :
    ∃ rest' : Document, (run config (first :: rest)).lines = first :: rest'
      ∧ ∀ l ∈ rest', l.trimsTo delimiter = false := by
  have hunclosed : Leading.read (first :: rest) = .unclosed :=
    (Leading.read_eq_unclosed_iff _).2 ⟨first, rest, rfl, hfirst, hrest⟩
  have hconvert : Notes.convert (first :: rest) = first :: Notes.convert rest :=
    Notes.convert_append (List.forall_mem_singleton.2 (Notes.not_marker_of_delimiter hfirst)) rest
  have hlines : ∀ l ∈ Notes.convert rest, l.WellFormed ∧ l.trimsTo delimiter = false := by
    have hstay : ∀ l ∈ rest, l.WellFormed ∧ l.trimsTo delimiter = false := fun l hl =>
      ⟨hd l (List.mem_cons_of_mem first hl), hrest l hl⟩
    exact Notes.forall_mem_convert (by decide) hstay
  obtain ⟨title, hle, -, hrun⟩ := exists_lines_runStages hconfig (fun _ h => h)
    (List.forall_mem_nil _) (List.forall_mem_nil _) hfirst (Notes.convert rest)
  obtain rfl := List.length_eq_zero_iff.1 (Nat.le_zero.1 hle)
  refine ⟨Stage.runBody config first Stage.afterFront (Notes.convert rest), ?_, fun l hl => ?_⟩
  · rw [lines_run, Separator.front_of_unclosed hunclosed, hconvert]
    exact hrun
  · exact (Stage.forall_mem_runBody (Stage.writes_body config unforgeable_delimiter)
      first hlines l hl).2

/-- **Delimiters.**  Let the patterns of a configuration leave delimiters alone.  If a text does
not start with one, the converted document has no line that separates slides or gives them
classes.  If it starts with one and has a second, the converted document starts with two
delimiters, at most one line, a title, between them, and no separator after them.  If it starts
with the only one it has, that line is the first one of the converted document and the only
delimiter there. -/
theorem delimiters_run (hconfig : config.SparesDelimiters) (s : Text) :
    ((∀ l ∈ (Document.ofText s).head?, l.trimsTo delimiter = false) →
      ∀ l ∈ (run config (Document.ofText s)).lines,
        l.trimsTo delimiter = false ∧ l.opensWith "class:".toList = false)
    ∧ (∀ first rest, Document.ofText s = first :: rest → first.trimsTo delimiter = true →
      (∃ l ∈ rest, l.trimsTo delimiter = true) →
        ∃ title body : Document,
          (run config (Document.ofText s)).lines
            = Metadata.delimiterLine :: title ++ Metadata.delimiterLine :: body
          ∧ title.length ≤ 1 ∧ (∀ l ∈ title, l.trimsTo delimiter = false)
          ∧ ∀ l ∈ body, l.trimsTo delimiter = false ∧ l.opensWith "class:".toList = false)
    ∧ ∀ first rest, Document.ofText s = first :: rest → first.trimsTo delimiter = true →
      (∀ l ∈ rest, l.trimsTo delimiter = false) →
        ∃ body : Document, (run config (Document.ofText s)).lines = first :: body
          ∧ ∀ l ∈ body, l.trimsTo delimiter = false := by
  have hd := Document.wellFormed_ofText s
  refine ⟨fun hfirst l hl => ?_, fun first rest heq hfirst hsecond => ?_,
    fun first rest heq hfirst hrest => ?_⟩
  · have hseparator :=
      not_separator_run_of_absent hd ((Leading.read_eq_absent_iff _).2 hfirst) l hl
    exact Bool.or_eq_false_iff.1 hseparator
  · rw [heq] at hd ⊢
    obtain ⟨l, hl, hdelimiter⟩ := hsecond
    cases hread : Leading.read (first :: rest) with
    | absent =>
      rw [(Leading.read_eq_absent_iff _).1 hread first rfl] at hfirst
      exact absurd hfirst (by decide)
    | unclosed =>
      obtain ⟨first', rest', hshape, -, hrest⟩ := (Leading.read_eq_unclosed_iff _).1 hread
      obtain ⟨-, rfl⟩ := List.cons.inj hshape
      rw [hrest l hl] at hdelimiter
      exact absurd hdelimiter (by decide)
    | closed fields body =>
      obtain ⟨title, body', hlines, hle, htitle, hbody⟩ :=
        exists_lines_run_of_closed hconfig hd hread
      exact ⟨title, body', hlines, hle, fun l hl => (htitle l hl).not_delimiter,
        fun l hl => Bool.or_eq_false_iff.1 (hbody l hl)⟩
  · rw [heq] at hd ⊢
    exact exists_lines_run_of_unclosed hconfig hd hfirst hrest

/-- A closed block in front of notes that end at a separator and of a slide with classes. -/
theorem delimiters_run_closed :
    Config.default.SparesDelimiters
      ∧ Document.ofText "---\ntitle: a\n ---\n???\nb\n---\nclass: c\n".toList
        = "---\n".toList :: ["title: a\n".toList, " ---\n".toList, "???\n".toList, "b\n".toList,
          "---\n".toList, "class: c\n".toList]
      ∧ ∃ title body : Document,
        (run Config.default
            (Document.ofText "---\ntitle: a\n ---\n???\nb\n---\nclass: c\n".toList)).lines
          = Metadata.delimiterLine :: title ++ Metadata.delimiterLine :: body
        ∧ title.length ≤ 1 ∧ (∀ l ∈ title, l.trimsTo delimiter = false)
        ∧ ∀ l ∈ body, l.trimsTo delimiter = false ∧ l.opensWith "class:".toList = false := by
  refine ⟨Config.sparesDelimiters_default, by decide, ?_⟩
  refine (delimiters_run Config.sparesDelimiters_default
    "---\ntitle: a\n ---\n???\nb\n---\nclass: c\n".toList).2.1 "---\n".toList
    ["title: a\n".toList, " ---\n".toList, "???\n".toList, "b\n".toList, "---\n".toList,
      "class: c\n".toList] (by decide) (by decide) ?_
  exact ⟨" ---\n".toList, by decide, by decide⟩

end Pipeline
end SlideDeck
