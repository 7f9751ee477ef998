import SlideDeck.Proofs.Document.LineEnds
import SlideDeck.Proofs.Pipeline.ForeignText
import SlideDeck.Proofs.Pipeline.FrontLines
import SlideDeck.Proofs.Pipeline.HeaderIndependence
import Mathlib.Data.List.Infix

/-!
# Reading a converted document back

A converted text is meant to be read as the lines that were produced.  Reading takes a carriage
return for a line end, so that is a question of where one could come from.  Not from the text that
is converted, whose line ends are unified when it is read, and not from what stages write.  It can
come from a configured title: the check of a title on one line asks for newlines alone.

* `Stage.writes_noReturn` — titles apart, no stage writes a carriage return.
* `Pipeline.return_mem_text_iff` — the one way in which a converted text gets one.
* `Pipeline.reread` — when a converted text is read back as the lines that were produced.
-/

set_option autoImplicit false

namespace SlideDeck

/-! ## Titles -/

namespace Metadata

theorem mem_of_mem_titleOfField {l : Line} {t : Text} (h : titleOfField? l = some t) {c : Char}
    (hc : c ∈ t) : c ∈ l := by
  simp only [titleOfField?, Option.bind_eq_bind, Option.bind_eq_some_iff] at h
  obtain ⟨key, hkey, value, hvalue, h⟩ := h
  obtain rfl := Option.some.inj h
  rw [Text.after?_eq_some_iff] at hkey hvalue
  have hsuffix : ∀ s : Text, Text.trimStart s <:+ s := fun s => List.dropWhile_suffix _
  have hvalue' : value <:+ key := List.IsSuffix.trans ⟨_, hvalue.symm⟩ (hsuffix key)
  have hkey' : key <:+ l := List.IsSuffix.trans ⟨_, hkey.symm⟩ (hsuffix l)
  exact ((hsuffix value).trans (hvalue'.trans hkey')).subset
    (List.takeWhile_subset _ (Text.mem_of_mem_trim hc))

/-- A character of the chosen title is one of the configured title or of a field. -/
theorem not_mem_chosenTitle {configured : Option Text} {fields : Document} {c : Char}
    (h : ∀ t ∈ configured, c ∉ t) (hfields : ∀ l ∈ fields, c ∉ l) :
    ∀ t ∈ chosenTitle configured fields, c ∉ t := by
  intro t ht
  rcases Option.or_eq_some_iff.1 ht with ht | ⟨-, ht⟩
  · exact h t ht
  · obtain ⟨l, hl, hfield⟩ := List.exists_of_findSome?_eq_some ht
    exact fun hc => hfields l hl (mem_of_mem_titleOfField hfield hc)

theorem return_not_mem_titleLines {title : Option Text} (h : ∀ t ∈ title, '\r' ∉ t) :
    ∀ l ∈ titleLines title, '\r' ∉ l := by
  cases title with
  | none => exact List.forall_mem_nil _
  | some t =>
    rw [titleLines]
    split
    · exact List.forall_mem_nil _
    · refine List.forall_mem_singleton.2 ?_
      rw [List.mem_append, List.mem_append, not_or, not_or]
      exact ⟨⟨by decide, h t rfl⟩, by decide⟩

end Metadata

/-! ## Stages -/

namespace Stage

theorem isForeign_return : Text.IsForeign ['\r'] where
  opening := ⟨'\r', rfl, by decide⟩
  quote := by decide
  bracket := by decide
  newline := by decide
  spelling := by decide

/-- Titles apart, no stage writes a carriage return. -/
theorem writes_noReturn {config : Config} {stage : Stage} (h : stage ≠ .header) :
    stage.Writes config fun l => '\r' ∉ l := by
  have hlate : ∀ stage ∈ afterSetup, stage.Writes config fun l => '\r' ∉ l := by
    intro stage hstage
    have hforeign : stage.Writes config fun l => ¬ ['\r'] <:+: l :=
      writes_of_isForeign isForeign_return hstage
    simpa only [List.singleton_infix_iff] using hforeign
  cases stage with
  | header => exact absurd rfl h
  | notes => exact show ∀ l ∈ Notes.render ⟨[], true⟩, '\r' ∉ l by decide
  | commentPatterns =>
    have hsign : '\r' ∉ "# ".toList := by decide
    exact fun l hl hc => (List.mem_append.1 hc).elim hsign hl
  | pauses => exact show '\r' ∉ Reveal.pauseLine by decide
  | columns => exact show ∀ l ∈ Layout.container [] [], '\r' ∉ l by decide
  | imageChunks =>
    exact fun d r b hread hd => Figure.not_mem_render (by decide) (by decide) hread hd
  | codePaths | imageLinks | footnotes => exact hlate _ (by decide)
  | stripSeparators | removePatterns | compactLists | setupChunks => exact trivial

theorem writes_noReturn_afterFront (config : Config) :
    ∀ stage ∈ afterFront, stage.Writes config fun l => '\r' ∉ l :=
  fun _ hstage => writes_noReturn (ne_header_of_afterFront hstage)

end Stage

/-! ## The run -/

namespace Pipeline

variable {config : Config} {d : Document}

/-- Without a closed block no title is written, and so no carriage return. -/
theorem return_not_mem_run_of_not_closed (hd : ∀ l ∈ d, '\r' ∉ l)
    (h : ∀ fields body, Leading.read d ≠ .closed fields body) :
    ∀ l ∈ (run config d).lines, '\r' ∉ l := by
  have hnormalize : Stage.header.apply config d = d := Metadata.normalize_of_not_closed h _
  have hne : ∀ stage ∈ Stage.all.tail, stage ≠ .header := by decide
  have hwrites : ∀ stage ∈ Stage.all.tail, stage.Writes config fun l => '\r' ∉ l :=
    fun stage hstage => Stage.writes_noReturn (hne stage hstage)
  show ∀ l ∈ (runStages config Stage.all.tail (Stage.header.apply config d)).lines, '\r' ∉ l
  rw [hnormalize]
  exact forall_mem_runStages hwrites hd

/-- With a closed block, a carriage return comes from the title line or not at all. -/
theorem exists_return_run_of_closed_iff (hd : ∀ l ∈ d, '\r' ∉ l) {fields body : Document}
    (h : Leading.read d = .closed fields body) :
    (∃ l ∈ (run config d).lines, '\r' ∈ l)
      ↔ ∃ l ∈ (runStages config Stage.afterFront
        (Metadata.titleLines (Metadata.chosenTitle config.title fields))).lines, '\r' ∈ l := by
  obtain ⟨first, last, rfl, -, -, -⟩ := (Leading.read_eq_closed_iff d fields body).1 h
  obtain ⟨-, hd⟩ := List.forall_mem_cons.1 hd
  obtain ⟨-, hbody⟩ := List.forall_mem_append.1 hd
  obtain ⟨-, hbody⟩ := List.forall_mem_cons.1 hbody
  obtain ⟨rest, hlines, hrest⟩ := exists_lines_run_front config h
  have hwrites := Stage.writes_noReturn_afterFront config
  have hdelimiter : ∀ l ∈ (runStages config Stage.afterFront [Metadata.delimiterLine]).lines,
      '\r' ∉ l :=
    forall_mem_runStages hwrites (List.forall_mem_singleton.2 (by decide))
  have hbehind : ∀ l ∈ rest, '\r' ∉ l := by
    refine hrest _ hwrites fun l hl => ?_
    exact Notes.forall_mem_convert (by decide) hbody l (List.mem_filter.1 hl).1
  rw [hlines]
  constructor
  · rintro ⟨l, hl, hreturn⟩
    simp only [List.mem_append] at hl
    rcases hl with ((hl | hl) | hl) | hl
    · exact absurd hreturn (hdelimiter l hl)
    · exact ⟨l, hl, hreturn⟩
    · exact absurd hreturn (hdelimiter l hl)
    · exact absurd hreturn (hbehind l hl)
  · rintro ⟨l, hl, hreturn⟩
    exact ⟨l, List.mem_append_left _ (List.mem_append_left _ (List.mem_append_right _ hl)), hreturn⟩

/-- A title without carriage return comes out of the stages without one. -/
theorem not_exists_return_titleLines {title : Option Text} (h : ∀ t ∈ title, '\r' ∉ t) :
    ¬ ∃ l ∈ (runStages config Stage.afterFront (Metadata.titleLines title)).lines, '\r' ∈ l := by
  rintro ⟨l, hl, hreturn⟩
  exact forall_mem_runStages (Stage.writes_noReturn_afterFront config)
    (Metadata.return_not_mem_titleLines h) l hl hreturn

/-- **Where a carriage return comes from.**  A converted text has one exactly if the text has a
closed block and the line of the configured title comes out of the stages with one. -/
theorem return_mem_text_iff (config : Config) (s : Text) :
    '\r' ∈ (Conversion.ofText config s).text
      ↔ (∃ fields body, Leading.read (Document.ofText s) = .closed fields body)
        ∧ ∃ l ∈ (runStages config Stage.afterFront (Metadata.titleLines config.title)).lines,
          '\r' ∈ l := by
  have hd := Document.return_not_mem_ofText s
  have htext : '\r' ∈ (Conversion.ofText config s).text
      ↔ ∃ l ∈ (run config (Document.ofText s)).lines, '\r' ∈ l := List.mem_flatten
  rw [htext]
  by_cases hclosed : ∃ fields body, Leading.read (Document.ofText s) = .closed fields body
  · obtain ⟨fields, body, hread⟩ := hclosed
    rw [exists_return_run_of_closed_iff hd hread, and_iff_right ⟨fields, body, hread⟩]
    cases htitle : config.title with
    | some t => rfl
    | none =>
      obtain ⟨first, last, heq, -, -, -⟩ := (Leading.read_eq_closed_iff _ fields body).1 hread
      have hfields : ∀ l ∈ fields, '\r' ∉ l := fun l hl => hd l (by simp [heq, hl])
      have hnone : ∀ t ∈ (none : Option Text), '\r' ∉ t := fun t ht => absurd ht (by simp)
      exact iff_of_false
        (not_exists_return_titleLines (Metadata.not_mem_chosenTitle hnone hfields))
        (not_exists_return_titleLines hnone)
  · refine iff_of_false ?_ fun h => hclosed h.1
    rintro ⟨l, hl, hreturn⟩
    refine return_not_mem_run_of_not_closed hd (fun fields body hread => ?_) l hl hreturn
    exact hclosed ⟨fields, body, hread⟩

/-- **When a converted text is read back.**  Under every configuration that has been checked, the
converted text is read as the lines that were produced exactly if it has no carriage return.  It
has one exactly if the text has a closed block and the line of the configured title comes out of
the stages with one.  So all is well if the title has none, and then the number of output lines is
what a reader counts. -/
theorem reread {b : ConfigBuilder} {config : Config} (h : b.build = .ok config) (s : Text) :
    (Document.ofText (Conversion.ofText config s).text = (run config (Document.ofText s)).lines
        ↔ '\r' ∉ (Conversion.ofText config s).text)
      ∧ ('\r' ∈ (Conversion.ofText config s).text
        ↔ (∃ fields body, Leading.read (Document.ofText s) = .closed fields body)
          ∧ ∃ l ∈ (runStages config Stage.afterFront (Metadata.titleLines config.title)).lines,
            '\r' ∈ l)
      ∧ ((∀ t ∈ config.title, '\r' ∉ t) →
        '\r' ∉ (Conversion.ofText config s).text
          ∧ Document.ofText (Conversion.ofText config s).text
            = (run config (Document.ofText s)).lines
          ∧ (Document.ofText (Conversion.ofText config s).text).length
            = (Conversion.ofText config s).stats.outputLines) := by
  have hlines : (run config (Document.ofText s)).lines.WellFormed :=
    forall_mem_runStages
      (fun stage _ => stage.writes_wellFormed (ConfigBuilder.newline_not_mem_title h))
      (Document.wellFormed_ofText s)
  have hread : Document.ofText (Conversion.ofText config s).text
      = (run config (Document.ofText s)).lines ↔ '\r' ∉ (Conversion.ofText config s).text :=
    Document.ofText_text_iff hlines
  refine ⟨hread, return_mem_text_iff config s, fun htitle => ?_⟩
  have hreturn : '\r' ∉ (Conversion.ofText config s).text := fun hmem =>
    not_exists_return_titleLines htitle ((return_mem_text_iff config s).1 hmem).2
  exact ⟨hreturn, hread.2 hreturn, congrArg List.length (hread.2 hreturn)⟩

/-- A configured title on one line, and a text with line ends of three sorts. -/
theorem reread_plain :
    (ConfigBuilder.ofSettings [.title "A plan".toList, .clearDefaultPatterns]).build
        = .ok ⟨some "A plan".toList, [], []⟩
      ∧ '\r' ∉ (Conversion.ofText ⟨some "A plan".toList, [], []⟩ "---\r---\r\na\n\r".toList).text
      ∧ Document.ofText
          (Conversion.ofText ⟨some "A plan".toList, [], []⟩ "---\r---\r\na\n\r".toList).text
        = (run ⟨some "A plan".toList, [], []⟩
          (Document.ofText "---\r---\r\na\n\r".toList)).lines := by
  have hbuild : (ConfigBuilder.ofSettings [.title "A plan".toList, .clearDefaultPatterns]).build
      = .ok ⟨some "A plan".toList, [], []⟩ := rfl
  have htitle : ∀ t ∈ some "A plan".toList, '\r' ∉ t := by decide
  obtain ⟨hreturn, hread, -⟩ := (reread hbuild "---\r---\r\na\n\r".toList).2.2 htitle
  exact ⟨hbuild, hreturn, hread⟩

/-- A title that passes the check as one line and is read back as two. -/
theorem reread_return :
    (ConfigBuilder.ofSettings [.title "a\rb".toList, .clearDefaultPatterns]).build
        = .ok ⟨some "a\rb".toList, [], []⟩
      ∧ '\r' ∈ (Conversion.ofText ⟨some "a\rb".toList, [], []⟩ "---\n---\n".toList).text
      ∧ (Conversion.ofText ⟨some "a\rb".toList, [], []⟩ "---\n---\n".toList).stats.outputLines = 3
      ∧ Document.ofText (Conversion.ofText ⟨some "a\rb".toList, [], []⟩ "---\n---\n".toList).text
        = ["---\n".toList, "title: a\n".toList, "b\n".toList, "---\n".toList] := by
  have htext : (Conversion.ofText ⟨some "a\rb".toList, [], []⟩ "---\n---\n".toList).text
      = "---\ntitle: a\rb\n---\n".toList := by decide +kernel
  refine ⟨rfl, ?_, by decide +kernel, ?_⟩
  · rw [htext]
    decide
  · rw [htext]
    decide

end Pipeline
end SlideDeck
