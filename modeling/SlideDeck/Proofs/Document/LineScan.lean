import SlideDeck.Pipeline
import SlideDeck.Proofs.Document.LineEnds

/-!
# Reading lines in one scan

A text is read by two replacements over the whole of it, the second of which also reads what the
first one has put in, and a cut.  What comes out is what one scan from left to right gives that ends
a line at each line end, the longest one that it finds.  So no two line ends are taken for one and
none is taken for two, however they are mixed, and which of them a text is written with does not
show in its conversion.

* `Document.scan` — the lines of a text by one scan.
* `Text.unifyNewlines_lineEnd` — a line end is taken for one newline, whatever stands behind it; a
  carriage return must not have a newline there.
* `Document.ofText_line` and `Document.ofText_last` — the first line of a text, and the only one.
* `Document.scan_eq_ofText` — the scan, behind what it has read of a line.
* `Document.ofText_concat_of_open` and `Document.ofText_concat_of_ended` — a line end behind a text.
* `Document.ofText_by_scan` — all of it, up to the conversion of a text.
-/

set_option autoImplicit false

namespace SlideDeck

namespace Text

/-! ## Line ends -/

/-- What can end a line. -/
def lineEnds : List Text := [['\n'], ['\r', '\n'], ['\r']]

/-- A text with a line end of another sort for each newline. -/
def withLineEnd (e s : Text) : Text := s.flatMap fun c => if c = '\n' then e else [c]

theorem withLineEnd_newline (e r : Text) : withLineEnd e ('\n' :: r) = e ++ withLineEnd e r := by
  rw [withLineEnd, List.flatMap_cons, if_pos rfl, withLineEnd]

theorem withLineEnd_cons {c : Char} (hc : c ≠ '\n') (e r : Text) :
    withLineEnd e (c :: r) = c :: withLineEnd e r := by
  rw [withLineEnd, List.flatMap_cons, if_neg hc, withLineEnd, List.singleton_append]

/-- Written with carriage returns a text has no newline to begin with. -/
theorem head?_withLineEnd_return (s : Text) : (withLineEnd ['\r'] s).head? ≠ some '\n' := by
  cases s with
  | nil => exact nofun
  | cons c r =>
    by_cases hc : c = '\n'
    · rw [hc, withLineEnd_newline]
      exact fun h => absurd (Option.some.inj h) (by decide)
    · rw [withLineEnd_cons hc]
      exact fun h => hc (Option.some.inj h)

/-- A line end is read as one newline. -/
theorem unifyNewlines_lineEnd {e r : Text} (he : e ∈ lineEnds)
    (hr : e = ['\r'] → r.head? ≠ some '\n') : unifyNewlines (e ++ r) = '\n' :: unifyNewlines r := by
  simp only [lineEnds, List.mem_cons, List.not_mem_nil, or_false] at he
  rcases he with rfl | rfl | rfl
  · exact unifyNewlines_cons (by decide) r
  · exact unifyNewlines_crlf r
  · exact unifyNewlines_return (hr rfl)

theorem unifyNewlines_append {t : Text} (ht : '\r' ∉ t) (r : Text) :
    unifyNewlines (t ++ r) = t ++ unifyNewlines r := by
  induction t with
  | nil => rfl
  | cons c t ih =>
    obtain ⟨hc, ht⟩ := not_or.1 (mt List.mem_cons.2 ht)
    rw [List.cons_append, unifyNewlines_cons (Ne.symm hc), ih ht, List.cons_append]

theorem unifyNewlines_concat {e s : Text} (he : e ∈ lineEnds) (hs : '\r' ∉ s) :
    unifyNewlines (s ++ e) = s ++ ['\n'] := by
  have hend : unifyNewlines (e ++ []) = ['\n'] := unifyNewlines_lineEnd he fun _ => nofun
  rw [unifyNewlines_append hs, ← List.append_nil e, hend]

/-- The sort of its line ends is lost when a text is read. -/
theorem unifyNewlines_withLineEnd {e s : Text} (he : e ∈ lineEnds) (hs : '\r' ∉ s) :
    unifyNewlines (withLineEnd e s) = s := by
  induction s with
  | nil => rfl
  | cons c r ih =>
    obtain ⟨hc, hr⟩ := not_or.1 (mt List.mem_cons.2 hs)
    by_cases hn : c = '\n'
    · have hhead : e = ['\r'] → (withLineEnd e r).head? ≠ some '\n' := by
        rintro rfl
        exact head?_withLineEnd_return r
      rw [hn, withLineEnd_newline, unifyNewlines_lineEnd he hhead, ih hr]
    · rw [withLineEnd_cons hn, unifyNewlines_cons (Ne.symm hc), ih hr]

/-! ## A newline behind a text -/

/-- Behind a text without newline at its end, a newline is the one that the last line gets. -/
theorem terminate_cut_concat_of_open {s : Text} (hne : s ≠ []) (hlast : s.getLast? ≠ some '\n') :
    (cutAfterNewlines (s ++ ['\n'])).map Line.terminate
      = (cutAfterNewlines s).map Line.terminate := by
  induction s using line_induction with
  | last t ht =>
    rw [cutAfterNewlines_append ht, cutAfterNewlines_of_not_mem ht hne, List.map_cons,
      Line.terminate_concat, List.map_singleton, Line.terminate_of_not_mem ht]
    rfl
  | line t r ht ih =>
    have hr : r ≠ [] := by
      rintro rfl
      exact hlast List.getLast?_concat
    rw [getLast?_append_cons_newline hr] at hlast
    rw [List.append_assoc, List.cons_append, cutAfterNewlines_append ht,
      cutAfterNewlines_append ht, List.map_cons, List.map_cons, ih hr hlast]

/-- What follows a newline is cut by itself. -/
theorem cutAfterNewlines_append_of_ended {s : Text} (hs : s = [] ∨ s.getLast? = some '\n')
    (r : Text) : cutAfterNewlines (s ++ r) = cutAfterNewlines s ++ cutAfterNewlines r := by
  induction s using line_induction with
  | last t ht =>
    rcases hs with rfl | hs
    · rfl
    · exact absurd (List.mem_of_getLast? hs) ht
  | line t u ht ih =>
    have hu : u = [] ∨ u.getLast? = some '\n' := by
      by_cases hne : u = []
      · exact Or.inl hne
      · rw [getLast?_append_cons_newline hne] at hs
        exact Or.inr (hs.resolve_left (by simp))
    rw [List.append_assoc, List.cons_append, cutAfterNewlines_append ht,
      cutAfterNewlines_append ht, ih hu, List.cons_append]

end Text

namespace Document

/-! ## The scan -/

/-- The lines of a text by one scan from left to right, with `line` read of the first one.  Each of
the three line ends ends the line, CR LF before CR, and a rest without line end is a last line. -/
def scan : (line : Text) → Text → Document
  | line, [] => if line = [] then [] else [line ++ ['\n']]
  | line, '\r' :: '\n' :: r => (line ++ ['\n']) :: scan [] r
  | line, c :: r =>
    if c = '\r' ∨ c = '\n' then (line ++ ['\n']) :: scan [] r else scan (line ++ [c]) r

variable {line e r : Text}

theorem ofText_line (hreturn : '\r' ∉ line) (hnewline : '\n' ∉ line) (he : e ∈ Text.lineEnds)
    (hr : e = ['\r'] → r.head? ≠ some '\n') :
    ofText (line ++ (e ++ r)) = (line ++ ['\n']) :: ofText r := by
  rw [ofText, Text.unifyNewlines_append hreturn, Text.unifyNewlines_lineEnd he hr,
    Text.cutAfterNewlines_append hnewline, List.map_cons, Line.terminate_concat, ofText]

theorem ofText_last (hreturn : '\r' ∉ line) (hnewline : '\n' ∉ line) (hne : line ≠ []) :
    ofText line = [line ++ ['\n']] := by
  rw [ofText, (Text.unifyNewlines_eq_self_iff line).2 hreturn,
    Text.cutAfterNewlines_of_not_mem hnewline hne, List.map_singleton,
    Line.terminate_of_not_mem hnewline]

/-- **The scan reads the lines of a text.**  What it has read of the first line holds no line end;
that is the invariant. -/
theorem scan_eq_ofText (s : Text) (hreturn : '\r' ∉ line) (hnewline : '\n' ∉ line) :
    scan line s = ofText (line ++ s) := by
  induction line, s using scan.induct with
  | case1 => rfl
  | case2 line hne => rw [scan, if_neg hne, List.append_nil, ofText_last hreturn hnewline hne]
  | case3 line r ih =>
    rw [scan, ih List.not_mem_nil List.not_mem_nil]
    exact (ofText_line hreturn hnewline (e := ['\r', '\n']) (by decide) nofun).symm
  | case4 line c r hcrlf hc ih =>
    have hend : [c] ∈ Text.lineEnds := by
      rcases hc with rfl | rfl <;> decide
    have hhead : [c] = ['\r'] → r.head? ≠ some '\n' := by
      intro hreturn hr
      obtain ⟨r', rfl⟩ := List.head?_eq_some_iff.1 hr
      exact hcrlf r' (List.cons.inj hreturn).1 rfl
    rw [scan, if_pos hc, ih List.not_mem_nil List.not_mem_nil]
    · exact (ofText_line hreturn hnewline hend hhead).symm
    · exact hcrlf
  | case5 line c r hcrlf hc ih =>
    obtain ⟨hcr, hcn⟩ := not_or.1 hc
    have hreturn' : '\r' ∉ line ++ [c] := by simpa [hreturn] using Ne.symm hcr
    have hnewline' : '\n' ∉ line ++ [c] := by simpa [hnewline] using Ne.symm hcn
    rw [scan, if_neg hc, ih hreturn' hnewline', List.append_assoc, List.singleton_append]
    exact hcrlf

/-! ## A line end behind a text -/

variable {s : Text}

theorem ofText_concat_of_open (he : e ∈ Text.lineEnds) (hs : '\r' ∉ s) (hne : s ≠ [])
    (hlast : s.getLast? ≠ some '\n') : ofText (s ++ e) = ofText s := by
  rw [ofText, ofText, Text.unifyNewlines_concat he hs, (Text.unifyNewlines_eq_self_iff s).2 hs,
    Text.terminate_cut_concat_of_open hne hlast]

theorem ofText_concat_of_ended (he : e ∈ Text.lineEnds) (hs : '\r' ∉ s)
    (hend : s = [] ∨ s.getLast? = some '\n') : ofText (s ++ e) = ofText s ++ [['\n']] := by
  rw [ofText, ofText, Text.unifyNewlines_concat he hs, (Text.unifyNewlines_eq_self_iff s).2 hs,
    Text.cutAfterNewlines_append_of_ended hend, List.map_append]
  rfl

theorem ofText_withLineEnd (he : e ∈ Text.lineEnds) (hs : '\r' ∉ s) :
    ofText (Text.withLineEnd e s) = ofText s := by
  rw [ofText, ofText, Text.unifyNewlines_withLineEnd he hs,
    (Text.unifyNewlines_eq_self_iff s).2 hs]

/-- A conversion sees of a text nothing but its lines. -/
theorem conversion_congr {s t : Text} (h : ofText s = ofText t) (config : Config) :
    Conversion.ofText config s = Conversion.ofText config t := by
  rw [Conversion.ofText, Conversion.ofText, h]

/-- A line end behind a text does not show exactly if it ends a line that has been begun. -/
theorem conversion_concat_iff (config : Config) (he : e ∈ Text.lineEnds) (hs : '\r' ∉ s) :
    Conversion.ofText config (s ++ e) = Conversion.ofText config s
      ↔ s ≠ [] ∧ s.getLast? ≠ some '\n' := by
  constructor
  · intro h
    by_contra hended
    have hend : s = [] ∨ s.getLast? = some '\n' := by
      by_cases hne : s = []
      · exact Or.inl hne
      · exact Or.inr (by_contra fun hlast => hended ⟨hne, hlast⟩)
    have hlength : (ofText (s ++ e)).length = (ofText s).length :=
      congrArg (fun c : Conversion => c.stats.inputLines) h
    rw [ofText_concat_of_ended he hs hend, List.length_append, List.length_singleton] at hlength
    omega
  · rintro ⟨hne, hlast⟩
    exact conversion_congr (ofText_concat_of_open he hs hne hlast) config

/-- **Reading lines.**  A text is read as the lines of one scan from left to right.  Lines that each
end in their only newline and have no carriage return are read back from their text, and the lines
of any text are.  A text without carriage return gives one conversion with all its newlines, with CR
LF for each of them and with CR for each of them.  One more line end behind it makes no difference
exactly if it ends a line that has been begun. -/
theorem ofText_by_scan :
    (∀ s, ofText s = scan [] s)
      ∧ (∀ d : Document, d.WellFormed → (∀ l ∈ d, '\r' ∉ l) → ofText d.text = d)
      ∧ (∀ s, ofText (ofText s).text = ofText s)
      ∧ ∀ (config : Config) (s : Text), '\r' ∉ s → ∀ e ∈ Text.lineEnds,
        Conversion.ofText config (Text.withLineEnd e s) = Conversion.ofText config s
          ∧ (Conversion.ofText config (s ++ e) = Conversion.ofText config s
            ↔ s ≠ [] ∧ s.getLast? ≠ some '\n') := by
  have hback : ∀ d : Document, d.WellFormed → (∀ l ∈ d, '\r' ∉ l) → ofText d.text = d := by
    intro d hd hreturn
    refine (ofText_text_iff hd).2 fun hmem => ?_
    obtain ⟨l, hl, hreturn'⟩ := List.mem_flatten.1 hmem
    exact hreturn l hl hreturn'
  refine ⟨fun s => ?_, hback, fun s => ?_, fun config s hs e he => ⟨?_, ?_⟩⟩
  · exact (scan_eq_ofText s List.not_mem_nil List.not_mem_nil).symm
  · exact hback _ (wellFormed_ofText s) (return_not_mem_ofText s)
  · exact conversion_congr (ofText_withLineEnd he hs) config
  · exact conversion_concat_iff config he hs

/-- Line ends of all sorts side by side, a text written with CR LF, and one with CR LF behind it. -/
theorem ofText_by_scan_mixed :
    ofText "a\r\r\n\n\rb".toList
        = ["a\n".toList, "\n".toList, "\n".toList, "\n".toList, "b\n".toList]
      ∧ '\r' ∉ "a\nb".toList ∧ ['\r', '\n'] ∈ Text.lineEnds
      ∧ Conversion.ofText Config.default "a\r\nb".toList
        = Conversion.ofText Config.default "a\nb".toList
      ∧ Conversion.ofText Config.default "a\nb\r\n".toList
        = Conversion.ofText Config.default "a\nb".toList := by
  obtain ⟨hscan, -, -, hconversion⟩ := ofText_by_scan
  have hs : '\r' ∉ "a\nb".toList := by decide
  have he : ['\r', '\n'] ∈ Text.lineEnds := by decide
  obtain ⟨hsort, hbehind⟩ := hconversion Config.default _ hs _ he
  exact ⟨(hscan _).trans (by decide), hs, he, hsort, hbehind.2 (by decide)⟩

end Document
end SlideDeck
