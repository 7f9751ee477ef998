import SlideDeck.Proofs.Code.ChunkOptions
import SlideDeck.Proofs.Code.PathMarks
import SlideDeck.Proofs.Code.WrittenCalls
import Mathlib.Data.List.Infix

/-!
# Calls side by side on a line

Three passes run over a line of code, one for each kind of call, and each looks at what the one
before has written.  Still every call is respelled by itself: whatever stands between the calls,
and however many there are, a pass respells the calls of its kind and goes past all others.

* `ProjectCall` is a call of any of the three kinds as it is written, `ProjectCall.respelled` its
  new spelling.
* `ProjectPath.Unmarked` — text in which no call begins.
* `ProjectCall.Sealed` — a spelling in which no second call begins, and out of which none runs.
* `Recogniser.rewrite_lineOf` — a pass over a line, by induction over its calls;
  `ProjectPath.rewriteLine_calls` — all three.
-/

set_option autoImplicit false

namespace SlideDeck

open Text (isQuote)

/-! ## Calls as they are written -/

/-- A directory of data or images. -/
abbrev DataRoot : Type := { t : Text // t ∈ dataRoots }

/-- A path below a directory, in a literal. -/
abbrev PathName : Type := { t : Text // t ≠ [] ∧ t.any isQuote = false }

/-- A call of one of the kinds that are respelled. -/
inductive ProjectCall where
  /-- A `file.path` call below a directory, and the arguments behind that. -/
  | path (opening : Quote) (root : DataRoot) (closing : Quote) (more : { t : Text // ')' ∉ t })
  /-- A call that reads a table, up to the end of its first argument. -/
  | read (function : { t : Text // t ∈ ReadCall.functions })
      (blank : { t : Text // Text.isBlank t = true }) (opening : Quote) (root : DataRoot)
      (name : PathName) (closing : Quote)
  /-- A call that runs a source file, up to the end of its first argument. -/
  | source (opening : Quote) (name : PathName) (closing : Quote)

namespace ProjectCall

/-- The call as it stands in code. -/
def text : ProjectCall → Text
  | path q root q' more =>
    "file.path(".toList ++ (q.1 :: (root.1 ++ q'.1 :: ',' :: (more.1 ++ [')'])))
  | read f blank q root name q' =>
    f.1 ++ '(' :: (blank.1 ++ q.1 :: (root.1 ++ '/' :: (name.1 ++ [q'.1])))
  | source q name q' => "source(".toList ++ (q.1 :: ("R/".toList ++ (name.1 ++ [q'.1])))

/-- The call through `here::here`. -/
def respelled : ProjectCall → Text
  | path q root q' more =>
    "here::here(".toList ++ (q.1 :: (root.1 ++ q'.1 :: ',' :: (more.1 ++ [')'])))
  | read f _ _ root name _ =>
    f.1 ++ ("(here::here(\"".toList ++ (root.1 ++ ("\", \"".toList ++ (name.1 ++ "\")".toList))))
  | source q name q' =>
    "source(here::here(".toList ++ (q.1 :: ("R/".toList ++ (name.1 ++ [q'.1, ')'])))

/-- What a call contains that is not fixed by its kind: arguments, or the name of a file. -/
def inside : ProjectCall → Text
  | path _ _ _ more => more.1
  | read _ _ _ _ name _ => name.1
  | source _ name _ => name.1

end ProjectCall

/-- A line with calls, each with the text behind it, where calls are spelled with `spell`. -/
def ProjectPath.lineOf (spell : ProjectCall → Text) (start : Text)
    (calls : List (ProjectCall × Text)) : Line :=
  start ++ calls.flatMap fun p => spell p.1 ++ p.2

/-! ## Text in which no call begins -/

namespace ProjectPath

/-- No call begins in a text. -/
def Unmarked (s : Text) : Prop := ∀ mark ∈ callMarks, ¬ mark <:+: s

theorem unmarked_iff (s : Text) :
    Unmarked s ↔ ∀ mark ∈ callMarks, Text.contains s mark = false := by
  simp only [Unmarked, ← Text.contains_iff, Bool.not_eq_true]

instance (s : Text) : Decidable (Unmarked s) := decidable_of_iff' _ (unmarked_iff s)

theorem Unmarked.append_cons {s t : Text} {c : Char} (hs : Unmarked s)
    (hc : ∀ mark ∈ callMarks, c ∉ mark) (ht : Unmarked t) : Unmarked (s ++ c :: t) := by
  intro mark hmark h
  rcases Text.infix_or_infix_of_infix_append_cons h (hc mark hmark) with h | h
  · exact hs mark hmark h
  · exact ht mark hmark h

theorem Unmarked.cons {t : Text} {c : Char} (hc : ∀ mark ∈ callMarks, c ∉ mark)
    (ht : Unmarked t) : Unmarked (c :: t) :=
  Unmarked.append_cons (s := []) (by decide) hc ht

theorem unmarked_of_isBlank {s : Text} (hs : Text.isBlank s = true) : Unmarked s := by
  intro mark hmark h
  have hall : ∀ mark ∈ callMarks, Text.isBlank mark = false := by decide
  have hblank : Text.isBlank mark = true :=
    (Text.isBlank_iff mark).2 fun c hc => (Text.isBlank_iff s).1 hs c (h.subset hc)
  rw [hall mark hmark] at hblank
  exact absurd hblank (by decide)

theorem quote_not_mem_callMarks {q : Char} (hq : isQuote q = true) :
    ∀ mark ∈ callMarks, q ∉ mark := by
  have hplain : ∀ mark ∈ callMarks, mark.any isQuote = false := by decide
  exact fun mark hmark => Text.not_mem_of_isQuote hq (hplain mark hmark)

theorem unmarked_root (root : DataRoot) : Unmarked root.1 := by
  have hall : ∀ root ∈ dataRoots, Unmarked root := by decide
  exact hall root.1 root.2

end ProjectPath

/-! ## Spellings out of which no call runs -/

/-- What calls begin with, in their old and their new spelling. -/
def callOpenings : List Text := "here::here(".toList :: ProjectPath.callMarks

namespace ProjectCall

open ProjectPath (callMarks Unmarked)

/-- A spelling that begins with `opening`: no call begins behind that, and none runs out of its
end. -/
def Sealed (opening s : Text) : Prop :=
  ∃ inner last, s = opening ++ (inner ++ [last]) ∧ Unmarked (inner ++ [last])
    ∧ ∀ mark ∈ callMarks, last ∉ mark

/-- What the old spelling of a call begins with. -/
def opening : ProjectCall → Text
  | path _ _ _ _ => "file.path(".toList
  | read f _ _ _ _ _ => f.1 ++ ['(']
  | source _ _ _ => "source(".toList

theorem unmarked_root_name (root : DataRoot) {name : Text} (hname : Unmarked name) :
    Unmarked (root.1 ++ '/' :: name) :=
  (ProjectPath.unmarked_root root).append_cons (by decide) hname

theorem unmarked_arguments (q : Quote) (root : DataRoot) (q' : Quote) {more : Text}
    (hmore : Unmarked more) : Unmarked (q.1 :: (root.1 ++ q'.1 :: ',' :: (more ++ [')']))) := by
  have hend : Unmarked (more ++ [')']) := hmore.append_cons (by decide) (by decide)
  refine .cons (ProjectPath.quote_not_mem_callMarks q.2) ?_
  exact (ProjectPath.unmarked_root root).append_cons (ProjectPath.quote_not_mem_callMarks q'.2)
    (.cons (by decide) hend)

theorem readOpening_mem (f : { t : Text // t ∈ ReadCall.functions }) :
    f.1 ++ ['('] ∈ callOpenings ∧ f.1 ++ ['('] ∉ PathCall.marks
      ∧ f.1 ++ ['('] ∉ SourceCall.marks := by
  have hall : ∀ f ∈ ReadCall.functions, f ++ ['('] ∈ callOpenings
      ∧ f ++ ['('] ∉ PathCall.marks ∧ f ++ ['('] ∉ SourceCall.marks := by decide
  exact hall f.1 f.2

theorem sealed_text (c : ProjectCall) (hc : Unmarked c.inside) : Sealed c.opening c.text := by
  cases c with
  | path q root q' more =>
    refine ⟨q.1 :: (root.1 ++ q'.1 :: ',' :: more.1), ')', ?_, ?_, by decide⟩
    · unfold text opening
      simp
    · have hmore : Unmarked more.1 := hc
      simpa using unmarked_arguments q root q' hmore
  | read f blank q root name q' =>
    have hquote := ProjectPath.quote_not_mem_callMarks q'.2
    have hinside : Unmarked name.1 := hc
    refine ⟨blank.1 ++ q.1 :: (root.1 ++ '/' :: name.1), q'.1, ?_, ?_, hquote⟩
    · unfold text opening
      simp
    · have hname : Unmarked (root.1 ++ '/' :: (name.1 ++ [q'.1])) :=
        unmarked_root_name root (hinside.append_cons hquote (by decide))
      simpa using (ProjectPath.unmarked_of_isBlank blank.2).append_cons
        (ProjectPath.quote_not_mem_callMarks q.2) hname
  | source q name q' =>
    have hquote := ProjectPath.quote_not_mem_callMarks q'.2
    have hinside : Unmarked name.1 := hc
    refine ⟨q.1 :: 'R' :: '/' :: name.1, q'.1, ?_, ?_, hquote⟩
    · unfold text opening
      simp
    · have hname : Unmarked ('R' :: '/' :: (name.1 ++ [q'.1])) :=
        .cons (by decide) (.cons (by decide) (hinside.append_cons hquote (by decide)))
      simpa using Unmarked.cons (ProjectPath.quote_not_mem_callMarks q.2) hname

theorem sealed_respelled_path (q : Quote) (root : DataRoot) (q' : Quote)
    (more : { t : Text // ')' ∉ t }) (hmore : Unmarked more.1) :
    Sealed "here::here(".toList (path q root q' more).respelled := by
  refine ⟨q.1 :: (root.1 ++ q'.1 :: ',' :: more.1), ')', ?_, ?_, by decide⟩
  · unfold respelled
    simp
  · simpa using unmarked_arguments q root q' hmore

theorem sealed_respelled_read (f : { t : Text // t ∈ ReadCall.functions })
    (blank : { t : Text // Text.isBlank t = true }) (q : Quote) (root : DataRoot) (name : PathName)
    (q' : Quote) (hname : Unmarked name.1) :
    Sealed (f.1 ++ ['(']) (read f blank q root name q').respelled := by
  have hquote : ∀ mark ∈ callMarks, '"' ∉ mark := by decide
  refine ⟨"here::here(".toList
    ++ '"' :: (root.1 ++ '"' :: (", ".toList ++ '"' :: (name.1 ++ ['"']))), ')', ?_, ?_, by decide⟩
  · unfold respelled
    simp
  · have hend : Unmarked (name.1 ++ '"' :: [')']) := hname.append_cons hquote (by decide)
    have hroot : Unmarked (root.1 ++ '"' :: (", ".toList ++ '"' :: (name.1 ++ '"' :: [')']))) :=
      (ProjectPath.unmarked_root root).append_cons hquote
        (Unmarked.append_cons (by decide) hquote hend)
    have hall : Unmarked ("here::here(".toList ++ '"' :: (root.1 ++ '"' :: (", ".toList
        ++ '"' :: (name.1 ++ '"' :: [')'])))) :=
      Unmarked.append_cons (by decide) hquote hroot
    simpa using hall

end ProjectCall

/-! ## Past text and past calls of other kinds -/

namespace ProjectPath

/-- No call begins in unmarked text in front of a call, or at the end of the line. -/
theorem not_mark_prefix_of_unmarked {s rest : Text} (hs : Unmarked s)
    (hrest : rest = [] ∨ ∃ o ∈ callOpenings, o <+: rest) {t : Text} (hne : t ≠ []) (ht : t <:+ s) :
    ∀ mark ∈ callMarks, ¬ mark <+: t ++ rest := by
  -- what is left of a mark would be the beginning of another one
  have hapart : ∀ mark ∈ callMarks, ∀ r ∈ mark.tail.tails, r ≠ [] → ∀ o ∈ callOpenings,
      ¬ r <+: o ∧ ¬ o <+: r := by decide
  intro mark hmark h
  rcases Text.prefix_append_cases h with h | ⟨r, hr, rfl⟩
  · exact hs mark hmark (h.isInfix.trans ht.isInfix)
  · by_cases hr' : r = []
    · refine hs _ hmark ?_
      rw [hr', List.append_nil]
      exact ht.isInfix
    · rcases hrest with rfl | ⟨o, ho, hrest⟩
      · exact hr' (List.prefix_nil.1 hr)
      · obtain ⟨a, t, rfl⟩ := List.exists_cons_of_ne_nil hne
        have hmem : r ∈ (a :: t ++ r).tail.tails := (List.mem_tails _ _).2 (List.suffix_append t r)
        rcases List.prefix_or_prefix_of_prefix hr hrest with h' | h'
        · exact (hapart _ hmark r hmem hr' o ho).1 h'
        · exact (hapart _ hmark r hmem hr' o ho).2 h'

/-- Where a call opens, no other one begins. -/
theorem eq_opening_of_mark_prefix {o t rest mark : Text} (ho : o ∈ callOpenings) (hne : t ≠ [])
    (ht : t <:+ o) (hmark : mark ∈ callMarks) (h : mark <+: t ++ rest) : mark = o := by
  have hapart : ∀ o ∈ callOpenings, ∀ t ∈ o.tails, t ≠ [] → ∀ mark ∈ callMarks,
      mark <+: t ∨ t <+: mark → mark = o := by decide
  refine hapart o ho t ((List.mem_tails _ _).2 ht) hne mark hmark ?_
  exact List.prefix_or_prefix_of_prefix h (List.prefix_append t rest)

end ProjectPath

namespace Recogniser

open ProjectPath (callMarks Unmarked)

variable {β : Type} {rec : Recogniser Char β} {render : β → Text} {marks : List Text}

/-- Unmarked text stays in front of a call. -/
theorem rewrite_unmarked_append (hmarks : ∀ mark ∈ marks, mark ∈ callMarks)
    (hread : rec.BeginsWith marks) {s rest : Text}
    (hs : Unmarked s) (hrest : rest = [] ∨ ∃ o ∈ callOpenings, o <+: rest) :
    rec.rewrite render (s ++ rest) = s ++ rec.rewrite render rest := by
  refine rec.rewrite_append_of_unread render fun t hne ht => ?_
  rw [Option.eq_none_iff_forall_ne_some]
  intro p hp
  obtain ⟨mark, hmark, hprefix⟩ := hread _ _ hp
  exact ProjectPath.not_mark_prefix_of_unmarked hs hrest hne ht mark (hmarks mark hmark) hprefix

/-- A spelling that does not open like the calls that are looked for stays as it is. -/
theorem rewrite_sealed_append (hmarks : ∀ mark ∈ marks, mark ∈ callMarks)
    (hread : rec.BeginsWith marks) {opening s : Text}
    (hs : ProjectCall.Sealed opening s) (hopening : opening ∈ callOpenings)
    (hother : opening ∉ marks) (rest : Text) :
    rec.rewrite render (s ++ rest) = s ++ rec.rewrite render rest := by
  obtain ⟨inner, last, rfl, hbody, hlast⟩ := hs
  have hfront : rec.rewrite render (opening ++ (inner ++ [last] ++ rest))
      = opening ++ rec.rewrite render (inner ++ [last] ++ rest) := by
    refine rec.rewrite_append_of_unread render fun t hne ht => ?_
    rw [Option.eq_none_iff_forall_ne_some]
    intro p hp
    obtain ⟨mark, hmark, hprefix⟩ := hread _ _ hp
    obtain rfl :=
      ProjectPath.eq_opening_of_mark_prefix hopening hne ht (hmarks mark hmark) hprefix
    exact hother hmark
  have hback : rec.rewrite render (inner ++ [last] ++ rest)
      = inner ++ [last] ++ rec.rewrite render rest := by
    refine rec.rewrite_append_of_unread render fun t hne ht => ?_
    rw [Option.eq_none_iff_forall_ne_some]
    intro p hp
    obtain ⟨mark, hmark, hprefix⟩ := hread _ _ hp
    rcases Text.prefix_append_cases hprefix with h | ⟨r, -, rfl⟩
    · exact hbody mark (hmarks mark hmark) (h.isInfix.trans ht.isInfix)
    · -- the end of the body would be part of a mark
      obtain ⟨t, c, rfl⟩ := (List.eq_nil_or_concat' t).resolve_left hne
      obtain ⟨u, hu⟩ := ht
      rw [← List.append_assoc] at hu
      obtain ⟨-, hc⟩ := List.append_inj' hu rfl
      obtain rfl := List.singleton_inj.1 hc
      exact hlast _ (hmarks _ hmark) (by simp)
  rw [List.append_assoc, hfront, hback, List.append_assoc opening]

/-- **A pass over a line with calls**, if it does with each call what `spell'` says and goes past
everything else. -/
theorem rewrite_lineOf (hmarks : ∀ mark ∈ marks, mark ∈ callMarks)
    (hread : rec.BeginsWith marks) {spell spell' : ProjectCall → Text}
    (hopening : ∀ c, ∃ o ∈ callOpenings, o <+: spell c)
    (hcall : ∀ c, Unmarked c.inside → ∀ rest,
      rec.rewrite render (spell c ++ rest) = spell' c ++ rec.rewrite render rest)
    {start : Text} (hstart : Unmarked start) {calls : List (ProjectCall × Text)}
    (hcalls : ∀ p ∈ calls, Unmarked p.1.inside ∧ Unmarked p.2) :
    rec.rewrite render (ProjectPath.lineOf spell start calls)
      = ProjectPath.lineOf spell' start calls := by
  induction calls generalizing start with
  | nil =>
    have hline : rec.rewrite render (start ++ []) = start ++ rec.rewrite render [] :=
      rewrite_unmarked_append hmarks hread hstart (Or.inl rfl)
    rwa [rewrite_nil] at hline
  | cons p calls ih =>
    obtain ⟨⟨hinside, hbehind⟩, hcalls⟩ := List.forall_mem_cons.1 hcalls
    have hline : ∀ spell : ProjectCall → Text, ProjectPath.lineOf spell start (p :: calls)
        = start ++ (spell p.1 ++ ProjectPath.lineOf spell p.2 calls) := by
      intro spell
      simp [ProjectPath.lineOf]
    obtain ⟨o, ho, hprefix⟩ := hopening p.1
    have hrest : o <+: spell p.1 ++ ProjectPath.lineOf spell p.2 calls :=
      hprefix.trans (List.prefix_append _ _)
    rw [hline, hline, rewrite_unmarked_append hmarks hread hstart (Or.inr ⟨o, ho, hrest⟩),
      hcall p.1 hinside, ih hbehind hcalls]

end Recogniser

/-! ## The three passes -/

namespace ProjectCall

open ProjectPath (callMarks Unmarked)

/-- The spelling behind the first pass, which respells `file.path` calls. -/
def afterFirst (c : ProjectCall) : Text :=
  match c with
  | path _ _ _ _ => c.respelled
  | read _ _ _ _ _ _ | source _ _ _ => c.text

/-- The spelling behind the second pass, which respells calls that read a table. -/
def afterSecond (c : ProjectCall) : Text :=
  match c with
  | path _ _ _ _ | read _ _ _ _ _ _ => c.respelled
  | source _ _ _ => c.text

theorem opening_mem (c : ProjectCall) : c.opening ∈ callOpenings := by
  cases c with
  | path _ _ _ _ =>
    show "file.path(".toList ∈ callOpenings
    decide
  | read f _ _ _ _ _ => exact (readOpening_mem f).1
  | source _ _ _ =>
    show "source(".toList ∈ callOpenings
    decide

theorem exists_opening_text (c : ProjectCall) : ∃ o ∈ callOpenings, o <+: c.text := by
  refine ⟨c.opening, c.opening_mem, ?_⟩
  cases c with
  | path _ _ _ _ | source _ _ _ => exact List.prefix_append _ _
  | read f blank q root name q' =>
    show f.1 ++ ['('] <+: f.1 ++ '(' :: _
    exact (List.prefix_append_right_inj f.1).2 ⟨_, rfl⟩

theorem exists_opening_respelled (c : ProjectCall) : ∃ o ∈ callOpenings, o <+: c.respelled := by
  cases c with
  | path _ _ _ _ => exact ⟨"here::here(".toList, by decide, List.prefix_append _ _⟩
  | read f _ _ _ _ _ =>
    exact ⟨f.1 ++ ['('], (readOpening_mem f).1, (List.prefix_append_right_inj f.1).2 ⟨_, rfl⟩⟩
  | source _ _ _ => exact ⟨"source(".toList, by decide, ⟨_, rfl⟩⟩

theorem respell_path_append (q : Quote) (root : DataRoot) (q' : Quote)
    (more : { t : Text // ')' ∉ t }) (rest : Text) :
    PathCall.respell ((path q root q' more).text ++ rest)
      = (path q root q' more).respelled ++ PathCall.respell rest := by
  have hroot : ∀ root ∈ dataRoots, ')' ∉ root := by decide
  have hquote : ∀ q : Quote, q.1 ≠ ')' := by
    rintro ⟨q, hq⟩ rfl
    exact absurd hq (by decide)
  have hwritten : (PathCall.mk (q.1 :: (root.1 ++ q'.1 :: ',' :: more.1))).IsWritten := by
    refine ⟨(PathCall.hasRoot_iff _).2 ⟨q.1, root.1, q'.1, more.1, q.2, root.2, q'.2, rfl⟩, ?_⟩
    simp only [List.mem_cons, List.mem_append, not_or]
    exact ⟨(hquote q).symm, hroot root.1 root.2, (hquote q').symm, by decide, more.2⟩
  have hread : PathCall.recogniser.read ((path q root q' more).text ++ rest)
      = some (⟨q.1 :: (root.1 ++ q'.1 :: ',' :: more.1)⟩, rest) := by
    refine PathCall.read_eq_some_iff.2 ⟨hwritten, ?_⟩
    unfold text PathCall.text
    simp
  unfold PathCall.respell
  rw [PathCall.recogniser.rewrite_of_some PathCall.render hread]
  unfold respelled PathCall.render
  simp

theorem respell_read_append (f : { t : Text // t ∈ ReadCall.functions })
    (blank : { t : Text // Text.isBlank t = true }) (q : Quote) (root : DataRoot) (name : PathName)
    (q' : Quote) (rest : Text) :
    ReadCall.respell ((read f blank q root name q').text ++ rest)
      = (read f blank q root name q').respelled ++ ReadCall.respell rest := by
  have hread : ReadCall.recogniser.read ((read f blank q root name q').text ++ rest)
      = some (⟨f.1, ⟨q.1, root.1, name.1, q'.1⟩⟩, rest) := by
    refine ReadCall.read_eq_some_iff.2 ⟨⟨f.2, ⟨q.2, root.2, name.2.1, name.2.2, q'.2⟩⟩, blank.1,
      blank.2, ?_⟩
    unfold text ReadCall.text PathLiteral.text
    simp
  unfold ReadCall.respell
  rw [ReadCall.recogniser.rewrite_of_some ReadCall.render hread]
  unfold respelled ReadCall.render
  simp

theorem respell_source_append (q : Quote) (name : PathName) (q' : Quote) (rest : Text) :
    SourceCall.respell ((source q name q').text ++ rest)
      = (source q name q').respelled ++ SourceCall.respell rest := by
  have hread : SourceCall.recogniser.read ((source q name q').text ++ rest)
      = some (⟨⟨q.1, "R".toList, name.1, q'.1⟩⟩, rest) := by
    refine SourceCall.read_eq_some_iff.2
      ⟨⟨q.2, List.mem_singleton_self _, name.2.1, name.2.2, q'.2⟩, ?_⟩
    unfold text SourceCall.text PathLiteral.text
    simp
  unfold SourceCall.respell
  rw [SourceCall.recogniser.rewrite_of_some SourceCall.render hread]
  unfold respelled SourceCall.render PathLiteral.text
  simp

end ProjectCall

namespace ProjectPath

variable {start : Text} {calls : List (ProjectCall × Text)}

theorem respell_path_lineOf (hstart : Unmarked start)
    (hcalls : ∀ p ∈ calls, Unmarked p.1.inside ∧ Unmarked p.2) :
    PathCall.respell (lineOf ProjectCall.text start calls)
      = lineOf ProjectCall.afterFirst start calls := by
  refine Recogniser.rewrite_lineOf PathCall.marks_subset PathCall.beginsWith_marks
    ProjectCall.exists_opening_text (fun c hc rest => ?_) hstart hcalls
  have hother : c.opening ∉ PathCall.marks → ∀ rest,
      PathCall.respell (c.text ++ rest) = c.text ++ PathCall.respell rest :=
    Recogniser.rewrite_sealed_append PathCall.marks_subset PathCall.beginsWith_marks
      (ProjectCall.sealed_text c hc) c.opening_mem
  cases c with
  | path q root q' more => exact ProjectCall.respell_path_append q root q' more rest
  | read f _ _ _ _ _ => exact hother (ProjectCall.readOpening_mem f).2.1 rest
  | source _ _ _ =>
    have hmark : "source(".toList ∉ PathCall.marks := by decide
    exact hother hmark rest

theorem respell_read_lineOf (hstart : Unmarked start)
    (hcalls : ∀ p ∈ calls, Unmarked p.1.inside ∧ Unmarked p.2) :
    ReadCall.respell (lineOf ProjectCall.afterFirst start calls)
      = lineOf ProjectCall.afterSecond start calls := by
  refine Recogniser.rewrite_lineOf ReadCall.marks_subset ReadCall.beginsWith_marks
    (fun c => ?_) (fun c hc rest => ?_) hstart hcalls
  · cases c with
    | path q root q' more => exact (ProjectCall.path q root q' more).exists_opening_respelled
    | read f blank q root name q' =>
      exact (ProjectCall.read f blank q root name q').exists_opening_text
    | source q name q' => exact (ProjectCall.source q name q').exists_opening_text
  · cases c with
    | path q root q' more =>
      exact Recogniser.rewrite_sealed_append ReadCall.marks_subset ReadCall.beginsWith_marks
        (ProjectCall.sealed_respelled_path q root q' more hc) (by decide) (by decide) rest
    | read f blank q root name q' =>
      exact ProjectCall.respell_read_append f blank q root name q' rest
    | source q name q' =>
      have hmark : "source(".toList ∉ ReadCall.marks := by decide
      exact Recogniser.rewrite_sealed_append ReadCall.marks_subset ReadCall.beginsWith_marks
        (ProjectCall.sealed_text _ hc) (ProjectCall.opening_mem _) hmark rest

theorem respell_source_lineOf (hstart : Unmarked start)
    (hcalls : ∀ p ∈ calls, Unmarked p.1.inside ∧ Unmarked p.2) :
    SourceCall.respell (lineOf ProjectCall.afterSecond start calls)
      = lineOf ProjectCall.respelled start calls := by
  refine Recogniser.rewrite_lineOf SourceCall.marks_subset SourceCall.beginsWith_marks
    (fun c => ?_) (fun c hc rest => ?_) hstart hcalls
  · cases c with
    | path q root q' more => exact (ProjectCall.path q root q' more).exists_opening_respelled
    | read f blank q root name q' =>
      exact (ProjectCall.read f blank q root name q').exists_opening_respelled
    | source q name q' => exact (ProjectCall.source q name q').exists_opening_text
  · cases c with
    | path q root q' more =>
      exact Recogniser.rewrite_sealed_append SourceCall.marks_subset SourceCall.beginsWith_marks
        (ProjectCall.sealed_respelled_path q root q' more hc) (by decide) (by decide) rest
    | read f blank q root name q' =>
      exact Recogniser.rewrite_sealed_append SourceCall.marks_subset SourceCall.beginsWith_marks
        (ProjectCall.sealed_respelled_read f blank q root name q' hc)
        (ProjectCall.readOpening_mem f).1 (ProjectCall.readOpening_mem f).2.2 rest
    | source q name q' => exact ProjectCall.respell_source_append q name q' rest

/-- **Calls are respelled one by one.**  Let calls stand on a line, any number of them, of any kind
and with any quotation marks, and let no call begin in the text between them, in the names of files
or in the arguments behind a directory.  Then the line has each call respelled and everything else
as it was. -/
theorem rewriteLine_calls (hstart : Unmarked start)
    (hcalls : ∀ p ∈ calls, Unmarked p.1.inside ∧ Unmarked p.2) :
    rewriteLine (lineOf ProjectCall.text start calls)
      = lineOf ProjectCall.respelled start calls := by
  rw [rewriteLine_eq, respell_path_lineOf hstart hcalls, respell_read_lineOf hstart hcalls,
    respell_source_lineOf hstart hcalls]

/-- Two calls that touch each other and a third one, with a parenthesis that the first one leaves
open and one in the name of a file. -/
def mixedCalls : List (ProjectCall × Text) :=
  [(.path ⟨'\'', rfl⟩ ⟨"data".toList, by decide⟩ ⟨'"', rfl⟩ ⟨" f(\"a\"".toList, by decide⟩, []),
    (.read ⟨"read_csv".toList, by decide⟩ ⟨" ".toList, by decide⟩ ⟨'"', rfl⟩
      ⟨"images".toList, by decide⟩ ⟨"b).csv".toList, by decide⟩ ⟨'\'', rfl⟩, ", 1); ".toList),
    (.source ⟨'\'', rfl⟩ ⟨"c.R".toList, by decide⟩ ⟨'\'', rfl⟩, ")\n".toList)]

theorem rewriteLine_calls_mixed :
    Unmarked "x <- ".toList ∧ (∀ p ∈ mixedCalls, Unmarked p.1.inside ∧ Unmarked p.2)
      ∧ lineOf ProjectCall.text "x <- ".toList mixedCalls
        = "x <- file.path('data\", f(\"a\")".toList
          ++ "read_csv( \"images/b).csv', 1); source('R/c.R')\n".toList
      ∧ rewriteLine (lineOf ProjectCall.text "x <- ".toList mixedCalls)
        = "x <- here::here('data\", f(\"a\")".toList
          ++ "read_csv(here::here(\"images\", \"b).csv\"), 1); ".toList
          ++ "source(here::here('R/c.R'))\n".toList := by
  have hstart : Unmarked "x <- ".toList := by decide
  have hcalls : ∀ p ∈ mixedCalls, Unmarked p.1.inside ∧ Unmarked p.2 := by decide
  refine ⟨hstart, hcalls, by decide, ?_⟩
  rw [rewriteLine_calls hstart hcalls]
  decide

end ProjectPath
end SlideDeck
