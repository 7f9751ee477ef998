import SlideDeck.Proofs.Pipeline.Front
import SlideDeck.Proofs.Pipeline.MissingEnd

/-!
# Pairs of columns, through the rules on reveals

A left and a right block are one layout as long as nothing but blank lines and pauses stands
between them.  Three rules meet these lines: the first one keeps, drops or rewrites the pauses, the
second one thins out blank lines, and the third one has to find a gap in what is left.  They leave
the pair together because what the first one writes for a pause is a gap again, and because the
brackets and the openers around the columns are text to the second one.

* `Reveal.exists_convertPausesAfter_gap` — a gap whose pauses are rewritten is a gap.
* `Reveal.compactLists_append_cons` — lists are compacted on each side of a line of text.
* `Layout.convert_pair_append` — a pair at the start of a document becomes one container.
* `ColumnPair` — a pair with its gap; `exists_convertPausesAfter`, `compactLists_flatMap` and
  `convert_flatMap` say what each of the three rules makes of a sequence of pairs.
* `Pipeline.lines_runStages_columnPairs` — the three rules together: one container for each pair.
-/

set_option autoImplicit false

namespace SlideDeck

/-! ## Lines around the columns -/

namespace Layout

/-- The lines that open and close columns. -/
def borders : List Text :=
  [".pull-left[".toList, ".two-column-left[".toList, ".pull-right[".toList,
    ".two-column-right[".toList, "]".toList]

/-- A line that is text to the rules on reveals, and ends a gap. -/
structure IsBorder (l : Line) : Prop where
  pause : Reveal.isPause l = false
  item : l.isListItem = false
  blank : Text.isBlank l = false
  gap : isGap l = false

theorem isBorder_of_trim {l : Line} (h : Text.trim l ∈ borders) : IsBorder l := by
  have hborders : ∀ mark ∈ borders, mark ≠ [] ∧ mark ≠ "--".toList ∧ mark ≠ ". . .".toList
      ∧ Line.isListItem mark = false ∧ Text.trim mark = mark := by
    decide
  obtain ⟨hempty, hpause, hdots, hitem, htrim⟩ := hborders _ h
  have hne : ∀ mark, Text.trim l ≠ mark → l.trimsTo mark = false := fun mark hmark =>
    Bool.eq_false_iff.2 (mt (Line.trimsTo_iff l mark).1 hmark)
  have hblank : Text.isBlank l = false := by
    rw [Line.isBlank_eq_trimsTo]
    exact hne [] hempty
  constructor
  · exact hne _ hpause
  · rwa [Line.isListItem, htrim] at hitem
  · exact hblank
  · rw [isGap, hne _ hpause, hne _ hdots, hblank]
    rfl

theorem isBorder_of_isLeft {l : Line} (h : isLeft l = true) : IsBorder l := by
  refine isBorder_of_trim ?_
  rw [isLeft, Bool.or_eq_true, Line.trimsTo_iff, Line.trimsTo_iff] at h
  rcases h with h | h <;> simp [borders, h]

theorem isBorder_of_isRight {l : Line} (h : isRight l = true) : IsBorder l := by
  refine isBorder_of_trim ?_
  rw [isRight, Bool.or_eq_true, Line.trimsTo_iff, Line.trimsTo_iff] at h
  rcases h with h | h <;> simp [borders, h]

theorem isBorder_of_isClose {l : Line} (h : isClose l = true) : IsBorder l := by
  refine isBorder_of_trim ?_
  rw [isClose, Line.trimsTo_iff] at h
  simp [borders, h]

theorem not_isListItem_of_isGap {g : Line} (h : isGap g = true) : g.isListItem = false := by
  rw [isGap, Line.isBlank_eq_trimsTo, Bool.or_eq_true, Bool.or_eq_true, Line.trimsTo_iff,
    Line.trimsTo_iff, Line.trimsTo_iff] at h
  rw [Line.isListItem]
  rcases h with (h | h) | h <;> rw [h] <;> decide

/-- **A pair at the start of a document** becomes one container. -/
theorem convert_pair_append {l c r c' : Line} {left gap right : Document} (hl : isLeft l = true)
    (hleft : ∀ m ∈ left, isClose m = false) (hc : isClose c = true)
    (hgap : ∀ g ∈ gap, isGap g = true) (hr : isRight r = true)
    (hright : ∀ m ∈ right, isClose m = false) (hc' : isClose c' = true) (rest : Document) :
    convert (l :: left ++ c :: (gap ++ r :: (right ++ c' :: rest)))
      = container left right ++ convert rest := by
  have hback : ∀ m ∈ (r :: (right ++ c' :: rest)).head?, isGap m = false := by
    intro m hm
    obtain rfl := Option.some.inj hm
    exact (isBorder_of_isRight hr).gap
  have hread : recogniser.read (l :: left ++ c :: (gap ++ r :: (right ++ c' :: rest)))
      = some (pair ⟨left, true⟩ gap.length ⟨right, true⟩, rest) := by
    show read (l :: (left ++ c :: (gap ++ r :: (right ++ c' :: rest)))) = _
    rw [read, if_pos hl, Body.read_append_cons hleft hc]
    dsimp only
    rw [readAfterLeft_gap_append _ _ hgap hback, readBehindGap, if_pos hr,
      Body.read_append_cons hright hc']
    rfl
  rw [convert, recogniser.rewrite_of_some render hread]
  rfl

end Layout

/-! ## The rules on reveals -/

namespace Reveal

/-- Pauses that are rewritten before a line leave a front part and what follows from that line. -/
theorem convertPausesAfter_append_cons {front : Document} (hfront : ∀ l ∈ front, isPause l = false)
    {e : Line} (he : isPause e = false) (previous : Line) (d : Document) :
    convertPausesAfter previous (front ++ e :: d) = front ++ e :: convertPausesAfter e d := by
  induction front generalizing previous with
  | nil => exact convertPausesAfter_cons he previous d
  | cons l front ih =>
    obtain ⟨hl, hfront⟩ := List.forall_mem_cons.1 hfront
    rw [List.cons_append, convertPausesAfter_cons hl, ih hfront, List.cons_append]

/-- Whatever stands around it, a line of a gap becomes a gap. -/
theorem isGap_of_mem_convertPause {g : Line} (hg : Layout.isGap g = true) (previous next : Line) :
    ∀ k ∈ convertPause previous g next, Layout.isGap k = true := by
  rw [convertPause]
  split
  · split
    · exact List.forall_mem_nil _
    · split
      · exact List.forall_mem_singleton.2 (by decide)
      · exact List.forall_mem_singleton.2 hg
  · exact List.forall_mem_singleton.2 hg

/-- A gap whose pauses are rewritten is a gap, of another length perhaps. -/
theorem exists_convertPausesAfter_gap {gap : Document} (hgap : ∀ g ∈ gap, Layout.isGap g = true)
    {e : Line} (he : isPause e = false) (previous : Line) (d : Document) :
    ∃ gap' : Document, (∀ g ∈ gap', Layout.isGap g = true)
      ∧ convertPausesAfter previous (gap ++ e :: d) = gap' ++ e :: convertPausesAfter e d := by
  induction gap generalizing previous with
  | nil => exact ⟨[], List.forall_mem_nil _, convertPausesAfter_cons he previous d⟩
  | cons g gap ih =>
    obtain ⟨hg, hgap⟩ := List.forall_mem_cons.1 hgap
    obtain ⟨gap', hgap', hlines⟩ := ih hgap g
    refine ⟨convertPause previous g ((gap ++ e :: d).headD []) ++ gap',
      List.forall_mem_append.2 ⟨isGap_of_mem_convertPause hg _ _, hgap'⟩, ?_⟩
    rw [List.cons_append, convertPausesAfter, hlines, List.append_assoc]

theorem compactLists_cons_of_not_blank {b : Line} (hb : Text.isBlank b = false) (a : Line)
    (d : Document) : compactLists (a :: b :: d) = a :: compactLists (b :: d) := by
  cases d with
  | nil => rfl
  | cons c d => rw [compactLists, hb, Bool.and_false, Bool.false_and, if_neg (by decide)]

/-- Lists are compacted on each side of a line that is neither blank nor a list item. -/
theorem compactLists_append_cons {e : Line} (hitem : e.isListItem = false)
    (hblank : Text.isBlank e = false) (front d : Document) :
    compactLists (front ++ e :: d) = compactLists front ++ e :: compactLists d := by
  induction front using compactLists.induct with
  | case1 a b c front hloose ih =>
    rw [compactLists, if_pos hloose]
    simp only [List.cons_append] at ih ⊢
    rw [compactLists, if_pos hloose, ih]
  | case2 a b c front hloose ih =>
    rw [compactLists, if_neg hloose]
    simp only [List.cons_append] at ih ⊢
    rw [compactLists, if_neg hloose, ih]
  | case3 front hshort =>
    rcases front with _ | ⟨a, _ | ⟨b, _ | ⟨c, front⟩⟩⟩
    · exact compactLists_cons hitem d
    · rw [List.singleton_append, compactLists_cons_of_not_blank hblank, compactLists_cons hitem]
      rfl
    · show compactLists (a :: b :: e :: d) = a :: b :: e :: compactLists d
      rw [compactLists, hitem, Bool.and_false, if_neg (by decide),
        compactLists_cons_of_not_blank hblank, compactLists_cons hitem]
    · exact absurd rfl (hshort a b c front)

/-- A gap has no list items to be brought together. -/
theorem compactLists_gap_append {gap : Document} (hgap : ∀ g ∈ gap, Layout.isGap g = true)
    (d : Document) : compactLists (gap ++ d) = gap ++ compactLists d := by
  induction gap with
  | nil => rfl
  | cons g gap ih =>
    obtain ⟨hg, hgap⟩ := List.forall_mem_cons.1 hgap
    rw [List.cons_append, compactLists_cons (Layout.not_isListItem_of_isGap hg), ih hgap,
      List.cons_append]

end Reveal

/-! ## Pairs with their gaps -/

/-- A left and a right block that are both closed, with blank lines and pauses between them and no
pause inside. -/
structure ColumnPair where
  leftOpener : Line
  left : Document
  leftCloser : Line
  gap : Document
  rightOpener : Line
  right : Document
  rightCloser : Line
  isLeft_leftOpener : Layout.isLeft leftOpener = true
  isClose_leftCloser : Layout.isClose leftCloser = true
  isRight_rightOpener : Layout.isRight rightOpener = true
  isClose_rightCloser : Layout.isClose rightCloser = true
  isGap_gap : ∀ g ∈ gap, Layout.isGap g = true
  not_isClose : ∀ l ∈ left ++ right, Layout.isClose l = false
  not_isPause : ∀ l ∈ left ++ right, Reveal.isPause l = false

namespace ColumnPair

/-- The lines of a pair. -/
def lines (p : ColumnPair) : Document :=
  p.leftOpener :: p.left
    ++ p.leftCloser :: (p.gap ++ p.rightOpener :: (p.right ++ [p.rightCloser]))

/-- The container of a pair. -/
def container (p : ColumnPair) : Document := Layout.container p.left p.right

/-- The pair with another gap. -/
def withGap (p : ColumnPair) (gap : Document) (hgap : ∀ g ∈ gap, Layout.isGap g = true) :
    ColumnPair :=
  { p with gap := gap, isGap_gap := hgap }

theorem mem_of_mem_compactLists {left right : Document} {l : Line}
    (h : l ∈ Reveal.compactLists left ++ Reveal.compactLists right) : l ∈ left ++ right :=
  ((Reveal.compactLists_sublist left).append (Reveal.compactLists_sublist right)).subset h

/-- The pair with the lists in its columns compacted. -/
def compacted (p : ColumnPair) : ColumnPair :=
  { p with
    left := Reveal.compactLists p.left
    right := Reveal.compactLists p.right
    not_isClose := fun l hl => p.not_isClose l (mem_of_mem_compactLists hl)
    not_isPause := fun l hl => p.not_isPause l (mem_of_mem_compactLists hl) }

theorem lines_append (p : ColumnPair) (rest : Document) :
    p.lines ++ rest = p.leftOpener :: p.left
      ++ p.leftCloser :: (p.gap ++ p.rightOpener :: (p.right ++ p.rightCloser :: rest)) := by
  simp only [lines, List.append_assoc, List.cons_append, List.nil_append]

/-! ### Pair by pair -/

/-- Rewriting the pauses changes the gap of a pair and nothing else. -/
theorem exists_convertPausesAfter_append (p : ColumnPair) (previous : Line) (rest : Document) :
    ∃ gap hgap, Reveal.convertPausesAfter previous (p.lines ++ rest)
      = (p.withGap gap hgap).lines ++ Reveal.convertPausesAfter p.rightCloser rest := by
  obtain ⟨hleft, hright⟩ := List.forall_mem_append.1 p.not_isPause
  have hfront : ∀ l ∈ p.leftOpener :: p.left, Reveal.isPause l = false :=
    List.forall_mem_cons.2 ⟨(Layout.isBorder_of_isLeft p.isLeft_leftOpener).pause, hleft⟩
  have hcloser := Layout.isBorder_of_isClose p.isClose_leftCloser
  have hopener := Layout.isBorder_of_isRight p.isRight_rightOpener
  have hend := Layout.isBorder_of_isClose p.isClose_rightCloser
  obtain ⟨gap, hgap, hlines⟩ := Reveal.exists_convertPausesAfter_gap p.isGap_gap hopener.pause
    p.leftCloser (p.right ++ p.rightCloser :: rest)
  refine ⟨gap, hgap, ?_⟩
  rw [lines_append, Reveal.convertPausesAfter_append_cons hfront hcloser.pause, hlines,
    Reveal.convertPausesAfter_append_cons hright hend.pause, lines_append]
  rfl

/-- Compacting the lists compacts those of the two columns. -/
theorem compactLists_append (p : ColumnPair) (rest : Document) :
    Reveal.compactLists (p.lines ++ rest) = p.compacted.lines ++ Reveal.compactLists rest := by
  have hstart := Layout.isBorder_of_isLeft p.isLeft_leftOpener
  have hcloser := Layout.isBorder_of_isClose p.isClose_leftCloser
  have hopener := Layout.isBorder_of_isRight p.isRight_rightOpener
  have hend := Layout.isBorder_of_isClose p.isClose_rightCloser
  rw [lines_append, List.cons_append, Reveal.compactLists_cons hstart.item,
    Reveal.compactLists_append_cons hcloser.item hcloser.blank,
    Reveal.compactLists_gap_append p.isGap_gap, Reveal.compactLists_cons hopener.item,
    Reveal.compactLists_append_cons hend.item hend.blank, lines_append]
  rfl

/-- A pair becomes its container. -/
theorem convert_append (p : ColumnPair) (rest : Document) :
    Layout.convert (p.lines ++ rest) = p.container ++ Layout.convert rest := by
  obtain ⟨hleft, hright⟩ := List.forall_mem_append.1 p.not_isClose
  rw [lines_append]
  exact Layout.convert_pair_append p.isLeft_leftOpener hleft p.isClose_leftCloser p.isGap_gap
    p.isRight_rightOpener hright p.isClose_rightCloser rest

/-! ### Sequences of pairs -/

/-- Pairs whose pauses are rewritten are pairs with the same columns. -/
theorem exists_convertPausesAfter (pairs : List ColumnPair) (previous : Line) :
    ∃ pairs' : List ColumnPair,
      Reveal.convertPausesAfter previous (pairs.flatMap lines) = pairs'.flatMap lines
        ∧ pairs'.map (fun p => (p.left, p.right)) = pairs.map fun p => (p.left, p.right) := by
  induction pairs generalizing previous with
  | nil => exact ⟨[], rfl, rfl⟩
  | cons p pairs ih =>
    obtain ⟨gap, hgap, hlines⟩ := p.exists_convertPausesAfter_append previous (pairs.flatMap lines)
    obtain ⟨pairs', hpairs, hcolumns⟩ := ih p.rightCloser
    refine ⟨p.withGap gap hgap :: pairs', ?_, ?_⟩
    · rw [List.flatMap_cons, hlines, hpairs, List.flatMap_cons]
    · rw [List.map_cons, List.map_cons, hcolumns]
      rfl

theorem compactLists_flatMap (pairs : List ColumnPair) :
    Reveal.compactLists (pairs.flatMap lines) = (pairs.map compacted).flatMap lines := by
  induction pairs with
  | nil => rfl
  | cons p pairs ih =>
    rw [List.flatMap_cons, compactLists_append, ih, List.map_cons, List.flatMap_cons]

theorem convert_flatMap (pairs : List ColumnPair) :
    Layout.convert (pairs.flatMap lines) = pairs.flatMap container := by
  induction pairs with
  | nil => exact Layout.recogniser.rewrite_nil _
  | cons p pairs ih => rw [List.flatMap_cons, convert_append, ih, List.flatMap_cons]

end ColumnPair

/-! ## The three stages -/

/-- **A pause between two blocks never splits the pair.**  Any number of pairs, with blank lines
and pauses between the blocks of each, become that many containers, with the lists of the columns
compacted and nothing else beside them. -/
theorem Pipeline.lines_runStages_columnPairs (config : Config) (pairs : List ColumnPair) :
    (runStages config [.pauses, .compactLists, .columns] (pairs.flatMap ColumnPair.lines)).lines
      = pairs.flatMap fun p =>
          Layout.container (Reveal.compactLists p.left) (Reveal.compactLists p.right) := by
  obtain ⟨pairs', hpauses, hcolumns⟩ := ColumnPair.exists_convertPausesAfter pairs []
  have hcontainers : ∀ ps : List ColumnPair, (ps.map ColumnPair.compacted).flatMap
      ColumnPair.container = (ps.map fun p => (p.left, p.right)).flatMap fun c =>
        Layout.container (Reveal.compactLists c.1) (Reveal.compactLists c.2) := by
    intro ps
    rw [List.flatMap_map, List.flatMap_map]
    rfl
  rw [runStages_lines]
  show Layout.convert (Reveal.compactLists
    (Reveal.convertPausesAfter [] (pairs.flatMap ColumnPair.lines))) = _
  rw [hpauses, ColumnPair.compactLists_flatMap, ColumnPair.convert_flatMap, hcontainers, hcolumns,
    List.flatMap_map]

/-- Two pairs with openers of both spellings, a loose list in a column, and pauses that are
rewritten between blank lines and kept elsewhere. -/
theorem Pipeline.lines_runStages_columnPairs_mixed :
    (runStages Config.default [.pauses, .compactLists, .columns]
        ([".pull-left[\n", "- a\n", "\n", "- b\n", "]\n", "\n", "--\n", "\n",
          ".two-column-right[\n", "text\n", " ]\n",
          ".two-column-left[\n", "]\n", "--\n", "--\n", ".pull-right[\n", "]\n"].map
            String.toList)).lines
      = Layout.container ["- a\n".toList, "- b\n".toList] ["text\n".toList]
        ++ Layout.container [] [] :=
  lines_runStages_columnPairs Config.default
    [{  leftOpener := ".pull-left[\n".toList
        left := ["- a\n".toList, "\n".toList, "- b\n".toList]
        leftCloser := "]\n".toList
        gap := ["\n".toList, "--\n".toList, "\n".toList]
        rightOpener := ".two-column-right[\n".toList
        right := ["text\n".toList]
        rightCloser := " ]\n".toList
        isLeft_leftOpener := by decide
        isClose_leftCloser := by decide
        isRight_rightOpener := by decide
        isClose_rightCloser := by decide
        isGap_gap := by decide
        not_isClose := by decide
        not_isPause := by decide },
      { leftOpener := ".two-column-left[\n".toList
        left := []
        leftCloser := "]\n".toList
        gap := ["--\n".toList, "--\n".toList]
        rightOpener := ".pull-right[\n".toList
        right := []
        rightCloser := "]\n".toList
        isLeft_leftOpener := by decide
        isClose_leftCloser := by decide
        isRight_rightOpener := by decide
        isClose_rightCloser := by decide
        isGap_gap := by decide
        not_isClose := by decide
        not_isPause := by decide }]

end SlideDeck
