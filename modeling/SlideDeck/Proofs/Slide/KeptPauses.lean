import SlideDeck.Proofs.Slide.Layouts

/-!
# Pauses around columns

A left block looks for its partner past blank lines and pauses, and takes them with it whether it
finds one or not.  All other pauses stay, outside of columns and in them.  Where a line stands is
told here without reading layouts: line by line, from what the lines before it have opened.

* `Place`, `Place.after` and `placed` — where each line of a document stands.
* `keptPauses` — the pauses that do not stand directly behind a left block; `keptPauses_body` and
  `keptPauses_behindLeft` follow them through a column and through a gap.
* `pauses_kept` — the converted document has exactly these pauses, in order, so it has all that
  stand outside.
* `pause_behind_lone_left` — a pause that goes although no right block follows.
-/

set_option autoImplicit false

namespace SlideDeck
namespace Layout

/-! ## Places -/

/-- Whether a line is a pause, converted or not. -/
def isPause (l : Line) : Bool := l.trimsTo "--".toList || l.trimsTo ". . .".toList

/-- Where a line stands. -/
inductive Place where
  /-- In no block, and not directly behind a left one. -/
  | outside
  /-- Between the opener of a left block and its closing bracket. -/
  | left
  /-- Between the opener of a right block and its closing bracket. -/
  | right
  /-- Behind the closing bracket of a left block, and behind nothing else but blank lines and
  pauses. -/
  | behindLeft
  deriving DecidableEq, Repr

/-- The place of what follows a line. -/
def Place.after : Place → Line → Place
  | left, l => if isClose l then behindLeft else left
  | right, l => if isClose l then outside else right
  | outside, l => if isLeft l then left else if isRight l then right else outside
  | behindLeft, l =>
    if isLeft l then left else if isRight l then right
    else if isGap l then behindLeft else outside

/-- The lines of a document with their places, the first one standing at `p`. -/
def placed : Place → Document → List (Place × Line)
  | _, [] => []
  | p, l :: d => (p, l) :: placed (p.after l) d

/-- The pauses of a document that do not stand directly behind a left block. -/
def keptPauses (p : Place) (d : Document) : Document :=
  ((placed p d).filter fun s => isPause s.2 && s.1 != .behindLeft).map Prod.snd

@[simp] theorem keptPauses_nil (p : Place) : keptPauses p [] = [] := rfl

theorem keptPauses_cons (p : Place) (l : Line) (d : Document) :
    keptPauses p (l :: d)
      = (if isPause l && p != .behindLeft then [l] else []) ++ keptPauses (p.after l) d := by
  rw [keptPauses, placed, List.filter_cons]
  split <;> rfl

theorem not_isPause_of_not_isGap {l : Line} (h : isGap l = false) : isPause l = false := by
  rw [isGap, ← isPause] at h
  exact (Bool.or_eq_false_iff.1 h).1

theorem keptPauses_cons_of_not_isPause {l : Line} (h : isPause l = false) (p : Place)
    (d : Document) : keptPauses p (l :: d) = keptPauses (p.after l) d := by
  rw [keptPauses_cons, h, Bool.false_and, if_neg Bool.false_ne_true, List.nil_append]

/-! ## Through columns and gaps -/

/-- The pauses of a column are kept, up to the bracket that closes it. -/
theorem keptPauses_body {p q : Place} (hp : p ≠ .behindLeft)
    (hafter : ∀ l, p.after l = if isClose l then q else p) (d : Document) :
    keptPauses p d
      = (Body.read isClose d).lines.filter isPause ++ keptPauses q (Body.read isClose d).rest := by
  induction d with
  | nil => rfl
  | cons l d ih =>
    rw [keptPauses_cons, hafter, Body.read_cons, bne_iff_ne.2 hp, Bool.and_true]
    by_cases hl : isClose l = true
    · rw [if_pos hl, if_pos hl, not_isPause_of_not_isGap (isBorder_of_isClose hl).gap]
      rfl
    · rw [if_neg hl, if_neg hl, ih, List.filter_cons]
      split <;> rfl

theorem not_opener_of_isGap {l : Line} (h : isGap l = true) :
    isLeft l = false ∧ isRight l = false := by
  have hborder : ¬ IsBorder l := fun hl => absurd h (Bool.eq_false_iff.1 hl.gap)
  exact ⟨Bool.eq_false_iff.2 (mt isBorder_of_isLeft hborder),
    Bool.eq_false_iff.2 (mt isBorder_of_isRight hborder)⟩

/-- In the gap behind a left block no pause is kept; behind it the document goes on outside. -/
theorem keptPauses_behindLeft (d : Document) :
    keptPauses .behindLeft d = keptPauses .outside (d.dropWhile isGap) := by
  induction d with
  | nil => rfl
  | cons l d ih =>
    cases hl : isGap l with
    | true =>
      obtain ⟨hleft, hright⟩ := not_opener_of_isGap hl
      have hafter : Place.behindLeft.after l = .behindLeft := by
        rw [Place.after, hleft, hright, hl]
        rfl
      rw [List.dropWhile_cons_of_pos hl, keptPauses_cons, hafter, ih, bne_self_eq_false,
        Bool.and_false]
      rfl
    | false =>
      have hafter : Place.behindLeft.after l = Place.outside.after l := by
        rw [Place.after, Place.after, hl]
        rfl
      have hpause := not_isPause_of_not_isGap hl
      rw [List.dropWhile_cons_of_neg (Bool.eq_false_iff.1 hl),
        keptPauses_cons_of_not_isPause hpause, keptPauses_cons_of_not_isPause hpause, hafter]

theorem keptPauses_left (d : Document) :
    keptPauses .left d
      = (Body.read isClose d).lines.filter isPause
        ++ keptPauses .outside ((Body.read isClose d).rest.dropWhile isGap) := by
  rw [keptPauses_body (by decide) (fun _ => rfl), keptPauses_behindLeft]

theorem keptPauses_right (d : Document) :
    keptPauses .right d
      = (Body.read isClose d).lines.filter isPause
        ++ keptPauses .outside (Body.read isClose d).rest :=
  keptPauses_body (by decide) (fun _ => rfl) d

theorem keptPauses_isLeft {l : Line} (h : isLeft l = true) (d : Document) :
    keptPauses .outside (l :: d) = keptPauses .left d := by
  rw [keptPauses_cons_of_not_isPause (not_isPause_of_not_isGap (isBorder_of_isLeft h).gap),
    Place.after, if_pos h]

theorem keptPauses_isRight {l : Line} (hl : isLeft l = false) (hr : isRight l = true)
    (d : Document) : keptPauses .outside (l :: d) = keptPauses .right d := by
  rw [keptPauses_cons_of_not_isPause (not_isPause_of_not_isGap (isBorder_of_isRight hr).gap),
    Place.after, hl, hr]
  rfl

/-! ## Through a layout -/

/-- What is written around columns is no pause. -/
theorem filter_isPause_container (left right : Document) :
    (container left right).filter isPause = left.filter isPause ++ right.filter isPause := by
  have hopen : [":::: \x7b.columns\x7d\n".toList, "\n".toList].filter isPause = [] := by decide
  have hclose : ["::::\n".toList, "\n".toList].filter isPause = [] := by decide
  have hend : ["\n".toList, ":::\n".toList, "\n".toList].filter isPause = [] := by decide
  have hcolumn : ∀ lines : Document,
      (renderColumn lines).filter isPause = lines.filter isPause := by
    intro lines
    rw [renderColumn, List.cons_append, List.filter_cons_of_neg (by decide), List.filter_append,
      hend, List.append_nil]
  rw [container, List.filter_append, List.filter_append, List.filter_append, hcolumn, hcolumn,
    hopen, hclose, List.nil_append, List.append_nil]

/-- Behind a left block stands its partner, or the document goes on. -/
theorem keptPauses_readAfterLeft (left : Column) (d : Document) :
    left.lines.filter isPause ++ keptPauses .outside (d.dropWhile isGap)
      = (render (readAfterLeft left d).1).filter isPause
        ++ keptPauses .outside (readAfterLeft left d).2 := by
  rw [readAfterLeft]
  cases d.dropWhile isGap with
  | nil => rw [render, filter_isPause_container, List.filter_nil, List.append_nil]
  | cons l rest =>
    dsimp only
    by_cases hr : isRight l = true
    · rw [if_pos hr, render, filter_isPause_container,
        keptPauses_isRight (not_isLeft_of_isRight hr) hr, keptPauses_right, List.append_assoc]
      rfl
    · rw [if_neg hr, render, filter_isPause_container, List.filter_nil, List.append_nil]

theorem keptPauses_of_read {s r : Document} {b : Layout} (h : read s = some (b, r)) :
    keptPauses .outside s = (render b).filter isPause ++ keptPauses .outside r := by
  cases s with
  | nil => cases h
  | cons l d =>
    rw [read] at h
    split at h
    · next hl =>
      have hrest := keptPauses_readAfterLeft (Body.read isClose d).toColumn (Body.read isClose d).rest
      rw [Option.some.inj h] at hrest
      rw [keptPauses_isLeft hl, keptPauses_left]
      exact hrest
    · next hl =>
      split at h
      · next hr =>
        obtain ⟨rfl, rfl⟩ := Prod.mk.inj (Option.some.inj h)
        rw [keptPauses_isRight (Bool.eq_false_iff.2 hl) hr, keptPauses_right, render,
          filter_isPause_container]
        rfl
      · cases h

/-- The converted document has the pauses that are kept and no others. -/
theorem filter_isPause_convert (d : Document) :
    (convert d).filter isPause = keptPauses .outside d := by
  induction d using recogniser.scan_induction with
  | nil =>
    rw [convert, Recogniser.rewrite_nil]
    rfl
  | plain l s h ih =>
    obtain ⟨hl, hr⟩ := (read_cons_eq_none_iff l s).1 h
    have hafter : Place.outside.after l = .outside := by
      rw [Place.after, hl, hr]
      rfl
    have hline : (isPause l && Place.outside != .behindLeft) = isPause l := Bool.and_true _
    rw [convert, recogniser.rewrite_cons_of_none render h, keptPauses_cons, hafter, hline, ← ih,
      convert, List.filter_cons]
    split <;> rfl
  | block front b r h ih =>
    rw [convert, recogniser.rewrite_of_some render h, List.filter_append, keptPauses_of_read h, ← ih,
      convert]

/-- **No other pause is lost around columns.**  The pauses that stand neither in a block nor
directly behind a left one are all in the converted document, in order.  More exactly, its pauses
are those of the given document, in columns or not, that do not stand directly behind a left
block. -/
theorem pauses_kept (d : Document) :
    (((placed .outside d).filter fun s => isPause s.2 && s.1 == .outside).map Prod.snd).Sublist
        (convert d)
      ∧ (convert d).filter isPause
        = ((placed .outside d).filter fun s => isPause s.2 && s.1 != .behindLeft).map Prod.snd := by
  refine ⟨?_, filter_isPause_convert d⟩
  have hsub : (((placed .outside d).filter fun s => isPause s.2 && s.1 == .outside).map
      Prod.snd).Sublist (keptPauses .outside d) := by
    refine List.Sublist.map _ (List.monotone_filter_right _ fun s hs => ?_)
    obtain ⟨hpause, hplace⟩ := (Bool.and_eq_true ..).mp hs
    rw [hpause, beq_iff_eq.1 hplace]
    rfl
  rw [← filter_isPause_convert] at hsub
  exact hsub.trans List.filter_sublist

/-- A pause behind a left block without partner goes as well: here is no right block at all that it
could stand before. -/
theorem pause_behind_lone_left :
    ([".pull-left[\n", "A\n", "]\n", "--\n", "text\n"].map String.toList).any isRight = false
      ∧ placed .outside ([".pull-left[\n", "A\n", "]\n", "--\n", "text\n"].map String.toList)
        = [(.outside, ".pull-left[\n".toList), (.left, "A\n".toList), (.left, "]\n".toList),
          (.behindLeft, "--\n".toList), (.behindLeft, "text\n".toList)]
      ∧ isPause "--\n".toList = true
      ∧ convert ([".pull-left[\n", "A\n", "]\n", "--\n", "text\n"].map String.toList)
        = container ["A\n".toList] [] ++ ["text\n".toList]
      ∧ "--\n".toList ∉ container ["A\n".toList] [] ++ ["text\n".toList] := by
  decide +kernel

end Layout
end SlideDeck
