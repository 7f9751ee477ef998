import SlideDeck.Proofs.Document.Cursor
import SlideDeck.Proofs.Slide.LeadingBlock
import SlideDeck.Proofs.Text.ByteOffset
import SlideDeck.Slide.Reveal

/-!
# Rules for slides, by index

The rules for slides as they are carried out on an array of lines, in `Option`: every line is asked
for by its index, every range of lines by two indices and every range of a line by two byte offsets.
There is a result only if all of these exist and all loops end.  For each rule there is one, and it
is what the rule says.

* `Metadata.normalize?_eq`, `Separator.strip?_eq` — the ranges before and behind the delimiters.
* `Notes.convert?_eq`, `Reveal.convertPauses?_eq`, `Reveal.compactLists?_eq`, `Layout.convert?_eq` —
  turns that pass lines, collect them or look at their neighbours.
* `Footnote.convert?_eq` — turns that cut lines at brackets.
-/

set_option autoImplicit false

namespace SlideDeck

/-! ## The metadata block -/

namespace Metadata

/-- Reduces the metadata block to the title, by index. -/
def normalize? (configured : Option Text) (d : Document) : Option Document :=
  if d.head?.any fun l => l.trimsTo delimiter then
    match d.tail.findIdx? fun l => l.trimsTo delimiter with
    | none => some d
    | some p => do
      let close := p + 1
      let fields ← slice? d 1 close
      let _room ← sub? d.length close
      let body ← slice? d (close + 1) d.length
      return delimiterLine :: titleLines (chosenTitle configured fields) ++ delimiterLine :: body
  else some d

theorem normalize?_eq (configured : Option Text) (d : Document) :
    normalize? configured d = some (normalize configured d) := by
  rw [normalize?]
  cases h : Leading.read d with
  | absent =>
    have hhead : ¬ d.head?.any (fun l => l.trimsTo delimiter) = true := by
      have hnot := (Leading.read_eq_absent_iff d).1 h
      cases d with
      | nil => decide
      | cons l d => simp [hnot l rfl]
    rw [if_neg hhead, normalize, h]
  | unclosed =>
    obtain ⟨first, rest, rfl, hfirst, hrest⟩ := (Leading.read_eq_unclosed_iff d).1 h
    have hnone : (rest.findIdx? fun l => l.trimsTo delimiter) = none :=
      List.findIdx?_eq_none_iff.2 hrest
    rw [List.head?_cons, Option.any_some, if_pos hfirst, List.tail_cons, hnone, normalize, h]
  | closed fields body =>
    obtain ⟨first, last, rfl, hfirst, hlast, hfields⟩ := (Leading.read_eq_closed_iff d _ _).1 h
    have hclose := Leading.findIdx?_of_closed hfields hlast body
    have hslice := slice?_append [first] fields (last :: body)
    have hbody : slice? (first :: (fields ++ last :: body)) (fields.length + 1 + 1)
        (first :: (fields ++ last :: body)).length = some body := by
      have h := slice?_to_end (first :: fields ++ [last]) body
      rw [List.append_assoc, List.singleton_append, List.length_append] at h
      exact h
    rw [List.length_singleton, Nat.add_comm 1, List.singleton_append] at hslice
    rw [normalize_of_closed h, List.cons_append, List.head?_cons, Option.any_some, if_pos hfirst,
      List.tail_cons, hclose]
    dsimp only
    rw [hslice, sub?_eq (by simp), hbody]
    rfl

end Metadata

/-! ## Separators -/

namespace Separator

/-- Drops the separators behind the metadata block, by index. -/
def strip? (d : Document) : Option Document := do
  let front ← slice? d 0 (leadingLength d)
  let rest ← slice? d (leadingLength d) d.length
  return front ++ rest.filter fun l => !isSeparator l

theorem leadingLength_le (d : Document) : leadingLength d ≤ d.length := by
  cases h : Leading.read d with
  | absent => rw [leadingLength_of_absent h]; exact Nat.zero_le _
  | unclosed => rw [leadingLength_of_unclosed h]
  | closed fields body =>
    obtain ⟨first, last, hd, -, -, -⟩ := (Leading.read_eq_closed_iff d _ _).1 h
    rw [leadingLength_of_closed h, hd, List.length_append, List.length_cons, List.length_cons]
    omega

theorem strip?_eq (d : Document) : strip? d = some (strip d) := by
  have hle := leadingLength_le d
  rw [strip?, slice?_eq (Nat.zero_le _) hle, slice?_eq hle (Nat.le_refl _), List.drop_zero,
    List.take_length]
  rfl

end Separator

/-! ## Notes -/

namespace Notes

/-- Converts the notes that start with a line, or passes the line by. -/
noncomputable def turn (d : Document) (l : Line) (i : Nat) : Option (Document × Nat) :=
  if isMarker l then do
    let (lines, next) ← pass isSeparator d (i + 1)
    return (render ⟨lines, next ≠ d.length⟩, next)
  else some ([l], i + 1)

/-- Converts notes, by index. -/
noncomputable def convert? (d : Document) : Option Document := takeTurns (turn d) d 0

theorem convert?_eq (d : Document) : convert? d = some (convert d) := by
  refine recogniser.takeTurns_eq_rewrite (fun i l r hr hread => ?_) fun i l t b r ht hread => ?_
  · change read (l :: r) = none at hread
    rw [read] at hread
    split at hread
    · cases hread
    · next hl => rw [turn, if_neg hl]
  · change read (l :: t) = some (b, r) at hread
    rw [read] at hread
    split at hread
    · next hl =>
      obtain ⟨rfl, rfl⟩ := Prod.mk.inj (Option.some.inj hread)
      refine ⟨Body.past isSeparator d (i + 1), ?_, ?_⟩
      · rw [turn, if_pos hl, pass_eq_body, drop_succ_of_drop ht]
        rfl
      · rw [Body.drop_past, drop_succ_of_drop ht]
    · cases hread

end Notes

/-! ## Reveals -/

namespace Reveal

/-- The line before an index; there is none before the first line. -/
def previous? (d : Document) (i : Nat) : Option Line :=
  match sub? i 1 with
  | none => some []
  | some p => d[p]?

/-- Converts a line if it is a pause, by its neighbours. -/
def pauseTurn (d : Document) (l : Line) (i : Nat) : Option (Document × Nat) :=
  if isPause l then do
    let previous ← previous? d i
    let next := d[i + 1]?.getD []
    return (convertPause previous l next, i + 1)
  else some ([l], i + 1)

/-- Converts pauses, by index. -/
noncomputable def convertPauses? (d : Document) : Option Document := takeTurns (pauseTurn d) d 0

theorem previous?_succ {d r : Document} {i : Nat} {l : Line} (h : d.drop i = l :: r) :
    previous? d (i + 1) = some l := by
  rw [previous?, sub?_eq (Nat.le_add_left 1 i), Nat.add_sub_cancel]
  exact getElem?_of_drop h

theorem exists_previous? {d r : Document} {i : Nat} {l : Line} (h : d.drop i = l :: r) :
    ∃ previous, previous? d i = some previous := by
  cases i with
  | zero => exact ⟨[], rfl⟩
  | succ i =>
    obtain ⟨previous, t, ht⟩ := exists_drop_eq_cons (Nat.lt_of_succ_lt (lt_length_of_drop h))
    exact ⟨previous, previous?_succ ht⟩

theorem convertPauses?_eq (d : Document) : convertPauses? d = some (convertPauses d) := by
  -- what is written from an index on depends on the line before it
  let f : Nat → Document := fun i => convertPausesAfter ((previous? d i).getD []) (d.drop i)
  have hf : takeTurns (pauseTurn d) d 0 = some (f 0) := by
    refine takeTurns_eq (fun i hi => ?_) (fun i l r hr => ?_) 0
    · simp only [f]
      rw [List.drop_eq_nil_of_le hi, convertPausesAfter]
    · obtain ⟨previous, hprevious⟩ := exists_previous? hr
      have hnext : d[i + 1]?.getD [] = r.headD [] := by
        rw [← List.head?_drop, drop_succ_of_drop hr, List.headD_eq_head?_getD]
      refine ⟨convertPause previous l (r.headD []), i + 1, ?_, Nat.lt_succ_self i, ?_⟩
      · rw [pauseTurn, hprevious, hnext]
        split
        · rfl
        · next hl => rw [convertPause, if_neg hl]
      · simp only [f]
        rw [hr, hprevious, previous?_succ hr, drop_succ_of_drop hr, convertPausesAfter]
        rfl
  exact hf

/-- Passes a line by, and with it a blank line that stands alone between it and another list
item. -/
def compactTurn (d : Document) (l : Line) (i : Nat) : Option (Document × Nat) :=
  let loose := l.isListItem && d[i + 1]?.any Text.isBlank && d[i + 2]?.any Line.isListItem
  some ([l], if loose then i + 2 else i + 1)

/-- Compacts lists, by index. -/
noncomputable def compactLists? (d : Document) : Option Document := takeTurns (compactTurn d) d 0

theorem compactLists?_eq (d : Document) : compactLists? d = some (compactLists d) := by
  refine takeTurns_eq_drop rfl fun i l r hr => ⟨[l], _, rfl, ?_, ?_⟩
  · split <;> omega
  · have hrest := drop_succ_of_drop hr
    have hfirst : d[i + 1]? = r[0]? := by rw [← hrest, List.getElem?_drop]
    have hsecond : d[i + 2]? = r[1]? := by rw [← hrest, List.getElem?_drop]
    rw [hfirst, hsecond]
    match r with
    | [] => simp [compactLists, hrest]
    | [b] => simp [compactLists, hrest]
    | b :: c :: r =>
      have hrest' : d.drop (i + 2) = c :: r := drop_succ_of_drop hrest
      rw [compactLists, List.getElem?_cons_zero, List.getElem?_cons_succ, List.getElem?_cons_zero,
        Option.any_some, Option.any_some]
      split
      · rw [hrest']
        rfl
      · rw [hrest]
        rfl

end Reveal

/-! ## Columns -/

namespace Layout

/-- Whether there is a line with an index and it opens a right block. -/
def isRightAt? (d : Document) (i : Nat) : Option Bool :=
  if i < d.length then (d[i]?).map isRight else some false

/-- Converts the rest of a layout behind a left block. -/
noncomputable def turnAfterLeft (d left : Document) (i : Nat) : Option (Document × Nat) := do
  let (_, next) ← pass (fun g => !isGap g) d i
  if ← isRightAt? d next then
    let right ← collectUntil? isClose d (next + 1)
    return (container left right.lines, right.next)
  else return (container left [], next)

/-- Converts the layout that starts with a line, or passes the line by. -/
noncomputable def turn (d : Document) (l : Line) (i : Nat) : Option (Document × Nat) :=
  if isLeft l then do
    let left ← collectUntil? isClose d (i + 1)
    turnAfterLeft d left.lines left.next
  else if isRight l then do
    let right ← collectUntil? isClose d (i + 1)
    return (container [] right.lines, right.next)
  else some ([l], i + 1)

theorem isRightAt?_of_drop {d r : Document} {l : Line} {i : Nat} (h : d.drop i = l :: r) :
    isRightAt? d i = some (isRight l) := by
  rw [isRightAt?, if_pos (lt_length_of_drop h), getElem?_of_drop h]
  rfl

theorem isRightAt?_of_drop_nil {d : Document} {i : Nat} (h : d.drop i = []) :
    isRightAt? d i = some false :=
  if_neg (Nat.not_lt.2 (List.drop_eq_nil_iff.1 h))

theorem exists_turnAfterLeft (d : Document) (left : Column) (i : Nat) :
    ∃ next, turnAfterLeft d left.lines i = some (render (readAfterLeft left (d.drop i)).1, next)
      ∧ d.drop next = (readAfterLeft left (d.drop i)).2 := by
  have hpast : d.drop (Body.past (fun g => !isGap g) d i) = (d.drop i).dropWhile isGap := by
    rw [Body.drop_past]
    simp only [Bool.not_not]
  generalize hnext : Body.past (fun g => !isGap g) d i = next at hpast
  rw [turnAfterLeft, pass_eq_body, hnext, readAfterLeft, ← hpast]
  cases hd : d.drop next with
  | nil => exact ⟨next, by simp [isRightAt?_of_drop_nil hd, render], hd⟩
  | cons m rest =>
    have hm := isRightAt?_of_drop hd
    dsimp only
    by_cases hright : isRight m = true
    · refine ⟨(collectUntil d (next + 1) isClose).next, ?_, ?_⟩
      · simp [hm, hright, collectUntil?_eq, collectUntil, drop_succ_of_drop hd, render,
          Body.toColumn]
      · rw [drop_next_collectUntil, drop_succ_of_drop hd, if_pos hright]
    · refine ⟨next, ?_, ?_⟩
      · simp [hm, hright, render]
      · rw [if_neg hright, hd]

/-- Converts columns, by index. -/
noncomputable def convert? (d : Document) : Option Document := takeTurns (turn d) d 0

theorem convert?_eq (d : Document) : convert? d = some (convert d) := by
  refine recogniser.takeTurns_eq_rewrite (fun i l r hr hread => ?_) fun i l t b r ht hread => ?_
  · change read (l :: r) = none at hread
    rw [read] at hread
    split at hread
    · cases hread
    · next hl =>
      split at hread
      · cases hread
      · next hr => rw [turn, if_neg hl, if_neg hr]
  · change read (l :: t) = some (b, r) at hread
    have hrest := drop_succ_of_drop ht
    rw [read] at hread
    split at hread
    · next hl =>
      have hleft : Body.read isClose (d.drop (i + 1)) = Body.read isClose t := by rw [hrest]
      obtain ⟨next, hturn, hnext⟩ := exists_turnAfterLeft d (Body.read isClose t).toColumn
        (collectUntil d (i + 1) isClose).next
      rw [drop_next_collectUntil, hleft, Option.some.inj hread] at hturn hnext
      refine ⟨next, ?_, hnext⟩
      rw [turn, if_pos hl, collectUntil?_eq, ← hturn, collectUntil, hleft]
      rfl
    · next hl =>
      split at hread
      · next hr =>
        obtain ⟨rfl, rfl⟩ := Prod.mk.inj (Option.some.inj hread)
        refine ⟨(collectUntil d (i + 1) isClose).next, ?_, ?_⟩
        · rw [turn, if_neg hl, if_pos hr, collectUntil?_eq, collectUntil, hrest]
          rfl
        · rw [drop_next_collectUntil, hrest]
      · cases hread

end Layout

/-! ## Footnotes -/

namespace Footnote

/-- The byte offset behind the first opening bracket. -/
def contentStart (l : Line) : Nat :=
  match Text.findByte? '[' l with
  | none => 0
  | some p => p + 1

/-- What stands between a byte offset and the last byte of a text. -/
def contentOnLine? (head : Text) (start : Nat) : Option Text := do
  let past ← sub? (Text.utf8Size head) 1
  Text.byteSlice? head start past

/-- What a footnote has in the lines from an index on, whether its bracket is there, and the index
behind it. -/
noncomputable def linesFrom (d : Document) (i : Nat) : Option (List Text × Bool × Nat) := do
  let (lines, next) ← pass endsBlock d i
  match d[next]? with
  | none => return (lines.map Text.trimEnd, false, next)
  | some last =>
    let past := (Text.rfindByte? ']' last).getD (Text.utf8Size last)
    let front ← Text.byteSlice? last 0 past
    return (lines.map Text.trimEnd ++ [Text.trimEnd front], true, next + 1)

/-- Converts the footnote that starts with a line, or passes the line by. -/
noncomputable def turn (d : Document) (l : Line) (i : Nat) : Option (Document × Nat) :=
  if l.opensWith ".footnote[".toList then do
    let start := contentStart l
    let head := Text.trimEnd l
    if Text.endsWith head "]".toList && start < Text.utf8Size head then
      let content ← contentOnLine? head start
      return (render ⟨Text.trim content, true⟩, i + 1)
    else
      let first ← Text.byteSlice? l start (Text.utf8Size l)
      let (lines, closed, next) ← linesFrom d (i + 1)
      let content := Text.joinWith ['\n'] (Text.trimEnd first :: lines)
      return (render ⟨Text.trim content, closed⟩, next)
  else some ([l], i + 1)

/-- Converts footnotes, by index. -/
noncomputable def convert? (d : Document) : Option Document := takeTurns (turn d) d 0

/-- What stands before the text of a footnote ends in the first opening bracket. -/
theorem exists_of_opening {l : Line} {first : Text} (h : opening? l = some first) :
    ∃ front, '[' ∉ front ∧ l = front ++ '[' :: first := by
  obtain ⟨a, ha, hl⟩ := Text.exists_trimStart l
  rw [opening?, Text.after?_eq_some_iff] at h
  refine ⟨a ++ ".footnote".toList, ?_, ?_⟩
  · rw [List.mem_append, not_or]
    exact ⟨fun hmem => absurd ((Text.isBlank_iff a).1 ha _ hmem) (by decide), by decide⟩
  · rw [← hl, h, List.append_assoc]
    rfl

theorem contentStart_eq {front : Text} (h : '[' ∉ front) (first : Text) :
    contentStart (front ++ '[' :: first) = Text.utf8Size (front ++ ['[']) := by
  rw [contentStart, Text.findByte?_append h, Text.utf8Size_append]
  rfl

/-- Whether a footnote ends on its first line is asked of the whole line without white space at its
end: it is longer than the opener and ends with a bracket. -/
theorem endsBlock_iff_head (front first : Text) :
    (Text.endsWith (front ++ '[' :: Text.trimEnd first) "]".toList
      && decide (Text.utf8Size (front ++ ['['])
        < Text.utf8Size (front ++ '[' :: Text.trimEnd first))) = true
      ↔ endsBlock first = true := by
  rw [Bool.and_eq_true, decide_eq_true_eq, Text.endsWith_iff, endsBlock_iff]
  constructor
  · rintro ⟨⟨t, ht⟩, hlt⟩
    rcases List.eq_nil_or_concat' (Text.trimEnd first) with hnil | ⟨u, c, hu⟩
    · rw [hnil] at hlt
      exact absurd hlt (Nat.lt_irrefl _)
    · obtain ⟨b, hb, hfirst⟩ := Text.exists_trimEnd first
      rw [hu, ← List.cons_append, ← List.append_assoc] at ht
      obtain ⟨-, hc⟩ := List.append_inj' ht rfl
      obtain rfl : ']' = c := List.singleton_inj.1 hc
      refine ⟨u, b, hb, ?_⟩
      rw [← hfirst, hu, List.append_assoc, List.singleton_append]
  · rintro ⟨u, b, hb, hfirst⟩
    rw [trimEnd_of_endsBlock hb hfirst]
    have hbracket : Char.utf8Size ']' = 1 := rfl
    refine ⟨⟨front ++ '[' :: u, by simp⟩, ?_⟩
    simp only [Text.utf8Size_append, Text.utf8Size]
    omega

/-- The ranges of a footnote on one line. -/
theorem contentOnLine?_eq (front : Text) {first : Text} (hend : endsBlock first = true) :
    contentOnLine? (front ++ '[' :: Text.trimEnd first) (Text.utf8Size (front ++ ['[']))
      = some (dropBracket first) := by
  obtain ⟨u, b, hb, hfirst⟩ := (endsBlock_iff first).1 hend
  rw [trimEnd_of_endsBlock hb hfirst, dropBracket_of_endsBlock hb hfirst]
  have hslice := Text.byteSlice?_append (front ++ ['[']) u [']']
  have hsize : Text.utf8Size (front ++ '[' :: (u ++ [']']))
      = Text.utf8Size (front ++ ['['] ++ u) + 1 := by
    have hbracket : Char.utf8Size ']' = 1 := rfl
    simp only [Text.utf8Size_append, Text.utf8Size]
    omega
  rw [List.append_assoc, List.singleton_append] at hslice
  rw [contentOnLine?, hsize, sub?_eq (Nat.le_add_left 1 _), Nat.add_sub_cancel]
  exact hslice

/-- The range of the line that closes a footnote: all before its last bracket. -/
theorem byteSlice?_closing {last : Line} (hend : endsBlock last = true) :
    Text.byteSlice? last 0 ((Text.rfindByte? ']' last).getD (Text.utf8Size last))
      = some (dropBracket last) := by
  obtain ⟨u, b, hb, rfl⟩ := (endsBlock_iff last).1 hend
  have hnot : ']' ∉ b := fun hmem => absurd ((Text.isBlank_iff b).1 hb _ hmem) (by decide)
  rw [Text.rfindByte?_append hnot, Option.getD_some, dropBracket_of_endsBlock hb rfl]
  exact Text.byteSlice?_from_start u (']' :: b)

theorem exists_linesFrom (d : Document) (i : Nat) :
    ∃ next, linesFrom d i = some ((Body.read endsBlock (d.drop i)).lines.map Text.trimEnd
        ++ (Body.read endsBlock (d.drop i)).closing.toList.map
          (fun l => Text.trimEnd (dropBracket l)),
        (Body.read endsBlock (d.drop i)).closed, next)
      ∧ d.drop next = (Body.read endsBlock (d.drop i)).rest := by
  rw [linesFrom, pass_eq_body, Body.closed]
  have hclosing := Body.getElem?_past endsBlock d i
  cases hlast : (Body.read endsBlock (d.drop i)).closing with
  | none =>
    rw [hlast, List.getElem?_eq_none_iff] at hclosing
    refine ⟨Body.past endsBlock d i, ?_, ?_⟩
    · simp [List.getElem?_eq_none hclosing]
    · rw [← Body.drop_succ_past, List.drop_eq_nil_of_le hclosing, List.drop_eq_nil_of_le (by omega)]
  | some last =>
    rw [hlast] at hclosing
    refine ⟨Body.past endsBlock d i + 1, ?_, Body.drop_succ_past endsBlock d i⟩
    simp [hclosing, byteSlice?_closing (Body.isEnd_of_closing hlast)]

theorem opensWith_iff_exists_opening (l : Line) :
    l.opensWith ".footnote[".toList = true ↔ ∃ first, opening? l = some first := by
  rw [Line.opensWith_iff l (by decide)]
  refine exists_congr fun first => ?_
  rw [opening?, Text.after?_eq_some_iff, eq_comm]

/-- What a turn does with a footnote, once the ranges of its first line are there. -/
theorem turn_of_opening (d : Document) {l : Line} {first : Text} (h : opening? l = some first)
    (i : Nat) :
    turn d l i
      = if endsBlock first then some (render ⟨Text.trim (dropBracket first), true⟩, i + 1)
        else (linesFrom d (i + 1)).map fun (lines, closed, next) =>
          (render ⟨Text.trim (Text.joinWith ['\n'] (Text.trimEnd first :: lines)), closed⟩, next) := by
  obtain ⟨front, hfront, hl⟩ := exists_of_opening h
  have hopens := (opensWith_iff_exists_opening l).2 ⟨first, h⟩
  have hhead : Text.trimEnd l = front ++ '[' :: Text.trimEnd first := by
    rw [hl, Text.trimEnd_append_cons front (by decide)]
  have hstart : contentStart l = Text.utf8Size (front ++ ['[']) := by
    rw [hl, contentStart_eq hfront]
  rw [turn, if_pos hopens, hstart, hhead]
  dsimp only
  by_cases hend : endsBlock first = true
  · rw [if_pos ((endsBlock_iff_head front first).2 hend), if_pos hend, contentOnLine?_eq front hend]
    rfl
  · have hfirst := Text.byteSlice?_to_end (front ++ ['[']) first
    rw [List.append_assoc, List.singleton_append, ← hl] at hfirst
    rw [if_neg (mt (endsBlock_iff_head front first).1 hend), if_neg hend, hfirst]
    cases linesFrom d (i + 1) <;> rfl

theorem convert?_eq (d : Document) : convert? d = some (convert d) := by
  refine recogniser.takeTurns_eq_rewrite (fun i l r hr hread => ?_) fun i l t b r ht hread => ?_
  · change read (l :: r) = none at hread
    have hl : ¬ l.opensWith ".footnote[".toList = true := by
      intro hl
      obtain ⟨first, hfirst⟩ := (opensWith_iff_exists_opening l).1 hl
      rw [read, hfirst] at hread
      dsimp only at hread
      split at hread <;> cases hread
    rw [turn, if_neg hl]
  · change read (l :: t) = some (b, r) at hread
    rw [read] at hread
    split at hread
    · cases hread
    · next first hopening =>
      rw [turn_of_opening d hopening]
      split at hread
      · next hend =>
        obtain ⟨rfl, rfl⟩ := Prod.mk.inj (Option.some.inj hread)
        exact ⟨i + 1, if_pos hend, drop_succ_of_drop ht⟩
      · next hend =>
        obtain ⟨rfl, rfl⟩ := Prod.mk.inj (Option.some.inj hread)
        obtain ⟨next, hlines, hnext⟩ := exists_linesFrom d (i + 1)
        rw [drop_succ_of_drop ht] at hlines hnext
        refine ⟨next, ?_, hnext⟩
        rw [if_neg hend, hlines]
        rfl

end Footnote

end SlideDeck
