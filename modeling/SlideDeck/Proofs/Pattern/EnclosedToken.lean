import SlideDeck.Proofs.Pattern.EnclosedText

/-!
# Repetitions, escapes and heads of groups in front of a closing parenthesis

The readers of the parts of a pattern, in the order in which they stand in the library.  Where a
reader looks at what stands behind blanks, that part of it has a name here.

* `encloses_countedRange`, `encloses_groupHead` — no exceptions.
* `encloses_escape` — one exception, `boundaryAtBrace`: with the parenthesis behind it, the brace in
  `\b{` is not the start of a name that is missing, but of a repetition.
-/

set_option autoImplicit false

namespace SlideDeck.Pattern

open Unicode (isSpace)

/-! ## Repetitions -/

theorem encloses_decimal (verbose : Bool) : Encloses nowhere (decimal verbose) := by
  have hvalue (digits : Text) : Encloses nowhere fun rest =>
      if digits.isEmpty ∨ 4294967296 ≤ valueOf 10 digits then .error .repetitionCountMissing
      else .ok (valueOf 10 digits, rest.dropWhile isSpace) := by
    split
    · exact .error _
    · exact encloses_dropSpaces (.ok _)
  exact encloses_dropSpaces ((encloses_takeSpaced verbose Char.isDigit).bind hvalue)

theorem readLazyMark_closed (s : Text) :
    readLazyMark (s ++ [')']) = ((readLazyMark s).1, (readLazyMark s).2 ++ [')']) := by
  cases s with
  | nil => rfl
  | cons c r =>
    by_cases hc : c = '?'
    · subst hc
      rfl
    · simp [readLazyMark, hc]

theorem readLazyMark_suffix (s : Text) : (readLazyMark s).2 <:+ s := by
  unfold readLazyMark
  split
  · exact List.suffix_cons _ _
  · exact List.suffix_rfl

theorem encloses_withMark {apart : Repeats → Text → Prop} (min : Nat) (max : Option Nat) :
    Encloses apart fun s => .ok (Repeats.withMark min max s) where
  nil := by
    intro n rest h
    cases h
    rfl
  closed := by
    intro s n rest h
    simp only [Repeats.withMark, readLazyMark_closed, Except.ok.injEq, Prod.mk.injEq] at h
    obtain ⟨rfl, rfl⟩ := h
    exact .inr (.inr ⟨_, rfl, readLazyMark_suffix s, rfl⟩)

theorem encloses_closeRange (verbose : Bool) (min : Nat) (max : Option Nat) :
    Encloses nowhere (closeRange verbose min max) := by
  have hclosed : Encloses nowhere fun r => closeRange verbose min max ('\x7d' :: r) := by
    simp only [closeRange]
    split
    · exact .error _
    · exact (encloses_withMark min max).skip verbose
  refine .ofHead '\x7d' hclosed (.error .repetitionUnclosed) (by decide) (fun _ => .rfl)
    (fun _ => rfl) fun d r hd => ?_
  simp [closeRange, hd]

/-- Reads the greatest count of a repetition up to the closing brace. -/
def greatestCount (verbose : Bool) (min : Nat) (s : Text) : Answer Repeats :=
  Except.bind (decimal verbose s) fun x => closeRange verbose min (some x.1) x.2

/-- Reads on behind the comma of a counted repetition and the blanks there. -/
def countedRangeTail (verbose : Bool) (min : Nat) : Text → Answer Repeats
  | [] => .error .repetitionUnclosed
  | '\x7d' :: r => closeRange verbose min none ('\x7d' :: r)
  | r => greatestCount verbose min r

/-- Reads a counted repetition on after its least count. -/
def countedRangeFrom (verbose : Bool) (min : Nat) : Text → Answer Repeats
  | ',' :: r => countedRangeTail verbose min (skip verbose r)
  | s => closeRange verbose min (some min) s

theorem encloses_countedRangeTail (verbose : Bool) (min : Nat) :
    Encloses nowhere (countedRangeTail verbose min) := by
  have hgreatest : Encloses nowhere (greatestCount verbose min) :=
    (encloses_decimal verbose).bind fun max => encloses_closeRange verbose min (some max)
  have hbrace : Encloses nowhere fun r => closeRange verbose min none ('\x7d' :: r) := by
    simp only [closeRange]
    exact (encloses_withMark min none).skip verbose
  refine .ofHead '\x7d' hbrace hgreatest (by decide) ?_ (fun _ => rfl) fun d r hd => ?_
  · simp [countedRangeTail, greatestCount, decimal, Except.bind]
  · simp [countedRangeTail, hd]

theorem encloses_countedRangeFrom (verbose : Bool) (min : Nat) :
    Encloses nowhere (countedRangeFrom verbose min) := by
  refine .ofHead ',' ((encloses_countedRangeTail verbose min).skip verbose)
    (encloses_closeRange verbose min (some min)) (by decide) (fun _ => .rfl) (fun _ => rfl)
    fun d r hd => ?_
  simp [countedRangeFrom, hd]

theorem encloses_countedRange (verbose : Bool) : Encloses nowhere (countedRange verbose) :=
  ((encloses_decimal verbose).skip verbose).bind (encloses_countedRangeFrom verbose)

/-! ## Escapes -/

theorem encloses_hexFixed (verbose : Bool) (n value : Nat) :
    Encloses nowhere (hexFixed verbose n value) := by
  induction n generalizing value with
  | zero => exact .ok value
  | succ n ih =>
    have hnext (c : Char) : Encloses nowhere fun r => hexFixed verbose (n + 1) value (c :: r) := by
      simp only [hexFixed]
      split
      · exact (ih _).skip verbose
      · exact .error _
    exact .ofCons hnext fun _ h => nomatch h

/-- Reads on behind a closing brace, if there is one. -/
def behindBrace {α : Type} (next : Text → Answer α) : Text → Answer α
  | [] => .error .escapeUnfinished
  | _ :: rest => next rest

theorem encloses_behindBrace {α : Type} {apart : α → Text → Prop} {next : Text → Answer α}
    (hnext : Encloses apart next) : Encloses apart (behindBrace next) :=
  .ofCons (fun _ => hnext) fun _ h => nomatch h

/-- The value of the digits in braces. -/
def bracedValue (verbose : Bool) (digits rest : Text) : Answer Nat :=
  if digits.isEmpty || digits.any fun c => (hexDigit? c).isNone then .error .hexInvalid
  else .ok (valueOf 16 digits, skip verbose rest)

theorem hexBraced_eq (verbose : Bool) (s : Text) :
    hexBraced verbose s
      = Except.bind (.ok (takeSpaced verbose (· != '\x7d') (skip verbose s))) fun x =>
        behindBrace (bracedValue verbose x.1) x.2 := by
  rw [hexBraced]
  generalize takeSpaced verbose _ _ = x
  obtain ⟨digits, _ | ⟨c, rest⟩⟩ := x <;> rfl

theorem encloses_hexBraced (verbose : Bool) : Encloses nowhere (hexBraced verbose) := by
  have hvalue (digits : Text) : Encloses nowhere (bracedValue verbose digits) := by
    unfold bracedValue
    split
    · exact .error _
    · exact (Encloses.ok _).skip verbose
  rw [funext (hexBraced_eq verbose)]
  exact ((encloses_takeSpaced verbose (· != '\x7d')).bind fun digits =>
    encloses_behindBrace (hvalue digits)).skip verbose

/-- The literal for a character that is given by its number. -/
def numberedChar (byte : Bool) (value : Nat) (rest : Text) : Answer Ast :=
  match charOfNat? value with
  | some c => .ok (.literal c byte, rest)
  | none => .error .hexInvalid

theorem encloses_numberedChar (byte : Bool) (value : Nat) :
    Encloses nowhere (numberedChar byte value) := by
  unfold numberedChar
  split
  · exact .ok _
  · exact .error _

/-- Reads a character given by its number, behind the blanks in front of it. -/
def hexEscapeTail (verbose : Bool) (n : Nat) : Text → Answer Ast
  | [] => .error .escapeUnfinished
  | '\x7b' :: r => Except.bind (hexBraced verbose r) fun x => numberedChar false x.1 x.2
  | s => Except.bind (hexFixed verbose n 0 s) fun x => numberedChar (n == 2) x.1 x.2

theorem encloses_hexEscape (verbose : Bool) (n : Nat) :
    Encloses nowhere (hexEscape verbose (n + 1)) := by
  have htail : Encloses nowhere (hexEscapeTail verbose (n + 1)) := by
    refine .ofHead '\x7b' ((encloses_hexBraced verbose).bind (encloses_numberedChar false))
      ((encloses_hexFixed verbose (n + 1) 0).bind (encloses_numberedChar (n + 1 == 2)))
      (by decide) (fun x => ?_) (fun _ => rfl) fun d r hd => ?_
    · simp [hexEscapeTail, hexFixed, Except.bind]
    · simp [hexEscapeTail, hd]
  exact htail.skip verbose

/-- Reads the name of a Unicode class in braces. -/
def propertyBraced (verbose negated : Bool) (s : Text) : Answer Ast :=
  Except.bind (.ok (takeSpaced verbose (· != '\x7d') (skip verbose s))) fun x =>
    behindBrace (fun rest => .ok (.set (propertySet x.1 negated), rest)) x.2

/-- Reads a Unicode class behind the blanks in front of it. -/
def propertyEscapeTail (verbose negated : Bool) : Text → Answer Ast
  | [] => .error .escapeUnfinished
  | '\x7b' :: r => propertyBraced verbose negated r
  | c :: r =>
    if c = '\\' then .error .propertyInvalid
    else .ok (.set (.property [c] negated), skip verbose r)

theorem propertyEscape_eq (verbose negated : Bool) (s : Text) :
    propertyEscape verbose negated s = propertyEscapeTail verbose negated (skip verbose s) := by
  rw [propertyEscape]
  generalize skip verbose s = u
  split
  · rfl
  · next r =>
    rw [propertyEscapeTail, propertyBraced]
    generalize takeSpaced verbose _ _ = x
    obtain ⟨name, _ | ⟨c, rest⟩⟩ := x <;> rfl
  · next c r hc =>
    rw [propertyEscapeTail]
    exact hc

theorem encloses_propertyEscape (verbose negated : Bool) :
    Encloses nowhere (propertyEscape verbose negated) := by
  have hbraced : Encloses nowhere (propertyBraced verbose negated) :=
    ((encloses_takeSpaced verbose (· != '\x7d')).bind fun name =>
      encloses_behindBrace (.ok (Ast.set (propertySet name negated)))).skip verbose
  have htail : Encloses nowhere (propertyEscapeTail verbose negated) := by
    refine .ofCons (fun c => ?_) fun _ h => nomatch h
    by_cases hc : c = '\x7b'
    · subst hc
      exact hbraced
    · simp only [propertyEscapeTail]
      split
      · exact .error _
      · exact (Encloses.ok _).skip verbose
  rw [funext (propertyEscape_eq verbose negated)]
  exact htail.skip verbose

/-- A word boundary with a brace behind it, and blanks between the brace and the end. -/
def boundaryAtBrace (verbose : Bool) (a : Ast) (rest : Text) : Prop :=
  a = .assertion .wordBoundary ∧ ∃ t, rest = '\x7b' :: (t ++ [')']) ∧ skip verbose t = []

/-- The word boundary with a name, if there is one. -/
def boundaryNamed (name rest : Text) : Answer Ast :=
  match namedBoundary? name with
  | some a => .ok (.assertion a, rest)
  | none => .error .boundaryInvalid

/-- Reads the closing brace behind the name of a word boundary. -/
def boundaryEnd (name : Text) : Text → Answer Ast
  | '\x7d' :: rest => boundaryNamed name rest
  | _ => .error .boundaryInvalid

/-- Reads the name of a word boundary up to the closing brace. -/
def boundaryName (verbose : Bool) (s : Text) : Answer Ast :=
  Except.bind (.ok (takeSpaced verbose isBoundaryNameChar s)) fun x => boundaryEnd x.1 x.2

theorem encloses_boundaryNamed (name : Text) : Encloses nowhere (boundaryNamed name) := by
  unfold boundaryNamed
  split
  · exact .ok _
  · exact .error _

theorem encloses_boundaryName (verbose : Bool) : Encloses nowhere (boundaryName verbose) := by
  have hend (name : Text) : Encloses nowhere (boundaryEnd name) := by
    refine .ofHead '\x7d' (encloses_boundaryNamed name) (.error .boundaryInvalid) (by decide)
      (fun _ => .rfl) (fun _ => rfl) fun d r hd => ?_
    simp [boundaryEnd, hd]
  exact (encloses_takeSpaced verbose isBoundaryNameChar).bind hend

theorem boundaryEscape_brace_nil {verbose : Bool} {r : Text} (hr : skip verbose r = []) :
    boundaryEscape verbose ('\x7b' :: r) = .error .boundaryInvalid := by
  rw [boundaryEscape, hr]

theorem boundaryEscape_brace_cons {verbose : Bool} {d : Char} {r t : Text}
    (hr : skip verbose r = d :: t) :
    boundaryEscape verbose ('\x7b' :: r) =
      if isBoundaryNameChar d then boundaryName verbose (d :: t)
      else .ok (.assertion .wordBoundary, '\x7b' :: r) := by
  rw [boundaryEscape, hr, boundaryName]
  dsimp only
  generalize takeSpaced verbose isBoundaryNameChar (d :: t) = x
  obtain ⟨name, _ | ⟨c, rest⟩⟩ := x
  · rfl
  · by_cases hc : c = '\x7d'
    · subst hc
      rfl
    · simp [Except.bind, boundaryEnd, hc]

theorem leaves_boundaryEscape_brace {verbose : Bool} {r rest : Text} {a : Ast}
    (h : boundaryEscape verbose ('\x7b' :: (r ++ [')'])) = .ok (a, rest)) :
    Leaves (boundaryAtBrace verbose) (boundaryEscape verbose) ('\x7b' :: r) a rest := by
  rcases skip_closed verbose r with hr | hr
  · rw [boundaryEscape_brace_nil hr] at h
    exact nomatch h
  cases hown : skip verbose r with
  | nil =>
    -- by itself the brace is the last character, which is an error
    rw [hown] at hr
    rw [boundaryEscape_brace_cons hr] at h
    cases h
    exact .inr (.inl ⟨rfl, r, rfl, hown⟩)
  | cons d t =>
    have hread := boundaryEscape_brace_cons hown
    rw [hown] at hr
    rw [boundaryEscape_brace_cons hr] at h
    split at h
    · next hd =>
      rw [if_pos hd] at hread
      have ht : d :: t <:+ '\x7b' :: r :=
        (hown ▸ skip_suffix verbose r).trans (List.suffix_cons _ r)
      exact ((encloses_boundaryName verbose).closed (d :: t) a rest h).imp ht False.elim
        fun t' hname => hread.trans hname
    · next hd =>
      rw [if_neg hd] at hread
      cases h
      exact .inr (.inr ⟨_, rfl, List.suffix_rfl, hread⟩)

theorem encloses_boundaryEscape (verbose : Bool) :
    Encloses (boundaryAtBrace verbose) (boundaryEscape verbose) where
  nil := by
    intro a rest h
    cases h
    rfl
  closed := by
    intro s a rest h
    cases s with
    | nil =>
      cases h
      exact .inr (.inr ⟨[], rfl, List.suffix_rfl, rfl⟩)
    | cons c r =>
      by_cases hc : c = '\x7b'
      · subst hc
        exact leaves_boundaryEscape_brace h
      · have hread (r : Text) : boundaryEscape verbose (c :: r)
            = .ok (.assertion .wordBoundary, c :: r) := by
          simp [boundaryEscape, hc]
        rw [List.cons_append, hread] at h
        cases h
        exact .inr (.inr ⟨c :: r, rfl, List.suffix_rfl, hread r⟩)

theorem encloses_escape (verbose : Bool) :
    Encloses (boundaryAtBrace verbose) (escape verbose) := by
  refine .ofCons (fun c => ?_) fun _ h => nomatch h
  simp only [escape]
  split
  · exact .error _
  split
  · exact (encloses_hexEscape verbose 1).weaken
  split
  · exact (encloses_hexEscape verbose 3).weaken
  split
  · exact (encloses_hexEscape verbose 7).weaken
  split
  · exact (encloses_propertyEscape verbose false).weaken
  split
  · exact (encloses_propertyEscape verbose true).weaken
  split
  · exact encloses_boundaryEscape verbose
  split
  · exact .ok _
  split
  · exact .ok _
  · exact .error _

/-! ## Heads of groups -/

/-- Checks the name of a group and reads the bracket behind it. -/
def checkedName : (name rest : Text) → Answer Text
  | c :: name, _ :: rest =>
    if isNameChar true c && name.all (isNameChar false) then .ok (c :: name, rest)
    else .error .groupNameInvalid
  | _, _ => .error .groupNameInvalid

theorem encloses_groupName : Encloses nowhere groupName := by
  have hname (name : Text) : Encloses nowhere (checkedName name) := by
    cases name with
    | nil => exact .error _
    | cons c name =>
      refine .ofCons (fun _ => ?_) fun _ h => nomatch h
      simp only [checkedName]
      split
      · exact .ok _
      · exact .error _
  exact (encloses_span (· != '>')).bind hname

theorem encloses_flagList (negated dangling : Bool) (flags : FlagList) :
    Encloses nowhere (flagList negated dangling flags) where
  nil := fun _ _ h => nomatch h
  closed := by
    intro s x rest h
    induction s generalizing negated dangling flags with
    | nil =>
      rw [List.nil_append, flagList, if_pos (.inr rfl)] at h
      split at h
      · cases h
      · cases h
        exact .inl rfl
    | cons c r ih =>
      by_cases hend : c = ':' ∨ c = ')'
      · have hread (r : Text) : flagList negated dangling flags (c :: r)
            = if dangling then .error .flagNegationDangling else .ok ((flags, c == ':'), r) := by
          rw [flagList, if_pos hend]
        rw [List.cons_append, hread] at h
        split at h
        · cases h
        · next hdangling =>
          cases h
          refine .inr (.inr ⟨r, rfl, List.suffix_cons c r, ?_⟩)
          rw [hread, if_neg hdangling]
      by_cases hhyphen : c = '-'
      · have hread (r : Text) : flagList negated dangling flags (c :: r)
            = if negated then .error .flagDuplicate else flagList true true flags r := by
          rw [flagList, if_neg hend, if_pos hhyphen]
        rw [List.cons_append, hread] at h
        split at h
        · cases h
        · next hnegated =>
          refine (ih _ _ _ h).imp (List.suffix_cons c r) id fun t hown => ?_
          rw [hread, if_neg hnegated, hown]
      rw [List.cons_append, flagList, if_neg hend, if_neg hhyphen] at h
      split at h
      · cases h
      · next f hf =>
        split at h
        · cases h
        · next hnew =>
          refine (ih _ _ _ h).imp (List.suffix_cons c r) id fun t hown => ?_
          rw [flagList, if_neg hend, if_neg hhyphen, hf]
          dsimp only
          rw [if_neg hnew, hown]

/-- A mark without a parenthesis is found at the same place. -/
theorem after?_closed {front : Text} (hfront : ')' ∉ front) (s : Text) :
    Text.after? front (s ++ [')']) = (Text.after? front s).map (· ++ [')']) := by
  induction front generalizing s with
  | nil => rfl
  | cons a front ih =>
    rw [List.mem_cons, not_or] at hfront
    cases s with
    | nil => simp [Text.after?, Ne.symm hfront.1]
    | cons c s =>
      rw [List.cons_append, Text.after?, Text.after?]
      split
      · exact ih hfront.2 s
      · rfl

theorem looksAround_of_append {s t : Text} (h : looksAround s = true) :
    looksAround (s ++ t) = true := by
  rw [looksAround, List.any_eq_true] at h ⊢
  obtain ⟨mark, hmark, hs⟩ := h
  refine ⟨mark, hmark, ?_⟩
  rw [Text.startsWith_iff] at hs ⊢
  exact hs.trans (List.prefix_append s t)

/-- Reads the head of a group that has no name. -/
def unnamedHead : Text → Answer GroupHead
  | '?' :: r =>
    Except.bind (flagList false false [] r) fun x =>
      if x.1.2 then .ok (.opened false x.1.1 none, x.2)
      else if x.1.1.isEmpty then .error .repetitionMissing
      else .ok (.flagsOnly x.1.1, x.2)
  | s => .ok (.opened true [] none, s)

/-- Reads the head of a group behind the blanks in front of it. -/
def groupHeadTail (s : Text) : Answer GroupHead :=
  if looksAround s then .error .lookAround
  else
    match (Text.after? "?P<".toList s).or (Text.after? "?<".toList s) with
    | some r => Except.bind (groupName r) fun x => .ok (.opened true [] (some x.1), x.2)
    | none => unnamedHead s

theorem encloses_unnamedHead : Encloses nowhere unnamedHead := by
  have hflags (x : FlagList × Bool) : Encloses nowhere fun rest =>
      if x.2 then .ok (GroupHead.opened false x.1 none, rest)
      else if x.1.isEmpty then .error .repetitionMissing
      else .ok (.flagsOnly x.1, rest) := by
    split
    · exact .ok _
    · split
      · exact .error _
      · exact .ok _
  refine .ofHead '?' ((encloses_flagList false false []).bind hflags)
    (.ok (.opened true [] none)) (by decide) (fun _ => .rfl) (fun _ => rfl) fun d r hd => ?_
  simp [unnamedHead, hd]

theorem encloses_groupHeadTail : Encloses nowhere groupHeadTail where
  nil := by
    intro head rest h
    cases h
    rfl
  closed := by
    intro s head rest h
    have hnamed : Encloses nowhere fun r =>
        Except.bind (groupName r) fun x => .ok (GroupHead.opened true [] (some x.1), x.2) :=
      encloses_groupName.bind fun name => .ok (GroupHead.opened true [] (some name))
    rw [groupHeadTail, after?_closed (by decide), after?_closed (by decide), ← Option.map_or] at h
    split at h
    · cases h
    next haround =>
    have hown : looksAround s ≠ true := fun hs => haround (looksAround_of_append hs)
    cases hmark : (Text.after? "?P<".toList s).or (Text.after? "?<".toList s) with
    | some r =>
      have hr : r <:+ s := by
        rw [Option.or_eq_some_iff] at hmark
        rcases hmark with hmark | ⟨-, hmark⟩
        · exact (Text.after?_eq_some_iff _ s r).1 hmark ▸ List.suffix_append _ r
        · exact (Text.after?_eq_some_iff _ s r).1 hmark ▸ List.suffix_append _ r
      rw [hmark] at h
      refine (hnamed.closed r head rest h).imp hr id fun t ht => ?_
      rw [groupHeadTail, if_neg hown, hmark]
      exact ht
    | none =>
      rw [hmark] at h
      refine (encloses_unnamedHead.closed s head rest h).imp List.suffix_rfl id fun t ht => ?_
      rw [groupHeadTail, if_neg hown, hmark]
      exact ht

theorem encloses_groupHead (verbose : Bool) : Encloses nowhere (groupHead verbose) :=
  encloses_groupHeadTail.skip verbose

end SlideDeck.Pattern
