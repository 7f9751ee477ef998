import SlideDeck.Pattern.Bracket
import SlideDeck.Proofs.Pattern.EnclosedToken

/-!
# Classes in front of a closing parenthesis

A parenthesis is an item like any other within brackets, so a class that is not closed may take the
parenthesis along or stop in front of it, and is an error in either case.

* `encloses_classRange_cons` — items and ranges; `posixClass?_closed`, `setOperator?_closed` — what
  is looked for first.
* `classTurn` is one turn in reading a class: `encloses_classTurn` says what a turn makes of the
  parenthesis, `readClassFrom_closed` what all turns do.
* `encloses_readClass` — a class, from its opening bracket to its closing one.
-/

set_option autoImplicit false

namespace SlideDeck.Pattern

/-! ## Items and ranges -/

theorem encloses_classItem_cons (verbose : Bool) (c : Char) :
    Encloses (boundaryAtBrace verbose) fun r => classItem verbose (c :: r) := by
  by_cases hc : c = '\\'
  · subst hc
    exact encloses_escape verbose
  · simp only [classItem]
    exact .ok _

theorem encloses_classItem (verbose : Bool) :
    Encloses (boundaryAtBrace verbose) (classItem verbose) :=
  .ofCons (encloses_classItem_cons verbose) fun _ h => nomatch h

theorem peekAfterHyphen_closed (verbose : Bool) (s : Text) :
    peekAfterHyphen verbose (s ++ [')']) = (peekAfterHyphen verbose s).or (some ')') := by
  have hhead (t : Text) : (t ++ [')']).head? = t.head?.or (some ')') := by
    cases t <;> rfl
  cases verbose with
  | false => exact hhead s
  | true =>
    simp only [peekAfterHyphen, if_true, dropWhile_isSpace_closed]
    cases s.dropWhile Unicode.isSpace with
    | nil => rfl
    | cons c r =>
      by_cases hc : c = '#'
      · subst hc
        simp only [List.cons_append, dropWhile_isSpace_closed, hhead]
      · simp [hc]

/-- What may stand behind a hyphen that is no range: the parenthesis at the end does not. -/
theorem peek_closed_iff (verbose : Bool) (s : Text) :
    (peekAfterHyphen verbose (s ++ [')']) = some ']' ∨
        peekAfterHyphen verbose (s ++ [')']) = some '-') ↔
      (peekAfterHyphen verbose s = some ']' ∨ peekAfterHyphen verbose s = some '-') := by
  rw [peekAfterHyphen_closed]
  cases peekAfterHyphen verbose s with
  | none => simp
  | some c => simp

/-- The class is read up to the closing parenthesis. -/
def atParenthesis {α : Type} (_ : α) (rest : Text) : Prop := rest = [')']

/-- Reads on behind the hyphen of a range. -/
def rangeEnd (verbose : Bool) (first : Ast) (r : Text) : Answer SetAst :=
  Except.bind (classItem verbose (skip verbose r)) fun x =>
    Except.bind (itemRange first x.1) fun set => .ok (set, x.2)

/-- Reads on behind the first item of a range and the blanks there. -/
def rangeTail (verbose : Bool) (first : Ast) : Text → Answer SetAst
  | [] => .error .classUnclosed
  | '-' :: r =>
    if peekAfterHyphen verbose r = some ']' ∨ peekAfterHyphen verbose r = some '-' then
      Except.bind (itemSet first) fun set => .ok (set, '-' :: r)
    else rangeEnd verbose first r
  | s => Except.bind (itemSet first) fun set => .ok (set, s)

theorem encloses_rangeEnd {apart : SetAst → Text → Prop} (verbose : Bool) (first : Ast) :
    Encloses apart (rangeEnd verbose first) := by
  have hlast := (encloses_classItem verbose).skip verbose
  have hrange (last : Ast) : Encloses apart fun s =>
      Except.bind (itemRange first last) fun set => .ok (set, s) :=
    .result (itemRange first last)
  refine hlast.bind_of_fails ?_ hrange
  rintro a s ⟨rfl, -⟩ x h
  cases first <;> exact nomatch h

theorem encloses_rangeTail (verbose : Bool) (first : Ast) :
    Encloses atParenthesis (rangeTail verbose first) where
  nil := fun _ _ h => nomatch h
  closed := by
    intro s set rest h
    cases s with
    | nil =>
      obtain ⟨set, -, h⟩ := bind_eq_ok_iff.1 h
      cases h
      exact .inr (.inl rfl)
    | cons c r =>
      by_cases hc : c = '-'
      · subst hc
        rw [List.cons_append, rangeTail] at h
        simp only [peek_closed_iff] at h
        split at h
        · next hpeek =>
          obtain ⟨set, hset, h⟩ := bind_eq_ok_iff.1 h
          cases h
          refine .inr (.inr ⟨'-' :: r, rfl, List.suffix_rfl, ?_⟩)
          rw [rangeTail, if_pos hpeek]
          exact bind_eq_ok_iff.2 ⟨set, hset, rfl⟩
        · next hpeek =>
          refine ((encloses_rangeEnd verbose first).closed r set rest h).imp (List.suffix_cons _ r)
            id fun t hown => ?_
          rw [rangeTail, if_neg hpeek]
          exact hown
      · have hread (r : Text) : rangeTail verbose first (c :: r)
            = Except.bind (itemSet first) fun set => .ok (set, c :: r) := by
          simp [rangeTail, hc]
        rw [List.cons_append, hread] at h
        obtain ⟨set, hset, h⟩ := bind_eq_ok_iff.1 h
        cases h
        refine .inr (.inr ⟨c :: r, rfl, List.suffix_rfl, ?_⟩)
        rw [hread]
        exact bind_eq_ok_iff.2 ⟨set, hset, rfl⟩

theorem encloses_classRange_cons (verbose : Bool) (c : Char) :
    Encloses atParenthesis fun r => classRange verbose (c :: r) := by
  refine (encloses_classItem_cons verbose c).bind_of_fails ?_ fun first =>
    (encloses_rangeTail verbose first).skip verbose
  rintro a s ⟨rfl, t, rfl, -⟩ x h
  rw [skip_cons verbose _ (by decide) (by decide)] at h
  exact nomatch h

/-! ## Named classes and operators -/

/-- Reads the name of an ASCII class and its end. -/
def posixName? (negated : Bool) (r : Text) : Option (SetAst × Text) := do
  let rest ← Text.after? ":]".toList (r.dropWhile (· != ':'))
  if (CharSet.ascii? (r.takeWhile (· != ':'))).isSome then
    return (.posix (r.takeWhile (· != ':')) negated, rest)
  else none

theorem posixName?_closed (negated : Bool) (r : Text) :
    posixName? negated (r ++ [')']) = (posixName? negated r).map withParenthesis := by
  by_cases hmark : ':' ∈ r
  · obtain ⟨name, rest, rfl, hname⟩ := List.eq_append_cons_of_mem hmark
    obtain ⟨htake, hdrop⟩ := takeWhile_dropWhile_append_cons hname rest
    obtain ⟨htake', hdrop'⟩ := takeWhile_dropWhile_append_cons hname (rest ++ [')'])
    unfold posixName?
    rw [List.append_assoc, List.cons_append, htake, hdrop, htake', hdrop', ← List.cons_append,
      after?_closed (by decide)]
    cases Text.after? ":]".toList (':' :: rest) with
    | none => rfl
    | some t =>
      simp only [Option.map_some, Option.bind_eq_bind, Option.bind_some]
      split <;> rfl
  · have hmark' : ':' ∉ r ++ [')'] := by
      rw [List.mem_append, not_or]
      exact ⟨hmark, by decide⟩
    have hdrop : r.dropWhile (· != ':') = [] := List.dropWhile_eq_nil_iff.2 (bne_of_not_mem hmark)
    have hdrop' : (r ++ [')']).dropWhile (· != ':') = [] :=
      List.dropWhile_eq_nil_iff.2 (bne_of_not_mem hmark')
    unfold posixName?
    rw [hdrop, hdrop']
    rfl

theorem posixName?_suffix {negated : Bool} {r t : Text} {set : SetAst}
    (h : posixName? negated r = some (set, t)) : t <:+ r := by
  unfold posixName? at h
  simp only [Option.bind_eq_bind, Option.bind_eq_some_iff] at h
  obtain ⟨rest, hrest, h⟩ := h
  split at h
  · cases h
    have hdrop := (Text.after?_eq_some_iff _ _ _).1 hrest
    exact (hdrop ▸ List.suffix_append _ t).trans (List.dropWhile_suffix _)
  · cases h

/-- Reads an ASCII class behind its colon. -/
def posixTail? : Text → Option (SetAst × Text)
  | '^' :: r => posixName? true r
  | r => posixName? false r

theorem posixTail?_cons {c : Char} (hc : c ≠ '^') (r : Text) :
    posixTail? (c :: r) = posixName? false (c :: r) := by
  simp [posixTail?, hc]

theorem posixClass?_eq (s : Text) : posixClass? s = (Text.after? [':'] s).bind posixTail? := by
  unfold posixClass?
  cases Text.after? [':'] s with
  | none => rfl
  | some r =>
    cases r with
    | nil => rfl
    | cons c r =>
      by_cases hc : c = '^'
      · subst hc
        rfl
      · simp [hc, posixTail?_cons, posixName?]

theorem posixTail?_closed (r : Text) :
    posixTail? (r ++ [')']) = (posixTail? r).map withParenthesis := by
  cases r with
  | nil => exact posixName?_closed false []
  | cons c r =>
    by_cases hc : c = '^'
    · subst hc
      exact posixName?_closed true r
    · rw [List.cons_append, posixTail?_cons hc, posixTail?_cons hc]
      exact posixName?_closed false (c :: r)

theorem posixClass?_closed (s : Text) :
    posixClass? (s ++ [')']) = (posixClass? s).map withParenthesis := by
  rw [posixClass?_eq, posixClass?_eq, after?_closed (by decide)]
  cases Text.after? [':'] s with
  | none => rfl
  | some r => exact posixTail?_closed r

theorem posixClass?_suffix {s t : Text} {set : SetAst} (h : posixClass? s = some (set, t)) :
    t <:+ s := by
  rw [posixClass?_eq, Option.bind_eq_some_iff] at h
  obtain ⟨r, hr, h⟩ := h
  have hs : r <:+ s := (Text.after?_eq_some_iff _ _ _).1 hr ▸ List.suffix_append _ r
  unfold posixTail? at h
  split at h
  · exact (posixName?_suffix h).trans ((List.suffix_cons _ _).trans hs)
  · exact (posixName?_suffix h).trans hs

theorem setOperator?_closed (s : Text) :
    setOperator? (s ++ [')']) = (setOperator? s).map withParenthesis := by
  fun_cases setOperator? s with
  | case1 => rfl
  | case2 => rfl
  | case3 => rfl
  | case4 _ hand hminus htilde =>
    -- no mark of two characters comes about with the parenthesis
    have hmark (m : Char) (hm : m ≠ ')') (hs : ∀ r, s = m :: m :: r → False) (r : Text) :
        s ++ [')'] ≠ m :: m :: r := by
      match s, hs with
      | [], _ => simp
      | [c], _ => simp [Ne.symm hm]
      | c :: d :: t, hs =>
        intro h
        simp only [List.cons_append, List.cons.injEq] at h
        exact hs t (by rw [h.1, h.2.1])
    exact setOperator?.eq_4 _ (hmark '&' (by decide) hand) (hmark '-' (by decide) hminus)
      (hmark '~' (by decide) htilde)

theorem setOperator?_suffix {c : Char} {r t : Text} {op : SetOperator}
    (h : setOperator? (c :: r) = some (op, t)) : t <:+ r := by
  unfold setOperator? at h
  split at h
  · next hs => cases h; exact (List.cons.inj hs).2 ▸ List.suffix_cons _ t
  · next hs => cases h; exact (List.cons.inj hs).2 ▸ List.suffix_cons _ t
  · next hs => cases h; exact (List.cons.inj hs).2 ▸ List.suffix_cons _ t
  · cases h

/-! ## The start of a class -/

/-- Reads the mark of a negated class. -/
def negationMark (verbose : Bool) : Text → Bool × Text
  | '^' :: r => (true, skip verbose r)
  | s => (false, s)

theorem encloses_negationMark (verbose : Bool) :
    Encloses nowhere fun s => .ok (negationMark verbose s) := by
  refine .ofHead '^' ((Encloses.ok true).skip verbose) (.ok false) (by decide) (fun _ => .rfl)
    (fun _ => rfl) fun d r hd => ?_
  simp [negationMark, hd]

theorem encloses_leadingBracket (verbose : Bool) (items : SetAst) :
    Encloses nowhere fun s => .ok (leadingBracket verbose items s) := by
  by_cases hitems : items = .empty
  · refine .ofHead ']' ((Encloses.ok (.literal ']' false)).skip verbose) (.ok items) (by decide)
      (fun _ => .rfl) (fun r => ?_) fun d r hd => ?_
    · rw [leadingBracket, if_pos hitems]
    · simp [leadingBracket, hd]
  · have hread (s : Text) : leadingBracket verbose items s = (items, s) := by
      unfold leadingBracket
      split
      · rw [if_neg hitems]
      · rfl
    simp only [hread]
    exact .ok items

theorem encloses_unlessEmpty {α : Type} (a : α) :
    Encloses atParenthesis fun s => if s.isEmpty then .error .classUnclosed else .ok (a, s) where
  nil := fun _ _ h => nomatch h
  closed := by
    intro s b rest h
    cases s with
    | nil =>
      cases h
      exact .inr (.inl rfl)
    | cons c r =>
      cases h
      exact .inr (.inr ⟨c :: r, rfl, List.suffix_rfl, rfl⟩)

/-- The hyphens at the start of a class, as its items. -/
def hyphenItems (hyphens : Text) : SetAst :=
  hyphens.foldl (fun a c => a.add (.literal c false)) .empty

theorem encloses_classStart (verbose : Bool) : Encloses atParenthesis (classStart verbose) := by
  have hitems (negated : Bool) (hyphens : Text) :=
    (encloses_leadingBracket verbose (hyphenItems hyphens)).bind fun items =>
      encloses_unlessEmpty (negated, items)
  have hhyphens (negated : Bool) := (encloses_takeSpaced verbose (· == '-')).bind (hitems negated)
  exact ((encloses_negationMark verbose).skip verbose).bind hhyphens

/-! ## Turn by turn -/

/-- What one turn in reading a class comes to. -/
inductive ClassTurn where
  /-- The class is read. -/
  | done (set : SetAst)
  /-- There is more to read. -/
  | more (stack : List ClassFrame) (items : SetAst)

/-- Reads on behind an opening bracket within a class. -/
def openingTurn (verbose : Bool) (stack : List ClassFrame) (items : SetAst) (r : Text) :
    Answer ClassTurn :=
  match posixClass? r with
  | some x => .ok (.more stack (items.add x.1), x.2)
  | none =>
    Except.bind (classStart verbose r) fun x =>
      .ok (.more (.opened items x.1.1 :: stack) x.1.2, x.2)

/-- What a closing bracket makes of the set that it completes. -/
def closingTurn : SetAst × List ClassFrame → Except PatternError ClassTurn
  | (set, [.opened _ negated]) => .ok (.done (.bracket set negated))
  | (set, .opened before negated :: stack) => .ok (.more stack (before.add (.bracket set negated)))
  | _ => .error .classUnclosed

/-- Reads an operator, or an item of a class. -/
def operandTurn (verbose : Bool) (stack : List ClassFrame) (items : SetAst) (s : Text) :
    Answer ClassTurn :=
  match setOperator? s with
  | some x =>
    .ok (.more (.operand x.1 (applyOperator stack items).1 :: (applyOperator stack items).2) .empty,
      x.2)
  | none => Except.bind (classRange verbose s) fun x => .ok (.more stack (items.add x.1), x.2)

/-- One turn in reading a class. -/
def classTurn (verbose : Bool) (stack : List ClassFrame) (items : SetAst) : Text → Answer ClassTurn
  | '[' :: r => openingTurn verbose stack items r
  | ']' :: r => Except.bind (closingTurn (applyOperator stack items)) fun turn => .ok (turn, r)
  | s => operandTurn verbose stack items s

theorem classTurn_eq_operandTurn {verbose : Bool} {stack : List ClassFrame} {items : SetAst}
    {c : Char} {r : Text} (hopening : c ≠ '[') (hclosing : c ≠ ']') :
    classTurn verbose stack items (c :: r) = operandTurn verbose stack items (c :: r) := by
  rw [classTurn]
  · exact fun r' h => hopening (List.cons.inj h).1
  · exact fun r' h => hclosing (List.cons.inj h).1

/-- Reads on in a class after a turn. -/
def afterTurn (verbose : Bool) (turns : Nat) (x : ClassTurn × Text) :
    Except PatternError (SetAst × Text) :=
  match x.1 with
  | .done set => .ok (set, x.2)
  | .more stack items => readClassFrom verbose turns stack items x.2

theorem readClassFrom_succ (verbose : Bool) (turns : Nat) (stack : List ClassFrame)
    (items : SetAst) (s : Text) :
    readClassFrom verbose (turns + 1) stack items s
      = Except.bind (classTurn verbose stack items (skip verbose s)) (afterTurn verbose turns) := by
  rw [readClassFrom]
  generalize skip verbose s = u
  split
  · rfl
  · next r =>
    cases hname : posixClass? r with
    | some x => simp only [classTurn, openingTurn, hname, Except.bind, afterTurn]
    | none =>
      simp only [classTurn, openingTurn, hname, bind]
      cases classStart verbose r <;> rfl
  · next r =>
    simp only [classTurn]
    rcases applyOperator stack items with ⟨set, _ | ⟨_ | _, _ | _⟩⟩ <;> rfl
  · next c r hopening hclosing =>
    have hturn : classTurn verbose stack items (c :: r)
        = operandTurn verbose stack items (c :: r) :=
      classTurn_eq_operandTurn hopening hclosing
    cases hoperator : setOperator? (c :: r) with
    | some x => simp only [hturn, operandTurn, hoperator, Except.bind, afterTurn]
    | none =>
      simp only [hturn, operandTurn, hoperator, bind]
      cases classRange verbose (c :: r) <;> rfl

/-- There is more to read, and only the parenthesis is left. -/
def unfinished (turn : ClassTurn) (rest : Text) : Prop :=
  (∃ stack items, turn = .more stack items) ∧ rest = [')']

theorem encloses_openingTurn (verbose : Bool) (stack : List ClassFrame) (items : SetAst) :
    Encloses unfinished (openingTurn verbose stack items) := by
  have hstart : Encloses unfinished fun r => Except.bind (classStart verbose r) fun x =>
      .ok (.more (.opened items x.1.1 :: stack) x.1.2, x.2) :=
    (encloses_classStart verbose).map (fun x => ClassTurn.more (.opened items x.1 :: stack) x.2)
      fun _ _ h => ⟨⟨_, _, rfl⟩, h⟩
  refine .ofOption (fun set => .more stack (items.add set)) posixClass?_closed posixClass?_suffix
    hstart (fun s a t h => ?_) (fun s h => ?_) rfl
  · rw [openingTurn, h]
  · rw [openingTurn, h]

theorem encloses_operandTurn (verbose : Bool) (stack : List ClassFrame) (items : SetAst)
    (c : Char) : Encloses unfinished fun r => operandTurn verbose stack items (c :: r) := by
  have hrange : Encloses unfinished fun r => Except.bind (classRange verbose (c :: r)) fun x =>
      .ok (.more stack (items.add x.1), x.2) :=
    (encloses_classRange_cons verbose c).map (fun set => ClassTurn.more stack (items.add set))
      fun _ _ h => ⟨⟨_, _, rfl⟩, h⟩
  refine .ofOption (fun op => .more
      (.operand op (applyOperator stack items).1 :: (applyOperator stack items).2) .empty)
    (fun r => setOperator?_closed (c :: r)) setOperator?_suffix hrange
    (fun s a t h => ?_) (fun s h => ?_) (by simp [setOperator?])
  · rw [operandTurn, h]
  · rw [operandTurn, h]

theorem encloses_classTurn (verbose : Bool) (stack : List ClassFrame) (items : SetAst)
    (c : Char) : Encloses unfinished fun r => classTurn verbose stack items (c :: r) := by
  by_cases hopening : c = '['
  · subst hopening
    exact encloses_openingTurn verbose stack items
  by_cases hclosing : c = ']'
  · subst hclosing
    exact .result _
  simp only [classTurn_eq_operandTurn hopening hclosing]
  exact encloses_operandTurn verbose stack items c

/-- A parenthesis does not close a class. -/
theorem classTurn_parenthesis (verbose : Bool) (stack : List ClassFrame) (items : SetAst) :
    classTurn verbose stack items [')'] = .error .classUnclosed := by
  simp [classTurn, operandTurn, setOperator?, classRange, classItem, Except.bind, bind]

theorem readClassFrom_nil (verbose : Bool) (turns : Nat) (stack : List ClassFrame)
    (items : SetAst) : readClassFrom verbose turns stack items [] = .error .classUnclosed := by
  cases turns with
  | zero => rfl
  | succ turns => rw [readClassFrom, skip_nil]

theorem readClassFrom_parenthesis (verbose : Bool) (turns : Nat) (stack : List ClassFrame)
    (items : SetAst) : readClassFrom verbose turns stack items [')'] = .error .classUnclosed := by
  cases turns with
  | zero => rfl
  | succ turns =>
    rw [readClassFrom_succ, skip_cons verbose [] (by decide) (by decide), classTurn_parenthesis]
    rfl

/-- Turn by turn, a class within the text is read as it is in front of the parenthesis.  The turns
that are allowed for the two readings have nothing to do with each other, as long as there is one
for each character of the text. -/
theorem readClassFrom_closed (verbose : Bool) {n m : Nat} {stack : List ClassFrame}
    {items set : SetAst} {s rest : Text} (hm : s.length ≤ m)
    (h : readClassFrom verbose n stack items (s ++ [')']) = .ok (set, rest)) :
    Leaves nowhere (readClassFrom verbose m stack items) s set rest := by
  induction n generalizing m stack items s with
  | zero => exact nomatch h
  | succ n ih =>
    rw [readClassFrom_succ] at h
    rcases skip_closed verbose s with hs | hs
    · rw [hs] at h
      exact nomatch h
    rw [hs] at h
    cases hown : skip verbose s with
    | nil =>
      rw [hown, List.nil_append, classTurn_parenthesis] at h
      exact nomatch h
    | cons c r =>
      have hlength := length_skip_le verbose s
      rw [hown, List.length_cons] at hlength
      obtain ⟨m, rfl⟩ : ∃ k, m = k + 1 := ⟨m - 1, by omega⟩
      rw [hown] at h
      obtain ⟨⟨turn, s'⟩, hturn, h⟩ := bind_eq_ok_iff.1 h
      have hread (t : Text) (hown' : classTurn verbose stack items (c :: r) = .ok (turn, t)) :
          readClassFrom verbose (m + 1) stack items s = afterTurn verbose m (turn, t) := by
        rw [readClassFrom_succ, hown, hown']
        rfl
      have hr : r <:+ s := tail_suffix_of_skip hown
      rcases (encloses_classTurn verbose stack items c).closed r turn s' hturn with
        rfl | ⟨⟨stack', items', rfl⟩, rfl⟩ | ⟨t, rfl, ht, hown'⟩
      · cases turn with
        | done set' =>
          cases h
          exact .inl rfl
        | more stack' items' => exact nomatch (readClassFrom_nil ..).symm.trans h
      · exact nomatch (readClassFrom_parenthesis ..).symm.trans h
      · cases turn with
        | done set' =>
          cases h
          exact .inr (.inr ⟨t, rfl, ht.trans hr, hread t hown'⟩)
        | more stack' items' =>
          have hlength' := ht.length_le
          refine (ih (m := m) (by omega) h).imp (ht.trans hr) id fun t' hset => ?_
          rw [hread t hown']
          exact hset

theorem encloses_readClass (verbose : Bool) : Encloses nowhere (readClass verbose) where
  nil := by
    intro set rest h
    simp [readClass, classStart, leadingBracket, bind, Except.bind] at h
  closed := by
    intro s set rest h
    rw [readClass] at h
    obtain ⟨⟨⟨negated, items⟩, s'⟩, hstart, h⟩ := bind_eq_ok_iff.1 h
    rcases (encloses_classStart verbose).closed s _ s' hstart with rfl | hend | ⟨t, rfl, ht, hown⟩
    · exact nomatch (readClassFrom_nil ..).symm.trans h
    · rw [atParenthesis] at hend
      subst hend
      exact nomatch (readClassFrom_parenthesis ..).symm.trans h
    · refine (readClassFrom_closed verbose (Nat.le_refl _) h).imp ht id fun t' hread => ?_
      exact bind_eq_ok_iff.2 ⟨((negated, items), t), hown, hread⟩

end SlideDeck.Pattern
