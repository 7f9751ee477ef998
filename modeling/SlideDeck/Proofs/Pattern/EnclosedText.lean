import SlideDeck.Error
import SlideDeck.Pattern.Token
import SlideDeck.Proofs.Text.Trim

/-!
# Reading in front of a closing parenthesis

A pattern is tied to the start of a line by writing it into a group.  So every reader meets the
pattern with a closing parenthesis behind it, and the question is whether it reads the same as
without.  Three things can happen: the reader stops before the parenthesis and would have read the
same; or it takes the parenthesis along, as a comment does; or it makes one of a few exceptions,
which are named where they arise and come to nothing in the end.

* `Encloses` says that a reader does nothing else.
* `Encloses.bind`, `Encloses.ofCons`, `Encloses.ofHead`, `Encloses.ofOption` and `Encloses.skip`
  build such readers from others: one after the other, by the first character, by what another
  reader finds, after blanks.
* `encloses_takeSpaced`, `encloses_span` — runs of characters.

The empty text has a place in the definition because a reader that has taken the parenthesis along
leaves nothing to the next one.
-/

set_option autoImplicit false

namespace SlideDeck.Pattern

open Unicode (isSpace)

/-! ## Readers before a closing parenthesis -/

/-- What a reader leaves of a text with a closing parenthesis put at its end, where it has read
`a`: nothing, or the rest in one of the exceptions `apart`, or an end `t` of the text with the
parenthesis behind it.  In the last case it reads `a` off the text itself and leaves `t`. -/
def Leaves {α : Type} (apart : α → Text → Prop) (read : Text → Answer α) (s : Text) (a : α)
    (rest : Text) : Prop :=
  rest = [] ∨ apart a rest ∨ ∃ t, rest = t ++ [')'] ∧ t <:+ s ∧ read s = .ok (a, t)

/-- A reader that cannot tell a text from the text with a closing parenthesis at its end, unless it
takes the parenthesis along or makes an exception. -/
structure Encloses {α : Type} (apart : α → Text → Prop) (read : Text → Answer α) : Prop where
  /-- Where nothing is left to read, nothing is left. -/
  nil : ∀ a rest, read [] = .ok (a, rest) → rest = []
  closed : ∀ s a rest, read (s ++ [')']) = .ok (a, rest) → Leaves apart read s a rest

/-- Puts the parenthesis behind what is left. -/
def withParenthesis {α : Type} (x : α × Text) : α × Text := (x.1, x.2 ++ [')'])

/-- No exceptions. -/
def nowhere {α : Type} (_ : α) (_ : Text) : Prop := False

/-- Reading an end of a text as a step in reading the text. -/
theorem Leaves.imp {α β : Type} {apart : α → Text → Prop} {apart' : β → Text → Prop}
    {read : Text → Answer α} {read' : Text → Answer β} {s r rest : Text} {a : α} {b : β}
    (h : Leaves apart read r a rest) (hr : r <:+ s) (hapart : apart a rest → apart' b rest)
    (hread : ∀ t, read r = .ok (a, t) → read' s = .ok (b, t)) : Leaves apart' read' s b rest := by
  rcases h with hnil | h | ⟨t, hrest, ht, hown⟩
  · exact .inl hnil
  · exact .inr (.inl (hapart h))
  · exact .inr (.inr ⟨t, hrest, ht.trans hr, hread t hown⟩)

namespace Encloses

variable {α β : Type} {apart : β → Text → Prop} {read : Text → Answer α}

theorem error (e : PatternError) : Encloses apart fun _ => .error e where
  nil := fun _ _ h => nomatch h
  closed := fun _ _ _ h => nomatch h

theorem ok (b : β) : Encloses apart fun s => .ok (b, s) where
  nil := by
    intro a rest h
    cases h
    rfl
  closed := by
    intro s a rest h
    cases h
    exact .inr (.inr ⟨s, rfl, List.suffix_rfl, rfl⟩)

/-- A result that has nothing to do with the text. -/
theorem result (x : Except PatternError β) :
    Encloses apart fun s => Except.bind x fun b => .ok (b, s) := by
  cases x with
  | error e => exact error e
  | ok b => exact ok b

theorem weaken {read : Text → Answer β} (hread : Encloses nowhere read) : Encloses apart read where
  nil := hread.nil
  closed := fun s b rest h => (hread.closed s b rest h).imp List.suffix_rfl False.elim fun _ => id

/-- One reader after another, where the second has no use for the exceptions of the first. -/
theorem bind_of_fails {before : α → Text → Prop} {next : α → Text → Answer β}
    (hread : Encloses before read) (hfails : ∀ a s, before a s → ∀ x, next a s ≠ .ok x)
    (hnext : ∀ a, Encloses apart (next a)) :
    Encloses apart fun s => Except.bind (read s) fun x => next x.1 x.2 where
  nil := by
    intro b rest h
    obtain ⟨⟨a, s'⟩, ha, hb⟩ := bind_eq_ok_iff.1 h
    obtain rfl := hread.nil a s' ha
    exact (hnext a).nil b rest hb
  closed := by
    intro s b rest h
    obtain ⟨⟨a, s'⟩, ha, hb⟩ := bind_eq_ok_iff.1 h
    rcases hread.closed s a s' ha with rfl | hbefore | ⟨t, rfl, ht, hown⟩
    · exact .inl ((hnext a).nil b rest hb)
    · exact absurd hb (hfails a s' hbefore _)
    · exact ((hnext a).closed t b rest hb).imp ht id fun t' hown' =>
        bind_eq_ok_iff.2 ⟨(a, t), hown, hown'⟩

/-- One reader after another. -/
theorem bind {next : α → Text → Answer β} (hread : Encloses nowhere read)
    (hnext : ∀ a, Encloses apart (next a)) :
    Encloses apart fun s => Except.bind (read s) fun x => next x.1 x.2 :=
  hread.bind_of_fails (fun _ _ h => h.elim) hnext

/-- A reader whose value is then worked on. -/
theorem map {before : α → Text → Prop} (f : α → β) (hread : Encloses before read)
    (hbefore : ∀ a rest, before a rest → apart (f a) rest) :
    Encloses apart fun s => Except.bind (read s) fun x => .ok (f x.1, x.2) where
  nil := by
    intro b rest h
    obtain ⟨⟨a, s'⟩, ha, hb⟩ := bind_eq_ok_iff.1 h
    cases hb
    exact hread.nil a _ ha
  closed := by
    intro s b rest h
    obtain ⟨⟨a, s'⟩, ha, hb⟩ := bind_eq_ok_iff.1 h
    cases hb
    exact (hread.closed s a _ ha).imp List.suffix_rfl (hbefore a _) fun t hown =>
      bind_eq_ok_iff.2 ⟨(a, t), hown, rfl⟩

/-- A reader that takes a character and reads on as that character says. -/
theorem ofCons {read : Text → Answer β} (hcons : ∀ c, Encloses apart fun r => read (c :: r))
    (hnil : ∀ x, read [] ≠ .ok x) : Encloses apart read where
  nil := fun b rest h => absurd h (hnil (b, rest))
  closed := by
    intro s b rest h
    cases s with
    | nil => exact .inl ((hcons ')').nil b rest h)
    | cons c r => exact ((hcons c).closed r b rest h).imp (List.suffix_cons c r) id fun _ => id

/-- A reader that goes by the first character: behind the mark `c` it reads on with `yes`, in front
of anything else with `no`. -/
theorem ofHead (c : Char) {read yes no : Text → Answer β} (hyes : Encloses apart yes)
    (hno : Encloses apart no) (hc : c ≠ ')') (hnil : ∀ x, read [] = .ok x ↔ no [] = .ok x)
    (hread : ∀ r, read (c :: r) = yes r)
    (hother : ∀ d r, d ≠ c → read (d :: r) = no (d :: r)) : Encloses apart read where
  nil := fun b rest h => hno.nil b rest ((hnil _).1 h)
  closed := by
    intro s b rest h
    cases s with
    | nil =>
      rw [List.nil_append, hother _ _ hc.symm] at h
      exact (hno.closed [] b rest h).imp List.suffix_rfl id fun t hown => (hnil _).2 hown
    | cons d r =>
      by_cases hd : d = c
      · subst hd
        rw [List.cons_append, hread] at h
        refine (hyes.closed r b rest h).imp (List.suffix_cons d r) id fun t hown => ?_
        rw [hread, hown]
      · rw [List.cons_append, hother _ _ hd] at h
        refine (hno.closed (d :: r) b rest h).imp List.suffix_rfl id fun t hown => ?_
        rw [hother _ _ hd, hown]

/-- A reader that asks another one first, which may have nothing to say. -/
theorem ofOption {first : Text → Option (α × Text)} {read no : Text → Answer β} (f : α → β)
    (hclosed : ∀ s, first (s ++ [')']) = (first s).map withParenthesis)
    (hsuffix : ∀ {s a t}, first s = some (a, t) → t <:+ s) (hno : Encloses apart no)
    (hsome : ∀ s a t, first s = some (a, t) → read s = .ok (f a, t))
    (hnone : ∀ s, first s = none → read s = no s) (hnil : first [] = none) :
    Encloses apart read where
  nil := by
    intro b rest h
    rw [hnone [] hnil] at h
    exact hno.nil b rest h
  closed := by
    intro s b rest h
    cases hs : first s with
    | some x =>
      obtain ⟨a, t⟩ := x
      rw [hsome (s ++ [')']) a (t ++ [')']) (by rw [hclosed, hs]; rfl)] at h
      cases h
      exact .inr (.inr ⟨t, rfl, hsuffix hs, hsome s a t hs⟩)
    | none =>
      rw [hnone (s ++ [')']) (by rw [hclosed, hs]; rfl)] at h
      refine (hno.closed s b rest h).imp List.suffix_rfl id fun t hown => ?_
      rw [hnone s hs, hown]

end Encloses

/-! ## Blanks -/

theorem skipBlanks_closed (comment : Bool) (s : Text) :
    skipBlanks comment (s ++ [')']) = [] ∨
      skipBlanks comment (s ++ [')']) = skipBlanks comment s ++ [')'] := by
  induction s generalizing comment with
  | nil =>
    cases comment with
    | true => exact .inl rfl
    | false => exact .inr rfl
  | cons c r ih =>
    cases comment with
    | true => exact ih _
    | false =>
      rw [List.cons_append, skipBlanks, skipBlanks]
      split
      · exact ih _
      · split
        · exact ih _
        · exact .inr rfl

/-- Only a comment takes the parenthesis along. -/
theorem skip_closed (verbose : Bool) (s : Text) :
    skip verbose (s ++ [')']) = [] ∨ skip verbose (s ++ [')']) = skip verbose s ++ [')'] := by
  cases verbose with
  | true => exact skipBlanks_closed false s
  | false => exact .inr rfl

theorem skipBlanks_suffix (comment : Bool) (s : Text) : skipBlanks comment s <:+ s := by
  induction s generalizing comment with
  | nil => cases comment <;> exact List.suffix_rfl
  | cons c r ih =>
    cases comment with
    | true => exact (ih _).trans (List.suffix_cons c r)
    | false =>
      rw [skipBlanks]
      split
      · exact (ih _).trans (List.suffix_cons c r)
      · split
        · exact (ih _).trans (List.suffix_cons c r)
        · exact List.suffix_rfl

theorem skip_suffix (verbose : Bool) (s : Text) : skip verbose s <:+ s := by
  cases verbose with
  | true => exact skipBlanks_suffix false s
  | false => exact List.suffix_rfl

@[simp] theorem skip_nil (verbose : Bool) : skip verbose [] = [] := by
  cases verbose <;> rfl

/-- A character that is no blank and starts no comment stays where it is. -/
theorem skip_cons (verbose : Bool) {c : Char} (r : Text) (hspace : isSpace c = false)
    (hhash : c ≠ '#') : skip verbose (c :: r) = c :: r := by
  cases verbose with
  | true =>
    rw [skip, if_pos rfl, skipBlanks, if_neg (by rw [hspace]; decide), if_neg hhash]
  | false => rfl

theorem tail_suffix_of_skip {verbose : Bool} {s r : Text} {c : Char}
    (h : skip verbose s = c :: r) : r <:+ s :=
  (List.suffix_cons c r).trans (h ▸ skip_suffix verbose s)

/-- A reader after blanks. -/
theorem Encloses.skip {α : Type} {apart : α → Text → Prop} {read : Text → Answer α}
    (hread : Encloses apart read) (verbose : Bool) :
    Encloses apart fun s => read (skip verbose s) where
  nil := by
    intro a rest h
    rw [skip_nil] at h
    exact hread.nil a rest h
  closed := by
    intro s a rest h
    rcases skip_closed verbose s with hs | hs
    · rw [hs] at h
      exact .inl (hread.nil a rest h)
    · rw [hs] at h
      exact (hread.closed _ a rest h).imp (skip_suffix verbose s) id fun _ hown => hown

theorem dropWhile_isSpace_closed (s : Text) :
    (s ++ [')']).dropWhile isSpace = s.dropWhile isSpace ++ [')'] := by
  rw [List.dropWhile_append]
  split
  · next h => rw [List.isEmpty_iff.1 h]; rfl
  · rfl

@[simp] theorem takeSpaced_nil (verbose : Bool) (p : Char → Bool) :
    takeSpaced verbose p [] = ([], []) := by
  rw [takeSpaced]

theorem takeSpaced_of_neg (verbose : Bool) {p : Char → Bool} {c : Char} (hc : ¬p c = true)
    (r : Text) : takeSpaced verbose p (c :: r) = ([], c :: r) := by
  rw [takeSpaced, if_neg hc]

theorem takeSpaced_closed (verbose : Bool) (p : Char → Bool) (s : Text) :
    (takeSpaced verbose p (s ++ [')'])).2 = [] ∨
      takeSpaced verbose p (s ++ [')'])
        = ((takeSpaced verbose p s).1, (takeSpaced verbose p s).2 ++ [')']) := by
  induction s using takeSpaced.induct verbose p with
  | case1 =>
    rw [List.nil_append, takeSpaced_nil, takeSpaced]
    split
    · left
      simp only [skip_nil, takeSpaced_nil]
    · exact .inr rfl
  | case2 c r hc _ _ _ ih =>
    rw [List.cons_append, takeSpaced, if_pos hc, takeSpaced, if_pos hc]
    rcases skip_closed verbose r with hr | hr
    · left
      rw [hr, takeSpaced_nil]
    · rw [hr]
      rcases ih with hnil | hsame
      · exact .inl hnil
      · right
        rw [hsame]
  | case3 c r hc =>
    rw [List.cons_append, takeSpaced_of_neg verbose hc, takeSpaced_of_neg verbose hc]
    exact .inr rfl

theorem takeSpaced_suffix (verbose : Bool) (p : Char → Bool) (s : Text) :
    (takeSpaced verbose p s).2 <:+ s := by
  induction s using takeSpaced.induct verbose p with
  | case1 => simp only [takeSpaced_nil, List.suffix_rfl]
  | case2 c r hc _ _ _ ih =>
    rw [takeSpaced, if_pos hc]
    exact ih.trans ((skip_suffix verbose r).trans (List.suffix_cons c r))
  | case3 c r hc => simp only [takeSpaced_of_neg verbose hc, List.suffix_rfl]

theorem encloses_takeSpaced {apart : Text → Text → Prop} (verbose : Bool) (p : Char → Bool) :
    Encloses apart fun s => .ok (takeSpaced verbose p s) where
  nil := by
    intro cs rest h
    rw [takeSpaced_nil] at h
    cases h
    rfl
  closed := by
    intro s cs rest h
    rcases takeSpaced_closed verbose p s with hnil | hsame
    · rw [Except.ok.inj h] at hnil
      exact .inl hnil
    · rw [hsame] at h
      cases h
      exact .inr (.inr ⟨_, rfl, takeSpaced_suffix verbose p s, rfl⟩)

theorem takeSpaced_false (p : Char → Bool) (s : Text) :
    takeSpaced false p s = (s.takeWhile p, s.dropWhile p) := by
  induction s with
  | nil => rw [takeSpaced_nil]; rfl
  | cons c r ih =>
    rw [takeSpaced]
    split
    · next hc =>
      rw [List.takeWhile_cons_of_pos hc, List.dropWhile_cons_of_pos hc]
      simp only [skip, Bool.false_eq_true, if_false, ih]
    · next hc => rw [List.takeWhile_cons_of_neg hc, List.dropWhile_cons_of_neg hc]

theorem encloses_span {apart : Text → Text → Prop} (p : Char → Bool) :
    Encloses apart fun s => .ok (s.takeWhile p, s.dropWhile p) := by
  simp only [← takeSpaced_false]
  exact encloses_takeSpaced false p

theorem encloses_dropSpaces {α : Type} {apart : α → Text → Prop} {read : Text → Answer α}
    (hread : Encloses apart read) : Encloses apart fun s => read (s.dropWhile isSpace) where
  nil := hread.nil
  closed := by
    intro s a rest h
    rw [dropWhile_isSpace_closed] at h
    exact (hread.closed _ a rest h).imp (List.dropWhile_suffix _) id fun _ hown => hown

end SlideDeck.Pattern
