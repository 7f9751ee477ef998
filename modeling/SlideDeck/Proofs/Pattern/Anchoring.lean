import SlideDeck.Proofs.Config.Build
import SlideDeck.Proofs.Pattern.EnclosedClass

/-!
# Patterns that are tied to the start of a line

The pattern for lines to drop is written into a group with an anchor in front of it, and what is
compiled is the text that comes about.  So it is a question of reading whether the anchor holds for
all of the pattern.  It does, with one way out: a pattern may close the group that it was written
into and open another one.

* `Parse.within` puts a group around all that a parse has read so far; `Parse.step_within` — a step
  does not see it, and `Parse.encloses_step` — nor the parenthesis that closes it.
* `Parse.run_within` — from the first step to the last, what is read in the group is what is read
  without it, or the text closes a group that it has not opened.
* `anchored_cases` — an anchored pattern matches the lines that the pattern by itself matches from
  the first character on, with the same exception.
* `ConfigBuilder.removal_at_line_start` — the patterns of a configuration.

Nothing is said the other way round: there are patterns that cannot be anchored, for one that ends
in a comment takes the parenthesis along.
-/

set_option autoImplicit false

namespace SlideDeck.Pattern

namespace Parse

/-! ## A parse within a group -/

/-- The parse with one more group open around all that is read. -/
def within (f : GroupFrame) (p : Parse) : Parse := { p with groups := p.groups ++ [f] }

theorem enter_within (f : GroupFrame) (p : Parse) (head : GroupHead) :
    (p.within f).enter head = (p.enter head).map (within f) := by
  cases head with
  | flagsOnly flags => rfl
  | opened capturing flags name =>
    by_cases hname : name.any fun n => p.names.any fun m => m == n
    · simp only [enter, within, hname]
      rfl
    · simp only [enter, within, hname]
      rfl

theorem push_within (f : GroupFrame) (p : Parse) (a : Ast) :
    Except.ok ((p.within f).push a)
      = (Except.ok (p.push a) : Except PatternError Parse).map (within f) :=
  rfl

theorem repeatLast_within (f : GroupFrame) (p : Parse) (n : Repeats) :
    (p.within f).repeatLast n = (p.repeatLast n).map (within f) := by
  simp only [repeatLast, within]
  cases p.level.repeatLast n <;> rfl

theorem leave_within (f : GroupFrame) {p : Parse} (hp : p.groups ≠ []) :
    (p.within f).leave = p.leave.map (within f) := by
  obtain ⟨g, groups, hgroups⟩ := List.exists_cons_of_ne_nil hp
  simp only [leave, within, hgroups, List.cons_append]
  rfl

/-- A step: something is read, and the parse goes on from there. -/
def readThen {α : Type} (read : Except PatternError (α × Text))
    (act : α → Except PatternError Parse) : Answer Parse :=
  Except.bind read fun x => Except.bind (act x.1) fun p => .ok (p, x.2)

theorem readThen_within {α : Type} (f : GroupFrame) (read : Except PatternError (α × Text))
    {act act' : α → Except PatternError Parse} (hact : ∀ a, act' a = (act a).map (within f)) :
    readThen read act' = (readThen read act).map fun x => (x.1.within f, x.2) := by
  cases read with
  | error e => rfl
  | ok x =>
    simp only [readThen, Except.bind, hact]
    cases act x.1 <;> rfl

/-- The group around all does not show in a step, unless the step closes it. -/
theorem step_within (f : GroupFrame) {p : Parse} {c : Char} (r : Text)
    (h : c ≠ ')' ∨ p.groups ≠ []) :
    (p.within f).step c r = (p.step c r).map fun x => (x.1.within f, x.2) := by
  unfold step
  split
  · exact readThen_within f (groupHead p.verbose r) (enter_within f p)
  · exact readThen_within f (.ok ((), r)) fun _ => leave_within f (h.resolve_left fun h => h rfl)
  · rfl
  · exact readThen_within f (readClass p.verbose r) fun set => push_within f p (.set set)
  · exact readThen_within f (.ok (Repeats.withMark 0 (some 1) r)) (repeatLast_within f p)
  · exact readThen_within f (.ok (Repeats.withMark 0 none r)) (repeatLast_within f p)
  · exact readThen_within f (.ok (Repeats.withMark 1 none r)) (repeatLast_within f p)
  · exact readThen_within f (countedRange p.verbose r) (repeatLast_within f p)
  · exact readThen_within f (escape p.verbose r) (push_within f p)
  all_goals rfl

theorem exists_step_of_within {f : GroupFrame} {p p' : Parse} {c : Char} {r rest : Text}
    (hopen : c ≠ ')' ∨ p.groups ≠ []) (h : (p.within f).step c r = .ok (p', rest)) :
    ∃ q, p.step c r = .ok (q, rest) ∧ p' = q.within f := by
  rw [step_within f r hopen] at h
  cases hstep : p.step c r with
  | error e =>
    rw [hstep] at h
    exact nomatch h
  | ok x =>
    rw [hstep] at h
    cases h
    exact ⟨x.1, rfl, rfl⟩

/-- The step went up to a brace that closes nothing and has only blanks behind it. -/
def atBrace (p : Parse) (rest : Text) : Prop :=
  ∃ t, rest = '\x7b' :: (t ++ [')']) ∧ skip p.verbose t = []

theorem encloses_step (p : Parse) (c : Char) : Encloses atBrace (p.step c) := by
  unfold step
  split
  · exact (encloses_groupHead p.verbose).bind fun head => .result (p.enter head)
  · exact .result p.leave
  · exact .ok _
  · exact (encloses_readClass p.verbose).bind fun set => .ok (p.push (.set set))
  · exact (encloses_withMark 0 (some 1)).bind fun n => .result (p.repeatLast n)
  · exact (encloses_withMark 0 none).bind fun n => .result (p.repeatLast n)
  · exact (encloses_withMark 1 none).bind fun n => .result (p.repeatLast n)
  · exact (encloses_countedRange p.verbose).bind fun n => .result (p.repeatLast n)
  · exact (encloses_escape p.verbose).map (fun a => p.push a) fun _ _ h => h.2
  all_goals exact .ok _

/-! ## From the first step to the last -/

theorem finish_within (f : GroupFrame) (p : Parse) :
    (p.within f).finish = .error .groupUnclosed := by
  simp [finish, within]

theorem run_of_skip_nil (n : Nat) {p : Parse} {s : Text} (hs : skip p.verbose s = []) :
    p.run n s = p.finish := by
  cases n with
  | zero => rfl
  | succ n => rw [run, hs]

theorem run_nil (n : Nat) (p : Parse) : p.run n [] = p.finish :=
  run_of_skip_nil n (skip_nil p.verbose)

theorem run_succ (n : Nat) (p : Parse) {c : Char} {s r : Text} (hs : skip p.verbose s = c :: r) :
    p.run (n + 1) s = Except.bind (p.step c r) fun x => x.1.run n x.2 := by
  rw [run, hs]
  cases hstep : p.step c r with
  | error e => simp only [hstep, Except.bind]
  | ok x => simp only [hstep, Except.bind]

theorem decimal_parenthesis (verbose : Bool) :
    decimal verbose [')'] = .error .repetitionCountMissing := by
  have hdrop : [')'].dropWhile Unicode.isSpace = [')'] := dropWhile_isSpace_closed []
  rw [decimal, hdrop, takeSpaced, if_neg (by decide)]
  rfl

/-- A brace with nothing but blanks behind it is no repetition. -/
theorem step_brace (p : Parse) {t : Text} (ht : skip p.verbose t = []) :
    ∀ x, p.step '\x7b' (t ++ [')']) ≠ .ok x := by
  intro x h
  have hcount :
      decimal p.verbose (skip p.verbose (t ++ [')'])) = .error .repetitionCountMissing := by
    rcases skip_closed p.verbose t with hskip | hskip
    · rw [hskip]
      simp [decimal]
    · rw [hskip, ht]
      exact decimal_parenthesis p.verbose
  simp [step, countedRange, hcount, bind, Except.bind] at h

theorem run_within_atBrace (f : GroupFrame) {p : Parse} {rest : Text} (hrest : p.atBrace rest)
    (n : Nat) : ∀ a, (p.within f).run n rest ≠ .ok a := by
  intro a h
  obtain ⟨t, rfl, ht⟩ := hrest
  cases n with
  | zero => exact nomatch (finish_within f p).symm.trans h
  | succ n =>
    rw [run_succ n (p.within f) (skip_cons _ _ (by decide) (by decide))] at h
    obtain ⟨x, hx, -⟩ := bind_eq_ok_iff.1 h
    exact step_brace (p.within f) ht x hx

/-- The choice that a group stands in, which ends with the group. -/
def closedGroup (f : GroupFrame) (a : Ast) : Ast :=
  (f.outer.push (.group f.capturing f.flags a)).close

theorem step_closing (f : GroupFrame) {p : Parse} (hp : p.groups = []) (r : Text) :
    (p.within f).step ')' r
      = .ok (⟨f.outer.push (.group f.capturing f.flags p.level.close), [], f.verbose, p.names⟩,
        r) := by
  simp only [step, leave, within, hp, List.nil_append]
  rfl

theorem step_closing_none {p : Parse} (hp : p.groups = []) (r : Text) :
    p.step ')' r = .error .groupUnopened := by
  simp only [step, leave, hp]
  rfl

/-- The parenthesis at the very end closes the group, if no other group is open. -/
theorem finish_of_closing (f : GroupFrame) {n : Nat} {p : Parse} {ast : Ast}
    (h : (Except.bind ((p.within f).step ')' []) fun x => x.1.run n x.2) = .ok ast) :
    ∃ a, p.finish = .ok a ∧ ast = closedGroup f a := by
  obtain ⟨⟨p', rest⟩, hstep, h⟩ := bind_eq_ok_iff.1 h
  by_cases hp : p.groups = []
  · rw [step_closing f hp] at hstep
    cases hstep
    rw [run_nil] at h
    exact ⟨p.level.close, by simp [finish, hp], (Except.ok.inj h).symm⟩
  · obtain ⟨q, hq, rfl⟩ := exists_step_of_within (.inr hp) hstep
    obtain rfl := (encloses_step p ')').nil q rest hq
    rw [run_nil, finish_within] at h
    exact nomatch h

/-- **A group around a pattern.**  Where a group can be read up to a parenthesis at the very end,
what is read in it is what is read without the group, unless the text closes a group that it has
not opened. -/
theorem run_within (f : GroupFrame) {n m : Nat} {p : Parse} {s : Text} {ast : Ast}
    (hm : s.length ≤ m) (h : (p.within f).run n (s ++ [')']) = .ok ast) :
    (∃ a, p.run m s = .ok a ∧ ast = closedGroup f a) ∨ p.run m s = .error .groupUnopened := by
  induction n generalizing m p s with
  | zero => exact nomatch (finish_within f p).symm.trans h
  | succ n ih =>
    rcases skip_closed p.verbose s with hs | hs
    · -- a comment goes on over the parenthesis, so the group stays open
      rw [run, show skip (p.within f).verbose (s ++ [')']) = [] from hs] at h
      exact nomatch (finish_within f p).symm.trans h
    cases hown : skip p.verbose s with
    | nil =>
      rw [hown] at hs
      rw [run_succ n (p.within f) hs] at h
      rw [run_of_skip_nil m hown]
      exact .inl (finish_of_closing f h)
    | cons c r =>
      rw [hown, List.cons_append] at hs
      rw [run_succ n (p.within f) hs] at h
      obtain ⟨⟨p', rest⟩, hstep, h⟩ := bind_eq_ok_iff.1 h
      have hlength := length_skip_le p.verbose s
      rw [hown, List.length_cons] at hlength
      obtain ⟨m, rfl⟩ : ∃ k, m = k + 1 := ⟨m - 1, by omega⟩
      rw [run_succ m p hown]
      by_cases hopen : c ≠ ')' ∨ p.groups ≠ []
      · obtain ⟨q, hq, rfl⟩ := exists_step_of_within hopen hstep
        rcases (encloses_step p c).closed r q rest hq with rfl | hbrace | ⟨t, rfl, ht, hread⟩
        · rw [run_nil, finish_within] at h
          exact nomatch h
        · exact absurd h (run_within_atBrace f hbrace n ast)
        · rw [hread]
          have hlength' : t.length ≤ m := by
            have := ht.length_le
            omega
          exact ih hlength' h
      · -- the parenthesis closes the frame, so there is no group of its own to close
        rw [not_or, not_not, not_not] at hopen
        obtain ⟨rfl, hp⟩ := hopen
        right
        rw [step_closing_none hp]
        rfl

end Parse

/-! ## The anchored source -/

/-- The group that anchoring puts around a source, with the anchor in front of it. -/
def anchorFrame : GroupFrame := ⟨⟨[], [.assertion .lineStart]⟩, false, [], false⟩

theorem run_anchored (s : Text) :
    Parse.start.run (anchored s).length (anchored s)
      = (Parse.start.within anchorFrame).run (s.length + 3) (s ++ [')']) := by
  have hlength : (anchored s).length = s.length + 5 := by
    simp [anchored]
  rw [hlength]
  rfl

/-- **Reading an anchored source** is reading the source, unless it closes a group that it has not
opened. -/
theorem parse_of_anchored {s : Text} {ast : Ast} (h : parse (anchored s) = .ok ast) :
    (∃ a, parse s = .ok a ∧ ast = .seq (.assertion .lineStart) (.group false [] a))
      ∨ parse s = .error .groupUnopened := by
  rw [parse, run_anchored] at h
  cases hrun : (Parse.start.within anchorFrame).run (s.length + 3) (s ++ [')']) with
  | error e =>
    rw [hrun] at h
    exact nomatch h
  | ok ast' =>
    rw [hrun] at h
    dsimp only at h
    split at h
    · cases h
    next hdepth =>
    cases h
    rcases Parse.run_within anchorFrame (Nat.le_refl _) hrun with ⟨a, ha, rfl⟩ | herror
    · left
      refine ⟨a, ?_, rfl⟩
      have hdepth' : ¬ maxDepth < a.depth := by
        have hgroup : a.depth
            ≤ (Ast.seq (.assertion .lineStart) (.group false [] a)).depth := by
          simp only [Ast.depth, Ast.isSeq, Bool.false_eq_true, if_false]
          omega
        exact fun hlt => hdepth (Nat.lt_of_lt_of_le hlt hgroup)
      rw [parse, ha]
      dsimp only
      rw [if_neg hdepth']
    · right
      rw [parse, herror]

/-- The expression that a source means, whatever the size of its automaton. -/
def meaningOf (source : Text) : Except PatternError Regex := do
  let ast ← parse source
  let (regex, _) ← ast.meaning .start
  return regex

theorem regexOf_eq (source : Text) :
    regexOf source = Except.bind (meaningOf source) fun r =>
      if Automaton.fits (NormalForm.ofRegex r) then .ok r else .error .tooLarge := by
  unfold regexOf meaningOf
  cases parse source with
  | error e => rfl
  | ok ast =>
    simp only [bind, Except.bind]
    cases ast.meaning .start <;> rfl

theorem meaning_anchored {a : Ast} {r : Regex} {m : Modes}
    (h : (Ast.seq (.assertion .lineStart) (.group false [] a)).meaning .start = .ok (r, m)) :
    ∃ q m', a.meaning .start = .ok (q, m') ∧ r = .seq (.anchor .textStart) (.group false q) := by
  rw [Ast.meaning] at h
  obtain ⟨⟨anchor, modes⟩, hanchor, h⟩ := bind_eq_ok_iff.1 h
  cases hanchor
  obtain ⟨⟨group, modes'⟩, hgroup, h⟩ := bind_eq_ok_iff.1 h
  rw [Ast.meaning] at hgroup
  obtain ⟨⟨q, m'⟩, hq, hgroup⟩ := bind_eq_ok_iff.1 hgroup
  cases hgroup
  cases h
  exact ⟨q, m', hq, rfl⟩

theorem meaningOf_of_anchored {s : Text} {r : Regex} (h : meaningOf (anchored s) = .ok r) :
    (∃ q, meaningOf s = .ok q ∧ r = .seq (.anchor .textStart) (.group false q))
      ∨ parse s = .error .groupUnopened := by
  obtain ⟨ast, hast, h⟩ := bind_eq_ok_iff.1 h
  obtain ⟨⟨r', m⟩, hr, h⟩ := bind_eq_ok_iff.1 h
  cases h
  rcases parse_of_anchored hast with ⟨a, ha, rfl⟩ | herror
  · left
    obtain ⟨q, m', hq, rfl⟩ := meaning_anchored hr
    exact ⟨q, bind_eq_ok_iff.2 ⟨a, ha, bind_eq_ok_iff.2 ⟨(q, m'), hq, rfl⟩⟩, rfl⟩
  · exact .inr herror

/-- A line that an anchored expression matches is one that the expression matches from the first
character on. -/
theorem isMatch_anchored (q : Regex) (l : Text) :
    (Regex.seq (.anchor .textStart) (.group false q)).isMatch l = q.matchesAtStart l :=
  Regex.isMatch_atTextStart (.group false q) l

theorem compile_eq (source : Text) :
    compile source = Except.bind (meaningOf source) fun r =>
      if Automaton.fits (NormalForm.ofRegex r) then .ok ⟨source, r⟩ else .error .tooLarge := by
  rw [compile, regexOf_eq]
  cases meaningOf source with
  | error e => rfl
  | ok r =>
    by_cases hfits : Automaton.fits (NormalForm.ofRegex r) = true
    · simp only [bind, Except.bind, hfits]
      rfl
    · simp only [bind, Except.bind, hfits]
      rfl

/-- **An anchored pattern.**  If the anchored source compiles, the source closes a group that it has
not opened, or it means an expression, and the lines that match the anchored pattern are those that
match this expression from their first character on. -/
theorem anchored_cases {s : Text} {q : Pattern} (h : compile (anchored s) = .ok q) :
    compile s = .error .groupUnopened ∨
      ∃ r, meaningOf s = .ok r ∧ ∀ l, q.isMatch l = r.matchesAtStart l := by
  rw [compile_eq] at h
  obtain ⟨r, hr, h⟩ := bind_eq_ok_iff.1 h
  split at h
  · cases h
    rcases meaningOf_of_anchored hr with ⟨r', hr', rfl⟩ | herror
    · exact .inr ⟨r', hr', isMatch_anchored r'⟩
    · left
      rw [compile_eq, meaningOf, herror]
      rfl
  · cases h

end SlideDeck.Pattern

namespace SlideDeck.ConfigBuilder

open Pattern

theorem exists_of_mem_compiled {wrap : Text → Text} {sources : List Text} {ps : List Pattern}
    (h : Compiled wrap sources ps) {s : Text} (hs : s ∈ sources) :
    ∃ p ∈ ps, Pattern.compile (wrap s) = .ok p := by
  induction h with
  | nil => exact absurd hs List.not_mem_nil
  | @cons s' p rest ps hp _ ih =>
    rcases List.mem_cons.1 hs with rfl | hs
    · exact ⟨p, List.mem_cons_self, hp⟩
    · obtain ⟨q, hq, hcompile⟩ := ih hs
      exact ⟨q, List.mem_cons_of_mem p hq, hcompile⟩

theorem exists_removePattern {b : ConfigBuilder} {config : Config} (hb : b.build = .ok config)
    {s : Text} (hs : s ∈ b.removeSources) :
    ∃ q ∈ config.removePatterns, compile (anchored s) = .ok q := by
  obtain ⟨-, ⟨removes, hremoves, hlines⟩, -⟩ := build_eq_ok_iff.1 hb
  obtain ⟨q, hq, hcompile⟩ := exists_of_mem_compiled (compileAll_eq_ok_iff.1 hremoves) hs
  rw [hlines]
  exact ⟨q, List.mem_append_right _ hq, hcompile⟩

/-- **Patterns for lines to drop.**  In an accepted configuration each of them is tied to the start
of the line: the source by itself means an expression, and the lines that are matched are those with
a match of this expression from the first character on.  By itself the source compiles to the
expression if its automaton fits, which takes a little more memory without the anchor.  The
exception are sources that close a group which they have not opened. -/
theorem removal_at_line_start {b : ConfigBuilder} {config : Config} (hb : b.build = .ok config)
    {s : Text} (hs : s ∈ b.removeSources) :
    ∃ q ∈ config.removePatterns, compile (anchored s) = .ok q ∧
      (compile s = .error .groupUnopened ∨
        ∃ r, meaningOf s = .ok r ∧
          compile s =
            (if Automaton.fits (NormalForm.ofRegex r) then .ok ⟨s, r⟩ else .error .tooLarge) ∧
          ∀ l, q.isMatch l = r.matchesAtStart l) := by
  obtain ⟨q, hq, hcompile⟩ := exists_removePattern hb hs
  refine ⟨q, hq, hcompile, ?_⟩
  rcases anchored_cases hcompile with herror | ⟨r, hr, hmatch⟩
  · exact .inl herror
  · refine .inr ⟨r, hr, ?_, hmatch⟩
    rw [compile_eq, hr]
    rfl

theorem build_eq_ok_of_toOption {b : ConfigBuilder} {config : Config}
    (h : b.build.toOption = some config) : b.build = .ok config := by
  cases hb : b.build with
  | error e =>
    rw [hb] at h
    exact nomatch h
  | ok c =>
    rw [hb] at h
    exact congrArg Except.ok (Option.some.inj h)

/-- A choice at the top of a pattern is tied to the start of the line with all its branches. -/
theorem removal_at_line_start_choice :
    ∃ config, (ofSettings [.clearDefaultPatterns, .removePattern "a|b".toList]).build = .ok config ∧
      "a|b".toList ∈
        (ofSettings [.clearDefaultPatterns, .removePattern "a|b".toList]).removeSources ∧
      ∃ q ∈ config.removePatterns, ∃ r, meaningOf "a|b".toList = .ok r ∧
        ∀ l, q.isMatch l = r.matchesAtStart l := by
  have hb : (ofSettings [.clearDefaultPatterns, .removePattern "a|b".toList]).build
      = .ok ⟨none, [⟨anchored "a|b".toList, .seq (.anchor .textStart) (.group false
        (.alt (.chars (CharSet.single 'a')) (.chars (CharSet.single 'b'))))⟩], []⟩ :=
    build_eq_ok_of_toOption (by decide +kernel)
  have hs : "a|b".toList ∈
      (ofSettings [.clearDefaultPatterns, .removePattern "a|b".toList]).removeSources :=
    List.mem_singleton.2 rfl
  refine ⟨_, hb, hs, ?_⟩
  obtain ⟨q, hq, -, herror | ⟨r, hr, -, hmatch⟩⟩ := removal_at_line_start hb hs
  · exact absurd herror (by decide +kernel)
  · exact ⟨q, hq, r, hr, hmatch⟩

/-- A pattern that closes the group it is written into, and opens another one behind a bar, matches
anywhere in a line and is no pattern by itself. -/
theorem removal_within_line :
    compile "a)|(b".toList = .error .groupUnopened ∧
      ∃ config, (ofSettings [.clearDefaultPatterns, .removePattern "a)|(b".toList]).build
          = .ok config ∧
        Pattern.anyMatch config.removePatterns "xb\n".toList = true := by
  refine ⟨rfl, ⟨none, [⟨anchored "a)|(b".toList,
    .alt (.seq (.anchor .textStart) (.group false (.chars (CharSet.single 'a'))))
      (.group true (.chars (CharSet.single 'b')))⟩], []⟩, ?_, ?_⟩
  · exact build_eq_ok_of_toOption (by decide +kernel)
  · decide +kernel

end SlideDeck.ConfigBuilder
