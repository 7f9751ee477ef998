import SlideDeck.Config
import Mathlib.Data.List.Forall2

/-!
# What a configuration is built from

Settings are collected as they are and checked at the end: the title, then the patterns for lines to
drop, then those for lines to comment out, each list in order.  Here is what each check lets pass,
what it makes of it, and with which error it refuses the rest.

* `ConfigBuilder.checkTitle_eq_ok_iff` and `checkTitle_eq_error_iff` — the title.
* `ConfigBuilder.compileAll_eq_ok_iff` and `compileAll_eq_error_iff` — a list of patterns.
* `ConfigBuilder.build_eq_ok_iff` and `build_eq_error_iff` — all of the settings.
-/

set_option autoImplicit false

namespace SlideDeck.ConfigBuilder

/-! ## The title -/

/-- A title that can be written on a line of its own. -/
def IsTitle (t : Text) : Prop := Text.isBlank t = false ∧ '\n' ∉ t

instance (t : Text) : Decidable (IsTitle t) := inferInstanceAs (Decidable (_ ∧ _))

/-- How a title is refused.  One that is blank is refused as that, newlines or not. -/
inductive RefusedTitle (t : Text) : ConversionError → Prop
  | blank (h : Text.isBlank t = true) :
    RefusedTitle t (.invalidConfig "title override must not be empty".toList)
  | severalLines (h : Text.isBlank t = false) (hline : '\n' ∈ t) :
    RefusedTitle t
      (.invalidConfig ("title override must be a single line, got ".toList ++ Text.quoted t))

theorem any_newline_iff (t : Text) : t.any (· == '\n') = true ↔ '\n' ∈ t := by
  simp

variable {t : Text} {e : ConversionError}

theorem checkTitle_of_isTitle (h : IsTitle t) : checkTitle (some t) = .ok (some (Text.trim t)) := by
  rw [checkTitle, if_neg (Bool.eq_false_iff.1 h.1), if_neg (mt (any_newline_iff t).1 h.2)]

theorem checkTitle_of_refusedTitle (h : RefusedTitle t e) : checkTitle (some t) = .error e := by
  cases h with
  | blank hblank => rw [checkTitle, if_pos hblank]
  | severalLines hblank hline =>
    rw [checkTitle, if_neg (Bool.eq_false_iff.1 hblank), if_pos ((any_newline_iff t).2 hline)]

theorem isTitle_or_refusedTitle (t : Text) : IsTitle t ∨ ∃ e, RefusedTitle t e := by
  cases hblank : Text.isBlank t with
  | true => exact .inr ⟨_, .blank hblank⟩
  | false =>
    by_cases hline : '\n' ∈ t
    · exact .inr ⟨_, .severalLines hblank hline⟩
    · exact .inl ⟨hblank, hline⟩

theorem RefusedTitle.not_isTitle (h : RefusedTitle t e) : ¬ IsTitle t := by
  intro ht
  have hcheck := checkTitle_of_isTitle ht
  rw [checkTitle_of_refusedTitle h] at hcheck
  cases hcheck

theorem checkTitle_eq_ok_iff {given checked : Option Text} :
    checkTitle given = .ok checked ↔ (∀ t ∈ given, IsTitle t) ∧ checked = given.map Text.trim := by
  cases given with
  | none => simp [checkTitle, eq_comm]
  | some t =>
    simp only [Option.mem_some_iff, forall_eq', Option.map_some]
    rcases isTitle_or_refusedTitle t with ht | ⟨e, he⟩
    · rw [checkTitle_of_isTitle ht, and_iff_right ht, Except.ok.injEq, eq_comm]
    · rw [checkTitle_of_refusedTitle he]
      exact iff_of_false (by simp) fun h => he.not_isTitle h.1

theorem checkTitle_eq_error_iff {given : Option Text} :
    checkTitle given = .error e ↔ ∃ t ∈ given, RefusedTitle t e := by
  cases given with
  | none => simp [checkTitle]
  | some t =>
    simp only [Option.mem_some_iff, exists_eq_left']
    constructor
    · intro h
      rcases isTitle_or_refusedTitle t with ht | ⟨e', he⟩
      · rw [checkTitle_of_isTitle ht] at h
        cases h
      · rw [checkTitle_of_refusedTitle he] at h
        rwa [← Except.error.inj h]
    · exact checkTitle_of_refusedTitle

/-! ## A list of patterns -/

variable {wrap : Text → Text} {source : Text} {rest sources : List Text}

/-- The patterns that sources compile to, one for each and in order. -/
def Compiled (wrap : Text → Text) : List Text → List Pattern → Prop :=
  List.Forall₂ fun s p => Pattern.compile (wrap s) = .ok p

/-- Whether a source compiles. -/
def Compiles (wrap : Text → Text) (source : Text) : Prop :=
  ∃ p, Pattern.compile (wrap source) = .ok p

/-- How a list of sources is refused: with the first one that does not compile, as it was given. -/
def RefusedSources (wrap : Text → Text) (sources : List Text) (e : ConversionError) : Prop :=
  ∃ before source after cause, sources = before ++ source :: after
    ∧ (∀ s ∈ before, Compiles wrap s)
    ∧ Pattern.compile (wrap source) = .error cause ∧ e = .invalidPattern source cause

theorem refusedSources_cons_of_error {cause : PatternError}
    (h : Pattern.compile (wrap source) = .error cause) :
    RefusedSources wrap (source :: rest) e ↔ e = .invalidPattern source cause := by
  constructor
  · rintro ⟨before, s, after, cause', heq, hbefore, hs, rfl⟩
    cases before with
    | nil =>
      obtain ⟨rfl, rfl⟩ := List.cons.inj heq
      rw [h] at hs
      rw [Except.error.inj hs]
    | cons b before =>
      obtain ⟨rfl, -⟩ := List.cons.inj heq
      obtain ⟨p, hp⟩ := hbefore source (List.mem_cons_self ..)
      rw [h] at hp
      cases hp
  · rintro rfl
    exact ⟨[], source, rest, cause, rfl, List.forall_mem_nil _, h, rfl⟩

theorem refusedSources_cons_of_ok {p : Pattern} (h : Pattern.compile (wrap source) = .ok p) :
    RefusedSources wrap (source :: rest) e ↔ RefusedSources wrap rest e := by
  constructor
  · rintro ⟨before, s, after, cause, heq, hbefore, hs, rfl⟩
    cases before with
    | nil =>
      obtain ⟨rfl, rfl⟩ := List.cons.inj heq
      rw [h] at hs
      cases hs
    | cons b before =>
      obtain ⟨rfl, rfl⟩ := List.cons.inj heq
      exact ⟨before, s, after, cause, rfl, (List.forall_mem_cons.1 hbefore).2, hs, rfl⟩
  · rintro ⟨before, s, after, cause, rfl, hbefore, hs, rfl⟩
    exact ⟨source :: before, s, after, cause, rfl, List.forall_mem_cons.2 ⟨⟨p, h⟩, hbefore⟩, hs,
      rfl⟩

theorem compileAll_cons_of_error {cause : PatternError}
    (h : Pattern.compile (wrap source) = .error cause) :
    compileAll wrap (source :: rest) = .error (.invalidPattern source cause) := by
  rw [compileAll, h]

theorem compileAll_cons_of_ok {p : Pattern} (h : Pattern.compile (wrap source) = .ok p) :
    compileAll wrap (source :: rest) = (compileAll wrap rest).map (p :: ·) := by
  rw [compileAll, h]

theorem compileAll_eq_ok_iff {ps : List Pattern} :
    compileAll wrap sources = .ok ps ↔ Compiled wrap sources ps := by
  induction sources generalizing ps with
  | nil => rw [compileAll, Compiled, List.forall₂_nil_left_iff, Except.ok.injEq, eq_comm]
  | cons s rest ih =>
    rw [Compiled, List.forall₂_cons_left_iff, ← Compiled]
    cases hs : Pattern.compile (wrap s) with
    | error cause =>
      rw [compileAll_cons_of_error hs]
      exact iff_of_false nofun fun ⟨p, _, hp, _⟩ => nomatch hp
    | ok p =>
      rw [compileAll_cons_of_ok hs]
      cases hrest : compileAll wrap rest with
      | error e =>
        refine iff_of_false nofun fun ⟨_, qs, _, hqs, _⟩ => ?_
        rw [← ih, hrest] at hqs
        cases hqs
      | ok qs =>
        constructor
        · rintro ⟨⟩
          exact ⟨p, qs, rfl, ih.1 hrest, rfl⟩
        · rintro ⟨p', qs', hp, hqs, rfl⟩
          rw [← ih, hrest] at hqs
          rw [Except.ok.inj hp, ← Except.ok.inj hqs]
          rfl

theorem compileAll_eq_error_iff :
    compileAll wrap sources = .error e ↔ RefusedSources wrap sources e := by
  induction sources with
  | nil =>
    refine iff_of_false nofun ?_
    rintro ⟨before, s, after, cause, heq, -⟩
    exact absurd heq (by simp)
  | cons s rest ih =>
    cases hs : Pattern.compile (wrap s) with
    | error cause =>
      rw [compileAll_cons_of_error hs, refusedSources_cons_of_error hs, Except.error.injEq, eq_comm]
    | ok p =>
      rw [compileAll_cons_of_ok hs, refusedSources_cons_of_ok hs, ← ih]
      cases compileAll wrap rest with
      | error e' => exact Iff.rfl
      | ok qs => exact iff_of_false nofun nofun

/-- A list of sources passes exactly if each of them compiles. -/
theorem exists_compileAll_eq_ok_iff :
    (∃ ps, compileAll wrap sources = .ok ps) ↔ ∀ s ∈ sources, Compiles wrap s := by
  simp only [compileAll_eq_ok_iff, Compiled]
  induction sources with
  | nil => exact iff_of_true ⟨[], .nil⟩ (List.forall_mem_nil _)
  | cons s rest ih =>
    rw [List.forall_mem_cons, ← ih]
    constructor
    · rintro ⟨_, hps⟩
      obtain ⟨p, ps, hp, hps, -⟩ := List.forall₂_cons_left_iff.1 hps
      exact ⟨⟨p, hp⟩, ps, hps⟩
    · rintro ⟨⟨p, hp⟩, ps, hps⟩
      exact ⟨p :: ps, .cons hp hps⟩

/-! ## All of the settings -/

variable {b : ConfigBuilder}

theorem build_eq_ok_iff {config : Config} :
    b.build = .ok config ↔
      checkTitle b.title = .ok config.title
        ∧ (∃ ps, compileAll Pattern.anchored b.removeSources = .ok ps
          ∧ config.removePatterns = (if b.useDefaults then [Config.defaultRemove] else []) ++ ps)
        ∧ ∃ ps, compileAll id b.commentSources = .ok ps
          ∧ config.commentPatterns
            = (if b.useDefaults then [Config.defaultComment] else []) ++ ps := by
  simp only [build, bind_eq_ok_iff]
  constructor
  · rintro ⟨title, htitle, removes, hremoves, comments, hcomments, h⟩
    cases h
    exact ⟨htitle, ⟨removes, hremoves, rfl⟩, comments, hcomments, rfl⟩
  · obtain ⟨title, removePatterns, commentPatterns⟩ := config
    rintro ⟨htitle, ⟨removes, hremoves, rfl⟩, comments, hcomments, rfl⟩
    exact ⟨title, htitle, removes, hremoves, comments, hcomments, rfl⟩

/-- The title of a configuration is a given one that has been checked, trimmed. -/
theorem exists_title_of_build {config : Config} (h : b.build = .ok config) {t : Text}
    (ht : t ∈ config.title) : ∃ s ∈ b.title, IsTitle s ∧ t = Text.trim s := by
  obtain ⟨hline, htitle⟩ := checkTitle_eq_ok_iff.1 (build_eq_ok_iff.1 h).1
  rw [htitle] at ht
  obtain ⟨s, hs, rfl⟩ := Option.map_eq_some_iff.1 ht
  exact ⟨s, hs, hline s hs, rfl⟩

/-- The first check that fails tells the error. -/
theorem build_eq_error_iff :
    b.build = .error e ↔
      checkTitle b.title = .error e
        ∨ ((∃ title, checkTitle b.title = .ok title)
          ∧ compileAll Pattern.anchored b.removeSources = .error e)
        ∨ ((∃ title, checkTitle b.title = .ok title)
          ∧ (∃ ps, compileAll Pattern.anchored b.removeSources = .ok ps)
          ∧ compileAll id b.commentSources = .error e) := by
  simp only [build, bind_eq_error_iff, reduceCtorEq, and_false, exists_false, or_false]
  constructor
  · rintro (h | ⟨title, htitle, h | ⟨removes, hremoves, h⟩⟩)
    · exact .inl h
    · exact .inr (.inl ⟨⟨title, htitle⟩, h⟩)
    · exact .inr (.inr ⟨⟨title, htitle⟩, ⟨removes, hremoves⟩, h⟩)
  · rintro (h | ⟨⟨title, htitle⟩, h⟩ | ⟨⟨title, htitle⟩, ⟨removes, hremoves⟩, h⟩)
    · exact .inl h
    · exact .inr ⟨title, htitle, .inl h⟩
    · exact .inr ⟨title, htitle, .inr ⟨removes, hremoves, h⟩⟩

end SlideDeck.ConfigBuilder
