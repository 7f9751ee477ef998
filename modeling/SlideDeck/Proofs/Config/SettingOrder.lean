import SlideDeck.Proofs.Config.Build

/-!
# The order of settings

A setting adds to what has been collected of its own kind and leaves the rest alone, and nothing is
checked before all settings are there.  So what is built depends on the settings of each kind, taken
by themselves: on the last title, on the patterns of either list in order, and on whether the
built-in patterns are cleared at all.  The order among the kinds shows neither in a configuration
nor in an error, a title that is replaced later is never checked, and clearing takes away no pattern
that was given, not even one that is built in as well.

* `ConfigBuilder.add_eq` — one setting, and `ConfigBuilder.ofSettings_eq` — all of them.
* `Setting.Alike` — the same settings of each kind; `ConfigBuilder.ofSettings_eq_iff` says that
  these and no others collect alike.
* `ConfigBuilder.build_swap` — two neighbours of different kinds change places.
* `ConfigBuilder.build_by_kind` — what is built, and how settings are refused, kind by kind.
-/

set_option autoImplicit false

namespace SlideDeck

namespace Setting

/-! ## Settings of one kind -/

def title? : Setting → Option Text
  | title t => some t
  | _ => none

def removeSource? : Setting → Option Text
  | removePattern s => some s
  | _ => none

def commentSource? : Setting → Option Text
  | commentPattern s => some s
  | _ => none

/-- The title that counts. -/
def lastTitle (settings : List Setting) : Option Text := (settings.filterMap title?).getLast?

/-- The sources of the given patterns for lines to drop, in order. -/
def removeSources (settings : List Setting) : List Text := settings.filterMap removeSource?

/-- The sources of the given patterns for lines to comment out, in order. -/
def commentSources (settings : List Setting) : List Text := settings.filterMap commentSource?

/-- Whether two sequences hold the same settings of each kind, as far as they count. -/
structure Alike (xs ys : List Setting) : Prop where
  lastTitle : lastTitle xs = lastTitle ys
  removeSources : removeSources xs = removeSources ys
  commentSources : commentSources xs = commentSources ys
  clears : clearDefaultPatterns ∈ xs ↔ clearDefaultPatterns ∈ ys

/-- Whether two settings are of the same kind. -/
def SameKind : Setting → Setting → Prop
  | title _, title _ | removePattern _, removePattern _ | commentPattern _, commentPattern _
  | clearDefaultPatterns, clearDefaultPatterns => True
  | _, _ => False

theorem lastTitle_cons (s : Setting) (settings : List Setting) :
    lastTitle (s :: settings) = (lastTitle settings).or s.title? := by
  rw [lastTitle, lastTitle]
  cases hs : s.title? with
  | none => rw [List.filterMap_cons_none hs, Option.or_none]
  | some t =>
    rw [List.filterMap_cons_some hs, List.getLast?_cons]
    cases (settings.filterMap title?).getLast? <;> rfl

theorem removeSources_cons (s : Setting) (settings : List Setting) :
    removeSources (s :: settings) = s.removeSource?.toList ++ removeSources settings := by
  cases s <;> rfl

theorem commentSources_cons (s : Setting) (settings : List Setting) :
    commentSources (s :: settings) = s.commentSource?.toList ++ commentSources settings := by
  cases s <;> rfl

theorem filterMap_swap {f : Setting → Option Text} {s t : Setting} (h : f s = none ∨ f t = none)
    (xs ys : List Setting) :
    (xs ++ s :: t :: ys).filterMap f = (xs ++ t :: s :: ys).filterMap f := by
  rw [List.filterMap_append, List.filterMap_append]
  rcases h with h | h <;> simp only [List.filterMap_cons, h]

/-- Two neighbours of different kinds are found in either order. -/
theorem alike_swap {s t : Setting} (h : ¬ SameKind s t) (xs ys : List Setting) :
    Alike (xs ++ s :: t :: ys) (xs ++ t :: s :: ys) where
  lastTitle := by
    have hone : s.title? = none ∨ t.title? = none := by
      cases s <;> cases t <;> simp_all [SameKind, title?]
    rw [lastTitle, filterMap_swap hone, lastTitle]
  removeSources := by
    have hone : s.removeSource? = none ∨ t.removeSource? = none := by
      cases s <;> cases t <;> simp_all [SameKind, removeSource?]
    exact filterMap_swap hone xs ys
  commentSources := by
    have hone : s.commentSource? = none ∨ t.commentSource? = none := by
      cases s <;> cases t <;> simp_all [SameKind, commentSource?]
    exact filterMap_swap hone xs ys
  clears := ((List.Perm.swap t s ys).append_left xs).mem_iff

end Setting

namespace ConfigBuilder

open Setting

/-! ## Collecting settings -/

/-- What one setting does to what has been collected. -/
theorem add_eq (b : ConfigBuilder) (s : Setting) :
    b.add s =
      ⟨s.title?.or b.title, b.removeSources ++ s.removeSource?.toList,
        b.commentSources ++ s.commentSource?.toList,
        b.useDefaults && decide (s ≠ .clearDefaultPatterns)⟩ := by
  cases s <;> simp [add, title?, removeSource?, commentSource?]

/-- What settings do to what has been collected before. -/
theorem foldl_add_eq (b : ConfigBuilder) (settings : List Setting) :
    settings.foldl add b =
      ⟨(lastTitle settings).or b.title, b.removeSources ++ Setting.removeSources settings,
        b.commentSources ++ Setting.commentSources settings,
        b.useDefaults && decide (.clearDefaultPatterns ∉ settings)⟩ := by
  induction settings generalizing b with
  | nil => simp [lastTitle, Setting.removeSources, Setting.commentSources]
  | cons s settings ih =>
    rw [List.foldl_cons, ih, add_eq, lastTitle_cons, removeSources_cons, commentSources_cons]
    simp only [Option.or_assoc, List.append_assoc, Bool.and_assoc, List.mem_cons, not_or, ne_eq,
      Bool.decide_and, eq_comm]

/-- **Settings are collected by kind.** -/
theorem ofSettings_eq (settings : List Setting) :
    ofSettings settings =
      ⟨lastTitle settings, Setting.removeSources settings, Setting.commentSources settings,
        decide (.clearDefaultPatterns ∉ settings)⟩ := by
  rw [ofSettings, foldl_add_eq, empty, Option.or_none, List.nil_append, List.nil_append,
    Bool.true_and]

theorem ofSettings_eq_iff {xs ys : List Setting} : ofSettings xs = ofSettings ys ↔ Alike xs ys := by
  rw [ofSettings_eq, ofSettings_eq, ConfigBuilder.mk.injEq, decide_eq_decide, not_iff_not]
  exact ⟨fun ⟨htitle, hremove, hcomment, hclear⟩ => ⟨htitle, hremove, hcomment, hclear⟩,
    fun h => ⟨h.lastTitle, h.removeSources, h.commentSources, h.clears⟩⟩

/-- **Neighbours of different kinds change places.** -/
theorem build_swap {s t : Setting} (h : ¬ SameKind s t) (xs ys : List Setting) :
    (ofSettings (xs ++ s :: t :: ys)).build = (ofSettings (xs ++ t :: s :: ys)).build :=
  congrArg build (ofSettings_eq_iff.2 (alike_swap h xs ys))

/-! ## What is built -/

/-- The configuration that settings make: the last title without the white space at its ends, and
in each list the built-in pattern, unless these are cleared anywhere, and then the given ones. -/
structure Accepted (settings : List Setting) (config : Config) : Prop where
  isTitle : ∀ t ∈ lastTitle settings, IsTitle t
  title : config.title = (lastTitle settings).map Text.trim
  removes : ∃ ps, Compiled Pattern.anchored (Setting.removeSources settings) ps
    ∧ config.removePatterns
      = (if .clearDefaultPatterns ∈ settings then [] else [Config.defaultRemove]) ++ ps
  comments : ∃ ps, Compiled id (Setting.commentSources settings) ps
    ∧ config.commentPatterns
      = (if .clearDefaultPatterns ∈ settings then [] else [Config.defaultComment]) ++ ps

/-- The error with which settings are refused: that of the last title, or else of the first pattern
for lines to drop that does not compile, or else of the first such pattern for lines to comment
out. -/
inductive Refused (settings : List Setting) (e : ConversionError) : Prop
  | title {t : Text} (ht : t ∈ lastTitle settings) (h : RefusedTitle t e)
  | remove (htitle : ∀ t ∈ lastTitle settings, IsTitle t)
    (h : RefusedSources Pattern.anchored (Setting.removeSources settings) e)
  | comment (htitle : ∀ t ∈ lastTitle settings, IsTitle t)
    (hremove : ∀ s ∈ Setting.removeSources settings, Compiles Pattern.anchored s)
    (h : RefusedSources id (Setting.commentSources settings) e)

theorem build_eq_ok_iff_accepted (settings : List Setting) (config : Config) :
    (ofSettings settings).build = .ok config ↔ Accepted settings config := by
  have hdefaults : ∀ p : Pattern,
      (if decide (Setting.clearDefaultPatterns ∉ settings) = true then [p] else [])
        = if .clearDefaultPatterns ∈ settings then [] else [p] := by
    intro p
    by_cases h : Setting.clearDefaultPatterns ∈ settings <;> simp [h]
  rw [build_eq_ok_iff, ofSettings_eq, checkTitle_eq_ok_iff]
  simp only [compileAll_eq_ok_iff, hdefaults]
  exact ⟨fun ⟨⟨hline, htitle⟩, hremoves, hcomments⟩ => ⟨hline, htitle, hremoves, hcomments⟩,
    fun h => ⟨⟨h.isTitle, h.title⟩, h.removes, h.comments⟩⟩

theorem build_eq_error_iff_refused (settings : List Setting) (e : ConversionError) :
    (ofSettings settings).build = .error e ↔ Refused settings e := by
  have htitle : (∃ title, checkTitle (lastTitle settings) = .ok title)
      ↔ ∀ t ∈ lastTitle settings, IsTitle t := by
    simp only [checkTitle_eq_ok_iff, exists_and_left, exists_eq, and_true]
  rw [build_eq_error_iff, ofSettings_eq]
  simp only [htitle, checkTitle_eq_error_iff, compileAll_eq_error_iff,
    exists_compileAll_eq_ok_iff]
  constructor
  · rintro (⟨t, ht, h⟩ | ⟨hline, h⟩ | ⟨hline, hremove, h⟩)
    · exact .title ht h
    · exact .remove hline h
    · exact .comment hline hremove h
  · rintro (⟨ht, h⟩ | ⟨hline, h⟩ | ⟨hline, hremove, h⟩)
    · exact .inl ⟨_, ht, h⟩
    · exact .inr (.inl ⟨hline, h⟩)
    · exact .inr (.inr ⟨hline, hremove, h⟩)

/-- **Settings of different kinds do not mix.**  Two sequences with the same settings of each kind
build the same.  If that is a configuration, it has the last title, trimmed, and in each list the
built-in patterns, unless they are cleared anywhere, before the given ones.  If it is an error, then
that of the title, or else of the first pattern for lines to drop that does not compile, or else of
the first pattern for lines to comment out, with the source as it was given. -/
theorem build_by_kind {xs ys : List Setting} (h : Alike xs ys) :
    (ofSettings xs).build = (ofSettings ys).build
      ∧ (∀ config, (ofSettings xs).build = .ok config ↔ Accepted xs config)
      ∧ ∀ e, (ofSettings xs).build = .error e ↔ Refused xs e :=
  ⟨congrArg build (ofSettings_eq_iff.2 h), build_eq_ok_iff_accepted xs,
    build_eq_error_iff_refused xs⟩

/-- A blank title that is replaced and a pattern that is cleared as a built-in one and given as well;
and patterns that do not compile, the one for lines to drop given last. -/
theorem build_by_kind_reordered :
    (Alike
        [.title " ".toList, .removePattern "xaringanExtra::".toList, .title " Deck ".toList,
          .clearDefaultPatterns]
        [.clearDefaultPatterns, .title " Deck ".toList, .removePattern "xaringanExtra::".toList]
      ∧ (ofSettings [.clearDefaultPatterns, .title " Deck ".toList,
          .removePattern "xaringanExtra::".toList]).build
        = .ok ⟨some "Deck".toList, [Config.defaultRemove], []⟩)
      ∧ Alike [.removePattern "(oops".toList, .commentPattern "(".toList]
        [.commentPattern "(".toList, .removePattern "(oops".toList]
      ∧ (ofSettings [.commentPattern "(".toList, .removePattern "(oops".toList]).build
        = .error (.invalidPattern "(oops".toList .groupUnclosed) := by
  have hdeck : Alike
      [.title " ".toList, .removePattern "xaringanExtra::".toList, .title " Deck ".toList,
        .clearDefaultPatterns]
      [.clearDefaultPatterns, .title " Deck ".toList, .removePattern "xaringanExtra::".toList] :=
    ⟨rfl, rfl, rfl, by decide⟩
  have hoops : Alike [.removePattern "(oops".toList, .commentPattern "(".toList]
      [.commentPattern "(".toList, .removePattern "(oops".toList] := ⟨rfl, rfl, rfl, by decide⟩
  refine ⟨⟨hdeck, ?_⟩, hoops, ?_⟩
  · obtain ⟨hsame, hok, -⟩ := build_by_kind hdeck
    rw [← hsame, hok]
    exact
      { isTitle := by decide
        title := rfl
        removes := ⟨[Config.defaultRemove], .cons Config.compile_defaultRemove .nil, rfl⟩
        comments := ⟨[], .nil, rfl⟩ }
  · obtain ⟨hsame, -, herror⟩ := build_by_kind hoops
    rw [← hsame, herror]
    exact .remove (by decide) ⟨[], _, [], _, rfl, List.forall_mem_nil _, rfl, rfl⟩

end ConfigBuilder
end SlideDeck
