import SlideDeck.Proofs.Document.Rewriting
import SlideDeck.Proofs.Slide.Sources

/-!
# Setup code, line by line

Setup code is read in blocks.  The same lines are removed by a scan that looks at one line at a
time and remembers nothing but whether it is inside of a call.

* `SetupCode.Mode.step` — the scan at one line; `SetupCode.scan` — the scan of a document.
* `SetupCode.scan_skip` — inside of a call, everything up to the closing parenthesis is passed.
* `SetupCode.remove_eq_scan` — the scan removes what is read in blocks.
* `SetupCode.IsSetup` — a line that is setup code or begins it; `not_isSetup_of_mem_remove` says
  that none is left, `remove_eq_self` that without one nothing is removed.
-/

set_option autoImplicit false

namespace SlideDeck.SetupCode

/-! ## The scan -/

/-- Whether the scan is outside of all calls or inside of one. -/
inductive Mode where
  | keep
  | skip
  deriving DecidableEq, Repr

/-- What is kept of a line, and the mode behind it.  The crop hook counts outside of calls alone,
and there it counts before a call that starts on the same line. -/
def Mode.step : Mode → Line → Document × Mode
  | keep, l =>
    if setsCropHook l then ([], keep) else if startsOptionsCall l then ([], skip) else ([l], keep)
  | skip, l => ([], if isCloseParen l then keep else skip)

/-- The lines that are kept of a document, scanned from a mode on. -/
def scan : Mode → Document → Document
  | _, [] => []
  | mode, l :: d => (mode.step l).1 ++ scan (mode.step l).2 d

theorem scan_keep_hook {l : Line} (h : setsCropHook l = true) (d : Document) :
    scan .keep (l :: d) = scan .keep d := by
  rw [scan, Mode.step, if_pos h, List.nil_append]

theorem scan_keep_call {l : Line} (hhook : setsCropHook l = false)
    (h : startsOptionsCall l = true) (d : Document) :
    scan .keep (l :: d) = scan .skip d := by
  rw [scan, Mode.step, if_neg (Bool.eq_false_iff.1 hhook), if_pos h, List.nil_append]

theorem scan_keep_other {l : Line} (hhook : setsCropHook l = false)
    (hcall : startsOptionsCall l = false) (d : Document) :
    scan .keep (l :: d) = l :: scan .keep d := by
  rw [scan, Mode.step, if_neg (Bool.eq_false_iff.1 hhook), if_neg (Bool.eq_false_iff.1 hcall),
    List.singleton_append]

/-- Inside of a call nothing is kept up to the line that closes it. -/
theorem scan_skip (d : Document) : scan .skip d = scan .keep (Body.read isCloseParen d).rest := by
  induction d with
  | nil => rfl
  | cons l d ih =>
    rw [scan, Mode.step, Body.read_cons, List.nil_append]
    cases isCloseParen l with
    | true => rfl
    | false => exact ih

/-! ## Blocks and lines -/

/-- What is read at the start of a document is the crop hook, or a call with what closes it. -/
theorem read_cons_eq_some {l : Line} {d r : Document} {b : SetupCode}
    (h : read (l :: d) = some (b, r)) :
    (setsCropHook l = true ∧ r = d)
      ∨ (setsCropHook l = false ∧ startsOptionsCall l = true
        ∧ r = (Body.read isCloseParen d).rest) := by
  simp only [read] at h
  split at h
  · next hhook =>
    obtain ⟨-, rfl⟩ := Prod.mk.inj (Option.some.inj h)
    exact Or.inl ⟨hhook, rfl⟩
  · next hhook =>
    split at h
    · next hcall =>
      obtain ⟨-, rfl⟩ := Prod.mk.inj (Option.some.inj h)
      exact Or.inr ⟨Bool.eq_false_iff.2 hhook, hcall, rfl⟩
    · simp at h

/-- Nothing is read exactly where the line is not setup code. -/
theorem read_cons_eq_none_iff (l : Line) (d : Document) :
    read (l :: d) = none ↔ setsCropHook l = false ∧ startsOptionsCall l = false := by
  refine ⟨fun h => ?_, fun h => read_of_not_setup h.2 h.1 d⟩
  simp only [read] at h
  split at h
  · simp at h
  · next hhook =>
    split at h
    · simp at h
    · next hcall => exact ⟨Bool.eq_false_iff.2 hhook, Bool.eq_false_iff.2 hcall⟩

/-- **Removing setup code is a scan with two modes.** -/
theorem remove_eq_scan (d : Document) : remove d = scan .keep d := by
  rw [remove]
  induction d using recogniser.scan_induction with
  | nil => rw [Recogniser.rewrite_nil, scan]
  | plain l d hread ih =>
    obtain ⟨hhook, hcall⟩ := (read_cons_eq_none_iff l d).1 hread
    rw [recogniser.rewrite_cons_of_none _ hread, scan_keep_other hhook hcall, ih]
  | block front b r hread ih =>
    rw [recogniser.rewrite_of_some _ hread, ih, List.nil_append]
    obtain ⟨l, t, hl⟩ := recogniser.read_front hread
    rw [hl, List.cons_append] at hread ⊢
    rcases read_cons_eq_some hread with ⟨hhook, hr⟩ | ⟨hhook, hcall, hr⟩
    · rw [scan_keep_hook hhook, ← hr]
    · rw [scan_keep_call hhook hcall, scan_skip, ← hr]

/-! ## Lines that are left -/

/-- A line that is setup code, or begins it. -/
def IsSetup (l : Line) : Prop := setsCropHook l = true ∨ startsOptionsCall l = true

theorem not_isSetup_iff (l : Line) :
    ¬ IsSetup l ↔ setsCropHook l = false ∧ startsOptionsCall l = false := by
  rw [IsSetup, not_or, Bool.not_eq_true, Bool.not_eq_true]

/-- No setup code is left where it has been removed. -/
theorem not_isSetup_of_mem_remove {d : Document} : ∀ l ∈ remove d, ¬ IsSetup l := by
  rw [remove]
  induction d using recogniser.scan_induction with
  | nil =>
    rw [Recogniser.rewrite_nil]
    exact List.forall_mem_nil _
  | plain l d hread ih =>
    rw [recogniser.rewrite_cons_of_none _ hread]
    exact List.forall_mem_cons.2
      ⟨(not_isSetup_iff l).2 ((read_cons_eq_none_iff l d).1 hread), ih⟩
  | block front b r hread ih =>
    rw [recogniser.rewrite_of_some _ hread]
    exact ih

theorem remove_eq_self {d : Document} (h : ∀ l ∈ d, ¬ IsSetup l) : remove d = d :=
  recogniser.rewrite_eq_self _ fun l hl t =>
    (read_cons_eq_none_iff l t).2 ((not_isSetup_iff l).1 (h l hl))

/-- Removing setup code a second time removes nothing. -/
theorem remove_remove (d : Document) : remove (remove d) = remove d :=
  remove_eq_self not_isSetup_of_mem_remove

end SlideDeck.SetupCode
