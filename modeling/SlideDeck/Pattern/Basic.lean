import SlideDeck.Pattern.Automaton
import SlideDeck.Pattern.Meaning
import SlideDeck.Pattern.Parse

/-!
# Patterns

* `Pattern` is a compiled pattern together with its source.
* `Pattern.compile` compiles a source, `Pattern.isMatch` asks whether a line matches anywhere.
* `Pattern.anchored` is the source of a pattern that is to match at the start of a line only.
-/

set_option autoImplicit false

namespace SlideDeck

/-- A compiled pattern. -/
structure Pattern where
  source : Text
  regex : Regex
  deriving DecidableEq, Repr

namespace Pattern

/-- The expression that a source means. -/
def regexOf (source : Text) : Except PatternError Regex := do
  let ast ← parse source
  let (regex, _) ← ast.meaning .start
  if Automaton.fits (NormalForm.ofRegex regex) then .ok regex else .error .tooLarge

/-- Compiles a source. -/
def compile (source : Text) : Except PatternError Pattern := do
  return ⟨source, ← regexOf source⟩

/-- The source of a pattern tied to the start of a line, made by writing it into a group. -/
def anchored (source : Text) : Text := "^(?:".toList ++ source ++ ")".toList

/-- Whether a line matches a pattern anywhere. -/
def isMatch (p : Pattern) (l : Text) : Bool := p.regex.isMatch l

/-- Whether a line matches one of several patterns. -/
def anyMatch (ps : List Pattern) (l : Text) : Bool := ps.any (·.isMatch l)

theorem compile_eq_ok_of_toOption {source : Text} {p : Pattern}
    (h : (compile source).toOption = some p) : compile source = .ok p := by
  cases hc : compile source with
  | error e => rw [hc] at h; exact absurd h (by simp [Except.toOption])
  | ok q => rw [hc] at h; exact congrArg Except.ok (Option.some.inj h)

end Pattern
end SlideDeck
