import SlideDeck.Error
import SlideDeck.Pattern.Basic

/-!
# The configuration of a conversion

* `Config` holds what the stages need: the title and the two lists of patterns.
* `ConfigBuilder` collects settings as they are given; `ConfigBuilder.build` checks them, the
  title first, then the patterns in order.
* `compile_defaultRemove` and `compile_defaultComment` say that the built-in patterns are what
  their sources compile to.
-/

set_option autoImplicit false

namespace SlideDeck

/-- What a conversion is parameterised over. -/
structure Config where
  /-- A title that replaces the one of the metadata block. -/
  title : Option Text
  /-- Lines that match one of these are dropped. -/
  removePatterns : List Pattern
  /-- Lines that match one of these are commented out. -/
  commentPatterns : List Pattern
  deriving DecidableEq, Repr

/-! ## Built-in patterns -/

namespace Config

/-- The expression for a fixed text. -/
def literalRegex : Text → Regex
  | [] => .empty
  | [c] => .chars (CharSet.single c)
  | c :: r => .seq (.chars (CharSet.single c)) (literalRegex r)

/-- The source of the built-in pattern for lines to drop. -/
def defaultRemoveSource : Text := "xaringanExtra::".toList

/-- The source of the built-in pattern for lines to comment out. -/
def defaultCommentSource : Text := "testthat::test_dir\\(\"tests\"\\)".toList

/-- The built-in pattern for lines to drop. -/
def defaultRemove : Pattern :=
  ⟨Pattern.anchored defaultRemoveSource,
    .seq (.anchor .textStart) (.group false (literalRegex "xaringanExtra::".toList))⟩

/-- The built-in pattern for lines to comment out. -/
def defaultComment : Pattern :=
  ⟨defaultCommentSource, literalRegex "testthat::test_dir(\"tests\")".toList⟩

theorem compile_defaultRemove :
    Pattern.compile (Pattern.anchored defaultRemoveSource) = .ok defaultRemove :=
  Pattern.compile_eq_ok_of_toOption (by decide +kernel)

theorem compile_defaultComment : Pattern.compile defaultCommentSource = .ok defaultComment :=
  Pattern.compile_eq_ok_of_toOption (by decide +kernel)

/-- The configuration without any settings. -/
def default : Config := ⟨none, [defaultRemove], [defaultComment]⟩

end Config

/-! ## Settings -/

/-- A single setting. -/
inductive Setting where
  | title (t : Text)
  | removePattern (source : Text)
  | commentPattern (source : Text)
  | clearDefaultPatterns
  deriving DecidableEq, Repr

/-- Settings that have been collected and not been checked. -/
structure ConfigBuilder where
  title : Option Text
  /-- The sources of patterns for lines to drop. -/
  removeSources : List Text
  /-- The sources of patterns for lines to comment out. -/
  commentSources : List Text
  /-- Whether the built-in patterns apply. -/
  useDefaults : Bool
  deriving DecidableEq, Repr

namespace ConfigBuilder

/-- No settings. -/
def empty : ConfigBuilder := ⟨none, [], [], true⟩

/-- The settings with one more.  The last title counts, patterns add up, and clearing removes the
built-in patterns alone. -/
def add (b : ConfigBuilder) : Setting → ConfigBuilder
  | .title t => { b with title := some t }
  | .removePattern s => { b with removeSources := b.removeSources ++ [s] }
  | .commentPattern s => { b with commentSources := b.commentSources ++ [s] }
  | .clearDefaultPatterns => { b with useDefaults := false }

/-- Settings one after the other. -/
def ofSettings (settings : List Setting) : ConfigBuilder := settings.foldl add empty

/-- The title that a setting stands for: trimmed, on one line and not empty. -/
def checkTitle : Option Text → Except ConversionError (Option Text)
  | none => .ok none
  | some t =>
    if Text.isBlank t then
      .error (.invalidConfig "title override must not be empty".toList)
    else if t.any (· == '\n') then
      .error (.invalidConfig
        ("title override must be a single line, got ".toList ++ Text.quoted t))
    else .ok (some (Text.trim t))

/-- The patterns that sources compile to; `wrap` is applied to each source before.  The first
source that does not compile is reported as it was given. -/
def compileAll (wrap : Text → Text) : List Text → Except ConversionError (List Pattern)
  | [] => .ok []
  | s :: rest =>
    match Pattern.compile (wrap s) with
    | .error e => .error (.invalidPattern s e)
    | .ok p => (compileAll wrap rest).map (p :: ·)

/-- The configuration that the settings make, or what is wrong with them. -/
def build (b : ConfigBuilder) : Except ConversionError Config := do
  let title ← checkTitle b.title
  let removes ← compileAll Pattern.anchored b.removeSources
  let comments ← compileAll id b.commentSources
  .ok
    { title := title
      removePatterns := (if b.useDefaults then [Config.defaultRemove] else []) ++ removes
      commentPatterns := (if b.useDefaults then [Config.defaultComment] else []) ++ comments }

theorem build_empty : empty.build = .ok Config.default := rfl

end ConfigBuilder
end SlideDeck
