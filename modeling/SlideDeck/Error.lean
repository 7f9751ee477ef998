import SlideDeck.Pattern.Ast
import SlideDeck.Text.Quoted

/-!
# Errors

Malformed markup is no error: the rules are total, and what they cannot make sense of they leave
alone.  What can go wrong are the files on either side and the configuration.

* `SystemError` is what the file system reports, `ConversionError` what a conversion does.
* `ConversionError.message` words an error, `ConversionError.cause?` is the report behind it.
* `bind_eq_ok_iff` and `bind_eq_error_iff` — how a computation in two parts ends.
-/

set_option autoImplicit false

namespace SlideDeck

/-- An error that the file system reports. -/
inductive SystemError where
  | notFound
  | permissionDenied
  | busy
  | alreadyExists
  | notDirectory
  | isDirectory
  | invalidArgument
  | nameTooLong
  /-- A path holds a NUL character. -/
  | nulInPath
  /-- Anything else, with its text. -/
  | other (text : Text)
  deriving DecidableEq, Repr

namespace SystemError

/-- The text of a system error. -/
def message : SystemError → Text
  | notFound => "No such file or directory (os error 2)".toList
  | permissionDenied => "Permission denied (os error 13)".toList
  | busy => "Device or resource busy (os error 16)".toList
  | alreadyExists => "File exists (os error 17)".toList
  | notDirectory => "Not a directory (os error 20)".toList
  | isDirectory => "Is a directory (os error 21)".toList
  | invalidArgument => "Invalid argument (os error 22)".toList
  | nameTooLong => "File name too long (os error 36)".toList
  | nulInPath => "file name contained an unexpected NUL byte".toList
  | other text => text

end SystemError

/-- Why a conversion failed. -/
inductive ConversionError where
  /-- There is no input file. -/
  | fileNotFound (path : Text)
  /-- The input file may not be read. -/
  | permissionDenied (path : Text)
  /-- The input file could not be read. -/
  | readFailed (path : Text) (cause : SystemError)
  /-- The output file could not be written. -/
  | writeFailed (path : Text) (cause : SystemError)
  /-- A pattern of the configuration is no pattern. -/
  | invalidPattern (pattern : Text) (cause : PatternError)
  /-- The configuration is wrong in another way. -/
  | invalidConfig (detail : Text)
  deriving DecidableEq, Repr

namespace ConversionError

/-- What the reader of a pattern reports.  The pattern itself is not quoted in it. -/
def patternReport : PatternError → Text
  | .tooLarge => PatternError.tooLarge.message
  | e => "regex parse error: ".toList ++ e.message

/-- The report behind an error, if there is one. -/
def cause? : ConversionError → Option Text
  | readFailed _ cause | writeFailed _ cause => some cause.message
  | invalidPattern _ cause => some (patternReport cause)
  | fileNotFound _ | permissionDenied _ | invalidConfig _ => none

/-- The wording of an error. -/
def message : ConversionError → Text
  | fileNotFound path =>
    "Input file not found: '".toList ++ path
      ++ "'\nCheck the path exists and is readable.".toList
  | permissionDenied path =>
    "Permission denied reading '".toList ++ path ++ "'\nTry: chmod +r ".toList
      ++ Text.quoted path
  | readFailed path cause =>
    "Failed to read input file '".toList ++ path ++ "': ".toList ++ cause.message
  | writeFailed path cause =>
    "Failed to write output file '".toList ++ path ++ "': ".toList ++ cause.message
  | invalidPattern pattern cause =>
    "Invalid pattern '".toList ++ pattern ++ "': ".toList ++ patternReport cause
  | invalidConfig detail => "Invalid configuration: ".toList ++ detail

end ConversionError

/-! ## Computations that can fail -/

section

variable {ε α β : Type} {x : Except ε α} {f : α → Except ε β}

/-- A computation gives a result if its parts do. -/
theorem bind_eq_ok_iff {b : β} : (x >>= f) = .ok b ↔ ∃ a, x = .ok a ∧ f a = .ok b := by
  cases x with
  | error e =>
    constructor
    · exact fun h => nomatch h
    · rintro ⟨a, h, -⟩
      cases h
  | ok a =>
    constructor
    · exact fun h => ⟨a, rfl, h⟩
    · rintro ⟨a', h, hf⟩
      cases h
      exact hf

/-- A computation fails if its first part does, or if that gives a result and the second part
fails. -/
theorem bind_eq_error_iff {e : ε} :
    (x >>= f) = .error e ↔ x = .error e ∨ ∃ a, x = .ok a ∧ f a = .error e := by
  cases x with
  | error e' =>
    have hbind : ((.error e' : Except ε α) >>= f) = .error e' := rfl
    rw [hbind, Except.error.injEq, Except.error.injEq]
    exact ⟨.inl, fun h => h.resolve_right fun ⟨_, ha, _⟩ => nomatch ha⟩
  | ok a =>
    constructor
    · exact fun h => .inr ⟨a, rfl, h⟩
    · rintro (h | ⟨a', h, hf⟩)
      · cases h
      · cases h
        exact hf

end

end SlideDeck
