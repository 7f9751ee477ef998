import SlideDeck.CommandLine.Options
import SlideDeck.Files.Conversion

/-!
# The command

* `Reply` is what a run of the command leaves behind: its status and what it prints.
* `Options.run` carries out a conversion, `Request.run` whatever the arguments ask for.

No time is measured: a conversion takes 0 ms wherever its duration is shown.  The help page is given
in outline, and wrong usage of any kind by one text.
-/

set_option autoImplicit false

namespace SlideDeck

/-- The exit status of a command and what it prints. -/
structure Reply where
  status : Nat
  /-- What goes to standard output. -/
  output : Text
  /-- What goes to standard error. -/
  errors : Text
  deriving DecidableEq, Repr

namespace Reply

/-! ## Errors -/

/-- A text with its lines after the first indented. -/
def indentRest (indent : Nat) (s : Text) : Text :=
  Text.joinWith ('\n' :: List.replicate indent ' ') (s.splitOn '\n')

/-- Causes on numbered lines. -/
def numberedCauses (causes : List Text) : Text :=
  Text.joinWith ['\n'] <| causes.zipIdx.map fun (c, i) =>
    Text.padStart 5 (Text.ofNat i) ++ ": ".toList ++ indentRest 7 c

/-- An error with its causes.  A single cause has no number. -/
def failureText (context : Text) (e : ConversionError) : Text :=
  "Error: ".toList ++ context ++ "\n\nCaused by:\n".toList
    ++ (match e.cause? with
      | none => "    ".toList ++ indentRest 4 e.message
      | some cause => numberedCauses [e.message, cause])
    ++ ['\n']

/-! ## Success -/

/-- A text between two escape sequences of the terminal. -/
def styled (code s : Text) : Text :=
  "\x1b[".toList ++ code ++ "m".toList ++ s ++ "\x1b[0m".toList

/-- A line in dim letters at the end of a line. -/
def dim (s : Text) : Text := styled "2".toList s

/-- What is printed when a conversion is done. -/
def summary (o : Options) (stats : Stats) : Text :=
  styled "32".toList "✔".toList ++ "  ".toList ++ o.input ++ "  →  ".toList
    ++ styled "1".toList o.output ++ "  ".toList
    ++ dim (Text.ofNat stats.inputLines ++ " → ".toList ++ Text.ofNat stats.outputLines
      ++ " lines, 0ms".toList)
    ++ ['\n']
    ++ (if stats.changedStages.isEmpty then []
      else "   ".toList
        ++ dim ("rewritten by: ".toList
          ++ Text.joinWith ", ".toList (stats.changedStages.map Stage.name))
        ++ ['\n'])

/-! ## The log -/

/-- The level from which events are printed. -/
def logLevel (o : Options) : Level :=
  if o.quiet then .error else if o.verbose then .debug else .warn

/-- A character of a message as it is printed.  Control characters that a terminal acts on, line
ends and tabs apart, are written by their numbers. -/
def printedChar (c : Char) : Text :=
  if c = '\x1b' then "\\x1b".toList
  else if c = '\x07' then "\\x07".toList
  else if c = '\x08' then "\\x08".toList
  else if c = '\x0c' then "\\x0c".toList
  else if c = '\x7f' then "\\x7f".toList
  else if 0x80 ≤ c.toNat ∧ c.toNat ≤ 0x9F then Text.numericEscape c
  else [c]

/-- The printed part of the log. -/
def logText (o : Options) (events : List Event) : Text :=
  (events.filter fun e => (logLevel o).rank ≤ e.level.rank).flatMap fun e =>
    e.level.name ++ " ".toList ++ e.origin ++ ": ".toList ++ e.message.flatMap printedChar
      ++ ['\n']

end Reply

/-- Carries out a conversion. -/
def Options.run {m : Type → Type} [Monad m] (files : FileAccess m) (o : Options) : m Reply :=
  match (ConfigBuilder.ofSettings o.settings).build with
  | .error e => return ⟨1, [], Reply.failureText "Invalid configuration".toList e⟩
  | .ok config => do
    let conversion ← convertFile files config o.input o.output
    let log := Reply.logText o conversion.events
    match conversion.result with
    | .error e => return ⟨1, [], log ++ Reply.failureText "Conversion failed".toList e⟩
    | .ok stats =>
      return ⟨0, if o.json then stats.json 0 ++ ['\n'] else [],
        log ++ (if o.quiet then [] else Reply.summary o stats)⟩

namespace Request

/-- The version of the command. -/
def versionText : Text := "rmd2qmd 0.1.0\n".toList

/-- How to use the command. -/
def helpText : Text :=
  ("Convert xaringan R Markdown slides to Quarto markdown\n\n"
    ++ "Usage: rmd2qmd [OPTIONS] <INPUT> <OUTPUT>\n\n"
    ++ "Arguments:\n"
    ++ "  <INPUT>   Source .Rmd deck\n"
    ++ "  <OUTPUT>  Destination .qmd file (overwritten if it exists)\n\n"
    ++ "Options:\n"
    ++ "      --title <TITLE>            Replace the deck title\n"
    ++ "      --remove-pattern <REGEX>   Extra regex; lines starting with a match are removed\n"
    ++ "      --comment-pattern <REGEX>  Extra regex; matching lines are commented out\n"
    ++ "      --no-default-patterns      Do not apply the built-in patterns\n"
    ++ "      --json                     Print conversion statistics as JSON on stdout\n"
    ++ "  -v, --verbose                  Enable DEBUG-level logs\n"
    ++ "  -q, --quiet                    Suppress all output except errors\n"
    ++ "  -h, --help                     Print help\n"
    ++ "  -V, --version                  Print version\n").toList

/-- What is printed when the arguments make no sense. -/
def usageText : Text :=
  "error: invalid arguments\n\nUsage: rmd2qmd [OPTIONS] <INPUT> <OUTPUT>\n".toList

/-- Carries out what arguments ask for.  Wrong usage is reported on standard output. -/
def run {m : Type → Type} [Monad m] (files : FileAccess m) : Request → m Reply
  | convert o => o.run files
  | help => return ⟨0, helpText, []⟩
  | version => return ⟨0, versionText, []⟩
  | usageError => return ⟨1, usageText, []⟩

end Request
end SlideDeck
