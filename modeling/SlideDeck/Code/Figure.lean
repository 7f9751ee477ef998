import SlideDeck.Document.Body
import SlideDeck.Document.Piece
import SlideDeck.Event

/-!
# Image chunks

A code chunk that shows an image becomes a plain image link with a size.

* `ImageChunk.recogniser` reads a chunk whose body calls `include_graphics`.
* `Figure.resolvePath` finds the path in the argument of the call: the segments of a `file.path`
  call, a quoted literal, or the argument itself.
* `Figure.size?` finds the size in the options of the chunk; a width wins over a height.
-/

set_option autoImplicit false

namespace SlideDeck

open Unicode (isDigit)
open Text (isQuote)

/-- The size of an image, as written in the chunk options. -/
inductive ImageSize where
  | width (value : Text)
  | height (value : Text)
  deriving DecidableEq, Repr

/-- A code chunk that shows an image. -/
structure ImageChunk where
  path : Text
  size : Option ImageSize
  /-- Whether the closing fence is there. -/
  closed : Bool
  deriving DecidableEq, Repr

namespace Figure

/-! ## The path -/

/-- A text without the given character at its ends. -/
def stripEnds (c : Char) (s : Text) : Text :=
  ((s.dropWhile (· == c)).reverse.dropWhile (· == c)).reverse

/-- A text without white space, then double quotes, then single quotes at its ends. -/
def unquote (s : Text) : Text := stripEnds '\'' (stripEnds '"' (Text.trim s))

/-- The name of the function that shows an image. -/
def graphicsCall : Text := "knitr::include_graphics".toList

/-- What stands before the last closing parenthesis of a text, if it has one. -/
def beforeLastParen? (s : Text) : Option Text :=
  if s.any (· == ')') then some (s.reverse.dropWhile (· != ')')).tail.reverse else none

/-- The argument of the call at the start of a text: all up to the last closing parenthesis on
the line. -/
def argumentHere? (s : Text) : Option Text := do
  let r ← Text.after? (graphicsCall ++ ['(']) s
  beforeLastParen? (r.takeWhile (· != '\n'))

/-- The argument of the first complete call that shows an image. -/
def argument? (s : Text) : Option Text := Text.firstMatch? argumentHere? s

/-- The arguments of the `file.path` call at the start of a text: all up to the first closing
parenthesis, which has to be on the same line. -/
def pathArgumentsHere? (s : Text) : Option Text := do
  let r ← Text.after? "file.path(".toList s
  match r.dropWhile fun c => c != ')' && c != '\n' with
  | ')' :: _ => some (r.takeWhile fun c => c != ')' && c != '\n')
  | _ => none

/-- The arguments of the first complete `file.path` call. -/
def pathArguments? (s : Text) : Option Text := Text.firstMatch? pathArgumentsHere? s

/-- The text between two quotes of either sort at the start of a text. -/
def literal? : Text → Option Text
  | [] => none
  | c :: s =>
    if isQuote c && s.any isQuote then some (s.takeWhile fun d => !isQuote d) else none

/-- The path that the argument of an image call names. -/
def resolvePath (argument : Text) : Text :=
  match pathArguments? argument with
  | some arguments => Text.joinWith ['/'] ((arguments.splitOn ',').map unquote)
  | none => (literal? (Text.trim argument)).getD (unquote (Text.trim argument))

/-! ## The size -/

/-- The number at the start of a text after an option `key =`, with or without an opening quote. -/
def optionNumber? (key s : Text) : Option (Text × Text) := do
  let afterKey ← Text.after? key s
  let value ← Text.after? ['='] (Text.trimStart afterKey)
  let digits := match Text.trimStart value with
    | [] => []
    | c :: r => if isQuote c then r else c :: r
  let number := digits.takeWhile fun c => isDigit c || c == '.'
  if number.isEmpty then none
  else some (number, digits.dropWhile fun c => isDigit c || c == '.')

/-- The width option at the start of a text: a number of per cent. -/
def widthHere? (s : Text) : Option Text := do
  let (number, rest) ← optionNumber? "out.width".toList s
  let _ ← Text.after? ['%'] rest
  return number ++ ['%']

/-- The height option at the start of a text: a number. -/
def heightHere? (s : Text) : Option Text := do
  let (number, _) ← optionNumber? "out.height".toList s
  return number

/-- The size that chunk options ask for. -/
def size? (options : Text) : Option ImageSize :=
  match Text.firstMatch? widthHere? options with
  | some w => some (.width w)
  | none => (Text.firstMatch? heightHere? options).map .height

/-- A size as the attribute of an image link. -/
def sizeAttribute : Option ImageSize → Text
  | none => []
  | some (.width w) => "\x7bwidth=".toList ++ w ++ "\x7d".toList
  | some (.height h) => "\x7bheight=".toList ++ h ++ "\x7d".toList

/-! ## The chunk -/

/-- Whether a line is a code fence. -/
def isFence (l : Line) : Bool := l.opensWith "```".toList

/-- The options of the R chunk that a line opens, up to the closing brace. -/
def chunkOptions? (l : Line) : Option Text := do
  let r ← Text.after? "```\x7br".toList l
  if r.any (· == '\x7d') then some (r.takeWhile (· != '\x7d')) else none

/-- The image that a chunk with these options and this body shows. -/
def ofChunk? (options : Text) (body : Body) : Option ImageChunk := do
  let call ← body.lines.find? fun l => Text.contains l graphicsCall
  let argument ← argument? (Text.trim call)
  return ⟨resolvePath argument, size? options, body.closed⟩

/-- Reads the image chunk that starts at the first line. -/
def read : Document → Option (ImageChunk × Document)
  | [] => none
  | l :: d =>
    match chunkOptions? l with
    | none => none
    | some options =>
      (ofChunk? options (Body.read isFence d)).map fun b => (b, (Body.read isFence d).rest)

/-- Image chunks in a document. -/
def recogniser : Recogniser Line ImageChunk where
  read := read
  read_front := by
    intro s r b h
    cases s with
    | nil => simp [read] at h
    | cons l d =>
      simp only [read] at h
      split at h
      · simp at h
      · obtain ⟨b', -, hb⟩ := Option.map_eq_some_iff.1 h
        obtain ⟨-, rfl⟩ := Prod.mk.inj hb
        refine ⟨l, (Body.read isFence d).lines ++ (Body.read isFence d).closing.toList, ?_⟩
        simp [Body.read_append]

/-- An image chunk as an image link. -/
def render (b : ImageChunk) : Document :=
  ["![](".toList ++ b.path ++ ")".toList ++ sizeAttribute b.size ++ ['\n']]

/-- The document with its image chunks as links. -/
def convert (d : Document) : Document := recogniser.rewrite render d

/-- What is to be told of the image chunks of a document. -/
def events (d : Document) : List Event :=
  (recogniser.blocks d).flatMap fun (n, _, b) =>
    (if b.closed then [] else [.imageChunkUnclosed n]) ++ [.imageChunk n b.path]

end Figure
end SlideDeck
