import SlideDeck.Pattern.Ast
import SlideDeck.Pattern.Property
import SlideDeck.Pattern.Regex

/-!
# What a pattern means

The flags that hold at a place decide what is meant there.  Flags set by themselves hold up to the
end of the enclosing group, across the branches of a choice.

* `Modes` are the flags in force.
* `SetAst.meaning` is the set of characters that is meant, `Ast.meaning` the expression, with the
  modes in force after it.

Outside of Unicode mode nothing may be meant that could match a part of a character: no negated
class, no dot, no byte above 127.
-/

set_option autoImplicit false

namespace SlideDeck.Pattern

/-- The flags in force. -/
structure Modes where
  caseInsensitive : Bool
  multiLine : Bool
  dotMatchesNewline : Bool
  swapGreed : Bool
  unicode : Bool
  crlf : Bool
  deriving DecidableEq, Repr

namespace Modes

/-- The flags at the start of a pattern. -/
def start : Modes := ⟨false, false, false, false, true, false⟩

/-- The modes after setting a flag.  Blanks were dealt with in reading. -/
def set (m : Modes) : Flag × Bool → Modes
  | (.caseInsensitive, on) => { m with caseInsensitive := on }
  | (.multiLine, on) => { m with multiLine := on }
  | (.dotMatchesNewline, on) => { m with dotMatchesNewline := on }
  | (.unicode, on) => { m with unicode := on }
  | (.crlf, on) => { m with crlf := on }
  | (.swapGreed, on) => { m with swapGreed := on }
  | (.verbose, _) => m

/-- The modes after setting several flags. -/
def setAll (m : Modes) (flags : FlagList) : Modes := flags.foldl set m

/-- A set with the letters that the case flag adds. -/
def withCase (m : Modes) (s : CharSet) : CharSet :=
  if m.caseInsensitive then (if m.unicode then s.anyCase else s.asciiAnyCase) else s

/-- The complement of a set, if it is asked for. -/
def withNegation (m : Modes) (negated : Bool) (s : CharSet) : Except PatternError CharSet :=
  if negated then (if m.unicode then .ok s.compl else .error .notUtf8) else .ok s

end Modes

/-! ## Sets -/

/-- The character that a literal stands for.  Outside of Unicode mode two hexadecimal digits stand
for a byte, which has to be an ASCII character. -/
def literalChar (m : Modes) (c : Char) (byte : Bool) : Except PatternError Char :=
  if !m.unicode && byte && 128 ≤ c.toNat then .error .notUtf8 else .ok c

/-- The character that a literal stands for where it is part of a class or has variants by case.
Outside of Unicode mode it has to be an ASCII character. -/
def classChar (m : Modes) (c : Char) (byte : Bool) : Except PatternError Char := do
  let c ← literalChar m c byte
  if !m.unicode && 128 ≤ c.toNat then .error .unicodeNotAllowed else .ok c

/-- The class of a shorthand. -/
def Shorthand.set (unicode : Bool) : Shorthand → CharSet
  | digit => if unicode then CharSet.digit else CharSet.asciiDigit
  | space => if unicode then CharSet.space else CharSet.asciiSpace
  | word => if unicode then CharSet.word else CharSet.asciiWord

/-- The set with a name, in the modes. -/
def propertyMeaning (m : Modes) (found : Option CharSet) (negated : Bool) :
    Except PatternError CharSet :=
  if !m.unicode then .error .unicodeNotAllowed
  else
    match found with
    | none => .error .propertyUnknown
    | some s => m.withNegation negated (m.withCase s)

/-- The set of characters that is meant. -/
def SetAst.meaning (m : Modes) : SetAst → Except PatternError CharSet
  | empty => .ok CharSet.empty
  | literal c byte => do return CharSet.single (← classChar m c byte)
  | range a aByte b bByte => do
    return CharSet.range (← classChar m a aByte) (← classChar m b bByte)
  | shorthand k negated => m.withNegation negated (k.set m.unicode)
  | property name negated => propertyMeaning m (CharSet.named? name) negated
  | propertyValue name value negated => propertyMeaning m (CharSet.valued? name value) negated
  | posix name negated =>
    m.withNegation negated (m.withCase ((CharSet.ascii? name).getD CharSet.empty))
  | bracket s negated => do m.withNegation negated (m.withCase (← s.meaning m))
  | union a b => do return (← a.meaning m).union (← b.meaning m)
  | inter a b => do return (m.withCase (← a.meaning m)).inter (m.withCase (← b.meaning m))
  | diff a b => do return (m.withCase (← a.meaning m)).diff (m.withCase (← b.meaning m))
  | symmDiff a b => do
    return (m.withCase (← a.meaning m)).symmDiff (m.withCase (← b.meaning m))

/-! ## Expressions -/

/-- The anchor that an assertion stands for. -/
def Assertion.meaning (m : Modes) : Assertion → Anchor
  | lineStart => if m.multiLine then .lineStart m.crlf else .textStart
  | lineEnd => if m.multiLine then .lineEnd m.crlf else .textEnd
  | textStart => .textStart
  | textEnd => .textEnd
  | wordBoundary => .wordBoundary !m.unicode
  | notWordBoundary => .notWordBoundary !m.unicode
  | wordStart => .wordStart !m.unicode
  | wordEnd => .wordEnd !m.unicode
  | wordStartHalf => .wordStartHalf !m.unicode
  | wordEndHalf => .wordEndHalf !m.unicode

/-- The set of characters that a dot stands for. -/
def dotMeaning (m : Modes) : Except PatternError CharSet :=
  if !m.unicode then .error .notUtf8
  else if m.dotMatchesNewline then .ok CharSet.all
  else if m.crlf then .ok ((CharSet.single '\r').union (CharSet.single '\n')).compl
  else .ok (CharSet.single '\n').compl

/-- The expression that is meant, and the modes in force after it. -/
def Ast.meaning : Ast → Modes → Except PatternError (Regex × Modes)
  | empty, m => .ok (.empty, m)
  | setFlags flags, m => .ok (.empty, m.setAll flags)
  | literal c byte, m => do
    let c ← if m.caseInsensitive then classChar m c byte else literalChar m c byte
    return (.chars (m.withCase (CharSet.single c)), m)
  | dot, m => do return (.chars (← dotMeaning m), m)
  | assertion a, m => .ok (.anchor (a.meaning m), m)
  | set s, m => do return (.chars (← s.meaning m), m)
  | times a min max lazyMark, m => do
    let (r, m) ← a.meaning m
    return (.times r min max (lazyMark == m.swapGreed), m)
  | group capturing flags a, m => do
    let (r, _) ← a.meaning (m.setAll flags)
    return (.group capturing r, m)
  | seq a b, m => do
    let (r, m) ← a.meaning m
    let (s, m) ← b.meaning m
    return (.seq r s, m)
  | alt a b, m => do
    let (r, m) ← a.meaning m
    let (s, m) ← b.meaning m
    return (.alt r s, m)

end SlideDeck.Pattern
