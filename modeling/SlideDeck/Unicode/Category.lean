import SlideDeck.Unicode.Blank
import SlideDeck.Unicode.Letter
import SlideDeck.Unicode.Mark
import SlideDeck.Unicode.Number
import SlideDeck.Unicode.Punctuation
import SlideDeck.Unicode.Symbol
import SlideDeck.Unicode.Invisible
import SlideDeck.Unicode.Recent

/-!
# General categories and the classes built from them

Two versions of the Unicode standard are in use: quoted text and the names of groups go by version
17, whatever is matched goes by version 16.

* `Category` are the general categories that list their members; `Category.contains` is
  membership in version 17, `Category.settled` the members in version 16.
* `isAlphabetic`, `isNumeric`, `isPrintable` and `extendsGrapheme` are classes of version 17,
  `isDigit` is one of version 16.
-/

set_option autoImplicit false

namespace SlideDeck.Unicode

/-! ## Categories -/

/-- The general categories of assigned code points. -/
inductive Category where
  | uppercaseLetter | lowercaseLetter | titlecaseLetter | modifierLetter | otherLetter
  | nonspacingMark | spacingMark | enclosingMark
  | decimalNumber | letterNumber | otherNumber
  | connectorPunctuation | dashPunctuation | openPunctuation | closePunctuation
  | initialPunctuation | finalPunctuation | otherPunctuation
  | mathSymbol | currencySymbol | modifierSymbol | otherSymbol
  | spaceSeparator | lineSeparator | paragraphSeparator
  | control | format | surrogate | privateUse
  deriving DecidableEq, Repr

namespace Category

/-- The inversion list of a category. -/
def table : Category → List Nat
  | uppercaseLetter => Table.uppercaseLetter
  | lowercaseLetter => Table.lowercaseLetter
  | titlecaseLetter => Table.titlecaseLetter
  | modifierLetter => Table.modifierLetter
  | otherLetter => Table.otherLetter
  | nonspacingMark => Table.nonspacingMark
  | spacingMark => Table.spacingMark
  | enclosingMark => Table.enclosingMark
  | decimalNumber => Table.decimalNumber
  | letterNumber => Table.letterNumber
  | otherNumber => Table.otherNumber
  | connectorPunctuation => Table.connectorPunctuation
  | dashPunctuation => Table.dashPunctuation
  | openPunctuation => Table.openPunctuation
  | closePunctuation => Table.closePunctuation
  | initialPunctuation => Table.initialPunctuation
  | finalPunctuation => Table.finalPunctuation
  | otherPunctuation => Table.otherPunctuation
  | mathSymbol => Table.mathSymbol
  | currencySymbol => Table.currencySymbol
  | modifierSymbol => Table.modifierSymbol
  | otherSymbol => Table.otherSymbol
  | spaceSeparator => Table.spaceSeparator
  | lineSeparator => Table.lineSeparator
  | paragraphSeparator => Table.paragraphSeparator
  | control => Table.control
  | format => Table.format
  | surrogate => Table.surrogate
  | privateUse => Table.privateUse

/-- Whether a character is of the category. -/
def contains (g : Category) (c : Char) : Bool := member c.toNat g.table

/-- The five categories of letters. -/
def letters : List Category :=
  [uppercaseLetter, lowercaseLetter, titlecaseLetter, modifierLetter, otherLetter]

/-- The three categories of letters with case. -/
def casedLetters : List Category := [uppercaseLetter, lowercaseLetter, titlecaseLetter]

/-- The three categories of marks. -/
def marks : List Category := [nonspacingMark, spacingMark, enclosingMark]

/-- The three categories of numbers. -/
def numbers : List Category := [decimalNumber, letterNumber, otherNumber]

/-- The seven categories of punctuation. -/
def punctuation : List Category :=
  [connectorPunctuation, dashPunctuation, openPunctuation, closePunctuation, initialPunctuation,
    finalPunctuation, otherPunctuation]

/-- The four categories of symbols. -/
def symbols : List Category := [mathSymbol, currencySymbol, modifierSymbol, otherSymbol]

/-- The three categories of separators. -/
def separators : List Category := [spaceSeparator, lineSeparator, paragraphSeparator]

/-- The categories of assigned code points that have neither glyph nor width of their own. -/
def others : List Category := [control, format, surrogate, privateUse]

/-- All categories of assigned code points. -/
def all : List Category :=
  letters ++ marks ++ numbers ++ punctuation ++ symbols ++ separators ++ others

/-- Whether a character is of one of the categories. -/
def anyContains (gs : List Category) (c : Char) : Bool := gs.any (·.contains c)

/-- The code points that came to or left a category with version 17: U+0295 was a small letter and
became another letter. -/
def moved : Category → List Nat
  | lowercaseLetter => [0x295, 0x296]
  | otherLetter => [0x295, 0x296]
  | _ => []

/-- The inversion list of a category in version 16, which lacks the recent characters. -/
def settled (g : Category) : List Nat :=
  combine (· ^^ ·) false (combine (fun a b => a && !b) false g.table false Table.recent) false
    g.moved

theorem ascends_table (g : Category) : Ascends 0 g.table := by
  cases g <;> decide +kernel

theorem ascends_settled (g : Category) : Ascends 0 g.settled :=
  ascends_combine _ (ascends_combine _ g.ascends_table (by decide +kernel))
    (by cases g <;> decide +kernel)

end Category

/-! ## Classes of characters -/

/-- Whether a character is a decimal digit of some script. -/
def isDigit (c : Char) : Bool :=
  Category.decimalNumber.contains c && !member c.toNat Table.recent

/-- Whether a character is alphabetic. -/
def isAlphabetic (c : Char) : Bool :=
  Category.anyContains Category.letters c || Category.letterNumber.contains c
    || member c.toNat Table.otherAlphabetic

/-- Whether a character is a number of any sort. -/
def isNumeric (c : Char) : Bool := Category.anyContains Category.numbers c

/-- Whether a character has a glyph of its own; of the separators only the space counts. -/
def isPrintable (c : Char) : Bool :=
  c == ' ' || (!member c.toNat Table.filler
    && Category.anyContains (Category.letters ++ Category.marks ++ Category.numbers
      ++ Category.punctuation ++ Category.symbols) c)

/-- Whether a character is drawn together with the preceding one. -/
def extendsGrapheme (c : Char) : Bool :=
  Category.nonspacingMark.contains c || Category.enclosingMark.contains c
    || member c.toNat Table.otherGraphemeExtend

end SlideDeck.Unicode
