import SlideDeck.Text.Basic
import SlideDeck.Unicode.Category

/-!
# Quoted text

A text in double quotes, readable on one line: line ends, tabs, NUL, the quote and the backslash
have short escapes, and whatever has no glyph of its own is written by its number.  A single
quote stands for itself.
-/

set_option autoImplicit false

namespace SlideDeck.Text

open Unicode (isPrintable extendsGrapheme)

/-- A character by its number: a backslash, `u`, and lower-case hexadecimal digits in braces. -/
def numericEscape (c : Char) : Text :=
  "\\u\x7b".toList ++ Nat.toDigits 16 c.toNat ++ "\x7d".toList

/-- A character as it stands between the quotes. -/
def quoteChar (c : Char) : Text :=
  if c = '\x00' then "\\0".toList
  else if c = '\t' then "\\t".toList
  else if c = '\r' then "\\r".toList
  else if c = '\n' then "\\n".toList
  else if c = '\\' then "\\\\".toList
  else if c = '"' then "\\\"".toList
  else if isPrintable c && !extendsGrapheme c then [c]
  else numericEscape c

/-- A text in quotes. -/
def quoted (s : Text) : Text := '"' :: s.flatMap quoteChar ++ ['"']

end SlideDeck.Text
