import SlideDeck.Unicode.InversionList

/-!
# White space

The characters with the White_Space property: tab to carriage return, the space, U+0085, and the
spaces and separators of the general categories `Zs`, `Zl` and `Zp`.  Zero-width characters
(U+200B, U+FEFF) and the information separators U+001C to U+001F are not among them.
-/

set_option autoImplicit false

namespace SlideDeck.Unicode

/-- The inversion list of White_Space. -/
def Table.whiteSpace : List Nat := [
  0x9, 0xE, 0x20, 0x21, 0x85, 0x86, 0xA0, 0xA1, 0x1680, 0x1681, 0x2000, 0x200B, 0x2028, 0x202A,
  0x202F, 0x2030, 0x205F, 0x2060, 0x3000, 0x3001]

/-- Whether a character is white space. -/
def isSpace (c : Char) : Bool := member c.toNat Table.whiteSpace

end SlideDeck.Unicode
