/-!
# Boundaries of graphemes, words and sentences

The tables hold what decides on boundaries beside categories and other properties, in version 16 of
the standard.
-/

set_option autoImplicit false

namespace SlideDeck.Unicode.Table

/-! ## Graphemes -/

/-- The consonants that start a Hangul syllable. -/
def leadingJamo : List Nat := [
  0x1100, 0x1160, 0xA960, 0xA97D]

/-- The vowels of a Hangul syllable. -/
def vowelJamo : List Nat := [
  0x1160, 0x11A8, 0xD7B0, 0xD7C7, 0x16D63, 0x16D64, 0x16D67, 0x16D6B]

/-- The consonants that end a Hangul syllable. -/
def trailingJamo : List Nat := [
  0x11A8, 0x1200, 0xD7CB, 0xD7FC]

/-- Letters that are drawn together with the one behind them. -/
def prependedLetter : List Nat := [
  0xD4E, 0xD4F, 0x111C2, 0x111C4, 0x113D1, 0x113D2, 0x1193F, 0x11940, 0x11941, 0x11942, 0x11A3A,
  0x11A3B, 0x11A84, 0x11A8A, 0x11D46, 0x11D47, 0x11F02, 0x11F03]

/-- Spacing marks that are not drawn together with the letter before them. -/
def separateSpacingMark : List Nat := [
  0x102B, 0x102D, 0x1038, 0x1039, 0x1062, 0x1065, 0x1067, 0x106E, 0x1083, 0x1084, 0x1087, 0x108D,
  0x108F, 0x1090, 0x109A, 0x109D, 0x1A61, 0x1A62, 0x1A63, 0x1A65, 0xAA7B, 0xAA7C, 0xAA7D, 0xAA7E,
  0x11720, 0x11722]

/-- Vowels that are drawn together with the letter before them, but are no marks. -/
def attachedVowel : List Nat := [
  0xE33, 0xE34, 0xEB3, 0xEB4]

/-! ## Words -/

/-- Line ends other than carriage return and line feed. -/
def newlineCharacter : List Nat := [
  0xB, 0xD, 0x85, 0x86, 0x2028, 0x202A]

/-- Marks of Katakana that other scripts use too. -/
def otherKatakana : List Nat := [
  0x3031, 0x3036, 0x309B, 0x309D, 0x30A0, 0x30A1, 0x30FC, 0x30FD, 0xFF70, 0xFF71]

/-- Signs that make up words as letters do. -/
def otherWordLetter : List Nat := [
  0x2C2, 0x2C6, 0x2D2, 0x2D8, 0x2DE, 0x2E0, 0x2E5, 0x2EC, 0x2ED, 0x2EE, 0x2EF, 0x300, 0x55A, 0x55D,
  0x55E, 0x55F, 0x58A, 0x58B, 0x5F3, 0x5F4, 0x70F, 0x710, 0xA708, 0xA717, 0xA720, 0xA722, 0xA789,
  0xA78B, 0xAB5B, 0xAB5C]

/-- Letters of scripts that are written without blanks between words. -/
def complexContext : List Nat := [
  0xE01, 0xE31, 0xE32, 0xE34, 0xE40, 0xE47, 0xE81, 0xE83, 0xE84, 0xE85, 0xE86, 0xE8B, 0xE8C, 0xEA4,
  0xEA5, 0xEA6, 0xEA7, 0xEB1, 0xEB2, 0xEB4, 0xEBD, 0xEBE, 0xEC0, 0xEC5, 0xEC6, 0xEC7, 0xEDC, 0xEE0,
  0x1000, 0x102B, 0x103F, 0x1040, 0x1050, 0x1056, 0x105A, 0x105E, 0x1061, 0x1062, 0x1065, 0x1067,
  0x106E, 0x1071, 0x1075, 0x1082, 0x108E, 0x108F, 0x1780, 0x17B4, 0x17D7, 0x17D8, 0x17DC, 0x17DD,
  0x1950, 0x196E, 0x1970, 0x1975, 0x1980, 0x19AC, 0x19B0, 0x19CA, 0x1A20, 0x1A55, 0x1AA7, 0x1AA8,
  0xA9E0, 0xA9E5, 0xA9E6, 0xA9F0, 0xA9FA, 0xA9FF, 0xAA60, 0xAA77, 0xAA7A, 0xAA7B, 0xAA7E, 0xAAB0,
  0xAAB1, 0xAAB2, 0xAAB5, 0xAAB7, 0xAAB9, 0xAABE, 0xAAC0, 0xAAC1, 0xAAC2, 0xAAC3, 0xAADB, 0xAADE,
  0x11700, 0x1171B, 0x11740, 0x11747]

/-- Signs that make up numbers as decimal digits do. -/
def otherNumeric : List Nat := [
  0x600, 0x606, 0x66B, 0x66C, 0x6DD, 0x6DE, 0x890, 0x892, 0x8E2, 0x8E3, 0x19DA, 0x19DB, 0x110BD,
  0x110BE, 0x110CD, 0x110CE]

/-- Punctuation between letters of a word. -/
def midLetter : List Nat := [
  0x3A, 0x3B, 0xB7, 0xB8, 0x387, 0x388, 0x55F, 0x560, 0x5F4, 0x5F5, 0x2027, 0x2028, 0xFE13, 0xFE14,
  0xFE55, 0xFE56, 0xFF1A, 0xFF1B]

/-- Punctuation between digits of a number. -/
def midNumber : List Nat := [
  0x2C, 0x2D, 0x3B, 0x3C, 0x37E, 0x37F, 0x589, 0x58A, 0x60C, 0x60E, 0x66C, 0x66D, 0x7F8, 0x7F9,
  0x2044, 0x2045, 0xFE50, 0xFE51, 0xFE54, 0xFE55, 0xFF0C, 0xFF0D, 0xFF1B, 0xFF1C]

/-- Punctuation between letters or digits. -/
def midNumberOrLetter : List Nat := [
  0x2E, 0x2F, 0x2018, 0x201A, 0x2024, 0x2025, 0xFE52, 0xFE53, 0xFF07, 0xFF08, 0xFF0E, 0xFF0F]

/-- Punctuation that connects words to one. -/
def wordConnector : List Nat := [
  0x5F, 0x60, 0x202F, 0x2030, 0x203F, 0x2041, 0x2054, 0x2055, 0xFE33, 0xFE35, 0xFE4D, 0xFE50,
  0xFF3F, 0xFF40]

/-- Spaces between words. -/
def wordSpace : List Nat := [
  0x20, 0x21, 0x1680, 0x1681, 0x2000, 0x2007, 0x2008, 0x200B, 0x205F, 0x2060, 0x3000, 0x3001]

/-! ## Sentences -/

/-- Punctuation within a sentence. -/
def sentenceContinuation : List Nat := [
  0x2C, 0x2E, 0x3A, 0x3C, 0x37E, 0x37F, 0x55D, 0x55E, 0x60C, 0x60E, 0x7F8, 0x7F9, 0x1802, 0x1803,
  0x1808, 0x1809, 0x2013, 0x2015, 0x3001, 0x3002, 0xFE10, 0xFE12, 0xFE13, 0xFE15, 0xFE31, 0xFE33,
  0xFE50, 0xFE52, 0xFE54, 0xFE56, 0xFE58, 0xFE59, 0xFE63, 0xFE64, 0xFF0C, 0xFF0E, 0xFF1A, 0xFF1C,
  0xFF64, 0xFF65]

/-- Full stops. -/
def ambiguousTerminal : List Nat := [
  0x2E, 0x2F, 0x2024, 0x2025, 0xFE52, 0xFE53, 0xFF0E, 0xFF0F]

/-- Ornaments and editorial marks that stand like quotation marks. -/
def ornamentalQuote : List Nat := [
  0x275B, 0x2761, 0x2E00, 0x2E02, 0x2E06, 0x2E09, 0x2E0B, 0x2E0C, 0x1F676, 0x1F679]

end SlideDeck.Unicode.Table
