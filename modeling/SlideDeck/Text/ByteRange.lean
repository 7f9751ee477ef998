import SlideDeck.Text.Utf8

/-!
# Ranges of characters as ranges of bytes

The UTF-8 encodings of a range of characters, as few sequences of byte ranges: a text of one
character is in the range exactly if its bytes lie in the ranges of one of the sequences, place by
place.

* `ByteRange.sequences` splits a range of characters into such sequences, in ascending order.
* The splitting goes by the number of bytes first, and then by blocks of 64, of 64² and of 64³
  characters, within which the last byte, the last two or the last three take all their values.
-/

set_option autoImplicit false

namespace SlideDeck

/-- The bytes from the first to the last. -/
structure ByteRange where
  first : UInt8
  last : UInt8
  deriving DecidableEq, Repr

namespace ByteRange

/-- The ranges of code points whose encodings have the same number of bytes, with the sizes of the
blocks in which they are to be split. -/
def lengthClasses : List (Nat × Nat × List Nat) :=
  [(0, 0x7F, []), (0x80, 0x7FF, [64]), (0x800, 0xFFFF, [64, 4096]),
    (0x10000, 0x10FFFF, [64, 4096, 262144])]

/-- Splits a range of code points so that each part lies in one block of a size or is made up of
whole blocks of it; for all sizes in turn, the smallest first. -/
def alignedParts : List Nat → (first last : Nat) → List (Nat × Nat)
  | [], first, last => [(first, last)]
  | size :: sizes, first, last =>
    if first / size = last / size then [(first, last)]
    else
      let start := if first % size = 0 then first else (first / size + 1) * size
      let front := if first % size = 0 then [] else [(first, start - 1)]
      let rest :=
        if start / size = last / size then [(start, last)]
        else if last % size = size - 1 then alignedParts sizes start last
        else alignedParts sizes start (last / size * size - 1) ++ [(last / size * size, last)]
      front ++ rest

/-- The byte ranges between the encodings of two characters, place by place. -/
def between (first last : Nat) : List ByteRange :=
  List.zipWith ByteRange.mk (Text.toBytes [Char.ofNat first]) (Text.toBytes [Char.ofNat last])

/-- The sequences of byte ranges that make up the encodings of the characters from the first code
point to the last. -/
def sequences (first last : Nat) : List (List ByteRange) :=
  lengthClasses.flatMap fun (low, high, sizes) =>
    if max first low ≤ min last high then
      (alignedParts sizes (max first low) (min last high)).map fun (a, b) => between a b
    else []

end ByteRange
end SlideDeck
