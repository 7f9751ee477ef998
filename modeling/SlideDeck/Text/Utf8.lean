import SlideDeck.Text.Basic

/-!
# UTF-8

* `Text.ofBytes` decodes bytes, of which not all have to be UTF-8: each longest part that starts a
  character and does not complete it, and each byte that starts none, becomes one U+FFFD.
* `Text.toBytes` encodes a text; `length_toBytes` counts the bytes.
* `ofBytes_toBytes`: decoding gives an encoded text back.
-/

set_option autoImplicit false

namespace SlideDeck

/-- The content of a file. -/
abbrev Bytes := List UInt8

namespace Text

/-- A character of which some bytes have been read: how many are missing, the value so far, and
the bounds of the next byte. -/
structure PartialChar where
  missing : Nat
  value : Nat
  low : Nat
  high : Nat
  deriving DecidableEq, Repr

/-- What replaces bytes that are no character. -/
def replacement : Char := Char.ofNat 0xFFFD

/-- What the first byte of a character gives: a character at once, or one that is begun.  The
bounds of the second byte keep out surrogates, numbers that are too large and encodings that are
too long. -/
def beginChar (b : UInt8) : Text × Option PartialChar :=
  let n := b.toNat
  if n < 0x80 then ([Char.ofNat n], none)
  else if n < 0xC2 then ([replacement], none)
  else if n < 0xE0 then ([], some ⟨1, n - 0xC0, 0x80, 0xBF⟩)
  else if n = 0xE0 then ([], some ⟨2, 0, 0xA0, 0xBF⟩)
  else if n = 0xED then ([], some ⟨2, 0xD, 0x80, 0x9F⟩)
  else if n < 0xF0 then ([], some ⟨2, n - 0xE0, 0x80, 0xBF⟩)
  else if n = 0xF0 then ([], some ⟨3, 0, 0x90, 0xBF⟩)
  else if n < 0xF4 then ([], some ⟨3, n - 0xF0, 0x80, 0xBF⟩)
  else if n = 0xF4 then ([], some ⟨3, 4, 0x80, 0x8F⟩)
  else ([replacement], none)

/-- What a byte gives after a partial character, if there is one. -/
def continueChar (p : Option PartialChar) (b : UInt8) : Text × Option PartialChar :=
  match p with
  | none => beginChar b
  | some p =>
    if p.low ≤ b.toNat ∧ b.toNat ≤ p.high then
      let value := p.value * 64 + (b.toNat - 0x80)
      if p.missing = 1 then ([Char.ofNat value], none)
      else ([], some ⟨p.missing - 1, value, 0x80, 0xBF⟩)
    else
      let (s, next) := beginChar b
      (replacement :: s, next)

/-- The text of bytes that follow a partial character. -/
def ofBytesFrom : Option PartialChar → Bytes → Text
  | none, [] => []
  | some _, [] => [replacement]
  | p, b :: rest => (continueChar p b).1 ++ ofBytesFrom (continueChar p b).2 rest

/-- The text of bytes. -/
def ofBytes (bytes : Bytes) : Text := ofBytesFrom none bytes

/-- The bytes of a text. -/
def toBytes (s : Text) : Bytes := s.flatMap String.utf8EncodeChar

theorem length_toBytes (s : Text) : (toBytes s).length = utf8Size s := by
  induction s with
  | nil => rfl
  | cons c r ih =>
    rw [toBytes, List.flatMap_cons, List.length_append, String.length_utf8EncodeChar, utf8Size,
      ← ih, toBytes]

/-! ## Reading back -/

theorem toNat_byte {n : Nat} (h : n < 256) : (UInt8.ofNat n).toNat = n := by
  rw [UInt8.toNat_ofNat']
  exact Nat.mod_eq_of_lt h

theorem beginChar_of_lt {n : Nat} (h : n < 0x80) :
    beginChar (UInt8.ofNat n) = ([Char.ofNat n], none) := by
  simp only [beginChar, toNat_byte (show n < 256 by omega)]
  rw [if_pos h]

theorem beginChar_two {n : Nat} (h : 0xC2 ≤ n) (h' : n < 0xE0) :
    beginChar (UInt8.ofNat n) = ([], some ⟨1, n - 0xC0, 0x80, 0xBF⟩) := by
  simp only [beginChar, toNat_byte (show n < 256 by omega)]
  rw [if_neg (by omega), if_neg (by omega), if_pos h']

theorem beginChar_three {n : Nat} (h : 0xE0 ≤ n) (h' : n < 0xF0) :
    beginChar (UInt8.ofNat n) = ([], some ⟨2, n - 0xE0, if n = 0xE0 then 0xA0 else 0x80,
      if n = 0xED then 0x9F else 0xBF⟩) := by
  simp only [beginChar, toNat_byte (show n < 256 by omega)]
  rw [if_neg (by omega), if_neg (by omega), if_neg (by omega)]
  by_cases h₁ : n = 0xE0
  · subst h₁; rfl
  · by_cases h₂ : n = 0xED
    · subst h₂; rfl
    · rw [if_neg h₁, if_neg h₂, if_pos h', if_neg h₁, if_neg h₂]

theorem beginChar_four {n : Nat} (h : 0xF0 ≤ n) (h' : n < 0xF5) :
    beginChar (UInt8.ofNat n) = ([], some ⟨3, n - 0xF0, if n = 0xF0 then 0x90 else 0x80,
      if n = 0xF4 then 0x8F else 0xBF⟩) := by
  obtain rfl | rfl | rfl | rfl | rfl :
    n = 0xF0 ∨ n = 0xF1 ∨ n = 0xF2 ∨ n = 0xF3 ∨ n = 0xF4 := by omega
  all_goals rfl

theorem ofBytesFrom_of_beginChar {n : Nat} {p : PartialChar} (rest : Bytes)
    (h : beginChar (UInt8.ofNat n) = ([], some p)) :
    ofBytesFrom none (UInt8.ofNat n :: rest) = ofBytesFrom (some p) rest := by
  rw [ofBytesFrom, continueChar, h, List.nil_append]

theorem continueChar_of_bounds {missing value low high n : Nat} (hlow : low ≤ n)
    (hhigh : n ≤ high) (hn : n < 256) :
    continueChar (some ⟨missing, value, low, high⟩) (UInt8.ofNat n) =
      if missing = 1 then ([Char.ofNat (value * 64 + (n - 0x80))], none)
      else ([], some ⟨missing - 1, value * 64 + (n - 0x80), 0x80, 0xBF⟩) := by
  simp only [continueChar, toNat_byte hn]
  rw [if_pos ⟨hlow, hhigh⟩]

/-- The last byte of a character completes it. -/
theorem ofBytesFrom_of_last {value low high n : Nat} (rest : Bytes) (hlow : low ≤ n)
    (hhigh : n ≤ high) (hn : n < 256) :
    ofBytesFrom (some ⟨1, value, low, high⟩) (UInt8.ofNat n :: rest) =
      Char.ofNat (value * 64 + (n - 0x80)) :: ofBytesFrom none rest := by
  rw [ofBytesFrom, continueChar_of_bounds hlow hhigh hn, if_pos rfl]
  rfl

/-- Any other byte after the first brings the next one into its ordinary bounds. -/
theorem ofBytesFrom_of_more {missing value low high n : Nat} (rest : Bytes) (hlow : low ≤ n)
    (hhigh : n ≤ high) (hn : n < 256) :
    ofBytesFrom (some ⟨missing + 2, value, low, high⟩) (UInt8.ofNat n :: rest) =
      ofBytesFrom (some ⟨missing + 1, value * 64 + (n - 0x80), 0x80, 0xBF⟩) rest := by
  rw [ofBytesFrom, continueChar_of_bounds hlow hhigh hn, if_neg (by omega)]
  rfl

/-- Decoding gives an encoded character back, whatever follows it. -/
theorem ofBytesFrom_utf8EncodeChar (c : Char) (rest : Bytes) :
    ofBytesFrom none (String.utf8EncodeChar c ++ rest) = c :: ofBytesFrom none rest := by
  obtain ⟨n, hn⟩ : ∃ n, c.toNat = n := ⟨_, rfl⟩
  have hv : n < 0xD800 ∨ (0xDFFF < n ∧ n < 0x110000) := hn ▸ c.valid
  have hc : Char.ofNat n = c := hn ▸ Char.ofNat_toNat c
  have hval : c.val.toNat = n := hn
  simp only [String.utf8EncodeChar, hval]
  by_cases h₁ : n ≤ 127
  · rw [if_pos h₁, List.singleton_append, ofBytesFrom, continueChar,
      beginChar_of_lt (by omega), hc, List.singleton_append]
  rw [if_neg h₁]
  by_cases h₂ : n ≤ 2047
  · rw [if_pos h₂, List.cons_append, List.singleton_append,
      ofBytesFrom_of_beginChar _ (beginChar_two (by omega) (by omega)),
      ofBytesFrom_of_last _ (by omega) (by omega) (by omega), ← hc]
    exact congrArg (fun m => Char.ofNat m :: ofBytesFrom none rest) (by omega)
  rw [if_neg h₂]
  by_cases h₃ : n ≤ 65535
  · rw [if_pos h₃, List.cons_append, List.cons_append, List.singleton_append,
      ofBytesFrom_of_beginChar _ (beginChar_three (by omega) (by omega)),
      ofBytesFrom_of_more _ (by split <;> omega) (by split <;> omega) (by omega),
      ofBytesFrom_of_last _ (by omega) (by omega) (by omega), ← hc]
    exact congrArg (fun m => Char.ofNat m :: ofBytesFrom none rest) (by omega)
  · rw [if_neg h₃, List.cons_append, List.cons_append, List.cons_append, List.singleton_append,
      ofBytesFrom_of_beginChar _ (beginChar_four (by omega) (by omega)),
      ofBytesFrom_of_more _ (by split <;> omega) (by split <;> omega) (by omega),
      ofBytesFrom_of_more _ (by omega) (by omega) (by omega),
      ofBytesFrom_of_last _ (by omega) (by omega) (by omega), ← hc]
    exact congrArg (fun m => Char.ofNat m :: ofBytesFrom none rest) (by omega)

/-- **Reading back.**  Decoding the bytes of a text gives the text. -/
theorem ofBytes_toBytes (s : Text) : ofBytes (toBytes s) = s := by
  rw [ofBytes]
  induction s with
  | nil => rfl
  | cons c r ih => rw [toBytes, List.flatMap_cons, ofBytesFrom_utf8EncodeChar, ← toBytes, ih]

end Text
end SlideDeck
