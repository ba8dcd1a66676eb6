import ModalEditor.Text.Category

/-!
# Characters as bytes

A character is one to four bytes of UTF-8. A range of characters is cut into pieces each of which is
a product of byte ranges, a row; `setRows` gives the rows of a set. Cuts are made where the number of
bytes changes and then at the blocks of characters that share their first bytes.
-/

namespace ModalEditor.Pattern

/-- The bytes of a character, first to last. -/
def utf8Bytes (n : Nat) : List Nat :=
  if n < 0x80 then [n]
  else if n < 0x800 then [0xC0 + n / 64, 0x80 + n % 64]
  else if n < 0x10000 then [0xE0 + n / 4096, 0x80 + n / 64 % 64, 0x80 + n % 64]
  else [0xF0 + n / 262144, 0x80 + n / 4096 % 64, 0x80 + n / 64 % 64, 0x80 + n % 64]

/-- A range of bytes. -/
abbrev ByteRange := Nat × Nat

/-- Where a range of characters has to be cut so that each piece is a product of byte ranges: the
last code of the first piece. -/
def cutPoint? (lo hi : Nat) : Option Nat :=
  if lo ≤ 0x7F && 0x7F < hi then some 0x7F
  else if lo ≤ 0x7FF && 0x7FF < hi then some 0x7FF
  else if lo ≤ 0xFFFF && 0xFFFF < hi then some 0xFFFF
  else if hi ≤ 0x7F then none
  else [64, 4096, 262144].findSome? fun block =>
    if lo / block = hi / block then none
    else if lo % block ≠ 0 then some (lo / block * block + (block - 1))
    else if hi % block ≠ block - 1 then some (hi / block * block - 1)
    else none

/-- The rows of byte ranges for a range of characters. Sixty-four cuts are more than any range
needs. -/
def byteRows (lo hi : Nat) : Nat → List (List ByteRange)
  | 0 => []
  | fuel + 1 =>
    match cutPoint? lo hi with
    | some cut => byteRows lo cut fuel ++ byteRows (cut + 1) hi fuel
    | none => [(utf8Bytes lo).zip (utf8Bytes hi)]

/-- The rows of byte ranges for a set, without the surrogates. -/
def setRows (s : CharSet) : List (List ByteRange) :=
  (s.diff Category.surrogates).ranges.flatMap fun (lo, hi) => byteRows lo hi 64

end ModalEditor.Pattern
