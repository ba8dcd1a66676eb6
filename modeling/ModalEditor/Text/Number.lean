import ModalEditor.Text.Basic

/-!
# Numbers as typed

Counts, line numbers and option values are machine words: a numeral that does not fit in 64 bits
is no number at all. Where a command multiplies counts the product stops at the largest word.
-/

namespace ModalEditor

/-- The largest count. -/
def maxCount : Nat := 0xFFFFFFFFFFFFFFFF

/-- The largest line offset of an address; the smallest is one below its negative. -/
def maxOffset : Int := 0x7FFFFFFFFFFFFFFF

namespace Text

/-- The value of a row of decimal digits, most significant first. -/
def digitsValue (digits : Text) : Nat :=
  digits.foldl (fun n c => 10 * n + (c.toNat - '0'.toNat)) 0

/-- The number that a non-empty row of digits writes, unless it is too large for a count. -/
def count? (digits : Text) : Option Nat :=
  if digits.isEmpty || !digits.all isDigit then none
  else if digitsValue digits ≤ maxCount then some (digitsValue digits) else none

/-- A number as an argument of a command: digits, with a `+` in front allowed. -/
def number? : Text → Option Nat
  | '+' :: digits => count? digits
  | digits => count? digits

/-- Splits a numeral off the front. There is none if the text does not start with a digit or the
digits write a number that is too large. -/
def splitNumber? (t : Text) : Option (Nat × Text) :=
  (count? (t.takeWhile isDigit)).map fun n => (n, t.dropWhile isDigit)

/-- Decimal digits of a number. -/
def ofNat (n : Nat) : Text := (toString n).toList

end Text
end ModalEditor
