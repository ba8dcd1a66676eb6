import ModalEditor.Proofs.Normal.Count

/-!
# Numerals

A number that is written out is read back, unless it is too large for a count. A numeral ends where
no digit follows (`splitNumber?_digits`), and the digits of a number have the number as their value
(`digitsValue_ofNat`).
-/

namespace ModalEditor.Text

open NormalCommand

/-- A row of digits is a number if it is not too large. -/
theorem count?_digits {digits : Text} (hne : digits ≠ [])
    (hdigits : ∀ c ∈ digits, isDigit c = true) :
    count? digits = if digitsValue digits ≤ maxCount then some (digitsValue digits) else none := by
  have hall : digits.all isDigit = true := List.all_eq_true.mpr hdigits
  have hempty : digits.isEmpty = false := by simpa using hne
  simp [count?, hall, hempty]

/-- A numeral is all digits up to the first other character. -/
theorem splitNumber?_digits {digits rest : Text} (hdigits : ∀ c ∈ digits, isDigit c = true)
    (hrest : EndsCount rest) :
    splitNumber? (digits ++ rest) = (count? digits).map fun n => (n, rest) := by
  obtain ⟨htake, hdrop⟩ := takeWhile_digits hdigits hrest
  rw [splitNumber?, htake, hdrop]

/-! ## Written numbers -/

theorem ofNat_eq (n : Nat) : ofNat n = Nat.toDigits 10 n := by
  rw [ofNat, Nat.toString_eq_ofList_toDigits, String.toList_ofList]

theorem ofNat_ne_nil (n : Nat) : ofNat n ≠ [] := by
  rw [ofNat_eq]
  exact Nat.toDigits_ne_nil

theorem isDigit_ofNat (n : Nat) : ∀ c ∈ ofNat n, isDigit c = true := by
  intro c hc
  rw [ofNat_eq] at hc
  exact Nat.isDigit_of_mem_toDigits (by decide) (by decide) hc

theorem digitsValue_ofNat (n : Nat) : digitsValue (ofNat n) = n := by
  rw [ofNat_eq, digitsValue, ← Nat.ofDigitChars_eq_foldl]
  exact Nat.ofDigitChars_toDigits (by decide) (by decide)

theorem count?_ofNat {n : Nat} (hn : n ≤ maxCount) : count? (ofNat n) = some n := by
  rw [count?_digits (ofNat_ne_nil n) (isDigit_ofNat n), digitsValue_ofNat, if_pos hn]

/-- A number that is written out is read back, whatever follows that is no digit. -/
theorem splitNumber?_ofNat {n : Nat} (hn : n ≤ maxCount) {rest : Text}
    (hrest : EndsCount rest) : splitNumber? (ofNat n ++ rest) = some (n, rest) := by
  rw [splitNumber?_digits (isDigit_ofNat n) hrest, count?_ofNat hn, Option.map_some]

/-- Only zero is written with a `0` in front. -/
theorem head?_ofNat {n : Nat} (hn : 0 < n) : (ofNat n).head? ≠ some '0' := by
  induction n using Nat.strong_induction_on with
  | _ n ih =>
    rw [ofNat_eq, Nat.toDigits_eq_if (by decide)]
    split
    · rename_i hlt
      have hdigit : ∀ k < 10, 0 < k → [k.digitChar].head? ≠ some '0' := by decide
      exact hdigit n hlt hn
    · rename_i hge
      have hfront := ih (n / 10) (by omega) (by omega)
      obtain ⟨c, digits, hdigits⟩ := List.exists_cons_of_ne_nil (ofNat_ne_nil (n / 10))
      rw [hdigits] at hfront
      rw [← ofNat_eq, hdigits]
      exact hfront

/-- A number other than zero is a count. -/
theorem isCount_ofNat {n : Nat} (hn : 0 < n) : IsCount (ofNat n) :=
  ⟨isDigit_ofNat n, head?_ofNat hn⟩

end ModalEditor.Text
