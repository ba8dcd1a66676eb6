import Mathlib.Data.List.TakeWhile
import ModalEditor.Normal.Command

/-!
# Counts in front of keys

A count is a row of digits that does not start with `0`. It ends at the first key that is no digit
(`splitCount_digits`), so what is typed behind that key does not change it (`splitCount_append`).
Digits that write too large a number are taken for a count but have no value, and more digits do not
give them one.
-/

namespace ModalEditor.NormalCommand

/-- The keys behind a count. -/
def afterCount (keys : Text) : Text := (splitCount keys).2

/-- Keys that are taken for a count. -/
structure IsCount (digits : Text) : Prop where
  /-- All of them are digits. -/
  all : ∀ c ∈ digits, isDigit c = true
  /-- The first one is not `0`. -/
  zero : digits.head? ≠ some '0'

/-- The text does not start with a digit. -/
def EndsCount (t : Text) : Prop := ∀ c ∈ t.head?, isDigit c = false

theorem endsCount_cons {c : Char} (hc : isDigit c = false) (rest : Text) :
    EndsCount (c :: rest) := by
  rintro d ⟨rfl⟩
  exact hc

theorem EndsCount.append {t : Text} (h : EndsCount t) (hne : t ≠ []) (more : Text) :
    EndsCount (t ++ more) := by
  cases t with
  | nil => exact absurd rfl hne
  | cons c rest => exact h

theorem splitCount_of_zero (rest : Text) : splitCount ('0' :: rest) = (none, '0' :: rest) :=
  if_pos rfl

theorem splitCount_of_ne {keys : Text} (h : keys.head? ≠ some '0') :
    splitCount keys = (Text.count? (keys.takeWhile isDigit), keys.dropWhile isDigit) := if_neg h

/-- A row of digits ends where no digit follows. -/
theorem takeWhile_digits {digits body : Text} (h : ∀ c ∈ digits, isDigit c = true)
    (hbody : EndsCount body) :
    (digits ++ body).takeWhile isDigit = digits ∧ (digits ++ body).dropWhile isDigit = body := by
  have hstop : body.takeWhile isDigit = [] ∧ body.dropWhile isDigit = body := by
    cases body with
    | nil => exact ⟨rfl, rfl⟩
    | cons c rest => simp [hbody c rfl]
  rw [List.takeWhile_append_of_pos h, List.dropWhile_append_of_pos h, hstop.1, hstop.2,
    List.append_nil]
  exact ⟨rfl, rfl⟩

/-- A count is all digits up to the first other key. -/
theorem splitCount_digits {digits body : Text} (h : IsCount digits) (hbody : EndsCount body) :
    splitCount (digits ++ body) = (Text.count? digits, body) := by
  have hhead : (digits ++ body).head? ≠ some '0' := by
    cases digits with
    | nil =>
      intro hzero
      have hdigit := hbody '0' hzero
      cases hdigit
    | cons c rest => exact h.zero
  obtain ⟨htake, hdrop⟩ := takeWhile_digits h.all hbody
  rw [splitCount_of_ne hhead, htake, hdrop]

/-- Keys that start with no digit have no count in front. -/
theorem splitCount_of_ends {keys : Text} (h : EndsCount keys) : splitCount keys = (none, keys) := by
  have hnone : IsCount [] := ⟨by simp, by simp⟩
  exact splitCount_digits hnone h

/-- Keys are a count, possibly of no digits, and what follows it, unless they start with `0`. -/
theorem zero_or_count (keys : Text) :
    (∃ rest, keys = '0' :: rest) ∨
      ∃ digits body, keys = digits ++ body ∧ IsCount digits ∧ EndsCount body := by
  by_cases hzero : keys.head? = some '0'
  · obtain ⟨rest, rfl⟩ := List.head?_eq_some_iff.mp hzero
    exact .inl ⟨rest, rfl⟩
  · refine .inr ⟨keys.takeWhile isDigit, keys.dropWhile isDigit,
      List.takeWhile_append_dropWhile.symm, ⟨fun c hc => List.mem_takeWhile_imp hc, ?_⟩,
      fun c hc => ?_⟩
    · cases keys with
      | nil => exact hzero
      | cons c rest =>
        rw [List.takeWhile_cons]
        split
        · exact hzero
        · simp
    · have hend := List.head?_dropWhile_not isDigit keys
      rw [Option.mem_def.mp hc] at hend
      simpa using hend

/-- What is typed behind the first key that is no digit belongs to the keys behind the count. -/
theorem splitCount_append {keys : Text} (h : afterCount keys ≠ []) (more : Text) :
    splitCount (keys ++ more) = ((splitCount keys).1, afterCount keys ++ more) := by
  unfold afterCount at h ⊢
  rcases zero_or_count keys with ⟨rest, rfl⟩ | ⟨digits, body, rfl, hdigits, hbody⟩
  · rw [splitCount_of_zero]
    exact splitCount_of_zero _
  · rw [splitCount_digits hdigits hbody] at h ⊢
    rw [List.append_assoc, splitCount_digits hdigits (hbody.append h more)]

theorem afterCount_append {keys : Text} (h : afterCount keys ≠ []) (more : Text) :
    afterCount (keys ++ more) = afterCount keys ++ more := by
  rw [afterCount, splitCount_append h]

/-- A key that is no digit ends a count. -/
theorem splitCount_append_of_nil {keys : Text} (h : afterCount keys = []) {c : Char}
    (hc : isDigit c = false) (more : Text) :
    splitCount (keys ++ c :: more) = ((splitCount keys).1, c :: more) := by
  unfold afterCount at h
  rcases zero_or_count keys with ⟨rest, rfl⟩ | ⟨digits, body, rfl, hdigits, hbody⟩
  · rw [splitCount_of_zero] at h
    cases h
  · rw [splitCount_digits hdigits hbody] at h
    obtain rfl : body = [] := h
    rw [splitCount_digits hdigits hbody, List.append_nil,
      splitCount_digits hdigits (endsCount_cons hc more)]

theorem afterCount_of_not_digit {c : Char} (hc : isDigit c = false) (rest : Text) :
    afterCount (c :: rest) = c :: rest :=
  congrArg Prod.snd (splitCount_append_of_nil (show afterCount [] = [] from rfl) hc rest)

theorem afterCount_length_le (keys : Text) : (afterCount keys).length ≤ keys.length := by
  unfold afterCount
  rcases zero_or_count keys with ⟨rest, rfl⟩ | ⟨digits, body, rfl, hdigits, hbody⟩
  · rw [splitCount_of_zero]
  · rw [splitCount_digits hdigits hbody]
    simp

theorem afterCount_afterCount (keys : Text) : afterCount (afterCount keys) = afterCount keys := by
  unfold afterCount
  rcases zero_or_count keys with ⟨rest, rfl⟩ | ⟨digits, body, rfl, hdigits, hbody⟩
  · rw [splitCount_of_zero, splitCount_of_zero]
  · rw [splitCount_digits hdigits hbody]
    dsimp only
    rw [splitCount_of_ends hbody]

theorem digitsValue_append_le (digits more : Text) :
    Text.digitsValue digits ≤ Text.digitsValue (digits ++ more) := by
  unfold Text.digitsValue
  rw [List.foldl_append]
  generalize digits.foldl _ 0 = n
  induction more generalizing n with
  | nil => exact Nat.le_refl _
  | cons c rest ih =>
    have hstep : n ≤ 10 * n + (c.toNat - '0'.toNat) := by omega
    exact Nat.le_trans hstep (ih _)

/-- A count of some digits does not write zero. -/
theorem digitsValue_pos {digits : Text} (h : IsCount digits) (hne : digits ≠ []) :
    0 < Text.digitsValue digits := by
  obtain ⟨c, rest, rfl⟩ := List.exists_cons_of_ne_nil hne
  have hle := digitsValue_append_le [c] rest
  have hfirst : Text.digitsValue [c] = c.toNat - 48 := by simp [Text.digitsValue]
  have hdigit : 48 ≤ c.toNat := by
    have hc := h.all c List.mem_cons_self
    simp only [isDigit, Bool.and_eq_true, decide_eq_true_eq, Char.le_def,
      UInt32.le_iff_toNat_le] at hc
    exact hc.1
  have hzero : c.toNat ≠ 48 := by
    intro heq
    exact h.zero (congrArg some (Char.toNat_inj.mp heq))
  rw [hfirst] at hle
  exact Nat.lt_of_lt_of_le (by omega) hle

theorem count?_append_none {digits more : Text} (hne : digits ≠ [])
    (hdigits : ∀ c ∈ digits, isDigit c = true) (h : Text.count? digits = none) :
    Text.count? (digits ++ more) = none := by
  have hall : digits.all isDigit = true := List.all_eq_true.mpr hdigits
  have hempty : digits.isEmpty = false := by simpa using hne
  unfold Text.count? at h ⊢
  simp only [hall, hempty, Bool.not_true, Bool.or_false, Bool.false_eq_true, if_false] at h
  split at h
  · cases h
  · rename_i hlarge
    have hle := digitsValue_append_le digits more
    split
    · rfl
    · rw [if_neg (by omega)]

/-- Keys that do not start with a count do not come to do so. -/
theorem splitCount_append_none {keys : Text} (hne : keys ≠ []) (h : (splitCount keys).1 = none)
    (more : Text) : (splitCount (keys ++ more)).1 = none := by
  rcases zero_or_count keys with ⟨rest, rfl⟩ | ⟨digits, body, rfl, hdigits, hbody⟩
  · exact congrArg Prod.fst (splitCount_of_zero (rest ++ more))
  · rw [splitCount_digits hdigits hbody] at h
    cases body with
    | cons c rest =>
      rw [List.append_assoc, splitCount_digits hdigits (hbody.append (by simp) more)]
      exact h
    | nil =>
      rw [List.append_nil] at hne ⊢
      have hzero : (digits ++ more).head? ≠ some '0' := by
        cases digits with
        | nil => exact absurd rfl hne
        | cons c rest => exact hdigits.zero
      rw [splitCount_of_ne hzero, List.takeWhile_append_of_pos hdigits.all]
      exact count?_append_none hne hdigits.all h

end ModalEditor.NormalCommand
