import ModalEditor.Register

/-!
# Places of registers

There are ten numbered registers and twenty-six named ones, and that stays so
(`RegisterFile.Complete`). A digit or a letter is therefore always the place of a register. A letter
and its small letter have the same place, and no other letters share one. A deleted text moves the
texts of the numbered registers one place on.
-/

namespace ModalEditor

/-! ## Digits and letters -/

theorem isDigit_iff {c : Char} : isDigit c = true ↔ 48 ≤ c.toNat ∧ c.toNat ≤ 57 := by
  simp only [isDigit, Bool.and_eq_true, decide_eq_true_eq, Char.le_def, UInt32.le_iff_toNat_le]
  rfl

theorem isLowerLetter_iff {c : Char} : isLowerLetter c = true ↔ 97 ≤ c.toNat ∧ c.toNat ≤ 122 := by
  simp only [isLowerLetter, Bool.and_eq_true, decide_eq_true_eq, Char.le_def,
    UInt32.le_iff_toNat_le]
  rfl

theorem isLetter_iff {c : Char} :
    isLetter c = true ↔ isLowerLetter c = true ∨ 65 ≤ c.toNat ∧ c.toNat ≤ 90 := by
  simp only [isLetter, Bool.or_eq_true, Bool.and_eq_true, decide_eq_true_eq, Char.le_def,
    UInt32.le_iff_toNat_le]
  rfl

/-- No digit is a letter. -/
theorem not_isLetter_of_isDigit {c : Char} (hc : isDigit c = true) : isLetter c = false := by
  rw [isDigit_iff] at hc
  rw [← Bool.not_eq_true, isLetter_iff, isLowerLetter_iff]
  omega

theorem not_isDigit_of_isLetter {c : Char} (hc : isLetter c = true) : isDigit c = false := by
  cases hdigit : isDigit c with
  | false => rfl
  | true =>
    rw [not_isLetter_of_isDigit hdigit] at hc
    cases hc

theorem isUpper_iff {c : Char} : c.isUpper = true ↔ 65 ≤ c.toNat ∧ c.toNat ≤ 90 := by
  have hcapital : c.isUpper = true ↔ 'A'.val ≤ c.val ∧ c.val ≤ 'Z'.val := decide_eq_true_iff
  rw [hcapital, UInt32.le_iff_toNat_le, UInt32.le_iff_toNat_le]
  rfl

theorem isUpper_eq (c : Char) : c.isUpper = (isLetter c && !isLowerLetter c) := by
  rw [Bool.eq_iff_iff, Bool.and_eq_true, Bool.not_eq_true', ← Bool.not_eq_true, isUpper_iff,
    isLetter_iff, isLowerLetter_iff]
  omega

/-- The small letter of a capital one is thirty-two places on. -/
theorem toNat_toLower (c : Char) :
    c.toLower.toNat = if c.isUpper then c.toNat + 32 else c.toNat := by
  unfold Char.toLower
  split
  · rename_i hcap
    have hle : c.toNat ≤ 90 := UInt32.le_iff_toNat_le.mp hcap.2
    have hupper : c.isUpper = true := decide_eq_true hcap
    have hsum : (c.val + ('a'.val - 'A'.val)).toNat = (c.toNat + 32) % 2 ^ 32 := rfl
    rw [if_pos hupper]
    exact hsum.trans (Nat.mod_eq_of_lt (by omega))
  · rename_i hcap
    have hupper : ¬ c.isUpper = true := fun h => hcap (of_decide_eq_true h)
    rw [if_neg hupper]

namespace RegisterFile

theorem digitIndex_lt {c : Char} (hc : isDigit c = true) : digitIndex c < 10 := by
  have hle := (isDigit_iff.mp hc).2
  have hzero : '0'.toNat = 48 := rfl
  unfold digitIndex
  omega

theorem letterIndex_lt {c : Char} (hc : isLetter c = true) : letterIndex c < 26 := by
  have ha : 'a'.toNat = 97 := rfl
  have hA : 'A'.toNat = 65 := rfl
  unfold letterIndex
  split
  · rename_i hlow
    have hle := (isLowerLetter_iff.mp hlow).2
    omega
  · rename_i hlow
    have hle := ((isLetter_iff.mp hc).resolve_left hlow).2
    omega

theorem digitIndex_inj {c name : Char} (hc : isDigit c = true) (hname : isDigit name = true)
    (h : digitIndex c = digitIndex name) : c = name := by
  have hzero : '0'.toNat = 48 := rfl
  have hc' := (isDigit_iff.mp hc).1
  have hname' := (isDigit_iff.mp hname).1
  unfold digitIndex at h
  exact Char.toNat_inj.mp (by omega)

theorem letterIndex_inj {c name : Char} (hc : isLowerLetter c = true)
    (hname : isLowerLetter name = true) (h : letterIndex c = letterIndex name) : c = name := by
  have ha : 'a'.toNat = 97 := rfl
  have hc' := (isLowerLetter_iff.mp hc).1
  have hname' := (isLowerLetter_iff.mp hname).1
  unfold letterIndex at h
  rw [if_pos hc, if_pos hname] at h
  exact Char.toNat_inj.mp (by omega)

/-- A letter has the place of a small letter if that is its small letter. -/
theorem letterIndex_eq_iff {c name : Char} (hc : isLowerLetter c = true)
    (hname : isLetter name = true) : letterIndex name = letterIndex c ↔ name.toLower = c := by
  have ha : 'a'.toNat = 97 := rfl
  have hA : 'A'.toNat = 65 := rfl
  have hlow := isLowerLetter_iff.mp hc
  have hlower := toNat_toLower name
  rw [← Char.toNat_inj, hlower, isUpper_eq, hname]
  unfold letterIndex
  rw [if_pos hc]
  cases hl : isLowerLetter name with
  | true =>
    have hle := isLowerLetter_iff.mp hl
    simp only [Bool.not_true, Bool.and_false, if_true, Bool.false_eq_true, if_false]
    omega
  | false =>
    have hle := (isLetter_iff.mp hname).resolve_left (by simp [hl])
    simp only [Bool.not_false, Bool.and_true, if_true, Bool.false_eq_true, if_false]
    omega

theorem isLowerLetter_toLower {name : Char} (hname : isLetter name = true) :
    isLowerLetter name.toLower = true := by
  rw [isLowerLetter_iff, toNat_toLower]
  split
  · rename_i hupper
    have hle := isUpper_iff.mp hupper
    omega
  · rename_i hupper
    rw [isUpper_iff] at hupper
    exact isLowerLetter_iff.mp ((isLetter_iff.mp hname).resolve_right hupper)

/-- Only letters have small letters. -/
theorem isLetter_of_toLower {c name : Char} (hc : isLowerLetter c = true)
    (hname : name.toLower = c) : isLetter name = true := by
  have hlow := isLowerLetter_iff.mp hc
  have hlower := toNat_toLower name
  rw [hname] at hlower
  rw [isLetter_iff, isLowerLetter_iff]
  split at hlower
  · rename_i hupper
    exact .inr (isUpper_iff.mp hupper)
  · exact .inl (hlower ▸ hlow)

/-! ## Numbered registers -/

theorem get?_digit (f : RegisterFile) {k : Nat} (hk : k < 10) :
    f.get? (some (Nat.digitChar k)) = some (f.numbered.getD k .empty) := by
  have hcases : k = 0 ∨ k = 1 ∨ k = 2 ∨ k = 3 ∨ k = 4 ∨ k = 5 ∨ k = 6 ∨ k = 7 ∨ k = 8 ∨ k = 9 := by
    omega
  rcases hcases with rfl | rfl | rfl | rfl | rfl | rfl | rfl | rfl | rfl | rfl <;> rfl

variable {f : RegisterFile}

theorem get?_of_isDigit {name : Char} (hname : isDigit name = true) :
    f.get? (some name) = some (f.numbered.getD (digitIndex name) .empty) := by
  have hquote : name ≠ '"' := by
    rintro rfl
    cases hname
  rw [get?, if_neg hquote, not_isLetter_of_isDigit hname, hname]
  rfl

theorem get?_of_isLowerLetter {name : Char} (hname : isLowerLetter name = true) :
    f.get? (some name) = some (f.named.getD (letterIndex name) .empty) := by
  have hquote : name ≠ '"' := by
    rintro rfl
    cases hname
  rw [get?, if_neg hquote, isLetter_iff.mpr (.inl hname)]
  rfl

theorem write_of_isDigit {name : Char} (hname : isDigit name = true) (content : Register) :
    f.write (some name) content =
      { f with numbered := f.numbered.set (digitIndex name) content } := by
  have hletter := not_isLetter_of_isDigit hname
  have hlow : isLowerLetter name = false := (Bool.or_eq_false_iff.mp hletter).1
  simp [write, hlow, hletter, hname]

theorem write_of_isLowerLetter {name : Char} (hname : isLowerLetter name = true)
    (content : Register) :
    f.write (some name) content =
      { f with named := f.named.set (letterIndex name) content } := by
  simp [write, hname]

/-- The text that was yanked last stays where it is. -/
theorem getElem?_pushDelete_zero (hf : f.numbered ≠ []) (content : Register) :
    (f.pushDelete content).numbered[0]? = f.numbered[0]? := by
  unfold pushDelete
  match f.numbered, hf with
  | yanked :: deletes, _ => rfl

/-- The new text is in front of those that were deleted before. -/
theorem getElem?_pushDelete_succ (hf : f.numbered ≠ []) (content : Register) {k : Nat}
    (hk : k < 9) :
    (f.pushDelete content).numbered[k + 1]? = if k = 0 then some content else f.numbered[k]? := by
  unfold pushDelete
  match f.numbered, hf with
  | yanked :: deletes, _ =>
    cases k with
    | zero => rfl
    | succ k =>
      have hk' : k < 8 := by omega
      simp [hk']

/-- A text stays in its register if it is written to another one as well. -/
theorem getElem?_numbered_write {content : Register} {k : Nat} (target : Option Char)
    (hk : f.numbered[k]? = some content) :
    (f.write target content).numbered[k]? = some content := by
  unfold write
  split
  · exact hk
  · rename_i name
    by_cases hlow : isLowerLetter name
    · rwa [if_pos hlow]
    by_cases hletter : isLetter name
    · rwa [if_neg hlow, if_pos hletter]
    by_cases hdigit : isDigit name
    · rw [if_neg hlow, if_neg hletter, if_pos hdigit]
      have hlt := (List.getElem?_eq_some_iff.mp hk).1
      dsimp only
      rw [List.getElem?_set]
      split
      · rename_i hsame
        rw [if_pos (hsame ▸ hlt)]
      · exact hk
    · rwa [if_neg hlow, if_neg hletter, if_neg hdigit]

/-- A deleted text is the last delete, whatever other register it is written to. -/
theorem getElem?_recordDelete (hf : f.numbered ≠ []) (target : Option Char) (content : Register) :
    (f.recordDelete target content).numbered[1]? = some content :=
  getElem?_numbered_write target (getElem?_pushDelete_succ hf content (by decide))

theorem get?_lastDelete (hf : f.numbered ≠ []) (target : Option Char) (content : Register) :
    (f.recordDelete target content).get? (some '1') = some content := by
  have hget := (f.recordDelete target content).get?_digit (k := 1) (by decide)
  rw [List.getD_eq_getElem?_getD, getElem?_recordDelete hf] at hget
  exact hget

/-! ## No register is lost -/

/-- There is a register for every digit and for every letter. -/
structure Complete (f : RegisterFile) : Prop where
  /-- There are ten numbered registers. -/
  numbered : f.numbered.length = 10
  /-- There are twenty-six named registers. -/
  named : f.named.length = 26

theorem Complete.nonempty (hf : f.Complete) : f.numbered ≠ [] :=
  List.ne_nil_of_length_eq_add_one hf.numbered

theorem complete_new : ({} : RegisterFile).Complete := ⟨rfl, rfl⟩

theorem Complete.write (hf : f.Complete) (target : Option Char) (content : Register) :
    (f.write target content).Complete := by
  unfold RegisterFile.write
  split
  · exact hf
  split
  · exact ⟨hf.numbered, by simpa using hf.named⟩
  split
  · exact ⟨hf.numbered, by simpa using hf.named⟩
  split
  · exact ⟨by simpa using hf.numbered, hf.named⟩
  · exact hf

theorem Complete.set (hf : f.Complete) (target : Option Char) (content : Register) :
    (f.set target content).Complete :=
  ⟨(hf.write target content).numbered, (hf.write target content).named⟩

theorem Complete.pushDelete (hf : f.Complete) (content : Register) :
    (f.pushDelete content).Complete := by
  refine ⟨?_, hf.named⟩
  have hlen := hf.numbered
  simp [RegisterFile.pushDelete, hlen]

theorem Complete.recordDelete (hf : f.Complete) (target : Option Char) (content : Register) :
    (f.recordDelete target content).Complete := (hf.pushDelete content).set target content

theorem Complete.yanked (hf : f.Complete) (content : Register) :
    ({ f with numbered := f.numbered.set 0 content } : RegisterFile).Complete :=
  ⟨by simpa using hf.numbered, hf.named⟩

theorem Complete.recordYank (hf : f.Complete) (target : Option Char) (content : Register) :
    (f.recordYank target content).Complete := (hf.yanked content).set target content

end RegisterFile
end ModalEditor
