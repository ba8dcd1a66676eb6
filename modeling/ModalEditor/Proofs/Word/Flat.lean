import ModalEditor.Word

/-!
# Places in the row of a buffer

A word motion looks at a buffer as one row of characters. Line `k` starts in it at `lineStart lines k`,
and every place of the row, the one past its end included, is that of one column of one line: of a
character of the line, or of the break that ends it. `Flat.position` finds this line and column.
-/

namespace ModalEditor

namespace Flat

/-- Where line `k` starts in the row. -/
def lineStart : List Text → Nat → Nat
  | _, 0 => 0
  | [], _ + 1 => 0
  | line :: lines, k + 1 => line.length + 1 + lineStart lines k

theorem join_cons_cons (l m : Text) (ls : List Text) :
    Text.join ['\n'] (l :: m :: ls) = l ++ '\n' :: Text.join ['\n'] (m :: ls) := by
  simp [Text.join, List.intercalate]

theorem lineStart_succ {lines : List Text} {k : Nat} (hk : k < lines.length) :
    lineStart lines (k + 1) = lineStart lines k + lines[k].length + 1 := by
  induction lines generalizing k with
  | nil => simp at hk
  | cons l ls ih =>
    cases k with
    | zero => simp [lineStart]
    | succ k =>
      have hk' : k < ls.length := by simpa using hk
      have hrest := ih hk'
      simp only [lineStart, List.getElem_cons_succ] at hrest ⊢
      omega

theorem lineStart_mono (lines : List Text) {k m : Nat} (hkm : k ≤ m) :
    lineStart lines k ≤ lineStart lines m := by
  induction lines generalizing k m with
  | nil => cases k <;> simp [lineStart]
  | cons l ls ih =>
    cases k with
    | zero => simp [lineStart]
    | succ k =>
      cases m with
      | zero => omega
      | succ m =>
        have hrest := ih (show k ≤ m by omega)
        simp only [lineStart]
        omega

/-- The row is as long as the lines and the breaks between them. -/
theorem length_join {lines : List Text} (h : lines ≠ []) :
    (Text.join ['\n'] lines).length + 1 = lineStart lines lines.length := by
  induction lines with
  | nil => exact absurd rfl h
  | cons l ls ih =>
    cases ls with
    | nil => simp [Text.join, List.intercalate, lineStart]
    | cons m ls =>
      have hrest := ih (by simp)
      rw [join_cons_cons]
      simp only [List.length_append, List.length_cons, lineStart] at hrest ⊢
      omega

/-- What stands at a place of the row. -/
theorem getElem?_join {lines : List Text} {k j : Nat} (hk : k < lines.length)
    (hj : j ≤ lines[k].length) :
    (Text.join ['\n'] lines)[lineStart lines k + j]? =
      if j < lines[k].length then lines[k][j]?
      else if k + 1 < lines.length then some '\n' else none := by
  induction lines generalizing k with
  | nil => simp at hk
  | cons l ls ih =>
    cases ls with
    | nil =>
      obtain rfl : k = 0 := by simpa using hk
      have hrow : Text.join ['\n'] [l] = l := by simp [Text.join, List.intercalate]
      simp only [List.getElem_cons_zero] at hj ⊢
      by_cases hlt : j < l.length
      · simp [hrow, lineStart, hlt]
      · simp [hrow, lineStart, hlt]
    | cons m ls =>
      rw [join_cons_cons]
      cases k with
      | zero =>
        simp only [List.getElem_cons_zero] at hj ⊢
        by_cases hlt : j < l.length
        · simp [lineStart, hlt, List.getElem?_append_left hlt]
        · obtain rfl : j = l.length := by omega
          simp [lineStart]
      | succ k =>
        have hk' : k < (m :: ls).length := by simpa using hk
        have hrest := ih hk' (by simpa using hj)
        have hplace : lineStart (l :: m :: ls) (k + 1) + j =
            l.length + (lineStart (m :: ls) k + j + 1) := by
          simp only [lineStart]
          omega
        rw [hplace, List.getElem?_append_right (by omega)]
        simp only [Nat.add_sub_cancel_left, List.getElem?_cons_succ, hrest,
          List.getElem_cons_succ, List.length_cons]
        simp only [Nat.add_lt_add_iff_right]

theorem length_lineStarts (start : Nat) (lines : List Text) :
    (lineStarts start lines).length = lines.length := by
  induction lines generalizing start with
  | nil => rfl
  | cons l ls ih => simp [lineStarts, ih]

theorem getElem?_lineStarts (start : Nat) {lines : List Text} {k : Nat} (hk : k < lines.length) :
    (lineStarts start lines)[k]? = some (start + lineStart lines k) := by
  induction lines generalizing start k with
  | nil => simp at hk
  | cons l ls ih =>
    cases k with
    | zero => simp [lineStarts, lineStart]
    | succ k =>
      have hrest := ih (start + l.length + 1) (k := k) (by simpa using hk)
      simp only [lineStarts, List.getElem?_cons_succ, hrest, lineStart]
      congr 1
      omega

/-- The lines that start at a place or before are those up to the line that it lies in. -/
theorem length_takeWhile_lineStarts (start : Nat) {lines : List Text} {k j i : Nat}
    (hk : k < lines.length) (hj : j ≤ lines[k].length)
    (hi : i = start + (lineStart lines k + j)) :
    ((lineStarts start lines).takeWhile fun s => decide (s ≤ i)).length = k + 1 := by
  induction lines generalizing start k with
  | nil => simp at hk
  | cons l ls ih =>
    cases k with
    | zero =>
      simp only [List.getElem_cons_zero] at hj
      simp only [lineStart] at hi
      have hnext : (lineStarts (start + l.length + 1) ls).takeWhile
          (fun s => decide (s ≤ i)) = [] := by
        cases ls with
        | nil => rfl
        | cons m ls =>
          have hfar : ¬ start + l.length + 1 ≤ i := by omega
          simp [lineStarts, hfar]
      rw [lineStarts, List.takeWhile_cons_of_pos (by simp; omega), hnext]
      rfl
    | succ k =>
      simp only [lineStart] at hi
      have hrest := ih (start + l.length + 1) (k := k) (by simpa using hk) (by simpa using hj)
        (by omega)
      rw [lineStarts, List.takeWhile_cons_of_pos (by simp; omega), List.length_cons, hrest]

/-- Every place of the row, and the one past its end, lies in a line. -/
theorem exists_lineStart {lines : List Text} {i : Nat} (h : lines ≠ [])
    (hi : i ≤ (Text.join ['\n'] lines).length) :
    ∃ k j, ∃ hk : k < lines.length, j ≤ lines[k].length ∧ i = lineStart lines k + j := by
  induction lines generalizing i with
  | nil => exact absurd rfl h
  | cons l ls ih =>
    by_cases hl : i ≤ l.length
    · exact ⟨0, i, by simp, by simpa using hl, by simp [lineStart]⟩
    · cases ls with
      | nil =>
        simp only [Text.join, List.intercalate] at hi
        simp at hi
        omega
      | cons m ls =>
        rw [join_cons_cons] at hi
        simp only [List.length_append, List.length_cons] at hi
        obtain ⟨k, j, hk, hj, hij⟩ := ih (i := i - (l.length + 1)) (by simp) (by omega)
        refine ⟨k + 1, j, by simpa using hk, by simpa using hj, ?_⟩
        simp only [lineStart]
        omega

/-! ## The functions on rows -/

section OfLines

variable {lines : List Text} {k j : Nat}

theorem size_ofLines (lines : List Text) :
    (ofLines lines).size = (Text.join ['\n'] lines).length := by
  simp [ofLines, size]

theorem size_starts (lines : List Text) : (ofLines lines).starts.size = lines.length := by
  simp [ofLines, length_lineStarts]

theorem getElem?_starts (hk : k < lines.length) :
    (ofLines lines).starts[k]? = some (lineStart lines k) := by
  simp only [ofLines, List.getElem?_toArray, getElem?_lineStarts 0 hk, Nat.zero_add]

theorem getElem?_starts_none (hk : lines.length ≤ k) : (ofLines lines).starts[k]? = none := by
  simp only [ofLines, List.getElem?_toArray]
  rw [List.getElem?_eq_none]
  rw [length_lineStarts]
  exact hk

theorem lineLength_ofLines (hk : k < lines.length) :
    (ofLines lines).lineLength k = lines[k].length := by
  have hne : lines ≠ [] := List.ne_nil_of_length_pos (by omega)
  have hnext := lineStart_succ hk
  have hsize := length_join hne
  have hstart : (ofLines lines).starts.getD k 0 = lineStart lines k := by
    rw [Array.getD_eq_getD_getElem?, getElem?_starts hk]
    rfl
  unfold lineLength
  rw [hstart]
  by_cases hlast : k + 1 < lines.length
  · rw [getElem?_starts hlast, hnext]
    simp only [Nat.add_sub_cancel, Nat.add_sub_cancel_left]
  · have hk1 : k + 1 = lines.length := by omega
    rw [hk1, ← hsize] at hnext
    rw [getElem?_starts_none (by omega), size_ofLines]
    simp only []
    have hjoin : (Text.join ['\n'] lines).length = lineStart lines k + lines[k].length := by omega
    rw [hjoin, Nat.add_sub_cancel_left]

theorem classAt?_ofLines (hk : k < lines.length) (hj : j ≤ lines[k].length) :
    (ofLines lines).classAt? (lineStart lines k + j) =
      if j < lines[k].length then (lines[k][j]?).map CharClass.of
      else if k + 1 < lines.length then some .lineBreak else none := by
  unfold classAt?
  simp only [ofLines, List.getElem?_toArray, getElem?_join hk hj]
  split
  · rfl
  · split <;> rfl

theorem classAt?_eq_none_iff {i : Nat} : (ofLines lines).classAt? i = none ↔
    (ofLines lines).size ≤ i := by
  simp [classAt?, size, ofLines]

theorem position_ofLines (hk : k < lines.length) (hj : j ≤ lines[k].length) :
    (ofLines lines).position (lineStart lines k + j) = ⟨k, j⟩ := by
  have hcount := length_takeWhile_lineStarts 0 hk hj (Nat.zero_add _).symm
  have hstart : (ofLines lines).starts.getD k 0 = lineStart lines k := by
    rw [Array.getD_eq_getD_getElem?, getElem?_starts hk]
    rfl
  unfold position
  have hlist : (ofLines lines).starts.toList = lineStarts 0 lines := rfl
  simp only [hlist, hcount, Nat.add_sub_cancel, hstart, Nat.add_sub_cancel_left]

theorem place?_ofLines {p : Position} (hp : p.line < lines.length) :
    (ofLines lines).place? p =
      some (lineStart lines p.line + min p.col (lines[p.line].length - 1)) := by
  unfold place?
  rw [getElem?_starts hp, lineLength_ofLines hp]
  rfl

theorem place?_eq_none {p : Position} (hp : lines.length ≤ p.line) :
    (ofLines lines).place? p = none := by
  unfold place?
  rw [getElem?_starts_none hp]
  rfl

/-- The place of a position is within the row, or one past its end. -/
theorem place?_le {p : Position} {i : Nat} (hi : (ofLines lines).place? p = some i) :
    i ≤ (ofLines lines).size := by
  by_cases hp : p.line < lines.length
  · rw [place?_ofLines hp] at hi
    cases hi
    have hne : lines ≠ [] := List.ne_nil_of_length_pos (by omega)
    have hrow := length_join hne
    have hnext := lineStart_succ hp
    have hmono := lineStart_mono lines (show p.line + 1 ≤ lines.length from hp)
    rw [size_ofLines]
    omega
  · rw [place?_eq_none (by omega)] at hi
    cases hi

/-- What is known of a place from its class. -/
theorem exists_of_class {i : Nat} {cls : CharClass} (hc : (ofLines lines).classAt? i = some cls) :
    ∃ k j, ∃ hk : k < lines.length, i = lineStart lines k + j ∧
      (j < lines[k].length ∧ (lines[k][j]?).map CharClass.of = some cls ∨
        j = lines[k].length ∧ k + 1 < lines.length ∧ cls = .lineBreak) := by
  have hi : ¬ (ofLines lines).size ≤ i := by
    intro hle
    rw [classAt?_eq_none_iff.mpr hle] at hc
    cases hc
  have hne : lines ≠ [] := by
    rintro rfl
    exact hi (by simp [size_ofLines, Text.join, List.intercalate])
  rw [size_ofLines] at hi
  obtain ⟨k, j, hk, hj, rfl⟩ := exists_lineStart hne (Nat.le_of_lt (Nat.lt_of_not_le hi))
  rw [classAt?_ofLines hk hj] at hc
  refine ⟨k, j, hk, rfl, ?_⟩
  by_cases hlt : j < lines[k].length
  · rw [if_pos hlt] at hc
    exact .inl ⟨hlt, hc⟩
  · rw [if_neg hlt] at hc
    by_cases hlast : k + 1 < lines.length
    · rw [if_pos hlast] at hc
      cases hc
      exact .inr ⟨by omega, hlast, rfl⟩
    · rw [if_neg hlast] at hc
      cases hc

end OfLines

end Flat
end ModalEditor
