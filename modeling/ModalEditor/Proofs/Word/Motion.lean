import ModalEditor.Proofs.Word.Flat

/-!
# Where word motions lead

`Buffer.OnText` says that a position is on a character of a line, or at the start of a line. The
motion backward keeps this: it stops at the start of a word, of an empty line or of the buffer
(`Word.backward_onText`). A motion that keeps it does so however often it is made (`Word.go_onText`).
-/

namespace ModalEditor

/-- The position is on a character of a line, or at the start of a line. -/
def Buffer.OnText (b : Buffer) (p : Position) : Prop :=
  p.line < b.lines.length ∧ (p.col = 0 ∨ p.col < b.lineLength p.line)

theorem Buffer.line_eq {b : Buffer} {n : Nat} (hn : n < b.lines.length) :
    b.line n = b.lines[n] := by
  simp [line, List.getD_eq_getElem?_getD, hn]

theorem Buffer.lineLength_eq {b : Buffer} {n : Nat} (hn : n < b.lines.length) :
    b.lineLength n = b.lines[n].length := congrArg List.length (line_eq hn)

theorem CharClass.of_eq_lineBreak {c : Char} : CharClass.of c = .lineBreak ↔ c = '\n' := by
  unfold CharClass.of
  by_cases hc : c = '\n'
  · simp [hc]
  · rw [if_neg hc]
    constructor
    · intro h
      split at h <;> cases h
    · intro h
      exact absurd h hc

namespace Flat

variable {b : Buffer} {i n : Nat}

/-! ## Places and positions -/

theorem position_onText {k j : Nat} (hk : k < b.lines.length)
    (hj : j = 0 ∨ j < b.lines[k].length) :
    b.OnText ((ofLines b.lines).position (lineStart b.lines k + j)) := by
  rw [position_ofLines hk (by omega)]
  refine ⟨hk, ?_⟩
  rw [Buffer.lineLength_eq hk]
  exact hj

/-- Every place of the row, and the one past its end, is in a line or at its end. -/
theorem position_le (hne : b.lines ≠ []) (hi : i ≤ (ofLines b.lines).size) :
    ((ofLines b.lines).position i).line < b.lines.length ∧
      ((ofLines b.lines).position i).col ≤
        b.lineLength ((ofLines b.lines).position i).line := by
  rw [size_ofLines] at hi
  obtain ⟨k, j, hk, hj, rfl⟩ := exists_lineStart hne hi
  rw [position_ofLines hk hj, Buffer.lineLength_eq hk]
  exact ⟨hk, hj⟩

theorem onText_of_word (hc : (ofLines b.lines).classAt? i = some .word) :
    b.OnText ((ofLines b.lines).position i) := by
  obtain ⟨k, j, hk, rfl, hchar | hbreak⟩ := exists_of_class hc
  · exact position_onText hk (.inr hchar.1)
  · cases hbreak.2.2

/-! ## Searching the row -/

theorem classAt?_none_iff (f : Flat) {k : Nat} : f.classAt? k = none ↔ f.size ≤ k := by
  simp [classAt?, size]

theorem lt_size_of_class {f : Flat} {k : Nat} {cls : CharClass} (hk : f.classAt? k = some cls) :
    k < f.size := by
  refine Nat.lt_of_not_le fun hle => ?_
  rw [f.classAt?_none_iff.mpr hle] at hk
  cases hk

theorem isWordAt_iff {f : Flat} {k : Nat} : f.isWordAt k = true ↔ f.classAt? k = some .word := by
  unfold isWordAt
  cases f.classAt? k with
  | none => simp
  | some cls => cases cls <;> decide

theorem skipWord_le (f : Flat) (hi : i ≤ f.size) : f.skipWord i n ≤ f.size := by
  fun_induction skipWord f i n with
  | case1 => exact hi
  | case2 i n hword ih => exact ih (lt_size_of_class (isWordAt_iff.mp hword))
  | case3 => exact hi

/-- The search for the word before ends at one, or at the start of a line. -/
theorem backOverBlanks_stop (hne : b.lines ≠ []) (hi : i < (ofLines b.lines).size) :
    (∃ j, (ofLines b.lines).backOverBlanks i = .inl j ∧
      (ofLines b.lines).classAt? j = some .word) ∨
    ∃ p, (ofLines b.lines).backOverBlanks i = .inr p ∧ b.OnText p := by
  have hzero : b.OnText ⟨0, 0⟩ := ⟨List.length_pos_iff.mpr hne, .inl rfl⟩
  fun_induction backOverBlanks (ofLines b.lines) i with
  | case1 hword => exact .inl ⟨0, rfl, hword⟩
  | case2 hword => exact .inr ⟨_, rfl, hzero⟩
  | case3 i hbreak line hempty =>
    have hline := (position_le hne (Nat.le_of_lt hi)).1
    exact .inr ⟨_, rfl, hline, .inl rfl⟩
  | case4 i hbreak line hempty ih => exact ih (by omega)
  | case5 i hblank ih => exact ih (by omega)
  | case6 i hbreak hblank =>
    refine .inl ⟨_, rfl, ?_⟩
    cases hc : (ofLines b.lines).classAt? (i + 1) with
    | none => exact absurd (classAt?_none_iff _ |>.mp hc) (by omega)
    | some cls =>
      cases cls with
      | word => rfl
      | blank => exact absurd hc hblank
      | lineBreak => exact absurd hc hbreak

theorem wordStart_word {f : Flat} (hc : f.classAt? i = some .word) :
    f.classAt? (f.wordStart i) = some .word := by
  fun_induction wordStart f i with
  | case1 => exact hc
  | case2 i hword ih => exact ih (isWordAt_iff.mp hword)
  | case3 => exact hc

end Flat

/-! ## The motions -/

namespace Word

open Flat

variable {b : Buffer} {p : Position}

theorem backward_onText (hp : b.OnText p) : b.OnText (backward b p) := by
  have hne : b.lines ≠ [] := List.ne_nil_of_length_pos (by have := hp.1; omega)
  unfold backward
  dsimp only
  cases hplace : (ofLines b.lines).place? p with
  | none => exact hp
  | some start =>
    have hle := place?_le hplace
    dsimp only
    split
    · exact hp
    · rename_i hstart
      have hpos : start ≠ 0 := by
        rintro rfl
        simp at hstart
      have hin : start - 1 < (ofLines b.lines).size := by omega
      rcases backOverBlanks_stop hne hin with ⟨j, hj, hword⟩ | ⟨q, hq, hqtext⟩
      · rw [hj]
        exact onText_of_word (wordStart_word hword)
      · rw [hq]
        exact hqtext

/-- A motion that is made several times. -/
theorem go_onText {motion : Motion} (hmotion : ∀ q, b.OnText q → b.OnText (motion b q)) (n : Nat)
    (hp : b.OnText p) : b.OnText (go motion b p n) := by
  fun_induction go motion b p n with
  | case1 => exact hp
  | case2 => exact hp
  | case3 p n q hne ih => exact ih (hmotion p hp)

end Word
end ModalEditor
