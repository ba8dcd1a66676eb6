import Mathlib.Data.List.Basic
import ModalEditor.Proofs.Buffer.Evolution

/-!
# Marks follow their lines

A mark is a line number, so an edit that changes which lines there are has to move the marks along.
Each of the three operations on lines does so with arithmetic of its own. What all of them are to
do is one law: line `n` of the buffer becomes line `place n`, or is gone, and marks go with their
lines (`Buffer.Carries`). The places are those of `LineSpan.carry` where lines stand in the place of
a span, and those of `carryBelow` where lines come in between.
-/

namespace ModalEditor

/-- The marks when line `n` has become line `place n`. Marks of lines that are gone are dropped. -/
def carryMarks (place : Nat → Option Nat) (marks : List (Char × Nat)) : List (Char × Nat) :=
  marks.filterMap fun m => (place m.2).map fun n => (m.1, n)

/-- Where line `n` is when `count` lines stand in the place of a span. A line of the span stays at its
number as long as the new lines reach that far. -/
def LineSpan.carry (s : LineSpan) (count n : Nat) : Option Nat :=
  if s.contains n then (if n - s.first < count then some n else none)
  else some (if s.last < n then n + count - s.size else n)

/-- Where line `n` is when `count` lines were put in front of line `place`. -/
def carryBelow (place count n : Nat) : Option Nat := some (if place ≤ n then n + count else n)

/-- `b'` is `b` after an edit that takes line `n` to `place n` and has changed no text but that of the
lines that are `edited`. -/
structure Buffer.Carries (place : Nat → Option Nat) (edited : Nat → Prop) (b b' : Buffer) : Prop where
  /-- Every mark is where its line is, and is gone with it. -/
  marks : b'.marks = carryMarks place b.marks
  /-- A line that is not edited is there, at its place. -/
  lines : ∀ n < b.lines.length, ¬ edited n → ∃ k, place n = some k ∧ b'.lines[k]? = b.lines[n]?
  /-- The lines keep their order, so that no two of them have one place. -/
  ordered : ∀ {m n j k : Nat}, m < n → place m = some j → place n = some k → j < k

namespace LineSpan

variable {s : LineSpan} {n : Nat}

theorem contains_iff_le : s.contains n = true ↔ s.first ≤ n ∧ n ≤ s.last := by simp [contains]

theorem carry_of_lt {count : Nat} (hn : n < s.first) (hs : s.first ≤ s.last) :
    s.carry count n = some n := by
  have hout : ¬ s.contains n = true := by
    rw [contains_iff_le]
    omega
  rw [carry, if_neg hout, if_neg (by omega)]

theorem carry_of_gt {count : Nat} (hn : s.last < n) : s.carry count n = some (n + count - s.size) := by
  have hout : ¬ s.contains n = true := by
    rw [contains_iff_le]
    omega
  rw [carry, if_neg hout, if_pos hn]

theorem carry_of_contains {count : Nat} (hn : s.contains n = true) :
    s.carry count n = if n - s.first < count then some n else none := by rw [carry, if_pos hn]

/-- The lines that are gone are those of the span that the new lines do not reach. -/
theorem carry_eq_none {count : Nat} :
    s.carry count n = none ↔ s.contains n = true ∧ count ≤ n - s.first := by
  by_cases hn : s.contains n = true
  · simp [carry_of_contains hn, hn]
  · simp [carry, hn]

/-- A line of the span that is not gone stays at its number. -/
theorem eq_of_carry {count k : Nat} (hn : s.contains n = true) (hk : s.carry count n = some k) :
    k = n := by
  rw [carry_of_contains hn] at hk
  split at hk <;> cases hk
  rfl

theorem carry_ordered {count m n j k : Nat} (hs : s.first ≤ s.last) (hmn : m < n)
    (hj : s.carry count m = some j) (hk : s.carry count n = some k) : j < k := by
  simp only [carry, contains_iff_le, size] at hj hk
  grind

theorem contains_line {k : Nat} : (line k).contains n = true ↔ n = k := by
  rw [contains_iff_le]
  simp only [line]
  omega

@[simp] theorem size_line (k : Nat) : (line k).size = 1 := by simp [size, line]

/-- A line that is replaced by lines stays, and what is below it moves down. -/
theorem carry_line {k count : Nat} (hcount : 0 < count) :
    (line k).carry count n = some (if k < n then n + (count - 1) else n) := by
  simp only [carry, contains_line, size_line]
  simp only [line]
  grind

end LineSpan

theorem carryMarks_some (f : Nat → Nat) (marks : List (Char × Nat)) :
    carryMarks (fun n => some (f n)) marks = marks.map fun m => (m.1, f m.2) := by
  rw [← List.filterMap_eq_map]
  rfl

theorem carryBelow_ordered {place count m n j k : Nat} (hmn : m < n)
    (hj : carryBelow place count m = some j) (hk : carryBelow place count n = some k) : j < k := by
  simp only [carryBelow] at hj hk
  grind

namespace Buffer

variable {b b' c : Buffer} {place : Nat → Option Nat} {edited : Nat → Prop}

/-! ## Lines in a row of lines that has changed -/

/-- The blank line of a buffer without lines takes no line's place. -/
theorem getElem?_orBlank {lines : List Text} {n : Nat} {l : Text} (h : lines[n]? = some l) :
    (orBlank lines)[n]? = some l := by
  unfold orBlank
  rw [if_neg]
  · exact h
  · rintro hempty
    rw [List.isEmpty_iff.mp hempty] at h
    cases h

section Splice

variable (lines new : List Text) {first : Nat} (stop : Nat) {n : Nat}

/-- What stands in front of the place where lines are exchanged for new ones. -/
theorem getElem?_splice_of_lt (hn : n < first) (hfirst : first ≤ lines.length) :
    (lines.take first ++ new ++ lines.drop stop)[n]? = lines[n]? := by
  have hlen : (lines.take first).length = first := List.length_take_of_le hfirst
  rw [List.append_assoc, List.getElem?_append_left (by omega), List.getElem?_take_of_lt hn]

/-- What stands behind it. -/
theorem getElem?_splice_of_ge {stop : Nat} (hn : stop ≤ n) (hfirst : first ≤ lines.length) :
    (lines.take first ++ new ++ lines.drop stop)[first + new.length + (n - stop)]? = lines[n]? := by
  have hlen : (lines.take first ++ new).length = first + new.length := by
    rw [List.length_append, List.length_take_of_le hfirst]
  rw [List.getElem?_append_right (by omega), hlen, Nat.add_sub_cancel_left, List.getElem?_drop,
    Nat.add_sub_cancel' hn]

end Splice

/-! ## Closure -/

/-- What else is done to the buffer makes no difference. -/
theorem Carries.congr (h : b.Carries place edited b') (hl : c.lines = b'.lines)
    (hm : c.marks = b'.marks) : b.Carries place edited c :=
  ⟨hm.trans h.marks, fun n hn hout => by rw [hl]; exact h.lines n hn hout, h.ordered⟩

/-- A line that is written anew stays where it is. -/
theorem Carries.of_setLine {line : Nat} {t : Text} (h : (b.setLine line t).Carries place edited b') :
    b.Carries place (fun n => n = line ∨ edited n) b' := by
  refine ⟨h.marks, fun n hn hout => ?_, h.ordered⟩
  have hlen : (b.setLine line t).lines.length = b.lines.length := List.length_set
  obtain ⟨k, hk, hline⟩ := h.lines n (hlen ▸ hn) fun hedit => hout (.inr hedit)
  refine ⟨k, hk, hline.trans ?_⟩
  exact List.getElem?_set_ne fun hsame => hout (.inl hsame.symm)

/-- Nothing has happened to the lines and the marks. -/
theorem Carries.same (hl : b'.lines = b.lines) (hm : b'.marks = b.marks) :
    b.Carries some edited b' := by
  refine ⟨?_, fun n _ _ => ⟨n, rfl, by rw [hl]⟩, fun hmn hj hk => ?_⟩
  · rw [hm]
    exact List.filterMap_some.symm
  · cases hj
    cases hk
    exact hmn

theorem carryBelow_zero (place : Nat) : carryBelow place 0 = some := by
  funext n
  simp [carryBelow]

/-! ## The operations -/

theorem replaceLines_carries (b : Buffer) {s : LineSpan} (hs : s.first ≤ s.last)
    (hl : s.last < b.lines.length) (new : List Text) :
    b.Carries (s.carry new.length) (s.contains · = true) (b.replaceLines s new) := by
  refine ⟨?_, fun n hn hout => ?_, LineSpan.carry_ordered hs⟩
  · unfold replaceLines carryMarks
    dsimp only
    rw [← List.filterMap_eq_map, List.filterMap_filter]
    refine List.filterMap_congr fun m _ => ?_
    by_cases hin : s.contains m.2 = true
    · have hle := (LineSpan.contains_iff_le.mp hin).2
      rw [LineSpan.carry_of_contains hin]
      by_cases hreach : m.2 - s.first < new.length
      · simp [hin, hreach, Nat.not_lt_of_ge hle]
      · simp [hin, hreach]
    · rw [LineSpan.carry, if_neg hin]
      simp [hin]
  · rw [LineSpan.contains_iff_le] at hout
    rcases Nat.lt_or_ge n s.first with hlt | hge
    · refine ⟨n, LineSpan.carry_of_lt hlt hs, ?_⟩
      have hline := getElem?_splice_of_lt b.lines new (s.last + 1) hlt (by omega)
      rw [List.getElem?_eq_getElem hn] at hline ⊢
      exact getElem?_orBlank hline
    · refine ⟨_, LineSpan.carry_of_gt (by omega), ?_⟩
      have hbelow : s.last + 1 ≤ n := by omega
      have hwithin : s.first ≤ b.lines.length := by omega
      have hline := getElem?_splice_of_ge b.lines new hbelow hwithin
      have hplace : n + new.length - s.size = s.first + new.length + (n - (s.last + 1)) := by
        simp only [LineSpan.size]
        omega
      rw [hplace]
      rw [List.getElem?_eq_getElem hn] at hline ⊢
      exact getElem?_orBlank hline

/-- Taking lines out does to lines and marks what putting none in their place does. -/
theorem removeLines_carries (b : Buffer) {s : LineSpan} (hs : s.first ≤ s.last)
    (hl : s.last < b.lines.length) :
    b.Carries (s.carry 0) (s.contains · = true) (b.removeLines s) := by
  refine (b.replaceLines_carries hs hl []).congr ?_ ?_
  · simp [removeLines, replaceLines]
  · simp [removeLines, replaceLines]

theorem insertLines_carries (b : Buffer) (place : Nat) (new : List Text) :
    b.Carries (carryBelow (min place b.lines.length) new.length) (fun _ => False)
      (b.insertLines place new) := by
  by_cases hnew : new.isEmpty = true
  · obtain rfl := List.isEmpty_iff.mp hnew
    rw [List.length_nil, carryBelow_zero]
    exact .same rfl rfl
  rw [insertLines, if_neg hnew]
  refine ⟨?_, fun n hn _ => ⟨_, rfl, ?_⟩, carryBelow_ordered⟩
  · dsimp only
    rw [← List.filterMap_eq_map]
    rfl
  · dsimp only
    split
    · rename_i hle
      have hline := getElem?_splice_of_ge b.lines new hle (Nat.min_le_right place _)
      rw [← hline]
      congr 1
      omega
    · rename_i hlt
      exact getElem?_splice_of_lt b.lines new _ (Nat.lt_of_not_le hlt) (Nat.min_le_right place _)

theorem marks_replaceLine {n : Nat} {pieces : List Text} (hn : n < b.lines.length)
    (hp : pieces ≠ []) :
    (b.replaceLines (.line n) pieces).marks =
      b.marks.map fun m => (m.1, if n < m.2 then m.2 + (pieces.length - 1) else m.2) := by
  have hcarry : (LineSpan.line n).carry pieces.length =
      fun k => some (if n < k then k + (pieces.length - 1) else k) := by
    funext k
    exact LineSpan.carry_line (List.length_pos_iff.mpr hp)
  have hmarks := (b.replaceLines_carries (s := .line n) (Nat.le_refl n) hn pieces).marks
  rw [hcarry, carryMarks_some] at hmarks
  exact hmarks

/-! ## Edits within lines and lines that come in -/

theorem openLine_carries (b : Buffer) (n : Nat) (below : Bool) :
    b.Carries (carryBelow (min (if below then n + 1 else n) b.lines.length) 1) (fun _ => False)
      (b.openLine n below).1 := (b.insertLines_carries _ [[]]).congr rfl rfl

/-- A line that is broken in two stays where it is with its first part. -/
theorem splitLine_carries (b : Buffer) (p : Position) :
    b.Carries (carryBelow (min (p.line + 1) b.lines.length) 1) (fun n => n = p.line)
      (b.splitLine p) := by
  have hinsert := (b.setLine p.line ((b.line p.line).take p.col)).insertLines_carries (p.line + 1)
    [(b.line p.line).drop p.col]
  have hlen : (b.setLine p.line ((b.line p.line).take p.col)).lines.length = b.lines.length :=
    List.length_set
  rw [hlen] at hinsert
  have hsplit := hinsert.of_setLine
  simp only [or_false] at hsplit
  exact hsplit.congr rfl rfl

theorem appendLines_carries (b : Buffer) (n : Nat) (lines : List Text) :
    b.Carries (carryBelow (min (n + 1) b.lines.length) lines.length) (fun _ => False)
      (b.appendLines n lines) := by
  unfold appendLines
  split
  · rename_i hempty
    obtain rfl := List.isEmpty_iff.mp hempty
    rw [List.length_nil, carryBelow_zero]
    exact .same rfl rfl
  · exact (b.insertLines_carries (n + 1) lines).congr rfl rfl

end Buffer
end ModalEditor
