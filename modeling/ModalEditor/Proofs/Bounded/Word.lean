import ModalEditor.Proofs.Bounded.Buffer
import ModalEditor.Proofs.Word.Next

/-!
# Bounded word motions

The word motions look up characters in the row of a buffer and the starts of its lines. Every place
that they look up is in the row: searches forward stop at its end and searches backward at its
start, and a place behind the last character is never looked up, only turned into a position.
-/

namespace ModalEditor.Bounded

/-! ## Looking up places -/

/-- The class of the character at a place. -/
def classAt (f : Flat) (i : Nat) : Checked CharClass := do return .of (← item f.chars.toList i)

/-- Number of characters of a line. -/
def rowLineLength (f : Flat) (n : Nat) : Checked Nat := do
  let next ← add n 1
  let stop ← match f.starts[next]? with
    | some start => sub start 1
    | none => pure f.size
  sub stop (← item f.starts.toList n)

/-- The place of a position, on the last character of its line at most. -/
def placeOf (f : Flat) (p : Position) : Checked (Option Nat) := do
  match f.starts[p.line]? with
  | none => return none
  | some start => return some (← add start (min p.col ((← rowLineLength f p.line) - 1)))

/-- The position of a place. -/
def positionOf (f : Flat) (i : Nat) : Checked Position := do
  let line := (f.starts.toList.takeWhile fun start => start ≤ i).length - 1
  return ⟨line, ← sub i (← item f.starts.toList line)⟩

/-- The last line is empty and not the only one. -/
def endsEmpty (f : Flat) : Checked Bool := do
  if 1 < f.starts.size then return (← rowLineLength f (← sub f.starts.size 1)) = 0
  else return false

/-! ## Searches -/

/-- The first place from `i` on, of the next `n`, that is not part of a word. -/
def skipWord (f : Flat) (i : Nat) : Nat → Checked Nat
  | 0 => return i
  | n + 1 => do
    if i < f.size then
      if (← classAt f i) = .word then skipWord f (← add i 1) n else return i
    else return i

/-- The first place from `i` on that starts a word or an empty line, among the next `n`. -/
def skipBlanks (f : Flat) (i : Nat) : Nat → Checked Nat
  | 0 => return i
  | n + 1 => do
    if i < f.size then
      match ← classAt f i with
      | .word => return i
      | .blank => skipBlanks f (← add i 1) n
      | .lineBreak =>
        let next ← add i 1
        if next = f.size then return next
        else if (← classAt f next) = .lineBreak then return next
        else skipBlanks f next n
    else return i

/-- Goes back from `i` over blanks and breaks, `n` places at most. -/
def backOverBlanks (f : Flat) (i : Nat) : Nat → Checked (Nat ⊕ Position)
  | 0 => return .inr ⟨0, 0⟩
  | n + 1 => do
    match ← classAt f i with
    | .word => return .inl i
    | .blank => if i = 0 then return .inr ⟨0, 0⟩ else backOverBlanks f (← sub i 1) n
    | .lineBreak =>
      let line := (← positionOf f i).line
      if (← rowLineLength f line) = 0 then return .inr ⟨line, 0⟩
      else if i = 0 then return .inr ⟨0, 0⟩
      else backOverBlanks f (← sub i 1) n

/-- The start of the word that `i` is in, `n` places back at most. -/
def wordStart (f : Flat) (i : Nat) : Nat → Checked Nat
  | 0 => return i
  | n + 1 => do
    if i = 0 then return i
    else
      let before ← sub i 1
      if (← classAt f before) = .word then wordStart f before n else return i

/-- The first place from `i` on, of the next `n`, that is part of a word. -/
def findWord (f : Flat) (i : Nat) : Nat → Checked Nat
  | 0 => return i
  | n + 1 => do
    if i < f.size then
      if (← classAt f i) = .word then return i else findWord f (← add i 1) n
    else return i

/-- The last place from `i` on, of the next `n`, before one that is not part of a word. -/
def wordEnd (f : Flat) (i : Nat) : Nat → Checked Nat
  | 0 => return i
  | n + 1 => do
    if i < f.size - 1 then
      let next ← add i 1
      if (← classAt f next) = .word then wordEnd f next n else return i
    else return i

/-! ## Motions -/

/-- The first place behind the word at a place. -/
def behindWord (f : Flat) (start : Nat) : Checked Nat := do
  if (← classAt f start) = .word then skipWord f start f.size else return start

/-- The place is the end of the row, and no line starts there. -/
def atEnd (f : Flat) (i : Nat) : Checked Bool := do
  if i = f.size then return !(← endsEmpty f) else return false

/-- To the start of the next word. -/
def forward (b : Buffer) (p : Position) : Checked Position := do
  let f := Flat.ofLines b.lines
  match ← placeOf f p with
  | none => return p
  | some start =>
    if f.size = 0 then return p
    else if (← sub f.size 1) ≤ start then return p
    else
      let i ← skipBlanks f (← behindWord f start) f.size
      if (← atEnd f i) then return p else positionOf f i

/-- To the start of the word before. -/
def backward (b : Buffer) (p : Position) : Checked Position := do
  let f := Flat.ofLines b.lines
  match ← placeOf f p with
  | none => return p
  | some start =>
    if start = 0 || f.size = 0 then return p
    else
      match ← backOverBlanks f (← sub start 1) f.size with
      | .inl i => positionOf f (← wordStart f i f.size)
      | .inr stop => return stop

/-- To the last character of this word or of the next one. -/
def toEnd (b : Buffer) (p : Position) : Checked Position := do
  let f := Flat.ofLines b.lines
  match ← placeOf f p with
  | none => return p
  | some start =>
    if f.size = 0 || f.size - 1 ≤ start then return p
    else
      let i ← findWord f (← add start 1) f.size
      if f.size ≤ i then return p else positionOf f (← wordEnd f i f.size)

/-- A motion from a position in a buffer to another. -/
abbrev Motion := Buffer → Position → Checked Position

/-- Makes a motion at most `n` times, as long as it leads somewhere else. -/
def go (motion : Motion) (b : Buffer) (p : Position) : Nat → Checked Position
  | 0 => return p
  | n + 1 => do
    let q ← motion b p
    if q = p then return p else go motion b q n

/-! ## They give what the editor gives -/

/-- The row has a place for every character and every break but the last. -/
theorem size_lt_extent {lines : List Text} (h : lines ≠ []) :
    (Flat.ofLines lines).size < extent lines := by
  have hextent : ∀ lines : List Text, Flat.lineStart lines lines.length = extent lines := by
    intro lines
    induction lines with
    | nil => rfl
    | cons l ls ih =>
      rw [List.length_cons, Flat.lineStart, ih, extent_cons]
  have hrow := Flat.length_join h
  rw [Flat.size_ofLines, ← hextent]
  omega

theorem classAt_eq {f : Flat} {i : Nat} {cls : CharClass} (h : f.classAt? i = some cls) :
    classAt f i = .ok cls := by
  obtain ⟨c, hc, rfl⟩ := Option.map_eq_some_iff.mp h
  unfold classAt
  rw [item_of_getElem? (by simpa using hc)]
  rfl

section Lines

variable {lines : List Text} {i n : Nat}

theorem item_starts (hn : n < lines.length) :
    item (Flat.ofLines lines).starts.toList n = .ok (Flat.lineStart lines n) :=
  item_of_getElem? (by simpa using Flat.getElem?_starts hn)

theorem rowLineLength_eq (hn : n < lines.length) (hheld : extent lines < memoryLimit) :
    rowLineLength (Flat.ofLines lines) n = .ok ((Flat.ofLines lines).lineLength n) := by
  have hword : n + 1 < wordLimit :=
    succ_lt_wordLimit (Nat.lt_trans hn (Nat.lt_of_le_of_lt (length_le_extent lines) hheld))
  have hne : lines ≠ [] := List.ne_nil_of_length_pos (by omega)
  have hnext := Flat.lineStart_succ hn
  have hrow := Flat.length_join hne
  unfold rowLineLength
  rw [add_eq hword, ok_bind, item_starts hn, Flat.lineLength_ofLines hn]
  by_cases hlast : n + 1 < lines.length
  · rw [Flat.getElem?_starts hlast]
    dsimp only
    rw [sub_eq (by omega), ok_bind, ok_bind, sub_eq (by omega), hnext]
    congr 1
    omega
  · have hend : n + 1 = lines.length := by omega
    rw [Flat.getElem?_starts_none (by omega)]
    rw [← hend] at hrow
    have hsize := Flat.size_ofLines lines
    change sub (Flat.ofLines lines).size (Flat.lineStart lines n) = _
    rw [sub_eq (by omega)]
    congr 1
    omega

theorem placeOf_eq (p : Position) (hheld : extent lines < memoryLimit) :
    placeOf (Flat.ofLines lines) p = .ok ((Flat.ofLines lines).place? p) := by
  unfold placeOf
  by_cases hp : p.line < lines.length
  · have hne : lines ≠ [] := List.ne_nil_of_length_pos (by omega)
    have hplace := Flat.place?_ofLines hp
    have hle := Flat.place?_le hplace
    have hsize := size_lt_extent hne
    rw [Flat.getElem?_starts hp]
    dsimp only
    rw [rowLineLength_eq hp hheld, ok_bind, Flat.lineLength_ofLines hp,
      add_eq (by rw [wordLimit_eq]; omega), hplace]
    rfl
  · rw [Flat.getElem?_starts_none (by omega), Flat.place?_eq_none (by omega)]
    rfl

theorem positionOf_eq (hne : lines ≠ []) (hi : i ≤ (Flat.ofLines lines).size) :
    positionOf (Flat.ofLines lines) i = .ok ((Flat.ofLines lines).position i) := by
  rw [Flat.size_ofLines] at hi
  obtain ⟨k, j, hk, hj, rfl⟩ := Flat.exists_lineStart hne hi
  have hcount := Flat.length_takeWhile_lineStarts 0 hk hj (Nat.zero_add _).symm
  have hlist : (Flat.ofLines lines).starts.toList = Flat.lineStarts 0 lines := rfl
  rw [Flat.position_ofLines hk hj]
  unfold positionOf
  dsimp only
  rw [hlist, hcount, Nat.add_sub_cancel, ← hlist, item_starts hk, ok_bind, sub_eq (by omega)]
  rw [Nat.add_sub_cancel_left]
  rfl

theorem endsEmpty_eq (hheld : extent lines < memoryLimit) :
    endsEmpty (Flat.ofLines lines) = .ok (Flat.ofLines lines).endsEmpty := by
  unfold endsEmpty Flat.endsEmpty
  rw [Flat.size_starts]
  by_cases hmany : 1 < lines.length
  · rw [if_pos hmany, sub_eq (by omega), ok_bind, rowLineLength_eq (by omega) hheld]
    simp [hmany]
  · simp [hmany]
    rfl

end Lines

section Searches

variable {f : Flat} {i n : Nat}

theorem exists_class (hi : i < f.size) : ∃ cls, f.classAt? i = some cls := by
  cases hcls : f.classAt? i with
  | none => exact absurd ((f.classAt?_none_iff).mp hcls) (by omega)
  | some cls => exact ⟨cls, rfl⟩

/-- A place of the row is asked for a part of a word. -/
theorem classAt_bind {α : Type} (hi : i < f.size) (x y : Checked α) :
    (classAt f i >>= fun cls => if cls = .word then x else y) =
      if f.isWordAt i then x else y := by
  obtain ⟨cls, hcls⟩ := exists_class hi
  unfold Flat.isWordAt
  rw [classAt_eq hcls, ok_bind, hcls]
  cases cls <;> rfl

theorem skipWord_eq (hf : f.size < wordLimit) : skipWord f i n = .ok (f.skipWord i n) := by
  induction n generalizing i with
  | zero => rfl
  | succ n ih =>
    unfold skipWord Flat.skipWord
    by_cases hi : i < f.size
    · rw [if_pos hi, add_eq (by omega), ok_bind, ih, classAt_bind hi]
      split <;> rfl
    · rw [if_neg hi, Flat.isWordAt_eq_false_of_le (Nat.le_of_not_lt hi)]
      rfl

/-- A search that finds no word stops at the end of the row. -/
theorem findWord_eq (hf : f.size < wordLimit) (hi : i ≤ f.size) (hn : f.size ≤ i + n) :
    findWord f i n = .ok (min (f.findWord i n) f.size) := by
  induction n generalizing i with
  | zero =>
    rw [Flat.findWord, Nat.min_eq_left hi]
    rfl
  | succ n ih =>
    have hfound := Flat.le_findWord f i (n + 1)
    unfold findWord
    by_cases hlt : i < f.size
    · rw [if_pos hlt, add_eq (by omega), ok_bind, ih (by omega) (by omega), classAt_bind hlt,
        Flat.findWord]
      split
      · rw [Nat.min_eq_left hi]
        rfl
      · rfl
    · rw [if_neg hlt, Nat.min_eq_right (by omega)]
      exact congrArg Except.ok (by omega)

theorem wordEnd_eq (hf : f.size < wordLimit) : wordEnd f i n = .ok (f.wordEnd i n) := by
  induction n generalizing i with
  | zero => rfl
  | succ n ih =>
    unfold wordEnd Flat.wordEnd
    by_cases hi : i < f.size - 1
    · rw [if_pos hi, add_eq (by omega), ok_bind, ih, classAt_bind (by omega)]
      split <;> rfl
    · rw [if_neg hi, Flat.isWordAt_eq_false_of_le (by omega)]
      rfl

theorem wordEnd_lt (hi : i < f.size) : f.wordEnd i n < f.size := by
  fun_induction Flat.wordEnd f i n with
  | case1 => exact hi
  | case2 i n hword ih => exact ih (Flat.lt_size_of_class (Flat.isWordAt_iff.mp hword))
  | case3 => exact hi

theorem behindWord_eq (hf : f.size < wordLimit) (hi : i < f.size) :
    behindWord f i = .ok (f.skipWord i f.size) := by
  obtain ⟨n, hn⟩ : ∃ n, f.size = n + 1 := ⟨f.size - 1, by omega⟩
  unfold behindWord
  rw [classAt_bind hi, skipWord_eq hf]
  split
  · rfl
  · rename_i hword
    rw [hn, Flat.skipWord, if_neg hword]
    rfl

theorem skipBlanks_eq (hf : f.size < wordLimit) : skipBlanks f i n = .ok (f.skipBlanks i n) := by
  induction n generalizing i with
  | zero => rfl
  | succ n ih =>
    unfold skipBlanks Flat.skipBlanks
    by_cases hi : i < f.size
    · obtain ⟨cls, hcls⟩ := exists_class hi
      rw [if_pos hi, classAt_eq hcls, ok_bind, hcls]
      cases cls with
      | word => rfl
      | blank =>
        dsimp only
        rw [add_eq (by omega), ok_bind, ih]
      | lineBreak =>
        dsimp only
        rw [add_eq (by omega), ok_bind]
        by_cases hend : i + 1 = f.size
        · rw [if_pos hend, f.classAt?_none_iff.mpr (by omega)]
          rfl
        · obtain ⟨next, hnext⟩ := exists_class (f := f) (i := i + 1) (by omega)
          rw [if_neg hend, classAt_eq hnext, ok_bind, hnext, ih]
          cases next <;> rfl
    · rw [if_neg hi, f.classAt?_none_iff.mpr (by omega)]
      rfl

/-- A search backward that has a step for every place. -/
theorem wordStart_eq (hi : i ≤ n) (hf : i ≤ f.size) : wordStart f i n = .ok (f.wordStart i) := by
  induction n generalizing i with
  | zero =>
    obtain rfl : i = 0 := by omega
    rfl
  | succ n ih =>
    cases i with
    | zero => rfl
    | succ i =>
      unfold wordStart Flat.wordStart
      rw [if_neg (by omega), sub_eq (by omega), ok_bind, Nat.add_sub_cancel,
        ih (by omega) (by omega), classAt_bind (by omega)]
      split <;> rfl

end Searches

section Motions

variable {lines : List Text} {i n : Nat}

theorem backOverBlanks_eq (hne : lines ≠ []) (hheld : extent lines < memoryLimit) (hi : i < n)
    (hsize : i < (Flat.ofLines lines).size) :
    backOverBlanks (Flat.ofLines lines) i n = .ok ((Flat.ofLines lines).backOverBlanks i) := by
  induction n generalizing i with
  | zero => omega
  | succ n ih =>
    obtain ⟨cls, hcls⟩ := exists_class hsize
    have hpos := positionOf_eq hne (Nat.le_of_lt hsize)
    have hline : ((Flat.ofLines lines).position i).line < lines.length := by
      rw [Flat.size_ofLines] at hsize
      obtain ⟨k, j, hk, hj, rfl⟩ := Flat.exists_lineStart hne (Nat.le_of_lt hsize)
      rw [Flat.position_ofLines hk hj]
      exact hk
    have hlen := rowLineLength_eq hline hheld
    unfold backOverBlanks
    rw [classAt_eq hcls, ok_bind]
    cases i with
    | zero =>
      unfold Flat.backOverBlanks
      rw [hcls]
      cases cls with
      | word => rfl
      | blank => rfl
      | lineBreak =>
        dsimp only
        have hstart : (Flat.ofLines lines).position 0 = ⟨0, 0⟩ :=
          Flat.position_zero hne
        rw [hpos, ok_bind, hlen, ok_bind, hstart]
        dsimp only
        split
        · rfl
        · rfl
    | succ i =>
      have hrest := ih (i := i) (by omega) (by omega)
      unfold Flat.backOverBlanks
      rw [hcls]
      cases cls with
      | word => rfl
      | blank =>
        dsimp only
        rw [if_neg (by omega), sub_eq (by omega), ok_bind, Nat.add_sub_cancel, hrest]
      | lineBreak =>
        dsimp only
        rw [hpos, ok_bind, hlen, ok_bind, sub_eq (by omega), ok_bind, Nat.add_sub_cancel, hrest]
        split
        · rfl
        · rfl

theorem atEnd_eq (hheld : extent lines < memoryLimit) (hi : i ≤ (Flat.ofLines lines).size) :
    atEnd (Flat.ofLines lines) i =
      .ok ((Flat.ofLines lines).size ≤ i && !(Flat.ofLines lines).endsEmpty) := by
  unfold atEnd
  by_cases hend : i = (Flat.ofLines lines).size
  · rw [if_pos hend, endsEmpty_eq hheld, decide_eq_true (by omega)]
    rfl
  · rw [if_neg hend, decide_eq_false (by omega)]
    rfl

variable {b : Buffer} {p : Position}

theorem Held.size_lt (hne : b.lines ≠ []) (hheld : b.Held) :
    (Flat.ofLines b.lines).size < memoryLimit := Nat.lt_trans (size_lt_extent hne) hheld

theorem forward_eq (hne : b.lines ≠ []) (hheld : b.Held) (p : Position) :
    forward b p = .ok (Word.forward b p) := by
  have hsize := Held.size_lt hne hheld
  have hword : (Flat.ofLines b.lines).size < wordLimit := Nat.lt_trans hsize (by decide)
  unfold forward Word.forward
  dsimp only
  rw [placeOf_eq p hheld, ok_bind]
  cases hplace : (Flat.ofLines b.lines).place? p with
  | none => rfl
  | some start =>
    have hstart := Flat.place?_le hplace
    dsimp only
    by_cases hempty : (Flat.ofLines b.lines).size = 0
    · rw [if_pos hempty, if_pos (by omega)]
      rfl
    rw [if_neg hempty, sub_eq (by omega), ok_bind]
    by_cases hlast : (Flat.ofLines b.lines).size ≤ start + 1
    · rw [if_pos (by omega), if_pos hlast]
      rfl
    rw [if_neg (by omega), if_neg hlast]
    have hstop := (Flat.finds_nextStop (f := Flat.ofLines b.lines) (i := start) (by omega)).within
    unfold Flat.nextStop at hstop
    rw [behindWord_eq hword (by omega), ok_bind, skipBlanks_eq hword, ok_bind,
      atEnd_eq hheld hstop, ok_bind, positionOf_eq hne hstop]
    split
    · rfl
    · rfl

theorem backward_eq (hne : b.lines ≠ []) (hheld : b.Held) (p : Position) :
    backward b p = .ok (Word.backward b p) := by
  unfold backward Word.backward
  dsimp only
  rw [placeOf_eq p hheld, ok_bind]
  cases hplace : (Flat.ofLines b.lines).place? p with
  | none => rfl
  | some start =>
    have hstart := Flat.place?_le hplace
    dsimp only
    by_cases hfirst : start = 0 ∨ (Flat.ofLines b.lines).size = 0
    · rw [if_pos (by simpa using hfirst), if_pos (by simpa using hfirst)]
      rfl
    rw [not_or] at hfirst
    have hin : start - 1 < (Flat.ofLines b.lines).size := by omega
    rw [if_neg (by simpa using hfirst), if_neg (by simpa using hfirst), sub_eq (by omega), ok_bind,
      backOverBlanks_eq hne hheld hin hin, ok_bind]
    rcases Flat.backOverBlanks_stop hne hin with ⟨j, hj, hword⟩ | ⟨q, hq, -⟩
    · have hjsize := Flat.lt_size_of_class hword
      have hwordStart := Flat.lt_size_of_class (Flat.wordStart_word hword)
      rw [hj]
      dsimp only
      rw [wordStart_eq (Nat.le_of_lt hjsize) (Nat.le_of_lt hjsize), ok_bind,
        positionOf_eq hne (Nat.le_of_lt hwordStart)]
    · rw [hq]
      rfl

theorem toEnd_eq (hne : b.lines ≠ []) (hheld : b.Held) (p : Position) :
    toEnd b p = .ok (Word.toEnd b p) := by
  have hsize := Held.size_lt hne hheld
  have hword : (Flat.ofLines b.lines).size < wordLimit := Nat.lt_trans hsize (by decide)
  unfold toEnd Word.toEnd
  dsimp only
  rw [placeOf_eq p hheld, ok_bind]
  cases hplace : (Flat.ofLines b.lines).place? p with
  | none => rfl
  | some start =>
    dsimp only
    by_cases hlast : (Flat.ofLines b.lines).size ≤ start + 1
    · rw [if_pos (by simp; omega), if_pos hlast]
      rfl
    rw [if_neg (by simp; omega), if_neg hlast, add_eq (by omega), ok_bind,
      findWord_eq hword (by omega) (by omega), ok_bind]
    by_cases hnone : (Flat.ofLines b.lines).size ≤
        (Flat.ofLines b.lines).findWord (start + 1) (Flat.ofLines b.lines).size
    · rw [if_pos (by omega), if_pos hnone]
      rfl
    · have hend := wordEnd_lt (n := (Flat.ofLines b.lines).size) (Nat.lt_of_not_le hnone)
      rw [Nat.min_eq_left (by omega), if_neg hnone, if_neg hnone, wordEnd_eq hword, ok_bind,
        positionOf_eq hne (Nat.le_of_lt hend)]

/-- A motion that is made several times. -/
theorem go_eq {motion : Motion} {motion' : Word.Motion} (h : ∀ q, motion b q = .ok (motion' b q))
    (p : Position) (n : Nat) : go motion b p n = .ok (Word.go motion' b p n) := by
  induction n generalizing p with
  | zero => rfl
  | succ n ih =>
    unfold go Word.go
    rw [h, ok_bind]
    dsimp only
    split
    · rfl
    · exact ih _

/-! ## Where motions lead -/

/-- The position `q` is the position `p`, or in a line or at its end. -/
def Reaches (b : Buffer) (p q : Position) : Prop :=
  q = p ∨ q.line < b.lines.length ∧ q.col ≤ b.lineLength q.line

theorem forward_reaches (hne : b.lines ≠ []) (p : Position) :
    Reaches b p (Word.forward b p) := by
  cases hplace : (Flat.ofLines b.lines).place? p with
  | none =>
    unfold Word.forward
    dsimp only
    rw [hplace]
    exact .inl rfl
  | some start =>
    rw [Word.forward_eq hplace]
    split
    · exact .inl rfl
    · rename_i hgo
      have hstart : start < (Flat.ofLines b.lines).size := by omega
      exact .inr (Flat.position_le hne (Flat.finds_nextStop hstart).within)

theorem backward_reaches (hne : b.lines ≠ []) (p : Position) :
    Reaches b p (Word.backward b p) := by
  unfold Word.backward
  dsimp only
  cases hplace : (Flat.ofLines b.lines).place? p with
  | none => exact .inl rfl
  | some start =>
    have hstart := Flat.place?_le hplace
    dsimp only
    split
    · exact .inl rfl
    rename_i hfirst
    simp only [Bool.or_eq_true, decide_eq_true_eq, not_or] at hfirst
    have hin : start - 1 < (Flat.ofLines b.lines).size := by omega
    rcases Flat.backOverBlanks_stop hne hin with ⟨j, hj, hword⟩ | ⟨q, hq, hline, hcol⟩
    · rw [hj]
      have hstop := Flat.lt_size_of_class (Flat.wordStart_word hword)
      exact .inr (Flat.position_le hne (Nat.le_of_lt hstop))
    · rw [hq]
      exact .inr ⟨hline, by dsimp only; omega⟩

theorem toEnd_reaches (hne : b.lines ≠ []) (p : Position) : Reaches b p (Word.toEnd b p) := by
  unfold Word.toEnd
  dsimp only
  cases hplace : (Flat.ofLines b.lines).place? p with
  | none => exact .inl rfl
  | some start =>
    dsimp only
    split
    · exact .inl rfl
    split
    · exact .inl rfl
    · rename_i hfound
      have hstop := wordEnd_lt (n := (Flat.ofLines b.lines).size) (Nat.lt_of_not_le hfound)
      exact .inr (Flat.position_le hne (Nat.le_of_lt hstop))

theorem go_reaches {motion : Word.Motion} (h : ∀ q, Reaches b q (motion b q)) (p : Position)
    (n : Nat) : Reaches b p (Word.go motion b p n) := by
  fun_induction Word.go motion b p n with
  | case1 => exact .inl rfl
  | case2 => exact .inl rfl
  | case3 p n q hne ih =>
    rcases ih with hsame | hline
    · rw [hsame]
      exact h p
    · exact .inr hline

/-- A motion from a column that is held in memory leads to one. -/
theorem Reaches.col_lt {q : Position} (h : Reaches b p q) (hheld : b.Held)
    (hp : p.col < memoryLimit) : q.col < memoryLimit := by
  rcases h with rfl | ⟨-, hcol⟩
  · exact hp
  · exact Nat.lt_of_le_of_lt hcol (hheld.lineLength_lt q.line)

end Motions

end ModalEditor.Bounded
