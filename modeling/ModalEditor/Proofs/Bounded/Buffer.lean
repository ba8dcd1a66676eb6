import ModalEditor.Proofs.Bounded.Basic
import ModalEditor.Proofs.Buffer.Evolution
import ModalEditor.Proofs.Buffer.RoundTrip

/-!
# Bounded operations on buffers

The operations on buffers, as bounded computations. On a buffer that is held in memory and whose
cursor and marks fit, each gives what the operation of the editor gives. An operation that takes a
span needs one that does not run backwards and ends in the buffer.
-/

namespace ModalEditor

/-- Number of characters of some lines, with a break for every line. -/
def extent : List Text → Nat
  | [] => 0
  | l :: ls => l.length + 1 + extent ls

theorem extent_cons (l : Text) (ls : List Text) : extent (l :: ls) = l.length + 1 + extent ls := rfl

/-- The lines of the buffer are held in memory. -/
def Buffer.Held (b : Buffer) : Prop := extent b.lines < memoryLimit

theorem length_le_extent (lines : List Text) : lines.length ≤ extent lines := by
  induction lines with
  | nil => exact Nat.le_refl 0
  | cons l ls ih =>
    rw [extent_cons, List.length_cons]
    omega

theorem length_lt_extent {lines : List Text} {l : Text} (hl : l ∈ lines) :
    l.length < extent lines := by
  induction lines with
  | nil => cases hl
  | cons m ls ih =>
    rw [extent_cons]
    rcases List.mem_cons.mp hl with rfl | hl
    · omega
    · have := ih hl
      omega

theorem Buffer.Held.lines_lt {b : Buffer} (h : b.Held) : b.lines.length < memoryLimit :=
  Nat.lt_of_le_of_lt (length_le_extent b.lines) h

theorem Buffer.Held.lineLength_lt {b : Buffer} (h : b.Held) (n : Nat) :
    b.lineLength n < memoryLimit := by
  unfold lineLength line
  rw [List.getD_eq_getElem?_getD]
  cases hl : b.lines[n]? with
  | none => exact memoryLimit_pos
  | some l => exact Nat.lt_trans (length_lt_extent (List.mem_of_getElem? hl)) h

/-- The line after a line of the buffer is a word. -/
theorem Buffer.Held.add_one_lt {b : Buffer} (h : b.Held) {n : Nat} (hn : n < b.lines.length) :
    n + 1 < wordLimit :=
  succ_lt_wordLimit (Nat.lt_trans hn h.lines_lt)

/-- The span does not run backwards and ends in the buffer. -/
structure LineSpan.Within (s : LineSpan) (b : Buffer) : Prop where
  /-- It does not run backwards. -/
  ordered : s.first ≤ s.last
  /-- It ends in the buffer. -/
  last_lt : s.last < b.lines.length

namespace Bounded

/-! ## Texts of files -/

/-- The ending of most lines of a text. -/
def detect (t : Text) : Checked LineEnding := do
  let (total, paired) := LineEnding.countBreaks t
  return if (← sub total paired) < paired then .dos else .unix

/-- A buffer with the text of a file. -/
def ofText (path : Option Path) (t : Text) : Checked Buffer := do
  let ending ← detect t
  let pieces := (Text.splitLines t).map (Text.dropFinal '\r')
  let finalBreak := t.getLast? = some '\n'
  return { Buffer.ofLines path (if finalBreak then pieces.dropLast else pieces) ending with
    finalBreak }

/-- The buffer is one empty line. -/
def isBlank (b : Buffer) : Checked Bool := do
  if b.lines.length = 1 then return (← item b.lines 0).isEmpty else return false

/-- The text of the file. -/
def toText (b : Buffer) : Checked Text := do
  let t := Text.join b.ending.text b.lines
  let whole ← if b.finalBreak then
    if b.isNew then do pure !(← isBlank b) else pure true
  else pure false
  return if whole then t ++ b.ending.text else t

/-! ## Cursor and marks -/

/-- The last line. -/
def lastLine (b : Buffer) : Checked Nat := sub b.lines.length 1

/-- All lines. -/
def wholeSpan (b : Buffer) : Checked LineSpan := do span 0 (← lastLine b)

/-- Moves the cursor to a line, or to the last one if there are not so many. -/
def goTo (b : Buffer) (n : Nat) : Checked Buffer := do
  let last ← lastLine b
  return { b with current := min n last }

/-- Sets a mark. -/
def setMark (b : Buffer) (name : Char) (n : Nat) : Checked (Except EditorError Buffer) := do
  if !isLowerLetter name then
    return .error (.invalidArgument ("mark name: ".toList ++ [name]))
  else if b.lines.length ≤ n then return .error (.lineOutOfRange (← add n 1))
  else return .ok { b with marks := Buffer.insertMark name n b.marks }

/-! ## Lines -/

/-- The lines of a span. -/
def linesOf (b : Buffer) (s : LineSpan) : Checked (List Text) := do
  piece b.lines s.first (← add s.last 1)

/-- Replaces the text of a line. -/
def setLine (b : Buffer) (n : Nat) (t : Text) : Checked Buffer := do
  let lines ← setItem b.lines n t
  return { b with lines, modified := true }

/-- Marks with their lines moved. -/
def moveMarks (move : Nat → Checked Nat) (marks : List (Char × Nat)) :
    Checked (List (Char × Nat)) :=
  marks.mapM fun m => do return (m.1, ← move m.2)

/-- The marks whose lines pass a test. -/
def keepMarks (test : Nat → Checked Bool) : List (Char × Nat) → Checked (List (Char × Nat))
  | [] => return []
  | m :: marks => do
    let kept ← test m.2
    let rest ← keepMarks test marks
    return if kept then m :: rest else rest

/-- The place of line `n` once `count` lines up to `last` are out. -/
def moveUp (last count n : Nat) : Checked Nat := if last < n then sub n count else return n

/-- The place of line `n` once `count` lines are put in front of line `place`. -/
def moveDown (place count n : Nat) : Checked Nat := if place ≤ n then add n count else return n

/-- The place of line `n` once `count` lines are in the place of `size` lines up to `last`. -/
def moveBy (last size count n : Nat) : Checked Nat := do
  if last < n then sub (← add n count) size else return n

/-- A mark on line `n` outlives the replacement of a span by `count` lines. -/
def outlives (s : LineSpan) (count n : Nat) : Checked Bool := do
  if s.contains n then return (← sub n s.first) < count else return true

/-- Takes the lines of a span out. Gives them and the buffer without them. -/
def removeLines (b : Buffer) (s : LineSpan) : Checked (List Text × Buffer) := do
  let count ← spanSize s
  let stop ← add s.last 1
  let removed ← piece b.lines s.first stop
  let lines := Buffer.orBlank (← splice b.lines s.first stop [])
  let marks ← moveMarks (moveUp s.last count) (b.marks.filter fun m => !s.contains m.2)
  let last ← sub lines.length 1
  let current ←
    if s.contains b.current then pure (min s.first last) else moveUp s.last count b.current
  return (removed, { b with lines, marks, current, modified := true })

/-- Puts new lines in front of line `place`, or at the end. -/
def insertLines (b : Buffer) (place : Nat) (new : List Text) : Checked Buffer := do
  if new.isEmpty then return b
  let place := min place b.lines.length
  let lines ← splice b.lines place place new
  held lines.length
  let marks ← moveMarks (moveDown place new.length) b.marks
  let current ← moveDown place new.length b.current
  return { b with lines, marks, current, modified := true }

/-- Puts new lines in the place of a span. -/
def replaceLines (b : Buffer) (s : LineSpan) (new : List Text) : Checked Buffer := do
  let size ← spanSize s
  let stop ← add s.last 1
  let lines ← splice b.lines s.first stop new
  held lines.length
  let lines := Buffer.orBlank lines
  let kept ← keepMarks (outlives s new.length) b.marks
  let marks ← moveMarks (moveBy s.last size new.length) kept
  let moved ← moveBy s.last size new.length b.current
  let current := min moved (← sub lines.length 1)
  return { b with lines, marks, current, modified := true }

/-! ## They give what the editor gives -/

theorem paired_le_total (t : Text) :
    (LineEnding.countBreaks t).2 ≤ (LineEnding.countBreaks t).1 := by
  obtain ⟨xs, y, rfl, hxs, hy⟩ := Text.exists_endLines t
  rw [LineEnding.countBreaks_endLines hxs hy]
  exact List.countP_le_length

theorem detect_eq (t : Text) : detect t = .ok (LineEnding.detect t) := by
  unfold detect LineEnding.detect
  dsimp only
  rw [sub_eq (paired_le_total t)]
  rfl

theorem ofText_eq (path : Option Path) (t : Text) : ofText path t = .ok (.ofText path t) := by
  unfold ofText
  rw [detect_eq]
  rfl

theorem isBlank_eq (b : Buffer) : isBlank b = .ok b.isBlank := by
  unfold isBlank Buffer.isBlank
  rcases b.lines with _ | ⟨l, _ | ⟨m, ls⟩⟩
  · rfl
  · cases l <;> rfl
  · rw [if_neg (by simp), decide_eq_false (by simp)]
    rfl

theorem toText_eq (b : Buffer) : toText b = .ok b.toText := by
  unfold toText Buffer.toText
  rw [isBlank_eq]
  cases b.finalBreak <;> cases b.isNew <;> cases b.isBlank <;> rfl

variable {b : Buffer} {s : LineSpan}

theorem orBlank_pos (lines : List Text) : 1 ≤ (Buffer.orBlank lines).length := by
  rw [Buffer.length_orBlank]
  omega

theorem lastLine_eq (h : b.lines ≠ []) : lastLine b = .ok b.lastLine :=
  sub_eq (List.length_pos_iff.mpr h)

theorem wholeSpan_eq (h : b.lines ≠ []) : wholeSpan b = .ok b.wholeSpan := by
  unfold wholeSpan
  rw [lastLine_eq h, ok_bind, span_eq (Nat.zero_le _)]
  rfl

theorem goTo_eq (h : b.lines ≠ []) (n : Nat) : goTo b n = .ok (b.goTo n) := by
  unfold goTo
  rw [lastLine_eq h]
  rfl

theorem setMark_eq (b : Buffer) (name : Char) {n : Nat} (hn : n + 1 < wordLimit) :
    setMark b name n = .ok (b.setMark name n) := by
  unfold setMark Buffer.setMark
  rw [add_eq hn]
  split
  · rfl
  split <;> rfl

theorem linesOf_eq (hs : s.first ≤ s.last) (hl : s.last < b.lines.length)
    (hb : b.lines.length < memoryLimit) : linesOf b s = .ok (b.linesOf s) := by
  unfold linesOf
  rw [add_one_of_lt (Nat.lt_trans hl hb), ok_bind, piece_eq (by omega) (by omega)]
  rfl

theorem setLine_eq {n : Nat} (hn : n < b.lines.length) (t : Text) :
    setLine b n t = .ok (b.setLine n t) := by
  unfold setLine
  rw [setItem_eq hn]
  rfl

theorem moveMarks_eq {move : Nat → Checked Nat} {marks : List (Char × Nat)} (move' : Nat → Nat)
    (h : ∀ m ∈ marks, move m.2 = .ok (move' m.2)) :
    moveMarks move marks = .ok (marks.map fun m => (m.1, move' m.2)) :=
  mapM_eq fun m hm => by rw [h m hm]; rfl

theorem keepMarks_eq {test : Nat → Checked Bool} {marks : List (Char × Nat)}
    (test' : Nat → Bool) (h : ∀ m ∈ marks, test m.2 = .ok (test' m.2)) :
    keepMarks test marks = .ok (marks.filter fun m => test' m.2) := by
  induction marks with
  | nil => rfl
  | cons m marks ih =>
    rw [keepMarks, h m List.mem_cons_self, ok_bind,
      ih fun n hn => h n (List.mem_cons_of_mem m hn), ok_bind, List.filter_cons]
    rfl

theorem moveUp_eq {last count n : Nat} (h : count ≤ last + 1) :
    moveUp last count n = .ok (if last < n then n - count else n) := by
  unfold moveUp
  split
  · rw [sub_eq (by omega)]
  · rfl

theorem moveDown_eq {place count n : Nat} (h : n + count < wordLimit) :
    moveDown place count n = .ok (if place ≤ n then n + count else n) := by
  unfold moveDown
  split
  · rw [add_eq h]
  · rfl

theorem moveBy_eq {last size count n : Nat} (hs : size ≤ last + 1) (h : n + count < wordLimit) :
    moveBy last size count n = .ok (if last < n then n + count - size else n) := by
  unfold moveBy
  split
  · rw [add_eq h, ok_bind, sub_eq (by omega)]
  · rfl

theorem outlives_eq (s : LineSpan) (count n : Nat) :
    outlives s count n = .ok (!s.contains n || n - s.first < count) := by
  unfold outlives
  cases hn : s.contains n with
  | false => rfl
  | true =>
    have hle : s.first ≤ n := by
      simp only [LineSpan.contains, Bool.and_eq_true, decide_eq_true_eq] at hn
      exact hn.1
    rw [if_pos rfl, sub_eq hle]
    rfl

theorem removeLines_eq (hs : s.first ≤ s.last) (hl : s.last < b.lines.length)
    (hb : b.lines.length < memoryLimit) :
    removeLines b s = .ok (b.linesOf s, b.removeLines s) := by
  have hstop : s.last + 1 < wordLimit := succ_lt_wordLimit (Nat.lt_trans hl hb)
  have hsize : s.size ≤ s.last + 1 := by unfold LineSpan.size; omega
  unfold removeLines
  rw [spanSize_eq hs hstop, ok_bind, add_eq hstop, ok_bind, piece_eq (by omega) (by omega), ok_bind,
    splice_eq (by omega) (by omega), ok_bind,
    moveMarks_eq (fun n => if s.last < n then n - s.size else n) fun m _ => moveUp_eq hsize,
    ok_bind, sub_eq (orBlank_pos _), ok_bind, moveUp_eq hsize]
  unfold Buffer.removeLines
  rw [List.append_nil]
  cases s.contains b.current <;> rfl

-- Both bounds are needed: a span past the end and one that runs backwards are faults.
example : removeLines (.ofText none "a\nb".toList) ⟨1, 2⟩ = .error .outOfBounds := rfl
example : removeLines (.ofText none "a\nb".toList) ⟨1, 0⟩ = .error .belowZero := rfl

theorem insertLines_gives (hb : b.Fits) (place : Nat) (new : List Text) :
    Gives (insertLines b place new) (b.insertLines place new) True := by
  unfold insertLines Buffer.insertLines
  by_cases hnew : new.isEmpty = true
  · rw [if_pos hnew, if_pos hnew]
    exact .of_eq rfl
  · rw [if_neg hnew, if_neg hnew]
    have hplace : min place b.lines.length ≤ b.lines.length := Nat.min_le_right _ _
    dsimp only
    rw [splice_eq (Nat.le_refl _) hplace, ok_bind]
    refine .held_bind fun hheld => ?_
    have hfit : ∀ n < b.lines.length, n + new.length < wordLimit := by
      intro n hn
      simp only [List.length_append, List.length_take, List.length_drop] at hheld
      rw [wordLimit_eq]
      omega
    rw [moveMarks_eq (fun n => if min place b.lines.length ≤ n then n + new.length else n)
        fun m hm => moveDown_eq (hfit _ (hb.marks m hm).2), ok_bind,
      moveDown_eq (hfit _ hb.current_lt)]
    exact .of_eq rfl

theorem replaceLines_gives (hb : b.Fits) (hs : s.first ≤ s.last) (hl : s.last < b.lines.length)
    (hlen : b.lines.length < memoryLimit) (new : List Text) :
    Gives (replaceLines b s new) (b.replaceLines s new) True := by
  have hstop : s.last + 1 < wordLimit := succ_lt_wordLimit (Nat.lt_trans hl hlen)
  have hsize : s.size ≤ s.last + 1 := by unfold LineSpan.size; omega
  unfold replaceLines Buffer.replaceLines
  rw [spanSize_eq hs hstop, ok_bind, add_eq hstop, ok_bind, splice_eq (by omega) (by omega),
    ok_bind]
  refine .held_bind fun hheld => ?_
  have hfit : ∀ n < b.lines.length, n + new.length < wordLimit := by
    intro n hn
    simp only [List.length_append] at hheld
    rw [wordLimit_eq]
    omega
  rw [keepMarks_eq (fun n => !s.contains n || n - s.first < new.length)
      fun m _ => outlives_eq s new.length m.2, ok_bind,
    moveMarks_eq (fun n => if s.last < n then n + new.length - s.size else n)
      fun m hm => moveBy_eq hsize (hfit _ (hb.marks m (List.mem_filter.mp hm).1).2),
    ok_bind, moveBy_eq hsize (hfit _ hb.current_lt), ok_bind, sub_eq (orBlank_pos _)]
  exact .of_eq rfl

end Bounded
end ModalEditor
