import ModalEditor.Proofs.Bounded.Buffer

/-!
# Bounded edits within lines

What insert mode does to a buffer, and the lines that a command inserts, as bounded computations. A
column becomes a byte of the line before the line is cut there. Positions must be on a line of the
buffer; columns past the end of it count as its end.
-/

namespace ModalEditor.Bounded

/-- Inserts text at a position. Gives the column after it. -/
def insertText (b : Buffer) (p : Position) (t : Text) : Checked (Buffer × Nat) := do
  let col := min p.col (b.lineLength p.line)
  let line ← item b.lines p.line
  let (before, after) ← cut line (byteOf line col)
  let line := before ++ t ++ after
  held line.length
  let b ← setLine b p.line line
  return (b, ← add col t.length)

/-- Breaks a line in two. -/
def splitLine (b : Buffer) (p : Position) : Checked Buffer := do
  let col := min p.col (b.lineLength p.line)
  let line ← item b.lines p.line
  let (before, after) ← cut line (byteOf line col)
  let b ← setLine b p.line before
  let below ← add p.line 1
  goTo (← insertLines b below [after]) below

/-- Takes out the character before a position, or joins the line to the one above. -/
def backspace (b : Buffer) (p : Position) : Checked (Buffer × Option Position) := do
  let col := min p.col (b.lineLength p.line)
  if 0 < col then
    let line ← item b.lines p.line
    let left ← sub col 1
    let b ← setLine b p.line (← removeAt line (byteOf line left))
    return (b, some ⟨p.line, left⟩)
  else if p.line = 0 then return (b, none)
  else
    let above ← sub p.line 1
    let join := b.lineLength above
    let (removed, b) ← removeLines b (.line p.line)
    let b ← match removed with
      | [] => pure b
      | t :: _ => do setLine b above ((← item b.lines above) ++ t)
    return (← goTo b above, some ⟨above, join⟩)

/-- Opens an empty line below a line or above it. Gives the new line. -/
def openLine (b : Buffer) (n : Nat) (below : Bool) : Checked (Buffer × Nat) := do
  let place ← (if below then add n 1 else pure n)
  return (← goTo (← insertLines b place [[]]) place, place)

/-- Inserts lines below line `n` and goes to the first of them. -/
def appendLines (b : Buffer) (n : Nat) (lines : List Text) : Checked Buffer := do
  if lines.isEmpty then return b
  else
    let place ← add n 1
    goTo (← insertLines b place lines) place

variable {b : Buffer} {p : Position}

/-- A line of the buffer is the item in its place. -/
theorem item_line {n : Nat} (hn : n < b.lines.length) : item b.lines n = .ok (b.line n) := by
  rw [item_eq hn]
  simp [Buffer.line, List.getD_eq_getElem?_getD, hn]

theorem insertText_gives (hp : p.line < b.lines.length) (t : Text) :
    Gives (insertText b p t) (b.insertText p t) ((b.insertText p t).2 < memoryLimit) := by
  unfold insertText
  rw [item_line hp, ok_bind, cut_byteOf, ok_bind]
  refine .held_bind fun hheld => ?_
  have hcol : min p.col (b.lineLength p.line) + t.length < memoryLimit := by
    simp only [List.length_append, List.length_take, List.length_drop] at hheld
    unfold Buffer.lineLength
    omega
  rw [setLine_eq hp, ok_bind, add_eq (Nat.lt_trans hcol (by decide))]
  exact .inl ⟨rfl, hcol⟩

theorem splitLine_gives (hb : b.Fits) (hheld : b.Held) (hp : p.line < b.lines.length) :
    Gives (splitLine b p) (b.splitLine p) True := by
  have hfits : (b.setLine p.line ((b.line p.line).take p.col)).Fits :=
    (b.setLine_evolves _ _).fits hb
  unfold splitLine Buffer.splitLine
  rw [item_line hp, ok_bind, cut_byteOf, ok_bind, Buffer.lineLength, ← List.take_eq_take_min,
    ← List.drop_eq_drop_min]
  dsimp only
  rw [setLine_eq hp, ok_bind, add_eq (hheld.add_one_lt hp), ok_bind]
  refine (insertLines_gives hfits _ _).bind fun _ => ?_
  exact .of_eq (goTo_eq ((Buffer.insertLines_evolves _ _ _).fits hfits).nonempty _)

theorem backspace_gives (hb : b.Fits) (hheld : b.Held) (hp : p.line < b.lines.length) :
    Gives (backspace b p) (b.backspace p) True := by
  unfold backspace Buffer.backspace
  dsimp only
  rw [← Buffer.lineLength]
  by_cases hcol : 0 < min p.col (b.lineLength p.line)
  · rw [if_pos hcol, if_pos hcol, item_line hp, ok_bind, sub_eq hcol, ok_bind,
      removeAt_eq (by unfold Buffer.lineLength at hcol ⊢; omega), ok_bind, setLine_eq hp]
    exact .of_eq rfl
  rw [if_neg hcol, if_neg hcol]
  by_cases hfirst : p.line = 0
  · rw [if_pos hfirst, if_pos hfirst]
    exact .of_eq rfl
  rw [if_neg hfirst, if_neg hfirst, sub_eq (by omega), ok_bind,
    removeLines_eq (s := .line p.line) (Nat.le_refl _) hp hheld.lines_lt, ok_bind]
  have hlen := Buffer.lt_length_removeLine hp (show p.line - 1 < p.line by omega)
  have habove := b.line_removeLine (show p.line - 1 < p.line by omega)
  rw [Buffer.linesOf_line hp]
  dsimp only
  rw [item_line hlen, ok_bind, setLine_eq hlen, habove, ok_bind]
  have hfits : (b.removeLines (.line p.line)).Fits :=
    (b.removeLines_evolves (Nat.le_refl _) hp).fits hb
  rw [goTo_eq ((Buffer.setLine_evolves _ _ _).fits hfits).nonempty]
  exact .of_eq rfl

theorem openLine_gives (hb : b.Fits) (hheld : b.Held) {n : Nat} (hn : n < b.lines.length)
    (below : Bool) : Gives (openLine b n below) (b.openLine n below) True := by
  unfold openLine Buffer.openLine
  have hplace : (if below then add n 1 else pure n : Checked Nat) =
      .ok (if below then n + 1 else n) := by
    cases below with
    | false => rfl
    | true => exact add_eq (hheld.add_one_lt hn)
  rw [hplace, ok_bind]
  refine (insertLines_gives hb _ _).bind fun _ => ?_
  rw [goTo_eq ((Buffer.insertLines_evolves _ _ _).fits hb).nonempty]
  exact .of_eq rfl

theorem appendLines_gives (hb : b.Fits) (hheld : b.Held) {n : Nat} (hn : n < b.lines.length)
    (lines : List Text) : Gives (appendLines b n lines) (b.appendLines n lines) True := by
  unfold appendLines Buffer.appendLines
  by_cases hlines : lines.isEmpty = true
  · rw [if_pos hlines, if_pos hlines]
    exact .of_eq rfl
  rw [if_neg hlines, if_neg hlines, add_eq (hheld.add_one_lt hn), ok_bind]
  refine (insertLines_gives hb _ _).bind fun _ => ?_
  exact .of_eq (goTo_eq ((Buffer.insertLines_evolves _ _ _).fits hb).nonempty _)

end ModalEditor.Bounded
