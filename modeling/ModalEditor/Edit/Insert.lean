import ModalEditor.Edit.Basic

/-!
# Edits within lines

What insert mode does to a buffer, the deletion of a piece of a line, and lines that come from
elsewhere. Columns past the end of a line count as its end.
-/

namespace ModalEditor

namespace Buffer

/-- Inserts text without line breaks at a position. Gives the column after it. -/
def insertText (b : Buffer) (p : Position) (t : Text) : Buffer × Nat :=
  let line := b.line p.line
  let col := min p.col line.length
  (b.setLine p.line (line.take col ++ t ++ line.drop col), col + t.length)

/-- Breaks a line in two. The second part becomes the current line. -/
def splitLine (b : Buffer) (p : Position) : Buffer :=
  let line := b.line p.line
  let b := (b.setLine p.line (line.take p.col)).insertLines (p.line + 1) [line.drop p.col]
  b.goTo (p.line + 1)

/-- Takes out the character before a position, or joins the line to the one above at its start.
Gives the position afterwards, unless there is nothing before it. -/
def backspace (b : Buffer) (p : Position) : Buffer × Option Position :=
  let line := b.line p.line
  let col := min p.col line.length
  if 0 < col then (b.setLine p.line (line.eraseIdx (col - 1)), some ⟨p.line, col - 1⟩)
  else if p.line = 0 then (b, none)
  else
    let above := b.line (p.line - 1)
    let b := (b.removeLines (.line p.line)).setLine (p.line - 1) (above ++ line)
    (b.goTo (p.line - 1), some ⟨p.line - 1, above.length⟩)

/-- Opens an empty line below a line or above it, and goes there. Gives the new line. -/
def openLine (b : Buffer) (n : Nat) (below : Bool) : Buffer × Nat :=
  let place := if below then n + 1 else n
  ((b.insertLines place [[]]).goTo place, place)

/-- Inserts lines below line `n` and goes to the first of them, if there are any. -/
def appendLines (b : Buffer) (n : Nat) (lines : List Text) : Buffer :=
  if lines.isEmpty then b else (b.insertLines (n + 1) lines).goTo (n + 1)

end Buffer

namespace Edit

/-- Deletes the characters of a line from column `start` up to `stop` and keeps them in registers.
The numbered registers do not shift. Gives what was deleted. -/
def deleteSpan (n start stop : Nat) (register : Option Char) : Edit Text := do
  let target ← takeWritable register
  let line := (← buffer).line n
  let start := min start line.length
  let stop := min stop line.length
  if stop ≤ start then return []
  let removed := (line.take stop).drop start
  modifyBuffer (·.setLine n (line.take start ++ line.drop stop))
  modifyRegisters (·.set target (.ofText removed))
  return removed

end Edit
end ModalEditor
