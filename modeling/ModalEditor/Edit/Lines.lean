import ModalEditor.Edit.Basic

/-!
# Edits of whole lines

Deleting, yanking, changing and putting lines, and putting a piece of text into a line. A put with a
count makes that many copies, but refuses to make more text than `maxPut`.
-/

namespace ModalEditor.Edit

/-- Takes the lines of a span out and keeps them in registers. Gives their number. -/
def deleteLines (s : LineSpan) (register : Option Char) : Edit Nat := do
  checkSpan s
  let target ← takeWritable register
  let removed := (← buffer).linesOf s
  modifyBuffer (·.removeLines s)
  modifyRegisters (·.recordDelete target (.ofLines removed))
  return removed.length

/-- Keeps the lines of a span in registers and leaves the buffer alone. Gives their number. -/
def yankLines (s : LineSpan) (register : Option Char) : Edit Nat := do
  checkSpan s
  let target ← takeWritable register
  let lines := (← buffer).linesOf s
  modifyRegisters (·.recordYank target (.ofLines lines))
  return s.size

/-- Puts an empty line in the place of a span and keeps the old lines in registers. -/
def changeLines (s : LineSpan) (register : Option Char) : Edit Unit := do
  checkSpan s
  let target ← takeWritable register
  let removed := (← buffer).linesOf s
  modifyBuffer fun b => (b.replaceLines s [[]]).goTo s.first
  modifyRegisters (·.recordDelete target (.ofLines removed))

/-- Most lines that one put may insert, or bytes for a put into a line. -/
def maxPut : Nat := 0x1000000

/-- Fails if copies of something of size `unit` are too much. -/
def checkPut (unit count : Nat) : Edit Unit := do
  if maxPut < unit * max count 1 then throw .textTooLong

/-- Puts copies of a register as lines below the current line, or above it. The cursor goes to the
last of the new lines, or to the first one. Gives their number. -/
def putLines (above : Bool) (register : Option Char) (count : Nat) : Edit Nat := do
  let content ← takeContent register
  checkPut content.lines.length count
  let lines := (List.replicate (max count 1) content.lines).flatten
  let b ← buffer
  let place := if above then b.current else b.current + 1
  modifyBuffer fun b =>
    (b.insertLines place lines).goTo (if above then place else place + lines.length - 1)
  return lines.length

/-- Puts a text into the current line, after the character at `col` or before it. Line breaks in the
text break the line. Gives the column of the last new character. -/
def putText (col : Nat) (before : Bool) (text : Text) : Edit Nat := do
  let b ← buffer
  let line := b.line b.current
  let place := if before || line.isEmpty then min col line.length else min (col + 1) line.length
  let tail := line.drop place
  let pieces := Text.splitLines (line.take place ++ text ++ tail)
  let last := pieces.getLastD []
  modifyBuffer fun b =>
    (b.replaceLines (.line b.current) pieces).goTo (b.current + (pieces.length - 1))
  return last.length - (tail.length + 1)

/-- Puts copies of a register into the current line. Gives the column of the last new character. -/
def putInline (col : Nat) (before : Bool) (register : Option Char) (count : Nat) : Edit Nat := do
  let content ← takeContent register
  checkPut (Text.byteSize content.text) count
  putText col before (Text.repeated (max count 1) content.text)

end ModalEditor.Edit
