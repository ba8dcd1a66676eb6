import ModalEditor.Error
import ModalEditor.Position
import ModalEditor.Register

/-!
# Buffers

A buffer is the text of one file as a list of lines, with a current line, marks that stick to lines,
and what is needed to write the file back as it was: its line ending and whether it ended in one.

Three operations change which lines there are: `removeLines`, `insertLines` and `replaceLines`.
They move the marks and the current line along. `Buffer.Valid` says what every operation keeps:
there is a line, the current line and all marks are lines of the buffer, marks are named by small
letters, and no line has a line break in it.
-/

namespace ModalEditor

/-- How lines of a file end. -/
inductive LineEnding where
  /-- By a line feed. -/
  | unix
  /-- By a carriage return and a line feed. -/
  | dos
deriving Repr, DecidableEq, Inhabited

namespace LineEnding

/-- The characters that end a line. -/
def text : LineEnding → Text
  | .unix => ['\n']
  | .dos => ['\r', '\n']

/-- The name of the ending. -/
def name : LineEnding → String
  | .unix => "unix"
  | .dos => "dos"

/-- Number of line feeds, and how many of them follow a carriage return. -/
def countBreaks : Text → Nat × Nat
  | [] => (0, 0)
  | '\r' :: '\n' :: rest =>
    let (total, paired) := countBreaks rest
    (total + 1, paired + 1)
  | c :: rest =>
    let (total, paired) := countBreaks rest
    (if c = '\n' then total + 1 else total, paired)

/-- The ending of most lines of a text; `unix` if neither has more. -/
def detect (t : Text) : LineEnding :=
  let (total, paired) := countBreaks t
  if total - paired < paired then .dos else .unix

end LineEnding

/-- The text of one file while it is edited. -/
structure Buffer where
  /-- Where the file is stored. -/
  path : Option Path := none
  /-- The lines, without their endings. -/
  lines : List Text := [[]]
  /-- The line the cursor is on. -/
  current : Nat := 0
  /-- The text was changed since it was read or written. -/
  modified : Bool := false
  /-- Marked lines, in order of the marks. -/
  marks : List (Char × Nat) := []
  /-- How lines end in the file. -/
  ending : LineEnding := .unix
  /-- The last line has an ending too. -/
  finalBreak : Bool := true
  /-- The file did not exist, and nothing was written to it so far. -/
  isNew : Bool := false
  /-- A register chosen for the next command that takes one. -/
  selected : Option Char := none
  /-- The pattern searched for last. -/
  lastSearch : Option Text := none
deriving Repr, DecidableEq, Inhabited

namespace Buffer

/-! ## Making buffers and texts -/

/-- A buffer with the given lines, or with one empty line if there are none. -/
def ofLines (path : Option Path) (lines : List Text) (ending : LineEnding) : Buffer :=
  { path, lines := if lines.isEmpty then [[]] else lines, ending }

/-- A buffer with the text of a file. A carriage return before a line feed belongs to the ending,
and so does the last line feed. -/
def ofText (path : Option Path) (t : Text) : Buffer :=
  let pieces := (Text.splitLines t).map (Text.dropFinal '\r')
  let finalBreak := t.getLast? = some '\n'
  { ofLines path (if finalBreak then pieces.dropLast else pieces) (.detect t) with finalBreak }

/-- A buffer for a file that does not exist. -/
def newFile (path : Path) : Buffer := { path := some path, isNew := true }

/-- The buffer is one empty line. -/
def isBlank (b : Buffer) : Bool := b.lines = [[]]

/-- The text of the file. A new file without text has no ending either. -/
def toText (b : Buffer) : Text :=
  let t := Text.join b.ending.text b.lines
  if b.finalBreak && !(b.isNew && b.isBlank) then t ++ b.ending.text else t

/-! ## Looking at a buffer -/

/-- Number of lines. -/
def lineCount (b : Buffer) : Nat := b.lines.length

/-- The last line. -/
def lastLine (b : Buffer) : Nat := b.lines.length - 1

/-- The text of a line; empty past the end. -/
def line (b : Buffer) (n : Nat) : Text := b.lines.getD n []

/-- Number of characters of a line; none past the end. -/
def lineLength (b : Buffer) (n : Nat) : Nat := (b.line n).length

/-- The name in messages. -/
def displayName (b : Buffer) : Text := b.path.getD "[No Name]".toList

/-- The line of a mark. -/
def mark? (b : Buffer) (name : Char) : Option Nat := b.marks.lookup name

/-- The line is marked by no mark, or the mark is a small letter on a line of the buffer. -/
def MarksValid (marks : List (Char × Nat)) (count : Nat) : Prop :=
  ∀ m ∈ marks, isLowerLetter m.1 = true ∧ m.2 < count

/-- What every operation on buffers keeps. -/
structure Valid (b : Buffer) : Prop where
  /-- There is a line. -/
  nonempty : b.lines ≠ []
  /-- The current line is a line. -/
  current_lt : b.current < b.lines.length
  /-- Marks are small letters on lines. -/
  marks : MarksValid b.marks b.lines.length
  /-- Lines have no line breaks. -/
  noBreaks : ∀ l ∈ b.lines, '\n' ∉ l

/-- The column of the first character of a line that is not blank; `0` if there is none. -/
def firstNonBlank (b : Buffer) (n : Nat) : Nat :=
  ((b.line n).findIdx? fun c => !ModalEditor.isBlank c).getD 0

/-- The column of the first character of the current line that is not blank. -/
def home (b : Buffer) : Nat := b.firstNonBlank b.current

/-- The greatest column up to `col` that is on a character of the line. -/
def clampColumn (b : Buffer) (n col : Nat) : Nat := min col (b.lineLength n - 1)

/-- All lines. -/
def wholeSpan (b : Buffer) : LineSpan := ⟨0, b.lastLine⟩

/-- The current line. -/
def currentSpan (b : Buffer) : LineSpan := .line b.current

/-- The lines of a span. -/
def linesOf (b : Buffer) (s : LineSpan) : List Text := (b.lines.take (s.last + 1)).drop s.first

/-! ## Cursor, marks and the selected register -/

/-- Moves the cursor to a line, or to the last one if there are not so many. -/
def goTo (b : Buffer) (n : Nat) : Buffer := { b with current := min n b.lastLine }

/-- Marks with one more, kept in order. -/
def insertMark (name : Char) (n : Nat) : List (Char × Nat) → List (Char × Nat)
  | [] => [(name, n)]
  | (other, m) :: rest =>
    if name = other then (name, n) :: rest
    else if name < other then (name, n) :: (other, m) :: rest
    else (other, m) :: insertMark name n rest

/-- Sets a mark. -/
def setMark (b : Buffer) (name : Char) (n : Nat) : Except EditorError Buffer :=
  if !isLowerLetter name then .error (.invalidArgument ("mark name: ".toList ++ [name]))
  else if b.lines.length ≤ n then .error (.lineOutOfRange (n + 1))
  else .ok { b with marks := insertMark name n b.marks }

/-- Chooses a register for the next command that takes one. -/
def select (b : Buffer) (name : Char) : Buffer := { b with selected := some name }

/-- The content of a register as this buffer sees it: `%` is the path. -/
def register? (b : Buffer) (f : RegisterFile) (name : Option Char) : Option Register :=
  if name = some '%' then some ((b.path.map Register.ofText).getD .empty) else f.get? name

/-! ## Changing lines -/

/-- Replaces the text of a line. -/
def setLine (b : Buffer) (n : Nat) (t : Text) : Buffer :=
  { b with lines := b.lines.set n t, modified := true }

/-- At least one line. -/
def orBlank (lines : List Text) : List Text := if lines.isEmpty then [[]] else lines

/-- Takes the lines of a span out. Their marks are gone; what is below moves up. A cursor in the
span stays at its first line, or goes to the last line of all. -/
def removeLines (b : Buffer) (s : LineSpan) : Buffer :=
  let lines := orBlank (b.lines.take s.first ++ b.lines.drop (s.last + 1))
  let below (n : Nat) : Nat := if s.last < n then n - s.size else n
  { b with
    lines
    marks := (b.marks.filter fun m => !s.contains m.2).map fun m => (m.1, below m.2)
    current := if s.contains b.current then min s.first (lines.length - 1) else below b.current
    modified := true }

/-- Puts new lines in front of line `place`, or at the end. What is at or below it moves down. -/
def insertLines (b : Buffer) (place : Nat) (new : List Text) : Buffer :=
  if new.isEmpty then b
  else
    let place := min place b.lines.length
    let below (n : Nat) : Nat := if place ≤ n then n + new.length else n
    { b with
      lines := b.lines.take place ++ new ++ b.lines.drop place
      marks := b.marks.map fun m => (m.1, below m.2)
      current := below b.current
      modified := true }

/-- Puts new lines in the place of a span. A mark in the span stays where it is as long as the new
lines reach that far; what is below moves by the difference in size. -/
def replaceLines (b : Buffer) (s : LineSpan) (new : List Text) : Buffer :=
  let lines := orBlank (b.lines.take s.first ++ new ++ b.lines.drop (s.last + 1))
  let below (n : Nat) : Nat := if s.last < n then n + new.length - s.size else n
  { b with
    lines
    marks := (b.marks.filter fun m => !s.contains m.2 || m.2 - s.first < new.length).map
      fun m => (m.1, below m.2)
    current := min (below b.current) (lines.length - 1)
    modified := true }

end Buffer
end ModalEditor
