import ModalEditor.Edit.Insert
import ModalEditor.Edit.Lines
import ModalEditor.Normal.Command
import ModalEditor.Word

/-!
# Running normal-mode commands

A command starts at the current line of the buffer and a column, and ends at another column. It may
have something to say, and it may leave normal mode for insert mode.
-/

namespace ModalEditor

/-- What a normal-mode command leaves behind. -/
structure NormalOutcome where
  /-- The column of the cursor. -/
  col : Nat
  /-- What the command has to say. -/
  message : Option Text := none
  /-- Keys are inserted from now on. -/
  enterInsert : Bool := false
deriving Repr, DecidableEq, Inhabited

/-- A number of lines and what happened to them, worth saying from three lines on. -/
def lineReport (count : Nat) (what : String) : Option Text :=
  if 2 < count then some (Text.ofNat count ++ ' ' :: what.toList) else none

namespace Buffer

/-- The `count` lines from the current one on, or as many as there are. -/
def linesFromCursor (b : Buffer) (count : Nat) : LineSpan :=
  ⟨b.current, min (b.current + (max count 1 - 1)) b.lastLine⟩

/-- The column up to which `count` words reach from a position: the start of a word on the same
line, else the end of the line. -/
def wordSpanEnd (b : Buffer) (p : Position) : Nat → Position → Nat
  | 0, q => q.col
  | n + 1, q =>
    let next := Word.forward b q
    if next.line ≠ p.line || next = q then b.lineLength p.line else wordSpanEnd b p n next

/-- The character at a column is not blank and the next one is blank or missing. -/
def endsWord (t : Text) (col : Nat) : Bool := (t[col + 1]?).all ModalEditor.isBlank

/-- The position after `n` motions to the end of a word, or before the first that leads nowhere. -/
def wordEndsFrom (b : Buffer) (p : Position) (n : Nat) : Position := Word.go Word.toEnd b p n

/-- The column up to which a change of `count` words reaches: the end of a word, or as for a
deletion if the position is on a blank. -/
def changeSpanEnd (b : Buffer) (p : Position) (count : Nat) : Nat :=
  let here := b.line p.line
  match here[p.col]? with
  | none => p.col
  | some c =>
    if ModalEditor.isBlank c then b.wordSpanEnd p (max count 1) p
    else
      let stop := b.wordEndsFrom p (if endsWord here p.col then count - 1 else count)
      if stop.line = p.line then stop.col + 1 else here.length

end Buffer

namespace Normal

open Edit

/-- Moves the cursor. Gives its column. -/
def move (m : Motion) (count : Option Nat) (col : Nat) : Edit Nat := do
  let n := max (count.getD 1) 1
  let b ← buffer
  match m with
  | .down => vertical (b.goTo (b.current + n))
  | .up => vertical (b.goTo (b.current - n))
  | .left => return col - n
  | .right => return b.clampColumn b.current (col + n)
  | .lineStart => return 0
  | .firstNonBlank => return b.home
  | .lineEnd => return b.lineLength b.current - 1
  | .wordForward => byWords b Word.forward n
  | .wordBackward => byWords b Word.backward n
  | .firstLine => toLine b (match count with
    | some n => n - 1
    | none => 0)
  | .lastLine => toLine b (match count with
    | some n => n - 1
    | none => b.lastLine)
where
  /-- Keeps the column as far as the new line allows. -/
  vertical (b : Buffer) : Edit Nat := do
    modifyBuffer fun _ => b
    return b.clampColumn b.current col
  /-- Goes by words. -/
  byWords (b : Buffer) (motion : Word.Motion) (n : Nat) : Edit Nat := do
    let p := Word.repeated motion b ⟨b.current, col⟩ n
    modifyBuffer (·.goTo p.line)
    return p.col
  /-- Goes to the first character of a line that is not blank. -/
  toLine (b : Buffer) (n : Nat) : Edit Nat := do
    modifyBuffer fun _ => b.goTo n
    return (b.goTo n).home

/-- Goes to where inserting starts. Gives the position. -/
def insertPosition (kind : InsertKind) (col : Nat) : Edit Position := do
  let b ← buffer
  let n := b.current
  let length := b.lineLength n
  match kind with
  | .before => return ⟨n, min col length⟩
  | .after => return ⟨n, if length = 0 then 0 else min (col + 1) length⟩
  | .lineEnd => return ⟨n, length⟩
  | .lineStart => return ⟨n, 0⟩
  | .openBelow => opened (b.openLine n true)
  | .openAbove => opened (b.openLine n false)
where
  /-- The start of a new line. -/
  opened (r : Buffer × Nat) : Edit Position := do
    modifyBuffer fun _ => r.1
    return ⟨r.2, 0⟩

/-- Starts inserting, or inserts a given text at once. -/
def insert (kind : InsertKind) (text : Option Text) (col : Nat) : Edit NormalOutcome := do
  let p ← insertPosition kind col
  match text with
  | none => return { col := p.col, enterInsert := true }
  | some t =>
    if '\n' ∈ t then throw (.invalidArgument "line break in inline text".toList)
    let (b, stop) := (← buffer).insertText p t
    modifyBuffer fun _ => b
    return { col := stop - 1 }

/-- Puts a register, into the line or as lines, as the register was taken. -/
def put (before : Bool) (register : Option Char) (count col : Nat) : Edit NormalOutcome := do
  let d ← get
  let source := register.or d.buffer.selected
  let inline := (d.buffer.register? d.registers source).any fun r => r.kind = .chars
  if inline then return { col := ← putInline col before register count }
  else
    let added ← putLines before register count
    return { col := (← buffer).home, message := lineReport added "more lines" }

/-- Carries out an action. -/
def act (action : Action) (count : Option Nat) (register : Option Char) (col : Nat) :
    Edit NormalOutcome := do
  let n := max (count.getD 1) 1
  let b ← buffer
  let line := b.current
  match action with
  | .deleteLines =>
    let removed ← deleteLines (b.linesFromCursor n) register
    return { col := (← buffer).home, message := lineReport removed "fewer lines" }
  | .yankLines =>
    let yanked ← yankLines (b.linesFromCursor n) register
    return { col, message := lineReport yanked "lines yanked" }
  | .changeLines =>
    changeLines (b.linesFromCursor n) register
    return { col := 0, enterInsert := true }
  | .deleteWords =>
    let col := min col (b.lineLength line)
    let _ ← deleteSpan line col (b.wordSpanEnd ⟨line, col⟩ n ⟨line, col⟩) register
    return { col := (← buffer).clampColumn line col }
  | .changeWords =>
    let col := min col (b.lineLength line)
    let _ ← deleteSpan line col (b.changeSpanEnd ⟨line, col⟩ n) register
    return { col, enterInsert := true }
  | .deleteChars =>
    if 0 < b.lineLength line then
      let _ ← deleteSpan line col (col + n) register
    return { col := (← buffer).clampColumn line col }
  | .put before => put before register n col
  | .move m => return { col := ← move m count col }
  | .insert kind text => insert kind text col

/-- Carries out a command with the cursor at a column of the current line. -/
def run : NormalCommand → Nat → Edit NormalOutcome
  | .setMark mark, col => do
    let b ← buffer
    let b ← orFail (b.setMark mark b.current)
    modifyBuffer fun _ => b
    return { col }
  | .jumpMark mark, _ => jump mark
  | .jumpMarkOr mark next otherwise, col => do
    if ((← buffer).mark? mark).isSome then
      let jumped ← jump mark
      run next jumped.col
    else run otherwise col
  | .gotoLine n, _ => do
    if n = 0 || (← buffer).lineCount < n then throw (.lineOutOfRange n)
    modifyBuffer (·.goTo (n - 1))
    return { col := (← buffer).firstNonBlank (n - 1) }
  | .andThen first second, col => do
    let outcome ← run first col
    run second outcome.col
  | .act count register action, col => act action count register col
where
  /-- Goes to the line of a mark. -/
  jump (mark : Char) : Edit NormalOutcome := do
    match (← buffer).mark? mark with
    | some n =>
      modifyBuffer (·.goTo n)
      return { col := (← buffer).firstNonBlank n }
    | none => throw (.markNotSet mark)

/-- Reads keys as one command and carries it out. -/
def runKeys (keys : Text) (col : Nat) : Edit NormalOutcome :=
  match NormalCommand.read keys with
  | .complete c => run c col
  | _ => throw (.unsupportedCommand keys)

end Normal
end ModalEditor
