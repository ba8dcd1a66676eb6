import ModalEditor.Session

/-!
# Texts too long to exist

A text is one piece of memory, and no piece has more than `maxTextSize` bytes. What is typed or read
is there before it is used, but a text that is made of copies is asked for all at once, by a number
that may come from far away: the count of a put, or the tab stop for the blanks of a tab. A number that
asks for too many copies is no failure that a command could report. The session is over (`Overflow`).

`Session.take` takes a key with that limit. It does what `Session.press` does, and looks at the size of
every text of copies before it is made: the blanks of a tab and the copies that a put into a line makes,
also where normal-mode keys stand behind `:norm` or `:g`. Copies of whole lines are lines of their own,
which no text holds together.
-/

namespace ModalEditor

/-- Most bytes of a text: the largest 64-bit number with a sign. -/
def maxTextSize : Nat := 0x7FFFFFFFFFFFFFFF

/-- More copies of a text were asked for than a text can hold. -/
structure Overflow where
  /-- The text to be copied. -/
  unit : Text
  /-- Number of copies. -/
  count : Nat
deriving Repr, DecidableEq, Inhabited

/-- Copies of a text in a row, as far as a text can hold them. -/
def Text.copies (count : Nat) (unit : Text) : Except Overflow Text :=
  if maxTextSize < count * Text.byteSize unit then .error ⟨unit, count⟩
  else .ok (Text.repeated count unit)

/-- A step on a state that may fail, and is given up where a text would be too long to exist. -/
abbrev Capped (S : Type) := ExceptT EditorError (StateT S (Except Overflow))

/-- A step that makes no text of copies. -/
def Capped.lift {S α : Type} (x : ExceptT EditorError (StateM S) α) : Capped S α :=
  fun s => .ok (x.run.run s)

namespace Capacity

open Capped (lift)

/-! ## Commands of normal mode -/

/-- Puts copies of a register into the current line. -/
def putInline (col : Nat) (before : Bool) (register : Option Char) (count : Nat) :
    Capped Desk Nat := do
  let content ← lift (Edit.takeContent register)
  lift (Edit.checkPut (Text.byteSize content.text) count)
  let text ← Text.copies (max count 1) content.text
  lift (Edit.putText col before text)

/-- Puts a register, into the line or as lines, as the register was taken. -/
def put (before : Bool) (register : Option Char) (count col : Nat) : Capped Desk NormalOutcome := do
  let d ← get
  let source := register.or d.buffer.selected
  let inline := (d.buffer.register? d.registers source).any fun r => r.kind = .chars
  if inline then return { col := ← putInline col before register count }
  else
    let added ← lift (Edit.putLines before register count)
    return { col := (← lift Edit.buffer).home, message := lineReport added "more lines" }

/-- Carries out an action. -/
def act (action : Action) (count : Option Nat) (register : Option Char) (col : Nat) :
    Capped Desk NormalOutcome :=
  match action with
  | .put before => put before register (max (count.getD 1) 1) col
  | action => lift (Normal.act action count register col)

/-- Carries out a command of normal mode with the cursor at a column of the current line. -/
def run : NormalCommand → Nat → Capped Desk NormalOutcome
  | .jumpMarkOr mark next otherwise, col => do
    if ((← lift Edit.buffer).mark? mark).isSome then
      let jumped ← lift (Normal.run.jump mark)
      run next jumped.col
    else run otherwise col
  | .andThen first second, col => do
    let outcome ← run first col
    run second outcome.col
  | .act count register action, col => act action count register col
  | c, col => lift (Normal.run c col)

/-- Reads keys as one command and carries it out. -/
def runKeys (keys : Text) (col : Nat) : Capped Desk NormalOutcome :=
  match NormalCommand.read keys with
  | .complete c => run c col
  | _ => throw (.unsupportedCommand keys)

/-! ## Keys on many lines -/

/-- Carries out an edit with the cursor on each of the lines that still exist. -/
def visit (each : Capped Desk Unit) : List Nat → StateT Desk (Except Overflow) Visit
  | [] => return {}
  | n :: rest => do
    if (← get).buffer.lineCount ≤ n then visit each rest
    else
      modify fun d => { d with buffer := d.buffer.goTo n }
      match ← each.run with
      | .ok () =>
        let v ← visit each rest
        return { v with lines := n :: v.lines }
      | .error e => return { lines := [n], failure := some e }

/-- Carries out an edit on the lines of a span that match a typed pattern, or with `inverse` on the
others. Gives their number. -/
def global (s : LineSpan) (pattern : Text) (inverse : Bool) (o : Options)
    (each : Capped Desk Unit) : Capped Desk Nat := do
  let (pattern, re) ← lift (Edit.compile pattern o.ignoreCase)
  lift (Edit.checkSpan s)
  let b ← lift Edit.buffer
  let targets := (Search.matchingLines re.isMatch b inverse).filter s.contains
  if targets.isEmpty then throw (.patternNotFound pattern)
  let v ← (visit each targets.reverse : StateT Desk (Except Overflow) Visit)
  lift (Edit.modifyBuffer (·.goTo b.current))
  lift (Edit.settle v)

/-- Carries out an edit on the current buffer and the registers. -/
def onCurrent {α σ : Type} (edit : Capped Desk α) : Capped (Editor σ) α := do
  let e ← get
  let (result, desk) ← edit.run.run ⟨e.buffer, e.registers⟩
  set { e.setBuffer desk.buffer with registers := desk.registers }
  lift (EditorM.orFail result)

end Capacity

/-! ## Commands of the command line -/

namespace Capacity.Ex

open Capped (lift)

variable {σ : Type}

/-- `:g` with keys of normal mode. -/
def globalNormal (range : Range) (pattern : Text) (inverse : Bool) (keys : Text) :
    Capped (Editor σ) ExOutcome := do
  let span ← lift (Ex.resolveOr range Buffer.wholeSpan)
  let before := (← lift EditorM.buffer).lineCount
  let o := (← get).options
  let _ ← onCurrent (global span pattern inverse o do let _ ← runKeys keys 0)
  let b ← lift EditorM.buffer
  return { col := b.home, message := lineReport (before - b.lineCount) "fewer lines" }

/-- Carries out keys on the `n` lines from line `i` on, as far as they exist. Gives the column
afterwards. -/
def normalOn (keys : Text) : Nat → Nat → Nat → Capped (Editor σ) Nat
  | 0, _, col => return col
  | n + 1, i, col => do
    if (← lift EditorM.buffer).lineCount ≤ i then return col
    lift (EditorM.modifyBuffer (·.goTo i))
    let outcome ← onCurrent (runKeys keys 0)
    normalOn keys n (i + 1) outcome.col

/-- `:norm` -/
def normal (range : Range) (keys : Text) (col : Nat) : Capped (Editor σ) ExOutcome := do
  if range.isImplicit then
    let outcome ← onCurrent (runKeys keys col)
    return { col := outcome.col, message := outcome.message }
  else
    let span ← lift (Ex.spanOf range)
    return { col := ← normalOn keys span.size span.first col }

/-- Carries out a command with the cursor at a column. -/
def run (h : Host σ) : ExCommand → Nat → Capped (Editor σ) ExOutcome
  | .global range pattern inverse (.normal keys), _ => globalNormal range pattern inverse keys
  | .normal range keys, col => normal range keys col
  | .atMark mark next otherwise, col => do
    match (← lift EditorM.buffer).mark? mark with
    | some n =>
      lift (EditorM.modifyBuffer (·.goTo n))
      run h next col
    | none => run h otherwise col
  | .withRegister name next, col => do
    lift (EditorM.modifyBuffer (·.select name))
    run h next col
  | c, col => lift (ModalEditor.Ex.run h c col)

end Capacity.Ex

/-! ## Keys -/

namespace Capacity.Session

open Capped (lift)
open ModalEditor.Session (Answer narrate silent)

variable {σ : Type}

/-- Carries out a command of normal mode. -/
def runNormal (s : Session σ) (c : NormalCommand) : Except Overflow (Session σ × Answer) := do
  let (result, editor) ← (onCurrent (run c s.col) : Capped (Editor σ) _).run.run s.editor
  let s := { s with editor }
  match result with
  | .ok outcome =>
    return ({ s with
      col := outcome.col, mode := if outcome.enterInsert then .insert else s.mode },
      .ok (outcome.message, false))
  | .error e => return (s, narrate e)

/-- Adds a character to the pending keys and carries out the command they are, if any. -/
def typeNormal (s : Session σ) (c : Char) : Except Overflow (Session σ × Answer) :=
  if c = ':' && s.pending.isEmpty then
    return ({ s with mode := .commandLine, commandLine := {} }, silent)
  else
    let keys := s.pending ++ [c]
    match NormalCommand.read keys with
    | .incomplete => return ({ s with pending := keys }, silent)
    | .invalid => return ({ s with pending := [] }, narrate (.unsupportedCommand keys))
    | .complete command => runNormal { s with pending := [] } command

/-- A key in normal mode. -/
def normalKey (s : Session σ) : Key → Except Overflow (Session σ × Answer)
  | .char c => typeNormal s c
  | .backspace => if s.pending.isEmpty then typeNormal s 'h' else return (s, silent)
  | .enter => if s.pending.isEmpty then typeNormal s 'j' else return (s, silent)
  | key => return s.normalKey key

/-- A key in insert mode. -/
def insertKey (s : Session σ) : Key → Except Overflow (Session σ)
  | .tab => do return s.insertAtCursor (← Text.copies s.editor.options.softTabStop [' '])
  | key => return s.insertKey key

/-- Reads a command line and carries it out. -/
def runLine (h : Host σ) (s : Session σ) (line : Text) :
    Except Overflow (Session σ × Answer) := do
  let command : Capped (Editor σ) ExOutcome := do
    Ex.run h (← lift (EditorM.orFail (ExCommand.readLine line))) s.col
  let (result, editor) ← command.run.run s.editor
  let s := { s with editor }
  match result with
  | .ok outcome => return ({ s with col := outcome.col }, .ok (outcome.message, outcome.quit))
  | .error e => return (s, narrate e)

/-- A key on the command line. -/
def commandKey (h : Host σ) (s : Session σ) : Key → Except Overflow (Session σ × Answer)
  | .enter =>
    let line := s.commandLine
    let s := { s with mode := .normal, commandLine := {} }
    if line.isEmpty then return (s, silent) else runLine h s line.input
  | key => return s.commandKey h key

/-- A key, as the mode has it. -/
def keyByMode (h : Host σ) (s : Session σ) (key : Key) : Except Overflow (Session σ × Answer) :=
  match s.mode with
  | .normal => normalKey s key
  | .insert => do return (← insertKey s key, silent)
  | .commandLine => commandKey h s key

end Capacity.Session

namespace Session

variable {σ : Type}

/-- Takes a key, unless it asks for a text that is too long to exist. Gives what `press` gives. -/
def take (h : Host σ) (s : Session σ) (key : Key) :
    Except Overflow (Session σ × Except IoFailure Step) := do
  let (next, answer) ← Capacity.Session.keyByMode h s key
  return (next, answer.map fun (said, quit) =>
    { output := said.getD [], modeChanged := next.mode ≠ s.mode, quit })

/-- Takes keys up to the first fatal failure, unless one of them asks for a text that is too long to
exist. -/
def takeAll (h : Host σ) (s : Session σ) :
    List Key → Except Overflow (Session σ × Except IoFailure (List Step))
  | [] => return (s, .ok [])
  | key :: keys => do
    match ← s.take h key with
    | (s, .error failure) => return (s, .error failure)
    | (s, .ok step) =>
      let (s, steps) ← takeAll h s keys
      return (s, steps.map (step :: ·))

end Session
end ModalEditor
