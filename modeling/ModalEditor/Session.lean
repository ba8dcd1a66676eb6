import ModalEditor.Ex.Reading
import ModalEditor.Ex.Run
import ModalEditor.Key

/-!
# Sessions

A session takes one key at a time. In normal mode keys gather until they are a command; in insert
mode they are text; on the command line they are the text of a command, carried out by Enter.

A command that fails says why, and the session goes on. Only fatal failures of input and output are
passed on to the host, and then the key has no other answer.
-/

namespace ModalEditor

/-- What keys mean. -/
inductive Mode where
  /-- Keys are commands. -/
  | normal
  /-- Keys are text. -/
  | insert
  /-- Keys are the text of a command. -/
  | commandLine
deriving Repr, DecidableEq, Inhabited

/-- The mode as a status line shows it. -/
def Mode.display : Mode → String
  | .normal => "NORMAL"
  | .insert => "INSERT"
  | .commandLine => "COMMAND"

/-- The answer to a key. -/
structure Step where
  /-- What the session says; nothing if empty. -/
  output : Text := []
  /-- The key changed the mode. -/
  modeChanged : Bool := false
  /-- The session is to end. -/
  quit : Bool := false
deriving Repr, DecidableEq, Inhabited

/-- An editing session; `σ` is the state of its host. The line of the cursor is in the buffer. -/
structure Session (σ : Type) where
  /-- What all modes share. -/
  editor : Editor σ
  /-- What keys mean. -/
  mode : Mode := .normal
  /-- The column of the cursor. -/
  col : Nat := 0
  /-- Keys that are the start of a command. -/
  pending : Text := []
  /-- The command line. -/
  commandLine : CommandLine := {}

namespace Session

variable {σ : Type}

/-- A session on a buffer. -/
def ofBuffer (b : Buffer) (o : Options) (world : σ) : Session σ :=
  { editor := { buffers := .ofBuffer b, options := o, world } }

/-- A session on an empty buffer without a path. -/
def new (o : Options) (world : σ) : Session σ := ofBuffer {} o world

/-- A session on the file at a typed path. -/
def openPath (h : Host σ) (o : Options) (world : σ) (typed : Path) :
    Except EditorError (Session σ) := do
  let path ← h.project.resolve typed
  let (result, world) := h.load path world
  match result with
  | .ok (some text) => return ofBuffer (.ofText (some path) text) o world
  | .ok none => return ofBuffer (.newFile path) o world
  | .error failure => throw (.io failure)

/-- The current buffer. -/
def buffer (s : Session σ) : Buffer := s.editor.buffer

/-- The cursor. -/
def cursor (s : Session σ) : Position := ⟨s.buffer.current, s.col⟩

/-- The registers with content, and `%` if the buffer has a path. -/
def registers (s : Session σ) : List (Char × Register) :=
  s.editor.registers.contents ++ (s.buffer.path.map fun p => ('%', Register.ofText p)).toList

/-- Makes a buffer of the host current. -/
def setBuffer (s : Session σ) (b : Buffer) : Session σ :=
  { s with
    editor := { s.editor with buffers := s.editor.buffers.install b }
    col := 0
    pending := [] }

/-- What carrying out a command said and whether it ends the session; or a fatal failure. -/
abbrev Answer := Except IoFailure (Option Text × Bool)

/-- An error is said, unless it is fatal. -/
def narrate (e : EditorError) : Answer :=
  match e with
  | .io failure => if failure.isFatal then .error failure else .ok (some failure.message, false)
  | e => .ok (some e.message, false)

/-- Nothing to say. -/
def silent : Answer := .ok (none, false)

/-- The register named after the first `"` of some keys. -/
def selectedIn? (keys : Text) : Option Char := do
  let (_, rest) ← Text.cut? '"' keys
  let name ← rest.head?
  if Register.isName name then return name else none

/-- Escape in normal mode: the pending keys are dropped, but a register named in them is
selected. -/
def cancelPending (s : Session σ) : Session σ :=
  let editor := match selectedIn? s.pending with
    | some name => s.editor.setBuffer (s.buffer.select name)
    | none => s.editor
  { s with editor, pending := [] }

/-- Carries out a command of normal mode. -/
def runNormal (s : Session σ) (c : NormalCommand) : Session σ × Answer :=
  let (result, editor) := (EditorM.onCurrent (Normal.run c s.col) : EditorM σ _).run.run s.editor
  let s := { s with editor }
  match result with
  | .ok outcome =>
    ({ s with col := outcome.col, mode := if outcome.enterInsert then .insert else s.mode },
      .ok (outcome.message, false))
  | .error e => (s, narrate e)

/-- Adds a character to the pending keys and carries out the command they are, if any. -/
def typeNormal (s : Session σ) (c : Char) : Session σ × Answer :=
  if c = ':' && s.pending.isEmpty then
    ({ s with mode := .commandLine, commandLine := {} }, silent)
  else
    let keys := s.pending ++ [c]
    match NormalCommand.read keys with
    | .incomplete => ({ s with pending := keys }, silent)
    | .invalid => ({ s with pending := [] }, narrate (.unsupportedCommand keys))
    | .complete command => ({ s with pending := [] } : Session σ).runNormal command

/-- A key in normal mode. -/
def normalKey (s : Session σ) : Key → Session σ × Answer
  | .char c => s.typeNormal c
  | .escape => (s.cancelPending, silent)
  | .backspace => if s.pending.isEmpty then s.typeNormal 'h' else (s, silent)
  | .enter => if s.pending.isEmpty then s.typeNormal 'j' else (s, silent)
  | .tab => (s, silent)

/-- The session with its current buffer changed and the cursor at a column. -/
def edited (s : Session σ) (b : Buffer) (col : Nat) : Session σ :=
  { s with editor := s.editor.setBuffer b, col }

/-- Inserts text at the cursor. -/
def insertAtCursor (s : Session σ) (t : Text) : Session σ :=
  let (b, col) := s.buffer.insertText s.cursor t
  s.edited b col

/-- A key in insert mode. -/
def insertKey (s : Session σ) : Key → Session σ
  | .char c => s.insertAtCursor [c]
  | .tab => s.insertAtCursor (List.replicate s.editor.options.softTabStop ' ')
  | .enter => s.edited (s.buffer.splitLine s.cursor) 0
  | .backspace =>
    match s.buffer.backspace s.cursor with
    | (b, some p) => s.edited b p.col
    | (b, none) => s.edited b s.col
  | .escape =>
    { s with mode := .normal, col := s.buffer.clampColumn s.buffer.current (s.col - 1) }

/-- Reads a command line and carries it out. -/
def runLine (h : Host σ) (s : Session σ) (line : Text) : Session σ × Answer :=
  let command : EditorM σ ExOutcome := do
    Ex.run h (← EditorM.orFail (ExCommand.readLine line)) s.col
  let (result, editor) := command.run.run s.editor
  let s := { s with editor }
  match result with
  | .ok outcome => ({ s with col := outcome.col }, .ok (outcome.message, outcome.quit))
  | .error e => (s, narrate e)

/-- A key on the command line. -/
def commandKey (h : Host σ) (s : Session σ) : Key → Session σ × Answer
  | .char c => ({ s with commandLine := s.commandLine.insert c }, silent)
  | .tab => ({ s with commandLine := s.commandLine.insert '\t' }, silent)
  | .backspace => ({ s with commandLine := s.commandLine.backspace.1 }, silent)
  | .escape =>
    ({ s with mode := .normal, commandLine := {} }, .ok (some "cancelled".toList, false))
  | .enter =>
    let line := s.commandLine
    let s := { s with mode := .normal, commandLine := {} }
    if line.isEmpty then (s, silent) else s.runLine h line.input

/-- Takes a key: the session afterwards, and its answer or the fatal failure. -/
def press (h : Host σ) (s : Session σ) (key : Key) : Session σ × Except IoFailure Step :=
  let (next, answer) :=
    match s.mode with
    | .normal => s.normalKey key
    | .insert => (s.insertKey key, silent)
    | .commandLine => s.commandKey h key
  (next, answer.map fun (said, quit) =>
    { output := said.getD [], modeChanged := next.mode ≠ s.mode, quit })

/-- Takes keys up to the first fatal failure. -/
def pressAll (h : Host σ) (s : Session σ) : List Key → Session σ × Except IoFailure (List Step)
  | [] => (s, .ok [])
  | key :: keys =>
    match s.press h key with
    | (s, .error failure) => (s, .error failure)
    | (s, .ok step) =>
      let (s, steps) := pressAll h s keys
      (s, steps.map (step :: ·))

/-- Takes the keys of a script. -/
def feed (h : Host σ) (s : Session σ) (script : Text) : Session σ × Except IoFailure (List Step) :=
  s.pressAll h (Key.ofScript script)

end Session
end ModalEditor
