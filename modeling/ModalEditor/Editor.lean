import ModalEditor.BufferTable
import ModalEditor.Edit.Substitute
import ModalEditor.Host

/-!
# The editor

The state that all modes of a session share: the buffers, the registers, the options, the last
substitution, and the state of the host. A step of the editor may fail; what was done up to then
stays.
-/

namespace ModalEditor

/-- A substitution that can be repeated. -/
structure LastSubstitute where
  /-- The pattern as typed. -/
  pattern : Text
  /-- The replacement as typed. -/
  replacement : Text
  /-- The flags. -/
  flags : SubFlags
deriving Repr, DecidableEq, Inhabited

/-- What all modes share; `σ` is the state of the host. -/
structure Editor (σ : Type) where
  /-- The buffers. -/
  buffers : BufferTable
  /-- The registers. -/
  registers : RegisterFile := {}
  /-- The options. -/
  options : Options := {}
  /-- The last substitution. -/
  lastSubstitute : Option LastSubstitute := none
  /-- The state of the host. -/
  world : σ

/-- A step of the editor. -/
abbrev EditorM (σ : Type) := ExceptT EditorError (StateM (Editor σ))

namespace Editor

variable {σ : Type}

/-- The current buffer. -/
def buffer (e : Editor σ) : Buffer := e.buffers.buffer

/-- The editor with another buffer in the place of the current one. -/
def setBuffer (e : Editor σ) (b : Buffer) : Editor σ :=
  { e with buffers := e.buffers.setCurrent b }

end Editor

namespace EditorM

variable {σ : Type}

/-- The current buffer. -/
def buffer : EditorM σ Buffer := return (← get).buffer

/-- Changes the current buffer. -/
def modifyBuffer (change : Buffer → Buffer) : EditorM σ Unit :=
  modify fun e => e.setBuffer (change e.buffer)

/-- Changes the buffer table. -/
def modifyTable (change : BufferTable → BufferTable) : EditorM σ Unit :=
  modify fun e => { e with buffers := change e.buffers }

/-- A value, or the failure in its place. -/
def orFail {α : Type} (x : Except EditorError α) : EditorM σ α :=
  match x with
  | .ok a => return a
  | .error e => throw e

/-- Carries out an edit on the current buffer and the registers. -/
def onCurrent {α : Type} (edit : Edit α) : EditorM σ α := do
  let e ← get
  let (result, desk) := edit.run.run ⟨e.buffer, e.registers⟩
  set { e.setBuffer desk.buffer with registers := desk.registers }
  orFail result

/-- Asks the host for something. -/
def ask {α : Type} (request : σ → Except IoFailure α × σ) : EditorM σ (Except IoFailure α) :=
  modifyGet fun e =>
    let (result, world) := request e.world
    (result, { e with world })

/-- Asks the host for something; a failure is an error. -/
def askOrFail {α : Type} (request : σ → Except IoFailure α × σ) : EditorM σ α := do
  orFail ((← ask request).mapError .io)

variable (h : Host σ)

/-- The file that a typed path names. -/
def resolve (typed : Path) : EditorM σ Path := orFail (h.project.resolve typed)

/-- A buffer with the file at a path. -/
def load (path : Path) : EditorM σ Buffer := do
  match ← askOrFail (h.load path) with
  | some text => return .ofText (some path) text
  | none => return .newFile path

/-- Makes the buffer for a path current. The file is read if no buffer has that path. -/
def openPath (path : Path) : EditorM σ Unit := do
  match (← get).buffers.placeOf? path with
  | some place => modifyTable fun t => { t with current := place }
  | none =>
    let b ← load h path
    modifyTable (·.add b)

/-- Makes the buffer for a typed path current. -/
def openTyped (typed : Path) : EditorM σ Unit := do openPath h (← resolve h typed)

/-- Writes the text of the current buffer to a path. Gives its size in bytes. -/
def writeTo (path : Path) : EditorM σ Nat := do
  let text := (← buffer).toText
  askOrFail (h.store path text)
  return Text.byteSize text

/-- Writes the current buffer to its own path; it has no unsaved changes then. A new file is no
longer new once it has text. Gives the size in bytes. -/
def writeOwn : EditorM σ Nat := do
  let some path := (← buffer).path | throw .noFileName
  let size ← writeTo h path
  modifyBuffer fun b => { b with modified := false, isNew := b.isNew && b.isBlank }
  return size

/-- Runs a shell command in the root of the project. Gives the lines it printed. -/
def shellLines (command stdin : Text) : EditorM σ (List Text) := do
  let call := { command, stdin, directory := h.project.root }
  orFail (ShellResult.linesOf command (← ask (h.run call)))

end EditorM
end ModalEditor
