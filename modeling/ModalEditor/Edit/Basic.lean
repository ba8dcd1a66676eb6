import ModalEditor.Buffer

/-!
# Edits

An edit works on a desk: the current buffer and the registers. It can fail, and then the desk keeps
what was done up to the failure; most edits check everything before they change anything.

Edits that take a register use the one that is named, or else the one selected before by a bare
`"x`. Either way the selection is used up, even if the edit then fails.
-/

namespace ModalEditor

/-- What an edit works on. -/
structure Desk where
  /-- The buffer. -/
  buffer : Buffer
  /-- The registers. -/
  registers : RegisterFile
deriving Repr, DecidableEq, Inhabited

/-- A change to a desk that may fail. -/
abbrev Edit := ExceptT EditorError (StateM Desk)

namespace Edit

/-- The buffer. -/
def buffer : Edit Buffer := return (← get).buffer

/-- Changes the buffer. -/
def modifyBuffer (change : Buffer → Buffer) : Edit Unit :=
  modify fun d => { d with buffer := change d.buffer }

/-- Changes the registers. -/
def modifyRegisters (change : RegisterFile → RegisterFile) : Edit Unit :=
  modify fun d => { d with registers := change d.registers }

/-- A value, or the failure in its place. -/
def orFail {α : Type} (x : Except EditorError α) : Edit α :=
  match x with
  | .ok a => return a
  | .error e => throw e

/-- Fails unless the span is within the buffer. -/
def checkSpan (s : LineSpan) : Edit Unit := do
  if (← buffer).lineCount ≤ s.last then throw (.lineOutOfRange (s.last + 1))

/-- The register for an edit: the named one, or else the selected one. Uses the selection up. -/
def takeRegister (named : Option Char) : Edit (Option Char) := do
  let selected := (← buffer).selected
  modifyBuffer fun b => { b with selected := none }
  return named.or selected

/-- The error for a register that cannot be used. -/
def badRegister (name : Char) : EditorError := .invalidArgument ("register: ".toList ++ [name])

/-- The register that an edit writes its text to. -/
def takeWritable (named : Option Char) : Edit (Option Char) := do
  let target ← takeRegister named
  if let some name := target then
    if !Register.isWritable name then throw (badRegister name)
  return target

/-- The content of the register that an edit puts; an empty one is an error. -/
def takeContent (named : Option Char) : Edit Register := do
  let source ← takeRegister named
  if let some name := source then
    if !Register.isName name then throw (badRegister name)
  let d ← get
  let content := (d.buffer.register? d.registers source).getD .empty
  if content.isEmpty then throw (.emptyRegister (source.getD '"'))
  return content

end Edit
end ModalEditor
