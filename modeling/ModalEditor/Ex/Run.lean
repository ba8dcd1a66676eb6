import ModalEditor.Edit.Global
import ModalEditor.Edit.Insert
import ModalEditor.Edit.Lines
import ModalEditor.Editor
import ModalEditor.Ex.Command
import ModalEditor.Normal.Run

/-!
# Running commands

`Ex.run` carries out a command of the command line, with the cursor at a column of the current line.
Ranges are resolved here, against the buffer that is current when their command runs.
-/

namespace ModalEditor

/-- What a command of the command line leaves behind. -/
structure ExOutcome where
  /-- The column of the cursor. -/
  col : Nat
  /-- What the command has to say. -/
  message : Option Text := none
  /-- The session is to end. -/
  quit : Bool := false
deriving Repr, DecidableEq, Inhabited

namespace Ex

open EditorM

variable {σ : Type} (h : Host σ)

/-- The outcome of a command that ends the session. -/
def quitOutcome : ExOutcome := { col := 0, quit := true }

/-- Fails if a buffer has unsaved changes. -/
def checkSaved : EditorM σ Unit := do
  if let some name := (← get).buffers.firstModified? then throw (.unsavedChanges name)

/-- The lines of a range on the current buffer. -/
def resolveOr (range : Range) (fallback : Buffer → LineSpan) : EditorM σ LineSpan := do
  let e ← get
  orFail (range.resolve e.buffer e.options (fallback e.buffer))

/-- The lines of a range, by default the current line. -/
def spanOf (range : Range) : EditorM σ LineSpan := resolveOr range Buffer.currentSpan

/-! ## Messages -/

/-- Size of a text for messages: lines and bytes. -/
def sizeText (lines bytes : Nat) : Text :=
  Text.ofNat lines ++ "L, ".toList ++ Text.ofNat bytes ++ ['B']

/-- A name in quotes. -/
def quoted (name : Text) : Text := '"' :: (name ++ ['"'])

/-- A buffer that was read. -/
def loadMessage (b : Buffer) : Text :=
  if b.isNew then quoted b.displayName ++ " [New]".toList
  else quoted b.displayName ++ ' ' :: sizeText b.lineCount (Text.byteSize b.toText)

/-- A buffer that was gone to. -/
def positionMessage (b : Buffer) : Text :=
  quoted b.displayName ++ (if b.modified then " [Modified]" else "").toList ++
    " line ".toList ++ Text.ofNat (b.current + 1) ++ " of ".toList ++ Text.ofNat b.lineCount

/-! ## Files -/

/-- Writes the current buffer to its own path. Gives the message. -/
def writeCurrent : EditorM σ Text := do
  let new := if (← buffer).isNew then " [New]" else ""
  let size ← writeOwn h
  let b ← buffer
  return quoted b.displayName ++ new.toList ++ ' ' :: sizeText b.lineCount size ++
    " written".toList

/-- Gives the current buffer a path. -/
def setPath (path : Path) : EditorM σ Unit := modifyBuffer fun b => { b with path := some path }

/-- `:w`. A copy to another path leaves the buffer as it is; a buffer without a path takes the one
it is written to. Gives the message. -/
def write (typed : Option Path) : EditorM σ Text := do
  match typed with
  | none => writeCurrent h
  | some typed =>
    let target ← resolve h typed
    let b ← buffer
    if b.path.any fun own => !Path.same own target then
      let size ← writeTo h target
      return quoted target ++ ' ' :: sizeText b.lineCount size ++ " written".toList
    else
      setPath target
      writeCurrent h

/-- The typed path, resolved, or that of the buffer. -/
def pathOrOwn (typed : Option Path) : EditorM σ Path := do
  match typed with
  | some typed => resolve h typed
  | none =>
    match (← buffer).path with
    | some path => return path
    | none => throw .noFileName

/-- `:e`. The buffer's own path reads the file again, but not over unsaved changes. -/
def edit (typed : Option Path) (force : Bool) : EditorM σ ExOutcome := do
  let target ← pathOrOwn h typed
  let b ← buffer
  if b.path.any (Path.same · target) then
    if b.modified && !force then throw (.unsavedChanges b.displayName)
    let reloaded ← load h target
    modifyBuffer fun _ => reloaded
  else openPath h target
  let b ← buffer
  return { col := b.home, message := some (loadMessage b) }

/-- The lines that `:r` reads, and what it has to say. -/
def readLines : ReadSource → EditorM σ (List Text × Option Text)
  | .file typed => do
    let path ← pathOrOwn h typed
    match ← askOrFail (h.load path) with
    | none => throw (.cannotOpen path)
    | some text =>
      let lines := if text.isEmpty then [] else (Buffer.ofText none text).lines
      return (lines, some (quoted path ++ ' ' :: sizeText lines.length (Text.byteSize text)))
  | .shell command => do return (← shellLines h command [], none)

/-- `:r` -/
def read (range : Range) (source : ReadSource) : EditorM σ ExOutcome := do
  let (lines, message) ← readLines h source
  let span ← spanOf range
  modifyBuffer (·.appendLines span.last lines)
  return { col := (← buffer).home, message }

/-! ## Registers and the shell -/

/-- The registers with content among those named, or all of them, as a listing shows them. -/
def registerListing (e : Editor σ) (names : Text) : Text :=
  let wanted (name : Char) : Bool := names.isEmpty || name ∈ names
  let rows := (e.registers.contents.filter fun r => wanted r.1).map fun (name, content) =>
    '"' :: name :: "   ".toList ++ content.render
  let path := match e.buffer.path with
    | some path => if wanted '%' then ["\"%   ".toList ++ path] else []
    | none => []
  Text.join ['\n'] ("--- Registers ---".toList :: (rows ++ path))

/-- Pipes the lines of a span through a shell command. Gives the number of lines it printed. -/
def filterLines (s : LineSpan) (command : Text) : EditorM σ Nat := do
  onCurrent (Edit.checkSpan s)
  let stdin := Text.join ['\n'] ((← buffer).linesOf s) ++ ['\n']
  let lines ← shellLines h command stdin
  modifyBuffer fun b => (b.replaceLines s lines).goTo s.first
  return lines.length

/-- `:!`. Without a range the output is only shown. -/
def filter (range : Range) (command : Text) (col : Nat) : EditorM σ ExOutcome := do
  if range.isImplicit then
    let lines ← shellLines h command []
    return { col, message := if lines.isEmpty then none else some (Text.join ['\n'] lines) }
  else
    let span ← spanOf range
    let _ ← filterLines h span command
    return { col := (← buffer).home, message := lineReport span.size "lines filtered" }

/-! ## Lines and patterns -/

/-- The lines of `:d` and `:y`. With a count they start at the last line of the range. -/
def countedSpan (range : Range) (count : Option Nat) : EditorM σ LineSpan := do
  let span ← spanOf range
  match count with
  | none => return span
  | some n => return ⟨span.last, min (span.last + (max n 1 - 1)) (← buffer).lastLine⟩

/-- What a counting substitution has to say. -/
def countMessage (n : Nat) : Text :=
  Text.ofNat n ++ (if n = 1 then " match" else " matches").toList

/-- `:s` -/
def substitute (range : Range) (pattern replacement : Text) (flags : SubFlags) :
    EditorM σ ExOutcome := do
  let span ← spanOf range
  let count ← onCurrent (Edit.substitute span pattern replacement flags (← get).options)
  modify fun e => { e with lastSubstitute := some { pattern, replacement, flags } }
  let b ← buffer
  if count = 0 then throw (.patternNotFound (b.lastSearch.getD pattern))
  else if flags.countOnly then return { col := b.home, message := some (countMessage count) }
  else return { col := b.home, message := lineReport count "substitutions" }

/-- What `:g` does on the current line. -/
def globalEdit (action : GlobalAction) (o : Options) : Edit Unit := do
  let line := (← Edit.buffer).currentSpan
  match action with
  | .delete => let _ ← Edit.deleteLines line none
  | .substitute pattern replacement flags =>
    let _ ← Edit.substitute line pattern replacement flags o
  | .normal keys => let _ ← Normal.runKeys keys 0

/-- `:g`. A substitution in it can be repeated later, whatever comes of the command. -/
def global (range : Range) (pattern : Text) (inverse : Bool) (action : GlobalAction) :
    EditorM σ ExOutcome := do
  let span ← resolveOr range Buffer.wholeSpan
  let before := (← buffer).lineCount
  if let .substitute pattern replacement flags := action then
    modify fun e => { e with lastSubstitute := some { pattern, replacement, flags } }
  let o := (← get).options
  let _ ← onCurrent (Edit.global span pattern inverse o (globalEdit action o))
  let b ← buffer
  return { col := b.home, message := lineReport (before - b.lineCount) "fewer lines" }

/-- Carries out keys on the `n` lines from line `i` on, as far as they exist. Lines are visited by
their numbers, whatever the keys do to them. Gives the column afterwards. -/
def normalOn (keys : Text) : Nat → Nat → Nat → EditorM σ Nat
  | 0, _, col => return col
  | n + 1, i, col => do
    if (← buffer).lineCount ≤ i then return col
    modifyBuffer (·.goTo i)
    let outcome ← onCurrent (Normal.runKeys keys 0)
    normalOn keys n (i + 1) outcome.col

/-- `:norm` -/
def normal (range : Range) (keys : Text) (col : Nat) : EditorM σ ExOutcome := do
  if range.isImplicit then
    let outcome ← onCurrent (Normal.runKeys keys col)
    return { col := outcome.col, message := outcome.message }
  else
    let span ← spanOf range
    return { col := ← normalOn keys span.size span.first col }

/-! ## All commands -/

/-- Goes to another buffer. -/
def goToBuffer (change : BufferTable → BufferTable) : EditorM σ ExOutcome := do
  modifyTable change
  let b ← buffer
  return { col := b.home, message := some (positionMessage b) }

/-- Carries out a command with the cursor at column `col`. -/
def run : ExCommand → Nat → EditorM σ ExOutcome
  | .goto range, _ => do
    let span ← spanOf range
    modifyBuffer (·.goTo span.last)
    return { col := (← buffer).home }
  | .edit path force, _ => edit h path force
  | .write path _, col => do return { col, message := ← write h path }
  | .writeQuit path, _ => do
    let _ ← write h path
    checkSaved
    return quitOutcome
  | .exit, _ => do
    if (← buffer).modified then
      let _ ← write h none
    checkSaved
    return quitOutcome
  | .quit force, _ => do
    unless force do checkSaved
    return quitOutcome
  | .nextBuffer, _ => goToBuffer .next
  | .previousBuffer, _ => goToBuffer .previous
  | .listBuffers, col => do
    return { col, message := some (Text.join ['\n'] (← get).buffers.rows) }
  | .switchBuffer reference, _ => do
    let t ← orFail ((← get).buffers.switch reference)
    goToBuffer fun _ => t
  | .read range source, _ => read h range source
  | .saveAs path, col => do
    setPath (← resolve h path)
    return { col, message := ← writeCurrent h }
  | .showRegisters names, col => do
    return { col, message := some (registerListing (← get) names) }
  | .setMark range name, col => do
    let span ← spanOf range
    let b ← orFail ((← buffer).setMark name span.last)
    modifyBuffer fun _ => b
    return { col }
  | .delete range register count, _ => do
    let span ← countedSpan range count
    let removed ← onCurrent (Edit.deleteLines span register)
    return { col := (← buffer).home, message := lineReport removed "fewer lines" }
  | .yank range register count, col => do
    let span ← countedSpan range count
    let yanked ← onCurrent (Edit.yankLines span register)
    return { col, message := lineReport yanked "lines yanked" }
  | .put range register above, _ => do
    let span ← spanOf range
    modifyBuffer (·.goTo span.last)
    let added ← onCurrent (Edit.putLines above register 1)
    return { col := (← buffer).home, message := lineReport added "more lines" }
  | .substitute range pattern replacement flags, _ =>
    substitute range pattern replacement flags
  | .repeatSubstitute range flags, _ => do
    match (← get).lastSubstitute with
    | none => throw .noPreviousSubstitute
    | some last => substitute range last.pattern last.replacement (flags.getD last.flags)
  | .global range pattern inverse action, _ => global range pattern inverse action
  | .normal range keys, col => normal range keys col
  | .filter range command, col => filter h range command col
  | .set args, col => do
    let (options, result) := (← get).options.applySet args
    modify fun e => { e with options }
    return { col, message := ← orFail result }
  | .atMark mark next otherwise, col => do
    match (← buffer).mark? mark with
    | some n =>
      modifyBuffer (·.goTo n)
      run next col
    | none => run otherwise col
  | .selectRegister name, col => do
    modifyBuffer (·.select name)
    return { col }
  | .withRegister name next, col => do
    modifyBuffer (·.select name)
    run next col

end Ex
end ModalEditor
