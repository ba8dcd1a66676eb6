import ModalEditor.Project

/-!
# Hosts

The editor reaches the world only through its host: it reads and writes whole files and runs shell
commands. A host works on a state of its own, of any type, which every call may change. Which paths
it is asked for, and with what text, is thus visible in that state.
-/

namespace ModalEditor

/-- A shell command with its input and the directory it runs in. -/
structure ShellCall where
  /-- The command. -/
  command : Text
  /-- What it reads. -/
  stdin : Text
  /-- Where it runs. -/
  directory : Path
deriving Repr, DecidableEq, Inhabited

/-- What a finished shell command leaves. -/
structure ShellResult where
  /-- What it printed. -/
  stdout : Text := []
  /-- What it complained about. -/
  stderr : Text := []
  /-- Its exit status; none if a signal ended it. -/
  status : Option Nat := some 0
deriving Repr, DecidableEq, Inhabited

/-- The world as the editor reaches it. -/
structure Host (σ : Type) where
  /-- The directory that paths are confined to. -/
  project : Project
  /-- Reads a file; a file that does not exist has no text. -/
  load : Path → σ → Except IoFailure (Option Text) × σ
  /-- Replaces the text of a file. -/
  store : Path → Text → σ → Except IoFailure Unit × σ
  /-- Runs a shell command. A failure means that it could not be run at all. -/
  run : ShellCall → σ → Except IoFailure ShellResult × σ

namespace ShellResult

/-- How a command ended badly, for a message. -/
def complaint (r : ShellResult) : Text :=
  let status :=
    match r.status with
    | some n => "exit status ".toList ++ Text.ofNat n
    | none => "killed by signal".toList
  let detail := Text.trim r.stderr
  if detail.isEmpty then status else status ++ ": ".toList ++ detail

/-- The printed text as lines. One line feed at the end does not start another line. -/
def outputLines (r : ShellResult) : List Text :=
  if r.stdout.isEmpty then []
  else (Text.splitLines (Text.dropFinal '\n' r.stdout)).map (Text.dropFinal '\r')

/-- The lines that a command printed, or why they cannot be used. -/
def linesOf (command : Text) : Except IoFailure ShellResult → Except EditorError (List Text)
  | .error failure => .error (.filterFailed (command ++ ": ".toList ++ failure.message))
  | .ok r =>
    if r.status = some 0 then .ok r.outputLines
    else .error (.filterFailed (command ++ ": ".toList ++ r.complaint))

end ShellResult
end ModalEditor
