import ModalEditor.Host.Filters

/-!
# Files in memory

A host whose files are a list in memory, for sessions without a disk. Reading or writing chosen
paths can be made to fail. Shell commands go to the shell of filters, and every call is kept.
-/

namespace ModalEditor

/-- Files in memory. -/
structure Memory where
  /-- The files and their texts. -/
  files : List (Path × Text) := []
  /-- Paths that cannot be read. -/
  loadFaults : List (Path × IoFailure) := []
  /-- Paths that cannot be written. -/
  storeFaults : List (Path × IoFailure) := []
  /-- The shell commands that were run, first to last. -/
  calls : List ShellCall := []
deriving Repr, DecidableEq, Inhabited

namespace Memory

/-- What is kept for a path. -/
def at? {α : Type} (path : Path) (entries : List (Path × α)) : Option α :=
  (entries.find? fun e => Path.same e.1 path).map Prod.snd

/-- The entries with a new one for a path, in the place of an old one. -/
def put (path : Path) (text : Text) : List (Path × Text) → List (Path × Text)
  | [] => [(path, text)]
  | (p, t) :: rest => if Path.same p path then (p, text) :: rest else (p, t) :: put path text rest

/-- Reads a file. -/
def load (path : Path) (m : Memory) : Except IoFailure (Option Text) × Memory :=
  match at? path m.loadFaults with
  | some failure => (.error failure, m)
  | none => (.ok (at? path m.files), m)

/-- Writes a file. -/
def store (path : Path) (text : Text) (m : Memory) : Except IoFailure Unit × Memory :=
  match at? path m.storeFaults with
  | some failure => (.error failure, m)
  | none => (.ok (), { m with files := put path text m.files })

/-- Runs a shell command and keeps the call. -/
def run (call : ShellCall) (m : Memory) : Except IoFailure ShellResult × Memory :=
  (Filters.run call.command call.stdin, { m with calls := m.calls ++ [call] })

/-- The host with its files in memory and a project at `root`. -/
def host (root : Path) : Host Memory :=
  { project := .ofRoot root, load, store, run }

end Memory
end ModalEditor
