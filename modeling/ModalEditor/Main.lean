import ModalEditor.Cli
import ModalEditor.Host.System

/-!
# The command line

The outermost layer: it takes the arguments and the input from the system, lets the program work on
a disk in memory, prints what it prints, and keeps the disk in memory and the real one in step. The
real one is read once, at the start: the working directory and the project, with all that lies below
them. After every line of input the changes are made there, too.
-/

namespace ModalEditor

/-- The largest file, in bytes, that is read. -/
def maxFileSize : Nat := 0x1000000

/-- What a file of the system holds. -/
def readEntry (path : String) (size : Nat) : IO Entry := do
  if size > maxFileSize then return .sealed .tooLarge
  try
    return .file (← IO.FS.readBinFile path).toList
  catch _ => return .sealed .forbidden

/-- Adds what lies below a directory of the system. Links to directories are not followed. -/
partial def readTree (d : Disk) (path : String) (place : Place) : IO Disk := do
  let directory ← IO.FS.realPath path
  let mut d := d.grow place .directory
  let found ← try directory.readDir catch _ => pure #[]
  for item in found do
    let name := item.path.toString
    let inner := place ++ [item.fileName.toList]
    if ← item.path.isDir then
      if (← item.path.symlinkMetadata).type matches .dir then
        d ← readTree d name inner
    else
      try
        d := d.put inner (← readEntry name (← item.path.metadata).byteSize.toNat)
      catch _ => pure ()
  return d

/-- The disk of a program that was called in the directory `here` for a project at `root`. -/
def readDisk (here root : String) : IO Disk := do
  let d ← readTree .fresh here (Disk.placeOf .fresh here.toList)
  let d := { d with working := Disk.placeOf .fresh here.toList }
  let project := d.placeOf root.toList
  if d.working.isPrefixOf project then return d
  else
    try
      readTree d root project
    catch _ => return d

/-- Makes a change on the disk of the system. -/
def writeChange (c : Disk.Change) : IO Unit := do
  let path (p : Place) : String := String.ofList (Disk.pathOf p)
  match c with
  | .lostFile p => try IO.FS.removeFile (path p) catch _ => pure ()
  | .lostDirectory p => try IO.FS.removeDirAll (path p) catch _ => pure ()
  | .newDirectory p => IO.FS.createDirAll (path p)
  | .written p content => IO.FS.writeBinFile (path p) ⟨content.toArray⟩

/-- Prints texts, each on a line of its own. -/
def say (lines : List Text) : IO Unit := do
  let out ← IO.getStdout
  out.putStr (String.ofList (Cli.printed lines))
  out.flush

/-- Gives the reason of a failure and the exit code for it. -/
def giveUp (reason : Text) : IO UInt32 := do
  IO.eprint (String.ofList (Cli.lastWords reason))
  return 1

/-- The next line of the input, with its line break; nothing at the end. `before` holds the bytes of
the line that have been read, last first. -/
partial def nextLine (before : Bytes) : IO Bytes := do
  let chunk ← (← IO.getStdin).read 1
  let line := chunk.toList ++ before
  if chunk.isEmpty || chunk.toList = [10] then return line.reverse
  nextLine line

/-- Takes lines of input up to the end of the session. -/
partial def converse (h : Host Disk) (s : Session Disk) : IO UInt32 := do
  let line ← nextLine []
  if line.isEmpty then return 0
  let (next, said, progress) := Cli.takeLine h s line
  say said
  (Disk.changesSince s.editor.world next.editor.world).forM writeChange
  match progress with
  | .more => converse h next
  | .quit => return 0
  | .failed reason => giveUp reason

/-- Runs the program on the disk of the system. -/
def runProgram (args : List String) : IO UInt32 := do
  let here := (← IO.currentDir).toString
  match Cli.Request.read here.toList (args.map String.toList) with
  | .error reason => giveUp reason
  | .ok .help =>
    say [Cli.usage]
    return 0
  | .ok (.edit a) =>
    let d ← readDisk here (String.ofList a.root)
    let h := Disk.host a.root a.shell
    match Cli.start a h d with
    | .error reason => giveUp reason
    | .ok s => converse h s

end ModalEditor

/-- Runs the program. -/
def main (args : List String) : IO UInt32 := ModalEditor.runProgram args
