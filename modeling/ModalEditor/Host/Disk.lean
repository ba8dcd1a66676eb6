import ModalEditor.Host
import ModalEditor.Text.Utf8

/-!
# Disks

A tree of directories and files, kept as a list of entries by the names that lead to them from the
top, with a working directory from which relative paths are read. Following a path needs every
directory on the way to exist; only its last name may be missing, so that a file can be made there.

Failures carry the words of the operating system, with its error number.
-/

namespace ModalEditor

/-- What a path leads to. -/
inductive Entry where
  /-- A file and its bytes. -/
  | file (content : Bytes)
  /-- A directory. -/
  | directory
  /-- The device that swallows everything and holds nothing. -/
  | null
  /-- The device that takes nothing and never ends. -/
  | full
  /-- A file that cannot be used, and why. -/
  | sealed (why : IoFailure)
deriving Repr, DecidableEq, Inhabited

/-- The names that lead to an entry from the top of a disk. -/
abbrev Place := List Text

/-- A disk. -/
structure Disk where
  /-- Its entries. The top directory itself is not listed. -/
  entries : List (Place × Entry) := []
  /-- Where relative paths are read from. -/
  working : Place := []
deriving Repr, DecidableEq, Inhabited

namespace IoFailure

/-- Nothing has the name. -/
def missing : IoFailure := ⟨.notFound, "No such file or directory (os error 2)".toList⟩

/-- The memory does not suffice. -/
def outOfMemory : IoFailure := ⟨.outOfMemory, "out of memory".toList⟩

/-- What is named may not be used. -/
def forbidden : IoFailure := ⟨.permissionDenied, "Permission denied (os error 13)".toList⟩

/-- A file stands where the path needs a directory. -/
def notDirectory : IoFailure := ⟨.other, "Not a directory (os error 20)".toList⟩

/-- A directory stands where a file is needed. -/
def isDirectory : IoFailure := ⟨.other, "Is a directory (os error 21)".toList⟩

/-- No room is left. -/
def noSpace : IoFailure := ⟨.storageFull, "No space left on device (os error 28)".toList⟩

/-- A file is larger than can be worked on. -/
def tooLarge : IoFailure := ⟨.other, "File too large (os error 27)".toList⟩

/-- A name or a whole path is too long. -/
def nameTooLong : IoFailure := ⟨.other, "File name too long (os error 36)".toList⟩

/-- A path with a null character. -/
def nullInPath : IoFailure :=
  ⟨.other, "file name contained an unexpected NUL byte".toList⟩

/-- A command with a null character. -/
def nullInCommand : IoFailure := ⟨.other, "nul byte found in provided data".toList⟩

/-- Bytes that are not text. -/
def notText : IoFailure := ⟨.invalidData, "stream did not contain valid UTF-8".toList⟩

end IoFailure

namespace Disk

/-- The longest name, in bytes. -/
def maxNameSize : Nat := 255

/-- The longest path, in bytes. -/
def maxPathSize : Nat := 4095

/-- The entry at a place. -/
def entry? (d : Disk) (p : Place) : Option Entry :=
  if p.isEmpty then some .directory else d.entries.lookup p

/-- The disk with an entry at a place, in the place of an old one. -/
def put (d : Disk) (p : Place) (e : Entry) : Disk :=
  { d with entries := (p, e) :: d.entries.filter (·.1 ≠ p) }

/-- Takes one step from a place: that must be a directory. -/
def step (d : Disk) (p : Place) (c : Component) : Except IoFailure Place :=
  match d.entry? p with
  | none => .error .missing
  | some .directory =>
    match c with
    | .root => .ok []
    | .here => .ok p
    | .up => .ok p.dropLast
    | .name n => if Text.byteSize n > maxNameSize then .error .nameTooLong else .ok (p ++ [n])
  | some _ => .error .notDirectory

/-- The place that a path leads to, which need not hold anything. -/
def locate (d : Disk) (path : Path) : Except IoFailure Place :=
  if '\x00' ∈ path then .error .nullInPath
  else if path.isEmpty then .error .missing
  else if Text.byteSize path > maxPathSize then .error .nameTooLong
  else
    (Path.components path).foldlM (fun p c => d.step p c)
      (if Path.isAbsolute path then [] else d.working)

/-- The bytes of the file at a path. -/
def read (d : Disk) (path : Path) : Except IoFailure Bytes := do
  match d.entry? (← d.locate path) with
  | none => throw .missing
  | some (.file content) => return content
  | some .directory => throw .isDirectory
  | some .null => return []
  | some .full => throw .outOfMemory
  | some (.sealed why) => throw why

/-- The disk with new content in the file at a path. -/
def write (d : Disk) (path : Path) (content : Bytes) : Except IoFailure Disk := do
  let p ← d.locate path
  match d.entry? p with
  | none | some (.file _) => return d.put p (.file content)
  | some .directory => throw .isDirectory
  | some .null => return d
  | some .full => if content.isEmpty then return d else throw .noSpace
  | some (.sealed why) => throw why

/-- The disk with the working directory that a path leads to. -/
def enter (d : Disk) (path : Path) : Except IoFailure Disk := do
  let p ← d.locate path
  match d.entry? p with
  | none => throw .missing
  | some .directory => return { d with working := p }
  | some _ => throw .notDirectory

/-- Reads a text file; a file that does not exist has no text. -/
def load (path : Path) (d : Disk) : Except IoFailure (Option Text) × Disk :=
  let result :=
    match d.read path with
    | .ok bytes =>
      match Utf8.decode? bytes with
      | some t => .ok (some t)
      | none => .error .notText
    | .error failure => if failure.kind = .notFound then .ok none else .error failure
  (result, d)

/-- Replaces the text of a file. -/
def store (path : Path) (text : Text) (d : Disk) : Except IoFailure Unit × Disk :=
  match d.write path (Utf8.encode text) with
  | .ok d => (.ok (), d)
  | .error failure => (.error failure, d)

/-- The disk with the directories that lead to a place and the entry there. -/
def grow (d : Disk) (p : Place) (e : Entry) : Disk :=
  let above := (List.range p.length).map p.take
  let d := above.foldl (fun d q => if (d.entry? q).isSome then d else d.put q .directory) d
  d.put p e

/-- The path of a place. -/
def pathOf (p : Place) : Path := '/' :: Text.join ['/'] p

/-- The place that a path names by its text alone, read from the working directory. -/
def placeOf (d : Disk) (path : Path) : Place :=
  (Path.components (Path.fold (Path.under (pathOf d.working) path))).filterMap fun c =>
    match c with
    | .name n => some n
    | _ => none

end Disk
end ModalEditor
