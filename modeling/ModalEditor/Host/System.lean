import ModalEditor.Shell.Run

/-!
# The host of a program

A program works on a disk in memory that stands for the real one (`Disk.host`): files are read and
written there, and commands go to a shell that runs in the root of the project. At the start the disk
is a fresh one, to which the files of the real one are added. What has to be done to the real one
afterwards is the list of differences to an earlier disk (`Disk.changesSince`).
-/

namespace ModalEditor.Disk

/-- The host with its files on a disk, a project at `root` and commands for `shell`. -/
def host (root : Path) (shell : Text) : Host Disk :=
  { project := .ofRoot root, load, store, run := Shell.spawn shell }

/-- A disk with nothing but its devices. -/
def fresh : Disk :=
  (({} : Disk).grow ["dev".toList, "null".toList] .null).grow ["dev".toList, "full".toList] .full

/-- The files below a place, by the paths that lead to them from there. -/
def filesBelow (d : Disk) (p : Place) : List (Path × Bytes) :=
  d.entries.filterMap fun (q, e) =>
    match p.isPrefixOf? q, e with
    | some rest, .file content => some (Text.join ['/'] rest, content)
    | _, _ => none

/-- A difference between two disks. -/
inductive Change where
  /-- A file is gone. -/
  | lostFile (p : Place)
  /-- A directory is gone. -/
  | lostDirectory (p : Place)
  /-- A directory is new. -/
  | newDirectory (p : Place)
  /-- A file is new or has other content. -/
  | written (p : Place) (content : Bytes)
deriving Repr, DecidableEq

/-- What an entry that only the earlier of two disks has amounts to. -/
def Change.lost? (p : Place) : Entry → Option Change
  | .file _ => some (.lostFile p)
  | .directory => some (.lostDirectory p)
  | _ => none

/-- What an entry that only the later of two disks has amounts to. -/
def Change.gained? (p : Place) : Entry → Option Change
  | .file content => some (.written p content)
  | .directory => some (.newDirectory p)
  | _ => none

/-- The differences of a disk to an earlier one: what is gone, then what is new. A directory comes
before what is in it. -/
def changesSince (old new : Disk) : List Change :=
  let only (a b : Disk) : List (Place × Entry) :=
    (a.entries.filter fun (p, e) => b.entry? p ≠ some e).mergeSort
      fun x y => x.1.length ≤ y.1.length
  let gone := (only old new).filter fun (p, _) => (new.entry? p).isNone
  gone.filterMap (fun (p, e) => Change.lost? p e) ++
    (only new old).filterMap fun (p, e) => Change.gained? p e

end ModalEditor.Disk
