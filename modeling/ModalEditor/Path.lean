import ModalEditor.Text.Basic

/-!
# Paths

A path is a text; what it names is decided by its components. Two paths are the same file name when
they have the same components, so `/p//a/` and `/p/./a` are the same path as `/p/a`. Folding takes
`.` and `..` out of a path by its text alone, without looking at a disk.
-/

namespace ModalEditor

/-- A path as it was given. -/
abbrev Path := Text

/-- A component of a path. -/
inductive Component where
  /-- The leading `/` of an absolute path. -/
  | root
  /-- A `.` at the start of a relative path. -/
  | here
  /-- `..` -/
  | up
  /-- The name of a file or directory. -/
  | name (n : Text)
deriving Repr, DecidableEq

namespace Path

/-- The path starts at the root of the file system. -/
def isAbsolute (p : Path) : Bool := p.head? == some '/'

/-- A piece between slashes as a component. -/
def component (piece : Text) : Component := if piece = "..".toList then .up else .name piece

/-- The components of a path. Empty pieces do not count, and neither does `.`, except at the start
of a relative path. -/
def components (p : Path) : List Component :=
  let pieces := p.splitOn '/'
  let start : List Component :=
    if isAbsolute p then [.root]
    else if pieces.head? = some ['.'] then [.here] else []
  start ++ (pieces.filter fun piece => !piece.isEmpty && piece != ['.']).map component

/-- Both paths have the same components. -/
def same (p q : Path) : Bool := components p == components q

/-- The components of `dir` start those of `p`. -/
def liesIn (p dir : Path) : Bool := (components dir).isPrefixOf (components p)

/-- `p` read from the directory `dir`. -/
def under (dir p : Path) : Path :=
  if isAbsolute p || dir.isEmpty then p
  else if dir.getLast? = some '/' then dir ++ p
  else dir ++ '/' :: p

/-- Folds components, with those before them given last first: `..` takes a name back, and does
nothing at the root or at the start of a relative path. -/
def foldOnto (before : List Component) : List Component → List Component
  | [] => before.reverse
  | .here :: rest => foldOnto before rest
  | .up :: rest =>
    match before with
    | .name _ :: before => foldOnto before rest
    | before => foldOnto before rest
  | .root :: rest => foldOnto [.root] rest
  | .name n :: rest => foldOnto (.name n :: before) rest

/-- The text of a component. -/
def componentText : Component → Text
  | .root => []
  | .here => ['.']
  | .up => ['.', '.']
  | .name n => n

/-- The path with the given components. -/
def ofComponents (cs : List Component) : Path :=
  if cs = [.root] then ['/'] else Text.join ['/'] (cs.map componentText)

/-- The path without `.` and `..`. -/
def fold (p : Path) : Path := ofComponents (foldOnto [] (components p))

end Path
end ModalEditor
