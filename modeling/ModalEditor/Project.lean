import ModalEditor.Error

/-!
# The project

All files of a session lie in one directory, the root of the project. A path that a user types is
read from there, folded by its text, and refused unless the root is at its front. Links on the disk
are not followed.
-/

namespace ModalEditor

/-- The directory that a session is confined to. -/
structure Project where
  /-- Its path, folded. -/
  root : Path
deriving Repr, DecidableEq, Inhabited

namespace Project

/-- The project in a directory. -/
def ofRoot (root : Path) : Project := ⟨Path.fold root⟩

/-- The file that a typed path names. -/
def resolve (p : Project) (typed : Path) : Except EditorError Path :=
  let path := Path.fold (Path.under p.root typed)
  if Path.liesIn path p.root then .ok path else .error (.accessDenied path)

end Project
end ModalEditor
