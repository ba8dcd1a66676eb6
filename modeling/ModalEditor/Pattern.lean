import ModalEditor.Pattern.Matching
import ModalEditor.Pattern.Reader
import ModalEditor.Pattern.Size

/-!
# Patterns

A `Pattern` is a text that was accepted as a regular expression, ready for matching. All that the
editor asks of it is where it matches: `Pattern.matchesOf` lists the matches of a line from left to
right, and `Pattern.replaceFrom` puts something else in the place of each.
-/

namespace ModalEditor

/-- A regular expression, ready for matching. -/
structure Pattern where
  /-- The program that matches it. -/
  program : Pattern.Program
  /-- The names of its groups, with their numbers. -/
  names : List (Text × Nat)
deriving Inhabited

namespace Pattern

/-- Reads a pattern. -/
def ofText (t : Text) (ignoreCase : Bool) : Except Fault Pattern := do
  let (node, cursor) ← Node.read t
  let (e, _) ← (Expr.ofNode node).run { ignoreCase }
  if !e.fits then throw .tooLarge
  return { program := .ofExpr e cursor.groups, names := cursor.names }

/-- The matches of a line, from left to right. -/
def matchesOf (p : Pattern) (t : Text) : List Match := p.program.allMatches t

/-- Some part of a line matches. -/
def isMatch (p : Pattern) (t : Text) : Bool := p.program.hasMatch t

/-- The line from `pos` on with `replacement` in the place of each of the matches. -/
def replaceFrom (replacement : Match → Text) (t : Text) (pos : Nat) : List Match → Text
  | [] => t.drop pos
  | m :: rest =>
    (t.take m.start).drop pos ++ replacement m ++ replaceFrom replacement t m.stop rest

end Pattern
end ModalEditor
