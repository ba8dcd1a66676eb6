import ModalEditor.Edit.Substitute

/-!
# Global commands

A global command carries out an edit on every line of a span that matches a pattern, or on every one
that does not. The lines are picked first and visited from the bottom up, so that what the edit does
to a line cannot shift those still to come, as long as it does not reach above. Afterwards the
cursor is back on its line. A failure of the edit ends the visit; what was done stays.
-/

namespace ModalEditor

/-- What came of visiting lines. -/
structure Visit where
  /-- The lines that were visited, first to last. -/
  lines : List Nat := []
  /-- The failure that ended the visit at the last of them. -/
  failure : Option EditorError := none
deriving Repr, DecidableEq, Inhabited

namespace Edit

/-- Carries out an edit with the cursor on each of the lines that still exist. -/
def visit (each : Edit Unit) : List Nat → StateM Desk Visit
  | [] => return {}
  | n :: rest => do
    if (← get).buffer.lineCount ≤ n then visit each rest
    else
      modify fun d => { d with buffer := d.buffer.goTo n }
      match ← each.run with
      | .ok () =>
        let v ← visit each rest
        return { v with lines := n :: v.lines }
      | .error e => return { lines := [n], failure := some e }

/-- Carries out an edit on the lines of a span that match, or with `inverse` on the others. It is an
error if there are none. -/
def visitMatching (isMatch : Text → Bool) (pattern : Text) (s : LineSpan) (inverse : Bool)
    (each : Edit Unit) : Edit Visit := do
  checkSpan s
  let b ← buffer
  let targets := (Search.matchingLines isMatch b inverse).filter s.contains
  if targets.isEmpty then throw (.patternNotFound pattern)
  let v ← (visit each targets.reverse : StateM Desk Visit)
  modifyBuffer (·.goTo b.current)
  return v

/-- Carries out an edit on the lines of a span that match a typed pattern. -/
def visitTyped (s : LineSpan) (pattern : Text) (inverse : Bool) (o : Options) (each : Edit Unit) :
    Edit Visit := do
  let (pattern, re) ← compile pattern o.ignoreCase
  visitMatching re.isMatch pattern s inverse each

/-- The number of lines of a visit, or the failure that ended it. -/
def settle (v : Visit) : Edit Nat :=
  match v.failure with
  | some e => throw e
  | none => return v.lines.length

/-- Carries out an edit on the lines of a span that match a typed pattern. Gives their number. -/
def global (s : LineSpan) (pattern : Text) (inverse : Bool) (o : Options) (each : Edit Unit) :
    Edit Nat := do settle (← visitTyped s pattern inverse o each)

end Edit
end ModalEditor
