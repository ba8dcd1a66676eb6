import ModalEditor.Proofs.Edit.Failure
import ModalEditor.Proofs.Ex.Evolution

/-!
# Global commands

What `:g` does is the visit of the lines that it has picked. It picks none if it fails before the
first of them (`Edit.run_global_of_ok`), and of its action it remembers a substitution
(`run_global`).
-/

namespace ModalEditor

namespace Edit

/-- A global command with a pattern that can be read: either there is no line to visit, or all of them
are visited and a failure on one of them is that of the command. -/
theorem run_global_of_ok {d : Desk} {s : LineSpan} {pattern typed : Text} {o : Options}
    {re : Pattern} (inverse : Bool) (each : Edit Unit) (hl : s.last < d.buffer.lines.length)
    (htyped : typedIn d.buffer pattern = some typed)
    (hre : Search.compile typed o.ignoreCase = .ok re) :
    let b := { d.buffer with lastSearch := some typed }
    let targets := (Search.matchingLines re.isMatch b inverse).filter s.contains
    let v := (visit each targets.reverse).run { d with buffer := b }
    (global s pattern inverse o each).run.run d =
      if targets.isEmpty then (.error (.patternNotFound typed), { d with buffer := b })
      else
        (match v.1.failure with
          | some e => .error e
          | none => .ok v.1.lines.length, { v.2 with buffer := v.2.buffer.goTo b.current }) := by
  intro b targets v
  rw [global, run_bind, visitTyped, run_bind, run_compile_of_ok htyped hre]
  dsimp only
  rw [run_visitMatching, if_neg (show ¬ b.lineCount ≤ s.last from Nat.not_le_of_gt hl)]
  by_cases hempty : targets.isEmpty = true
  · rw [if_pos hempty, if_pos hempty]
  · rw [if_neg hempty, if_neg hempty]
    dsimp only
    unfold settle
    cases v.1.failure <;> rfl

end Edit

namespace Ex

open EditorM

variable {σ : Type}

/-- What `:g` remembers of its action before anything happens. -/
def remember (action : GlobalAction) (e : Editor σ) : Editor σ :=
  match action with
  | .substitute pattern replacement flags =>
    { e with lastSubstitute := some { pattern, replacement, flags } }
  | .delete => e
  | .normal _ => e

/-- What follows in `:g` when its range is known: the visit of the current buffer, and the report of
how many lines it has lost. -/
theorem run_globalVisit {e : Editor σ} (s : LineSpan) (pattern : Text) (inverse : Bool)
    (action : GlobalAction) (before : Nat) (he : e.HasCurrent) :
    let r := (Edit.global s pattern inverse e.options
      (globalEdit action e.options)).run.run ⟨e.buffer, e.registers⟩
    (do
      let o := (← get).options
      let _ ← onCurrent (Edit.global s pattern inverse o (globalEdit action o))
      let b ← buffer
      return { col := b.home, message := lineReport (before - b.lineCount) "fewer lines" } :
      EditorM σ ExOutcome).run.run e =
      (r.1.map fun _ =>
        { col := r.2.buffer.home
          message := lineReport (before - r.2.buffer.lineCount) "fewer lines" },
        { e.setBuffer r.2.buffer with registers := r.2.registers }) := by
  intro r
  have hbuffer : ({ e.setBuffer r.2.buffer with registers := r.2.registers } : Editor σ).buffer =
      r.2.buffer := Editor.buffer_setBuffer he _
  have hedit : (onCurrent (Edit.global s pattern inverse e.options
      (globalEdit action e.options))).run.run e =
        (r.1, { e.setBuffer r.2.buffer with registers := r.2.registers }) := run_onCurrent _ e
  simp only [run_bind, run_get, hedit]
  cases r.1 with
  | error err => rfl
  | ok count =>
    simp only [run_buffer, hbuffer]
    rfl

/-- `:g` on lines of the current buffer, with what it remembers. -/
theorem run_global (h : Host σ) {e : Editor σ} {range : Range} {s : LineSpan} (pattern : Text)
    (inverse : Bool) (action : GlobalAction) (col : Nat) (he : e.HasCurrent)
    (hs : range.resolve e.buffer e.options e.buffer.wholeSpan = .ok s) :
    let r := (Edit.global s pattern inverse e.options
      (globalEdit action e.options)).run.run ⟨e.buffer, e.registers⟩
    (run h (.global range pattern inverse action) col).run.run e =
      (r.1.map fun _ =>
        { col := r.2.buffer.home
          message := lineReport (e.buffer.lineCount - r.2.buffer.lineCount) "fewer lines" },
        { (remember action e).setBuffer r.2.buffer with registers := r.2.registers }) := by
  intro r
  change (global range pattern inverse action).run.run e = _
  unfold global
  simp only [run_bind, run_resolveOr, hs, run_buffer]
  cases action with
  | delete => exact run_globalVisit s pattern inverse .delete e.buffer.lineCount he
  | normal keys => exact run_globalVisit s pattern inverse (.normal keys) e.buffer.lineCount he
  | substitute q replacement flags =>
    have hvisit := run_globalVisit (e := remember (.substitute q replacement flags) e) s pattern
      inverse (.substitute q replacement flags) e.buffer.lineCount he
    simp only [run_bind] at hvisit
    simp only [run_bind, run_modify]
    exact hvisit

end Ex
end ModalEditor
