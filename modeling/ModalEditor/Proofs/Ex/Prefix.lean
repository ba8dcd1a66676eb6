import ModalEditor.Ex.Run
import ModalEditor.Proofs.Editor.Evolution
import ModalEditor.Proofs.Ex.Typed

/-!
# Commands behind marks and registers

A command can stand behind any number of `'x` and `"x`. These go to a mark or select a register, and
what is carried out in the end is the plain command behind them: `ExCommand.base`. Carrying out the
whole command is carrying out the plain one on the buffer that the forms in front leave, and these
change nothing but the cursor and the selection.
-/

namespace ModalEditor

namespace ExCommand

/-- The command that is left when the marks in front are looked up in `b`. -/
def base (b : Buffer) : ExCommand → ExCommand
  | .atMark mark next otherwise => if (b.mark? mark).isSome then next.base b else otherwise.base b
  | .withRegister _ next => next.base b
  | c => c

/-- The buffer `b` after the forms in front of the command. -/
def approach (b : Buffer) : ExCommand → Buffer
  | .atMark mark next otherwise =>
    match b.mark? mark with
    | some n => next.approach (b.goTo n)
    | none => otherwise.approach b
  | .withRegister name next => next.approach (b.select name)
  | _ => b

/-- Nothing stands in front of the command. -/
def IsPlain : ExCommand → Prop
  | .atMark _ _ _ => False
  | .withRegister _ _ => False
  | _ => True

variable {b : Buffer} {c : ExCommand}

theorem base_isPlain (b : Buffer) (c : ExCommand) : (c.base b).IsPlain := by
  fun_induction base b c with
  | case1 mark next otherwise hmark ih => exact ih
  | case2 mark next otherwise hmark ih => exact ih
  | case3 name next ih => exact ih
  | case4 c hmark hregister => cases c <;> simp_all [IsPlain]

/-- Only the marks decide which command is left. -/
theorem base_congr {b' : Buffer} (h : b'.marks = b.marks) (c : ExCommand) :
    c.base b' = c.base b := by
  have hmark : ∀ name, b'.mark? name = b.mark? name := fun name => by
    unfold Buffer.mark?
    rw [h]
  induction c with
  | atMark mark next otherwise ihnext ihotherwise =>
    rw [ExCommand.base, ExCommand.base, hmark, ihnext, ihotherwise]
  | withRegister name next ih => exact ih
  | _ => rfl

/-- What the parts of a command share with it, the command that is left shares with it. -/
theorem base_of_parts {P : ExCommand → Prop}
    (hmark : ∀ mark next otherwise, P (.atMark mark next otherwise) → P next ∧ P otherwise)
    (hregister : ∀ name next, P (.withRegister name next) → P next) (hc : P c) (b : Buffer) :
    P (c.base b) := by
  fun_induction base b c with
  | case1 mark next otherwise hfound ih => exact ih (hmark mark next otherwise hc).1
  | case2 mark next otherwise hfound ih => exact ih (hmark mark next otherwise hc).2
  | case3 name next ih => exact ih (hregister name next hc)
  | case4 => exact hc

/-- The paths of the command that is left are typed in the whole command. -/
theorem base_paths_subset (b : Buffer) (c : ExCommand) : (c.base b).paths ⊆ c.paths :=
  base_of_parts (P := fun part => part.paths ⊆ c.paths)
    (fun _ _ _ => List.append_subset.mp) (fun _ _ => id) (List.Subset.refl _) b

/-- The forms in front of a command change the cursor and the selection. -/
theorem approach_eq (b : Buffer) (c : ExCommand) :
    ∃ current selected, c.approach b = { b with current, selected } := by
  induction c generalizing b with
  | atMark mark next otherwise ihnext ihotherwise =>
    rw [approach]
    cases b.mark? mark with
    | some n => exact ihnext (b.goTo n)
    | none => exact ihotherwise b
  | withRegister name next ih => exact ih (b.select name)
  | _ => exact ⟨b.current, b.selected, rfl⟩

theorem approach_evolves (b : Buffer) (c : ExCommand) : b.Evolves (c.approach b) := by
  induction c generalizing b with
  | atMark mark next otherwise ihnext ihotherwise =>
    rw [approach]
    cases b.mark? mark with
    | some n => exact (b.goTo_evolves n).trans (ihnext (b.goTo n))
    | none => exact ihotherwise b
  | withRegister name next ih => exact (b.selected_evolves (some name)).trans (ih (b.select name))
  | _ => exact .refl b

end ExCommand

namespace Ex

open EditorM

variable {σ : Type} (h : Host σ)

/-- The whole command is the plain one, carried out where the forms in front of it lead. -/
theorem run_eq_base (c : ExCommand) (col : Nat) (e : Editor σ) (he : e.HasCurrent) :
    (run h c col).run.run e =
      (run h (c.base e.buffer) col).run.run (e.setBuffer (c.approach e.buffer)) := by
  induction c generalizing e with
  | atMark mark next otherwise ihnext ihotherwise =>
    rw [run]
    simp only [run_bind, run_buffer, ExCommand.base, ExCommand.approach]
    cases hmark : e.buffer.mark? mark with
    | none => exact ihotherwise e he
    | some n =>
      have hmarks : (e.buffer.goTo n).marks = e.buffer.marks := rfl
      have hnext := ihnext (e.setBuffer (e.buffer.goTo n)) (he.setBuffer _)
      rw [Editor.buffer_setBuffer he, Editor.setBuffer_setBuffer,
        ExCommand.base_congr hmarks] at hnext
      exact hnext
  | withRegister name next ih =>
    have hmarks : (e.buffer.select name).marks = e.buffer.marks := rfl
    have hnext := ih (e.setBuffer (e.buffer.select name)) (he.setBuffer _)
    rw [Editor.buffer_setBuffer he, Editor.setBuffer_setBuffer,
      ExCommand.base_congr hmarks] at hnext
    exact hnext
  | _ => simp only [ExCommand.base, ExCommand.approach, Editor.setBuffer_buffer]

end Ex
end ModalEditor
