import ModalEditor.Proofs.Ex.Settings

/-!
# Commands that leave the last substitution alone

The editor remembers the last substitution for `:&`. Of all commands only those that substitute
themselves (`ExCommand.substitutes`) put another one in its place: whatever else a command does to
buffers, registers, options and the host, what it is made of does not touch that
(`Ex.run_unsubstituted`).
-/

namespace ModalEditor

variable {σ α : Type}

/-- The same substitution can be repeated. -/
def Editor.SameLast (e e' : Editor σ) : Prop := e'.lastSubstitute = e.lastSubstitute

namespace Editor

instance : Std.Refl (@SameLast σ) := ⟨fun _ => rfl⟩

instance : IsTrans (Editor σ) SameLast := ⟨fun _ _ _ h k => Eq.trans k h⟩

end Editor

/-- Wherever it starts and however it ends, the step leaves the last substitution alone. -/
def EditorM.Unsubstituted (x : EditorM σ α) : Prop := ∀ e, Leads Editor.SameLast x e

namespace Ex

open EditorM Editor

variable (h : Host σ)

theorem run_set_unsubstituted (args : Text) (col : Nat) : Unsubstituted (run h (.set args) col) := by
  intro e
  have hset : Leads SameLast
      (modify fun e₁ => { e₁ with options := (e.options.applySet args).1 } : EditorM σ PUnit) e := rfl
  refine Leads.get_bind (hset.bind fun _ e₁ _ _ => ?_)
  exact ((confined_orFail _).bind fun _ => confined_pure _).untuned e₁ |>.lastSubstitute

theorem run_plain_unsubstituted {c : ExCommand} (hplain : c.IsPlain) (hc : c.substitutes = false)
    (col : Nat) : Unsubstituted (run h c col) := by
  cases c with
  | set args => exact run_set_unsubstituted h args col
  | _ => exact fun e => (run_plain_untuned h hplain hc rfl col e).lastSubstitute

/-- A command that does not come down to a substitution leaves the last one alone. -/
theorem run_unsubstituted {c : ExCommand} {e : Editor σ} (he : e.HasCurrent)
    (hc : (c.base e.buffer).substitutes = false) (col : Nat) :
    Leads SameLast (run h c col) e := by
  have hplain := run_plain_unsubstituted h (c.base_isPlain e.buffer) hc col
    (e.setBuffer (c.approach e.buffer))
  unfold Leads at hplain ⊢
  rw [run_eq_base h c col e he]
  exact hplain

end Ex
end ModalEditor
