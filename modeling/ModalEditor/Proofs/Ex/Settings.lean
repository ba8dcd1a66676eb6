import ModalEditor.Proofs.Ex.Frame
import ModalEditor.Proofs.Ex.Prefix

/-!
# Commands that leave the settings alone

Beside buffers, registers and the state of the host the editor holds two settings: the options, and the
last substitution for `:&`. `:set` changes the first and the commands that substitute
(`ExCommand.substitutes`) the second; no other command touches either (`Ex.run_plain_untuned`). Commands
that stay with the current buffer are known not to (`Ex.run_confined`), and the others go to a buffer or
read one and do no more. So the options after a command are those of before, or those that the `:set`
that it comes down to makes of them (`Ex.run_options`).
-/

namespace ModalEditor

variable {σ α β : Type}

/-- The options are the same, and the same substitution can be repeated. -/
structure Editor.SameSettings (e e' : Editor σ) : Prop where
  options : e'.options = e.options
  lastSubstitute : e'.lastSubstitute = e.lastSubstitute

/-- The options are the same. -/
def Editor.SameOptions (e e' : Editor σ) : Prop := e'.options = e.options

namespace Editor

instance : Std.Refl (@SameSettings σ) := ⟨fun _ => ⟨rfl, rfl⟩⟩

instance : IsTrans (Editor σ) SameSettings :=
  ⟨fun _ _ _ h k => ⟨k.options.trans h.options, k.lastSubstitute.trans h.lastSubstitute⟩⟩

theorem AtDesk.sameSettings {e e' : Editor σ} (hd : e.AtDesk True e') : e.SameSettings e' :=
  ⟨hd.options, hd.lastSubstitute trivial⟩

end Editor

namespace EditorM

open Editor

/-- Wherever it starts and however it ends, the step leaves the settings alone. -/
def Untuned (x : EditorM σ α) : Prop := ∀ e, Leads SameSettings x e

variable {x : EditorM σ α} {f : α → EditorM σ β}

theorem Untuned.sameOptions (hx : Untuned x) (e : Editor σ) : Leads SameOptions x e :=
  (hx e).options

theorem Untuned.bind (hx : Untuned x) (hf : ∀ a, Untuned (f a)) : Untuned (x >>= f) :=
  fun e => (hx e).bind fun a t _ _ => hf a t

theorem Confined.untuned (hx : Confined True x) : Untuned x :=
  fun e => AtDesk.sameSettings (hx e)

theorem untuned_modifyTable (change : BufferTable → BufferTable) :
    Untuned (modifyTable change : EditorM σ PUnit) := fun _ => ⟨rfl, rfl⟩

theorem untuned_openPath (h : Host σ) (path : Path) : Untuned (openPath h path) := by
  refine confined_get.untuned.bind fun e => ?_
  split
  · exact untuned_modifyTable _
  · exact (confined_load h path).untuned.bind fun b => untuned_modifyTable _

end EditorM

namespace Ex

open EditorM Editor

variable (h : Host σ) {e : Editor σ}

/-! ## Going to another buffer -/

theorem untuned_say (f : Buffer → ExOutcome) : Untuned (do
    let b ← buffer
    return f b : EditorM σ ExOutcome) := (confined_buffer.bind fun _ => confined_pure _).untuned

theorem untuned_edit (typed : Option Path) (force : Bool) : Untuned (edit h typed force) := by
  refine (confined_pathOrOwn h typed).untuned.bind fun file =>
    confined_buffer.untuned.bind fun b => ?_
  split
  · dsimp only
    split
    · exact ((confined_throw _).bind fun _ => confined_reload h file).untuned
    · exact (confined_reload h file).untuned
  · exact (untuned_openPath h file).bind fun _ => untuned_say _

theorem untuned_goToBuffer (change : BufferTable → BufferTable) :
    Untuned (goToBuffer change : EditorM σ ExOutcome) :=
  (untuned_modifyTable _).bind fun _ => untuned_say _

/-! ## All commands -/

theorem run_plain_untuned {c : ExCommand} (hplain : c.IsPlain) (hc : c.substitutes = false)
    (hset : c.settings? = none) (col : Nat) : Untuned (run h c col) := by
  cases c with
  | edit path force => exact untuned_edit h path force
  | nextBuffer => exact untuned_goToBuffer _
  | previousBuffer => exact untuned_goToBuffer _
  | switchBuffer reference =>
    exact confined_get.untuned.bind fun e => (confined_orFail _).untuned.bind fun t =>
      untuned_goToBuffer _
  | atMark mark next otherwise => exact hplain.elim
  | withRegister name next => exact hplain.elim
  | _ => exact (run_confined h rfl hset (by simp [hc]) col).untuned

/-- Only `:set` changes options. -/
theorem run_plain_sameOptions {c : ExCommand} (hplain : c.IsPlain) (hset : c.settings? = none)
    (col : Nat) (e : Editor σ) : Leads SameOptions (run h c col) e := by
  by_cases hc : c.substitutes = false
  · exact (run_plain_untuned h hplain hc hset col).sameOptions e
  have hstays : c.staysPut = true := by
    cases c <;> first | rfl | exact absurd rfl hc
  have hconfined : Leads (AtDesk False) (run h c col) e :=
    run_confined h hstays hset (fun _ => id) col e
  exact hconfined.options

theorem run_set_options (args : Text) (col : Nat) (e : Editor σ) :
    ((run h (.set args) col).run.run e).2.options = (e.options.applySet args).1 := by
  simp only [run, run_bind, run_get, run_modify, run_orFail]
  cases (e.options.applySet args).2 <;> rfl

/-- The options after a command are those of before, or what the `:set` that it comes down to makes of
them. -/
theorem run_options (c : ExCommand) (col : Nat) (he : e.HasCurrent) :
    ((run h c col).run.run e).2.options =
      match (c.base e.buffer).settings? with
      | some args => (e.options.applySet args).1
      | none => e.options := by
  rw [run_eq_base h c col e he]
  cases hset : (c.base e.buffer).settings? with
  | none =>
    exact run_plain_sameOptions h (c.base_isPlain e.buffer) hset col
      (e.setBuffer (c.approach e.buffer))
  | some args =>
    have hbase : c.base e.buffer = .set args := by
      cases hb : c.base e.buffer <;> rw [hb] at hset <;> cases hset
      rfl
    rw [hbase]
    exact run_set_options h args col _

end Ex
end ModalEditor
