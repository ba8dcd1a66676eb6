import ModalEditor.Edit.Basic
import Mathlib.Order.Defs.Unbundled

/-!
# Running steps that may fail

Edits and the steps of the editor are the same kind of program: they work on a state, and they may
fail, in which case the state keeps what was done. The first section evaluates such a program step
by step; the second says that a program leads from a state to a related one, however it ends; the third
says it only of a program that fails.
-/

namespace ModalEditor

/-- A step on a state of type `S` that may fail. Edits and steps of the editor are of this kind. -/
abbrev Fallible (S : Type) := ExceptT EditorError (StateM S)

section Run

variable {S α β : Type}

/-- A failure skips what follows; a result is passed on together with the state. -/
theorem run_bind (x : Fallible S α) (f : α → Fallible S β) (s : S) :
    (x >>= f).run.run s =
      match x.run.run s with
      | (.ok a, t) => (f a).run.run t
      | (.error e, t) => (.error e, t) := by
  change (match x s with | (r, t) => ExceptT.bindCont f r t) =
    (match x s with | (.ok a, t) => f a t | (.error e, t) => (.error e, t))
  rcases x s with ⟨_ | _, _⟩ <;> rfl

@[simp] theorem run_pure (a : α) (s : S) : (pure a : Fallible S α).run.run s = (.ok a, s) := rfl

@[simp] theorem run_throw (e : EditorError) (s : S) :
    (throw e : Fallible S α).run.run s = (.error e, s) := rfl

@[simp] theorem run_get (s : S) : (get : Fallible S S).run.run s = (.ok s, s) := rfl

@[simp] theorem run_modify (f : S → S) (s : S) :
    (modify f : Fallible S PUnit).run.run s = (.ok ⟨⟩, f s) := rfl

@[simp] theorem run_modifyGet (f : S → α × S) (s : S) :
    (modifyGet f : Fallible S α).run.run s = (.ok (f s).1, (f s).2) := rfl

/-- A sequence succeeds only if its first part does. -/
theorem run_bind_eq_ok {x : Fallible S α} {f : α → Fallible S β} {s u : S} {b : β}
    (h : (x >>= f).run.run s = (.ok b, u)) :
    ∃ a t, x.run.run s = (.ok a, t) ∧ (f a).run.run t = (.ok b, u) := by
  rw [run_bind] at h
  rcases hx : x.run.run s with ⟨e | a, t⟩ <;> rw [hx] at h
  · cases h
  · exact ⟨a, t, rfl, h⟩

/-- A sequence that ends in a value computed from the result of its first part. -/
theorem run_bind_pure_eq_ok {x : Fallible S α} {f : α → β} {s t : S} {b : β}
    (h : (x >>= fun a => pure (f a)).run.run s = (.ok b, t)) :
    ∃ a, x.run.run s = (.ok a, t) ∧ f a = b := by
  obtain ⟨a, u, hx, hf⟩ := run_bind_eq_ok h
  cases hf
  exact ⟨a, hx, rfl⟩

end Run

section Leads

variable {S α β : Type} {R : S → S → Prop} {x : Fallible S α} {s : S}

/-- Whether `x` fails or not, `R` relates the state `s` to the state in which `x` leaves it. -/
def Leads (R : S → S → Prop) (x : Fallible S α) (s : S) : Prop := R s (x.run.run s).2

theorem Leads.of_run (hx : Leads R x s) {r : Except EditorError α} {t : S}
    (h : x.run.run s = (r, t)) : R s t := by
  unfold Leads at hx
  rwa [h] at hx

/-- Two programs in a row. The second one starts where the first one has succeeded. -/
theorem Leads.bind [IsTrans S R] {f : α → Fallible S β} (hx : Leads R x s)
    (hf : ∀ a t, x.run.run s = (.ok a, t) → R s t → Leads R (f a) t) : Leads R (x >>= f) s := by
  unfold Leads at hx hf ⊢
  rw [run_bind]
  rcases hr : x.run.run s with ⟨e | a, t⟩ <;> rw [hr] at hx
  · exact hx
  · exact IsTrans.trans _ _ _ hx (hf a t hr hx)

/-- Where a program has led, what follows may look. -/
theorem Leads.then_still {f : α → Fallible S β} (hx : Leads R x s)
    (hf : ∀ a t, ((f a).run.run t).2 = t) : Leads R (x >>= f) s := by
  unfold Leads at hx ⊢
  rw [run_bind]
  rcases hr : x.run.run s with ⟨e | a, t⟩ <;> rw [hr] at hx
  · exact hx
  · exact (hf a t).symm ▸ hx

/-- A program that only looks at the state, or fails at once. -/
theorem Leads.still [Std.Refl R] (h : (x.run.run s).2 = s) : Leads R x s := by
  unfold Leads
  rw [h]
  exact refl s

/-- What follows a program that only looks at the state starts at the same state. -/
theorem Leads.bind_still [Std.Refl R] {f : α → Fallible S β} (hx : (x.run.run s).2 = s)
    (hf : ∀ a, x.run.run s = (.ok a, s) → Leads R (f a) s) : Leads R (x >>= f) s := by
  unfold Leads at hf ⊢
  rw [run_bind]
  rcases hr : x.run.run s with ⟨e | a, t⟩ <;> rw [hr] at hx <;> obtain rfl : t = s := hx
  · exact refl t
  · exact hf a hr

theorem Leads.pure [Std.Refl R] (a : α) : Leads R (Pure.pure a : Fallible S α) s := .still rfl

theorem Leads.throw [Std.Refl R] (e : EditorError) :
    Leads R (MonadExcept.throw e : Fallible S α) s := .still rfl

theorem Leads.get_bind {f : S → Fallible S β} (h : Leads R (f s) s) : Leads R (get >>= f) s := h

end Leads

section OnFailure

variable {S α β : Type} {R : S → S → Prop} {x : Fallible S α} {s : S}

/-- `x` does not fail in the state `s`. -/
def Succeeds (x : Fallible S α) (s : S) : Prop := ∃ a t, x.run.run s = (.ok a, t)

/-- If `x` fails, `R` relates the state `s` to the state in which `x` leaves it. -/
def OnFailure (R : S → S → Prop) (x : Fallible S α) (s : S) : Prop :=
  ∀ err t, x.run.run s = (.error err, t) → R s t

theorem Leads.onFailure (hx : Leads R x s) : OnFailure R x s := by
  intro err t hrun
  unfold Leads at hx
  rw [hrun] at hx
  exact hx

theorem OnFailure.mono {Q : S → S → Prop} (hx : OnFailure Q x s) (h : ∀ t, Q s t → R s t) :
    OnFailure R x s := fun err t hrun => h t (hx err t hrun)

theorem Succeeds.ne_error (hx : Succeeds x s) (err : EditorError) (t : S) :
    x.run.run s ≠ (.error err, t) := by
  obtain ⟨a, u, hok⟩ := hx
  intro hrun
  rw [hok] at hrun
  cases hrun

theorem Succeeds.onFailure (hx : Succeeds x s) : OnFailure R x s :=
  fun err t hrun => absurd hrun (hx.ne_error err t)

/-- After a program that does not fail comes another one that does not. -/
theorem Succeeds.bind {f : α → Fallible S β} (hx : Succeeds x s)
    (hf : ∀ a t, x.run.run s = (.ok a, t) → Succeeds (f a) t) : Succeeds (x >>= f) s := by
  obtain ⟨a, t, hok⟩ := hx
  obtain ⟨b, u, hb⟩ := hf a t hok
  exact ⟨b, u, by rw [run_bind, hok]; exact hb⟩

/-- What a program does before it can fail for the last time is related to its start. -/
theorem Leads.bind_onFailure [IsTrans S R] {f : α → Fallible S β} (hx : Leads R x s)
    (hf : ∀ a t, x.run.run s = (.ok a, t) → OnFailure R (f a) t) : OnFailure R (x >>= f) s := by
  intro err u hrun
  rw [run_bind] at hrun
  unfold Leads at hx
  rcases hr : x.run.run s with ⟨e | a, t⟩ <;> rw [hr] at hx hrun
  · cases hrun
    exact hx
  · exact IsTrans.trans _ _ _ hx (hf a t hr err u hrun)

/-- What follows a program that only looks at the state starts at the same state. -/
theorem OnFailure.bind_still [Std.Refl R] {f : α → Fallible S β} (hx : (x.run.run s).2 = s)
    (hf : ∀ a, x.run.run s = (.ok a, s) → OnFailure R (f a) s) : OnFailure R (x >>= f) s := by
  intro err u hrun
  rw [run_bind] at hrun
  rcases hr : x.run.run s with ⟨e | a, t⟩ <;> rw [hr] at hx hrun <;> obtain rfl : t = s := hx
  · cases hrun
    exact refl _
  · exact hf a hr err u hrun

/-- Nothing can fail any more once `x` has succeeded. -/
theorem OnFailure.bind_succeeds {f : α → Fallible S β} (hx : OnFailure R x s)
    (hf : ∀ a t, x.run.run s = (.ok a, t) → Succeeds (f a) t) : OnFailure R (x >>= f) s := by
  intro err u hrun
  rw [run_bind] at hrun
  rcases hr : x.run.run s with ⟨e | a, t⟩ <;> rw [hr] at hrun
  · cases hrun
    exact hx _ _ hr
  · exact absurd hrun ((hf a t hr).ne_error err u)

end OnFailure

end ModalEditor
