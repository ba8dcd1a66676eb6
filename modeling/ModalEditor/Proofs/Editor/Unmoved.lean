import ModalEditor.Proofs.Edit.Failure
import ModalEditor.Proofs.Editor.Evolution

/-!
# Steps that change no text and move nothing

A step keeps the text of the editor if the buffers are the same ones with the same lines and marks, and
the registers hold what they held (`Editor.KeepsText`). If also the same buffer is current and its cursor
is on the same line, nothing has moved (`Editor.Unmoved`). Writing the buffer is a step of this kind, and
most edits of the current buffer are when they fail. A step that only asks the host for something leaves
all else alone (`Editor.UpToWorld`).
-/

namespace ModalEditor

/-- What a table holds: the number, the lines and the marks of each buffer. -/
def BufferTable.contents (t : BufferTable) : List (Nat × List Text × List (Char × Nat)) :=
  t.slots.map fun s => (s.id, s.buffer.lines, s.buffer.marks)

/-- `e'` has the text of `e`: the same buffers with the same lines and marks, and the registers. -/
structure Editor.KeepsText {σ : Type} (e e' : Editor σ) : Prop where
  buffers : e'.buffers.contents = e.buffers.contents
  registers : e'.registers = e.registers

/-- `e'` has the text of `e`, the same buffer is current, and its cursor is on the same line. -/
structure Editor.Unmoved {σ : Type} (e e' : Editor σ) : Prop extends e.KeepsText e' where
  place : e'.buffers.current = e.buffers.current
  line : e'.buffer.current = e.buffer.current

/-- `e'` is `e`, up to what has become of the host. -/
def Editor.UpToWorld {σ : Type} (e e' : Editor σ) : Prop := ∃ w, e' = { e with world := w }

section Unmoved

variable {σ α : Type} {h : Host σ} {e : Editor σ}

namespace Editor

instance : Std.Refl (@KeepsText σ) := ⟨fun _ => ⟨rfl, rfl⟩⟩

instance : IsTrans (Editor σ) KeepsText :=
  ⟨fun _ _ _ hab hbc => ⟨hbc.buffers.trans hab.buffers, hbc.registers.trans hab.registers⟩⟩

theorem setBuffer_keepsText {b : Buffer} (hl : b.lines = e.buffer.lines)
    (hm : b.marks = e.buffer.marks) : e.KeepsText (e.setBuffer b) :=
  ⟨BufferTable.map_setCurrent (Prod.ext rfl (Prod.ext hl hm)), rfl⟩

/-- An edit of the current buffer and the registers that keeps the text of the desk. -/
theorem desk_keepsText {d : Desk} (hd : Desk.KeepsText ⟨e.buffer, e.registers⟩ d) :
    e.KeepsText { e.setBuffer d.buffer with registers := d.registers } :=
  ⟨(setBuffer_keepsText hd.lines hd.marks).buffers, hd.registers⟩

instance : Std.Refl (@Unmoved σ) := ⟨fun e => ⟨refl e, rfl, rfl⟩⟩

instance : IsTrans (Editor σ) Unmoved :=
  ⟨fun _ _ _ hab hbc => ⟨IsTrans.trans _ _ _ hab.toKeepsText hbc.toKeepsText,
    hbc.place.trans hab.place, hbc.line.trans hab.line⟩⟩

theorem setBuffer_unmoved {b : Buffer} (hl : b.lines = e.buffer.lines)
    (hm : b.marks = e.buffer.marks) (hc : b.current = e.buffer.current) :
    e.Unmoved (e.setBuffer b) := by
  refine ⟨setBuffer_keepsText hl hm, rfl, ?_⟩
  by_cases he : e.HasCurrent
  · rw [buffer_setBuffer he, hc]
  · have hslots : (e.setBuffer b).buffers.slots = e.buffers.slots :=
      List.modify_eq_self (Nat.le_of_not_lt he)
    have hslot : (e.setBuffer b).buffers.currentSlot = e.buffers.currentSlot :=
      congrArg (·.getD e.buffers.current default) hslots
    exact congrArg (·.buffer.current) hslot

/-- A change of anything but the buffers and the registers. -/
theorem unmoved_of_eq {e' : Editor σ} (hb : e'.buffers = e.buffers)
    (hr : e'.registers = e.registers) : e.Unmoved e' :=
  ⟨⟨congrArg BufferTable.contents hb, hr⟩, congrArg BufferTable.current hb,
    congrArg (·.buffer.current) hb⟩

instance : Std.Refl (@UpToWorld σ) := ⟨fun e => ⟨e.world, rfl⟩⟩

instance : IsTrans (Editor σ) UpToWorld := by
  refine ⟨fun e₁ e₂ e₃ hab hbc => ?_⟩
  obtain ⟨w, rfl⟩ := hab
  obtain ⟨w', rfl⟩ := hbc
  exact ⟨w', rfl⟩

theorem UpToWorld.unmoved {e' : Editor σ} (hworld : e.UpToWorld e') : e.Unmoved e' := by
  obtain ⟨w, rfl⟩ := hworld
  exact unmoved_of_eq rfl rfl

/-- An edit of the current buffer and the registers that keeps text and cursor of the desk. -/
theorem desk_unmoved {d : Desk} (hd : Desk.Unmoved ⟨e.buffer, e.registers⟩ d) :
    e.Unmoved { e.setBuffer d.buffer with registers := d.registers } :=
  have hb := setBuffer_unmoved hd.lines hd.marks hd.current
  ⟨desk_keepsText hd.toKeepsText, hb.place, hb.line⟩

end Editor

namespace EditorM

open Editor

/-- An edit of the current buffer ends as it does on its desk. -/
theorem onCurrent_cases {edit : Edit α} {r : Except EditorError α} {e' : Editor σ}
    (hrun : (onCurrent edit).run.run e = (r, e')) :
    ∃ d, edit.run.run ⟨e.buffer, e.registers⟩ = (r, d) ∧
      e' = { e.setBuffer d.buffer with registers := d.registers } := by
  rw [run_onCurrent] at hrun
  rcases hd : edit.run.run ⟨e.buffer, e.registers⟩ with ⟨r', d⟩
  rw [hd] at hrun
  cases hrun
  exact ⟨d, rfl, rfl⟩

/-- What a failed edit leaves of its desk, it leaves of the editor. -/
theorem onCurrent_failure {Q : Desk → Desk → Prop} {R : Editor σ → Editor σ → Prop}
    {edit : Edit α} (hd : OnFailure Q edit ⟨e.buffer, e.registers⟩)
    (hput : ∀ {d}, Q ⟨e.buffer, e.registers⟩ d →
      R e { e.setBuffer d.buffer with registers := d.registers }) :
    OnFailure R (onCurrent edit) e := by
  intro err e' hrun
  obtain ⟨d, hfailed, rfl⟩ := onCurrent_cases hrun
  exact hput (hd err d hfailed)

theorem askOrFail_upToWorld (request : σ → Except IoFailure α × σ) (e : Editor σ) :
    Leads UpToWorld (askOrFail request) e := by
  unfold Leads
  rw [run_askOrFail]
  exact ⟨_, rfl⟩

theorem load_upToWorld (path : Path) (e : Editor σ) : Leads UpToWorld (load h path) e := by
  unfold Leads
  rw [run_load]
  exact ⟨_, rfl⟩

theorem shellLines_upToWorld (command stdin : Text) (e : Editor σ) :
    Leads UpToWorld (shellLines h command stdin) e := by
  unfold Leads
  rw [run_shellLines]
  exact ⟨_, rfl⟩

theorem writeTo_upToWorld (path : Path) (e : Editor σ) : Leads UpToWorld (writeTo h path) e := by
  unfold Leads
  rw [run_writeTo]
  exact ⟨_, rfl⟩

theorem openPath_failure (path : Path) (e : Editor σ) :
    OnFailure UpToWorld (openPath h path) e := by
  refine .bind_still rfl fun _ _ => ?_
  split
  · exact Succeeds.onFailure ⟨_, _, rfl⟩
  · exact (load_upToWorld path e).onFailure.bind_succeeds fun _ _ _ => ⟨_, _, rfl⟩

theorem writeOwn_unmoved (e : Editor σ) : Leads Unmoved (writeOwn h) e := by
  unfold Leads
  rw [run_writeOwn]
  cases e.buffer.path with
  | none => exact refl e
  | some path =>
    have hasked : ∀ w, e.Unmoved { e with world := w } := fun _ => unmoved_of_eq rfl rfl
    have hsaved : ∀ w, ({ e with world := w } : Editor σ).Unmoved
        (({ e with world := w } : Editor σ).setBuffer e.buffer.saved) := fun _ =>
      setBuffer_unmoved rfl rfl rfl
    dsimp only
    rcases h.store path e.buffer.toText e.world with ⟨_ | _, w⟩
    · exact hasked w
    · exact IsTrans.trans _ _ _ (hasked w) (hsaved w)

end EditorM

end Unmoved
end ModalEditor
