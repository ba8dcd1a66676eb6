import ModalEditor.Editor
import ModalEditor.Proofs.Edit.Evolution
import ModalEditor.Proofs.Editor.Table

/-!
# What steps of the editor keep

`Editor.Evolves` compares an editor with what some steps have made of it, whether they failed or
not. The buffers evolve place by place (`BufferTable.Evolves`), no line breaks come into the lines
or the registers, and the state of the host is changed only by asking the host.

Two things are left open, since they depend on the command that takes the steps: `clean` says that
the paths it names have no line breaks, and `settled` names the places whose buffers it may write to
their files or read from them.
-/

namespace ModalEditor

/-- Whatever the host is asked for, `W` goes on holding of its state. -/
structure Host.Keeps {σ : Type} (h : Host σ) (W : σ → Prop) : Prop where
  /-- Reading a file keeps `W`. -/
  load : ∀ path w, W w → W (h.load path w).2
  /-- Writing a file keeps `W`. -/
  store : ∀ path text w, W w → W (h.store path text w).2
  /-- Running a shell command keeps `W`. -/
  run : ∀ call w, W w → W (h.run call w).2

namespace Buffer

/-- The buffer for a path whose file has the given text, or does not exist. -/
def ofFile (path : Path) : Option Text → Buffer
  | some text => .ofText (some path) text
  | none => .newFile path

theorem fits_ofFile (path : Path) (text : Option Text) : (ofFile path text).Fits := by
  cases text with
  | none => exact fits_newFile path
  | some t => exact fits_ofText (some path) t

theorem unbroken_ofFile {path : Path} (hp : '\n' ∉ path) (text : Option Text) :
    (ofFile path text).Unbroken := by
  cases text with
  | none => exact unbroken_newFile hp
  | some t => exact unbroken_ofText (by rintro q ⟨rfl⟩; exact hp) t

/-- The buffer as it is once it has been written to its file. -/
def saved (b : Buffer) : Buffer := { b with modified := false, isNew := b.isNew && b.isBlank }

end Buffer

section Editor

variable {σ : Type} {h : Host σ} {clean : Prop} {settled : Nat → Prop}

/-- No buffer and no register has line breaks in its lines. -/
structure Editor.Unbroken (e : Editor σ) : Prop where
  /-- No buffer has. -/
  buffers : e.buffers.Unbroken
  /-- No register has. -/
  registers : e.registers.Unbroken

/-- `e'` is what some steps have made of `e`. -/
structure Editor.Evolves (h : Host σ) (clean : Prop) (settled : Nat → Prop) (e e' : Editor σ) :
    Prop where
  /-- The buffers evolve. -/
  buffers : e.buffers.Evolves settled e'.buffers
  /-- No line breaks come in. -/
  unbroken : clean → e.Unbroken → e'.Unbroken
  /-- The state of the host is reached by asking it. -/
  world : ∀ W : σ → Prop, h.Keeps W → W e.world → W e'.world

namespace Editor

variable {e : Editor σ} {b : Buffer}

/-- There is a current buffer. -/
def HasCurrent (e : Editor σ) : Prop := e.buffers.current < e.buffers.slots.length

theorem HasCurrent.setBuffer (he : e.HasCurrent) (b : Buffer) : (e.setBuffer b).HasCurrent := by
  simpa [HasCurrent, Editor.setBuffer, BufferTable.setCurrent, BufferTable.setBuffer] using he

theorem buffer_setBuffer (he : e.HasCurrent) (b : Buffer) : (e.setBuffer b).buffer = b :=
  BufferTable.buffer_setCurrent he b

theorem setBuffer_buffer (e : Editor σ) : e.setBuffer e.buffer = e := by
  have ht := BufferTable.setCurrent_buffer e.buffers
  exact congrArg (fun buffers => { e with buffers }) ht

theorem setBuffer_setBuffer (e : Editor σ) (b c : Buffer) :
    (e.setBuffer b).setBuffer c = e.setBuffer c := by
  have ht := BufferTable.setCurrent_setCurrent e.buffers b c
  exact congrArg (fun buffers => { e with buffers }) ht

instance : Std.Refl (Evolves h clean settled) :=
  ⟨fun e => ⟨.refl settled e.buffers, fun _ => id, fun _ _ => id⟩⟩

instance : IsTrans (Editor σ) (Evolves h clean settled) :=
  ⟨fun _ _ _ hab hbc => ⟨hab.buffers.trans hbc.buffers,
    fun hc ha => hbc.unbroken hc (hab.unbroken hc ha),
    fun W hW ha => hbc.world W hW (hab.world W hW ha)⟩⟩

theorem Evolves.trans {e₁ e₂ e₃ : Editor σ} (hab : Evolves h clean settled e₁ e₂)
    (hbc : Evolves h clean settled e₂ e₃) : Evolves h clean settled e₁ e₃ :=
  IsTrans.trans e₁ e₂ e₃ hab hbc

theorem Unbroken.desk (hu : e.Unbroken) : (⟨e.buffer, e.registers⟩ : Desk).Unbroken :=
  ⟨hu.buffers.buffer, hu.registers⟩

theorem Unbroken.setBuffer (hu : e.Unbroken) (hb : b.Unbroken) : (e.setBuffer b).Unbroken :=
  ⟨hu.buffers.setCurrent hb, hu.registers⟩

/-- The current buffer gets a text that is that of before, counts as modified or is settled. -/
theorem setBuffer_evolves (hfits : e.buffer.Fits → b.Fits)
    (hu : clean → e.buffer.Unbroken → b.Unbroken)
    (hb : b.modified = false →
      (e.buffer.modified = false ∧ b.lines = e.buffer.lines) ∨ settled e.buffers.current) :
    Evolves h clean settled e (e.setBuffer b) where
  buffers := BufferTable.setCurrent_evolves hfits hb
  unbroken hc he := he.setBuffer (hu hc he.buffers.buffer)
  world _ _ hw := hw

/-- The host is asked for something. -/
theorem world_evolves {w : σ} (hw : ∀ W : σ → Prop, h.Keeps W → W e.world → W w) :
    Evolves h clean settled e { e with world := w } :=
  ⟨.refl settled e.buffers, fun _ hu => ⟨hu.buffers, hu.registers⟩, hw⟩

end Editor

namespace EditorM

open Editor

variable {α β : Type} {e : Editor σ}

/-! ## Basic steps -/

@[simp] theorem run_buffer (e : Editor σ) : buffer.run.run e = (.ok e.buffer, e) := rfl

@[simp] theorem run_modifyBuffer (f : Buffer → Buffer) (e : Editor σ) :
    (modifyBuffer f).run.run e = (.ok ⟨⟩, e.setBuffer (f e.buffer)) := rfl

@[simp] theorem run_orFail (x : Except EditorError α) (e : Editor σ) :
    (orFail x).run.run e = (x, e) := by cases x <;> rfl

theorem run_onCurrent (edit : Edit α) (e : Editor σ) :
    (onCurrent edit).run.run e =
      ((edit.run.run ⟨e.buffer, e.registers⟩).1,
        { e.setBuffer (edit.run.run ⟨e.buffer, e.registers⟩).2.buffer with
          registers := (edit.run.run ⟨e.buffer, e.registers⟩).2.registers }) := by
  unfold onCurrent
  simp only [run_bind, run_get]
  rcases edit.run.run ⟨e.buffer, e.registers⟩ with ⟨_ | _, d⟩ <;> rfl

/-- A failure of the host is an error of the editor. -/
theorem run_askOrFail (request : σ → Except IoFailure α × σ) (e : Editor σ) :
    (askOrFail request).run.run e =
      ((request e.world).1.mapError .io, { e with world := (request e.world).2 }) := by
  unfold askOrFail ask
  simp only [run_bind, run_modifyGet, run_orFail]

theorem run_load (path : Path) (e : Editor σ) :
    (load h path).run.run e =
      (match (h.load path e.world).1 with
        | .error failure => .error (.io failure)
        | .ok text => .ok (.ofFile path text), { e with world := (h.load path e.world).2 }) := by
  unfold load
  simp only [run_bind, run_askOrFail]
  rcases (h.load path e.world).1 with _ | _ | _ <;> rfl

theorem run_writeTo (path : Path) (e : Editor σ) :
    (writeTo h path).run.run e =
      (match (h.store path e.buffer.toText e.world).1 with
        | .error failure => .error (.io failure)
        | .ok _ => .ok (Text.byteSize e.buffer.toText),
        { e with world := (h.store path e.buffer.toText e.world).2 }) := by
  unfold writeTo
  simp only [run_bind, run_buffer, run_askOrFail]
  rcases (h.store path e.buffer.toText e.world).1 with _ | _ <;> rfl

/-- A buffer with a path that the host stores is saved; otherwise only the host has changed. -/
theorem run_writeOwn (e : Editor σ) :
    (writeOwn h).run.run e =
      match e.buffer.path with
      | none => (.error .noFileName, e)
      | some path =>
        match h.store path e.buffer.toText e.world with
        | (.error failure, w) => (.error (.io failure), { e with world := w })
        | (.ok _, w) =>
          (.ok (Text.byteSize e.buffer.toText), ({ e with world := w } : Editor σ).setBuffer
            e.buffer.saved) := by
  unfold writeOwn
  simp only [run_bind, run_buffer]
  cases e.buffer.path with
  | none => rfl
  | some path =>
    simp only [run_bind, run_writeTo]
    rcases h.store path e.buffer.toText e.world with ⟨_ | _, w⟩ <;> rfl

/-- The lines that the shell prints, or why there are none. Only the host has changed. -/
theorem run_shellLines (command stdin : Text) (e : Editor σ) :
    (shellLines h command stdin).run.run e =
      let answer := h.run { command, stdin, directory := h.project.root } e.world
      (ShellResult.linesOf command answer.1, { e with world := answer.2 }) := by
  unfold shellLines ask
  simp only [run_bind, run_modifyGet, run_orFail]

/-- The state in which the buffer is looked at is the one in which what follows starts. -/
theorem leads_buffer_bind {R : Editor σ → Editor σ → Prop} {f : Buffer → EditorM σ α}
    (hf : Leads R (f e.buffer) e) : Leads R (buffer >>= f) e := hf

/-! ## What they keep -/

theorem modifyTable_evolves {f : BufferTable → BufferTable}
    (hb : e.buffers.Evolves settled (f e.buffers))
    (hu : clean → e.buffers.Unbroken → (f e.buffers).Unbroken) :
    Leads (Evolves h clean settled) (modifyTable f) e :=
  ⟨hb, fun hc he => ⟨hu hc he.buffers, he.registers⟩, fun _ _ hw => hw⟩

/-! ## Files and the shell -/

theorem askLoad_evolves (path : Path) (e : Editor σ) :
    Leads (Evolves h clean settled) (askOrFail (h.load path)) e := by
  unfold Leads
  rw [run_askOrFail]
  exact world_evolves fun _ hW => hW.load path _

theorem load_evolves (path : Path) (e : Editor σ) :
    Leads (Evolves h clean settled) (load h path) e := by
  unfold Leads
  rw [run_load]
  exact world_evolves fun _ hW => hW.load path _

/-- A buffer that was read has the text of a file. -/
theorem load_ok {path : Path} {b : Buffer} {e' : Editor σ}
    (hb : (load h path).run.run e = (.ok b, e')) : ∃ text, b = .ofFile path text := by
  rw [run_load] at hb
  split at hb
  · cases hb
  · rename_i text _
    cases hb
    exact ⟨text, rfl⟩

/-- Going to the buffer of a path, which may have to be read. -/
theorem openPath_evolves {path : Path} (hp : clean → '\n' ∉ path) (e : Editor σ) :
    Leads (Evolves h clean settled) (openPath h path) e := by
  refine Leads.get_bind ?_
  split
  · rename_i place hplace
    exact modifyTable_evolves
      (BufferTable.goTo_evolves settled fun _ => BufferTable.placeOf?_lt hplace) fun _ hu => hu
  · refine (load_evolves path e).bind fun b e₁ hb _ => ?_
    obtain ⟨text, rfl⟩ := load_ok hb
    exact modifyTable_evolves
      (BufferTable.add_evolves settled e₁.buffers (Buffer.fits_ofFile path text))
      fun hc hu => hu.add (Buffer.unbroken_ofFile (hp hc) text)

theorem writeTo_evolves (path : Path) (e : Editor σ) :
    Leads (Evolves h clean settled) (writeTo h path) e := by
  unfold Leads
  rw [run_writeTo]
  exact world_evolves fun _ hW => hW.store path _ _

/-- Writing the current buffer to its own file, which settles it if the host stores the text. -/
theorem writeOwn_evolves (hs : ∀ path, e.buffer.path = some path →
      (h.store path e.buffer.toText e.world).1 = .ok () → settled e.buffers.current) :
    Leads (Evolves h clean settled) (writeOwn h) e := by
  unfold Leads
  rw [run_writeOwn]
  cases hpath : e.buffer.path with
  | none => exact refl e
  | some path =>
    have hworld : ∀ W : σ → Prop, h.Keeps W → W e.world →
        W (h.store path e.buffer.toText e.world).2 := fun _ hW => hW.store path _ _
    specialize hs path hpath
    rcases hstore : h.store path e.buffer.toText e.world with ⟨_ | _, w⟩ <;>
      rw [hstore] at hs hworld <;> simp only [hstore]
    · exact world_evolves hworld
    · have hasked : Evolves h clean settled e { e with world := w } := world_evolves hworld
      have hsaved : Evolves h clean settled { e with world := w }
          (({ e with world := w } : Editor σ).setBuffer e.buffer.saved) :=
        setBuffer_evolves (fun hf => ⟨hf.nonempty, hf.current_lt, hf.marks⟩)
          (fun _ hu => hu.congr rfl rfl) fun _ => .inr (hs rfl)
      exact hasked.trans hsaved

theorem shellLines_evolves (command stdin : Text) (e : Editor σ) :
    Leads (Evolves h clean settled) (shellLines h command stdin) e := by
  unfold Leads
  rw [run_shellLines]
  exact world_evolves fun _ hW => hW.run _ _

/-- Lines that a shell command printed have no line breaks. -/
theorem shellLines_unbroken {command stdin : Text} {lines : List Text} {e' : Editor σ}
    (hl : (shellLines h command stdin).run.run e = (.ok lines, e')) : Unbroken lines := by
  rw [run_shellLines] at hl
  have hr := congrArg Prod.fst hl
  simp only [ShellResult.linesOf] at hr
  split at hr
  · cases hr
  · split at hr
    · cases hr
      unfold ShellResult.outputLines
      split
      · exact unbroken_nil
      · exact (unbroken_splitLines _).map_sublist (Text.dropFinal_sublist '\r')
    · cases hr

end EditorM

end Editor
end ModalEditor
