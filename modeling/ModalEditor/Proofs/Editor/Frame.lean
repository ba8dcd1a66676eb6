import ModalEditor.Proofs.Editor.Evolution

/-!
# Steps that touch the current buffer only

Everything that steps of the editor do to a buffer they do to the current one. A step that stays
with it leaves a table in which only that buffer is another one (`Editor.InPlace`); such steps in a
row do the same, so `EditorM.Local` goes through whole programs. A step that leaves the buffer for
another one, or adds one, does so at its end, after all that is done in place (`Editor.Touches`).

Nearly all steps that stay with the buffer leave the settings alone too. So what is shown of a step
is the stronger `EditorM.Confined`, which speaks of both.
-/

namespace ModalEditor

namespace BufferTable

variable {t u : BufferTable}

/-- The numbers of the buffers, in order. -/
def ids (t : BufferTable) : List Nat := t.slots.map Slot.id

/-- All numbers are below that of the next buffer. -/
def Fresh (t : BufferTable) : Prop := ∀ id ∈ t.ids, id < t.nextId

theorem ids_setCurrent (t : BufferTable) (b : Buffer) : (t.setCurrent b).ids = t.ids :=
  map_setCurrent rfl

/-- `u` is what is left of `t` by a step that edits the current buffer and may then go to another
one or add one. -/
inductive Touches (t : BufferTable) : BufferTable → Prop
  /-- Some buffer is current afterwards, if there was a current one. -/
  | goes (b : Buffer) (place : Nat) (hplace : t.current < t.slots.length → place < t.slots.length) :
    t.Touches { t.setCurrent b with current := place }
  /-- A buffer is added. -/
  | adds (b new : Buffer) : t.Touches ((t.setCurrent b).add new)

theorem length_setCurrent (t : BufferTable) (b : Buffer) :
    (t.setCurrent b).slots.length = t.slots.length := List.length_modify ..

theorem touches_setCurrent (t : BufferTable) (b : Buffer) : t.Touches (t.setCurrent b) :=
  .goes b t.current id

theorem Touches.of_setCurrent {b : Buffer} (h : (t.setCurrent b).Touches u) : t.Touches u := by
  -- Of two edits of the current buffer only the second one is left.
  cases h with
  | goes c place hplace =>
    rw [length_setCurrent] at hplace
    rw [setCurrent_setCurrent]
    exact .goes c place hplace
  | adds c new =>
    rw [setCurrent_setCurrent]
    exact .adds c new

/-- No other buffer is changed or moved. -/
theorem Touches.others (h : t.Touches u) {i : Nat} (hi : i ≠ t.current) {s : Slot}
    (hs : t.slots[i]? = some s) : u.slots[i]? = some s := by
  have hkept : ∀ b, (t.setCurrent b).slots[i]? = some s := fun b => by
    rw [getElem?_setCurrent, hs, Option.map_some, if_neg hi]
  cases h with
  | goes b => exact hkept b
  | adds b new =>
    have hlt := (List.getElem?_eq_some_iff.mp (hkept b)).1
    exact (List.getElem?_append_left hlt).trans (hkept b)

/-- One number is added at most, and then it is the next one. -/
theorem Touches.ids (h : t.Touches u) :
    u.ids = t.ids ∧ u.nextId = t.nextId ∨
      u.ids = t.ids ++ [t.nextId] ∧ u.nextId = t.nextId + 1 := by
  cases h with
  | goes b => exact .inl ⟨ids_setCurrent t b, rfl⟩
  | adds b new =>
    refine .inr ⟨?_, rfl⟩
    rw [← ids_setCurrent t b]
    exact List.map_append

theorem Touches.current_lt (h : t.Touches u) (ht : t.current < t.slots.length) :
    u.current < u.slots.length := by
  cases h with
  | goes b place hplace => exact (length_setCurrent t b).symm ▸ hplace ht
  | adds b new => simp [BufferTable.add]

theorem Touches.fresh (h : t.Touches u) (ht : t.Fresh) : u.Fresh := by
  unfold Fresh at ht ⊢
  rcases h.ids with ⟨hids, hnext⟩ | ⟨hids, hnext⟩ <;> rw [hids, hnext]
  · exact ht
  · intro id hid
    rcases List.mem_append.mp hid with hid | hid
    · exact Nat.lt_succ_of_lt (ht id hid)
    · rw [List.mem_singleton.mp hid]
      exact Nat.lt_succ_self _

end BufferTable

section Frame

variable {σ α β : Type}

/-- Only the current buffer of `e` is another one in `e'`. -/
def Editor.InPlace (e e' : Editor σ) : Prop := ∃ b, e'.buffers = e.buffers.setCurrent b

/-- Only the current buffer of `e` is another one in `e'`, which may have one more buffer and be at
another one. -/
def Editor.Touches (e e' : Editor σ) : Prop := e.buffers.Touches e'.buffers

/-- Only the current buffer of `e` is another one in `e'`, the options are the same, and so is the last
substitution if it is `kept`. -/
structure Editor.AtDesk (kept : Prop) (e e' : Editor σ) : Prop where
  /-- The other buffers are the same. -/
  buffers : e.InPlace e'
  /-- The options are. -/
  options : e'.options = e.options
  /-- So is the last substitution, if it is kept. -/
  lastSubstitute : kept → e'.lastSubstitute = e.lastSubstitute

namespace Editor

instance : Std.Refl (@InPlace σ) := ⟨fun e => ⟨e.buffer, e.buffers.setCurrent_buffer.symm⟩⟩

instance : IsTrans (Editor σ) InPlace := by
  refine ⟨fun e₁ e₂ e₃ h k => ?_⟩
  obtain ⟨b, hb⟩ := h
  obtain ⟨c, hc⟩ := k
  exact ⟨c, by rw [hc, hb, BufferTable.setCurrent_setCurrent]⟩

instance {kept : Prop} : Std.Refl (@AtDesk σ kept) := ⟨fun e => ⟨refl e, rfl, fun _ => rfl⟩⟩

instance {kept : Prop} : IsTrans (Editor σ) (AtDesk kept) :=
  ⟨fun _ _ _ h k => ⟨IsTrans.trans _ _ _ h.buffers k.buffers, k.options.trans h.options,
    fun hkept => (k.lastSubstitute hkept).trans (h.lastSubstitute hkept)⟩⟩

theorem inPlace_of_buffers_eq {e e' : Editor σ} (h : e'.buffers = e.buffers) : e.InPlace e' :=
  ⟨e.buffer, h.trans e.buffers.setCurrent_buffer.symm⟩

theorem InPlace.touches {e e' : Editor σ} (h : e.InPlace e') : e.Touches e' := by
  obtain ⟨b, hb⟩ := h
  unfold Editor.Touches
  rw [hb]
  exact e.buffers.touches_setCurrent b

theorem InPlace.trans_touches {e₁ e₂ e₃ : Editor σ} (h : e₁.InPlace e₂) (k : e₂.Touches e₃) :
    e₁.Touches e₃ := by
  obtain ⟨b, hb⟩ := h
  unfold Editor.Touches at k ⊢
  rw [hb] at k
  exact k.of_setCurrent

end Editor

namespace EditorM

open Editor

/-- Wherever it starts and however it ends, the step changes the current buffer at most. -/
def Local (x : EditorM σ α) : Prop := ∀ e, Leads InPlace x e

/-- Wherever it starts and however it ends, the step changes the current buffer at most, and may
then go to another one or add one. -/
def Roams (x : EditorM σ α) : Prop := ∀ e, Leads Editor.Touches x e

/-- Wherever it starts and however it ends, the step changes the current buffer, the registers and the
host at most, and the last substitution unless that is `kept`. -/
def Confined (kept : Prop) (x : EditorM σ α) : Prop := ∀ e, Leads (AtDesk kept) x e

variable {kept : Prop} {x : EditorM σ α} {f : α → EditorM σ β}

theorem Local.bind (hx : Local x) (hf : ∀ a, Local (f a)) : Local (x >>= f) :=
  fun e => (hx e).bind fun a t _ _ => hf a t

theorem Confined.bind (hx : Confined kept x) (hf : ∀ a, Confined kept (f a)) :
    Confined kept (x >>= f) :=
  fun e => (hx e).bind fun a t _ _ => hf a t

theorem Confined.isLocal (hx : Confined False x) : Local x := fun e => (hx e).buffers

theorem Local.roams (hx : Local x) : Roams x := fun e => InPlace.touches (hx e)

/-- What is done in place comes before going elsewhere. -/
theorem Local.bind_roams (hx : Local x) (hf : ∀ a, Roams (f a)) : Roams (x >>= f) := by
  intro e
  have hxe := hx e
  unfold Leads at hxe ⊢
  rw [run_bind]
  rcases hr : x.run.run e with ⟨err | a, t⟩ <;> rw [hr] at hxe
  · exact InPlace.touches hxe
  · exact InPlace.trans_touches hxe (hf a t)

/-! ## Steps -/

theorem confined_pure (a : α) : Confined kept (pure a : EditorM σ α) := fun _ => .pure a

theorem confined_throw (err : EditorError) : Confined kept (throw err : EditorM σ α) :=
  fun _ => .throw err

theorem confined_get : Confined kept (get : EditorM σ (Editor σ)) := fun _ => .still rfl

theorem confined_buffer : Confined kept (buffer : EditorM σ Buffer) := fun _ => .still rfl

theorem confined_orFail (x : Except EditorError α) : Confined kept (orFail x : EditorM σ α) :=
  fun _ => .still (by rw [run_orFail])

theorem confined_modifyBuffer (f : Buffer → Buffer) :
    Confined kept (modifyBuffer f : EditorM σ PUnit) :=
  fun e => ⟨⟨f e.buffer, rfl⟩, rfl, fun _ => rfl⟩

/-- Only where the last substitution is not kept may another one take its place. -/
theorem confined_remember (hkept : ¬ kept) (last : Option LastSubstitute) :
    Confined kept (modify fun e => { e with lastSubstitute := last } : EditorM σ PUnit) :=
  fun _ => ⟨inPlace_of_buffers_eq rfl, rfl, fun h => absurd h hkept⟩

theorem confined_onCurrent (edit : Edit α) : Confined kept (onCurrent edit : EditorM σ α) := by
  intro e
  unfold Leads
  rw [run_onCurrent]
  exact ⟨⟨_, rfl⟩, rfl, fun _ => rfl⟩

theorem confined_ask (request : σ → Except IoFailure α × σ) : Confined kept (ask request) :=
  fun _ => ⟨inPlace_of_buffers_eq rfl, rfl, fun _ => rfl⟩

theorem confined_askOrFail (request : σ → Except IoFailure α × σ) :
    Confined kept (askOrFail request) :=
  (confined_ask request).bind fun _ => confined_orFail _

variable (h : Host σ)

theorem confined_resolve (typed : Path) : Confined kept (resolve h typed) := confined_orFail _

theorem confined_load (path : Path) : Confined kept (load h path) := by
  refine (confined_askOrFail _).bind fun text => ?_
  cases text with
  | some text => exact confined_pure _
  | none => exact confined_pure _

theorem confined_writeTo (path : Path) : Confined kept (writeTo h path) :=
  confined_buffer.bind fun _ => (confined_askOrFail _).bind fun _ => confined_pure _

theorem confined_writeOwn : Confined kept (writeOwn h) := by
  refine confined_buffer.bind fun b => ?_
  split
  · exact (confined_writeTo h _).bind fun _ => (confined_modifyBuffer _).bind fun _ =>
      confined_pure _
  · exact confined_throw _

theorem confined_shellLines (command stdin : Text) :
    Confined kept (shellLines h command stdin) :=
  (confined_ask _).bind fun _ => confined_orFail _

/-- Going to a buffer of the table. -/
theorem modifyTable_touches {change : BufferTable → BufferTable} {e : Editor σ}
    (hchange : ∃ place, (e.HasCurrent → place < e.buffers.slots.length) ∧
      change e.buffers = { e.buffers with current := place }) :
    Leads Editor.Touches (modifyTable change) e := by
  obtain ⟨place, hplace, hchanged⟩ := hchange
  have hgoes := BufferTable.Touches.goes e.buffers.buffer place hplace
  rw [BufferTable.setCurrent_buffer, ← hchanged] at hgoes
  exact hgoes

theorem roams_openPath (path : Path) : Roams (openPath h path) := by
  intro e
  refine Leads.get_bind ?_
  split
  · rename_i place hfound
    exact modifyTable_touches ⟨place, fun _ => BufferTable.placeOf?_lt hfound, rfl⟩
  · have hadd : ∀ new, Roams (modifyTable (·.add new) : EditorM σ Unit) := fun new e₁ => by
      have hadds := BufferTable.Touches.adds (t := e₁.buffers) e₁.buffers.buffer new
      rw [BufferTable.setCurrent_buffer] at hadds
      exact hadds
    exact (confined_load h path).isLocal.bind_roams hadd e

end EditorM

end Frame
end ModalEditor
