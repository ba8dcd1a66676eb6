import ModalEditor.Proofs.Bounded.Edit
import ModalEditor.Proofs.Editor.Evolution

/-!
# Bounded steps of the editor

The current buffer of an editor is an item of its table, and an edit works on that item and on the
registers. In an editor in bounds (`Editor.InBounds`) the current place is one of the table, and the
numbers go up to that of the last buffer, so the next number is a word.

The host is asked as before. What it gives is text, and only what the editor does with it can stop.
-/

namespace ModalEditor

/-- The buffers are numbered from one. -/
def BufferTable.Numbered (t : BufferTable) : Prop := t.nextId = t.slots.length + 1

/-- There is a current buffer, in every buffer cursor and marks are on lines, the buffers are
numbered, and every register is there. -/
structure Editor.InBounds {σ : Type} (e : Editor σ) : Prop where
  /-- The buffers fit. -/
  fits : e.buffers.Fits
  /-- They are numbered. -/
  numbered : e.buffers.Numbered
  /-- Every register is there. -/
  registers : e.registers.Complete

namespace Bounded

variable {σ α : Type}

/-! ## The buffer table -/

/-- Puts a buffer in the place of the current one. -/
def setCurrent (t : BufferTable) (b : Buffer) : Checked BufferTable := do
  let slot ← item t.slots t.current
  let slots ← setItem t.slots t.current { slot with buffer := b }
  return { t with slots }

/-- Adds a buffer and makes it current. -/
def addBuffer (t : BufferTable) (b : Buffer) : Checked BufferTable := do
  held t.slots.length
  let nextId ← add t.nextId 1
  let slots := t.slots ++ [⟨t.nextId, b⟩]
  let current ← sub slots.length 1
  return { slots, current, nextId }

/-- Makes the next buffer current. -/
def nextBuffer (t : BufferTable) : Checked BufferTable := do
  held t.slots.length
  let current ← rem (← add t.current 1) t.slots.length
  return { t with current }

/-- Makes the buffer before current. -/
def previousBuffer (t : BufferTable) : Checked BufferTable := do
  held t.slots.length
  let current ← rem (← sub (← add t.current t.slots.length) 1) t.slots.length
  return { t with current }

/-- A buffer as a listing shows it. -/
def row (isCurrent : Bool) (s : Slot) : Checked Text := do
  held (extent s.buffer.lines)
  let line ← add s.buffer.current 1
  let flags := (if isCurrent then "%a" else "  ").toList
  let changed := if s.buffer.modified then '+' else ' '
  let name := BufferTable.padRight 30 ('"' :: (s.buffer.displayName ++ ['"']))
  return Text.ofNat s.id ++ ' ' :: (flags ++ ' ' :: changed :: ' ' ::
    (name ++ " line ".toList ++ Text.ofNat line))

/-- The rows of a listing. -/
def rowsFrom (current place : Nat) : List Slot → Checked (List Text)
  | [] => return []
  | s :: rest => do
    let first ← row (place == current) s
    return first :: (← rowsFrom current (place + 1) rest)

/-! ## The current buffer -/

/-- The current buffer, which is held in memory. -/
def currentBuffer : Guarded (Editor σ) Buffer := do
  let e ← get
  let slot ← item e.buffers.slots e.buffers.current
  held (extent slot.buffer.lines)
  return slot.buffer

/-- Puts a buffer in the place of the current one. -/
def putBuffer (b : Buffer) : Guarded (Editor σ) Unit := do
  let e ← get
  set { e with buffers := ← setCurrent e.buffers b }

/-- Puts a buffer table in the place of the one there is. -/
def setTable (t : BufferTable) : Guarded (Editor σ) Unit := modify fun e => { e with buffers := t }

/-- Carries out an edit on the current buffer and the registers. -/
def onCurrent (edit : Guarded Desk α) : Guarded (Editor σ) α := ExceptT.mk fun e => do
  let slot ← item e.buffers.slots e.buffers.current
  let (result, desk) ← edit.run.run ⟨slot.buffer, e.registers⟩
  let buffers ← setCurrent e.buffers desk.buffer
  return (result, { e with buffers, registers := desk.registers })

/-! ## Files -/

variable (h : Host σ)

/-- A buffer with the file at a path. -/
def load (path : Path) : Guarded (Editor σ) Buffer := do
  match ← total (EditorM.askOrFail (h.load path)) with
  | some text => ofText (some path) text
  | none => return .newFile path

/-- Makes the buffer for a path current. -/
def openPath (path : Path) : Guarded (Editor σ) Unit := do
  match (← get).buffers.placeOf? path with
  | some place => setTable { (← get).buffers with current := place }
  | none =>
    let b ← load h path
    setTable (← addBuffer (← get).buffers b)

/-- Writes the text of the current buffer to a path. Gives its size in bytes. -/
def writeTo (path : Path) : Guarded (Editor σ) Nat := do
  let text ← toText (← currentBuffer)
  total (EditorM.askOrFail (h.store path text))
  return Text.byteSize text

/-- Writes the current buffer to its own path. Gives its size in bytes. -/
def writeOwn : Guarded (Editor σ) Nat := do
  let some path := (← currentBuffer).path | throw .noFileName
  let size ← writeTo h path
  let b ← currentBuffer
  putBuffer { b with modified := false, isNew := b.isNew && (← isBlank b) }
  return size

/-! ## What the table gives -/

section Table

variable {t : BufferTable} {b : Buffer}

theorem item_current (hf : t.Fits) : ∃ slot, item t.slots t.current = .ok slot ∧
    slot.buffer = t.buffer := by
  have hget := List.getElem?_eq_getElem hf.current_lt
  exact ⟨_, item_eq hf.current_lt, (BufferTable.buffer_of_getElem? hget).symm⟩

theorem setCurrent_eq (hf : t.Fits) (b : Buffer) : setCurrent t b = .ok (t.setCurrent b) := by
  have hlt := hf.current_lt
  unfold setCurrent
  rw [item_eq hlt, ok_bind, setItem_eq hlt, BufferTable.setCurrent, BufferTable.setBuffer,
    List.modify_eq_set_get _ hlt]
  rfl

theorem addBuffer_gives (hn : t.Numbered) (b : Buffer) :
    Gives (addBuffer t b) (t.add b) True := by
  unfold addBuffer BufferTable.add
  refine .held_bind fun hheld => ?_
  unfold BufferTable.Numbered at hn
  have hnext : t.nextId + 1 < wordLimit := hn ▸ add_lt_wordLimit (n := 2) hheld (by decide)
  rw [add_eq hnext, ok_bind]
  dsimp only
  rw [List.length_append, List.length_singleton, sub_eq (by omega), Nat.add_sub_cancel]
  exact .of_eq rfl

theorem nextBuffer_gives (hf : t.Fits) : Gives (nextBuffer t) t.next True := by
  have hlt := hf.current_lt
  unfold nextBuffer BufferTable.next
  refine .held_bind fun hheld => ?_
  rw [add_one_of_lt (Nat.lt_trans hlt hheld), ok_bind, rem_eq (by omega)]
  exact .of_eq rfl

theorem previousBuffer_gives (hf : t.Fits) : Gives (previousBuffer t) t.previous True := by
  have hlt := hf.current_lt
  unfold previousBuffer BufferTable.previous
  refine .held_bind fun hheld => ?_
  rw [add_eq (by rw [wordLimit_eq]; omega), ok_bind, sub_eq (by omega), ok_bind, rem_eq (by omega)]
  exact .of_eq rfl

theorem rowsFrom_gives {slots : List Slot} (h : ∀ s ∈ slots, s.buffer.Fits) (current place : Nat) :
    Gives (rowsFrom current place slots) (BufferTable.rowsFrom current place slots) True := by
  induction slots generalizing place with
  | nil => exact .of_eq rfl
  | cons s rest ih =>
    have hs := h s List.mem_cons_self
    have hrow : Gives (row (place == current) s) (BufferTable.row (place == current) s) True := by
      unfold row BufferTable.row
      refine .held_bind fun hheld => ?_
      rw [add_eq (Buffer.Held.add_one_lt hheld hs.current_lt)]
      exact .of_eq rfl
    refine hrow.bind fun _ => ?_
    exact (ih (fun s hs => h s (List.mem_cons_of_mem _ hs)) _).bind fun _ => .of_eq rfl

end Table

/-! ## Steps -/

section Steps

variable {e : Editor σ} {b : Buffer} {R : α → Editor σ → Prop} {y : EditorM σ α} {h : Host σ}

theorem inBounds_setBuffer (he : e.InBounds) (hb : b.Fits) : (e.setBuffer b).InBounds := by
  have hput : e.buffers.Evolves (fun _ => True) (e.buffers.setCurrent b) :=
    BufferTable.setCurrent_evolves (fun _ => hb) fun _ => .inr trivial
  have hlen : (e.buffers.setCurrent b).slots.length = e.buffers.slots.length := by
    simp [BufferTable.setCurrent, BufferTable.setBuffer]
  exact ⟨hput.fits he.fits, he.numbered.trans (congrArg (· + 1) hlen).symm, he.registers⟩

theorem inBounds_desk (he : e.InBounds) : (⟨e.buffer, e.registers⟩ : Desk).InBounds :=
  ⟨he.fits.buffer, he.registers⟩

/-- The current buffer is held in memory when it is read. -/
theorem readCurrent_bind {f : Buffer → Guarded (Editor σ) α} (he : e.InBounds)
    (hf : e.buffer.Held → Mirrors Editor.InBounds (f e.buffer) y e R) :
    Mirrors Editor.InBounds (currentBuffer >>= f) y e R := by
  obtain ⟨slot, hitem, hslot⟩ := item_current he.fits
  unfold currentBuffer
  simp only [bind_assoc]
  refine .state_bind ?_
  refine .compute_bind (.of_eq hitem) fun _ => ?_
  rw [hslot]
  exact .compute_bind (gives_held _) hf

theorem currentBuffer_bind {f : Buffer → Guarded (Editor σ) α} {g : Buffer → EditorM σ α}
    (he : e.InBounds) (hf : e.buffer.Held → Mirrors Editor.InBounds (f e.buffer) (g e.buffer) e R) :
    Mirrors Editor.InBounds (currentBuffer >>= f) (EditorM.buffer >>= g) e R :=
  readCurrent_bind he hf

theorem putBuffer_bind {f : PUnit → Guarded (Editor σ) α} {g : PUnit → EditorM σ α}
    {change : Buffer → Buffer} (he : e.InBounds) (hb : change e.buffer = b)
    (hf : Mirrors Editor.InBounds (f ⟨⟩) (g ⟨⟩) (e.setBuffer b) R) :
    Mirrors Editor.InBounds (putBuffer b >>= f) (EditorM.modifyBuffer change >>= g) e R := by
  subst hb
  unfold putBuffer
  simp only [bind_assoc]
  refine .state_bind ?_
  exact .compute_bind (.of_eq (setCurrent_eq he.fits _)) fun _ => hf

theorem run_onCurrent (x : Guarded Desk α) (he : e.InBounds) :
    (onCurrent x : Guarded (Editor σ) α).run.run e =
      x.run.run ⟨e.buffer, e.registers⟩ >>= fun r =>
        .ok (r.1, { e.setBuffer r.2.buffer with registers := r.2.registers }) := by
  obtain ⟨slot, hitem, hslot⟩ := item_current he.fits
  change (item e.buffers.slots e.buffers.current >>= _) = _
  rw [hitem, ok_bind, hslot]
  refine bind_congr fun r => ?_
  dsimp only
  rw [setCurrent_eq he.fits]
  rfl

theorem onCurrent_mirrors {x : Guarded Desk α} {y : Edit α} {Q : α → Prop} (he : e.InBounds)
    (hx : Mirrors Desk.InBounds x y ⟨e.buffer, e.registers⟩ fun a _ => Q a) :
    Mirrors Editor.InBounds (onCurrent x) (EditorM.onCurrent y) e fun a _ => Q a := by
  unfold Mirrors
  rw [run_onCurrent x he, EditorM.run_onCurrent]
  refine Gives.bind hx fun ⟨hi, hq⟩ => .inl ⟨rfl, ?_, fun a t ht => ?_⟩
  · exact ⟨(inBounds_setBuffer he hi.fits).fits, (inBounds_setBuffer he hi.fits).numbered,
      hi.registers⟩
  · have hresult : (y.run.run ⟨e.buffer, e.registers⟩).1 = .ok a := congrArg Prod.fst ht
    exact hq a _ (Prod.ext hresult rfl)

theorem inBounds_world (he : e.InBounds) (w : σ) : ({ e with world := w } : Editor σ).InBounds :=
  ⟨he.fits, he.numbered, he.registers⟩

/-- The host is asked for something. -/
theorem ask_bind {β : Type} {request : σ → Except IoFailure β × σ} {f : β → Guarded (Editor σ) α}
    {g : β → EditorM σ α} (he : e.InBounds)
    (hf : ∀ b w, Mirrors Editor.InBounds (f b) (g b) { e with world := w } R) :
    Mirrors Editor.InBounds (total (EditorM.askOrFail request) >>= f)
      (EditorM.askOrFail request >>= g) e R := by
  refine (mirrors_total ?_).bind fun b t ht _ _ => ?_
  · rw [EditorM.run_askOrFail]
    exact inBounds_world he _
  · rw [EditorM.run_askOrFail] at ht
    obtain rfl := congrArg Prod.snd ht
    exact hf b _

theorem shell_bind {command stdin : Text} {f : List Text → Guarded (Editor σ) α}
    {g : List Text → EditorM σ α} (he : e.InBounds)
    (hf : ∀ lines w, Mirrors Editor.InBounds (f lines) (g lines) { e with world := w } R) :
    Mirrors Editor.InBounds (total (EditorM.shellLines h command stdin) >>= f)
      (EditorM.shellLines h command stdin >>= g) e R := by
  have hstate : ((EditorM.shellLines h command stdin).run.run e).2 =
      { e with world := (h.run ⟨command, stdin, h.project.root⟩ e.world).2 } := by
    unfold EditorM.shellLines EditorM.ask
    simp only [run_bind, run_modifyGet, EditorM.run_orFail]
  refine (mirrors_total ?_).bind fun lines t ht _ _ => ?_
  · rw [hstate]
    exact inBounds_world he _
  · rw [ht] at hstate
    subst hstate
    exact hf lines _

theorem load_mirrors (path : Path) (he : e.InBounds) :
    Mirrors Editor.InBounds (load h path) (EditorM.load h path) e fun b _ => b.Fits := by
  refine ask_bind he fun text w => ?_
  cases text with
  | none => exact .pure (inBounds_world he w) (Buffer.fits_newFile path)
  | some text =>
    exact .compute (.of_eq (ofText_eq _ text)) (inBounds_world he w)
      fun _ => Buffer.fits_ofText _ text

theorem openPath_mirrors (path : Path) (he : e.InBounds) :
    Mirrors Editor.InBounds (openPath h path) (EditorM.openPath h path) e fun _ _ => True := by
  refine .get_bind ?_
  cases hplace : e.buffers.placeOf? path with
  | some place =>
    exact .of_run rfl ⟨⟨BufferTable.placeOf?_lt hplace, he.fits.buffers⟩, he.numbered, he.registers⟩
      fun _ _ _ => trivial
  | none =>
    refine (load_mirrors path he).bind fun b t _ ht hb => ?_
    refine .state_bind ?_
    refine .compute_bind (addBuffer_gives ht.numbered b) fun _ => ?_
    have hadd : t.buffers.Evolves (fun _ => True) (t.buffers.add b) :=
      BufferTable.add_evolves _ t.buffers hb
    have hlen : (t.buffers.add b).slots.length = t.buffers.slots.length + 1 :=
      List.length_append
    exact .of_run rfl ⟨hadd.fits ht.fits, (congrArg (· + 1) ht.numbered).trans
      (congrArg (· + 1) hlen.symm), ht.registers⟩ fun _ _ _ => trivial

theorem writeTo_mirrors (path : Path) (he : e.InBounds) :
    Mirrors Editor.InBounds (writeTo h path) (EditorM.writeTo h path) e fun _ _ => True := by
  refine currentBuffer_bind he fun _ => ?_
  refine .compute_bind (.of_eq (toText_eq _)) fun _ => ?_
  refine ask_bind he fun _ w => ?_
  exact .pure (inBounds_world he w) trivial

theorem writeOwn_mirrors (he : e.InBounds) :
    Mirrors Editor.InBounds (writeOwn h) (EditorM.writeOwn h) e fun _ _ => True := by
  refine currentBuffer_bind he fun _ => ?_
  cases e.buffer.path with
  | none => exact .throw _ he
  | some path =>
    refine (writeTo_mirrors path he).bind fun size t _ ht _ => ?_
    refine readCurrent_bind ht fun _ => ?_
    refine .compute_bind (.of_eq (isBlank_eq _)) fun _ => ?_
    refine putBuffer_bind ht rfl ?_
    have hfits := ht.fits.buffer
    exact .pure (inBounds_setBuffer ht ⟨hfits.nonempty, hfits.current_lt, hfits.marks⟩) trivial

end Steps

end Bounded
end ModalEditor
