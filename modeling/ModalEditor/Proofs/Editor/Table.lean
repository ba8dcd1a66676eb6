import ModalEditor.BufferTable
import ModalEditor.Proofs.Buffer.Breaks
import ModalEditor.Proofs.Buffer.Evolution

/-!
# What becomes of the buffers of a table

A table never loses a buffer and never moves one: what is added goes to the end. A buffer is known
by its place, and `BufferTable.Evolves` compares a table with a later one place by place. The number
of a buffer stays, and a buffer that counts as unmodified later was unmodified before and had the
same lines. The exceptions are the places that `settled` names, where a buffer was written to its
file or read from it.
-/

namespace ModalEditor

/-- `s'` is what some commands have made of the buffer in `s`, with its file if it is `settled`. -/
structure Slot.Evolves (settled : Prop) (s s' : Slot) : Prop where
  /-- The number stays. -/
  id : s'.id = s.id
  /-- No unsaved changes are forgotten, unless the buffer was settled. -/
  unchanged : s'.buffer.modified = false →
    (s.buffer.modified = false ∧ s'.buffer.lines = s.buffer.lines) ∨ settled

namespace Slot

theorem Evolves.refl (settled : Prop) (s : Slot) : s.Evolves settled s :=
  ⟨rfl, fun h => .inl ⟨h, rfl⟩⟩

theorem Evolves.trans {settled : Prop} {a b c : Slot} (h : a.Evolves settled b)
    (k : b.Evolves settled c) : a.Evolves settled c where
  id := k.id.trans h.id
  unchanged hc := by
    rcases k.unchanged hc with ⟨hb, hbc⟩ | hs
    · exact (h.unchanged hb).imp_left fun ⟨ha, hab⟩ => ⟨ha, hbc.trans hab⟩
    · exact .inr hs

/-- The fewer buffers are settled, the more is said. -/
theorem Evolves.mono {settled settled' : Prop} {a b : Slot} (h : a.Evolves settled b)
    (hs : settled → settled') : a.Evolves settled' b :=
  ⟨h.id, fun hb => (h.unchanged hb).imp_right hs⟩

end Slot

namespace BufferTable

/-- There is a current buffer, and in every buffer cursor and marks are on lines. -/
structure Fits (t : BufferTable) : Prop where
  /-- The current place is a place. -/
  current_lt : t.current < t.slots.length
  /-- In all buffers cursor and marks fit. -/
  buffers : ∀ s ∈ t.slots, s.buffer.Fits

/-- No buffer has line breaks in its lines or its path. -/
def Unbroken (t : BufferTable) : Prop := ∀ s ∈ t.slots, s.buffer.Unbroken

/-- `t'` is what some commands have made of `t`. -/
structure Evolves (settled : Nat → Prop) (t t' : BufferTable) : Prop where
  /-- Cursors and marks go on fitting. -/
  fits : t.Fits → t'.Fits
  /-- Every buffer is where it was. -/
  slots : ∀ i s, t.slots[i]? = some s → ∃ s', t'.slots[i]? = some s' ∧ Slot.Evolves (settled i) s s'

variable {settled : Nat → Prop} {t : BufferTable} {b : Buffer}

theorem Evolves.refl (settled : Nat → Prop) (t : BufferTable) : t.Evolves settled t :=
  ⟨id, fun _ s h => ⟨s, h, .refl _ s⟩⟩

theorem Evolves.trans {t u v : BufferTable} (h : t.Evolves settled u) (k : u.Evolves settled v) :
    t.Evolves settled v where
  fits := k.fits ∘ h.fits
  slots i s hs := by
    obtain ⟨s₁, hs₁, h₁⟩ := h.slots i s hs
    obtain ⟨s₂, hs₂, h₂⟩ := k.slots i s₁ hs₁
    exact ⟨s₂, hs₂, h₁.trans h₂⟩

theorem Evolves.mono {settled' : Nat → Prop} {u : BufferTable} (h : t.Evolves settled u)
    (hs : ∀ i, settled i → settled' i) : t.Evolves settled' u where
  fits := h.fits
  slots i s hi := by
    obtain ⟨s', hs', hslot⟩ := h.slots i s hi
    exact ⟨s', hs', hslot.mono (hs i)⟩

/-! ## The current buffer -/

/-- The current buffer has every property that all buffers have and the empty buffer too. -/
theorem buffer_induction {P : Buffer → Prop} (h : ∀ s ∈ t.slots, P s.buffer) (hnew : P {}) :
    P t.buffer := by
  unfold buffer currentSlot
  rw [List.getD_eq_getElem?_getD]
  cases hs : t.slots[t.current]? with
  | none => exact hnew
  | some s => exact h s (List.mem_of_getElem? hs)

theorem Fits.buffer (h : t.Fits) : t.buffer.Fits := buffer_induction h.buffers Buffer.fits_new

theorem Unbroken.buffer (h : t.Unbroken) : t.buffer.Unbroken :=
  buffer_induction h Buffer.unbroken_new

/-- The current place holds the current buffer. -/
theorem buffer_of_getElem? {s : Slot} (h : t.slots[t.current]? = some s) : t.buffer = s.buffer := by
  simp [BufferTable.buffer, currentSlot, List.getD_eq_getElem?_getD, h]

/-- What is in a place after the current buffer was changed. -/
theorem getElem?_setCurrent (t : BufferTable) (b : Buffer) (i : Nat) :
    (t.setCurrent b).slots[i]? =
      (t.slots[i]?).map fun s => if i = t.current then { s with buffer := b } else s := by
  simp only [setCurrent, setBuffer, List.getElem?_modify, eq_comm (a := i)]
  cases t.slots[i]? with
  | none => rfl
  | some s => split <;> rfl

theorem buffer_setCurrent (h : t.current < t.slots.length) (b : Buffer) :
    (t.setCurrent b).buffer = b := by
  have hcur : (t.setCurrent b).current = t.current := rfl
  simp only [BufferTable.buffer, currentSlot, hcur, List.getD_eq_getElem?_getD,
    getElem?_setCurrent, List.getElem?_eq_getElem h]
  simp

/-- What is said of each buffer by itself stays if it stays for the current one. -/
theorem map_setCurrent {α : Type} {f : Slot → α}
    (hb : f { t.currentSlot with buffer := b } = f t.currentSlot) :
    (t.setCurrent b).slots.map f = t.slots.map f := by
  apply List.ext_getElem?
  intro i
  rw [List.getElem?_map, List.getElem?_map, getElem?_setCurrent]
  cases hs : t.slots[i]? with
  | none => rfl
  | some s =>
    by_cases hi : i = t.current
    · subst hi
      have hslot : t.currentSlot = s := by simp [currentSlot, List.getD_eq_getElem?_getD, hs]
      rw [hslot] at hb
      simp [hb]
    · simp [hi]

/-- Where all buffers are alike in some respect, those that are current are. -/
theorem currentSlot_congr {α : Type} {f : Slot → α} {t' : BufferTable}
    (hslots : t'.slots.map f = t.slots.map f) (hplace : t'.current = t.current) :
    f t'.currentSlot = f t.currentSlot := by
  have hslot : ∀ v : BufferTable, f v.currentSlot = (v.slots.map f).getD v.current (f default) :=
    fun v => by
      rw [currentSlot, List.getD_eq_getElem?_getD, List.getD_eq_getElem?_getD, List.getElem?_map,
        Option.getD_map]
  rw [hslot, hslot, hslots, hplace]

/-- Putting the current buffer in its own place changes nothing. -/
theorem setCurrent_buffer (t : BufferTable) : t.setCurrent t.buffer = t := by
  have hslots : (t.setCurrent t.buffer).slots = t.slots := by
    apply List.ext_getElem?
    intro i
    rw [getElem?_setCurrent]
    cases hs : t.slots[i]? with
    | none => rfl
    | some s =>
      simp only [Option.map_some]
      split
      · rename_i hi
        subst hi
        rw [buffer_of_getElem? hs]
      · rfl
  exact congrArg (fun slots => { t with slots }) hslots

theorem setCurrent_setCurrent (t : BufferTable) (b c : Buffer) :
    (t.setCurrent b).setCurrent c = t.setCurrent c := by
  simp only [setCurrent, setBuffer, List.modify_modify_eq]
  rfl

/-- Every buffer after a change of the current one is the new one or an old one. -/
theorem mem_setCurrent {s : Slot} (h : s ∈ (t.setCurrent b).slots) :
    s.buffer = b ∨ s ∈ t.slots := by
  obtain ⟨i, hi⟩ := List.getElem?_of_mem h
  rw [getElem?_setCurrent, Option.map_eq_some_iff] at hi
  obtain ⟨old, hold, rfl⟩ := hi
  split
  · exact .inl rfl
  · exact .inr (List.mem_of_getElem? hold)

theorem Unbroken.setCurrent (h : t.Unbroken) (hb : b.Unbroken) : (t.setCurrent b).Unbroken :=
  fun s hs => (mem_setCurrent hs).elim (· ▸ hb) (h s)

/-- A change of the current buffer that keeps the text of an unmodified one, or settles it. -/
theorem setCurrent_evolves (hfits : t.buffer.Fits → b.Fits)
    (hb : b.modified = false →
      (t.buffer.modified = false ∧ b.lines = t.buffer.lines) ∨ settled t.current) :
    t.Evolves settled (t.setCurrent b) where
  fits h :=
    ⟨by simpa [setCurrent, setBuffer] using h.current_lt,
      fun s hs => (mem_setCurrent hs).elim (· ▸ hfits h.buffer) (h.buffers s)⟩
  slots i s hs := by
    refine ⟨_, by rw [getElem?_setCurrent, hs]; rfl, ?_⟩
    split
    · rename_i hi
      subst hi
      exact ⟨rfl, buffer_of_getElem? hs ▸ hb⟩
    · exact .refl _ s

/-! ## Going to another buffer -/

theorem goTo_evolves (settled : Nat → Prop) {place : Nat} (h : t.Fits → place < t.slots.length) :
    t.Evolves settled { t with current := place } :=
  ⟨fun ht => ⟨h ht, ht.buffers⟩, (Evolves.refl settled t).slots⟩

theorem next_evolves (settled : Nat → Prop) (t : BufferTable) : t.Evolves settled t.next :=
  goTo_evolves settled fun h => Nat.mod_lt _ (Nat.zero_lt_of_lt h.current_lt)

theorem previous_evolves (settled : Nat → Prop) (t : BufferTable) : t.Evolves settled t.previous :=
  goTo_evolves settled fun h => Nat.mod_lt _ (Nat.zero_lt_of_lt h.current_lt)

theorem placeOf?_lt {path : Path} {place : Nat} (h : t.placeOf? path = some place) :
    place < t.slots.length := (List.findIdx?_eq_some_iff_getElem.mp h).1

theorem find_lt {reference : Text} {place : Nat} (h : t.find reference = .ok place) :
    place < t.slots.length := by
  unfold find at h
  split at h
  · split at h
    · rename_i hid
      cases h
      exact (List.findIdx?_eq_some_iff_getElem.mp hid).1
    · cases h
  · split at h
    · rename_i hnamed
      cases h
      have hmem : place ∈ t.placesNamed reference := by simp [hnamed]
      exact List.mem_range.mp (List.mem_filter.mp hmem).1
    · cases h
    · cases h

/-- Switching changes which buffer is current and nothing else. -/
theorem switch_ok {u : BufferTable} {reference : Text} (h : t.switch reference = .ok u) :
    ∃ place < t.slots.length, u = { t with current := place } := by
  unfold switch at h
  cases hfind : t.find reference with
  | error e =>
    rw [hfind] at h
    cases h
  | ok place =>
    rw [hfind] at h
    cases h
    exact ⟨place, find_lt hfind, rfl⟩

theorem switch_evolves (settled : Nat → Prop) {u : BufferTable} {reference : Text}
    (h : t.switch reference = .ok u) : t.Evolves settled u := by
  obtain ⟨place, hplace, rfl⟩ := switch_ok h
  exact goTo_evolves settled fun _ => hplace

theorem switch_slots {u : BufferTable} {reference : Text} (h : t.switch reference = .ok u) :
    u.slots = t.slots := by
  obtain ⟨place, -, rfl⟩ := switch_ok h
  rfl

/-! ## Adding a buffer -/

theorem add_evolves (settled : Nat → Prop) (t : BufferTable) (hb : b.Fits) :
    t.Evolves settled (t.add b) where
  fits h := by
    refine ⟨by simp [add], fun s hs => ?_⟩
    rcases List.mem_append.mp hs with hs | hs
    · exact h.buffers s hs
    · obtain rfl := List.mem_singleton.mp hs
      exact hb
  slots i s hs := by
    have hi : i < t.slots.length := (List.getElem?_eq_some_iff.mp hs).1
    exact ⟨s, by rw [add, List.getElem?_append_left hi, hs], .refl _ s⟩

theorem Unbroken.add (h : t.Unbroken) (hb : b.Unbroken) : (t.add b).Unbroken := by
  intro s hs
  rcases List.mem_append.mp hs with hs | hs
  · exact h s hs
  · obtain rfl := List.mem_singleton.mp hs
    exact hb

end BufferTable
end ModalEditor
