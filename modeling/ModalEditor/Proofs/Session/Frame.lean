import ModalEditor.Host.Memory
import ModalEditor.Proofs.Ex.Frame
import ModalEditor.Proofs.Session.Evolution

/-!
# A key touches the current buffer only

Whatever a key does to a buffer, it does to the one that is current before the key
(`Session.press_touches`). So the other entries of the table are the same afterwards, in the same
places. A buffer that is added comes last, with a number that no buffer has had before: no entry
ever goes, so the numbers that were ever given are those in the table.
-/

namespace ModalEditor.Session

open Editor EditorM

variable {σ : Type} {h : Host σ} {s : Session σ} {key : Key}

/-! ## One key -/

theorem typeNormal_atDesk (s : Session σ) (c : Char) :
    s.editor.AtDesk True (s.typeNormal c).1.editor := by
  unfold typeNormal
  split
  · exact refl s.editor
  dsimp only
  split
  · exact refl s.editor
  · exact refl s.editor
  · rw [runNormal_editor]
    exact confined_onCurrent _ s.editor

theorem setBuffer_atDesk (s : Session σ) (b : Buffer) :
    s.editor.AtDesk True (s.editor.setBuffer b) := confined_modifyBuffer (fun _ => b) s.editor

theorem normalKey_atDesk (s : Session σ) (key : Key) :
    s.editor.AtDesk True (s.normalKey key).1.editor := by
  rcases normalKey_cases s key with ⟨c, hkey⟩ | hkey | hkey <;> rw [hkey]
  · exact typeNormal_atDesk s c
  · unfold cancelPending
    dsimp only
    split
    · exact setBuffer_atDesk s _
    · exact refl s.editor
  · exact refl s.editor

theorem insertKey_atDesk (s : Session σ) (key : Key) :
    s.editor.AtDesk True (s.insertKey key).editor := by
  cases key with
  | backspace =>
    dsimp only [insertKey]
    split <;> exact setBuffer_atDesk s _
  | escape => exact refl s.editor
  | _ => exact setBuffer_atDesk s _

/-- A key that carries out no command of the command line stays with the buffer and leaves the settings
alone. -/
theorem press_atDesk (hc : s.entered? key = none) :
    s.editor.AtDesk True (s.press h key).1.editor := by
  cases hmode : s.mode with
  | normal =>
    rw [press_normal hmode]
    exact normalKey_atDesk s key
  | insert =>
    rw [press_inserting hmode]
    exact insertKey_atDesk s key
  | commandLine =>
    rw [(press_unentered hmode hc).1]
    exact refl s.editor

theorem press_touches (s : Session σ) (key : Key) :
    s.editor.Touches (s.press h key).1.editor := by
  cases hc : s.entered? key with
  | none => exact (press_atDesk hc).buffers.touches
  | some c =>
    rw [press_entered hc]
    exact Ex.run_roams h c s.col s.editor

/-! ## Rows of keys -/

/-- The numbers that were given stay, in their order. -/
theorem ids_prefix_after (s : Session σ) (keys : List Key) :
    s.editor.buffers.ids <+: (s.after h keys).editor.buffers.ids := by
  refine after_induction (P := fun t => s.editor.buffers.ids <+: t.editor.buffers.ids)
    (List.prefix_refl _) fun t ht key _ => ht.trans ?_
  rcases (press_touches (h := h) t key).ids with ⟨hids, -⟩ | ⟨hids, -⟩
  · exact hids ▸ List.prefix_refl _
  · exact hids ▸ List.prefix_append _ _

theorem after_fresh (hs : s.editor.buffers.Fresh) (keys : List Key) :
    (s.after h keys).editor.buffers.Fresh :=
  after_induction (P := fun t => t.editor.buffers.Fresh) hs fun t ht key _ =>
    (press_touches t key).fresh ht

theorem after_hasCurrent (hs : s.editor.HasCurrent) (keys : List Key) :
    (s.after h keys).editor.HasCurrent :=
  after_induction (P := fun t => t.editor.HasCurrent) hs fun t ht key _ =>
    (press_touches t key).current_lt ht

theorem ofBuffer_fresh (b : Buffer) (o : Options) (world : σ) :
    (ofBuffer b o world).editor.buffers.Fresh := by
  intro id hid
  obtain rfl := List.mem_singleton.mp hid
  exact Nat.lt_succ_self 1

/-- A key leaves all buffers but the current one as they are and where they are. It adds one at
most, at the end and with a number above all that were given to a buffer since the session began,
and afterwards there is a current buffer. -/
theorem key_touches_current (h : Host σ) (s₀ : Session σ) (hs : s₀.IsNew h) (keys : List Key)
    (key : Key) :
    let t := (s₀.after h keys).editor.buffers
    let t' := ((s₀.after h keys).press h key).1.editor.buffers
    (∀ i slot, i ≠ t.current → t.slots[i]? = some slot → t'.slots[i]? = some slot) ∧
    (t'.ids = t.ids ∨ ∃ id, t'.ids = t.ids ++ [id] ∧
      ∀ before, before <+: keys → ∀ given ∈ (s₀.after h before).editor.buffers.ids, given < id) ∧
    t'.current < t'.slots.length := by
  intro t t'
  obtain ⟨b, o, world, rfl⟩ := hs.eq_ofBuffer
  have htouches : t.Touches t' := press_touches ((ofBuffer b o world).after h keys) key
  have hfresh : t.Fresh := after_fresh (ofBuffer_fresh b o world) keys
  have hcurrent : t.current < t.slots.length :=
    after_hasCurrent (s := ofBuffer b o world) Nat.zero_lt_one keys
  refine ⟨fun i slot hi => htouches.others hi, ?_, htouches.current_lt hcurrent⟩
  rcases htouches.ids with ⟨hids, -⟩ | ⟨hids, -⟩
  · exact .inl hids
  · refine .inr ⟨t.nextId, hids, fun before hbefore given hgiven => ?_⟩
    -- The numbers of that time are still in the table, and the new one is above those.
    obtain ⟨more, rfl⟩ := hbefore
    have hmore := ids_prefix_after (h := h) ((ofBuffer b o world).after h before) more
    rw [after, after, ← List.foldl_append] at hmore
    exact hfresh given (hmore.subset hgiven)

/-- With two files open, a change to the second one leaves the first one alone, and the file that
is opened then gets the number three. -/
theorem key_touches_current_of_three_files :
    ∃ s₀, begin (Memory.host "/p".toList) {}
        { files := [("/p/f".toList, "ab\n".toList), ("/p/g".toList, "c\n".toList)] }
        (some "f".toList) = .ok s₀ ∧
      let s := s₀.after (Memory.host "/p".toList) ("xma:e g\r:1d a\r:e k".toList.map Key.ofChar)
      let t' := (s.press (Memory.host "/p".toList) .enter).1.editor.buffers
      t'.slots[0]? = s.editor.buffers.slots[0]? ∧ t'.ids = [1, 2, 3] ∧
        ∀ given ∈ s₀.editor.buffers.ids, given < 3 := by
  have hopen : ∃ s₀, begin (Memory.host "/p".toList) {}
        { files := [("/p/f".toList, "ab\n".toList), ("/p/g".toList, "c\n".toList)] }
        (some "f".toList) = .ok s₀ ∧
      let s := s₀.after (Memory.host "/p".toList) ("xma:e g\r:1d a\r:e k".toList.map Key.ofChar)
      s.editor.buffers.slots[0]?.isSome = true ∧ s.editor.buffers.current = 1 ∧
        s.editor.buffers.ids = [1, 2] ∧
        (s.press (Memory.host "/p".toList) .enter).1.editor.buffers.ids = [1, 2, 3] :=
    ⟨_, rfl, by decide +kernel⟩
  obtain ⟨s₀, hs, hfirst, hcurrent, hids, hids'⟩ := hopen
  obtain ⟨hothers, hnew, -⟩ := key_touches_current (Memory.host "/p".toList) s₀
    ⟨_, _, .inl ⟨_, hs⟩⟩ ("xma:e g\r:1d a\r:e k".toList.map Key.ofChar) .enter
  refine ⟨s₀, hs, ?_, hids', ?_⟩
  · obtain ⟨slot, hslot⟩ := Option.isSome_iff_exists.mp hfirst
    rw [hslot]
    exact hothers 0 slot (by rw [hcurrent]; decide) hslot
  · rw [hids, hids'] at hnew
    rcases hnew with hnew | ⟨id, hnew, hgiven⟩
    · cases hnew
    · cases hnew
      exact hgiven [] List.nil_prefix

end ModalEditor.Session
