import ModalEditor.Host.Memory
import ModalEditor.Proofs.Session.Evolution

/-!
# The buffers of a session are valid

At every point of a session every buffer has a line, its cursor and its marks are on lines, marks
are small letters, and no line has a line break in it. The invariant that carries this through the
keys says a little more: registers and the paths of buffers have no line breaks either, for they can
be put into a buffer, and nor has the text on the command line, from which paths come.

Line breaks must not come in from outside: through the root of the project, the path at the start or
a key that types a line break as a character. No typed character is such a key (`Key.ofChar`).
-/

namespace ModalEditor

/-- No character is typed as a line break; that one is Enter. -/
theorem Key.ofChar_ne_break (c : Char) : Key.ofChar c ≠ .char '\n' := by
  unfold Key.ofChar
  split
  · simp
  split
  · simp
  split
  · simp
  split
  · simp
  · rintro ⟨rfl⟩
    simp_all

namespace Session

variable {σ : Type} {h : Host σ}

/-- What every typed character keeps of a session. -/
structure Sound (s : Session σ) : Prop where
  /-- In all buffers cursor and marks are on lines. -/
  fits : s.editor.buffers.Fits
  /-- Buffers and registers have no line breaks in their lines. -/
  unbroken : s.editor.Unbroken
  /-- The command line has no line break. -/
  typed : '\n' ∉ s.commandLine.input

theorem sound_ofBuffer {b : Buffer} (hf : b.Fits) (hb : b.Unbroken) (o : Options) (world : σ) :
    (ofBuffer b o world).Sound := by
  refine ⟨fits_ofBuffer hf o world, ⟨fun slot hslot => ?_, RegisterFile.unbroken_new⟩,
    by simp [ofBuffer]⟩
  obtain rfl := List.mem_singleton.mp hslot
  exact hb

theorem begin_sound {o : Options} {world : σ} {file : Option Path} {s : Session σ}
    (hroot : '\n' ∉ h.project.root) (hfile : ∀ p ∈ file, '\n' ∉ p)
    (hs : begin h o world file = .ok s) : s.Sound := by
  cases file with
  | none =>
    cases hs
    exact sound_ofBuffer Buffer.fits_new Buffer.unbroken_new o world
  | some typed =>
    obtain ⟨file, text, hr, -, rfl⟩ := openPath_eq_ok hs
    exact sound_ofBuffer (Buffer.fits_ofFile file text)
      (Buffer.unbroken_ofFile (Project.resolve_noBreak hr hroot (hfile typed rfl)) text) o _

theorem typeNormal_input {s : Session σ} (hs : '\n' ∉ s.commandLine.input) (c : Char) :
    '\n' ∉ (s.typeNormal c).1.commandLine.input := by
  unfold typeNormal
  split
  · simp
  dsimp only
  split
  · exact hs
  · exact hs
  · rw [runNormal_commandLine]
    exact hs

theorem normalKey_input {s : Session σ} (hs : '\n' ∉ s.commandLine.input) (key : Key) :
    '\n' ∉ (s.normalKey key).1.commandLine.input := by
  rcases normalKey_cases s key with ⟨c, hkey⟩ | hkey | hkey <;> rw [hkey]
  · exact typeNormal_input hs c
  · exact hs
  · exact hs

theorem commandKey_input {s : Session σ} {key : Key} (hs : '\n' ∉ s.commandLine.input)
    (hkey : key ≠ .char '\n') : '\n' ∉ (s.commandKey h key).1.commandLine.input := by
  cases key with
  | char c =>
    have hne : c ≠ '\n' := fun hc => hkey (hc ▸ rfl)
    simp [commandKey, CommandLine.insert, hs, hne.symm]
  | tab => simp [commandKey, CommandLine.insert, hs]
  | backspace => exact fun hm => hs (List.dropLast_subset _ hm)
  | escape => simp [commandKey]
  | enter =>
    simp only [commandKey]
    split
    · simp
    · obtain ⟨editor, col, hstate⟩ := runLine_state (h := h)
        { s with mode := .normal, commandLine := {} } s.commandLine.input
      simp [hstate]

/-- What stands on the command line was typed. -/
theorem press_input {s : Session σ} {key : Key} (hs : '\n' ∉ s.commandLine.input)
    (hkey : key ≠ .char '\n') : '\n' ∉ (s.press h key).1.commandLine.input := by
  cases hmode : s.mode with
  | normal =>
    rw [press_normal hmode]
    exact normalKey_input hs key
  | insert =>
    rw [press_inserting hmode, insertKey_commandLine]
    exact hs
  | commandLine =>
    rw [press_commandLine hmode]
    exact commandKey_input hs hkey

theorem Sound.press {s : Session σ} (hs : s.Sound) (hroot : '\n' ∉ h.project.root) {key : Key}
    (hkey : key ≠ .char '\n') : (s.press h key).1.Sound := by
  have hpress : s.editor.Evolves h True (fun _ => True) (s.press h key).1.editor :=
    press_evolves s key hs.fits (fun _ => ⟨hroot, hs.typed, hkey⟩) fun _ _ _ => trivial
  exact ⟨hpress.buffers.fits hs.fits, hpress.unbroken trivial hs.unbroken,
    press_input hs.typed hkey⟩

theorem Sound.after {s : Session σ} (hs : s.Sound) (hroot : '\n' ∉ h.project.root)
    {keys : List Key} (hkeys : ∀ key ∈ keys, key ≠ .char '\n') : (s.after h keys).Sound :=
  after_induction (P := Sound) hs fun _ ht key hkey => ht.press hroot (hkeys key hkey)

/-- Every buffer of a session is valid, whatever was typed, whatever the files hold and whatever the
shell answers. -/
theorem buffers_valid (h : Host σ) (hroot : '\n' ∉ h.project.root) (o : Options) (world : σ)
    (file : Option Path) (hfile : ∀ p ∈ file, '\n' ∉ p) (s : Session σ)
    (hs : begin h o world file = .ok s) (typed : Text) :
    ∀ slot ∈ (s.after h (typed.map Key.ofChar)).editor.buffers.slots, slot.buffer.Valid := by
  have hkeys : ∀ key ∈ typed.map Key.ofChar, key ≠ .char '\n' := by
    intro key hkey
    obtain ⟨c, -, rfl⟩ := List.mem_map.mp hkey
    exact Key.ofChar_ne_break c
  have hafter := (begin_sound hroot hfile hs).after hroot hkeys
  exact fun slot hslot => Buffer.valid_iff.mpr
    ⟨hafter.fits.buffers slot hslot, (hafter.unbroken.buffers slot hslot).lines⟩

/-- A file of three lines; one is marked and deleted, and a broken line is put. -/
theorem buffers_valid_of_three_lines :
    ∃ s, begin (Memory.host "/p".toList) {} { files := [("/p/f".toList, "a\nb\nc\n".toList)] }
        (some "f".toList) = .ok s ∧
      ∀ slot ∈ (s.after (Memory.host "/p".toList)
        ("jmaddGix\ny\x1b'ap:%d\n".toList.map Key.ofChar)).editor.buffers.slots,
        slot.buffer.Valid := by
  refine ⟨_, rfl, ?_⟩
  exact buffers_valid (Memory.host "/p".toList) (by decide) {}
    { files := [("/p/f".toList, "a\nb\nc\n".toList)] } (some "f".toList) (by decide) _ rfl _

end Session
end ModalEditor
