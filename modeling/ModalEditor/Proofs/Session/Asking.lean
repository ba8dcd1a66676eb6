import ModalEditor.Proofs.Ex.Asking
import ModalEditor.Proofs.Session.Evolution

/-!
# What keys ask the host for

Only a key that carries out a command of the command line asks the host for anything, or gives a
buffer another path. All other keys are quiet.
-/

namespace ModalEditor.Session

open Editor

variable {σ : Type} {h : Host σ} {s : Session σ} {key : Key} {c : ExCommand}

/-- A key that carries out no command of the command line. -/
theorem press_quiet (hf : s.editor.buffers.Fits) (hc : s.entered? key = none) :
    s.editor.Quiet (s.press h key).1.editor := (press_edited hf hc False.elim).quiet

theorem press_savesAs (hf : s.editor.buffers.Fits) (hc : s.entered? key = some c) {file : Path}
    (hown : (c.base s.buffer).ownFile? h s.buffer = some file) :
    SavesAs h file s.editor (s.press h key).1.editor := by
  rw [press_entered hc]
  exact Ex.run_savesAs hown s.col hf.current_lt

theorem press_asks (hf : s.editor.buffers.Fits) (hc : s.entered? key = some c)
    (hown : (c.base s.buffer).ownFile? h s.buffer = none) :
    Asks h s.editor (s.press h key).1.editor := by
  rw [press_entered hc]
  exact Ex.run_asks hown s.col hf

/-- Every key writes the buffer to its own file or does not. -/
theorem press_cases (h : Host σ) (hf : s.editor.buffers.Fits) (key : Key) :
    (∃ c file, s.entered? key = some c ∧ (c.base s.buffer).ownFile? h s.buffer = some file ∧
      SavesAs h file s.editor (s.press h key).1.editor) ∨
      Asks h s.editor (s.press h key).1.editor := by
  cases hc : s.entered? key with
  | none => exact .inr (press_quiet hf hc).asks
  | some c =>
    cases hown : (c.base s.buffer).ownFile? h s.buffer with
    | none => exact .inr (press_asks hf hc hown)
    | some file => exact .inl ⟨c, file, rfl, hown, press_savesAs hf hc hown⟩

theorem begin_files {o : Options} {world : σ} {file : Option Path} {s : Session σ}
    (hs : begin h o world file = .ok s) : ∃ f, s.editor.buffers.files = [f] := by
  obtain ⟨b, world, -, rfl⟩ := begin_eq_ofBuffer hs
  exact ⟨_, rfl⟩

end ModalEditor.Session
