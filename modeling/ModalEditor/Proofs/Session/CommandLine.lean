import ModalEditor.Proofs.Session.Column

/-!
# Command lines that are typed

A colon in normal mode opens the command line, the characters behind it are its text, and Enter carries
it out. So the keys of a line that can be read do what its command does (`Session.after_lineKeys`).
-/

namespace ModalEditor.Session

variable {σ : Type} {h : Host σ} {s : Session σ} {c : ExCommand} {line : Text}

/-- The keys of a command line, up to Enter. -/
def typedKeys (line : Text) : List Key := .char ':' :: line.map .char

/-- The keys of a command line. -/
def lineKeys (line : Text) : List Key := typedKeys line ++ [.enter]

theorem after_commandLine_chars (hmode : s.mode = .commandLine) (t : Text) :
    s.after h (t.map .char) = { s with commandLine := ⟨s.commandLine.input ++ t⟩ } := by
  induction t generalizing s with
  | nil =>
    rw [List.append_nil]
    rfl
  | cons c t ih =>
    have hpress : (s.press h (.char c)).1 =
        { s with commandLine := ⟨s.commandLine.input ++ [c]⟩ } := by
      rw [press_commandLine hmode]
      rfl
    have hrest := ih (s := { s with commandLine := ⟨s.commandLine.input ++ [c]⟩ }) hmode
    rw [List.append_assoc] at hrest
    rw [List.map_cons, after, List.foldl_cons, hpress]
    exact hrest

theorem after_typedKeys (hmode : s.mode = .normal) (hp : s.pending = []) (line : Text) :
    s.after h (typedKeys line) = { s with mode := .commandLine, commandLine := ⟨line⟩ } := by
  have hpress : (s.press h (.char ':')).1 =
      { s with mode := .commandLine, commandLine := {} } := by
    rw [press_normal hmode]
    change (s.typeNormal ':').1 = _
    rw [typeNormal, hp]
    rfl
  rw [typedKeys, after, List.foldl_cons, hpress]
  exact after_commandLine_chars rfl line

/-- Enter carries out the command that was typed. -/
theorem entered?_typedKeys (hmode : s.mode = .normal) (hp : s.pending = [])
    (hread : ExCommand.readLine line = .ok c) (hblank : Text.isBlankOnly line = false) :
    (s.after h (typedKeys line)).entered? .enter = some c := by
  rw [after_typedKeys hmode hp, entered?, if_pos ⟨rfl, rfl, hblank⟩]
  simp only [hread]
  rfl

/-- What a typed command line leaves of a session in normal mode. -/
theorem after_lineKeys (hmode : s.mode = .normal) (hp : s.pending = [])
    (hread : ExCommand.readLine line = .ok c) (hblank : Text.isBlankOnly line = false) :
    (s.after h (lineKeys line)).editor = ((Ex.run h c s.col).run.run s.editor).2 ∧
      (s.after h (lineKeys line)).mode = .normal ∧ (s.after h (lineKeys line)).pending = [] := by
  have hc := entered?_typedKeys (h := h) hmode hp hread hblank
  rw [lineKeys, after_append]
  change ((s.after h (typedKeys line)).press h .enter).1.editor = _ ∧
    ((s.after h (typedKeys line)).press h .enter).1.mode = .normal ∧
    ((s.after h (typedKeys line)).press h .enter).1.pending = []
  refine ⟨?_, (press_run (h := h) hc).1, ?_⟩
  · rw [press_entered hc, after_typedKeys hmode hp]
  · rw [after_typedKeys hmode hp, press_commandLine rfl, commandKey_pending]
    exact hp

end ModalEditor.Session
