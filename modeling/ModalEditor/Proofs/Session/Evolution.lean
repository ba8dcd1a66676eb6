import ModalEditor.Proofs.Ex.Settling
import ModalEditor.Session

/-!
# What keys keep of a session

A session begins on an empty buffer or on a file, and takes keys one after the other. A key in normal
mode carries out a command on the current buffer, a key in insert mode edits the current line, and on
the command line only Enter does anything to the editor, with the command that was typed
(`Session.entered?`). So a key that carries out no such command leads to an edited editor
(`Session.press_edited`), and every key to one that evolves from the one before
(`Session.press_evolves`).
-/

namespace ModalEditor.Session

open Editor

variable {σ : Type}

/-- A new session, or one on the file at a typed path. -/
def begin (h : Host σ) (o : Options) (world : σ) : Option Path → Except EditorError (Session σ)
  | none => .ok (.new o world)
  | some typed => openPath h o world typed

/-- The session after some keys. A fatal failure is for the host to deal with; the session can go
on. -/
def after (h : Host σ) (s : Session σ) (keys : List Key) : Session σ :=
  keys.foldl (fun s key => (s.press h key).1) s

/-- What each of some keys keeps, they keep in a row. -/
theorem after_induction {h : Host σ} {P : Session σ → Prop} {s : Session σ} {keys : List Key}
    (hs : P s) (hpress : ∀ t, P t → ∀ key ∈ keys, P (t.press h key).1) : P (s.after h keys) :=
  List.foldlRecOn keys _ hs hpress

theorem after_append (h : Host σ) (s : Session σ) (keys more : List Key) :
    s.after h (keys ++ more) = (s.after h keys).after h more := List.foldl_append

/-- The command that a key carries out: Enter on a command line that can be read. -/
def entered? (s : Session σ) (key : Key) : Option ExCommand :=
  if s.mode = .commandLine ∧ key = .enter ∧ s.commandLine.isEmpty = false then
    (ExCommand.readLine s.commandLine.input).toOption
  else none

variable {h : Host σ} {clean : Prop} {settled : Nat → Prop} {s : Session σ} {key : Key}
  {c : ExCommand}

/-! ## Keys in normal mode -/

/-- A command of normal mode works on the editor, and says the column and the mode. -/
theorem runNormal_state (s : Session σ) (c : NormalCommand) :
    ∃ col mode, (s.runNormal c).1 =
      { s with
        editor := ((EditorM.onCurrent (Normal.run c s.col) : EditorM σ _).run.run s.editor).2
        col, mode } := by
  unfold runNormal
  rcases (EditorM.onCurrent (Normal.run c s.col) : EditorM σ _).run.run s.editor with
    ⟨_ | _, _⟩ <;> exact ⟨_, _, rfl⟩

theorem runNormal_editor (s : Session σ) (c : NormalCommand) :
    (s.runNormal c).1.editor =
      ((EditorM.onCurrent (Normal.run c s.col) : EditorM σ _).run.run s.editor).2 := by
  obtain ⟨col, mode, hstate⟩ := s.runNormal_state c
  rw [hstate]

theorem runNormal_pending (s : Session σ) (c : NormalCommand) :
    (s.runNormal c).1.pending = s.pending := by
  obtain ⟨col, mode, hstate⟩ := s.runNormal_state c
  rw [hstate]

theorem runNormal_commandLine (s : Session σ) (c : NormalCommand) :
    (s.runNormal c).1.commandLine = s.commandLine := by
  obtain ⟨col, mode, hstate⟩ := s.runNormal_state c
  rw [hstate]

theorem typeNormal_edited (s : Session σ) (c : Char) (hf : s.editor.buffers.Fits) :
    s.editor.Edited clean (s.typeNormal c).1.editor := by
  unfold typeNormal
  split
  · exact refl s.editor
  dsimp only
  split
  · exact refl s.editor
  · exact refl s.editor
  · rename_i command _
    rw [runNormal_editor]
    exact EditorM.onCurrent_edited (Normal.run_evolves command _ _ hf.buffer)

theorem cancelPending_edited (s : Session σ) :
    s.editor.Edited clean s.cancelPending.editor := by
  unfold cancelPending
  dsimp only
  split
  · exact EditorM.select_edited _ s.editor
  · exact refl s.editor

/-- A key in normal mode types a character, cancels what is pending or does nothing. -/
theorem normalKey_cases (s : Session σ) (key : Key) :
    (∃ c, s.normalKey key = s.typeNormal c) ∨ s.normalKey key = (s.cancelPending, silent) ∨
      s.normalKey key = (s, silent) := by
  cases key with
  | char c => exact .inl ⟨c, rfl⟩
  | escape => exact .inr (.inl rfl)
  | backspace =>
    by_cases hp : s.pending.isEmpty = true
    · exact .inl ⟨'h', if_pos hp⟩
    · exact .inr (.inr (if_neg hp))
  | enter =>
    by_cases hp : s.pending.isEmpty = true
    · exact .inl ⟨'j', if_pos hp⟩
    · exact .inr (.inr (if_neg hp))
  | tab => exact .inr (.inr rfl)

theorem normalKey_edited (s : Session σ) (key : Key) (hf : s.editor.buffers.Fits) :
    s.editor.Edited clean (s.normalKey key).1.editor := by
  rcases normalKey_cases s key with ⟨c, hkey⟩ | hkey | hkey <;> rw [hkey]
  · exact typeNormal_edited s c hf
  · exact cancelPending_edited s
  · exact refl s.editor

/-! ## Keys in insert mode -/

/-- A key in insert mode edits the buffer, moves the cursor and may leave the mode. -/
theorem insertKey_state (s : Session σ) (key : Key) :
    ∃ editor col mode, s.insertKey key = { s with editor, col, mode } := by
  cases key with
  | backspace =>
    dsimp only [insertKey]
    split <;> exact ⟨_, _, _, rfl⟩
  | _ => exact ⟨_, _, _, rfl⟩

theorem insertKey_pending (s : Session σ) (key : Key) : (s.insertKey key).pending = s.pending := by
  obtain ⟨editor, col, mode, hstate⟩ := s.insertKey_state key
  rw [hstate]

theorem insertKey_commandLine (s : Session σ) (key : Key) :
    (s.insertKey key).commandLine = s.commandLine := by
  obtain ⟨editor, col, mode, hstate⟩ := s.insertKey_state key
  rw [hstate]

theorem insertKey_edited (s : Session σ) (key : Key) (hf : s.editor.buffers.Fits)
    (hclean : clean → key ≠ .char '\n') : s.editor.Edited clean (s.insertKey key).editor := by
  have hcur : s.cursor.line < s.buffer.lines.length := hf.buffer.current_lt
  cases key with
  | char c =>
    refine setBuffer_edited (Buffer.insertText_evolves _ _ _) fun hc hu => hu.insertText _ ?_
    have hne : c ≠ '\n' := fun hn => hclean hc (hn ▸ rfl)
    simpa using hne.symm
  | tab =>
    refine setBuffer_edited (Buffer.insertText_evolves _ _ _) fun hc hu => hu.insertText _ ?_
    simp
  | enter => exact setBuffer_edited (Buffer.splitLine_evolves _ _) fun hc hu => hu.splitLine _
  | backspace =>
    have hb := s.buffer.backspace_evolves hcur
    have hu : clean → s.buffer.Unbroken → (s.buffer.backspace s.cursor).1.Unbroken :=
      fun _ hu => hu.backspace _
    unfold insertKey
    rcases hback : s.buffer.backspace s.cursor with ⟨b, _ | p⟩ <;> rw [hback] at hb hu <;>
      exact setBuffer_edited hb hu
  | escape => exact refl s.editor

/-! ## Keys on the command line -/

/-- A line that cannot be read does nothing to the session; a command that fails leaves what it has
done to the editor. -/
theorem runLine_eq (s : Session σ) (line : Text) :
    s.runLine h line =
      match ExCommand.readLine line with
      | .error err => (s, narrate err)
      | .ok c =>
        match (Ex.run h c s.col).run.run s.editor with
        | (.error err, e) => ({ s with editor := e }, narrate err)
        | (.ok o, e) => ({ s with editor := e, col := o.col }, .ok (o.message, o.quit)) := by
  unfold runLine
  simp only [run_bind, EditorM.run_orFail]
  cases ExCommand.readLine line with
  | error err => rfl
  | ok c =>
    dsimp only
    rcases (Ex.run h c s.col).run.run s.editor with ⟨_ | _, _⟩ <;> rfl

theorem runLine_editor {s : Session σ} {line : Text} {c : ExCommand}
    (hread : ExCommand.readLine line = .ok c) :
    (s.runLine h line).1.editor = ((Ex.run h c s.col).run.run s.editor).2 := by
  rw [runLine_eq, hread]
  dsimp only
  rcases (Ex.run h c s.col).run.run s.editor with ⟨_ | _, _⟩ <;> rfl

/-- A command of the command line works on the editor, and says the column. -/
theorem runLine_state (s : Session σ) (line : Text) :
    ∃ editor col, (s.runLine h line).1 = { s with editor, col } := by
  rw [runLine_eq]
  cases ExCommand.readLine line with
  | error err => exact ⟨_, _, rfl⟩
  | ok c =>
    dsimp only
    rcases (Ex.run h c s.col).run.run s.editor with ⟨_ | _, _⟩ <;> exact ⟨_, _, rfl⟩

theorem runLine_pending (s : Session σ) (line : Text) :
    (s.runLine h line).1.pending = s.pending := by
  obtain ⟨editor, col, hstate⟩ := runLine_state (h := h) s line
  rw [hstate]

/-! ## A key by the mode it is pressed in -/

theorem press_normal (hmode : s.mode = .normal) : (s.press h key).1 = (s.normalKey key).1 := by
  unfold press
  rw [hmode]

theorem press_inserting (hmode : s.mode = .insert) : (s.press h key).1 = s.insertKey key := by
  unfold press
  rw [hmode]

theorem press_commandLine (hmode : s.mode = .commandLine) :
    (s.press h key).1 = (s.commandKey h key).1 := by
  unfold press
  rw [hmode]

/-- A key carries out a command only on the command line. -/
theorem entered?_eq_some (hc : s.entered? key = some c) :
    s.mode = .commandLine ∧ key = .enter ∧ s.commandLine.isEmpty = false ∧
      ExCommand.readLine s.commandLine.input = .ok c := by
  unfold entered? at hc
  split at hc
  · rename_i hentered
    obtain ⟨hmode, hkey, hblank⟩ := hentered
    cases hread : ExCommand.readLine s.commandLine.input with
    | error err =>
      rw [hread] at hc
      cases hc
    | ok d =>
      rw [hread] at hc
      cases hc
      exact ⟨hmode, hkey, hblank, rfl⟩
  · cases hc

/-- What Enter does with a command line that can be read. -/
theorem press_entered (hc : s.entered? key = some c) :
    (s.press h key).1.editor = ((Ex.run h c s.col).run.run s.editor).2 := by
  obtain ⟨hmode, rfl, hblank, hread⟩ := entered?_eq_some hc
  rw [press_commandLine hmode]
  simp only [commandKey, hblank, Bool.false_eq_true, if_false]
  exact runLine_editor (s := { s with mode := .normal, commandLine := {} }) hread

/-- Enter on a line that is empty or cannot be read, and every other key on the command line. -/
theorem press_unentered (hmode : s.mode = .commandLine) (hc : s.entered? key = none) :
    (s.press h key).1.editor = s.editor ∧ (s.press h key).1.col = s.col ∧
      (s.press h key).1.mode ≠ .insert := by
  rw [press_commandLine hmode]
  cases key with
  | enter =>
    simp only [commandKey]
    split
    · exact ⟨rfl, rfl, by simp⟩
    · rename_i hblank
      cases hread : ExCommand.readLine s.commandLine.input with
      | error err =>
        rw [runLine_eq, hread]
        exact ⟨rfl, rfl, by simp⟩
      | ok c => simp [entered?, hmode, hblank, hread, Except.toOption] at hc
  | escape => exact ⟨rfl, rfl, by simp [commandKey]⟩
  | char c => exact ⟨rfl, rfl, by simp [commandKey, hmode]⟩
  | tab => exact ⟨rfl, rfl, by simp [commandKey, hmode]⟩
  | backspace => exact ⟨rfl, rfl, by simp [commandKey, hmode]⟩

/-! ## All keys -/

/-- A key that carries out no command of the command line. -/
theorem press_edited (hf : s.editor.buffers.Fits) (hc : s.entered? key = none)
    (hclean : clean → key ≠ .char '\n') :
    s.editor.Edited clean (s.press h key).1.editor := by
  cases hmode : s.mode with
  | normal =>
    rw [press_normal hmode]
    exact normalKey_edited s key hf
  | insert =>
    rw [press_inserting hmode]
    exact insertKey_edited s key hf hclean
  | commandLine =>
    rw [(press_unentered hmode hc).1]
    exact refl s.editor

/-- Every key leads to an editor that evolves from the one before. It settles a buffer only by
carrying out a command that does so. -/
theorem press_evolves (s : Session σ) (key : Key) (hf : s.editor.buffers.Fits)
    (hclean : clean →
      '\n' ∉ h.project.root ∧ '\n' ∉ s.commandLine.input ∧ key ≠ .char '\n')
    (hs : ∀ c, s.entered? key = some c →
      s.editor.saves h c = true ∨ s.editor.reloads h c s.col = true →
      settled s.editor.buffers.current) :
    s.editor.Evolves h clean settled (s.press h key).1.editor := by
  cases hc : s.entered? key with
  | none => exact (press_edited hf hc fun hclean' => (hclean hclean').2.2).evolves
  | some c =>
    obtain ⟨-, -, -, hread⟩ := entered?_eq_some hc
    rw [press_entered hc]
    refine Ex.run_evolves c s.col hf (fun hclean' => ⟨(hclean hclean').1, fun p hp hn => ?_⟩)
      (hs c hc)
    exact (hclean hclean').2.1 (ExCommand.readLine_paths hread p hp hn)

/-! ## Sessions that begin -/

/-- A session on a file is one on the buffer that is read from it. -/
theorem openPath_eq_ok {o : Options} {world : σ} {typed : Path} {s : Session σ}
    (hs : openPath h o world typed = .ok s) :
    ∃ file text, h.project.resolve typed = .ok file ∧ (h.load file world).1 = .ok text ∧
      s = ofBuffer (.ofFile file text) o (h.load file world).2 := by
  unfold openPath at hs
  cases hr : h.project.resolve typed with
  | error err =>
    rw [hr] at hs
    cases hs
  | ok file =>
    rw [hr] at hs
    simp only [bind, Except.bind] at hs
    split at hs
    · rename_i text htext
      cases hs
      exact ⟨file, some text, rfl, htext, rfl⟩
    · rename_i htext
      cases hs
      exact ⟨file, none, rfl, htext, rfl⟩
    · cases hs

theorem fits_ofBuffer {b : Buffer} (hb : b.Fits) (o : Options) (world : σ) :
    (ofBuffer b o world).editor.buffers.Fits := by
  refine ⟨Nat.one_pos, fun slot hslot => ?_⟩
  obtain rfl := List.mem_singleton.mp hslot
  exact hb

/-- A session begins on one buffer, and nothing has been typed. -/
theorem begin_eq_ofBuffer {o : Options} {world : σ} {file : Option Path} {s : Session σ}
    (hs : begin h o world file = .ok s) : ∃ b world, b.Fits ∧ s = ofBuffer b o world := by
  cases file with
  | none =>
    cases hs
    exact ⟨_, world, Buffer.fits_new, rfl⟩
  | some typed =>
    obtain ⟨file, text, -, -, rfl⟩ := openPath_eq_ok hs
    exact ⟨_, _, Buffer.fits_ofFile file text, rfl⟩

theorem begin_fits {o : Options} {world : σ} {file : Option Path} {s : Session σ}
    (hs : begin h o world file = .ok s) : s.editor.buffers.Fits := by
  obtain ⟨b, world, hb, rfl⟩ := begin_eq_ofBuffer hs
  exact fits_ofBuffer hb o world

/-- A session as it begins: on an empty buffer, on a file, or on a buffer of the host. -/
def IsNew (h : Host σ) (s : Session σ) : Prop :=
  ∃ o world, (∃ file, begin h o world file = .ok s) ∨ ∃ b, s = ofBuffer b o world

/-- However a session begins, it has one buffer, and nothing has been typed. -/
theorem IsNew.eq_ofBuffer {h : Host σ} {s : Session σ} (hs : s.IsNew h) :
    ∃ b o world, s = ofBuffer b o world := by
  obtain ⟨o, world, ⟨file, hbegin⟩ | ⟨b, rfl⟩⟩ := hs
  · obtain ⟨b, world, -, rfl⟩ := begin_eq_ofBuffer hbegin
    exact ⟨b, o, world, rfl⟩
  · exact ⟨b, o, world, rfl⟩

/-- Cursors and marks stay on lines, whatever is typed and however the host answers. -/
theorem press_fits {s : Session σ} (hf : s.editor.buffers.Fits) (key : Key) :
    (s.press h key).1.editor.buffers.Fits := by
  have hpress : s.editor.Evolves h False (fun _ => True) (s.press h key).1.editor :=
    press_evolves s key hf (fun hc => hc.elim) fun _ _ _ => trivial
  exact hpress.buffers.fits hf

theorem after_fits {s : Session σ} (hf : s.editor.buffers.Fits) (keys : List Key) :
    (s.after h keys).editor.buffers.Fits :=
  after_induction (P := fun t => t.editor.buffers.Fits) hf fun _ ht key _ => press_fits ht key

/-- What the host keeps of its state is kept by all keys. -/
theorem after_world {W : σ → Prop} (hW : h.Keeps W) {s : Session σ}
    (hf : s.editor.buffers.Fits) (hs : W s.editor.world) (keys : List Key) :
    W (s.after h keys).editor.world := by
  have hboth : (s.after h keys).editor.buffers.Fits ∧ W (s.after h keys).editor.world := by
    refine after_induction (P := fun t => t.editor.buffers.Fits ∧ W t.editor.world) ⟨hf, hs⟩ ?_
    rintro t ⟨ht, hw⟩ key -
    have hpress : t.editor.Evolves h False (fun _ => True) (t.press h key).1.editor :=
      press_evolves t key ht (fun hc => hc.elim) fun _ _ _ => trivial
    exact ⟨press_fits ht key, hpress.world W hW hw⟩
  exact hboth.2

end ModalEditor.Session
