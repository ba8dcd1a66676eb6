import ModalEditor.Host.Memory
import ModalEditor.Proofs.Ex.Column
import ModalEditor.Proofs.Normal.Typed
import ModalEditor.Proofs.Session.OnePerPath
import ModalEditor.Proofs.Session.Pending
import Mathlib.Data.List.Infix

/-!
# The column of the cursor

The column belongs to the session, and every command hands a new one back. In insert mode it is never
past the end of the current line. In normal mode the cursor is on a character, or at the start of the
line, until a key strays (`Session.Strays`). There are three ways to stray: a command of the command
line that has gone to another line fails, or leaves the column alone; keys that `:norm` carries out
end where they would have started inserting; and a word motion may stop behind a line break that was
put inside a line. Keys typed in normal mode do not stray by failing, as they complete one step at a
time.
-/

namespace ModalEditor.Session

open Editor

variable {σ : Type}

/-- In normal mode the cursor is on a character of its line or at the start of the line; in insert
mode it is on a character or at the end. -/
def ColumnFits (s : Session σ) : Prop :=
  (s.mode = .normal → s.col = 0 ∨ s.col < s.buffer.lineLength s.buffer.current) ∧
    (s.mode = .insert → s.col ≤ s.buffer.lineLength s.buffer.current)

instance (s : Session σ) : Decidable s.ColumnFits := inferInstanceAs (Decidable (_ ∧ _))

/-- The character of normal mode that a key stands for. -/
def typedChar? (s : Session σ) : Key → Option Char
  | .char c => some c
  | .backspace => if s.pending.isEmpty then some 'h' else none
  | .enter => if s.pending.isEmpty then some 'j' else none
  | _ => none

/-- The command that a character completes. -/
def completedBy? (s : Session σ) (c : Char) : Option NormalCommand :=
  if c = ':' && s.pending.isEmpty then none
  else
    match NormalCommand.read (s.pending ++ [c]) with
    | .complete command => some command
    | _ => none

/-- The command of normal mode that a key completes. -/
def completed? (s : Session σ) (key : Key) : Option NormalCommand :=
  if s.mode = .normal then (s.typedChar? key).bind s.completedBy? else none

/-- A command of normal mode leaves the cursor off the text, on a buffer with a break in a line. -/
def StraysTyping (s : Session σ) (c : NormalCommand) : Prop :=
  ∃ o e, (EditorM.onCurrent (Normal.run c s.col) : EditorM σ _).run.run s.editor = (.ok o, e) ∧
    o.enterInsert = false ∧ ¬ Unbroken s.buffer.lines ∧ ¬ e.On o.col

/-- A command of the command line leaves the cursor off the text. Either it fails, or the line of the
marks in front of it is too short for a column that it leaves alone, or keys of normal mode have ended
where no character is. -/
def StraysRunning (h : Host σ) (s : Session σ) (c : ExCommand) : Prop :=
  match (Ex.run h c s.col).run.run s.editor with
  | (.error _, e) => ¬ e.On s.col
  | (.ok o, e) =>
    match (c.base s.buffer).columnRule with
    | .home => False
    | .keep => ¬ (c.approach s.buffer).OnText ⟨(c.approach s.buffer).current, s.col⟩
    | .keys => ¬ e.On o.col

/-- The key leads from the text to where no character is. -/
def Strays (h : Host σ) (s : Session σ) (key : Key) : Prop :=
  (∃ c, s.completed? key = some c ∧ s.StraysTyping c) ∨
    ∃ c, s.entered? key = some c ∧ s.StraysRunning h c

/-- In insert mode the column is one of the line or its end. -/
def InsertFits (s : Session σ) : Prop :=
  s.mode = .insert → s.col ≤ s.buffer.lineLength s.buffer.current

/-- Outside of insert mode the cursor is on the text. -/
def Stands (s : Session σ) : Prop := s.mode ≠ .insert → s.editor.On s.col

/-- No part of the pending keys is a command. -/
def Gathers (s : Session σ) : Prop :=
  ∀ pre, pre <+: s.pending → NormalCommand.read pre = .incomplete

variable {h : Host σ} {s : Session σ} {key : Key}

/-! ## Keys in normal mode -/

theorem completedBy?_eq_some {c : Char} {command : NormalCommand}
    (hc : s.completedBy? c = some command) :
    (c = ':' && s.pending.isEmpty) = false ∧
      NormalCommand.read (s.pending ++ [c]) = .complete command := by
  unfold completedBy? at hc
  split at hc
  · cases hc
  · rename_i hcolon
    refine ⟨by simpa using hcolon, ?_⟩
    split at hc
    · rename_i hread
      cases hc
      exact hread
    · cases hc

theorem typeNormal_completed {c : Char} {command : NormalCommand}
    (hc : s.completedBy? c = some command) :
    s.typeNormal c = ({ s with pending := [] } : Session σ).runNormal command := by
  obtain ⟨hcolon, hread⟩ := completedBy?_eq_some hc
  unfold typeNormal
  rw [hcolon]
  dsimp only
  rw [hread]
  rfl

/-- A character that completes no command changes neither editor nor column. -/
theorem typeNormal_uncompleted {c : Char} (hmode : s.mode = .normal)
    (hc : s.completedBy? c = none) :
    (s.typeNormal c).1.editor = s.editor ∧ (s.typeNormal c).1.col = s.col ∧
      (s.typeNormal c).1.mode ≠ .insert := by
  unfold typeNormal
  unfold completedBy? at hc
  split at hc
  · rename_i hcolon
    rw [if_pos hcolon]
    exact ⟨rfl, rfl, by simp⟩
  · rename_i hcolon
    rw [if_neg hcolon]
    dsimp only
    cases hread : NormalCommand.read (s.pending ++ [c]) with
    | complete command =>
      rw [hread] at hc
      cases hc
    | incomplete => exact ⟨rfl, rfl, by simp [hmode]⟩
    | invalid => exact ⟨rfl, rfl, by simp [hmode]⟩

theorem normalKey_typed {c : Char} (hc : s.typedChar? key = some c) :
    s.normalKey key = s.typeNormal c := by
  cases key with
  | char c' =>
    cases hc
    rfl
  | backspace =>
    change (if s.pending.isEmpty then some 'h' else none) = some c at hc
    by_cases hp : s.pending.isEmpty = true
    · rw [if_pos hp] at hc
      cases hc
      exact if_pos hp
    · rw [if_neg hp] at hc
      cases hc
  | enter =>
    change (if s.pending.isEmpty then some 'j' else none) = some c at hc
    by_cases hp : s.pending.isEmpty = true
    · rw [if_pos hp] at hc
      cases hc
      exact if_pos hp
    · rw [if_neg hp] at hc
      cases hc
  | escape => cases hc
  | tab => cases hc

/-! ## Pending keys -/

theorem gathers_of_nil (hp : s.pending = []) : s.Gathers := by
  intro pre hpre
  rw [hp, List.prefix_nil] at hpre
  subst hpre
  rfl

theorem Gathers.typeNormal (hg : s.Gathers) (c : Char) : (s.typeNormal c).1.Gathers := by
  unfold Session.typeNormal
  split
  · exact hg
  dsimp only
  split
  · rename_i hread
    intro pre hpre
    rcases List.prefix_concat_iff.mp hpre with rfl | hpre
    · exact hread
    · exact hg pre hpre
  · exact gathers_of_nil rfl
  · exact gathers_of_nil (runNormal_pending _ _)

theorem Gathers.press (hg : s.Gathers) (h : Host σ) (key : Key) : (s.press h key).1.Gathers := by
  unfold Session.press
  cases s.mode with
  | normal =>
    dsimp only
    rcases normalKey_cases s key with ⟨c, hkey⟩ | hkey | hkey <;> rw [hkey]
    · exact hg.typeNormal c
    · exact gathers_of_nil rfl
    · exact hg
  | insert =>
    dsimp only
    rwa [Gathers, insertKey_pending]
  | commandLine =>
    dsimp only
    rwa [Gathers, commandKey_pending]

/-- A command that a key completes is a single step. -/
theorem completed_single {c : NormalCommand} (hg : s.Gathers) (hc : s.completed? key = some c) :
    c.IsSingle := by
  unfold completed? at hc
  split at hc
  · obtain ⟨ch, -, hby⟩ := Option.bind_eq_some_iff.mp hc
    exact NormalCommand.single_read hg (completedBy?_eq_some hby).2
  · cases hc

/-! ## What keys in normal mode do -/

theorem cancelPending_keepsPlace (he : s.editor.HasCurrent) :
    s.editor.KeepsPlace s.cancelPending.editor := by
  unfold cancelPending
  dsimp only
  split
  · exact setBuffer_keepsPlace he rfl rfl
  · exact refl s.editor

/-- A key that stands for no character leaves the cursor alone. -/
theorem normalKey_untyped (he : s.editor.HasCurrent) (hc : s.typedChar? key = none) :
    s.editor.KeepsPlace (s.normalKey key).1.editor ∧ (s.normalKey key).1.col = s.col ∧
      (s.normalKey key).1.mode = s.mode := by
  cases key with
  | char c => cases hc
  | escape => exact ⟨cancelPending_keepsPlace he, rfl, rfl⟩
  | backspace =>
    change (if s.pending.isEmpty then some 'h' else none) = none at hc
    by_cases hp : s.pending.isEmpty = true
    · rw [if_pos hp] at hc
      cases hc
    · rw [show s.normalKey .backspace = (s, silent) from if_neg hp]
      exact ⟨refl s.editor, rfl, rfl⟩
  | enter =>
    change (if s.pending.isEmpty then some 'j' else none) = none at hc
    by_cases hp : s.pending.isEmpty = true
    · rw [if_pos hp] at hc
      cases hc
    · rw [show s.normalKey .enter = (s, silent) from if_neg hp]
      exact ⟨refl s.editor, rfl, rfl⟩
  | tab => exact ⟨refl s.editor, rfl, rfl⟩

/-- What a completed command does with the editor, the column and the mode. -/
theorem press_completed {c : NormalCommand} (hc : s.completed? key = some c) :
    c.Leads ∧
    match (EditorM.onCurrent (Normal.run c s.col) : EditorM σ _).run.run s.editor with
    | (.error _, e) =>
      (s.press h key).1.editor = e ∧ (s.press h key).1.col = s.col ∧
        (s.press h key).1.mode = .normal
    | (.ok o, e) =>
      (s.press h key).1.editor = e ∧ (s.press h key).1.col = o.col ∧
        (s.press h key).1.mode = if o.enterInsert then .insert else .normal := by
  unfold completed? at hc
  split at hc
  · rename_i hmode
    obtain ⟨ch, htyped, hby⟩ := Option.bind_eq_some_iff.mp hc
    have hpress : (s.press h key).1 = (({ s with pending := [] } : Session σ).runNormal c).1 := by
      rw [press_normal hmode, normalKey_typed htyped, typeNormal_completed hby]
    refine ⟨NormalCommand.read_leads (completedBy?_eq_some hby).2, ?_⟩
    rw [hpress]
    unfold runNormal
    dsimp only
    rcases (EditorM.onCurrent (Normal.run c s.col) : EditorM σ _).run.run s.editor with
      ⟨err | o, e⟩
    · exact ⟨rfl, rfl, hmode⟩
    · exact ⟨rfl, rfl, by rw [hmode]⟩
  · cases hc

theorem press_uncompleted (he : s.editor.HasCurrent) (hmode : s.mode = .normal)
    (hc : s.completed? key = none) :
    s.editor.KeepsPlace (s.press h key).1.editor ∧ (s.press h key).1.col = s.col ∧
      (s.press h key).1.mode ≠ .insert := by
  rw [press_normal hmode]
  rw [completed?, if_pos hmode] at hc
  cases htyped : s.typedChar? key with
  | none =>
    obtain ⟨hplace, hcol, hmode'⟩ := normalKey_untyped he htyped
    exact ⟨hplace, hcol, by rw [hmode', hmode]; decide⟩
  | some c =>
    rw [htyped] at hc
    obtain ⟨hed, hcol, hmode'⟩ := typeNormal_uncompleted hmode hc
    rw [normalKey_typed htyped]
    exact ⟨by rw [hed]; exact refl s.editor, hcol, hmode'⟩

/-! ## Keys in insert mode -/

/-- Inserting within a line and behind its end ends at a column of the line or at its end. -/
theorem insertText_col_le {b : Buffer} (hb : b.Fits) (col : Nat) (t : Text) :
    (b.insertText ⟨b.current, col⟩ t).2 ≤
      (b.insertText ⟨b.current, col⟩ t).1.lineLength b.current := by
  unfold Buffer.insertText Buffer.lineLength
  dsimp only
  rw [Buffer.line_setLine hb.current_lt]
  simp only [List.length_append, List.length_take, List.length_drop]
  omega

theorem backspace_col_le {b b' : Buffer} {col : Nat} {p : Position} (hb : b.Fits)
    (h : b.backspace ⟨b.current, col⟩ = (b', some p)) :
    p.col ≤ b'.lineLength b'.current := by
  have hcur := hb.current_lt
  unfold Buffer.backspace at h
  dsimp only at h
  split at h
  · cases h
    unfold Buffer.lineLength
    change _ ≤ (Buffer.line (b.setLine b.current _) b.current).length
    rw [Buffer.line_setLine hcur, List.length_eraseIdx]
    dsimp only
    split <;> omega
  split at h
  · cases h
  · rename_i hcol hline
    cases h
    have habove : b.current - 1 < (b.removeLines (.line b.current)).lines.length :=
      Buffer.lt_length_removeLine hcur (by omega)
    have hset : b.current - 1 <
        ((b.removeLines (.line b.current)).setLine (b.current - 1)
          (b.line (b.current - 1) ++ b.line b.current)).lines.length := by
      rw [Buffer.length_setLine]
      exact habove
    rw [Buffer.goTo_current hset]
    unfold Buffer.lineLength
    change _ ≤ (Buffer.line (Buffer.setLine _ (b.current - 1) _) (b.current - 1)).length
    rw [Buffer.line_setLine habove]
    simp

/-- Before the first character of the buffer there is nothing to take out. -/
theorem backspace_none {b b' : Buffer} {p : Position} (h : b.backspace p = (b', none)) :
    b' = b := by
  unfold Buffer.backspace at h
  dsimp only at h
  split at h
  · cases h
  split at h
  · cases h
    rfl
  · cases h

theorem insertKey_fits (key : Key) (hf : s.editor.buffers.Fits) (hmode : s.mode = .insert)
    (hcol : s.col ≤ s.buffer.lineLength s.buffer.current) :
    (s.insertKey key).InsertFits ∧ (s.insertKey key).Stands := by
  have hb : s.buffer.Fits := hf.buffer
  -- every key but one edits the buffer and stays in insert mode
  have hedited : ∀ b col, col ≤ b.lineLength b.current →
      (s.edited b col).InsertFits ∧ (s.edited b col).Stands := by
    intro b col hle
    refine ⟨fun _ => ?_, fun hno => absurd hmode hno⟩
    have hbuffer : (s.edited b col).buffer = b := buffer_setBuffer hf.current_lt b
    rw [hbuffer]
    exact hle
  cases key with
  | char c => exact hedited _ _ (insertText_col_le hb s.col [c])
  | tab => exact hedited _ _ (insertText_col_le hb s.col _)
  | enter => exact hedited _ _ (Nat.zero_le _)
  | backspace =>
    unfold insertKey
    dsimp only
    rcases hback : s.buffer.backspace s.cursor with ⟨b, _ | p⟩
    · have hsame : b = s.buffer := backspace_none hback
      subst hsame
      exact hedited _ _ hcol
    · exact hedited _ _ (backspace_col_le hb hback)
  | escape =>
    have hleft : (s.insertKey .escape).mode = .normal := rfl
    refine ⟨fun hno => ?_, fun _ => Buffer.clampColumn_onText hb.current_lt _⟩
    rw [hleft] at hno
    cases hno

/-! ## All keys -/

/-- What a command that is entered does with the editor, the column and the mode. -/
theorem press_run {c : ExCommand} (hc : s.entered? key = some c) :
    (s.press h key).1.mode = .normal ∧
    match (Ex.run h c s.col).run.run s.editor with
    | (.error _, e) => (s.press h key).1.editor = e ∧ (s.press h key).1.col = s.col
    | (.ok o, e) => (s.press h key).1.editor = e ∧ (s.press h key).1.col = o.col := by
  obtain ⟨hmode, rfl, hblank, hread⟩ := entered?_eq_some hc
  rw [press_commandLine hmode]
  simp only [commandKey, hblank, Bool.false_eq_true, if_false, runLine_eq, hread]
  rcases (Ex.run h c s.col).run.run s.editor with ⟨err | o, e⟩
  · exact ⟨rfl, rfl, rfl⟩
  · exact ⟨rfl, rfl, rfl⟩

/-- Where a command of normal mode leaves the cursor of the editor. -/
theorem onCurrent_lands {c : NormalCommand} {col : Nat} {o : NormalOutcome} {e e' : Editor σ}
    (hc : c.Leads) (hf : e.buffers.Fits)
    (hrun : (EditorM.onCurrent (Normal.run c col) : EditorM σ _).run.run e = (.ok o, e')) :
    (o.enterInsert = true → o.col ≤ e'.buffer.lineLength e'.buffer.current) ∧
      (o.enterInsert = false → Unbroken e.buffer.lines → e.On col → e'.On o.col) := by
  obtain ⟨d, hd, rfl⟩ := EditorM.onCurrent_cases hrun
  have hbuffer : ({ e.setBuffer d.buffer with registers := d.registers } : Editor σ).buffer =
      d.buffer := buffer_setBuffer hf.current_lt d.buffer
  have hdesk : (⟨e.buffer, e.registers⟩ : Desk).buffer.Fits := hf.buffer
  obtain ⟨hinserts, hstands⟩ := Normal.run_lands hc hdesk hd
  unfold Editor.On
  rw [hbuffer]
  exact ⟨hinserts, hstands⟩

/-- A single step that fails leaves the cursor on its line, and the line as it is. -/
theorem onCurrent_failure_keepsPlace {c : NormalCommand} {col : Nat} {err : EditorError}
    {e e' : Editor σ} (hsingle : c.IsSingle) (he : e.HasCurrent)
    (hrun : (EditorM.onCurrent (Normal.run c col) : EditorM σ _).run.run e = (.error err, e')) :
    e.KeepsPlace e' := by
  obtain ⟨d, hd, rfl⟩ := EditorM.onCurrent_cases hrun
  obtain ⟨selected, rfl⟩ := Normal.run_single_failure hsingle col _ err d hd
  have hplace : e.KeepsPlace (e.setBuffer { e.buffer with selected }) :=
    setBuffer_keepsPlace he rfl rfl
  exact ⟨hplace.lines, hplace.current, hplace.hasCurrent⟩

/-- After a command is completed, the cursor fits for insert mode, and it is on the text unless the
command strays. -/
theorem completed_step (hf : s.editor.buffers.Fits) (hg : s.Gathers) {c : NormalCommand}
    (hc : s.completed? key = some c) :
    (s.press h key).1.InsertFits ∧
      (s.editor.On s.col → ((s.press h key).1.Stands ↔ ¬ s.StraysTyping c)) := by
  obtain ⟨hleads, hpress⟩ := press_completed (h := h) hc
  unfold StraysTyping InsertFits Stands Session.buffer
  rcases hrun : (EditorM.onCurrent (Normal.run c s.col) : EditorM σ _).run.run s.editor with
    ⟨err | o, e⟩ <;> rw [hrun] at hpress <;> obtain ⟨hed, hcol, hmode⟩ := hpress <;>
    rw [hed, hcol, hmode]
  · have hplace := onCurrent_failure_keepsPlace (completed_single hg hc) hf.current_lt hrun
    refine ⟨fun hno => ?_, fun hs => ⟨?_, fun _ _ => hplace.on hs⟩⟩
    · cases hno
    · rintro - ⟨o', e', heq, -⟩
      cases heq
  · obtain ⟨hinserts, hstands⟩ := onCurrent_lands hleads hf hrun
    have hstrays : (∃ o' e', (Except.ok o, e) = ((Except.ok o' : Except EditorError _), e') ∧
        o'.enterInsert = false ∧ ¬ Unbroken s.editor.buffer.lines ∧ ¬ e'.On o'.col) ↔
        o.enterInsert = false ∧ ¬ Unbroken s.editor.buffer.lines ∧ ¬ e.On o.col := by
      constructor
      · rintro ⟨o', e', heq, hrest⟩
        cases heq
        exact hrest
      · exact fun hrest => ⟨o, e, rfl, hrest⟩
    rw [hstrays]
    cases ho : o.enterInsert with
    | true => exact ⟨fun _ => hinserts ho, by simp⟩
    | false =>
      refine ⟨fun hno => ?_, fun hs => ?_⟩
      · cases hno
      · have hon := fun hunbroken => hstands ho hunbroken hs
        constructor
        · rintro hstand ⟨-, -, hoff⟩
          exact hoff (hstand (by decide))
        · intro hnot _
          by_contra hoff
          exact hnot ⟨rfl, fun hunbroken => hoff (hon hunbroken), hoff⟩

/-- After a command is entered, the cursor is on the text unless the command strays. -/
theorem entered_step (hf : s.editor.buffers.Fits) {c : ExCommand} (hc : s.entered? key = some c) :
    (s.press h key).1.InsertFits ∧ ((s.press h key).1.Stands ↔ ¬ s.StraysRunning h c) := by
  obtain ⟨hmode, hpress⟩ := press_run (h := h) hc
  have he : s.editor.HasCurrent := hf.current_lt
  unfold StraysRunning InsertFits Stands
  rw [hmode]
  refine ⟨fun hno => absurd hno (by decide), ?_⟩
  rcases hrun : (Ex.run h c s.col).run.run s.editor with ⟨err | o, e⟩ <;> rw [hrun] at hpress <;>
    obtain ⟨hed, hcol⟩ := hpress <;> rw [hed, hcol]
  · simp
  · rw [Ex.run_eq_base h c s.col s.editor he] at hrun
    have hplain := c.base_isPlain s.editor.buffer
    have hbuffer := buffer_setBuffer he (c.approach s.editor.buffer)
    unfold Session.buffer
    cases hrule : (c.base s.editor.buffer).columnRule with
    | home =>
      have hfits : (s.editor.setBuffer (c.approach s.editor.buffer)).buffers.Fits :=
        (Ex.approach_quiet c s.editor).fits hf
      have hhome := Ex.run_home hplain hfits hrule hrun
      simp [hhome]
    | keep =>
      obtain ⟨hcol', hplace⟩ := Ex.run_stays hrule (he.setBuffer _) o e hrun
      rw [hcol', hplace.on_iff]
      unfold Editor.On
      rw [hbuffer]
      simp
    | keys => simp

theorem completed?_of_mode (hmode : s.mode ≠ .normal) : s.completed? key = none := if_neg hmode

theorem entered?_of_mode (hmode : s.mode ≠ .commandLine) : s.entered? key = none :=
  if_neg fun hentered => hmode hentered.1

theorem strays_iff_typing (hmode : s.mode = .normal) :
    s.Strays h key ↔ ∃ c, s.completed? key = some c ∧ s.StraysTyping c := by
  unfold Strays
  rw [entered?_of_mode (by rw [hmode]; decide)]
  simp

theorem strays_iff_running (hmode : s.mode = .commandLine) :
    s.Strays h key ↔ ∃ c, s.entered? key = some c ∧ s.StraysRunning h c := by
  unfold Strays
  rw [completed?_of_mode (by rw [hmode]; decide)]
  simp

theorem not_strays_inserting (hmode : s.mode = .insert) : ¬ s.Strays h key := by
  unfold Strays
  rw [completed?_of_mode (by rw [hmode]; decide), entered?_of_mode (by rw [hmode]; decide)]
  simp

/-- A key that does not carry out a command leaves the cursor where it is. -/
theorem unmoved_step (key : Key) (hmode : s.mode ≠ .insert)
    (hmoved : s.editor.KeepsPlace (s.press h key).1.editor ∧ (s.press h key).1.col = s.col ∧
      (s.press h key).1.mode ≠ .insert) :
    (s.press h key).1.InsertFits ∧ (s.Stands → (s.press h key).1.Stands) := by
  obtain ⟨hplace, hcol, hmode'⟩ := hmoved
  refine ⟨fun hno => absurd hno hmode', fun hs _ => ?_⟩
  rw [hcol]
  exact hplace.on (hs hmode)

/-- In insert mode the cursor fits after every key if it did before. On the text it stays unless the
key strays. -/
theorem press_step (key : Key) (hf : s.editor.buffers.Fits) (hg : s.Gathers)
    (hi : s.InsertFits) :
    (s.press h key).1.InsertFits ∧
      (s.Stands → ((s.press h key).1.Stands ↔ ¬ s.Strays h key)) := by
  have he : s.editor.HasCurrent := hf.current_lt
  cases hmode : s.mode with
  | normal =>
    rw [strays_iff_typing hmode]
    have hother : s.mode ≠ .insert := by rw [hmode]; decide
    cases hc : s.completed? key with
    | none =>
      obtain ⟨hinsert, hstands⟩ := unmoved_step key hother (press_uncompleted (h := h) he hmode hc)
      exact ⟨hinsert, fun hs => by simp [hstands hs]⟩
    | some c =>
      obtain ⟨hinsert, hstands⟩ := completed_step (h := h) hf hg hc
      exact ⟨hinsert, fun hs => by simp [hstands (hs hother)]⟩
  | insert =>
    obtain ⟨hinsert, hstands⟩ := insertKey_fits key hf hmode (hi hmode)
    rw [press_inserting hmode]
    exact ⟨hinsert, fun _ => iff_of_true hstands (not_strays_inserting hmode)⟩
  | commandLine =>
    rw [strays_iff_running hmode]
    cases hc : s.entered? key with
    | none =>
      have hother : s.mode ≠ .insert := by rw [hmode]; decide
      obtain ⟨hed, hcol, hmode'⟩ := press_unentered (h := h) hmode hc
      obtain ⟨hinsert, hstands⟩ := unmoved_step (h := h) key hother
        ⟨by rw [hed]; exact refl s.editor, hcol, hmode'⟩
      exact ⟨hinsert, fun hs => by simp [hstands hs]⟩
    | some c =>
      obtain ⟨hinsert, hstands⟩ := entered_step (h := h) hf hc
      exact ⟨hinsert, fun _ => by simp [hstands]⟩

/-- A key that strays leads to normal mode. -/
theorem Strays.mode (hst : s.Strays h key) : (s.press h key).1.mode = .normal := by
  rcases hst with ⟨c, hc, hstrays⟩ | ⟨c, hc, -⟩
  · obtain ⟨-, hpress⟩ := press_completed (h := h) hc
    obtain ⟨o, e, hrun, ho, -⟩ := hstrays
    rw [hrun] at hpress
    rw [hpress.2.2, ho]
    rfl
  · exact (press_run (h := h) hc).1

theorem press_columnFits_iff (hf : s.editor.buffers.Fits) (hg : s.Gathers) (hi : s.InsertFits)
    (hs : s.Stands) : (s.press h key).1.ColumnFits ↔ ¬ s.Strays h key := by
  obtain ⟨hinsert, hstands⟩ := press_step (h := h) key hf hg hi
  have hcur : (s.press h key).1.buffer.current < (s.press h key).1.buffer.lines.length :=
    (press_fits hf key).buffer.current_lt
  constructor
  · intro hfits hst
    refine (hstands hs).mp (fun _ => ⟨hcur, ?_⟩) hst
    exact hfits.1 hst.mode
  · intro hnot
    refine ⟨fun hmode => ?_, hinsert⟩
    exact ((hstands hs).mpr hnot (by rw [hmode]; decide)).2

/-! ## Runs of keys -/

theorem begin_column {o : Options} {world : σ} {file : Option Path} {s : Session σ}
    (hs : begin h o world file = .ok s) : s.mode = .normal ∧ s.col = 0 ∧ s.pending = [] := by
  obtain ⟨b, world, -, rfl⟩ := begin_eq_ofBuffer hs
  exact ⟨rfl, rfl, rfl⟩

section After

variable {s : Session σ} (hf : s.editor.buffers.Fits) (hg : s.Gathers) (hi : s.InsertFits)

include hg in
theorem after_gathers (keys : List Key) : (s.after h keys).Gathers :=
  after_induction (P := Gathers) hg fun _ ht key _ => ht.press h key

include hf hg hi in
theorem after_insertFits (keys : List Key) : (s.after h keys).InsertFits := by
  induction keys using List.reverseRecOn with
  | nil => exact hi
  | append_singleton keys key ih =>
    rw [after_concat]
    exact (press_step _ (after_fits hf keys) (after_gathers hg keys) ih).1

include hf hg hi in
theorem after_columnFits_iff (hs : s.Stands) (keys : List Key) :
    (∀ pre, pre <+: keys → (s.after h pre).ColumnFits) ↔
      ∀ pre key, pre ++ [key] <+: keys → ¬ (s.after h pre).Strays h key := by
  have hcolumn : s.ColumnFits :=
    ⟨fun hmode => (hs (by rw [show s.mode = .normal from hmode]; decide)).2, hi⟩
  -- The step speaks of the cursor outside of insert mode, so this is what goes through the keys.
  refine after_all_iff (P := Stands) (R := ColumnFits) (Q := fun t key => t.Strays h key) hs hcolumn
    (fun pre key hstands => ?_) keys
  have hf' := after_fits (h := h) hf pre
  have hg' := after_gathers (h := h) hg pre
  have hi' := after_insertFits (h := h) hf hg hi pre
  rw [after_concat]
  exact ⟨(press_step key hf' hg' hi').2 hstands, press_columnFits_iff hf' hg' hi' hstands⟩

end After

/-- In insert mode the column is never past the end of the line. In normal mode the cursor is on a
character, or at the start of its line, as long as no key strays, and as soon as one does, it is
not. -/
theorem column_fits_iff (h : Host σ) (o : Options) (world : σ) (file : Option Path)
    (s₀ : Session σ) (hs : begin h o world file = .ok s₀) (keys : List Key) :
    ((s₀.after h keys).mode = .insert →
      (s₀.after h keys).col ≤
        (s₀.after h keys).buffer.lineLength (s₀.after h keys).buffer.current) ∧
    ((∀ pre, pre <+: keys → (s₀.after h pre).ColumnFits) ↔
      ∀ pre key, pre ++ [key] <+: keys → ¬ (s₀.after h pre).Strays h key) := by
  have hf := begin_fits hs
  obtain ⟨hmode, hcol, hpending⟩ := begin_column hs
  have hg : s₀.Gathers := gathers_of_nil hpending
  have hinsert : s₀.InsertFits := fun hno => by
    rw [hmode] at hno
    cases hno
  have hstands : s₀.Stands := fun _ => by
    rw [hcol]
    exact Buffer.onText_zero hf.buffer.current_lt
  exact ⟨after_insertFits hf hg hinsert keys, after_columnFits_iff hf hg hinsert hstands keys⟩

/-- No key strays while a word is passed and a character is put behind the end of the line. -/
theorem column_fits_iff_of_word :
    let h := Memory.host "/p".toList
    ∃ s₀, begin h {} { files := [("/p/f".toList, "ab c\n".toList)] } (some "f".toList) = .ok s₀ ∧
      let keys := "wAx".toList.map Key.ofChar
      (s₀.after h keys).col = 5 ∧
      (s₀.after h keys).col ≤
        (s₀.after h keys).buffer.lineLength (s₀.after h keys).buffer.current ∧
      ∀ pre key, pre ++ [key] <+: keys → ¬ (s₀.after h pre).Strays h key := by
  have hrun : let h := Memory.host "/p".toList
      ∃ s₀, begin h {} { files := [("/p/f".toList, "ab c\n".toList)] } (some "f".toList) = .ok s₀ ∧
        let keys := "wAx".toList.map Key.ofChar
        (s₀.after h keys).mode = .insert ∧ (s₀.after h keys).col = 5 ∧
          ∀ pre ∈ keys.inits, (s₀.after h pre).ColumnFits :=
    ⟨_, rfl, by decide +kernel, by decide +kernel, by decide +kernel⟩
  obtain ⟨s₀, hs, hmode, hcol, hfits⟩ := hrun
  obtain ⟨hinsert, hiff⟩ := column_fits_iff _ _ _ _ s₀ hs ("wAx".toList.map Key.ofChar)
  have hprefixes := fun pre hpre => hfits pre ((List.mem_inits _ _).mpr hpre)
  exact ⟨s₀, hs, hcol, hinsert hmode, hiff.mp hprefixes⟩

/-- Keys that would start inserting at the end of the line leave the cursor there in normal mode. -/
theorem normal_keys_leave_text :
    let h := Memory.host "/p".toList
    ∃ s₀, begin h {} { files := [("/p/f".toList, "ab\n".toList)] } (some "f".toList) = .ok s₀ ∧
      let s := s₀.after h (":norm A\r".toList.map Key.ofChar)
      s.mode = .normal ∧ s.col = 2 ∧ s.buffer.lineLength s.buffer.current = 2 ∧ ¬ s.ColumnFits :=
  ⟨_, rfl, by decide +kernel, by decide +kernel, by decide +kernel, by decide +kernel⟩

end ModalEditor.Session
