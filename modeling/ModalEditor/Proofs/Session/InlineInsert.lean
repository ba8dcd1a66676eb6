import ModalEditor.Host.Memory
import ModalEditor.Proofs.Normal.Deletion
import ModalEditor.Proofs.Session.Column
import ModalEditor.Proofs.Session.Valid

/-!
# Text given with the key is text that is typed

In normal mode a key that starts inserting can be given its text at once. The text goes in as a whole
and the cursor ends on its last character. A user types the same key, then the characters one by one,
and leaves insert mode with Escape. Both ways end alike (`Session.inline_insert_is_typing`).

The key leads to the same position either way (`Normal.insertPosition`). From there a text that is
inserted in two parts is inserted as a whole (`Buffer.insertText_append`), so the characters in a row
are one text (`Session.after_chars`), and Escape goes back by one column, which is still a column of the
line.
-/

namespace ModalEditor

/-! ## The keys -/

namespace NormalCommand

variable {key : Char} {kind : InsertKind}

/-- A key that starts inserting is the start of no other command. -/
theorem readAction_insert (hkey : (key, kind) ∈ insertKeys) (count : Option Nat)
    (register : Option Char) (t : Text) :
    readAction count register (key :: t) =
      .complete (.act count register (.insert kind (if t.isEmpty then none else some t))) := by
  simp only [insertKeys, List.mem_cons, List.not_mem_nil, or_false, Prod.mk.injEq] at hkey
  rcases hkey with ⟨rfl, rfl⟩ | ⟨rfl, rfl⟩ | ⟨rfl, rfl⟩ | ⟨rfl, rfl⟩ | ⟨rfl, rfl⟩ | ⟨rfl, rfl⟩ <;> rfl

/-- What stands behind a key that starts inserting is its text. -/
theorem read_insert (hkey : (key, kind) ∈ insertKeys) (t : Text) :
    read (key :: t) =
      .complete (.act none none (.insert kind (if t.isEmpty then none else some t))) := by
  have hother : isDigit key = false ∧ key ∉ ['m', '\'', '"', 'G'] := by
    revert hkey
    simp only [insertKeys, List.mem_cons, List.not_mem_nil, or_false, Prod.mk.injEq]
    rintro (⟨rfl, -⟩ | ⟨rfl, -⟩ | ⟨rfl, -⟩ | ⟨rfl, -⟩ | ⟨rfl, -⟩ | ⟨rfl, -⟩) <;> decide
  simp only [List.mem_cons, List.not_mem_nil, or_false, not_or] at hother
  obtain ⟨hdigit, hm, hjump, hregister, hG⟩ := hother
  have hsplit := splitCount_of_ends (endsCount_cons hdigit t)
  have hcounted : ∀ again, readCounted again none none (key :: t) = readAction none none (key :: t) := by
    intro again
    rw [readCounted, hsplit]
    dsimp only
    split
    · rename_i hbody
      exact absurd (List.cons.inj hbody).1 hG
    · rfl
  rw [read, readFrom_of_split _ (List.cons_ne_nil key t) (by simpa using hm) (by simpa using hjump)
    hsplit (by simpa using hregister) fun h => absurd rfl h, hcounted, readAction_insert hkey]

theorem ofChar_insertKey (hkey : (key, kind) ∈ insertKeys) : Key.ofChar key = .char key := by
  simp only [insertKeys, List.mem_cons, List.not_mem_nil, or_false, Prod.mk.injEq] at hkey
  rcases hkey with ⟨rfl, -⟩ | ⟨rfl, -⟩ | ⟨rfl, -⟩ | ⟨rfl, -⟩ | ⟨rfl, -⟩ | ⟨rfl, -⟩ <;> rfl

end NormalCommand

/-! ## Text in two parts -/

namespace Buffer

theorem setLine_setLine (b : Buffer) (n : Nat) (t t' : Text) :
    (b.setLine n t).setLine n t' = b.setLine n t' := by
  simp only [setLine, List.set_set]

/-- A text is inserted as well in two parts, the second one where the first one ends. -/
theorem insertText_append {b : Buffer} {p : Position} (hp : p.line < b.lines.length)
    (t₁ t₂ : Text) :
    b.insertText p (t₁ ++ t₂) =
      (b.insertText p t₁).1.insertText ⟨p.line, (b.insertText p t₁).2⟩ t₂ := by
  unfold insertText
  dsimp only
  rw [line_setLine hp, setLine_setLine]
  generalize b.line p.line = line
  generalize hcol : min p.col line.length = col
  have hfront : (line.take col ++ t₁).length = col + t₁.length := by
    rw [List.length_append, List.length_take]
    omega
  have hmin : min (col + t₁.length) (line.take col ++ t₁ ++ line.drop col).length =
      col + t₁.length := by
    rw [List.length_append, hfront]
    omega
  rw [hmin, List.take_left' hfront, List.drop_left' hfront, List.length_append, Nat.add_assoc,
    ← List.append_assoc (line.take col) t₁ t₂]

end Buffer

/-! ## Inserting -/

namespace Normal

open Edit

variable {d u : Desk} {kind : InsertKind} {col : Nat} {p : Position}

/-- Inserting starts where the key leads. -/
theorem act_insert_none (hp : (insertPosition kind col).run.run d = (.ok p, u)) :
    (act (.insert kind none) none none col).run.run d =
      (.ok { col := p.col, enterInsert := true }, u) := by
  change (insert kind none col).run.run d = _
  rw [insert, run_bind, hp]
  rfl

/-- A text that is given goes in where the key leads, and the cursor goes back from its end by one. -/
theorem act_insert_some (hp : (insertPosition kind col).run.run d = (.ok p, u)) {t : Text}
    (ht : '\n' ∉ t) :
    (act (.insert kind (some t)) none none col).run.run d =
      (.ok { col := (u.buffer.insertText p t).2 - 1 },
        { u with buffer := (u.buffer.insertText p t).1 }) := by
  change (insert kind (some t) col).run.run d = _
  rw [insert, run_bind, hp]
  dsimp only
  rw [if_neg ht]
  rfl

end Normal

/-! ## Typing -/

namespace Session

variable {σ : Type} {h : Host σ} {s : Session σ}

theorem edited_edited (s : Session σ) (b b' : Buffer) (col col' : Nat) :
    (s.edited b col).edited b' col' = s.edited b' col' := by
  unfold edited
  dsimp only
  rw [Editor.setBuffer_setBuffer]

theorem insertAtCursor_append (hs : s.editor.HasCurrent)
    (hline : s.buffer.current < s.buffer.lines.length) (t₁ t₂ : Text) :
    s.insertAtCursor (t₁ ++ t₂) = (s.insertAtCursor t₁).insertAtCursor t₂ := by
  have hbuffer : (s.insertAtCursor t₁).buffer = (s.buffer.insertText s.cursor t₁).1 :=
    Editor.buffer_setBuffer hs _
  have hcursor : (s.insertAtCursor t₁).cursor =
      ⟨s.cursor.line, (s.buffer.insertText s.cursor t₁).2⟩ := by
    rw [cursor, hbuffer]
    rfl
  calc s.insertAtCursor (t₁ ++ t₂)
      = s.edited (s.buffer.insertText s.cursor (t₁ ++ t₂)).1
          (s.buffer.insertText s.cursor (t₁ ++ t₂)).2 := rfl
    _ = (s.insertAtCursor t₁).edited
          ((s.insertAtCursor t₁).buffer.insertText (s.insertAtCursor t₁).cursor t₂).1
          ((s.insertAtCursor t₁).buffer.insertText (s.insertAtCursor t₁).cursor t₂).2 := by
      rw [Buffer.insertText_append hline, hcursor, hbuffer]
      exact (edited_edited s _ _ _ _).symm

/-- Characters that are typed in a row are one text. -/
theorem after_chars (hmode : s.mode = .insert) (hs : s.editor.HasCurrent)
    (hline : s.buffer.current < s.buffer.lines.length) {t : Text} (ht : t ≠ []) :
    s.after h (t.map Key.char) = s.insertAtCursor t := by
  induction t generalizing s with
  | nil => exact absurd rfl ht
  | cons c t ih =>
    have hpress : (s.press h (.char c)).1 = s.insertAtCursor [c] := press_inserting hmode
    have hfirst : s.after h ((c :: t).map Key.char) =
        (s.insertAtCursor [c]).after h (t.map Key.char) := by
      rw [← hpress]
      rfl
    rw [hfirst]
    by_cases hrest : t = []
    · subst hrest
      rfl
    · have hbuffer : (s.insertAtCursor [c]).buffer = (s.buffer.insertText s.cursor [c]).1 :=
        Editor.buffer_setBuffer hs _
      have hcurrent : (s.insertAtCursor [c]).buffer.current <
          (s.insertAtCursor [c]).buffer.lines.length := by
        rw [hbuffer]
        exact (Buffer.length_setLine s.buffer _ _).symm ▸ hline
      rw [ih (s := s.insertAtCursor [c]) hmode (hs.setBuffer _) hcurrent hrest]
      exact (insertAtCursor_append hs hline [c] t).symm

/-- The session is in insert mode at a position of a desk. -/
structure Inserts (s : Session σ) (u : Desk) (p : Position) : Prop where
  /-- Keys are text. -/
  mode : s.mode = .insert
  /-- There is a current buffer. -/
  hasCurrent : s.editor.HasCurrent
  /-- It is the one of the desk. -/
  buffer : s.buffer = u.buffer
  /-- The registers are those of the desk. -/
  registers : s.editor.registers = u.registers
  /-- The cursor is at the position. -/
  cursor : s.cursor = p

/-- A key that starts inserting, in a session that waits for a command. -/
theorem press_insert {key : Char} {kind : InsertKind} (hmode : s.mode = .normal)
    (hpending : s.pending = []) (hs : s.editor.HasCurrent) (hb : s.buffer.Fits)
    (hkey : (key, kind) ∈ NormalCommand.insertKeys) {p : Position} {u : Desk}
    (hp : (Normal.insertPosition kind s.col).run.run ⟨s.buffer, s.editor.registers⟩ = (.ok p, u)) :
    (s.press h (.char key)).1.Inserts u p := by
  have hcompleted : s.completed? (.char key) = some (.act none none (.insert kind none)) := by
    have hcolon : key ≠ ':' := by
      rintro rfl
      simp [NormalCommand.insertKeys] at hkey
    have hread : NormalCommand.read (s.pending ++ [key]) =
        .complete (.act none none (.insert kind none)) := by
      rw [hpending]
      exact NormalCommand.read_insert hkey []
    rw [completed?, if_pos hmode]
    change s.completedBy? key = _
    rw [completedBy?, if_neg (by simp [hcolon]), hread]
  have hrun := (press_completed (h := h) hcompleted).2
  have hact : (Normal.run (.act none none (.insert kind none)) s.col).run.run
      ⟨s.editor.buffer, s.editor.registers⟩ = (.ok { col := p.col, enterInsert := true }, u) :=
    Normal.act_insert_none hp
  rw [EditorM.run_onCurrent, hact] at hrun
  obtain ⟨heditor, hcol, hmode'⟩ := hrun
  have hbuffer : (s.press h (.char key)).1.buffer = u.buffer := by
    rw [buffer, heditor]
    exact Editor.buffer_setBuffer hs u.buffer
  exact {
    mode := hmode'
    hasCurrent := heditor ▸ hs.setBuffer u.buffer
    buffer := hbuffer
    registers := by rw [heditor]
    cursor := by rw [cursor, hbuffer, hcol, ← (Normal.insertPosition_ok hb hp).1] }

/-- A text that is typed and ended by Escape: the cursor is on its last character. -/
theorem Inserts.after_text {u : Desk} {p : Position} (hs : s.Inserts u p) (hb : u.buffer.Fits)
    {t : Text} (ht : t ≠ []) :
    let typed := s.after h (t.map Key.char ++ [.escape])
    typed.buffer = (u.buffer.insertText p t).1 ∧ typed.editor.registers = u.registers ∧
      typed.col = (u.buffer.insertText p t).2 - 1 ∧ typed.mode = .normal := by
  have hfits : s.buffer.Fits := hs.buffer ▸ hb
  have hbuffer : (s.insertAtCursor t).buffer = (s.buffer.insertText s.cursor t).1 :=
    Editor.buffer_setBuffer hs.hasCurrent _
  have hcol : (s.buffer.insertText s.cursor t).2 - 1 =
      (s.insertAtCursor t).buffer.clampColumn (s.insertAtCursor t).buffer.current
        ((s.buffer.insertText s.cursor t).2 - 1) := by
    have hle : (s.buffer.insertText s.cursor t).2 ≤
        (s.buffer.insertText s.cursor t).1.lineLength s.buffer.current :=
      insertText_col_le hfits s.col t
    have hcurrent : (s.buffer.insertText s.cursor t).1.current = s.buffer.current := rfl
    rw [hbuffer, hcurrent, Buffer.clampColumn]
    omega
  have htyped : s.after h (t.map Key.char ++ [.escape]) =
      (s.insertAtCursor t).insertKey .escape := by
    have hmode : (s.insertAtCursor t).mode = .insert := hs.mode
    calc s.after h (t.map Key.char ++ [.escape])
        = (s.after h (t.map Key.char)).after h [.escape] := after_append h s _ _
      _ = ((s.insertAtCursor t).press h .escape).1 := by
        rw [after_chars hs.mode hs.hasCurrent hfits.current_lt ht]
        rfl
      _ = (s.insertAtCursor t).insertKey .escape := by
        unfold press
        rw [hmode]
  intro typed
  rw [show typed = (s.insertAtCursor t).insertKey .escape from htyped, ← hs.buffer, ← hs.cursor]
  exact ⟨hbuffer, hs.registers, hcol.symm, rfl⟩

/-- A text that is given together with the key that starts inserting is put in as if it had been typed
character by character and ended by Escape: the buffer with its lines, marks and cursor line, the
registers and the column are the same. -/
theorem inline_insert_is_typing (h : Host σ) (s : Session σ) (hmode : s.mode = .normal)
    (hpending : s.pending = []) (hs : s.editor.HasCurrent) (hb : s.buffer.Fits) {key : Char}
    (hkey : key ∈ ['i', 'a', 'A', 'I', 'o', 'O']) {t : Text} (ht : t ≠ [])
    (hchars : ∀ c ∈ t, Key.ofChar c = .char c) :
    let typed := s.after h ((key :: t).map Key.ofChar ++ [.escape])
    ∃ o d, (Normal.runKeys (key :: t) s.col).run.run ⟨s.buffer, s.editor.registers⟩ = (.ok o, d) ∧
      typed.buffer = d.buffer ∧ typed.editor.registers = d.registers ∧ typed.col = o.col ∧
      typed.mode = .normal ∧ o.enterInsert = false := by
  have hkeys : NormalCommand.insertKeys.map Prod.fst = ['i', 'a', 'A', 'I', 'o', 'O'] := rfl
  obtain ⟨⟨key, kind⟩, hkind, rfl⟩ := List.mem_map.mp (hkeys ▸ hkey)
  obtain ⟨p, u, hp⟩ := Normal.insertPosition_succeeds kind s.col ⟨s.buffer, s.editor.registers⟩
  have hbreak : '\n' ∉ t := fun hmem => Key.ofChar_ne_break '\n' (hchars _ hmem)
  have hrun : (Normal.runKeys (key :: t) s.col).run.run ⟨s.buffer, s.editor.registers⟩ =
      (.ok { col := (u.buffer.insertText p t).2 - 1 },
        { u with buffer := (u.buffer.insertText p t).1 }) := by
    rw [Normal.runKeys, NormalCommand.read_insert hkind, if_neg (by simpa using ht)]
    exact Normal.act_insert_some hp hbreak
  have hfits : u.buffer.Fits :=
    ((Normal.insertPosition_evolves kind s.col _).of_run hp).buffer.fits hb
  have hmap : (key :: t).map Key.ofChar ++ [.escape] =
      .char key :: (t.map Key.char ++ [.escape]) := by
    rw [List.map_cons, NormalCommand.ofChar_insertKey hkind, List.map_congr_left hchars]
    rfl
  have hstart := press_insert (h := h) hmode hpending hs hb hkind hp
  obtain ⟨hbuffer, hregisters, hcol, hnormal⟩ := hstart.after_text (h := h) hfits ht
  dsimp only
  rw [hmap]
  exact ⟨_, _, hrun, hbuffer, hregisters, hcol, hnormal, rfl⟩

/-- Behind a character of two bytes two more characters are put in, the first one of three bytes. -/
theorem inline_insert_is_typing_of_wide_text :
    let s : Session Memory := ofBuffer { lines := [['é', 'b']] } {} {}
    let typed := s.after (Memory.host []) [.char 'a', .char '€', .char 'x', .escape]
    ∃ o d, (Normal.runKeys ['a', '€', 'x'] s.col).run.run ⟨s.buffer, s.editor.registers⟩ =
        (.ok o, d) ∧
      d.buffer.lines = [['é', '€', 'x', 'b']] ∧ o.col = 2 ∧ typed.buffer = d.buffer ∧
      typed.col = o.col := by
  intro s typed
  have hfits : s.buffer.Fits := by
    refine ⟨by decide, by decide, fun m hm => ?_⟩
    cases hm
  have hkey : 'a' ∈ ['i', 'a', 'A', 'I', 'o', 'O'] := by simp
  have hchars : ∀ c ∈ ['€', 'x'], Key.ofChar c = .char c := by simp [Key.ofChar]
  obtain ⟨o, d, hrun, hbuffer, -, hcol, -, -⟩ := inline_insert_is_typing (Memory.host []) s rfl rfl
    Nat.zero_lt_one hfits hkey (by decide) hchars
  have hlines : d.buffer.lines = [['é', '€', 'x', 'b']] :=
    (congrArg (fun r => r.2.buffer.lines) hrun).symm
  have ho : (Except.ok o : Except EditorError NormalOutcome) = .ok { col := 2 } :=
    (congrArg Prod.fst hrun).symm
  cases ho
  exact ⟨_, d, hrun, hlines, rfl, hbuffer, hcol⟩

end Session
end ModalEditor
