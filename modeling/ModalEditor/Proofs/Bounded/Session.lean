import ModalEditor.Proofs.Bounded.Ex
import ModalEditor.Proofs.Session.Evolution

/-!
# Bounded sessions

A session takes keys as bounded computations: in normal mode the pending keys are read and carried
out, in insert mode the current line is edited, on the command line Enter reads a command and carries
it out. A session is in bounds if its editor is and its column is one that something held in memory
has (`Session.InBounds`); every key leaves it so.

So no key finds a place that is not there, cuts a text inside a character, counts below zero or past
the words, or makes a span that runs backwards (`answer_unless_memory`). All that can end the session
is that the memory is too small for a text.
-/

namespace ModalEditor

/-- The editor is in bounds, and the column is one that something held in memory has. -/
structure Session.InBounds {σ : Type} (s : Session σ) : Prop where
  /-- The editor is in bounds. -/
  editor : s.editor.InBounds
  /-- The column is small. -/
  col_lt : s.col < memoryLimit

namespace Bounded.Session

open ModalEditor.Session (Answer narrate silent)

variable {σ : Type}

/-! ## Keys in normal mode -/

/-- Carries out a command of normal mode. -/
def runNormal (s : Session σ) (c : NormalCommand) : Checked (Session σ × Answer) := do
  let (result, editor) ← (onCurrent (run c s.col) : Guarded (Editor σ) _).run.run s.editor
  let s := { s with editor }
  match result with
  | .ok outcome =>
    return ({ s with
      col := outcome.col, mode := if outcome.enterInsert then .insert else s.mode },
      .ok (outcome.message, false))
  | .error e => return (s, narrate e)

/-- Adds a character to the pending keys and carries out the command they are, if any. -/
def typeNormal (s : Session σ) (c : Char) : Checked (Session σ × Answer) := do
  if c = ':' && s.pending.isEmpty then
    return ({ s with mode := .commandLine, commandLine := {} }, silent)
  else
    let keys := s.pending ++ [c]
    match ← readKeys keys with
    | .incomplete => return ({ s with pending := keys }, silent)
    | .invalid => return ({ s with pending := [] }, narrate (.unsupportedCommand keys))
    | .complete command => runNormal { s with pending := [] } command

/-- Escape in normal mode. -/
def cancelPending (s : Session σ) : Checked (Session σ) := do
  match ModalEditor.Session.selectedIn? s.pending with
  | some name =>
    let slot ← item s.editor.buffers.slots s.editor.buffers.current
    let buffers ← setCurrent s.editor.buffers (slot.buffer.select name)
    return { s with editor := { s.editor with buffers }, pending := [] }
  | none => return { s with pending := [] }

/-- A key in normal mode. -/
def normalKey (s : Session σ) : Key → Checked (Session σ × Answer)
  | .char c => typeNormal s c
  | .escape => do return (← cancelPending s, silent)
  | .backspace => if s.pending.isEmpty then typeNormal s 'h' else return (s, silent)
  | .enter => if s.pending.isEmpty then typeNormal s 'j' else return (s, silent)
  | .tab => return (s, silent)

/-! ## Keys in insert mode -/

/-- The current buffer, which is held in memory. -/
def current (s : Session σ) : Checked Buffer := do
  let slot ← item s.editor.buffers.slots s.editor.buffers.current
  held (extent slot.buffer.lines)
  return slot.buffer

/-- The session with its current buffer changed and the cursor at a column. -/
def edited (s : Session σ) (b : Buffer) (col : Nat) : Checked (Session σ) := do
  let buffers ← setCurrent s.editor.buffers b
  return { s with editor := { s.editor with buffers }, col }

/-- Inserts text at the cursor. -/
def insertAtCursor (s : Session σ) (t : Text) : Checked (Session σ) := do
  let b ← current s
  let (b, col) ← insertText b ⟨b.current, s.col⟩ t
  edited s b col

/-- A key in insert mode. -/
def insertKey (s : Session σ) : Key → Checked (Session σ)
  | .char c => insertAtCursor s [c]
  | .tab => insertAtCursor s (List.replicate s.editor.options.softTabStop ' ')
  | .enter => do
    let b ← current s
    edited s (← splitLine b ⟨b.current, s.col⟩) 0
  | .backspace => do
    let b ← current s
    match ← backspace b ⟨b.current, s.col⟩ with
    | (b, some p) => edited s b p.col
    | (b, none) => edited s b s.col
  | .escape => do
    let b ← current s
    return { s with mode := .normal, col := b.clampColumn b.current (s.col - 1) }

/-! ## Keys on the command line -/

/-- Reads a command line and carries it out. -/
def runLine (h : Host σ) (s : Session σ) (line : Text) : Checked (Session σ × Answer) := do
  let command : Guarded (Editor σ) ExOutcome := do
    Ex.run h (← raise (readLine line)) s.col
  let (result, editor) ← command.run.run s.editor
  let s := { s with editor }
  match result with
  | .ok outcome => return ({ s with col := outcome.col }, .ok (outcome.message, outcome.quit))
  | .error e => return (s, narrate e)

/-- A key on the command line. -/
def commandKey (h : Host σ) (s : Session σ) : Key → Checked (Session σ × Answer)
  | .enter =>
    let line := s.commandLine
    let s := { s with mode := .normal, commandLine := {} }
    if line.isEmpty then return (s, silent) else runLine h s line.input
  | key => return s.commandKey h key

/-! ## All keys -/

/-- A key, as the mode has it. -/
def keyByMode (h : Host σ) (s : Session σ) (key : Key) : Checked (Session σ × Answer) :=
  match s.mode with
  | .normal => normalKey s key
  | .insert => do return (← insertKey s key, silent)
  | .commandLine => commandKey h s key

/-- Takes a key. -/
def press (h : Host σ) (s : Session σ) (key : Key) :
    Checked (Session σ × Except IoFailure Step) := do
  let (next, answer) ← keyByMode h s key
  return (next, answer.map fun (said, quit) =>
    { output := said.getD [], modeChanged := next.mode ≠ s.mode, quit })

/-- Takes some keys. -/
def after (h : Host σ) (s : Session σ) : List Key → Checked (Session σ)
  | [] => return s
  | key :: keys => do
    let (s, _) ← press h s key
    after h s keys

/-- Begins a session, on an empty buffer or on the file at a typed path. -/
def begin (h : Host σ) (o : Options) (world : σ) : Option Path → Tried (Session σ)
  | none => return .new o world
  | some typed => do
    let path ← known (h.project.resolve typed)
    let (result, world) := h.load path world
    match result with
    | .ok (some text) =>
      let b ← ofText (some path) text
      return .ofBuffer b o world
    | .ok none => return .ofBuffer (.newFile path) o world
    | .error failure => throw (.io failure)

/-- Begins a session, takes some keys and then one more. Gives what comes of that one. -/
def answer (h : Host σ) (o : Options) (world : σ) (file : Option Path) (keys : List Key)
    (key : Key) : Tried (Session σ × Except IoFailure Step) := do
  let s ← begin h o world file
  let s ← after h s keys
  press h s key

/-! ## They go as the sessions of the editor -/

variable {s : Session σ} {h : Host σ}

theorem runNormal_gives (hs : s.InBounds) (c : NormalCommand) :
    Gives (runNormal s c) (s.runNormal c) (s.runNormal c).1.InBounds := by
  have hrun := onCurrent_mirrors hs.editor (run_mirrors c (inBounds_desk hs.editor) hs.col_lt)
  unfold runNormal ModalEditor.Session.runNormal
  refine Gives.bind hrun fun ⟨hi, hcol⟩ => ?_
  generalize (EditorM.onCurrent (ModalEditor.Normal.run c s.col) : EditorM σ _).run.run s.editor = r
    at hi hcol ⊢
  obtain ⟨e | outcome, t⟩ := r
  · exact .inl ⟨rfl, hi, hs.col_lt⟩
  · exact .inl ⟨rfl, hi, hcol outcome t rfl⟩

theorem typeNormal_gives (hs : s.InBounds) (c : Char) :
    Gives (typeNormal s c) (s.typeNormal c) (s.typeNormal c).1.InBounds := by
  unfold typeNormal ModalEditor.Session.typeNormal
  split
  · exact .inl ⟨rfl, hs.editor, hs.col_lt⟩
  dsimp only
  rw [readKeys_eq, ok_bind]
  cases NormalCommand.read (s.pending ++ [c]) with
  | incomplete => exact .inl ⟨rfl, hs.editor, hs.col_lt⟩
  | invalid => exact .inl ⟨rfl, hs.editor, hs.col_lt⟩
  | complete command =>
    have hs' : ({ s with pending := [] } : Session σ).InBounds := ⟨hs.editor, hs.col_lt⟩
    exact runNormal_gives hs' command

theorem cancelPending_gives (hs : s.InBounds) :
    Gives (cancelPending s) s.cancelPending s.cancelPending.InBounds := by
  unfold cancelPending ModalEditor.Session.cancelPending
  cases ModalEditor.Session.selectedIn? s.pending with
  | none => exact .inl ⟨rfl, hs.editor, hs.col_lt⟩
  | some name =>
    obtain ⟨slot, hitem, hslot⟩ := item_current hs.editor.fits
    have hfits := (Buffer.selected_evolves s.buffer (some name)).fits hs.editor.fits.buffer
    dsimp only
    rw [hitem, ok_bind, hslot, setCurrent_eq hs.editor.fits]
    exact .inl ⟨rfl, inBounds_setBuffer hs.editor hfits, hs.col_lt⟩

theorem normalKey_gives (hs : s.InBounds) (key : Key) :
    Gives (normalKey s key) (s.normalKey key) (s.normalKey key).1.InBounds := by
  have hidle (c : Char) :
      Gives (if s.pending.isEmpty then typeNormal s c else return (s, silent))
        (if s.pending.isEmpty then s.typeNormal c else (s, silent))
        (if s.pending.isEmpty then s.typeNormal c else (s, silent)).1.InBounds := by
    split
    · exact typeNormal_gives hs c
    · exact .inl ⟨rfl, hs⟩
  cases key with
  | char c => exact typeNormal_gives hs c
  | escape => exact (cancelPending_gives hs).bind fun hcancel => .inl ⟨rfl, hcancel⟩
  | backspace => exact hidle 'h'
  | enter => exact hidle 'j'
  | tab => exact .inl ⟨rfl, hs⟩

/-! ### Insert mode -/

theorem current_bind {α : Type} {f : Buffer → Checked α} {a : α} {Q : Prop} (hs : s.InBounds)
    (hf : s.buffer.Held → Gives (f s.buffer) a Q) : Gives (current s >>= f) a Q := by
  obtain ⟨slot, hitem, hslot⟩ := item_current hs.editor.fits
  unfold current
  rw [hitem, ok_bind, hslot, bind_assoc]
  exact Gives.held_bind hf

theorem edited_gives (hs : s.InBounds) {b : Buffer} {col : Nat} (hb : b.Fits)
    (hcol : col < memoryLimit) :
    Gives (edited s b col) (s.edited b col) (s.edited b col).InBounds := by
  unfold edited
  rw [setCurrent_eq hs.editor.fits]
  exact .inl ⟨rfl, inBounds_setBuffer hs.editor hb, hcol⟩

theorem insertAtCursor_gives (hs : s.InBounds) (t : Text) :
    Gives (insertAtCursor s t) (s.insertAtCursor t) (s.insertAtCursor t).InBounds := by
  have hfits := hs.editor.fits.buffer
  refine current_bind hs fun _ => ?_
  refine (insertText_gives hfits.current_lt t).bind fun hcol => ?_
  exact edited_gives hs ((Buffer.insertText_evolves _ _ _).fits hfits) hcol

/-- The place of the cursor after a character is taken out is one of a line that is held. -/
theorem backspace_col_lt {b : Buffer} (hheld : b.Held) {p q : Position} (hp : p.col < memoryLimit)
    (h : (b.backspace p).2 = some q) : q.col < memoryLimit := by
  unfold Buffer.backspace at h
  dsimp only at h
  split at h
  · cases h
    exact Nat.lt_of_le_of_lt (Nat.sub_le _ _) (Nat.lt_of_le_of_lt (Nat.min_le_left _ _) hp)
  split at h
  · cases h
  · cases h
    exact hheld.lineLength_lt _

theorem insertKey_gives (hs : s.InBounds) (key : Key) :
    Gives (insertKey s key) (s.insertKey key) (s.insertKey key).InBounds := by
  have hfits : s.buffer.Fits := hs.editor.fits.buffer
  have hcur : s.cursor.line < s.buffer.lines.length := hfits.current_lt
  cases key with
  | char c => exact insertAtCursor_gives hs [c]
  | tab => exact insertAtCursor_gives hs _
  | enter =>
    refine current_bind hs fun hheld => ?_
    refine (splitLine_gives hfits hheld hcur).bind fun _ => ?_
    exact edited_gives hs ((Buffer.splitLine_evolves _ _).fits hfits) memoryLimit_pos
  | backspace =>
    refine current_bind hs fun hheld => ?_
    refine (backspace_gives hfits hheld hcur).bind fun _ => ?_
    have hevolved := (s.buffer.backspace_evolves hcur).fits hfits
    have hcol := fun q => backspace_col_lt (q := q) hheld (p := s.cursor) hs.col_lt
    simp only [ModalEditor.Session.insertKey]
    generalize s.buffer.backspace s.cursor = r at hevolved hcol ⊢
    obtain ⟨b, _ | q⟩ := r
    · exact edited_gives hs hevolved hs.col_lt
    · exact edited_gives hs hevolved (hcol q rfl)
  | escape =>
    refine current_bind hs fun _ => .inl ⟨rfl, hs.editor, ?_⟩
    exact clampColumn_lt (Nat.lt_of_le_of_lt (Nat.sub_le _ _) hs.col_lt) _

/-! ### The command line -/

theorem runLine_gives (hs : s.InBounds) (line : Text) :
    Gives (runLine h s line) (s.runLine h line) (s.runLine h line).1.InBounds := by
  have hrun : Mirrors Editor.InBounds
      (do Ex.run h (← raise (readLine line)) s.col)
      (do ModalEditor.Ex.run h (← EditorM.orFail (ExCommand.readLine line)) s.col) s.editor
      fun o _ => o.col < memoryLimit :=
    .raise_bind (readLine_tries line) (EditorM.run_orFail _ _) hs.editor fun c hc =>
      Ex.run_mirrors c hc hs.col_lt hs.editor
  unfold runLine ModalEditor.Session.runLine
  dsimp only
  refine Gives.bind hrun fun ⟨hi, hcol⟩ => ?_
  generalize (do ModalEditor.Ex.run h (← EditorM.orFail (ExCommand.readLine line)) s.col :
    EditorM σ _).run.run s.editor = r at hi hcol ⊢
  obtain ⟨e | outcome, t⟩ := r
  · exact .inl ⟨rfl, hi, hs.col_lt⟩
  · exact .inl ⟨rfl, hi, hcol outcome t rfl⟩

theorem commandKey_gives (hs : s.InBounds) (key : Key) :
    Gives (commandKey h s key) (s.commandKey h key) (s.commandKey h key).1.InBounds := by
  cases key with
  | enter =>
    unfold commandKey ModalEditor.Session.commandKey
    dsimp only
    split
    · exact .inl ⟨rfl, hs.editor, hs.col_lt⟩
    · exact runLine_gives (s := { s with mode := .normal, commandLine := {} })
        ⟨hs.editor, hs.col_lt⟩ _
  | char c => exact .inl ⟨rfl, hs.editor, hs.col_lt⟩
  | tab => exact .inl ⟨rfl, hs.editor, hs.col_lt⟩
  | backspace => exact .inl ⟨rfl, hs.editor, hs.col_lt⟩
  | escape => exact .inl ⟨rfl, hs.editor, hs.col_lt⟩

/-! ### All keys -/

theorem press_gives (hs : s.InBounds) (key : Key) :
    Gives (press h s key) (s.press h key) (s.press h key).1.InBounds := by
  unfold press keyByMode ModalEditor.Session.press
  cases s.mode with
  | normal => exact (normalKey_gives hs key).bind fun hnext => .inl ⟨rfl, hnext⟩
  | insert =>
    rw [bind_assoc]
    exact (insertKey_gives hs key).bind fun hnext => .inl ⟨rfl, hnext⟩
  | commandLine => exact (commandKey_gives hs key).bind fun hnext => .inl ⟨rfl, hnext⟩

theorem after_gives (hs : s.InBounds) (keys : List Key) :
    Gives (after h s keys) (s.after h keys) (s.after h keys).InBounds := by
  induction keys generalizing s with
  | nil => exact .inl ⟨rfl, hs⟩
  | cons key keys ih => exact (press_gives hs key).bind fun hnext => ih hnext

theorem inBounds_ofBuffer {b : Buffer} (hb : b.Fits) (o : Options) (world : σ) :
    (ModalEditor.Session.ofBuffer b o world).InBounds :=
  ⟨⟨ModalEditor.Session.fits_ofBuffer hb o world, rfl, RegisterFile.complete_new⟩, memoryLimit_pos⟩

theorem begin_tries (o : Options) (world : σ) (file : Option Path) :
    Tries (begin h o world file) (ModalEditor.Session.begin h o world file) (·.InBounds) := by
  cases file with
  | none => exact .pure (inBounds_ofBuffer Buffer.fits_new o world)
  | some typed =>
    refine tries_any.bind fun path _ => ?_
    rcases h.load path world with ⟨failure | text, world⟩
    · exact .throw _
    · cases text with
      | none => exact .pure (inBounds_ofBuffer (Buffer.fits_newFile path) o world)
      | some text =>
        exact .compute_bind (.of_eq (ofText_eq _ text)) fun _ =>
          .pure (inBounds_ofBuffer (Buffer.fits_ofText _ text) o world)

/-- Whatever keys a session has taken, the next one finds every place that it looks up, cuts no text
inside a character, counts neither below zero nor past the words and makes no span that runs
backwards. It has the answer that the session of the editor has, unless a text, the lines of a
buffer or the buffers would be too many for the memory. -/
theorem answer_unless_memory (h : Host σ) (o : Options) (world : σ) (file : Option Path)
    (keys : List Key) (key : Key) :
    (answer h o world file keys key).run =
        .ok ((ModalEditor.Session.begin h o world file).map fun s => (s.after h keys).press h key) ∨
      ∃ size, memoryLimit ≤ size ∧
        (answer h o world file keys key).run = .error (.memory size) := by
  have htries : Tries (answer h o world file keys key)
      (do return ((← ModalEditor.Session.begin h o world file).after h keys).press h key)
      fun _ => True := by
    refine (begin_tries o world file).bind fun s hs => ?_
    refine .compute_bind (after_gives hs keys) fun ht => ?_
    exact .compute (press_gives ht key) fun _ => trivial
  refine htries.imp_left fun ⟨hrun, _⟩ => hrun.trans ?_
  cases ModalEditor.Session.begin h o world file <;> rfl

end Bounded.Session
end ModalEditor
