import ModalEditor.Host.Memory
import ModalEditor.Proofs.Session.Valid

/-!
# Unsaved changes

Beside a session a ledger is kept of the lines that each buffer was last known to share with its
file: those it was created with, those it wrote to its own file, or those it got when the file was
read again. The entries are made from the commands that are carried out and from the answers of the
host. Whether a buffer counts as modified is looked at for `:x` alone, which writes nothing if it does
not (`ExCommand.ownFile?`); no entry is made because a buffer counts as unmodified.

The theorem of this module is that the flag can be trusted. At every point of every session a buffer
that does not count as modified has the lines of the ledger, editing a file without force replaces
no modified buffer, and a session that ends without being forced to leaves no buffer modified.
-/

namespace ModalEditor

/-- A session, and for each place in its table the lines that were last saved or read. -/
structure Ledger (σ : Type) where
  /-- The session. -/
  session : Session σ
  /-- The lines by place. -/
  saved : Nat → List Text

namespace Session

variable {σ : Type}

/-- The lines of the buffer in a place. -/
def linesAt (s : Session σ) (i : Nat) : List Text := (Ex.texts s.editor).getD i []

end Session

namespace Ledger

variable {σ : Type}

/-- The ledger of a session that begins. -/
def begin (s : Session σ) : Ledger σ := { session := s, saved := s.linesAt }

/-- The ledger after a key. A buffer that the key creates gets an entry. The entry of the current
buffer changes when the key carries out a command that saves the buffer or reads its file again. -/
def press (h : Host σ) (l : Ledger σ) (key : Key) : Ledger σ :=
  let s := l.session
  let next := (s.press h key).1
  { session := next
    saved := fun i =>
      if s.editor.buffers.slots.length ≤ i then next.linesAt i
      else if i = s.editor.buffers.current then
        match s.entered? key with
        | none => l.saved i
        | some c =>
          if s.editor.saves h c then s.buffer.lines
          else if s.editor.reloads h c s.col then next.linesAt i
          else l.saved i
      else l.saved i }

/-- The ledger after some keys. -/
def after (h : Host σ) (l : Ledger σ) (keys : List Key) : Ledger σ := keys.foldl (press h) l

/-- A buffer that does not count as modified has the lines of the ledger. -/
def Tallies (l : Ledger σ) : Prop :=
  ∀ i slot, l.session.editor.buffers.slots[i]? = some slot → slot.buffer.modified = false →
    slot.buffer.lines = l.saved i

end Ledger

namespace Session

variable {σ : Type} {h : Host σ} {s : Session σ} {key : Key} {c : ExCommand}

theorem linesAt_of_getElem? {i : Nat} {slot : Slot}
    (hslot : s.editor.buffers.slots[i]? = some slot) : s.linesAt i = slot.buffer.lines := by
  simp [linesAt, Ex.texts, List.getD_eq_getElem?_getD, hslot]

/-! ## Answers that end the session -/

/-- The answer does not end the session. -/
def GoesOn (a : Answer) : Prop := ∀ said quit, a = .ok (said, quit) → quit = false

theorem goesOn_said (said : Option Text) : GoesOn (.ok (said, false)) := by
  rintro _ _ ⟨⟩
  rfl

theorem goesOn_narrate (err : EditorError) : GoesOn (narrate err) := by
  unfold narrate
  split
  · split
    · intro said quit hq
      cases hq
    · exact goesOn_said _
  · exact goesOn_said _

theorem runNormal_goesOn (s : Session σ) (c : NormalCommand) : GoesOn (s.runNormal c).2 := by
  unfold runNormal
  rcases (EditorM.onCurrent (Normal.run c s.col) : EditorM σ _).run.run s.editor with
    ⟨err | o, e⟩
  · exact goesOn_narrate err
  · exact goesOn_said o.message

theorem typeNormal_goesOn (s : Session σ) (c : Char) : GoesOn (s.typeNormal c).2 := by
  unfold typeNormal
  split
  · exact goesOn_said none
  dsimp only
  split
  · exact goesOn_said none
  · dsimp only
    exact goesOn_narrate _
  · exact runNormal_goesOn _ _

theorem normalKey_goesOn (s : Session σ) (key : Key) : GoesOn (s.normalKey key).2 := by
  rcases normalKey_cases s key with ⟨c, hkey⟩ | hkey | hkey <;> rw [hkey]
  · exact typeNormal_goesOn s c
  · exact goesOn_said none
  · exact goesOn_said none

/-- A command line ends the session only with a command that ends it. -/
theorem runLine_quit {s : Session σ} {line : Text} {said : Option Text}
    (hq : (s.runLine h line).2 = .ok (said, true)) :
    ∃ c o, ExCommand.readLine line = .ok c ∧
      ((Ex.run h c s.col).run.run s.editor).1 = .ok o ∧ o.quit = true := by
  rw [runLine_eq] at hq
  cases hread : ExCommand.readLine line with
  | error err =>
    rw [hread] at hq
    cases goesOn_narrate err _ _ hq
  | ok c =>
    rw [hread] at hq
    dsimp only at hq
    rcases hrun : (Ex.run h c s.col).run.run s.editor with ⟨err | o, e⟩ <;> rw [hrun] at hq
    · cases goesOn_narrate err _ _ hq
    · refine ⟨c, o, rfl, by rw [hrun], ?_⟩
      injection hq with hq
      exact congrArg Prod.snd hq

/-- A key ends the session only by carrying out a command that ends it. -/
theorem press_quit {step : Step} (hs : (s.press h key).2 = .ok step) (hq : step.quit = true) :
    ∃ c o, s.entered? key = some c ∧ ((Ex.run h c s.col).run.run s.editor).1 = .ok o ∧
      o.quit = true := by
  have hanswer : ∀ {a : Answer} {f : Option Text × Bool → Step}, (∀ r, (f r).quit = r.2) →
      a.map f = .ok step → ∃ said, a = .ok (said, true) := by
    intro a f hf ha
    cases a with
    | error failure => cases ha
    | ok r =>
      cases ha
      rw [hf] at hq
      exact ⟨r.1, by rw [← hq]⟩
  unfold press at hs
  cases hmode : s.mode with
  | normal =>
    rw [hmode] at hs
    obtain ⟨said, ha⟩ := hanswer (fun _ => rfl) hs
    cases normalKey_goesOn s key _ _ ha
  | insert =>
    rw [hmode] at hs
    cases hs
    cases hq
  | commandLine =>
    rw [hmode] at hs
    obtain ⟨said, ha⟩ := hanswer (fun _ => rfl) hs
    cases key with
    | enter =>
      simp only [commandKey] at ha
      split at ha
      · cases ha
      · rename_i hblank
        obtain ⟨c, o, hread, hrun, ho⟩ := runLine_quit ha
        exact ⟨c, o, by simp [entered?, hmode, hblank, hread, Except.toOption], hrun, ho⟩
    | _ => cases ha

end Session

/-! ## The ledger -/

namespace Ledger

variable {σ : Type} {h : Host σ}

/-- The place whose buffer a key settles, and how. -/
def Settled (h : Host σ) (s : Session σ) (key : Key) (i : Nat) : Prop :=
  i = s.editor.buffers.current ∧ ∃ c, s.entered? key = some c ∧
    (s.editor.saves h c = true ∨ s.editor.reloads h c s.col = true)

/-- Every key, with the places that it settles. -/
theorem press_evolves_settled {s : Session σ} (hf : s.editor.buffers.Fits) (key : Key) :
    s.editor.Evolves h False (Settled h s key) (s.press h key).1.editor :=
  Session.press_evolves s key hf (fun hc => hc.elim) fun c hc hs => ⟨rfl, c, hc, hs⟩

theorem begin_tallies (s : Session σ) : (begin s).Tallies := fun _ _ hslot _ =>
  (Session.linesAt_of_getElem? hslot).symm

/-- A key keeps the ledger right. -/
theorem Tallies.press {l : Ledger σ} (hl : l.Tallies) (hf : l.session.editor.buffers.Fits)
    (key : Key) : (l.press h key).Tallies := by
  intro i slot' hslot' hm
  have hnext : (l.press h key).session = (l.session.press h key).1 := rfl
  rw [hnext] at hslot'
  have hnew := Session.linesAt_of_getElem? hslot'
  simp only [Ledger.press]
  split
  · exact hnew.symm
  rename_i hold
  obtain ⟨slot, hslot⟩ : ∃ slot, l.session.editor.buffers.slots[i]? = some slot :=
    ⟨_, List.getElem?_eq_getElem (Nat.lt_of_not_le hold)⟩
  have hpress := press_evolves_settled (h := h) hf key
  obtain ⟨slot₁, hslot₁, hevolves⟩ := hpress.buffers.slots i slot hslot
  rw [hslot'] at hslot₁
  cases hslot₁
  -- a place that the key does not settle keeps its lines and its entry
  have hkept : ¬ Settled h l.session key i → slot'.buffer.lines = l.saved i := by
    intro hns
    obtain ⟨hm₀, hlines⟩ := (hevolves.unchanged hm).resolve_right hns
    rw [hlines, hl i slot hslot hm₀]
  split
  · rename_i hcur
    cases hc : l.session.entered? key with
    | none =>
      refine hkept fun ⟨_, d, hd, _⟩ => ?_
      rw [hc] at hd
      cases hd
    | some c =>
      dsimp only
      split
      · rename_i hsaves
        have htexts : Ex.texts (l.session.press h key).1.editor = Ex.texts l.session.editor := by
          rw [Session.press_entered hc]
          exact Ex.run_saves_sameTexts _ hf.current_lt hsaves
        rw [← hnew, Session.linesAt, htexts, ← Session.linesAt,
          Session.linesAt_of_getElem? hslot]
        subst hcur
        rw [show l.session.buffer = slot.buffer from BufferTable.buffer_of_getElem? hslot]
      split
      · exact hnew.symm
      · rename_i hsaves hreloads
        refine hkept fun ⟨_, d, hd, hs⟩ => ?_
        rw [hc] at hd
        cases hd
        exact hs.elim hsaves hreloads
  · rename_i hcur
    exact hkept fun hs => hcur hs.1

/-- The ledger goes along with the session and stays right. -/
theorem after_tallies {l : Ledger σ} (hl : l.Tallies) (hf : l.session.editor.buffers.Fits)
    (keys : List Key) :
    (l.after h keys).session = l.session.after h keys ∧ (l.after h keys).Tallies ∧
      (l.after h keys).session.editor.buffers.Fits := by
  induction keys generalizing l with
  | nil => exact ⟨rfl, hl, hf⟩
  | cons key rest ih => exact ih (hl.press hf key) (Session.press_fits hf key)

end Ledger

namespace Session

variable {σ : Type} {h : Host σ}

/-- No unsaved change is lost without force. At every point of a session the buffers that do not
count as modified have the lines that the ledger has for them. Whatever key follows, if it carries
out `:e` without `!`, every modified buffer keeps its text, its file and its unsaved changes; and if
it ends the session other than by `:q!`, no buffer is modified. -/
theorem unsaved_changes_kept (h : Host σ) (o : Options) (world : σ) (file : Option Path)
    (s₀ : Session σ) (hs : begin h o world file = .ok s₀) (keys : List Key) :
    let l := (Ledger.begin s₀).after h keys
    let s := s₀.after h keys
    l.session = s ∧
    (∀ (i : Nat) (slot : Slot), s.editor.buffers.slots[i]? = some slot →
      slot.buffer.modified = false → slot.buffer.lines = l.saved i) ∧
    ∀ key,
      (∀ c typed, s.entered? key = some c → c.base s.buffer = .edit typed false →
        ∀ (i : Nat) (slot : Slot), s.editor.buffers.slots[i]? = some slot →
          slot.buffer.modified = true →
          ∃ slot', (s.press h key).1.editor.buffers.slots[i]? = some slot' ∧
            slot'.buffer.modified = true ∧ slot'.buffer.lines = slot.buffer.lines ∧
            slot'.buffer.path = slot.buffer.path) ∧
      ∀ step, (s.press h key).2 = .ok step → step.quit = true →
        (∀ c, s.entered? key = some c → c.base s.buffer ≠ .quit true) →
        ∀ slot ∈ (s.press h key).1.editor.buffers.slots, slot.buffer.modified = false := by
  intro l s
  obtain ⟨hsession, htallies, hf⟩ :=
    Ledger.after_tallies (h := h) (Ledger.begin_tallies s₀) (begin_fits hs) keys
  change l.session = s at hsession
  change l.Tallies at htallies
  change l.session.editor.buffers.Fits at hf
  unfold Ledger.Tallies at htallies
  rw [hsession] at htallies hf
  refine ⟨hsession, htallies, fun key => ⟨fun c typed hc hbase i slot hslot hm => ?_,
    fun step hstep hq hforced => ?_⟩⟩
  · rw [press_entered hc]
    exact Ex.run_edit_keeps_modified s.col hf.current_lt hbase hslot hm
  · obtain ⟨c, o, hc, hrun, ho⟩ := press_quit hstep hq
    rw [press_entered hc]
    have hpair : (Ex.run h c s.col).run.run s.editor =
        (.ok o, ((Ex.run h c s.col).run.run s.editor).2) := Prod.ext hrun rfl
    exact (Ex.run_quit hf.current_lt hpair ho).resolve_left (hforced c hc)

/-- A file is changed and saved, another one is opened and changed, and the first one is still what
was saved. -/
theorem unsaved_changes_kept_of_two_files :
    ∃ s₀, begin (Memory.host "/p".toList) {} { files := [("/p/f".toList, "a\n".toList)] }
        (some "f".toList) = .ok s₀ ∧
      ∀ keys, keys = "x:w\r:e g\riy\x1b".toList.map Key.ofChar →
        ∀ slot, (s₀.after (Memory.host "/p".toList) keys).editor.buffers.slots[0]? = some slot →
          slot.buffer.modified = false → slot.buffer.lines = [[]] := by
  refine ⟨_, rfl, fun keys hkeys slot hslot hm => ?_⟩
  have hkept := unsaved_changes_kept (Memory.host "/p".toList) {}
    { files := [("/p/f".toList, "a\n".toList)] } (some "f".toList) _ rfl keys
  have hlines := hkept.2.1 0 slot hslot hm
  rw [hlines, hkeys]
  decide +kernel

end Session
end ModalEditor
