import ModalEditor.Ex.Run
import ModalEditor.Proofs.Editor.Frame

/-!
# Commands that touch the current buffer only

A command changes no buffer but the one that is current when it starts. Most commands also end
there (`ExCommand.staysPut`, `run_local`); four of them may go to another buffer, or add one, once
all that they do in place is done. Behind `'x` and `"x` a command does what it does alone, as these
only move the cursor or select a register.

Of the commands that stay, `:set` alone changes options, and only a command that substitutes
(`ExCommand.substitutes`) puts another substitution in the place of the last one (`run_confined`).
-/

namespace ModalEditor

/-- A plain command that ends at the buffer at which it starts. -/
def ExCommand.staysPut : ExCommand → Bool
  | .edit _ _ | .nextBuffer | .previousBuffer | .switchBuffer _ => false
  | .atMark _ _ _ | .withRegister _ _ => false
  | _ => true

/-- A plain command that substitutes. -/
def ExCommand.substitutes : ExCommand → Bool
  | .substitute _ _ _ _ | .repeatSubstitute _ _ | .global _ _ _ (.substitute _ _ _) => true
  | _ => false

/-- The arguments of a plain `:set`. -/
def ExCommand.settings? : ExCommand → Option Text
  | .set args => some args
  | _ => none

namespace Ex

open EditorM Editor

variable {σ : Type} {kept : Prop} (h : Host σ)

/-! ## Ranges and messages -/

theorem confined_checkSaved : Confined kept (checkSaved : EditorM σ Unit) := by
  refine confined_get.bind fun e => ?_
  split
  · exact confined_throw _
  · exact confined_pure _

theorem confined_resolveOr (range : Range) (fallback : Buffer → LineSpan) :
    Confined kept (resolveOr range fallback : EditorM σ LineSpan) :=
  confined_get.bind fun _ => confined_orFail _

theorem confined_spanOf (range : Range) : Confined kept (spanOf range : EditorM σ LineSpan) :=
  confined_resolveOr range _

theorem confined_countedSpan (range : Range) (count : Option Nat) :
    Confined kept (countedSpan range count : EditorM σ LineSpan) := by
  refine (confined_spanOf range).bind fun span => ?_
  cases count with
  | none => exact confined_pure _
  | some n => exact confined_buffer.bind fun _ => confined_pure _

/-- A step whose outcome is said together with where the cursor is. -/
theorem confined_report {α : Type} {x : EditorM σ α} (hx : Confined kept x)
    (f : α → Buffer → ExOutcome) :
    Confined kept (do
      let a ← x
      let b ← buffer
      return f a b : EditorM σ ExOutcome) :=
  hx.bind fun _ => confined_buffer.bind fun _ => confined_pure _

/-- Ending the session. -/
theorem confined_quit : Confined kept (do
    checkSaved
    return quitOutcome : EditorM σ ExOutcome) :=
  confined_checkSaved.bind fun _ => confined_pure _

/-! ## Files and the shell -/

theorem confined_writeCurrent : Confined kept (writeCurrent h) :=
  confined_buffer.bind fun _ => (confined_writeOwn h).bind fun _ => confined_buffer.bind fun _ =>
    confined_pure _

theorem confined_write (typed : Option Path) : Confined kept (write h typed) := by
  cases typed with
  | none => exact confined_writeCurrent h
  | some typed =>
    refine (confined_resolve h typed).bind fun file => confined_buffer.bind fun b => ?_
    split
    · exact (confined_writeTo h file).bind fun _ => confined_pure _
    · exact (confined_modifyBuffer _).bind fun _ => confined_writeCurrent h

theorem confined_pathOrOwn (typed : Option Path) : Confined kept (pathOrOwn h typed) := by
  cases typed with
  | some typed => exact confined_resolve h typed
  | none =>
    refine confined_buffer.bind fun b => ?_
    split
    · exact confined_pure _
    · exact confined_throw _

/-- Reading the file of the current buffer again. -/
theorem confined_reload (file : Path) : Confined kept (do
    let reloaded ← load h file
    modifyBuffer fun _ => reloaded
    let b ← buffer
    return { col := b.home, message := some (loadMessage b) } : EditorM σ ExOutcome) :=
  (confined_load h file).bind fun _ => confined_report (confined_modifyBuffer _) _

theorem confined_readLines (source : ReadSource) : Confined kept (readLines h source) := by
  cases source with
  | file typed =>
    refine (confined_pathOrOwn h typed).bind fun file => (confined_askOrFail _).bind fun text => ?_
    cases text with
    | none => exact confined_throw _
    | some text => exact confined_pure _
  | shell command => exact (confined_shellLines h command []).bind fun _ => confined_pure _

theorem confined_read (range : Range) (source : ReadSource) :
    Confined kept (read h range source) := by
  refine (confined_readLines h source).bind fun (lines, message) => ?_
  exact (confined_spanOf range).bind fun span => confined_report (confined_modifyBuffer _) _

theorem confined_filterLines (s : LineSpan) (command : Text) :
    Confined kept (filterLines h s command) :=
  (confined_onCurrent _).bind fun _ => confined_buffer.bind fun _ =>
    (confined_shellLines h command _).bind fun _ => (confined_modifyBuffer _).bind fun _ =>
      confined_pure _

theorem confined_filter (range : Range) (command : Text) (col : Nat) :
    Confined kept (filter h range command col) := by
  unfold filter
  split
  · exact (confined_shellLines h command []).bind fun _ => confined_pure _
  · exact (confined_spanOf range).bind fun span =>
      confined_report (confined_filterLines h span command) _

/-! ## Lines and patterns -/

theorem confined_substitute (hkept : ¬ kept) (range : Range) (pattern replacement : Text)
    (flags : SubFlags) :
    Confined kept (substitute range pattern replacement flags : EditorM σ ExOutcome) := by
  refine (confined_spanOf range).bind fun span => confined_get.bind fun e => ?_
  refine (confined_onCurrent _).bind fun count => (confined_remember hkept _).bind fun _ => ?_
  refine confined_buffer.bind fun b => ?_
  split
  · exact confined_throw _
  split
  · exact confined_pure _
  · exact confined_pure _

theorem confined_global (range : Range) (pattern : Text) (inverse : Bool) {action : GlobalAction}
    (hkept : (ExCommand.global range pattern inverse action).substitutes = true → ¬ kept) :
    Confined kept (global range pattern inverse action : EditorM σ ExOutcome) := by
  refine (confined_resolveOr range _).bind fun span => confined_buffer.bind fun before => ?_
  have hvisit : Confined kept (do
      let o := (← get).options
      let _ ← onCurrent (Edit.global span pattern inverse o (globalEdit action o))
      let b ← buffer
      return ⟨b.home, lineReport (before.lineCount - b.lineCount) "fewer lines", false⟩ :
      EditorM σ ExOutcome) := confined_get.bind fun _ => confined_report (confined_onCurrent _) _
  cases action with
  | substitute pattern replacement flags =>
    exact (confined_remember (hkept rfl) _).bind fun _ => hvisit
  | delete => exact hvisit
  | normal keys => exact hvisit

theorem confined_normalOn (keys : Text) (n i col : Nat) :
    Confined kept (normalOn keys n i col : EditorM σ Nat) := by
  induction n generalizing i col with
  | zero => exact confined_pure _
  | succ n ih =>
    rw [normalOn]
    refine confined_buffer.bind fun b => ?_
    split
    · exact confined_pure _
    · exact (confined_modifyBuffer _).bind fun _ => (confined_onCurrent _).bind fun _ => ih _ _

theorem confined_normal (range : Range) (keys : Text) (col : Nat) :
    Confined kept (normal range keys col : EditorM σ ExOutcome) := by
  unfold normal
  split
  · exact (confined_onCurrent _).bind fun _ => confined_pure _
  · exact (confined_spanOf range).bind fun span => (confined_normalOn keys _ _ col).bind fun _ =>
      confined_pure _

/-! ## All commands -/

/-- A command that stays put and is not `:set`. If it substitutes, the last substitution is not
kept. -/
theorem run_confined {c : ExCommand} (hc : c.staysPut = true) (hset : c.settings? = none)
    (hkept : c.substitutes = true → ¬ kept) (col : Nat) : Confined kept (run h c col) := by
  cases c with
  | goto range =>
    exact (confined_spanOf range).bind fun span => confined_report (confined_modifyBuffer _) _
  | write path force => exact (confined_write h path).bind fun _ => confined_pure _
  | writeQuit path => exact (confined_write h path).bind fun _ => confined_quit
  | exit =>
    refine confined_buffer.bind fun b => ?_
    split
    · exact (confined_write h none).bind fun _ => confined_quit
    · exact confined_quit
  | quit force =>
    cases force with
    | true => exact confined_pure _
    | false => exact confined_quit
  | listBuffers => exact confined_get.bind fun _ => confined_pure _
  | read range source => exact confined_read h range source
  | saveAs path =>
    exact (confined_resolve h path).bind fun _ => (confined_modifyBuffer _).bind fun _ =>
      (confined_writeCurrent h).bind fun _ => confined_pure _
  | showRegisters names => exact confined_get.bind fun _ => confined_pure _
  | setMark range name =>
    exact (confined_spanOf range).bind fun span => confined_buffer.bind fun _ =>
      (confined_orFail _).bind fun _ => (confined_modifyBuffer _).bind fun _ => confined_pure _
  | delete range register count =>
    exact (confined_countedSpan range count).bind fun span =>
      confined_report (confined_onCurrent _) _
  | yank range register count =>
    exact (confined_countedSpan range count).bind fun span =>
      (confined_onCurrent _).bind fun _ => confined_pure _
  | put range register above =>
    exact (confined_spanOf range).bind fun span => (confined_modifyBuffer _).bind fun _ =>
      confined_report (confined_onCurrent _) _
  | substitute range pattern replacement flags =>
    exact confined_substitute (hkept rfl) range _ _ _
  | repeatSubstitute range flags =>
    refine confined_get.bind fun e => ?_
    split
    · exact confined_throw _
    · exact confined_substitute (hkept rfl) range _ _ _
  | global range pattern inverse action => exact confined_global range pattern inverse hkept
  | normal range keys => exact confined_normal range keys col
  | filter range command => exact confined_filter h range command col
  | set args => cases hset
  | selectRegister name => exact (confined_modifyBuffer _).bind fun _ => confined_pure _
  | _ => cases hc

theorem run_local {c : ExCommand} (hc : c.staysPut = true) (col : Nat) : Local (run h c col) := by
  cases c with
  | set args =>
    have hset : ∀ o, Local (modify fun e => { e with options := o } : EditorM σ PUnit) :=
      fun _ _ => inPlace_of_buffers_eq rfl
    refine confined_get.isLocal.bind fun e => (hset _).bind fun _ => ?_
    exact ((confined_orFail _).bind fun _ => confined_pure _).isLocal
  | _ => exact (run_confined h hc rfl (fun _ => id) col).isLocal

/-- `:e` reads the current buffer again, or goes to another one. -/
theorem roams_edit (typed : Option Path) (force : Bool) : Roams (edit h typed force) := by
  refine (confined_pathOrOwn h typed).isLocal.bind_roams fun file =>
    confined_buffer.isLocal.bind_roams fun b => ?_
  split
  · dsimp only
    split
    · exact ((confined_throw _).bind fun _ => confined_reload h file).isLocal.roams
    · exact (confined_reload h file).isLocal.roams
  · exact fun e => (roams_openPath h file e).then_still fun _ _ => rfl

theorem goToBuffer_touches {change : BufferTable → BufferTable} {e : Editor σ}
    (hchange : ∃ place, (e.HasCurrent → place < e.buffers.slots.length) ∧
      change e.buffers = { e.buffers with current := place }) :
    Leads Editor.Touches (goToBuffer change) e :=
  (modifyTable_touches hchange).then_still fun _ _ => rfl

theorem roams_switchBuffer (reference : Text) (col : Nat) :
    Roams (run h (.switchBuffer reference) col) := by
  intro e
  refine Leads.get_bind ?_
  unfold Leads
  rw [run_bind, run_orFail]
  cases hswitch : e.buffers.switch reference with
  | error err => exact InPlace.touches (refl e)
  | ok t =>
    obtain ⟨place, hplace, rfl⟩ := BufferTable.switch_ok hswitch
    exact goToBuffer_touches ⟨place, fun _ => hplace, rfl⟩

/-- Every command changes the buffer that is current when it starts, and no other one. -/
theorem run_roams (c : ExCommand) (col : Nat) : Roams (run h c col) := by
  induction c with
  | edit path force => exact roams_edit h path force
  | nextBuffer =>
    exact fun e => goToBuffer_touches ⟨_, fun he => Nat.mod_lt _ (Nat.zero_lt_of_lt he), rfl⟩
  | previousBuffer =>
    exact fun e => goToBuffer_touches ⟨_, fun he => Nat.mod_lt _ (Nat.zero_lt_of_lt he), rfl⟩
  | switchBuffer reference => exact roams_switchBuffer h reference col
  | atMark mark next otherwise ihnext ihotherwise =>
    refine confined_buffer.isLocal.bind_roams fun b => ?_
    split
    · exact (confined_modifyBuffer _).isLocal.bind_roams fun _ => ihnext
    · exact ihotherwise
  | withRegister name next ih => exact (confined_modifyBuffer _).isLocal.bind_roams fun _ => ih
  | _ => exact (run_local h rfl col).roams

end Ex
end ModalEditor
