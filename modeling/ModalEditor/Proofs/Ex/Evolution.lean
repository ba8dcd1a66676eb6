import ModalEditor.Ex.Run
import ModalEditor.Proofs.Address.Bounds
import ModalEditor.Proofs.Editor.Quiet
import ModalEditor.Proofs.Ex.Prefix
import ModalEditor.Proofs.Normal.Evolution

/-!
# What commands on lines keep of the editor

Most commands of the command line work on the lines, the registers and the settings, or go from one
buffer to another: they ask the host for nothing, and each leads from an editor to an edited one
(`Ex.run_edited`). Ranges are resolved against the buffer on which the command then works, so the
spans that edits need do not run backwards. Commands that ask the host for something
(`ExCommand.asks`) are left for later.
-/

namespace ModalEditor

/-- A plain command that may ask the host for something. -/
def ExCommand.asks : ExCommand → Bool
  | .edit _ _ | .write _ _ | .writeQuit _ | .exit | .read _ _ | .saveAs _ | .filter _ _ => true
  | _ => false

namespace Ex

open EditorM Editor

variable {σ : Type} {h : Host σ} {clean : Prop} {e : Editor σ}

/-! ## Ranges -/

theorem run_resolveOr (range : Range) (fallback : Buffer → LineSpan) (e : Editor σ) :
    (resolveOr range fallback).run.run e =
      (range.resolve e.buffer e.options (fallback e.buffer), e) := by
  unfold resolveOr
  simp only [run_bind, run_get, run_orFail]

theorem run_spanOf (range : Range) (e : Editor σ) :
    (spanOf range).run.run e = (range.resolve e.buffer e.options e.buffer.currentSpan, e) :=
  run_resolveOr range _ e

/-- The span of a range does not run backwards. -/
theorem spanOf_ordered {range : Range} {s : LineSpan}
    (hs : (spanOf range).run.run e = (.ok s, e)) : s.first ≤ s.last := by
  rw [run_spanOf] at hs
  exact Range.resolve_ordered (Nat.le_refl _) (congrArg Prod.fst hs)

theorem run_countedSpan (range : Range) (count : Option Nat) (e : Editor σ) :
    (countedSpan range count).run.run e =
      ((range.resolve e.buffer e.options e.buffer.currentSpan).map fun s =>
        match count with
        | none => s
        | some n => ⟨s.last, min (s.last + (max n 1 - 1)) e.buffer.lastLine⟩, e) := by
  unfold countedSpan
  simp only [run_bind, run_spanOf]
  cases range.resolve e.buffer e.options e.buffer.currentSpan with
  | error => rfl
  | ok s => cases count <;> rfl

/-- A count makes a span that starts at a line of the buffer and does not run backwards. -/
theorem countedSpan_ordered {range : Range} {count : Option Nat} {s : LineSpan}
    (hf : e.buffer.Fits) (hs : (countedSpan range count).run.run e = (.ok s, e)) :
    s.first ≤ s.last := by
  rw [run_countedSpan] at hs
  cases hr : range.resolve e.buffer e.options e.buffer.currentSpan with
  | error err =>
    rw [hr] at hs
    cases hs
  | ok span =>
    rw [hr] at hs
    cases hs
    have hle : span.first ≤ span.last := Range.resolve_ordered (Nat.le_refl _) hr
    have hlast := Range.resolve_last_lt hf hf.current_lt hr
    cases count with
    | none => exact hle
    | some n =>
      simp only [Buffer.lastLine]
      omega

/-! ## Buffers -/

theorem checkSaved_state (e : Editor σ) : (checkSaved.run.run e).2 = e := by
  unfold checkSaved
  simp only [run_bind, run_get]
  split <;> rfl

/-- Ending the session only looks at the editor, whether it is refused or not. -/
theorem leads_quit {R : Editor σ → Editor σ → Prop} [Std.Refl R] (e : Editor σ) :
    Leads R (do
      checkSaved
      return quitOutcome : EditorM σ ExOutcome) e :=
  .bind_still (checkSaved_state e) fun _ _ => .pure _

theorem quit_state (e : Editor σ) :
    ((do
      checkSaved
      return quitOutcome : EditorM σ ExOutcome).run.run e).2 = e :=
  Eq.symm (leads_quit (R := Eq) e)

theorem goToBuffer_edited {change : BufferTable → BufferTable}
    (hslots : (change e.buffers).slots = e.buffers.slots)
    (hb : e.buffers.Evolves (fun _ => False) (change e.buffers)) :
    Leads (Edited clean) (goToBuffer change : EditorM σ ExOutcome) e :=
  (modifyTable_edited hslots hb).bind fun _ _ _ _ => .pure _

theorem switchBuffer_edited (reference : Text) (col : Nat) (e : Editor σ) :
    Leads (Edited clean) (run h (.switchBuffer reference) col) e := by
  refine Leads.get_bind (.bind_still (by rw [run_orFail]) fun t ht => ?_)
  rw [run_orFail] at ht
  have hswitch : e.buffers.switch reference = .ok t := congrArg Prod.fst ht
  exact goToBuffer_edited (BufferTable.switch_slots hswitch)
    (BufferTable.switch_evolves _ hswitch)

/-! ## Lines and registers -/

/-- A change of the options or of the substitution to repeat. -/
theorem settings_edited (o : Options) (last : Option LastSubstitute) (e : Editor σ) :
    Edited clean e { e with options := o, lastSubstitute := last } :=
  ⟨rfl, rfl, .refl _ e.buffers, fun _ hu => ⟨hu.buffers, hu.registers⟩⟩

theorem setMark_edited (range : Range) (name : Char) (col : Nat) (e : Editor σ) :
    Leads (Edited clean) (run h (.setMark range name) col) e := by
  refine .bind_still (by rw [run_spanOf]) fun span _ => leads_buffer_bind ?_
  refine .bind_still (by rw [run_orFail]) fun b hb => ?_
  rw [run_orFail] at hb
  have hset : e.buffer.setMark name span.last = .ok b := congrArg Prod.fst hb
  exact modifyBuffer_edited (f := fun _ => b) (Buffer.setMark_evolves hset)
    fun _ hu => hu.setMark hset

theorem put_edited (range : Range) (register : Option Char) (above : Bool) (col : Nat)
    (e : Editor σ) : Leads (Edited clean) (run h (.put range register above) col) e := by
  refine .bind_still (by rw [run_spanOf]) fun span _ => ?_
  refine (goTo_edited span.last e).bind fun _ e₁ _ _ => ?_
  exact (onCurrent_edited (Edit.putLines_evolves above register 1 _)).bind fun _ _ _ _ => .pure _

/-! ## Substitutions and global commands -/

theorem substitute_edited (range : Range) (pattern replacement : Text) (flags : SubFlags)
    (e : Editor σ) : Leads (Edited clean) (substitute range pattern replacement flags) e := by
  refine .bind_still (by rw [run_spanOf]) fun span _ => Leads.get_bind ?_
  refine (onCurrent_edited (Edit.substitute_evolves span pattern replacement flags
    e.options _)).bind fun count e₁ _ _ => ?_
  have hlast : Leads (Edited clean)
      (modify fun e => { e with lastSubstitute := some { pattern, replacement, flags } }) e₁ :=
    settings_edited e₁.options _ e₁
  refine hlast.bind fun _ e₂ _ _ => leads_buffer_bind ?_
  split
  · exact .throw _
  split
  · exact .pure _
  · exact .pure _

theorem repeatSubstitute_edited (range : Range) (flags : Option SubFlags) (col : Nat)
    (e : Editor σ) : Leads (Edited clean) (run h (.repeatSubstitute range flags) col) e := by
  refine Leads.get_bind ?_
  split
  · exact .throw _
  · exact substitute_edited _ _ _ _ e

theorem globalEdit_evolves (action : GlobalAction) (o : Options) (d : Desk) (hd : d.buffer.Fits) :
    Leads Desk.Evolves (globalEdit action o) d := by
  refine Edit.leads_buffer_bind ?_
  cases action with
  | delete =>
    exact (Edit.deleteLines_evolves (Nat.le_refl _) none d).bind fun _ _ _ _ => .pure _
  | substitute pattern replacement flags =>
    exact (Edit.substitute_evolves _ pattern replacement flags o d).bind fun _ _ _ _ => .pure _
  | normal keys => exact (Normal.runKeys_evolves keys 0 d hd).bind fun _ _ _ _ => .pure _

theorem global_edited (range : Range) (pattern : Text) (inverse : Bool) (action : GlobalAction)
    (hf : e.buffer.Fits) : Leads (Edited clean) (global range pattern inverse action) e := by
  refine .bind_still (by rw [run_resolveOr]) fun span _ => leads_buffer_bind ?_
  have hvisit : ∀ e₁ : Editor σ, e₁.buffer.Fits → Leads (Edited clean)
      (do
        let o := (← get).options
        let _ ← onCurrent (Edit.global span pattern inverse o (globalEdit action o))
        let b ← buffer
        return ⟨b.home, lineReport (e.buffer.lineCount - b.lineCount) "fewer lines", false⟩ :
        EditorM σ ExOutcome) e₁ := by
    intro e₁ hf₁
    refine Leads.get_bind ?_
    exact (onCurrent_edited (Edit.global_evolves span pattern inverse e₁.options
      (globalEdit_evolves action e₁.options) hf₁)).bind fun _ _ _ _ => .pure _
  cases action with
  | substitute pattern replacement flags =>
    have hlast : Leads (Edited clean)
        (modify fun e => { e with lastSubstitute := some { pattern, replacement, flags } }) e :=
      settings_edited e.options _ e
    refine hlast.bind fun _ e₁ he₁ _ => ?_
    cases he₁
    exact hvisit _ hf
  | delete => exact hvisit e hf
  | normal keys => exact hvisit e hf

/-! ## Normal-mode keys -/

theorem runKeys_edited (keys : Text) (col : Nat) (hf : e.buffer.Fits) :
    Leads (Edited clean) (onCurrent (Normal.runKeys keys col)) e :=
  onCurrent_edited (Normal.runKeys_evolves keys col _ hf)

theorem normalOn_edited (keys : Text) (n i col : Nat) (hf : e.buffers.Fits) :
    Leads (Edited clean) (normalOn keys n i col) e := by
  induction n generalizing i col e with
  | zero => exact .pure _
  | succ n ih =>
    rw [normalOn]
    refine leads_buffer_bind ?_
    split
    · exact .pure _
    · refine (goTo_edited i e).bind fun _ e₁ _ hgo => ?_
      have hf₁ := hgo.buffers.fits hf
      refine (runKeys_edited keys 0 hf₁.buffer).bind fun outcome e₂ _ hkeys => ?_
      exact ih _ _ (hkeys.buffers.fits hf₁)

theorem normal_edited (range : Range) (keys : Text) (col : Nat) (hf : e.buffers.Fits) :
    Leads (Edited clean) (normal range keys col) e := by
  unfold normal
  split
  · exact (runKeys_edited keys col hf.buffer).bind fun _ _ _ _ => .pure _
  · refine .bind_still (by rw [run_spanOf]) fun span _ => ?_
    exact (normalOn_edited keys _ _ col hf).bind fun _ _ _ _ => .pure _

/-! ## All commands that ask for nothing -/

theorem run_edited {c : ExCommand} (hc : c.IsPlain) (hasks : c.asks = false) (col : Nat)
    (hf : e.buffers.Fits) : Leads (Edited clean) (run h c col) e := by
  cases c with
  | goto range => exact .bind_still (by rw [run_spanOf]) fun span _ => goTo_edited span.last e
  | quit force =>
    cases force with
    | true => exact .pure _
    | false => exact leads_quit e
  | nextBuffer => exact goToBuffer_edited rfl (BufferTable.next_evolves _ e.buffers)
  | previousBuffer => exact goToBuffer_edited rfl (BufferTable.previous_evolves _ e.buffers)
  | listBuffers => exact .pure _
  | switchBuffer reference => exact switchBuffer_edited reference col e
  | showRegisters names => exact .pure _
  | setMark range name => exact setMark_edited range name col e
  | delete range register count =>
    exact .bind_still (by rw [run_countedSpan]) fun span hspan =>
      (onCurrent_edited (Edit.deleteLines_evolves (countedSpan_ordered hf.buffer hspan)
        register _)).bind fun _ _ _ _ => .pure _
  | yank range register count =>
    exact .bind_still (by rw [run_countedSpan]) fun span _ =>
      (onCurrent_edited (Edit.yankLines_evolves span register _)).bind fun _ _ _ _ => .pure _
  | put range register above => exact put_edited range register above col e
  | substitute range pattern replacement flags =>
    exact substitute_edited range pattern replacement flags e
  | repeatSubstitute range flags => exact repeatSubstitute_edited range flags col e
  | global range pattern inverse action =>
    exact global_edited range pattern inverse action hf.buffer
  | normal range keys => exact normal_edited range keys col hf
  | set args =>
    refine Leads.get_bind ?_
    have hset : Leads (Edited clean)
        (modify fun e => { e with options := (e.options.applySet args).1 }) e :=
      settings_edited _ e.lastSubstitute e
    exact hset.bind fun _ e₁ _ _ => .bind_still (by rw [run_orFail]) fun _ _ => .pure _
  | selectRegister name => exact (select_edited name e).bind fun _ _ _ _ => .pure _
  | atMark => cases hc
  | withRegister => cases hc
  | _ => cases hasks

end Ex
end ModalEditor
