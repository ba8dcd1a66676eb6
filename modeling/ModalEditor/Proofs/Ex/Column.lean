import ModalEditor.Proofs.Ex.Failure
import ModalEditor.Proofs.Ex.Outcome
import ModalEditor.Proofs.Normal.Column

/-!
# Columns after commands

A command of the command line leaves the cursor where the text of its line begins, or in the column
of before, or where the keys that it carried out have left it: `ExCommand.columnRule`. In the second
case the lines and the current line are those of before too. So the cursor can leave the text only
behind marks in front of such a command, by the keys of `:norm`, or if the command fails midway.
-/

namespace ModalEditor

namespace Editor

variable {σ : Type}

/-- The column is on a character of the current line, or at its start. -/
def On (e : Editor σ) (col : Nat) : Prop := e.buffer.OnText ⟨e.buffer.current, col⟩

/-- The lines of the current buffer and the line of the cursor are those of before. -/
structure KeepsPlace (e e' : Editor σ) : Prop where
  /-- The lines are. -/
  lines : e'.buffer.lines = e.buffer.lines
  /-- The current line is. -/
  current : e'.buffer.current = e.buffer.current
  /-- There still is a current buffer. -/
  hasCurrent : e.HasCurrent → e'.HasCurrent

instance : Std.Refl (@KeepsPlace σ) := ⟨fun _ => ⟨rfl, rfl, id⟩⟩

instance : IsTrans (Editor σ) KeepsPlace :=
  ⟨fun _ _ _ hab hbc => ⟨hbc.lines.trans hab.lines, hbc.current.trans hab.current,
    hbc.hasCurrent ∘ hab.hasCurrent⟩⟩

variable {e e' : Editor σ} {b : Buffer} {col : Nat}

theorem KeepsPlace.on (h : e.KeepsPlace e') (hon : e.On col) : e'.On col := by
  unfold On
  rw [h.current]
  exact hon.congr h.lines

theorem KeepsPlace.on_iff (h : e.KeepsPlace e') : e'.On col ↔ e.On col := by
  refine ⟨fun hon => ?_, h.on⟩
  unfold On at hon
  rw [h.current] at hon
  exact hon.congr h.lines.symm

/-- A change of the current buffer that leaves lines and cursor alone. -/
theorem setBuffer_keepsPlace (he : e.HasCurrent) (hl : b.lines = e.buffer.lines)
    (hc : b.current = e.buffer.current) : e.KeepsPlace (e.setBuffer b) :=
  ⟨by rw [buffer_setBuffer he]; exact hl, by rw [buffer_setBuffer he]; exact hc,
    fun _ => he.setBuffer b⟩

/-- If no text has changed and nothing has moved, the place is kept. -/
theorem Unmoved.keepsPlace (h : e.Unmoved e') : e.KeepsPlace e' where
  lines := (Prod.ext_iff.mp (Prod.ext_iff.mp
    (BufferTable.currentSlot_congr h.buffers h.place)).2).1
  current := h.line
  hasCurrent he := by
    have hlength := congrArg List.length h.buffers
    simp only [BufferTable.contents, List.length_map] at hlength
    unfold HasCurrent
    rw [h.place, hlength]
    exact he

end Editor

namespace Ex

open EditorM Editor

variable {σ α : Type} {h : Host σ} {e : Editor σ} {col : Nat}

/-! ## Commands that go to where the text of a line begins -/

/-- If the step succeeds, the cursor is where the text of its line begins, or at its start. -/
def GoesHome (x : EditorM σ ExOutcome) : Prop :=
  ∀ e o e', x.run.run e = (.ok o, e') → o.col = e'.buffer.home ∨ o.col = 0

theorem goesHome_of_rule {c : ExCommand} (hc : c.IsPlain) (hrule : c.columnRule = .home) :
    GoesHome (run h c col) := by
  cases hend : endsSession c with
  | false => exact (atHome_of_rule hc hrule hend).mono fun o e hhome => .inl hhome.col
  | true => exact (atStart_of_ends hend).mono fun o e hcol => .inr hcol

/-- The column is on the text of the line that the command has gone to. -/
theorem run_home {c : ExCommand} {o : ExOutcome} {e' : Editor σ} (hc : c.IsPlain)
    (hf : e.buffers.Fits) (hrule : c.columnRule = .home)
    (hr : (run h c col).run.run e = (.ok o, e')) : e'.On o.col := by
  have hevolves : Evolves h False (fun _ => True) e e' :=
    (run_plain_evolves hc col hf (fun hclean => hclean.elim) (fun _ _ _ => trivial)
      fun _ _ => trivial).of_run hr
  have hb : e'.buffer.Fits := (hevolves.buffers.fits hf).buffer
  rcases goesHome_of_rule hc hrule e o e' hr with hcol | hcol <;> rw [hcol]
  · exact hb.home_onText
  · exact Buffer.onText_zero hb.current_lt

/-! ## Commands that leave the cursor where it is -/

/-- If the step succeeds, cursor, column and lines are those of before. -/
def Stays (col : Nat) (x : EditorM σ ExOutcome) (e : Editor σ) : Prop :=
  ∀ o e', x.run.run e = (.ok o, e') → o.col = col ∧ e.KeepsPlace e'

/-- What follows a step that has left the cursor alone. -/
theorem stays_bind {x : EditorM σ α} {f : α → EditorM σ ExOutcome}
    (hx : ∀ a t, x.run.run e = (.ok a, t) → e.KeepsPlace t)
    (hf : ∀ a t, e.KeepsPlace t → Stays col (f a) t) : Stays col (x >>= f) e := by
  intro o e' h
  obtain ⟨a, t, ha, h⟩ := run_bind_eq_ok h
  have hplace := hx a t ha
  obtain ⟨hcol, hrest⟩ := hf a t hplace o e' h
  exact ⟨hcol, IsTrans.trans _ _ _ hplace hrest⟩

theorem stays_pure {o : ExOutcome} (ho : o.col = col) (e : Editor σ) :
    Stays col (pure o : EditorM σ ExOutcome) e := by
  intro o' e' h
  cases h
  exact ⟨ho, refl e⟩

theorem yankLines_keepsPlace {s : LineSpan} {register : Option Char} {n : Nat} {t : Editor σ}
    (he : e.HasCurrent) (hr : (onCurrent (Edit.yankLines s register)).run.run e = (.ok n, t)) :
    e.KeepsPlace t := by
  obtain ⟨d, hd, rfl⟩ := onCurrent_cases hr
  obtain ⟨hl, hcur⟩ := Normal.yankLines_ok hd
  have hplace := setBuffer_keepsPlace he hl hcur
  exact ⟨hplace.lines, hplace.current, hplace.hasCurrent⟩

/-- What follows a step that has moved nothing. -/
theorem stays_after {x : EditorM σ α} {f : α → EditorM σ ExOutcome} (hx : Leads Unmoved x e)
    (hf : ∀ a t, e.KeepsPlace t → Stays col (f a) t) : Stays col (x >>= f) e :=
  stays_bind (fun _ _ hrun => (hx.of_run hrun).keepsPlace) hf

/-- Only the cursor's line has to be kept, so a mark may be set. -/
theorem setMark_stays (range : Range) (name : Char) (he : e.HasCurrent) :
    Stays col (run h (.setMark range name) col) e := by
  refine stays_after (.still (by rw [run_spanOf])) fun span t ht => ?_
  intro o e' hr
  simp only [run_bind, run_buffer, run_orFail] at hr
  cases hset : t.buffer.setMark name span.last with
  | error err =>
    rw [hset] at hr
    cases hr
  | ok b =>
    rw [hset] at hr
    cases hr
    obtain ⟨hl, hcur⟩ := Buffer.setMark_ok hset
    exact ⟨rfl, setBuffer_keepsPlace (ht.hasCurrent he) hl hcur⟩

theorem run_stays {c : ExCommand} (hrule : c.columnRule = .keep) (he : e.HasCurrent) :
    Stays col (run h c col) e := by
  have hlook : Leads Unmoved (get : EditorM σ (Editor σ)) e := .still rfl
  cases c with
  | write path force => exact stays_after (write_unmoved path e) fun _ t _ => stays_pure rfl t
  | listBuffers => exact stays_after hlook fun _ t _ => stays_pure rfl t
  | saveAs path =>
    refine stays_after (.still (resolve_state path e)) fun file t _ => ?_
    exact stays_after (setPath_unmoved file t) fun _ u _ =>
      stays_after (writeCurrent_unmoved u) fun _ v _ => stays_pure rfl v
  | showRegisters names => exact stays_after hlook fun _ t _ => stays_pure rfl t
  | setMark range name => exact setMark_stays range name he
  | yank range register count =>
    refine stays_after (.still (by rw [run_countedSpan])) fun span t ht => ?_
    exact stays_bind (fun _ _ => yankLines_keepsPlace (ht.hasCurrent he))
      fun _ u _ => stays_pure rfl u
  | filter range command =>
    have hrange : range.isImplicit = true := by
      cases hr : range.isImplicit with
      | true => rfl
      | false => simp [ExCommand.columnRule, hr] at hrule
    change Stays col (filter h range command col) e
    unfold filter
    rw [hrange]
    exact stays_after (UpToWorld.unmoved (shellLines_upToWorld command [] e))
      fun _ t _ => stays_pure rfl t
  | set args =>
    refine stays_after hlook fun e₁ t _ => ?_
    have hset : Leads Unmoved
        (modify fun e => { e with options := (e₁.options.applySet args).1 } : EditorM σ Unit) t :=
      unmoved_of_eq rfl rfl
    exact stays_after hset fun _ u _ =>
      stays_after (.still (by rw [run_orFail])) fun _ v _ => stays_pure rfl v
  | selectRegister name =>
    have hselect : Leads Unmoved (modifyBuffer (·.select name)) e := setBuffer_unmoved rfl rfl rfl
    exact stays_after hselect fun _ t _ => stays_pure rfl t
  | _ => cases hrule

end Ex
end ModalEditor
