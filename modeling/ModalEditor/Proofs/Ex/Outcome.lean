import ModalEditor.Proofs.Ex.Prefix

/-!
# What commands answer

A command that succeeds says in which column the cursor then is, and whether the session goes on.
The column is where the text of the line begins, that of before, or the one that keys of normal mode
lead to: `ExCommand.columnRule`. A command that ends the session (`Ex.endsSession`) says the start of
the line, and all others that the session goes on.

All of this is said at the end of a command, so what is shown of its last step holds of the whole
(`Ex.answers_bind`).
-/

namespace ModalEditor

/-- Which column a command ends at. -/
inductive ColumnRule where
  /-- The first character of the line that is not blank, or the start of the line. -/
  | home
  /-- The column of before. -/
  | keep
  /-- The column at which keys of normal mode end. -/
  | keys
deriving DecidableEq

/-- The column at which a plain command ends. -/
def ExCommand.columnRule : ExCommand → ColumnRule
  | .write _ _ | .listBuffers | .saveAs _ | .showRegisters _ | .setMark _ _ | .yank _ _ _
  | .set _ | .selectRegister _ => .keep
  | .filter range _ => if range.isImplicit then .keep else .home
  | .normal _ _ => .keys
  | _ => .home

namespace Ex

open EditorM

variable {σ α : Type} {h : Host σ} {col : Nat}

/-- A plain command that ends the session. -/
def endsSession : ExCommand → Bool
  | .writeQuit _ | .exit | .quit _ => true
  | _ => false

/-- If the step succeeds, `P` holds of the outcome and of the editor that is left. -/
def Answers (P : ExOutcome → Editor σ → Prop) (x : EditorM σ ExOutcome) : Prop :=
  ∀ e o e', x.run.run e = (.ok o, e') → P o e'

/-- The session goes on, and the cursor is where the text of its line begins. -/
structure AtHome (o : ExOutcome) (e : Editor σ) : Prop where
  /-- The session goes on. -/
  quit : o.quit = false
  /-- The column is that of the first character that is not blank, or the start of the line. -/
  col : o.col = e.buffer.home

/-! ## Steps -/

variable {P Q : ExOutcome → Editor σ → Prop} {x y : EditorM σ ExOutcome}

theorem Answers.mono (hx : Answers P x) (hPQ : ∀ o e, P o e → Q o e) : Answers Q x :=
  fun e o e' hrun => hPQ o e' (hx e o e' hrun)

theorem answers_pure {o : ExOutcome} (ho : ∀ e, P o e) : Answers P (pure o) := by
  intro e o' e' hrun
  cases hrun
  exact ho e

theorem answers_throw (err : EditorError) : Answers P (throw err) := by
  intro e o e' hrun
  cases hrun

theorem answers_bind {x : EditorM σ α} {f : α → EditorM σ ExOutcome}
    (hf : ∀ a, Answers P (f a)) : Answers P (x >>= f) := by
  intro e o e' hrun
  obtain ⟨a, t, -, hrun⟩ := run_bind_eq_ok hrun
  exact hf a t o e' hrun

theorem answers_ite {p : Prop} [Decidable p] (hx : Answers P x) (hy : Answers P y) :
    Answers P (if p then x else y) := by
  split
  · exact hx
  · exact hy

/-- The last thing a command does is to look at the buffer and to say something. -/
theorem atHome_say {f : Buffer → ExOutcome} (hquit : ∀ b, (f b).quit = false)
    (hcol : ∀ b, (f b).col = b.home) :
    Answers AtHome (do return f (← buffer) : EditorM σ ExOutcome) := by
  intro e o e' hrun
  cases hrun
  exact ⟨hquit _, hcol _⟩

/-! ## Commands -/

theorem atHome_goToBuffer (change : BufferTable → BufferTable) :
    Answers AtHome (goToBuffer change : EditorM σ ExOutcome) :=
  answers_bind fun _ => atHome_say (fun _ => rfl) fun _ => rfl

theorem atHome_edit (typed : Option Path) (force : Bool) : Answers AtHome (edit h typed force) := by
  have hload : Answers AtHome (do
      let b ← buffer
      return { col := b.home, message := some (loadMessage b) } : EditorM σ ExOutcome) :=
    atHome_say (fun _ => rfl) fun _ => rfl
  refine answers_bind fun file => answers_bind fun b => answers_ite (answers_ite ?_ ?_) ?_
  · exact answers_bind fun _ => answers_bind fun _ => answers_bind fun _ => hload
  · exact answers_bind fun _ => answers_bind fun _ => hload
  · exact answers_bind fun _ => hload

theorem atHome_substitute (range : Range) (pattern replacement : Text) (flags : SubFlags) :
    Answers AtHome (substitute range pattern replacement flags : EditorM σ ExOutcome) := by
  refine answers_bind fun _ => answers_bind fun _ => answers_bind fun _ => answers_bind fun _ => ?_
  intro e o e' hrun
  rw [run_bind, run_buffer] at hrun
  dsimp only at hrun
  split at hrun
  · cases hrun
  split at hrun <;> cases hrun <;> exact ⟨rfl, rfl⟩

theorem atHome_global (range : Range) (pattern : Text) (inverse : Bool) (action : GlobalAction) :
    Answers AtHome (global range pattern inverse action : EditorM σ ExOutcome) := by
  refine answers_bind fun span => answers_bind fun before => ?_
  have hvisit : Answers AtHome (do
      let o := (← get).options
      let _ ← onCurrent (Edit.global span pattern inverse o (globalEdit action o))
      let b ← buffer
      return ⟨b.home, lineReport (before.lineCount - b.lineCount) "fewer lines", false⟩ :
      EditorM σ ExOutcome) :=
    answers_bind fun _ => answers_bind fun _ => atHome_say (fun _ => rfl) fun _ => rfl
  cases action with
  | substitute pattern replacement flags => exact answers_bind fun _ => hvisit
  | delete => exact hvisit
  | normal keys => exact hvisit

theorem atHome_of_rule {c : ExCommand} (hc : c.IsPlain) (hrule : c.columnRule = .home)
    (hend : endsSession c = false) : Answers AtHome (run h c col) := by
  cases c with
  | goto range =>
    exact answers_bind fun _ => answers_bind fun _ => atHome_say (fun _ => rfl) fun _ => rfl
  | edit path force => exact atHome_edit path force
  | nextBuffer => exact atHome_goToBuffer _
  | previousBuffer => exact atHome_goToBuffer _
  | switchBuffer reference =>
    exact answers_bind fun _ => answers_bind fun _ => atHome_goToBuffer _
  | read range source =>
    exact answers_bind fun ⟨_, _⟩ => answers_bind fun _ => answers_bind fun _ =>
      atHome_say (fun _ => rfl) fun _ => rfl
  | delete range register count =>
    exact answers_bind fun _ => answers_bind fun _ => atHome_say (fun _ => rfl) fun _ => rfl
  | put range register above =>
    exact answers_bind fun _ => answers_bind fun _ => answers_bind fun _ =>
      atHome_say (fun _ => rfl) fun _ => rfl
  | substitute range pattern replacement flags => exact atHome_substitute range _ _ _
  | repeatSubstitute range flags =>
    refine answers_bind fun e => ?_
    split
    · exact answers_throw _
    · exact atHome_substitute _ _ _ _
  | global range pattern inverse action => exact atHome_global range pattern inverse action
  | filter range command =>
    have hrange : range.isImplicit = false := by
      cases hr : range.isImplicit with
      | false => rfl
      | true => simp [ExCommand.columnRule, hr] at hrule
    change Answers AtHome (filter h range command col)
    unfold filter
    rw [hrange]
    exact answers_bind fun _ => answers_bind fun _ => atHome_say (fun _ => rfl) fun _ => rfl
  | writeQuit path => cases hend
  | exit => cases hend
  | quit force => cases hend
  | atMark => cases hc
  | withRegister => cases hc
  | _ => cases hrule

/-- A command that does not go to where the text of a line begins does not end the session either. -/
theorem notQuit_of_rule {c : ExCommand} (hc : c.IsPlain) (hrule : c.columnRule ≠ .home) :
    Answers (fun o _ => o.quit = false) (run h c col) := by
  cases c with
  | write path force => exact answers_bind fun _ => answers_pure fun _ => rfl
  | listBuffers => exact answers_bind fun _ => answers_pure fun _ => rfl
  | saveAs path =>
    exact answers_bind fun _ => answers_bind fun _ => answers_bind fun _ =>
      answers_pure fun _ => rfl
  | showRegisters names => exact answers_bind fun _ => answers_pure fun _ => rfl
  | setMark range name =>
    exact answers_bind fun _ => answers_bind fun _ => answers_bind fun _ => answers_bind fun _ =>
      answers_pure fun _ => rfl
  | yank range register count =>
    exact answers_bind fun _ => answers_bind fun _ => answers_pure fun _ => rfl
  | normal range keys =>
    exact answers_ite (answers_bind fun _ => answers_pure fun _ => rfl)
      (answers_bind fun _ => answers_bind fun _ => answers_pure fun _ => rfl)
  | filter range command =>
    have hrange : range.isImplicit = true := by
      cases hr : range.isImplicit with
      | true => rfl
      | false => exact absurd (by simp [ExCommand.columnRule, hr]) hrule
    change Answers _ (filter h range command col)
    unfold filter
    rw [hrange]
    exact answers_bind fun _ => answers_pure fun _ => rfl
  | set args =>
    exact answers_bind fun _ => answers_bind fun _ => answers_bind fun _ =>
      answers_pure fun _ => rfl
  | selectRegister name => exact answers_bind fun _ => answers_pure fun _ => rfl
  | atMark => cases hc
  | withRegister => cases hc
  | _ => exact absurd rfl hrule

theorem atStart_of_ends {c : ExCommand} (hend : endsSession c = true) :
    Answers (fun o _ => o.col = 0) (run h c col) := by
  have hquit : Answers (fun o _ => o.col = 0) (do
      checkSaved
      return quitOutcome : EditorM σ ExOutcome) :=
    answers_bind fun _ => answers_pure fun _ => rfl
  cases c with
  | writeQuit path => exact answers_bind fun _ => hquit
  | exit => exact answers_bind fun _ => answers_ite (answers_bind fun _ => hquit) hquit
  | quit force =>
    cases force with
    | true => exact answers_pure fun _ => rfl
    | false => exact hquit
  | _ => cases hend

end Ex
end ModalEditor
