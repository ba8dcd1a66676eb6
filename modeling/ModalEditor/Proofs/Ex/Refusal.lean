import ModalEditor.Proofs.Ex.Failure

/-!
# Where a refused command leaves the cursor

A command that is refused has not moved the cursor, but the `'x` in front of it have. Each of them goes
to its mark before the rest of the command is looked at, and nothing goes back when the rest fails. So
the cursor is on the line of the last mark that a `'x` has gone to (`ExCommand.lastJump?`), which is the
line of before if none is set. The current buffer is the one of before in any case.
-/

namespace ModalEditor

namespace ExCommand

/-- The line of the last mark that the forms in front of the command go to. -/
def lastJump? (b : Buffer) : ExCommand → Option Nat
  | .atMark mark next otherwise =>
    match b.mark? mark with
    | some n => (next.lastJump? b).or (some n)
    | none => otherwise.lastJump? b
  | .withRegister _ next => next.lastJump? b
  | _ => none

/-- Only the marks decide where the forms in front of a command go. -/
theorem lastJump?_congr {b b' : Buffer} (h : b'.marks = b.marks) (c : ExCommand) :
    c.lastJump? b' = c.lastJump? b := by
  have hmark : ∀ name, b'.mark? name = b.mark? name := fun name => by
    unfold Buffer.mark?
    rw [h]
  induction c with
  | atMark mark next otherwise ihnext ihotherwise =>
    rw [lastJump?, lastJump?, hmark, ihnext, ihotherwise]
  | withRegister name next ih => exact ih
  | _ => rfl

theorem approach_current {b : Buffer} (hb : b.Fits) (c : ExCommand) :
    (c.approach b).current = (c.lastJump? b).getD b.current := by
  induction c generalizing b with
  | atMark mark next otherwise ihnext ihotherwise =>
    rw [approach, lastJump?]
    cases hmark : b.mark? mark with
    | none => exact ihotherwise hb
    | some n =>
      -- A mark is on a line, so that going there does not stop at the last one.
      have hn : (b.goTo n).current = n :=
        Nat.min_eq_left (Nat.le_sub_one_of_lt (hb.mark?_lt hmark))
      have hnext := ihnext ((b.goTo_evolves n).fits hb)
      rw [lastJump?_congr (show (b.goTo n).marks = b.marks from rfl), hn] at hnext
      rw [hnext]
      cases next.lastJump? b <;> rfl
  | withRegister name next ih =>
    have hselect : (next.approach (b.select name)).current =
        (next.lastJump? (b.select name)).getD b.current :=
      ih ((b.selected_evolves (some name)).fits hb)
    rw [lastJump?_congr (show (b.select name).marks = b.marks from rfl)] at hselect
    exact hselect
  | _ => rfl

theorem runsKeys_of_isCompound {c : ExCommand} (hc : c.isCompound = false) :
    c.runsKeys = false := by
  induction c with
  | atMark mark next otherwise ihnext ihotherwise =>
    rw [isCompound, Bool.or_eq_false_iff] at hc
    rw [runsKeys, ihnext hc.1, ihotherwise hc.2]
    rfl
  | withRegister name next ih => exact ih hc
  | normal => cases hc
  | global => cases hc
  | _ => rfl

end ExCommand

namespace Ex

open EditorM Editor

variable {σ : Type} {h : Host σ} {e : Editor σ}

/-- Tables with the same contents have the same numbers in the same places. -/
theorem currentId_eq {t t' : BufferTable} (hcontents : t'.contents = t.contents)
    (hplace : t'.current = t.current) : t'.currentId = t.currentId :=
  congrArg Prod.fst (BufferTable.currentSlot_congr hcontents hplace)

/-- A command without `:norm` and `:g` that is refused, for whatever reason, leaves the current buffer
current. The cursor is on the line of the last mark that a `'x` in front of the command has gone to, or
where it was; only of puts at other lines nothing is said here. -/
theorem refused_at_last_jump (h : Host σ) (c : ExCommand) (hparts : c.isCompound = false)
    (col : Nat) (e : Editor σ) (hf : e.buffers.Fits) (err : EditorError) (e' : Editor σ)
    (hrun : (run h c col).run.run e = (.error err, e')) :
    e'.buffers.current = e.buffers.current ∧ e'.buffers.currentId = e.buffers.currentId ∧
      ((c.base e.buffer).putsAway e.options (c.approach e.buffer) = false →
        e'.buffer.current = (c.lastJump? e.buffer).getD e.buffer.current) := by
  have he : e.HasCurrent := hf.current_lt
  have hplace : e'.buffers.current = e.buffers.current :=
    (run_failed_path c col hf err e' hrun).1
  have hkept : e.KeepsText e' :=
    run_failure (ExCommand.runsKeys_of_isCompound hparts) col hf err e' hrun
  refine ⟨hplace, currentId_eq hkept.buffers hplace, fun haway => ?_⟩
  -- What the forms in front leave is where the plain command starts.
  have hbuffer : (e.setBuffer (c.approach e.buffer)).buffer = c.approach e.buffer :=
    buffer_setBuffer he _
  have hstart : (e.setBuffer (c.approach e.buffer)).buffers.Fits := (approach_quiet c e).fits hf
  rw [run_eq_base h c col e he] at hrun
  have haway : (c.base e.buffer).putsAway (e.setBuffer (c.approach e.buffer)).options
      (e.setBuffer (c.approach e.buffer)).buffer = false := by
    rw [hbuffer]
    exact haway
  have hunmoved : (e.setBuffer (c.approach e.buffer)).Unmoved e' :=
    run_plain_unmoved (c.base_isPlain e.buffer) (ExCommand.base_isCompound hparts e.buffer) haway
      col hstart err e' hrun
  rw [hunmoved.line, hbuffer]
  exact ExCommand.approach_current hf.buffer c

/-- `'a'b9d` on three lines goes to both marks, and fails there. -/
theorem refused_at_last_jump_of_two_marks :
    let e : Editor Memory :=
      { buffers := .ofBuffer
          { lines := ["x".toList, "y".toList, "z".toList], marks := [('a', 1), ('b', 2)] },
        world := {} }
    let delete : ExCommand := .delete (.single { base := .number 9 }) none none
    let c : ExCommand := .atMark 'a' (.atMark 'b' delete (.withRegister 'b' delete))
      (.withRegister 'a' (.atMark 'b' delete (.withRegister 'b' delete)))
    ∃ e', (run (Memory.host "/p".toList) c 0).run.run e = (.error (.lineOutOfRange 9), e') ∧
      e'.buffers.current = 0 ∧ e'.buffers.currentId = 1 ∧ e'.buffer.current = 2 := by
  intro e delete c
  have hfits : e.buffers.Fits := by
    refine ⟨by decide, fun s hs => ?_⟩
    obtain rfl := List.mem_singleton.mp hs
    exact ⟨by decide, by decide, by unfold Buffer.MarksValid; decide⟩
  have hrun : ∃ e', (run (Memory.host "/p".toList) c 0).run.run e =
      (.error (.lineOutOfRange 9), e') := ⟨_, rfl⟩
  obtain ⟨e', hrun⟩ := hrun
  obtain ⟨hplace, hid, hline⟩ := refused_at_last_jump _ c rfl 0 e hfits _ e' hrun
  exact ⟨e', hrun, hplace, hid, hline rfl⟩

/-- `'a9d` fails on two lines, and has gone from the first to the second, where the mark is. -/
theorem refused_jump_moves :
    ¬ ∀ (c : ExCommand) (e : Editor Memory), c.isCompound = false → e.buffers.Fits →
      ∀ n e', (run (Memory.host "/p".toList) c 0).run.run e = (.error (.lineOutOfRange n), e') →
        e'.buffer.current = e.buffer.current := by
  intro hstays
  let delete : ExCommand := .delete (.single { base := .number 9 }) none none
  let e : Editor Memory :=
    { buffers := .ofBuffer { lines := ["x".toList, "y".toList], marks := [('a', 1)] }, world := {} }
  have hfits : e.buffers.Fits := by
    refine ⟨by decide, fun s hs => ?_⟩
    obtain rfl := List.mem_singleton.mp hs
    exact ⟨by decide, by decide, by unfold Buffer.MarksValid; decide⟩
  have hline := hstays (.atMark 'a' delete (.withRegister 'a' delete)) e rfl hfits 9 _ rfl
  exact absurd hline (by decide)

end Ex
end ModalEditor
