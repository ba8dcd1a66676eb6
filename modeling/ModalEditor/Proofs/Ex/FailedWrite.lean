import ModalEditor.Host.Memory
import ModalEditor.Proofs.Ex.Asking

/-!
# Writes that fail

A command that writes the current buffer asks the host once, for one file. If the host fails, so does
the command, and the buffer keeps its lines and its flags. But a command that gives the buffer a path
does so before it writes: `:saveas`, and `:w` or `:wq` with a name if the buffer has no path yet. The
buffer then keeps the new path although nothing was written there, and the next `:w` writes to it.
-/

namespace ModalEditor

namespace ExCommand

/-- The file that a plain command asks the host to write the buffer to. -/
def target? {σ : Type} (h : Host σ) (b : Buffer) : ExCommand → Option Path
  | .write typed _ => h.fileFor? b typed
  | .writeQuit typed => h.fileFor? b typed
  | .exit => if b.modified then b.path else none
  | .saveAs typed => h.fileFor? b (some typed)
  | _ => none

/-- A plain command that gives the buffer the path of the file that it writes. -/
def names (b : Buffer) : ExCommand → Bool
  | .write typed _ => typed.isSome && b.path.isNone
  | .writeQuit typed => typed.isSome && b.path.isNone
  | .saveAs _ => true
  | _ => false

theorem names_congr {b b' : Buffer} (hp : b'.path = b.path) (c : ExCommand) :
    c.names b' = c.names b := by
  cases c <;> simp only [names, hp]

end ExCommand

namespace Ex

open EditorM Editor

variable {σ : Type} {h : Host σ} {e : Editor σ} {file : Path} {failure : IoFailure} {w : σ}

theorem target?_congr {b b' : Buffer} (hp : b'.path = b.path) (hm : b'.modified = b.modified)
    (c : ExCommand) : c.target? h b' = c.target? h b := by
  cases c <;> simp only [ExCommand.target?, fileFor?_congr hp, hp, hm]

/-- The editor after a failed write: the buffer may have another path, and the host was asked. -/
def afterFailure (e : Editor σ) (path : Option Path) (w : σ) : Editor σ :=
  { e.setBuffer { e.buffer with path } with world := w }

theorem afterFailure_own (e : Editor σ) (w : σ) :
    afterFailure e e.buffer.path w = { e with world := w } :=
  congrArg (fun e : Editor σ => { e with world := w }) (setBuffer_buffer e)

theorem buffer_afterFailure (he : e.HasCurrent) (path : Option Path) (w : σ) :
    (afterFailure e path w).buffer = { e.buffer with path } :=
  buffer_setBuffer he { e.buffer with path }

theorem run_writeCurrent_failed (hpath : e.buffer.path = some file)
    (hstore : h.store file e.buffer.toText e.world = (.error failure, w)) :
    (writeCurrent h).run.run e = (.error (.io failure), { e with world := w }) := by
  unfold writeCurrent
  simp only [run_bind, run_buffer, run_writeOwn, hpath, hstore]

/-- Naming the buffer and writing it: the name stays. -/
theorem run_writeAs_failed (he : e.HasCurrent)
    (hstore : h.store file e.buffer.toText e.world = (.error failure, w)) :
    (do
      setPath file
      writeCurrent h : EditorM σ Text).run.run e =
      (.error (.io failure), afterFailure e (some file) w) := by
  have hb := buffer_setBuffer he { e.buffer with path := some file }
  have hnamed : (writeCurrent h).run.run (e.setBuffer { e.buffer with path := some file }) =
      (.error (.io failure), afterFailure e (some file) w) :=
    run_writeCurrent_failed (by rw [hb]) (by rw [hb]; exact hstore)
  unfold setPath
  rw [run_bind, run_modifyBuffer]
  exact hnamed

theorem run_write_failed {typed : Option Path} (he : e.HasCurrent)
    (hfile : h.fileFor? e.buffer typed = some file)
    (hstore : h.store file e.buffer.toText e.world = (.error failure, w)) :
    ∃ path, (write h typed).run.run e = (.error (.io failure), afterFailure e path w) ∧
      path.map Path.components =
        if typed.isSome && e.buffer.path.isNone then some (Path.components file)
        else e.buffer.path.map Path.components := by
  cases typed with
  | none =>
    have hrun := run_writeCurrent_failed hfile hstore
    rw [← afterFailure_own] at hrun
    exact ⟨e.buffer.path, hrun, rfl⟩
  | some typed =>
    have hresolve : h.project.resolve typed = .ok file := resolve_of_fileFor? hfile
    unfold write
    simp only [EditorM.resolve, run_bind, run_orFail, hresolve, run_buffer]
    cases hpath : e.buffer.path with
    | none => exact ⟨some file, run_writeAs_failed he hstore, rfl⟩
    | some own =>
      cases hsame : Path.same own file with
      | true =>
        refine ⟨some file, ?_, ?_⟩
        · simp only [Option.any_some, hsame]
          exact run_writeAs_failed he hstore
        · have hcomponents : Path.components own = Path.components file := by
            simpa [Path.same] using hsame
          simp [hcomponents]
      | false =>
        refine ⟨e.buffer.path, ?_, ?_⟩
        · simp only [Option.any_some, hsame, Bool.not_false, if_true, run_bind, run_writeTo,
            hstore, afterFailure_own]
        · simp [hpath]

/-- A plain command that is to write the buffer, when the host does not write it. -/
theorem run_plain_failed {c : ExCommand} (col : Nat) (he : e.HasCurrent)
    (hfile : c.target? h e.buffer = some file)
    (hstore : h.store file e.buffer.toText e.world = (.error failure, w)) :
    ∃ path, (run h c col).run.run e = (.error (.io failure), afterFailure e path w) ∧
      path.map Path.components =
        if c.names e.buffer then some (Path.components file)
        else e.buffer.path.map Path.components := by
  cases c with
  | write typed force =>
    obtain ⟨path, hrun, hpath⟩ := run_write_failed he hfile hstore
    exact ⟨path, by rw [run, run_bind, hrun], hpath⟩
  | writeQuit typed =>
    obtain ⟨path, hrun, hpath⟩ := run_write_failed he hfile hstore
    exact ⟨path, by rw [run, run_bind, hrun], hpath⟩
  | exit =>
    have hown : e.buffer.modified = true ∧ e.buffer.path = some file := by
      simpa [ExCommand.target?] using hfile
    have hrun := run_writeCurrent_failed hown.2 hstore
    rw [← afterFailure_own] at hrun
    refine ⟨e.buffer.path, ?_, rfl⟩
    rw [run, run_bind, run_buffer]
    simp only [hown.1, if_true, run_bind, write, hrun]
  | saveAs typed =>
    have hresolve : h.project.resolve typed = .ok file :=
      resolve_of_fileFor? (b := e.buffer) hfile
    have hsaved : (run h (.saveAs typed) col).run.run e = (do
        let message ← (do
          setPath file
          writeCurrent h)
        return { col, message := some message } : EditorM σ ExOutcome).run.run e := by
      rw [run]
      simp only [EditorM.resolve, run_bind, run_orFail, hresolve]
      rfl
    refine ⟨some file, ?_, rfl⟩
    rw [hsaved, run_bind, run_writeAs_failed he hstore]
  | _ => cases hfile

/-- If the host does not write the current buffer, the command fails, and the buffer keeps its lines
and its flags. It keeps its path too, unless the command gives it another one. -/
theorem failed_write_keeps_buffer (h : Host σ) (c : ExCommand) (col : Nat) (e : Editor σ)
    (he : e.HasCurrent) (file : Path) (failure : IoFailure) (w : σ)
    (hfile : (c.base e.buffer).target? h e.buffer = some file)
    (hstore : h.store file e.buffer.toText e.world = (.error failure, w)) :
    ∃ e', (run h c col).run.run e = (.error (.io failure), e') ∧
      e'.buffers.current = e.buffers.current ∧
      e'.buffer.lines = e.buffer.lines ∧
      e'.buffer.modified = e.buffer.modified ∧
      e'.buffer.isNew = e.buffer.isNew ∧
      (e'.buffer.path.map Path.components = e.buffer.path.map Path.components ↔
        ((c.base e.buffer).names e.buffer = true → e.buffer.path.any (Path.same · file) = true)) := by
  obtain ⟨current, selected, happroach⟩ := c.approach_eq e.buffer
  obtain ⟨hpath, hmod, htext⟩ := approach_fields e.buffer c
  have he₁ : (e.setBuffer (c.approach e.buffer)).HasCurrent := he.setBuffer _
  have hb : (e.setBuffer (c.approach e.buffer)).buffer = c.approach e.buffer :=
    buffer_setBuffer he _
  obtain ⟨path, hrun, hnamed⟩ := run_plain_failed (c := c.base e.buffer) col he₁
    (by rw [hb, target?_congr hpath hmod]; exact hfile) (by rw [hb, htext]; exact hstore)
  rw [hb, ExCommand.names_congr hpath, hpath] at hnamed
  have hafter := buffer_afterFailure he₁ path w
  rw [hb, happroach] at hafter
  refine ⟨afterFailure (e.setBuffer (c.approach e.buffer)) path w, ?_, rfl, ?_, ?_, ?_, ?_⟩
  · rw [run_eq_base h c col e he]
    exact hrun
  · rw [happroach, hafter]
  · rw [happroach, hafter]
  · rw [happroach, hafter]
  · rw [happroach, hafter, Path.any_same_iff]
    change path.map Path.components = _ ↔ _
    rw [hnamed]
    cases hnames : (c.base e.buffer).names e.buffer with
    | true => simp [eq_comm]
    | false => simp

/-- A copy of a changed buffer cannot be written. -/
theorem failed_write_keeps_buffer_of_copy :
    let h := Memory.host "/p".toList
    let b : Buffer := { path := some "/p/f".toList, lines := ["x".toList], modified := true }
    let e : Editor Memory :=
      { buffers := .ofBuffer b, world := { storeFaults := [("/p/g".toList, ⟨.other, []⟩)] } }
    ∃ e', (run h (.write (some "g".toList) false) 0).run.run e = (.error (.io ⟨.other, []⟩), e') ∧
      e'.buffer.lines = b.lines ∧ e'.buffer.modified = true ∧
      e'.buffer.path.map Path.components = some (Path.components "/p/f".toList) := by
  intro h b e
  obtain ⟨e', hrun, -, hlines, hmod, -, hpath⟩ := failed_write_keeps_buffer h
    (.write (some "g".toList) false) 0 e Nat.one_pos "/p/g".toList ⟨.other, []⟩ e.world
    (by decide +kernel) rfl
  exact ⟨e', hrun, hlines, hmod, hpath.mpr (by decide +kernel)⟩

/-- The buffer of one file is to be saved as another one, which cannot be written. -/
theorem failed_saveAs_renames :
    let h := Memory.host "/p".toList
    let b : Buffer := { path := some "/p/f".toList, lines := ["x".toList] }
    let e : Editor Memory :=
      { buffers := .ofBuffer b, world := { storeFaults := [("/p/g".toList, ⟨.other, []⟩)] } }
    ∃ e', (run h (.saveAs "g".toList) 0).run.run e = (.error (.io ⟨.other, []⟩), e') ∧
      e.buffer.path = some "/p/f".toList ∧ e'.buffer.path = some "/p/g".toList :=
  ⟨_, rfl, rfl, rfl⟩

end Ex
end ModalEditor
