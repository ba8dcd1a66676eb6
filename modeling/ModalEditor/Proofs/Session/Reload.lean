import ModalEditor.Proofs.Buffer.RoundTrip
import ModalEditor.Proofs.Session.Valid

/-!
# Saving a buffer and reading it again

On files in memory a buffer that was written can be read again, and the text that is read is the
one that was written. So the lines that come back are those of `Buffer.lines_ofText_toText`: all of
them, unless the last of several lines is empty and the buffer is one whose last line has no ending.
Such a buffer comes about when a line is opened at the end of a file that did not end in a line
break.
-/

namespace ModalEditor

/-- The host keeps its files in memory, and no shell command makes a file unreadable. -/
structure Host.InMemory (h : Host Memory) : Prop where
  /-- Files are read from memory. -/
  load : h.load = Memory.load
  /-- Files are written to memory. -/
  store : h.store = Memory.store
  /-- Shell commands make no reads fail. -/
  run : ∀ call m, (h.run call m).2.loadFaults = m.loadFaults

namespace Memory

theorem inMemory_host (root : Path) : (host root).InMemory := ⟨rfl, rfl, fun _ _ => rfl⟩

/-- What was put for a path is kept for it. -/
theorem at?_put (path : Path) (text : Text) (files : List (Path × Text)) :
    at? path (put path text files) = some text := by
  induction files with
  | nil => simp [put, at?, Path.same]
  | cons f files ih =>
    obtain ⟨p, t⟩ := f
    unfold put
    split
    · rename_i hsame
      simp [at?, hsame]
    · rename_i hother
      simpa [at?, hother] using ih

/-- A text that was written is read again. -/
theorem load_store {path : Path} {text : Text} {m m' : Memory} (hm : m.loadFaults = [])
    (hs : store path text m = (.ok (), m')) : load path m' = (.ok (some text), m') := by
  unfold store at hs
  split at hs
  · cases hs
  · cases hs
    simp [load, hm, at?_put, show at? path ([] : List (Path × IoFailure)) = none from rfl]

end Memory

namespace Host.InMemory

variable {h : Host Memory}

/-- In memory no read ever fails if none did at the start. -/
theorem keeps_readable (hh : h.InMemory) : h.Keeps fun m => m.loadFaults = [] where
  load path m hm := by
    rw [hh.load]
    unfold Memory.load
    split <;> exact hm
  store path text m hm := by
    rw [hh.store]
    unfold Memory.store
    split <;> exact hm
  run call m hm := (hh.run call m).trans hm

end Host.InMemory

namespace Ex

open EditorM

variable {σ : Type} {h : Host σ} {e e' : Editor σ}

/-- A buffer that was written has a path, and the host has stored its text there. -/
theorem run_write_ok {force : Bool} {col : Nat} {o : ExOutcome}
    (hr : (run h (.write none force) col).run.run e = (.ok o, e')) :
    ∃ path w, e.buffer.path = some path ∧ h.store path e.buffer.toText e.world = (.ok (), w) ∧
      e' = ({ e with world := w } : Editor σ).setBuffer e.buffer.saved := by
  obtain ⟨message, e₁, hwrite, hr⟩ := run_bind_eq_ok hr
  cases hr
  obtain ⟨b, e₁, hbuffer, hwrite⟩ := run_bind_eq_ok hwrite
  cases hbuffer
  obtain ⟨size, e₁, hown, hwrite⟩ := run_bind_eq_ok hwrite
  cases hwrite
  rw [run_writeOwn] at hown
  cases hpath : e.buffer.path with
  | none =>
    rw [hpath] at hown
    cases hown
  | some path =>
    rw [hpath] at hown
    dsimp only at hown
    rcases hstore : h.store path e.buffer.toText e.world with ⟨_ | ⟨⟩, w⟩ <;>
      rw [hstore] at hown <;> cases hown
    exact ⟨path, w, rfl, hstore, rfl⟩

/-- A buffer that was written to memory is replaced by what its text is read as. -/
theorem run_edit_after_write {h : Host Memory} (hh : h.InMemory) {e e' : Editor Memory}
    (he : e.HasCurrent) (hm : e.world.loadFaults = []) {force : Bool} {col : Nat} {o : ExOutcome}
    (hr : (run h (.write none force) col).run.run e = (.ok o, e')) (again : Bool) (col' : Nat) :
    ∃ path o' e'', e.buffer.path = some path ∧
      (run h (.edit none again) col').run.run e' = (.ok o', e'') ∧
      e''.buffer = .ofText (some path) e.buffer.toText := by
  obtain ⟨path, w, hpath, hstore, he'⟩ := run_write_ok hr
  have hcurrent : e'.HasCurrent := by
    rw [he']
    exact Editor.HasCurrent.setBuffer (e := { e with world := w }) he _
  have hbuffer : e'.buffer = e.buffer.saved := by
    rw [he']
    exact Editor.buffer_setBuffer (e := { e with world := w }) he _
  have hload : h.load path e'.world = (.ok (some e.buffer.toText), w) := by
    rw [hh.store] at hstore
    rw [he', hh.load]
    exact Memory.load_store hm hstore
  have hfile : h.fileFor? e'.buffer none = some path := by
    rw [hbuffer]
    exact hpath
  have hown : e'.buffer.path.any (Path.same · path) = true := by
    rw [hbuffer, show e.buffer.saved.path = some path from hpath]
    simp [Path.same]
  have hkept : ¬ ((e.buffer.saved.modified && !again) = true) := by simp [Buffer.saved]
  have hedit := run_edit_own again hcurrent hfile hown
  rw [hbuffer, if_neg hkept, hload] at hedit
  exact ⟨path, _, _, hpath, hedit, Editor.buffer_setBuffer (e := { e' with world := w }) hcurrent _⟩

end Ex

namespace Session

open Buffer

/-- After a successful `:w` the lines come back with `:e`, but for the last of several lines if it
is empty and the buffer is one whose last line has no ending. Lines that have a line break come back
as several; no typed character brings one in. -/
theorem reload_after_write (h : Host Memory) (hh : h.InMemory) (o : Options) (m : Memory)
    (hm : m.loadFaults = []) (file : Path) (s₀ : Session Memory)
    (hs : openPath h o m file = .ok s₀) (keys : List Key)
    (hr : ∀ l ∈ (s₀.after h keys).buffer.lines, l.getLast? ≠ some '\r')
    (force : Bool) (col : Nat) (out : ExOutcome) (e : Editor Memory)
    (hw : (Ex.run h (.write none force) col).run.run (s₀.after h keys).editor = (.ok out, e))
    (again : Bool) (col' : Nat) :
    (∃ out' e', (Ex.run h (.edit none again) col').run.run e = (.ok out', e') ∧
      (e'.buffer.lines = (s₀.after h keys).buffer.lines ↔
        Unbroken (s₀.after h keys).buffer.lines ∧ ¬ (s₀.after h keys).buffer.LosesLastLine)) ∧
    ('\n' ∉ h.project.root → '\n' ∉ file → (∀ key ∈ keys, key ≠ .char '\n') →
      Unbroken (s₀.after h keys).buffer.lines) := by
  have hbegin : begin h o m (some file) = .ok s₀ := hs
  have hf := after_fits (h := h) (begin_fits hbegin) keys
  refine ⟨?_, fun hroot hfile hkeys => ?_⟩
  · have hstart : s₀.editor.world.loadFaults = [] := by
      obtain ⟨p, text, -, -, rfl⟩ := openPath_eq_ok hs
      exact hh.keeps_readable.load p m hm
    have hnow := after_world hh.keeps_readable (begin_fits hbegin) hstart keys
    obtain ⟨path, out', e', -, hedit, hback⟩ :=
      Ex.run_edit_after_write hh hf.current_lt hnow hw again col'
    refine ⟨out', e', hedit, ?_⟩
    rw [hback]
    exact lines_ofText_toText _ hf.buffer.nonempty hr
  · have hsound := (begin_sound hroot (fun p hp => Option.some_inj.mp hp ▸ hfile) hbegin).after
      hroot hkeys
    exact hsound.unbroken.buffers.buffer.lines

/-- A file whose last line has no ending is changed, saved and read again. -/
theorem reload_after_write_no_final_break :
    ∃ s₀, openPath (Memory.host "/p".toList) {} { files := [("/p/f".toList, "a\nb".toList)] }
        "f".toList = .ok s₀ ∧
      ∃ out e, (Ex.run (Memory.host "/p".toList) (.write none false) 0).run.run
          (s₀.after (Memory.host "/p".toList) ("yyp".toList.map Key.ofChar)).editor =
            (.ok out, e) ∧
        ∃ out' e', (Ex.run (Memory.host "/p".toList) (.edit none false) 0).run.run e =
            (.ok out', e') ∧
          e'.buffer.lines = ["a".toList, "a".toList, "b".toList] := by
  have hback := (reload_after_write (Memory.host "/p".toList) (Memory.inMemory_host _) {}
    { files := [("/p/f".toList, "a\nb".toList)] } rfl "f".toList _ rfl
    ("yyp".toList.map Key.ofChar) (by decide) false 0 _ _ rfl false 0).1
  obtain ⟨out', e', hedit, hlines⟩ := hback
  exact ⟨_, rfl, _, _, rfl, out', e', hedit, hlines.mpr (by decide)⟩

/-- A file without a final line break gets an empty line at its end. It is saved, and it is gone
when the file is read again. -/
theorem reload_loses_last_line :
    ((openPath (Memory.host "/p".toList) {} { files := [("/p/f".toList, "a".toList)] }
      "f".toList).toOption.map fun s₀ =>
        let s := s₀.after (Memory.host "/p".toList) ("o\x1b".toList.map Key.ofChar)
        let saved := s.after (Memory.host "/p".toList) (":w\r".toList.map Key.ofChar)
        let reloaded := saved.after (Memory.host "/p".toList) (":e\r".toList.map Key.ofChar)
        (s.buffer.lines, saved.buffer.modified, reloaded.buffer.lines)) =
      some (["a".toList, []], false, ["a".toList]) := by
  rfl

end Session
end ModalEditor
