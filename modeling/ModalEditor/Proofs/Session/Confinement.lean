import ModalEditor.Proofs.Path.Containment
import ModalEditor.Proofs.Session.Asking
import ModalEditor.Proofs.Session.Reload

/-!
# Files stay in the project

A path reaches the host from a typed argument, which the project has to accept, or from a buffer
that remembers it. So the invariant is that the buffers stand for files in the project only
(`BufferTable.FilesConfined`), and each key asks for one thing at most, with a path of either kind.

The calls are seen by a host that keeps them beside its state (`Host.recorded`).
-/

namespace ModalEditor

section Calls

variable {σ : Type}

/-- The host, with all calls that were made, first to last. -/
def Host.recorded (h : Host σ) : Host (σ × List HostCall) where
  project := h.project
  load path := fun (w, calls) =>
    ((h.load path w).1, (h.load path w).2, calls ++ [.load path])
  store path text := fun (w, calls) =>
    ((h.store path text w).1, (h.store path text w).2, calls ++ [.store path text])
  run call := fun (w, calls) => ((h.run call w).1, (h.run call w).2, calls ++ [.run call])

theorem Host.perform_recorded (h : Host σ) (call : HostCall) (w : σ × List HostCall) :
    h.recorded.perform call w = (h.perform call w.1, w.2 ++ [call]) := by cases call <;> rfl

/-- The call stays in the project at `root`. -/
def HostCall.Confined (root : Path) : HostCall → Prop
  | .load path => Path.Confined root path
  | .store path _ => Path.Confined root path
  | .run _ => True

end Calls

namespace BufferTable

variable {t u : BufferTable} {root file : Path}

/-- All buffers stand for files in the project at `root`. -/
def FilesConfined (root : Path) (t : BufferTable) : Prop :=
  ∀ p, some (Path.components p) ∈ t.files → Path.Confined root p

theorem FilesConfined.mono (ht : t.FilesConfined root)
    (hu : ∀ f ∈ u.files, f ∈ t.files ∨ f = some (Path.components file))
    (hfile : Path.Confined root file) : u.FilesConfined root := by
  intro p hp
  rcases hu _ hp with hp | hp
  · exact ht p hp
  · exact hfile.congr (Option.some_inj.mp hp)

theorem FilesConfined.of_files_eq (ht : t.FilesConfined root) (hu : u.files = t.files) :
    u.FilesConfined root := fun p hp => ht p (hu ▸ hp)

theorem FilesConfined.buffer (ht : t.FilesConfined root) (hcur : t.current < t.slots.length)
    (hfile : t.buffer.path = some file) : Path.Confined root file := by
  have hget := getElem?_files_current hcur
  rw [hfile] at hget
  exact ht file (List.mem_of_getElem? hget)

end BufferTable

namespace Session

open Editor

variable {σ : Type} {h : Host σ} {root : Path} {s : Session σ}

theorem names_confined (hproject : h.project = .ofRoot root) (hf : s.editor.buffers.Fits)
    (hs : s.editor.buffers.FilesConfined root) {file : Path} (hnames : h.Names s.buffer file) :
    Path.Confined root file := by
  obtain ⟨typed, hfile⟩ := hnames
  cases typed with
  | none => exact hs.buffer hf.current_lt hfile
  | some typed =>
    have hr := Ex.resolve_of_fileFor? hfile
    rw [hproject] at hr
    exact Project.resolve_confined hr

theorem allows_confined (hproject : h.project = .ofRoot root) (hf : s.editor.buffers.Fits)
    (hs : s.editor.buffers.FilesConfined root) {call : HostCall}
    (hallowed : h.Allows s.buffer call) : call.Confined root := by
  cases call with
  | load file => exact names_confined hproject hf hs hallowed
  | store file text => exact names_confined hproject hf hs hallowed.1
  | run call => trivial

/-- Every key asks the host for one thing at most, in the project. What it may ask it to write is
the text of the buffer. -/
theorem press_confined (hproject : h.project = .ofRoot root) (hf : s.editor.buffers.Fits)
    (hs : s.editor.buffers.FilesConfined root) (key : Key) :
    (s.press h key).1.editor.buffers.FilesConfined root ∧
      ((s.press h key).1.editor.world = s.editor.world ∨
        ∃ call, call.Confined root ∧ h.Allows s.buffer call ∧
          (s.press h key).1.editor.world = h.perform call s.editor.world) := by
  rcases press_cases h hf key with ⟨c, file, -, hown, hsaves⟩ | hasks
  · have hallowed : h.Allows s.buffer (.store file s.buffer.toText) :=
      ⟨Ex.names_of_ownFile? hown, rfl⟩
    have hfile := allows_confined hproject hf hs hallowed
    refine ⟨hs.mono (fun f hmem => ?_) hfile, .inr ⟨_, hfile, hallowed, hsaves.world⟩⟩
    rw [hsaves.files] at hmem
    exact List.mem_or_eq_of_mem_set hmem
  · cases hasks with
    | nothing hworld hfiles => exact ⟨hs.of_files_eq hfiles, .inl hworld⟩
    | call call hallowed hworld hfiles =>
      exact ⟨hs.of_files_eq hfiles,
        .inr ⟨call, allows_confined hproject hf hs hallowed, hallowed, hworld⟩⟩
    | opened typed file hr hnew hworld hfiles =>
      have hallowed : h.Allows s.buffer (.load file) := ⟨some typed, Ex.fileFor?_of_resolve hr⟩
      have hfile := allows_confined hproject hf hs hallowed
      refine ⟨hs.mono (fun f hmem => ?_) hfile, .inr ⟨_, hfile, hallowed, hworld⟩⟩
      rw [hfiles] at hmem
      simpa using hmem

/-- The buffers and all calls that were recorded stay in the project. -/
structure Confined (root : Path) (s : Session (σ × List HostCall)) : Prop where
  /-- Cursors and marks fit. -/
  fits : s.editor.buffers.Fits
  /-- The buffers stand for files in the project. -/
  files : s.editor.buffers.FilesConfined root
  /-- So do the calls. -/
  calls : ∀ call ∈ s.editor.world.2, call.Confined root

theorem Confined.press (hproject : h.project = .ofRoot root) {s : Session (σ × List HostCall)}
    (hs : s.Confined root) (key : Key) : (s.press h.recorded key).1.Confined root := by
  obtain ⟨hfiles, hworld⟩ := press_confined (h := h.recorded) hproject hs.fits hs.files key
  refine ⟨press_fits hs.fits key, hfiles, fun call hcall => ?_⟩
  rcases hworld with hworld | ⟨asked, hasked, -, hworld⟩
  · rw [hworld] at hcall
    exact hs.calls call hcall
  · rw [hworld, Host.perform_recorded] at hcall
    rcases List.mem_append.mp hcall with hcall | hcall
    · exact hs.calls call hcall
    · obtain rfl := List.mem_singleton.mp hcall
      exact hasked

theorem Confined.after (hproject : h.project = .ofRoot root) {s : Session (σ × List HostCall)}
    (hs : s.Confined root) (keys : List Key) : (s.after h.recorded keys).Confined root :=
  after_induction (P := Confined root) hs fun _ ht key _ => ht.press hproject key

theorem begin_confined (hproject : h.project = .ofRoot root) {o : Options} {world : σ}
    {file : Option Path} {s : Session (σ × List HostCall)}
    (hs : begin h.recorded o (world, []) file = .ok s) : s.Confined root := by
  have hf := begin_fits hs
  cases file with
  | none =>
    cases hs
    refine ⟨hf, fun p hp => ?_, fun call hcall => ?_⟩
    · cases List.mem_singleton.mp hp
    · cases hcall
  | some typed =>
    have hopen : openPath h.recorded o (world, []) typed = .ok s := hs
    obtain ⟨file, text, hr, -, rfl⟩ := openPath_eq_ok hopen
    have hresolve : (Project.ofRoot root).resolve typed = .ok file := by
      rw [← hproject]
      exact hr
    have hfile := Project.resolve_confined hresolve
    refine ⟨hf, fun p hp => ?_, fun call hcall => ?_⟩
    · have hpath : (Buffer.ofFile file text).path = some file := by cases text <;> rfl
      have hfiles : some (Path.components p) =
          (Buffer.ofFile file text).path.map Path.components := List.mem_singleton.mp hp
      rw [hpath] at hfiles
      exact hfile.congr (Option.some_inj.mp hfiles)
    · obtain rfl := List.mem_singleton.mp hcall
      exact hfile

end Session

/-! ## Files in memory -/

/-- The host keeps its files in memory, where shell commands do not reach them. -/
structure Host.KeepsFiles (h : Host Memory) : Prop where
  /-- Files are read from memory. -/
  load : h.load = Memory.load
  /-- Files are written to memory. -/
  store : h.store = Memory.store
  /-- Shell commands leave all files alone. -/
  run : ∀ call m, (h.run call m).2.files = m.files

namespace Memory

theorem keepsFiles_host (root : Path) : (host root).KeepsFiles := ⟨rfl, rfl, fun _ _ => rfl⟩

theorem at?_put_other {path other : Path} (h : Path.same other path = false) (text : Text)
    (files : List (Path × Text)) : at? other (put path text files) = at? other files := by
  have hne : Path.components other ≠ Path.components path :=
    fun heq => Bool.false_ne_true (h.symm.trans (Path.same_iff.mpr heq))
  induction files with
  | nil => simp [put, at?, Path.same, hne.symm]
  | cons f rest ih =>
    obtain ⟨p, t⟩ := f
    unfold put
    split
    · rename_i hsame
      simp [at?, Path.same, Path.same_iff.mp hsame, hne.symm]
    · unfold at? at ih ⊢
      rw [List.find?_cons, List.find?_cons]
      split
      · rfl
      · exact ih

/-- The files after a call: those from before, but for one that the host was asked to write. -/
theorem perform_files {h : Host Memory} (hh : h.KeepsFiles) (call : HostCall) (m : Memory) :
    (h.perform call m).files = m.files ∨
      ∃ path text, call = .store path text ∧ (h.perform call m).files = put path text m.files := by
  cases call with
  | load path =>
    refine .inl ?_
    rw [Host.perform, hh.load]
    unfold Memory.load
    split <;> rfl
  | store path text =>
    rw [Host.perform, hh.store]
    unfold Memory.store
    split
    · exact .inl rfl
    · exact .inr ⟨path, text, rfl, rfl⟩
  | run call => exact .inl (hh.run call m)

end Memory

namespace Session

variable {h : Host Memory} {root : Path}

/-- All paths that a session asks its host for lie in the project, those that it begins with and
those of every key; and every key leaves the files as they are, or changes one of them, and that to
the text of the buffer that was current before the key. -/
theorem files_confined (h : Host Memory) (hh : h.KeepsFiles) (root : Path)
    (hproject : h.project = .ofRoot root) (o : Options) (m : Memory) (file : Option Path)
    (s₀ : Session (Memory × List HostCall))
    (hs : begin h.recorded o (m, []) file = .ok s₀) (keys : List Key) :
    let s := s₀.after h.recorded keys
    (∀ typed path, h.project.resolve typed = .ok path → Path.Confined root path) ∧
    (∀ call ∈ s.editor.world.2, call.Confined root) ∧
    ∀ key, let files := s.editor.world.1.files
      let files' := (s.press h.recorded key).1.editor.world.1.files
      files' = files ∨ ∃ path, Path.Confined root path ∧
        Memory.at? path files' = some s.buffer.toText ∧
        ∀ other, Path.same other path = false →
          Memory.at? other files' = Memory.at? other files := by
  intro s
  have hconfined : s.Confined root := (begin_confined hproject hs).after hproject keys
  refine ⟨fun typed path hr => ?_, hconfined.calls, fun key => ?_⟩
  · rw [hproject] at hr
    exact Project.resolve_confined hr
  · dsimp only
    obtain ⟨-, hworld⟩ := press_confined (h := h.recorded) hproject hconfined.fits
      hconfined.files key
    rcases hworld with hworld | ⟨call, hcall, hallowed, hworld⟩
    · exact .inl (by rw [hworld])
    · rw [hworld, Host.perform_recorded]
      rcases Memory.perform_files hh call s.editor.world.1 with hfiles | ⟨path, text, rfl, hfiles⟩
      · exact .inl hfiles
      · obtain rfl : text = s.buffer.toText := hallowed.2
        rw [hfiles]
        exact .inr ⟨path, hcall, Memory.at?_put _ _ _, fun other hother =>
          Memory.at?_put_other hother _ _⟩

/-- A file is read, changed and written: it is the one that the session was told to open. -/
theorem files_confined_of_write :
    ∃ s₀, begin (Memory.host "/p".toList).recorded {}
        ({ files := [("/p/f".toList, "ab\n".toList)] }, []) (some "./x/../f".toList) = .ok s₀ ∧
      (s₀.after (Memory.host "/p".toList).recorded ("x:w\r".toList.map Key.ofChar)).editor.world.2 =
        [.load "/p/f".toList, .store "/p/f".toList "b\n".toList] ∧
      HostCall.Confined "/p".toList (.store "/p/f".toList "b\n".toList) := by
  have hrun : ∃ s₀, begin (Memory.host "/p".toList).recorded {}
        ({ files := [("/p/f".toList, "ab\n".toList)] }, []) (some "./x/../f".toList) = .ok s₀ ∧
      (s₀.after (Memory.host "/p".toList).recorded ("x:w\r".toList.map Key.ofChar)).editor.world.2 =
        [.load "/p/f".toList, .store "/p/f".toList "b\n".toList] := ⟨_, rfl, by decide +kernel⟩
  obtain ⟨s₀, hs, hcalls⟩ := hrun
  have hconfined := (files_confined (Memory.host "/p".toList) (Memory.keepsFiles_host _) "/p".toList
    rfl {} _ _ s₀ hs ("x:w\r".toList.map Key.ofChar)).2.1
  refine ⟨s₀, hs, hcalls, hconfined _ ?_⟩
  rw [hcalls]
  simp

end Session
end ModalEditor
