import ModalEditor.Proofs.Ex.Settling

/-!
# What commands ask the host for

A command asks the host for one thing at most: it reads a file, writes one or runs a shell command.
The file is the buffer's own or the one that a typed path names, and what is written is the text of
the buffer. This is said once for all commands, together with what becomes of the files that the
buffers stand for. A command that writes the buffer to its own file (`ExCommand.ownFile?`) gives it
that path (`Editor.SavesAs`); any other leaves the paths alone, unless it adds a buffer for a file
that no buffer had (`Editor.Asks`).
-/

namespace ModalEditor

/-- What a host can be asked for. -/
inductive HostCall where
  /-- To read a file. -/
  | load (path : Path)
  /-- To write a file. -/
  | store (path : Path) (text : Text)
  /-- To run a shell command. -/
  | run (call : ShellCall)
deriving Repr, DecidableEq

section Asks

variable {σ : Type}

namespace Host

variable (h : Host σ)

/-- The state of the host after a call. -/
def perform : HostCall → σ → σ
  | .load path, w => (h.load path w).2
  | .store path text, w => (h.store path text w).2
  | .run call, w => (h.run call w).2

/-- The file is that of the buffer, or one that a typed path names. -/
def Names (b : Buffer) (file : Path) : Prop := ∃ typed, h.fileFor? b typed = some file

/-- What may be asked for while a buffer is current. -/
def Allows (b : Buffer) : HostCall → Prop
  | .load file => h.Names b file
  | .store file text => h.Names b file ∧ text = b.toText
  | .run _ => True

end Host

namespace Editor

/-- `e'` is what a command has made of `e` that does not write the buffer to its own file. -/
inductive Asks (h : Host σ) (e e' : Editor σ) : Prop
  /-- Nothing was asked for. -/
  | nothing (hworld : e'.world = e.world) (hfiles : e'.buffers.files = e.buffers.files)
  /-- One thing was asked for. -/
  | call (call : HostCall) (hallowed : h.Allows e.buffer call)
      (hworld : e'.world = h.perform call e.world) (hfiles : e'.buffers.files = e.buffers.files)
  /-- A file that no buffer had was read into a new one. -/
  | opened (typed file : Path) (hfile : h.project.resolve typed = .ok file)
      (hnew : some (Path.components file) ∉ e.buffers.files)
      (hworld : e'.world = h.perform (.load file) e.world)
      (hfiles : e'.buffers.files = e.buffers.files ++ [some (Path.components file)])

/-- `e'` is what a command has made of `e` that writes the buffer to its own file. -/
structure SavesAs (h : Host σ) (file : Path) (e e' : Editor σ) : Prop where
  /-- The host was asked to write the text of the buffer. -/
  world : e'.world = h.perform (.store file e.buffer.toText) e.world
  /-- The buffer has the path, and the others have those that they had. -/
  paths : e'.buffers.paths = e.buffers.paths.set e.buffers.current (some file)

variable {h : Host σ} {e e₁ e' : Editor σ}

theorem Quiet.asks (hq : e.Quiet e') : Asks h e e' := .nothing hq.world hq.files

instance : Std.Refl (Asks h) := ⟨fun e => (refl e : e.Quiet e).asks⟩

theorem Asks.then_quiet (ha : Asks h e e₁) (hq : e₁.Quiet e') : Asks h e e' := by
  cases ha with
  | nothing hworld hfiles => exact .nothing (hq.world.trans hworld) (hq.files.trans hfiles)
  | call call hallowed hworld hfiles =>
    exact .call call hallowed (hq.world.trans hworld) (hq.files.trans hfiles)
  | opened typed file hfile hnew hworld hfiles =>
    exact .opened typed file hfile hnew (hq.world.trans hworld) (hq.files.trans hfiles)

/-- The buffer stands for the file. -/
theorem SavesAs.files {file : Path} (hs : SavesAs h file e e') :
    e'.buffers.files = e.buffers.files.set e.buffers.current (some (Path.components file)) := by
  rw [BufferTable.files_eq, BufferTable.files_eq, hs.paths, List.map_set]
  rfl

/-- A buffer that is still current is the one that has got the path. -/
theorem SavesAs.path {file : Path} (hs : SavesAs h file e e') (he : e.HasCurrent)
    (hplace : e'.buffers.current = e.buffers.current) : e'.buffer.path = some file := by
  have hlen : e.buffers.current < e.buffers.paths.length := by
    rw [BufferTable.paths, List.length_map]
    exact he
  have hget : e'.buffers.paths[e'.buffers.current]? = some (some file) := by
    rw [hplace, hs.paths, List.getElem?_set_self hlen]
  rw [BufferTable.paths, List.getElem?_map, Option.map_eq_some_iff] at hget
  obtain ⟨slot, hslot, hpath⟩ := hget
  exact (congrArg Buffer.path (BufferTable.buffer_of_getElem? hslot)).trans hpath

theorem asks_world (call : HostCall) (hallowed : h.Allows e.buffer call) {w : σ}
    (hw : w = h.perform call e.world) : Asks h e { e with world := w } :=
  .call call hallowed hw rfl

end Editor

namespace Ex

open EditorM Editor

variable {α β : Type} {h : Host σ} {e : Editor σ}

/-- What a command does at its end is quiet. -/
theorem asks_bind {x : EditorM σ α} {f : α → EditorM σ β} (hx : Leads (Asks h) x e)
    (hf : ∀ a e₁, x.run.run e = (.ok a, e₁) → Leads Quiet (f a) e₁) :
    Leads (Asks h) (x >>= f) e := by
  unfold Leads at hx hf ⊢
  rw [run_bind]
  rcases hr : x.run.run e with ⟨err | a, e₁⟩ <;> rw [hr] at hx
  · exact hx
  · exact hx.then_quiet (hf a e₁ hr)

theorem approach_quiet (c : ExCommand) (e : Editor σ) :
    e.Quiet (e.setBuffer (c.approach e.buffer)) := (approach_edited c e).quiet

/-! ## Editing and reading -/

/-- Going to the buffer of a file, which is read if no buffer has it. -/
theorem openPath_asks {typed file : Path} (hfile : h.project.resolve typed = .ok file) :
    Leads (Asks h) (openPath h file) e := by
  have hallowed : h.Allows e.buffer (.load file) := ⟨some typed, fileFor?_of_resolve hfile⟩
  refine Leads.get_bind ?_
  split
  · exact .nothing rfl rfl
  · rename_i hplace
    have hnew : some (Path.components file) ∉ e.buffers.files := by
      intro hmem
      rw [BufferTable.placeOf?_eq, List.findIdx?_eq_none_iff] at hplace
      simpa using hplace _ hmem
    unfold Leads
    rw [run_bind, run_load]
    rcases hload : h.load file e.world with ⟨_ | text, w⟩
    · exact asks_world (.load file) hallowed (by rw [Host.perform, hload])
    · refine .opened typed file hfile hnew (by rw [Host.perform, hload]; rfl) ?_
      refine (BufferTable.files_add e.buffers (.ofFile file text)).trans ?_
      cases text <;> rfl

theorem edit_asks (typed : Option Path) (force : Bool) (he : e.HasCurrent) :
    Leads (Asks h) (edit h typed force) e := by
  cases hfile : h.fileFor? e.buffer typed with
  | none =>
    obtain ⟨err, hp⟩ := run_pathOrOwn_none hfile
    exact .bind_still (by rw [hp]) fun file hok => by rw [hp] at hok; cases hok
  | some file =>
    have hallowed : h.Allows e.buffer (.load file) := ⟨typed, hfile⟩
    unfold Leads
    cases hown : e.buffer.path.any (Path.same · file) with
    | false =>
      rw [edit_other_state force hfile hown]
      cases typed with
      | none => simp [show e.buffer.path = some file from hfile, Path.same] at hown
      | some typed => exact openPath_asks (resolve_of_fileFor? hfile)
    | true =>
      rw [run_edit_own force he hfile hown]
      split
      · exact refl e
      rcases hload : h.load file e.world with ⟨_ | text, w⟩
      · exact asks_world (.load file) hallowed (by rw [Host.perform, hload])
      · refine .call (.load file) hallowed (by rw [Host.perform, hload]; rfl) ?_
        refine BufferTable.files_setCurrent_same (t := e.buffers) ?_
        refine Eq.trans ?_ (Path.any_same_iff.mp hown).symm
        cases text <;> rfl

theorem shellLines_asks (command stdin : Text) (e : Editor σ) :
    Leads (Asks h) (shellLines h command stdin) e := by
  unfold Leads
  rw [run_shellLines]
  exact asks_world (.run { command, stdin, directory := h.project.root }) trivial rfl

theorem askLoad_asks {typed : Option Path} {file : Path}
    (hfile : h.fileFor? e.buffer typed = some file) :
    Leads (Asks h) (askOrFail (h.load file)) e := by
  unfold Leads
  rw [run_askOrFail]
  exact asks_world (.load file) ⟨typed, hfile⟩ rfl

theorem read_asks (range : Range) (source : ReadSource) (e : Editor σ) :
    Leads (Asks h) (read h range source) e := by
  have hread : Leads (Asks h) (readLines h source) e :=
    readLines_leads source (fun _ _ hfile => askLoad_asks hfile)
      fun command => shellLines_asks command [] e
  refine asks_bind hread fun ⟨lines, message⟩ e₁ _ => ?_
  refine .bind_still (by rw [run_spanOf]) fun span _ => ?_
  exact Edited.quiet (appendLines_edited span.last False.elim e₁)

theorem filterLines_asks {s : LineSpan} (hs : s.first ≤ s.last) (command : Text) (e : Editor σ) :
    Leads (Asks h) (filterLines h s command) e := by
  refine .bind_still (by rw [run_checked]) fun _ hok => leads_buffer_bind ?_
  exact asks_bind (shellLines_asks command _ e) fun lines e₁ hl =>
    Edited.quiet (refill_edited hs hok hl)

theorem filter_asks (range : Range) (command : Text) (col : Nat) (e : Editor σ) :
    Leads (Asks h) (filter h range command col) e :=
  filter_leads range col (shellLines_asks command [] e) fun _ hspan =>
    filterLines_asks hspan command e

/-! ## Writing -/

theorem writeCurrent_savesAs {file : Path} (hpath : e.buffer.path = some file) :
    Leads (SavesAs h file) (writeCurrent h) e := by
  have hown : Leads (SavesAs h file) (writeOwn h) e := by
    have hpaths : ∀ b : Buffer, b.path = some file → (e.buffers.setCurrent b).paths =
        e.buffers.paths.set e.buffers.current (some file) := fun b hb => by
      rw [BufferTable.paths_setCurrent, hb]
    have hkept := hpaths e.buffer hpath
    rw [show e.buffers.setCurrent e.buffer = e.buffers from e.buffers.setCurrent_buffer] at hkept
    unfold Leads
    rw [run_writeOwn, hpath]
    dsimp only
    rcases hstore : h.store file e.buffer.toText e.world with ⟨_ | _, w⟩
    · exact ⟨by rw [Host.perform, hstore], hkept⟩
    · exact ⟨by rw [Host.perform, hstore]; rfl, hpaths e.buffer.saved hpath⟩
  exact leads_buffer_bind (hown.then_still fun _ _ => rfl)

theorem writeAs_savesAs (he : e.HasCurrent) (file : Path) :
    Leads (SavesAs h file) (do
      setPath file
      writeCurrent h : EditorM σ Text) e := by
  have hbuffer := buffer_setBuffer he { e.buffer with path := some file }
  have hsaves := writeCurrent_savesAs (h := h)
    (e := e.setBuffer { e.buffer with path := some file }) (by rw [hbuffer])
  refine ⟨hsaves.world.trans ?_, hsaves.paths.trans ?_⟩
  · rw [hbuffer]
    rfl
  · refine (congrArg (fun paths : List (Option Path) => paths.set e.buffers.current (some file))
      (BufferTable.paths_setCurrent e.buffers _)).trans ?_
    exact List.set_set _

/-- The file that `:w` writes the buffer to as its own. -/
theorem write_savesAs {typed : Option Path} {file : Path} (he : e.HasCurrent)
    (hfile : ((h.fileFor? e.buffer typed).filter fun file => e.buffer.path.all (Path.same · file)) =
      some file) : Leads (SavesAs h file) (write h typed) e := by
  obtain ⟨hfile, hown⟩ := Option.filter_eq_some_iff.mp hfile
  cases typed with
  | none => exact writeCurrent_savesAs hfile
  | some typed =>
    have hr := resolve_of_fileFor? hfile
    have hnot : (e.buffer.path.any fun own => !Path.same own file) = false := by
      cases hpath : e.buffer.path <;> simp_all
    have hwrite : (write h (some typed)).run.run e = (do
        setPath file
        writeCurrent h : EditorM σ Text).run.run e := by
      unfold write
      simp only [EditorM.resolve, run_bind, run_orFail, hr, run_buffer, hnot]
      rfl
    unfold Leads
    rw [hwrite]
    exact writeAs_savesAs he file

theorem writeTo_asks {typed : Option Path} {file : Path}
    (hfile : h.fileFor? e.buffer typed = some file) : Leads (Asks h) (writeTo h file) e := by
  unfold Leads
  rw [run_writeTo]
  exact asks_world (.store file e.buffer.toText) ⟨⟨typed, hfile⟩, rfl⟩ rfl

/-! ## All commands -/

theorem run_plain_savesAs {c : ExCommand} {file : Path} (hc : c.ownFile? h e.buffer = some file)
    (col : Nat) (he : e.HasCurrent) : Leads (SavesAs h file) (run h c col) e := by
  cases c with
  | write path force => exact (write_savesAs he hc).then_still fun _ _ => rfl
  | writeQuit path => exact (write_savesAs he hc).then_still fun _ t => quit_state t
  | exit =>
    have hmod : e.buffer.modified = true ∧ e.buffer.path = some file := by
      simpa [ExCommand.ownFile?] using hc
    refine leads_buffer_bind ?_
    rw [if_pos hmod.1]
    exact (writeCurrent_savesAs hmod.2).then_still fun _ t => quit_state t
  | saveAs path =>
    have hr := resolve_of_fileFor? (b := e.buffer) hc
    have hrun : (run h (.saveAs path) col).run.run e = (do
        let message ← (do
          setPath file
          writeCurrent h)
        return { col, message := some message } : EditorM σ ExOutcome).run.run e := by
      rw [run]
      simp only [EditorM.resolve, run_bind, run_orFail, hr]
      rfl
    unfold Leads
    rw [hrun]
    exact (writeAs_savesAs he file).then_still fun _ _ => rfl
  | _ => cases hc

theorem run_plain_asks {c : ExCommand} (hplain : c.IsPlain) (hc : c.ownFile? h e.buffer = none)
    (col : Nat) (hf : e.buffers.Fits) : Leads (Asks h) (run h c col) e := by
  cases hasks : c.asks with
  | false =>
    have hquiet : Leads Quiet (run h c col) e := Edited.quiet (run_edited hplain hasks col hf)
    exact hquiet.asks
  | true =>
    cases c with
    | edit path force => exact edit_asks path force hf.current_lt
    | read range source => exact read_asks range source e
    | filter range command => exact filter_asks range command col e
    | write | writeQuit | exit | saveAs =>
      exact run_copies rfl hc col fun _ _ hfile => writeTo_asks hfile
    | _ => cases hasks

theorem names_of_ownFile? {c : ExCommand} {b : Buffer} {file : Path}
    (hc : c.ownFile? h b = some file) : h.Names b file := by
  cases c with
  | write typed force => exact ⟨typed, (Option.filter_eq_some_iff.mp hc).1⟩
  | writeQuit typed => exact ⟨typed, (Option.filter_eq_some_iff.mp hc).1⟩
  | exit =>
    have hmod : b.modified = true ∧ b.path = some file := by
      simpa [ExCommand.ownFile?] using hc
    exact ⟨none, hmod.2⟩
  | saveAs typed => exact ⟨some typed, hc⟩
  | _ => cases hc

theorem allows_congr {b b' : Buffer} (hp : b'.path = b.path) (ht : b'.toText = b.toText)
    {call : HostCall} (hallowed : h.Allows b' call) : h.Allows b call := by
  have hnames : ∀ {file}, h.Names b' file → h.Names b file := fun ⟨typed, hfile⟩ =>
    ⟨typed, (fileFor?_congr hp typed).symm.trans hfile⟩
  cases call with
  | load file => exact hnames hallowed
  | store file text => exact ⟨hnames hallowed.1, hallowed.2.trans ht⟩
  | run call => trivial

/-- A command that writes the buffer to its own file, whatever stands in front of it. -/
theorem run_savesAs {c : ExCommand} {file : Path}
    (hc : (c.base e.buffer).ownFile? h e.buffer = some file) (col : Nat) (he : e.HasCurrent) :
    Leads (SavesAs h file) (run h c col) e := by
  obtain ⟨hpath, hmod, htext⟩ := approach_fields e.buffer c
  have hbuffer := buffer_setBuffer he (c.approach e.buffer)
  have hplain := run_plain_savesAs (h := h) (e := e.setBuffer (c.approach e.buffer))
    (by rw [hbuffer, ownFile?_congr hpath hmod]; exact hc) col (he.setBuffer _)
  have happroach : e.Edited False (e.setBuffer (c.approach e.buffer)) := approach_edited c e
  unfold Leads at hplain ⊢
  rw [run_eq_base h c col e he]
  refine ⟨hplain.world.trans ?_, hplain.paths.trans ?_⟩
  · rw [hbuffer, htext]
    rfl
  · rw [happroach.paths]
    rfl

/-- Any other command. -/
theorem run_asks {c : ExCommand} (hc : (c.base e.buffer).ownFile? h e.buffer = none) (col : Nat)
    (hf : e.buffers.Fits) : Leads (Asks h) (run h c col) e := by
  obtain ⟨hpath, hmod, htext⟩ := approach_fields e.buffer c
  have he : e.HasCurrent := hf.current_lt
  have hbuffer := buffer_setBuffer he (c.approach e.buffer)
  have happroach := approach_quiet c e
  have hplain := run_plain_asks (h := h) (e := e.setBuffer (c.approach e.buffer))
    (c.base_isPlain e.buffer) (by rw [hbuffer, ownFile?_congr hpath hmod]; exact hc) col
    (happroach.fits hf)
  unfold Leads at hplain ⊢
  rw [run_eq_base h c col e he]
  cases hplain with
  | nothing hworld hfiles => exact .nothing hworld (hfiles.trans happroach.files)
  | call call hallowed hworld hfiles =>
    rw [hbuffer] at hallowed
    exact .call call (allows_congr hpath htext hallowed) hworld (hfiles.trans happroach.files)
  | opened typed file hfile hnew hworld hfiles =>
    rw [happroach.files] at hnew hfiles
    exact .opened typed file hfile hnew hworld hfiles

end Ex

end Asks
end ModalEditor
