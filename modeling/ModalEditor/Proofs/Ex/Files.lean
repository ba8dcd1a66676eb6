import ModalEditor.Proofs.Editor.Unmoved
import ModalEditor.Proofs.Ex.Evolution
import ModalEditor.Proofs.Path.Characters

/-!
# Commands that read and write files

Two kinds of commands settle the current buffer, so that it may count as unmodified afterwards:
those that write it to its own file (`Editor.saves`) and those that read its file again
(`Editor.reloads`). Both are told from the command, from the buffer and from what the host answers,
not from what the command does to the buffer. The rest of the module is what reading and writing
keep of the editor, under the condition that a buffer that is settled is one that may be.
-/

namespace ModalEditor

section Settling

variable {σ : Type} (h : Host σ)

/-- The file that an argument names for a buffer; no argument stands for the buffer's own file. -/
def Host.fileFor? (b : Buffer) : Option Path → Option Path
  | none => b.path
  | some typed => (h.project.resolve typed).toOption

namespace ExCommand

/-- The file that a plain command writes the buffer to as its own. A buffer without a path takes the
one that it is written to. -/
def ownFile? (b : Buffer) : ExCommand → Option Path
  | .write typed _ => (h.fileFor? b typed).filter fun file => b.path.all (Path.same · file)
  | .writeQuit typed => (h.fileFor? b typed).filter fun file => b.path.all (Path.same · file)
  | .exit => if b.modified then b.path else none
  | .saveAs typed => h.fileFor? b (some typed)
  | _ => none

/-- A plain command that writes the buffer, to its own file or to another one. -/
def writes : ExCommand → Bool
  | .write _ _ | .writeQuit _ | .exit | .saveAs _ => true
  | _ => false

/-- A plain command that asks for the buffer's own file to be read again. -/
def isReload (b : Buffer) : ExCommand → Bool
  | .edit typed _ => (h.fileFor? b typed).any fun file => b.path.any (Path.same · file)
  | _ => false

end ExCommand

namespace Editor

/-- The command writes the current buffer to its own file, and the host stores the text. -/
def saves (e : Editor σ) (c : ExCommand) : Bool :=
  ((c.base e.buffer).ownFile? h e.buffer).any fun file =>
    (h.store file e.buffer.toText e.world).1.isOk

/-- The command reads the current buffer's own file again and succeeds. -/
def reloads (e : Editor σ) (c : ExCommand) (col : Nat) : Bool :=
  (c.base e.buffer).isReload h e.buffer && ((Ex.run h c col).run.run e).1.isOk

end Editor

end Settling

namespace Ex

open EditorM Editor

variable {σ α : Type} {h : Host σ} {clean : Prop} {settled : Nat → Prop} {e : Editor σ}

/-! ## The file that an argument names -/

theorem resolve_eq_ok {typed file : Path}
    (hr : (EditorM.resolve h typed).run.run e = (.ok file, e)) :
    h.project.resolve typed = .ok file := by
  simp only [EditorM.resolve, run_orFail] at hr
  exact congrArg Prod.fst hr

theorem resolve_state (typed : Path) (e : Editor σ) :
    ((EditorM.resolve h typed).run.run e).2 = e := by simp only [EditorM.resolve, run_orFail]

theorem fileFor?_of_resolve {b : Buffer} {typed file : Path}
    (hr : h.project.resolve typed = .ok file) : h.fileFor? b (some typed) = some file := by
  simp [Host.fileFor?, hr, Except.toOption]

theorem resolve_of_fileFor? {b : Buffer} {typed file : Path}
    (hfile : h.fileFor? b (some typed) = some file) : h.project.resolve typed = .ok file := by
  cases hr : h.project.resolve typed with
  | error err => simp [Host.fileFor?, hr, Except.toOption] at hfile
  | ok p =>
    simp only [Host.fileFor?, hr, Except.toOption, Option.some.injEq] at hfile
    rw [hfile]

theorem pathOrOwn_state (typed : Option Path) (e : Editor σ) :
    ((pathOrOwn h typed).run.run e).2 = e := by
  unfold pathOrOwn
  split
  · exact resolve_state _ e
  · simp only [run_bind, run_buffer]
    split <;> rfl

/-- The file that is found is the one that the argument names. -/
theorem pathOrOwn_ok {typed : Option Path} {file : Path}
    (hp : (pathOrOwn h typed).run.run e = (.ok file, e)) :
    h.fileFor? e.buffer typed = some file := by
  unfold pathOrOwn at hp
  cases typed with
  | none =>
    simp only [run_bind, run_buffer] at hp
    split at hp
    · rename_i own hown
      cases hp
      exact hown
    · cases hp
  | some typed => exact fileFor?_of_resolve (resolve_eq_ok hp)

/-! ## Reading lines into a buffer -/

/-- Reading lines goes where asking for them goes. -/
theorem readLines_leads {R : Editor σ → Editor σ → Prop} [Std.Refl R] (source : ReadSource)
    (hload : ∀ typed file, h.fileFor? e.buffer typed = some file →
      Leads R (askOrFail (h.load file)) e)
    (hshell : ∀ command, Leads R (shellLines h command []) e) :
    Leads R (readLines h source) e := by
  cases source with
  | file typed =>
    refine .bind_still (pathOrOwn_state typed e) fun file hfile => ?_
    refine (hload typed file (pathOrOwn_ok hfile)).then_still fun text t => ?_
    cases text with
    | none => rfl
    | some text => rfl
  | shell command => exact (hshell command).then_still fun _ _ => rfl

/-- The lines that are read have no line breaks. -/
theorem readLines_unbroken {source : ReadSource} {r : List Text × Option Text} {e' : Editor σ}
    (hr : (readLines h source).run.run e = (.ok r, e')) : Unbroken r.1 := by
  cases source with
  | file typed =>
    obtain ⟨path, e₁, -, hr⟩ := run_bind_eq_ok hr
    obtain ⟨text, e₂, -, hr⟩ := run_bind_eq_ok hr
    cases text with
    | none => cases hr
    | some t =>
      cases hr
      dsimp only
      split
      · exact unbroken_nil
      · exact (Buffer.unbroken_ofText (by simp) t).lines
  | shell command =>
    obtain ⟨lines, e₁, hl, hr⟩ := run_bind_eq_ok hr
    cases hr
    exact shellLines_unbroken hl

/-- What is read goes behind a line. -/
theorem appendLines_edited (n : Nat) {lines : List Text} (hl : clean → Unbroken lines)
    (e : Editor σ) : Leads (Edited clean) (modifyBuffer (·.appendLines n lines)) e :=
  modifyBuffer_edited (Buffer.appendLines_evolves _ n lines)
    fun hc hu => hu.appendLines n (hl hc)

theorem read_evolves (range : Range) (source : ReadSource) (e : Editor σ) :
    Leads (Evolves h clean settled) (read h range source) e := by
  have hread : Leads (Evolves h clean settled) (readLines h source) e :=
    readLines_leads source (fun _ file _ => askLoad_evolves file e)
      fun command => shellLines_evolves command [] e
  refine hread.bind fun ⟨lines, message⟩ e₁ hr _ => ?_
  refine .bind_still (by rw [run_spanOf]) fun span _ => ?_
  exact Edited.evolves (appendLines_edited span.last (fun _ => readLines_unbroken hr) e₁)

/-! ## Filters -/

/-- The buffers stay as they are while a shell command runs. -/
theorem shellLines_buffers (command stdin : Text) (e : Editor σ) :
    ((shellLines h command stdin).run.run e).2.buffers = e.buffers := by
  rw [run_shellLines]

/-- Looking whether a span lies in the buffer. -/
theorem run_checked (s : LineSpan) (e : Editor σ) :
    (onCurrent (Edit.checkSpan s)).run.run e =
      (if e.buffer.lineCount ≤ s.last then .error (.lineOutOfRange (s.last + 1)) else .ok ⟨⟩,
        e) := by
  rw [run_onCurrent, Edit.run_checkSpan]
  exact congrArg (Prod.mk _) (setBuffer_buffer e)

theorem checked_last_lt {s : LineSpan} {e : Editor σ}
    (hok : (onCurrent (Edit.checkSpan s)).run.run e = (.ok ⟨⟩, e)) :
    s.last < e.buffer.lines.length := by
  refine Nat.lt_of_not_le fun hle => ?_
  rw [run_checked, if_pos (show e.buffer.lineCount ≤ s.last from hle)] at hok
  cases hok

/-- What the shell command printed takes the place of a span that was there before it ran. -/
theorem refill_edited {s : LineSpan} {command stdin : Text} {lines : List Text} {e₁ : Editor σ}
    (hs : s.first ≤ s.last) (hok : (onCurrent (Edit.checkSpan s)).run.run e = (.ok ⟨⟩, e))
    (hl : (shellLines h command stdin).run.run e = (.ok lines, e₁)) :
    Leads (Edited clean) (do
      modifyBuffer fun b => (b.replaceLines s lines).goTo s.first
      return lines.length : EditorM σ Nat) e₁ := by
  have hbuffers := shellLines_buffers (h := h) command stdin e
  rw [hl] at hbuffers
  have hlast : s.last < e₁.buffer.lines.length := by
    rw [show e₁.buffer = e.buffer from congrArg BufferTable.buffer hbuffers]
    exact checked_last_lt hok
  have hevolves := (e₁.buffer.replaceLines_evolves hs hlast lines).trans
    (Buffer.goTo_evolves _ s.first)
  exact modifyBuffer_edited (f := fun b => (b.replaceLines s lines).goTo s.first) hevolves
    fun _ hu => (hu.replaceLines s (shellLines_unbroken hl)).goTo _

theorem filterLines_evolves {s : LineSpan} (hs : s.first ≤ s.last) (command : Text)
    (e : Editor σ) : Leads (Evolves h clean settled) (filterLines h s command) e := by
  refine .bind_still (by rw [run_checked]) fun _ hok => leads_buffer_bind ?_
  exact (shellLines_evolves command _ e).bind fun lines e₁ hl _ =>
    Edited.evolves (refill_edited hs hok hl)

/-- A shell command without a range only runs; with one, the lines of its span go through it. -/
theorem filter_leads {R : Editor σ → Editor σ → Prop} [Std.Refl R] (range : Range)
    {command : Text} (col : Nat) (hshell : Leads R (shellLines h command []) e)
    (hlines : ∀ span : LineSpan, span.first ≤ span.last → Leads R (filterLines h span command) e) :
    Leads R (filter h range command col) e := by
  unfold filter
  split
  · exact hshell.then_still fun _ _ => rfl
  · refine .bind_still (by rw [run_spanOf]) fun span hspan => ?_
    exact (hlines span (spanOf_ordered hspan)).then_still fun _ _ => rfl

theorem filter_evolves (range : Range) (command : Text) (col : Nat) (e : Editor σ) :
    Leads (Evolves h clean settled) (filter h range command col) e :=
  filter_leads range col (shellLines_evolves command [] e) fun _ hspan =>
    filterLines_evolves hspan command e

/-! ## Writing -/

/-- The buffer gets a path; its text is that of before. -/
theorem setPath_evolves {path : Path} (hp : clean → '\n' ∉ path) (e : Editor σ) :
    Leads (Evolves h clean settled) (setPath path) e :=
  setBuffer_evolves (fun hf => ⟨hf.nonempty, hf.current_lt, hf.marks⟩)
    (fun hc hu => ⟨hu.lines, by rintro q ⟨rfl⟩; exact hp hc⟩) fun hm => .inl ⟨hm, rfl⟩

theorem writeCurrent_evolves (hs : ∀ file, e.buffer.path = some file →
      (h.store file e.buffer.toText e.world).1 = .ok () → settled e.buffers.current) :
    Leads (Evolves h clean settled) (writeCurrent h) e :=
  (writeOwn_evolves hs).bind fun _ _ _ _ => .pure _

/-- Writing a buffer that has just got a path. -/
theorem writeAs_evolves {file : Path} (he : e.HasCurrent)
    (hs : (h.store file e.buffer.toText e.world).1 = .ok () → settled e.buffers.current) :
    Leads (Evolves h clean settled) (writeCurrent h)
      (e.setBuffer { e.buffer with path := some file }) := by
  refine writeCurrent_evolves fun file' hpath hstore => hs ?_
  rw [buffer_setBuffer he] at hpath hstore
  cases hpath
  exact hstore

theorem write_evolves {typed : Option Path} (he : e.HasCurrent)
    (hclean : clean → '\n' ∉ h.project.root ∧ ∀ p ∈ typed, '\n' ∉ p)
    (hs : ∀ file,
      ((h.fileFor? e.buffer typed).filter fun file => e.buffer.path.all (Path.same · file)) =
        some file →
      (h.store file e.buffer.toText e.world).1 = .ok () → settled e.buffers.current) :
    Leads (Evolves h clean settled) (write h typed) e := by
  cases typed with
  | none =>
    refine writeCurrent_evolves fun file hpath => hs file ?_
    simp [Host.fileFor?, hpath, Path.same]
  | some typed =>
    refine .bind_still (resolve_state typed e) fun file hfile => ?_
    have hr := resolve_eq_ok hfile
    refine leads_buffer_bind ?_
    split
    · exact (writeTo_evolves file e).bind fun _ _ _ _ => .pure _
    · rename_i hown
      have hn : clean → '\n' ∉ file := fun hc =>
        Project.resolve_noBreak hr (hclean hc).1 ((hclean hc).2 typed rfl)
      refine (setPath_evolves hn e).bind fun _ e₁ he₁ _ => ?_
      cases he₁
      refine writeAs_evolves he (hs file ?_)
      cases hpath : e.buffer.path <;> simp_all [Host.fileFor?, Except.toOption]

/-- What is not written as the buffer's own file is written as a copy, if it is known where to. -/
theorem write_leads {R : Editor σ → Editor σ → Prop} [Std.Refl R] {typed : Option Path}
    (hown : ((h.fileFor? e.buffer typed).filter fun file => e.buffer.path.all (Path.same · file)) =
      none)
    (hcopy : ∀ file, h.fileFor? e.buffer typed = some file → Leads R (writeTo h file) e) :
    Leads R (write h typed) e := by
  cases typed with
  | none =>
    have hpath : e.buffer.path = none := by
      cases hpath : e.buffer.path with
      | none => rfl
      | some own => simp [Host.fileFor?, hpath, Path.same] at hown
    have hwrite : Leads R (writeOwn h) e := .still (by rw [run_writeOwn, hpath])
    exact leads_buffer_bind (hwrite.then_still fun _ _ => rfl)
  | some typed =>
    refine .bind_still (resolve_state typed e) fun file hr => leads_buffer_bind ?_
    have hfile : h.fileFor? e.buffer (some typed) = some file :=
      fileFor?_of_resolve (resolve_eq_ok hr)
    split
    · exact (hcopy file hfile).then_still fun _ _ => rfl
    · rename_i hsame
      rw [hfile] at hown
      cases hpath : e.buffer.path <;> simp_all

/-- A plain command that writes the buffer, but not to a file of its own. -/
theorem run_copies {R : Editor σ → Editor σ → Prop} [Std.Refl R] {c : ExCommand}
    (hwrites : c.writes = true) (hown : c.ownFile? h e.buffer = none) (col : Nat)
    (hcopy : ∀ typed file, h.fileFor? e.buffer typed = some file → Leads R (writeTo h file) e) :
    Leads R (run h c col) e := by
  cases c with
  | write path force => exact (write_leads hown (hcopy path)).then_still fun _ _ => rfl
  | writeQuit path => exact (write_leads hown (hcopy path)).then_still fun _ t => quit_state t
  | exit =>
    refine leads_buffer_bind ?_
    split
    · rename_i hmod
      have hpath : e.buffer.path = none := by simpa [ExCommand.ownFile?, hmod] using hown
      have hnone : ((h.fileFor? e.buffer none).filter
          fun file => e.buffer.path.all (Path.same · file)) = none := by
        simp [Host.fileFor?, hpath]
      exact (write_leads hnone (hcopy none)).then_still fun _ t => quit_state t
    · exact leads_quit e
  | saveAs path =>
    refine .bind_still (resolve_state path e) fun file hr => ?_
    have hfile := fileFor?_of_resolve (b := e.buffer) (resolve_eq_ok hr)
    rw [show h.fileFor? e.buffer (some path) = none from hown] at hfile
    cases hfile
  | _ => cases hwrites

/-- The buffer gets a path. -/
theorem setPath_unmoved (path : Path) (e : Editor σ) : Leads Unmoved (setPath path) e :=
  setBuffer_unmoved rfl rfl rfl

theorem writeCurrent_unmoved (e : Editor σ) : Leads Unmoved (writeCurrent h) e :=
  (writeOwn_unmoved e).bind fun _ _ _ _ => .pure _

theorem write_unmoved (typed : Option Path) (e : Editor σ) :
    Leads Unmoved (write h typed) e := by
  cases typed with
  | none => exact writeCurrent_unmoved e
  | some typed =>
    refine .bind_still (resolve_state typed e) fun file _ => ?_
    refine leads_buffer_bind ?_
    split
    · have hcopy : Leads Unmoved (writeTo h file) e :=
        UpToWorld.unmoved (writeTo_upToWorld file e)
      exact hcopy.then_still fun _ _ => rfl
    · exact (setPath_unmoved file e).bind fun _ e₁ _ _ => writeCurrent_unmoved e₁

/-! ## Editing another file -/

theorem run_pathOrOwn_none {typed : Option Path} (hfile : h.fileFor? e.buffer typed = none) :
    ∃ err, (pathOrOwn h typed).run.run e = (.error err, e) := by
  have hstate := pathOrOwn_state (h := h) typed e
  rcases hp : (pathOrOwn h typed).run.run e with ⟨err | file, e₁⟩
  · rw [hp] at hstate
    exact ⟨err, by rw [show e₁ = e from hstate]⟩
  · rw [hp] at hstate
    obtain rfl : e₁ = e := hstate
    rw [pathOrOwn_ok hp] at hfile
    cases hfile

theorem run_pathOrOwn_some {typed : Option Path} {file : Path}
    (hfile : h.fileFor? e.buffer typed = some file) :
    (pathOrOwn h typed).run.run e = (.ok file, e) := by
  cases typed with
  | none =>
    unfold pathOrOwn
    simp only [run_bind, run_buffer]
    rw [show e.buffer.path = some file from hfile]
    rfl
  | some typed =>
    unfold pathOrOwn
    simp only [EditorM.resolve, run_orFail, resolve_of_fileFor? hfile]

/-- Reading the buffer's own file again: refused over unsaved changes, unless it is forced;
otherwise the buffer is replaced by what the host reads. -/
theorem run_edit_own {typed : Option Path} {file : Path} (force : Bool) (he : e.HasCurrent)
    (hfile : h.fileFor? e.buffer typed = some file)
    (hown : e.buffer.path.any (Path.same · file) = true) :
    (edit h typed force).run.run e =
      if e.buffer.modified && !force then (.error (.unsavedChanges e.buffer.displayName), e)
      else
        match h.load file e.world with
        | (.error failure, w) => (.error (.io failure), { e with world := w })
        | (.ok text, w) =>
          (.ok { col := (Buffer.ofFile file text).home,
                 message := some (loadMessage (.ofFile file text)) },
            ({ e with world := w } : Editor σ).setBuffer (.ofFile file text)) := by
  unfold edit
  simp only [run_bind, run_pathOrOwn_some hfile, run_buffer, hown, if_true]
  split
  · rfl
  · simp only [run_bind, run_load]
    rcases h.load file e.world with ⟨_ | text, w⟩
    · rfl
    · have hb := buffer_setBuffer (e := { e with world := w }) he (.ofFile file text)
      simp only [run_modifyBuffer, run_buffer, hb]
      rfl

/-- Editing another file does no more than going to the buffer for it. -/
theorem edit_other_state {typed : Option Path} {file : Path} (force : Bool)
    (hfile : h.fileFor? e.buffer typed = some file)
    (hown : e.buffer.path.any (Path.same · file) = false) :
    ((edit h typed force).run.run e).2 = ((openPath h file).run.run e).2 := by
  unfold edit
  simp only [run_bind, run_pathOrOwn_some hfile, run_buffer, hown, Bool.false_eq_true, if_false]
  rcases (openPath h file).run.run e with ⟨_ | _, _⟩ <;> rfl

/-- A file that an argument names has no line breaks in its path. -/
theorem fileFor?_noBreak {b : Buffer} {typed : Option Path} {file : Path}
    (hfile : h.fileFor? b typed = some file)
    (hclean : '\n' ∉ h.project.root ∧ ∀ p ∈ typed, '\n' ∉ p) (hb : b.Unbroken) : '\n' ∉ file := by
  cases typed with
  | none => exact hb.path file hfile
  | some typed =>
    exact Project.resolve_noBreak (resolve_of_fileFor? hfile) hclean.1 (hclean.2 typed rfl)

theorem edit_evolves {typed : Option Path} {force : Bool} (he : e.HasCurrent)
    (hclean : clean → '\n' ∉ h.project.root ∧ ∀ p ∈ typed, '\n' ∉ p)
    (hs : (h.fileFor? e.buffer typed).any (fun file => e.buffer.path.any (Path.same · file)) =
      true → ((edit h typed force).run.run e).1.isOk = true → settled e.buffers.current) :
    Leads (Evolves h clean settled) (edit h typed force) e := by
  cases hfile : h.fileFor? e.buffer typed with
  | none =>
    obtain ⟨err, hp⟩ := run_pathOrOwn_none hfile
    exact .bind_still (by rw [hp]) fun file hok => by rw [hp] at hok; cases hok
  | some file =>
    unfold Leads
    cases hown : e.buffer.path.any (Path.same · file) with
    | false =>
      rw [edit_other_state force hfile hown]
      refine openPath_evolves (fun hc => ?_) e
      cases typed with
      | none => simp [show e.buffer.path = some file from hfile, Path.same] at hown
      | some typed =>
        have hnew : h.fileFor? ({} : Buffer) (some typed) = some file := hfile
        exact fileFor?_noBreak hnew (hclean hc) Buffer.unbroken_new
    | true =>
      rw [hfile] at hs
      rw [run_edit_own force he hfile hown] at hs ⊢
      split
      · exact refl e
      · rename_i hforce
        have hasked : Evolves h clean settled e { e with world := (h.load file e.world).2 } :=
          world_evolves fun _ hW => hW.load file _
        rw [if_neg hforce] at hs
        rcases hload : h.load file e.world with ⟨_ | text, w⟩ <;>
          rw [hload] at hasked hs <;> dsimp only
        · exact hasked
        · refine hasked.trans (setBuffer_evolves (fun _ => Buffer.fits_ofFile file text)
            (fun hc hu => Buffer.unbroken_ofFile (fileFor?_noBreak hfile (hclean hc) hu) text)
            fun _ => .inr (hs hown rfl))

end Ex
end ModalEditor
