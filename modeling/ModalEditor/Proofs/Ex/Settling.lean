import ModalEditor.Proofs.Ex.Files
import ModalEditor.Proofs.Ex.Outcome

/-!
# All commands

`Ex.run_evolves` says of every command of the command line that it keeps cursors, marks and lines in
order, and that it lets a modified buffer count as unmodified only by writing it to its own file or
by reading that file again. Two more facts are about losing text: a command ends the session only if
no buffer is modified or if it is forced to, and editing a file without force replaces no modified
buffer.
-/

namespace ModalEditor.Ex

open EditorM Editor

variable {σ α : Type} {h : Host σ} {clean : Prop} {settled : Nat → Prop} {e : Editor σ}

/-- After a successful check no buffer is modified. -/
theorem checkSaved_ok {e' : Editor σ} (hok : checkSaved.run.run e = (.ok ⟨⟩, e')) :
    ∀ s ∈ e'.buffers.slots, s.buffer.modified = false := by
  have hstate := checkSaved_state e
  rw [hok] at hstate
  obtain rfl : e' = e := hstate
  unfold checkSaved at hok
  simp only [run_bind, run_get] at hok
  cases hname : e'.buffers.firstModified? with
  | some name =>
    rw [hname] at hok
    cases hok
  | none =>
    have hfind := Option.map_eq_none_iff.mp hname
    exact fun s hs => by simpa using List.find?_eq_none.mp hfind s hs

/-- Every plain command. -/
theorem run_plain_evolves {c : ExCommand} (hc : c.IsPlain) (col : Nat) (hf : e.buffers.Fits)
    (hclean : clean → '\n' ∉ h.project.root ∧ ∀ p ∈ c.paths, '\n' ∉ p)
    (hsave : ∀ file, c.ownFile? h e.buffer = some file →
      (h.store file e.buffer.toText e.world).1 = .ok () → settled e.buffers.current)
    (hreload : c.isReload h e.buffer = true → ((run h c col).run.run e).1.isOk = true →
      settled e.buffers.current) :
    Leads (Evolves h clean settled) (run h c col) e := by
  have he : e.HasCurrent := hf.current_lt
  cases hasks : c.asks with
  | false => exact Edited.evolves (run_edited hc hasks col hf)
  | true =>
    cases c with
    | edit path force => exact edit_evolves he (by simpa [ExCommand.paths] using hclean) hreload
    | write path force =>
      exact (write_evolves he (by simpa [ExCommand.paths] using hclean) hsave).bind
        fun _ _ _ _ => .pure _
    | writeQuit path =>
      exact (write_evolves he (by simpa [ExCommand.paths] using hclean) hsave).bind
        fun _ e₁ _ _ => leads_quit e₁
    | exit =>
      refine leads_buffer_bind ?_
      split
      · rename_i hmod
        refine (writeCurrent_evolves fun file hpath => hsave file ?_).bind fun _ e₁ _ _ => leads_quit e₁
        simp [ExCommand.ownFile?, hmod, hpath]
      · exact leads_quit e
    | read range source => exact read_evolves range source e
    | saveAs path =>
      refine .bind_still (resolve_state path e) fun file hfile => ?_
      have hr := resolve_eq_ok hfile
      have hn : clean → '\n' ∉ file := fun hc =>
        Project.resolve_noBreak hr (hclean hc).1 ((hclean hc).2 path (by simp [ExCommand.paths]))
      refine (setPath_evolves hn e).bind fun _ e₁ he₁ _ => ?_
      cases he₁
      refine (writeAs_evolves he (hsave file ?_)).bind fun _ _ _ _ => .pure _
      simp [ExCommand.ownFile?, Host.fileFor?, hr, Except.toOption]
    | filter range command => exact filter_evolves range command col e
    | _ => cases hasks

theorem fileFor?_congr {b b' : Buffer} (hp : b'.path = b.path) (typed : Option Path) :
    h.fileFor? b' typed = h.fileFor? b typed := by
  cases typed with
  | none => exact hp
  | some typed => rfl

theorem ownFile?_congr {b b' : Buffer} (hp : b'.path = b.path) (hm : b'.modified = b.modified)
    (c : ExCommand) : c.ownFile? h b' = c.ownFile? h b := by
  cases c <;> simp only [ExCommand.ownFile?, fileFor?_congr hp, hp, hm]

theorem isReload_congr {b b' : Buffer} (hp : b'.path = b.path) (c : ExCommand) :
    c.isReload h b' = c.isReload h b := by
  cases c <;> simp only [ExCommand.isReload, fileFor?_congr hp, hp]

/-- What decides whether a command settles the buffer does not hang on the forms in front of it. -/
theorem approach_fields (b : Buffer) (c : ExCommand) :
    (c.approach b).path = b.path ∧ (c.approach b).modified = b.modified ∧
      (c.approach b).toText = b.toText := by
  obtain ⟨current, selected, hb⟩ := c.approach_eq b
  rw [hb]
  exact ⟨rfl, rfl, rfl⟩

/-- The forms in front of a command only move the cursor and select a register. -/
theorem approach_edited (c : ExCommand) (e : Editor σ) :
    e.Edited clean (e.setBuffer (c.approach e.buffer)) := by
  obtain ⟨current, selected, heq⟩ := c.approach_eq e.buffer
  exact setBuffer_edited (c.approach_evolves e.buffer)
    fun _ hu => hu.congr (by rw [heq]) (by rw [heq])

/-- Every command, whatever stands in front of it. -/
theorem run_evolves (c : ExCommand) (col : Nat) (hf : e.buffers.Fits)
    (hclean : clean → '\n' ∉ h.project.root ∧ ∀ p ∈ c.paths, '\n' ∉ p)
    (hs : e.saves h c = true ∨ e.reloads h c col = true → settled e.buffers.current) :
    Leads (Evolves h clean settled) (run h c col) e := by
  have he : e.HasCurrent := hf.current_lt
  have happroach : Evolves h clean settled e (e.setBuffer (c.approach e.buffer)) :=
    (approach_edited c e).evolves
  obtain ⟨hpath, hmod, htext⟩ := approach_fields e.buffer c
  have hbuffer : (e.setBuffer (c.approach e.buffer)).buffer = c.approach e.buffer :=
    buffer_setBuffer he _
  have hrun := run_eq_base h c col e he
  unfold Leads
  rw [hrun]
  refine happroach.trans (run_plain_evolves (c.base_isPlain e.buffer) col
    (happroach.buffers.fits hf) (fun hc => ⟨(hclean hc).1, fun p hp => (hclean hc).2 p
      (c.base_paths_subset e.buffer hp)⟩) (fun file hfile hstore => hs (.inl ?_))
    fun hreload hok => hs (.inr ?_))
  · rw [hbuffer, ownFile?_congr hpath hmod] at hfile
    rw [hbuffer, htext] at hstore
    have hworld : (e.setBuffer (c.approach e.buffer)).world = e.world := rfl
    rw [hworld] at hstore
    simp [Editor.saves, hfile, hstore, Except.isOk, Except.toBool]
  · rw [hbuffer, isReload_congr hpath] at hreload
    rw [← hrun] at hok
    simp [Editor.reloads, hreload, hok]

/-! ## Ending the session -/

/-- If the step succeeds, the session goes on. -/
def GoesOn (x : EditorM σ ExOutcome) : Prop :=
  ∀ e o e', x.run.run e = (.ok o, e') → o.quit = false

theorem goesOn_of_not_ends {c : ExCommand} (hc : c.IsPlain) (hend : endsSession c = false)
    (col : Nat) : GoesOn (run h c col) := by
  by_cases hrule : c.columnRule = .home
  · exact (atHome_of_rule hc hrule hend).mono fun o e hhome => hhome.quit
  · exact notQuit_of_rule hc hrule

/-- A command that ends the session is forced to, or leaves no buffer modified. -/
theorem run_quit {c : ExCommand} {col : Nat} {o : ExOutcome} {e' : Editor σ} (he : e.HasCurrent)
    (hr : (run h c col).run.run e = (.ok o, e')) (hq : o.quit = true) :
    c.base e.buffer = .quit true ∨ ∀ s ∈ e'.buffers.slots, s.buffer.modified = false := by
  rw [run_eq_base h c col e he] at hr
  have hplain := c.base_isPlain e.buffer
  generalize c.base e.buffer = d at hr hplain
  have hchecked : ∀ e₁ : Editor σ, (do
      checkSaved
      return quitOutcome : EditorM σ ExOutcome).run.run e₁ = (.ok o, e') →
      ∀ s ∈ e'.buffers.slots, s.buffer.modified = false := by
    intro e₁ hrun
    obtain ⟨_, e₂, hcheck, hrun⟩ := run_bind_eq_ok hrun
    cases hrun
    exact checkSaved_ok hcheck
  cases hend : endsSession d with
  | false =>
    have hgoes := goesOn_of_not_ends (h := h) hplain hend col _ o e' hr
    rw [hgoes] at hq
    cases hq
  | true =>
    cases d with
    | writeQuit path =>
      obtain ⟨_, e₁, -, hr⟩ := run_bind_eq_ok hr
      exact .inr (hchecked e₁ hr)
    | exit =>
      obtain ⟨b, e₁, -, hr⟩ := run_bind_eq_ok hr
      dsimp only at hr
      split at hr
      · obtain ⟨_, e₂, -, hr⟩ := run_bind_eq_ok hr
        exact .inr (hchecked e₂ hr)
      · exact .inr (hchecked e₁ hr)
    | quit force =>
      cases force with
      | true => exact .inl rfl
      | false => exact .inr (hchecked _ hr)
    | _ => cases hend

/-! ## Editing without force -/

/-- Going to the buffer of a path leaves all buffers as they are. -/
theorem openPath_slots (path : Path) (e : Editor σ) :
    e.buffers.slots <+: ((openPath h path).run.run e).2.buffers.slots := by
  unfold openPath
  simp only [run_bind, run_get]
  split
  · exact List.prefix_rfl
  · simp only [run_bind, run_load]
    rcases (h.load path e.world).1 with _ | text
    · exact List.prefix_rfl
    · exact List.prefix_append _ _

/-- Without force, editing a file replaces no buffer that has unsaved changes. -/
theorem edit_keeps_modified {typed : Option Path} (he : e.HasCurrent) {i : Nat} {s : Slot}
    (hs : e.buffers.slots[i]? = some s) (hm : s.buffer.modified = true) :
    ((edit h typed false).run.run e).2.buffers.slots[i]? = some s := by
  cases hfile : h.fileFor? e.buffer typed with
  | none =>
    obtain ⟨err, hp⟩ := run_pathOrOwn_none hfile
    have hrun : (edit h typed false).run.run e = (.error err, e) := by
      unfold edit
      rw [run_bind, hp]
    rw [hrun]
    exact hs
  | some file =>
    cases hown : e.buffer.path.any (Path.same · file) with
    | false =>
      rw [edit_other_state false hfile hown]
      obtain ⟨new, hnew⟩ := openPath_slots (h := h) file e
      rw [← hnew, List.getElem?_append_left (List.getElem?_eq_some_iff.mp hs).1]
      exact hs
    | true =>
      rw [run_edit_own false he hfile hown]
      split
      · exact hs
      · rename_i hforce
        have hclean : e.buffer.modified = false := by simpa using hforce
        rcases hload : h.load file e.world with ⟨_ | text, w⟩
        · exact hs
        · change (e.buffers.setCurrent _).slots[i]? = _
          rw [BufferTable.getElem?_setCurrent, hs]
          have hne : i ≠ e.buffers.current := by
            rintro rfl
            rw [show e.buffer = s.buffer from BufferTable.buffer_of_getElem? hs, hm] at hclean
            cases hclean
          simp [hne]

/-- The same, whatever stands in front of the command: it may move the cursor and select a register,
but the buffer keeps its text, its file and its unsaved changes. -/
theorem run_edit_keeps_modified {c : ExCommand} {typed : Option Path} (col : Nat)
    (he : e.HasCurrent) (hbase : c.base e.buffer = .edit typed false) {i : Nat} {s : Slot}
    (hs : e.buffers.slots[i]? = some s) (hm : s.buffer.modified = true) :
    ∃ s', ((run h c col).run.run e).2.buffers.slots[i]? = some s' ∧ s'.buffer.modified = true ∧
      s'.buffer.lines = s.buffer.lines ∧ s'.buffer.path = s.buffer.path := by
  rw [run_eq_base h c col e he, hbase]
  have happroach : ∃ s', (e.setBuffer (c.approach e.buffer)).buffers.slots[i]? = some s' ∧
      s'.buffer.modified = true ∧ s'.buffer.lines = s.buffer.lines ∧
      s'.buffer.path = s.buffer.path := by
    refine ⟨_, by
      rw [show (e.setBuffer _).buffers = e.buffers.setCurrent _ from rfl,
        BufferTable.getElem?_setCurrent, hs]
      rfl, ?_⟩
    split
    · rename_i hi
      subst hi
      obtain ⟨current, selected, heq⟩ := c.approach_eq e.buffer
      rw [heq, show e.buffer = s.buffer from BufferTable.buffer_of_getElem? hs]
      exact ⟨hm, rfl, rfl⟩
    · exact ⟨hm, rfl, rfl⟩
  obtain ⟨s', hs', hm', hkept⟩ := happroach
  exact ⟨s', edit_keeps_modified (he.setBuffer _) hs' hm', hm', hkept⟩

/-! ## Saving keeps the lines -/

/-- The lines of all buffers. -/
def texts (e : Editor σ) : List (List Text) := e.buffers.slots.map fun s => s.buffer.lines

/-- All buffers have the lines that they had. -/
def SameTexts (e e' : Editor σ) : Prop := texts e' = texts e

instance : IsTrans (Editor σ) SameTexts := ⟨fun _ _ _ hab hbc => hbc.trans hab⟩

theorem sameTexts_of_keepsText {e' : Editor σ} (hkept : e.KeepsText e') : SameTexts e e' := by
  have hlines : ∀ e : Editor σ, texts e = e.buffers.contents.map fun entry => entry.2.1 :=
    fun e => by simp [texts, BufferTable.contents]
  unfold SameTexts
  rw [hlines, hlines, hkept.buffers]

/-- A plain command that writes the buffer to its own file changes no text and moves nothing. -/
theorem run_plain_saves_unmoved {c : ExCommand} {file : Path}
    (hc : c.ownFile? h e.buffer = some file) (col : Nat) : Leads Unmoved (run h c col) e := by
  cases c with
  | write path force => exact (write_unmoved path e).bind fun _ _ _ _ => .pure _
  | writeQuit path => exact (write_unmoved path e).bind fun _ e₁ _ _ => leads_quit e₁
  | exit =>
    refine leads_buffer_bind ?_
    split
    · exact (writeCurrent_unmoved e).bind fun _ e₁ _ _ => leads_quit e₁
    · exact leads_quit e
  | saveAs path =>
    refine .bind_still (resolve_state path e) fun file _ => ?_
    exact (setPath_unmoved file e).bind fun _ e₁ _ _ =>
      (writeCurrent_unmoved e₁).bind fun _ _ _ _ => .pure _
  | _ => cases hc

/-- A command that saves the buffer leaves the lines that it has saved. -/
theorem run_saves_sameTexts {c : ExCommand} (col : Nat) (he : e.HasCurrent)
    (hc : e.saves h c = true) : Leads SameTexts (run h c col) e := by
  obtain ⟨file, hfile, -⟩ := (Option.any_eq_true _ _).mp hc
  obtain ⟨hpath, hmod, -⟩ := approach_fields e.buffer c
  have happroach : SameTexts e (e.setBuffer (c.approach e.buffer)) := by
    obtain ⟨current, selected, heq⟩ := c.approach_eq e.buffer
    exact sameTexts_of_keepsText (setBuffer_keepsText (by rw [heq]) (by rw [heq]))
  have hown : (c.base e.buffer).ownFile? h (e.setBuffer (c.approach e.buffer)).buffer =
      some file := by
    rw [buffer_setBuffer he, ownFile?_congr hpath hmod]
    exact hfile
  unfold Leads
  rw [run_eq_base h c col e he]
  have hsaved : Unmoved _ _ := run_plain_saves_unmoved hown col
  exact IsTrans.trans _ _ _ happroach (sameTexts_of_keepsText hsaved.toKeepsText)

end ModalEditor.Ex
