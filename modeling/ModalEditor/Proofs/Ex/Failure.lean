import ModalEditor.Host.Memory
import ModalEditor.Proofs.Ex.Asking
import ModalEditor.Proofs.Ex.Frame

/-!
# Commands that fail

A command of the command line that fails changes no text: the buffers are the same ones with the same
lines and marks, and the registers hold what they held (`Editor.KeepsText`). What it does change before
it fails is the selected register, the pattern searched for last, the options, the path and flags of a
buffer, or the state of the host. The register `%` is the path of the current buffer, so that it is
another one if the command has given the buffer a path (`ExCommand.newPath?`). `:wq` with a name does so
when it writes a buffer that had none, and the quit may be refused afterwards.

The cursor stays too (`Editor.Unmoved`), with three exceptions. A global command is on one of its lines
when it fails there, a put goes to its address before it looks the register up, and a command behind a
mark fails at the mark.

Commands that carry out normal-mode keys are left out. Keys can be several commands, and the first of
them may have changed the text when the second one fails.
-/

namespace ModalEditor

/-- The command carries out normal-mode keys, itself or on every line that it visits. -/
def ExCommand.runsKeys : ExCommand → Bool
  | .normal _ _ => true
  | .global _ _ _ (.normal _) => true
  | .atMark _ next otherwise => next.runsKeys || otherwise.runsKeys
  | .withRegister _ next => next.runsKeys
  | _ => false

/-- Other commands or keys are carried out as parts of the command. -/
def ExCommand.isCompound : ExCommand → Bool
  | .normal _ _ => true
  | .global _ _ _ _ => true
  | .atMark _ next otherwise => next.isCompound || otherwise.isCompound
  | .withRegister _ next => next.isCompound
  | _ => false

theorem ExCommand.base_isCompound {c : ExCommand} (hc : c.isCompound = false) (b : Buffer) :
    (c.base b).isCompound = false :=
  base_of_parts (P := fun part => part.isCompound = false)
    (fun _ _ _ => Bool.or_eq_false_iff.mp) (fun _ _ => id) hc b

/-- Of a buffer a register needs the path, and only if it is `%`. -/
theorem Buffer.register?_congr {b b' : Buffer} {f : RegisterFile} {name : Option Char}
    (hpath : name = some '%' → b'.path = b.path) : b'.register? f name = b.register? f name := by
  unfold register?
  split
  · rename_i hname
    rw [hpath hname]
  · rfl

/-- The path that the command gives the buffer, if it is not the one that the buffer has. -/
def ExCommand.newPath? {σ : Type} (h : Host σ) (b : Buffer) (c : ExCommand) : Option Path :=
  ((c.base b).ownFile? h b).filter fun file => b.path ≠ some file

/-- A put at an address other than the current line of `b`. -/
def ExCommand.putsAway (o : Options) (b : Buffer) : ExCommand → Bool
  | .put range _ _ =>
    match range.resolve b o b.currentSpan with
    | .ok span => span.last != b.current
    | .error _ => false
  | _ => false

theorem ExCommand.base_runsKeys {c : ExCommand} (hc : c.runsKeys = false) (b : Buffer) :
    (c.base b).runsKeys = false :=
  base_of_parts (P := fun part => part.runsKeys = false)
    (fun _ _ _ => Bool.or_eq_false_iff.mp) (fun _ _ => id) hc b

section Failure

variable {σ α : Type} {h : Host σ} {e : Editor σ}

namespace Ex

open EditorM Editor

/-! ## Files -/

theorem edit_failure (typed : Option Path) (force : Bool) (e : Editor σ) :
    OnFailure UpToWorld (edit h typed force) e := by
  have hsay : ∀ e₁ : Editor σ, Succeeds (do
      let b ← buffer
      return { col := b.home, message := some (loadMessage b) } : EditorM σ ExOutcome) e₁ :=
    fun _ => ⟨_, _, rfl⟩
  have hreload : ∀ file, OnFailure UpToWorld (do
      let reloaded ← load h file
      modifyBuffer fun _ => reloaded
      let b ← buffer
      return { col := b.home, message := some (loadMessage b) } : EditorM σ ExOutcome) e :=
    fun file => (load_upToWorld file e).onFailure.bind_succeeds fun _ _ _ => ⟨_, _, rfl⟩
  refine .bind_still (pathOrOwn_state typed e) fun file _ => ?_
  refine .bind_still rfl fun b _ => ?_
  dsimp only
  split
  · split
    · exact (Leads.throw _).onFailure
    · exact hreload file
  · exact (openPath_failure file e).bind_succeeds fun _ e₁ _ => hsay e₁

theorem read_failure (range : Range) (source : ReadSource) (e : Editor σ) :
    OnFailure UpToWorld (read h range source) e := by
  have hread : Leads UpToWorld (readLines h source) e :=
    readLines_leads source (fun _ file _ => askOrFail_upToWorld (h.load file) e)
      fun command => shellLines_upToWorld command [] e
  refine hread.bind_onFailure fun ⟨lines, message⟩ e₁ _ => ?_
  refine .bind_still (by rw [run_spanOf]) fun span _ => ?_
  exact Succeeds.onFailure ⟨_, _, rfl⟩

theorem filter_failure (range : Range) (command : Text) (col : Nat) (e : Editor σ) :
    OnFailure UpToWorld (filter h range command col) e := by
  have hlines : ∀ span, OnFailure UpToWorld (filterLines h span command) e := by
    intro span
    refine .bind_still (by rw [run_checked]) fun _ _ => .bind_still rfl fun b _ => ?_
    exact (shellLines_upToWorld command _ e).onFailure.bind_succeeds fun _ _ _ => ⟨_, _, rfl⟩
  unfold filter
  split
  · exact (shellLines_upToWorld command [] e).onFailure.bind_succeeds fun _ _ _ => ⟨_, _, rfl⟩
  · refine .bind_still (by rw [run_spanOf]) fun span _ => ?_
    exact (hlines span).bind_succeeds fun _ _ _ => ⟨_, _, rfl⟩

/-! ## Lines and patterns -/

/-- Once a put is at its address, it does not move before it fails. -/
theorem putLines_unmoved (register : Option Char) (above : Bool) (e : Editor σ) :
    OnFailure Unmoved (do
      let added ← onCurrent (Edit.putLines above register 1)
      return { col := (← buffer).home, message := lineReport added "more lines" } :
      EditorM σ ExOutcome) e :=
  (onCurrent_failure (Edit.putLines_failure above register 1 _) desk_unmoved).bind_succeeds
    fun _ _ _ => ⟨_, _, rfl⟩

theorem put_failure (range : Range) (register : Option Char) (above : Bool) (col : Nat)
    (e : Editor σ) : OnFailure KeepsText (run h (.put range register above) col) e := by
  refine .bind_still (by rw [run_spanOf]) fun span _ => ?_
  have hgo : Leads KeepsText (modifyBuffer (·.goTo span.last)) e := setBuffer_keepsText rfl rfl
  exact hgo.bind_onFailure fun _ e₁ _ =>
    (putLines_unmoved register above e₁).mono fun _ hput => hput.toKeepsText

/-- A put at the current line goes nowhere before it fails. -/
theorem put_unmoved {range : Range} {register : Option Char} {above : Bool}
    (haway : (ExCommand.put range register above).putsAway e.options e.buffer = false)
    (col : Nat) (hf : e.buffers.Fits) :
    OnFailure Unmoved (run h (.put range register above) col) e := by
  refine .bind_still (by rw [run_spanOf]) fun span hspan => ?_
  have hlast : span.last = e.buffer.current := by
    rw [run_spanOf, Prod.mk.injEq] at hspan
    rw [ExCommand.putsAway, hspan.1] at haway
    simpa using haway
  have hcurrent : (e.buffer.goTo span.last).current = e.buffer.current := by
    rw [hlast]
    exact Nat.min_eq_left (Nat.le_sub_one_of_lt hf.buffer.current_lt)
  have hgo : Leads Unmoved (modifyBuffer (·.goTo span.last)) e :=
    setBuffer_unmoved rfl rfl hcurrent
  exact hgo.bind_onFailure fun _ e₁ _ => putLines_unmoved register above e₁

/-- A substitution that finds nothing fails after it has run, and has changed no line. -/
theorem substitute_failure (range : Range) (pattern replacement : Text) (flags : SubFlags)
    (e : Editor σ) :
    OnFailure Unmoved (substitute range pattern replacement flags) e := by
  refine .bind_still (by rw [run_spanOf]) fun span _ => .bind_still rfl fun e₀ he₀ => ?_
  cases he₀
  intro err e' hrun
  rw [run_bind] at hrun
  rcases hdone : (onCurrent (Edit.substitute span pattern replacement flags e.options)).run.run e
    with ⟨err' | count, e₁⟩ <;> rw [hdone] at hrun
  · cases hrun
    exact onCurrent_failure (Edit.substitute_failure span pattern replacement flags e.options _)
      desk_unmoved _ _ hdone
  · obtain ⟨d, hd, rfl⟩ := onCurrent_cases hdone
    simp only [run_bind, run_modify, run_buffer] at hrun
    split at hrun
    · rename_i hzero
      cases hrun
      exact IsTrans.trans _ _ _ (desk_unmoved ((Edit.substitute_ok hd).2 hzero))
        (unmoved_of_eq rfl rfl)
    · split at hrun <;> cases hrun

theorem repeatSubstitute_failure (range : Range) (flags : Option SubFlags) (col : Nat)
    (e : Editor σ) : OnFailure Unmoved (run h (.repeatSubstitute range flags) col) e := by
  refine .bind_still rfl fun e₀ he₀ => ?_
  cases he₀
  split
  · exact (Leads.throw _).onFailure
  · exact substitute_failure _ _ _ _ e

/-! ## Global commands -/

/-- A line is deleted into a register that cannot be written to only if that one is selected, and the
first deletion uses the selection up. -/
theorem delete_failsFirst (o : Options) :
    Edit.FailsFirst (fun d => d.buffer.selected = none) (globalEdit .delete o) where
  failure d := by
    refine .bind_still rfl fun b _ => ?_
    refine OnFailure.bind_succeeds ?_ fun _ _ _ => ⟨_, _, rfl⟩
    exact (Edit.deleteLines_failure _ none d).mono fun _ hdelete => hdelete.toKeepsText
  ok := by
    intro d t hrun
    obtain ⟨b, d₀, hb, hrun⟩ := run_bind_eq_ok hrun
    cases hb
    obtain ⟨count, d₁, hdelete, hrun⟩ := run_bind_eq_ok hrun
    cases hrun
    obtain ⟨_, d₂, hcheck, hdelete⟩ := run_bind_eq_ok hdelete
    obtain ⟨target, d₃, htake, hdelete⟩ := run_bind_eq_ok hdelete
    have htaken := Edit.takeWritable_state htake
    subst htaken
    cases hdelete
    rfl
  goTo _ hready := hready
  succeeds := by
    intro d hd hready
    have hcur : ¬ d.buffer.lineCount ≤ d.buffer.current := Nat.not_le_of_gt hd.current_lt
    have hcheck : (Edit.checkSpan d.buffer.currentSpan).run.run d = (.ok ⟨⟩, d) := by
      rw [Edit.run_checkSpan]
      exact congrArg (fun r => (r, d)) (if_neg hcur)
    have htake : (Edit.takeWritable none).run.run d = (.ok none, d.unselected) := by
      rw [Edit.run_takeWritable, hready]
      rfl
    have hdelete : Succeeds (Edit.deleteLines d.buffer.currentSpan none) d := by
      refine .bind ⟨_, _, hcheck⟩ fun _ t ht => ?_
      rw [hcheck] at ht
      cases ht
      exact .bind ⟨_, _, htake⟩ fun _ _ _ => ⟨_, _, rfl⟩
    exact .bind ⟨_, _, rfl⟩ fun b t ht => by
      cases ht
      exact hdelete.bind fun _ _ _ => ⟨_, _, rfl⟩

/-- A pattern that was read once can be read again. -/
theorem substitute_failsFirst (pattern replacement : Text) (flags : SubFlags) (o : Options) :
    Edit.FailsFirst (fun d => Edit.Readable pattern (flags.ignoresCase o) d.buffer)
      (globalEdit (.substitute pattern replacement flags) o) where
  failure d := by
    refine .bind_still rfl fun b _ => ?_
    refine OnFailure.bind_succeeds ?_ fun _ _ _ => ⟨_, _, rfl⟩
    exact (Edit.substitute_failure _ pattern replacement flags o d).mono
      fun _ hsubstitute => hsubstitute.toKeepsText
  ok := by
    intro d t hrun
    obtain ⟨b, d₀, hb, hrun⟩ := run_bind_eq_ok hrun
    cases hb
    obtain ⟨count, d₁, hsubstitute, hrun⟩ := run_bind_eq_ok hrun
    cases hrun
    exact (Edit.substitute_ok hsubstitute).1
  goTo _ hready := hready
  succeeds := by
    intro d hd hready
    refine .bind ⟨_, _, rfl⟩ fun b t ht => ?_
    cases ht
    exact (Edit.substitute_succeeds hd.current_lt hready).bind fun _ _ _ => ⟨_, _, rfl⟩

theorem global_failure (range : Range) (pattern : Text) (inverse : Bool) {action : GlobalAction}
    (haction : ∀ keys, action ≠ .normal keys) (hf : e.buffers.Fits) :
    OnFailure KeepsText (global range pattern inverse action) e := by
  refine .bind_still (by rw [run_resolveOr]) fun span _ => .bind_still rfl fun b _ => ?_
  have hvisit : ∀ e₁ : Editor σ, e₁.buffer.Fits → OnFailure KeepsText (do
        let o := (← get).options
        let _ ← onCurrent (Edit.global span pattern inverse o (globalEdit action o))
        let after ← buffer
        return ⟨after.home, lineReport (b.lineCount - after.lineCount) "fewer lines", false⟩ :
        EditorM σ ExOutcome) e₁ := by
    intro e₁ hf₁
    refine .bind_still rfl fun e₀ he₀ => ?_
    cases he₀
    refine OnFailure.bind_succeeds (onCurrent_failure ?_ desk_keepsText) fun _ _ _ => ⟨_, _, rfl⟩
    cases action with
    | delete =>
      exact Edit.global_failure (delete_failsFirst e₁.options)
        (globalEdit_evolves .delete e₁.options) span pattern inverse e₁.options hf₁
    | substitute p r flags =>
      exact Edit.global_failure (substitute_failsFirst p r flags e₁.options)
        (globalEdit_evolves (.substitute p r flags) e₁.options) span pattern inverse e₁.options hf₁
    | normal keys => exact absurd rfl (haction keys)
  cases action with
  | substitute p r flags =>
    have hlast : Leads KeepsText
        (modify fun e => { e with lastSubstitute := some ⟨p, r, flags⟩ } : EditorM σ PUnit) e :=
      ⟨rfl, rfl⟩
    refine hlast.bind_onFailure fun _ e₁ he₁ => ?_
    cases he₁
    exact hvisit _ hf.buffer
  | delete => exact hvisit e hf.buffer
  | normal keys => exact absurd rfl (haction keys)

/-! ## All commands -/

/-- A plain command that fails is where it has started, unless it carries out others as its parts or
is a put at an address. -/
theorem run_plain_unmoved {c : ExCommand} (hplain : c.IsPlain) (hparts : c.isCompound = false)
    (haway : c.putsAway e.options e.buffer = false) (col : Nat) (hf : e.buffers.Fits) :
    OnFailure Unmoved (run h c col) e := by
  have hgo : ∀ change, OnFailure Unmoved (goToBuffer change : EditorM σ ExOutcome) e :=
    fun _ => Succeeds.onFailure ⟨_, _, rfl⟩
  cases c with
  | goto range =>
    exact .bind_still (by rw [run_spanOf]) fun span _ => Succeeds.onFailure ⟨_, _, rfl⟩
  | edit path force => exact (edit_failure path force e).mono fun _ hworld => hworld.unmoved
  | write path force =>
    exact (write_unmoved path e).onFailure.bind_succeeds fun _ _ _ => ⟨_, _, rfl⟩
  | writeQuit path =>
    exact (write_unmoved path e).bind_onFailure fun _ e₁ _ => (leads_quit e₁).onFailure
  | exit =>
    refine .bind_still rfl fun b _ => ?_
    split
    · exact (write_unmoved none e).bind_onFailure fun _ e₁ _ => (leads_quit e₁).onFailure
    · exact (leads_quit e).onFailure
  | quit force =>
    cases force with
    | true => exact (Leads.pure _).onFailure
    | false => exact (leads_quit e).onFailure
  | nextBuffer => exact hgo _
  | previousBuffer => exact hgo _
  | listBuffers => exact Succeeds.onFailure ⟨_, _, rfl⟩
  | switchBuffer reference =>
    refine .bind_still rfl fun e₀ _ => .bind_still (by rw [run_orFail]) fun t _ => ?_
    exact hgo _
  | read range source => exact (read_failure range source e).mono fun _ hworld => hworld.unmoved
  | saveAs path =>
    refine .bind_still (resolve_state path e) fun file _ => ?_
    refine (setPath_unmoved file e).bind_onFailure fun _ e₁ _ => ?_
    exact (writeCurrent_unmoved e₁).onFailure.bind_succeeds fun _ _ _ => ⟨_, _, rfl⟩
  | showRegisters names => exact Succeeds.onFailure ⟨_, _, rfl⟩
  | setMark range name =>
    refine .bind_still (by rw [run_spanOf]) fun span _ => .bind_still rfl fun b _ => ?_
    exact .bind_still (by rw [run_orFail]) fun b' _ => Succeeds.onFailure ⟨_, _, rfl⟩
  | delete range register count =>
    refine .bind_still (by rw [run_countedSpan]) fun span _ => ?_
    exact (onCurrent_failure (Edit.deleteLines_failure span register _) desk_unmoved).bind_succeeds
      fun _ _ _ => ⟨_, _, rfl⟩
  | yank range register count =>
    refine .bind_still (by rw [run_countedSpan]) fun span _ => ?_
    exact (onCurrent_failure (Edit.yankLines_failure span register _) desk_unmoved).bind_succeeds
      fun _ _ _ => ⟨_, _, rfl⟩
  | put range register above => exact put_unmoved haway col hf
  | substitute range pattern replacement flags =>
    exact substitute_failure range pattern replacement flags e
  | repeatSubstitute range flags => exact repeatSubstitute_failure range flags col e
  | filter range command =>
    exact (filter_failure range command col e).mono fun _ hworld => hworld.unmoved
  | set args =>
    refine .bind_still rfl fun e₀ _ => ?_
    have hset : Leads Unmoved
        (modify fun e => { e with options := (e₀.options.applySet args).1 } : EditorM σ PUnit) e :=
      unmoved_of_eq rfl rfl
    refine hset.bind_onFailure fun _ e₁ _ => ?_
    exact .bind_still (by rw [run_orFail]) fun _ _ => (Leads.pure _).onFailure
  | selectRegister name => exact Succeeds.onFailure ⟨_, _, rfl⟩
  | global => cases hparts
  | normal => cases hparts
  | atMark => cases hplain
  | withRegister => cases hplain

theorem run_plain_failure {c : ExCommand} (hplain : c.IsPlain) (hkeys : c.runsKeys = false)
    (col : Nat) (hf : e.buffers.Fits) : OnFailure KeepsText (run h c col) e := by
  cases c with
  | put range register above => exact put_failure range register above col e
  | global range pattern inverse action =>
    refine global_failure range pattern inverse (fun keys hnormal => ?_) hf
    rw [hnormal] at hkeys
    cases hkeys
  | normal range keys => cases hkeys
  | atMark => cases hplain
  | withRegister => cases hplain
  | _ => exact (run_plain_unmoved hplain rfl rfl col hf).mono fun _ hrun => hrun.toKeepsText

/-- A plain command that fails ends at the buffer at which it started. A put or a global command moves
in it, but does not leave it. -/
theorem run_plain_place {c : ExCommand} (hplain : c.IsPlain) (col : Nat) (hf : e.buffers.Fits) :
    OnFailure (fun e e' => e'.buffers.current = e.buffers.current) (run h c col) e := by
  cases hstays : c.staysPut with
  | true =>
    have hlocal : Local (run h c col) := run_local h hstays col
    intro err e' hrun
    obtain ⟨b, hb⟩ := (hlocal e).of_run hrun
    rw [hb]
    rfl
  | false =>
    cases c with
    | edit | nextBuffer | previousBuffer | switchBuffer =>
      exact (run_plain_unmoved hplain rfl rfl col hf).mono fun _ hrun => hrun.place
    | atMark => cases hplain
    | withRegister => cases hplain
    | _ => cases hstays

/-- A plain command that fails and does not write the buffer to a file of its own. -/
theorem run_plain_path {c : ExCommand} (hplain : c.IsPlain) (hown : c.ownFile? h e.buffer = none)
    (col : Nat) (hf : e.buffers.Fits) :
    OnFailure (fun e e' => e'.buffer.path = e.buffer.path) (run h c col) e := by
  cases hasks : c.asks with
  | false =>
    intro err e' hrun
    have hrow : e.Edited False e' := Leads.of_run (run_edited hplain hasks col hf) hrun
    exact BufferTable.currentSlot_congr hrow.paths (run_plain_place hplain col hf err e' hrun)
  | true =>
    have hworld : OnFailure UpToWorld (run h c col) e := by
      cases c with
      | edit path force => exact edit_failure path force e
      | read range source => exact read_failure range source e
      | filter range command => exact filter_failure range command col e
      | write | writeQuit | exit | saveAs =>
        exact (run_copies rfl hown col fun _ file _ => writeTo_upToWorld file e).onFailure
      | _ => cases hasks
    refine hworld.mono fun t ht => ?_
    obtain ⟨w, rfl⟩ := ht
    rfl

/-- A command that fails changes no text, whatever stands in front of it. -/
theorem run_failure {c : ExCommand} (hkeys : c.runsKeys = false) (col : Nat)
    (hf : e.buffers.Fits) : OnFailure KeepsText (run h c col) e := by
  intro err e' hrun
  obtain ⟨current, selected, hb⟩ := c.approach_eq e.buffer
  have happroach : e.KeepsText (e.setBuffer (c.approach e.buffer)) :=
    setBuffer_keepsText (by rw [hb]) (by rw [hb])
  rw [run_eq_base h c col e hf.current_lt] at hrun
  have hbase : (e.setBuffer (c.approach e.buffer)).KeepsText e' :=
    run_plain_failure (c.base_isPlain e.buffer) (ExCommand.base_runsKeys hkeys e.buffer) col
      ((approach_quiet c e).fits hf) err e' hrun
  exact IsTrans.trans _ _ _ happroach hbase

/-- After a failure the buffer has the path that it had, or the one that the command was to give it. -/
theorem run_failed_path (c : ExCommand) (col : Nat) (hf : e.buffers.Fits) :
    OnFailure (fun e e' => e'.buffers.current = e.buffers.current ∧
      e'.buffer.path = ((c.base e.buffer).ownFile? h e.buffer).or e.buffer.path)
      (run h c col) e := by
  intro err e' hrun
  have he : e.HasCurrent := hf.current_lt
  obtain ⟨hpath, hmod, -⟩ := approach_fields e.buffer c
  have hbuffer : (e.setBuffer (c.approach e.buffer)).buffer = c.approach e.buffer :=
    buffer_setBuffer he _
  have hstart : (e.setBuffer (c.approach e.buffer)).buffers.Fits := (approach_quiet c e).fits hf
  have hbase := hrun
  rw [run_eq_base h c col e he] at hbase
  have hplace : e'.buffers.current = e.buffers.current :=
    run_plain_place (c.base_isPlain e.buffer) col hstart err e' hbase
  refine ⟨hplace, ?_⟩
  cases hown : (c.base e.buffer).ownFile? h e.buffer with
  | none =>
    have hnone : (c.base e.buffer).ownFile? h (e.setBuffer (c.approach e.buffer)).buffer = none := by
      rw [hbuffer, ownFile?_congr hpath hmod]
      exact hown
    have hkept : e'.buffer.path = (e.setBuffer (c.approach e.buffer)).buffer.path :=
      run_plain_path (c.base_isPlain e.buffer) hnone col hstart err e' hbase
    rw [hkept, hbuffer, hpath]
    rfl
  | some file => exact ((run_savesAs hown col he).of_run hrun).path he hplace

/-- A command that fails leaves all buffers with the lines and marks that they had, and all registers
with their content, unless it carries out normal-mode keys. The register `%` is left too, if the command
gives the buffer no other path. If it does and the host has stored the text there, `%` is that path. -/
theorem failure_keeps_text (h : Host σ) (c : ExCommand) (hkeys : c.runsKeys = false) (col : Nat)
    (e : Editor σ) (hf : e.buffers.Fits) (err : EditorError) (e' : Editor σ)
    (hrun : (run h c col).run.run e = (.error err, e')) :
    e.KeepsText e' ∧
      (∀ name, (name = some '%' → c.newPath? h e.buffer = none) →
        e'.buffer.register? e'.registers name = e.buffer.register? e.registers name) ∧
      ∀ file, c.newPath? h e.buffer = some file →
        (h.store file e.buffer.toText e.world).1 = .ok () →
        e'.buffer.register? e'.registers (some '%') = some (.ofText file) := by
  have hkept : e.KeepsText e' := run_failure hkeys col hf err e' hrun
  obtain ⟨-, hpath⟩ := run_failed_path c col hf err e' hrun
  -- the path is given before the host is asked, so that the answer of the store is not needed
  refine ⟨hkept, fun name hname => ?_, fun file hfile _ => ?_⟩
  · rw [hkept.registers]
    refine Buffer.register?_congr fun hpercent => ?_
    rw [hpath]
    cases hown : (c.base e.buffer).ownFile? h e.buffer with
    | none => rfl
    | some file =>
      have hsame : e.buffer.path = some file := by
        simpa [ExCommand.newPath?, hown] using hname hpercent
      rw [hsame]
      rfl
  · obtain ⟨hown, -⟩ := Option.filter_eq_some_iff.mp hfile
    rw [hown] at hpath
    rw [Buffer.register?, if_pos rfl, hpath]
    rfl

/-- A buffer without a path is current, and another one counts as modified. -/
def besideModified : Editor Memory :=
  { buffers :=
      { slots := [⟨1, { lines := ["x".toList] }⟩,
          ⟨2, { path := some "/p/f".toList, lines := ["y".toList], modified := true }⟩]
        nextId := 3 }
    registers := { unnamed := .ofLines ["z".toList] }
    world := {} }

theorem besideModified_fits : besideModified.buffers.Fits := by
  refine ⟨by decide, fun s hs => ?_⟩
  have hslot : s = ⟨1, { lines := ["x".toList] }⟩ ∨
      s = ⟨2, { path := some "/p/f".toList, lines := ["y".toList], modified := true }⟩ := by
    simpa [besideModified] using hs
  rcases hslot with rfl | rfl <;> exact ⟨by decide, by decide, nofun⟩

/-- `:wq g` writes the buffer, and the quit is refused. -/
theorem run_writeQuit_refused :
    ((run (Memory.host "/p".toList) (.writeQuit (some "g".toList)) 0).run.run besideModified).1 =
      .error (.unsavedChanges "/p/f".toList) := rfl

/-- After `:wq g` the register `%` is the path of `g`. -/
theorem failure_keeps_text_of_refused_quit :
    ∃ e', (run (Memory.host "/p".toList) (.writeQuit (some "g".toList)) 0).run.run besideModified =
        (.error (.unsavedChanges "/p/f".toList), e') ∧
      besideModified.KeepsText e' ∧
      e'.buffer.register? e'.registers none = some (.ofLines ["z".toList]) ∧
      e'.buffer.register? e'.registers (some '%') = some (.ofText "/p/g".toList) := by
  obtain ⟨e', hrun⟩ : ∃ e', (run (Memory.host "/p".toList) (.writeQuit (some "g".toList)) 0).run.run
      besideModified = (.error (.unsavedChanges "/p/f".toList), e') :=
    ⟨_, Prod.ext run_writeQuit_refused rfl⟩
  obtain ⟨hkept, hregisters, hpercent⟩ := failure_keeps_text (Memory.host "/p".toList)
    (.writeQuit (some "g".toList)) rfl 0 besideModified besideModified_fits _ e' hrun
  exact ⟨e', hrun, hkept, hregisters none nofun, hpercent _ rfl rfl⟩

/-- The register `%` is empty before the refused `:wq g`, and not afterwards. -/
theorem refused_quit_changes_register :
    ¬ ∀ (line : Text) (c : ExCommand) (e : Editor Memory), ExCommand.readLine line = .ok c →
      c.runsKeys = false → e.buffers.Fits →
      ∀ err e', (run (Memory.host "/p".toList) c 0).run.run e = (.error err, e') →
        ∀ name, e'.buffer.register? e'.registers name = e.buffer.register? e.registers name := by
  intro hkept
  have hpercent := hkept "wq g".toList (.writeQuit (some "g".toList)) besideModified rfl rfl
    besideModified_fits _ _ (Prod.ext run_writeQuit_refused rfl) (some '%')
  exact absurd hpercent (by decide)

end Ex

end Failure
end ModalEditor
