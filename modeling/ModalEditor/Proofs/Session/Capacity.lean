import ModalEditor.Capacity
import ModalEditor.Host.Memory
import ModalEditor.Proofs.Edit.Evolution
import ModalEditor.Proofs.Ex.Named
import ModalEditor.Proofs.Session.CommandLine
import ModalEditor.Proofs.Session.InlineInsert
import ModalEditor.Proofs.Session.Settings

/-!
# No key but a tab asks for an impossible text

A put looks at the size of its copies before it makes them, and refuses far below the size that a text
can have. So every step with the limit is the step without it (`Capped.lift`), up to the keys of a
session. Only the blanks of a tab are as many as the tab stop says, and `:set` takes every number for
it: a tab in insert mode is the one key that can ask for a text too long to exist,
and it does so exactly if the tab stop is larger than a text (`Session.take_unless_wide_tab`).
-/

namespace ModalEditor

namespace Capped

variable {S α β : Type}

theorem run_lift (x : Fallible S α) (s : S) : (lift x).run.run s = .ok (x.run.run s) := rfl

theorem lift_bind (x : Fallible S α) (f : α → Fallible S β) :
    lift (x >>= f) = lift x >>= fun a => lift (f a) := by
  funext s
  -- A lifted step always ends, so the second one runs on just what the first has left.
  have hright : (lift x >>= fun a => lift (f a)) s =
      ExceptT.bindCont (fun a => lift (f a)) (x.run.run s).1 (x.run.run s).2 := rfl
  rw [hright]
  change Except.ok ((x >>= f).run.run s) = _
  rw [run_bind]
  rcases x.run.run s with ⟨_ | _, _⟩ <;> rfl

theorem lift_ite (p : Prop) [Decidable p] (x y : Fallible S α) :
    lift (if p then x else y) = if p then lift x else lift y := by
  split <;> rfl

end Capped

theorem Text.copies_eq_ok {count : Nat} {unit : Text}
    (h : count * Text.byteSize unit ≤ maxTextSize) :
    Text.copies count unit = .ok (Text.repeated count unit) := if_neg (Nat.not_lt.mpr h)

namespace Capacity

open Capped

/-! ## Commands of normal mode -/

/-- What a put may make fits into a text. -/
theorem checkPut_copies {β : Type} (unit : Text) (count : Nat) (f : Text → Edit β) :
    (do
      lift (Edit.checkPut (Text.byteSize unit) count)
      let text ← Text.copies (max count 1) unit
      lift (f text) : Capped Desk β) =
    lift (do
      Edit.checkPut (Text.byteSize unit) count
      f (Text.repeated (max count 1) unit)) := by
  unfold Edit.checkPut
  by_cases hlarge : Edit.maxPut < Text.byteSize unit * max count 1
  · simp only [if_pos hlarge]
    rfl
  · have hsize : max count 1 * Text.byteSize unit ≤ maxTextSize := by
      rw [Nat.mul_comm]
      exact Nat.le_trans (Nat.le_of_not_lt hlarge) (by decide)
    rw [Text.copies_eq_ok hsize]
    simp only [if_neg hlarge]
    rfl

theorem putInline_eq (col : Nat) (before : Bool) (register : Option Char) (count : Nat) :
    putInline col before register count = lift (Edit.putInline col before register count) := by
  rw [Edit.putInline, lift_bind]
  exact bind_congr fun content => checkPut_copies content.text count (Edit.putText col before)

theorem put_eq (before : Bool) (register : Option Char) (count col : Nat) :
    put before register count col = lift (Normal.put before register count col) := by
  unfold put Normal.put
  rw [lift_bind]
  refine bind_congr fun d => ?_
  simp only [putInline_eq, lift_ite, lift_bind]
  rfl

theorem act_eq (action : Action) (count : Option Nat) (register : Option Char) (col : Nat) :
    act action count register col = lift (Normal.act action count register col) := by
  cases action with
  | put before => exact put_eq before register _ col
  | _ => rfl

theorem run_eq (c : NormalCommand) (col : Nat) : run c col = lift (Normal.run c col) := by
  induction c generalizing col with
  | jumpMarkOr mark next otherwise ihnext ihotherwise =>
    rw [run, Normal.run]
    simp only [ihnext, ihotherwise, lift_bind, lift_ite]
  | andThen first second ihfirst ihsecond =>
    rw [run, Normal.run]
    simp only [ihfirst, ihsecond, lift_bind]
  | act count register action => exact act_eq action count register col
  | _ => rfl

theorem runKeys_eq (keys : Text) (col : Nat) :
    runKeys keys col = lift (Normal.runKeys keys col) := by
  unfold runKeys Normal.runKeys
  cases NormalCommand.read keys with
  | complete c => exact run_eq c col
  | incomplete => rfl
  | invalid => rfl

/-! ## Keys on many lines -/

theorem visit_eq (each : Edit Unit) (ns : List Nat) (d : Desk) :
    (visit (lift each) ns).run d = .ok ((Edit.visit each ns).run d) := by
  -- Each visit changes the desk, so the rest is visited from another one.
  induction ns generalizing d with
  | nil => rfl
  | cons n rest ih =>
    rw [visit, Edit.run_visit_cons]
    by_cases hn : d.buffer.lineCount ≤ n
    · rw [if_pos hn, ← ih d]
      change StateT.run (if d.buffer.lineCount ≤ n then _ else _) d = _
      rw [if_pos hn]
    · rw [if_neg hn]
      change StateT.run (if d.buffer.lineCount ≤ n then _ else _) d = _
      rw [if_neg hn]
      simp only [StateT.run_bind, StateT.run_modify]
      rcases hr : each.run.run { d with buffer := d.buffer.goTo n } with ⟨err | a, t⟩
      · simp only [pure_bind, run_lift, hr]
        rfl
      · simp only [pure_bind, run_lift, hr]
        change (visit (lift each) rest).run t >>= _ = _
        rw [ih t]
        rfl

theorem liftM_visit_eq (each : Edit Unit) (ns : List Nat) :
    (liftM (visit (lift each) ns) : Capped Desk Visit) =
      lift (liftM (Edit.visit each ns) : Edit Visit) := by
  funext d
  have hvisit := visit_eq each ns d
  change ((visit (lift each) ns).run d >>= fun r => Except.ok (Except.ok r.1, r.2)) = _
  rw [hvisit]
  rfl

theorem global_eq (s : LineSpan) (pattern : Text) (inverse : Bool) (o : Options) (each : Edit Unit) :
    global s pattern inverse o (lift each) = lift (Edit.global s pattern inverse o each) := by
  unfold global Edit.global Edit.visitTyped Edit.visitMatching
  simp only [lift_bind, bind_assoc, lift_ite, liftM_visit_eq]
  refine bind_congr fun compiled => bind_congr fun _ => bind_congr fun b => ?_
  split
  · rfl
  · simp only [bind_assoc]
    rfl

theorem onCurrent_eq {α σ : Type} (edit : Edit α) :
    (onCurrent (lift edit) : Capped (Editor σ) α) = lift (EditorM.onCurrent edit) := by
  rfl

/-! ## Commands of the command line -/

namespace Ex

variable {σ : Type}

theorem globalNormal_eq (range : Range) (pattern : Text) (inverse : Bool) (keys : Text) :
    (globalNormal range pattern inverse keys : Capped (Editor σ) ExOutcome) =
      lift (ModalEditor.Ex.global range pattern inverse (.normal keys)) := by
  have hkeys : ∀ o, (do let _ ← runKeys keys 0 : Capped Desk Unit) =
      lift (ModalEditor.Ex.globalEdit (.normal keys) o) := fun o => by
    have hedit : ModalEditor.Ex.globalEdit (.normal keys) o =
        (do let _ ← Normal.runKeys keys 0 : Edit Unit) := rfl
    rw [hedit, lift_bind, runKeys_eq]
    rfl
  unfold globalNormal ModalEditor.Ex.global
  rw [lift_bind]
  refine bind_congr fun span => ?_
  rw [lift_bind]
  refine bind_congr fun before => ?_
  simp only [lift_bind]
  refine bind_congr fun e => ?_
  rw [hkeys e.options, global_eq, onCurrent_eq]
  rfl

theorem normalOn_eq (keys : Text) (n i col : Nat) :
    (normalOn keys n i col : Capped (Editor σ) Nat) =
      lift (ModalEditor.Ex.normalOn keys n i col) := by
  induction n generalizing i col with
  | zero => rfl
  | succ n ih =>
    rw [normalOn, ModalEditor.Ex.normalOn]
    simp only [runKeys_eq, onCurrent_eq, ih, lift_bind, lift_ite]
    rfl

theorem normal_eq (range : Range) (keys : Text) (col : Nat) :
    (normal range keys col : Capped (Editor σ) ExOutcome) =
      lift (ModalEditor.Ex.normal range keys col) := by
  unfold normal ModalEditor.Ex.normal
  simp only [runKeys_eq, onCurrent_eq, normalOn_eq, lift_bind, lift_ite]
  rfl

theorem run_eq (h : Host σ) (c : ExCommand) (col : Nat) :
    run h c col = lift (ModalEditor.Ex.run h c col) := by
  induction c generalizing col with
  | global range pattern inverse action =>
    cases action with
    | normal keys => exact globalNormal_eq range pattern inverse keys
    | _ => rfl
  | normal range keys => exact normal_eq range keys col
  | atMark mark next otherwise ihnext ihotherwise =>
    rw [run, ModalEditor.Ex.run, lift_bind]
    refine bind_congr fun b => ?_
    cases b.mark? mark with
    | some n =>
      dsimp only
      rw [lift_bind, ihnext]
    | none => exact ihotherwise col
  | withRegister name next ih =>
    rw [run, ModalEditor.Ex.run, lift_bind, ih]
  | _ => rfl

end Ex

/-! ## Keys -/

namespace Session

open ModalEditor.Session (Answer narrate silent)

variable {σ : Type}

theorem runNormal_eq (s : Session σ) (c : NormalCommand) : runNormal s c = .ok (s.runNormal c) := by
  unfold runNormal ModalEditor.Session.runNormal
  rw [run_eq, onCurrent_eq, run_lift]
  rcases (EditorM.onCurrent (Normal.run c s.col) : EditorM σ _).run.run s.editor with
    ⟨_ | _, _⟩ <;> rfl

theorem typeNormal_eq (s : Session σ) (c : Char) : typeNormal s c = .ok (s.typeNormal c) := by
  unfold typeNormal ModalEditor.Session.typeNormal
  split
  · rfl
  dsimp only
  cases NormalCommand.read (s.pending ++ [c]) with
  | complete command => exact runNormal_eq _ command
  | incomplete => rfl
  | invalid => rfl

theorem normalKey_eq (s : Session σ) (key : Key) : normalKey s key = .ok (s.normalKey key) := by
  have hidle : ∀ c, (if s.pending.isEmpty then typeNormal s c else .ok (s, silent)) =
      .ok (if s.pending.isEmpty then s.typeNormal c else (s, silent)) := fun c => by
    rw [typeNormal_eq]
    exact (apply_ite Except.ok _ _ _).symm
  cases key with
  | char c => exact typeNormal_eq s c
  | backspace => exact hidle 'h'
  | enter => exact hidle 'j'
  | _ => rfl

/-- In insert mode only a tab makes copies, of a blank that has one byte. -/
theorem insertKey_eq (s : Session σ) (key : Key) :
    insertKey s key =
      if key = .tab ∧ maxTextSize < s.editor.options.softTabStop then
        .error ⟨[' '], s.editor.options.softTabStop⟩
      else .ok (s.insertKey key) := by
  cases key with
  | tab =>
    have hblank : Text.byteSize [' '] = 1 := by decide
    have hblanks : ∀ n, Text.repeated n [' '] = List.replicate n ' ' := fun n =>
      List.flatten_replicate_singleton
    simp only [insertKey, Text.copies, hblank, Nat.mul_one, true_and, hblanks]
    split <;> rfl
  | _ => rfl

theorem runLine_eq (h : Host σ) (s : Session σ) (line : Text) :
    runLine h s line = .ok (s.runLine h line) := by
  unfold runLine ModalEditor.Session.runLine
  simp only [Ex.run_eq, ← lift_bind, run_lift]
  rcases (do ModalEditor.Ex.run h (← EditorM.orFail (ExCommand.readLine line)) s.col :
    EditorM σ ExOutcome).run.run s.editor with ⟨_ | _, _⟩ <;> rfl

theorem commandKey_eq (h : Host σ) (s : Session σ) (key : Key) :
    commandKey h s key = .ok (s.commandKey h key) := by
  cases key with
  | enter =>
    simp only [commandKey, ModalEditor.Session.commandKey, runLine_eq]
    split <;> rfl
  | _ => rfl

end Session

end Capacity

namespace Session

variable {σ : Type} {h : Host σ} {s : Session σ} {key : Key}

/-- The key is a tab in insert mode, and the tab stop asks for more blanks than a text can hold. -/
def WideTab (s : Session σ) (key : Key) : Prop :=
  s.mode = .insert ∧ key = .tab ∧ maxTextSize < s.editor.options.softTabStop

theorem not_wideTab (hstop : s.editor.options.softTabStop ≤ maxTextSize) : ¬ s.WideTab key :=
  fun ⟨_, _, hwide⟩ => Nat.not_lt.mpr hstop hwide

theorem take_wideTab (hwide : s.WideTab key) :
    s.take h key = .error ⟨[' '], s.editor.options.softTabStop⟩ := by
  obtain ⟨hmode, hkey, hstop⟩ := hwide
  unfold take Capacity.Session.keyByMode
  simp only [hmode]
  rw [Capacity.Session.insertKey_eq, if_pos ⟨hkey, hstop⟩]
  rfl

/-- Every key but a wide tab is taken as it is pressed. -/
theorem take_eq_press (hwide : ¬ s.WideTab key) : s.take h key = .ok (s.press h key) := by
  unfold take press Capacity.Session.keyByMode
  cases hmode : s.mode with
  | normal =>
    rw [Capacity.Session.normalKey_eq]
    rfl
  | insert =>
    rw [Capacity.Session.insertKey_eq, if_neg fun hstop => hwide ⟨hmode, hstop⟩]
    rfl
  | commandLine =>
    rw [Capacity.Session.commandKey_eq]
    rfl

/-- Keys are taken as they are pressed, up to the first wide tab. -/
theorem takeAll_eq_pressAll {keys : List Key}
    (hwide : ∀ pre key, pre ++ [key] <+: keys → ¬ (s.after h pre).WideTab key) :
    s.takeAll h keys = .ok (s.pressAll h keys) := by
  induction keys generalizing s with
  | nil => rfl
  | cons key rest ih =>
    have hfirst : s.take h key = .ok (s.press h key) :=
      take_eq_press (hwide [] key (List.prefix_append [key] rest))
    -- A prefix of the rest is, behind `key`, a prefix of all.
    have hrest : (s.press h key).1.takeAll h rest = .ok ((s.press h key).1.pressAll h rest) :=
      ih fun pre next hpre => hwide (key :: pre) next (List.prefix_cons_inj key |>.mpr hpre)
    rw [takeAll, pressAll, hfirst]
    rcases hpress : s.press h key with ⟨next, _ | step⟩
    · rfl
    · rw [hpress] at hrest
      change (next.takeAll h rest >>= _) = _
      rw [hrest]
      rfl

/-- A `:set` and the key that starts inserting, with the tab stop that the `:set` gives. -/
theorem after_set_insert {line args : Text} {n : Nat} (hmode : s.mode = .normal)
    (hp : s.pending = []) (hf : s.editor.buffers.Fits)
    (hread : ExCommand.readLine line = .ok (.set args)) (hblank : Text.isBlankOnly line = false)
    (hset : (s.editor.options.applySet args).1.softTabStop = n) :
    (s.after h (lineKeys line ++ [.char 'i'])).mode = .insert ∧
      (s.after h (lineKeys line ++ [.char 'i'])).editor.options.softTabStop = n := by
  obtain ⟨heditor, hmode', hp'⟩ := after_lineKeys (h := h) hmode hp hread hblank
  have hf' := after_fits (h := h) hf (lineKeys line)
  rw [after_append]
  generalize s.after h (lineKeys line) = t at *
  have hkey : ('i', InsertKind.before) ∈ NormalCommand.insertKeys := by decide
  have hinserts := press_insert (h := h) hmode' hp' hf'.current_lt hf'.buffer hkey rfl
  have hsame : t.editor.SameSettings (t.press h (.char 'i')).1.editor :=
    press_sameSettings (entered?_of_mode (by rw [hmode']; decide))
  have hoptions : t.editor.options = (s.editor.options.applySet args).1 := by
    rw [heditor]
    exact Ex.run_set_options h args s.col s.editor
  refine ⟨hinserts.mode, ?_⟩
  change (t.press h (.char 'i')).1.editor.options.softTabStop = n
  rw [hsame.options, hoptions, hset]

/-- Of all keys only a tab in insert mode can ask for a text too long to exist, and it does so if and
only if the tab stop is larger than a text. The tab stop is the one that the session has begun with, or
a number that a `:set` of the session was given. -/
theorem take_unless_wide_tab (h : Host σ) (s₀ : Session σ) (hs : s₀.IsNew h) (keys : List Key)
    (key : Key) :
    let s := s₀.after h keys
    (s.WideTab key → s.take h key = .error ⟨[' '], s.editor.options.softTabStop⟩) ∧
      (¬ s.WideTab key → s.take h key = .ok (s.press h key)) ∧
      (s.editor.options.softTabStop = s₀.editor.options.softTabStop ∨
        ∃ pre next args, pre ++ [next] <+: keys ∧ (s₀.after h pre).settings? next = some args ∧
          Options.Assigns args s.editor.options.softTabStop) := by
  intro s
  have he : s₀.editor.HasCurrent := by
    obtain ⟨b, o, world, rfl⟩ := hs.eq_ofBuffer
    exact Nat.one_pos
  exact ⟨take_wideTab, take_eq_press, after_softTabStop he keys⟩

/-- The widest tab that a text can hold is taken. -/
theorem take_unless_wide_tab_of_widest :
    let h := Memory.host "/p".toList
    let s₀ : Session Memory := .new {} {}
    let s := s₀.after h (lineKeys "set sts=9223372036854775807".toList ++ [.char 'i'])
    s₀.IsNew h ∧ s.mode = .insert ∧ s.editor.options.softTabStop = maxTextSize ∧
      s.take h .tab = .ok (s.press h .tab) := by
  intro h s₀
  have hnew : s₀.IsNew h := ⟨{}, {}, .inl ⟨none, rfl⟩⟩
  have hread : ExCommand.readLine "set sts=9223372036854775807".toList =
      .ok (.set "sts=9223372036854775807".toList) :=
    ExCommand.readLine_set "sts=9223372036854775807".toList (by decide)
  obtain ⟨hmode, hstop⟩ := after_set_insert (h := h) (s := s₀) (n := maxTextSize) rfl rfl
    (fits_ofBuffer Buffer.fits_new {} ({} : Memory)) hread (by decide) (by decide +kernel)
  have hnarrow : ¬ WideTab _ .tab := not_wideTab hstop.le
  exact ⟨hnew, hmode, hstop, (take_unless_wide_tab h s₀ hnew _ .tab).2.1 hnarrow⟩

/-- `:set` takes a tab stop that is larger than a text, and then a tab asks for so many blanks. -/
theorem accepted_tab_stop_overflows :
    let h := Memory.host "/p".toList
    ∃ s₀, begin h {} {} none = .ok s₀ ∧
      let keys := lineKeys "set sts=9223372036854775808".toList ++ [.char 'i']
      (s₀.after h keys).take h .tab = .error ⟨[' '], 9223372036854775808⟩ ∧
        maxTextSize < 9223372036854775808 * Text.byteSize [' '] := by
  intro h
  refine ⟨_, rfl, ?_, by decide⟩
  have hread : ExCommand.readLine "set sts=9223372036854775808".toList =
      .ok (.set "sts=9223372036854775808".toList) :=
    ExCommand.readLine_set "sts=9223372036854775808".toList (by decide)
  obtain ⟨hmode, hstop⟩ := after_set_insert (h := h) (s := .new {} {}) (n := 9223372036854775808)
    rfl rfl (fits_ofBuffer Buffer.fits_new {} ({} : Memory)) hread (by decide) (by decide +kernel)
  refine (take_wideTab ⟨hmode, rfl, ?_⟩).trans ?_
  · rw [hstop]
    decide
  · rw [hstop]

end Session
end ModalEditor
