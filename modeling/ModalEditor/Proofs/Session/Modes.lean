import ModalEditor.Proofs.Session.Pending

/-!
# Modes

A session goes between three modes. Two of them collect keys: in normal mode keys wait until they
are a command, and on the command line they are the text of one. Neither collection outlives its
mode (`Session.Tidy`), however keys and failures follow on each other: a mode is left only by a key
that completes a command or cancels it, and that key empties the collection first.

A key has no answer only if its command failed with a fatal failure of input or output. By then the
session is back in normal mode (`Session.press_error`).
-/

namespace ModalEditor.Session

variable {σ : Type} {h : Host σ} {s : Session σ}

/-- Keys wait in normal mode only, and a command is typed on the command line only. -/
structure Tidy (s : Session σ) : Prop where
  /-- Keys wait in normal mode only. -/
  pending : s.pending ≠ [] → s.mode = .normal
  /-- A command is typed on the command line only. -/
  commandLine : s.mode ≠ .commandLine → s.commandLine = {}

theorem Tidy.pending_eq_nil (hs : s.Tidy) (hmode : s.mode ≠ .normal) : s.pending = [] :=
  Classical.byContradiction fun hp => hmode (hs.pending hp)

/-- Nothing is collected. -/
theorem tidy_of_empty (hp : s.pending = []) (hc : s.commandLine = {}) : s.Tidy :=
  ⟨fun hne => absurd hp hne, fun _ => hc⟩

/-! ## Answers -/

/-- Errors are said unless they are fatal failures. -/
theorem narrate_eq_error {err : EditorError} {failure : IoFailure} :
    narrate err = .error failure ↔ err = .io failure ∧ failure.isFatal = true := by
  unfold narrate
  split
  · rename_i failure'
    split
    · rename_i hfatal
      constructor
      · rintro ⟨⟩
        exact ⟨rfl, hfatal⟩
      · rintro ⟨⟨⟩, -⟩
        rfl
    · rename_i hfatal
      constructor
      · rintro ⟨⟩
      · rintro ⟨⟨⟩, h⟩
        exact absurd h hfatal
  · rename_i hio
    constructor
    · rintro ⟨⟩
    · rintro ⟨rfl, -⟩
      exact absurd rfl (hio failure)

/-- The answer of a key is a failure only if carrying it out was one. -/
theorem eq_error_of_map {a : Answer} {f : Option Text × Bool → Step} {failure : IoFailure}
    (ha : a.map f = .error failure) : a = .error failure := by
  cases a with
  | error failure' =>
    cases ha
    rfl
  | ok said => cases ha

/-! ## Keys in normal mode -/

/-- A command of normal mode that fails does not start an insertion. -/
theorem runNormal_error {c : NormalCommand} {failure : IoFailure}
    (hfail : (s.runNormal c).2 = .error failure) :
    failure.isFatal = true ∧ (s.runNormal c).1.mode = s.mode := by
  unfold runNormal at hfail ⊢
  rcases hrun : (EditorM.onCurrent (Normal.run c s.col) : EditorM σ _).run.run s.editor with
    ⟨err | o, e⟩ <;> rw [hrun] at hfail
  · exact ⟨(narrate_eq_error.mp hfail).2, rfl⟩
  · cases hfail

theorem Tidy.typeNormal (hs : s.Tidy) (hmode : s.mode = .normal) (c : Char) :
    (s.typeNormal c).1.Tidy := by
  have hempty : s.commandLine = {} := hs.commandLine (by simp [hmode])
  unfold Session.typeNormal
  split
  · rename_i hcolon
    rw [Bool.and_eq_true, List.isEmpty_iff] at hcolon
    exact tidy_of_empty hcolon.2 rfl
  dsimp only
  split
  · exact ⟨fun _ => hmode, fun _ => hempty⟩
  · exact tidy_of_empty rfl hempty
  · exact tidy_of_empty (runNormal_pending _ _) ((runNormal_commandLine _ _).trans hempty)

theorem Tidy.normalKey (hs : s.Tidy) (hmode : s.mode = .normal) (key : Key) :
    (s.normalKey key).1.Tidy := by
  rcases normalKey_cases s key with ⟨c, hkey⟩ | hkey | hkey <;> rw [hkey]
  · exact hs.typeNormal hmode c
  · exact tidy_of_empty rfl (hs.commandLine (by simp [hmode]))
  · exact hs

theorem typeNormal_error {c : Char} {failure : IoFailure} (hmode : s.mode = .normal)
    (hfail : (s.typeNormal c).2 = .error failure) :
    failure.isFatal = true ∧ (s.typeNormal c).1.mode = .normal ∧
      (s.typeNormal c).1.pending = [] := by
  unfold typeNormal at hfail ⊢
  split at hfail
  · cases hfail
  rename_i hcolon
  rw [if_neg hcolon]
  dsimp only at hfail ⊢
  split at hfail
  · cases hfail
  · have hnarrated : narrate (.unsupportedCommand (s.pending ++ [c])) = .error failure := hfail
    cases (narrate_eq_error.mp hnarrated).1
  · obtain ⟨hfatal, hkept⟩ := runNormal_error hfail
    exact ⟨hfatal, hkept.trans hmode, runNormal_pending _ _⟩

theorem normalKey_error {key : Key} {failure : IoFailure} (hmode : s.mode = .normal)
    (hfail : (s.normalKey key).2 = .error failure) :
    failure.isFatal = true ∧ (s.normalKey key).1.mode = .normal ∧
      (s.normalKey key).1.pending = [] := by
  rcases normalKey_cases s key with ⟨c, hkey⟩ | hkey | hkey <;> rw [hkey] at hfail ⊢
  · exact typeNormal_error hmode hfail
  · cases hfail
  · cases hfail

/-! ## Keys in insert mode and on the command line -/

theorem Tidy.insertKey (hs : s.Tidy) (hmode : s.mode = .insert) (key : Key) :
    (s.insertKey key).Tidy := by
  refine tidy_of_empty ?_ ?_
  · exact (insertKey_pending s key).trans (hs.pending_eq_nil (by simp [hmode]))
  · exact (insertKey_commandLine s key).trans (hs.commandLine (by simp [hmode]))

theorem runLine_error {line : Text} {failure : IoFailure}
    (hfail : (s.runLine h line).2 = .error failure) : failure.isFatal = true := by
  rw [runLine_eq] at hfail
  cases hread : ExCommand.readLine line with
  | error err =>
    rw [hread] at hfail
    exact (narrate_eq_error.mp hfail).2
  | ok c =>
    rw [hread] at hfail
    dsimp only at hfail
    rcases hrun : (Ex.run h c s.col).run.run s.editor with ⟨err | o, e⟩ <;> rw [hrun] at hfail
    · exact (narrate_eq_error.mp hfail).2
    · cases hfail

/-- Enter leads from the command line to normal mode, whatever comes of the command. -/
theorem commandKey_enter (s : Session σ) :
    (s.commandKey h .enter).1.mode = .normal ∧ (s.commandKey h .enter).1.commandLine = {} ∧
      ∀ failure, (s.commandKey h .enter).2 = .error failure → failure.isFatal = true := by
  simp only [commandKey]
  split
  · exact ⟨rfl, rfl, fun failure hfail => by cases hfail⟩
  · obtain ⟨editor, col, hstate⟩ := runLine_state (h := h)
      { s with mode := .normal, commandLine := {} } s.commandLine.input
    rw [hstate]
    exact ⟨rfl, rfl, fun failure => runLine_error⟩

theorem Tidy.commandKey (hs : s.Tidy) (hmode : s.mode = .commandLine) (key : Key) :
    (s.commandKey h key).1.Tidy := by
  have hp : s.pending = [] := hs.pending_eq_nil (by simp [hmode])
  have hpending : (s.commandKey h key).1.pending = [] := (commandKey_pending s key).trans hp
  cases key with
  | enter => exact tidy_of_empty hpending (commandKey_enter s).2.1
  | escape => exact tidy_of_empty hpending rfl
  | _ => exact ⟨fun hne => absurd hpending hne, fun hne => absurd hmode hne⟩

theorem commandKey_error {key : Key} {failure : IoFailure}
    (hfail : (s.commandKey h key).2 = .error failure) :
    failure.isFatal = true ∧ (s.commandKey h key).1.mode = .normal := by
  cases key with
  | enter =>
    obtain ⟨hmode, -, hfatal⟩ := commandKey_enter (h := h) s
    exact ⟨hfatal failure hfail, hmode⟩
  | _ => cases hfail

/-! ## All keys -/

theorem Tidy.press (hs : s.Tidy) (key : Key) : (s.press h key).1.Tidy := by
  unfold Session.press
  cases hmode : s.mode with
  | normal => exact hs.normalKey hmode key
  | insert => exact hs.insertKey hmode key
  | commandLine => exact hs.commandKey hmode key

theorem Tidy.after (hs : s.Tidy) (keys : List Key) : (s.after h keys).Tidy :=
  after_induction (P := Tidy) hs fun _ ht key _ => ht.press key

/-- A key that fails leads to normal mode, with nothing pending. -/
theorem press_error (hs : s.Tidy) {key : Key} {failure : IoFailure}
    (hfail : (s.press h key).2 = .error failure) :
    failure.isFatal = true ∧ (s.press h key).1.mode = .normal ∧ (s.press h key).1.pending = [] := by
  unfold Session.press at hfail ⊢
  cases hmode : s.mode with
  | normal =>
    rw [hmode] at hfail
    have hanswer := eq_error_of_map (a := (s.normalKey key).2) hfail
    exact normalKey_error hmode hanswer
  | insert =>
    rw [hmode] at hfail
    cases hfail
  | commandLine =>
    rw [hmode] at hfail
    have hanswer := eq_error_of_map (a := (s.commandKey h key).2) hfail
    obtain ⟨hfatal, hnormal⟩ := commandKey_error hanswer
    refine ⟨hfatal, hnormal, ?_⟩
    exact (commandKey_pending s key).trans (hs.pending_eq_nil (by simp [hmode]))

theorem IsNew.tidy (hs : s.IsNew h) : s.Tidy ∧ s.Waits := by
  obtain ⟨b, o, world, rfl⟩ := hs.eq_ofBuffer
  exact ⟨tidy_of_empty rfl rfl, waits_of_nil rfl⟩

/-- However a session has come to its state, keys wait in normal mode only and are the start of a
command, and a command is typed on the command line only. Enter leads from there to normal mode,
and a key that fails does so with a fatal failure and leads there too. -/
theorem modes_tidy (h : Host σ) (s₀ : Session σ) (hs : s₀.IsNew h) (keys : List Key) :
    let s := s₀.after h keys
    (s.pending ≠ [] → s.mode = .normal ∧ NormalCommand.read s.pending = .incomplete) ∧
    (s.mode ≠ .commandLine → s.commandLine = {}) ∧
    (s.mode = .commandLine → (s.press h .enter).1.mode = .normal) ∧
    ∀ key failure, (s.press h key).2 = .error failure →
      failure.kind ∈ [.storageFull, .writeZero, .outOfMemory, .unexpectedEnd] ∧
        (s.press h key).1.mode = .normal ∧ (s.press h key).1.pending = [] := by
  intro s
  have htidy : s.Tidy := hs.tidy.1.after keys
  have hwaits : s.Waits := hs.tidy.2.after keys
  refine ⟨fun hp => ⟨htidy.pending hp, hwaits⟩, htidy.commandLine, fun hmode => ?_,
    fun key failure hfail => ?_⟩
  · unfold press
    rw [hmode]
    exact (commandKey_enter s).1
  · obtain ⟨hfatal, hplace⟩ := press_error htidy hfail
    exact ⟨of_decide_eq_true hfatal, hplace⟩

/-- A write to a store without room is the answer to Enter, and the session is in normal mode. -/
theorem modes_tidy_of_full_store :
    ∃ s₀, begin (Memory.host "/p".toList) {}
        { files := [("/p/f".toList, "ab\n".toList)],
          storeFaults := [("/p/f".toList, ⟨.storageFull, "no room".toList⟩)] }
        (some "f".toList) = .ok s₀ ∧ s₀.IsNew (Memory.host "/p".toList) ∧
      let s := s₀.after (Memory.host "/p".toList) ("x:w".toList.map Key.ofChar)
      s.mode = .commandLine ∧
      (s.press (Memory.host "/p".toList) .enter).2 =
        .error ⟨.storageFull, "no room".toList⟩ ∧
      (s.press (Memory.host "/p".toList) .enter).1.mode = .normal ∧
      (s.press (Memory.host "/p".toList) .enter).1.pending = [] := by
  have hopen : ∃ s₀, begin (Memory.host "/p".toList) {}
      { files := [("/p/f".toList, "ab\n".toList)],
        storeFaults := [("/p/f".toList, ⟨.storageFull, "no room".toList⟩)] }
      (some "f".toList) = .ok s₀ ∧
      (s₀.after (Memory.host "/p".toList) ("x:w".toList.map Key.ofChar)).mode = .commandLine ∧
      ((s₀.after (Memory.host "/p".toList) ("x:w".toList.map Key.ofChar)).press
        (Memory.host "/p".toList) .enter).2 = .error ⟨.storageFull, "no room".toList⟩ :=
    ⟨_, rfl, by decide +kernel, by decide +kernel⟩
  obtain ⟨s₀, hbegin, hmode, hfail⟩ := hopen
  have hnew : s₀.IsNew (Memory.host "/p".toList) := ⟨_, _, .inl ⟨_, hbegin⟩⟩
  exact ⟨s₀, hbegin, hnew, hmode, hfail, ((modes_tidy _ s₀ hnew _).2.2.2 .enter _ hfail).2⟩

end ModalEditor.Session
