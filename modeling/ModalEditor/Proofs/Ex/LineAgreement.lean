import ModalEditor.Host.Memory
import ModalEditor.Proofs.Ex.Evolution
import ModalEditor.Proofs.Ex.Named
import ModalEditor.Proofs.Normal.Deletion

/-!
# Two ways to type a command on lines

Deleting, yanking and putting whole lines can be typed as keys of normal mode, with the count and the
register in front, or as a line of the command line, with both behind the name. The two are read by
different readers, find their lines in different ways and report in different ways, but they do the same
(`line_commands_agree`): the same editor is left, at the same column and with the same message, or both
fail alike.

Each reading is written out (`NormalCommand.read_prefixed`, `ExCommand.readLine_named`). Behind it both
come down to one edit with a report (`agree_of_reported`); what remains is which lines the edit is about,
and what a put does with a register that holds a piece of text.
-/

namespace ModalEditor

/-! ## Keys -/

namespace NormalCommand

/-- A register as it is named in front of keys. -/
def registerKeys (register : Option Char) : Text := register.elim [] fun x => ['"', x]

theorem isCount_nil : IsCount [] := ⟨by simp, by simp⟩

/-- Keys with a count and a register in front. -/
theorem read_prefixed {digits body : Text} (hdigits : IsCount digits) {register : Option Char}
    (hregister : ∀ x ∈ register, Register.isName x = true) (hne : body ≠ []) (hends : EndsCount body)
    (hbody : ∀ c ∈ ['m', '\'', '"', 'G'], body.head? ≠ some c) :
    read (digits ++ (registerKeys register ++ body)) =
      readAction (Text.count? digits) register body := by
  have hcounted : ∀ again count, readCounted again count register body =
      readAction count register body := by
    intro again count
    rw [readCounted, splitCount_of_ends hends]
    dsimp only
    split
    · exact absurd rfl (hbody 'G' (by decide))
    · rw [multiply_none]
  cases register with
  | none =>
    have hne' : digits ++ body ≠ [] := by simp [hne]
    change readFrom _ none (digits ++ body) = _
    rw [readFrom_of_split _ hne' (head?_count hdigits (by decide) (hbody 'm' (by decide)))
      (head?_count hdigits (by decide) (hbody '\'' (by decide))) (splitCount_digits hdigits hends)
      (hbody '"' (by decide)) fun _ => hbody 'G' (by decide), hcounted]
  | some x =>
    have hquote : EndsCount ('"' :: x :: body) := endsCount_cons (by decide) _
    change readFrom _ none (digits ++ '"' :: x :: body) = _
    rw [readFrom_split _ (by simp) (head?_count hdigits (by decide) (by simp))
      (head?_count hdigits (by decide) (by simp)), splitCount_digits hdigits hquote]
    cases Text.count? digits <;> exact (if_pos (hregister x rfl)).trans (hcounted _ _)

end NormalCommand

/-! ## Reports -/

/-- Keys and a line do the same: they leave the same editor, and both fail alike or end at the same
column with the same message, in normal mode. -/
def Agree {σ : Type} (keys : EditorM σ NormalOutcome) (line : EditorM σ ExOutcome) (e : Editor σ) :
    Prop :=
  ∃ (r : Except EditorError (Nat × Option Text)) (e' : Editor σ),
    keys.run.run e = (r.map fun (col, message) => { col, message }, e') ∧
      line.run.run e = (r.map fun (col, message) => { col, message }, e')

/-- An edit of a number of lines, with the column where it ends and a report. -/
def Edit.reported (edit : Edit Nat) (place : Buffer → Nat) (what : String) : Edit NormalOutcome := do
  let n ← edit
  return { col := place (← buffer), message := lineReport n what }

/-- The same edit of the current buffer, reported by the editor. -/
def EditorM.reported {σ : Type} (edit : Edit Nat) (place : Buffer → Nat) (what : String) :
    EditorM σ ExOutcome := do
  let n ← onCurrent edit
  return { col := place (← buffer), message := lineReport n what }

variable {σ : Type} {e : Editor σ}

/-- Keys and a line that come down to the same edit with the same report agree. -/
theorem agree_of_reported (he : e.HasCurrent) {edit : Edit Nat} {place : Buffer → Nat}
    {what : String} {keys : Edit NormalOutcome} {line : EditorM σ ExOutcome}
    (hkeys : keys.run.run ⟨e.buffer, e.registers⟩ =
      (edit.reported place what).run.run ⟨e.buffer, e.registers⟩)
    (hline : line.run.run e = (EditorM.reported edit place what).run.run e) :
    Agree (EditorM.onCurrent keys) line e := by
  unfold Agree
  rw [hline, EditorM.run_onCurrent, hkeys, Edit.reported, EditorM.reported, run_bind, run_bind,
    EditorM.run_onCurrent]
  rcases edit.run.run ⟨e.buffer, e.registers⟩ with ⟨err | n, d⟩
  · exact ⟨.error err, _, rfl, rfl⟩
  · have hbuffer : ({ e.setBuffer d.buffer with registers := d.registers } : Editor σ).buffer =
        d.buffer := Editor.buffer_setBuffer he d.buffer
    refine ⟨.ok (place d.buffer, lineReport n what), _, rfl, ?_⟩
    dsimp only
    rw [run_bind, EditorM.run_buffer]
    dsimp only
    rw [hbuffer]
    rfl

/-! ## What is done -/

namespace Normal

open Edit

variable {d : Desk} {register : Option Char} {col : Nat}

theorem run_deleteLines_reported (n : Nat) :
    (run (.act (some n) register .deleteLines) col).run.run d =
      ((deleteLines (d.buffer.linesFromCursor (max n 1)) register).reported Buffer.home
        "fewer lines").run.run d := by
  rw [run, act, reported, run_bind, run_buffer]
  rfl

theorem run_yankLines_reported (n : Nat) :
    (run (.act (some n) register .yankLines) col).run.run d =
      ((yankLines (d.buffer.linesFromCursor (max n 1)) register).reported (fun _ => col)
        "lines yanked").run.run d := by
  rw [run, act, reported, run_bind, run_buffer]
  rfl

/-- A register is put as lines unless it holds a piece of text. If there is nothing in it, both ways to
put it fail alike. -/
theorem run_put_reported (before : Bool)
    (hused : ∀ content ∈ d.buffer.register? d.registers (register.or d.buffer.selected),
      content.isEmpty = true ∨ content.kind = .lines) :
    (run (.act none register (.put before)) col).run.run d =
      ((putLines before register 1).reported Buffer.home "more lines").run.run d := by
  change (put before register 1 col).run.run d = _
  rw [put, run_bind, run_get]
  dsimp only
  split
  · rename_i hinline
    obtain ⟨content, hcontent, hchars⟩ := (Option.any_eq_true _ _).mp hinline
    have hempty : content.isEmpty = true := by
      rcases hused content hcontent with hempty | hlines
      · exact hempty
      · simp [hlines] at hchars
    rcases hrun : (takeContent register).run.run d with ⟨err | taken, t⟩
    · rw [putInline, putLines, reported]
      simp only [run_bind, hrun]
    · obtain ⟨htaken, hsome⟩ := takeContent_ok hrun
      rw [hcontent, Option.getD_some] at htaken
      rw [htaken, hempty] at hsome
      cases hsome
  · rfl

end Normal

namespace Ex

open EditorM

variable (h : Host σ)

/-- Reads a command line and carries it out. -/
def runLine (line : Text) (col : Nat) : EditorM σ ExOutcome := do
  run h (← orFail (ExCommand.readLine line)) col

variable {h} {register : Option Char}

theorem run_runLine {line : Text} {c : ExCommand} (hc : ExCommand.readLine line = .ok c) (col : Nat) :
    (runLine h line col).run.run e = (run h c col).run.run e := by
  rw [runLine, hc, run_bind, run_orFail]

/-- A count starts at the current line if there is no range. -/
theorem run_countedSpan_implicit (n : Nat) :
    (countedSpan .implicit (some n)).run.run e =
      (.ok (e.buffer.linesFromCursor (max n 1)), e) := by
  have hspan : e.buffer.linesFromCursor (max n 1) =
      ⟨e.buffer.current, min (e.buffer.current + (max n 1 - 1)) e.buffer.lastLine⟩ := by
    rw [Buffer.linesFromCursor, Nat.max_eq_left (Nat.le_max_right n 1)]
  rw [run_countedSpan, hspan]
  rfl

theorem run_delete_reported (n col : Nat) :
    (run h (.delete .implicit register (some n)) col).run.run e =
      (EditorM.reported (Edit.deleteLines (e.buffer.linesFromCursor (max n 1)) register) Buffer.home
        "fewer lines").run.run e := by
  rw [run, run_bind, run_countedSpan_implicit]
  rfl

theorem run_yank_reported (n col : Nat) :
    (run h (.yank .implicit register (some n)) col).run.run e =
      (EditorM.reported (Edit.yankLines (e.buffer.linesFromCursor (max n 1)) register) (fun _ => col)
        "lines yanked").run.run e := by
  rw [run, run_bind, run_countedSpan_implicit]
  rfl

theorem run_put_reported (hline : e.buffer.current < e.buffer.lineCount) (above : Bool)
    (col : Nat) :
    (run h (.put .implicit register above) col).run.run e =
      (EditorM.reported (Edit.putLines above register 1) Buffer.home "more lines").run.run e := by
  have hstays : e.setBuffer (e.buffer.goTo e.buffer.current) = e := by
    have hmin : min e.buffer.current e.buffer.lastLine = e.buffer.current := by
      have hcount : e.buffer.lineCount = e.buffer.lines.length := rfl
      rw [Buffer.lastLine]
      omega
    have hbuffer : e.buffer.goTo e.buffer.current = e.buffer :=
      congrArg (fun current => { e.buffer with current }) hmin
    rw [hbuffer, Editor.setBuffer_buffer]
  have hspan : (spanOf .implicit).run.run e = (.ok e.buffer.currentSpan, e) := run_spanOf .implicit e
  rw [run, run_bind, hspan]
  dsimp only
  rw [run_bind, run_modifyBuffer, show e.buffer.currentSpan.last = e.buffer.current from rfl, hstays]
  rfl

end Ex

open ExCommand NormalCommand in
/-- Keys that delete, yank or put lines do the same as the lines of the command line that do so, with any
count from one to the largest and any register that has no number; for a put the register that is used
must hold whole lines, or nothing at all. -/
theorem line_commands_agree (h : Host σ) (e : Editor σ) (he : e.HasCurrent)
    (hline : e.buffer.current < e.buffer.lineCount) (col : Nat) {register : Option Char}
    (hregister : ∀ x ∈ register, x = '"' ∨ isLetter x = true) :
    (∀ n, 0 < n → n ≤ maxCount →
      Agree (EditorM.onCurrent
          (Normal.runKeys (Text.ofNat n ++ (registerKeys register ++ ['d', 'd'])) col))
        (Ex.runLine h ('d' :: arguments register (some n)) col) e ∧
      Agree (EditorM.onCurrent
          (Normal.runKeys (Text.ofNat n ++ (registerKeys register ++ ['y', 'y'])) col))
        (Ex.runLine h ('y' :: arguments register (some n)) col) e) ∧
    ((∀ content ∈ e.buffer.register? e.registers (register.or e.buffer.selected),
        content.isEmpty = true ∨ content.kind = .lines) →
      Agree (EditorM.onCurrent (Normal.runKeys (registerKeys register ++ ['p']) col))
        (Ex.runLine h ('p' :: 'u' :: arguments register none) col) e ∧
      Agree (EditorM.onCurrent (Normal.runKeys (registerKeys register ++ ['P']) col))
        (Ex.runLine h ('p' :: 'u' :: '!' :: arguments register none) col) e) := by
  have hname := isName_register hregister
  constructor
  · intro n hpos hmax
    have hdelete : NormalCommand.read (Text.ofNat n ++ (registerKeys register ++ ['d', 'd'])) =
        .complete (.act (some n) register .deleteLines) := by
      rw [read_prefixed (Text.isCount_ofNat hpos) hname (by simp) endsCount_dd (by simp),
        Text.count?_ofNat hmax]
      rfl
    have hyank : NormalCommand.read (Text.ofNat n ++ (registerKeys register ++ ['y', 'y'])) =
        .complete (.act (some n) register .yankLines) := by
      rw [read_prefixed (Text.isCount_ofNat hpos) hname (by simp) (endsCount_cons (by decide) _)
        (by simp), Text.count?_ofNat hmax]
      rfl
    have hdeleteLine := readLine_counted hregister 'd' (.delete .implicit) (by decide) rfl
      (fun _ _ => rfl) hpos hmax
    have hyankLine := readLine_counted hregister 'y' (.yank .implicit) (by decide) rfl
      (fun _ _ => rfl) hpos hmax
    rw [Normal.runKeys, hdelete, Normal.runKeys, hyank]
    constructor
    · refine agree_of_reported he (Normal.run_deleteLines_reported n) ?_
      rw [Ex.run_runLine hdeleteLine, Ex.run_delete_reported]
    · refine agree_of_reported he (Normal.run_yankLines_reported n) ?_
      rw [Ex.run_runLine hyankLine, Ex.run_yank_reported]
  · intro hused
    have hput : ∀ before : Bool,
        Agree (EditorM.onCurrent (Normal.run (.act none register (.put before)) col))
          (Ex.runLine h (named ['p', 'u'] before (arguments register none)) col) e := by
      intro before
      refine agree_of_reported he (Normal.run_put_reported before hused) ?_
      rw [Ex.run_runLine (readLine_put hregister before), Ex.run_put_reported hline]
    have hbelow : NormalCommand.read (registerKeys register ++ ['p']) =
        .complete (.act none register (.put false)) :=
      read_prefixed isCount_nil hname (by simp) (endsCount_cons (by decide) _) (by simp)
    have habove : NormalCommand.read (registerKeys register ++ ['P']) =
        .complete (.act none register (.put true)) :=
      read_prefixed isCount_nil hname (by simp) (endsCount_cons (by decide) _) (by simp)
    rw [Normal.runKeys, hbelow, Normal.runKeys, habove]
    exact ⟨hput false, hput true⟩

/-- A register is selected that holds two lines. The largest count deletes the last two lines into it,
and a put without a name puts its two lines. -/
theorem line_commands_agree_of_selected_register :
    let b : Buffer :=
      { lines := [['a'], ['b'], ['c']], current := 1, marks := [('m', 2)], selected := some 'q' }
    let registers : RegisterFile := ({} : RegisterFile).set (some 'q') (.ofLines [['x'], ['y']])
    let e : Editor Memory := { buffers := .ofBuffer b, registers, world := {} }
    let h := Memory.host []
    Agree (EditorM.onCurrent (Normal.runKeys "18446744073709551615dd".toList 0))
        (Ex.runLine h "d 18446744073709551615".toList 0) e ∧
      Agree (EditorM.onCurrent (Normal.runKeys ['P'] 0)) (Ex.runLine h "pu!".toList 0) e ∧
      ((Ex.runLine h "pu!".toList 0).run.run e).2.buffer.lines =
        [['a'], ['x'], ['y'], ['b'], ['c']] := by
  intro b registers e h
  have hused : ∀ content ∈ e.buffer.register? e.registers ((none : Option Char).or e.buffer.selected),
      content.isEmpty = true ∨ content.kind = .lines := by
    rintro content ⟨⟩
    exact .inr rfl
  have hregister : ∀ x ∈ (none : Option Char), x = '"' ∨ isLetter x = true := by rintro x ⟨⟩
  obtain ⟨hcounts, hputs⟩ := line_commands_agree h e Nat.zero_lt_one (by decide) 0 hregister
  exact ⟨(hcounts maxCount (by decide) (Nat.le_refl _)).1, (hputs hused).2, by decide +kernel⟩

end ModalEditor
