import ModalEditor.Proofs.Edit.Removal
import ModalEditor.Proofs.Normal.Deletion
import ModalEditor.Proofs.Text.Numeral

/-!
# Counts too large for a word

A count is a number of any length, but one that is larger than a word is taken off the keys without
a value (`Text.count?_digits`). The command is then the one that is typed without that count: `dd`
deletes one line, `G` goes to the last line, and only the other of two counts is left, or none if it
is the inner one that is too large. What the keys do is therefore what the numbers say for smaller
numbers, and beyond them only where the command without the count happens to do the same
(`counts_are_numbers_iff`).
-/

namespace ModalEditor

open NormalCommand

namespace Desk

/-- How many lines there are from the cursor to the end. -/
def linesLeft (d : Desk) : Nat := d.buffer.lineCount - d.buffer.current

/-- The desk `u` is without the `n` lines from the cursor on, and has them in the register of the
last delete. -/
structure LosesLines (d : Desk) (n : Nat) (u : Desk) : Prop where
  /-- The other lines are left. -/
  lines : u.buffer.lines = Buffer.orBlank
    (d.buffer.lines.take d.buffer.current ++ d.buffer.lines.drop (d.buffer.current + n))
  /-- The lines that are gone. -/
  register : u.registers.get? (some '1') =
    some (.ofLines ((d.buffer.lines.drop d.buffer.current).take n))

/-- The register tells how many lines are gone. -/
theorem LosesLines.unique {d u : Desk} {m n : Nat} (hm : d.LosesLines m u) (hn : d.LosesLines n u)
    (hmleft : m ≤ d.linesLeft) (hnleft : n ≤ d.linesLeft) : m = n := by
  have hsame := hm.register.symm.trans hn.register
  have htaken := congrArg (fun r => r.lines.length) (Option.some.inj hsame)
  have hleft : (d.buffer.lines.drop d.buffer.current).length = d.linesLeft := List.length_drop
  simpa [Register.ofLines, List.length_take, hleft, hmleft, hnleft] using htaken

end Desk

/-! ## Deleting from the cursor on -/

/-- The lines from the cursor on end where there are as many as wanted, or at the end. -/
theorem Buffer.linesFromCursor_stop {b : Buffer} {n : Nat} (hcurrent : b.current < b.lineCount)
    (hn : 1 ≤ n) :
    (b.linesFromCursor n).last + 1 = b.current + min n (b.lineCount - b.current) := by
  unfold lineCount at hcurrent ⊢
  unfold linesFromCursor lastLine
  dsimp only
  omega

/-- The lines from the cursor on are deleted. -/
theorem Edit.deleteLines_losesLines {d : Desk} {n : Nat}
    (hcurrent : d.buffer.current < d.buffer.lineCount) (hn : 1 ≤ n)
    (hregisters : d.registers.Complete) (hwritable : d.SelectsWritable) :
    ∃ removed u, (deleteLines (d.buffer.linesFromCursor n) none).run.run d = (.ok removed, u) ∧
      d.LosesLines (min n d.linesLeft) u := by
  have hstop : (d.buffer.linesFromCursor n).last + 1 = d.buffer.current + min n d.linesLeft :=
    Buffer.linesFromCursor_stop hcurrent hn
  have hwithin : (d.buffer.linesFromCursor n).last < d.buffer.lineCount := by
    unfold Desk.linesLeft at hstop
    omega
  refine ⟨_, _, run_deleteLines none hwithin hwritable, ⟨?_, ?_⟩⟩
  · rw [← hstop]
    rfl
  · rw [RegisterFile.get?_lastDelete hregisters.nonempty, Buffer.linesOf, hstop, List.drop_take]
    have hsize : d.buffer.current + min n d.linesLeft - (d.buffer.linesFromCursor n).first =
        min n d.linesLeft := Nat.add_sub_cancel_left _ _
    rw [hsize]
    rfl

namespace Normal

variable {d : Desk} {keys : Text} {count : Option Nat} {col n : Nat}

/-- The keys delete the `n` lines from the cursor on. -/
def DeletesHere (keys : Text) (col : Nat) (d : Desk) (n : Nat) : Prop :=
  ∃ outcome u, (runKeys keys col).run.run d = (.ok outcome, u) ∧ d.LosesLines n u

/-- As many lines are deleted as the count says, or as there are. -/
theorem act_losesLines (count : Option Nat) (col : Nat)
    (hcurrent : d.buffer.current < d.buffer.lineCount) (hregisters : d.registers.Complete)
    (hwritable : d.SelectsWritable) :
    ∃ outcome u, (act .deleteLines count none col).run.run d = (.ok outcome, u) ∧
      d.LosesLines (min (max (count.getD 1) 1) d.linesLeft) u := by
  obtain ⟨removed, u, hdelete, hloses⟩ :=
    Edit.deleteLines_losesLines hcurrent (Nat.le_max_right (count.getD 1) 1) hregisters hwritable
  refine ⟨{ col := u.buffer.home, message := lineReport removed "fewer lines" }, u, ?_, hloses⟩
  unfold act
  simp only [run_bind, Edit.run_buffer, hdelete]
  rfl

/-- Nothing is deleted if the lines have no register to go to. -/
theorem selectsWritable_of_act {outcome : NormalOutcome} {u : Desk}
    (h : (act .deleteLines count none col).run.run d = (.ok outcome, u)) : d.SelectsWritable := by
  obtain ⟨b, t, hb, h⟩ := run_bind_eq_ok h
  cases hb
  obtain ⟨removed, t, hdelete, -⟩ := run_bind_eq_ok h
  obtain ⟨⟨⟩, t, hcheck, hdelete⟩ := run_bind_eq_ok hdelete
  rw [Edit.run_checkSpan] at hcheck
  obtain rfl : d = t := congrArg Prod.snd hcheck
  obtain ⟨target, t, htake, -⟩ := run_bind_eq_ok hdelete
  intro name hname
  have hselected : (none : Option Char).or d.buffer.selected = some name := hname
  rw [Edit.run_takeWritable, hselected] at htake
  by_contra hnot
  simp only [hnot, if_false] at htake
  cases htake

/-- How many lines are deleted depends on the count that the keys are read with, and on nothing
else. -/
theorem deletesHere_iff (hcurrent : d.buffer.current < d.buffer.lineCount)
    (hregisters : d.registers.Complete) (hn : n ≤ d.linesLeft)
    (hread : NormalCommand.read keys = .complete (.act count none .deleteLines)) :
    DeletesHere keys col d n ↔ d.SelectsWritable ∧ n = min (max (count.getD 1) 1) d.linesLeft := by
  have hkeys : runKeys keys col = act .deleteLines count none col := by
    rw [runKeys, hread]
    rfl
  unfold DeletesHere
  rw [hkeys]
  constructor
  · rintro ⟨outcome, u, hrun, hloses⟩
    have hwritable := selectsWritable_of_act hrun
    obtain ⟨outcome', u', hrun', hloses'⟩ :=
      act_losesLines count col hcurrent hregisters hwritable
    obtain rfl : u = u' := congrArg Prod.snd (hrun.symm.trans hrun')
    exact ⟨hwritable, hloses.unique hloses' hn (Nat.min_le_right _ _)⟩
  · rintro ⟨hwritable, rfl⟩
    exact act_losesLines count col hcurrent hregisters hwritable

end Normal

/-! ## Reading -/

namespace NormalCommand

variable {a b : Text} {operator target : Char} {action : Action}

theorem operator_keys (h : operatorAction? operator [target] = some action) :
    (operator = 'd' ∨ operator = 'y' ∨ operator = 'c') ∧ isDigit target = false := by
  unfold operatorAction? at h
  split at h
  case h_6 => cases h
  all_goals
    rename_i heq
    cases heq
    decide

/-- Digits behind an operator are a count, and they have to be one. -/
theorem readAction_inner (count : Option Nat) (register : Option Char) (hb : IsCount b)
    (hne : b ≠ []) (hoperator : operatorAction? operator [target] = some action) :
    readAction count register (operator :: (b ++ [target])) =
      match Text.count? b with
      | none => .invalid
      | some inner => .complete (.act (multiply count (some inner)) register action) := by
  obtain ⟨hkey, htarget⟩ := operator_keys hoperator
  have hsplit := splitCount_digits hb (endsCount_cons htarget [])
  have hcompound : readAction count register (operator :: (b ++ [target])) =
      readCompound count register (operator :: (b ++ [target])) := by
    obtain ⟨c, digits, rfl⟩ := List.exists_cons_of_ne_nil hne
    simp [readAction, openKeys, actions]
  have hinsert : insertKeys.lookup operator = none ∧ operator ∈ ['d', 'y', 'c'] := by
    rcases hkey with rfl | rfl | rfl <;> decide
  rw [hcompound, readCompound, hinsert.1]
  simp only [hinsert.2, not_true_eq_false, if_false, hsplit]
  cases Text.count? b with
  | none => rfl
  | some inner => simp only [hoperator]

/-- The keys of two counts. -/
theorem read_innerCount (ha : IsCount a) (hb : IsCount b) (hne : b ≠ [])
    (hoperator : operatorAction? operator [target] = some action) :
    read (a ++ operator :: (b ++ [target])) =
      match Text.count? b with
      | none => .invalid
      | some inner => .complete (.act (multiply (Text.count? a) (some inner)) none action) := by
  have hkey : isDigit operator = false ∧ ∀ c ∈ ['m', '\'', '"', 'G'], operator ≠ c := by
    rcases (operator_keys hoperator).1 with rfl | rfl | rfl <;> exact ⟨by decide, by simp⟩
  obtain ⟨hdigit, hother⟩ := hkey
  have hhead : ∀ c ∈ ['m', '\'', '"', 'G'], (operator :: (b ++ [target])).head? ≠ some c :=
    fun c hc heq => hother c hc (Option.some.inj heq)
  have hends : EndsCount (operator :: (b ++ [target])) := endsCount_cons hdigit _
  rw [read, readFrom_of_split _ (by simp) (head?_count ha (by decide) (hhead 'm' (by decide)))
    (head?_count ha (by decide) (hhead '\'' (by decide))) (splitCount_digits ha hends)
    (hhead '"' (by decide)) fun _ => hhead 'G' (by decide)]
  rw [readCounted, splitCount_of_ends hends]
  dsimp only
  split
  · rename_i hline
    exact absurd (congrArg List.head? hline) (hhead 'G' (by decide))
  · rw [multiply_none, readAction_inner _ _ hb hne hoperator]

/-- A count in front of `G` is a line, unless it is too large. -/
theorem read_lastLine (ha : IsCount a) :
    read (a ++ ['G']) =
      match Text.count? a with
      | none => .complete (.act none none (.move .lastLine))
      | some n => .complete (.gotoLine n) := by
  have hends : EndsCount ['G'] := endsCount_cons (by decide) _
  rw [read, readFrom_split _ (by simp) (head?_count ha (by decide) (by simp))
    (head?_count ha (by decide) (by simp)), splitCount_digits ha hends]
  cases Text.count? a <;> rfl

end NormalCommand

/-! ## Numbers and counts -/

namespace Normal

variable {d : Desk} {a b : Text} {col : Nat}

/-- `{a}dd` deletes as many lines as the number says, or as there are, unless the number is too
large for a count and there is more than one line. -/
theorem deletesHere_dd_iff (ha : IsCount a) (hane : a ≠ [])
    (hcurrent : d.buffer.current < d.buffer.lineCount) (hcount : d.buffer.lineCount ≤ maxCount)
    (hregisters : d.registers.Complete) :
    DeletesHere (a ++ ['d', 'd']) col d (min (Text.digitsValue a) d.linesLeft) ↔
      d.SelectsWritable ∧ (Text.digitsValue a ≤ maxCount ∨ d.linesLeft = 1) := by
  have hpos := digitsValue_pos ha hane
  rw [deletesHere_iff hcurrent hregisters (Nat.min_le_right _ _) (DeletesLines.here ha).read_eq,
    Text.count?_digits hane ha.all]
  refine and_congr_right fun _ => ?_
  unfold Desk.linesLeft
  split
  · rw [Option.getD_some]
    omega
  · rw [Option.getD_none]
    omega

/-- Keys that are no command do not delete lines. -/
theorem not_deletesHere_of_invalid {keys : Text} {n : Nat}
    (hread : NormalCommand.read keys = .invalid) : ¬ DeletesHere keys col d n := by
  rintro ⟨outcome, u, hrun, -⟩
  rw [runKeys, hread] at hrun
  cases hrun

/-- `{a}d{b}d` deletes as many lines as the product says, or as there are, unless the second number
is too large for a count, or the first is and the second alone is not enough. -/
theorem deletesHere_inner_iff (ha : IsCount a) (hane : a ≠ []) (hb : IsCount b) (hbne : b ≠ [])
    (hcurrent : d.buffer.current < d.buffer.lineCount) (hcount : d.buffer.lineCount ≤ maxCount)
    (hregisters : d.registers.Complete) :
    DeletesHere (a ++ 'd' :: (b ++ ['d'])) col d
        (min (Text.digitsValue a * Text.digitsValue b) d.linesLeft) ↔
      d.SelectsWritable ∧ Text.digitsValue b ≤ maxCount ∧
        (Text.digitsValue a ≤ maxCount ∨ d.linesLeft ≤ Text.digitsValue b) := by
  have hbpos := digitsValue_pos hb hbne
  have hproduct : Text.digitsValue a ≤ Text.digitsValue a * Text.digitsValue b :=
    Nat.le_mul_of_pos_right _ hbpos
  have hoperator : NormalCommand.operatorAction? 'd' ['d'] = some .deleteLines := rfl
  have hread := read_innerCount ha hb hbne hoperator
  rw [Text.count?_digits hbne hb.all] at hread
  by_cases hlarge : Text.digitsValue b ≤ maxCount
  · rw [if_pos hlarge] at hread
    rw [deletesHere_iff hcurrent hregisters (Nat.min_le_right _ _) hread,
      Text.count?_digits hane ha.all]
    refine and_congr_right fun _ => ?_
    have hapos := digitsValue_pos ha hane
    unfold Desk.linesLeft
    split
    · dsimp only [multiply, Option.getD_some]
      omega
    · dsimp only [multiply, Option.or, Option.getD_some]
      omega
  · rw [if_neg hlarge] at hread
    refine iff_of_false (not_deletesHere_of_invalid hread) ?_
    rintro ⟨-, hle, -⟩
    exact hlarge hle

/-- `{a}G` fails for a line past the end, and goes to the last line if the number is too large for a
count. -/
theorem run_pastEnd (ha : IsCount a) (hane : a ≠ [])
    (hpast : d.buffer.lineCount < Text.digitsValue a) :
    (runKeys (a ++ ['G']) col).run.run d =
      if Text.digitsValue a ≤ maxCount then (.error (.lineOutOfRange (Text.digitsValue a)), d)
      else (.ok { col := (d.buffer.goTo d.buffer.lastLine).home },
        { d with buffer := d.buffer.goTo d.buffer.lastLine }) := by
  have hread := read_lastLine ha
  rw [Text.count?_digits hane ha.all] at hread
  by_cases hlarge : Text.digitsValue a ≤ maxCount
  · rw [if_pos hlarge] at hread ⊢
    rw [runKeys, hread]
    dsimp only
    rw [run, run_bind, Edit.run_buffer]
    dsimp only
    rw [if_pos (by simp [hpast])]
    rfl
  · rw [if_neg hlarge] at hread ⊢
    rw [runKeys, hread]
    rfl

/-- What the keys do is what the numbers say, exactly as long as the numbers are not too large for a
count or the keys without them do the same. -/
theorem counts_are_numbers_iff (ha : IsCount a) (hane : a ≠ []) (hb : IsCount b) (hbne : b ≠ [])
    (hcurrent : d.buffer.current < d.buffer.lineCount) (hcount : d.buffer.lineCount ≤ maxCount)
    (hregisters : d.registers.Complete) (col : Nat) :
    (DeletesHere (a ++ ['d', 'd']) col d (min (Text.digitsValue a) d.linesLeft) ↔
      d.SelectsWritable ∧ (Text.digitsValue a ≤ maxCount ∨ d.linesLeft = 1)) ∧
    (DeletesHere (a ++ 'd' :: (b ++ ['d'])) col d
        (min (Text.digitsValue a * Text.digitsValue b) d.linesLeft) ↔
      d.SelectsWritable ∧ Text.digitsValue b ≤ maxCount ∧
        (Text.digitsValue a ≤ maxCount ∨ d.linesLeft ≤ Text.digitsValue b)) ∧
    (d.buffer.lineCount < Text.digitsValue a →
      ((∃ n u, (runKeys (a ++ ['G']) col).run.run d = (.error (.lineOutOfRange n), u)) ↔
        Text.digitsValue a ≤ maxCount)) := by
  refine ⟨deletesHere_dd_iff ha hane hcurrent hcount hregisters,
    deletesHere_inner_iff ha hane hb hbne hcurrent hcount hregisters, fun hpast => ?_⟩
  rw [run_pastEnd ha hane hpast]
  split
  · exact iff_of_true ⟨_, _, rfl⟩ ‹_›
  · refine iff_of_false ?_ ‹_›
    rintro ⟨n, u, hrun⟩
    cases hrun

/-- Two lines are left: the number of the first count is lost, but that of the second is enough. -/
theorem counts_are_numbers_iff_of_two_lines :
    let d : Desk := { buffer := { lines := [['a'], ['b'], ['c']], current := 1 }, registers := {} }
    ¬ DeletesHere "18446744073709551616dd".toList 0 d 2 ∧
    DeletesHere "18446744073709551616d3d".toList 0 d 2 ∧
    ¬ ∃ n u, (runKeys "18446744073709551616G".toList 0).run.run d =
      (.error (.lineOutOfRange n), u) := by
  intro d
  have ha : IsCount "18446744073709551616".toList :=
    ⟨List.all_eq_true.mp (by decide), by decide⟩
  have hb : IsCount ['3'] := ⟨List.all_eq_true.mp (by decide), by decide⟩
  have hwritable : d.SelectsWritable := nofun
  obtain ⟨hdd, hinner, hline⟩ := counts_are_numbers_iff ha (by decide) hb (by decide)
    (d := d) (by decide) (by decide) RegisterFile.complete_new 0
  have henough := hinner.mpr ⟨hwritable, by decide, .inr (by decide)⟩
  refine ⟨fun hdeletes => ?_, henough, fun hfails => ?_⟩
  · exact absurd (hdd.mp hdeletes).2 (by decide)
  · exact absurd ((hline (by decide)).mp hfails) (by decide)

/-- A number that is too large for a count deletes one line of three. -/
theorem large_count_deletes_one :
    let d : Desk := { buffer := { lines := [['a'], ['b'], ['c']] }, registers := {} }
    let a : Text := "18446744073709551616".toList
    IsCount a ∧ Text.digitsValue a = 18446744073709551616 ∧
    ((runKeys (a ++ ['d', 'd']) 0).run.run d).2.buffer.lines = [['b'], ['c']] ∧
    ¬ DeletesHere (a ++ ['d', 'd']) 0 d (min (Text.digitsValue a) d.linesLeft) := by
  intro d a
  have ha : IsCount a := ⟨List.all_eq_true.mp (by decide), by decide⟩
  have hlines : ((runKeys (a ++ ['d', 'd']) 0).run.run d).2.buffer.lines = [['b'], ['c']] := by
    decide
  refine ⟨ha, by decide, hlines, ?_⟩
  rintro ⟨outcome, u, hrun, hloses⟩
  rw [hrun, hloses.lines] at hlines
  exact absurd hlines (by decide)

end Normal

end ModalEditor
