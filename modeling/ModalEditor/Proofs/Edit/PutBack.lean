import ModalEditor.Proofs.Buffer.Marks
import ModalEditor.Proofs.Edit.Removal

/-!
# Deleted lines put back

A deleted text can be read back from the register it was deleted into, unless that register was
appended to. If the lines of a span are deleted and then put back in front of the line that has
moved up to their place, the buffer has its lines again. The marks of the span are gone with its
lines, and all other marks are where they were: what the deletion moves up, the put moves down.
-/

namespace ModalEditor

/-! ## Reading a deleted text back -/

namespace RegisterFile

variable {f : RegisterFile} {register : Option Char} {content : Register}

/-- A text that goes to the register takes the place of what was there: no register is named, or
`"`, a digit or a small letter. A capital letter appends. -/
def Overwrites (register : Option Char) : Prop :=
  ∀ name ∈ register, name = '"' ∨ isDigit name = true ∨ isLowerLetter name = true

theorem Overwrites.isName (h : Overwrites register) :
    ∀ name ∈ register, Register.isName name = true := by
  intro name hname
  rcases h name hname with rfl | hdigit | hlow
  · rfl
  · simp [Register.isName, hdigit]
  · simp [Register.isName, isLetter, hlow]

theorem Overwrites.isWritable (h : Overwrites register) :
    ∀ name ∈ register, Register.isWritable name = true := by
  intro name hname
  have hpercent : name ≠ '%' := by
    rintro rfl
    rcases h '%' hname with hquote | hdigit | hlow
    · cases hquote
    · cases hdigit
    · cases hlow
  simp [Register.isWritable, h.isName name hname, hpercent]

/-- A text is read back from the register that it was written to. -/
theorem get?_set (hf : f.Complete) (h : Overwrites register) (content : Register) :
    (f.set register content).get? register = some content := by
  cases register with
  | none => rfl
  | some name =>
    rcases h name rfl with rfl | hdigit | hlow
    · rfl
    · have hplace : digitIndex name < f.numbered.length := hf.numbered ▸ digitIndex_lt hdigit
      rw [get?_of_isDigit hdigit, set, write_of_isDigit hdigit, List.getD_eq_getElem?_getD,
        List.getElem?_set_self hplace, Option.getD_some]
    · have hletter : isLetter name = true := isLetter_iff.mpr (.inl hlow)
      have hplace : letterIndex name < f.named.length := hf.named ▸ letterIndex_lt hletter
      rw [get?_of_isLowerLetter hlow, set, write_of_isLowerLetter hlow, List.getD_eq_getElem?_getD,
        List.getElem?_set_self hplace, Option.getD_some]

/-- What is written goes to one numbered register or one named one, or to none. -/
theorem set_places (h : Overwrites register) (content : Register) :
    (∀ i, (∀ x ∈ register, isDigit x = true → digitIndex x ≠ i) →
        (f.set register content).numbered[i]? = f.numbered[i]?) ∧
      ∀ i, (∀ x ∈ register, isLowerLetter x = true → letterIndex x ≠ i) →
        (f.set register content).named[i]? = f.named[i]? := by
  unfold set
  cases register with
  | none => exact ⟨fun _ _ => rfl, fun _ _ => rfl⟩
  | some x =>
    rcases h x rfl with rfl | hdigit | hlow
    · exact ⟨fun _ _ => rfl, fun _ _ => rfl⟩
    · rw [write_of_isDigit hdigit]
      exact ⟨fun i hi => List.getElem?_set_ne (hi x rfl hdigit), fun _ _ => rfl⟩
    · rw [write_of_isLowerLetter hlow]
      exact ⟨fun _ _ => rfl, fun i hi => List.getElem?_set_ne (hi x rfl hlow)⟩

/-- A text that is written to a register leaves the numbered and named registers alone, but for that
one. -/
theorem get?_set_of_ne {name : Char} (h : Overwrites register)
    (hname : isDigit name = true ∨ isLowerLetter name = true)
    (hne : some name ≠ register) (content : Register) :
    (f.set register content).get? (some name) = f.get? (some name) := by
  obtain ⟨hnumbered, hnamed⟩ := set_places (f := f) h content
  rcases hname with hdigit | hlow
  · rw [get?_of_isDigit hdigit, get?_of_isDigit hdigit, List.getD_eq_getElem?_getD,
      List.getD_eq_getElem?_getD, hnumbered]
    intro x hx hxdigit hplace
    exact hne (digitIndex_inj hxdigit hdigit hplace ▸ hx).symm
  · rw [get?_of_isLowerLetter hlow, get?_of_isLowerLetter hlow, List.getD_eq_getElem?_getD,
      List.getD_eq_getElem?_getD, hnamed]
    intro x hx hxlow hplace
    exact hne (letterIndex_inj hxlow hlow hplace ▸ hx).symm

/-- A text that is written to a register without an append goes to the unnamed register too. -/
theorem get?_unnamed_set (h : Overwrites register) (content : Register) :
    (f.set register content).get? none = some content := by
  cases register with
  | none => rfl
  | some x =>
    have hcapital : (isLetter x && !isLowerLetter x) = false := by
      rcases h x rfl with rfl | hdigit | hlow
      · rfl
      · rw [not_isLetter_of_isDigit hdigit, Bool.false_and]
      · rw [hlow, Bool.not_true, Bool.and_false]
    simp [set, get?, hcapital]

/-- A deleted text is read back from the register that it was deleted into. -/
theorem get?_recordDelete (hf : f.Complete) (h : Overwrites register) (content : Register) :
    (f.recordDelete register content).get? register = some content :=
  get?_set (hf.pushDelete content) h content

end RegisterFile

/-! ## Taking lines out and putting them in again -/

/-- Where lines stand is a matter of the last change only, as far as no change has dropped them. -/
theorem carryMarks_carryMarks (place next : Nat → Option Nat) (marks : List (Char × Nat)) :
    carryMarks next (carryMarks place marks) = carryMarks (fun n => (place n).bind next) marks := by
  unfold carryMarks
  rw [List.filterMap_filterMap]
  refine List.filterMap_congr fun m _ => ?_
  cases hplace : place m.2 with
  | none => simp [hplace]
  | some n => simp [hplace]

/-- Marks that stay where they are, but for those that are dropped. -/
theorem carryMarks_of_kept {place : Nat → Option Nat} {gone : Nat → Bool}
    (h : ∀ n, place n = if gone n then none else some n) (marks : List (Char × Nat)) :
    carryMarks place marks = marks.filter fun m => !gone m.2 := by
  unfold carryMarks
  rw [← List.filterMap_eq_filter]
  refine List.filterMap_congr fun m _ => ?_
  rw [h]
  cases hgone : gone m.2 <;> simp [Option.guard, hgone]

/-- A line that stays is back at its number when as many lines have come in as had gone. -/
theorem LineSpan.carry_bind_carryBelow {s : LineSpan} (hs : s.first ≤ s.last) (n : Nat) :
    (s.carry 0 n).bind (carryBelow s.first s.size) =
      if s.contains n = true then none else some n := by
  by_cases hin : s.contains n = true
  · rw [if_pos hin, carry_of_contains hin, if_neg (Nat.not_lt_zero _)]
    rfl
  · rw [if_neg hin]
    rw [contains_iff_le] at hin
    rcases Nat.lt_or_ge n s.first with hlt | hge
    · rw [carry_of_lt hlt hs, Option.bind_some, carryBelow, if_neg (Nat.not_le_of_gt hlt)]
    · have hsize : s.size = s.last - s.first + 1 := rfl
      rw [carry_of_gt (by omega), Option.bind_some, carryBelow, if_pos (by omega)]
      congr 1
      omega

namespace Buffer

variable {b b' : Buffer} {s : LineSpan}

/-- A mark of a line that is kept is found at that line. -/
theorem mark?_of_filter (keep : Nat → Bool) {name : Char} {n : Nat}
    (hmarks : b'.marks = b.marks.filter fun m => keep m.2) (hmark : b.mark? name = some n)
    (hkeep : keep n = true) : b'.mark? name = some n := by
  obtain ⟨above, below, hb, hother⟩ := List.lookup_eq_some_iff.mp hmark
  refine List.lookup_eq_some_iff.mpr
    ⟨above.filter fun m => keep m.2, below.filter fun m => keep m.2, ?_, ?_⟩
  · rw [hmarks, hb, List.filter_append]
    congr 1
    exact List.filter_cons_of_pos hkeep
  · intro m hm
    exact hother m (List.mem_filter.mp hm).1

/-- The buffer is not left without lines. -/
theorem lines_removeLines (hs : s.first ≤ s.last) (hl : s.last < b.lines.length)
    (hpart : s ≠ b.wholeSpan) :
    (b.removeLines s).lines = b.lines.take s.first ++ b.lines.drop (s.last + 1) := by
  have hsome : b.lines.take s.first ++ b.lines.drop (s.last + 1) ≠ [] := by
    intro hnone
    have hlen := congrArg List.length hnone
    rw [List.length_append, List.length_take_of_le (by omega), List.length_drop,
      List.length_nil] at hlen
    refine hpart ?_
    have hfirst : s.first = 0 := by omega
    have hlast : s.last = b.lastLine := by
      unfold lastLine
      omega
    calc s = ⟨s.first, s.last⟩ := rfl
      _ = b.wholeSpan := by rw [hfirst, hlast, wholeSpan]
  change orBlank _ = _
  rw [orBlank, if_neg (by simpa using hsome)]

/-- Lines that were taken out come back when they are put in front of what has moved up to their
place, wherever the cursor has gone in between. -/
theorem insertLines_removeLines (hs : s.first ≤ s.last) (hl : s.last < b.lines.length)
    (hpart : s ≠ b.wholeSpan) (cursor : Nat) :
    let restored := ((b.removeLines s).goTo cursor).insertLines s.first (b.linesOf s)
    restored.lines = b.lines ∧ restored.marks = b.marks.filter fun m => !s.contains m.2 := by
  intro restored
  obtain ⟨hspan, habove, hsize⟩ := b.lines_eq_span hs hl
  have hremoved := lines_removeLines hs hl hpart
  have hwithin : s.first ≤ (b.removeLines s).lines.length := by
    rw [hremoved, List.length_append]
    omega
  have hplace : min s.first ((b.removeLines s).goTo cursor).lines.length = s.first :=
    Nat.min_eq_left hwithin
  constructor
  · have hsome : ¬ (b.linesOf s).isEmpty = true := by
      intro hempty
      rw [List.isEmpty_iff.mp hempty, List.length_nil, LineSpan.size] at hsize
      omega
    have htake : (b.removeLines s).lines.take s.first = b.lines.take s.first := by
      rw [hremoved, List.take_left' habove]
    have hdrop : (b.removeLines s).lines.drop s.first = b.lines.drop (s.last + 1) := by
      rw [hremoved, List.drop_left' habove]
    have hlines : restored.lines = (b.removeLines s).lines.take s.first ++ b.linesOf s ++
        (b.removeLines s).lines.drop s.first := by
      simp only [restored]
      rw [insertLines, if_neg hsome, hplace]
      rfl
    rw [hlines, htake, hdrop]
    exact hspan.symm
  · have hout := (b.removeLines_carries hs hl).marks
    have hback := (((b.removeLines s).goTo cursor).insertLines_carries s.first (b.linesOf s)).marks
    rw [hplace, hsize] at hback
    have hmarks : restored.marks =
        carryMarks (carryBelow s.first s.size) (carryMarks (s.carry 0) b.marks) := by
      rw [← hout]
      exact hback
    rw [hmarks, carryMarks_carryMarks]
    exact carryMarks_of_kept (LineSpan.carry_bind_carryBelow hs) b.marks

end Buffer

/-! ## Putting -/

namespace Edit

variable {d : Desk} {register : Option Char} {content : Register}

/-- A register with content is looked up, and the selection is used up. -/
theorem run_takeContent
    (hname : ∀ name ∈ register.or d.buffer.selected, Register.isName name = true)
    (hcontent : d.buffer.register? d.registers (register.or d.buffer.selected) = some content)
    (hsome : content.isEmpty = false) :
    (takeContent register).run.run d = (.ok content, d.unselected) := by
  have hread : d.unselected.buffer.register? d.unselected.registers
      (register.or d.buffer.selected) = some content := hcontent
  unfold takeContent
  simp only [run_bind, run_takeRegister]
  cases hsource : register.or d.buffer.selected with
  | none =>
    rw [hsource] at hread
    simp only [run_bind, run_get, hread, Option.getD_some, hsome, Bool.false_eq_true, if_false]
    rfl
  | some name =>
    rw [hsource] at hread
    have hvalid := hname name hsource
    simp only [hvalid, run_bind, run_get, hread, Option.getD_some, hsome, Bool.not_true,
      Bool.false_eq_true, if_false]
    rfl

/-- A put of copies that are not too much. -/
theorem run_putLines (above : Bool) {count : Nat}
    (hname : ∀ name ∈ register.or d.buffer.selected, Register.isName name = true)
    (hcontent : d.buffer.register? d.registers (register.or d.buffer.selected) = some content)
    (hsome : content.isEmpty = false) (hsize : content.lines.length * max count 1 ≤ maxPut) :
    let lines := (List.replicate (max count 1) content.lines).flatten
    let place := if above then d.buffer.current else d.buffer.current + 1
    (putLines above register count).run.run d =
      (.ok lines.length,
        { d with
          buffer := (d.unselected.buffer.insertLines place lines).goTo
            (if above then place else place + lines.length - 1) }) := by
  intro lines place
  unfold putLines
  simp only [run_bind, run_takeContent hname hcontent hsome, run_checkPut,
    if_neg (Nat.not_lt_of_ge hsize)]
  rfl

end Edit

/-! ## Deleting and putting back -/

namespace Desk

variable {d : Desk} {s : LineSpan} {register : Option Char}

/-- The desk after the lines of a span were deleted into a register. -/
def cutLines (d : Desk) (s : LineSpan) (register : Option Char) : Desk where
  buffer := { d.buffer.removeLines s with selected := none }
  registers := d.registers.recordDelete register (.ofLines (d.buffer.linesOf s))

/-- The lines are in the register now, as every buffer sees it. -/
theorem register?_cutLines (hregisters : d.registers.Complete)
    (hregister : RegisterFile.Overwrites register) (b : Buffer) :
    b.register? (d.cutLines s register).registers register =
      some (.ofLines (d.buffer.linesOf s)) := by
  have hpercent : register ≠ some '%' := by
    rintro rfl
    exact absurd (hregister.isWritable '%' rfl) (by decide)
  rw [Buffer.register?, if_neg hpercent]
  exact RegisterFile.get?_recordDelete hregisters hregister _

theorem lines_cutLines (hs : s.first ≤ s.last) (hlast : s.last < d.buffer.lineCount)
    (hpart : s ≠ d.buffer.wholeSpan) (register : Option Char) :
    (d.cutLines s register).buffer.lines =
      d.buffer.lines.take s.first ++ d.buffer.lines.drop (s.last + 1) :=
  Buffer.lines_removeLines hs hlast hpart

/-- The line above the span is still there. -/
theorem current_goTo_cutLines (hs : s.first ≤ s.last) (hlast : s.last < d.buffer.lineCount)
    (hpart : s ≠ d.buffer.wholeSpan) (register : Option Char) :
    ((d.cutLines s register).buffer.goTo (s.first - 1)).current = s.first - 1 := by
  have hlt : s.last < d.buffer.lines.length := hlast
  have hlen := congrArg List.length (lines_cutLines hs hlast hpart register)
  rw [List.length_append, List.length_take_of_le (by omega)] at hlen
  refine Nat.min_eq_left ?_
  unfold Buffer.lastLine
  omega

end Desk

namespace Edit

variable {d : Desk} {s : LineSpan} {register : Option Char}

theorem run_deleteLines_cut (hselected : d.buffer.selected = none) (hs : s.first ≤ s.last)
    (hlast : s.last < d.buffer.lineCount) (hregister : RegisterFile.Overwrites register) :
    (deleteLines s register).run.run d = (.ok s.size, d.cutLines s register) := by
  have hor : register.or d.buffer.selected = register := by rw [hselected, Option.or_none]
  obtain ⟨-, -, hcount⟩ := d.buffer.lines_eq_span hs hlast
  have hrun := run_deleteLines (d := d) (s := s) register hlast (hor.symm ▸ hregister.isWritable)
  rw [hcount, hor] at hrun
  exact hrun

/-- With the cursor above the span, a put of the register goes to the place where the span was. -/
theorem run_putLines_cut (hregisters : d.registers.Complete) (hs : s.first ≤ s.last)
    (hlast : s.last < d.buffer.lineCount) (hpart : s ≠ d.buffer.wholeSpan) (hsize : s.size ≤ maxPut)
    (hregister : RegisterFile.Overwrites register) :
    let cut := d.cutLines s register
    let above := decide (s.first = 0)
    (putLines above register 1).run.run { cut with buffer := cut.buffer.goTo (s.first - 1) } =
      (.ok s.size,
        { cut with
          buffer := ((cut.buffer.goTo (s.first - 1)).insertLines s.first (d.buffer.linesOf s)).goTo
            (if above then s.first else s.first + s.size - 1) }) := by
  intro cut above
  let content := Register.ofLines (d.buffer.linesOf s)
  obtain ⟨-, -, hcount⟩ := d.buffer.lines_eq_span hs hlast
  have hplace : (if above then (cut.buffer.goTo (s.first - 1)).current
      else (cut.buffer.goTo (s.first - 1)).current + 1) = s.first := by
    rw [Desk.current_goTo_cutLines hs hlast hpart register]
    by_cases hfirst : s.first = 0
    · simp [above, hfirst]
    · rw [if_neg (by simpa [above] using hfirst)]
      omega
  have hsome : content.isEmpty = false := by
    have hpos : 0 < s.size := Nat.succ_pos _
    have hne : d.buffer.linesOf s ≠ [] := List.ne_nil_of_length_pos (hcount ▸ hpos)
    simp [content, Register.isEmpty, Register.ofLines, hne]
  have hfits : content.lines.length * max 1 1 ≤ maxPut := by
    rw [Nat.max_self, Nat.mul_one]
    exact hcount ▸ hsize
  have hor : register.or cut.buffer.selected = register := Option.or_none
  have hput := run_putLines above (d := { cut with buffer := cut.buffer.goTo (s.first - 1) })
    (hor.symm ▸ hregister.isName)
    (hor.symm ▸ Desk.register?_cutLines hregisters hregister _) hsome hfits
  have hcopies : (List.replicate (max 1 1) content.lines).flatten = d.buffer.linesOf s := by
    simp [content, Register.ofLines]
  simp only [hplace, hcopies, hcount] at hput
  exact hput

/-- Lines that were deleted into a register, but not all lines of the buffer, are put back by a put
of that register below the line above them, or above the first line. Then the buffer has the lines
that it had, and every mark outside of the span is where it was. -/
theorem put_restores_deleted (hregisters : d.registers.Complete)
    (hselected : d.buffer.selected = none) (hs : s.first ≤ s.last)
    (hlast : s.last < d.buffer.lineCount) (hpart : s ≠ d.buffer.wholeSpan) (hsize : s.size ≤ maxPut)
    (hregister : RegisterFile.Overwrites register) :
    ∃ cut restored : Desk,
      (deleteLines s register).run.run d = (.ok s.size, cut) ∧
      cut.buffer.lines = d.buffer.lines.take s.first ++ d.buffer.lines.drop (s.last + 1) ∧
      (putLines (s.first = 0) register 1).run.run
          { cut with buffer := cut.buffer.goTo (s.first - 1) } = (.ok s.size, restored) ∧
      restored.buffer.lines = d.buffer.lines ∧
      ∀ name n, d.buffer.mark? name = some n → s.contains n = false →
        restored.buffer.mark? name = some n := by
  obtain ⟨hlines, hmarks⟩ := Buffer.insertLines_removeLines (b := d.unselected.buffer) hs hlast hpart
    (s.first - 1)
  refine ⟨d.cutLines s register, _, run_deleteLines_cut hselected hs hlast hregister,
    Desk.lines_cutLines hs hlast hpart register,
    run_putLines_cut hregisters hs hlast hpart hsize hregister, hlines, fun name n hmark hout => ?_⟩
  refine Buffer.mark?_of_filter (fun n => !s.contains n) hmarks hmark ?_
  rw [hout]
  rfl

/-- The first two of four lines are deleted into a numbered register and put back above what is then
the first line. The mark of the last line has been on line `1` in between. -/
theorem put_restores_deleted_of_four_lines :
    let b : Buffer :=
      { lines := [['a'], [], ['b'], ['c']], marks := [('x', 1), ('y', 3)], current := 1 }
    let s : LineSpan := ⟨0, 1⟩
    b.selected = none ∧ s.size ≤ maxPut ∧ RegisterFile.Overwrites (some '3') ∧
    ∃ cut restored : Desk,
      (deleteLines s (some '3')).run.run ⟨b, {}⟩ = (.ok 2, cut) ∧
      cut.buffer.lines = [['b'], ['c']] ∧ cut.buffer.mark? 'y' = some 1 ∧
      (putLines true (some '3') 1).run.run { cut with buffer := cut.buffer.goTo 0 } =
        (.ok 2, restored) ∧
      restored.buffer.lines = b.lines ∧ restored.buffer.mark? 'y' = some 3 := by
  intro b s
  have hregister : RegisterFile.Overwrites (some '3') := by
    rintro name ⟨rfl⟩
    exact .inr (.inl rfl)
  obtain ⟨cut, restored, hdelete, hcut, hput, hlines, hmarks⟩ :=
    put_restores_deleted (d := ⟨b, {}⟩) (s := s) RegisterFile.complete_new rfl (by decide) (by decide)
      (by decide) (by decide) hregister
  refine ⟨rfl, by decide, hregister, cut, restored, hdelete, hcut, ?_, hput, hlines,
    hmarks 'y' 3 rfl rfl⟩
  have hdone : cut = ((deleteLines s (some '3')).run.run ⟨b, {}⟩).2 := by rw [hdelete]
  rw [hdone]
  rfl

end Edit
end ModalEditor
