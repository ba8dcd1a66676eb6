import ModalEditor.Proofs.Bounded.Insert
import ModalEditor.Proofs.Bounded.Register
import ModalEditor.Proofs.Edit.Evolution

/-!
# Bounded edits

The edits of whole lines and within a line, as bounded steps on a desk. The buffer is read only as
something that is held in memory. On a desk in bounds (`Desk.InBounds`) every edit mirrors the edit
of the editor and leaves the desk in bounds. Edits of a span need one that was found in the buffer.
-/

namespace ModalEditor

/-- Cursor and marks are on lines of the buffer, and every register is there. -/
structure Desk.InBounds (d : Desk) : Prop where
  /-- Cursor and marks fit. -/
  fits : d.buffer.Fits
  /-- Every register is there. -/
  registers : d.registers.Complete

theorem Desk.InBounds.unselected {d : Desk} (hd : d.InBounds) : d.unselected.InBounds :=
  ⟨(Buffer.selected_evolves _ _).fits hd.fits, hd.registers⟩

theorem Desk.InBounds.goTo {d : Desk} (hd : d.InBounds) (n : Nat) :
    ({ d with buffer := d.buffer.goTo n } : Desk).InBounds :=
  ⟨(Buffer.goTo_evolves _ n).fits hd.fits, hd.registers⟩

namespace Bounded

variable {α : Type}

/-- The buffer, which is held in memory. -/
def buffer : Guarded Desk Buffer := do
  let d ← get
  held (extent d.buffer.lines)
  return d.buffer

/-- Puts a buffer in the place of the one there is. -/
def setBuffer (b : Buffer) : Guarded Desk Unit := modify fun d => { d with buffer := b }

/-- The registers. -/
def registers : Guarded Desk RegisterFile := return (← get).registers

/-- Puts registers in the place of those there are. -/
def setRegisters (f : RegisterFile) : Guarded Desk Unit := modify fun d => { d with registers := f }

/-- Fails unless the span is within the buffer. -/
def checkSpan (s : LineSpan) : Guarded Desk Unit := do
  if (← buffer).lineCount ≤ s.last then throw (.lineOutOfRange (← add s.last 1))

/-- The content of the register that an edit puts. -/
def takeContent (named : Option Char) : Guarded Desk Register := do
  let source ← total (Edit.takeRegister named)
  if let some name := source then
    if !Register.isName name then throw (Edit.badRegister name)
  let d ← get
  let content := (← registerOf d.buffer d.registers source).getD .empty
  if content.isEmpty then throw (.emptyRegister (source.getD '"'))
  return content

/-! ## Edits of whole lines -/

/-- Takes the lines of a span out and keeps them in registers. -/
def deleteLines (s : LineSpan) (register : Option Char) : Guarded Desk Nat := do
  checkSpan s
  let target ← total (Edit.takeWritable register)
  let (removed, b) ← removeLines (← buffer) s
  setBuffer b
  setRegisters (← recordDelete (← registers) target (.ofLines removed))
  return removed.length

/-- Keeps the lines of a span in registers. -/
def yankLines (s : LineSpan) (register : Option Char) : Guarded Desk Nat := do
  checkSpan s
  let target ← total (Edit.takeWritable register)
  let lines ← linesOf (← buffer) s
  setRegisters (← recordYank (← registers) target (.ofLines lines))
  spanSize s

/-- Puts an empty line in the place of a span and keeps the old lines in registers. -/
def changeLines (s : LineSpan) (register : Option Char) : Guarded Desk Unit := do
  checkSpan s
  let target ← total (Edit.takeWritable register)
  let b ← buffer
  let removed ← linesOf b s
  setBuffer (← goTo (← replaceLines b s [[]]) s.first)
  setRegisters (← recordDelete (← registers) target (.ofLines removed))

/-- Puts copies of a register as lines below the current line, or above it. -/
def putLines (above : Bool) (register : Option Char) (count : Nat) : Guarded Desk Nat := do
  let content ← takeContent register
  total (Edit.checkPut content.lines.length count)
  let lines := (List.replicate (max count 1) content.lines).flatten
  let b ← buffer
  let place ← (if above then pure b.current else add b.current 1 : Checked Nat)
  let b ← insertLines b place lines
  let stop ← (if above then pure place else do sub (← add place lines.length) 1 : Checked Nat)
  setBuffer (← goTo b stop)
  return lines.length

/-- Puts copies of a register into the current line. -/
def putInline (col : Nat) (before : Bool) (register : Option Char) (count : Nat) :
    Guarded Desk Nat := do
  let content ← takeContent register
  total (Edit.checkPut (Text.byteSize content.text) count)
  let b ← buffer
  let line := b.line b.current
  let place ← (if before || line.isEmpty then pure (min col line.length)
    else do return min (← add col 1) line.length : Checked Nat)
  let (head, tail) ← cut line (byteOf line place)
  let pieces := Text.splitLines (head ++ Text.repeated (max count 1) content.text ++ tail)
  held (extent pieces)
  let last ← sub pieces.length 1
  let stop := (← item pieces last).length - (← add tail.length 1)
  let replaced ← replaceLines b (.line b.current) pieces
  setBuffer (← goTo replaced (← add b.current last))
  return stop

/-! ## Edits within a line -/

/-- Deletes the characters of a line from column `start` up to `stop`. -/
def deleteSpan (n start stop : Nat) (register : Option Char) : Guarded Desk Text := do
  let target ← total (Edit.takeWritable register)
  let b ← buffer
  let start := min start (b.lineLength n)
  let stop := min stop (b.lineLength n)
  if stop ≤ start then return []
  else
    let line ← item b.lines n
    let (upto, after) ← cut line (byteOf line stop)
    let (before, removed) ← cut upto (byteOf line start)
    setBuffer (← setLine b n (before ++ after))
    setRegisters (← setRegister (← registers) target (.ofText removed))
    return removed

/-! ## Steps on a desk -/

section Steps

variable {d : Desk} {R : α → Desk → Prop} {y : Edit α}

theorem run_buffer (d : Desk) :
    buffer.run.run d = held (extent d.buffer.lines) >>= fun _ => .ok (.ok d.buffer, d) := by
  change ((liftM (held (extent d.buffer.lines)) >>= fun _ => pure d.buffer :
    Guarded Desk Buffer)).run.run d = _
  rw [run_guarded_bind, run_compute, bind_assoc]
  rfl

/-- A buffer that is read is held in memory. -/
theorem read_bind {f : Buffer → Guarded Desk α}
    (h : d.buffer.Held → Mirrors Desk.InBounds (f d.buffer) y d R) :
    Mirrors Desk.InBounds (buffer >>= f) y d R := by
  unfold Mirrors
  rw [run_guarded_bind, run_buffer, bind_assoc]
  exact Gives.held_bind h

theorem buffer_bind {f : Buffer → Guarded Desk α} {g : Buffer → Edit α}
    (h : d.buffer.Held → Mirrors Desk.InBounds (f d.buffer) (g d.buffer) d R) :
    Mirrors Desk.InBounds (buffer >>= f) (Edit.buffer >>= g) d R := read_bind h

theorem setBuffer_bind {f : PUnit → Guarded Desk α} {g : PUnit → Edit α} {b : Buffer}
    {change : Buffer → Buffer} (hb : change d.buffer = b)
    (h : Mirrors Desk.InBounds (f ⟨⟩) (g ⟨⟩) { d with buffer := b } R) :
    Mirrors Desk.InBounds (setBuffer b >>= f) (Edit.modifyBuffer change >>= g) d R := by
  subst hb
  exact h

/-- A buffer that takes the place of the one there is has the cursor on one of its lines. -/
theorem setGoTo_bind {b : Buffer} {n : Nat} {f : Buffer → PUnit → Guarded Desk α}
    {g : PUnit → Edit α} {change : Buffer → Buffer} (hb : change d.buffer = b.goTo n)
    (hd : d.InBounds) (hfits : b.Fits)
    (h : ({ d with buffer := b.goTo n } : Desk).InBounds →
      Mirrors Desk.InBounds (f (b.goTo n) ⟨⟩) (g ⟨⟩) { d with buffer := b.goTo n } R) :
    Mirrors Desk.InBounds (liftM (goTo b n) >>= fun b => setBuffer b >>= f b)
      (Edit.modifyBuffer change >>= g) d R :=
  .compute_bind (.of_eq (goTo_eq hfits.nonempty n)) fun _ =>
    setBuffer_bind hb (h ⟨(Buffer.goTo_evolves _ n).fits hfits, hd.registers⟩)

theorem takeWritable_bind {register : Option Char} {f : Option Char → Guarded Desk α}
    {g : Option Char → Edit α} (hd : d.InBounds)
    (h : ∀ target, Mirrors Desk.InBounds (f target) (g target) d.unselected R) :
    Mirrors Desk.InBounds (total (Edit.takeWritable register) >>= f)
      (Edit.takeWritable register >>= g) d R := by
  refine (mirrors_total ?_).bind fun target t ht _ _ => ?_
  · rw [Edit.run_takeWritable]
    exact hd.unselected
  · obtain rfl := Edit.takeWritable_state ht
    exact h target

theorem checkSpan_bind {s : LineSpan} {f : PUnit → Guarded Desk α} {g : PUnit → Edit α}
    (hl : s.last < d.buffer.lines.length)
    (h : Mirrors Desk.InBounds (f ⟨⟩) (g ⟨⟩) d R) :
    Mirrors Desk.InBounds (checkSpan s >>= f) (Edit.checkSpan s >>= g) d R := by
  have hin : ¬ d.buffer.lineCount ≤ s.last := Nat.not_le_of_lt hl
  unfold checkSpan Edit.checkSpan
  rw [bind_assoc, bind_assoc]
  refine buffer_bind fun _ => ?_
  rw [if_neg hin, if_neg hin]
  exact h

theorem setRegisters_bind {f : PUnit → Guarded Desk α} {g : PUnit → Edit α} {r : RegisterFile}
    {change : RegisterFile → RegisterFile} (hr : change d.registers = r)
    (h : Mirrors Desk.InBounds (f ⟨⟩) (g ⟨⟩) { d with registers := r } R) :
    Mirrors Desk.InBounds (setRegisters r >>= f) (Edit.modifyRegisters change >>= g) d R := by
  subst hr
  exact h

theorem registers_bind {f : RegisterFile → Guarded Desk α}
    (h : Mirrors Desk.InBounds (f d.registers) y d R) :
    Mirrors Desk.InBounds (registers >>= f) y d R := h

/-- The content that is put is that of a register as the buffer sees it. -/
theorem takeContent_bind {register : Option Char} {f : Register → Guarded Desk α}
    {g : Register → Edit α} (hd : d.InBounds)
    (h : ∀ content, content.isEmpty = false →
      Mirrors Desk.InBounds (f content) (g content) d.unselected R) :
    Mirrors Desk.InBounds (takeContent register >>= f) (Edit.takeContent register >>= g) d R := by
  have htake : Mirrors Desk.InBounds (takeContent register) (Edit.takeContent register) d
      fun _ _ => True := by
    have hread (source : Option Char) : Mirrors Desk.InBounds
        (do
          let d ← get
          let content := (← registerOf d.buffer d.registers source).getD .empty
          if content.isEmpty then throw (.emptyRegister (source.getD '"'))
          return content)
        (do
          let d ← get
          let content := (d.buffer.register? d.registers source).getD .empty
          if content.isEmpty then throw (.emptyRegister (source.getD '"'))
          return content)
        d.unselected fun _ _ => True := by
      refine .get_bind ?_
      refine .compute_bind (.of_eq (registerOf_eq hd.registers _ _)) fun _ => ?_
      exact .ite (fun _ => .throw _ hd.unselected) fun _ => .pure hd.unselected trivial
    unfold takeContent Edit.takeContent
    refine (mirrors_total hd.unselected).bind fun source t ht _ _ => ?_
    obtain rfl : d.unselected = t := by
      rw [Edit.run_takeRegister] at ht
      exact congrArg Prod.snd ht
    cases source with
    | none => exact hread none
    | some name => exact .ite (fun _ => .throw _ hd.unselected) fun _ => hread (some name)
  refine htake.bind fun content t ht _ _ => ?_
  have hstate := Edit.takeContent_state register d
  rw [ht] at hstate
  obtain rfl : t = d.unselected := hstate
  exact h content (Edit.takeContent_ok ht).2

theorem checkPut_bind {unit count : Nat} {f : PUnit → Guarded Desk α} {g : PUnit → Edit α}
    (hd : d.InBounds)
    (h : unit * max count 1 ≤ Edit.maxPut → Mirrors Desk.InBounds (f ⟨⟩) (g ⟨⟩) d R) :
    Mirrors Desk.InBounds (total (Edit.checkPut unit count) >>= f)
      (Edit.checkPut unit count >>= g) d R := by
  unfold Edit.checkPut
  refine (mirrors_total ?_).bind fun _ t ht _ _ => ?_
  · split <;> exact hd
  · by_cases hbig : Edit.maxPut < unit * max count 1
    · rw [if_pos hbig] at ht
      cases ht
    · rw [if_neg hbig] at ht
      cases ht
      exact h (Nat.le_of_not_lt hbig)

end Steps

/-! ## Last items -/

theorem getLastD_eq {l : List α} (hl : l ≠ []) (a : α) : l.getLastD a = l.getLast hl := by
  rw [List.getLastD_eq_getLast?, List.getLast?_eq_some_getLast hl]
  rfl

theorem getLastD_mem {l : List α} (hl : l ≠ []) (a : α) : l.getLastD a ∈ l :=
  getLastD_eq hl a ▸ List.getLast_mem hl

/-- The last of some items is in the last place. -/
theorem item_last {l : List α} (hl : l ≠ []) (a : α) :
    item l (l.length - 1) = .ok (l.getLastD a) := by
  rw [item_eq (Nat.sub_lt (List.length_pos_iff.mpr hl) Nat.one_pos), getLastD_eq hl a,
    List.getLast_eq_getElem hl]

/-! ## They go as the edits of the editor -/

section Edits

variable {d : Desk} {s : LineSpan}

theorem deleteLines_mirrors (hd : d.InBounds) (hs : s.Within d.buffer) (register : Option Char) :
    Mirrors Desk.InBounds (deleteLines s register) (Edit.deleteLines s register) d
      fun _ _ => True := by
  unfold deleteLines Edit.deleteLines
  refine checkSpan_bind hs.last_lt ?_
  refine takeWritable_bind hd fun target => ?_
  refine buffer_bind fun hheld => ?_
  refine .compute_bind (.of_eq (removeLines_eq hs.ordered hs.last_lt hheld.lines_lt)) fun _ => ?_
  refine setBuffer_bind rfl ?_
  refine registers_bind ?_
  refine .compute_bind (.of_eq (recordDelete_eq hd.registers target _)) fun _ => ?_
  have hfits := (d.unselected.buffer.removeLines_evolves hs.ordered hs.last_lt).fits
    hd.unselected.fits
  exact .of_run rfl ⟨hfits, hd.registers.recordDelete _ _⟩ fun _ _ _ => trivial

theorem yankLines_mirrors (hd : d.InBounds) (hs : s.Within d.buffer) (register : Option Char) :
    Mirrors Desk.InBounds (yankLines s register) (Edit.yankLines s register) d
      fun _ _ => True := by
  unfold yankLines Edit.yankLines
  refine checkSpan_bind hs.last_lt ?_
  refine takeWritable_bind hd fun target => ?_
  refine buffer_bind fun hheld => ?_
  refine .compute_bind (.of_eq (linesOf_eq hs.ordered hs.last_lt hheld.lines_lt)) fun _ => ?_
  refine registers_bind ?_
  refine .compute_bind (.of_eq (recordYank_eq hd.registers target _)) fun _ => ?_
  have hsize : spanSize s = .ok s.size := spanSize_eq hs.ordered (hheld.add_one_lt hs.last_lt)
  refine setRegisters_bind rfl ?_
  exact .compute (.of_eq hsize) ⟨hd.unselected.fits, hd.registers.recordYank _ _⟩ fun _ => trivial

theorem changeLines_mirrors (hd : d.InBounds) (hs : s.Within d.buffer) (register : Option Char) :
    Mirrors Desk.InBounds (changeLines s register) (Edit.changeLines s register) d
      fun _ _ => True := by
  have hfits := hd.unselected.fits
  have hreplaced := (d.unselected.buffer.replaceLines_evolves hs.ordered hs.last_lt [[]]).fits hfits
  unfold changeLines Edit.changeLines
  refine checkSpan_bind hs.last_lt ?_
  refine takeWritable_bind hd fun target => ?_
  refine buffer_bind fun hheld => ?_
  refine .compute_bind (.of_eq (linesOf_eq hs.ordered hs.last_lt hheld.lines_lt)) fun _ => ?_
  refine .compute_bind (replaceLines_gives hfits hs.ordered hs.last_lt hheld.lines_lt _) fun _ => ?_
  refine setGoTo_bind rfl hd.unselected hreplaced fun hgo => ?_
  refine registers_bind ?_
  refine .compute_bind (.of_eq (recordDelete_eq hd.registers target _)) fun _ => ?_
  exact .of_run rfl ⟨hgo.fits, hd.registers.recordDelete _ _⟩ fun _ _ _ => trivial

theorem putLines_mirrors (hd : d.InBounds) (above : Bool) (register : Option Char) (count : Nat) :
    Mirrors Desk.InBounds (putLines above register count) (Edit.putLines above register count) d
      fun _ _ => True := by
  unfold putLines Edit.putLines
  refine takeContent_bind hd fun content _ => ?_
  refine checkPut_bind hd.unselected fun hsmall => ?_
  rw [← Edit.length_copies] at hsmall
  refine buffer_bind fun hheld => ?_
  have hfits := hd.unselected.fits
  have hlast : d.unselected.buffer.current + 1 < wordLimit := hheld.add_one_lt hfits.current_lt
  have hplace : (if above then pure d.unselected.buffer.current
      else add d.unselected.buffer.current 1 : Checked Nat) =
      .ok (if above then d.unselected.buffer.current else d.unselected.buffer.current + 1) := by
    cases above with
    | true => rfl
    | false => exact add_eq hlast
  refine .compute_bind (.of_eq hplace) fun _ => ?_
  refine .compute_bind (insertLines_gives hfits _ _) fun _ => ?_
  have hinserted {place : Nat} {lines : List Text} :=
    (d.unselected.buffer.insertLines_evolves place lines).fits hfits
  cases above with
  | true =>
    refine .compute_bind (.of_eq rfl) fun _ => ?_
    refine setGoTo_bind rfl hd.unselected hinserted fun hgo => ?_
    exact .pure hgo trivial
  | false =>
    have hheld_lt := hheld.lines_lt
    have hcurrent := hfits.current_lt
    have hstop : d.unselected.buffer.current + 1 +
        (List.replicate (max count 1) content.lines).flatten.length < wordLimit := by
      unfold memoryLimit at hheld_lt
      unfold Edit.maxPut at hsmall
      unfold wordLimit
      omega
    refine .compute_bind (b := d.unselected.buffer.current + 1 +
      (List.replicate (max count 1) content.lines).flatten.length - 1) (.of_eq ?_) fun _ => ?_
    · exact (congrArg (· >>= _) (add_eq hstop)).trans (sub_eq (by omega))
    refine setGoTo_bind rfl hd.unselected hinserted fun hgo => ?_
    exact .pure hgo trivial

theorem putInline_mirrors (hd : d.InBounds) {col : Nat} (hcol : col < memoryLimit) (before : Bool)
    (register : Option Char) (count : Nat) :
    Mirrors Desk.InBounds (putInline col before register count)
      (Edit.putInline col before register count) d fun stop _ => stop < memoryLimit := by
  unfold putInline Edit.putInline
  refine takeContent_bind hd fun content _ => ?_
  refine checkPut_bind hd.unselected fun _ => ?_
  refine buffer_bind fun hheld => ?_
  have hd := hd.unselected
  generalize d.unselected = d at hd hheld ⊢
  have hcurrent := hd.fits.current_lt
  have hplace (line : Text) :
      (if before || line.isEmpty then pure (min col line.length)
        else do return min (← add col 1) line.length : Checked Nat) =
      .ok (if before || line.isEmpty then min col line.length
        else min (col + 1) line.length) := by
    rw [add_one_of_lt hcol]
    split <;> rfl
  dsimp only
  refine .compute_bind (.of_eq (hplace _)) fun _ => ?_
  refine .compute_bind (.of_eq (cut_byteOf _ _)) fun _ => ?_
  dsimp only
  -- The lines of the result end in the buffer, so they are counted by words.
  have hpieces (t : Text) : Text.splitLines t ≠ [] := List.splitOn_ne_nil '\n' t
  have htail (place : Nat) :
      ((d.buffer.line d.buffer.current).drop place).length < memoryLimit :=
    Nat.lt_of_le_of_lt (List.drop_sublist _ _).length_le (hheld.lineLength_lt _)
  refine .compute_bind (gives_held _) fun hsmall => ?_
  have hcount := Nat.lt_of_le_of_lt (length_le_extent _) hsmall
  refine .compute_bind (.of_eq (sub_eq (List.length_pos_iff.mpr (hpieces _)))) fun _ => ?_
  refine .compute_bind (.of_eq (item_last (hpieces _) [])) fun _ => ?_
  refine .compute_bind (.of_eq (add_one_of_lt (htail _))) fun _ => ?_
  refine .compute_bind (replaceLines_gives hd.fits (Nat.le_refl _) hcurrent hheld.lines_lt _)
    fun _ => ?_
  have hreplaced {new : List Text} : (d.buffer.replaceLines (.line d.buffer.current) new).Fits :=
    (d.buffer.replaceLines_evolves (Nat.le_refl _) hcurrent new).fits hd.fits
  have hstop := add_lt_wordLimit (Nat.lt_trans hcurrent hheld.lines_lt)
    (Nat.lt_of_le_of_lt (Nat.sub_le _ 1) hcount)
  refine .compute_bind (.of_eq (add_eq hstop)) fun _ => ?_
  refine setGoTo_bind rfl hd hreplaced fun hgo => .pure hgo ?_
  exact Nat.lt_of_le_of_lt (Nat.sub_le _ _)
    (Nat.lt_trans (length_lt_extent (getLastD_mem (hpieces _) [])) hsmall)

theorem deleteSpan_mirrors (hd : d.InBounds) (n start stop : Nat) (register : Option Char) :
    Mirrors Desk.InBounds (deleteSpan n start stop register)
      (Edit.deleteSpan n start stop register) d fun _ _ => True := by
  unfold deleteSpan Edit.deleteSpan
  refine takeWritable_bind hd fun target => ?_
  refine buffer_bind fun hheld => ?_
  dsimp only
  refine .ite (fun _ => .pure hd.unselected trivial) fun hlt => ?_
  have hd := hd.unselected
  generalize d.unselected = d at hd hheld hlt ⊢
  have hn : n < d.buffer.lines.length := by
    refine Buffer.lt_of_line_ne_nil fun hempty => hlt ?_
    rw [Buffer.lineLength, hempty]
    exact Nat.le_trans (Nat.min_le_right _ _) (Nat.zero_le _)
  refine .compute_bind (.of_eq (item_line hn)) fun _ => ?_
  refine .compute_bind (.of_eq (cut_byteOf _ _)) fun _ => ?_
  have hstart {line : Text} {i j : Nat} (hij : i ≤ j) :
      cut (line.take j) (byteOf line i) = .ok (line.take i, (line.take j).drop i) := by
    have h := cut_byteOf (line.take j) i
    rwa [byteOf, List.take_take, Nat.min_eq_left hij] at h
  refine .compute_bind (.of_eq (hstart (Nat.le_of_not_le hlt))) fun _ => ?_
  refine .compute_bind (.of_eq (setLine_eq hn _)) fun _ => ?_
  refine setBuffer_bind rfl ?_
  refine registers_bind ?_
  refine .compute_bind (.of_eq (setRegister_eq hd.registers _ _)) fun _ => ?_
  refine setRegisters_bind rfl ?_
  exact .pure ⟨(Buffer.setLine_evolves _ _ _).fits hd.fits, hd.registers.set _ _⟩ trivial

end Edits

end Bounded
end ModalEditor
