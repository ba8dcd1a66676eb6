import ModalEditor.Proofs.Bounded.Edit
import ModalEditor.Proofs.Bounded.Insert
import ModalEditor.Proofs.Bounded.Keys
import ModalEditor.Proofs.Bounded.Word
import ModalEditor.Proofs.Normal.Evolution

/-!
# Bounded normal-mode commands

The commands of normal mode, as bounded steps on a desk. A command starts at a column that something
held in memory has (`memoryLimit`), and ends at one. So the columns that it counts to are words.
-/

namespace ModalEditor.Bounded

/-! ## Spans from the cursor -/

/-- The lines from the current one on. -/
def linesFromCursor (b : Buffer) (count : Nat) : Checked LineSpan := do
  let more ← sub (max count 1) 1
  span b.current (min (b.current + more) (← lastLine b))

/-- The column up to which some words reach from a position. -/
def wordSpanEnd (b : Buffer) (p : Position) : Nat → Position → Checked Nat
  | 0, q => return q.col
  | n + 1, q => do
    let next ← forward b q
    if next.line ≠ p.line || next = q then return b.lineLength p.line
    else wordSpanEnd b p n next

/-- The column up to which a change of some words reaches. -/
def changeSpanEnd (b : Buffer) (p : Position) (count : Nat) : Checked Nat :=
  let here := b.line p.line
  match here[p.col]? with
  | none => return p.col
  | some c =>
    if ModalEditor.isBlank c then wordSpanEnd b p (max count 1) p
    else do
      let ends := (here[← add p.col 1]?).all ModalEditor.isBlank
      let stop ← go toEnd b p (if ends then count - 1 else count)
      if stop.line = p.line then add stop.col 1 else return here.length

/-! ## Moving and inserting -/

/-- Moves the cursor. Gives its column. -/
def move (m : ModalEditor.Motion) (count : Option Nat) (col : Nat) : Guarded Desk Nat := do
  let n := max (count.getD 1) 1
  let b ← buffer
  match m with
  | .down => vertical (← goTo b (b.current + n))
  | .up => vertical (← goTo b (b.current - n))
  | .left => return col - n
  | .right => return b.clampColumn b.current (col + n)
  | .lineStart => return 0
  | .firstNonBlank => return b.home
  | .lineEnd => return b.lineLength b.current - 1
  | .wordForward => byWords b forward n
  | .wordBackward => byWords b backward n
  | .firstLine => toLine b (match count with
    | some n => n - 1
    | none => 0)
  | .lastLine =>
    match count with
    | some n => toLine b (n - 1)
    | none => toLine b (← lastLine b)
where
  /-- Keeps the column as far as the new line allows. -/
  vertical (b : Buffer) : Guarded Desk Nat := do
    setBuffer b
    return b.clampColumn b.current col
  /-- Goes by words. -/
  byWords (b : Buffer) (motion : Motion) (n : Nat) : Guarded Desk Nat := do
    let p ← go motion b ⟨b.current, col⟩ (max n 1)
    setBuffer (← goTo b p.line)
    return p.col
  /-- Goes to the first character of a line that is not blank. -/
  toLine (b : Buffer) (n : Nat) : Guarded Desk Nat := do
    let b ← goTo b n
    setBuffer b
    return b.home

/-- Goes to where inserting starts. -/
def insertPosition (kind : InsertKind) (col : Nat) : Guarded Desk Position := do
  let b ← buffer
  let n := b.current
  let length := b.lineLength n
  match kind with
  | .before => return ⟨n, min col length⟩
  | .after => if length = 0 then return ⟨n, 0⟩ else return ⟨n, min (← add col 1) length⟩
  | .lineEnd => return ⟨n, length⟩
  | .lineStart => return ⟨n, 0⟩
  | .openBelow => opened (← openLine b n true)
  | .openAbove => opened (← openLine b n false)
where
  /-- The start of a new line. -/
  opened (r : Buffer × Nat) : Guarded Desk Position := do
    setBuffer r.1
    return ⟨r.2, 0⟩

/-- Starts inserting, or inserts a given text at once. -/
def insert (kind : InsertKind) (text : Option Text) (col : Nat) : Guarded Desk NormalOutcome := do
  let p ← insertPosition kind col
  match text with
  | none => return { col := p.col, enterInsert := true }
  | some t =>
    if '\n' ∈ t then throw (.invalidArgument "line break in inline text".toList)
    let (b, stop) ← insertText (← buffer) p t
    setBuffer b
    return { col := stop - 1 }

/-! ## Commands -/

/-- Puts a register, into the line or as lines. -/
def put (before : Bool) (register : Option Char) (count col : Nat) :
    Guarded Desk NormalOutcome := do
  let d ← get
  let source := register.or d.buffer.selected
  let content ← registerOf d.buffer d.registers source
  if content.any fun r => r.kind = .chars then
    return { col := ← putInline col before register count }
  else
    let added ← putLines before register count
    return { col := (← buffer).home, message := lineReport added "more lines" }

/-- Carries out an action. -/
def act (action : Action) (count : Option Nat) (register : Option Char) (col : Nat) :
    Guarded Desk NormalOutcome := do
  let n := max (count.getD 1) 1
  let b ← buffer
  let line := b.current
  match action with
  | .deleteLines =>
    let removed ← deleteLines (← linesFromCursor b n) register
    return { col := (← buffer).home, message := lineReport removed "fewer lines" }
  | .yankLines =>
    let yanked ← yankLines (← linesFromCursor b n) register
    return { col, message := lineReport yanked "lines yanked" }
  | .changeLines =>
    changeLines (← linesFromCursor b n) register
    return { col := 0, enterInsert := true }
  | .deleteWords =>
    let col := min col (b.lineLength line)
    let _ ← deleteSpan line col (← wordSpanEnd b ⟨line, col⟩ n ⟨line, col⟩) register
    return { col := (← buffer).clampColumn line col }
  | .changeWords =>
    let col := min col (b.lineLength line)
    let _ ← deleteSpan line col (← changeSpanEnd b ⟨line, col⟩ n) register
    return { col, enterInsert := true }
  | .deleteChars =>
    if 0 < b.lineLength line then
      let _ ← deleteSpan line col (col + n) register
    return { col := (← buffer).clampColumn line col }
  | .put before => put before register n col
  | .move m => return { col := ← move m count col }
  | .insert kind text => insert kind text col

/-- Carries out a command with the cursor at a column of the current line. -/
def run : NormalCommand → Nat → Guarded Desk NormalOutcome
  | .setMark mark, col => do
    let b ← buffer
    setBuffer (← raise (ExceptT.mk (setMark b mark b.current)))
    return { col }
  | .jumpMark mark, _ => jump mark
  | .jumpMarkOr mark next otherwise, col => do
    if ((← buffer).mark? mark).isSome then
      let jumped ← jump mark
      run next jumped.col
    else run otherwise col
  | .gotoLine n, _ => do
    let b ← buffer
    if n = 0 || b.lineCount < n then throw (.lineOutOfRange n)
    let line ← sub n 1
    setBuffer (← goTo b line)
    return { col := (← buffer).firstNonBlank line }
  | .andThen first second, col => do
    let outcome ← run first col
    run second outcome.col
  | .act count register action, col => act action count register col
where
  /-- Goes to the line of a mark. -/
  jump (mark : Char) : Guarded Desk NormalOutcome := do
    let b ← buffer
    match b.mark? mark with
    | some n =>
      setBuffer (← goTo b n)
      return { col := (← buffer).firstNonBlank n }
    | none => throw (.markNotSet mark)

/-- Reads keys as one command and carries it out. -/
def runKeys (keys : Text) (col : Nat) : Guarded Desk NormalOutcome := do
  match ← readKeys keys with
  | .complete c => run c col
  | _ => throw (.unsupportedCommand keys)

/-! ## Spans and columns -/

variable {b : Buffer}

theorem linesFromCursor_eq (hb : b.Fits) (count : Nat) :
    linesFromCursor b count = .ok (b.linesFromCursor count) := by
  unfold linesFromCursor
  rw [sub_eq (by omega), ok_bind, lastLine_eq hb.nonempty, ok_bind]
  exact span_eq (hb.linesFromCursor_ordered count)

theorem linesFromCursor_within (hb : b.Fits) (count : Nat) :
    (b.linesFromCursor count).Within b :=
  ⟨hb.linesFromCursor_ordered count,
    Nat.lt_of_le_of_lt (Nat.min_le_right _ _) (Nat.sub_lt hb.lines_pos Nat.one_pos)⟩

theorem wordSpanEnd_eq (hne : b.lines ≠ []) (hheld : b.Held) (p : Position) (n : Nat)
    (q : Position) : wordSpanEnd b p n q = .ok (b.wordSpanEnd p n q) := by
  induction n generalizing q with
  | zero => rfl
  | succ n ih =>
    unfold wordSpanEnd Buffer.wordSpanEnd
    rw [forward_eq hne hheld, ok_bind]
    dsimp only
    split
    · rfl
    · exact ih _

theorem changeSpanEnd_eq (hne : b.lines ≠ []) (hheld : b.Held) {p : Position}
    (hp : p.col < memoryLimit) (count : Nat) :
    changeSpanEnd b p count = .ok (b.changeSpanEnd p count) := by
  unfold changeSpanEnd Buffer.changeSpanEnd
  dsimp only
  cases (b.line p.line)[p.col]? with
  | none => rfl
  | some c =>
    dsimp only
    split
    · exact wordSpanEnd_eq hne hheld p _ p
    · have hstop (n : Nat) : (Word.go Word.toEnd b p n).col < memoryLimit :=
        (go_reaches (toEnd_reaches hne) p n).col_lt hheld hp
      rw [add_one_of_lt hp, ok_bind, go_eq (toEnd_eq hne hheld), ok_bind, add_one_of_lt (hstop _)]
      exact (apply_ite Except.ok _ _ _).symm

theorem firstNonBlank_lt (hheld : b.Held) (n : Nat) : b.firstNonBlank n < memoryLimit := by
  unfold Buffer.firstNonBlank
  cases hfind : (b.line n).findIdx? fun c => !ModalEditor.isBlank c with
  | none => exact memoryLimit_pos
  | some i =>
    have hi := (List.findIdx?_eq_some_iff_getElem.mp hfind).1
    exact Nat.lt_trans hi (hheld.lineLength_lt n)

theorem clampColumn_lt {col : Nat} (hcol : col < memoryLimit) (n : Nat) :
    b.clampColumn n col < memoryLimit := Nat.lt_of_le_of_lt (Nat.min_le_left _ _) hcol

/-! ## They go as the commands of the editor -/

variable {d : Desk} {col : Nat}

theorem move_mirrors (hd : d.InBounds) (m : ModalEditor.Motion) (count : Option Nat)
    (hcol : col < memoryLimit) :
    Mirrors Desk.InBounds (move m count col) (ModalEditor.Normal.move m count col) d
      fun c _ => c < memoryLimit := by
  unfold move ModalEditor.Normal.move
  refine buffer_bind fun hheld => ?_
  have hne := hd.fits.nonempty
  have hvertical (n : Nat) : Mirrors Desk.InBounds (do move.vertical col (← goTo d.buffer n))
      (ModalEditor.Normal.move.vertical col (d.buffer.goTo n)) d fun c _ => c < memoryLimit :=
    setGoTo_bind rfl hd hd.fits fun hgo => .pure hgo (clampColumn_lt hcol _)
  have hline (n : Nat) : Mirrors Desk.InBounds (move.toLine d.buffer n)
      (ModalEditor.Normal.move.toLine d.buffer n) d fun c _ => c < memoryLimit :=
    setGoTo_bind rfl hd hd.fits fun hgo => .pure hgo (firstNonBlank_lt hheld _)
  have hwords {motion : Motion} {motion' : Word.Motion} (n : Nat)
      (heq : ∀ q, motion d.buffer q = .ok (motion' d.buffer q))
      (hreach : ∀ q, Reaches d.buffer q (motion' d.buffer q)) :
      Mirrors Desk.InBounds (move.byWords col d.buffer motion n)
        (ModalEditor.Normal.move.byWords col d.buffer motion' n) d
        fun c _ => c < memoryLimit := by
    refine .compute_bind (.of_eq (go_eq heq _ _)) fun _ => ?_
    refine setGoTo_bind rfl hd hd.fits fun hgo => ?_
    exact .pure hgo ((go_reaches hreach _ _).col_lt hheld hcol)
  cases m with
  | down => exact hvertical _
  | up => exact hvertical _
  | left => exact .pure hd (Nat.lt_of_le_of_lt (Nat.sub_le _ _) hcol)
  | right =>
    exact .pure hd (Nat.lt_of_le_of_lt (Nat.min_le_right _ _)
      (Nat.lt_of_le_of_lt (Nat.sub_le _ _) (hheld.lineLength_lt _)))
  | lineStart => exact .pure hd memoryLimit_pos
  | firstNonBlank => exact .pure hd (firstNonBlank_lt hheld _)
  | lineEnd => exact .pure hd (Nat.lt_of_le_of_lt (Nat.sub_le _ _) (hheld.lineLength_lt _))
  | wordForward => exact hwords _ (forward_eq hne hheld) (forward_reaches hne)
  | wordBackward => exact hwords _ (backward_eq hne hheld) (backward_reaches hne)
  | firstLine => exact hline _
  | lastLine =>
    cases count with
    | some n => exact hline _
    | none => exact .compute_bind (.of_eq (lastLine_eq hne)) fun _ => hline _

/-- The line that is opened is one of the buffer. -/
theorem openLine_lt {n : Nat} (hn : n < b.lines.length) (below : Bool) :
    (b.openLine n below).2 < (b.openLine n below).1.lines.length := by
  simp only [Buffer.openLine, Buffer.goTo, Buffer.insertLines, List.isEmpty_cons]
  cases below <;> simp <;> omega

theorem insertPosition_mirrors (hd : d.InBounds) (kind : InsertKind) (hcol : col < memoryLimit) :
    Mirrors Desk.InBounds (insertPosition kind col) (ModalEditor.Normal.insertPosition kind col) d
      fun p t => p.line < t.buffer.lines.length ∧ p.col < memoryLimit := by
  unfold insertPosition ModalEditor.Normal.insertPosition
  refine buffer_bind fun hheld => ?_
  have hcurrent := hd.fits.current_lt
  have hlength := hheld.lineLength_lt d.buffer.current
  have hopened (below : Bool) : Mirrors Desk.InBounds
      (do insertPosition.opened (← openLine d.buffer d.buffer.current below))
      (ModalEditor.Normal.insertPosition.opened (d.buffer.openLine d.buffer.current below)) d
      fun p t => p.line < t.buffer.lines.length ∧ p.col < memoryLimit := by
    refine .compute_bind (openLine_gives hd.fits hheld hcurrent below) fun _ => ?_
    refine setBuffer_bind rfl ?_
    exact .pure ⟨(d.buffer.openLine_evolves _ below).fits hd.fits, hd.registers⟩
      ⟨openLine_lt hcurrent below, memoryLimit_pos⟩
  cases kind with
  | before => exact .pure hd ⟨hcurrent, Nat.lt_of_le_of_lt (Nat.min_le_left _ _) hcol⟩
  | after =>
    dsimp only
    by_cases hempty : d.buffer.lineLength d.buffer.current = 0
    · rw [if_pos hempty, if_pos hempty]
      exact .pure hd ⟨hcurrent, memoryLimit_pos⟩
    · rw [if_neg hempty, if_neg hempty]
      refine .compute_bind (.of_eq (add_one_of_lt hcol)) fun _ => ?_
      exact .pure hd ⟨hcurrent, Nat.lt_of_le_of_lt (Nat.min_le_right _ _) hlength⟩
  | lineEnd => exact .pure hd ⟨hcurrent, hlength⟩
  | lineStart => exact .pure hd ⟨hcurrent, memoryLimit_pos⟩
  | openBelow => exact hopened true
  | openAbove => exact hopened false

theorem insert_mirrors (hd : d.InBounds) (kind : InsertKind) (text : Option Text)
    (hcol : col < memoryLimit) :
    Mirrors Desk.InBounds (insert kind text col) (ModalEditor.Normal.insert kind text col) d
      fun o _ => o.col < memoryLimit := by
  unfold insert ModalEditor.Normal.insert
  refine (insertPosition_mirrors hd kind hcol).bind fun p t _ ht ⟨hline, hp⟩ => ?_
  cases text with
  | none => exact .pure ht hp
  | some new =>
    refine .ite (fun _ => .throw _ ht) fun _ => ?_
    refine buffer_bind fun _ => ?_
    refine .compute_bind (insertText_gives hline new) fun hstop => ?_
    refine setBuffer_bind rfl ?_
    exact .pure ⟨(t.buffer.setLine_evolves _ _).fits ht.fits, ht.registers⟩
      (Nat.lt_of_le_of_lt (Nat.sub_le _ _) hstop)

/-- A command that ends on a line of its own goes to the text of that line. -/
theorem home_mirrors (hd : d.InBounds) (message : Option Text) :
    Mirrors Desk.InBounds (do return { col := (← buffer).home, message })
      (do return { col := (← Edit.buffer).home, message }) d
      fun o _ => NormalOutcome.col o < memoryLimit :=
  buffer_bind fun hheld => .pure hd (firstNonBlank_lt hheld _)

theorem put_mirrors (hd : d.InBounds) (before : Bool) (register : Option Char) (count : Nat)
    (hcol : col < memoryLimit) :
    Mirrors Desk.InBounds (put before register count col)
      (ModalEditor.Normal.put before register count col) d fun o _ => o.col < memoryLimit := by
  unfold put ModalEditor.Normal.put
  refine .get_bind ?_
  refine .compute_bind (.of_eq (registerOf_eq hd.registers _ _)) fun _ => ?_
  refine .ite (fun _ => ?_) fun _ => ?_
  · refine (putInline_mirrors hd hcol before register count).bind fun stop t _ ht hstop => ?_
    exact .pure ht hstop
  · refine (putLines_mirrors hd before register count).bind fun added t _ ht _ => ?_
    exact home_mirrors ht _

theorem act_mirrors (hd : d.InBounds) (action : Action) (count : Option Nat)
    (register : Option Char) (hcol : col < memoryLimit) :
    Mirrors Desk.InBounds (act action count register col)
      (ModalEditor.Normal.act action count register col) d fun o _ => o.col < memoryLimit := by
  unfold act ModalEditor.Normal.act
  refine buffer_bind fun hheld => ?_
  have hne := hd.fits.nonempty
  have hcur (n : Nat) := linesFromCursor_within hd.fits n
  have hlines (n : Nat) := linesFromCursor_eq hd.fits n
  -- a deletion of words starts on the line
  have hword : min col (d.buffer.lineLength d.buffer.current) < memoryLimit :=
    Nat.lt_of_le_of_lt (Nat.min_le_left _ _) hcol
  have hclamped {t : Desk} {line c : Nat} (ht : t.InBounds) (hc : c < memoryLimit) :
      Mirrors Desk.InBounds (do return { col := (← buffer).clampColumn line c })
        (do return { col := (← Edit.buffer).clampColumn line c }) t
        fun o _ => NormalOutcome.col o < memoryLimit :=
    buffer_bind fun _ => .pure ht (clampColumn_lt hc _)
  cases action with
  | deleteLines =>
    refine .compute_bind (.of_eq (hlines _)) fun _ => ?_
    refine (deleteLines_mirrors hd (hcur _) register).bind fun removed t _ ht _ => ?_
    exact home_mirrors ht _
  | yankLines =>
    refine .compute_bind (.of_eq (hlines _)) fun _ => ?_
    refine (yankLines_mirrors hd (hcur _) register).bind fun yanked t _ ht _ => ?_
    exact .pure ht hcol
  | changeLines =>
    refine .compute_bind (.of_eq (hlines _)) fun _ => ?_
    refine (changeLines_mirrors hd (hcur _) register).bind fun _ t _ ht _ => ?_
    exact .pure ht memoryLimit_pos
  | deleteWords =>
    refine .compute_bind (.of_eq (wordSpanEnd_eq hne hheld _ _ _)) fun _ => ?_
    refine (deleteSpan_mirrors hd _ _ _ register).bind fun _ t _ ht _ => ?_
    exact hclamped ht hword
  | changeWords =>
    refine .compute_bind (.of_eq (changeSpanEnd_eq hne hheld hword _)) fun _ => ?_
    refine (deleteSpan_mirrors hd _ _ _ register).bind fun _ t _ ht _ => ?_
    exact .pure ht hword
  | deleteChars =>
    dsimp only
    by_cases hempty : 0 < d.buffer.lineLength d.buffer.current
    · rw [if_pos hempty, if_pos hempty]
      refine (deleteSpan_mirrors hd _ _ _ register).bind fun _ t _ ht _ => ?_
      exact hclamped ht hcol
    · rw [if_neg hempty, if_neg hempty]
      exact hclamped hd hcol
  | put before => exact put_mirrors hd before register _ hcol
  | move m =>
    refine (move_mirrors hd m count hcol).bind fun c t _ ht hc => ?_
    exact .pure ht hc
  | insert kind text => exact insert_mirrors hd kind text hcol

theorem jump_mirrors (hd : d.InBounds) (mark : Char) :
    Mirrors Desk.InBounds (run.jump mark) (ModalEditor.Normal.run.jump mark) d
      fun o _ => o.col < memoryLimit := by
  unfold run.jump ModalEditor.Normal.run.jump
  refine buffer_bind fun _ => ?_
  cases d.buffer.mark? mark with
  | none => exact .throw _ hd
  | some n =>
    refine setGoTo_bind rfl hd hd.fits fun hgo => ?_
    exact buffer_bind fun hheld => .pure hgo (firstNonBlank_lt hheld _)

theorem run_mirrors (c : NormalCommand) (hd : d.InBounds) (hcol : col < memoryLimit) :
    Mirrors Desk.InBounds (run c col) (ModalEditor.Normal.run c col) d
      fun o _ => o.col < memoryLimit := by
  induction c generalizing d col with
  | setMark mark =>
    refine buffer_bind fun hheld => ?_
    have hmark := setMark_eq d.buffer mark (hheld.add_one_lt hd.fits.current_lt)
    refine .raise_bind (P := fun b => b.Fits) (.inl ⟨hmark, fun b h => ?_⟩) (Edit.run_orFail _ _) hd
      fun b hb => ?_
    · exact (Buffer.setMark_evolves h).fits hd.fits
    · refine setBuffer_bind rfl ?_
      exact .pure ⟨hb, hd.registers⟩ hcol
  | jumpMark mark => exact jump_mirrors hd mark
  | jumpMarkOr mark next otherwise ihNext ihOtherwise =>
    refine buffer_bind fun _ => ?_
    refine .ite (fun _ => ?_) fun _ => ihOtherwise hd hcol
    exact (jump_mirrors hd mark).bind fun jumped t _ ht hjumped => ihNext ht hjumped
  | gotoLine n =>
    refine buffer_bind fun _ => .ite (fun _ => .throw _ hd) fun hin => ?_
    have hpos : 1 ≤ n := by
      simp only [Bool.or_eq_true, decide_eq_true_eq, not_or] at hin
      omega
    refine .compute_bind (.of_eq (sub_eq hpos)) fun _ => ?_
    refine setGoTo_bind rfl hd hd.fits fun hgo => ?_
    exact buffer_bind fun hheld => .pure hgo (firstNonBlank_lt hheld _)
  | andThen first second ihFirst ihSecond =>
    exact (ihFirst hd hcol).bind fun o t _ ht ho => ihSecond ht ho
  | act count register action => exact act_mirrors hd action count register hcol

theorem runKeys_mirrors (hd : d.InBounds) (keys : Text) (hcol : col < memoryLimit) :
    Mirrors Desk.InBounds (runKeys keys col) (ModalEditor.Normal.runKeys keys col) d
      fun o _ => o.col < memoryLimit := by
  unfold runKeys ModalEditor.Normal.runKeys
  refine .compute_bind (.of_eq (readKeys_eq keys)) fun _ => ?_
  cases NormalCommand.read keys with
  | complete c => exact run_mirrors c hd hcol
  | incomplete => exact .throw _ hd
  | invalid => exact .throw _ hd

end ModalEditor.Bounded
