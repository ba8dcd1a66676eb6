import ModalEditor.Proofs.Buffer.RoundTrip
import ModalEditor.Proofs.Edit.Marks
import ModalEditor.Proofs.Edit.PutBack

/-!
# Copies of a register

A put makes all the copies that it was asked for or none (`Edit.put_copies_or_nothing`). Lines go
between lines, which stay in order. Text goes into the current line, and what comes of it is broken into
lines at its line breaks.

The cursor is to end on the last character of the text. Its column is counted from the end of the last
of the pieces, as long as what stood behind the text. That is right if nothing behind the text was
broken off; otherwise the last piece is not the one that the text ends in
(`Text.lands_on_last_iff`). A line has a break in it if the path of the file has one and was put as a
line.
-/

namespace ModalEditor

/-! ## The end of a text among pieces -/

namespace Text

variable {head text tail y : Text} {xs : List Text} {c : Char}

theorem endLines_append (xs ys : List Text) :
    endLines ['\n'] (xs ++ ys) = endLines ['\n'] xs ++ endLines ['\n'] ys := List.flatMap_append

theorem count_endLines (hxs : Unbroken xs) : (endLines ['\n'] xs).count '\n' = xs.length := by
  induction xs with
  | nil => rfl
  | cons x xs ih =>
    have hx : x.count '\n' = 0 := List.count_eq_zero.mpr (hxs x List.mem_cons_self)
    rw [endLines_cons, List.count_append, List.count_append, hx,
      ih (hxs.mono (List.subset_cons_self x xs))]
    simp [Nat.add_comm]

/-- The breaks of a text end its lines. -/
theorem count_eq_length (hxs : Unbroken xs) (hy : '\n' ∉ y) :
    (endLines ['\n'] xs ++ y).count '\n' = xs.length := by
  rw [List.count_append, count_endLines hxs, List.count_eq_zero.mpr hy, Nat.add_zero]

/-- A text can be taken apart into lines and a last piece in one way only. -/
theorem endLines_inj {xs' : List Text} {y' : Text} (hxs : Unbroken xs) (hy : '\n' ∉ y)
    (hxs' : Unbroken xs') (hy' : '\n' ∉ y')
    (h : endLines ['\n'] xs ++ y = endLines ['\n'] xs' ++ y') : xs = xs' ∧ y = y' := by
  have hsplit := congrArg splitLines h
  rw [splitLines_endLines hxs hy, splitLines_endLines hxs' hy'] at hsplit
  obtain ⟨hlines, hlast⟩ := List.append_inj' hsplit rfl
  exact ⟨hlines, List.singleton_inj.mp hlast⟩

/-- The last character of a text that is not broken off from what stands behind it is found by
counting from the end of the last piece, and otherwise it is not. -/
theorem lands_on_last_iff (ht : head ++ text ++ tail = endLines ['\n'] xs ++ y)
    (hxs : Unbroken xs) (hy : '\n' ∉ y) (hlast : text.getLast? = some c) (hc : c ≠ '\n') :
    (endLines ['\n'] xs ++ y.take (y.length - (tail.length + 1)) = head ++ text.dropLast ∧
      y[y.length - (tail.length + 1)]? = some c) ↔ '\n' ∉ tail := by
  obtain ⟨init, rfl⟩ := List.getLast?_eq_some_iff.mp hlast
  rw [List.dropLast_concat]
  constructor
  · rintro ⟨hbefore, -⟩ hbreak
    -- the breaks of the tail are in front of the last piece
    have hall := congrArg (List.count '\n') ht
    have hfront := congrArg (List.count '\n') hbefore
    rw [count_eq_length hxs hy] at hall
    rw [List.count_append, count_endLines hxs] at hfront
    have htail : 0 < tail.count '\n' := List.count_pos_iff.mpr hbreak
    simp only [List.count_append] at hall hfront
    omega
  · intro htail
    obtain ⟨zs, z, hz, hzs, hzb⟩ := exists_endLines (head ++ (init ++ [c]))
    have hsame : endLines ['\n'] zs ++ (z ++ tail) = endLines ['\n'] xs ++ y := by
      rw [← List.append_assoc, ← hz, ht]
    obtain ⟨rfl, rfl⟩ := endLines_inj hzs (by simp [hzb, htail]) hxs hy hsame
    -- the text ends in the last piece, since its last character is not a break
    have hne : z ≠ [] := by
      rintro rfl
      have hend : (endLines ['\n'] zs ++ []).getLast? = some c := by
        rw [← hz, ← List.append_assoc, List.getLast?_concat]
      rcases zs with _ | ⟨w, ws⟩
      · cases hend
      · have hfeed : (endLines ['\n'] (w :: ws) ++ []).getLast? = some '\n' :=
          (getLast?_endLines (by simp)).mpr ⟨rfl, by simp⟩
        rw [hend] at hfeed
        exact hc (Option.some.inj hfeed)
    obtain ⟨front, d, rfl⟩ := (List.eq_nil_or_concat' z).resolve_left hne
    rw [← List.append_assoc, ← List.append_assoc] at hz
    obtain ⟨hfront, hd⟩ := List.append_inj' hz rfl
    obtain rfl : c = d := by simpa using hd
    have hcol : (front ++ [c] ++ tail).length - (tail.length + 1) = front.length := by
      simp only [List.length_append, List.length_singleton]
      omega
    rw [hcol, List.append_assoc front, List.take_left, hfront]
    simp

end Text

namespace Buffer

variable {b : Buffer}

/-- The text in front of a position: the lines above, each with its break, and its line up to it. -/
def textBefore (b : Buffer) (p : Position) : Text :=
  Text.endLines ['\n'] (b.lines.take p.line) ++ (b.line p.line).take p.col

theorem line_of_lines {above below : List Text} {l : Text} (h : b.lines = above ++ l :: below) :
    b.line above.length = l := by
  unfold line
  rw [h, List.getD_eq_getElem?_getD, List.getElem?_append_right (Nat.le_refl _), Nat.sub_self]
  rfl

theorem textBefore_of_lines {above below : List Text} {l : Text} (h : b.lines = above ++ l :: below)
    (col : Nat) :
    b.textBefore ⟨above.length, col⟩ = Text.endLines ['\n'] above ++ l.take col := by
  unfold textBefore
  dsimp only
  rw [line_of_lines h, h, List.take_left]

end Buffer

/-! ## What a put gives -/

/-- The column at which a put splices text into a line. -/
def Edit.columnOfPut (before : Bool) (col : Nat) (line : Text) : Nat :=
  if before || line.isEmpty then min col line.length else min (col + 1) line.length

namespace Desk

/-- The desk `u` has new lines in front of a line, and nothing else has happened to the lines. The cursor
is on the last of the new lines, or on the first one if they were put above. -/
structure GainsLines (d : Desk) (above : Bool) (new : List Text) (u : Desk) : Prop where
  /-- The lines above and below keep their order. -/
  lines : u.buffer.lines = d.buffer.lines.take (Edit.placeOfPut above d.buffer) ++ new ++
    d.buffer.lines.drop (Edit.placeOfPut above d.buffer)
  /-- The cursor is on a new line. -/
  current : u.buffer.current =
    if above then Edit.placeOfPut above d.buffer
    else Edit.placeOfPut above d.buffer + new.length - 1
  /-- The registers are as they were. -/
  registers : u.registers = d.registers

/-- The current line with a text spliced into it. -/
def spliced (d : Desk) (place : Nat) (text : Text) : Text :=
  (d.buffer.line d.buffer.current).take place ++ text ++
    (d.buffer.line d.buffer.current).drop place

/-- In the desk `u`, column `col` of the current line is that of the last character of a text that was
put at column `place` of the current line of `d`. -/
def OnLast (d : Desk) (place : Nat) (text : Text) (u : Desk) (col : Nat) : Prop :=
  u.buffer.textBefore ⟨u.buffer.current, col⟩ =
      d.buffer.textBefore ⟨d.buffer.current, place⟩ ++ text.dropLast ∧
    (u.buffer.line u.buffer.current)[col]? = text.getLast?

instance (d : Desk) (place : Nat) (text : Text) (u : Desk) (col : Nat) :
    Decidable (d.OnLast place text u col) := inferInstanceAs (Decidable (_ ∧ _))

/-- The desk `u` has the current line with a text spliced into it, broken into lines, and nothing else
has happened to the lines. Column `col` of the current line is that of the last character of the text,
unless that is a line break or a line break stood behind the place. -/
structure GainsText (d : Desk) (place : Nat) (text : Text) (u : Desk) (col : Nat) : Prop where
  /-- The lines above and below keep their order. -/
  lines : u.buffer.lines = d.buffer.lines.take d.buffer.current ++
    Text.splitLines (d.spliced place text) ++ d.buffer.lines.drop (d.buffer.current + 1)
  /-- The cursor is on the last of the pieces. -/
  current : u.buffer.current = d.buffer.current + (d.spliced place text).count '\n'
  /-- The cursor is on the end of the text, if nothing behind it was broken off. -/
  onLast : ∀ c, text.getLast? = some c → c ≠ '\n' →
    (d.OnLast place text u col ↔ '\n' ∉ (d.buffer.line d.buffer.current).drop place)
  /-- The registers are as they were. -/
  registers : u.registers = d.registers

end Desk

namespace Desk

variable {d : Desk}

theorem gainsLines (hcurrent : d.buffer.current < d.buffer.lines.length) (above : Bool)
    {new : List Text} (hnew : new ≠ []) :
    let place := Edit.placeOfPut above d.buffer
    d.GainsLines above new
      { d with
        buffer := (d.unselected.buffer.insertLines place new).goTo
          (if above then place else place + new.length - 1) } := by
  intro place
  have hplace : place ≤ d.buffer.lines.length := by
    unfold place Edit.placeOfPut
    split <;> omega
  have hlines : (d.unselected.buffer.insertLines place new).lines =
      d.buffer.lines.take place ++ new ++ d.buffer.lines.drop place := by
    have hmin : min place d.unselected.buffer.lines.length = place := Nat.min_eq_left hplace
    rw [Buffer.insertLines, if_neg (by simpa using hnew), hmin]
    rfl
  have hpos := List.length_pos_iff.mpr hnew
  have hlen : (d.unselected.buffer.insertLines place new).lines.length =
      d.buffer.lines.length + new.length := by
    rw [hlines]
    simp only [List.length_append, List.length_take, List.length_drop]
    omega
  refine ⟨hlines, ?_, rfl⟩
  change min _ ((d.unselected.buffer.insertLines place new).lines.length - 1) = _
  rw [hlen]
  refine Nat.min_eq_left ?_
  split <;> omega

/-- Where the text ends is a matter of the pieces that have come in. -/
theorem onLast_iff {u : Desk} {xs below : List Text} {y : Text} {place : Nat} {text : Text}
    (hlines : u.buffer.lines = d.buffer.lines.take d.buffer.current ++ xs ++ y :: below)
    (hcurrent : u.buffer.current = (d.buffer.lines.take d.buffer.current ++ xs).length)
    (col : Nat) :
    d.OnLast place text u col ↔
      Text.endLines ['\n'] xs ++ y.take col =
          (d.buffer.line d.buffer.current).take place ++ text.dropLast ∧
        y[col]? = text.getLast? := by
  unfold OnLast
  rw [hcurrent, Buffer.textBefore_of_lines hlines, Buffer.line_of_lines hlines, Text.endLines_append,
    Buffer.textBefore, List.append_assoc, List.append_assoc, List.append_right_inj]

theorem gainsText (hcurrent : d.buffer.current < d.buffer.lines.length) (place : Nat)
    (text : Text) :
    let pieces := Text.splitLines (d.spliced place text)
    let tail := (d.buffer.line d.buffer.current).drop place
    d.GainsText place text
      { d with
        buffer := (d.unselected.buffer.replaceLines (.line d.buffer.current) pieces).goTo
          (d.buffer.current + (pieces.length - 1)) }
      ((pieces.getLastD []).length - (tail.length + 1)) := by
  intro pieces tail
  obtain ⟨xs, y, ht, hxs, hy⟩ := Text.exists_endLines (d.spliced place text)
  have hpieces : pieces = xs ++ [y] := by
    unfold pieces
    rw [ht, Text.splitLines_endLines hxs hy]
  have hcount : (d.spliced place text).count '\n' = xs.length := by
    rw [ht, Text.count_eq_length hxs hy]
  have hlast : pieces.getLastD [] = y := by rw [hpieces, List.getLastD_concat]
  have hmore : pieces.length - 1 = xs.length := by
    rw [hpieces, List.length_append, List.length_singleton, Nat.add_sub_cancel]
  have hlines : (d.unselected.buffer.replaceLines (.line d.buffer.current) pieces).lines =
      d.buffer.lines.take d.buffer.current ++ pieces ++
        d.buffer.lines.drop (d.buffer.current + 1) :=
    Buffer.lines_replaceLine (by rw [hpieces]; simp)
  have hcursor : min (d.buffer.current + xs.length)
      ((d.unselected.buffer.replaceLines (.line d.buffer.current) pieces).lines.length - 1) =
      d.buffer.current + xs.length := by
    refine Nat.min_eq_left ?_
    rw [hlines, hpieces]
    simp only [List.length_append, List.length_take, List.length_drop, List.length_singleton]
    omega
  rw [hlast, hmore]
  refine ⟨hlines, hcursor.trans (by rw [hcount]), fun c hend hc => ?_, rfl⟩
  have habove : (d.buffer.lines.take d.buffer.current ++ xs).length =
      d.buffer.current + xs.length := by
    rw [List.length_append, List.length_take_of_le (by omega)]
  have hat : (d.unselected.buffer.replaceLines (.line d.buffer.current) pieces).lines =
      (d.buffer.lines.take d.buffer.current ++ xs) ++
        y :: d.buffer.lines.drop (d.buffer.current + 1) := by
    rw [hlines, hpieces]
    simp
  rw [onLast_iff hat (hcursor.trans habove.symm), hend]
  exact Text.lands_on_last_iff ht hxs hy hend hc

end Desk

namespace Edit

variable {d : Desk} {register : Option Char} {content : Register}

/-- There is a copy, and there are lines in it. -/
theorem copies_ne_nil (hsome : content.isEmpty = false) (count : Nat) :
    (List.replicate (max count 1) content.lines).flatten ≠ [] := by
  have hlines : content.lines ≠ [] := by
    intro hempty
    simp [Register.isEmpty, hempty] at hsome
  refine List.ne_nil_of_length_pos ?_
  rw [length_copies]
  exact Nat.mul_pos (List.length_pos_iff.mpr hlines) (by omega)

/-- A put of too many lines does nothing but use the selection up. -/
theorem run_putLines_of_tooLong (above : Bool) {count : Nat}
    (hname : ∀ name ∈ register.or d.buffer.selected, Register.isName name = true)
    (hcontent : d.buffer.register? d.registers (register.or d.buffer.selected) = some content)
    (hsome : content.isEmpty = false) (hlong : maxPut < content.lines.length * max count 1) :
    (putLines above register count).run.run d = (.error .textTooLong, d.unselected) := by
  unfold putLines
  simp only [run_bind, run_takeContent hname hcontent hsome, run_checkPut, if_pos hlong]

/-- A put of text into a line, which does nothing but use the selection up if the text is too long. -/
theorem run_putInline (col : Nat) (before : Bool) (count : Nat)
    (hname : ∀ name ∈ register.or d.buffer.selected, Register.isName name = true)
    (hcontent : d.buffer.register? d.registers (register.or d.buffer.selected) = some content)
    (hsome : content.isEmpty = false) :
    let line := d.buffer.line d.buffer.current
    let place := columnOfPut before col line
    let pieces := Text.splitLines (d.spliced place (Text.repeated (max count 1) content.text))
    (putInline col before register count).run.run d =
      if maxPut < Text.byteSize content.text * max count 1 then
        (.error .textTooLong, d.unselected)
      else (.ok ((pieces.getLastD []).length - ((line.drop place).length + 1)),
        { d with
          buffer := (d.unselected.buffer.replaceLines (.line d.buffer.current) pieces).goTo
            (d.buffer.current + (pieces.length - 1)) }) := by
  intro line place pieces
  unfold putInline
  simp only [run_bind, run_takeContent hname hcontent hsome, run_checkPut]
  by_cases hlong : maxPut < Text.byteSize content.text * max count 1
  · simp only [if_pos hlong]
  · simp only [if_neg hlong]
    rfl

/-- A put makes all the copies that it was asked for, or none if they are more than `maxPut` lines, or
bytes for a put into a line; then it uses the selection up and does nothing else. -/
theorem put_copies_or_nothing (count : Nat)
    (hname : ∀ name ∈ register.or d.buffer.selected, Register.isName name = true)
    (hcontent : d.buffer.register? d.registers (register.or d.buffer.selected) = some content)
    (hsome : content.isEmpty = false) (hcurrent : d.buffer.current < d.buffer.lines.length) :
    let copies := max count 1
    (∀ above,
      if maxPut < content.lines.length * copies then
        (putLines above register count).run.run d = (.error .textTooLong, d.unselected)
      else ∃ u,
        (putLines above register count).run.run d = (.ok (content.lines.length * copies), u) ∧
          d.GainsLines above (List.replicate copies content.lines).flatten u) ∧
    ∀ col before,
      if maxPut < Text.byteSize content.text * copies then
        (putInline col before register count).run.run d = (.error .textTooLong, d.unselected)
      else ∃ c u,
        (putInline col before register count).run.run d = (.ok c, u) ∧
          d.GainsText (columnOfPut before col (d.buffer.line d.buffer.current))
            (Text.repeated copies content.text) u c := by
  intro copies
  refine ⟨fun above => ?_, fun col before => ?_⟩
  · split
    · rename_i hlong
      exact run_putLines_of_tooLong above hname hcontent hsome hlong
    · rename_i hfits
      have hsize : content.lines.length * max count 1 ≤ maxPut := Nat.le_of_not_lt hfits
      have hrun := run_putLines above hname hcontent hsome hsize
      rw [← length_copies]
      exact ⟨_, hrun, Desk.gainsLines hcurrent above (copies_ne_nil hsome count)⟩
  · have hrun := run_putInline col before count hname hcontent hsome
    dsimp only at hrun
    split
    · rename_i hlong
      exact hrun.trans (if_pos hlong)
    · rename_i hfits
      exact ⟨_, _, hrun.trans (if_neg hfits), Desk.gainsText hcurrent _ _⟩

/-- Two copies of a text with a line break are put behind the last character of a line, and as lines
below it. More than `maxPut` copies of it are not put. -/
theorem put_copies_or_nothing_of_broken_text :
    let d : Desk :=
      ⟨{ lines := [['x', 'y'], ['z']], selected := some 'a' },
        RegisterFile.set {} (some 'a') ⟨[['q'], ['r']], .chars⟩⟩
    (∀ name ∈ (none : Option Char).or d.buffer.selected, Register.isName name = true) ∧
      Register.isEmpty ⟨[['q'], ['r']], .chars⟩ = false ∧
      d.buffer.register? d.registers ((none : Option Char).or d.buffer.selected) =
        some ⟨[['q'], ['r']], .chars⟩ ∧
      d.buffer.current < d.buffer.lines.length ∧
      (∃ c u, (putInline 1 false none 2).run.run d = (.ok c, u) ∧
        u.buffer.lines = [['x', 'y', 'q'], ['r', 'q'], ['r'], ['z']] ∧ u.buffer.current = 2 ∧
        d.OnLast 2 ['q', '\n', 'r', 'q', '\n', 'r'] u c) ∧
      (∃ u, (putLines false none 2).run.run d = (.ok 4, u) ∧
        u.buffer.lines = [['x', 'y'], ['q'], ['r'], ['q'], ['r'], ['z']] ∧ u.buffer.current = 4) ∧
      (putInline 1 false none (maxPut + 1)).run.run d = (.error .textTooLong, d.unselected) := by
  intro d
  have hname : ∀ name ∈ (none : Option Char).or d.buffer.selected, Register.isName name = true := by
    rintro name ⟨rfl⟩
    rfl
  have hcontent : d.buffer.register? d.registers ((none : Option Char).or d.buffer.selected) =
      some ⟨[['q'], ['r']], .chars⟩ := by decide
  have hcurrent : d.buffer.current < d.buffer.lines.length := by decide
  obtain ⟨hlines, hinline⟩ := put_copies_or_nothing 2 hname hcontent rfl hcurrent
  obtain ⟨-, hlong⟩ := put_copies_or_nothing (maxPut + 1) hname hcontent rfl hcurrent
  obtain ⟨c, u, hput, htext⟩ := hinline 1 false
  obtain ⟨v, hputLines, hnew⟩ := hlines false
  have hlast := (htext.onLast 'r' rfl (by decide)).mpr (by decide)
  have htoo := hlong 1 false
  rw [if_pos (by decide +kernel)] at htoo
  exact ⟨hname, rfl, hcontent, hcurrent, ⟨c, u, hput, htext.lines, htext.current, hlast⟩,
    ⟨v, hputLines, hnew.lines, hnew.current⟩, htoo⟩

/-- A character that is put in front of a line break inside a line is not where the cursor goes. -/
theorem put_before_break_goes_too_far :
    let d : Desk := ⟨{ lines := [['x', '\n', 'y']] }, RegisterFile.set {} none (.ofText ['q'])⟩
    let u := ((putInline 0 true none 1).run.run d).2
    ((putInline 0 true none 1).run.run d).1 = .ok 0 ∧ u.buffer.lines = [['q', 'x'], ['y']] ∧
      u.buffer.current = 1 ∧ ¬ d.OnLast 0 ['q'] u 0 := by
  decide +kernel

end Edit
end ModalEditor
