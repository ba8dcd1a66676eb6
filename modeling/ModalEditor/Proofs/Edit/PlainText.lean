import Mathlib
import ModalEditor.Key
import ModalEditor.Proofs.Buffer.Evolution
import ModalEditor.Proofs.Buffer.RoundTrip

/-!
# A buffer as one plain text

A plain text with a place in it is the simplest editor there is: characters go in at the place or are
taken out in front of it, and a line break is a character like others. A buffer shows such a text: its
lines joined by line breaks, and its cursor as the place. The edits of insert mode (typing, breaking a
line, joining it to the one above) work on lines; here each of them is compared with what it does to
the plain text.

The comparison goes by way of `Parts`: the lines above the cursor, the two parts of its line and the
lines below. On parts an edit is one step, and both the lines and the plain text are read off them.
-/

namespace ModalEditor

/-- Taking out what stands between two parts of a list. -/
theorem eraseIdx_between {α : Type} (before : List α) (a : α) (after : List α) :
    (before ++ a :: after).eraseIdx before.length = before ++ after := by
  rw [List.eraseIdx_append_of_length_le (Nat.le_refl _), Nat.sub_self]
  rfl

/-- A text and a place in it: the number of characters in front. -/
structure PlainText where
  /-- The text. -/
  text : Text
  /-- The place. -/
  place : Nat
deriving Repr, DecidableEq

namespace PlainText

/-- Puts characters in at the place and goes behind them. -/
def insert (p : PlainText) (t : Text) : PlainText :=
  ⟨p.text.take p.place ++ t ++ p.text.drop p.place, p.place + t.length⟩

/-- Takes the character in front of the place out, if there is one. -/
def erase (p : PlainText) : PlainText :=
  if p.place = 0 then p else ⟨p.text.eraseIdx (p.place - 1), p.place - 1⟩

/-- What a key does to a plain text when Tab stands for `tab` blanks. -/
def press (tab : Nat) (p : PlainText) : Key → PlainText
  | .char c => p.insert [c]
  | .enter => p.insert ['\n']
  | .tab => p.insert (List.replicate tab ' ')
  | .backspace => p.erase
  | .escape => p

/-- The lines of the text. -/
def lines (p : PlainText) : List Text := Text.splitLines p.text

/-- The place as a line and a column: on the last of the lines that are in front of it, at its end. -/
def cursor (p : PlainText) : Position :=
  let before := Text.splitLines (p.text.take p.place)
  ⟨before.length - 1, (before.getLastD []).length⟩

/-- A text with the place between two parts of it. -/
def between (before after : Text) : PlainText := ⟨before ++ after, before.length⟩

theorem insert_between (before after t : Text) :
    (between before after).insert t = between (before ++ t) after := by
  simp [between, insert]

theorem erase_between_nil (after : Text) : (between [] after).erase = between [] after := rfl

theorem erase_between_concat (before after : Text) (c : Char) :
    (between (before ++ [c]) after).erase = between before after := by
  have herase : (before ++ [c] ++ after).eraseIdx before.length = before ++ after := by
    rw [List.append_assoc]
    exact eraseIdx_between before c after
  have hlen : (before ++ [c]).length = before.length + 1 := List.length_append
  unfold between erase
  dsimp only
  rw [if_neg (by omega), hlen, Nat.add_sub_cancel, herase]

end PlainText

/-! ## Lines around a cursor -/

/-- Lines taken apart at a cursor. -/
structure Parts where
  /-- The lines above. -/
  above : List Text
  /-- The line of the cursor, up to the cursor. -/
  left : Text
  /-- The rest of that line. -/
  right : Text
  /-- The lines below. -/
  below : List Text

namespace Parts

open Text

variable (p : Parts)

/-- All lines. -/
def lines : List Text := p.above ++ (p.left ++ p.right) :: p.below

/-- The plain text: what is in front of the cursor, and what is behind it. -/
def plain : PlainText :=
  .between (endLines ['\n'] p.above ++ p.left) (join ['\n'] (p.right :: p.below))

/-- No part has a line break in it. -/
def Unbroken : Prop :=
  ModalEditor.Unbroken p.above ∧ '\n' ∉ p.left ∧ '\n' ∉ p.right ∧ ModalEditor.Unbroken p.below

variable {p}

theorem unbroken_lines : ModalEditor.Unbroken p.lines ↔ p.Unbroken := by
  unfold lines Unbroken
  constructor
  · intro h
    have hline : '\n' ∉ p.left ++ p.right := h _ (by simp)
    rw [List.mem_append, not_or] at hline
    exact ⟨fun l hl => h l (by simp [hl]), hline.1, hline.2, fun l hl => h l (by simp [hl])⟩
  · rintro ⟨habove, hleft, hright, hbelow⟩ l hl
    rcases List.mem_append.mp hl with hl | hl
    · exact habove l hl
    rcases List.mem_cons.mp hl with rfl | hl
    · simp [hleft, hright]
    · exact hbelow l hl

/-- The lines above a line are lines with a break behind them. -/
theorem join_above (above : List Text) (line : Text) (below : List Text) :
    join ['\n'] (above ++ line :: below) = endLines ['\n'] above ++ join ['\n'] (line :: below) := by
  induction above with
  | nil => rfl
  | cons first above ih =>
    have hne : above ++ line :: below ≠ [] := by simp
    unfold join at ih ⊢
    rw [List.cons_append, List.intercalate_cons_of_ne_nil hne, ih, endLines_cons]
    simp

theorem join_left (left right : Text) (below : List Text) :
    join ['\n'] ((left ++ right) :: below) = left ++ join ['\n'] (right :: below) := by
  unfold join
  cases below with
  | nil => simp
  | cons second below => simp [List.intercalate_cons_cons]

/-- The plain text is the lines joined by line breaks. -/
theorem plain_text : p.plain.text = join ['\n'] p.lines := by
  rw [lines, join_above, join_left, ← List.append_assoc]
  rfl

/-- The place counts the lines above, each with its break, and the part up to the cursor. -/
theorem plain_place :
    p.plain.place = (p.above.map fun line => line.length + 1).sum + p.left.length := by
  have habove : ∀ lines : List Text,
      (endLines ['\n'] lines).length = (lines.map fun line => line.length + 1).sum := by
    intro lines
    simp [endLines, List.length_flatMap]
  change (endLines ['\n'] p.above ++ p.left).length = _
  rw [List.length_append, habove]

/-- The lines are read off the plain text. -/
theorem plain_lines (hp : p.Unbroken) : p.plain.lines = p.lines := by
  unfold PlainText.lines splitLines
  rw [plain_text]
  exact List.splitOn_intercalate '\n' (unbroken_lines.mpr hp) (by simp [lines])

/-- The cursor is read off the plain text. -/
theorem plain_cursor (hp : p.Unbroken) : p.plain.cursor = ⟨p.above.length, p.left.length⟩ := by
  have hbefore : p.plain.text.take p.plain.place = endLines ['\n'] p.above ++ p.left :=
    List.take_left' rfl
  unfold PlainText.cursor
  rw [hbefore, splitLines_endLines hp.1 hp.2.1]
  simp

end Parts

/-! ## Edits -/

namespace Buffer

open Text

variable {b : Buffer} {col : Nat} {p : Parts}

/-- The lines of the buffer are these parts, and the cursor is between them. -/
structure Shows (b : Buffer) (col : Nat) (p : Parts) : Prop where
  /-- The lines. -/
  lines : b.lines = p.lines
  /-- The line of the cursor. -/
  current : b.current = p.above.length
  /-- The column of the cursor. -/
  col : col = p.left.length

/-- A cursor that is on a line or at its end takes the lines apart. -/
theorem exists_shows (hb : b.current < b.lines.length) (hcol : col ≤ b.lineLength b.current) :
    ∃ p, b.Shows col p := by
  have hline : b.line b.current = b.lines[b.current] := by
    simp [line, List.getD_eq_getElem?_getD, hb]
  refine ⟨⟨b.lines.take b.current, (b.line b.current).take col, (b.line b.current).drop col,
    b.lines.drop (b.current + 1)⟩, ?_, ?_, ?_⟩
  · rw [Parts.lines, List.take_append_drop, hline]
    simp
  · exact (List.length_take_of_le (Nat.le_of_lt hb)).symm
  · exact (List.length_take_of_le hcol).symm

namespace Shows

variable (h : b.Shows col p)

include h

theorem line : b.line b.current = p.left ++ p.right := by
  rw [Buffer.line, h.lines, h.current, Parts.lines, List.getD_eq_getElem?_getD,
    List.getElem?_append_right (Nat.le_refl _), Nat.sub_self]
  rfl

theorem col_le : col ≤ (b.line b.current).length := by
  rw [h.line, h.col, List.length_append]
  exact Nat.le_add_right _ _

/-- The line of the cursor is exchanged for another one. -/
theorem set_line (t : Text) : b.lines.set b.current t = p.above ++ t :: p.below := by
  rw [h.lines, h.current, Parts.lines, List.set_append_right _ _ (Nat.le_refl _), Nat.sub_self]
  rfl

/-- Text that is typed goes to the part in front of the cursor. -/
theorem insertText (t : Text) :
    (b.insertText ⟨b.current, col⟩ t).1.Shows (b.insertText ⟨b.current, col⟩ t).2
      { p with left := p.left ++ t } := by
  have hmin : min col (b.line b.current).length = p.left.length :=
    (Nat.min_eq_left h.col_le).trans h.col
  have htake : (b.line b.current).take p.left.length = p.left := by rw [h.line, List.take_left]
  have hdrop : (b.line b.current).drop p.left.length = p.right := by rw [h.line, List.drop_left]
  unfold Buffer.insertText
  dsimp only
  rw [hmin, htake, hdrop]
  exact ⟨h.set_line _, h.current, List.length_append.symm⟩

/-- A line that is broken leaves its first part above. -/
theorem splitLine :
    (b.splitLine ⟨b.current, col⟩).Shows 0 ⟨p.above ++ [p.left], [], p.right, p.below⟩ := by
  have htake : (b.line b.current).take col = p.left := by rw [h.line, h.col, List.take_left]
  have hdrop : (b.line b.current).drop col = p.right := by rw [h.line, h.col, List.drop_left]
  have hset : (b.setLine b.current p.left).lines = p.above ++ [p.left] ++ p.below := by
    rw [List.append_assoc]
    exact h.set_line p.left
  have hplace : b.current + 1 = (p.above ++ [p.left]).length := by
    rw [List.length_append, h.current]
    rfl
  have hmin : min (b.current + 1) (b.setLine b.current p.left).lines.length = b.current + 1 := by
    rw [hset, List.length_append, ← hplace]
    omega
  have hlines : ((b.setLine b.current p.left).insertLines (b.current + 1) [p.right]).lines =
      p.above ++ [p.left] ++ [p.right] ++ p.below := by
    rw [insertLines, if_neg (by simp), hmin, hset]
    dsimp only
    rw [List.take_left' hplace.symm, List.drop_left' hplace.symm]
  unfold Buffer.splitLine
  dsimp only
  rw [htake, hdrop]
  refine ⟨?_, ?_, rfl⟩
  · refine hlines.trans ?_
    simp [Parts.lines]
  · have hlen := congrArg List.length hlines
    rw [List.length_append, List.length_append, ← hplace] at hlen
    refine (Nat.min_eq_left ?_).trans hplace
    rw [lastLine, hlen, List.length_singleton]
    omega

/-- Behind a character, Backspace takes it out. -/
theorem backspace_char {left : Text} {c : Char} (hleft : p.left = left ++ [c]) :
    ∃ b', b.backspace ⟨b.current, col⟩ = (b', some ⟨b.current, left.length⟩) ∧
      b'.Shows left.length { p with left } := by
  have hcol : col = left.length + 1 := by
    rw [h.col, hleft, List.length_append]
    rfl
  have hmin : min col (b.line b.current).length = left.length + 1 :=
    (Nat.min_eq_left h.col_le).trans hcol
  have herase : (b.line b.current).eraseIdx left.length = left ++ p.right := by
    rw [h.line, hleft, List.append_assoc]
    exact eraseIdx_between left c p.right
  refine ⟨b.setLine b.current (left ++ p.right), ?_, h.set_line _, h.current, rfl⟩
  unfold Buffer.backspace
  dsimp only
  rw [hmin, if_pos (Nat.succ_pos _), Nat.add_sub_cancel, herase]

/-- At the start of a line that is not the first, Backspace joins it to the line above. -/
theorem backspace_break {above : List Text} {last : Text} (hleft : p.left = [])
    (habove : p.above = above ++ [last]) :
    ∃ b', b.backspace ⟨b.current, col⟩ = (b', some ⟨above.length, last.length⟩) ∧
      b'.Shows last.length ⟨above, last, p.right, p.below⟩ := by
  have hcol : col = 0 := by rw [h.col, hleft, List.length_nil]
  have hcurrent : b.current = above.length + 1 := by
    rw [h.current, habove, List.length_append]
    rfl
  have hline : b.line (above.length + 1) = p.right := by
    rw [← hcurrent, h.line, hleft, List.nil_append]
  have hb : b.lines = above ++ last :: (p.left ++ p.right) :: p.below := by
    rw [h.lines, Parts.lines, habove, List.append_assoc]
    rfl
  have hlast : b.line above.length = last := by
    rw [Buffer.line, hb, List.getD_eq_getElem?_getD, List.getElem?_append_right (Nat.le_refl _),
      Nat.sub_self]
    rfl
  have hremoved : (b.removeLines (.line (above.length + 1))).lines = above ++ last :: p.below := by
    have herase := eraseIdx_between (above ++ [last]) (p.left ++ p.right) p.below
    rw [List.length_append, List.append_assoc, List.append_assoc] at herase
    rw [lines_removeLine, hb]
    exact (congrArg orBlank herase).trans (if_neg (by simp))
  have hset : ((b.removeLines (.line (above.length + 1))).setLine above.length
      (last ++ p.right)).lines = above ++ (last ++ p.right) :: p.below := by
    unfold setLine
    dsimp only
    rw [hremoved, List.set_append_right _ _ (Nat.le_refl _), Nat.sub_self]
    rfl
  refine ⟨((b.removeLines (.line (above.length + 1))).setLine above.length
    (last ++ p.right)).goTo above.length, ?_, hset, ?_, rfl⟩
  · unfold Buffer.backspace
    dsimp only
    rw [hcol, Nat.zero_min, if_neg (Nat.lt_irrefl 0), hcurrent, if_neg (Nat.succ_ne_zero _),
      Nat.add_sub_cancel, hlast, hline]
  · refine Nat.min_eq_left ?_
    rw [lastLine, hset, List.length_append, List.length_cons]
    omega

/-- At the start of the text, Backspace does nothing. -/
theorem backspace_nothing (hleft : p.left = []) (habove : p.above = []) :
    b.backspace ⟨b.current, col⟩ = (b, none) := by
  have hcol : col = 0 := by rw [h.col, hleft, List.length_nil]
  have hcurrent : b.current = 0 := by rw [h.current, habove, List.length_nil]
  unfold Buffer.backspace
  dsimp only
  rw [hcol, Nat.zero_min, if_neg (Nat.lt_irrefl 0), if_pos hcurrent]

end Shows

end Buffer
end ModalEditor
