import ModalEditor.Edit.Insert
import Mathlib.Order.Defs.Unbundled

/-!
# What edits keep of a buffer

Every edit of a buffer keeps the bookkeeping of lines, cursor and marks (`Buffer.Fits`), and leaves
the file behind the buffer alone. If it touches the lines, the buffer counts as modified, and a
buffer that counts as modified goes on doing so. `Buffer.Evolves` says all of this of a buffer
before and after some edits. It is transitive, so it only has to be shown of single operations.
-/

namespace ModalEditor

namespace Buffer

/-- The cursor and the marks are on lines of the buffer. -/
structure Fits (b : Buffer) : Prop where
  /-- There is a line. -/
  nonempty : b.lines ≠ []
  /-- The current line is a line. -/
  current_lt : b.current < b.lines.length
  /-- Marks are small letters on lines. -/
  marks : MarksValid b.marks b.lines.length

/-- A buffer is valid if cursor and marks fit and no line has a line break. -/
theorem valid_iff {b : Buffer} : b.Valid ↔ b.Fits ∧ ∀ l ∈ b.lines, '\n' ∉ l :=
  ⟨fun h => ⟨⟨h.nonempty, h.current_lt, h.marks⟩, h.noBreaks⟩,
    fun h => ⟨h.1.nonempty, h.1.current_lt, h.1.marks, h.2⟩⟩

/-- `b'` is what some edits have made of `b`. -/
structure Evolves (b b' : Buffer) : Prop where
  /-- The file is the same. -/
  path : b'.path = b.path
  /-- Its lines are to end in the same way. -/
  ending : b'.ending = b.ending
  /-- Its last line is to have an ending as before. -/
  finalBreak : b'.finalBreak = b.finalBreak
  /-- It is as new as it was. -/
  isNew : b'.isNew = b.isNew
  /-- A buffer without unsaved changes had none before, and its lines are those from before. -/
  unchanged : b'.modified = false → b.modified = false ∧ b'.lines = b.lines
  /-- Cursor and marks go on fitting. -/
  fits : b.Fits → b'.Fits

theorem Evolves.refl (b : Buffer) : b.Evolves b := ⟨rfl, rfl, rfl, rfl, fun h => ⟨h, rfl⟩, id⟩

theorem Evolves.trans {a b c : Buffer} (h : a.Evolves b) (k : b.Evolves c) : a.Evolves c where
  path := k.path.trans h.path
  ending := k.ending.trans h.ending
  finalBreak := k.finalBreak.trans h.finalBreak
  isNew := k.isNew.trans h.isNew
  unchanged hc := by
    obtain ⟨hb, hl⟩ := k.unchanged hc
    exact ⟨(h.unchanged hb).1, hl.trans (h.unchanged hb).2⟩
  fits := k.fits ∘ h.fits

/-! ## Cursor, marks and choices -/

theorem Fits.lines_pos {b : Buffer} (h : b.Fits) : 0 < b.lines.length :=
  List.length_pos_iff.mpr h.nonempty

/-- A mark that is set is on a line of the buffer. -/
theorem Fits.mark?_lt {b : Buffer} {name : Char} {n : Nat} (h : b.Fits)
    (hm : b.mark? name = some n) : n < b.lines.length := by
  obtain ⟨before, after, hmarks, -⟩ := List.lookup_eq_some_iff.mp hm
  exact (h.marks (name, n) (by rw [hmarks]; simp)).2

/-- A change to the cursor, the marks, the selection or the last search is no change of the text. -/
theorem Evolves.of_lines {b b' : Buffer} (hp : b'.path = b.path) (he : b'.ending = b.ending)
    (hf : b'.finalBreak = b.finalBreak) (hn : b'.isNew = b.isNew)
    (hm : b'.modified = b.modified) (hl : b'.lines = b.lines)
    (hfit : b.Fits → b'.current < b.lines.length ∧ MarksValid b'.marks b.lines.length) :
    b.Evolves b' where
  path := hp
  ending := he
  finalBreak := hf
  isNew := hn
  unchanged h := ⟨hm ▸ h, hl⟩
  fits h := ⟨hl ▸ h.nonempty, hl ▸ (hfit h).1, hl ▸ (hfit h).2⟩

theorem goTo_evolves (b : Buffer) (n : Nat) : b.Evolves (b.goTo n) :=
  .of_lines rfl rfl rfl rfl rfl rfl fun h => ⟨by
    have := h.lines_pos
    simp only [goTo, lastLine]
    omega, h.marks⟩

theorem selected_evolves (b : Buffer) (selected : Option Char) :
    b.Evolves { b with selected } :=
  .of_lines rfl rfl rfl rfl rfl rfl fun h => ⟨h.current_lt, h.marks⟩

theorem lastSearch_evolves (b : Buffer) (lastSearch : Option Text) :
    b.Evolves { b with lastSearch } :=
  .of_lines rfl rfl rfl rfl rfl rfl fun h => ⟨h.current_lt, h.marks⟩

/-- Every mark of an extended list is the new one or an old one. -/
theorem mem_insertMark {name : Char} {n : Nat} {marks : List (Char × Nat)} {m : Char × Nat}
    (h : m ∈ insertMark name n marks) : m = (name, n) ∨ m ∈ marks := by
  fun_induction insertMark name n marks with
  | case1 => simpa using h
  | case2 => exact (List.mem_cons.mp h).imp_right (List.mem_cons_of_mem _)
  | case3 => exact List.mem_cons.mp h
  | case4 other k rest _ _ ih =>
    rcases List.mem_cons.mp h with rfl | h
    · exact .inr (by simp)
    · exact (ih h).imp_right (List.mem_cons_of_mem _)

theorem setMark_evolves {b b' : Buffer} {name : Char} {n : Nat} (h : b.setMark name n = .ok b') :
    b.Evolves b' := by
  unfold setMark at h
  split at h
  · cases h
  split at h
  · cases h
  · rename_i hname hn
    cases h
    refine .of_lines rfl rfl rfl rfl rfl rfl fun hb => ⟨hb.current_lt, fun m hm => ?_⟩
    rcases mem_insertMark hm with rfl | hm
    · exact ⟨by simpa using hname, by simpa using hn⟩
    · exact hb.marks m hm

/-! ## Lines -/

/-- A change that counts as a change of the text. -/
theorem Evolves.of_modified {b b' : Buffer} (hp : b'.path = b.path) (he : b'.ending = b.ending)
    (hf : b'.finalBreak = b.finalBreak) (hn : b'.isNew = b.isNew) (hm : b'.modified = true)
    (hfit : b.Fits → b'.Fits) : b.Evolves b' :=
  ⟨hp, he, hf, hn, fun h => absurd h (by simp [hm]), hfit⟩

@[simp] theorem length_orBlank (lines : List Text) :
    (orBlank lines).length = max lines.length 1 := by
  cases lines <;> simp [orBlank]

theorem setLine_evolves (b : Buffer) (n : Nat) (t : Text) : b.Evolves (b.setLine n t) :=
  .of_modified rfl rfl rfl rfl rfl fun h =>
    ⟨by simpa [setLine] using h.nonempty, by simpa [setLine] using h.current_lt,
      by simpa [setLine] using h.marks⟩

theorem removeLines_evolves (b : Buffer) {s : LineSpan} (hs : s.first ≤ s.last)
    (hl : s.last < b.lines.length) : b.Evolves (b.removeLines s) := by
  have hlen : (b.removeLines s).lines.length = max (b.lines.length - s.size) 1 := by
    simp [removeLines, LineSpan.size]
    omega
  refine .of_modified rfl rfl rfl rfl rfl fun h => ⟨?_, ?_, fun m hm => ?_⟩
  · exact List.ne_nil_of_length_pos (by omega)
  · have hcur := h.current_lt
    change (if s.contains b.current then min s.first ((b.removeLines s).lines.length - 1)
      else if s.last < b.current then b.current - s.size else b.current) < _
    rw [hlen]
    by_cases hin : s.contains b.current
    · rw [if_pos hin]
      omega
    · rw [if_neg hin]
      simp [LineSpan.contains] at hin
      simp only [LineSpan.size]
      split <;> omega
  · obtain ⟨old, hold, rfl⟩ := List.mem_map.mp hm
    obtain ⟨hold, hout⟩ := List.mem_filter.mp hold
    obtain ⟨hname, hline⟩ := h.marks old hold
    refine ⟨hname, ?_⟩
    rw [hlen]
    simp [LineSpan.contains] at hout
    simp only [LineSpan.size]
    split <;> omega

theorem insertLines_evolves (b : Buffer) (place : Nat) (new : List Text) :
    b.Evolves (b.insertLines place new) := by
  unfold insertLines
  split
  · exact .refl b
  have hlen : (b.lines.take (min place b.lines.length) ++ new ++
      b.lines.drop (min place b.lines.length)).length = b.lines.length + new.length := by
    simp
    omega
  refine .of_modified rfl rfl rfl rfl rfl fun h => ⟨?_, ?_, fun m hm => ?_⟩
  · exact List.ne_nil_of_length_pos (by have := h.lines_pos; simp only []; omega)
  · have := h.current_lt
    simp only [hlen]
    split <;> omega
  · obtain ⟨old, hold, rfl⟩ := List.mem_map.mp hm
    obtain ⟨hname, hline⟩ := h.marks old hold
    refine ⟨hname, ?_⟩
    simp only [hlen]
    split <;> omega

theorem replaceLines_evolves (b : Buffer) {s : LineSpan} (hs : s.first ≤ s.last)
    (hl : s.last < b.lines.length) (new : List Text) : b.Evolves (b.replaceLines s new) := by
  have hlen : (b.replaceLines s new).lines.length =
      max (b.lines.length - s.size + new.length) 1 := by
    simp [replaceLines, LineSpan.size]
    omega
  refine .of_modified rfl rfl rfl rfl rfl fun h => ⟨?_, ?_, fun m hm => ?_⟩
  · exact List.ne_nil_of_length_pos (by omega)
  · rw [hlen]
    change min _ ((b.replaceLines s new).lines.length - 1) < _
    omega
  · obtain ⟨old, hold, rfl⟩ := List.mem_map.mp hm
    obtain ⟨hold, hkept⟩ := List.mem_filter.mp hold
    obtain ⟨hname, hline⟩ := h.marks old hold
    refine ⟨hname, ?_⟩
    rw [hlen]
    simp [LineSpan.contains] at hkept
    simp only [LineSpan.size]
    split <;> omega

/-! ## Taking one line out -/

theorem lines_removeLine (b : Buffer) (n : Nat) :
    (b.removeLines (.line n)).lines = orBlank (b.lines.eraseIdx n) := by
  rw [List.eraseIdx_eq_take_drop_succ]
  rfl

theorem marks_removeLine (b : Buffer) (n : Nat) :
    (b.removeLines (.line n)).marks = (b.marks.filter fun m => m.2 ≠ n).map
      fun m => (m.1, if n < m.2 then m.2 - 1 else m.2) := by
  have hspan : ∀ k, (LineSpan.line n).contains k = decide (k = n) := by
    intro k
    simp only [LineSpan.contains, LineSpan.line]
    grind
  have hsize : (LineSpan.line n).size = 1 := by simp [LineSpan.size, LineSpan.line]
  change (b.marks.filter fun m => !(LineSpan.line n).contains m.2).map
    (fun m => (m.1, if n < m.2 then m.2 - (LineSpan.line n).size else m.2)) = _
  simp only [hspan, hsize, decide_not]

/-- What is above a line that is taken out stays where it is. -/
theorem line_removeLine (b : Buffer) {n k : Nat} (hk : k < n) :
    (b.removeLines (.line n)).line k = b.line k := by
  have hblank : ∀ lines : List Text, (orBlank lines).getD k [] = lines.getD k [] := by
    intro lines
    unfold orBlank
    cases lines with
    | nil => cases k <;> rfl
    | cons => rfl
  unfold line
  rw [lines_removeLine, hblank, List.getD_eq_getElem?_getD, List.getElem?_eraseIdx, if_pos hk,
    List.getD_eq_getElem?_getD]

theorem lt_length_removeLine {b : Buffer} {n k : Nat} (hn : n < b.lines.length) (hk : k < n) :
    k < (b.removeLines (.line n)).lines.length := by
  rw [lines_removeLine, length_orBlank, List.length_eraseIdx_of_lt hn]
  omega

theorem linesOf_line {b : Buffer} {n : Nat} (hn : n < b.lines.length) :
    b.linesOf (.line n) = [b.line n] := by
  have hline : b.line n = b.lines[n] := by
    simp [line, List.getD_eq_getElem?_getD, hn]
  unfold linesOf
  rw [hline, LineSpan.line, List.drop_take, List.drop_eq_getElem_cons hn, Nat.add_sub_cancel_left]
  rfl

/-- The lines of a span stand between those above it and those below. -/
theorem lines_eq_span (b : Buffer) {s : LineSpan} (hs : s.first ≤ s.last)
    (hl : s.last < b.lines.length) :
    b.lines = b.lines.take s.first ++ b.linesOf s ++ b.lines.drop (s.last + 1) ∧
      (b.lines.take s.first).length = s.first ∧ (b.linesOf s).length = s.size := by
  refine ⟨?_, List.length_take_of_le (by omega), ?_⟩
  · have htake : b.lines.take s.first = (b.lines.take (s.last + 1)).take s.first := by
      rw [List.take_take, Nat.min_eq_left (by omega)]
    rw [linesOf, htake, List.take_append_drop, List.take_append_drop]
  · rw [linesOf, List.length_drop, List.length_take_of_le (by omega), LineSpan.size]
    omega

/-! ## Replacing one line -/

theorem lines_replaceLine {b : Buffer} {n : Nat} {pieces : List Text} (hp : pieces ≠ []) :
    (b.replaceLines (.line n) pieces).lines =
      b.lines.take n ++ pieces ++ b.lines.drop (n + 1) := by
  simp only [replaceLines, LineSpan.line]
  unfold orBlank
  rw [if_neg]
  simp [hp]

/-- What has a text is a line of the buffer. -/
theorem lt_of_line_ne_nil {b : Buffer} {n : Nat} (h : b.line n ≠ []) : n < b.lines.length := by
  refine Nat.lt_of_not_le fun hle => h ?_
  simp [line, List.getD_eq_getElem?_getD, hle]

theorem length_replaceLine {b : Buffer} {n : Nat} {pieces : List Text} (hn : n < b.lines.length)
    (hp : pieces ≠ []) :
    (b.replaceLines (.line n) pieces).lines.length = b.lines.length + (pieces.length - 1) := by
  have hpos : 0 < pieces.length := List.length_pos_iff.mpr hp
  rw [lines_replaceLine hp]
  simp only [List.length_append, List.length_take, List.length_drop]
  omega

/-- What is below a line that is replaced stays. -/
theorem drop_replaceLine {b : Buffer} {n : Nat} {pieces : List Text} (hn : n < b.lines.length)
    (hp : pieces ≠ []) :
    (b.replaceLines (.line n) pieces).lines.drop (n + pieces.length) = b.lines.drop (n + 1) := by
  have hlen : (b.lines.take n ++ pieces).length = n + pieces.length := by
    simp only [List.length_append, List.length_take]
    omega
  rw [lines_replaceLine hp, ← hlen, List.drop_left]

/-- One line in the place of another. -/
theorem replaceLine_one {b : Buffer} (hb : b.Fits) {n : Nat} (hn : n < b.lines.length) (t : Text) :
    b.replaceLines (.line n) [t] = b.setLine n t := by
  have hlines : (b.replaceLines (.line n) [t]).lines = b.lines.set n t := by
    rw [lines_replaceLine (by simp), List.set_eq_take_append_cons_drop, if_pos hn,
      List.append_assoc, List.singleton_append]
  have hkept : (b.marks.filter fun m =>
      !(LineSpan.line n).contains m.2 || m.2 - (LineSpan.line n).first < [t].length) = b.marks := by
    refine List.filter_eq_self.mpr fun m _ => ?_
    simp only [LineSpan.contains, LineSpan.line, List.length_singleton]
    grind
  have hbelow (m : Nat) :
      (if (LineSpan.line n).last < m then m + [t].length - (LineSpan.line n).size else m) = m := by
    simp [LineSpan.line, LineSpan.size]
  have hcurrent := hb.current_lt
  unfold replaceLines at hlines ⊢
  dsimp only at hlines
  rw [hkept]
  simp only [hbelow, hlines]
  unfold setLine
  congr 1
  · rw [List.length_set]
    omega
  · exact List.map_id b.marks

/-! ## Edits within lines -/

theorem insertText_evolves (b : Buffer) (p : Position) (t : Text) :
    b.Evolves (b.insertText p t).1 := setLine_evolves b p.line _

theorem splitLine_evolves (b : Buffer) (p : Position) : b.Evolves (b.splitLine p) :=
  ((setLine_evolves b p.line _).trans (insertLines_evolves _ _ _)).trans (goTo_evolves _ _)

theorem backspace_evolves (b : Buffer) {p : Position} (hp : p.line < b.lines.length) :
    b.Evolves (b.backspace p).1 := by
  unfold backspace
  simp only
  split
  · exact setLine_evolves b _ _
  split
  · exact .refl b
  · exact ((removeLines_evolves b (Nat.le_refl _) hp).trans (setLine_evolves _ _ _)).trans
      (goTo_evolves _ _)

theorem openLine_evolves (b : Buffer) (n : Nat) (below : Bool) :
    b.Evolves (b.openLine n below).1 := (insertLines_evolves b _ _).trans (goTo_evolves _ _)

theorem appendLines_evolves (b : Buffer) (n : Nat) (lines : List Text) :
    b.Evolves (b.appendLines n lines) := by
  unfold appendLines
  split
  · exact .refl b
  · exact (insertLines_evolves b _ _).trans (goTo_evolves _ _)

/-! ## New buffers -/

theorem orBlank_ne_nil (lines : List Text) : orBlank lines ≠ [] := by
  unfold orBlank
  split <;> simp_all

/-- A buffer with its cursor on the first line and without marks. -/
theorem fits_of_fresh {b : Buffer} (hl : b.lines ≠ []) (hc : b.current = 0) (hm : b.marks = []) :
    b.Fits :=
  ⟨hl, hc ▸ List.length_pos_iff.mpr hl, fun m h => by rw [hm] at h; cases h⟩

theorem fits_new : ({} : Buffer).Fits := fits_of_fresh (by simp) rfl rfl

theorem fits_newFile (path : Path) : (newFile path).Fits :=
  fits_of_fresh (by simp [newFile]) rfl rfl

theorem fits_ofText (path : Option Path) (t : Text) : (ofText path t).Fits :=
  fits_of_fresh (orBlank_ne_nil _) rfl rfl

end Buffer
end ModalEditor
