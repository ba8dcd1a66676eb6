import ModalEditor.Proofs.Edit.Evolution
import ModalEditor.Proofs.Register.Basic
import Mathlib.Data.List.Basic

/-!
# Lines deleted one by one

Lines that are deleted one by one, the lowest first, are gone afterwards and no others are: a line
that is deleted does not move those above it, so the numbers of the lines to come stay right. The
lines that stay move up by the number of deleted lines above them (`numberWithout`), and so do their
marks. The registers from `1` on hold the texts of the last deletes, newest first, and the one that
was deleted last is the one at the top.
-/

namespace ModalEditor

/-- The lines whose numbers are not in `ns`. -/
def linesWithout (ns : List Nat) (lines : List Text) : List Text :=
  (lines.zipIdx.filter fun l => l.2 ∉ ns).map Prod.fst

/-- The number of line `n` when the lines `ns` are gone. -/
def numberWithout (ns : List Nat) (n : Nat) : Nat := n - ns.countP (· < n)

/-- The marks when the lines `ns` are gone. -/
def marksWithout (ns : List Nat) (marks : List (Char × Nat)) : List (Char × Nat) :=
  (marks.filter fun m => m.2 ∉ ns).map fun m => (m.1, numberWithout ns m.2)

section Lists

variable {n k : Nat} {ns : List Nat}

@[simp] theorem linesWithout_nil (lines : List Text) : linesWithout [] lines = lines := by
  unfold linesWithout
  rw [List.filter_eq_self.mpr fun l _ => decide_eq_true List.not_mem_nil]
  exact List.zipIdx_map_fst 0 lines

@[simp] theorem marksWithout_nil (marks : List (Char × Nat)) : marksWithout [] marks = marks := by
  simp [marksWithout, numberWithout]

/-- The order of the lines that go does not matter. -/
theorem linesWithout_reverse (lines : List Text) :
    linesWithout ns.reverse lines = linesWithout ns lines := by
  simp [linesWithout]

theorem marksWithout_reverse (marks : List (Char × Nat)) :
    marksWithout ns.reverse marks = marksWithout ns marks := by
  simp [marksWithout, numberWithout]

/-- Nothing is gone below the lines that are taken out. -/
theorem filter_zipIdx_below (hns : ∀ m ∈ ns, m < k) (lines : List Text) :
    ((lines.zipIdx k).filter fun l => l.2 ∉ ns) = lines.zipIdx k := by
  refine List.filter_eq_self.mpr fun l hl => decide_eq_true fun hmem => ?_
  exact Nat.not_le_of_gt (hns l.2 hmem) (List.le_snd_of_mem_zipIdx hl)

/-- The lowest line can be taken out first. -/
theorem linesWithout_append {above : List Text} (line : Text) (below : List Text)
    (hns : ∀ m ∈ ns, m < above.length) :
    linesWithout (above.length :: ns) (above ++ line :: below) =
      linesWithout ns (above ++ below) := by
  have habove : ∀ l ∈ above.zipIdx, decide (l.2 ∉ above.length :: ns) = decide (l.2 ∉ ns) := by
    intro l hl
    have hne : l.2 ≠ above.length := Nat.ne_of_lt (List.snd_lt_of_mem_zipIdx hl)
    simp [hne]
  have hbelow : ∀ m ∈ above.length :: ns, m < above.length + 1 := by
    intro m hm
    rcases List.mem_cons.mp hm with rfl | hm
    · exact Nat.lt_succ_self _
    · exact Nat.lt_succ_of_lt (hns m hm)
  unfold linesWithout
  rw [List.zipIdx_append, List.zipIdx_append, List.zipIdx_cons, List.filter_append,
    List.filter_append, List.filter_congr habove, List.filter_cons_of_neg (by simp), Nat.zero_add,
    filter_zipIdx_below hns, filter_zipIdx_below hbelow]
  simp only [List.map_append, List.zipIdx_map_fst]

theorem linesWithout_cons {lines : List Text} (hn : n < lines.length) (hns : ∀ m ∈ ns, m < n) :
    linesWithout (n :: ns) lines = linesWithout ns (lines.eraseIdx n) := by
  have hlen : (lines.take n).length = n := List.length_take_of_le (Nat.le_of_lt hn)
  have hsplit : lines = lines.take n ++ lines[n] :: lines.drop (n + 1) := by simp
  have happend := linesWithout_append lines[n] (lines.drop (n + 1)) (hlen.symm ▸ hns)
  rw [hlen, ← hsplit, ← List.eraseIdx_eq_take_drop_succ] at happend
  exact happend

theorem numberWithout_cons (hk : k ≠ n) (hns : ∀ m ∈ ns, m < n) :
    numberWithout (n :: ns) k = numberWithout ns (if n < k then k - 1 else k) := by
  unfold numberWithout
  rcases Nat.lt_or_gt_of_ne hk with hlt | hgt
  · rw [if_neg (Nat.lt_asymm hlt), List.countP_cons_of_neg (by simpa using Nat.le_of_lt hlt)]
  · have hall : ∀ j, n ≤ j → ns.countP (· < j) = ns.length := by
      intro j hj
      refine List.countP_eq_length.mpr fun m hm => decide_eq_true ?_
      exact Nat.lt_of_lt_of_le (hns m hm) hj
    rw [if_pos hgt, List.countP_cons_of_pos (by simpa using hgt), hall k (Nat.le_of_lt hgt),
      hall (k - 1) (by omega)]
    omega

theorem marksWithout_cons {marks : List (Char × Nat)} (hns : ∀ m ∈ ns, m < n) :
    marksWithout (n :: ns) marks = marksWithout ns
      ((marks.filter fun m => m.2 ≠ n).map fun m => (m.1, if n < m.2 then m.2 - 1 else m.2)) := by
  -- A line below `n` that moves up is still at `n` or below it, and so not one of `ns`.
  have hmem : ∀ k, k ≠ n → ((if n < k then k - 1 else k) ∈ ns ↔ k ∈ ns) := by
    intro k hk
    split
    · have hk' : k ∉ ns := fun hm => by have := hns k hm; omega
      have hk'' : k - 1 ∉ ns := fun hm => by have := hns (k - 1) hm; omega
      exact iff_of_false hk'' hk'
    · rfl
  induction marks with
  | nil => rfl
  | cons m marks ih =>
    unfold marksWithout at ih ⊢
    by_cases hm : m.2 = n
    · simpa [hm] using ih
    · by_cases hin : m.2 ∈ ns
      · simpa [hm, hin, hmem m.2 hm] using ih
      · simpa [hm, hin, hmem m.2 hm, numberWithout_cons hm hns] using ih

theorem numberWithout_append {ms : List Nat} (habove : ∀ m ∈ ms, m < n) (hbelow : ∀ m ∈ ns, n < m) :
    numberWithout (ms ++ ns) n = n - ms.length := by
  have hms : ms.countP (· < n) = ms.length :=
    List.countP_eq_length.mpr fun m hm => decide_eq_true (habove m hm)
  have hns : ns.countP (· < n) = 0 :=
    List.countP_eq_zero.mpr fun m hm => by simpa using Nat.le_of_lt (hbelow m hm)
  rw [numberWithout, List.countP_append, hms, hns, Nat.add_zero]

/-- A line that stays moves up by the number of lines above it that go. -/
theorem getElem?_filter_zipIdx (above : List Text) (line : Text) (below : List Text)
    {p : Text × Nat → Bool} (hp : p (line, above.length) = false) :
    (((above ++ line :: below).zipIdx).filter fun l => !p l)[
      numberWithout ((((above ++ line :: below).zipIdx).filter p).map Prod.snd) above.length]? =
      some (line, above.length) := by
  have hall : (above ++ line :: below).zipIdx =
      above.zipIdx ++ (line, above.length) :: below.zipIdx (above.length + 1) := by
    rw [List.zipIdx_append, List.zipIdx_cons, Nat.zero_add]
  have habove : ∀ m ∈ (above.zipIdx.filter p).map Prod.snd, m < above.length := by
    intro m hm
    obtain ⟨l, hl, rfl⟩ := List.mem_map.mp hm
    exact List.snd_lt_of_mem_zipIdx (List.mem_filter.mp hl).1
  have hbelow : ∀ m ∈ ((below.zipIdx (above.length + 1)).filter p).map Prod.snd,
      above.length < m := by
    intro m hm
    obtain ⟨l, hl, rfl⟩ := List.mem_map.mp hm
    exact List.le_snd_of_mem_zipIdx (List.mem_filter.mp hl).1
  -- The lines above that go and those above that stay are all the lines above.
  have hlen : above.length =
      (above.zipIdx.filter p).length + (above.zipIdx.filter fun l => !p l).length := by
    rw [← List.length_eq_length_filter_add, List.length_zipIdx]
  have hplace : numberWithout (((above ++ line :: below).zipIdx.filter p).map Prod.snd)
      above.length = (above.zipIdx.filter fun l => !p l).length := by
    rw [hall, List.filter_append, List.filter_cons_of_neg (by simp [hp]), List.map_append,
      numberWithout_append habove hbelow, List.length_map]
    omega
  rw [hplace, hall, List.filter_append, List.filter_cons_of_pos (by simp [hp]),
    List.getElem?_append_right (Nat.le_refl _), Nat.sub_self, List.getElem?_cons_zero]

end Lists

/-! ## The registers -/

namespace RegisterFile

variable {f : RegisterFile} {texts : List Text}

/-- The registers from `1` on hold lines that were deleted, newest first. -/
structure Holds (f : RegisterFile) (texts : List Text) : Prop where
  /-- There are numbered registers. -/
  numbered : f.numbered ≠ []
  /-- A line is in its register, unless it is too old for the last of them. -/
  line : ∀ k < 9, ∀ t ∈ texts[k]?, f.numbered[k + 1]? = some (.ofLines [t])

/-- A further line that is deleted comes first. -/
theorem Holds.recordDelete (hf : f.Holds texts) (t : Text) :
    (f.recordDelete none (.ofLines [t])).Holds (t :: texts) where
  numbered := by simp [RegisterFile.recordDelete, set, write, pushDelete]
  line k hk u hu := by
    refine (getElem?_pushDelete_succ hf.numbered (.ofLines [t]) hk).trans ?_
    cases k with
    | zero =>
      cases hu
      rfl
    | succ k => exact hf.line k (by omega) u hu

/-- The first line that is deleted comes first whatever else it is written to. -/
theorem holds_recordDelete (hf : f.numbered ≠ []) (target : Option Char) (t : Text) :
    (f.recordDelete target (.ofLines [t])).Holds [t] := by
  have hline := getElem?_recordDelete hf target (.ofLines [t])
  refine ⟨?_, fun k _ u hu => ?_⟩
  · exact List.ne_nil_of_mem (List.mem_of_getElem? hline)
  · cases k with
    | zero =>
      cases hu
      exact hline
    | succ k => cases hu

end RegisterFile

/-! ## The desk -/

namespace Desk

/-- The desk after line `n` was deleted. -/
def deleteLine (d : Desk) (n : Nat) : Desk where
  buffer := { (d.buffer.goTo n).removeLines (.line n) with selected := none }
  registers := d.registers.recordDelete d.buffer.selected (.ofLines [d.buffer.line n])

variable {d : Desk} {n : Nat} {ns : List Nat}

@[simp] theorem selected_deleteLine (d : Desk) (n : Nat) :
    (d.deleteLine n).buffer.selected = none := rfl

theorem lines_deleteLine (d : Desk) (n : Nat) :
    (d.deleteLine n).buffer.lines = Buffer.orBlank (d.buffer.lines.eraseIdx n) :=
  (d.buffer.goTo n).lines_removeLine n

theorem marks_deleteLine (d : Desk) (n : Nat) :
    (d.deleteLine n).buffer.marks = (d.buffer.marks.filter fun m => m.2 ≠ n).map
      fun m => (m.1, if n < m.2 then m.2 - 1 else m.2) := (d.buffer.goTo n).marks_removeLine n

theorem line_deleteLine (d : Desk) {k : Nat} (hk : k < n) :
    (d.deleteLine n).buffer.line k = d.buffer.line k := (d.buffer.goTo n).line_removeLine hk

theorem lt_lineCount_deleteLine (d : Desk) {k : Nat} (hn : n < d.buffer.lineCount) (hk : k < n) :
    k < (d.deleteLine n).buffer.lineCount :=
  Buffer.lt_length_removeLine (b := d.buffer.goTo n) hn hk

theorem lines_foldl_deleteLine (hdown : ns.Pairwise (· > ·)) (hd : d.buffer.lines ≠ [])
    (hns : ∀ m ∈ ns, m < d.buffer.lineCount) :
    (ns.foldl deleteLine d).buffer.lines = Buffer.orBlank (linesWithout ns d.buffer.lines) := by
  induction ns generalizing d with
  | nil =>
    rw [linesWithout_nil, Buffer.orBlank, if_neg (by simpa using hd)]
    rfl
  | cons n ns ih =>
    obtain ⟨hlt, hdown⟩ := List.pairwise_cons.mp hdown
    have hn : n < d.buffer.lines.length := hns n List.mem_cons_self
    have hlines := d.lines_deleteLine n
    have hlen := List.length_eraseIdx_of_lt hn
    rw [List.foldl_cons, linesWithout_cons hn hlt, ih hdown, hlines]
    · cases hrest : d.buffer.lines.eraseIdx n with
      -- Without its only line the buffer has a blank one, but then no line is left to be deleted.
      | nil =>
        have hnil : ns = [] := List.eq_nil_iff_forall_not_mem.mpr fun m hm => by
          have hm' := hlt m hm
          rw [hrest] at hlen
          simp only [List.length_nil] at hlen
          omega
        rw [hnil]
        rfl
      | cons => rfl
    · rw [hlines]
      exact Buffer.orBlank_ne_nil _
    · exact fun m hm => d.lt_lineCount_deleteLine hn (hlt m hm)

theorem marks_foldl_deleteLine (hdown : ns.Pairwise (· > ·)) :
    (ns.foldl deleteLine d).buffer.marks = marksWithout ns d.buffer.marks := by
  induction ns generalizing d with
  | nil => exact (marksWithout_nil _).symm
  | cons n ns ih =>
    obtain ⟨hlt, hdown⟩ := List.pairwise_cons.mp hdown
    rw [List.foldl_cons, ih hdown, marks_deleteLine, marksWithout_cons hlt]

theorem map_line_deleteLine (d : Desk) (hns : ∀ m ∈ ns, m < n) :
    ns.map (d.deleteLine n).buffer.line = ns.map d.buffer.line :=
  List.map_congr_left fun m hm => d.line_deleteLine (hns m hm)

theorem holds_foldl_deleteLine {texts : List Text} (hdown : ns.Pairwise (· > ·))
    (hsel : d.buffer.selected = none) (hd : d.registers.Holds texts) :
    (ns.foldl deleteLine d).registers.Holds ((ns.map d.buffer.line).reverse ++ texts) := by
  induction ns generalizing d texts with
  | nil => exact hd
  | cons n ns ih =>
    obtain ⟨hlt, hdown⟩ := List.pairwise_cons.mp hdown
    have hfirst : (d.deleteLine n).registers.Holds (d.buffer.line n :: texts) := by
      rw [deleteLine, hsel]
      exact hd.recordDelete _
    have hrest := ih hdown (d.selected_deleteLine n) hfirst
    rw [d.map_line_deleteLine hlt] at hrest
    simpa using hrest

/-- Only the first delete sees the selected register. -/
theorem holds_deleteLines (hdown : ns.Pairwise (· > ·)) (hns : ns ≠ [])
    (hd : d.registers.numbered ≠ []) :
    (ns.foldl deleteLine d).registers.Holds (ns.map d.buffer.line).reverse := by
  cases ns with
  | nil => exact absurd rfl hns
  | cons n ns =>
    obtain ⟨hlt, hdown⟩ := List.pairwise_cons.mp hdown
    have hfirst : (d.deleteLine n).registers.Holds [d.buffer.line n] :=
      RegisterFile.holds_recordDelete hd _ _
    have hrest := holds_foldl_deleteLine hdown (d.selected_deleteLine n) hfirst
    rw [d.map_line_deleteLine hlt] at hrest
    simpa using hrest

/-- No register is selected that cannot be written to. -/
def SelectsWritable (d : Desk) : Prop := ∀ name ∈ d.buffer.selected, Register.isWritable name = true

theorem selectsWritable_deleteLine (d : Desk) (n : Nat) : (d.deleteLine n).SelectsWritable := by
  intro name hname
  cases hname

end Desk

namespace Edit

variable {d : Desk}

/-- A register that can be written to is taken. -/
theorem run_takeWritable_of_isWritable {register : Option Char}
    (hd : ∀ name ∈ register.or d.buffer.selected, Register.isWritable name = true) :
    (takeWritable register).run.run d = (.ok (register.or d.buffer.selected), d.unselected) := by
  rw [run_takeWritable]
  cases hname : register.or d.buffer.selected with
  | none => rfl
  | some name => simp only [hd name hname, if_true]

/-- Lines of the buffer are deleted unless the register that gets them is in the way. -/
theorem run_deleteLines {s : LineSpan} (register : Option Char) (hs : s.last < d.buffer.lineCount)
    (hd : ∀ name ∈ register.or d.buffer.selected, Register.isWritable name = true) :
    (deleteLines s register).run.run d =
      (.ok (d.buffer.linesOf s).length,
        { buffer := d.unselected.buffer.removeLines s
          registers := d.registers.recordDelete (register.or d.buffer.selected)
            (.ofLines (d.buffer.linesOf s)) }) := by
  have hcheck : (checkSpan s).run.run d = (.ok ⟨⟩, d) := by
    rw [run_checkSpan, if_neg (Nat.not_le_of_gt hs)]
  unfold deleteLines
  simp only [run_bind, hcheck, run_takeWritable_of_isWritable hd]
  rfl

/-- The line under the cursor is deleted. -/
theorem run_deleteCurrent {n : Nat} (hn : n < d.buffer.lineCount) (hd : d.SelectsWritable) :
    (deleteLines (.line n) none).run.run { d with buffer := d.buffer.goTo n } =
      (.ok 1, d.deleteLine n) := by
  have hrun := run_deleteLines (d := { d with buffer := d.buffer.goTo n }) (s := .line n) none hn hd
  have hline : (d.buffer.goTo n).linesOf (.line n) = [d.buffer.line n] := Buffer.linesOf_line hn
  dsimp only at hrun
  rw [hline] at hrun
  exact hrun

end Edit
end ModalEditor
