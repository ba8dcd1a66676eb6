import ModalEditor.Host.Memory
import ModalEditor.Proofs.Buffer.Marks
import ModalEditor.Proofs.Buffer.RoundTrip
import ModalEditor.Proofs.Ex.Files

/-!
# Filters that change nothing

A filter joins the lines of a span to one text with a line feed at its end, and what the command prints
is taken apart again. The two fit together (`ShellResult.outputLines_of_joined`), also if lines of the
span are empty: the one line feed that is dropped from the output is the one that was put behind the
last line. So a command that prints what it has read leaves the lines and marks as they are.

A command that fails has printed something as well, but nobody looks at it.
-/

namespace ModalEditor

/-- Lines that were joined for a command are taken apart again when it prints them, but for a carriage
return at the end of a line. -/
theorem ShellResult.outputLines_of_joined {r : ShellResult} {lines : List Text} (hne : lines ≠ [])
    (hu : Unbroken lines) (hr : r.stdout = Text.join ['\n'] lines ++ ['\n']) :
    r.outputLines = lines.map (Text.dropFinal '\r') := by
  have hsplit : Text.splitLines (Text.join ['\n'] lines) = lines :=
    List.splitOn_intercalate '\n' hu hne
  unfold outputLines
  rw [hr, if_neg (by simp), Text.dropFinal_concat_self, hsplit]

/-- As many lines in the place of a span leave every line at its number. -/
theorem LineSpan.carry_size {s : LineSpan} (hs : s.first ≤ s.last) : s.carry s.size = some := by
  funext n
  by_cases hin : s.contains n = true
  · have hle := contains_iff_le.mp hin
    rw [carry_of_contains hin, if_pos (by rw [size]; omega)]
  · rw [carry, if_neg hin]
    split
    · rw [Nat.add_sub_cancel]
    · rfl

/-- Lines that stand in their own place. -/
theorem Buffer.replaceLines_linesOf (b : Buffer) {s : LineSpan} (hs : s.first ≤ s.last)
    (hl : s.last < b.lines.length) :
    (b.replaceLines s (b.linesOf s)).goTo s.first =
      { b with current := s.first, modified := true } := by
  obtain ⟨hspan, -, hsize⟩ := b.lines_eq_span hs hl
  have hlines : (b.replaceLines s (b.linesOf s)).lines = b.lines := by
    have hsome : b.lines.isEmpty = false := by
      rw [List.isEmpty_eq_false_iff]
      exact List.ne_nil_of_length_pos (by omega)
    simp only [replaceLines, ← hspan, orBlank, hsome, Bool.false_eq_true, if_false]
  have hmarks : (b.replaceLines s (b.linesOf s)).marks = b.marks := by
    rw [(b.replaceLines_carries hs hl _).marks, hsize, LineSpan.carry_size hs]
    exact List.filterMap_some
  have hcurrent : min s.first (b.lines.length - 1) = s.first := Nat.min_eq_left (by omega)
  have hgo : (b.replaceLines s (b.linesOf s)).goTo s.first =
      { b with
        lines := (b.replaceLines s (b.linesOf s)).lines
        marks := (b.replaceLines s (b.linesOf s)).marks
        current := min s.first ((b.replaceLines s (b.linesOf s)).lines.length - 1)
        modified := true } := rfl
  rw [hgo, hlines, hmarks, hcurrent]

namespace Ex

open EditorM

variable {σ : Type} {h : Host σ} {s : LineSpan} {e : Editor σ}

/-- The call of a filter on a span. -/
def filterCall (h : Host σ) (s : LineSpan) (command : Text) (b : Buffer) : ShellCall where
  command := command
  stdin := Text.join ['\n'] (b.linesOf s) ++ ['\n']
  directory := h.project.root

/-- A filter asks the shell, and only if that gives lines is the buffer looked at again. -/
theorem run_filterLines (command : Text) (hl : s.last < e.buffer.lineCount) :
    (filterLines h s command).run.run e =
      let answer := h.run (filterCall h s command e.buffer) e.world
      match ShellResult.linesOf command answer.1 with
      | .error err => (.error err, { e with world := answer.2 })
      | .ok lines => (.ok lines.length, ({ e with world := answer.2 } : Editor σ).setBuffer
          ((e.buffer.replaceLines s lines).goTo s.first)) := by
  unfold filterLines
  simp only [run_bind, run_checked, if_neg (Nat.not_le_of_gt hl), run_buffer, run_shellLines]
  unfold filterCall
  cases ShellResult.linesOf command _ <;> rfl

/-- A command that prints what it has read leaves the lines and marks of the buffer as they are, if no
line of the span has a line break in it or a carriage return at its end; only the cursor goes to the
span. A command that cannot be run, that is killed or that has another exit status than `0` leaves
everything as it is. -/
theorem filterLines_identity_or_failure (h : Host σ) (command : Text) (e : Editor σ)
    (hs : s.first ≤ s.last) (hl : s.last < e.buffer.lineCount) :
    (∀ r world, h.run (filterCall h s command e.buffer) e.world = (.ok r, world) →
      r.status = some 0 → r.stdout = (filterCall h s command e.buffer).stdin →
      Unbroken (e.buffer.linesOf s) → (∀ l ∈ e.buffer.linesOf s, l.getLast? ≠ some '\r') →
      (filterLines h s command).run.run e =
        (.ok s.size, ({ e with world } : Editor σ).setBuffer
          { e.buffer with current := s.first, modified := true })) ∧
    ∀ answer world, h.run (filterCall h s command e.buffer) e.world = (answer, world) →
      (∀ r, answer = .ok r → r.status ≠ some 0) →
      ∃ detail, (filterLines h s command).run.run e =
        (.error (.filterFailed detail), { e with world }) := by
  have hrun := run_filterLines (h := h) command hl
  refine ⟨fun r world hanswer hstatus hstdout hu hr => ?_, fun answer world hanswer hstatus => ?_⟩
  · obtain ⟨-, -, hsize⟩ := e.buffer.lines_eq_span hs hl
    have hne : e.buffer.linesOf s ≠ [] :=
      List.ne_nil_of_length_pos (by rw [hsize]; exact Nat.succ_pos _)
    have hkept : (e.buffer.linesOf s).map (Text.dropFinal '\r') = e.buffer.linesOf s :=
      (List.map_congr_left fun l hmem => Text.dropFinal_eq_self_iff.mpr (hr l hmem)).trans
        (List.map_id _)
    have hlines : ShellResult.linesOf command (.ok r) = .ok (e.buffer.linesOf s) := by
      rw [ShellResult.linesOf, if_pos hstatus, ShellResult.outputLines_of_joined hne hu hstdout,
        hkept]
    rw [hrun, hanswer]
    simp only [hlines, hsize, e.buffer.replaceLines_linesOf hs hl]
  · rw [hrun, hanswer]
    cases answer with
    | error failure => exact ⟨_, rfl⟩
    | ok r =>
      simp only [ShellResult.linesOf, if_neg (hstatus r rfl)]
      exact ⟨_, rfl⟩

/-- The last two of three lines, which are empty, go through `cat`, and through a command that prints
something and is killed. -/
theorem filterLines_identity_or_failure_of_empty_lines :
    let b : Buffer := { lines := [['a'], [], []], marks := [('m', 1), ('n', 2)] }
    let e : Editor Memory := { buffers := .ofBuffer b, world := {} }
    let s : LineSpan := ⟨1, 2⟩
    let h := Memory.host "/p".toList
    s.first ≤ s.last ∧ s.last < e.buffer.lineCount ∧
      ((filterLines h s "cat".toList).run.run e).1 = .ok 2 ∧
      ((filterLines h s "cat".toList).run.run e).2.buffer =
        { b with current := 1, modified := true } ∧
      ((filterLines h s "killed".toList).run.run e).2.buffer = b := by
  intro b e s h
  have hs : s.first ≤ s.last := by decide
  have hl : s.last < e.buffer.lineCount := by decide
  obtain ⟨hsame, -⟩ := filterLines_identity_or_failure h "cat".toList e hs hl
  obtain ⟨-, hfailed⟩ := filterLines_identity_or_failure h "killed".toList e hs hl
  have hcat := hsame _ _ rfl rfl rfl (by decide) (by decide)
  obtain ⟨detail, hkilled⟩ := hfailed _ _ rfl (by rintro r ⟨rfl⟩; decide)
  refine ⟨hs, hl, ?_, ?_, ?_⟩
  · rw [hcat]
    rfl
  · rw [hcat]
    rfl
  · rw [hkilled]
    rfl

end Ex
end ModalEditor
