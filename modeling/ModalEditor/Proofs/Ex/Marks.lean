import ModalEditor.Host.Memory
import ModalEditor.Proofs.Edit.Marks
import ModalEditor.Proofs.Ex.Files

/-!
# Marks through all edits

A filter replaces the lines of a span by what a shell command prints, so it carries marks along as a
replacement of lines does. `marks_follow_lines` collects the operations on the lines of a buffer and
the edits that are made from them.
-/

namespace ModalEditor
namespace Ex

open EditorM

variable {σ : Type} {h : Host σ}

/-- The lines of a filter are replaced by as many as it prints. -/
theorem filterLines_moves (h : Host σ) {s : LineSpan} (hs : s.first ≤ s.last) (command : Text)
    {e : Editor σ} (he : e.HasCurrent) :
    Moves Editor.buffer (fun n => s.carry n) (s.contains · = true) (filterLines h s command) e := by
  refine .bind (by rw [run_checked]) (by rw [run_checked]) fun ⟨⟩ e₁ hcheck => ?_
  have hsame := run_checked s e
  rw [hcheck] at hsame
  obtain rfl : e = e₁ := (congrArg Prod.snd hsame).symm
  let stdin := Text.join ['\n'] (e.buffer.linesOf s) ++ ['\n']
  have hbuffers := shellLines_buffers (h := h) command stdin e
  have hbuffer : ((shellLines h command stdin).run.run e).2.buffer = e.buffer :=
    congrArg BufferTable.buffer hbuffers
  have hrest : Moves Editor.buffer (fun n => s.carry n) (s.contains · = true)
      (shellLines h command stdin >>= fun lines => do
        modifyBuffer fun b => (b.replaceLines s lines).goTo s.first
        return lines.length) e := by
    refine .bind (by rw [hbuffer]) (by rw [hbuffer]) fun lines e₁ hrun => ?_
    rw [hrun] at hbuffers hbuffer
    have he₁ : e₁.HasCurrent := by
      unfold Editor.HasCurrent
      rw [hbuffers]
      exact he
    have hl : s.last < e₁.buffer.lines.length := by
      rw [hbuffer]
      exact checked_last_lt hcheck
    refine .of_ok (a := lines.length) (by rw [run_bind, run_modifyBuffer]; rfl) ?_
    rw [Editor.buffer_setBuffer he₁]
    exact (e₁.buffer.replaceLines_carries hs hl lines).congr rfl rfl
  exact hrest

/-- Marks follow their lines through everything that changes which lines there are. A line that is
not edited is where its mark is, no two lines come to one place, and the marks that are gone are those of
lines that are taken out, or replaced by lines that do not reach them. -/
theorem marks_follow_lines (h : Host σ) :
    (∀ (s : LineSpan) (count n : Nat),
      (s.carry count n = none ↔ s.contains n = true ∧ count ≤ n - s.first) ∧
        ∀ k, s.contains n = true → s.carry count n = some k → k = n) ∧
    (∀ (b : Buffer) (s : LineSpan), s.first ≤ s.last → s.last < b.lines.length →
      b.Carries (s.carry 0) (s.contains · = true) (b.removeLines s) ∧
        ∀ new, b.Carries (s.carry new.length) (s.contains · = true) (b.replaceLines s new)) ∧
    (∀ (b : Buffer) (place : Nat) (new : List Text),
      b.Carries (carryBelow (min place b.lines.length) new.length) (fun _ => False)
        (b.insertLines place new)) ∧
    (∀ (b : Buffer) (n : Nat) (below : Bool),
      b.Carries (carryBelow (min (if below then n + 1 else n) b.lines.length) 1) (fun _ => False)
        (b.openLine n below).1) ∧
    (∀ (b : Buffer) (p : Position),
      b.Carries (carryBelow (min (p.line + 1) b.lines.length) 1) (· = p.line) (b.splitLine p)) ∧
    (∀ (b : Buffer) (n : Nat) (lines : List Text),
      b.Carries (carryBelow (min (n + 1) b.lines.length) lines.length) (fun _ => False)
        (b.appendLines n lines)) ∧
    (∀ (d : Desk) (s : LineSpan) (register : Option Char), s.first ≤ s.last →
      Moves Desk.buffer (fun _ => s.carry 0) (s.contains · = true)
          (Edit.deleteLines s register) d ∧
        Moves Desk.buffer (fun _ => s.carry 1) (s.contains · = true)
          (Edit.changeLines s register) d) ∧
    (∀ (d : Desk) (above : Bool) (register : Option Char) (count : Nat),
      Moves Desk.buffer
        (carryBelow (min (Edit.placeOfPut above d.buffer) d.buffer.lines.length))
        (fun _ => False) (Edit.putLines above register count) d) ∧
    (∀ (d : Desk) (col : Nat) (before : Bool) (register : Option Char) (count : Nat),
      d.buffer.current < d.buffer.lines.length →
      ∃ n, 0 < n ∧ Moves Desk.buffer (fun _ => (LineSpan.line d.buffer.current).carry n)
        (· = d.buffer.current) (Edit.putInline col before register count) d) ∧
    (∀ (e : Editor σ) (s : LineSpan) (command : Text), s.first ≤ s.last → e.HasCurrent →
      Moves Editor.buffer s.carry (s.contains · = true) (filterLines h s command) e) ∧
    ∀ (d : Desk) (s : LineSpan) (pattern replacement typed : Text) (flags : SubFlags) (o : Options)
      (re : Pattern), s.first ≤ s.last → s.last < d.buffer.lines.length →
      Edit.typedIn d.buffer pattern = some typed →
      Search.compile typed (flags.ignoresCase o) = .ok re →
      let r := Substitute.Rule.of re replacement flags
      Moves Desk.buffer
        (fun _ k => some (if flags.countOnly then k else r.place (d.buffer.linesOf s) s.first k))
        (fun k => flags.countOnly = false ∧ s.contains k = true ∧ r.count (d.buffer.line k) ≠ 0)
        (Edit.substitute s pattern replacement flags o) d :=
  ⟨fun _ _ _ => ⟨LineSpan.carry_eq_none, fun _ => LineSpan.eq_of_carry⟩,
    fun b _ hs hl => ⟨b.removeLines_carries hs hl, b.replaceLines_carries hs hl⟩,
    Buffer.insertLines_carries, Buffer.openLine_carries, Buffer.splitLine_carries,
    Buffer.appendLines_carries,
    fun d _ register hs =>
      ⟨Edit.deleteLines_moves hs register d, Edit.changeLines_moves hs register d⟩,
    fun d above register count => Edit.putLines_moves above register count d,
    fun _ col before register count hd => Edit.putInline_moves hd col before register count,
    fun _ _ command hs he => filterLines_moves h hs command he,
    fun _ _ _ _ _ _ _ _ hs hl htyped hre => Edit.substitute_moves hs hl htyped hre⟩

set_option maxRecDepth 4000 in
/-- Two of four lines are taken out, deleted, or piped through a command that prints one line; a line
is put into the first one; and the second one is broken in two. -/
theorem marks_follow_four_lines :
    let b : Buffer :=
      { lines := [['a'], ['b'], ['c'], ['d']], marks := [('a', 0), ('b', 1), ('c', 2), ('d', 3)] }
    let e : Editor Memory := { buffers := .ofBuffer b, world := {} }
    let d : Desk := ⟨b, RegisterFile.set {} none (.ofText ['x', '\n'])⟩
    let deleted := (Edit.deleteLines ⟨1, 2⟩ none).run.run d
    let put := (Edit.putInline 0 true none 1).run.run d
    let filtered := (filterLines (Memory.host []) ⟨1, 2⟩ "echo x".toList).run.run e
    let broken :=
      (Edit.substitute ⟨0, 3⟩ ['b'] ['x', '\\', 'r', 'y'] {} {}).run.run d
    (b.removeLines ⟨1, 2⟩).marks = [('a', 0), ('d', 1)] ∧
      deleted.2.buffer.marks = [('a', 0), ('d', 1)] ∧
      put.2.buffer.mark? 'a' = some 0 ∧
      filtered.2.buffer.marks = [('a', 0), ('b', 1), ('d', 2)] ∧
      filtered.2.buffer.lines[2]? = some ['d'] ∧
      broken.2.buffer.marks = [('a', 0), ('b', 1), ('c', 3), ('d', 4)] := by
  intro b e d deleted put filtered broken
  obtain ⟨-, htake, -, -, -, -, hdelete, -, hput, hfilter, hsubstitute⟩ :=
    marks_follow_lines (Memory.host [])
  have hdeleted := (hdelete d ⟨1, 2⟩ none (by decide)).1.carries
    (show deleted = (.ok 2, deleted.2) from rfl)
  have hfiltered := (hfilter e ⟨1, 2⟩ "echo x".toList (by decide) Nat.zero_lt_one).carries
    (show filtered = (.ok 1, filtered.2) from rfl)
  refine ⟨(htake b ⟨1, 2⟩ (by decide) (by decide)).1.marks, hdeleted.marks, ?_, hfiltered.marks,
    ?_, ?_⟩
  · obtain ⟨n, hn, hmoves⟩ := hput d 0 true none 1 (by decide)
    have hmarks := (hmoves.carries (show put = (.ok 0, put.2) from rfl)).marks
    change (put.2.buffer.marks).lookup 'a' = some 0
    rw [hmarks]
    simp [carryMarks, d, b, LineSpan.carry_line hn]
  · obtain ⟨k, hk, hline⟩ := hfiltered.lines 3 (by decide) (by decide)
    cases hk
    exact hline
  · have hextra : ((Search.compile ['b'] false).toOption.map fun re =>
        b.lines.map (Substitute.Rule.of re ['x', '\\', 'r', 'y'] {}).extra) =
        some [0, 1, 0, 0] := by cbv
    cases hre : Search.compile ['b'] false with
    | error err =>
      rw [hre] at hextra
      cases hextra
    | ok re =>
      rw [hre] at hextra
      have hmoves := hsubstitute d ⟨0, 3⟩ ['b'] ['x', '\\', 'r', 'y'] ['b'] {} {} re
        (by decide) (by decide) rfl hre
      have htyped : Edit.typedIn d.buffer ['b'] = some ['b'] := rfl
      have hcase : Search.compile ['b'] (SubFlags.ignoresCase {} {}) = .ok re := hre
      have hrun := Edit.run_substitute (d := d) (s := ⟨0, 3⟩) ['x', '\\', 'r', 'y'] (by decide)
        (by decide) htyped hcase
      have hmarks := (hmoves.carries hrun).marks
      rw [show broken = _ from hrun]
      refine hmarks.trans ?_
      have hspan : d.buffer.linesOf ⟨0, 3⟩ = [['a'], ['b'], ['c'], ['d']] := rfl
      simp only [b, List.map_cons, List.map_nil, Except.toOption, Option.map_some, Option.some.injEq,
        List.cons.injEq, and_true] at hextra
      simp [carryMarks, d, b, hspan, Substitute.Rule.place, hextra]

end Ex
end ModalEditor
