import ModalEditor.Host.Memory
import ModalEditor.Proofs.Edit.Removal
import ModalEditor.Proofs.Ex.Global
import Mathlib

/-!
# Global deletes

`:g` with `d` is a filter: of the lines of its span it deletes those that match, or with `inverse`
those that do not (`Buffer.picked`), and it leaves all others (`Buffer.spared`). Since the lines are
picked before anything happens and are deleted from the bottom up, every one of them is still there
when its turn comes, and no failure can come up after the first delete. What the deletes leave is
then known from `Desk.deleteLine`.
-/

namespace ModalEditor

section Picked

variable (isMatch : Text → Bool) (s : LineSpan) (inverse : Bool) (b : Buffer)

/-- The lines of a span that match, or with `inverse` those that do not, and their numbers. -/
def Buffer.picked : List (Text × Nat) :=
  b.lines.zipIdx.filter fun l => s.contains l.2 && isMatch l.1 != inverse

/-- The lines that are outside of a span or do not match, or with `inverse` match, and their
numbers. -/
def Buffer.spared : List (Text × Nat) :=
  b.lines.zipIdx.filter fun l => !s.contains l.2 || isMatch l.1 == inverse

/-- The numbers of the lines that are picked. -/
def Buffer.pickedNumbers : List Nat := (b.picked isMatch s inverse).map Prod.snd

/-- `d'` is what is left of `d` when the lines that are picked are deleted. -/
structure Desk.Filtered (d d' : Desk) : Prop where
  /-- The others are left, in their order. -/
  lines : d'.buffer.lines = Buffer.orBlank ((d.buffer.spared isMatch s inverse).map Prod.fst)
  /-- The marks on the lines that are picked are gone, and the others move. -/
  marks : d'.buffer.marks = marksWithout (d.buffer.pickedNumbers isMatch s inverse) d.buffer.marks
  /-- A line that is left moves to the place that its marks move to. -/
  places : ∀ l ∈ d.buffer.spared isMatch s inverse,
    (d.buffer.spared isMatch s inverse)[
      numberWithout (d.buffer.pickedNumbers isMatch s inverse) l.2]? = some l
  /-- The registers from `1` on hold the lines that are picked, from the top. -/
  registers : ∀ k l, 1 ≤ k → k ≤ 9 → (d.buffer.picked isMatch s inverse)[k - 1]? = some l →
    d'.registers.get? (some (Nat.digitChar k)) = some (.ofLines [l.1])

/-- `r` is the end of an edit that deletes the lines that are picked from `d` and gives their
number. If there are none it fails and leaves the text as it is. -/
def Desk.DeletesPicked (pattern : Text) (d : Desk) (r : Except EditorError Nat × Desk) : Prop :=
  if d.buffer.picked isMatch s inverse = [] then
    r.1 = .error (.patternNotFound pattern) ∧ d.KeepsText r.2
  else
    r.1 = .ok (d.buffer.picked isMatch s inverse).length ∧ d.Filtered isMatch s inverse r.2

end Picked

/-- What was searched for last makes no difference. -/
theorem Desk.DeletesPicked.of_lastSearch {isMatch : Text → Bool} {s : LineSpan} {inverse : Bool}
    {pattern : Text} {d : Desk} {last : Option Text} {r : Except EditorError Nat × Desk}
    (h : Desk.DeletesPicked isMatch s inverse pattern
      { d with buffer := { d.buffer with lastSearch := last } } r) :
    d.DeletesPicked isMatch s inverse pattern r := by
  unfold DeletesPicked at h ⊢
  by_cases hpicked : d.buffer.picked isMatch s inverse = []
  · obtain ⟨hfailed, hkept⟩ := (if_pos hpicked).mp h
    rw [if_pos hpicked]
    exact ⟨hfailed, hkept.lines, hkept.marks, hkept.registers⟩
  · obtain ⟨hdone, hleft⟩ := (if_neg hpicked).mp h
    rw [if_neg hpicked]
    exact ⟨hdone, hleft.lines, hleft.marks, hleft.places, hleft.registers⟩

section Pick

variable {isMatch : Text → Bool} {s : LineSpan} {inverse : Bool} {b : Buffer}

theorem matchingFrom_eq (isMatch : Text → Bool) (inverse : Bool) (n : Nat) (lines : List Text) :
    Search.matchingFrom isMatch inverse n lines =
      ((lines.zipIdx n).filter fun l => isMatch l.1 != inverse).map Prod.snd := by
  induction lines generalizing n with
  | nil => rfl
  | cons line lines ih =>
    rw [Search.matchingFrom, ih, List.zipIdx_cons]
    cases hpick : isMatch line != inverse <;> simp [hpick]

/-- The lines that a visit picks. -/
theorem filter_matchingLines (isMatch : Text → Bool) (s : LineSpan) (inverse : Bool) (b : Buffer) :
    (Search.matchingLines isMatch b inverse).filter s.contains =
      b.pickedNumbers isMatch s inverse := by
  rw [Search.matchingLines, matchingFrom_eq, List.filter_map, List.filter_filter]
  rfl

/-- The lines are visited from the bottom up. -/
theorem reverse_pickedNumbers_pairwise :
    (b.pickedNumbers isMatch s inverse).reverse.Pairwise (· > ·) := by
  have hsub : (b.pickedNumbers isMatch s inverse).Sublist (b.lines.zipIdx.map Prod.snd) :=
    List.filter_sublist.map Prod.snd
  rw [List.zipIdx_map_snd] at hsub
  exact List.pairwise_reverse.mpr (List.Pairwise.sublist hsub List.pairwise_lt_range')

theorem reverse_pickedNumbers_lt :
    ∀ n ∈ (b.pickedNumbers isMatch s inverse).reverse, n < b.lineCount := by
  intro n hn
  obtain ⟨l, hl, rfl⟩ := List.mem_map.mp (List.mem_reverse.mp hn)
  exact List.snd_lt_of_mem_zipIdx (List.mem_filter.mp hl).1

/-- A line has its text from the buffer. -/
theorem line_of_mem_zipIdx {l : Text × Nat} (hl : l ∈ b.lines.zipIdx) : b.line l.2 = l.1 := by
  rw [Buffer.line, List.getD_eq_getElem?_getD, List.mem_zipIdx_iff_getElem?.mp hl, Option.getD_some]

theorem map_line_pickedNumbers :
    (b.pickedNumbers isMatch s inverse).map b.line =
      (b.picked isMatch s inverse).map Prod.fst := by
  rw [Buffer.pickedNumbers, List.map_map]
  exact List.map_congr_left fun l hl => line_of_mem_zipIdx (List.mem_filter.mp hl).1

/-- A line is either picked or spared. -/
theorem spared_eq_not_picked (l : Text × Nat) :
    (!s.contains l.2 || isMatch l.1 == inverse) =
      !(s.contains l.2 && isMatch l.1 != inverse) := by
  cases s.contains l.2 <;> cases isMatch l.1 <;> cases inverse <;> rfl

theorem not_mem_pickedNumbers {l : Text × Nat} (hl : l ∈ b.lines.zipIdx) :
    l.2 ∉ b.pickedNumbers isMatch s inverse ↔
      (!s.contains l.2 || isMatch l.1 == inverse) = true := by
  have hmem : l.2 ∈ b.pickedNumbers isMatch s inverse ↔
      (s.contains l.2 && isMatch l.1 != inverse) = true := by
    constructor
    · intro hn
      obtain ⟨l', hl', hsame⟩ := List.mem_map.mp hn
      obtain ⟨hl', hpick⟩ := List.mem_filter.mp hl'
      have hline := (line_of_mem_zipIdx hl').symm.trans (hsame ▸ line_of_mem_zipIdx hl)
      rwa [hsame, hline] at hpick
    · exact fun hpick => List.mem_map_of_mem (List.mem_filter.mpr ⟨hl, hpick⟩)
  rw [hmem, spared_eq_not_picked, Bool.not_eq_true', Bool.not_eq_true]

theorem linesWithout_pickedNumbers :
    linesWithout (b.pickedNumbers isMatch s inverse) b.lines =
      (b.spared isMatch s inverse).map Prod.fst := by
  unfold linesWithout Buffer.spared
  rw [List.filter_congr fun l hl => ?_]
  rw [Bool.eq_iff_iff, decide_eq_true_iff]
  exact not_mem_pickedNumbers hl

/-- A line that is spared moves up by the number of lines above it that are picked. -/
theorem getElem?_spared {l : Text × Nat} (hl : l ∈ b.spared isMatch s inverse) :
    (b.spared isMatch s inverse)[
      numberWithout (b.pickedNumbers isMatch s inverse) l.2]? = some l := by
  obtain ⟨hl, hspared⟩ := List.mem_filter.mp hl
  obtain ⟨hlt, hline⟩ := List.getElem?_eq_some_iff.mp (List.mem_zipIdx_iff_getElem?.mp hl)
  have hlen : (b.lines.take l.2).length = l.2 := List.length_take_of_le (Nat.le_of_lt hlt)
  have hsplit : b.lines = b.lines.take l.2 ++ l.1 :: b.lines.drop (l.2 + 1) := by
    simp [← hline]
  have hspared' : (s.contains l.2 && isMatch l.1 != inverse) = false := by
    rw [spared_eq_not_picked, Bool.not_eq_true'] at hspared
    exact hspared
  have hplace := getElem?_filter_zipIdx (b.lines.take l.2) l.1 (b.lines.drop (l.2 + 1))
    (p := fun l => s.contains l.2 && isMatch l.1 != inverse) (by
      rw [hlen]
      exact hspared')
  rw [hlen, ← hsplit] at hplace
  unfold Buffer.spared
  simp only [spared_eq_not_picked]
  exact hplace

end Pick

/-! ## The visit -/

section Visit

variable {isMatch : Text → Bool} {s : LineSpan} {inverse : Bool} {d : Desk} {n : Nat}
  {ns : List Nat}

theorem run_globalEdit_delete (o : Options) (hn : n < d.buffer.lineCount) (hd : d.SelectsWritable) :
    (Ex.globalEdit .delete o).run.run { d with buffer := d.buffer.goTo n } =
      (.ok (), d.deleteLine n) := by
  have hcurrent : (d.buffer.goTo n).currentSpan = .line n := by
    unfold Buffer.lineCount at hn
    rw [Buffer.currentSpan, Buffer.goTo, Buffer.lastLine, Nat.min_eq_left (by omega)]
  unfold Ex.globalEdit
  simp only [run_bind, Edit.run_buffer, hcurrent, Edit.run_deleteCurrent hn hd]
  rfl

/-- All lines of the visit are there when their turn comes, and all are deleted. -/
theorem visit_globalDelete (o : Options) (hdown : ns.Pairwise (· > ·))
    (hns : ∀ m ∈ ns, m < d.buffer.lineCount) (hd : d.SelectsWritable) :
    (Edit.visit (Ex.globalEdit .delete o) ns).run d =
      ({ lines := ns }, ns.foldl Desk.deleteLine d) := by
  induction ns generalizing d with
  | nil => rfl
  | cons n ns ih =>
    obtain ⟨hlt, hdown⟩ := List.pairwise_cons.mp hdown
    have hn := hns n List.mem_cons_self
    have hrest := ih hdown (fun m hm => d.lt_lineCount_deleteLine hn (hlt m hm))
      (d.selectsWritable_deleteLine n)
    rw [Edit.run_visit_cons, if_neg (Nat.not_le_of_gt hn), run_globalEdit_delete o hn hd]
    dsimp only
    rw [hrest]
    rfl

/-- What the deletes leave, whatever it is that picks the lines. -/
theorem foldl_deleteLine_filtered (hregisters : d.registers.Complete)
    (hd : d.buffer.lines ≠ []) (hpicked : d.buffer.picked isMatch s inverse ≠ []) :
    d.Filtered isMatch s inverse
      ((d.buffer.pickedNumbers isMatch s inverse).reverse.foldl Desk.deleteLine d) := by
  have hdown : (d.buffer.pickedNumbers isMatch s inverse).reverse.Pairwise (· > ·) :=
    reverse_pickedNumbers_pairwise
  have hne : (d.buffer.pickedNumbers isMatch s inverse).reverse ≠ [] := by
    simpa [Buffer.pickedNumbers] using hpicked
  refine ⟨?_, ?_, fun l hl => getElem?_spared hl, fun k l hk hk9 hl => ?_⟩
  · rw [Desk.lines_foldl_deleteLine hdown hd reverse_pickedNumbers_lt, linesWithout_reverse, linesWithout_pickedNumbers]
  · rw [Desk.marks_foldl_deleteLine hdown, marksWithout_reverse]
  · have hholds := Desk.holds_deleteLines hdown hne hregisters.nonempty
    rw [List.map_reverse, List.reverse_reverse, map_line_pickedNumbers] at hholds
    have hline := hholds.line (k - 1) (by omega) l.1 (by simp [hl])
    rw [Nat.sub_add_cancel hk] at hline
    rw [RegisterFile.get?_digit _ (by omega), List.getD_eq_getElem?_getD, hline, Option.getD_some]

/-- A visit of the lines that are picked deletes them all and gives their number. -/
theorem visitMatching_deletesPicked (isMatch : Text → Bool) (pattern : Text) (s : LineSpan)
    (inverse : Bool) (o : Options) (hs : s.last < d.buffer.lineCount)
    (hregisters : d.registers.Complete) (hd : d.SelectsWritable) :
    d.DeletesPicked isMatch s inverse pattern ((do
      Edit.settle (← Edit.visitMatching isMatch pattern s inverse
        (Ex.globalEdit .delete o))).run.run d) := by
  have hne : d.buffer.lines ≠ [] := List.ne_nil_of_length_pos (Nat.zero_lt_of_lt hs)
  have hdown : (d.buffer.pickedNumbers isMatch s inverse).reverse.Pairwise (· > ·) :=
    reverse_pickedNumbers_pairwise
  have hvisit := visit_globalDelete o hdown reverse_pickedNumbers_lt hd
  rw [run_bind, Edit.run_visitMatching, if_neg (Nat.not_le_of_gt hs)]
  simp only [filter_matchingLines, hvisit]
  unfold Desk.DeletesPicked
  by_cases hpicked : d.buffer.picked isMatch s inverse = []
  · have hnumbers : d.buffer.pickedNumbers isMatch s inverse = [] := by
      rw [Buffer.pickedNumbers, hpicked, List.map_nil]
    rw [if_pos hpicked, hnumbers]
    exact ⟨rfl, refl d⟩
  · have hnumbers : ¬ (d.buffer.pickedNumbers isMatch s inverse).isEmpty = true := by
      simpa [Buffer.pickedNumbers] using hpicked
    have hleft := foldl_deleteLine_filtered hregisters hne hpicked
    rw [if_neg hpicked, if_neg hnumbers]
    refine ⟨?_, hleft.lines, hleft.marks, hleft.places, hleft.registers⟩
    have hlen : (d.buffer.pickedNumbers isMatch s inverse).reverse.length =
        (d.buffer.picked isMatch s inverse).length := by
      rw [List.length_reverse, Buffer.pickedNumbers, List.length_map]
    exact congrArg Except.ok hlen

end Visit

/-! ## The command -/

namespace Ex

open EditorM

variable {σ : Type}

theorem global_deletesPicked {d : Desk} {s : LineSpan} {pattern typed : Text} {inverse : Bool}
    {o : Options} {re : Pattern} (hs : s.last < d.buffer.lineCount)
    (hregisters : d.registers.Complete) (hd : d.SelectsWritable)
    (htyped : Edit.typedIn d.buffer pattern = some typed)
    (hre : Search.compile typed o.ignoreCase = .ok re) :
    d.DeletesPicked re.isMatch s inverse typed
      ((Edit.global s pattern inverse o (globalEdit .delete o)).run.run d) := by
  have hcompile := Edit.run_compile_of_ok htyped hre
  have hvisit := visitMatching_deletesPicked
    (d := { d with buffer := { d.buffer with lastSearch := some typed } }) re.isMatch typed s
    inverse o hs hregisters hd
  rw [run_bind] at hvisit
  rw [Edit.global, run_bind, Edit.visitTyped, run_bind, hcompile]
  exact hvisit.of_lastSearch

/-- `:g` with `d` remembers nothing. -/
theorem run_globalDelete (h : Host σ) {e : Editor σ} {range : Range} {s : LineSpan}
    (pattern : Text) (inverse : Bool) (col : Nat) (he : e.HasCurrent)
    (hs : range.resolve e.buffer e.options e.buffer.wholeSpan = .ok s) :
    let r := (Edit.global s pattern inverse e.options
      (globalEdit .delete e.options)).run.run ⟨e.buffer, e.registers⟩
    (run h (.global range pattern inverse .delete) col).run.run e =
      (r.1.map fun _ =>
        { col := r.2.buffer.home
          message := lineReport (e.buffer.lineCount - r.2.buffer.lineCount) "fewer lines" },
        { e.setBuffer r.2.buffer with registers := r.2.registers }) :=
  run_global h pattern inverse .delete col he hs

/-- `:g` with `d` is a filter. Whatever it is that picks the lines, and in particular if it is a
pattern that was typed, all of them are deleted and the others stay, marks and registers follow, and
it is an error if there are none. -/
theorem globalDelete_filters (h : Host σ) :
    (∀ (isMatch : Text → Bool) (pattern : Text) (s : LineSpan) (inverse : Bool) (o : Options)
      (d : Desk), s.last < d.buffer.lineCount → d.registers.Complete → d.SelectsWritable →
      d.DeletesPicked isMatch s inverse pattern ((do
        Edit.settle (← Edit.visitMatching isMatch pattern s inverse
          (globalEdit .delete o))).run.run d)) ∧
    ∀ (e : Editor σ) (range : Range) (pattern : Text) (inverse : Bool) (col : Nat) (s : LineSpan)
      (typed : Text) (re : Pattern),
      e.HasCurrent → e.registers.Complete → (⟨e.buffer, e.registers⟩ : Desk).SelectsWritable →
      range.resolve e.buffer e.options e.buffer.wholeSpan = .ok s → s.last < e.buffer.lineCount →
      Edit.typedIn e.buffer pattern = some typed →
      Search.compile typed e.options.ignoreCase = .ok re →
      let r := (Edit.global s pattern inverse e.options
        (globalEdit .delete e.options)).run.run ⟨e.buffer, e.registers⟩
      Desk.DeletesPicked re.isMatch s inverse typed ⟨e.buffer, e.registers⟩ r ∧
        (run h (.global range pattern inverse .delete) col).run.run e =
          (r.1.map fun _ =>
            { col := r.2.buffer.home
              message := lineReport (e.buffer.lineCount - r.2.buffer.lineCount) "fewer lines" },
            { e.setBuffer r.2.buffer with registers := r.2.registers }) := by
  refine ⟨fun isMatch pattern s inverse o d hs hregisters hd =>
    visitMatching_deletesPicked isMatch pattern s inverse o hs hregisters hd, ?_⟩
  intro e range pattern inverse col s typed re he hregisters hd hs hlast htyped hre r
  refine ⟨?_, run_globalDelete h pattern inverse col he hs⟩
  exact global_deletesPicked hlast hregisters hd htyped hre

set_option maxRecDepth 4000 in
/-- `:2,$g/a/d` on five lines deletes two of them. The register selected before sees only the delete
of the last line. -/
theorem globalDelete_filters_of_five_lines :
    let b : Buffer :=
      { lines := [['a', 'b'], ['b'], ['a'], ['c'], ['c', 'a']]
        marks := [('a', 1), ('b', 2), ('c', 3)]
        selected := some '2' }
    let e : Editor Memory := { buffers := .ofBuffer b, world := {} }
    let r := (run (Memory.host []) (.global (.pair ⟨.number 2, 0⟩ .comma ⟨.last, 0⟩) ['a'] false
      .delete) 0).run.run e
    r.2.buffer.lines = [['a', 'b'], ['b'], ['c']] ∧ r.2.buffer.marks = [('a', 1), ('c', 2)] ∧
      r.2.registers.get? (some '1') = some (.ofLines [['a']]) ∧
      r.2.registers.get? (some '2') = some (.ofLines [['c', 'a']]) := by
  intro b e r
  -- Of the compiled pattern no more is needed than which of the five lines it matches.
  have hmatch : ((Search.compile ['a'] false).toOption.map fun re => b.lines.map re.isMatch) =
      some [true, false, true, false, true] := by cbv
  cases hre : Search.compile ['a'] false with
  | error err =>
    rw [hre] at hmatch
    cases hmatch
  | ok re =>
    rw [hre] at hmatch
    have hlines : b.lines.map re.isMatch = [true, false, true, false, true] :=
      Option.some.inj hmatch
    simp only [b, List.map_cons, List.map_nil, List.cons.injEq, and_true] at hlines
    obtain ⟨h₀, h₁, h₂, h₃, h₄⟩ := hlines
    have hpicked : b.picked re.isMatch ⟨1, 4⟩ false = [(['a'], 2), (['c', 'a'], 4)] := by
      simp [b, Buffer.picked, LineSpan.contains, h₀, h₁, h₂, h₃, h₄]
    have hspared : b.spared re.isMatch ⟨1, 4⟩ false =
        [(['a', 'b'], 0), (['b'], 1), (['c'], 3)] := by
      simp [b, Buffer.spared, LineSpan.contains, h₀, h₁, h₂, h₃, h₄]
    have hcurrent : e.HasCurrent := Nat.zero_lt_one
    have hwritable : (⟨e.buffer, e.registers⟩ : Desk).SelectsWritable := by
      intro name hname
      cases hname
      decide
    obtain ⟨hdone, hrun⟩ := (globalDelete_filters (Memory.host [])).2 e
      (.pair ⟨.number 2, 0⟩ .comma ⟨.last, 0⟩) ['a'] false 0 ⟨1, 4⟩ ['a'] re hcurrent
      RegisterFile.complete_new hwritable rfl (by decide) rfl hre
    have hbuffer := (congrArg (·.2.buffer) hrun).trans (Editor.buffer_setBuffer hcurrent _)
    have hregisters := congrArg (·.2.registers) hrun
    have hsome : b.picked re.isMatch ⟨1, 4⟩ false ≠ [] := by
      rw [hpicked]
      exact List.cons_ne_nil _ _
    obtain ⟨-, hleft⟩ := (if_neg hsome).mp hdone
    have hlines := hleft.lines
    have hmarks := hleft.marks
    have htexts := hleft.registers
    rw [show e.buffer = b from rfl, hspared] at hlines
    rw [Buffer.pickedNumbers, show e.buffer = b from rfl, hpicked] at hmarks
    rw [show e.buffer = b from rfl, hpicked] at htexts
    rw [show r.2.buffer = _ from hbuffer, show r.2.registers = _ from hregisters]
    exact ⟨hlines, hmarks, htexts 1 _ (by decide) (by decide) rfl,
      htexts 2 _ (by decide) (by decide) rfl⟩

end Ex
end ModalEditor
