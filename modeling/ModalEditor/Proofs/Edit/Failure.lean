import ModalEditor.Proofs.Edit.Evolution

/-!
# Edits that fail

An edit that fails leaves lines, marks and registers as they were (`Desk.KeepsText`), and the cursor on
its line (`Desk.Unmoved`). Most edits check everything before they change anything, so that nothing can
fail after the first change. A visit of lines carries its edit out many times, and there the argument is
another one: deleting a line or substituting on it can fail on the first line only. After that no
register is selected any more, and the pattern has been read. A visit moves the cursor, so that only the
text is kept.
-/

namespace ModalEditor

/-- `d'` has the lines, the marks and the registers of `d`. -/
structure Desk.KeepsText (d d' : Desk) : Prop where
  lines : d'.buffer.lines = d.buffer.lines
  marks : d'.buffer.marks = d.buffer.marks
  registers : d'.registers = d.registers

/-- `d'` has the text of `d`, and its cursor is on the same line. -/
structure Desk.Unmoved (d d' : Desk) : Prop extends d.KeepsText d' where
  current : d'.buffer.current = d.buffer.current

namespace Desk

instance : Std.Refl KeepsText := ⟨fun _ => ⟨rfl, rfl, rfl⟩⟩

instance : IsTrans Desk KeepsText :=
  ⟨fun _ _ _ h k => ⟨k.lines.trans h.lines, k.marks.trans h.marks,
    k.registers.trans h.registers⟩⟩

instance : Std.Refl Unmoved := ⟨fun d => ⟨refl d, rfl⟩⟩

instance : IsTrans Desk Unmoved :=
  ⟨fun _ _ _ h k => ⟨IsTrans.trans _ _ _ h.toKeepsText k.toKeepsText, k.current.trans h.current⟩⟩

theorem unselected_unmoved (d : Desk) : d.Unmoved d.unselected := ⟨⟨rfl, rfl, rfl⟩, rfl⟩

theorem lastSearch_unmoved (d : Desk) (lastSearch : Option Text) :
    d.Unmoved { d with buffer := { d.buffer with lastSearch } } := ⟨⟨rfl, rfl, rfl⟩, rfl⟩

end Desk

namespace Substitute

/-- Where nothing matches, nothing is replaced. -/
theorem replaceOn_none {r : Rule} {n i : Nat} {b : Buffer} (h0 : (replaceOn r n i b).2.1 = 0) :
    replaceOn r n i b = (b, 0, none) := by
  fun_induction replaceOn r n i b with
  | case1 => rfl
  | case2 => rfl
  | case3 i b n line hline hcount ih => exact ih h0
  | case4 n i b line hline hcount pieces last b' count changed hrest ih =>
    have hsum : r.count line + count = 0 := h0
    omega

theorem replace_none {r : Rule} {s : LineSpan} {b : Buffer} (h0 : (replace r s b).2 = 0) :
    replace r s b = (b, 0) := by
  unfold replace at h0 ⊢
  have hcount : (replaceOn r s.size s.first b).2.1 = 0 := by
    rcases hr : replaceOn r s.size s.first b with ⟨b', count, _ | n⟩ <;> rw [hr] at h0 <;> exact h0
  rw [replaceOn_none hcount]

theorem replaceOn_lastSearch (r : Rule) (n i : Nat) (b : Buffer) :
    (replaceOn r n i b).1.lastSearch = b.lastSearch := by
  fun_induction replaceOn r n i b with
  | case1 => rfl
  | case2 => rfl
  | case3 i b n line hline hcount ih => exact ih
  | case4 n i b line hline hcount pieces last b' count changed hrest ih =>
    rw [hrest] at ih
    exact ih

theorem replace_lastSearch (r : Rule) (s : LineSpan) (b : Buffer) :
    (replace r s b).1.lastSearch = b.lastSearch := by
  have hkept := replaceOn_lastSearch r s.size s.first b
  unfold replace
  rcases hr : replaceOn r s.size s.first b with ⟨b', count, _ | n⟩ <;> rw [hr] at hkept <;>
    exact hkept

end Substitute

namespace Edit

variable {d : Desk}

/-! ## Registers -/

theorem takeWritable_unmoved (named : Option Char) (d : Desk) :
    Leads Desk.Unmoved (takeWritable named) d := by
  unfold Leads
  rw [run_takeWritable]
  exact d.unselected_unmoved

theorem takeContent_unmoved (named : Option Char) (d : Desk) :
    Leads Desk.Unmoved (takeContent named) d := by
  unfold Leads
  rw [takeContent_state]
  exact d.unselected_unmoved

theorem deleteLines_failure (s : LineSpan) (register : Option Char) (d : Desk) :
    OnFailure Desk.Unmoved (deleteLines s register) d := by
  refine .bind_still (by rw [run_checkSpan]) fun _ _ => ?_
  exact (takeWritable_unmoved register d).onFailure.bind_succeeds fun _ _ _ => ⟨_, _, rfl⟩

theorem yankLines_failure (s : LineSpan) (register : Option Char) (d : Desk) :
    OnFailure Desk.Unmoved (yankLines s register) d := by
  refine .bind_still (by rw [run_checkSpan]) fun _ _ => ?_
  exact (takeWritable_unmoved register d).onFailure.bind_succeeds fun _ _ _ => ⟨_, _, rfl⟩

theorem putLines_failure (above : Bool) (register : Option Char) (count : Nat) (d : Desk) :
    OnFailure Desk.Unmoved (putLines above register count) d := by
  refine (takeContent_unmoved register d).bind_onFailure fun content t _ => ?_
  exact .bind_still (checkPut_state _ count t) fun _ _ => Succeeds.onFailure ⟨_, _, rfl⟩

/-! ## Patterns -/

/-- The pattern that a typed one stands for in a buffer. -/
def typedIn (b : Buffer) (pattern : Text) : Option Text :=
  if pattern.isEmpty then b.lastSearch else some pattern

/-- The typed pattern stands for one that can be read. -/
def Readable (pattern : Text) (ignoreCase : Bool) (b : Buffer) : Prop :=
  ∃ typed re, typedIn b pattern = some typed ∧ Search.compile typed ignoreCase = .ok re

theorem run_typedPattern (pattern : Text) (d : Desk) :
    (typedPattern pattern).run.run d =
      (match typedIn d.buffer pattern with
        | some typed => .ok typed
        | none => .error (.patternNotFound []), d) := by
  unfold typedPattern typedIn
  cases pattern with
  | cons c rest => rfl
  | nil =>
    simp only [List.isEmpty_nil, Bool.not_true, Bool.false_eq_true, if_false, if_true, run_bind,
      run_buffer]
    cases d.buffer.lastSearch <;> rfl

/-- A pattern that can be read is remembered; otherwise nothing happens. -/
theorem run_compile (pattern : Text) (ignoreCase : Bool) (d : Desk) :
    (∃ typed re, typedIn d.buffer pattern = some typed ∧
      Search.compile typed ignoreCase = .ok re ∧
      (compile pattern ignoreCase).run.run d =
        (.ok (typed, re), { d with buffer := { d.buffer with lastSearch := some typed } })) ∨
    (¬ Readable pattern ignoreCase d.buffer ∧
      ∃ err, (compile pattern ignoreCase).run.run d = (.error err, d)) := by
  unfold compile
  simp only [run_bind, run_typedPattern]
  cases htyped : typedIn d.buffer pattern with
  | none =>
    refine .inr ⟨?_, _, rfl⟩
    rintro ⟨typed, re, htyped', -⟩
    rw [htyped] at htyped'
    cases htyped'
  | some typed =>
    simp only [run_orFail]
    cases hre : Search.compile typed ignoreCase with
    | error err =>
      refine .inr ⟨?_, _, rfl⟩
      rintro ⟨typed', re, htyped', hre'⟩
      rw [htyped] at htyped'
      cases htyped'
      rw [hre] at hre'
      cases hre'
    | ok re => exact .inl ⟨typed, re, rfl, hre, rfl⟩

/-- A pattern that can be read is read. -/
theorem run_compile_of_ok {pattern typed : Text} {ignoreCase : Bool} {re : Pattern}
    (htyped : typedIn d.buffer pattern = some typed)
    (hre : Search.compile typed ignoreCase = .ok re) :
    (compile pattern ignoreCase).run.run d =
      (.ok (typed, re), { d with buffer := { d.buffer with lastSearch := some typed } }) := by
  rcases run_compile pattern ignoreCase d with ⟨typed', re', htyped', hre', hrun⟩ | ⟨hnot, -⟩
  · rw [htyped] at htyped'
    cases htyped'
    rw [hre] at hre'
    cases hre'
    exact hrun
  · exact absurd ⟨typed, re, htyped, hre⟩ hnot

theorem compile_unmoved (pattern : Text) (ignoreCase : Bool) (d : Desk) :
    Leads Desk.Unmoved (compile pattern ignoreCase) d := by
  unfold Leads
  rcases run_compile pattern ignoreCase d with ⟨typed, re, -, -, hrun⟩ | ⟨-, err, hrun⟩ <;>
    rw [hrun]
  · exact d.lastSearch_unmoved (some typed)
  · exact refl d

/-- A substitution that can be read does not fail on lines of the buffer. -/
theorem substitute_succeeds {s : LineSpan} {pattern replacement : Text} {flags : SubFlags}
    {o : Options} (hs : s.last < d.buffer.lines.length)
    (hr : Readable pattern (flags.ignoresCase o) d.buffer) :
    Succeeds (substitute s pattern replacement flags o) d := by
  have hcheck : (checkSpan s).run.run d = (.ok ⟨⟩, d) := by
    rw [run_checkSpan, if_neg (show ¬ d.buffer.lineCount ≤ s.last from Nat.not_le_of_gt hs)]
  refine .bind ⟨_, _, hcheck⟩ fun _ t ht => ?_
  rw [hcheck] at ht
  cases ht
  rcases run_compile pattern (flags.ignoresCase o) d with ⟨typed, re, -, -, hrun⟩ | ⟨hnot, -⟩
  · refine .bind ⟨_, _, hrun⟩ fun _ t _ => ?_
    refine .bind ⟨_, _, run_buffer t⟩ fun b t _ => ?_
    split
    · exact ⟨_, _, rfl⟩
    · exact ⟨_, _, rfl⟩
  · exact absurd hr hnot

theorem substitute_failure (s : LineSpan) (pattern replacement : Text) (flags : SubFlags)
    (o : Options) (d : Desk) :
    OnFailure Desk.Unmoved (substitute s pattern replacement flags o) d := by
  refine .bind_still (by rw [run_checkSpan]) fun _ _ => ?_
  refine (compile_unmoved pattern _ d).onFailure.bind_succeeds fun _ t _ => ?_
  refine .bind ⟨_, _, run_buffer t⟩ fun b t _ => ?_
  split
  · exact ⟨_, _, rfl⟩
  · exact ⟨_, _, rfl⟩

/-- What a substitution leaves if it succeeds: the pattern can be read from now on, and if nothing
was found, the text and the line of the cursor are those of before. -/
theorem substitute_ok {s : LineSpan} {pattern replacement : Text} {flags : SubFlags} {o : Options}
    {count : Nat} {t : Desk}
    (hrun : (substitute s pattern replacement flags o).run.run d = (.ok count, t)) :
    Readable pattern (flags.ignoresCase o) t.buffer ∧ (count = 0 → d.Unmoved t) := by
  obtain ⟨_, d₀, hcheck, hrun⟩ := run_bind_eq_ok hrun
  rw [run_checkSpan] at hcheck
  obtain rfl : d = d₀ := congrArg Prod.snd hcheck
  obtain ⟨⟨typed, re⟩, d₁, hcompile, hrun⟩ := run_bind_eq_ok hrun
  rcases run_compile pattern (flags.ignoresCase o) d with
    ⟨typed', re', htyped, hre, hok⟩ | ⟨-, err, herr⟩
  · rw [hok] at hcompile
    cases hcompile
    have hreadable : ∀ b : Buffer, b.lastSearch = some typed →
        Readable pattern (flags.ignoresCase o) b := by
      intro b hb
      refine ⟨typed, re, ?_, hre⟩
      unfold typedIn at htyped ⊢
      split
      · exact hb
      · rwa [if_neg (by assumption)] at htyped
    obtain ⟨b, d₂, hb, hrun⟩ := run_bind_eq_ok hrun
    cases hb
    dsimp only at hrun
    split at hrun
    · cases hrun
      exact ⟨hreadable _ rfl, fun _ => d.lastSearch_unmoved (some typed)⟩
    · cases hrun
      refine ⟨hreadable _ (Substitute.replace_lastSearch _ _ _), fun h0 => ?_⟩
      have hsame := Substitute.replace_none h0
      rw [hsame]
      exact d.lastSearch_unmoved (some typed)
  · rw [herr] at hcompile
    cases hcompile

/-! ## Visiting lines -/

/-- The edit fails, if at all, before it has changed anything. Once it has succeeded the desk is
`ready`, and the edit does not fail any more. -/
structure FailsFirst (ready : Desk → Prop) (each : Edit Unit) : Prop where
  failure : ∀ d : Desk, OnFailure Desk.KeepsText each d
  ok : ∀ {d t : Desk}, each.run.run d = (.ok (), t) → ready t
  goTo : ∀ {d : Desk} (n : Nat), ready d → ready { d with buffer := d.buffer.goTo n }
  succeeds : ∀ {d : Desk}, d.buffer.Fits → ready d → Succeeds each d

section Visit

variable {ready : Desk → Prop} {each : Edit Unit}

theorem visit_ready (hfirst : FailsFirst ready each)
    (heach : ∀ d : Desk, d.buffer.Fits → Leads Desk.Evolves each d) (targets : List Nat)
    {d : Desk} (hd : d.buffer.Fits) (hready : ready d) :
    ((visit each targets).run d).1.failure = none := by
  induction targets generalizing d with
  | nil => rfl
  | cons n rest ih =>
    rw [run_visit_cons]
    split
    · exact ih hd hready
    · have hgo : d.Evolves { d with buffer := d.buffer.goTo n } := goTo_evolves n d
      have hfits := hgo.buffer.fits hd
      obtain ⟨⟨⟩, t, hok⟩ := hfirst.succeeds hfits (hfirst.goTo n hready)
      have hevolves := heach _ hfits
      unfold Leads at hevolves
      rw [hok] at hevolves ⊢
      exact ih (hevolves.buffer.fits hfits) (hfirst.ok hok)

/-- A visit that ends in a failure has failed on the first of its lines. -/
theorem visit_failure (hfirst : FailsFirst ready each)
    (heach : ∀ d : Desk, d.buffer.Fits → Leads Desk.Evolves each d) (targets : List Nat)
    {d : Desk} (hd : d.buffer.Fits) (hfail : ((visit each targets).run d).1.failure ≠ none) :
    d.KeepsText ((visit each targets).run d).2 := by
  induction targets with
  | nil => exact absurd rfl hfail
  | cons n rest ih =>
    rw [run_visit_cons] at hfail ⊢
    split
    · rename_i hpast
      rw [if_pos hpast] at hfail
      exact ih hfail
    · rename_i hlt
      rw [if_neg hlt] at hfail
      have hgo : d.KeepsText { d with buffer := d.buffer.goTo n } := ⟨rfl, rfl, rfl⟩
      have hfits : (d.buffer.goTo n).Fits := (d.buffer.goTo_evolves n).fits hd
      rcases hr : each.run.run { d with buffer := d.buffer.goTo n } with ⟨err | ⟨⟩, t⟩ <;>
        rw [hr] at hfail
      · exact IsTrans.trans _ _ _ hgo (hfirst.failure _ err t hr)
      · have hevolves := heach { d with buffer := d.buffer.goTo n } hfits
        unfold Leads at hevolves
        rw [hr] at hevolves
        exact absurd (visit_ready hfirst heach rest (hevolves.buffer.fits hfits) (hfirst.ok hr))
          hfail

/-- The lines are picked before anything happens to them. -/
theorem run_visitMatching (isMatch : Text → Bool) (pattern : Text) (s : LineSpan) (inverse : Bool)
    (each : Edit Unit) (d : Desk) :
    let targets := (Search.matchingLines isMatch d.buffer inverse).filter s.contains
    let v := (visit each targets.reverse).run d
    (visitMatching isMatch pattern s inverse each).run.run d =
      if d.buffer.lineCount ≤ s.last then (.error (.lineOutOfRange (s.last + 1)), d)
      else if targets.isEmpty then (.error (.patternNotFound pattern), d)
      else (.ok v.1, { v.2 with buffer := v.2.buffer.goTo d.buffer.current }) := by
  intro targets v
  unfold visitMatching
  rw [run_bind, run_checkSpan]
  by_cases hs : d.buffer.lineCount ≤ s.last
  · simp only [if_pos hs]
  · simp only [if_neg hs, run_bind, run_buffer]
    by_cases hempty : targets.isEmpty = true
    · simp only [targets] at hempty
      simp only [if_pos hempty, targets]
      rfl
    · simp only [targets] at hempty
      simp only [if_neg hempty, targets]
      rfl

/-- Picking the lines changes nothing, so that only the visit can have changed the text. -/
theorem visitMatching_failure (hfirst : FailsFirst ready each)
    (heach : ∀ d : Desk, d.buffer.Fits → Leads Desk.Evolves each d) (isMatch : Text → Bool)
    (pattern : Text) (s : LineSpan) (inverse : Bool) (hd : d.buffer.Fits) :
    OnFailure Desk.KeepsText (visitMatching isMatch pattern s inverse each >>= settle) d := by
  intro err u hrun
  rw [run_bind, run_visitMatching] at hrun
  by_cases hs : d.buffer.lineCount ≤ s.last
  · rw [if_pos hs] at hrun
    cases hrun
    exact refl _
  rw [if_neg hs] at hrun
  by_cases hempty :
      ((Search.matchingLines isMatch d.buffer inverse).filter s.contains).isEmpty = true
  · rw [if_pos hempty] at hrun
    cases hrun
    exact refl _
  rw [if_neg hempty] at hrun
  generalize ((Search.matchingLines isMatch d.buffer inverse).filter s.contains).reverse =
    targets at hrun
  have hvisit := visit_failure hfirst heach targets hd
  dsimp only [settle] at hrun
  cases hfailure : ((visit each targets).run d).1.failure with
  | none =>
    rw [hfailure] at hrun
    cases hrun
  | some err' =>
    rw [hfailure] at hrun hvisit
    have hkept := hvisit (by simp)
    cases hrun
    exact ⟨hkept.lines, hkept.marks, hkept.registers⟩

theorem global_failure (hfirst : FailsFirst ready each)
    (heach : ∀ d : Desk, d.buffer.Fits → Leads Desk.Evolves each d) (s : LineSpan) (pattern : Text)
    (inverse : Bool) (o : Options) (hd : d.buffer.Fits) :
    OnFailure Desk.KeepsText (global s pattern inverse o each) d := by
  have hkept : Leads Desk.KeepsText (compile pattern o.ignoreCase) d :=
    (compile_unmoved pattern o.ignoreCase d).toKeepsText
  have hsame : global s pattern inverse o each = compile pattern o.ignoreCase >>= fun typed =>
      visitMatching typed.2.isMatch typed.1 s inverse each >>= settle := by
    simp only [global, visitTyped, bind_assoc]
  rw [hsame]
  refine hkept.bind_onFailure fun typed t hok => ?_
  have hfits : t.buffer.Fits := ((compile_evolves pattern o.ignoreCase d).of_run hok).buffer.fits hd
  exact visitMatching_failure hfirst heach _ _ s inverse hfits

end Visit

end Edit
end ModalEditor
