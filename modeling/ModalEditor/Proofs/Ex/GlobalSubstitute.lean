import ModalEditor.Host.Memory
import ModalEditor.Proofs.Edit.Substitution
import ModalEditor.Proofs.Ex.Global

/-!
# Global substitutions

`:g` with a substitution for the pattern that it has just found does what `:s` does. The one goes
up the lines that match and substitutes on each of them alone; the other goes down all of them and
keeps count of the lines that have come in. Both put the pieces of the lines in their place
(`Substitute.Rule.Applied`), and that is all that becomes of lines, marks and the sign that the buffer
is modified.
-/

namespace ModalEditor

/-- The buffers have the same text: their lines, their marks and whether they are modified. -/
structure Buffer.SameText (b b' : Buffer) : Prop where
  lines : b'.lines = b.lines
  marks : b'.marks = b.marks
  modified : b'.modified = b.modified

namespace Search

/-- The lines that match in two rows, one below the other. -/
theorem matchingFrom_append (isMatch : Text → Bool) (inverse : Bool) (n : Nat)
    (above below : List Text) :
    matchingFrom isMatch inverse n (above ++ below) =
      matchingFrom isMatch inverse n above ++
        matchingFrom isMatch inverse (n + above.length) below := by
  induction above generalizing n with
  | nil => rfl
  | cons line above ih =>
    have hlen : n + (line :: above).length = n + 1 + above.length := by
      rw [List.length_cons]
      omega
    rw [List.cons_append, matchingFrom, matchingFrom, ih, hlen]
    split <;> rfl

theorem mem_matchingFrom {isMatch : Text → Bool} {inverse : Bool} {n k : Nat} {lines : List Text}
    (hk : k ∈ matchingFrom isMatch inverse n lines) : n ≤ k ∧ k < n + lines.length := by
  induction lines generalizing n with
  | nil => cases hk
  | cons line lines ih =>
    have hrest : k ∈ matchingFrom isMatch inverse (n + 1) lines →
        n ≤ k ∧ k < n + (line :: lines).length := by
      intro hmem
      have hbounds := ih hmem
      rw [List.length_cons]
      omega
    rw [matchingFrom] at hk
    split at hk
    · rcases List.mem_cons.mp hk with rfl | hmem
      · exact ⟨Nat.le_refl _, Nat.lt_add_of_pos_right (Nat.succ_pos _)⟩
      · exact hrest hmem
    · exact hrest hk

/-- Of the lines of the buffer that match, those of a span are the ones that match in it. -/
theorem filter_matchingLines_span (isMatch : Text → Bool) (inverse : Bool) (b : Buffer)
    {s : LineSpan} (hs : s.first ≤ s.last) (hl : s.last < b.lines.length) :
    (matchingLines isMatch b inverse).filter s.contains =
      matchingFrom isMatch inverse s.first (b.linesOf s) := by
  obtain ⟨hb, habove, hsize⟩ := b.lines_eq_span hs hl
  rw [matchingLines, hb, matchingFrom_append, matchingFrom_append, List.filter_append,
    List.filter_append, List.length_append, habove, hsize, Nat.zero_add, Nat.zero_add]
  have habove' : (matchingFrom isMatch inverse 0 (b.lines.take s.first)).filter s.contains = [] := by
    refine List.filter_eq_nil_iff.mpr fun k hk hin => ?_
    have hbounds := mem_matchingFrom hk
    have hfirst := (LineSpan.contains_iff_le.mp hin).1
    omega
  have hbelow : (matchingFrom isMatch inverse (s.first + s.size)
      (b.lines.drop (s.last + 1))).filter s.contains = [] := by
    refine List.filter_eq_nil_iff.mpr fun k hk hin => ?_
    have hbounds := mem_matchingFrom hk
    have hlast := (LineSpan.contains_iff_le.mp hin).2
    simp only [LineSpan.size] at hbounds
    omega
  have hspan : (matchingFrom isMatch inverse s.first (b.linesOf s)).filter s.contains =
      matchingFrom isMatch inverse s.first (b.linesOf s) := by
    refine List.filter_eq_self.mpr fun k hk => LineSpan.contains_iff_le.mpr ?_
    have hbounds := mem_matchingFrom hk
    simp only [hsize, LineSpan.size] at hbounds
    omega
  rw [habove', hbelow, hspan, List.nil_append, List.append_nil]

end Search

namespace Edit

/-- A visit of some lines and then of others. A failure on the first ones ends it. -/
theorem run_visit_append (each : Edit Unit) (ns ms : List Nat) (d : Desk) :
    (visit each (ns ++ ms)).run d =
      let v := (visit each ns).run d
      match v.1.failure with
      | some _ => v
      | none =>
        let w := (visit each ms).run v.2
        ({ w.1 with lines := v.1.lines ++ w.1.lines }, w.2) := by
  induction ns generalizing d with
  | nil => rfl
  | cons n ns ih =>
    rw [List.cons_append, run_visit_cons, run_visit_cons]
    by_cases hpast : d.buffer.lineCount ≤ n
    · rw [if_pos hpast, if_pos hpast]
      exact ih d
    · rw [if_neg hpast, if_neg hpast]
      rcases each.run.run { d with buffer := d.buffer.goTo n } with ⟨e | ⟨⟩, t⟩
      · rfl
      · dsimp only
        rw [ih]
        dsimp only
        split <;> rfl

section Visit

open Substitute

variable {each : Edit Unit} {r : Rule} {isMatch : Text → Bool} {search : Option Text}

/-- On a line that matches, where the cursor is, the edit puts the pieces of the line in its place,
as long as the pattern searched for last is `search`. -/
def AppliesOnMatch (each : Edit Unit) (r : Rule) (isMatch : Text → Bool) (search : Option Text) :
    Prop :=
  ∀ (t : Desk) (above : List Text) (line : Text) (below : List Text),
    t.buffer.lines = above ++ line :: below → t.buffer.current = above.length →
    t.buffer.lastSearch = search → isMatch line = true →
    ∃ t' : Desk, each.run.run t = (.ok (), t') ∧ r.Applied above [line] below t.buffer t'.buffer

/-- A visit of the lines that match, from the bottom up, replaces all of them. -/
theorem visit_applied (heach : AppliesOnMatch each r isMatch search)
    (hpass : ∀ line, isMatch line = false → r.count line = 0) {above middle below : List Text}
    {d : Desk} (hb : d.buffer.lines = above ++ middle ++ below)
    (hsearch : d.buffer.lastSearch = search) :
    let v := (visit each (Search.matchingFrom isMatch false above.length middle).reverse).run d
    v.1.failure = none ∧ r.Applied above middle below d.buffer v.2.buffer := by
  induction middle generalizing above with
  | nil => exact ⟨rfl, r.applied_nil (by simpa using hb)⟩
  | cons line middle ih =>
    have hb' : d.buffer.lines = above ++ [line] ++ middle ++ below := by
      rw [hb]
      simp only [List.append_assoc, List.cons_append, List.nil_append]
    obtain ⟨hok, happlied⟩ := ih hb'
    rw [List.length_append, List.length_singleton] at hok happlied
    rw [Search.matchingFrom]
    cases hmatch : isMatch line with
    | false => exact ⟨hok, happlied.pass (hpass line hmatch)⟩
    | true =>
      set v := (visit each (Search.matchingFrom isMatch false (above.length + 1) middle).reverse).run d
      have hlines : v.2.buffer.lines = above ++ line :: (middle.flatMap r.pieces ++ below) := by
        rw [happlied.lines]
        simp only [List.append_assoc, List.cons_append, List.nil_append]
      have hlt : above.length < v.2.buffer.lines.length := by
        rw [hlines, List.length_append, List.length_cons]
        omega
      have hsearch' : v.2.buffer.lastSearch = search := by
        rw [happlied.rest]
        exact hsearch
      have hcurrent : (v.2.buffer.goTo above.length).current = above.length :=
        Nat.min_eq_left (Nat.le_sub_one_of_lt hlt)
      obtain ⟨t, hrun, hline⟩ := heach { v.2 with buffer := v.2.buffer.goTo above.length } above line
        _ hlines hcurrent hsearch' hmatch
      have hvisit : (visit each [above.length]).run v.2 = ({ lines := [above.length] }, t) := by
        rw [run_visit_cons, if_neg (Nat.not_le_of_gt (show above.length < v.2.buffer.lineCount from hlt)),
          hrun]
        rfl
      have happend := run_visit_append each
        (Search.matchingFrom isMatch false (above.length + 1) middle).reverse [above.length] d
      dsimp only at happend
      rw [hok, hvisit] at happend
      simp only [Bool.true_bne, Bool.not_false, if_true, List.reverse_cons, happend]
      exact ⟨trivial, happlied.then_above hline.of_goTo⟩

end Visit

end Edit

namespace Substitute

/-- The rule that finds nothing. -/
def Rule.idle : Rule := { find := fun _ => [], replacement := fun _ _ => [], all := false }

theorem Rule.idle_count (line : Text) : Rule.idle.count line = 0 := rfl

/-- A rule has a match on the lines that its pattern matches. -/
theorem Rule.of_count (re : Pattern) (replacement : Text) (flags : SubFlags) (line : Text) :
    (Rule.of re replacement flags).count line = 0 ↔ re.isMatch line = false := by
  rw [← Bool.not_eq_true, Pattern.isMatch_iff, not_not, count, List.length_eq_zero_iff, hits]
  split
  · rfl
  · rw [List.take_eq_nil_iff]
    exact ⟨fun h => h.resolve_left Nat.one_ne_zero, .inr⟩

theorem Rule.total_eq_zero {r : Rule} {lines : List Text} :
    r.total lines = 0 ↔ ∀ line ∈ lines, r.count line = 0 := by
  induction lines with
  | nil => simp
  | cons line lines ih => rw [total_cons, Nat.add_eq_zero_iff, ih, List.forall_mem_cons]

end Substitute

namespace Ex

open EditorM Substitute

variable {σ : Type} {d : Desk} {s : LineSpan} {pattern replacement typed : Text} {flags : SubFlags}
  {o : Options} {re : Pattern}

/-- The rule of a substitution. One that only counts replaces nothing. -/
def ruleFor (re : Pattern) (replacement : Text) (flags : SubFlags) : Rule :=
  if flags.countOnly then .idle else .of re replacement flags

/-- The buffer after a substitution. -/
def replacedOn (re : Pattern) (replacement : Text) (flags : SubFlags) (s : LineSpan) (b : Buffer) :
    Buffer := if flags.countOnly then b else (replace (.of re replacement flags) s b).1

theorem replacedOn_applied (re : Pattern) (replacement : Text) (flags : SubFlags) (b : Buffer)
    (hs : s.first ≤ s.last) (hl : s.last < b.lines.length) :
    (ruleFor re replacement flags).Applied (b.lines.take s.first) (b.linesOf s)
      (b.lines.drop (s.last + 1)) b (replacedOn re replacement flags s b) := by
  unfold ruleFor replacedOn
  split
  · obtain ⟨happlied, htotal, -⟩ := replace_applied .idle b hs hl
    have hnone : (replace .idle s b).2 = 0 :=
      htotal.trans (Rule.total_eq_zero.mpr fun line _ => Rule.idle_count line)
    rwa [replace_none hnone] at happlied
  · exact (replace_applied _ b hs hl).1

theorem replacedOn_none {b : Buffer} (hs : s.first ≤ s.last) (hl : s.last < b.lines.length)
    (h0 : (Rule.of re replacement flags).total (b.linesOf s) = 0) :
    replacedOn re replacement flags s b = b := by
  unfold replacedOn
  split
  · rfl
  · rw [replace_none ((replace_applied _ b hs hl).2.1.trans h0)]

/-- What replacing makes of the text is fixed by the lines that it replaces. -/
theorem sameText_of_applied {r : Rule} {above middle below : List Text} {b b' b'' : Buffer}
    (h : r.Applied above middle below b b') (k : r.Applied above middle below b b'') :
    b'.SameText b'' :=
  ⟨k.lines.trans h.lines.symm, k.marks.trans h.marks.symm, k.modified.trans h.modified.symm⟩

/-- On a line the substitution of a global command puts its pieces in its place. -/
theorem globalEdit_applies (hre : Search.compile typed (flags.ignoresCase o) = .ok re) :
    Edit.AppliesOnMatch (globalEdit (.substitute [] replacement flags) o)
      (ruleFor re replacement flags) re.isMatch (some typed) := by
  intro t above line below hlines hcurrent hsearch _
  have hlt : t.buffer.current < t.buffer.lines.length := by
    rw [hlines, hcurrent, List.length_append, List.length_cons]
    omega
  have hsame : { t.buffer with lastSearch := some typed } = t.buffer := by rw [← hsearch]
  have htyped : Edit.typedIn t.buffer [] = some typed := hsearch
  have hrun := Edit.run_substitute (s := t.buffer.currentSpan) replacement (Nat.le_refl _) hlt htyped
    hre
  rw [hsame] at hrun
  refine ⟨{ t with buffer := replacedOn re replacement flags t.buffer.currentSpan t.buffer },
    ?_, ?_⟩
  · unfold globalEdit
    rw [run_bind, Edit.run_buffer]
    dsimp only
    rw [run_bind, hrun]
    rfl
  · have happlied := replacedOn_applied (s := t.buffer.currentSpan) re replacement flags t.buffer
      (Nat.le_refl _) hlt
    have hline : t.buffer.line t.buffer.current = line := by
      rw [Buffer.line, List.getD_eq_getElem?_getD, hlines, hcurrent,
        List.getElem?_append_right (Nat.le_refl _), Nat.sub_self]
      rfl
    have habove : t.buffer.lines.take t.buffer.current = above := by
      rw [hlines, hcurrent, List.take_left]
    have hbelow : t.buffer.lines.drop (t.buffer.current + 1) = below := by
      rw [hlines, hcurrent, ← List.drop_drop, List.drop_left]
      rfl
    change (ruleFor re replacement flags).Applied (t.buffer.lines.take t.buffer.current)
      (t.buffer.linesOf (.line t.buffer.current)) (t.buffer.lines.drop (t.buffer.current + 1)) _ _
      at happlied
    rwa [Buffer.linesOf_line hlt, hline, habove, hbelow] at happlied

theorem matchingFrom_eq_nil {isMatch : Text → Bool} {n : Nat} {lines : List Text} :
    Search.matchingFrom isMatch false n lines = [] ↔ ∀ line ∈ lines, isMatch line = false := by
  induction lines generalizing n with
  | nil => simp [Search.matchingFrom]
  | cons line lines ih =>
    rw [Search.matchingFrom, List.forall_mem_cons]
    cases isMatch line with
    | false => simpa using ih
    | true => simp

/-- A global substitution for the pattern that it has found fails if there is none on its lines, and
else replaces on all of them. -/
theorem run_global_substitute (replacement : Text) (hs : s.first ≤ s.last)
    (hl : s.last < d.buffer.lines.length) (htyped : Edit.typedIn d.buffer pattern = some typed)
    (hcase : flags.ignoresCase o = o.ignoreCase)
    (hre : Search.compile typed o.ignoreCase = .ok re) :
    let b := { d.buffer with lastSearch := some typed }
    let r := (Edit.global s pattern false o
      (globalEdit (.substitute [] replacement flags) o)).run.run d
    if (Rule.of re replacement flags).total (b.linesOf s) = 0 then
      r = (.error (.patternNotFound typed), { d with buffer := b })
    else
      (∃ n, r.1 = .ok n) ∧
        (ruleFor re replacement flags).Applied (b.lines.take s.first) (b.linesOf s)
          (b.lines.drop (s.last + 1)) b r.2.buffer := by
  intro b r
  let each := globalEdit (.substitute [] replacement flags) o
  let targets := Search.matchingFrom re.isMatch false s.first (b.linesOf s)
  have hpicked : (Search.matchingLines re.isMatch b false).filter s.contains = targets :=
    Search.filter_matchingLines_span re.isMatch false b hs hl
  have hnone : targets = [] ↔ (Rule.of re replacement flags).total (b.linesOf s) = 0 := by
    rw [matchingFrom_eq_nil, Rule.total_eq_zero]
    exact forall₂_congr fun line _ => (Rule.of_count re replacement flags line).symm
  have hpass : ∀ line, re.isMatch line = false → (ruleFor re replacement flags).count line = 0 := by
    intro line hline
    unfold ruleFor
    split
    · rfl
    · exact (Rule.of_count re replacement flags line).mpr hline
  obtain ⟨hb, habove, -⟩ := b.lines_eq_span hs hl
  have hvisit := Edit.visit_applied (globalEdit_applies (hcase ▸ hre)) hpass
    (d := { d with buffer := b }) hb rfl
  rw [habove] at hvisit
  obtain ⟨hok, happlied⟩ := hvisit
  have hr := Edit.run_global_of_ok false each hl htyped hre
  dsimp only at hr
  rw [hpicked, hok] at hr
  by_cases h0 : (Rule.of re replacement flags).total (b.linesOf s) = 0
  · rw [if_pos h0]
    rwa [if_pos (List.isEmpty_iff.mpr (hnone.mpr h0))] at hr
  · rw [if_neg h0]
    rw [if_neg fun hempty => h0 (hnone.mp (List.isEmpty_iff.mp hempty))] at hr
    rw [show r = _ from hr]
    exact ⟨⟨_, rfl⟩, happlied.goTo _⟩

theorem replacedOn_lastSearch (re : Pattern) (replacement : Text) (flags : SubFlags) (b : Buffer) :
    (replacedOn re replacement flags s b).lastSearch = b.lastSearch := by
  unfold replacedOn
  split
  · rfl
  · exact replace_lastSearch _ s b

/-- `:s` on lines of the current buffer. What it has replaced stays, and the substitution is
remembered, also if there was no match. -/
theorem run_substitute_command (h : Host σ) {e : Editor σ} {range : Range} (replacement : Text)
    (col : Nat) (he : e.HasCurrent) (hrange : range.resolve e.buffer e.options e.buffer.currentSpan = .ok s)
    (hs : s.first ≤ s.last) (hl : s.last < e.buffer.lines.length)
    (htyped : Edit.typedIn e.buffer pattern = some typed)
    (hre : Search.compile typed (flags.ignoresCase e.options) = .ok re) :
    let count := (Rule.of re replacement flags).total (e.buffer.linesOf s)
    let b := replacedOn re replacement flags s { e.buffer with lastSearch := some typed }
    (run h (.substitute range pattern replacement flags) col).run.run e =
      (if count = 0 then .error (.patternNotFound typed)
        else if flags.countOnly then .ok { col := b.home, message := some (countMessage count) }
        else .ok { col := b.home, message := lineReport count "substitutions" },
        { e.setBuffer b with lastSubstitute := some { pattern, replacement, flags } }) := by
  intro count b
  have hedit := Edit.run_substitute (d := ⟨e.buffer, e.registers⟩) replacement hs hl htyped hre
  have hbuffer : ({ e.setBuffer b with lastSubstitute := some { pattern, replacement, flags } } :
      Editor σ).buffer = b := Editor.buffer_setBuffer he b
  have hcurrent : (onCurrent (Edit.substitute s pattern replacement flags e.options)).run.run e =
      (.ok count, e.setBuffer b) := by
    rw [run_onCurrent, hedit]
    rfl
  have hsearch : b.lastSearch = some typed := replacedOn_lastSearch re replacement flags _
  change (substitute range pattern replacement flags).run.run e = _
  unfold substitute
  simp only [run_bind, run_spanOf, hrange, run_get, hcurrent, run_modify, run_buffer, hbuffer,
    hsearch]
  split
  · rfl
  · split <;> rfl

/-- What `:g` with a substitution for the pattern that it has found says, and the buffer that it
leaves. -/
theorem run_global_found (h : Host σ) {e : Editor σ} {range : Range} (replacement : Text) (col : Nat)
    (he : e.HasCurrent) (hrange : range.resolve e.buffer e.options e.buffer.wholeSpan = .ok s)
    (hs : s.first ≤ s.last) (hl : s.last < e.buffer.lines.length)
    (htyped : Edit.typedIn e.buffer pattern = some typed)
    (hcase : flags.ignoresCase e.options = e.options.ignoreCase)
    (hre : Search.compile typed e.options.ignoreCase = .ok re) :
    let b := { e.buffer with lastSearch := some typed }
    let r := (run h (.global range pattern false
      (.substitute [] replacement flags)) col).run.run e
    if (Rule.of re replacement flags).total (b.linesOf s) = 0 then
      r.1 = .error (.patternNotFound typed) ∧ r.2.buffer = b
    else
      (∃ outcome, r.1 = .ok outcome) ∧
        (ruleFor re replacement flags).Applied (b.lines.take s.first) (b.linesOf s)
          (b.lines.drop (s.last + 1)) b r.2.buffer := by
  intro b r
  have hvisit := run_global_substitute (d := ⟨e.buffer, e.registers⟩) replacement hs hl htyped hcase
    hre
  have hrun := run_global h pattern false (.substitute [] replacement flags) col he hrange
  dsimp only at hvisit hrun
  set edit := (Edit.global s pattern false e.options
    (globalEdit (.substitute [] replacement flags) e.options)).run.run ⟨e.buffer, e.registers⟩
  have hbuffer : r.2.buffer = edit.2.buffer := by
    rw [show r = _ from hrun]
    exact Editor.buffer_setBuffer he _
  rw [hbuffer, show r = _ from hrun]
  by_cases h0 : (Rule.of re replacement flags).total (b.linesOf s) = 0
  · rw [if_pos h0] at hvisit ⊢
    rw [hvisit]
    exact ⟨rfl, rfl⟩
  · rw [if_neg h0] at hvisit ⊢
    obtain ⟨⟨n, hn⟩, happlied⟩ := hvisit
    rw [hn]
    exact ⟨⟨_, rfl⟩, happlied⟩

/-- A range that was typed does not depend on what none would stand for. -/
theorem resolve_explicit {range : Range} (h : range.isImplicit = false) (b : Buffer) (o : Options)
    (fallback fallback' : LineSpan) :
    range.resolve b o fallback = range.resolve b o fallback' := by
  cases range with
  | implicit => cases h
  | whole => rfl
  | single a => rfl
  | pair first sep second => rfl

/-- `:g/p/s//r/` does what `:s/p/r/` does, flag by flag, as long as the flags leave it to the options
whether case matters. Either nothing on the lines of the range matches, and both of them say so and
leave the text as it is, or both succeed and leave the same text. -/
theorem global_substitute_agrees (h : Host σ) {e : Editor σ} {range : Range} (he : e.HasCurrent)
    (hfits : e.buffer.Fits) (hexplicit : range.isImplicit = false)
    (hrange : range.resolve e.buffer e.options e.buffer.currentSpan = .ok s)
    (hpattern : pattern ≠ []) (hre : Search.compile pattern e.options.ignoreCase = .ok re)
    (hi : flags.ignoreCase = false) (hI : flags.matchCase = false) (col : Nat) :
    let byGlobal := (run h (.global range pattern false
      (.substitute [] replacement flags)) col).run.run e
    let byRange := (run h (.substitute range pattern replacement flags) col).run.run e
    ((∀ line ∈ e.buffer.linesOf s, re.isMatch line = false) →
      byGlobal.1 = .error (.patternNotFound pattern) ∧
        byRange.1 = .error (.patternNotFound pattern) ∧
        e.buffer.SameText byGlobal.2.buffer ∧ e.buffer.SameText byRange.2.buffer) ∧
    ((∃ line ∈ e.buffer.linesOf s, re.isMatch line = true) →
      (∃ outcome, byGlobal.1 = .ok outcome) ∧ (∃ outcome, byRange.1 = .ok outcome) ∧
        byRange.2.buffer.SameText byGlobal.2.buffer) := by
  intro byGlobal byRange
  have hs : s.first ≤ s.last := Range.resolve_ordered (Nat.le_refl _) hrange
  have hl : s.last < e.buffer.lines.length :=
    Range.resolve_last_lt hfits hfits.current_lt hrange
  have hcase : flags.ignoresCase e.options = e.options.ignoreCase := by
    rw [SubFlags.ignoresCase, hi, hI]
    rfl
  have htyped : Edit.typedIn e.buffer pattern = some pattern := by
    rw [Edit.typedIn, if_neg (by simpa using hpattern)]
  have hrange' : range.resolve e.buffer e.options e.buffer.wholeSpan = .ok s := by
    rw [← hrange]
    exact resolve_explicit hexplicit _ _ _ _
  have hglobal := run_global_found h replacement col he hrange' hs hl htyped hcase hre
  have hr := run_substitute_command h replacement col he hrange hs hl htyped (hcase ▸ hre)
  dsimp only at hglobal hr
  set b : Buffer := { e.buffer with lastSearch := some pattern }
  have hrbuffer : byRange.2.buffer = replacedOn re replacement flags s b := by
    rw [show byRange = _ from hr]
    exact Editor.buffer_setBuffer he _
  have hcount := (Rule.of_count re replacement flags ·)
  refine ⟨fun hnone => ?_, fun ⟨line, hline, hmatch⟩ => ?_⟩
  · have h0 : (Rule.of re replacement flags).total (e.buffer.linesOf s) = 0 :=
      Rule.total_eq_zero.mpr fun line hline => (hcount line).mpr (hnone line hline)
    rw [if_pos (show (Rule.of re replacement flags).total (b.linesOf s) = 0 from h0)] at hglobal
    obtain ⟨houtcome, hgbuffer⟩ := hglobal
    rw [show byGlobal.2.buffer = b from hgbuffer, hrbuffer, replacedOn_none (b := b) hs hl h0]
    refine ⟨houtcome, ?_, ⟨rfl, rfl, rfl⟩, ⟨rfl, rfl, rfl⟩⟩
    rw [show byRange = _ from hr, if_pos h0]
  · have h0 : ¬ (Rule.of re replacement flags).total (e.buffer.linesOf s) = 0 := by
      intro h0
      have hnot := (hcount line).mp (Rule.total_eq_zero.mp h0 line hline)
      rw [hmatch] at hnot
      cases hnot
    rw [if_neg (show ¬ (Rule.of re replacement flags).total (b.linesOf s) = 0 from h0)] at hglobal
    obtain ⟨houtcome, happlied⟩ := hglobal
    rw [hrbuffer]
    refine ⟨houtcome, ?_,
      sameText_of_applied (replacedOn_applied re replacement flags b hs hl) happlied⟩
    rw [show byRange = _ from hr, if_neg h0]
    split
    · exact ⟨_, rfl⟩
    · exact ⟨_, rfl⟩

set_option maxRecDepth 4000 in
/-- `:1,$g/a/s//x\ry/g` and `:1,$s/a/x\ry/g` on three lines, two of which they break. With another
pattern neither of them finds anything. -/
theorem global_substitute_agrees_on_three_lines :
    let b : Buffer := { lines := [['a', '-', 'a'], ['b'], ['a']], marks := [('a', 1), ('b', 2)] }
    let e : Editor Memory := { buffers := .ofBuffer b, world := {} }
    let range : Range := .pair ⟨.number 1, 0⟩ .comma ⟨.last, 0⟩
    let byGlobal pattern := (run (Memory.host []) (.global range pattern false
      (.substitute [] ['x', '\\', 'r', 'y'] { all := true })) 0).run.run e
    let byRange pattern := (run (Memory.host []) (.substitute range pattern
      ['x', '\\', 'r', 'y'] { all := true }) 0).run.run e
    (byRange ['a']).2.buffer.SameText (byGlobal ['a']).2.buffer ∧
      (byGlobal ['z']).1 = .error (.patternNotFound ['z']) ∧
      (byRange ['z']).1 = .error (.patternNotFound ['z']) := by
  intro b e range byGlobal byRange
  have hcurrent : e.HasCurrent := Nat.zero_lt_one
  have hfits : e.buffer.Fits := ⟨by decide, by decide, by unfold Buffer.MarksValid; decide⟩
  have hspan : e.buffer.linesOf ⟨0, 2⟩ = b.lines := rfl
  refine ⟨?_, ?_⟩
  · have hmatch : ((Search.compile ['a'] false).toOption.map fun re => re.isMatch ['a']) =
        some true := by cbv
    cases hre : Search.compile ['a'] false with
    | error err =>
      rw [hre] at hmatch
      cases hmatch
    | ok re =>
      rw [hre] at hmatch
      exact ((global_substitute_agrees (Memory.host []) hcurrent hfits rfl
        (show range.resolve e.buffer e.options e.buffer.currentSpan = .ok ⟨0, 2⟩ from rfl)
        (List.cons_ne_nil _ _) hre rfl rfl 0).2
        ⟨['a'], by decide, Option.some.inj hmatch⟩).2.2
  · have hmatches : ((Search.compile ['z'] false).toOption.map fun re => b.lines.all (!re.isMatch ·)) =
        some true := by cbv
    cases hre : Search.compile ['z'] false with
    | error err =>
      rw [hre] at hmatches
      cases hmatches
    | ok re =>
      rw [hre] at hmatches
      have hnone : ∀ line ∈ e.buffer.linesOf ⟨0, 2⟩, re.isMatch line = false := by
        simpa [hspan] using Option.some.inj hmatches
      have hrange : range.resolve e.buffer e.options e.buffer.currentSpan = .ok ⟨0, 2⟩ := rfl
      have hboth := (@global_substitute_agrees Memory ⟨0, 2⟩ ['z'] ['x', '\\', 'r', 'y']
        { all := true } re (Memory.host []) e range hcurrent hfits rfl hrange
        (List.cons_ne_nil _ _) hre rfl rfl 0).1 hnone
      exact ⟨hboth.1, hboth.2.1⟩

end Ex
end ModalEditor
