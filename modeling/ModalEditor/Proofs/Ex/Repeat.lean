import ModalEditor.Ex.Reading
import ModalEditor.Proofs.Ex.GlobalSubstitute
import ModalEditor.Proofs.Ex.LastSubstitution

/-!
# Substituting again

A substitution searches for what its typed pattern stands for in the buffer in which it is carried
out, and how it ends tells what that was (`Edit.searched_substitute`). What is remembered for `:&&`
is the pattern as it was typed, also when it was empty (`Ex.run_remembers`). So `:&&` looks up again
what it stands for, and does what the remembered substitution did only as long as that is the same
(`Ex.repeatsAs_iff`).
-/

namespace ModalEditor

/-- The pattern that an error says cannot be read. -/
def EditorError.unreadable? : EditorError → Option Text
  | .invalidPattern pattern _ => some pattern
  | _ => none

/-- The pattern that was searched for, read off the result of a substitution and the buffer that it
leaves. -/
def searched {α : Type} : Except EditorError α → Buffer → Option Text
  | .error err, b => err.unreadable?.or b.lastSearch
  | .ok _, b => b.lastSearch

namespace ExCommand

/-- The substitution of a plain command, as it was typed. -/
def substitution? : ExCommand → Option LastSubstitute
  | .substitute _ pattern replacement flags
  | .global _ _ _ (.substitute pattern replacement flags) => some { pattern, replacement, flags }
  | _ => none

/-- The pattern that the substitution of a plain command searches for in a buffer. In a global
command an empty one stands for the pattern that picks the lines. -/
def searchesFor? (b : Buffer) : ExCommand → Option Text
  | .substitute _ pattern _ _ => Edit.typedIn b pattern
  | .global _ picks _ (.substitute pattern _ _) => do
    let picked ← Edit.typedIn b picks
    Edit.typedIn { b with lastSearch := some picked } pattern
  | _ => none

/-- Of the buffer only what was searched for last matters. -/
theorem searchesFor?_congr {b b' : Buffer} (h : b'.lastSearch = b.lastSearch) (c : ExCommand) :
    c.searchesFor? b' = c.searchesFor? b := by
  have htyped : ∀ pattern, Edit.typedIn b' pattern = Edit.typedIn b pattern := fun pattern => by
    unfold Edit.typedIn
    rw [h]
  unfold searchesFor?
  split
  · exact htyped _
  · rw [htyped]
    rfl
  · rfl

end ExCommand

theorem Search.compile_error {pattern : Text} {ignoreCase : Bool} {err : EditorError}
    (h : Search.compile pattern ignoreCase = .error err) :
    ∃ fault, err = .invalidPattern pattern fault := by
  unfold Search.compile at h
  cases hre : Pattern.ofText (withWordEdges pattern) ignoreCase with
  | error fault =>
    rw [hre] at h
    cases h
    exact ⟨fault, rfl⟩
  | ok re =>
    rw [hre] at h
    cases h

namespace Edit

variable {d : Desk} {s : LineSpan} {p q replacement : Text} {flags : SubFlags} {o : Options}

/-- Only an empty pattern can stand for none. -/
theorem typedIn_eq_none {b : Buffer} : typedIn b p = none ↔ p = [] ∧ b.lastSearch = none := by
  unfold typedIn
  cases p with
  | nil => simp
  | cons c rest => simp

theorem typedIn_getD {b : Buffer} (h : typedIn b p = typedIn b q) :
    (typedIn b q).getD p = (typedIn b q).getD q := by
  cases hq : typedIn b q with
  | some typed => rfl
  | none => rw [(typedIn_eq_none.mp (h.trans hq)).1, (typedIn_eq_none.mp hq).1]

/-- A pattern that was searched for goes on standing for itself. -/
theorem typedIn_of_lastSearch {b b' : Buffer} (h : typedIn b p = some q)
    (hsearch : b'.lastSearch = some q) : typedIn b' p = some q := by
  unfold typedIn at h ⊢
  split
  · exact hsearch
  · rwa [if_neg (by assumption)] at h

theorem compile_congr (h : typedIn d.buffer p = typedIn d.buffer q) (ignoreCase : Bool) :
    (compile p ignoreCase).run.run d = (compile q ignoreCase).run.run d := by
  unfold compile
  rw [run_bind, run_bind, run_typedPattern, run_typedPattern, h]

/-- Patterns that stand for the same one make for the same substitution. -/
theorem substitute_congr (h : typedIn d.buffer p = typedIn d.buffer q) :
    (substitute s p replacement flags o).run.run d =
      (substitute s q replacement flags o).run.run d := by
  unfold substitute
  rw [run_bind, run_bind, run_checkSpan]
  by_cases hs : d.buffer.lineCount ≤ s.last
  · rw [if_pos hs]
  · rw [if_neg hs]
    dsimp only
    rw [run_bind, run_bind, compile_congr h]

theorem searched_compile (pattern : Text) (ignoreCase : Bool) (d : Desk) :
    let r := (compile pattern ignoreCase).run.run d
    searched r.1 r.2.buffer = typedIn d.buffer pattern := by
  unfold compile
  simp only [run_bind, run_typedPattern]
  cases htyped : typedIn d.buffer pattern with
  | none => exact (typedIn_eq_none.mp htyped).2
  | some typed =>
    simp only [run_orFail]
    cases hre : Search.compile typed ignoreCase with
    | error err =>
      obtain ⟨fault, rfl⟩ := Search.compile_error hre
      rfl
    | ok re => rfl

/-- A substitution on lines of the buffer searches for what its pattern stands for. -/
theorem searched_substitute (p replacement : Text) (flags : SubFlags) (o : Options)
    (hs : s.last < d.buffer.lines.length) :
    let r := (substitute s p replacement flags o).run.run d
    searched r.1 r.2.buffer = typedIn d.buffer p := by
  have hcompile := searched_compile p (flags.ignoresCase o) d
  unfold substitute
  rw [run_bind, run_checkSpan, if_neg (show ¬ d.buffer.lineCount ≤ s.last from Nat.not_le_of_gt hs)]
  dsimp only
  rw [run_bind]
  rcases hr : (compile p (flags.ignoresCase o)).run.run d with ⟨err | ⟨typed, re⟩, t⟩ <;>
    rw [hr] at hcompile
  · exact hcompile
  · dsimp only
    rw [run_bind, run_buffer]
    dsimp only
    split
    · exact hcompile
    · exact (Substitute.replace_lastSearch _ s t.buffer).trans hcompile

/-- A substitution that succeeds has searched for something. -/
theorem substitute_searched {count : Nat} {t : Desk} (hs : s.last < d.buffer.lines.length)
    (hrun : (substitute s p replacement flags o).run.run d = (.ok count, t)) :
    ∃ q, typedIn d.buffer p = some q ∧ t.buffer.lastSearch = some q := by
  have hsearched := searched_substitute p replacement flags o hs
  rw [hrun] at hsearched
  have hsearch : t.buffer.lastSearch = typedIn d.buffer p := hsearched
  obtain ⟨⟨typed, -, htyped, -⟩, -⟩ := substitute_ok hrun
  cases hp : typedIn d.buffer p with
  | some q => exact ⟨q, rfl, hsearch.trans hp⟩
  | none =>
    -- It would have left nothing to search for either, and could not have said what it replaced.
    rw [hp] at hsearch
    have hnone : typedIn t.buffer p = none :=
      typedIn_eq_none.mpr ⟨(typedIn_eq_none.mp hp).1, hsearch⟩
    rw [hnone] at htyped
    cases htyped

end Edit

namespace Ex

open EditorM Editor

variable {σ : Type} {h : Host σ} {e : Editor σ} {range : Range} {s : LineSpan}
  {p q replacement : Text} {flags : SubFlags} {col : Nat}

/-! ## Repeating -/

/-- What `:s` says once it has found `count` matches and left the buffer `b`. -/
def substituteReport (pattern : Text) (flags : SubFlags) (b : Buffer) (count : Nat) :
    Except EditorError ExOutcome :=
  if count = 0 then .error (.patternNotFound (b.lastSearch.getD pattern))
  else if flags.countOnly then .ok { col := b.home, message := some (countMessage count) }
  else .ok { col := b.home, message := lineReport count "substitutions" }

/-- `:s` on lines of the current buffer. It is remembered once its pattern could be read. -/
theorem run_substitute_on (he : e.HasCurrent)
    (hs : range.resolve e.buffer e.options e.buffer.currentSpan = .ok s) :
    (run h (.substitute range p replacement flags) col).run.run e =
      match (Edit.substitute s p replacement flags e.options).run.run ⟨e.buffer, e.registers⟩ with
      | (.error err, d) =>
        (.error err, { e.setBuffer d.buffer with registers := d.registers })
      | (.ok count, d) =>
        (substituteReport p flags d.buffer count,
          { e.setBuffer d.buffer with
            registers := d.registers
            lastSubstitute := some { pattern := p, replacement, flags } }) := by
  change (substitute range p replacement flags).run.run e = _
  unfold substitute substituteReport
  simp only [run_bind, run_spanOf, hs, run_get, run_onCurrent]
  rcases (Edit.substitute s p replacement flags e.options).run.run ⟨e.buffer, e.registers⟩ with
    ⟨err | count, d⟩
  · rfl
  · have hbuffer : ({ e.setBuffer d.buffer with
          registers := d.registers
          lastSubstitute := some { pattern := p, replacement, flags } } : Editor σ).buffer =
        d.buffer := Editor.buffer_setBuffer he d.buffer
    simp only [run_modify, run_buffer, hbuffer]
    split
    · rfl
    · split <;> rfl

theorem run_substitute_nowhere {err : EditorError}
    (hs : range.resolve e.buffer e.options e.buffer.currentSpan = .error err) :
    (run h (.substitute range p replacement flags) col).run.run e = (.error err, e) := by
  change (substitute range p replacement flags).run.run e = _
  unfold substitute
  rw [run_bind, run_spanOf, hs]

/-- `:s` on lines of the current buffer searches for what its pattern stands for there. -/
theorem searched_run_substitute (h : Host σ) (p replacement : Text) (flags : SubFlags) (col : Nat)
    (he : e.HasCurrent) (hf : e.buffer.Fits)
    (hs : range.resolve e.buffer e.options e.buffer.currentSpan = .ok s) :
    let r := (run h (.substitute range p replacement flags) col).run.run e
    searched r.1 r.2.buffer = Edit.typedIn e.buffer p := by
  have hl : s.last < e.buffer.lines.length := Range.resolve_last_lt hf hf.current_lt hs
  have hsearched := Edit.searched_substitute (d := ⟨e.buffer, e.registers⟩) p replacement flags
    e.options hl
  rw [run_substitute_on he hs]
  rcases hr : (Edit.substitute s p replacement flags e.options).run.run ⟨e.buffer, e.registers⟩ with
    ⟨err | count, d⟩ <;> rw [hr] at hsearched
  · change searched (.error err) (e.setBuffer d.buffer).buffer = _
    rw [Editor.buffer_setBuffer he]
    exact hsearched
  · change searched (substituteReport p flags d.buffer count) (e.setBuffer d.buffer).buffer = _
    rw [Editor.buffer_setBuffer he, substituteReport]
    split
    · exact hsearched
    · split <;> exact hsearched

/-- `:&&` on the range does what the substitution does and says the same. What is remembered stays
the last substitution as it was typed. -/
def RepeatsAs (h : Host σ) (e : Editor σ) (range : Range) (col : Nat) (l : LastSubstitute) : Prop :=
  let done := (run h (.substitute range l.pattern l.replacement l.flags) col).run.run e
  ∃ again, ExCommand.readCommand range ['&', '&'] = .ok again ∧
    (run h again col).run.run e = (done.1, { done.2 with lastSubstitute := e.lastSubstitute })

theorem run_repeat {l : LastSubstitute} (hlast : e.lastSubstitute = some l) :
    (run h (.repeatSubstitute range none) col).run.run e =
      (run h (.substitute range l.pattern l.replacement l.flags) col).run.run e := by
  simp only [run, run_bind, run_get, hlast]
  rfl

/-- The remembered substitution is repeated as the one for `q` if and only if its pattern stands for
what `q` stands for, or there are no lines to repeat it on. -/
theorem repeatsAs_iff (he : e.HasCurrent) (hf : e.buffer.Fits)
    (hlast : e.lastSubstitute = some { pattern := p, replacement, flags }) :
    RepeatsAs h e range col { pattern := q, replacement, flags } ↔
      (∀ s, range.resolve e.buffer e.options e.buffer.currentSpan ≠ .ok s) ∨
        Edit.typedIn e.buffer p = Edit.typedIn e.buffer q := by
  have hrepeat : RepeatsAs h e range col { pattern := q, replacement, flags } ↔
      (run h (.substitute range p replacement flags) col).run.run e =
        (((run h (.substitute range q replacement flags) col).run.run e).1,
          { ((run h (.substitute range q replacement flags) col).run.run e).2 with
            lastSubstitute := e.lastSubstitute }) := by
    rw [← run_repeat hlast]
    refine ⟨?_, fun hsame => ⟨_, rfl, hsame⟩⟩
    rintro ⟨again, ⟨⟩, hsame⟩
    exact hsame
  rw [hrepeat]
  cases hs : range.resolve e.buffer e.options e.buffer.currentSpan with
  | error err =>
    rw [run_substitute_nowhere hs, run_substitute_nowhere hs]
    simp
  | ok s =>
    constructor
    · -- How a substitution ends tells what it has searched for, so equal ends tell equal patterns.
      intro hsame
      have hp := searched_run_substitute h p replacement flags col he hf hs
      have hq := searched_run_substitute h q replacement flags col he hf hs
      rw [hsame] at hp
      exact .inr (hp.symm.trans hq)
    · rintro (hnowhere | htyped)
      · exact absurd rfl (hnowhere s)
      -- The edits are the same. Only the report names the pattern, and then the one searched for.
      have hl : s.last < e.buffer.lines.length := Range.resolve_last_lt hf hf.current_lt hs
      have hsearched := Edit.searched_substitute (d := ⟨e.buffer, e.registers⟩) q replacement flags
        e.options hl
      rw [run_substitute_on he hs, run_substitute_on he hs, Edit.substitute_congr (q := q) htyped]
      rcases hr : (Edit.substitute s q replacement flags e.options).run.run
        ⟨e.buffer, e.registers⟩ with ⟨err | count, d⟩ <;> rw [hr] at hsearched
      · rfl
      · have hsearch : d.buffer.lastSearch = Edit.typedIn e.buffer q := hsearched
        have hreport : substituteReport p flags d.buffer count =
            substituteReport q flags d.buffer count := by
          rw [substituteReport, substituteReport, hsearch, Edit.typedIn_getD htyped]
        rw [hlast]
        dsimp only
        rw [hreport]

/-! ## Remembering -/

section Visit

variable {o : Options} {d t : Desk} {n : Nat} {targets : List Nat}

/-- On a line of the buffer, the substitution of a global command searches for what its pattern
stands for. -/
theorem globalEdit_searched (hline : d.buffer.current < d.buffer.lines.length)
    (hrun : (globalEdit (.substitute p replacement flags) o).run.run d = (.ok (), t)) :
    ∃ q, Edit.typedIn d.buffer p = some q ∧ t.buffer.lastSearch = some q := by
  unfold globalEdit at hrun
  obtain ⟨b, d₀, hb, hrun⟩ := run_bind_eq_ok hrun
  cases hb
  obtain ⟨count, t₀, hsubstitute, hdone⟩ := run_bind_eq_ok hrun
  cases hdone
  exact Edit.substitute_searched (s := d.buffer.currentSpan) hline hsubstitute

/-- The first line of a visit that does not fail: what is searched for on it is known to those that
follow. -/
theorem visit_cons_searched {each : Edit Unit}
    (heach : each = globalEdit (.substitute p replacement flags) o) (hn : n < d.buffer.lineCount)
    (hok : ((Edit.visit each (n :: targets)).run d).1.failure = none) :
    ∃ q t, Edit.typedIn d.buffer p = some q ∧ t.buffer.lastSearch = some q ∧
      ((Edit.visit each targets).run t).1.failure = none ∧
      ((Edit.visit each (n :: targets)).run d).2 = ((Edit.visit each targets).run t).2 := by
  have hpast : ¬ d.buffer.lineCount ≤ n := Nat.not_le_of_gt hn
  have hline : (d.buffer.goTo n).current < (d.buffer.goTo n).lines.length := by
    have hpos : 0 < d.buffer.lines.length := Nat.zero_lt_of_lt hn
    exact Nat.lt_of_le_of_lt (Nat.min_le_right _ _) (Nat.sub_lt hpos Nat.zero_lt_one)
  rw [Edit.run_visit_cons, if_neg hpast] at hok ⊢
  rcases hr : each.run.run { d with buffer := d.buffer.goTo n } with ⟨err | ⟨⟩, t⟩ <;>
    rw [hr] at hok
  · cases hok
  · rw [heach] at hr
    obtain ⟨q, hq, ht⟩ := globalEdit_searched hline hr
    exact ⟨q, t, hq, ht, hok, rfl⟩

/-- What was searched for last goes on being searched for. -/
theorem visit_searched {each : Edit Unit}
    (heach : each = globalEdit (.substitute p replacement flags) o)
    (hq : ∀ b : Buffer, b.lastSearch = some q → Edit.typedIn b p = some q)
    (hd : d.buffer.lastSearch = some q) (hok : ((Edit.visit each targets).run d).1.failure = none) :
    ((Edit.visit each targets).run d).2.buffer.lastSearch = some q := by
  induction targets generalizing d with
  | nil => exact hd
  | cons n rest ih =>
    by_cases hpast : d.buffer.lineCount ≤ n
    · rw [Edit.run_visit_cons, if_pos hpast] at hok ⊢
      exact ih hd hok
    · obtain ⟨q', t, hq', ht, hrest, hsame⟩ :=
        visit_cons_searched heach (Nat.lt_of_not_le hpast) hok
      cases (hq _ hd).symm.trans hq'
      rw [hsame]
      exact ih ht hrest

/-- A global substitution that succeeds has been carried out on at least one line. -/
theorem global_searched {picks : Text} {inverse : Bool} (hl : s.last < d.buffer.lines.length)
    (hok : (Edit.global s picks inverse o
      (globalEdit (.substitute p replacement flags) o)).run.run d = (.ok n, t)) :
    ∃ q, ((Edit.typedIn d.buffer picks).bind fun picked =>
      Edit.typedIn { d.buffer with lastSearch := some picked } p) = some q ∧
        t.buffer.lastSearch = some q := by
  obtain ⟨picked, re, hpicked, hre⟩ : ∃ picked re, Edit.typedIn d.buffer picks = some picked ∧
      Search.compile picked o.ignoreCase = .ok re := by
    obtain ⟨_, _, hvisit, -⟩ := run_bind_eq_ok hok
    obtain ⟨_, _, hcompile, -⟩ := run_bind_eq_ok hvisit
    rcases Edit.run_compile picks o.ignoreCase d with ⟨picked, re, hpicked, hre, -⟩ | ⟨-, err, herr⟩
    · exact ⟨picked, re, hpicked, hre⟩
    · rw [herr] at hcompile
      cases hcompile
  rw [hpicked, Option.bind_some]
  rw [Edit.run_global_of_ok inverse _ hl hpicked hre] at hok
  set b : Buffer := { d.buffer with lastSearch := some picked }
  set targets := (Search.matchingLines re.isMatch b inverse).filter s.contains
  set each := globalEdit (.substitute p replacement flags) o with heach
  split at hok
  · cases hok
  rename_i hsome
  obtain ⟨m, rest, hrows⟩ : ∃ m rest, targets.reverse = m :: rest :=
    List.exists_cons_of_ne_nil (by simpa using hsome)
  have hm : m < b.lineCount := by
    have hmem : m ∈ targets := List.mem_reverse.mp (hrows ▸ List.mem_cons_self)
    have hbounds := Search.mem_matchingFrom (List.mem_filter.mp hmem).1
    rw [Nat.zero_add] at hbounds
    exact hbounds.2
  rw [hrows] at hok
  cases hfailure : ((Edit.visit each (m :: rest)).run { d with buffer := b }).1.failure with
  | some err =>
    rw [hfailure] at hok
    cases hok
  | none =>
    rw [hfailure] at hok
    cases hok
    obtain ⟨q, t, hq, ht, hrest, hsame⟩ :=
      visit_cons_searched (d := { d with buffer := b }) heach hm hfailure
    have hvisited := visit_searched heach (fun _ => Edit.typedIn_of_lastSearch hq) ht hrest
    rw [← hsame] at hvisited
    exact ⟨q, hq, hvisited⟩

end Visit

section Remembers

variable {c : ExCommand} {e' : Editor σ} {o : ExOutcome} {l : LastSubstitute}

theorem run_substitute_remembers (he : e.HasCurrent) (hf : e.buffer.Fits)
    (hok : (run h (.substitute range p replacement flags) col).run.run e = (.ok o, e')) :
    e'.lastSubstitute = some { pattern := p, replacement, flags } ∧
      ∃ q, Edit.typedIn e.buffer p = some q ∧ e'.buffer.lastSearch = some q := by
  cases hs : range.resolve e.buffer e.options e.buffer.currentSpan with
  | error err =>
    rw [run_substitute_nowhere hs] at hok
    cases hok
  | ok s =>
    have hl : s.last < e.buffer.lines.length := Range.resolve_last_lt hf hf.current_lt hs
    rw [run_substitute_on he hs] at hok
    rcases hr : (Edit.substitute s p replacement flags e.options).run.run
      ⟨e.buffer, e.registers⟩ with ⟨err | count, d⟩ <;> rw [hr] at hok
    · cases hok
    · have hstate := congrArg Prod.snd hok
      dsimp only at hstate
      obtain ⟨q, hq, hd⟩ := Edit.substitute_searched hl hr
      subst hstate
      exact ⟨rfl, q, hq, (congrArg Buffer.lastSearch (Editor.buffer_setBuffer he d.buffer)).trans hd⟩

theorem run_global_remembers {picks : Text} {inverse : Bool} (he : e.HasCurrent)
    (hf : e.buffer.Fits)
    (hok : (run h (.global range picks inverse (.substitute p replacement flags)) col).run.run e =
      (.ok o, e')) :
    e'.lastSubstitute = some { pattern := p, replacement, flags } ∧
      ∃ q, ((Edit.typedIn e.buffer picks).bind fun picked =>
        Edit.typedIn { e.buffer with lastSearch := some picked } p) = some q ∧
          e'.buffer.lastSearch = some q := by
  cases hs : range.resolve e.buffer e.options e.buffer.wholeSpan with
  | error err =>
    change (global range picks inverse _).run.run e = _ at hok
    rw [global, run_bind, run_resolveOr, hs] at hok
    cases hok
  | ok s =>
    have hwhole : e.buffer.wholeSpan.last < e.buffer.lines.length :=
      Nat.sub_lt hf.lines_pos Nat.zero_lt_one
    have hl : s.last < e.buffer.lines.length := Range.resolve_last_lt hf hwhole hs
    rw [run_global h picks inverse _ col he hs] at hok
    rcases hr : (Edit.global s picks inverse e.options (globalEdit
      (.substitute p replacement flags) e.options)).run.run ⟨e.buffer, e.registers⟩ with
      ⟨err | n, t⟩ <;> rw [hr] at hok
    · cases hok
    · cases hok
      obtain ⟨q, hq, ht⟩ := global_searched hl hr
      refine ⟨rfl, q, hq, ?_⟩
      have hremember : (remember (.substitute p replacement flags) e).HasCurrent := he
      exact (congrArg Buffer.lastSearch (Editor.buffer_setBuffer hremember t.buffer)).trans ht

/-- A substitution that succeeds is remembered as it was typed, and what was searched for last is
what its pattern stood for. -/
theorem run_remembers (he : e.HasCurrent) (hf : e.buffer.Fits)
    (hc : (c.base e.buffer).substitution? = some l) (hok : (run h c col).run.run e = (.ok o, e')) :
    e'.lastSubstitute = some l ∧
      ∃ q, (c.base e.buffer).searchesFor? e.buffer = some q ∧ e'.buffer.lastSearch = some q := by
  rw [run_eq_base h c col e he] at hok
  have hbuffer := Editor.buffer_setBuffer he (c.approach e.buffer)
  have hsearch : (e.setBuffer (c.approach e.buffer)).buffer.lastSearch = e.buffer.lastSearch := by
    obtain ⟨current, selected, happroach⟩ := c.approach_eq e.buffer
    rw [hbuffer, happroach]
  rw [← ExCommand.searchesFor?_congr hsearch]
  have hthere : (e.setBuffer (c.approach e.buffer)).buffer.Fits := by
    rw [hbuffer]
    exact (c.approach_evolves e.buffer).fits hf
  generalize c.base e.buffer = plain at hc hok ⊢
  unfold ExCommand.substitution? at hc
  split at hc
  · cases hc
    exact run_substitute_remembers (he.setBuffer _) hthere hok
  · cases hc
    exact run_global_remembers (he.setBuffer _) hthere hok
  · cases hc

end Remembers

end Ex
end ModalEditor
