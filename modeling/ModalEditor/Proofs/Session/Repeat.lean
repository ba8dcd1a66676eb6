import ModalEditor.Host.Memory
import ModalEditor.Proofs.Ex.Delimited
import ModalEditor.Proofs.Ex.Repeat
import ModalEditor.Proofs.Session.CommandLine
import ModalEditor.Proofs.Session.Settings

/-!
# The last substitution in a session

A session remembers the last substitution that has succeeded until the next command that
substitutes, whatever keys come in between (`Session.after_sameLast`). What is remembered is the
pattern as it was typed. If it was empty, `:&&` searches for what was searched for last by then, in
the buffer that is current by then; so it repeats the substitution if and only if that has not
become something else (`Session.repeat_is_last_substitution_iff`).
-/

namespace ModalEditor.Session

open Editor

variable {σ : Type} {h : Host σ} {s : Session σ} {key : Key} {c : ExCommand} {line : Text}

/-! ## Keys that substitute nothing -/

/-- The key carries out a command that comes down to a substitution. -/
def Substitutes (s : Session σ) (key : Key) : Prop :=
  ∃ c, s.entered? key = some c ∧ (c.base s.buffer).substitutes = true

theorem press_sameLast (he : s.editor.HasCurrent) (hnot : ¬ s.Substitutes key) :
    s.editor.SameLast (s.press h key).1.editor := by
  cases hc : s.entered? key with
  | none => exact (press_sameSettings hc).lastSubstitute
  | some c =>
    rw [press_entered hc]
    refine Ex.run_unsubstituted h he ?_ s.col
    exact Bool.eq_false_iff.mpr fun hsub => hnot ⟨c, hc, hsub⟩

/-- Until the next substitution the last one is remembered. -/
theorem after_sameLast (he : s.editor.HasCurrent) {keys : List Key}
    (hnot : ∀ pre key, pre ++ [key] <+: keys → ¬ (s.after h pre).Substitutes key) :
    s.editor.SameLast (s.after h keys).editor := by
  induction keys generalizing s with
  | nil => exact refl s.editor
  | cons key rest ih =>
    have hfirst : s.editor.SameLast (s.press h key).1.editor :=
      press_sameLast he (hnot [] key (List.prefix_append [key] rest))
    have hrest : (s.press h key).1.editor.SameLast ((s.press h key).1.after h rest).editor :=
      ih ((press_touches s key).current_lt he) fun pre next hpre =>
        hnot (key :: pre) next (List.prefix_cons_inj key |>.mpr hpre)
    exact IsTrans.trans _ _ _ hfirst hrest

/-- A typed command line that does not come down to a substitution has no key that substitutes. -/
theorem lineKeys_unsubstituted (hmode : s.mode = .normal) (hp : s.pending = [])
    (hread : ExCommand.readLine line = .ok c) (hc : (c.base s.buffer).substitutes = false)
    (pre : List Key) (key : Key) (hpre : pre ++ [key] <+: lineKeys line) :
    ¬ (s.after h pre).Substitutes key := by
  rintro ⟨d, hd, hsub⟩
  obtain ⟨-, rfl, -, -⟩ := entered?_eq_some hd
  -- The only Enter is the last key.
  have hall : pre = typedKeys line := by
    rcases List.prefix_concat_iff.mp hpre with hsame | hbefore
    · exact List.append_cancel_right hsame
    · have hmem : Key.enter ∈ typedKeys line := hbefore.subset (by simp)
      simp [typedKeys] at hmem
  subst hall
  rw [after_typedKeys hmode hp] at hd hsub
  cases hread.symm.trans (entered?_eq_some hd).2.2.2
  exact absurd hsub (Bool.eq_false_iff.mp hc)

/-! ## A session on one line -/

theorem after_nil (h : Host σ) (s : Session σ) : s.after h [] = s := rfl

/-- A session in normal mode with no keys pending. -/
structure RestsAt (s : Session σ) (e : Editor σ) : Prop where
  editor : s.editor = e
  mode : s.mode = .normal
  pending : s.pending = []

/-- One command line after the other. -/
theorem RestsAt.after_line {e e' : Editor σ} (hs : s.RestsAt e)
    (hread : ExCommand.readLine line = .ok c) (hblank : Text.isBlankOnly line = false)
    (hrun : ∀ col, ((Ex.run h c col).run.run e).2 = e') :
    (s.after h (lineKeys line)).RestsAt e' := by
  obtain ⟨heditor, hmode, hpending⟩ := after_lineKeys (h := h) hs.mode hs.pending hread hblank
  refine ⟨?_, hmode, hpending⟩
  rw [heditor, hs.editor]
  exact hrun s.col

/-- The editor on the file `f` of the project `/p`. -/
def lineEditor (line : Text) (lastSearch : Option Text) (lastSubstitute : Option LastSubstitute) :
    Editor Memory :=
  { buffers := .ofBuffer
      { path := some "/p/f".toList, lines := [line], modified := lastSearch.isSome, lastSearch }
    lastSubstitute
    world := { files := [("/p/f".toList, "aaab\n".toList)] } }

theorem readLine_letters :
    ExCommand.readLine "s/a/Y/".toList = .ok (.substitute .implicit ['a'] ['Y'] {}) ∧
      ExCommand.readLine "s//Y/".toList = .ok (.substitute .implicit [] ['Y'] {}) ∧
      ExCommand.readLine "g/b/norm 0".toList =
        .ok (.global .implicit ['b'] false (.normal ['0'])) := by
  have hdelim : ExCommand.isDelimiter '/' = true := by
    have hother : ¬ isAlphanumeric '/' = true := by
      rw [isAlphanumeric_iff_of_ascii (by decide)]
      decide
    exact ExCommand.isDelimiter_iff.mpr ⟨Bool.eq_false_iff.mpr hother, by decide, by decide⟩
  have hnamed : Text.trim "s/a/Y/".toList = "s/a/Y/".toList := by decide
  have hempty : Text.trim "s//Y/".toList = "s//Y/".toList := by decide
  have hglobal : Text.trim "g/b/norm 0".toList = "g/b/norm 0".toList := by decide
  refine ⟨?_, ?_, ?_⟩
  · exact (ExCommand.readLine_of_letter (by decide) hnamed).trans
      (ExCommand.readCommand_s hdelim _ _)
  · exact (ExCommand.readLine_of_letter (by decide) hempty).trans
      (ExCommand.readCommand_s hdelim _ _)
  · exact (ExCommand.readLine_of_letter (by decide) hglobal).trans
      (ExCommand.readCommand_g hdelim (by decide) _ _)

theorem begin_on_line : ∃ s₀, begin (Memory.host "/p".toList) {}
      { files := [("/p/f".toList, "aaab\n".toList)] } (some "f".toList) = .ok s₀ ∧
    s₀.RestsAt (lineEditor "aaab".toList none none) := ⟨_, rfl, rfl, rfl, rfl⟩

set_option maxRecDepth 20000 in
/-- After `:s/a/Y/` the empty pattern of `:s//Y/` stands for `a`. Then `b` is searched for, and
nothing is substituted. -/
theorem RestsAt.around_second {s : Session Memory}
    (hs : s.RestsAt (lineEditor "aaab".toList none none)) :
    let h := Memory.host "/p".toList
    let before := lineKeys "s/a/Y/".toList ++ typedKeys "s//Y/".toList
    let second : ExCommand := .substitute .implicit [] ['Y'] {}
    ((s.after h before).entered? .enter = some second ∧
      (s.after h before).buffer.lastSearch = some ['a'] ∧
      ∀ col, ((Ex.run h second col).run.run (s.after h before).editor).1 = .ok { col := 0 }) ∧
    (s.after h (before ++ [.enter])).RestsAt
      (lineEditor "YYab".toList (some ['a']) (some ⟨[], ['Y'], {}⟩)) ∧
    (s.after h (before ++ .enter :: lineKeys "g/b/norm 0".toList)).RestsAt
      (lineEditor "YYab".toList (some ['b']) (some ⟨[], ['Y'], {}⟩)) ∧
    ∀ pre next, pre ++ [next] <+: lineKeys "g/b/norm 0".toList →
      ¬ (s.after h (before ++ .enter :: pre)).Substitutes next := by
  intro h before second
  obtain ⟨hnamed, hempty, hglobal⟩ := readLine_letters
  have hrun₁ : ∀ col, ((Ex.run h (.substitute .implicit ['a'] ['Y'] {}) col).run.run
        (lineEditor "aaab".toList none none)).2 =
      lineEditor "Yaab".toList (some ['a']) (some ⟨['a'], ['Y'], {}⟩) := fun col => by cbv
  have hrun₂ : ∀ col, (Ex.run h second col).run.run
        (lineEditor "Yaab".toList (some ['a']) (some ⟨['a'], ['Y'], {}⟩)) =
      (.ok { col := 0 }, lineEditor "YYab".toList (some ['a']) (some ⟨[], ['Y'], {}⟩)) :=
    fun col => by cbv
  have hrun₃ : ∀ col, ((Ex.run h (.global .implicit ['b'] false (.normal ['0'])) col).run.run
        (lineEditor "YYab".toList (some ['a']) (some ⟨[], ['Y'], {}⟩))).2 =
      lineEditor "YYab".toList (some ['b']) (some ⟨[], ['Y'], {}⟩) := fun col => by cbv
  have h₁ := hs.after_line (h := h) hnamed rfl hrun₁
  have h₂ := h₁.after_line hempty rfl fun col => congrArg Prod.snd (hrun₂ col)
  have h₃ := h₂.after_line hglobal rfl hrun₃
  have hthen : ∀ keys, s.after h (before ++ .enter :: keys) =
      ((s.after h (lineKeys "s/a/Y/".toList)).after h (lineKeys "s//Y/".toList)).after h keys := by
    intro keys
    rw [← after_append, ← after_append]
    simp only [before, lineKeys, List.append_assoc, List.cons_append, List.nil_append]
  have heditor : (s.after h before).editor =
      lineEditor "Yaab".toList (some ['a']) (some ⟨['a'], ['Y'], {}⟩) := by
    rw [after_append, after_typedKeys h₁.mode h₁.pending]
    dsimp only
    exact h₁.editor
  refine ⟨⟨?_, ?_, fun col => ?_⟩, ?_, ?_, fun pre next hpre => ?_⟩
  · rw [after_append]
    exact entered?_typedKeys h₁.mode h₁.pending hempty rfl
  · rw [Session.buffer, heditor]
    rfl
  · rw [heditor, hrun₂ col]
  · rw [hthen, after_nil]
    exact h₂
  · rw [hthen]
    exact h₃
  · rw [hthen]
    exact lineKeys_unsubstituted h₂.mode h₂.pending hglobal rfl pre next hpre

/-! ## The last substitution -/

/-- A session remembers the last substitution that has succeeded as it was typed, until the next
command that substitutes. That substitution has searched for a pattern `q`, the one that its typed
pattern stood for. From then on `:&&` does on every range what substituting for `q` does if and only
if the typed pattern stands for what `q` stands for in the buffer that is current by then; otherwise
it does so only where there are no lines. -/
theorem repeat_is_last_substitution_iff (h : Host σ) (o : Options) (world : σ) (file : Option Path)
    (s₀ : Session σ) (hs : begin h o world file = .ok s₀) (before : List Key) (key : Key)
    (c : ExCommand) (hc : (s₀.after h before).entered? key = some c) (l : LastSubstitute)
    (hsub : (c.base (s₀.after h before).buffer).substitution? = some l) (outcome : ExOutcome)
    (hok : ((Ex.run h c (s₀.after h before).col).run.run
      (s₀.after h before).editor).1 = .ok outcome)
    (later : List Key)
    (hlater : ∀ pre next, pre ++ [next] <+: later →
      ¬ (s₀.after h (before ++ key :: pre)).Substitutes next) :
    let b := (s₀.after h before).buffer
    let t := s₀.after h (before ++ key :: later)
    t.editor.lastSubstitute = some l ∧
      ∃ q, (c.base b).searchesFor? b = some q ∧
        (s₀.after h (before ++ [key])).buffer.lastSearch = some q ∧
        ∀ range col, Ex.RepeatsAs h t.editor range col { l with pattern := q } ↔
          (∀ span, range.resolve t.buffer t.editor.options t.buffer.currentSpan ≠ .ok span) ∨
            Edit.typedIn t.buffer l.pattern = Edit.typedIn t.buffer q := by
  have hfits : ∀ keys, (s₀.after h keys).editor.buffers.Fits := fun keys =>
    after_fits (begin_fits hs) keys
  have hcurrent : ∀ keys, (s₀.after h keys).editor.HasCurrent := fun keys => (hfits keys).current_lt
  have hthen : ∀ keys, s₀.after h (before ++ key :: keys) =
      (s₀.after h (before ++ [key])).after h keys := fun keys => by
    rw [← after_append, List.append_assoc]
    rfl
  have hpress : (s₀.after h (before ++ [key])).editor =
      ((Ex.run h c (s₀.after h before).col).run.run (s₀.after h before).editor).2 := by
    rw [after_append]
    exact press_entered hc
  obtain ⟨hlast, q, hq, hsearch⟩ := Ex.run_remembers (hcurrent before) (hfits before).buffer hsub
    (Prod.ext hok hpress.symm)
  intro b t
  have hkept : (s₀.after h (before ++ [key])).editor.SameLast
      ((s₀.after h (before ++ [key])).after h later).editor := by
    refine after_sameLast (hcurrent _) fun pre next hpre => ?_
    rw [← hthen]
    exact hlater pre next hpre
  rw [← hthen] at hkept
  have htlast : t.editor.lastSubstitute = some l := hkept.trans hlast
  exact ⟨htlast, q, hq, hsearch, fun range col =>
    Ex.repeatsAs_iff (hcurrent _) (hfits _).buffer htlast⟩

/-- An empty pattern stands for `a`. It is repeated for `a`, but once `b` has been searched for it
is not. -/
theorem repeat_is_last_substitution_of_empty_pattern :
    ∃ s₀, begin (Memory.host "/p".toList) {} { files := [("/p/f".toList, "aaab\n".toList)] }
        (some "f".toList) = .ok s₀ ∧
      let h := Memory.host "/p".toList
      let before := lineKeys "s/a/Y/".toList ++ typedKeys "s//Y/".toList
      let s := s₀.after h (before ++ [.enter])
      let t := s₀.after h (before ++ .enter :: lineKeys "g/b/norm 0".toList)
      s.editor.lastSubstitute = some ⟨[], ['Y'], {}⟩ ∧
        t.editor.lastSubstitute = some ⟨[], ['Y'], {}⟩ ∧
        ∀ col, Ex.RepeatsAs h s.editor .implicit col ⟨['a'], ['Y'], {}⟩ ∧
          ¬ Ex.RepeatsAs h t.editor .implicit col ⟨['a'], ['Y'], {}⟩ := by
  obtain ⟨s₀, hbegin, hrests⟩ := begin_on_line
  refine ⟨s₀, hbegin, ?_⟩
  have haround := hrests.around_second
  dsimp only at haround ⊢
  obtain ⟨⟨hentered, hsearch, hok⟩, hs, ht, hlater⟩ := haround
  have hiff := repeat_is_last_substitution_iff _ _ _ _ s₀ hbegin _ .enter _ hentered
    ⟨[], ['Y'], {}⟩ rfl _ (hok _)
  obtain ⟨hslast, q, hq, -, hsiff⟩ := hiff [] fun pre next hpre => by simp at hpre
  cases hsearch.symm.trans hq
  obtain ⟨htlast, q, hq, -, htiff⟩ := hiff _ hlater
  cases hsearch.symm.trans hq
  have hstands : ∀ b : Buffer, Edit.typedIn b [] = Edit.typedIn b ['a'] ↔
      b.lastSearch = some ['a'] := fun _ => Iff.rfl
  refine ⟨hslast, htlast, fun col => ⟨?_, fun hagain => ?_⟩⟩
  · refine (hsiff .implicit col).mpr (.inr ((hstands _).mpr ?_))
    rw [Session.buffer, hs.editor]
    rfl
  · rcases (htiff .implicit col).mp hagain with hnowhere | htyped
    · exact hnowhere _ rfl
    · rw [hstands, Session.buffer, ht.editor] at htyped
      cases htyped

set_option maxRecDepth 20000 in
/-- An empty pattern stands for `a` and `:s//Y/` replaces the second one. After a global command for
`b` it is the `b` that `:&&` replaces; the substitution for `a` replaces the third `a`. -/
theorem repeat_searches_for_other_pattern :
    ∃ s₀, begin (Memory.host "/p".toList) {} { files := [("/p/f".toList, "aaab\n".toList)] }
        (some "f".toList) = .ok s₀ ∧
      let h := Memory.host "/p".toList
      let before := lineKeys "s/a/Y/".toList ++ typedKeys "s//Y/".toList
      let s := s₀.after h (before ++ [.enter])
      let t := s₀.after h (before ++ .enter :: lineKeys "g/b/norm 0".toList)
      s.buffer.lines = ["YYab".toList] ∧ s.buffer.lastSearch = some ['a'] ∧
        (t.after h (lineKeys "&&".toList)).buffer.lines = ["YYaY".toList] ∧
        (t.after h (lineKeys "s/a/Y/".toList)).buffer.lines = ["YYYb".toList] := by
  obtain ⟨s₀, hbegin, hrests⟩ := begin_on_line
  refine ⟨s₀, hbegin, ?_⟩
  have haround := hrests.around_second
  dsimp only at haround ⊢
  obtain ⟨-, hs, ht, -⟩ := haround
  have hrepeat : ∀ col, ((Ex.run (Memory.host "/p".toList) (.repeatSubstitute .implicit none)
        col).run.run (lineEditor "YYab".toList (some ['b']) (some ⟨[], ['Y'], {}⟩))).2 =
      lineEditor "YYaY".toList (some ['b']) (some ⟨[], ['Y'], {}⟩) := fun col => by cbv
  have hletter : ∀ col, ((Ex.run (Memory.host "/p".toList) (.substitute .implicit ['a'] ['Y'] {})
        col).run.run (lineEditor "YYab".toList (some ['b']) (some ⟨[], ['Y'], {}⟩))).2 =
      lineEditor "YYYb".toList (some ['a']) (some ⟨['a'], ['Y'], {}⟩) := fun col => by cbv
  have hread : ExCommand.readLine "&&".toList = .ok (.repeatSubstitute .implicit none) := rfl
  have hagain := ht.after_line hread rfl hrepeat
  have hnamed := ht.after_line readLine_letters.1 rfl hletter
  simp only [Session.buffer, hs.editor, hagain.editor, hnamed.editor]
  exact ⟨rfl, rfl, rfl, rfl⟩

end ModalEditor.Session
