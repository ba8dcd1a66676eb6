import ModalEditor.Proofs.Ex.Settings
import ModalEditor.Proofs.Session.Column
import ModalEditor.Proofs.Session.Frame

/-!
# Settings in a session

The options and the last substitution change only when Enter carries out a command
(`Session.press_sameSettings`). The options change by `:set` alone, and the tab stop only to a number
that `:set` was given (`Options.applySet_softTabStop`). So in every session the tab stop is the one that
the session began with, or a number that some `:set` in it was given (`Session.after_softTabStop`).
-/

namespace ModalEditor

/-! ## What `:set` makes of the tab stop -/

namespace Options

variable {o o' : Options}

/-- The directive sets the tab stop to `n`. -/
def Sets (n : Nat) : Directive → Prop
  | .assign name value =>
    OptionName.find? name = some .softTabStop ∧ Text.number? value = some n
  | _ => False

theorem setSwitch_softTabStop {name : Text} {change : Bool → Bool}
    (h : o.setSwitch name change = .ok o') : o'.softTabStop = o.softTabStop := by
  unfold setSwitch at h
  split at h <;> cases h <;> rfl

theorem apply_softTabStop {d : Directive} {shown : Option Text} (h : o.apply d = .ok (o', shown)) :
    o'.softTabStop = o.softTabStop ∨ Sets o'.softTabStop d := by
  have hswitch : ∀ name change, (o.setSwitch name change).map (·, none) = .ok (o', shown) →
      o'.softTabStop = o.softTabStop := by
    intro name change hset
    cases hc : o.setSwitch name change with
    | error err =>
      rw [hc] at hset
      cases hset
    | ok o₁ =>
      rw [hc] at hset
      cases hset
      exact setSwitch_softTabStop hc
  cases d with
  | on name => exact .inl (hswitch name _ h)
  | off name => exact .inl (hswitch name _ h)
  | toggle name => exact .inl (hswitch name _ h)
  | query name =>
    rw [apply] at h
    split at h <;> cases h
    exact .inl rfl
  | showAll =>
    cases h
    exact .inl rfl
  | assign name value =>
    rw [apply] at h
    split at h
    · cases h
    · rename_i hname
      split at h <;> cases h
      rename_i n hn
      exact .inr ⟨not_not.mp hname, hn⟩

theorem applyAll_softTabStop (o : Options) (ds : List Directive) :
    (o.applyAll ds).1.softTabStop = o.softTabStop ∨
      ∃ d ∈ ds, Sets (o.applyAll ds).1.softTabStop d := by
  induction ds generalizing o with
  | nil => exact .inl rfl
  | cons d rest ih =>
    rw [applyAll]
    cases hd : o.apply d with
    | error err => exact .inl rfl
    | ok r =>
      obtain ⟨o₁, shown⟩ := r
      rcases ih o₁ with hsame | ⟨d', hmem, hsets⟩
      · rcases apply_softTabStop hd with hkept | hsets
        · exact .inl (hsame.trans hkept)
        · exact .inr ⟨d, List.mem_cons_self, hsame.symm ▸ hsets⟩
      · exact .inr ⟨d', List.mem_cons_of_mem d hmem, hsets⟩

/-- One of the arguments of `:set` sets the tab stop to `n`. -/
def Assigns (args : Text) (n : Nat) : Prop := ∃ arg ∈ Text.words args, Sets n (.ofText arg)

theorem applySet_softTabStop (o : Options) (args : Text) :
    (o.applySet args).1.softTabStop = o.softTabStop ∨
      Assigns args (o.applySet args).1.softTabStop := by
  unfold applySet Assigns
  split
  · exact .inl rfl
  · rcases o.applyAll_softTabStop ((Text.words args).map Directive.ofText) with hsame | ⟨d, hmem, hsets⟩
    · exact .inl hsame
    · obtain ⟨arg, harg, rfl⟩ := List.mem_map.mp hmem
      exact .inr ⟨arg, harg, hsets⟩

end Options

namespace Session

open Editor

variable {σ : Type} {h : Host σ} {s : Session σ} {key : Key}

/-! ## One key -/

/-- A key that carries out no command of the command line leaves the settings alone. -/
theorem press_sameSettings (hc : s.entered? key = none) :
    s.editor.SameSettings (s.press h key).1.editor := (press_atDesk hc).sameSettings

/-- The arguments of the `:set` that the key carries out. -/
def settings? (s : Session σ) (key : Key) : Option Text :=
  (s.entered? key).bind fun c => (c.base s.buffer).settings?

/-- The options after a key are those of before, or what the `:set` that it carries out makes of
them. -/
theorem press_options (he : s.editor.HasCurrent) (key : Key) :
    (s.press h key).1.editor.options =
      match s.settings? key with
      | some args => (s.editor.options.applySet args).1
      | none => s.editor.options := by
  unfold settings?
  cases hc : s.entered? key with
  | none => exact (press_sameSettings hc).options
  | some c =>
    rw [press_entered hc]
    exact Ex.run_options h c s.col he

/-! ## A run of keys -/

/-- The tab stop after some keys is the one of before, or a number that one of the `:set` among them was
given. -/
theorem after_softTabStop (he : s.editor.HasCurrent) (keys : List Key) :
    (s.after h keys).editor.options.softTabStop = s.editor.options.softTabStop ∨
      ∃ pre key args, pre ++ [key] <+: keys ∧ (s.after h pre).settings? key = some args ∧
        Options.Assigns args (s.after h keys).editor.options.softTabStop := by
  induction keys generalizing s with
  | nil => exact .inl rfl
  | cons key rest ih =>
    have hstep : (s.after h (key :: rest)) = (s.press h key).1.after h rest := rfl
    rw [hstep]
    rcases ih ((press_touches s key).current_lt he) with hsame | ⟨pre, next, args, hpre, hset, hn⟩
    · rw [hsame, press_options he key]
      cases hset : s.settings? key with
      | none => exact .inl rfl
      | some args =>
        refine (s.editor.options.applySet_softTabStop args).imp_right fun hassigns => ?_
        exact ⟨[], key, args, List.prefix_append [key] rest, hset, hassigns⟩
    · exact .inr ⟨key :: pre, next, args, List.prefix_cons_inj key |>.mpr hpre, hset, hn⟩

end Session
end ModalEditor
