import ModalEditor.Proofs.Normal.Completion
import ModalEditor.Proofs.Normal.Evolution
import Mathlib.Data.List.Basic

/-!
# Commands typed key by key

A session carries a command out as soon as the keys are one. So a motion to a line or to a mark is
carried out before more keys can follow it, and a key that starts inserting before any text: rows of
commands and text to insert come from `:norm` only. What keys can complete one by one is a single
step (`NormalCommand.IsSingle`), and a single step that fails has done nothing to lines and cursor.
-/

namespace ModalEditor

namespace NormalCommand

/-- The command is neither a row of commands nor one that inserts a given text. -/
def IsSingle : NormalCommand → Prop
  | .andThen _ _ | .jumpMarkOr _ _ _ => False
  | .act _ _ (.insert _ (some _)) => False
  | _ => True

variable {count : Option Nat} {register : Option Char} {keys : Text} {c : Char}
  {command : NormalCommand}

/-! ## Where keys become a command -/

/-- The first keys behind a count stand behind it in the first of all keys. -/
theorem exists_prefix_afterCount {part : Text} (hpart : part <+: afterCount keys)
    (hne : part ≠ []) : ∃ pre, pre <+: keys ∧ afterCount pre = part := by
  rcases zero_or_count keys with ⟨rest, rfl⟩ | ⟨digits, body, rfl, hdigits, hbody⟩
  · have hall : afterCount ('0' :: rest) = '0' :: rest := by rw [afterCount, splitCount_of_zero]
    rw [hall] at hpart
    obtain ⟨tail, htail⟩ := hpart
    cases part with
    | nil => exact absurd rfl hne
    | cons key part =>
      obtain ⟨rfl, -⟩ := List.cons.inj htail
      exact ⟨_, ⟨tail, htail⟩, by rw [afterCount, splitCount_of_zero]⟩
  · have hall : afterCount (digits ++ body) = body := by
      rw [afterCount, splitCount_digits hdigits hbody]
    rw [hall] at hpart
    obtain ⟨tail, rfl⟩ := hpart
    refine ⟨digits ++ part, ⟨tail, List.append_assoc _ _ _⟩, ?_⟩
    have hends : EndsCount part := by
      cases part with
      | nil => exact absurd rfl hne
      | cons key part => exact hbody
    rw [afterCount, splitCount_digits hdigits hends]

/-- One more key belongs to the count or to the keys behind it. -/
theorem afterCount_concat (keys : Text) (c : Char) :
    afterCount (keys ++ [c]) = [] ∨ ∃ before, (before = [] ∨ before = afterCount keys) ∧
      afterCount (keys ++ [c]) = before ++ [c] := by
  by_cases hbody : afterCount keys = []
  · rcases zero_or_count keys with ⟨rest, rfl⟩ | ⟨digits, body, rfl, hdigits, hends⟩
    · rw [afterCount, splitCount_of_zero] at hbody
      cases hbody
    · cases hc : isDigit c with
      | false =>
        exact .inr ⟨[], .inl rfl, congrArg Prod.snd (splitCount_append_of_nil hbody hc [])⟩
      | true =>
        rw [afterCount, splitCount_digits hdigits hends] at hbody
        obtain rfl : body = [] := hbody
        rw [List.append_nil]
        unfold afterCount splitCount
        split
        · rename_i hzero
          cases digits with
          | nil => exact .inr ⟨[], .inl rfl, rfl⟩
          | cons d digits => exact absurd hzero hdigits.zero
        · rw [List.dropWhile_append_of_pos hdigits.all]
          exact .inl (by simp [hc])
  · exact .inr ⟨_, .inr rfl, afterCount_append hbody [c]⟩

/-- What stands before the last of some keys and ends before it. -/
theorem prefix_of_concat {pre more : Text} (h : keys ++ [c] = pre ++ more) (hne : more ≠ []) :
    pre <+: keys := by
  rcases List.eq_nil_or_concat' more with rfl | ⟨more, d, rfl⟩
  · exact absurd rfl hne
  · rw [← List.append_assoc] at h
    exact ⟨more, (List.append_inj' h rfl).1.symm⟩

/-- Keys before which neither a mark is set nor gone to. -/
theorem kindAfter_body {pre : Text} {key : Char} {rest : Text}
    (hpre : afterCount pre = key :: rest) (hkey : key ∉ ['m', '\'']) :
    kindAfter none pre = bodyKind none (key :: rest) := by
  have hhead : ∀ mark ∈ ['m', '\''], pre.head? ≠ some mark := by
    intro mark hmark hhead
    obtain ⟨tail, rfl⟩ := List.head?_eq_some_iff.mp hhead
    have hmark' : mark = 'm' ∨ mark = '\'' := by simpa using hmark
    rw [afterCount_of_not_digit (by rcases hmark' with rfl | rfl <;> rfl)] at hpre
    obtain ⟨rfl, -⟩ := List.cons.inj hpre
    exact hkey hmark
  rw [kindAfter_none (hhead 'm' (by decide)) (hhead '\'' (by decide)), hpre]

theorem bodyKind_named {name : Char} (hname : Register.isName name = true) (rest : Text) :
    bodyKind none ('"' :: name :: rest) = kindAfter (some name) rest := if_pos hname

/-- A key that is a command is one behind a count as well. -/
theorem bodyKind_single {key : Char} (h : actionKind [key] = .command) (register : Option Char) :
    bodyKind register [key] = .command := by
  have hquote : key ≠ '"' := by
    rintro rfl
    cases h
  unfold bodyKind
  split
  · rename_i heq
    cases heq
  · rename_i heq
    exact absurd (List.cons.inj heq).1 hquote
  · exact h

theorem kindAfter_single {pre : Text} {key : Char} (hpre : afterCount pre = [key])
    (h : actionKind [key] = .command) : kindAfter none pre = .command := by
  have hkey : key ∉ ['m', '\''] := fun hmark => by
    rw [actionKind_named (List.mem_append_left ['"'] hmark)] at h
    cases h
  rw [kindAfter_body hpre hkey]
  exact bodyKind_single h none

/-! ## Readings of one more key -/

theorem single_operatorAction {key : Char} {action : Action}
    (h : operatorAction? key keys = some action) : (act count register action).IsSingle := by
  unfold operatorAction? at h
  split at h <;> cases h <;> trivial

/-- A key that starts inserting is a command before any text follows it. -/
theorem single_readAction (hpre : ∀ key, [key] <+: keys → actionKind [key] ≠ .command)
    (h : readAction count register (keys ++ [c]) = .complete command) : command.IsSingle := by
  unfold readAction at h
  split at h
  · cases h
  split at h
  · rename_i a ha
    cases h
    have hmem := List.mem_of_find?_eq_some ha
    have hall : ∀ a ∈ actions, ∀ count register, (act count register a.2).IsSingle := by
      simp [actions, IsSingle]
    exact hall a hmem count register
  · cases keys with
    | nil =>
      simp only [List.nil_append, readCompound] at h
      split at h
      · cases h
        trivial
      · split at h
        · cases h
        · cases h
    | cons key rest =>
      have hkey : key ∉ insertKeys.map Prod.fst := fun hinsert =>
        hpre key ⟨rest, rfl⟩ (actionKind_insert hinsert [])
      simp only [List.cons_append, readCompound, lookup_insertKeys hkey] at h
      split at h
      · cases h
      split at h
      · cases h
      · cases h
      · split at h
        · rename_i action haction
          cases h
          exact single_operatorAction haction
        · cases h

/-- Going to the last line is a command before any keys follow it. -/
theorem single_readCounted {again : Text → KeyReading}
    (hpre : ∀ key, [key] <+: afterCount keys → actionKind [key] ≠ .command)
    (h : readCounted again count register (keys ++ [c]) = .complete command) :
    command.IsSingle := by
  have hbody := afterCount_concat keys c
  unfold readCounted at h
  unfold afterCount at hbody
  rcases hsplit : splitCount (keys ++ [c]) with ⟨inner, body⟩
  rw [hsplit] at h hbody
  dsimp only at h hbody
  rcases hbody with rfl | ⟨before, hbefore, rfl⟩
  · cases h
  · have hkeys : ∀ key, [key] <+: before → actionKind [key] ≠ .command := by
      rcases hbefore with rfl | rfl
      · intro key hkey
        simp at hkey
      · exact hpre
    split at h
    · rename_i next rest hgoto
      have hlast : ['G'] <+: before := prefix_of_concat hgoto (by simp)
      exact absurd rfl (hkeys 'G' hlast)
    · exact single_readAction hkeys h

/-- The keys are no command, and none of those they begin with is one. -/
def Uncompleted (keys : Text) : Prop := ∀ pre, pre <+: keys → kindAfter none pre ≠ .command

theorem uncompleted_of_incomplete (hpre : ∀ pre, pre <+: keys → read pre = .incomplete) :
    Uncompleted keys := by
  intro pre hprefix hcommand
  rw [← kind_read, hpre pre hprefix] at hcommand
  cases hcommand

/-- The first keys behind a count are no command either. -/
theorem Uncompleted.part (hu : Uncompleted keys) {part : Text} (hpart : part <+: afterCount keys)
    (hne : part ≠ []) : ∃ pre, afterCount pre = part ∧ kindAfter none pre ≠ .command := by
  obtain ⟨pre, hpre, hafter⟩ := exists_prefix_afterCount hpart hne
  exact ⟨pre, hafter, hu pre hpre⟩

theorem Uncompleted.single (hu : Uncompleted keys) {key : Char} (hkey : [key] <+: afterCount keys) :
    actionKind [key] ≠ .command := by
  intro hcommand
  obtain ⟨pre, hafter, hnot⟩ := hu.part hkey (by simp)
  exact hnot (kindAfter_single hafter hcommand)

/-- What one more key leaves behind a count is nothing, that key, or what stood there and it. -/
theorem splitCount_concat {body : Text} (hsplit : splitCount (keys ++ [c]) = (count, body)) :
    body = [] ∨ ∃ before, (before = [] ∨ before = afterCount keys) ∧ body = before ++ [c] := by
  have hbody := afterCount_concat keys c
  unfold afterCount at hbody
  rwa [hsplit] at hbody

/-- Nothing follows a `G` behind a count, for that goes to a line at once. -/
theorem Uncompleted.gotoLine (hu : Uncompleted keys) {rest : Text}
    (hsplit : splitCount (keys ++ [c]) = (count, 'G' :: rest)) : rest = [] := by
  rcases splitCount_concat hsplit with hnil | ⟨before, hbefore, heq⟩
  · cases hnil
  by_contra hmore
  have hlast : ['G'] <+: before := prefix_of_concat heq.symm hmore
  rcases hbefore with rfl | rfl
  · simp at hlast
  · exact absurd rfl (hu.single hlast)

/-- Keys behind a register that was named. -/
theorem single_named (hu : Uncompleted keys) {again : Text → KeyReading} {name : Char} {rest : Text}
    (hsplit : splitCount (keys ++ [c]) = (count, '"' :: name :: rest))
    (hname : Register.isName name = true)
    (h : readCounted again count (some name) rest = .complete command) : command.IsSingle := by
  rcases splitCount_concat hsplit with hnil | ⟨before, hbefore, heq⟩
  · cases hnil
  rcases List.eq_nil_or_concat' rest with rfl | ⟨rest, d, rfl⟩
  · cases h
  have heq' : before ++ [c] = ('"' :: name :: rest) ++ [d] := heq.symm
  obtain ⟨rfl, -⟩ := List.append_inj' heq' rfl
  refine single_readCounted (fun key hkey hcommand => ?_) h
  obtain ⟨typed, ⟨tail, htail⟩, hafter⟩ := exists_prefix_afterCount hkey (by simp)
  rcases hbefore with hnil | hbefore
  · cases hnil
  have hstart : '"' :: name :: typed <+: afterCount keys := by
    rw [← hbefore, ← htail]
    exact ⟨tail, rfl⟩
  obtain ⟨pre, hpre, hnot⟩ := hu.part hstart (by simp)
  refine hnot ?_
  rw [kindAfter_body hpre (by decide), bodyKind_named hname, kindAfter_some, hafter]
  exact bodyKind_single hcommand (some name)

/-- Keys behind a count that name no register. -/
theorem single_body (hu : Uncompleted keys) {again : Text → KeyReading} {body : Text}
    (hsplit : splitCount (keys ++ [c]) = (count, body))
    (h : readCounted again count none body = .complete command) : command.IsSingle := by
  rcases splitCount_concat hsplit with rfl | ⟨before, hbefore, rfl⟩
  · cases h
  refine single_readCounted (fun key hkey => ?_) h
  rcases hbefore with rfl | rfl
  · simp [afterCount, splitCount] at hkey
  · exact hu.single (afterCount_afterCount keys ▸ hkey)

/-- A command that is completed by a key after keys that were none is a single step. -/
theorem single_read (hpre : ∀ pre, pre <+: keys → read pre = .incomplete)
    (h : read (keys ++ [c]) = .complete command) : command.IsSingle := by
  have hu := uncompleted_of_incomplete hpre
  generalize hks : keys ++ [c] = ks at h
  unfold read readFrom at h
  split at h
  · cases h
  · cases h
  · cases h
  · split at h
    · cases h
      trivial
    · cases h
  · rename_i mark rest
    split at h
    · cases h
    · rename_i hmark
      split at h
      · cases h
        trivial
      · rename_i hrest
        have hjump : ['\'', mark] <+: keys := prefix_of_concat hks (by simpa using hrest)
        refine absurd ?_ (hu _ hjump)
        rw [kindAfter_jump, if_neg hmark]
        rfl
  · subst hks
    split at h
    · cases h
      trivial
    · rename_i n rest hrest hsplit
      exact absurd (hu.gotoLine hsplit) hrest
    · cases h
    · split at h
      · rename_i count name rest hsplit hname
        exact single_named hu hsplit hname h
      · cases h
    · rename_i hsplit
      exact single_body hu hsplit h

end NormalCommand

/-- `d'` is `d`, perhaps with another selected register. -/
def Desk.Reselects (d d' : Desk) : Prop :=
  ∃ selected, d' = { d with buffer := { d.buffer with selected } }

namespace Desk

instance : Std.Refl Reselects := ⟨fun d => ⟨d.buffer.selected, rfl⟩⟩

instance : IsTrans Desk Reselects := ⟨by
  rintro _ _ _ ⟨_, rfl⟩ ⟨selected, rfl⟩
  exact ⟨selected, rfl⟩⟩

end Desk

namespace Edit

theorem takeWritable_reselects (named : Option Char) (d : Desk) :
    Leads Desk.Reselects (takeWritable named) d := by
  unfold Leads
  rw [run_takeWritable]
  exact ⟨none, rfl⟩

theorem takeContent_reselects (named : Option Char) (d : Desk) :
    Leads Desk.Reselects (takeContent named) d := by
  unfold Leads
  rw [takeContent_state]
  exact ⟨none, rfl⟩

/-- An edit of lines that takes a register checks everything first. -/
theorem checked_reselects {α : Type} {s : LineSpan} {register : Option Char} {d : Desk}
    {f : Option Char → Edit α} (hf : ∀ target t, Succeeds (f target) t) :
    OnFailure Desk.Reselects (do
      checkSpan s
      let target ← takeWritable register
      f target) d := by
  refine .bind_still (by rw [run_checkSpan]) fun _ _ => ?_
  exact (takeWritable_reselects register d).onFailure.bind_succeeds fun target t _ => hf target t

theorem deleteSpan_reselects (n start stop : Nat) (register : Option Char) (d : Desk) :
    OnFailure Desk.Reselects (deleteSpan n start stop register) d := by
  refine (takeWritable_reselects register d).onFailure.bind_succeeds fun target t _ => ?_
  refine Succeeds.bind ⟨_, _, rfl⟩ fun b u _ => ?_
  dsimp only
  split <;> exact ⟨_, _, rfl⟩

theorem putLines_reselects (above : Bool) (register : Option Char) (count : Nat) (d : Desk) :
    OnFailure Desk.Reselects (putLines above register count) d := by
  refine (takeContent_reselects register d).bind_onFailure fun content t _ => ?_
  exact .bind_still (checkPut_state _ count t) fun _ _ => Succeeds.onFailure ⟨_, _, rfl⟩

theorem putInline_reselects (col : Nat) (before : Bool) (register : Option Char) (count : Nat)
    (d : Desk) : OnFailure Desk.Reselects (putInline col before register count) d := by
  refine (takeContent_reselects register d).bind_onFailure fun content t _ => ?_
  exact .bind_still (checkPut_state _ count t) fun _ _ => Succeeds.onFailure ⟨_, _, rfl⟩

end Edit

namespace Normal

open Edit

variable {d : Desk}

theorem move_succeeds (m : Motion) (count : Option Nat) (col : Nat) (d : Desk) :
    Succeeds (move m count col) d := by
  refine Succeeds.bind ⟨_, _, rfl⟩ fun b t _ => ?_
  cases m <;> exact ⟨_, _, rfl⟩

theorem insertPosition_succeeds (kind : InsertKind) (col : Nat) (d : Desk) :
    Succeeds (insertPosition kind col) d := by
  refine Succeeds.bind ⟨_, _, rfl⟩ fun b t _ => ?_
  cases kind <;> exact ⟨_, _, rfl⟩

theorem act_reselects {action : Action} {count : Option Nat} {register : Option Char}
    (hsingle : (NormalCommand.act count register action).IsSingle) (col : Nat) (d : Desk) :
    OnFailure Desk.Reselects (act action count register col) d := by
  refine .bind_still rfl fun b _ => ?_
  cases action with
  | deleteLines =>
    exact (checked_reselects fun _ _ => ⟨_, _, rfl⟩).bind_succeeds fun _ _ _ => ⟨_, _, rfl⟩
  | yankLines =>
    exact (checked_reselects fun _ _ => ⟨_, _, rfl⟩).bind_succeeds fun _ _ _ => ⟨_, _, rfl⟩
  | changeLines =>
    exact (checked_reselects fun _ _ => ⟨_, _, rfl⟩).bind_succeeds fun _ _ _ => ⟨_, _, rfl⟩
  | deleteWords =>
    exact (deleteSpan_reselects _ _ _ register d).bind_succeeds fun _ _ _ => ⟨_, _, rfl⟩
  | changeWords =>
    exact (deleteSpan_reselects _ _ _ register d).bind_succeeds fun _ _ _ => ⟨_, _, rfl⟩
  | deleteChars =>
    dsimp only
    split
    · exact (deleteSpan_reselects _ _ _ register d).bind_succeeds fun _ _ _ => ⟨_, _, rfl⟩
    · exact Succeeds.onFailure ⟨_, _, rfl⟩
  | put before =>
    refine .bind_still rfl fun d' _ => ?_
    dsimp only
    split
    · exact (putInline_reselects _ _ _ _ d).bind_succeeds fun _ _ _ => ⟨_, _, rfl⟩
    · exact (putLines_reselects _ _ _ d).bind_succeeds fun _ _ _ => ⟨_, _, rfl⟩
  | move m => exact ((move_succeeds m count col d).bind fun _ _ _ => ⟨_, _, rfl⟩).onFailure
  | insert kind text =>
    cases text with
    | some text => exact hsingle.elim
    | none =>
      exact ((insertPosition_succeeds kind col d).bind fun _ _ _ => ⟨_, _, rfl⟩).onFailure

/-- A single step that fails has done nothing, except that it may have used up the selection. -/
theorem run_single_failure {c : NormalCommand} (hsingle : c.IsSingle) (col : Nat) (d : Desk) :
    OnFailure Desk.Reselects (run c col) d := by
  cases c with
  | setMark mark =>
    refine .bind_still rfl fun b _ => ?_
    refine .bind_still (by rw [run_orFail]) fun b' _ => ?_
    exact Succeeds.onFailure ⟨_, _, rfl⟩
  | jumpMark mark =>
    refine .bind_still rfl fun b _ => ?_
    cases b.mark? mark with
    | none => exact (Leads.throw _).onFailure
    | some n => exact Succeeds.onFailure ⟨_, _, rfl⟩
  | gotoLine n =>
    refine .bind_still rfl fun b _ => ?_
    split
    · exact (Leads.throw _).onFailure
    · exact Succeeds.onFailure ⟨_, _, rfl⟩
  | act count register action => exact act_reselects hsingle col d
  | jumpMarkOr mark next otherwise => exact hsingle.elim
  | andThen first second => exact hsingle.elim

end Normal
end ModalEditor
