import ModalEditor.Proofs.Register.Basic
import Mathlib.Data.List.Induction

/-!
# What registers hold

Registers are filled by three calls: a text is deleted, it is yanked, or it is set. What a register
holds can be read off the calls in their order (`RegisterHistory`): `1` to `9` hold the last nine
texts that were deleted, `0` holds the one that was yanked last, a named register holds what the
calls that name it leave when they are carried out one after the other, and the unnamed one holds
the text of the last call, or all of the named register that it was appended to.

Targets are letters, `"` or none at all: a digit as a target would write over the texts of other
calls. `RegisterFile.Follows` says of every place of a file that it holds what it should. A further
call keeps it (`RegisterFile.Follows.run`), so it holds of every row of calls.
-/

namespace ModalEditor

/-- Why a text goes to the registers. -/
inductive RegisterUse where
  /-- It was deleted. -/
  | delete
  /-- It was yanked. -/
  | yank
  /-- For no other reason. -/
  | set
deriving DecidableEq

/-- A call that gives a text to the registers. -/
structure RegisterCall where
  /-- Why it is given. -/
  use : RegisterUse
  /-- The register that is named. -/
  target : Option Char
  /-- The text. -/
  content : Register

namespace RegisterCall

/-- The registers after the call. -/
def run (f : RegisterFile) (call : RegisterCall) : RegisterFile :=
  match call.use with
  | .delete => f.recordDelete call.target call.content
  | .yank => f.recordYank call.target call.content
  | .set => f.set call.target call.content

/-- The registers before the target is written: only the numbered ones have changed. -/
def number (f : RegisterFile) (call : RegisterCall) : RegisterFile :=
  match call.use with
  | .delete => f.pushDelete call.content
  | .yank => { f with numbered := f.numbered.set 0 call.content }
  | .set => f

theorem run_eq (f : RegisterFile) (call : RegisterCall) :
    call.run f = (call.number f).set call.target call.content := by
  cases call with
  | mk use target content => cases use <;> rfl

theorem named_number (f : RegisterFile) (call : RegisterCall) :
    (call.number f).named = f.named := by
  cases call with
  | mk use target content => cases use <;> rfl

/-- The target is no digit: it is a letter, `"` or none at all. -/
def NamesNoDigit (call : RegisterCall) : Prop := ∀ name ∈ call.target, isDigit name = false

/-- The target is the register of a small letter, named by that letter or by its capital. -/
def writes (c : Char) (call : RegisterCall) : Bool := call.target.any fun name => name.toLower = c

/-- The target is a capital letter. -/
def appends (call : RegisterCall) : Bool := call.target.any Char.isUpper

/-- What the call makes of the content of its target. -/
def change (call : RegisterCall) (old : Register) : Register :=
  if call.appends then old.append call.content else call.content

end RegisterCall

/-- Calls, first to last. -/
abbrev RegisterHistory := List RegisterCall

namespace RegisterHistory

/-- The registers after the calls. -/
def play (calls : RegisterHistory) : RegisterFile := calls.foldl RegisterCall.run {}

/-- The texts that were given for one reason, first to last. -/
def texts (use : RegisterUse) (calls : RegisterHistory) : List Register :=
  (calls.filter fun call => call.use = use).map RegisterCall.content

/-- What the calls leave in the register of a small letter. -/
def named (c : Char) (calls : RegisterHistory) : Register :=
  (calls.filter (·.writes c)).foldl (fun old call => call.change old) .empty

/-- What the calls leave in the unnamed register. -/
def unnamed (calls : RegisterHistory) : Register :=
  match calls.getLast? with
  | none => .empty
  | some call =>
    match call.target.filter Char.isUpper with
    | some name => calls.named name.toLower
    | none => call.content

variable {calls : RegisterHistory} {call : RegisterCall}

theorem play_concat (calls : RegisterHistory) (call : RegisterCall) :
    play (calls ++ [call]) = call.run calls.play := by simp [play]

theorem texts_concat (use : RegisterUse) (calls : RegisterHistory) (call : RegisterCall) :
    texts use (calls ++ [call]) =
      if call.use = use then calls.texts use ++ [call.content] else calls.texts use := by
  unfold texts
  by_cases huse : call.use = use <;> simp [huse]

theorem named_concat (c : Char) (calls : RegisterHistory) (call : RegisterCall) :
    named c (calls ++ [call]) =
      if call.writes c then call.change (calls.named c) else calls.named c := by
  unfold named
  cases hwrites : call.writes c <;> simp [hwrites]

theorem unnamed_concat (calls : RegisterHistory) (call : RegisterCall) :
    unnamed (calls ++ [call]) =
      match call.target.filter Char.isUpper with
      | some name => named name.toLower (calls ++ [call])
      | none => call.content := by
  unfold unnamed
  rw [List.getLast?_concat]

end RegisterHistory

namespace RegisterFile

variable {f : RegisterFile} {target : Option Char} {content : Register}

/-! ## What one call does -/

theorem numbered_write (htarget : ∀ name ∈ target, isDigit name = false) (content : Register) :
    (f.write target content).numbered = f.numbered := by
  unfold write
  split
  · rfl
  · rename_i name
    have hdigit := htarget name rfl
    simp only [hdigit, Bool.false_eq_true, if_false]
    split
    · rfl
    split
    · rfl
    · rfl

/-- Writing changes the register of the letter and no other named one. -/
theorem getElem?_write (f : RegisterFile) (target : Option Char) (content : Register) {c : Char}
    (hc : isLowerLetter c = true) :
    (f.write target content).named[letterIndex c]? =
      if target.any fun name => name.toLower = c then
        f.named[letterIndex c]?.map fun old =>
          if target.any Char.isUpper then old.append content else content
      else f.named[letterIndex c]? := by
  cases target with
  | none => rfl
  | some name =>
    simp only [Option.any_some, decide_eq_true_eq]
    cases hletter : isLetter name with
    | false =>
      have hlower : ¬ name.toLower = c := fun hname => by
        rw [isLetter_of_toLower hc hname] at hletter
        cases hletter
      have hlow : isLowerLetter name = false := by
        rw [isLetter, Bool.or_eq_false_iff] at hletter
        exact hletter.1
      rw [if_neg hlower]
      simp only [write, hlow, hletter, Bool.false_eq_true, if_false]
      split <;> rfl
    | true =>
      have hsame := letterIndex_eq_iff hc hletter
      cases hlow : isLowerLetter name with
      | true =>
        have hupper : name.isUpper = false := by simp [isUpper_eq, hletter, hlow]
        simp only [write, hlow, if_true, hupper, Bool.false_eq_true, if_false, List.getElem?_set',
          hsame]
        rfl
      | false =>
        have hupper : name.isUpper = true := by simp [isUpper_eq, hletter, hlow]
        simp only [write, hlow, hletter, if_true, hupper, Bool.false_eq_true, if_false,
          List.getElem?_modify, hsame]
        split
        · rfl
        · exact Option.map_id'

/-- The unnamed register gets the text, or all of the register that it was appended to. -/
theorem unnamed_set (f : RegisterFile) (target : Option Char) (content : Register) :
    (f.set target content).unnamed =
      match target.filter Char.isUpper with
      | some name => (f.set target content).named[letterIndex name.toLower]?.getD .empty
      | none => content := by
  cases target with
  | none => rfl
  | some name =>
    cases hupper : name.isUpper with
    | false =>
      rw [Option.filter_some_neg (by simp [hupper])]
      unfold set
      dsimp only
      rw [← isUpper_eq, hupper]
      rfl
    | true =>
      have hletter : isLetter name = true := by
        rw [isUpper_eq, Bool.and_eq_true] at hupper
        exact hupper.1
      have hquote : name ≠ '"' := by
        rintro rfl
        cases hupper
      have hplace := (letterIndex_eq_iff (isLowerLetter_toLower hletter) hletter).mpr rfl
      rw [Option.filter_some_pos hupper]
      dsimp only
      rw [← hplace, ← List.getD_eq_getElem?_getD]
      unfold set
      dsimp only
      rw [← isUpper_eq, if_pos hupper]
      simp only [get?, hquote, hletter, if_true, if_false, Option.getD_some]

/-! ## What all calls do -/

/-- The registers hold what the calls leave in them. -/
structure Follows (f : RegisterFile) (calls : RegisterHistory) : Prop where
  /-- `0` holds the text that was yanked last. -/
  yanked : f.numbered[0]? = some ((calls.texts .yank).getLast?.getD .empty)
  /-- `1` to `9` hold the texts that were deleted last, the newest first. -/
  deleted : ∀ k < 9, f.numbered[k + 1]? = some ((calls.texts .delete).reverse[k]?.getD .empty)
  /-- The named registers hold what their calls leave. -/
  named : ∀ c, isLowerLetter c = true → f.named[letterIndex c]? = some (calls.named c)
  /-- The unnamed register holds what the last call leaves. -/
  unnamed : f.unnamed = calls.unnamed

theorem follows_new : ({} : RegisterFile).Follows [] where
  yanked := rfl
  deleted k hk := List.getElem?_replicate_of_lt (Nat.succ_lt_succ hk)
  named c hc := by
    have hlt := letterIndex_lt (isLetter_iff.mpr (.inl hc))
    exact List.getElem?_replicate_of_lt hlt
  unnamed := rfl

theorem Follows.nonempty {calls : RegisterHistory} (hf : f.Follows calls) : f.numbered ≠ [] := by
  intro hnil
  have hyanked := hf.yanked
  rw [hnil] at hyanked
  cases hyanked

theorem numbered_run {call : RegisterCall} (hcall : call.NamesNoDigit) :
    (call.run f).numbered = (call.number f).numbered := by
  rw [call.run_eq]
  exact numbered_write hcall call.content

/-- A further call leaves in the registers what it should. -/
theorem Follows.run {calls : RegisterHistory} {call : RegisterCall} (hf : f.Follows calls)
    (hcall : call.NamesNoDigit) : (call.run f).Follows (calls ++ [call]) := by
  have hnamed : ∀ c, isLowerLetter c = true →
      (call.run f).named[letterIndex c]? = some (RegisterHistory.named c (calls ++ [call])) := by
    intro c hc
    have hwrite := getElem?_write (call.number f) call.target call.content hc
    rw [call.named_number, hf.named c hc] at hwrite
    rw [call.run_eq, RegisterHistory.named_concat]
    refine hwrite.trans ?_
    split
    · rename_i hwrites
      rw [if_pos (show call.writes c = true from hwrites)]
      rfl
    · rename_i hwrites
      rw [if_neg (show ¬ call.writes c = true from hwrites)]
  refine ⟨?_, fun k hk => ?_, hnamed, ?_⟩
  · rw [numbered_run hcall, RegisterHistory.texts_concat, RegisterCall.number]
    cases call.use with
    | delete => exact (getElem?_pushDelete_zero hf.nonempty call.content).trans hf.yanked
    | yank =>
      rw [if_pos rfl, List.getLast?_concat]
      exact List.getElem?_set_self (List.length_pos_iff.mpr hf.nonempty)
    | set => exact hf.yanked
  · rw [numbered_run hcall, RegisterHistory.texts_concat, RegisterCall.number]
    cases call.use with
    | delete =>
      rw [if_pos rfl, List.reverse_concat]
      refine (getElem?_pushDelete_succ hf.nonempty call.content hk).trans ?_
      cases k with
      | zero => rfl
      | succ k => exact hf.deleted k (by omega)
    | yank => exact (List.getElem?_set_ne (Nat.succ_ne_zero k).symm).trans (hf.deleted k hk)
    | set => exact hf.deleted k hk
  · rw [call.run_eq, unnamed_set, RegisterHistory.unnamed_concat, ← call.run_eq]
    cases hcap : call.target.filter Char.isUpper with
    | none => rfl
    | some name =>
      have hupper : name.isUpper = true := (Option.filter_eq_some_iff.mp hcap).2
      rw [isUpper_eq, Bool.and_eq_true] at hupper
      exact congrArg (·.getD .empty) (hnamed _ (isLowerLetter_toLower hupper.1))

theorem play_follows {calls : RegisterHistory} (hcalls : ∀ call ∈ calls, call.NamesNoDigit) :
    calls.play.Follows calls := by
  -- The last call is the one that is carried out on what the others have left.
  induction calls using List.reverseRecOn with
  | nil => exact follows_new
  | append_singleton calls call ih =>
    rw [RegisterHistory.play_concat]
    refine (ih fun call hmem => hcalls call ?_).run (hcalls call ?_)
    · exact List.mem_append_left _ hmem
    · exact List.mem_append_right _ (List.mem_singleton_self call)

/-! ## What is read from them -/

theorem get?_letter (f : RegisterFile) {name : Char} (hname : isLetter name = true) :
    f.get? (some name) = some (f.named.getD (letterIndex name) .empty) := by
  have hquote : name ≠ '"' := by
    rintro rfl
    cases hname
  simp only [get?, hquote, hname, if_true, if_false]

/-- The registers are a view of the calls: `k` holds the `k`-th last text that was deleted, `0` the
last one that was yanked, a letter what the calls that name it leave one after the other, and the
unnamed register the last text, or all of the register that it was appended to. -/
theorem play_eq_history (calls : RegisterHistory) (hcalls : ∀ call ∈ calls, call.NamesNoDigit) :
    let f := calls.play
    (∀ k, 1 ≤ k → k ≤ 9 → f.get? (some (Nat.digitChar k)) =
      some ((calls.texts .delete).reverse[k - 1]?.getD .empty)) ∧
    f.get? (some '0') = some ((calls.texts .yank).getLast?.getD .empty) ∧
    (∀ name, isLetter name = true → f.get? (some name) = some (calls.named name.toLower)) ∧
    f.get? none = some calls.unnamed ∧ f.get? (some '"') = some calls.unnamed := by
  intro f
  have hf : f.Follows calls := play_follows hcalls
  refine ⟨fun k hk hk9 => ?_, ?_, fun name hname => ?_, ?_, ?_⟩
  · have hdeleted := hf.deleted (k - 1) (by omega)
    rw [Nat.sub_add_cancel hk] at hdeleted
    rw [get?_digit f (by omega), List.getD_eq_getElem?_getD, hdeleted, Option.getD_some]
  · rw [show '0' = Nat.digitChar 0 from rfl, get?_digit f (by omega), List.getD_eq_getElem?_getD,
      hf.yanked, Option.getD_some]
  · have hlow := isLowerLetter_toLower hname
    have hplace := (letterIndex_eq_iff hlow hname).mpr rfl
    rw [get?_letter f hname, hplace, List.getD_eq_getElem?_getD, hf.named _ hlow, Option.getD_some]
  · exact congrArg some hf.unnamed
  · exact congrArg some hf.unnamed

/-- After eleven deletes the two oldest are lost, and the last one was also appended to `a`. -/
theorem play_eq_history_of_eleven_deletes :
    let deletes : RegisterHistory :=
      (List.range 10).map fun n => ⟨.delete, none, .ofLines [[Nat.digitChar n]]⟩
    let calls : RegisterHistory :=
      deletes ++ [⟨.yank, some 'a', .ofText ['x']⟩, ⟨.delete, some 'A', .ofText ['y']⟩]
    (∀ call ∈ calls, call.NamesNoDigit) ∧
    calls.play.get? (some '1') = some (.ofText ['y']) ∧
    calls.play.get? (some '9') = some (.ofLines [['2']]) ∧
    calls.play.get? (some '0') = some (.ofText ['x']) ∧
    calls.play.get? (some 'a') = some (.ofText ['x', 'y']) ∧
    calls.play.get? none = some (.ofText ['x', 'y']) := by
  intro deletes calls
  have hcalls : ∀ call ∈ calls, call.NamesNoDigit := by
    intro call hcall name hname
    rcases List.mem_append.mp hcall with hdelete | hlast
    · obtain ⟨n, -, rfl⟩ := List.mem_map.mp hdelete
      cases hname
    · rcases List.mem_cons.mp hlast with rfl | hlast
      · cases hname
        rfl
      · obtain rfl := List.mem_singleton.mp hlast
        cases hname
        rfl
  obtain ⟨hdeleted, hyanked, hnamed, hunnamed, -⟩ := play_eq_history calls hcalls
  refine ⟨hcalls, (hdeleted 1 ?_ ?_).trans ?_, (hdeleted 9 ?_ ?_).trans ?_, hyanked.trans ?_,
    (hnamed 'a' ?_).trans ?_, hunnamed.trans ?_⟩ <;> decide +kernel

end RegisterFile
end ModalEditor
