import ModalEditor.Normal.Command
import ModalEditor.Proofs.Bounded.Address

/-!
# Bounded reading of keys

How keys of normal mode are read, as a bounded computation. Only counts are cut off; they are read
as the editor reads them, so every row of keys is.
-/

namespace ModalEditor.Bounded

open NormalCommand

/-- A count off the front of some keys. -/
def splitCount (keys : Text) : Checked (Option Nat × Text) := do
  let stop := if keys.head? = some '0' then 0 else Text.byteSize (keys.takeWhile isDigit)
  if stop = 0 then return (none, keys)
  let (digits, rest) ← cut keys stop
  return (Text.count? digits, rest)

/-- An operator with an inner count, or a key that starts inserting. -/
def readCompound (count : Option Nat) (register : Option Char) : Text → Checked KeyReading
  | [] => return .incomplete
  | key :: rest =>
    match insertKeys.lookup key with
    | some kind =>
      let text := if rest.isEmpty then none else some rest
      return .complete (.act count register (.insert kind text))
    | none =>
      if key ∉ ['d', 'y', 'c'] then return .invalid
      else do
        match ← splitCount rest with
        | (none, _) => return .invalid
        | (some _, []) => return .incomplete
        | (some inner, keys) =>
          match operatorAction? key keys with
          | some action => return .complete (.act (multiply count (some inner)) register action)
          | none => return .invalid

/-- The keys after count and register. -/
def readAction (count : Option Nat) (register : Option Char) (keys : Text) : Checked KeyReading :=
  if openKeys.any fun k => k.toList = keys then return .incomplete
  else
    match actions.find? fun a => a.1.toList = keys with
    | some a => return .complete (.act count register a.2)
    | none => readCompound count register keys

/-- The keys after the register; `again` reads what follows a `G`. -/
def readCounted (again : Text → Checked KeyReading) (count : Option Nat) (register : Option Char)
    (keys : Text) : Checked KeyReading := do
  let (inner, body) ← splitCount keys
  match body with
  | 'G' :: next :: rest =>
    return (← again (next :: rest)).followed (.act none none (.move .lastLine))
  | _ => readAction (multiply count inner) register body

/-- Keys, with the register that may have been chosen before them. -/
def readKeysFrom : Nat → Option Char → Text → Checked KeyReading
  | 0, _, _ => return .incomplete
  | fuel + 1, some register, keys =>
    readCounted (readKeysFrom fuel (some register)) none (some register) keys
  | fuel + 1, none, keys =>
    match keys with
    | [] | ['m'] | ['\''] => return .incomplete
    | 'm' :: mark :: rest =>
      return if isLowerLetter mark && rest.isEmpty then .complete (.setMark mark) else .invalid
    | '\'' :: mark :: rest =>
      if !isLowerLetter mark then return .invalid
      else if rest.isEmpty then return .complete (.jumpMark mark)
      else do
        let next ← readKeysFrom fuel none rest
        return next.eitherWay mark (← readKeysFrom fuel (some mark) rest)
    | _ => do
      match ← splitCount keys with
      | (some n, ['G']) => return .complete (.gotoLine n)
      | (some n, 'G' :: rest) => return (← readKeysFrom fuel none rest).followed (.gotoLine n)
      | (_, ['"']) => return .incomplete
      | (count, '"' :: register :: rest) =>
        if Register.isName register then
          readCounted (readKeysFrom fuel (some register)) count (some register) rest
        else return .invalid
      | (count, body) => readCounted (readKeysFrom fuel none) count none body

/-- The keys typed so far. -/
def readKeys (keys : Text) : Checked KeyReading := readKeysFrom (keys.length + 1) none keys

/-! ## They read what the editor reads -/

theorem splitCount_eq (keys : Text) : splitCount keys = .ok (NormalCommand.splitCount keys) := by
  unfold splitCount NormalCommand.splitCount
  by_cases hzero : keys.head? = some '0'
  · rw [if_pos hzero, if_pos hzero]
    rfl
  rw [if_neg hzero, if_neg hzero]
  dsimp only
  split
  · rename_i hnone
    have hdigits := byteSize_eq_zero hnone
    have hrest := List.takeWhile_append_dropWhile (p := isDigit) (l := keys)
    rw [hdigits, List.nil_append] at hrest
    rw [hdigits, hrest]
    rfl
  · rw [cut_takeWhile]
    rfl

theorem readCompound_eq (count : Option Nat) (register : Option Char) (keys : Text) :
    readCompound count register keys = .ok (NormalCommand.readCompound count register keys) := by
  cases keys with
  | nil => rfl
  | cons key rest =>
    rw [readCompound, NormalCommand.readCompound]
    cases insertKeys.lookup key with
    | some kind => rfl
    | none =>
      dsimp only
      split
      · rfl
      rw [splitCount_eq, ok_bind]
      rcases NormalCommand.splitCount rest with ⟨_ | inner, _ | ⟨c, keys⟩⟩
      · rfl
      · rfl
      · rfl
      · dsimp only
        cases operatorAction? key (c :: keys) <;> rfl

theorem readAction_eq (count : Option Nat) (register : Option Char) (keys : Text) :
    readAction count register keys = .ok (NormalCommand.readAction count register keys) := by
  unfold readAction NormalCommand.readAction
  rw [readCompound_eq]
  split
  · rfl
  · cases actions.find? fun a => a.1.toList = keys <;> rfl

theorem readCounted_eq {again : Text → Checked KeyReading} {again' : Text → KeyReading}
    (h : ∀ keys, again keys = .ok (again' keys)) (count : Option Nat) (register : Option Char)
    (keys : Text) : readCounted again count register keys =
      .ok (NormalCommand.readCounted again' count register keys) := by
  unfold readCounted NormalCommand.readCounted
  rw [splitCount_eq, ok_bind]
  rcases NormalCommand.splitCount keys with ⟨inner, body⟩
  dsimp only
  split
  · rw [h]
    rfl
  · simp only [readAction_eq]

theorem readKeysFrom_eq (fuel : Nat) (register : Option Char) (keys : Text) :
    readKeysFrom fuel register keys = .ok (NormalCommand.readFrom fuel register keys) := by
  induction fuel generalizing register keys with
  | zero => rfl
  | succ fuel ih =>
    cases register with
    | some register => exact readCounted_eq (ih _) none (some register) keys
    | none =>
      unfold readKeysFrom NormalCommand.readFrom
      split
      · rfl
      · rfl
      · rfl
      · rfl
      · simp only [ih]
        split
        · rfl
        split <;> rfl
      · simp only [splitCount_eq, ok_bind]
        generalize NormalCommand.splitCount keys = counted
        split
        · rfl
        · simp only [ih]
          rfl
        · rename_i count
          cases count <;> rfl
        · simp only [readCounted_eq (ih (some _))]
          exact (apply_ite Except.ok _ _ _).symm
        · simp only [readCounted_eq (ih none)]

theorem readKeys_eq (keys : Text) : readKeys keys = .ok (read keys) := readKeysFrom_eq _ _ keys

end ModalEditor.Bounded
