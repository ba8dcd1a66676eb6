import ModalEditor.Proofs.Bounded.Buffer
import ModalEditor.Proofs.Register.Basic

/-!
# Bounded operations on registers

There are ten numbered registers and twenty-six named ones, and that stays so
(`RegisterFile.Complete`). A digit or a letter is therefore always the place of a register.
-/

namespace ModalEditor.Bounded

/-- Place of a digit among the numbered registers. -/
def digitIndex (c : Char) : Checked Nat := sub c.toNat '0'.toNat

/-- Place of a letter, small or capital, among the named registers. -/
def letterIndex (c : Char) : Checked Nat :=
  if isLowerLetter c then sub c.toNat 'a'.toNat else sub c.toNat 'A'.toNat

/-- The content of a register. -/
def getRegister (f : RegisterFile) (name : Option Char) : Checked (Option Register) :=
  match name with
  | none => return some f.unnamed
  | some c =>
    if c = '"' then return some f.unnamed
    else if isLetter c then do return some (← item f.named (← letterIndex c))
    else if isDigit c then do return some (← item f.numbered (← digitIndex c))
    else return none

/-- Writes the register that the target names, if it names a numbered or named one. -/
def writeRegister (f : RegisterFile) (target : Option Char) (content : Register) :
    Checked RegisterFile :=
  match target with
  | none => return f
  | some c =>
    if isLowerLetter c then do
      return { f with named := ← setItem f.named (← letterIndex c) content }
    else if isLetter c then do
      let i ← letterIndex c
      return { f with named := ← setItem f.named i ((← item f.named i).append content) }
    else if isDigit c then do
      return { f with numbered := ← setItem f.numbered (← digitIndex c) content }
    else return f

/-- Writes the target and the unnamed register. -/
def setRegister (f : RegisterFile) (target : Option Char) (content : Register) :
    Checked RegisterFile := do
  let f ← writeRegister f target content
  let whole ← match target with
    | some c =>
      if isLetter c && !isLowerLetter c then do pure (← item f.named (← letterIndex c))
      else pure content
    | none => pure content
  return { f with unnamed := whole }

/-- Turns the deletes from `1` on, so that the place of the oldest one is free for a new one. -/
def pushDelete (f : RegisterFile) (content : Register) : Checked RegisterFile := do
  let deletes ← piece f.numbered 1 f.numbered.length
  let oldest ← sub deletes.length 1
  let numbered := f.numbered.take 1 ++ (deletes.drop oldest ++ deletes.take oldest)
  return { f with numbered := ← setItem numbered 1 content }

/-- Keeps a deleted text. -/
def recordDelete (f : RegisterFile) (target : Option Char) (content : Register) :
    Checked RegisterFile := do
  setRegister (← pushDelete f content) target content

/-- Keeps a yanked text. -/
def recordYank (f : RegisterFile) (target : Option Char) (content : Register) :
    Checked RegisterFile := do
  let numbered ← setItem f.numbered 0 content
  setRegister { f with numbered } target content

/-- The content of a register as a buffer sees it. -/
def registerOf (b : Buffer) (f : RegisterFile) (name : Option Char) :
    Checked (Option Register) :=
  if name = some '%' then return some ((b.path.map Register.ofText).getD .empty)
  else getRegister f name

/-! ## Places of registers -/

theorem digitIndex_eq {c : Char} (hc : isDigit c = true) :
    digitIndex c = .ok (RegisterFile.digitIndex c) := sub_eq (isDigit_iff.mp hc).1

theorem letterIndex_eq {c : Char} (hc : isLetter c = true) :
    letterIndex c = .ok (RegisterFile.letterIndex c) := by
  unfold letterIndex RegisterFile.letterIndex
  split
  · rename_i hlow
    exact sub_eq (isLowerLetter_iff.mp hlow).1
  · rename_i hlow
    exact sub_eq ((isLetter_iff.mp hc).resolve_left hlow).1

/-! ## They give what the editor gives -/

variable {f : RegisterFile}

theorem named_lt (hf : f.Complete) {c : Char} (hc : isLetter c = true) :
    RegisterFile.letterIndex c < f.named.length := hf.named ▸ RegisterFile.letterIndex_lt hc

theorem numbered_lt (hf : f.Complete) {c : Char} (hc : isDigit c = true) :
    RegisterFile.digitIndex c < f.numbered.length := hf.numbered ▸ RegisterFile.digitIndex_lt hc

theorem item_getD {α : Type} {l : List α} {i : Nat} (hi : i < l.length) (d : α) :
    item l i = .ok (l.getD i d) := by
  rw [item_eq hi, List.getD_eq_getElem?_getD, List.getElem?_eq_getElem hi]
  rfl

theorem getRegister_eq (hf : f.Complete) (name : Option Char) :
    getRegister f name = .ok (f.get? name) := by
  unfold getRegister RegisterFile.get?
  cases name with
  | none => rfl
  | some c =>
    dsimp only
    split
    · rfl
    split
    · rename_i hletter
      rw [letterIndex_eq hletter, ok_bind, item_getD (named_lt hf hletter) .empty]
      rfl
    split
    · rename_i hdigit
      rw [digitIndex_eq hdigit, ok_bind, item_getD (numbered_lt hf hdigit) .empty]
      rfl
    · rfl

theorem registerOf_eq (hf : f.Complete) (b : Buffer) (name : Option Char) :
    registerOf b f name = .ok (b.register? f name) := by
  unfold registerOf Buffer.register?
  rw [getRegister_eq hf]
  split <;> rfl

theorem writeRegister_eq (hf : f.Complete) (target : Option Char) (content : Register) :
    writeRegister f target content = .ok (f.write target content) := by
  unfold writeRegister RegisterFile.write
  cases target with
  | none => rfl
  | some c =>
    dsimp only
    split
    · rename_i hlow
      have hletter := isLetter_iff.mpr (.inl hlow)
      rw [letterIndex_eq hletter, ok_bind, setItem_eq (named_lt hf hletter)]
      rfl
    split
    · rename_i hletter
      have hlt := named_lt hf hletter
      rw [letterIndex_eq hletter, ok_bind, item_eq hlt, ok_bind, setItem_eq hlt,
        List.modify_eq_set_getElem?, List.getElem?_eq_getElem hlt]
      rfl
    split
    · rename_i hdigit
      rw [digitIndex_eq hdigit, ok_bind, setItem_eq (numbered_lt hf hdigit)]
      rfl
    · rfl

theorem setRegister_eq (hf : f.Complete) (target : Option Char) (content : Register) :
    setRegister f target content = .ok (f.set target content) := by
  have hw := hf.write target content
  unfold setRegister RegisterFile.set
  rw [writeRegister_eq hf, ok_bind]
  cases target with
  | none => rfl
  | some c =>
    dsimp only
    cases hcap : isLetter c && !isLowerLetter c with
    | false => rfl
    | true =>
      have hletter : isLetter c = true := by
        rw [Bool.and_eq_true] at hcap
        exact hcap.1
      have hquote : c ≠ '"' := by
        rintro rfl
        exact absurd hletter (by decide)
      rw [if_pos rfl, letterIndex_eq hletter, ok_bind, item_getD (named_lt hw hletter) .empty]
      simp only [RegisterFile.get?, hquote, hletter]
      rfl

/-- The oldest delete has come to the place of the newest, where the new one is put. -/
theorem turned_set {l : List Register} (hl : l.length = 10) (content : Register) :
    (l.take 1 ++ ((l.drop 1).drop 8 ++ (l.drop 1).take 8)).set 1 content =
      l.take 1 ++ content :: (l.drop 1).take 8 := by
  match l, hl with
  | first :: deletes, hl =>
    have hlen : deletes.length = 9 := by simpa using hl
    rw [List.drop_one, List.tail_cons, List.drop_eq_getElem_cons (by omega : 8 < deletes.length),
      List.drop_of_length_le (by omega : deletes.length ≤ 8 + 1)]
    rfl

theorem pushDelete_eq (hf : f.Complete) (content : Register) :
    pushDelete f content = .ok (f.pushDelete content) := by
  have hlen := hf.numbered
  have hdeletes : (f.numbered.drop 1).length = 9 := by simp [hlen]
  unfold pushDelete RegisterFile.pushDelete
  rw [piece_eq (by omega) (Nat.le_refl _), ok_bind, List.take_length, hdeletes,
    sub_eq (by omega), ok_bind]
  dsimp only
  rw [setItem_eq (by simp [hlen]), turned_set hlen]
  rfl

theorem recordDelete_eq (hf : f.Complete) (target : Option Char) (content : Register) :
    recordDelete f target content = .ok (f.recordDelete target content) := by
  unfold recordDelete
  rw [pushDelete_eq hf, ok_bind, setRegister_eq (hf.pushDelete content)]
  rfl

theorem recordYank_eq (hf : f.Complete) (target : Option Char) (content : Register) :
    recordYank f target content = .ok (f.recordYank target content) := by
  unfold recordYank
  rw [setItem_eq (by rw [hf.numbered]; decide), ok_bind, setRegister_eq (hf.yanked content)]
  rfl

end ModalEditor.Bounded
