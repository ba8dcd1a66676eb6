import ModalEditor.Proofs.Normal.Count

/-!
# What rows of keys are

Whether keys are a command, the start of one or neither does not depend on the counts and registers
in them, only on what they stand before. `KeyKind` is a reading without its command, and the
equations of this module give the kind of keys without the fuel of the reader: of keys behind a
register (`kindAfter_some`), of keys before which no register was chosen (`kindAfter_none`), of keys
that set a mark and of keys that go to one.
-/

namespace ModalEditor

/-- What a row of keys is, apart from the command that they may be. -/
inductive KeyKind where
  /-- They are a command. -/
  | command
  /-- They are the start of one. -/
  | start
  /-- Neither. -/
  | neither
deriving Repr, DecidableEq

/-- The kind of keys that are read in two ways. -/
def KeyKind.both : KeyKind → KeyKind → KeyKind
  | .command, .command => .command
  | .neither, _ => .neither
  | _, .neither => .neither
  | _, _ => .start

theorem KeyKind.both_neither (k : KeyKind) : k.both .neither = .neither := by cases k <;> rfl

namespace KeyReading

/-- What the keys are. -/
def kind : KeyReading → KeyKind
  | .complete _ => .command
  | .incomplete => .start
  | .invalid => .neither

@[simp] theorem kind_eq_neither {r : KeyReading} : r.kind = .neither ↔ r = .invalid := by
  cases r <;> simp [kind]

@[simp] theorem kind_eq_start {r : KeyReading} : r.kind = .start ↔ r = .incomplete := by
  cases r <;> simp [kind]

@[simp] theorem kind_eq_command {r : KeyReading} : r.kind = .command ↔ ∃ c, r = .complete c := by
  cases r <;> simp [kind]

@[simp] theorem kind_followed (first : NormalCommand) (r : KeyReading) :
    (r.followed first).kind = r.kind := by cases r <;> rfl

@[simp] theorem kind_eitherWay (mark : Char) (r r' : KeyReading) :
    (r.eitherWay mark r').kind = r.kind.both r'.kind := by cases r <;> cases r' <;> rfl

end KeyReading

namespace NormalCommand

/-! ## Commands behind count and register -/

/-- What keys behind count and register are. -/
def actionKind (keys : Text) : KeyKind := (readAction none none keys).kind

theorem kind_readAction (count : Option Nat) (register : Option Char) (keys : Text) :
    (readAction count register keys).kind = actionKind keys := by
  unfold actionKind readAction
  split
  · rfl
  split
  · rfl
  · cases keys with
    | nil => rfl
    | cons key rest =>
      simp only [readCompound]
      split
      · rfl
      split
      · rfl
      split
      · rfl
      · rfl
      · split <;> rfl

/-- The kind of keys from which a count was taken: the keys behind a motion to the last line are
read anew. -/
def countedKind (again : Text → KeyReading) : Text → KeyKind
  | 'G' :: next :: rest => (again (next :: rest)).kind
  | body => actionKind body

theorem countedKind_of_ne (again : Text → KeyReading) {body : Text}
    (hbody : ∀ next rest, body ≠ 'G' :: next :: rest) :
    countedKind again body = actionKind body := by
  unfold countedKind
  split
  · exact absurd rfl (hbody _ _)
  · rfl

theorem kind_readCounted (again : Text → KeyReading) (count : Option Nat)
    (register : Option Char) (keys : Text) :
    (readCounted again count register keys).kind = countedKind again (afterCount keys) := by
  unfold readCounted afterCount
  rcases splitCount keys with ⟨inner, body⟩
  dsimp only
  split
  · exact KeyReading.kind_followed _ _
  · rename_i hbody
    exact (kind_readAction _ _ _).trans (countedKind_of_ne again hbody).symm

/-! ## Fuel -/

theorem readCounted_congr {again again' : Text → KeyReading} {keys : Text}
    (h : ∀ rest : Text, rest.length < keys.length → again rest = again' rest)
    (count : Option Nat) (register : Option Char) :
    readCounted again count register keys = readCounted again' count register keys := by
  unfold readCounted
  dsimp only
  have hle := afterCount_length_le keys
  unfold afterCount at hle
  split
  · rename_i next rest hbody
    rw [hbody] at hle
    rw [h _ (by simp at hle ⊢; omega)]
  · rfl

/-- Fuel for every key is enough. -/
theorem readFrom_eq {n m : Nat} {keys : Text} (hn : keys.length < n) (hm : keys.length < m)
    (register : Option Char) : readFrom n register keys = readFrom m register keys := by
  induction n generalizing m keys register with
  | zero => omega
  | succ n ih =>
    obtain ⟨m, rfl⟩ : ∃ k, m = k + 1 := ⟨m - 1, by omega⟩
    -- the keys that are read next are shorter, so either fuel reads them alike
    have hagain : ∀ register (rest : Text), rest.length < keys.length →
        readFrom n register rest = readFrom m register rest :=
      fun register rest hrest => ih (by omega) (by omega) register
    have hcount := afterCount_length_le keys
    unfold afterCount at hcount
    cases register with
    | some name => exact readCounted_congr (hagain (some name)) _ _
    | none =>
      unfold readFrom
      split
      · rfl
      · rfl
      · rfl
      · rfl
      · rw [hagain none _ (by simp only [List.length_cons]; omega),
          hagain (some _) _ (by simp only [List.length_cons]; omega)]
      · split
        · rfl
        · rename_i hsplit
          rw [hsplit] at hcount
          rw [hagain none _ (by simp at hcount; omega)]
        · rfl
        · rename_i rest hsplit
          rw [hsplit] at hcount
          simp only [List.length_cons] at hcount
          split
          · exact readCounted_congr (fun rest' hrest => hagain _ _ (by omega)) _ _
          · rfl
        · rename_i hsplit
          rw [hsplit] at hcount
          dsimp only at hcount
          exact readCounted_congr (fun rest' hrest => hagain _ _ (by omega)) _ _

/-- What keys are if a register may have been chosen before them. -/
def kindAfter (register : Option Char) (keys : Text) : KeyKind :=
  (readFrom (keys.length + 1) register keys).kind

theorem kind_read (keys : Text) : (read keys).kind = kindAfter none keys := rfl

theorem kind_readFrom {n : Nat} {keys : Text} (hn : keys.length < n) (register : Option Char) :
    (readFrom n register keys).kind = kindAfter register keys := by
  rw [kindAfter, readFrom_eq hn (Nat.lt_succ_self _)]

/-! ## Actions -/

/-- The keys that start inserting begin a command, whatever follows. -/
theorem actionKind_insert {key : Char} (h : key ∈ insertKeys.map Prod.fst) (rest : Text) :
    actionKind (key :: rest) = .command := by
  have hkey : key = 'i' ∨ key = 'a' ∨ key = 'A' ∨ key = 'I' ∨ key = 'o' ∨ key = 'O' := by
    simpa [insertKeys] using h
  have hopen : (openKeys.any fun k => k.toList = key :: rest) = false := by
    rcases hkey with rfl | rfl | rfl | rfl | rfl | rfl <;> simp [openKeys]
  have hnone : (actions.find? fun a => a.1.toList = key :: rest) = none := by
    rcases hkey with rfl | rfl | rfl | rfl | rfl | rfl <;> simp [actions]
  simp only [actionKind, readAction, hopen, hnone, readCompound]
  rcases hkey with rfl | rfl | rfl | rfl | rfl | rfl <;> rfl

theorem lookup_insertKeys {key : Char} (h : key ∉ insertKeys.map Prod.fst) :
    insertKeys.lookup key = none := by
  rw [List.lookup_eq_none_iff]
  rintro ⟨k, kind⟩ hk
  simp only [bne_iff_ne, ne_eq]
  rintro rfl
  exact h (List.mem_map_of_mem hk)

/-- A key that is no operator and does not start inserting is the start of nothing longer. -/
theorem compound_other {key : Char} (hinsert : key ∉ insertKeys.map Prod.fst)
    (hoperator : key ∉ ['d', 'y', 'c']) (rest : Text) :
    (readCompound none none (key :: rest)).kind = .neither := by
  simp only [readCompound, lookup_insertKeys hinsert]
  rw [if_pos hoperator]
  rfl

/-- What an operator and the keys after it are, with the count between its two keys. -/
def operatorKind (key : Char) : Option Nat × Text → KeyKind
  | (none, _) => .neither
  | (some _, []) => .start
  | (some _, keys) => if (operatorAction? key keys).isSome then .command else .neither

theorem compound_operator {key : Char} (h : key ∈ ['d', 'y', 'c']) (rest : Text) :
    (readCompound none none (key :: rest)).kind = operatorKind key (splitCount rest) := by
  have hkey : key = 'd' ∨ key = 'y' ∨ key = 'c' := by simpa using h
  have hnone : insertKeys.lookup key = none := by rcases hkey with rfl | rfl | rfl <;> rfl
  simp only [readCompound, hnone]
  rw [if_neg (not_not_intro h)]
  rcases splitCount rest with ⟨_ | n, _ | ⟨k, ks⟩⟩
  · rfl
  · rfl
  · rfl
  · dsimp only [operatorKind]
    cases operatorAction? key (k :: ks) <;> rfl

theorem operatorAction?_length {key : Char} {keys : Text}
    (h : (operatorAction? key keys).isSome) : keys.length = 1 := by
  unfold operatorAction? at h
  split at h <;> first | rfl | cases h

/-- The pairs of keys that are actions. -/
def pairs : List (Char × Char) :=
  [('d', 'd'), ('y', 'y'), ('c', 'c'), ('d', 'w'), ('c', 'w'), ('g', 'g')]

theorem actionKind_pair {key next : Char} (h : (key, next) ∈ pairs) :
    actionKind [key, next] = .command := by
  simp only [pairs, List.mem_cons, Prod.mk.injEq, List.not_mem_nil, or_false] at h
  rcases h with ⟨rfl, rfl⟩ | ⟨rfl, rfl⟩ | ⟨rfl, rfl⟩ | ⟨rfl, rfl⟩ | ⟨rfl, rfl⟩ | ⟨rfl, rfl⟩ <;> rfl

/-- Other keys than a pair are a compound, if they are more than one. -/
theorem actionKind_compound {key next : Char} {rest : Text}
    (h : ¬ ((key, next) ∈ pairs ∧ rest = [])) :
    actionKind (key :: next :: rest) = (readCompound none none (key :: next :: rest)).kind := by
  have hopen : (openKeys.any fun k => k.toList = key :: next :: rest) = false := by simp [openKeys]
  have hnone : (actions.find? fun a => a.1.toList = key :: next :: rest) = none := by
    simp only [pairs, List.mem_cons, Prod.mk.injEq, List.not_mem_nil, or_false] at h
    simp [actions]
    grind
  simp only [actionKind, readAction, hopen, hnone]
  rfl

/-- A single key is an action, starts something longer, or is neither. -/
theorem actionKind_single {key : Char} (hinsert : key ∉ insertKeys.map Prod.fst)
    (hoperator : key ∉ ['d', 'y', 'c']) (hg : key ≠ 'g') (h : actionKind [key] ≠ .command) :
    actionKind [key] = .neither := by
  have hopen : (openKeys.any fun k => k.toList = [key]) = false := by
    simp only [List.mem_cons, List.not_mem_nil, or_false, not_or] at hoperator
    simp only [openKeys]
    grind
  have hother := compound_other hinsert hoperator []
  simp only [actionKind, readAction, hopen] at h ⊢
  cases hfind : actions.find? fun a => a.1.toList = [key] with
  | some a =>
    rw [hfind] at h
    exact absurd rfl h
  | none => exact hother

/-- The keys of marks and registers are no actions. -/
theorem actionKind_named {key : Char} (h : key ∈ ['m', '\'', '"']) (rest : Text) :
    actionKind (key :: rest) = .neither := by
  have hkey : key = 'm' ∨ key = '\'' ∨ key = '"' := by simpa using h
  cases rest with
  | nil => rcases hkey with rfl | rfl | rfl <;> rfl
  | cons next rest =>
    have hpair : (key, next) ∉ pairs := by rcases hkey with rfl | rfl | rfl <;> simp [pairs]
    rw [actionKind_compound fun h => hpair h.1]
    exact compound_other (by rcases hkey with rfl | rfl | rfl <;> decide)
      (by rcases hkey with rfl | rfl | rfl <;> decide) _

/-! ## Keys with their count -/

/-- What keys behind a count are. Going to the last line first does not change what the keys after
`G` are, and a register can be chosen once. -/
def bodyKind (register : Option Char) : Text → KeyKind
  | 'G' :: next :: rest => kindAfter register (next :: rest)
  | '"' :: rest =>
    match register, rest with
    | some _, _ => .neither
    | none, [] => .start
    | none, name :: rest => if Register.isName name then kindAfter (some name) rest else .neither
  | body => actionKind body

theorem bodyKind_action {key : Char} (hlast : key ≠ 'G') (hquote : key ≠ '"')
    (register : Option Char) (rest : Text) :
    bodyKind register (key :: rest) = actionKind (key :: rest) := by
  unfold bodyKind
  split
  · rename_i heq
    exact absurd (List.cons.inj heq).1 hlast
  · rename_i heq
    exact absurd (List.cons.inj heq).1 hquote
  · rfl

/-- Keys with a count are what the keys behind it are. A quote there is still to be read, unless a
register was chosen before. -/
theorem kind_readCounted_body {n : Nat} {register : Option Char} {keys : Text}
    (hn : keys.length ≤ n) (hquote : register.isSome ∨ (afterCount keys).head? ≠ some '"')
    (count : Option Nat) :
    (readCounted (readFrom n register) count register keys).kind =
      bodyKind register (afterCount keys) := by
  have hle := afterCount_length_le keys
  rw [kind_readCounted]
  cases hbody : afterCount keys with
  | nil => rfl
  | cons key rest =>
    rw [hbody] at hle hquote
    by_cases hlast : key = 'G'
    · subst hlast
      cases rest with
      | nil => rfl
      | cons next rest => exact kind_readFrom (by simp at hle ⊢; omega) _
    by_cases hkey : key = '"'
    · subst hkey
      cases register with
      | none => exact absurd rfl (hquote.resolve_left Bool.false_ne_true)
      | some name => exact actionKind_named (by decide) rest
    · rw [bodyKind_action hlast hkey]
      exact countedKind_of_ne _ fun _ _ heq => hlast (List.cons.inj heq).1

theorem kindAfter_some (name : Char) (keys : Text) :
    kindAfter (some name) keys = bodyKind (some name) (afterCount keys) :=
  kind_readCounted_body (Nat.le_refl _) (.inl rfl) none

/-- Keys that neither set a mark nor go to one, and before which no register was chosen. -/
theorem kindAfter_none {keys : Text} (hmark : keys.head? ≠ some 'm')
    (hjump : keys.head? ≠ some '\'') : kindAfter none keys = bodyKind none (afterCount keys) := by
  have hcount := afterCount_length_le keys
  rw [kindAfter]
  unfold readFrom
  split
  · rfl
  · simp at hmark
  · simp at hjump
  · simp at hmark
  · simp at hjump
  · split
    · rename_i n hsplit
      have hbody : afterCount keys = ['G'] := by rw [afterCount, hsplit]
      rw [hbody]
      rfl
    · rename_i n rest hrest hsplit
      have hbody : afterCount keys = 'G' :: rest := by rw [afterCount, hsplit]
      rw [hbody] at hcount ⊢
      cases rest with
      | nil => exact absurd rfl hrest
      | cons next rest =>
        rw [KeyReading.kind_followed]
        exact kind_readFrom (by simp at hcount ⊢; omega) none
    · rename_i hsplit
      have hbody : afterCount keys = ['"'] := by rw [afterCount, hsplit]
      rw [hbody]
      rfl
    · rename_i count name rest hsplit
      have hbody : afterCount keys = '"' :: name :: rest := by rw [afterCount, hsplit]
      rw [hbody] at hcount ⊢
      by_cases hname : Register.isName name = true
      · have hrest : rest.length ≤ keys.length := by simp at hcount; omega
        rw [if_pos hname, kind_readCounted_body hrest (.inl rfl), ← kindAfter_some]
        exact (if_pos hname).symm
      · rw [if_neg hname]
        exact (if_neg hname).symm
    · rename_i count body _ _ hregister hnamed hsplit
      have hbody : afterCount keys = body := by rw [afterCount, hsplit]
      have hquote : body.head? ≠ some '"' := fun hhead => by
        rcases body with _ | ⟨key, _ | ⟨name, rest⟩⟩ <;> cases hhead
        · exact hregister rfl
        · exact hnamed name rest rfl
      have hsame : afterCount body = body := by rw [← hbody, afterCount_afterCount]
      rw [hbody] at hcount ⊢
      rw [kind_readCounted_body hcount (.inr (hsame.symm ▸ hquote)), hsame]

/-- A mark is set by one small letter. -/
theorem kindAfter_mark (mark : Char) (rest : Text) :
    kindAfter none ('m' :: mark :: rest) =
      if isLowerLetter mark && rest.isEmpty then .command else .neither := by
  simp only [kindAfter, readFrom]
  split <;> rfl

/-- Keys that go to a mark. The keys after it are read with and without the mark as a register. -/
theorem kindAfter_jump (mark : Char) (rest : Text) :
    kindAfter none ('\'' :: mark :: rest) =
      if !isLowerLetter mark then .neither
      else if rest.isEmpty then .command
      else (kindAfter none rest).both (kindAfter (some mark) rest) := by
  have hfuel : ∀ register, (readFrom ('\'' :: mark :: rest).length register rest).kind =
      kindAfter register rest := fun register =>
    kind_readFrom (by simp only [List.length_cons]; omega) register
  simp only [kindAfter, readFrom]
  split
  · rfl
  split
  · rfl
  · rw [KeyReading.kind_eitherWay, hfuel, hfuel]
    rfl

/-! ## Keys with and without a register -/

/-- With a register before them, keys are what they are without one, or neither. -/
theorem kindAfter_agree {name : Char} {keys : Text} (h : kindAfter (some name) keys ≠ .neither) :
    kindAfter none keys = kindAfter (some name) keys := by
  induction hn : keys.length using Nat.strong_induction_on generalizing keys with
  | _ n ih =>
    have hle := afterCount_length_le keys
    rw [kindAfter_some] at h ⊢
    -- neither the keys themselves nor those behind the count name a mark or a register
    have hhead : ∀ c ∈ ['m', '\''], keys.head? ≠ some c := by
      intro c hc hkeys
      obtain ⟨tail, rfl⟩ := List.head?_eq_some_iff.mp hkeys
      have hc' : c = 'm' ∨ c = '\'' := by simpa using hc
      refine h ?_
      rw [afterCount_of_not_digit (by rcases hc' with rfl | rfl <;> rfl),
        bodyKind_action (by rcases hc' with rfl | rfl <;> decide)
          (by rcases hc' with rfl | rfl <;> decide)]
      exact actionKind_named (List.mem_append_left ['"'] hc) tail
    rw [kindAfter_none (hhead 'm' (by decide)) (hhead '\'' (by decide))]
    cases hbody : afterCount keys with
    | nil => rfl
    | cons key rest =>
      rw [hbody] at h hle
      by_cases hlast : key = 'G'
      · subst hlast
        cases rest with
        | nil => rfl
        | cons next rest => exact ih _ (by simp at hle ⊢; omega) h rfl
      · have hquote : key ≠ '"' := by
          rintro rfl
          exact h rfl
        rw [bodyKind_action hlast hquote, bodyKind_action hlast hquote]

end NormalCommand
end ModalEditor
