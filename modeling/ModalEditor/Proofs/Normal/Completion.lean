import ModalEditor.Proofs.Normal.Kind

/-!
# Keys that can still become a command

Keys are read again with every key that is typed, so the reading of a row of keys has to be right
about those that are still missing. Keys that are neither a command nor the start of one stay so
(`read_append_invalid`), and the start of a command can always become one (`exists_read_complete`).

The argument follows the grammar. The difficult keys are those behind a mark: they are read twice,
on their own and with the mark as a register, and one row of keys has to complete both readings.
That there is one is `kindAfter_agree`: if the second reading is possible at all, the two are of one
kind.
-/

namespace ModalEditor.NormalCommand

/-- What is neither a command nor the start of one stays so, and what is a start can become a
command. -/
structure PrefixSound (kind : Text → KeyKind) (keys : Text) : Prop where
  /-- More keys do not help. -/
  neither : kind keys = .neither → ∀ more, kind (keys ++ more) = .neither
  /-- Some keys are missing. -/
  start : kind keys = .start → ∃ more, kind (keys ++ more) = .command

theorem PrefixSound.of_command {kind : Text → KeyKind} {keys : Text} (h : kind keys = .command) :
    PrefixSound kind keys :=
  ⟨fun hn => (by rw [h] at hn; cases hn), fun hs => (by rw [h] at hs; cases hs)⟩

theorem PrefixSound.of_neither {kind : Text → KeyKind} {keys : Text}
    (h : ∀ more, kind (keys ++ more) = .neither) : PrefixSound kind keys := by
  refine ⟨fun _ => h, fun hs => ?_⟩
  have hkeys := h []
  rw [List.append_nil, hs] at hkeys
  cases hkeys

theorem PrefixSound.of_start {kind : Text → KeyKind} {keys : Text} (more : Text)
    (h : kind keys = .start) (hmore : kind (keys ++ more) = .command) : PrefixSound kind keys :=
  ⟨fun hn => (by rw [h] at hn; cases hn), fun _ => ⟨more, hmore⟩⟩

/-- Keys that are read as others are, whatever follows. -/
theorem PrefixSound.congr {kind kind' : Text → KeyKind} {keys keys' : Text}
    (h : PrefixSound kind' keys') (heq : ∀ more, kind (keys ++ more) = kind' (keys' ++ more)) :
    PrefixSound kind keys := by
  have hkeys := heq []
  rw [List.append_nil, List.append_nil] at hkeys
  refine ⟨fun hn more => ?_, fun hs => ?_⟩
  · rw [heq, h.neither (hkeys ▸ hn)]
  · obtain ⟨more, hmore⟩ := h.start (hkeys ▸ hs)
    exact ⟨more, by rw [heq, hmore]⟩

/-! ## Actions -/

/-- The keys after an operator. Digits that write too large a number are completed by nothing, and
behind any other count a single key is missing. -/
theorem operatorKind_prefixSound {key : Char} (hdigit : isDigit key = false)
    (hdouble : (operatorAction? key [key]).isSome) {keys : Text} (hne : keys ≠ []) :
    PrefixSound (fun keys => operatorKind key (splitCount keys)) keys := by
  rcases hsplit : splitCount keys with ⟨_ | n, _ | ⟨k, ks⟩⟩
  case none.nil | none.cons =>
    refine .of_neither fun more => ?_
    have hnone := splitCount_append_none hne (congrArg Prod.fst hsplit) more
    generalize splitCount (keys ++ more) = found at hnone
    obtain ⟨_, body⟩ := found
    obtain rfl := hnone
    rfl
  case some.nil =>
    refine .of_start [key] (congrArg (operatorKind key) hsplit) ?_
    rw [splitCount_append_of_nil (congrArg Prod.snd hsplit) hdigit, hsplit]
    exact if_pos hdouble
  case some.cons =>
    have hbody : afterCount keys = k :: ks := congrArg Prod.snd hsplit
    by_cases haction : (operatorAction? key (k :: ks)).isSome
    · exact .of_command ((congrArg (operatorKind key) hsplit).trans (if_pos haction))
    · refine .of_neither fun more => ?_
      rw [splitCount_append (by rw [hbody]; exact List.cons_ne_nil _ _), hsplit, hbody]
      refine if_neg fun hmore => haction ?_
      have hlength := operatorAction?_length hmore
      rw [List.length_append, List.length_cons] at hlength
      obtain rfl : more = [] := List.eq_nil_of_length_eq_zero (by omega)
      rwa [List.append_nil] at hmore

theorem operator_prefixSound {key : Char} (h : key ∈ ['d', 'y', 'c']) (rest : Text) :
    PrefixSound actionKind (key :: rest) := by
  have hkey : key = 'd' ∨ key = 'y' ∨ key = 'c' := by simpa using h
  have hdigit : isDigit key = false := by rcases hkey with rfl | rfl | rfl <;> rfl
  have hdouble : (operatorAction? key [key]).isSome := by rcases hkey with rfl | rfl | rfl <;> rfl
  cases rest with
  | nil =>
    refine .of_start [key] ?_ ?_
    · rcases hkey with rfl | rfl | rfl <;> rfl
    · rcases hkey with rfl | rfl | rfl <;> rfl
  | cons next rest =>
    by_cases hpair : (key, next) ∈ pairs ∧ rest = []
    · obtain ⟨hmem, rfl⟩ := hpair
      exact .of_command (actionKind_pair hmem)
    -- keys that are no pair do not become one
    · refine (operatorKind_prefixSound hdigit hdouble (List.cons_ne_nil next rest)).congr
        fun more => ?_
      rw [← compound_operator h]
      exact actionKind_compound fun hmore => hpair ⟨hmore.1, (List.append_eq_nil_iff.mp hmore.2).1⟩

theorem actionKind_prefixSound (keys : Text) : PrefixSound actionKind keys := by
  cases keys with
  | nil => exact .of_start ['x'] rfl rfl
  | cons key rest =>
    by_cases hinsert : key ∈ insertKeys.map Prod.fst
    · exact .of_command (actionKind_insert hinsert rest)
    by_cases hoperator : key ∈ ['d', 'y', 'c']
    · exact operator_prefixSound hoperator rest
    by_cases hcommand : actionKind (key :: rest) = .command
    · exact .of_command hcommand
    have hlong : ∀ {next : Char} {more : Text}, ¬ ((key, next) ∈ pairs ∧ more = []) →
        actionKind (key :: next :: more) = .neither := fun hpair => by
      rw [actionKind_compound hpair, compound_other hinsert hoperator]
    cases rest with
    | nil =>
      by_cases hg : key = 'g'
      · subst hg
        exact .of_start ['g'] rfl rfl
      · refine .of_neither fun more => ?_
        cases more with
        | nil => exact actionKind_single hinsert hoperator hg hcommand
        | cons next more =>
          refine hlong fun hpair => ?_
          have hmem := hpair.1
          simp only [pairs, List.mem_cons, Prod.mk.injEq, List.not_mem_nil, or_false] at hmem
          grind
    | cons next rest =>
      refine .of_neither fun more => hlong fun hpair => ?_
      obtain ⟨hrest, -⟩ := List.append_eq_nil_iff.mp hpair.2
      subst hrest
      exact hcommand (actionKind_pair hpair.1)

/-! ## All keys -/

/-- Keys whose kind is that of what follows a count. -/
theorem PrefixSound.of_count {kind kind' : Text → KeyKind} {keys : Text}
    (h : ∀ more, kind (keys ++ more) = kind' (afterCount (keys ++ more)))
    (hstart : kind' [] = .start) (hcommand : kind' ['x'] = .command)
    (hbody : afterCount keys ≠ [] → PrefixSound kind' (afterCount keys)) :
    PrefixSound kind keys := by
  by_cases hnil : afterCount keys = []
  · refine .of_start ['x'] ?_ ?_
    · have hkeys := h []
      rwa [List.append_nil, hnil, hstart] at hkeys
    · rw [h, afterCount, splitCount_append_of_nil hnil rfl]
      exact hcommand
  · exact (hbody hnil).congr fun more => by rw [h, afterCount_append hnil]

theorem bodyKind_prefixSound {body : Text} (hne : body ≠ [])
    (ih : ∀ register (rest : Text), rest.length < body.length →
      PrefixSound (kindAfter register) rest) (register : Option Char) :
    PrefixSound (bodyKind register) body := by
  cases body with
  | nil => exact absurd rfl hne
  | cons key rest =>
    by_cases hlast : key = 'G'
    · subst hlast
      cases rest with
      | nil => exact .of_command rfl
      | cons next rest => exact (ih register (next :: rest) (by simp)).congr fun _ => rfl
    by_cases hquote : key = '"'
    · subst hquote
      cases register with
      | some name => exact .of_neither fun _ => rfl
      | none =>
        cases rest with
        | nil => exact .of_start ['a', 'x'] rfl rfl
        | cons name rest =>
          by_cases hname : Register.isName name = true
          · have hshorter : rest.length < ('"' :: name :: rest).length := by
              simp only [List.length_cons]
              omega
            exact (ih (some name) rest hshorter).congr fun _ => if_pos hname
          · exact .of_neither fun _ => if_neg hname
    · exact (actionKind_prefixSound (key :: rest)).congr fun _ => bodyKind_action hlast hquote _ _

theorem mark_prefixSound (rest : Text) : PrefixSound (kindAfter none) ('m' :: rest) := by
  cases rest with
  | nil => exact .of_start ['a'] rfl rfl
  | cons mark rest =>
    by_cases h : (isLowerLetter mark && rest.isEmpty) = true
    · exact .of_command ((kindAfter_mark mark rest).trans (if_pos h))
    · refine .of_neither fun more => (kindAfter_mark mark (rest ++ more)).trans (if_neg ?_)
      intro hmore
      simp only [Bool.and_eq_true, List.isEmpty_iff, List.append_eq_nil_iff] at h hmore
      exact h ⟨hmore.1, hmore.2.1⟩

/-- Keys that go to a mark and more. Whatever completes them as the keys of a register completes
them without one too. -/
theorem jump_prefixSound {mark : Char} {rest : Text}
    (ih : ∀ register, PrefixSound (kindAfter register) rest) :
    PrefixSound (kindAfter none) ('\'' :: mark :: rest) := by
  have hkind : ∀ more, kindAfter none (('\'' :: mark :: rest) ++ more) =
      if !isLowerLetter mark then .neither
      else if (rest ++ more).isEmpty then .command
      else (kindAfter none (rest ++ more)).both (kindAfter (some mark) (rest ++ more)) :=
    fun more => kindAfter_jump mark (rest ++ more)
  cases hmark : isLowerLetter mark with
  | false => exact .of_neither fun more => by rw [hkind, hmark]; rfl
  | true =>
    cases rest with
    | nil => exact .of_command (by rw [kindAfter_jump, hmark]; rfl)
    | cons next rest =>
      have hboth : ∀ more, kindAfter none (('\'' :: mark :: next :: rest) ++ more) =
          (kindAfter none (next :: rest ++ more)).both
            (kindAfter (some mark) (next :: rest ++ more)) := fun more => by
        rw [hkind, hmark]
        rfl
      have hkeys := hboth []
      rw [List.append_nil, List.append_nil] at hkeys
      by_cases hnone : kindAfter (some mark) (next :: rest) = .neither
      · refine .of_neither fun more => ?_
        rw [hboth, (ih (some mark)).neither hnone, KeyKind.both_neither]
      -- a register is possible, so both readings are of one kind, now and whatever follows
      have hsame := kindAfter_agree hnone
      rw [hsame] at hkeys
      cases hkind' : kindAfter (some mark) (next :: rest) with
      | neither => exact absurd hkind' hnone
      | command =>
        rw [hkind'] at hkeys
        exact .of_command hkeys
      | start =>
        rw [hkind'] at hkeys
        obtain ⟨more, hmore⟩ := (ih (some mark)).start hkind'
        refine .of_start more hkeys ?_
        rw [hboth, kindAfter_agree (by rw [hmore]; simp), hmore]
        rfl

/-- What keys are never depends on keys that are missing, whether a register is chosen or not. -/
theorem kindAfter_prefixSound (register : Option Char) (keys : Text) :
    PrefixSound (kindAfter register) keys := by
  -- on the length, as the keys behind a mark, a register or `G` are read as keys of their own
  induction hn : keys.length using Nat.strong_induction_on generalizing register keys with
  | _ n ih =>
    have hle := afterCount_length_le keys
    have hbody : ∀ register, afterCount keys ≠ [] →
        PrefixSound (bodyKind register) (afterCount keys) := fun register hne =>
      bodyKind_prefixSound hne (fun register rest _ => ih _ (by omega) register rest rfl) register
    cases register with
    | some name => exact .of_count (fun more => kindAfter_some name _) rfl rfl (hbody _)
    | none =>
      cases keys with
      | nil => exact .of_start ['x'] rfl rfl
      | cons key rest =>
        by_cases hmark : key = 'm'
        · subst hmark
          exact mark_prefixSound rest
        by_cases hjump : key = '\''
        · subst hjump
          cases rest with
          | nil => exact .of_start ['a'] rfl rfl
          | cons mark rest =>
            exact jump_prefixSound fun register =>
              ih _ (by simp at hn; omega) register rest rfl
        · exact .of_count (fun more => kindAfter_none (by simpa using hmark) (by simpa using hjump))
            rfl rfl (hbody none)

/-- Keys that are no command and no start of one stay so, whatever follows. -/
theorem read_append_invalid {keys : Text} (h : read keys = .invalid) (more : Text) :
    read (keys ++ more) = .invalid := by
  rw [← KeyReading.kind_eq_neither, kind_read] at h ⊢
  exact (kindAfter_prefixSound none keys).neither h more

/-- Keys that are the start of a command can become one. -/
theorem exists_read_complete {keys : Text} (h : read keys = .incomplete) :
    ∃ more c, read (keys ++ more) = .complete c := by
  rw [← KeyReading.kind_eq_start, kind_read] at h
  obtain ⟨more, hmore⟩ := (kindAfter_prefixSound none keys).start h
  exact ⟨more, KeyReading.kind_eq_command.mp hmore⟩

end ModalEditor.NormalCommand
