import ModalEditor.Proofs.Ex.Delimited
import ModalEditor.Proofs.Ex.Prefix

/-!
# How large a command is

A mark in front of a command stands for two readings, and the command that is read has them both:
what stands behind the mark is in it twice. One mark makes a command no larger than its text allows,
but each further mark in front of it doubles the command for two characters more. `'x` and `"x` are
the only forms that contain other commands, and each takes two characters (`readFrom_cases`); from
this a bound for every line follows by induction (`readFrom_nodeCount`), and lines in which the
marks come first reach it (`nodeCount_nestedCommand`).
-/

namespace ModalEditor.ExCommand

/-- How many marks stand in front of a command. -/
def marksInFront : ExCommand → Nat
  | .atMark _ next _ => next.marksInFront + 1
  | .withRegister _ next => next.marksInFront
  | _ => 0

theorem nodeCount_plain {c : ExCommand} (h : c.IsPlain) : c.nodeCount = 1 := by
  cases c with
  | atMark => exact h.elim
  | withRegister => exact h.elim
  | _ => rfl

theorem marksInFront_plain {c : ExCommand} (h : c.IsPlain) : c.marksInFront = 0 := by
  cases c with
  | atMark => exact h.elim
  | withRegister => exact h.elim
  | _ => rfl

/-! ## Which commands contain others -/

/-- A command that is read, if one is, contains no other. -/
def ReadsPlain (r : Except EditorError ExCommand) : Prop := ∀ c, r = .ok c → c.IsPlain

theorem readsPlain_ok {c : ExCommand} (h : c.IsPlain) : ReadsPlain (.ok c) := by
  rintro _ ⟨⟩
  exact h

theorem readsPlain_error (e : EditorError) : ReadsPlain (.error e) := by
  intro c hc
  cases hc

theorem readsPlain_bind {α : Type} {x : Except EditorError α} {f : α → Except EditorError ExCommand}
    (h : ∀ a, ReadsPlain (f a)) : ReadsPlain (x >>= f) := by
  cases x with
  | error e => exact readsPlain_error e
  | ok a => exact h a

theorem readsPlain_ite {p : Prop} [Decidable p] {r s : Except EditorError ExCommand}
    (hr : ReadsPlain r) (hs : ReadsPlain s) : ReadsPlain (if p then r else s) := by
  split
  · exact hr
  · exact hs

theorem readNamed_readsPlain (range : Range) (text name : Text) (bang : Bool) (args : Text) :
    ReadsPlain (readNamed range text name bang args) := by
  unfold readNamed
  -- One branch for each name. Each gives a command at once, or reads its arguments first, or fails.
  repeat' refine readsPlain_ite ?_ ?_
  all_goals
    first
      | exact readsPlain_ok trivial
      | exact readsPlain_error _
      | exact readsPlain_bind fun _ => readsPlain_ok trivial

theorem readGlobal_readsPlain (range : Range) (inverse : Bool) (t : Text) :
    ReadsPlain (readGlobal range inverse t) := by
  unfold readGlobal
  split
  · exact readsPlain_error _
  · exact readsPlain_bind fun _ => readsPlain_ok trivial

/-- No command that is read after its range contains another. -/
theorem readCommand_readsPlain (range : Range) (text : Text) :
    ReadsPlain (readCommand range text) := by
  unfold readCommand
  split
  · exact readsPlain_ok trivial
  · exact readsPlain_ok trivial
  · exact readsPlain_ok trivial
  · split
    · unfold readSubstitute
      split <;> exact readsPlain_ok trivial
    · exact readGlobal_readsPlain _ _ _
    · dsimp only
      split <;> exact readNamed_readsPlain _ _ _ _ _

section Reading

variable {fuel : Nat} {line : Text} {c : ExCommand}

theorem length_trim_le (t : Text) : (Text.trim t).length ≤ t.length := by
  unfold Text.trim Text.trimEnd
  rw [List.length_reverse]
  refine Nat.le_trans (List.dropWhile_suffix _).length_le ?_
  rw [List.length_reverse]
  exact (Text.trimStart_suffix t).length_le

/-- A mark takes two characters, and something follows it. -/
theorem splitMark?_length {mark : Char} {t rest : Text} (h : splitMark? t = some (mark, rest)) :
    rest ≠ [] ∧ rest.length + 2 ≤ t.length := by
  unfold splitMark? at h
  split at h
  · rename_i c after
    dsimp only at h
    split at h
    · cases h
    · rename_i hfollows
      cases h
      have hle := (Text.trimStart_suffix after).length_le
      refine ⟨?_, Nat.add_le_add_right hle 2⟩
      rintro hempty
      exact hfollows (by rw [hempty]; simp)
  · cases h

/-- A command contains others only if a mark or a register stands in front of a shorter line. -/
theorem readFrom_cases (h : readFrom (fuel + 1) line = .ok c) :
    c.IsPlain ∨
    ∃ name rest next, rest ≠ [] ∧ rest.length + 2 ≤ line.length ∧
      readFrom fuel rest = .ok next ∧
      (c = .withRegister name next ∨ c = .atMark name next (.withRegister name next)) := by
  have hshorter : ∀ {rest : Text}, rest.length + 2 ≤ (Text.trim line).length →
      rest.length + 2 ≤ line.length := fun hle => Nat.le_trans hle (length_trim_le line)
  unfold readFrom at h
  dsimp only at h
  split at h
  · rename_i mark rest hmark
    obtain ⟨hne, hle⟩ := splitMark?_length hmark
    cases hnext : readFrom fuel rest with
    | error e => rw [hnext] at h; cases h
    | ok next =>
      rw [hnext] at h
      cases h
      exact .inr ⟨mark, rest, next, hne, hshorter hle, hnext, .inr rfl⟩
  · split at h
    · rename_i name rest hline
      split at h
      · cases h
      split at h
      · cases h
        exact .inl trivial
      · rename_i hempty
        have hle := (Text.trimStart_suffix rest).length_le
        cases hnext : readFrom fuel (Text.trimStart rest) with
        | error e => rw [hnext] at h; cases h
        | ok next =>
          rw [hnext] at h
          cases h
          refine .inr ⟨name, Text.trimStart rest, next, ?_, hshorter ?_, hnext, .inl rfl⟩
          · simpa using hempty
          · rw [hline]
            exact Nat.add_le_add_right hle 2
    · cases h
    · exact .inl (readCommand_readsPlain _ _ c h)

/-- There is room for the marks in front of a command and for something behind them. -/
theorem readFrom_marksInFront (h : readFrom fuel line = .ok c) :
    2 * c.marksInFront ≤ line.length - 1 := by
  induction fuel generalizing line c with
  | zero => cases h
  | succ fuel ih =>
    rcases readFrom_cases h with hplain | ⟨name, rest, next, hrest, hle, hnext, rfl | rfl⟩
    · rw [marksInFront_plain hplain]
      exact Nat.zero_le _
    · have hmarks := ih hnext
      rw [marksInFront]
      omega
    · have hmarks := ih hnext
      have hpos := List.length_pos_iff.mpr hrest
      rw [marksInFront]
      omega

/-- Each mark doubles what stands behind it. Behind all marks, each register takes two characters
and counts for one command. -/
theorem readFrom_nodeCount (h : readFrom fuel line = .ok c) :
    c.nodeCount + 2 ≤ 2 ^ c.marksInFront * ((line.length - 1 - 2 * c.marksInFront) / 2 + 3) := by
  induction fuel generalizing line c with
  | zero => cases h
  | succ fuel ih =>
    rcases readFrom_cases h with hplain | ⟨name, rest, next, hrest, hle, hnext, rfl | rfl⟩
    · rw [nodeCount_plain hplain, marksInFront_plain hplain]
      omega
    · have hmarks := readFrom_marksInFront hnext
      have hpos := List.length_pos_iff.mpr hrest
      have hroom : (rest.length - 1 - 2 * next.marksInFront) / 2 + 3 + 1 ≤
          (line.length - 1 - 2 * next.marksInFront) / 2 + 3 := by omega
      have hpow := Nat.one_le_two_pow (n := next.marksInFront)
      calc next.nodeCount + 1 + 2
          = next.nodeCount + 2 + 1 := rfl
        _ ≤ 2 ^ next.marksInFront * ((rest.length - 1 - 2 * next.marksInFront) / 2 + 3) +
              2 ^ next.marksInFront := Nat.add_le_add (ih hnext) hpow
        _ = 2 ^ next.marksInFront * ((rest.length - 1 - 2 * next.marksInFront) / 2 + 3 + 1) :=
            (Nat.mul_succ _ _).symm
        _ ≤ 2 ^ next.marksInFront * ((line.length - 1 - 2 * next.marksInFront) / 2 + 3) :=
            Nat.mul_le_mul_left _ hroom
    · have hroom : (rest.length - 1 - 2 * next.marksInFront) / 2 + 3 ≤
          (line.length - 1 - 2 * (next.marksInFront + 1)) / 2 + 3 := by omega
      calc next.nodeCount + (next.nodeCount + 1) + 1 + 2
          = 2 * (next.nodeCount + 2) := by omega
        _ ≤ 2 * (2 ^ next.marksInFront *
              ((rest.length - 1 - 2 * next.marksInFront) / 2 + 3)) :=
            Nat.mul_le_mul_left 2 (ih hnext)
        _ = 2 ^ (next.marksInFront + 1) *
              ((rest.length - 1 - 2 * next.marksInFront) / 2 + 3) := by
            rw [Nat.pow_succ', Nat.mul_assoc]
        _ ≤ 2 ^ (next.marksInFront + 1) *
              ((line.length - 1 - 2 * (next.marksInFront + 1)) / 2 + 3) :=
            Nat.mul_le_mul_left _ hroom

end Reading

/-! ## Lines that are as large as can be -/

/-- A command of one letter behind marks. -/
def nestedLine : Nat → Text
  | 0 => ['d']
  | marks + 1 => '\'' :: 'a' :: nestedLine marks

/-- The command that the line is read as. -/
def nestedCommand : Nat → ExCommand
  | 0 => .delete .implicit none none
  | marks + 1 => .atMark 'a' (nestedCommand marks) (.withRegister 'a' (nestedCommand marks))

theorem length_nestedLine (marks : Nat) : (nestedLine marks).length = 2 * marks + 1 := by
  induction marks with
  | zero => rfl
  | succ marks ih =>
    rw [nestedLine, List.length_cons, List.length_cons, ih]
    omega

theorem marksInFront_nestedCommand (marks : Nat) : (nestedCommand marks).marksInFront = marks := by
  induction marks with
  | zero => rfl
  | succ marks ih => rw [nestedCommand, marksInFront, ih]

theorem nodeCount_nestedCommand (marks : Nat) :
    (nestedCommand marks).nodeCount + 2 = 3 * 2 ^ marks := by
  induction marks with
  | zero => rfl
  | succ marks ih =>
    rw [nestedCommand, nodeCount, nodeCount, Nat.pow_succ]
    omega

theorem trimStart_nestedLine (marks : Nat) :
    Text.trimStart (nestedLine marks) = nestedLine marks := by
  cases marks with
  | zero => exact Text.trimStart_cons (by decide) _
  | succ marks => exact Text.trimStart_cons (by decide) _

theorem trim_nestedLine (marks : Nat) : Text.trim (nestedLine marks) = nestedLine marks := by
  have hends : ∃ front, nestedLine marks = front ++ ['d'] := by
    induction marks with
    | zero => exact ⟨[], rfl⟩
    | succ marks ih =>
      obtain ⟨front, hfront⟩ := ih
      exact ⟨'\'' :: 'a' :: front, by rw [nestedLine, hfront]; rfl⟩
  have hletter : ∀ c ∈ ['d'], isBlank c = false := by
    rw [List.forall_mem_singleton]
    decide
  obtain ⟨front, hfront⟩ := hends
  rw [Text.trim, trimStart_nestedLine, hfront, Text.trimEnd_append (List.cons_ne_nil _ _) hletter]

theorem splitMark?_nestedLine (marks : Nat) :
    splitMark? (nestedLine (marks + 1)) = some ('a', nestedLine marks) := by
  have hcommand : (nestedLine marks).head?.all (· ∈ [',', ';', '+', '-']) = false := by
    cases marks with
    | zero => rfl
    | succ marks => rfl
  rw [nestedLine, splitMark?, trimStart_nestedLine, hcommand]
  rfl

theorem readFrom_nestedLine {marks fuel : Nat} (hfuel : marks < fuel) :
    readFrom fuel (nestedLine marks) = .ok (nestedCommand marks) := by
  induction marks generalizing fuel with
  | zero =>
    obtain ⟨fuel, rfl⟩ := Nat.exists_eq_succ_of_ne_zero (Nat.ne_zero_of_lt hfuel)
    exact readFrom_of_letter fuel (by decide) (trim_nestedLine 0)
  | succ marks ih =>
    obtain ⟨fuel, rfl⟩ := Nat.exists_eq_succ_of_ne_zero (Nat.ne_zero_of_lt hfuel)
    unfold readFrom
    dsimp only
    rw [trim_nestedLine, splitMark?_nestedLine]
    dsimp only
    rw [ih (Nat.lt_of_succ_lt_succ hfuel)]
    rfl

/-! ## How large a command is -/

/-- A command with at most one mark in front of it contains at most as many commands as its text has
characters, and one more. In general each mark doubles the bound, so that it is exponential in the
length of the text, and marks in front of a command of one letter reach it. -/
theorem readLine_nodeCount_le :
    (∀ (line : Text) (c : ExCommand), readLine line = .ok c →
      (c.marksInFront ≤ 1 → c.nodeCount ≤ line.length + 1) ∧
      c.nodeCount + 2 ≤ 2 ^ c.marksInFront * ((line.length - 1 - 2 * c.marksInFront) / 2 + 3) ∧
      c.nodeCount + 2 ≤ 3 * 2 ^ ((line.length - 1) / 2)) ∧
    ∀ marks : Nat, ∃ (line : Text) (c : ExCommand), line.length = 2 * marks + 1 ∧
      readLine line = .ok c ∧ c.marksInFront = marks ∧ c.nodeCount + 2 = 3 * 2 ^ marks := by
  constructor
  · intro line c hread
    have hcount := readFrom_nodeCount hread
    have hmarks := readFrom_marksInFront hread
    refine ⟨fun hone => ?_, hcount, ?_⟩
    · obtain hnone | hmark : c.marksInFront = 0 ∨ c.marksInFront = 1 := by omega
      · rw [hnone] at hcount
        omega
      · rw [hmark] at hcount hmarks
        omega
    · have hroom : c.marksInFront ≤ (line.length - 1) / 2 := by omega
      obtain ⟨room, hroom⟩ := Nat.exists_eq_add_of_le hroom
      have hrest : (line.length - 1 - 2 * c.marksInFront) / 2 = room := by omega
      have hpow : room + 3 ≤ 3 * 2 ^ room := by
        have hlt := Nat.lt_two_pow_self (n := room)
        omega
      calc c.nodeCount + 2
          ≤ 2 ^ c.marksInFront * (room + 3) := hrest ▸ hcount
        _ ≤ 2 ^ c.marksInFront * (3 * 2 ^ room) := Nat.mul_le_mul_left _ hpow
        _ = 3 * 2 ^ ((line.length - 1) / 2) := by rw [hroom, Nat.pow_add, Nat.mul_left_comm]
  · intro marks
    have hlength := length_nestedLine marks
    exact ⟨nestedLine marks, nestedCommand marks, hlength, readFrom_nestedLine (by omega),
      marksInFront_nestedCommand marks, nodeCount_nestedCommand marks⟩

/-- One mark in front of a letter makes as many commands as one mark may. With two marks, and a
register behind them, there are fourteen for seven characters. -/
theorem readLine_nodeCount_le_of_two_marks :
    (∃ c, readLine "'ad".toList = .ok c ∧ c.marksInFront ≤ 1 ∧ c.nodeCount = 4 ∧
      c.nodeCount ≤ "'ad".toList.length + 1) ∧
    ∃ c, readLine "'a'b\"cd".toList = .ok c ∧ c.marksInFront = 2 ∧ c.nodeCount = 14 ∧
      c.nodeCount + 2 ≤ 2 ^ 2 * ((7 - 1 - 2 * 2) / 2 + 3) ∧
      c.nodeCount + 2 ≤ 3 * 2 ^ ((7 - 1) / 2) := by
  refine ⟨⟨_, rfl, by decide, rfl, ?_⟩, _, rfl, rfl, rfl, ?_⟩
  · exact (readLine_nodeCount_le.1 "'ad".toList _ rfl).1 (by decide)
  · exact (readLine_nodeCount_le.1 "'a'b\"cd".toList _ rfl).2

/-- Two marks are too many for a bound of one command for each character and one more: the letter
behind them is there four times. -/
theorem two_marks_outgrow_text :
    ∃ c, readLine "'a'bd".toList = .ok c ∧ "'a'bd".toList.length + 1 < c.nodeCount :=
  ⟨_, rfl, by decide⟩

end ModalEditor.ExCommand
