import ModalEditor.Proofs.Edit.PutBack
import ModalEditor.Proofs.Ex.LineAgreement
import ModalEditor.Proofs.Normal.LargeCounts
import ModalEditor.Proofs.Word.OnLine

/-!
# Deleting a piece of a line

`x`, `dw` and `cw` delete columns of the current line from the cursor on. What they delete they keep
in the register that is named and in the unnamed one, and all the rest stays as it is
(`Desk.Cuts.losesSpan`). How far `x` and `dw` reach the line says by itself
(`Normal.char_deletes_conserve_text`). How far `cw` reaches it does not say if it has too few words
and ends in blanks: then the blanks are deleted as well if a word stands below, and are left if none
does (`Normal.change_words_alike_iff`).
-/

namespace ModalEditor

/-- The buffer without the columns of its current line from `start` up to `stop`. -/
def Buffer.withoutSpan (b : Buffer) (start stop : Nat) : Buffer :=
  { b with
    lines := b.lines.set b.current ((b.line b.current).take start ++ (b.line b.current).drop stop)
    modified := b.modified || decide (start < stop)
    selected := none }

theorem Buffer.withoutSpan_empty (b : Buffer) (start : Nat) :
    b.withoutSpan start start = { b with selected := none } := by
  have hline : b.lines.set b.current (b.line b.current) = b.lines := by
    rcases Nat.lt_or_ge b.current b.lines.length with hlt | hge
    · rw [line_eq hlt, List.set_getElem_self]
    · rw [List.set_eq_of_length_le hge]
  simp [withoutSpan, hline]

namespace Desk

/-- The desk `u` is without the columns of the current line from `start` up to `stop`. What stood
there is in the target and in the unnamed register, if anything did. -/
structure Cuts (d : Desk) (target : Option Char) (start stop : Nat) (u : Desk) : Prop where
  /-- The columns are in order. -/
  ordered : start ≤ stop
  /-- They are columns of the line. -/
  within : stop ≤ d.buffer.lineLength d.buffer.current
  /-- The rest of the line is left, and all the rest of the buffer. -/
  buffer : u.buffer = d.buffer.withoutSpan start stop
  /-- What is gone is kept. -/
  registers : u.registers =
    if start < stop then d.registers.set target
      (.ofText (((d.buffer.line d.buffer.current).take stop).drop start))
    else d.registers

/-- The desk `u` is without the columns of the current line from `start` up to `stop`. What stood
there is read from the unnamed register and from the one that was named; if nothing did, all
registers are as they were. The other registers are so in any case. -/
structure LosesSpan (d : Desk) (register : Option Char) (start stop : Nat) (u : Desk) : Prop where
  /-- The columns are in order. -/
  ordered : start ≤ stop
  /-- They are columns of the line. -/
  within : stop ≤ d.buffer.lineLength d.buffer.current
  /-- The rest of the line is left, and all the rest of the buffer. -/
  buffer : u.buffer = d.buffer.withoutSpan start stop
  /-- What is gone is read from the registers that it went to. -/
  taken : start < stop → ∀ name ∈ [none, register], u.registers.get? name =
    some (.ofText (((d.buffer.line d.buffer.current).take stop).drop start))
  /-- Nothing goes to no register. -/
  kept : start = stop → u.registers = d.registers
  /-- Other numbered and named registers hold what they held. -/
  others : ∀ name, isDigit name = true ∨ isLowerLetter name = true → some name ≠ register →
    u.registers.get? (some name) = d.registers.get? (some name)

theorem Cuts.losesSpan {d u : Desk} {register : Option Char} {start stop : Nat}
    (h : d.Cuts register start stop u) (hregisters : d.registers.Complete)
    (hregister : RegisterFile.Overwrites register) : d.LosesSpan register start stop u where
  ordered := h.ordered
  within := h.within
  buffer := h.buffer
  taken := by
    intro hlt name hname
    rw [h.registers, if_pos hlt]
    rcases List.mem_pair.mp hname with rfl | rfl
    · exact RegisterFile.get?_unnamed_set hregister _
    · exact RegisterFile.get?_set hregisters hregister _
  kept := by
    intro heq
    rw [h.registers, if_neg (Nat.not_lt_of_le (Nat.le_of_eq heq.symm))]
  others := by
    intro name hname hne
    rw [h.registers]
    split
    · exact RegisterFile.get?_set_of_ne hregister hname hne _
    · rfl

end Desk

namespace Edit

variable {d : Desk} {register : Option Char} {start stop : Nat}

theorem deleteSpan_cuts (hle : start ≤ stop)
    (hwritable : ∀ name ∈ register.or d.buffer.selected, Register.isWritable name = true) :
    ∃ removed u, (deleteSpan d.buffer.current start stop register).run.run d = (.ok removed, u) ∧
      d.Cuts (register.or d.buffer.selected) (min start (d.buffer.lineLength d.buffer.current))
        (min stop (d.buffer.lineLength d.buffer.current)) u := by
  have hlength : d.buffer.lineLength d.buffer.current =
      (d.buffer.line d.buffer.current).length := rfl
  have hline : d.unselected.buffer.line d.buffer.current = d.buffer.line d.buffer.current := rfl
  unfold deleteSpan
  simp only [run_bind, run_takeWritable_of_isWritable hwritable, run_buffer, hline, ← hlength]
  by_cases hempty : min stop (d.buffer.lineLength d.buffer.current) ≤
      min start (d.buffer.lineLength d.buffer.current)
  · have hsame : min start (d.buffer.lineLength d.buffer.current) =
        min stop (d.buffer.lineLength d.buffer.current) := by omega
    rw [if_pos hempty]
    refine ⟨_, _, rfl, Nat.le_of_eq hsame, Nat.min_le_right _ _, ?_, ?_⟩
    · rw [hsame, Buffer.withoutSpan_empty]
      rfl
    · rw [if_neg (Nat.not_lt_of_le hempty)]
      rfl
  · rw [if_neg hempty]
    refine ⟨_, _, rfl, by omega, Nat.min_le_right _ _, ?_, ?_⟩
    · simp [Buffer.withoutSpan, Buffer.setLine, Nat.lt_of_not_le hempty, Desk.unselected]
    · rw [if_pos (Nat.lt_of_not_le hempty)]
      rfl

/-- The columns are in the line, so they are deleted as they are. -/
theorem deleteSpan_cuts_within (hle : start ≤ stop)
    (hstop : stop ≤ d.buffer.lineLength d.buffer.current)
    (hwritable : ∀ name ∈ register.or d.buffer.selected, Register.isWritable name = true) :
    ∃ removed u,
      (deleteSpan d.buffer.current start stop register).run.run d = (.ok removed, u) ∧
        d.Cuts (register.or d.buffer.selected) start stop u := by
  have hcuts := deleteSpan_cuts hle hwritable
  rwa [Nat.min_eq_left hstop, Nat.min_eq_left (Nat.le_trans hle hstop)] at hcuts

end Edit

namespace Normal

open NormalCommand

variable {d : Desk} {register : Option Char} {n col : Nat}

/-- `x` deletes as many characters as the count says, or as there are. -/
theorem act_deleteChars_cuts (col : Nat) (hn : 0 < n) (hselected : d.buffer.selected = none)
    (hwritable : ∀ name ∈ register, Register.isWritable name = true) :
    ∃ o u, (act .deleteChars (some n) register col).run.run d = (.ok o, u) ∧
      d.Cuts register (min col (d.buffer.lineLength d.buffer.current))
        (min (col + n) (d.buffer.lineLength d.buffer.current)) u := by
  have htarget : register.or d.buffer.selected = register := by rw [hselected, Option.or_none]
  have hcount : max ((some n).getD 1) 1 = n := Nat.max_eq_left hn
  by_cases hempty : 0 < d.buffer.lineLength d.buffer.current
  · obtain ⟨removed, u, hrun, hcuts⟩ :=
      Edit.deleteSpan_cuts (Nat.le_add_right col n) (htarget.symm ▸ hwritable)
    rw [htarget] at hcuts
    refine ⟨{ col := u.buffer.clampColumn d.buffer.current col }, u, ?_, hcuts⟩
    simp only [act, run_bind, Edit.run_buffer, hcount, hempty, if_true, hrun]
    rfl
  · -- nothing is done to an empty line
    have hzero : d.buffer.lineLength d.buffer.current = 0 := Nat.eq_zero_of_not_pos hempty
    refine ⟨{ col := d.buffer.clampColumn d.buffer.current col }, d, ?_, ?_⟩
    · simp only [act, run_bind, Edit.run_buffer, hempty, if_false]
      rfl
    · rw [hzero, Nat.min_zero, Nat.min_zero]
      refine ⟨Nat.le_refl 0, Nat.zero_le _, ?_, rfl⟩
      rw [Buffer.withoutSpan_empty, ← hselected]

/-- `dw` deletes up to the start of a word on the line, or to its end. -/
theorem act_deleteWords_cuts (col : Nat) (hn : 0 < n)
    (hwritable : ∀ name ∈ register.or d.buffer.selected, Register.isWritable name = true) :
    let a := min col (d.buffer.lineLength d.buffer.current)
    ∃ o u, (act .deleteWords (some n) register col).run.run d = (.ok o, u) ∧
      d.Cuts (register.or d.buffer.selected) a
        (((d.buffer.line d.buffer.current).wordsAfter a)[n - 1]?.getD
          (d.buffer.lineLength d.buffer.current)) u := by
  intro a
  have ha : a ≤ d.buffer.lineLength d.buffer.current := Nat.min_le_right _ _
  obtain ⟨n, rfl⟩ : ∃ m, n = m + 1 := ⟨n - 1, by omega⟩
  obtain ⟨hle, hwithin⟩ := Text.wordsAfter_stop_bounds a n ha
  obtain ⟨removed, u, hrun, hcuts⟩ := Edit.deleteSpan_cuts_within hle hwithin hwritable
  refine ⟨{ col := u.buffer.clampColumn d.buffer.current a }, u, ?_, hcuts⟩
  have hspan : d.buffer.wordSpanEnd ⟨d.buffer.current, a⟩ (n + 1) ⟨d.buffer.current, a⟩ =
      ((d.buffer.line d.buffer.current).wordsAfter a)[n]?.getD
        (d.buffer.line d.buffer.current).length := Buffer.wordSpanEnd_eq _ _ a a (n + 1)
  have hcount : max ((some (n + 1)).getD 1) 1 = n + 1 := Nat.max_eq_left hn
  simp only [act, run_bind, Edit.run_buffer, hcount]
  rw [show min col (d.buffer.lineLength d.buffer.current) = a from rfl, hspan, hrun]
  rfl

/-- `cw` deletes up to the end of a word, or as `dw` does if the cursor is on a blank. -/
theorem act_changeWords_cuts (col : Nat) (hn : 0 < n)
    (hwritable : ∀ name ∈ register.or d.buffer.selected, Register.isWritable name = true) :
    let a := min col (d.buffer.lineLength d.buffer.current)
    ∃ o u, (act .changeWords (some n) register col).run.run d = (.ok o, u) ∧
      d.Cuts (register.or d.buffer.selected) a
        ((d.buffer.line d.buffer.current).changeStop a n
          (d.buffer.hasWordBelow d.buffer.current)) u := by
  intro a
  have ha : a ≤ d.buffer.lineLength d.buffer.current := Nat.min_le_right _ _
  obtain ⟨hle, hwithin⟩ := Text.changeStop_bounds ha n (d.buffer.hasWordBelow d.buffer.current)
  obtain ⟨removed, u, hrun, hcuts⟩ := Edit.deleteSpan_cuts_within hle hwithin hwritable
  refine ⟨{ col := a, enterInsert := true }, u, ?_, hcuts⟩
  have hcount : max ((some n).getD 1) 1 = n := Nat.max_eq_left hn
  simp only [act, run_bind, Edit.run_buffer, hcount]
  rw [show min col (d.buffer.lineLength d.buffer.current) = a from rfl,
    Buffer.changeSpanEnd_eq ha hn, hrun]
  rfl

end Normal

/-! ## Reading -/

namespace NormalCommand

variable {n : Nat} {register : Option Char} {body keys : Text}

/-- The keys stand for an action, with any count and any register in front of them. -/
structure Spells (body : Text) (action : Action) : Prop where
  /-- They are read as the action. -/
  read : ∀ count register, readAction count register body = .complete (.act count register action)
  /-- There is a key. -/
  ne_nil : body ≠ []
  /-- It is no digit. -/
  ends : EndsCount body
  /-- It does not start another command. -/
  head : ∀ c ∈ ['m', '\'', '"', 'G'], body.head? ≠ some c

theorem spells_deleteChars : Spells ['x'] .deleteChars :=
  ⟨fun _ _ => rfl, by decide, endsCount_cons (by decide) _, by simp⟩

theorem spells_deleteWords : Spells ['d', 'w'] .deleteWords :=
  ⟨fun _ _ => rfl, by decide, endsCount_cons (by decide) _, by simp⟩

theorem spells_changeWords : Spells ['c', 'w'] .changeWords :=
  ⟨fun _ _ => rfl, by decide, endsCount_cons (by decide) _, by simp⟩

/-- Keys that name a count and a register, one after the other, and then a command. -/
inductive Prefixed (n : Nat) (register : Option Char) (body : Text) : Text → Prop
  /-- The count comes first. -/
  | countFirst : Prefixed n register body (Text.ofNat n ++ (registerKeys register ++ body))
  /-- The register comes first. -/
  | registerFirst : Prefixed n register body (registerKeys register ++ (Text.ofNat n ++ body))

theorem Prefixed.read_eq {action : Action} (h : Prefixed n register body keys)
    (hbody : Spells body action) (hn : 0 < n) (hmax : n ≤ maxCount)
    (hregister : ∀ x ∈ register, Register.isName x = true) :
    read keys = .complete (.act (some n) register action) := by
  have hcount := Text.isCount_ofNat hn
  have hread := read_prefixed hcount hregister hbody.ne_nil hbody.ends hbody.head
  rw [Text.count?_ofNat hmax, hbody.read] at hread
  cases h with
  | countFirst => exact hread
  | registerFirst =>
    cases register with
    | none => exact hread
    | some x =>
      have hquote : EndsCount ('"' :: x :: (Text.ofNat n ++ body)) := endsCount_cons (by decide) _
      have hcounted : ∀ again, readCounted again none (some x) (Text.ofNat n ++ body) =
          .complete (.act (some n) (some x) action) := by
        intro again
        rw [readCounted, splitCount_digits hcount hbody.ends, Text.count?_ofNat hmax]
        dsimp only
        split
        · exact absurd rfl (hbody.head 'G' (by decide))
        · exact hbody.read _ _
      change readFrom _ none ('"' :: x :: (Text.ofNat n ++ body)) = _
      rw [readFrom_split _ (by simp) (by simp) (by simp), splitCount_of_ends hquote]
      exact (if_pos (hregister x rfl)).trans (hcounted _)

/-- A count between the keys of `cw`. -/
theorem read_changeWords_inner (hn : 0 < n) (hmax : n ≤ maxCount) :
    read ('c' :: (Text.ofNat n ++ ['w'])) = .complete (.act (some n) none .changeWords) := by
  have hoperator : operatorAction? 'c' ['w'] = some .changeWords := rfl
  have hread := read_innerCount isCount_nil (Text.isCount_ofNat hn) (Text.ofNat_ne_nil n) hoperator
  rw [Text.count?_ofNat hmax] at hread
  exact hread

end NormalCommand

/-! ## Deleting by keys -/

namespace Normal

open NormalCommand

variable {d d₁ d₂ : Desk} {register : Option Char} {n : Nat} {keys body : Text}

/-- The keys delete the columns of the current line from `start` up to `stop`. -/
def DeletesSpan (keys : Text) (col : Nat) (d : Desk) (register : Option Char) (start stop : Nat) :
    Prop :=
  ∃ o u, (runKeys keys col).run.run d = (.ok o, u) ∧ d.LosesSpan register start stop u

theorem deletesSpan_of_act {action : Action} {col start stop : Nat}
    (hread : read keys = .complete (.act (some n) register action))
    (hregisters : d.registers.Complete) (hregister : RegisterFile.Overwrites register)
    (h : ∃ o u, (act action (some n) register col).run.run d = (.ok o, u) ∧
      d.Cuts register start stop u) : DeletesSpan keys col d register start stop := by
  obtain ⟨o, u, hrun, hcuts⟩ := h
  refine ⟨o, u, ?_, hcuts.losesSpan hregisters hregister⟩
  rw [runKeys, hread]
  exact hrun

/-- `x`, `dw` and `cw` delete a piece of the current line from the cursor on, and nothing else: `x`
as many characters as the count says, `dw` up to the word that the count says, and both up to the
end of the line if there are fewer. In a line without breaks, words start where a character that is
not blank follows a blank. -/
theorem char_deletes_conserve_text (hregisters : d.registers.Complete)
    (hselected : d.buffer.selected = none) (hregister : RegisterFile.Overwrites register)
    (hn : 0 < n) (hmax : n ≤ maxCount) (col : Nat) :
    let line := d.buffer.line d.buffer.current
    let a := min col line.length
    (∀ keys, Prefixed n register ['x'] keys →
      DeletesSpan keys col d register a (min (a + n) line.length)) ∧
    (∀ keys, Prefixed n register ['d', 'w'] keys →
      DeletesSpan keys col d register a ((line.wordsAfter a)[n - 1]?.getD line.length)) ∧
    (∀ keys, Prefixed n register ['c', 'w'] keys →
      DeletesSpan keys col d register a
        (line.changeStop a n (d.buffer.hasWordBelow d.buffer.current))) ∧
    ('\n' ∉ line → line.wordsAfter a = line.columnsFrom (a + 1) line.startsWord) := by
  intro line a
  have hnames := hregister.isName
  have htarget : register.or d.buffer.selected = register := by rw [hselected, Option.or_none]
  have hwritable : ∀ name ∈ register.or d.buffer.selected, Register.isWritable name = true :=
    htarget.symm ▸ hregister.isWritable
  refine ⟨fun keys hkeys => ?_, fun keys hkeys => ?_, fun keys hkeys => ?_, fun hline => ?_⟩
  · have hstop : min (a + n) line.length = min (col + n) line.length := by
      dsimp only [a]
      omega
    rw [hstop]
    exact deletesSpan_of_act (hkeys.read_eq spells_deleteChars hn hmax hnames) hregisters hregister
      (act_deleteChars_cuts col hn hselected hregister.isWritable)
  · have hcuts := act_deleteWords_cuts col hn hwritable
    rw [htarget] at hcuts
    exact deletesSpan_of_act (hkeys.read_eq spells_deleteWords hn hmax hnames) hregisters hregister
      hcuts
  · have hcuts := act_changeWords_cuts col hn hwritable
    rw [htarget] at hcuts
    exact deletesSpan_of_act (hkeys.read_eq spells_changeWords hn hmax hnames) hregisters hregister
      hcuts
  · have hstart : line.startsInside = line.startsWord :=
      funext fun j => Text.startsInside_of_unbroken hline j
    rw [Text.wordsAfter, hstart]

/-- Two words are deleted from the end of the first of three on, with the blanks behind them. -/
theorem char_deletes_conserve_text_of_three_words :
    let b : Buffer :=
      { lines := [['x'], ['n', 'é', ' ', ' ', 'b', ' ', 'c'], []]
        current := 1
        marks := [('m', 2)] }
    let d : Desk := { buffer := b, registers := ({} : RegisterFile).set (some '1') (.ofText ['o']) }
    let keys : Text := ['2', '"', '0', 'd', 'w']
    RegisterFile.Overwrites (some '0') ∧ Prefixed 2 (some '0') ['d', 'w'] keys ∧
      DeletesSpan keys 1 d (some '0') 1 6 := by
  intro b d keys
  have hregisters : d.registers.Complete := ⟨rfl, rfl⟩
  have hregister : RegisterFile.Overwrites (some '0') := by
    rintro name ⟨⟩
    exact .inr (.inl rfl)
  have hkeys : Prefixed 2 (some '0') ['d', 'w'] keys := .countFirst
  have hdelete := (char_deletes_conserve_text hregisters rfl hregister Nat.zero_lt_two
    (by decide) 1).2.1 keys hkeys
  exact ⟨hregister, hkeys, hdelete⟩

/-! ## Changing words -/

/-- The keys `c{n}w` delete the columns of the current line from `start` up to `stop`. -/
def ChangesSpan (n col : Nat) (d : Desk) (start stop : Nat) : Prop :=
  ∃ o u, (runKeys ('c' :: (Text.ofNat n ++ ['w'])) col).run.run d = (.ok o, u) ∧
    d.Cuts d.buffer.selected start stop u

/-- `cw` deletes the same columns of lines that are alike, unless the line has too few words and
ends in blanks. Then it makes a difference whether words stand on the lines below. -/
theorem change_words_alike_iff
    (hline : d₁.buffer.line d₁.buffer.current = d₂.buffer.line d₂.buffer.current)
    (hwritable₁ : d₁.SelectsWritable) (hwritable₂ : d₂.SelectsWritable) (hn : 0 < n)
    (hmax : n ≤ maxCount) (col : Nat) :
    let line := d₁.buffer.line d₁.buffer.current
    let a := min col line.length
    ∃ stop₁ stop₂, ChangesSpan n col d₁ a stop₁ ∧ ChangesSpan n col d₂ a stop₂ ∧
      (stop₁ = stop₂ ↔ ¬ (line.RunsOut a n ∧ d₁.buffer.hasWordBelow d₁.buffer.current ≠
        d₂.buffer.hasWordBelow d₂.buffer.current)) := by
  intro line a
  have hrun : ∀ {d : Desk}, d.SelectsWritable → d.buffer.line d.buffer.current = line →
      ChangesSpan n col d a (line.changeStop a n (d.buffer.hasWordBelow d.buffer.current)) := by
    intro d hwritable hsame
    have htarget : ∀ name ∈ (none : Option Char).or d.buffer.selected,
        Register.isWritable name = true := hwritable
    have hcuts := act_changeWords_cuts col hn htarget
    have hlength : d.buffer.lineLength d.buffer.current = line.length := congrArg List.length hsame
    rw [hsame, hlength] at hcuts
    obtain ⟨o, u, hact, hcuts⟩ := hcuts
    refine ⟨o, u, ?_, hcuts⟩
    rw [runKeys, read_changeWords_inner hn hmax]
    exact hact
  exact ⟨_, _, hrun hwritable₁ rfl, hrun hwritable₂ hline.symm, Text.changeStop_eq_iff hn _ _⟩

/-- One word is there on both lines, with blanks behind it, and a word below one of them. -/
theorem change_words_alike_of_blank_tail :
    let d₁ : Desk := { buffer := { lines := [['a', 'b', ' ', ' ']] }, registers := {} }
    let d₂ : Desk := { buffer := { lines := [['a', 'b', ' ', ' '], ['c']] }, registers := {} }
    (∃ stop, ChangesSpan 1 0 d₁ 0 stop ∧ ChangesSpan 1 0 d₂ 0 stop) ∧
      ∃ stop₁ stop₂, ChangesSpan 2 0 d₁ 0 stop₁ ∧ ChangesSpan 2 0 d₂ 0 stop₂ ∧ stop₁ ≠ stop₂ := by
  intro d₁ d₂
  have hwritable₁ : d₁.SelectsWritable := by rintro name ⟨⟩
  have hwritable₂ : d₂.SelectsWritable := by rintro name ⟨⟩
  have hline : d₁.buffer.line d₁.buffer.current = d₂.buffer.line d₂.buffer.current := rfl
  constructor
  · obtain ⟨stop₁, stop₂, hfirst, hsecond, hsame⟩ :=
      change_words_alike_iff hline hwritable₁ hwritable₂ Nat.zero_lt_one (by decide) 0
    obtain rfl : stop₁ = stop₂ := hsame.mpr (by decide)
    exact ⟨stop₁, hfirst, hsecond⟩
  · obtain ⟨stop₁, stop₂, hfirst, hsecond, hsame⟩ :=
      change_words_alike_iff hline hwritable₁ hwritable₂ Nat.zero_lt_two (by decide) 0
    exact ⟨stop₁, stop₂, hfirst, hsecond, mt hsame.mp (by decide)⟩

/-- The word on the line below makes `c2w` delete the blanks as well. -/
theorem change_words_sees_line_below :
    let d₁ : Desk := { buffer := { lines := [['a', 'b', ' ', ' ']] }, registers := {} }
    let d₂ : Desk := { buffer := { lines := [['a', 'b', ' ', ' '], ['c']] }, registers := {} }
    let keys : Text := ['c', '2', 'w']
    d₁.buffer.line d₁.buffer.current = d₂.buffer.line d₂.buffer.current ∧
      ((runKeys keys 0).run.run d₁).2.buffer.lines = [[' ', ' ']] ∧
      ((runKeys keys 0).run.run d₂).2.buffer.lines = [[], ['c']] ∧
      ¬ ∃ stop, ChangesSpan 2 0 d₁ 0 stop ∧ ChangesSpan 2 0 d₂ 0 stop := by
  intro d₁ d₂ keys
  have hfirst : ((runKeys keys 0).run.run d₁).2.buffer.lines = [[' ', ' ']] := by decide
  have hsecond : ((runKeys keys 0).run.run d₂).2.buffer.lines = [[], ['c']] := by decide
  refine ⟨rfl, hfirst, hsecond, ?_⟩
  rintro ⟨stop, ⟨o₁, u₁, hrun₁, hcuts₁⟩, o₂, u₂, hrun₂, hcuts₂⟩
  have hkeys : 'c' :: (Text.ofNat 2 ++ ['w']) = keys := by decide
  rw [hkeys] at hrun₁ hrun₂
  rw [hrun₁, hcuts₁.buffer] at hfirst
  rw [hrun₂, hcuts₂.buffer] at hsecond
  -- what is left of the line is the same in both
  have hleft : ['a', 'b', ' ', ' '].drop stop = [' ', ' '] := (List.cons.inj hfirst).1
  have hnone : ['a', 'b', ' ', ' '].drop stop = [] := (List.cons.inj hsecond).1
  rw [hleft] at hnone
  cases hnone

end Normal

end ModalEditor
