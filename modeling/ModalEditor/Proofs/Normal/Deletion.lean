import ModalEditor.Proofs.Edit.Visit
import ModalEditor.Proofs.Normal.Count
import ModalEditor.Proofs.Normal.Evolution

/-!
# Keys that delete lines

Keys that do nothing but delete lines: `dd` with a count, where the cursor is or behind a jump to a
line, to the last line or to a mark. They are read as a command that depends only on where they go
and on the count (`DeletesLines.read_eq`), and if that command succeeds it has taken out the lines of
one span (`DeletesLines.runKeys_takesOut`).
-/

namespace ModalEditor

/-- Where keys go before they delete lines. -/
inductive Destination where
  /-- Nowhere. -/
  | here
  /-- To a line, counted from one. -/
  | line (n : Nat)
  /-- To the last line. -/
  | last
  /-- To a mark. If it is not set, it names a register instead. -/
  | mark (name : Char)
deriving Repr, DecidableEq, Inhabited

namespace Destination

/-- The command that goes there and deletes as many lines as `count` says. -/
def command (count : Option Nat) : Destination → NormalCommand
  | here => .act count none .deleteLines
  | line n => .andThen (.gotoLine n) (.act count none .deleteLines)
  | last => .andThen (.act none none (.move .lastLine)) (.act count none .deleteLines)
  | mark name =>
    .jumpMarkOr name (.act count none .deleteLines) (.act count (some name) .deleteLines)

/-- The line of a buffer where the deletion starts. -/
def lineIn (b : Buffer) : Destination → Nat
  | here => b.current
  | line n => n - 1
  | last => b.lastLine
  | mark name => (b.mark? name).getD b.current

/-- The lines that are deleted. -/
def span (count : Option Nat) (p : Destination) (b : Buffer) : LineSpan :=
  (b.goTo (p.lineIn b)).linesFromCursor (max (count.getD 1) 1)

/-- In the buffer `b` the deletion starts below the lines `ns`, if it starts elsewhere at all. -/
def StaysBelow (b : Buffer) (ns : List Nat) : Destination → Prop
  | here => True
  | line n => ∀ m ∈ ns, m < n - 1
  | last => True
  | mark name => ∀ k, (name, k) ∈ b.marks → b.mark? name = some k ∧ ∀ m ∈ ns, m < k

end Destination

open NormalCommand

/-- Keys that go to a place and delete lines there, with their count. A number of a line that is too
large for a count is none, and then `G` goes to the last line. -/
inductive DeletesLines : Text → Destination → Option Nat → Prop
  /-- `{M}dd` -/
  | here {digits : Text} (hdigits : IsCount digits) :
    DeletesLines (digits ++ ['d', 'd']) .here (Text.count? digits)
  /-- `{N}G{M}dd` -/
  | line {number digits : Text} {n : Nat} (hnumber : IsCount number)
    (hn : Text.count? number = some n) (hdigits : IsCount digits) :
    DeletesLines (number ++ 'G' :: (digits ++ ['d', 'd'])) (.line n) (Text.count? digits)
  /-- `G{M}dd` -/
  | last {number digits : Text} (hnumber : IsCount number) (hn : Text.count? number = none)
    (hdigits : IsCount digits) :
    DeletesLines (number ++ 'G' :: (digits ++ ['d', 'd'])) .last (Text.count? digits)
  /-- `'x{M}dd` -/
  | mark {name : Char} {digits : Text} (hname : isLowerLetter name = true)
    (hdigits : IsCount digits) :
    DeletesLines ('\'' :: name :: (digits ++ ['d', 'd'])) (.mark name) (Text.count? digits)

/-! ## Reading -/

namespace NormalCommand

theorem endsCount_dd : EndsCount ['d', 'd'] := endsCount_cons (by decide) _

/-- Keys behind a count start with a digit if the count has one. -/
theorem head?_count {digits body : Text} (h : IsCount digits) {c : Char} (hc : isDigit c = false)
    (hbody : body.head? ≠ some c) : (digits ++ body).head? ≠ some c := by
  cases digits with
  | nil => exact hbody
  | cons d digits =>
    rintro ⟨rfl⟩
    have hd := h.all c List.mem_cons_self
    rw [hc] at hd
    cases hd

section Split

variable {keys body rest : Text} {count : Option Nat} {n : Nat} {next : Char}

/-- Keys that neither set a mark nor go to one have a count in front, and the key behind it decides. -/
theorem readFrom_split (fuel : Nat) (hne : keys ≠ []) (hmark : keys.head? ≠ some 'm')
    (hjump : keys.head? ≠ some '\'') :
    readFrom (fuel + 1) none keys =
      match splitCount keys with
      | (some n, ['G']) => .complete (.gotoLine n)
      | (some n, 'G' :: rest) => (readFrom fuel none rest).followed (.gotoLine n)
      | (_, ['"']) => .incomplete
      | (count, '"' :: register :: rest) =>
        if Register.isName register then
          readCounted (readFrom fuel (some register)) count (some register) rest
        else .invalid
      | (count, body) => readCounted (readFrom fuel none) count none body := by
  conv =>
    lhs
    unfold readFrom
  split
  · exact absurd rfl hne
  · simp at hmark
  · simp at hjump
  · simp at hmark
  · simp at hjump
  · rfl

/-- Keys that neither set a mark nor go to one, nor name a register or a line. -/
theorem readFrom_of_split (fuel : Nat) (hne : keys ≠ []) (hmark : keys.head? ≠ some 'm')
    (hjump : keys.head? ≠ some '\'') (hsplit : splitCount keys = (count, body))
    (hregister : body.head? ≠ some '"') (hline : count ≠ none → body.head? ≠ some 'G') :
    readFrom (fuel + 1) none keys = readCounted (readFrom fuel none) count none body := by
  rw [readFrom_split fuel hne hmark hjump, hsplit]
  split <;> simp_all

/-- Keys that go to a line first. -/
theorem readFrom_gotoLine (fuel : Nat) (hmark : keys.head? ≠ some 'm')
    (hjump : keys.head? ≠ some '\'') (hsplit : splitCount keys = (some n, 'G' :: next :: rest)) :
    readFrom (fuel + 1) none keys =
      (readFrom fuel none (next :: rest)).followed (.gotoLine n) := by
  have hne : keys ≠ [] := by
    rintro rfl
    cases hsplit
  rw [readFrom_split fuel hne hmark hjump, hsplit]
  rfl

end Split

theorem readCounted_dd (again : Text → KeyReading) (register : Option Char) {digits : Text}
    (h : IsCount digits) :
    readCounted again none register (digits ++ ['d', 'd']) =
      .complete (.act (Text.count? digits) register .deleteLines) := by
  rw [readCounted, splitCount_digits h endsCount_dd]
  rfl

/-- Behind `G` without a count more keys can follow. -/
theorem readCounted_last (again : Text → KeyReading) {next : Char} {rest : Text} :
    readCounted again none none ('G' :: next :: rest) =
      (again (next :: rest)).followed (.act none none (.move .lastLine)) := by
  have hends : EndsCount ('G' :: next :: rest) := endsCount_cons (by decide) _
  rw [readCounted, splitCount_of_ends hends]
  rfl

theorem multiply_none (count : Option Nat) : multiply count none = count := by cases count <;> rfl

theorem readFrom_dd (fuel : Nat) (register : Option Char) {digits : Text} (h : IsCount digits) :
    readFrom (fuel + 1) register (digits ++ ['d', 'd']) =
      .complete (.act (Text.count? digits) register .deleteLines) := by
  cases register with
  | some name => exact readCounted_dd _ _ h
  | none =>
    rw [readFrom_of_split fuel (by simp) (head?_count h (by decide) (by decide))
      (head?_count h (by decide) (by decide)) (splitCount_digits h endsCount_dd) (by decide)
      fun _ => by decide]
    have hcount := multiply_none (Text.count? digits)
    change KeyReading.complete (.act (multiply (Text.count? digits) none) none .deleteLines) = _
    rw [hcount]

end NormalCommand

/-- The command that the keys are read as. -/
theorem DeletesLines.read_eq {keys : Text} {p : Destination} {count : Option Nat}
    (h : DeletesLines keys p count) : NormalCommand.read keys = .complete (p.command count) := by
  have hG : ∀ rest, EndsCount ('G' :: rest) := endsCount_cons (by decide)
  have hlength : ∀ number digits : Text,
      ∃ fuel, (number ++ 'G' :: (digits ++ ['d', 'd'])).length = fuel + 1 := by
    intro number digits
    exact ⟨_, by rw [List.length_append, List.length_cons, ← Nat.add_assoc]⟩
  cases h with
  | here hdigits => exact readFrom_dd _ none hdigits
  | @line number digits n hnumber hn hdigits =>
    obtain ⟨next, rest, hrest⟩ := List.exists_cons_of_ne_nil
      (show digits ++ ['d', 'd'] ≠ [] by simp)
    obtain ⟨fuel, hfuel⟩ := hlength number digits
    have hsplit := splitCount_digits hnumber (hG (digits ++ ['d', 'd']))
    rw [hn, hrest] at hsplit
    rw [NormalCommand.read, hfuel, hrest, readFrom_gotoLine _ (head?_count hnumber (by decide) (by simp))
      (head?_count hnumber (by decide) (by simp)) hsplit, ← hrest, readFrom_dd fuel none hdigits]
    rfl
  | @last number digits hnumber hn hdigits =>
    obtain ⟨next, rest, hrest⟩ := List.exists_cons_of_ne_nil
      (show digits ++ ['d', 'd'] ≠ [] by simp)
    obtain ⟨fuel, hfuel⟩ := hlength number digits
    have hsplit := splitCount_digits hnumber (hG (digits ++ ['d', 'd']))
    rw [hn] at hsplit
    rw [NormalCommand.read, hfuel, readFrom_of_split _ (by simp) (head?_count hnumber (by decide) (by simp))
      (head?_count hnumber (by decide) (by simp)) hsplit (by simp) (fun h => absurd rfl h)]
    rw [hrest, readCounted_last, ← hrest, readFrom_dd fuel none hdigits]
    rfl
  | @mark name digits hname hdigits =>
    have hempty : (digits ++ ['d', 'd']).isEmpty = false := by simp
    have hfuel : ('\'' :: name :: (digits ++ ['d', 'd'])).length =
        (digits ++ ['d', 'd']).length + 1 + 1 := rfl
    rw [NormalCommand.read, hfuel, readFrom, hname, hempty, readFrom_dd _ none hdigits,
      readFrom_dd _ (some name) hdigits]
    rfl

/-! ## Running -/

namespace Edit

theorem deleteLines_takesOut {s : LineSpan} {register : Option Char} {d u : Desk} {n : Nat}
    (hs : s.first ≤ s.last) (h : (deleteLines s register).run.run d = (.ok n, u)) :
    Buffer.TakesOut s d.buffer u.buffer := by
  obtain ⟨⟨⟩, t, hcheck, h⟩ := run_bind_eq_ok h
  rw [run_checkSpan] at hcheck
  obtain rfl : d = t := congrArg Prod.snd hcheck
  have hl : ¬ d.buffer.lineCount ≤ s.last := by
    intro hle
    rw [if_pos hle] at hcheck
    cases hcheck
  obtain ⟨target, t, htake, h⟩ := run_bind_eq_ok h
  obtain rfl := takeWritable_state htake
  cases h
  exact ⟨hs, Nat.lt_of_not_le hl, rfl, rfl⟩

end Edit

namespace Destination

variable {t u : Desk} {p : Destination} {count : Option Nat}

/-- The deletion starts where the cursor has gone. -/
theorem act_goTo_takesOut {register : Option Char} {col k : Nat} {outcome : NormalOutcome}
    (hd : t.buffer.Fits) (hline : p.lineIn t.buffer = k)
    (h : (Normal.act .deleteLines count register col).run.run
      { t with buffer := t.buffer.goTo k } = (.ok outcome, u)) :
    Buffer.TakesOut (p.span count t.buffer) t.buffer u.buffer := by
  have hgo : (t.buffer.goTo k).Fits := (t.buffer.goTo_evolves k).fits hd
  obtain ⟨b, t', hb, h⟩ := run_bind_eq_ok h
  cases hb
  obtain ⟨n, t', hdelete, h⟩ := run_bind_eq_ok h
  have hout := Edit.deleteLines_takesOut (hgo.linesFromCursor_ordered _) hdelete
  cases h
  rw [span, hline]
  exact ⟨hout.ordered, hout.within, hout.lines, hout.marks⟩

/-- Without a jump it starts where the cursor is. -/
theorem act_takesOut {register : Option Char} {col : Nat} {outcome : NormalOutcome}
    (hd : t.buffer.Fits) (hline : p.lineIn t.buffer = t.buffer.current)
    (h : (Normal.act .deleteLines count register col).run.run t = (.ok outcome, u)) :
    Buffer.TakesOut (p.span count t.buffer) t.buffer u.buffer := by
  have hcurrent : min t.buffer.current t.buffer.lastLine = t.buffer.current :=
    Nat.min_eq_left (Nat.le_sub_one_of_lt hd.current_lt)
  have hhere : t = { t with buffer := t.buffer.goTo t.buffer.current } := by
    rw [Buffer.goTo, hcurrent]
  rw [hhere] at h
  exact act_goTo_takesOut hd hline h

/-- A command that deletes lines has deleted those of one span. -/
theorem command_takesOut (hd : t.buffer.Fits) {col : Nat} {outcome : NormalOutcome}
    (h : (Normal.run (p.command count) col).run.run t = (.ok outcome, u)) :
    Buffer.TakesOut (p.span count t.buffer) t.buffer u.buffer := by
  cases p with
  | here => exact act_takesOut hd rfl h
  | line n =>
    obtain ⟨first, t', hgo, h⟩ := run_bind_eq_ok h
    obtain ⟨b, t'', hb, hgo⟩ := run_bind_eq_ok hgo
    cases hb
    split at hgo
    · cases hgo
    · cases hgo
      exact act_goTo_takesOut hd rfl h
  | last =>
    obtain ⟨first, t', hgo, h⟩ := run_bind_eq_ok h
    cases hgo
    exact act_goTo_takesOut hd rfl h
  | mark name =>
    obtain ⟨b, t', hb, h⟩ := run_bind_eq_ok h
    cases hb
    cases hmark : t.buffer.mark? name with
    | some k =>
      rw [if_pos (by rw [hmark]; rfl)] at h
      obtain ⟨jumped, t', hjump, h⟩ := run_bind_eq_ok h
      obtain ⟨b, t'', hb, hjump⟩ := run_bind_eq_ok hjump
      cases hb
      rw [hmark] at hjump
      cases hjump
      exact act_goTo_takesOut hd (by rw [lineIn, hmark]; rfl) h
    | none =>
      rw [if_neg (by rw [hmark]; decide)] at h
      exact act_takesOut hd (by rw [lineIn, hmark]; rfl) h

end Destination

/-- What keys that delete lines have done if they have succeeded. -/
theorem DeletesLines.runKeys_takesOut {keys : Text} {p : Destination} {count : Option Nat}
    (hkeys : DeletesLines keys p count) {t u : Desk} (hd : t.buffer.Fits) {col : Nat}
    {outcome : NormalOutcome} (h : (Normal.runKeys keys col).run.run t = (.ok outcome, u)) :
    Buffer.TakesOut (p.span count t.buffer) t.buffer u.buffer := by
  unfold Normal.runKeys at h
  rw [hkeys.read_eq] at h
  exact Destination.command_takesOut hd h

/-! ## From the bottom up -/

namespace Destination

variable {b b' : Buffer} {p : Destination} {count : Option Nat} {name : Char} {s : LineSpan}

theorem first_span (p : Destination) (count : Option Nat) (b : Buffer) :
    (p.span count b).first = min (p.lineIn b) b.lastLine := rfl

theorem span_ordered (hb : b.Fits) : (p.span count b).first ≤ (p.span count b).last :=
  ((b.goTo_evolves (p.lineIn b)).fits hb).linesFromCursor_ordered _

/-- Marks that are on no line but those of the span are gone with it. -/
theorem unmarked_of_takesOut (hout : Buffer.TakesOut s b b')
    (hb : ∀ k, (name, k) ∈ b.marks → s.contains k = true) (k : Nat) : (name, k) ∉ b'.marks := by
  rw [hout.marks]
  intro hmem
  obtain ⟨m, hm, hname⟩ := List.mem_map.mp hmem
  obtain ⟨hm, hspared⟩ := List.mem_filter.mp hm
  have hline : (name, m.2) ∈ b.marks := by
    rw [show name = m.1 from (congrArg Prod.fst hname).symm]
    exact hm
  rw [hb m.2 hline] at hspared
  cases hspared

theorem mark?_eq_none (hb : ∀ k, (name, k) ∉ b.marks) : b.mark? name = none := by
  refine List.lookup_eq_none_iff.mpr fun m hm => ?_
  rw [bne_iff_ne]
  rintro rfl
  exact hb m.2 hm

/-- A mark is gone when the lines that start at it are deleted. -/
theorem unmarked_of_span (hb : b.Fits)
    (hmark : ∀ k, (name, k) ∈ b.marks → b.mark? name = some k)
    (hout : Buffer.TakesOut ((mark name).span count b) b b') (k : Nat) : (name, k) ∉ b'.marks := by
  refine unmarked_of_takesOut hout (fun j hj => ?_) k
  have hj := hmark j hj
  have hfirst : ((mark name).span count b).first = j := by
    rw [first_span, lineIn, hj, Option.getD_some]
    exact Nat.min_eq_left (Nat.le_sub_one_of_lt (hb.mark?_lt hj))
  rw [LineSpan.contains, Bool.and_eq_true, decide_eq_true_eq, decide_eq_true_eq]
  exact ⟨Nat.le_of_eq hfirst, hfirst ▸ hout.ordered⟩

theorem mem_marks_of_mark? {k : Nat} (h : b.mark? name = some k) : (name, k) ∈ b.marks := by
  obtain ⟨before, after, hmarks, -⟩ := List.lookup_eq_some_iff.mp h
  rw [hmarks]
  exact List.mem_append_right before List.mem_cons_self

/-- A line above the cursor, where the deletion does not start above it. -/
theorem lt_first_span {n : Nat} (hb : b.Fits) (hn : n < b.current) (hline : n < p.lineIn b) :
    n < (p.span count b).first := by
  rw [first_span]
  exact Nat.lt_min.mpr ⟨hline, Nat.lt_of_lt_of_le hn (Nat.le_sub_one_of_lt hb.current_lt)⟩

theorem StaysBelow.mono {ns ms : List Nat} (h : p.StaysBelow b ns) (hsub : ms ⊆ ns) :
    p.StaysBelow b ms := by
  cases p with
  | here => trivial
  | line n => exact fun m hm => h m (hsub hm)
  | last => trivial
  | mark name =>
    intro k hk
    obtain ⟨hset, hlt⟩ := h k hk
    exact ⟨hset, fun m hm => hlt m (hsub hm)⟩

/-- What holds of all pairs of which the second is not the first of all. -/
theorem pairwise_of_tail {α : Type} {R S : α → α → Prop} {xs : List α} (h : xs.Pairwise R)
    (himp : ∀ x ∈ xs, ∀ y ∈ xs.tail, R x y → S x y) : xs.Pairwise S := by
  cases xs with
  | nil => exact .nil
  | cons x xs =>
    obtain ⟨hx, hxs⟩ := List.pairwise_cons.mp h
    refine List.pairwise_cons.mpr ⟨fun y hy => himp x List.mem_cons_self y hy (hx y hy), ?_⟩
    exact hxs.imp_of_mem fun hy hz => himp _ (List.mem_cons_of_mem x hy) _ hz

/-- Only the first deletion finds the mark. The others start where the cursor is. -/
theorem unmarked_after_first {t : Desk} {ts : List Desk}
    (hts : (t :: ts).IsChain fun t u =>
      Buffer.TakesOut ((mark name).span count t.buffer) t.buffer u.buffer)
    (hfit : t.buffer.Fits)
    (hmark : ∀ k, (name, k) ∈ t.buffer.marks → t.buffer.mark? name = some k) :
    ∀ u ∈ ts, u.buffer.mark? name = none := by
  obtain ⟨hnext, hts⟩ := List.isChain_cons.mp hts
  have hgone : ∀ u ∈ ts, ∀ k, (name, k) ∉ u.buffer.marks := by
    refine hts.induction (fun u : Desk => ∀ k, (name, k) ∉ u.buffer.marks) ts
      (fun u v hout hu => unmarked_of_takesOut hout fun k hk => absurd hk (hu k)) fun hne => ?_
    exact unmarked_of_span hfit hmark (hnext _ (List.head_mem_head? hne))
  exact fun u hu => mark?_eq_none (hgone u hu)

/-- On the way up no deletion starts at or above a line that is still to come, if none starts there
in the buffer of the first. -/
theorem StaysBelow.pairwise {ts : List Desk}
    (hts : ts.IsChain fun t u => Buffer.TakesOut (p.span count t.buffer) t.buffer u.buffer)
    (hfits : ∀ t ∈ ts, t.buffer.Fits) (hup : (ts.map (·.buffer.current)).Pairwise (· > ·))
    (hhead : ∀ t ∈ ts.head?, t.buffer.marks = b.marks)
    (hbelow : p.StaysBelow b (ts.tail.map (·.buffer.current))) :
    ts.Pairwise fun t u => u.buffer.current < (p.span count t.buffer).first := by
  have hup := List.pairwise_map.mp hup
  cases p with
  | here => exact hup.imp_of_mem fun ht _ hlt => lt_first_span (hfits _ ht) hlt hlt
  | last =>
    refine hup.imp_of_mem fun ht _ hlt => lt_first_span (hfits _ ht) hlt ?_
    exact Nat.lt_of_lt_of_le hlt (Nat.le_sub_one_of_lt (hfits _ ht).current_lt)
  | line n =>
    refine pairwise_of_tail hup fun t ht u hu hlt => lt_first_span (hfits t ht) hlt ?_
    exact hbelow _ (List.mem_map_of_mem hu)
  | mark name =>
    cases ts with
    | nil => exact .nil
    | cons t ts =>
      have hfit := hfits t List.mem_cons_self
      have hsame : t.buffer.marks = b.marks := hhead t rfl
      have hmark : ∀ k, (name, k) ∈ t.buffer.marks → t.buffer.mark? name = some k ∧
          ∀ m ∈ ts.map (·.buffer.current), m < k := by
        rw [Buffer.mark?, hsame]
        exact hbelow
      have hgone := unmarked_after_first hts hfit fun k hk => (hmark k hk).1
      obtain ⟨hfirst, hup⟩ := List.pairwise_cons.mp hup
      refine List.pairwise_cons.mpr ⟨fun u hu => lt_first_span hfit (hfirst u hu) ?_, ?_⟩
      · cases hset : t.buffer.mark? name with
        | none =>
          rw [lineIn, hset]
          exact hfirst u hu
        | some k =>
          rw [lineIn, hset]
          exact (hmark k (mem_marks_of_mark? hset)).2 _ (List.mem_map_of_mem hu)
      · refine hup.imp_of_mem fun hu _ hlt =>
          lt_first_span (hfits _ (List.mem_cons_of_mem t hu)) hlt ?_
        rw [lineIn, hgone _ hu]
        exact hlt

end Destination

end ModalEditor
