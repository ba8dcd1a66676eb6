import ModalEditor.Search

/-!
# Matches follow one another

The matches of a pattern on a line stand one behind the other and within the line
(`Pattern.matchesOf_inOrder`). Where a match starts and ends is what the program has recorded in its first
two slots, so this rests on how an expression is laid out: a search starts with the instruction that
records the start, and the only way to the end leads over the one that records the stop
(`Instr.Placed`). Of the threads of a search it follows that the start is recorded, before the
position they are at, and at the end the stop as well (`Thread.Good`). The two slots are also those of
group `0`, which is therefore the whole match (`groupText_zero_of_mem_matchesOf`).
-/

namespace ModalEditor.Pattern

/-- The matches follow one another on a text, from `pos` on. -/
def InOrder (t : Text) (pos : Nat) : List Match → Prop
  | [] => pos ≤ t.length
  | m :: rest => pos ≤ m.start ∧ m.start ≤ m.stop ∧ InOrder t m.stop rest

instance decidableInOrder (t : Text) (pos : Nat) : (ms : List Match) → Decidable (InOrder t pos ms)
  | [] => inferInstanceAs (Decidable (pos ≤ t.length))
  | m :: rest =>
    have := decidableInOrder t m.stop rest
    inferInstanceAs (Decidable (pos ≤ m.start ∧ m.start ≤ m.stop ∧ InOrder t m.stop rest))

/-! ## Programs -/

/-- An instruction at `place` leads to the end, which is at place `0`, only if it records in slot `1`. -/
def Instr.Placed (place : Nat) : Instr → Prop
  | .take _ next => 0 < next
  | .test _ next => 0 < next
  | .split first second => 0 < first ∧ 0 < second
  | .mark slot next => 0 < next ∨ slot = 1
  | .accept => place = 0

namespace Program

/-- All instructions are well placed, but for those in `holes`. -/
def Placed (holes : List Nat) (code : Array Instr) : Prop :=
  ∀ place instr, code[place]? = some instr → place ∈ holes ∨ instr.Placed place

/-- Laying a part out keeps instructions well placed and gives a place that is not the end. -/
def Layout.Keeps (part : Layout Nat) : Prop :=
  ∀ holes code, 0 < code.size → Placed holes code →
    0 < (part.run code).1 ∧ 0 < (part.run code).2.size ∧ Placed holes (part.run code).2

section Layout

variable {holes : List Nat} {code : Array Instr} {instr : Instr} {place : Nat}

theorem Placed.push (h : Placed holes code)
    (hinstr : code.size ∈ holes ∨ instr.Placed code.size) : Placed holes (code.push instr) := by
  intro place other hother
  rw [Array.getElem?_push] at hother
  split at hother
  · rename_i hplace
    cases hother
    exact hplace ▸ hinstr
  · exact h place other hother

/-- A hole that is filled is none any more. -/
theorem Placed.set (h : Placed (place :: holes) code) (hinstr : instr.Placed place) :
    Placed holes (code.setIfInBounds place instr) := by
  intro other instr' hother
  rw [Array.getElem?_setIfInBounds] at hother
  split at hother
  · rename_i hplace
    subst hplace
    split at hother
    · cases hother
      exact .inr hinstr
    · cases hother
  · rename_i hplace
    rcases h other instr' hother with hhole | hplaced
    · rcases List.mem_cons.mp hhole with rfl | hmem
      · exact absurd rfl hplace
      · exact .inl hmem
    · exact .inr hplaced

theorem Placed.weaken (h : Placed holes code) (place : Nat) : Placed (place :: holes) code :=
  fun other instr hother => (h other instr hother).imp_left (List.mem_cons_of_mem place)

theorem Layout.Keeps.pure {next : Nat} (hnext : 0 < next) : Keeps (return next) :=
  fun _ _ hsize hplaced => ⟨hnext, hsize, hplaced⟩

theorem Layout.Keeps.bind {part : Layout Nat} {f : Nat → Layout Nat} (hpart : Keeps part)
    (hf : ∀ next, 0 < next → Keeps (f next)) : Keeps (part >>= f) := by
  intro holes code hsize hplaced
  obtain ⟨hnext, hsize', hplaced'⟩ := hpart holes code hsize hplaced
  exact hf _ hnext holes _ hsize' hplaced'

theorem Layout.Keeps.emit (hinstr : ∀ place, instr.Placed place) : Keeps (emit instr) := by
  intro holes code hsize hplaced
  refine ⟨hsize, ?_, hplaced.push (.inr (hinstr _))⟩
  change 0 < (code.push instr).size
  rw [Array.size_push]
  exact Nat.succ_pos _

theorem placed_choose (greedy : Bool) {go skip : Nat} (hgo : 0 < go) (hskip : 0 < skip)
    (place : Nat) : (choose greedy go skip).Placed place := by
  cases greedy
  · exact ⟨hskip, hgo⟩
  · exact ⟨hgo, hskip⟩

theorem placed_mark (slot : Nat) {next : Nat} (hnext : 0 < next) (place : Nat) :
    (Instr.mark slot next).Placed place := Or.inl hnext

theorem copies_keeps {part : Nat → Layout Nat}
    (hpart : ∀ next, 0 < next → (part next).Keeps) (n : Nat) {next : Nat} (hnext : 0 < next) :
    (copies part n next).Keeps := by
  induction n generalizing next with
  | zero => exact .pure hnext
  | succ n ih => exact (hpart next hnext).bind fun _ hplace => ih hplace

theorem optional_keeps (greedy : Bool) {part : Nat → Layout Nat} {exit : Nat} (hexit : 0 < exit)
    (hpart : ∀ next, 0 < next → (part next).Keeps) (n : Nat) {next : Nat} (hnext : 0 < next) :
    (optional greedy part exit n next).Keeps := by
  induction n generalizing next with
  | zero => exact .pure hnext
  | succ n ih =>
    refine (hpart next hnext).bind fun _ hgo => ?_
    exact (Layout.Keeps.emit (placed_choose greedy hgo hexit)).bind fun _ hplace => ih hplace

/-- The instruction that closes a loop is put in after the part. Until then there is a hole. -/
theorem loop_bind_keeps (greedy : Bool) {part : Nat → Layout Nat} {next : Nat} (hnext : 0 < next)
    (hpart : ∀ next, 0 < next → (part next).Keeps) {f : Nat × Nat → Layout Nat}
    (hf : ∀ start back, 0 < start → 0 < back → (f (start, back)).Keeps) :
    (loop greedy part next >>= f).Keeps := by
  intro holes code hsize hplaced
  have hopen : Placed (code.size :: holes) (code.push .accept) :=
    (hplaced.weaken _).push (.inl List.mem_cons_self)
  have hpushed : 0 < (code.push Instr.accept).size := by
    rw [Array.size_push]
    exact Nat.succ_pos _
  obtain ⟨hstart, hsize', hplaced'⟩ := hpart code.size hsize _ _ hpushed hopen
  refine hf _ code.size hstart hsize holes _ ?_ (hplaced'.set (placed_choose greedy hstart hnext _))
  rwa [Array.size_setIfInBounds]

theorem layOut_keeps (e : Expr) {next : Nat} (hnext : 0 < next) : (layOut e next).Keeps := by
  induction e generalizing next with
  | empty => exact .pure hnext
  | chars s => exact .emit fun _ => hnext
  | look l => exact .emit fun _ => hnext
  | capture index sub ih =>
    refine (Layout.Keeps.emit (placed_mark _ hnext)).bind fun close hclose => ?_
    exact (ih hclose).bind fun start hstart => .emit (placed_mark _ hstart)
  | seq first second ihFirst ihSecond => exact (ihSecond hnext).bind fun _ h => ihFirst h
  | either first second ihFirst ihSecond =>
    refine (ihFirst hnext).bind fun a ha => (ihSecond hnext).bind fun b hb => ?_
    exact .emit fun _ => ⟨ha, hb⟩
  | repeated least most greedy sub ih =>
    have hsub : ∀ next, 0 < next → (layOut sub next).Keeps := fun _ h => ih h
    cases most with
    | some most =>
      exact (optional_keeps greedy hnext hsub (most - least) hnext).bind fun _ h =>
        copies_keeps hsub least h
    | none =>
      refine loop_bind_keeps greedy hnext hsub fun start back hstart hback => ?_
      dsimp only
      split
      · split
        · exact .emit (placed_choose greedy hstart hnext)
        · exact .pure hback
      · exact copies_keeps hsub (least - 1) hstart

end Layout

/-- A program records where it starts before anything else, and where it stops at the very end. -/
structure Records (p : Program) : Prop where
  /-- There are slots for the whole match. -/
  slots : 2 ≤ p.slots
  /-- The first instruction records the start. -/
  entry : ∃ next, 0 < next ∧ p.code[p.entry]? = some (.mark 0 next)
  /-- Only the record of the stop leads to the end. -/
  placed : Placed [] p.code

theorem ofExpr_records (e : Expr) (groups : Nat) : (ofExpr e groups).Records := by
  have hcode : Placed [] #[Instr.accept, .mark 1 0] := by
    intro place instr hinstr
    match place with
    | 0 =>
      cases hinstr
      exact .inr rfl
    | 1 =>
      cases hinstr
      exact .inr (.inr rfl)
  obtain ⟨hstart, hsize, hplaced⟩ := layOut_keeps e Nat.one_pos [] #[.accept, .mark 1 0] Nat.two_pos hcode
  refine ⟨?_, ⟨_, hstart, ?_⟩, hplaced.push (.inr (.inl hstart))⟩
  · change 2 ≤ 2 * (groups + 1)
    omega
  · exact Array.getElem?_push_size

end Program

/-! ## Searching -/

/-- A thread of a search from `start` on: its position is within the text, and it has recorded the start
before it, and the stop if it is at the end. It may also be about to record the start. -/
structure Thread.Good (p : Program) (size start : Nat) (th : Thread) : Prop where
  from_start : start ≤ th.pos
  within : th.pos ≤ size
  slots : 2 ≤ th.slots.size
  recorded : th.place = p.entry ∨ ∃ first, th.slots[0]? = some (some first) ∧ start ≤ first ∧
    first ≤ th.pos ∧ (th.place = 0 → th.slots[1]? = some (some th.pos))

namespace Program

/-- The slots hold where the match starts and where it stops. -/
def Recorded (size start : Nat) (slots : Array (Option Nat)) : Prop :=
  ∃ first last, slots[0]? = some (some first) ∧ slots[1]? = some (some last) ∧ start ≤ first ∧
    first ≤ last ∧ last ≤ size

section Search

variable {p : Program} {t : Array Char} {start : Nat}

/-- The thread after a step that moves it on but records nothing. -/
theorem good_move {th : Thread} (hp : p.Records) (h : th.Good p t.size start)
    {instr : Instr} (hinstr : p.code[th.place]? = some instr) (hnot : ∀ next, instr ≠ .mark 0 next)
    {place pos : Nat} (hplace : 0 < place) (hpos : th.pos ≤ pos) (hwithin : pos ≤ t.size) :
    Thread.Good p t.size start { th with place, pos } := by
  refine ⟨Nat.le_trans h.from_start hpos, hwithin, h.slots, .inr ?_⟩
  rcases h.recorded with hentry | ⟨first, hfirst, hle, hbefore, -⟩
  · obtain ⟨next, -, hmark⟩ := hp.entry
    rw [hentry, hmark] at hinstr
    cases hinstr
    exact absurd rfl (hnot next)
  · exact ⟨first, hfirst, hle, Nat.le_trans hbefore hpos,
      fun hend => absurd hend (Nat.ne_of_gt hplace)⟩

/-- The thread after a step that records its position. -/
theorem good_mark {th : Thread} (hp : p.Records) (h : th.Good p t.size start)
    {slot next : Nat} (hinstr : p.code[th.place]? = some (.mark slot next)) :
    Thread.Good p t.size start
      { th with place := next, slots := th.slots.setIfInBounds slot (some th.pos) } := by
  have hsize : 2 ≤ (th.slots.setIfInBounds slot (some th.pos)).size := by
    rw [Array.size_setIfInBounds]
    exact h.slots
  have hplaced : 0 < next ∨ slot = 1 := by
    rcases hp.placed _ _ hinstr with hhole | hplaced
    · cases hhole
    · exact hplaced
  refine ⟨h.from_start, h.within, hsize, .inr ?_⟩
  by_cases hslot : slot = 0
  · subst hslot
    refine ⟨th.pos, ?_, h.from_start, Nat.le_refl _, fun hend => ?_⟩
    · exact Array.getElem?_setIfInBounds_self_of_lt (Nat.lt_of_lt_of_le Nat.two_pos h.slots)
    · have hnext : next = 0 := hend
      omega
  rcases h.recorded with hentry | ⟨first, hfirst, hle, hbefore, -⟩
  · obtain ⟨next', -, hmark⟩ := hp.entry
    rw [hentry, hmark] at hinstr
    cases hinstr
    exact absurd rfl hslot
  · refine ⟨first, ?_, hle, hbefore, fun hend => ?_⟩
    · dsimp only
      rw [Array.getElem?_setIfInBounds_ne (Ne.symm (Ne.symm hslot))]
      exact hfirst
    · have hnext : next = 0 := hend
      obtain rfl : slot = 1 := by omega
      exact Array.getElem?_setIfInBounds_self_of_lt (Nat.lt_of_lt_of_le Nat.one_lt_two h.slots)

/-- A step keeps threads good, and a match is recorded. -/
theorem advance_good {th : Thread} (hp : p.Records) (h : th.Good p t.size start) :
    match p.advance t th with
    | .ok ways => ∀ w ∈ ways, Thread.Good p t.size start w
    | .error slots => Recorded t.size start slots := by
  unfold advance
  cases hinstr : p.code[th.place]? with
  | none => simp
  | some instr =>
    have hplaced : instr.Placed th.place := by
      rcases hp.placed _ _ hinstr with hhole | hplaced
      · cases hhole
      · exact hplaced
    cases instr with
    | take s next =>
      dsimp only
      cases hc : t[th.pos]? with
      | none => simp
      | some c =>
        obtain ⟨hlt, -⟩ := Array.getElem?_eq_some_iff.mp hc
        dsimp only
        split
        · simpa using good_move hp h hinstr (by simp) hplaced (Nat.le_succ _) hlt
        · simp
    | test l next =>
      have hmoved := good_move hp h hinstr (by simp) hplaced (Nat.le_refl _) h.within
      intro w hw
      rw [List.mem_ite_nil_right, List.mem_singleton] at hw
      rw [hw.2]
      exact hmoved
    | split first second =>
      have hfirst := good_move hp h hinstr (by simp) hplaced.1 (Nat.le_refl _) h.within
      have hsecond := good_move hp h hinstr (by simp) hplaced.2 (Nat.le_refl _) h.within
      simpa using ⟨hfirst, hsecond⟩
    | mark slot next => simpa using good_mark hp h hinstr
    | accept =>
      rcases h.recorded with hentry | ⟨first, hfirst, hle, hbefore, hlast⟩
      · obtain ⟨next, -, hmark⟩ := hp.entry
        rw [hentry, hmark] at hinstr
        cases hinstr
      · exact ⟨first, th.pos, hfirst, hlast hplaced, hle, hbefore, h.within⟩

/-- Whatever good thread it is that matches. -/
theorem follow_recorded (hp : p.Records) {fuel : Nat} {threads : List Thread} {seen : Array Bool}
    (h : ∀ th ∈ threads, Thread.Good p t.size start th) {slots : Array (Option Nat)}
    (hslots : (p.follow t fuel threads seen).1 = some slots) : Recorded t.size start slots := by
  induction fuel generalizing threads seen with
  | zero => cases hslots
  | succ fuel ih =>
    cases threads with
    | nil => cases hslots
    | cons th threads =>
      rw [follow] at hslots
      have hrest : ∀ th ∈ threads, Thread.Good p t.size start th :=
        fun th hth => h th (List.mem_cons_of_mem _ hth)
      split at hslots
      · exact ih hrest hslots
      · have hstep := advance_good hp (h th List.mem_cons_self)
        cases hadvance : p.advance t th with
        | ok ways =>
          rw [hadvance] at hstep hslots
          refine ih (fun w hw => ?_) hslots
          rcases List.mem_append.mp hw with hway | hother
          · exact hstep w hway
          · exact hrest w hother
        | error found =>
          rw [hadvance] at hstep hslots
          cases hslots
          exact hstep

theorem Recorded.weaken {size earlier : Nat} {slots : Array (Option Nat)} (h : Recorded size start slots)
    (hle : earlier ≤ start) : Recorded size earlier slots := by
  obtain ⟨first, last, hfirst, hlast, hstart, hbefore, hwithin⟩ := h
  exact ⟨first, last, hfirst, hlast, Nat.le_trans hle hstart, hbefore, hwithin⟩

/-- The match that slots make covers what its group `0` covers. -/
theorem matchOf_recorded {size : Nat} {slots : Array (Option Nat)} (h : Recorded size start slots) :
    start ≤ (matchOf slots).start ∧ (matchOf slots).start ≤ (matchOf slots).stop ∧
      (matchOf slots).stop ≤ size ∧
      (matchOf slots).group? 0 = some ((matchOf slots).start, (matchOf slots).stop) := by
  obtain ⟨first, last, hfirst, hlast, hle, hbefore, hwithin⟩ := h
  have hsize : 0 < slots.size / 2 := by
    obtain ⟨hlt, -⟩ := Array.getElem?_eq_some_iff.mp hlast
    omega
  obtain ⟨n, hn⟩ := Nat.exists_eq_succ_of_ne_zero (Nat.ne_of_gt hsize)
  have hstart : (matchOf slots).start = first := by
    simp [matchOf, hn, List.range_succ_eq_map, hfirst, hlast]
  have hstop : (matchOf slots).stop = last := by
    simp [matchOf, hn, List.range_succ_eq_map, hfirst, hlast]
  have hgroup : (matchOf slots).group? 0 = some (first, last) := by
    simp [Match.group?, matchOf, hn, List.range_succ_eq_map, hfirst, hlast]
  rw [hstart, hstop]
  exact ⟨hle, hbefore, hwithin, hgroup⟩

theorem searchFrom_recorded (hp : p.Records) {n pos : Nat} {seen : Array Bool} {m : Match}
    (hn : pos + n ≤ t.size + 1) (hm : p.searchFrom t n pos seen = some m) :
    ∃ slots, Recorded t.size pos slots ∧ m = matchOf slots := by
  induction n generalizing pos seen with
  | zero => cases hm
  | succ n ih =>
    rw [searchFrom] at hm
    split at hm
    · rename_i slots seen' hfollow
      cases hm
      refine ⟨slots, follow_recorded hp (fun th hth => ?_) (congrArg Prod.fst hfollow), rfl⟩
      cases List.mem_singleton.mp hth
      have hwithin : pos ≤ t.size := by omega
      refine ⟨Nat.le_refl _, hwithin, ?_, .inl rfl⟩
      rw [Array.size_replicate]
      exact hp.slots
    · obtain ⟨slots, hslots, hmatch⟩ := ih (by omega) hm
      exact ⟨slots, hslots.weaken (Nat.le_succ _), hmatch⟩

theorem search_recorded (hp : p.Records) {pos : Nat} {m : Match} (hm : p.search t pos = some m) :
    ∃ slots, Recorded t.size pos slots ∧ m = matchOf slots := by
  by_cases hpos : pos ≤ t.size + 1
  · exact searchFrom_recorded hp (by omega) hm
  · rw [search, Nat.sub_eq_zero_of_le (by omega)] at hm
    cases hm

/-- The next match of a text is searched for once more if it is empty and ends where the one before it
did. -/
theorem next_recorded (hp : p.Records) {pos : Nat} {last : Option Nat} {m : Match}
    (hm : (match p.search t pos with
      | some m => if m.start = m.stop && last = some m.stop then p.search t (pos + 1) else some m
      | none => none) = some m) :
    ∃ slots, Recorded t.size pos slots ∧ m = matchOf slots := by
  cases hsearch : p.search t pos with
  | none =>
    rw [hsearch] at hm
    cases hm
  | some found =>
    rw [hsearch] at hm
    dsimp only at hm
    split at hm
    · obtain ⟨slots, hslots, hmatch⟩ := search_recorded hp hm
      exact ⟨slots, hslots.weaken (Nat.le_succ _), hmatch⟩
    · cases hm
      exact search_recorded hp hsearch

theorem matchesFrom_inOrder (hp : p.Records) {text : Text} (fuel : Nat) {pos : Nat}
    (hpos : pos ≤ text.length) (last : Option Nat) :
    InOrder text pos (p.matchesFrom text.toArray fuel pos last) := by
  induction fuel generalizing pos last with
  | zero => exact hpos
  | succ fuel ih =>
    rw [matchesFrom]
    split
    · rename_i m hfound
      obtain ⟨slots, hslots, rfl⟩ := next_recorded hp hfound
      obtain ⟨hstart, hstop, hwithin, -⟩ := matchOf_recorded hslots
      exact ⟨hstart, hstop, ih hwithin _⟩
    · exact hpos

theorem group?_zero_of_mem_matchesFrom (hp : p.Records) (fuel pos : Nat) (last : Option Nat) :
    ∀ m ∈ p.matchesFrom t fuel pos last, m.group? 0 = some (m.start, m.stop) := by
  induction fuel generalizing pos last with
  | zero => simp [matchesFrom]
  | succ fuel ih =>
    rw [matchesFrom]
    split
    · rename_i m hfound
      obtain ⟨slots, hslots, rfl⟩ := next_recorded hp hfound
      obtain ⟨-, -, -, hgroup⟩ := matchOf_recorded hslots
      rw [List.forall_mem_cons]
      exact ⟨hgroup, ih _ _⟩
    · simp

end Search

end Program

theorem records_of_ofText {t : Text} {ignoreCase : Bool} {re : Pattern}
    (h : ofText t ignoreCase = .ok re) : re.program.Records := by
  unfold ofText at h
  rcases hread : Node.read t with fault | ⟨node, cursor⟩ <;> rw [hread] at h
  · cases h
  dsimp only [bind, Except.bind] at h
  rcases hexpr : (Expr.ofNode node).run { ignoreCase } with fault | ⟨e, flags⟩ <;> rw [hexpr] at h
  · cases h
  dsimp only at h
  split at h
  · cases h
  · cases h
    exact Program.ofExpr_records e cursor.groups

theorem records_of_compile {typed : Text} {ignoreCase : Bool} {re : Pattern}
    (h : Search.compile typed ignoreCase = .ok re) : re.program.Records := by
  unfold Search.compile at h
  cases hread : ofText (Search.withWordEdges typed) ignoreCase with
  | error fault =>
    rw [hread] at h
    cases h
  | ok re' =>
    rw [hread] at h
    cases h
    exact records_of_ofText hread

/-- The matches of a pattern that was read follow one another on every line. -/
theorem matchesOf_inOrder {typed : Text} {ignoreCase : Bool} {re : Pattern}
    (h : Search.compile typed ignoreCase = .ok re) (line : Text) :
    InOrder line 0 (re.matchesOf line) :=
  Program.matchesFrom_inOrder (records_of_compile h) _ (Nat.zero_le _) none

/-- Group `0` of a match of a pattern that was read is the whole match. -/
theorem groupText_zero_of_mem_matchesOf {typed : Text} {ignoreCase : Bool} {re : Pattern}
    (h : Search.compile typed ignoreCase = .ok re) {line : Text} {m : Match}
    (hm : m ∈ re.matchesOf line) : m.groupText line 0 = (line.take m.stop).drop m.start := by
  have hgroup := Program.group?_zero_of_mem_matchesFrom (records_of_compile h) _ _ _ m hm
  rw [Match.groupText, hgroup]

/-- A line matches if it has matches. -/
theorem isMatch_iff (re : Pattern) (line : Text) :
    re.isMatch line = true ↔ re.matchesOf line ≠ [] := by
  unfold isMatch matchesOf Program.hasMatch Program.allMatches
  rw [Program.matchesFrom]
  cases re.program.search line.toArray 0 with
  | none => simp
  | some m => simp

end ModalEditor.Pattern
