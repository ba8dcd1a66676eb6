import ModalEditor.Proofs.Edit.Substitution

/-!
# Edits carry the marks along

Every edit that changes which lines there are comes down to one operation on the lines of the buffer,
after steps that may fail but leave lines and marks alone. So an edit that succeeds carries the marks
along as that operation does, and an edit that fails moves none (`Moves`).
-/

namespace ModalEditor

section Moves

variable {S α β : Type} {look : S → Buffer} {x : Fallible S α} {s t : S}
  {place : α → Nat → Option Nat} {edited : Nat → Prop}

/-- If `x` succeeds it takes line `n` to `place a n`, where `a` is its result, and changes no text but
that of the lines that are `edited`. If it fails, lines and marks are as they were. -/
def Moves (look : S → Buffer) (place : α → Nat → Option Nat) (edited : Nat → Prop)
    (x : Fallible S α) (s : S) : Prop :=
  match x.run.run s with
  | (.ok a, t) => (look s).Carries (place a) edited (look t)
  | (.error _, t) => (look t).lines = (look s).lines ∧ (look t).marks = (look s).marks

/-- What is known of a step once it has succeeded. -/
theorem Moves.carries (h : Moves look place edited x s) {a : α} (hrun : x.run.run s = (.ok a, t)) :
    (look s).Carries (place a) edited (look t) := by
  unfold Moves at h
  rwa [hrun] at h

theorem Moves.of_ok {a : α} (h : x.run.run s = (.ok a, t))
    (hc : (look s).Carries (place a) edited (look t)) : Moves look place edited x s := by
  unfold Moves
  rw [h]
  exact hc

theorem Moves.of_error {e : EditorError} (h : x.run.run s = (.error e, t))
    (hl : (look t).lines = (look s).lines) (hm : (look t).marks = (look s).marks) :
    Moves look place edited x s := by
  unfold Moves
  rw [h]
  exact ⟨hl, hm⟩

/-- What comes before the change leaves lines and marks alone. -/
theorem Moves.bind {y : Fallible S β} {f : β → Fallible S α}
    (hl : (look (y.run.run s).2).lines = (look s).lines)
    (hm : (look (y.run.run s).2).marks = (look s).marks)
    (hf : ∀ b t, y.run.run s = (.ok b, t) → Moves look place edited (f b) t) :
    Moves look place edited (y >>= f) s := by
  rcases hr : y.run.run s with ⟨e | b, t⟩ <;> rw [hr] at hl hm
  · exact .of_error (by rw [run_bind, hr]) hl hm
  · have hrest := hf b t hr
    unfold Moves at hrest ⊢
    rw [run_bind, hr]
    dsimp only at hl hm ⊢
    rcases hq : (f b).run.run t with ⟨e | a, u⟩ <;> rw [hq] at hrest
    · exact ⟨hrest.1.trans hl, hrest.2.trans hm⟩
    · exact ⟨by rw [← hm]; exact hrest.marks, by rw [← hl]; exact hrest.lines, hrest.ordered⟩

end Moves

namespace Edit

variable {α : Type} {d : Desk} {place : α → Nat → Option Nat} {edited : Nat → Prop}

/-- Behind a check of a span the span is within the buffer. -/
theorem moves_checkSpan {s : LineSpan} {f : PUnit → Edit α}
    (h : s.last < d.buffer.lines.length → Moves Desk.buffer place edited (f ⟨⟩) d) :
    Moves Desk.buffer place edited (checkSpan s >>= f) d := by
  refine .bind (by rw [run_checkSpan]) (by rw [run_checkSpan]) fun ⟨⟩ t hrun => ?_
  rw [run_checkSpan] at hrun
  obtain rfl : d = t := congrArg Prod.snd hrun
  refine h (Nat.lt_of_not_le fun hle => ?_)
  rw [if_pos (show d.buffer.lineCount ≤ s.last from hle)] at hrun
  cases hrun

/-- Behind the choice of a register to write to, no register is selected any more. -/
theorem moves_takeWritable {register : Option Char} {f : Option Char → Edit α}
    (h : ∀ target, Moves Desk.buffer place edited (f target) d.unselected) :
    Moves Desk.buffer place edited (takeWritable register >>= f) d := by
  refine .bind (by rw [run_takeWritable]; rfl) (by rw [run_takeWritable]; rfl)
    fun target t hrun => ?_
  obtain rfl := takeWritable_state hrun
  exact h target

theorem moves_takeContent {register : Option Char} {f : Register → Edit α}
    (h : ∀ content, (takeContent register).run.run d = (.ok content, d.unselected) →
      Moves Desk.buffer place edited (f content) d.unselected) :
    Moves Desk.buffer place edited (takeContent register >>= f) d := by
  have hstate := takeContent_state register d
  refine .bind (by rw [hstate]; rfl) (by rw [hstate]; rfl) fun content t hrun => ?_
  rw [hrun] at hstate
  obtain rfl : t = d.unselected := hstate
  exact h content hrun

theorem moves_checkPut {unit count : Nat} {f : PUnit → Edit α}
    (h : Moves Desk.buffer place edited (f ⟨⟩) d) :
    Moves Desk.buffer place edited (checkPut unit count >>= f) d := by
  have hstate := checkPut_state unit count d
  refine .bind (by rw [hstate]) (by rw [hstate]) fun ⟨⟩ t hrun => ?_
  rw [hrun] at hstate
  obtain rfl : t = d := hstate
  exact h

/-! ## Whole lines -/

theorem deleteLines_moves {s : LineSpan} (hs : s.first ≤ s.last) (register : Option Char)
    (d : Desk) :
    Moves Desk.buffer (fun _ => s.carry 0) (s.contains · = true) (deleteLines s register) d := by
  refine moves_checkSpan fun hl => moves_takeWritable fun target => ?_
  exact .of_ok rfl (d.unselected.buffer.removeLines_carries hs hl)

theorem changeLines_moves {s : LineSpan} (hs : s.first ≤ s.last) (register : Option Char)
    (d : Desk) :
    Moves Desk.buffer (fun _ => s.carry 1) (s.contains · = true) (changeLines s register) d := by
  refine moves_checkSpan fun hl => moves_takeWritable fun target => ?_
  exact .of_ok rfl ((d.unselected.buffer.replaceLines_carries hs hl [[]]).congr rfl rfl)

/-- The line in front of which lines are put. -/
def placeOfPut (above : Bool) (b : Buffer) : Nat := if above then b.current else b.current + 1

/-- As many lines come in as the put says. -/
theorem putLines_moves (above : Bool) (register : Option Char) (count : Nat) (d : Desk) :
    Moves Desk.buffer
      (fun n => carryBelow (min (placeOfPut above d.buffer) d.buffer.lines.length) n)
      (fun _ => False) (putLines above register count) d := by
  refine moves_takeContent fun content _ => moves_checkPut ?_
  exact .of_ok rfl ((d.unselected.buffer.insertLines_carries _ _).congr rfl rfl)

/-- A put into a line puts pieces in the place of the line. -/
theorem putInline_moves (hd : d.buffer.current < d.buffer.lines.length) (col : Nat) (before : Bool)
    (register : Option Char) (count : Nat) :
    ∃ n, 0 < n ∧ Moves Desk.buffer (fun _ => (LineSpan.line d.buffer.current).carry n)
      (· = d.buffer.current) (putInline col before register count) d := by
  let content := ((takeContent register).run.run d).1.toOption.getD .empty
  let line := d.buffer.line d.buffer.current
  let start := if before || line.isEmpty then min col line.length else min (col + 1) line.length
  let pieces := Text.splitLines
    (line.take start ++ Text.repeated (max count 1) content.text ++ line.drop start)
  have hpieces : 0 < pieces.length := List.length_pos_iff.mpr (List.splitOn_ne_nil '\n' _)
  refine ⟨pieces.length, hpieces, moves_takeContent fun content' hrun => ?_⟩
  obtain rfl : content = content' :=
    congrArg (fun r : Except EditorError Register × Desk => r.1.toOption.getD .empty) hrun
  refine moves_checkPut (.of_ok rfl ?_)
  have hcarries := d.unselected.buffer.replaceLines_carries
    (Nat.le_refl (LineSpan.line d.buffer.current).first) hd pieces
  simp only [LineSpan.contains_line] at hcarries
  exact hcarries.congr rfl rfl

/-! ## Substitution -/

/-- A substitution on a span takes the lines to their places and changes those that have a match. -/
theorem substituted_carries {r : Substitute.Rule} {s : LineSpan} {b b' : Buffer}
    (h : r.Substituted s b b') :
    b.Carries (fun k => some (r.place (b.linesOf s) s.first k))
      (fun k => s.contains k = true ∧ r.count (b.line k) ≠ 0) b' := by
  refine ⟨?_, fun n hn hout => ⟨_, rfl, ?_⟩, fun hmn hj hk => ?_⟩
  · rw [h.marks, carryMarks_some]
  · rw [h.places n hn]
    split
    · rename_i hin
      have hcount : r.count (b.line n) = 0 := by
        by_contra hsome
        exact hout ⟨hin, hsome⟩
      rw [Substitute.Rule.pieces_of_none hcount, Buffer.line, List.getD_eq_getElem?_getD,
        List.getElem?_eq_getElem hn]
      rfl
    · rfl
  · cases hj
    cases hk
    exact r.place_lt_place _ _ hmn

/-- Without the flag `n` the lines of the span go to the places of their first pieces. -/
theorem substitute_moves {s : LineSpan} {pattern replacement typed : Text} {flags : SubFlags}
    {o : Options} {re : Pattern} (hs : s.first ≤ s.last) (hl : s.last < d.buffer.lines.length)
    (htyped : typedIn d.buffer pattern = some typed)
    (hre : Search.compile typed (flags.ignoresCase o) = .ok re) :
    let r := Substitute.Rule.of re replacement flags
    Moves Desk.buffer
      (fun _ k => some (if flags.countOnly then k else r.place (d.buffer.linesOf s) s.first k))
      (fun k => flags.countOnly = false ∧ s.contains k = true ∧ r.count (d.buffer.line k) ≠ 0)
      (substitute s pattern replacement flags o) d := by
  intro r
  have hrun := run_substitute replacement hs hl htyped hre
  refine .of_ok hrun ?_
  cases flags.countOnly with
  | true => exact .same rfl rfl
  | false =>
    have hdone := (Substitute.replace_substituted r { d.buffer with lastSearch := some typed } hs
      hl).1
    have hcarries := substituted_carries hdone
    simp only [Bool.false_eq_true, if_false, true_and]
    exact ⟨hcarries.marks, hcarries.lines, hcarries.ordered⟩

end Edit
end ModalEditor
