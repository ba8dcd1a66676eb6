import ModalEditor.Edit.Global
import ModalEditor.Edit.Lines
import ModalEditor.Proofs.Buffer.Breaks
import ModalEditor.Proofs.Buffer.Evolution
import ModalEditor.Proofs.Running

/-!
# What edits keep of a desk

Every edit leads from a desk to one that evolves from it: the buffer evolves (`Buffer.Evolves`), and
if there was no line break in the lines, the registers and the path, there is none afterwards. This
holds of an edit that fails as well. Operations on a span need a span that does not run backwards;
that it lies within the buffer they check themselves.
-/

namespace ModalEditor

/-- Neither the buffer nor the registers have line breaks in their lines. -/
structure Desk.Unbroken (d : Desk) : Prop where
  /-- The buffer has none. -/
  buffer : d.buffer.Unbroken
  /-- The registers have none. -/
  registers : d.registers.Unbroken

/-- `d'` is what some edits have made of `d`. -/
structure Desk.Evolves (d d' : Desk) : Prop where
  /-- The buffer evolves. -/
  buffer : d.buffer.Evolves d'.buffer
  /-- No line breaks come in. -/
  unbroken : d.Unbroken → d'.Unbroken

namespace Desk

instance : Std.Refl Evolves := ⟨fun d => ⟨.refl d.buffer, id⟩⟩

instance : IsTrans Desk Evolves :=
  ⟨fun _ _ _ h k => ⟨h.buffer.trans k.buffer, k.unbroken ∘ h.unbroken⟩⟩

theorem Evolves.refl (d : Desk) : d.Evolves d := Std.Refl.refl d

theorem Evolves.trans {a b c : Desk} (h : a.Evolves b) (k : b.Evolves c) : a.Evolves c :=
  IsTrans.trans a b c h k

/-- The selected register is used up. -/
def unselected (d : Desk) : Desk := { d with buffer := { d.buffer with selected := none } }

theorem unselected_evolves (d : Desk) : d.Evolves d.unselected :=
  ⟨Buffer.selected_evolves d.buffer none, fun h => ⟨h.buffer.congr rfl rfl, h.registers⟩⟩

end Desk

namespace Edit

variable {α : Type} {d : Desk}

/-! ## Basic steps -/

@[simp] theorem run_buffer (d : Desk) : buffer.run.run d = (.ok d.buffer, d) := rfl

@[simp] theorem run_modifyBuffer (f : Buffer → Buffer) (d : Desk) :
    (modifyBuffer f).run.run d = (.ok ⟨⟩, { d with buffer := f d.buffer }) := rfl

@[simp] theorem run_orFail (x : Except EditorError α) (d : Desk) :
    (orFail x).run.run d = (x, d) := by cases x <;> rfl

@[simp] theorem run_takeRegister (named : Option Char) (d : Desk) :
    (takeRegister named).run.run d = (.ok (named.or d.buffer.selected), d.unselected) := rfl

theorem run_checkSpan (s : LineSpan) (d : Desk) :
    (checkSpan s).run.run d =
      (if d.buffer.lineCount ≤ s.last then .error (.lineOutOfRange (s.last + 1)) else .ok ⟨⟩,
        d) := by
  unfold checkSpan
  simp only [run_bind, run_buffer]
  split <;> rfl

theorem run_takeWritable (named : Option Char) (d : Desk) :
    (takeWritable named).run.run d =
      (match named.or d.buffer.selected with
        | some name =>
          if Register.isWritable name then .ok (some name) else .error (badRegister name)
        | none => .ok none, d.unselected) := by
  unfold takeWritable
  simp only [run_bind, run_takeRegister]
  cases named.or d.buffer.selected with
  | none => rfl
  | some name => cases hw : Register.isWritable name <;> simp only [hw] <;> rfl

/-- The state in which the buffer is looked at is the one in which what follows starts. -/
theorem leads_buffer_bind {R : Desk → Desk → Prop} {f : Buffer → Edit α}
    (h : Leads R (f d.buffer) d) : Leads R (buffer >>= f) d := h

theorem modifyBuffer_evolves {f : Buffer → Buffer} (hb : d.buffer.Evolves (f d.buffer))
    (hu : d.Unbroken → (f d.buffer).Unbroken) : Leads Desk.Evolves (modifyBuffer f) d :=
  ⟨hb, fun h => ⟨hu h, h.registers⟩⟩

theorem goTo_evolves (n : Nat) (d : Desk) : Leads Desk.Evolves (modifyBuffer (·.goTo n)) d :=
  modifyBuffer_evolves (Buffer.goTo_evolves _ n) fun h => h.buffer.goTo n

/-- What follows a check of a span works on lines of the buffer. -/
theorem checkSpan_bind_evolves {s : LineSpan} {f : PUnit → Edit α}
    (h : s.last < d.buffer.lines.length → Leads Desk.Evolves (f ⟨⟩) d) :
    Leads Desk.Evolves (checkSpan s >>= f) d := by
  refine .bind_still (by rw [run_checkSpan]) fun _ hok => h (Nat.lt_of_not_le fun hs => ?_)
  rw [run_checkSpan, if_pos (show d.buffer.lineCount ≤ s.last from hs)] at hok
  cases hok

theorem takeWritable_evolves (named : Option Char) (d : Desk) :
    Leads Desk.Evolves (takeWritable named) d := by
  unfold Leads
  rw [run_takeWritable]
  exact d.unselected_evolves

/-- Only the selection changes when a register is chosen to write to. -/
theorem takeWritable_state {named : Option Char} {r : Except EditorError (Option Char)} {t : Desk}
    (h : (takeWritable named).run.run d = (r, t)) : t = d.unselected := by
  rw [run_takeWritable] at h
  cases h
  rfl

/-- Only the selection changes when a register is looked up. -/
theorem takeContent_state (named : Option Char) (d : Desk) :
    ((takeContent named).run.run d).2 = d.unselected := by
  unfold takeContent
  simp only [run_bind, run_takeRegister]
  cases named.or d.buffer.selected with
  | none =>
    simp only [run_bind, run_get]
    split <;> rfl
  | some name =>
    simp only
    split
    · rfl
    · simp only [run_bind, run_get]
      split <;> rfl

/-- The content that is put is that of a register as the buffer sees it. -/
theorem takeContent_ok {named : Option Char} {r : Register} {t : Desk}
    (h : (takeContent named).run.run d = (.ok r, t)) :
    r = (d.buffer.register? d.registers (named.or d.buffer.selected)).getD .empty ∧
      r.isEmpty = false := by
  unfold takeContent at h
  simp only [run_bind, run_takeRegister] at h
  have hread : ∀ {source : Option Char},
      ((do
        let d ← get
        let content := (d.buffer.register? d.registers source).getD .empty
        if content.isEmpty then throw (.emptyRegister (source.getD '"'))
        return content : Edit Register)).run.run d.unselected = (.ok r, t) →
      r = (d.buffer.register? d.registers source).getD .empty ∧ r.isEmpty = false := by
    intro source h
    simp only [run_bind, run_get] at h
    split at h
    · cases h
    · rename_i hc
      cases h
      exact ⟨rfl, by simpa using hc⟩
  cases hs : named.or d.buffer.selected with
  | none =>
    rw [hs] at h
    exact hread h
  | some name =>
    rw [hs] at h
    simp only at h
    split at h
    · cases h
    · exact hread h

theorem takeContent_evolves (named : Option Char) (d : Desk) :
    Leads Desk.Evolves (takeContent named) d := by
  unfold Leads
  rw [takeContent_state]
  exact d.unselected_evolves

/-- The content that is put has no line breaks in its lines if there are none in the registers. -/
theorem takeContent_unbroken {named : Option Char} {r : Register} {t : Desk}
    (h : (takeContent named).run.run d = (.ok r, t)) (ht : t.Unbroken) : r.Unbroken := by
  have hstate := takeContent_state named d
  rw [h] at hstate
  obtain rfl : t = d.unselected := hstate
  obtain ⟨rfl, -⟩ := takeContent_ok h
  cases hr : d.buffer.register? d.registers (named.or d.buffer.selected) with
  | none => exact Register.unbroken_empty
  | some r => exact ht.buffer.register? (b := d.unselected.buffer) ht.registers hr

/-! ## Whole lines -/

theorem deleteLines_evolves {s : LineSpan} (hs : s.first ≤ s.last) (register : Option Char)
    (d : Desk) : Leads Desk.Evolves (deleteLines s register) d := by
  refine checkSpan_bind_evolves fun hl => ?_
  refine (takeWritable_evolves register d).bind fun target t ht _ => ?_
  obtain rfl := takeWritable_state ht
  exact ⟨Buffer.removeLines_evolves _ hs hl,
    fun h => ⟨h.buffer.removeLines s, h.registers.recordDelete target (h.buffer.linesOf s)⟩⟩

theorem yankLines_evolves (s : LineSpan) (register : Option Char) (d : Desk) :
    Leads Desk.Evolves (yankLines s register) d := by
  refine checkSpan_bind_evolves fun _ => ?_
  refine (takeWritable_evolves register d).bind fun target t _ _ => ?_
  exact ⟨.refl _, fun h => ⟨h.buffer, h.registers.recordYank target (h.buffer.linesOf s)⟩⟩

theorem changeLines_evolves {s : LineSpan} (hs : s.first ≤ s.last) (register : Option Char)
    (d : Desk) : Leads Desk.Evolves (changeLines s register) d := by
  refine checkSpan_bind_evolves fun hl => ?_
  refine (takeWritable_evolves register d).bind fun target t ht _ => ?_
  obtain rfl := takeWritable_state ht
  have hreplace := d.unselected.buffer.replaceLines_evolves hs hl [[]]
  exact ⟨hreplace.trans (Buffer.goTo_evolves _ _),
    fun h => ⟨(h.buffer.replaceLines s (unbroken_singleton.mpr (by simp))).goTo _,
      h.registers.recordDelete target (h.buffer.linesOf s)⟩⟩

/-! ## Putting -/

theorem run_checkPut (unit count : Nat) (d : Desk) :
    (checkPut unit count).run.run d =
      (if maxPut < unit * max count 1 then .error .textTooLong else .ok ⟨⟩, d) := by
  unfold checkPut
  split <;> rfl

theorem checkPut_state (unit count : Nat) (d : Desk) : ((checkPut unit count).run.run d).2 = d := by
  rw [run_checkPut]

theorem length_copies (lines : List Text) (n : Nat) :
    (List.replicate n lines).flatten.length = lines.length * n := by
  rw [List.length_flatten, List.map_replicate, List.sum_replicate_nat, Nat.mul_comm]

/-- Copies of unbroken lines. -/
theorem unbroken_copies {lines : List Text} (h : Unbroken lines) (n : Nat) :
    Unbroken (List.replicate n lines).flatten := by
  intro l hl
  obtain ⟨ls, hls, hl⟩ := List.mem_flatten.mp hl
  exact h l (List.eq_of_mem_replicate hls ▸ hl)

theorem putLines_evolves (above : Bool) (register : Option Char) (count : Nat) (d : Desk) :
    Leads Desk.Evolves (putLines above register count) d := by
  refine (takeContent_evolves register d).bind fun content t ht _ => ?_
  refine .bind_still (checkPut_state _ count t) fun _ _ => ?_
  exact ⟨(Buffer.insertLines_evolves _ _ _).trans (Buffer.goTo_evolves _ _),
    fun h => ⟨(h.buffer.insertLines _
      (unbroken_copies (takeContent_unbroken ht h) _)).goTo _, h.registers⟩⟩

theorem putInline_evolves (col : Nat) (before : Bool) (register : Option Char) (count : Nat)
    (hd : d.buffer.Fits) : Leads Desk.Evolves (putInline col before register count) d := by
  refine (takeContent_evolves register d).bind fun content t ht hdt => ?_
  refine .bind_still (checkPut_state _ count t) fun _ _ => ?_
  have hcur := (hdt.buffer.fits hd).current_lt
  exact ⟨(Buffer.replaceLines_evolves _ (Nat.le_refl _) hcur _).trans (Buffer.goTo_evolves _ _),
    fun h => ⟨(h.buffer.replaceLines _ (unbroken_splitLines _)).goTo _, h.registers⟩⟩

/-! ## Within a line -/

theorem deleteSpan_evolves (n start stop : Nat) (register : Option Char) (d : Desk) :
    Leads Desk.Evolves (deleteSpan n start stop register) d := by
  refine (takeWritable_evolves register d).bind fun target t _ _ => ?_
  refine leads_buffer_bind ?_
  dsimp only
  split
  · exact .pure _
  · refine ⟨Buffer.setLine_evolves _ _ _, fun h => ⟨h.buffer.setLine _ ?_, h.registers.set target
      (Register.unbroken_ofText ?_)⟩⟩
    · simp only [List.mem_append, not_or]
      exact ⟨fun hm => h.buffer.line n (List.mem_of_mem_take hm),
        fun hm => h.buffer.line n (List.mem_of_mem_drop hm)⟩
    · exact fun hm => h.buffer.line n (List.mem_of_mem_take (List.mem_of_mem_drop hm))

/-! ## Patterns -/

theorem typedPattern_state (pattern : Text) (d : Desk) :
    ((typedPattern pattern).run.run d).2 = d := by
  unfold typedPattern
  split
  · rfl
  · simp only [run_bind, run_buffer]
    split <;> rfl

theorem compile_evolves (pattern : Text) (ignoreCase : Bool) (d : Desk) :
    Leads Desk.Evolves (compile pattern ignoreCase) d := by
  refine .bind_still (typedPattern_state pattern d) fun typed _ => ?_
  refine .bind_still (by rw [run_orFail]) fun re _ => ?_
  exact ⟨Buffer.lastSearch_evolves _ _, fun h => ⟨h.buffer.congr rfl rfl, h.registers⟩⟩

end Edit

namespace Substitute

/-- Replacing goes down the lines and never leaves the buffer. -/
theorem replaceOn_evolves (r : Rule) (n i : Nat) (b : Buffer) :
    b.Evolves (replaceOn r n i b).1 ∧ (b.Unbroken → (replaceOn r n i b).1.Unbroken) := by
  fun_induction replaceOn r n i b with
  | case1 => exact ⟨.refl _, id⟩
  | case2 => exact ⟨.refl _, id⟩
  | case3 i b n line hline hcount ih => exact ih
  | case4 n i b line hline hcount pieces last b' count changed hrest ih =>
    have hi : i < b.lines.length := (List.getElem?_eq_some_iff.mp hline).1
    rw [hrest] at ih
    exact ⟨(b.replaceLines_evolves (Nat.le_refl _) hi pieces).trans ih.1,
      fun h => ih.2 (h.replaceLines _ (unbroken_splitLines _))⟩

theorem replace_evolves (r : Rule) (s : LineSpan) (b : Buffer) :
    b.Evolves (replace r s b).1 ∧ (b.Unbroken → (replace r s b).1.Unbroken) := by
  obtain ⟨hb, hu⟩ := replaceOn_evolves r s.size s.first b
  unfold replace
  rcases hr : replaceOn r s.size s.first b with ⟨b', count, _ | n⟩ <;> rw [hr] at hb hu
  · exact ⟨hb, hu⟩
  · exact ⟨hb.trans (Buffer.goTo_evolves _ _), fun h => (hu h).goTo n⟩

end Substitute

namespace Edit

theorem substitute_evolves (s : LineSpan) (pattern replacement : Text) (flags : SubFlags)
    (o : Options) (d : Desk) :
    Leads Desk.Evolves (substitute s pattern replacement flags o) d := by
  refine checkSpan_bind_evolves fun _ => ?_
  refine (compile_evolves pattern _ d).bind fun re t _ _ => ?_
  refine leads_buffer_bind ?_
  split
  · exact .pure _
  · obtain ⟨hb, hu⟩ := Substitute.replace_evolves (.of re.2 replacement flags) s t.buffer
    exact ⟨hb, fun h => ⟨hu h.buffer, h.registers⟩⟩

/-! ## Visiting lines -/

/-- A visit of a line that exists carries the edit out there; after a failure nothing follows. -/
theorem run_visit_cons (each : Edit Unit) (n : Nat) (rest : List Nat) (d : Desk) :
    (visit each (n :: rest)).run d =
      if d.buffer.lineCount ≤ n then (visit each rest).run d
      else
        match each.run.run { d with buffer := d.buffer.goTo n } with
        | (.ok _, t) =>
          ({ ((visit each rest).run t).1 with lines := n :: ((visit each rest).run t).1.lines },
            ((visit each rest).run t).2)
        | (.error e, t) => ({ lines := [n], failure := some e }, t) := by
  rw [visit]
  simp only [StateT.run_bind, StateT.run_get, pure_bind]
  split
  · rfl
  · simp only [StateT.run_bind, StateT.run_modify, pure_bind]
    rcases each.run.run { d with buffer := d.buffer.goTo n } with ⟨_ | _, _⟩ <;> rfl

/-- A visit evolves the desk if what is done on every line does. -/
theorem visit_evolves {each : Edit Unit}
    (heach : ∀ d : Desk, d.buffer.Fits → Leads Desk.Evolves each d) (targets : List Nat) (d : Desk)
    (hd : d.buffer.Fits) : d.Evolves ((visit each targets).run d).2 := by
  induction targets generalizing d with
  | nil => exact .refl d
  | cons n rest ih =>
    rw [run_visit_cons]
    split
    · exact ih d hd
    · have hgo : d.Evolves { d with buffer := d.buffer.goTo n } := goTo_evolves n d
      have hdone := heach _ (hgo.buffer.fits hd)
      unfold Leads at hdone
      rcases hr : each.run.run { d with buffer := d.buffer.goTo n } with ⟨_ | _, t⟩ <;>
        rw [hr] at hdone
      · exact hgo.trans hdone
      · exact (hgo.trans hdone).trans (ih t ((hgo.trans hdone).buffer.fits hd))

theorem global_evolves (s : LineSpan) (pattern : Text) (inverse : Bool) (o : Options)
    {each : Edit Unit} (heach : ∀ d : Desk, d.buffer.Fits → Leads Desk.Evolves each d)
    (hd : d.buffer.Fits) : Leads Desk.Evolves (global s pattern inverse o each) d := by
  refine Leads.bind ?_ fun v t _ _ => ?_
  · refine (compile_evolves pattern _ d).bind fun re t _ hdt => ?_
    refine checkSpan_bind_evolves fun _ => ?_
    refine leads_buffer_bind ?_
    dsimp only
    split
    · exact .throw _
    · have hvisit := visit_evolves heach
        ((Search.matchingLines re.2.isMatch t.buffer inverse).filter s.contains).reverse t
        (hdt.buffer.fits hd)
      exact hvisit.trans (goTo_evolves t.buffer.current _)
  · unfold settle
    split
    · exact .throw _
    · exact .pure _

end Edit
end ModalEditor
