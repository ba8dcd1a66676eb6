import ModalEditor.Normal.Run
import ModalEditor.Proofs.Edit.Evolution

/-!
# What normal-mode commands keep of a desk

Every normal-mode command leads from a desk to one that evolves from it, if cursor and marks fit at
the start. The commands that nest (jumps to a mark and commands in a row) are treated by induction
on the command.
-/

namespace ModalEditor

/-- The lines from the cursor on do not run backwards. -/
theorem Buffer.Fits.linesFromCursor_ordered {b : Buffer} (h : b.Fits) (count : Nat) :
    (b.linesFromCursor count).first ≤ (b.linesFromCursor count).last := by
  have hcur := h.current_lt
  simp only [Buffer.linesFromCursor, Buffer.lastLine]
  omega

namespace Normal

open Edit

variable {d : Desk}

theorem move_evolves (m : Motion) (count : Option Nat) (col : Nat) (d : Desk) :
    Leads Desk.Evolves (move m count col) d := by
  have hvertical : ∀ n, Leads Desk.Evolves (move.vertical col (d.buffer.goTo n)) d := fun n =>
    goTo_evolves n d
  have hline : ∀ n, Leads Desk.Evolves (move.toLine d.buffer n) d := fun n => goTo_evolves n d
  have hwords : ∀ motion n, Leads Desk.Evolves (move.byWords col d.buffer motion n) d :=
    fun motion n => goTo_evolves _ d
  refine leads_buffer_bind ?_
  cases m with
  | down => exact hvertical _
  | up => exact hvertical _
  | left => exact .pure _
  | right => exact .pure _
  | lineStart => exact .pure _
  | firstNonBlank => exact .pure _
  | lineEnd => exact .pure _
  | wordForward => exact hwords _ _
  | wordBackward => exact hwords _ _
  | firstLine => exact hline _
  | lastLine => exact hline _

theorem insertPosition_evolves (kind : InsertKind) (col : Nat) (d : Desk) :
    Leads Desk.Evolves (insertPosition kind col) d := by
  have hopened : ∀ below, Leads Desk.Evolves
      (insertPosition.opened (d.buffer.openLine d.buffer.current below)) d := fun below =>
    ⟨d.buffer.openLine_evolves _ below, fun h => ⟨h.buffer.openLine _ below, h.registers⟩⟩
  refine leads_buffer_bind ?_
  cases kind with
  | before => exact .pure _
  | after => exact .pure _
  | lineEnd => exact .pure _
  | lineStart => exact .pure _
  | openBelow => exact hopened true
  | openAbove => exact hopened false

theorem insert_evolves (kind : InsertKind) (text : Option Text) (col : Nat) (d : Desk) :
    Leads Desk.Evolves (insert kind text col) d := by
  refine (insertPosition_evolves kind col d).bind fun p t _ _ => ?_
  cases text with
  | none => exact .pure _
  | some new =>
    dsimp only
    split
    · exact .throw _
    · rename_i hnew
      exact ⟨t.buffer.insertText_evolves p new,
        fun h => ⟨h.buffer.insertText p hnew, h.registers⟩⟩

theorem put_evolves (before : Bool) (register : Option Char) (count col : Nat)
    (hd : d.buffer.Fits) : Leads Desk.Evolves (put before register count col) d := by
  refine Leads.get_bind ?_
  dsimp only
  split
  · exact (putInline_evolves col before register count hd).bind fun _ _ _ _ => .pure _
  · exact (putLines_evolves before register count d).bind fun _ _ _ _ => .pure _

theorem act_evolves (action : Action) (count : Option Nat) (register : Option Char) (col : Nat)
    (hd : d.buffer.Fits) : Leads Desk.Evolves (act action count register col) d := by
  have hlines := hd.linesFromCursor_ordered (max (count.getD 1) 1)
  refine leads_buffer_bind ?_
  cases action with
  | deleteLines => exact (deleteLines_evolves hlines register d).bind fun _ _ _ _ => .pure _
  | yankLines => exact (yankLines_evolves _ register d).bind fun _ _ _ _ => .pure _
  | changeLines => exact (changeLines_evolves hlines register d).bind fun _ _ _ _ => .pure _
  | deleteWords => exact (deleteSpan_evolves _ _ _ register d).bind fun _ _ _ _ => .pure _
  | changeWords => exact (deleteSpan_evolves _ _ _ register d).bind fun _ _ _ _ => .pure _
  | deleteChars =>
    dsimp only
    split
    · exact (deleteSpan_evolves _ _ _ register d).bind fun _ _ _ _ => .pure _
    · exact .pure _
  | put before => exact put_evolves before register _ col hd
  | move m => exact (move_evolves m count col d).bind fun _ _ _ _ => .pure _
  | insert kind text => exact insert_evolves kind text col d

theorem jump_evolves (mark : Char) (d : Desk) : Leads Desk.Evolves (run.jump mark) d := by
  refine leads_buffer_bind ?_
  cases d.buffer.mark? mark with
  | none => exact .throw _
  | some n => exact goTo_evolves n d

/-- Every normal-mode command, however it ends. -/
theorem run_evolves (c : NormalCommand) (col : Nat) (d : Desk) (hd : d.buffer.Fits) :
    Leads Desk.Evolves (run c col) d := by
  induction c generalizing col d with
  | setMark mark =>
    refine leads_buffer_bind ?_
    refine .bind_still (by rw [run_orFail]) fun b hb => ?_
    rw [run_orFail] at hb
    have hset : d.buffer.setMark mark d.buffer.current = .ok b := congrArg Prod.fst hb
    exact ⟨Buffer.setMark_evolves hset, fun h => ⟨h.buffer.setMark hset, h.registers⟩⟩
  | jumpMark mark => exact jump_evolves mark d
  | jumpMarkOr mark next otherwise ihnext ihotherwise =>
    refine leads_buffer_bind ?_
    split
    · exact (jump_evolves mark d).bind fun _ t _ hdt => ihnext _ t (hdt.buffer.fits hd)
    · exact ihotherwise col d hd
  | gotoLine n =>
    refine leads_buffer_bind ?_
    split
    · exact .throw _
    · exact goTo_evolves _ d
  | andThen first second ihfirst ihsecond =>
    exact (ihfirst col d hd).bind fun _ t _ hdt => ihsecond _ t (hdt.buffer.fits hd)
  | act count register action => exact act_evolves action count register col hd

theorem runKeys_evolves (keys : Text) (col : Nat) (d : Desk) (hd : d.buffer.Fits) :
    Leads Desk.Evolves (runKeys keys col) d := by
  unfold runKeys
  split
  · exact run_evolves _ col d hd
  · exact .throw _

end Normal
end ModalEditor
