import ModalEditor.Proofs.Edit.Failure
import ModalEditor.Proofs.Normal.Evolution
import ModalEditor.Proofs.Word.Next

/-!
# Columns after normal-mode commands

A normal-mode command that succeeds ends at a column of the current line (`Normal.run_lands`,
`Normal.run_column_fits`). If inserting starts there, it is a column of the line or its end. Otherwise it
is on a character or at the start of the line, provided that the command started so.

The second half needs two things. Lines must not have breaks in them, for a word motion could
stop at one. And in a row of commands only the last one may start inserting. The reader sees to that:
what stands first in a row goes to a line (`NormalCommand.read_leads`).
-/

namespace ModalEditor

/-! ## Columns in a buffer -/

namespace Buffer

variable {b : Buffer} {n : Nat}

theorem firstNonBlank_onText (hn : n < b.lines.length) : b.OnText ⟨n, b.firstNonBlank n⟩ := by
  refine ⟨hn, ?_⟩
  unfold firstNonBlank
  cases hfind : (b.line n).findIdx? fun c => !ModalEditor.isBlank c with
  | none => exact .inl rfl
  | some i =>
    obtain ⟨hi, -⟩ := List.findIdx?_eq_some_iff_getElem.mp hfind
    exact .inr hi

theorem Fits.home_onText (h : b.Fits) : b.OnText ⟨b.current, b.home⟩ :=
  firstNonBlank_onText h.current_lt

theorem clampColumn_onText (hn : n < b.lines.length) (col : Nat) :
    b.OnText ⟨n, b.clampColumn n col⟩ := by
  refine ⟨hn, ?_⟩
  simp only [clampColumn]
  omega

theorem onText_zero (hn : n < b.lines.length) : b.OnText ⟨n, 0⟩ := ⟨hn, .inl rfl⟩

/-- A column further to the left. -/
theorem OnText.sub {col : Nat} (h : b.OnText ⟨n, col⟩) (k : Nat) : b.OnText ⟨n, col - k⟩ := by
  obtain ⟨hn, hcol⟩ := h
  refine ⟨hn, ?_⟩
  simp only at hcol ⊢
  omega

/-- Only the lines decide whether a position is on the text. -/
theorem OnText.congr {b' : Buffer} {p : Position} (h : b.OnText p) (hl : b'.lines = b.lines) :
    b'.OnText p := by
  unfold OnText lineLength line at h ⊢
  rw [hl]
  exact h

theorem setMark_ok {b' : Buffer} {name : Char} (h : b.setMark name n = .ok b') :
    b'.lines = b.lines ∧ b'.current = b.current := by
  unfold setMark at h
  split at h
  · cases h
  split at h
  · cases h
  · cases h
    exact ⟨rfl, rfl⟩

theorem goTo_current (hn : n < b.lines.length) : (b.goTo n).current = n := by
  simp only [goTo, lastLine]
  omega

theorem length_setLine (b : Buffer) (n : Nat) (t : Text) :
    (b.setLine n t).lines.length = b.lines.length := by simp [setLine]

theorem line_setLine (hn : n < b.lines.length) (t : Text) : (b.setLine n t).line n = t := by
  simp [line, setLine, List.getD_eq_getElem?_getD, hn]

/-- The last of the pieces that a line was replaced by. -/
theorem line_replaceLine_last {pieces : List Text} (hn : n < b.lines.length) (hp : pieces ≠ []) :
    (b.replaceLines (.line n) pieces).line (n + (pieces.length - 1)) = pieces.getLastD [] := by
  have hpos : 0 < pieces.length := List.length_pos_iff.mpr hp
  have htake : (b.lines.take n).length = n := by simp; omega
  unfold line
  rw [lines_replaceLine hp, List.getD_eq_getElem?_getD, List.append_assoc,
    List.getElem?_append_right (by omega), htake, Nat.add_sub_cancel_left,
    List.getElem?_append_left (by omega), ← List.getLast?_eq_getElem?]
  cases hlast : pieces.getLast? with
  | none => simp_all
  | some l => simp [List.getLastD_eq_getLast?, hlast]

end Buffer

/-- The column is on a character of the current line, or at its start. -/
def Desk.On (d : Desk) (col : Nat) : Prop := d.buffer.OnText ⟨d.buffer.current, col⟩

namespace NormalCommand

/-- The command goes to a line and does nothing else. -/
def IsLineMotion : NormalCommand → Prop
  | .gotoLine _ => True
  | .act none none (.move .lastLine) => True
  | _ => False

/-- What stands first in a row of commands goes to a line. -/
def Leads : NormalCommand → Prop
  | .andThen first second => first.IsLineMotion ∧ second.Leads
  | .jumpMarkOr _ next otherwise => next.Leads ∧ otherwise.Leads
  | _ => True

/-! ## What the reader gives -/

theorem leads_followed {first c : NormalCommand} {r : KeyReading} (hfirst : first.IsLineMotion)
    (hr : ∀ c', r = .complete c' → c'.Leads) (h : r.followed first = .complete c) : c.Leads := by
  cases r with
  | complete c' =>
    cases h
    exact ⟨hfirst, hr c' rfl⟩
  | incomplete => cases h
  | invalid => cases h

theorem leads_eitherWay {mark : Char} {c : NormalCommand} {r r' : KeyReading}
    (hr : ∀ c', r = .complete c' → c'.Leads) (hr' : ∀ c', r' = .complete c' → c'.Leads)
    (h : r.eitherWay mark r' = .complete c) : c.Leads := by
  cases r with
  | complete next =>
    cases r' with
    | complete otherwise =>
      cases h
      exact ⟨hr next rfl, hr' otherwise rfl⟩
    | incomplete => cases h
    | invalid => cases h
  | incomplete => cases r' <;> cases h
  | invalid => cases r' <;> cases h

theorem leads_readAction {count : Option Nat} {register : Option Char} {keys : Text}
    {c : NormalCommand} (h : readAction count register keys = .complete c) : c.Leads := by
  unfold readAction at h
  split at h
  · cases h
  split at h
  · cases h
    trivial
  · cases keys with
    | nil => cases h
    | cons key rest =>
      simp only [readCompound] at h
      split at h
      · cases h
        trivial
      split at h
      · cases h
      split at h
      · cases h
      · cases h
      · split at h
        · cases h
          trivial
        · cases h

theorem leads_readCounted {again : Text → KeyReading} {count : Option Nat}
    {register : Option Char} {keys : Text} {c : NormalCommand}
    (hagain : ∀ rest c', again rest = .complete c' → c'.Leads)
    (h : readCounted again count register keys = .complete c) : c.Leads := by
  have hlast : IsLineMotion (.act none none (.move .lastLine)) := trivial
  unfold readCounted at h
  dsimp only at h
  split at h
  · exact leads_followed hlast (hagain _) h
  · exact leads_readAction h

theorem leads_readFrom {n : Nat} {register : Option Char} {keys : Text} {c : NormalCommand}
    (h : readFrom n register keys = .complete c) : c.Leads := by
  induction n generalizing register keys c with
  | zero => cases h
  | succ n ih =>
    cases register with
    | some name => exact leads_readCounted (fun _ _ => ih) h
    | none =>
      have hgoto : ∀ k, IsLineMotion (.gotoLine k) := fun _ => trivial
      unfold readFrom at h
      split at h
      · cases h
      · cases h
      · cases h
      · split at h
        · cases h
          trivial
        · cases h
      · split at h
        · cases h
        · split at h
          · cases h
            trivial
          · exact leads_eitherWay (fun _ => ih) (fun _ => ih) h
      · split at h
        · cases h
          trivial
        · exact leads_followed (hgoto _) (fun _ => ih) h
        · cases h
        · split at h
          · exact leads_readCounted (fun _ _ => ih) h
          · cases h
        · exact leads_readCounted (fun _ _ => ih) h

theorem read_leads {keys : Text} {c : NormalCommand} (h : read keys = .complete c) : c.Leads :=
  leads_readFrom h

end NormalCommand

namespace Normal

open Edit

variable {d t : Desk} {o : NormalOutcome} {col : Nat}

/-! ## Actions -/

/-- Where a command has left the cursor. -/
structure Lands (d : Desk) (col : Nat) (o : NormalOutcome) (t : Desk) : Prop where
  /-- Inserting starts at a column of the line or at its end. -/
  inserts : o.enterInsert = true → o.col ≤ t.buffer.lineLength t.buffer.current
  /-- Otherwise the cursor is on the text, if it was there before. -/
  stands : o.enterInsert = false → Unbroken d.buffer.lines → d.On col → t.On o.col

theorem Lands.inserting (ho : o.enterInsert = true)
    (h : o.col ≤ t.buffer.lineLength t.buffer.current) : Lands d col o t :=
  ⟨fun _ => h, fun hno => absurd (ho.symm.trans hno) (by decide)⟩

theorem Lands.standing (ho : o.enterInsert = false)
    (h : Unbroken d.buffer.lines → d.On col → t.On o.col) : Lands d col o t :=
  ⟨fun hyes => absurd (ho.symm.trans hyes) (by decide), fun _ => h⟩

/-- A deletion within a line leaves the cursor on its line and what stands before it. -/
theorem deleteSpan_ok {n start stop : Nat} {register : Option Char} {removed : Text}
    (hn : n < d.buffer.lines.length)
    (h : (deleteSpan n start stop register).run.run d = (.ok removed, t)) :
    t.buffer.current = d.buffer.current ∧ t.buffer.lines.length = d.buffer.lines.length ∧
      min start (d.buffer.lineLength n) ≤ t.buffer.lineLength n := by
  obtain ⟨target, u, htake, h⟩ := run_bind_eq_ok h
  obtain rfl := takeWritable_state htake
  simp only [run_bind, run_buffer] at h
  split at h
  · cases h
    exact ⟨rfl, rfl, Nat.min_le_right _ _⟩
  · cases h
    refine ⟨rfl, Buffer.length_setLine d.unselected.buffer n _, ?_⟩
    change _ ≤ (Buffer.line (d.unselected.buffer.setLine n _) n).length
    rw [Buffer.line_setLine (show n < d.unselected.buffer.lines.length from hn)]
    have hlen : (d.unselected.buffer.line n).length = d.buffer.lineLength n := rfl
    simp only [List.length_append, List.length_take, List.length_drop]
    omega

/-- A yank leaves lines and cursor alone. -/
theorem yankLines_ok {s : LineSpan} {register : Option Char} {n : Nat}
    (h : (yankLines s register).run.run d = (.ok n, t)) :
    t.buffer.lines = d.buffer.lines ∧ t.buffer.current = d.buffer.current := by
  obtain ⟨⟨⟩, u, hcheck, hyank⟩ := run_bind_eq_ok h
  obtain ⟨target, v, htake, hrecord⟩ := run_bind_eq_ok hyank
  obtain rfl : u = d := by
    rw [run_checkSpan] at hcheck
    exact (Prod.mk.inj hcheck).2.symm
  obtain rfl := takeWritable_state htake
  cases hrecord
  exact ⟨rfl, rfl⟩

/-- Inserting starts at a column of the current line or at its end. -/
theorem insertPosition_ok {kind : InsertKind} {p : Position} (hd : d.buffer.Fits)
    (h : (insertPosition kind col).run.run d = (.ok p, t)) :
    p.line = t.buffer.current ∧ p.col ≤ t.buffer.lineLength t.buffer.current := by
  have hopened : ∀ below,
      (insertPosition.opened (d.buffer.openLine d.buffer.current below)).run.run d = (.ok p, t) →
        p.line = t.buffer.current ∧ p.col ≤ t.buffer.lineLength t.buffer.current := by
    intro below h
    cases h
    refine ⟨?_, Nat.zero_le _⟩
    have hcur := hd.current_lt
    have hlen : (d.buffer.insertLines (if below then d.buffer.current + 1 else d.buffer.current)
        [[]]).lines.length = d.buffer.lines.length + 1 := by
      simp [Buffer.insertLines]
      omega
    refine (Buffer.goTo_current ?_).symm
    rw [hlen]
    dsimp only [Buffer.openLine]
    split <;> omega
  cases kind with
  | before =>
    cases h
    exact ⟨rfl, Nat.min_le_right _ _⟩
  | after =>
    cases h
    refine ⟨rfl, ?_⟩
    dsimp only
    split
    · exact Nat.zero_le _
    · exact Nat.min_le_right _ _
  | lineEnd =>
    cases h
    exact ⟨rfl, Nat.le_refl _⟩
  | lineStart =>
    cases h
    exact ⟨rfl, Nat.zero_le _⟩
  | openBelow => exact hopened true h
  | openAbove => exact hopened false h

theorem insert_lands {kind : InsertKind} {text : Option Text} (hd : d.buffer.Fits)
    (h : (insert kind text col).run.run d = (.ok o, t)) : Lands d col o t := by
  obtain ⟨p, u, hp, h⟩ := run_bind_eq_ok h
  obtain ⟨hline, hcol⟩ := insertPosition_ok hd hp
  cases text with
  | none =>
    cases h
    exact .inserting rfl hcol
  | some new =>
    dsimp only at h
    split at h
    · cases h
    have hcur : u.buffer.current < u.buffer.lines.length :=
      ((insertPosition_evolves kind col d).of_run hp).buffer.fits hd |>.current_lt
    cases h
    -- the cursor ends on the last character of the text
    refine .standing rfl fun _ _ => ⟨?_, ?_⟩
    · exact (Buffer.length_setLine u.buffer p.line _).symm ▸ hcur
    · have hlen : (u.buffer.insertText p new).1.lineLength u.buffer.current =
          u.buffer.lineLength u.buffer.current + new.length := by
        unfold Buffer.insertText Buffer.lineLength
        rw [hline, Buffer.line_setLine hcur]
        simp only [List.length_append, List.length_take, List.length_drop]
        omega
      have hstop : (u.buffer.insertText p new).2 ≤
          u.buffer.lineLength u.buffer.current + new.length := by
        dsimp only [Buffer.insertText]
        rw [hline]
        unfold Buffer.lineLength
        omega
      change (u.buffer.insertText p new).2 - 1 = 0 ∨
        (u.buffer.insertText p new).2 - 1 <
          (u.buffer.insertText p new).1.lineLength u.buffer.current
      omega

theorem putInline_onText {before : Bool} {register : Option Char} {count c : Nat}
    (hd : d.buffer.Fits) (h : (putInline col before register count).run.run d = (.ok c, t)) :
    t.On c := by
  obtain ⟨content, u, htake, hput⟩ := run_bind_eq_ok h
  obtain ⟨⟨⟩, v, hcheck, hreplace⟩ := run_bind_eq_ok hput
  obtain rfl : u = d.unselected := by
    rw [← takeContent_state register d, htake]
  obtain rfl : v = d.unselected := by
    rw [← checkPut_state (Text.byteSize content.text) count d.unselected, hcheck]
  have hcur : d.unselected.buffer.current < d.unselected.buffer.lines.length := hd.current_lt
  cases hreplace
  generalize hpieces : Text.splitLines _ = pieces
  have hp : pieces ≠ [] := by
    rw [← hpieces]
    exact List.splitOn_ne_nil '\n' _
  have hlen := Buffer.length_replaceLine hcur hp
  have hlast := Buffer.line_replaceLine_last hcur hp
  unfold Desk.On
  dsimp only
  rw [Buffer.goTo_current (by rw [hlen]; omega)]
  refine ⟨by simp only [Buffer.goTo]; rw [hlen]; omega, ?_⟩
  dsimp only [Buffer.goTo, Buffer.lineLength, Buffer.line] at hlast ⊢
  rw [hlast]
  omega

theorem put_onText {before : Bool} {register : Option Char} {count : Nat} (hd : d.buffer.Fits)
    (h : (put before register count col).run.run d = (.ok o, t)) :
    o.enterInsert = false ∧ t.On o.col := by
  have ht : t.buffer.Fits := ((put_evolves before register count col hd).of_run h).buffer.fits hd
  unfold put at h
  simp only [run_bind, run_get] at h
  split at h
  · obtain ⟨c, hput, rfl⟩ := run_bind_pure_eq_ok h
    exact ⟨rfl, putInline_onText hd hput⟩
  · obtain ⟨added, u, -, h⟩ := run_bind_eq_ok h
    cases h
    exact ⟨rfl, ht.home_onText⟩

theorem move_onText {m : Motion} {count : Option Nat} {c : Nat} (hd : d.buffer.Fits)
    (hu : Unbroken d.buffer.lines) (hon : d.On col)
    (h : (move m count col).run.run d = (.ok c, t)) : t.On c := by
  have hvertical : ∀ n, (move.vertical col (d.buffer.goTo n)).run.run d = (.ok c, t) →
      t.On c := by
    intro n h
    cases h
    exact Buffer.clampColumn_onText ((Buffer.goTo_evolves _ n).fits hd).current_lt col
  have hline : ∀ n, (move.toLine d.buffer n).run.run d = (.ok c, t) → t.On c := by
    intro n h
    cases h
    exact ((Buffer.goTo_evolves _ n).fits hd).home_onText
  have hwords : ∀ (motion : Word.Motion) n,
      (∀ q, d.buffer.OnText q → d.buffer.OnText (motion d.buffer q)) →
      (move.byWords col d.buffer motion n).run.run d = (.ok c, t) → t.On c := by
    intro motion n hmotion h
    cases h
    have hp : d.buffer.OnText (Word.repeated motion d.buffer ⟨d.buffer.current, col⟩ n) :=
      Word.go_onText hmotion _ hon
    unfold Desk.On
    dsimp only
    rw [Buffer.goTo_current hp.1]
    exact hp.congr rfl
  have hcur := hd.current_lt
  unfold move at h
  simp only [run_bind, run_buffer] at h
  cases m with
  | down => exact hvertical _ h
  | up => exact hvertical _ h
  | left =>
    cases h
    exact hon.sub _
  | right =>
    cases h
    exact Buffer.clampColumn_onText hcur _
  | lineStart =>
    cases h
    exact Buffer.onText_zero hcur
  | firstNonBlank =>
    cases h
    exact hd.home_onText
  | lineEnd =>
    cases h
    refine ⟨hcur, ?_⟩
    dsimp only
    omega
  | wordForward => exact hwords _ _ (fun q hq => Word.forward_onText hu hq) h
  | wordBackward => exact hwords _ _ (fun q hq => Word.backward_onText hq) h
  | firstLine => exact hline _ h
  | lastLine => exact hline _ h

/-- Deletions within the current line leave the cursor there. -/
theorem deleteSpan_current {start stop : Nat} {register : Option Char} {removed : Text}
    (hd : d.buffer.Fits)
    (h : (deleteSpan d.buffer.current start stop register).run.run d = (.ok removed, t)) :
    t.On (t.buffer.clampColumn d.buffer.current col) := by
  obtain ⟨hcur, hlen, -⟩ := deleteSpan_ok hd.current_lt h
  unfold Desk.On
  rw [hcur]
  exact Buffer.clampColumn_onText (hlen ▸ hd.current_lt) col

theorem act_lands {action : Action} {count : Option Nat} {register : Option Char}
    (hd : d.buffer.Fits) (h : (act action count register col).run.run d = (.ok o, t)) :
    Lands d col o t := by
  have ht : t.buffer.Fits := ((act_evolves action count register col hd).of_run h).buffer.fits hd
  unfold act at h
  simp only [run_bind, run_buffer] at h
  cases action with
  | deleteLines =>
    obtain ⟨removed, u, -, h⟩ := run_bind_eq_ok h
    cases h
    exact .standing rfl fun _ _ => ht.home_onText
  | yankLines =>
    obtain ⟨yanked, hyank, rfl⟩ := run_bind_pure_eq_ok h
    obtain ⟨hl, hcur⟩ := yankLines_ok hyank
    refine .standing rfl fun _ hon => ?_
    unfold Desk.On
    rw [hcur]
    exact hon.congr hl
  | changeLines =>
    obtain ⟨⟨⟩, -, rfl⟩ := run_bind_pure_eq_ok h
    exact .inserting rfl (Nat.zero_le _)
  | deleteWords =>
    obtain ⟨removed, u, hdelete, h⟩ := run_bind_eq_ok h
    cases h
    exact .standing rfl fun _ _ => deleteSpan_current hd hdelete
  | changeWords =>
    obtain ⟨removed, hdelete, rfl⟩ := run_bind_pure_eq_ok h
    obtain ⟨hcur, -, hcol⟩ := deleteSpan_ok hd.current_lt hdelete
    refine .inserting rfl ?_
    rwa [hcur, ← Nat.min_eq_left (Nat.min_le_right col (d.buffer.lineLength d.buffer.current))]
  | deleteChars =>
    dsimp only at h
    split at h
    · obtain ⟨removed, u, hdelete, hrest⟩ := run_bind_eq_ok h
      cases hrest
      exact .standing rfl fun _ _ => deleteSpan_current hd hdelete
    · cases h
      exact .standing rfl fun _ _ => Buffer.clampColumn_onText hd.current_lt col
  | put before =>
    obtain ⟨ho, hon⟩ := put_onText hd h
    exact .standing ho fun _ _ => hon
  | move m =>
    obtain ⟨c, hmove, rfl⟩ := run_bind_pure_eq_ok h
    exact .standing rfl fun hu hon => move_onText hd hu hon hmove
  | insert kind text => exact insert_lands hd h

/-! ## Commands -/

theorem jump_onText {mark : Char} (hd : d.buffer.Fits)
    (h : (run.jump mark).run.run d = (.ok o, t)) :
    o.enterInsert = false ∧ t.buffer.lines = d.buffer.lines ∧ t.On o.col := by
  unfold run.jump at h
  simp only [run_bind, run_buffer] at h
  cases hmark : d.buffer.mark? mark with
  | none =>
    rw [hmark] at h
    cases h
  | some n =>
    rw [hmark] at h
    cases h
    have hn : n < d.buffer.lines.length := hd.mark?_lt hmark
    refine ⟨rfl, rfl, ?_⟩
    unfold Desk.On
    dsimp only
    rw [Buffer.goTo_current hn]
    exact Buffer.firstNonBlank_onText hn

/-- Going to a line leads to the text from everywhere, and nothing is changed. -/
theorem run_lineMotion {c : NormalCommand} (hc : c.IsLineMotion) (hd : d.buffer.Fits)
    (h : (run c col).run.run d = (.ok o, t)) :
    o.enterInsert = false ∧ t.buffer.lines = d.buffer.lines ∧ t.On o.col := by
  unfold NormalCommand.IsLineMotion at hc
  split at hc
  · rename_i n
    unfold run at h
    simp only [run_bind, run_buffer] at h
    split at h
    · cases h
    · rename_i hn
      simp only [Bool.or_eq_true, decide_eq_true_eq, not_or] at hn
      have hn : n - 1 < d.buffer.lines.length := by
        have := hn.2
        unfold Buffer.lineCount at this
        omega
      cases h
      refine ⟨rfl, rfl, ?_⟩
      unfold Desk.On
      dsimp only
      rw [Buffer.goTo_current hn]
      exact Buffer.firstNonBlank_onText hn
  · cases h
    exact ⟨rfl, rfl, ((Buffer.goTo_evolves _ _).fits hd).home_onText⟩
  · exact hc.elim

/-- Every command that a row of keys can be. -/
theorem run_lands {c : NormalCommand} (hc : c.Leads) (hd : d.buffer.Fits)
    (h : (run c col).run.run d = (.ok o, t)) : Lands d col o t := by
  induction c generalizing d t o col with
  | setMark mark =>
    unfold run at h
    simp only [run_bind, run_buffer, run_orFail] at h
    cases hset : d.buffer.setMark mark d.buffer.current with
    | error e =>
      rw [hset] at h
      cases h
    | ok b =>
      rw [hset] at h
      cases h
      obtain ⟨hl, hcur⟩ := Buffer.setMark_ok hset
      refine .standing rfl fun _ hon => ?_
      unfold Desk.On
      dsimp only
      rw [hcur]
      exact hon.congr hl
  | jumpMark mark =>
    obtain ⟨ho, -, hon⟩ := jump_onText hd h
    exact .standing ho fun _ _ => hon
  | jumpMarkOr mark next otherwise ihnext ihotherwise =>
    unfold run at h
    simp only [run_bind, run_buffer] at h
    split at h
    · obtain ⟨jumped, u, hjump, hnext⟩ := run_bind_eq_ok h
      obtain ⟨-, hl, hon⟩ := jump_onText hd hjump
      have hu := ((jump_evolves mark d).of_run hjump).buffer.fits hd
      obtain ⟨hinserts, hstands⟩ := ihnext hc.1 hu hnext
      exact ⟨hinserts, fun ho hlines _ => hstands ho (hl ▸ hlines) hon⟩
    · exact ihotherwise hc.2 hd h
  | gotoLine n =>
    obtain ⟨ho, -, hon⟩ := run_lineMotion (c := .gotoLine n) trivial hd h
    exact .standing ho fun _ _ => hon
  | andThen first second _ ihsecond =>
    obtain ⟨hfirst, hsecond⟩ := hc
    obtain ⟨outcome, u, hrun, hrest⟩ := run_bind_eq_ok h
    obtain ⟨-, hl, hon⟩ := run_lineMotion hfirst hd hrun
    have hu := ((run_evolves first col d hd).of_run hrun).buffer.fits hd
    obtain ⟨hinserts, hstands⟩ := ihsecond hsecond hu hrest
    exact ⟨hinserts, fun ho hlines _ => hstands ho (hl ▸ hlines) hon⟩
  | act count register action => exact act_lands hd h

/-- Keys that are a command and succeed end at a column of the line that is current then: where
inserting starts, at one of the line or at its end, and otherwise on a character or at the start of the
line. -/
theorem run_column_fits {keys : Text} {c : NormalCommand}
    (hread : NormalCommand.read keys = .complete c) {d t : Desk} (hd : d.buffer.Valid) {col : Nat}
    (hcol : col = 0 ∨ col < d.buffer.lineLength d.buffer.current) {o : NormalOutcome}
    (hrun : (run c col).run.run d = (.ok o, t)) :
    t.buffer.current < t.buffer.lineCount ∧
      (o.enterInsert = true → o.col ≤ t.buffer.lineLength t.buffer.current) ∧
      (o.enterInsert = false → o.col = 0 ∨ o.col < t.buffer.lineLength t.buffer.current) := by
  obtain ⟨hfits, hbreaks⟩ := Buffer.valid_iff.mp hd
  have hon : d.On col := ⟨hfits.current_lt, hcol⟩
  have ht : t.buffer.Fits := ((run_evolves c col d hfits).of_run hrun).buffer.fits hfits
  obtain ⟨hinserts, hstands⟩ := run_lands (NormalCommand.read_leads hread) hfits hrun
  exact ⟨ht.current_lt, hinserts, fun ho => (hstands ho hbreaks hon).2⟩

/-- Three copies of a text with a line break, put behind the last character of a line, leave the cursor
on the last character of the third line below. -/
theorem run_column_fits_of_broken_put :
    let d : Desk :=
      { buffer := { lines := [['x', 'y']] }
        registers := { unnamed := { lines := [['a'], ['b', 'c']], kind := .chars } } }
    ∃ c o t, NormalCommand.read ['3', 'p'] = .complete c ∧
      (run c 1).run.run d = (.ok o, t) ∧ t.buffer.current = 3 ∧ o.col = 1 ∧
      o.enterInsert = false ∧ (o.col = 0 ∨ o.col < t.buffer.lineLength t.buffer.current) := by
  intro d
  have hvalid : d.buffer.Valid := by
    refine ⟨by decide, by decide, fun m hm => ?_, by decide⟩
    cases hm
  have hread : NormalCommand.read ['3', 'p'] = .complete (.act (some 3) none (.put false)) := by
    decide
  have hrun : ∃ o t, (run (.act (some 3) none (.put false)) 1).run.run d = (.ok o, t) ∧
      t.buffer.current = 3 ∧ o.col = 1 ∧ o.enterInsert = false := ⟨_, _, rfl, by decide⟩
  obtain ⟨o, t, hrun, hcurrent, hcol, ho⟩ := hrun
  exact ⟨_, o, t, hread, hrun, hcurrent, hcol, ho,
    (run_column_fits hread hvalid (.inr (by decide)) hrun).2.2 ho⟩

end Normal
end ModalEditor
