import ModalEditor.Edit.Basic
import ModalEditor.Edit.Insert
import ModalEditor.Edit.Substitute
import ModalEditor.Proofs.Path.Characters

/-!
# Lines without line breaks

No line of a buffer has a line break in it, as long as none comes in with a new line. Lines come
from four places: from a text that is split at its line breaks, from parts of lines that are there
already, from registers, and from the path of the buffer, which the register `%` holds. So the
property is kept for a buffer with its path together with the registers.
-/

namespace ModalEditor

/-- No line has a line break in it. -/
def Unbroken (lines : List Text) : Prop := ∀ l ∈ lines, '\n' ∉ l

instance (lines : List Text) : Decidable (Unbroken lines) :=
  inferInstanceAs (Decidable (∀ l ∈ lines, '\n' ∉ l))

section Unbroken

variable {ls ms : List Text}

theorem Unbroken.mono (h : Unbroken ls) (hs : ms ⊆ ls) : Unbroken ms := fun l hl => h l (hs hl)

theorem Unbroken.append (h : Unbroken ls) (k : Unbroken ms) : Unbroken (ls ++ ms) := fun l hl =>
  (List.mem_append.mp hl).elim (h l) (k l)

theorem Unbroken.take (h : Unbroken ls) (n : Nat) : Unbroken (ls.take n) :=
  h.mono (List.take_subset n ls)

theorem Unbroken.drop (h : Unbroken ls) (n : Nat) : Unbroken (ls.drop n) :=
  h.mono (List.drop_subset n ls)

theorem unbroken_singleton {t : Text} : Unbroken [t] ↔ '\n' ∉ t := by simp [Unbroken]

theorem unbroken_nil : Unbroken [] := by simp [Unbroken]

/-- A part of an unbroken line, for every way of taking parts that keeps the order. -/
theorem Unbroken.map_sublist (h : Unbroken ls) {f : Text → Text} (hf : ∀ t, (f t).Sublist t) :
    Unbroken (ls.map f) := by
  intro l hl
  obtain ⟨t, ht, rfl⟩ := List.mem_map.mp hl
  exact fun hmem => h t ht ((hf t).subset hmem)

theorem Text.dropFinal_sublist (c : Char) (t : Text) : (Text.dropFinal c t).Sublist t := by
  unfold Text.dropFinal
  split
  · exact List.dropLast_sublist t
  · exact .refl t

/-- The pieces between line breaks have none. -/
theorem unbroken_splitLines (t : Text) : Unbroken (Text.splitLines t) := fun _ hl =>
  not_mem_of_mem_splitOn hl

end Unbroken

/-! ## Buffers -/

namespace Buffer

/-- Neither the lines nor the path have line breaks. -/
structure Unbroken (b : Buffer) : Prop where
  /-- The lines have none. -/
  lines : ModalEditor.Unbroken b.lines
  /-- The path has none. -/
  path : ∀ p, b.path = some p → '\n' ∉ p

section Unbroken

variable {b : Buffer}

theorem Unbroken.congr {b' : Buffer} (h : b.Unbroken) (hl : b'.lines = b.lines)
    (hp : b'.path = b.path) : b'.Unbroken := ⟨hl ▸ h.lines, hp ▸ h.path⟩

theorem Unbroken.line (h : b.Unbroken) (n : Nat) : '\n' ∉ b.line n := by
  unfold Buffer.line
  rw [List.getD_eq_getElem?_getD]
  cases hn : b.lines[n]? with
  | none => simp
  | some l => exact h.lines l (List.mem_of_getElem? hn)

theorem Unbroken.linesOf (h : b.Unbroken) (s : LineSpan) : ModalEditor.Unbroken (b.linesOf s) :=
  (h.lines.take _).drop _

theorem unbroken_orBlank {lines : List Text} (h : ModalEditor.Unbroken lines) :
    ModalEditor.Unbroken (orBlank lines) := by
  unfold orBlank
  split
  · simp [ModalEditor.Unbroken]
  · exact h

theorem Unbroken.goTo (h : b.Unbroken) (n : Nat) : (b.goTo n).Unbroken := h.congr rfl rfl

theorem Unbroken.setLine (h : b.Unbroken) (n : Nat) {t : Text} (ht : '\n' ∉ t) :
    (b.setLine n t).Unbroken :=
  ⟨fun l hl => (List.mem_or_eq_of_mem_set hl).elim (h.lines l) (· ▸ ht), h.path⟩

theorem Unbroken.removeLines (h : b.Unbroken) (s : LineSpan) : (b.removeLines s).Unbroken :=
  ⟨unbroken_orBlank ((h.lines.take _).append (h.lines.drop _)), h.path⟩

theorem Unbroken.insertLines (h : b.Unbroken) (place : Nat) {new : List Text}
    (hnew : ModalEditor.Unbroken new) : (b.insertLines place new).Unbroken := by
  unfold Buffer.insertLines
  split
  · exact h
  · exact ⟨((h.lines.take _).append hnew).append (h.lines.drop _), h.path⟩

theorem Unbroken.replaceLines (h : b.Unbroken) (s : LineSpan) {new : List Text}
    (hnew : ModalEditor.Unbroken new) : (b.replaceLines s new).Unbroken :=
  ⟨unbroken_orBlank (((h.lines.take _).append hnew).append (h.lines.drop _)), h.path⟩

theorem Unbroken.setMark (h : b.Unbroken) {b' : Buffer} {name : Char} {n : Nat}
    (hb : b.setMark name n = .ok b') : b'.Unbroken := by
  unfold Buffer.setMark at hb
  split at hb
  · cases hb
  split at hb
  · cases hb
  · cases hb
    exact h.congr rfl rfl

theorem Unbroken.insertText (h : b.Unbroken) (p : Position) {t : Text} (ht : '\n' ∉ t) :
    (b.insertText p t).1.Unbroken := by
  have hline := h.line p.line
  refine h.setLine _ ?_
  simp only [List.mem_append, not_or]
  exact ⟨⟨fun hm => hline (List.mem_of_mem_take hm), ht⟩, fun hm => hline (List.mem_of_mem_drop hm)⟩

theorem Unbroken.splitLine (h : b.Unbroken) (p : Position) : (b.splitLine p).Unbroken := by
  have hline := h.line p.line
  have hset := h.setLine p.line (fun hm => hline (List.mem_of_mem_take (i := p.col) hm))
  have htail : ModalEditor.Unbroken [(b.line p.line).drop p.col] :=
    unbroken_singleton.mpr fun hm => hline (List.mem_of_mem_drop hm)
  exact (hset.insertLines _ htail).goTo _

theorem Unbroken.backspace (h : b.Unbroken) (p : Position) : (b.backspace p).1.Unbroken := by
  unfold Buffer.backspace
  simp only
  split
  · exact h.setLine _ fun hm => h.line p.line (List.mem_of_mem_eraseIdx hm)
  split
  · exact h
  · refine ((h.removeLines _).setLine _ ?_).goTo _
    simp [h.line]

theorem Unbroken.openLine (h : b.Unbroken) (n : Nat) (below : Bool) :
    (b.openLine n below).1.Unbroken :=
  (h.insertLines _ (unbroken_singleton.mpr (by simp))).goTo _

theorem Unbroken.appendLines (h : b.Unbroken) (n : Nat) {lines : List Text}
    (hl : ModalEditor.Unbroken lines) : (b.appendLines n lines).Unbroken := by
  unfold Buffer.appendLines
  split
  · exact h
  · exact (h.insertLines _ hl).goTo _

/-- A buffer with the text of a file, whatever the text is. -/
theorem unbroken_ofText {path : Option Path} (hp : ∀ p, path = some p → '\n' ∉ p) (t : Text) :
    (ofText path t).Unbroken := by
  have hpieces := (unbroken_splitLines t).map_sublist (Text.dropFinal_sublist '\r')
  refine ⟨?_, hp⟩
  unfold ofText ofLines
  apply unbroken_orBlank
  split
  · exact hpieces.mono (List.dropLast_subset _)
  · exact hpieces

theorem unbroken_new : ({} : Buffer).Unbroken := ⟨unbroken_singleton.mpr (by simp), by simp⟩

theorem unbroken_newFile {p : Path} (hp : '\n' ∉ p) : (newFile p).Unbroken :=
  ⟨unbroken_singleton.mpr (by simp), by rintro q ⟨rfl⟩; exact hp⟩

end Unbroken

end Buffer

/-! ## Registers -/

/-- The lines of a register have no line breaks. -/
def Register.Unbroken (r : Register) : Prop := ModalEditor.Unbroken r.lines

namespace Register

theorem unbroken_empty : Register.empty.Unbroken := unbroken_nil

theorem unbroken_ofText {t : Text} (ht : '\n' ∉ t) : (Register.ofText t).Unbroken :=
  unbroken_singleton.mpr ht

theorem unbroken_joinEnds {ls ms : List Text} (h : ModalEditor.Unbroken ls)
    (k : ModalEditor.Unbroken ms) : ModalEditor.Unbroken (joinEnds ls ms) := by
  fun_induction joinEnds ls ms with
  | case1 => exact k
  | case2 last first more =>
    intro l hl
    rcases List.mem_cons.mp hl with rfl | hl
    · simp [h last (by simp), k first (by simp)]
    · exact k l (by simp [hl])
  | case3 => exact h
  | case4 line lines more _ _ ih =>
    intro l hl
    rcases List.mem_cons.mp hl with rfl | hl
    · exact h l (by simp)
    · exact ih (h.mono (List.subset_cons_self _ _)) k l hl

theorem Unbroken.append {r s : Register} (hr : r.Unbroken) (hs : s.Unbroken) :
    (r.append s).Unbroken := by
  unfold Register.append
  split
  · exact hs
  split
  · exact unbroken_joinEnds hr hs
  · exact ModalEditor.Unbroken.append hr hs

end Register

/-- No register has line breaks in its lines. -/
structure RegisterFile.Unbroken (f : RegisterFile) : Prop where
  /-- The unnamed register has none. -/
  unnamed : f.unnamed.Unbroken
  /-- The numbered registers have none. -/
  numbered : ∀ r ∈ f.numbered, r.Unbroken
  /-- The named registers have none. -/
  named : ∀ r ∈ f.named, r.Unbroken

namespace RegisterFile

variable {f : RegisterFile}

theorem unbroken_new : ({} : RegisterFile).Unbroken :=
  ⟨Register.unbroken_empty, fun _ hr => List.eq_of_mem_replicate hr ▸ Register.unbroken_empty,
    fun _ hr => List.eq_of_mem_replicate hr ▸ Register.unbroken_empty⟩

theorem Unbroken.get? (h : f.Unbroken) {name : Option Char} {r : Register}
    (hr : f.get? name = some r) : r.Unbroken := by
  have hd : ∀ {rs : List Register} (i : Nat), (∀ r ∈ rs, r.Unbroken) →
      (rs.getD i .empty).Unbroken := by
    intro rs i hrs
    rw [List.getD_eq_getElem?_getD]
    cases hi : rs[i]? with
    | none => exact Register.unbroken_empty
    | some r => exact hrs r (List.mem_of_getElem? hi)
  unfold RegisterFile.get? at hr
  split at hr
  · cases hr
    exact h.unnamed
  · split at hr
    · cases hr
      exact h.unnamed
    split at hr
    · cases hr
      exact hd _ h.named
    split at hr
    · cases hr
      exact hd _ h.numbered
    · cases hr

theorem Unbroken.write (h : f.Unbroken) (target : Option Char) {content : Register}
    (hc : content.Unbroken) : (f.write target content).Unbroken := by
  unfold RegisterFile.write
  split
  · exact h
  split
  · exact ⟨h.unnamed, h.numbered,
      fun r hr => (List.mem_or_eq_of_mem_set hr).elim (h.named r) (· ▸ hc)⟩
  split
  · refine ⟨h.unnamed, h.numbered, fun r hr => ?_⟩
    obtain ⟨i, hi, rfl⟩ := List.getElem_of_mem hr
    rw [List.getElem_modify]
    have hold := h.named _ (List.getElem_mem (by simpa using hi))
    split
    · exact hold.append hc
    · exact hold
  split
  · exact ⟨h.unnamed,
      fun r hr => (List.mem_or_eq_of_mem_set hr).elim (h.numbered r) (· ▸ hc), h.named⟩
  · exact h

theorem Unbroken.set (h : f.Unbroken) (target : Option Char) {content : Register}
    (hc : content.Unbroken) : (f.set target content).Unbroken := by
  have hw := h.write target hc
  refine ⟨?_, hw.numbered, hw.named⟩
  unfold RegisterFile.set
  cases target with
  | none => exact hc
  | some c =>
    simp only
    split
    · cases hg : (f.write (some c) content).get? (some c) with
      | none => exact hc
      | some r => exact hw.get? hg
    · exact hc

theorem Unbroken.pushDelete (h : f.Unbroken) {content : Register} (hc : content.Unbroken) :
    (f.pushDelete content).Unbroken := by
  refine ⟨h.unnamed, fun r hr => ?_, h.named⟩
  simp only [RegisterFile.pushDelete, List.mem_append, List.mem_cons] at hr
  rcases hr with hr | rfl | hr
  · exact h.numbered r (List.mem_of_mem_take hr)
  · exact hc
  · exact h.numbered r (List.mem_of_mem_drop (List.mem_of_mem_take hr))

theorem Unbroken.recordDelete (h : f.Unbroken) (target : Option Char) {content : Register}
    (hc : content.Unbroken) : (f.recordDelete target content).Unbroken :=
  (h.pushDelete hc).set target hc

theorem Unbroken.recordYank (h : f.Unbroken) (target : Option Char) {content : Register}
    (hc : content.Unbroken) : (f.recordYank target content).Unbroken := by
  have hyank : ({ f with numbered := f.numbered.set 0 content } : RegisterFile).Unbroken :=
    ⟨h.unnamed, fun r hr => (List.mem_or_eq_of_mem_set hr).elim (h.numbered r) (· ▸ hc), h.named⟩
  exact hyank.set target hc

end RegisterFile

/-- What a buffer sees in a register, its path included. -/
theorem Buffer.Unbroken.register? {b : Buffer} {f : RegisterFile} (hb : b.Unbroken)
    (hf : f.Unbroken) {name : Option Char} {r : Register} (hr : b.register? f name = some r) :
    r.Unbroken := by
  unfold Buffer.register? at hr
  split at hr
  · cases hr
    cases hp : b.path with
    | none => exact Register.unbroken_empty
    | some p => exact Register.unbroken_ofText (hb.path p hp)
  · exact hf.get? hr

end ModalEditor
