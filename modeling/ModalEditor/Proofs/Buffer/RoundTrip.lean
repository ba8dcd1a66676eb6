import ModalEditor.Proofs.Buffer.Breaks
import Mathlib.Data.List.Basic

/-!
# Reading and writing the text of a file

Every text is a row of lines that end in a line feed, followed by a last piece without one. On this
form reading and writing are easy to compare: `splitLines` gives the lines and the last piece,
`countBreaks` counts the lines, and `join` puts them together again.

Reading and then writing gives the text back if its line breaks are all of one kind, but for one
character: a carriage return at the very end is taken for a part of a line ending and is lost.
Writing and then reading gives the lines back, unless the last of several lines is empty and the
buffer is one whose last line has no ending.
-/

namespace ModalEditor

namespace Text

/-- Lines with an ending after each of them. -/
def endLines (ending : Text) (lines : List Text) : Text := lines.flatMap (· ++ ending)

@[simp] theorem endLines_nil (ending : Text) : endLines ending [] = [] := rfl

@[simp] theorem endLines_cons (ending line : Text) (lines : List Text) :
    endLines ending (line :: lines) = line ++ ending ++ endLines ending lines := rfl

/-- Pieces with a separator between them are lines with an ending and a last piece without one. -/
theorem join_concat (sep : Text) (xs : List Text) (y : Text) :
    join sep (xs ++ [y]) = endLines sep xs ++ y := by
  unfold join
  induction xs with
  | nil => simp
  | cons x xs ih =>
    have hne : xs ++ [y] ≠ [] := by simp
    rw [List.cons_append, List.intercalate_cons_of_ne_nil hne, ih]
    simp

/-- With an ending at the end as well they are all lines with an ending. -/
theorem join_append_ending {sep : Text} {xs : List Text} (hne : xs ≠ []) :
    join sep xs ++ sep = endLines sep xs := by
  rcases List.eq_nil_or_concat' xs with rfl | ⟨xs, x, rfl⟩
  · exact absurd rfl hne
  · rw [join_concat]
    simp [endLines]

/-- Splitting finds the lines and the last piece. -/
theorem splitLines_endLines {xs : List Text} {y : Text} (hxs : Unbroken xs) (hy : '\n' ∉ y) :
    splitLines (endLines ['\n'] xs ++ y) = xs ++ [y] := by
  rw [← join_concat]
  exact List.splitOn_intercalate '\n' (hxs.append (unbroken_singleton.mpr hy)) (by simp)

/-- Every text has this form. -/
theorem exists_endLines (t : Text) :
    ∃ xs y, t = endLines ['\n'] xs ++ y ∧ Unbroken xs ∧ '\n' ∉ y := by
  have hne : splitLines t ≠ [] := List.splitOn_ne_nil '\n' t
  have hsplit := List.dropLast_concat_getLast hne
  have hpieces := unbroken_splitLines t
  refine ⟨(splitLines t).dropLast, (splitLines t).getLast hne, ?_, ?_, ?_⟩
  · rw [← join_concat, hsplit]
    exact (List.intercalate_splitOn '\n').symm
  · exact hpieces.mono (List.dropLast_subset _)
  · exact hpieces _ (List.getLast_mem hne)

/-- A text ends in a line feed if it has lines and no last piece. -/
theorem getLast?_endLines {xs : List Text} {y : Text} (hy : '\n' ∉ y) :
    (endLines ['\n'] xs ++ y).getLast? = some '\n' ↔ y = [] ∧ xs ≠ [] := by
  rcases List.eq_nil_or_concat' y with rfl | ⟨y, c, rfl⟩
  · rcases List.eq_nil_or_concat' xs with rfl | ⟨xs, x, rfl⟩
    · simp
    · simp [endLines]
  · have hc : c ≠ '\n' := fun h => hy (by simp [h])
    simp [hc]

/-! ## Line breaks of one kind -/

/-- No line feed of the text stands behind a carriage return. -/
def BareBreaks (t : Text) : Prop := ∀ u v, t ≠ u ++ '\r' :: '\n' :: v

/-- Every line feed of the text stands behind a carriage return. -/
def PairedBreaks (t : Text) : Prop := ∀ u v, t = u ++ '\n' :: v → u.getLast? = some '\r'

theorem BareBreaks.lines {xs : List Text} {y : Text} (h : BareBreaks (endLines ['\n'] xs ++ y)) :
    ∀ x ∈ xs, x.getLast? ≠ some '\r' := by
  intro x hx hlast
  obtain ⟨above, below, rfl⟩ := List.append_of_mem hx
  obtain ⟨x, rfl⟩ := List.getLast?_eq_some_iff.mp hlast
  exact h (endLines ['\n'] above ++ x) (endLines ['\n'] below ++ y) (by simp [endLines])

theorem PairedBreaks.lines {xs : List Text} {y : Text}
    (h : PairedBreaks (endLines ['\n'] xs ++ y)) : ∀ x ∈ xs, x.getLast? = some '\r' := by
  intro x hx
  obtain ⟨above, below, rfl⟩ := List.append_of_mem hx
  have hlast := h (endLines ['\n'] above ++ x) (endLines ['\n'] below ++ y) (by simp [endLines])
  rcases List.eq_nil_or_concat' x with rfl | ⟨x, c, rfl⟩
  · rcases List.eq_nil_or_concat' above with rfl | ⟨above, z, rfl⟩
    · simp at hlast
    · simp [endLines] at hlast
  · simpa using hlast

/-! ## One final character -/

theorem dropFinal_eq_self_iff {c : Char} {t : Text} : dropFinal c t = t ↔ t.getLast? ≠ some c := by
  unfold dropFinal
  split
  · rename_i hlast
    obtain ⟨u, rfl⟩ := List.getLast?_eq_some_iff.mp hlast
    simp
  · simpa using ‹_›

theorem dropFinal_concat_self (c : Char) (t : Text) : dropFinal c (t ++ [c]) = t := by
  simp [dropFinal]

/-- A final character is one of the last piece, if there is one. -/
theorem dropFinal_append {c : Char} {t y : Text} (h : y = [] → t.getLast? ≠ some c) :
    dropFinal c (t ++ y) = t ++ dropFinal c y := by
  rcases List.eq_nil_or_concat' y with rfl | ⟨y, d, rfl⟩
  · simpa [dropFinal] using dropFinal_eq_self_iff.mpr (h rfl)
  · rw [← List.append_assoc]
    unfold dropFinal
    simp only [List.getLast?_concat, List.dropLast_concat]
    split <;> simp

end Text

namespace Buffer

open Text

/-- The lines of a buffer with a text of this form. -/
theorem lines_ofText {path : Option Path} {xs : List Text} {y : Text}
    (hxs : ModalEditor.Unbroken xs) (hy : '\n' ∉ y) :
    (ofText path (endLines ['\n'] xs ++ y)).lines =
      if y = [] ∧ xs ≠ [] then xs.map (dropFinal '\r')
      else xs.map (dropFinal '\r') ++ [dropFinal '\r' y] := by
  simp only [ofText, ofLines, splitLines_endLines hxs hy, getLast?_endLines hy]
  by_cases h : y = [] ∧ xs ≠ []
  · simp [h]
  · simp [h]

end Buffer

namespace LineEnding

open Text

/-- A text without line feeds has nothing to count. -/
theorem countBreaks_of_noBreak {y : Text} (hy : '\n' ∉ y) : countBreaks y = (0, 0) := by
  fun_induction countBreaks y with
  | case1 => rfl
  | case2 => simp at hy
  | case3 c rest _ total paired hcount ih =>
    simp only [List.mem_cons, not_or] at hy
    rw [ih hy.2] at hcount
    cases hcount
    simp [Ne.symm hy.1]

/-- A line with its line feed is one more break, a paired one if it ends in a carriage return. -/
theorem countBreaks_line {x : Text} (hx : '\n' ∉ x) (rest : Text) :
    countBreaks (x ++ '\n' :: rest) =
      ((countBreaks rest).1 + 1,
        if x.getLast? = some '\r' then (countBreaks rest).2 + 1 else (countBreaks rest).2) := by
  induction x with
  | nil => simp [countBreaks]
  | cons c x ih =>
    simp only [List.mem_cons, not_or] at hx
    cases x with
    | nil =>
      by_cases hc : c = '\r'
      · simp [hc, countBreaks]
      · simp [countBreaks, hc, Ne.symm hx.1]
    | cons d x =>
      have hd : d ≠ '\n' := fun h => hx.2 (by simp [h])
      simp only [List.cons_append]
      rw [countBreaks]
      · have hrest := ih hx.2
        rw [List.cons_append] at hrest
        rw [hrest]
        simp [Ne.symm hx.1]
      · rintro rest' - ⟨rfl, -⟩
        exact hd rfl

/-- The breaks of a text are its lines, and the paired ones those that end in a carriage return. -/
theorem countBreaks_endLines {xs : List Text} {y : Text} (hxs : Unbroken xs) (hy : '\n' ∉ y) :
    countBreaks (endLines ['\n'] xs ++ y) =
      (xs.length, xs.countP fun x => x.getLast? = some '\r') := by
  induction xs with
  | nil => simpa using countBreaks_of_noBreak hy
  | cons x xs ih =>
    have hx : '\n' ∉ x := hxs x (by simp)
    have htail := ih (hxs.mono (List.subset_cons_self _ _))
    rw [endLines_cons, List.append_assoc, List.append_assoc, List.singleton_append,
      countBreaks_line hx, htail]
    simp [List.countP_cons]
    split <;> simp

/-- Taking the carriage return off a line and putting the detected ending behind it changes nothing,
if all breaks of the text are of one kind. -/
theorem dropFinal_append_detect {xs : List Text} {y : Text} (hxs : Unbroken xs) (hy : '\n' ∉ y)
    (h : BareBreaks (endLines ['\n'] xs ++ y) ∨ PairedBreaks (endLines ['\n'] xs ++ y)) :
    ∀ x ∈ xs, dropFinal '\r' x ++ (detect (endLines ['\n'] xs ++ y)).text = x ++ ['\n'] := by
  intro x hx
  unfold detect
  rw [countBreaks_endLines hxs hy]
  rcases h with h | h
  · have hnone : (xs.countP fun x => x.getLast? = some '\r') = 0 :=
      List.countP_eq_zero.mpr fun x hx => by simpa using h.lines x hx
    rw [hnone, dropFinal_eq_self_iff.mpr (h.lines x hx)]
    rfl
  · have hall : (xs.countP fun x => x.getLast? = some '\r') = xs.length :=
      List.countP_eq_length.mpr fun x hx => by simpa using h.lines x hx
    have hpos : 0 < xs.length := List.length_pos_of_mem hx
    obtain ⟨x, rfl⟩ := List.getLast?_eq_some_iff.mp (h.lines x hx)
    simp [hall, hpos, dropFinal_concat_self, LineEnding.text]

end LineEnding

namespace Buffer

open Text

/-- The text of a buffer: its lines, and an ending behind the last one if it is to have one. -/
theorem toText_eq (b : Buffer) :
    b.toText = join b.ending.text b.lines ++
      if b.finalBreak && !(b.isNew && b.isBlank) then b.ending.text else [] := by
  unfold toText
  dsimp only
  split <;> simp

/-! ## Reading, then writing -/

/-- What is written after a text with breaks of one kind was read: the text, but for a carriage
return at the very end. -/
theorem toText_ofText (path : Option Path) {t : Text} (h : BareBreaks t ∨ PairedBreaks t) :
    (ofText path t).toText = dropFinal '\r' t := by
  obtain ⟨xs, y, rfl, hxs, hy⟩ := exists_endLines t
  have hends : endLines (LineEnding.detect (endLines ['\n'] xs ++ y)).text
      (xs.map (dropFinal '\r')) = endLines ['\n'] xs := by
    have hline := LineEnding.dropFinal_append_detect hxs hy h
    simp only [endLines, List.flatMap_map]
    exact List.flatMap_congr hline
  have hending : (ofText path (endLines ['\n'] xs ++ y)).ending =
      LineEnding.detect (endLines ['\n'] xs ++ y) := rfl
  have hbreak : (ofText path (endLines ['\n'] xs ++ y)).finalBreak = decide (y = [] ∧ xs ≠ []) :=
    decide_eq_decide.mpr (getLast?_endLines hy)
  have hnew : (ofText path (endLines ['\n'] xs ++ y)).isNew = false := rfl
  rw [toText_eq, lines_ofText hxs hy, hending, hbreak, hnew]
  by_cases hlast : y = [] ∧ xs ≠ []
  · obtain ⟨rfl, hne⟩ := hlast
    have hfeed : (endLines ['\n'] xs).getLast? = some '\n' := by
      simpa using (getLast?_endLines (y := []) hy).mpr ⟨rfl, hne⟩
    have hself : dropFinal '\r' (endLines ['\n'] xs) = endLines ['\n'] xs :=
      dropFinal_eq_self_iff.mpr (by simp [hfeed])
    have hjoin : join (LineEnding.detect (endLines ['\n'] xs ++ [])).text
          (xs.map (dropFinal '\r')) ++ (LineEnding.detect (endLines ['\n'] xs ++ [])).text =
        endLines ['\n'] xs := by
      rw [join_append_ending (by simpa using hne), hends]
    simpa [hne, hself] using hjoin
  · have hnone : y = [] → (endLines ['\n'] xs).getLast? ≠ some '\r' := by
      rintro rfl
      have hxs' : xs = [] := by simpa using hlast
      simp [hxs']
    simp only [hlast, if_false, decide_false, Bool.false_and, Bool.false_eq_true, List.append_nil]
    rw [join_concat, hends, dropFinal_append hnone]

/-- If all line breaks are of one kind, what was read is written as it was, unless the text ends in
a carriage return. -/
theorem toText_ofText_eq_self_iff (path : Option Path) {t : Text}
    (h : BareBreaks t ∨ PairedBreaks t) :
    (ofText path t).toText = t ↔ t.getLast? ≠ some '\r' := by
  rw [toText_ofText path h]
  exact dropFinal_eq_self_iff

/-- Two lines, the first one with a paired break, and a last piece. -/
theorem toText_ofText_paired :
    PairedBreaks ['a', '\r', '\n', 'b'] ∧
      (ofText none ['a', '\r', '\n', 'b']).toText = ['a', '\r', '\n', 'b'] := by
  have hpaired : PairedBreaks ['a', '\r', '\n', 'b'] := by
    intro u v h
    rcases u with _ | ⟨_, _ | ⟨_, _ | ⟨_, _ | ⟨_, _⟩⟩⟩⟩ <;> simp_all
    exact h.2.1.symm
  exact ⟨hpaired, (toText_ofText_eq_self_iff none (.inr hpaired)).mpr (by decide)⟩

/-- A text without a line feed that ends in a carriage return is written without it. -/
theorem toText_ofText_final_return :
    BareBreaks ['a', '\r'] ∧ (ofText none ['a', '\r']).toText = ['a'] := by
  refine ⟨fun u v h => ?_, by decide⟩
  rcases u with _ | ⟨_, _ | ⟨_, _⟩⟩ <;> simp_all

/-! ## Writing, then reading -/

/-- Lines with any ending are lines with a line feed, some of which have a carriage return. -/
theorem endLines_text (e : LineEnding) (xs : List Text) :
    endLines e.text xs = endLines ['\n'] (xs.map (· ++ e.text.dropLast)) := by
  cases e <;> simp [endLines, List.flatMap_map, LineEnding.text]

/-- The ending of a line does not come back as a part of the line. -/
theorem dropFinal_ending (e : LineEnding) {x : Text} (hx : x.getLast? ≠ some '\r') :
    dropFinal '\r' (x ++ e.text.dropLast) = x := by
  cases e with
  | unix => simpa [LineEnding.text] using dropFinal_eq_self_iff.mpr hx
  | dos => exact dropFinal_concat_self '\r' x

/-- Lines that were written with an ending, and a last piece without one, come back when they are
read; only the last piece is not seen if it is empty. -/
theorem lines_ofText_endLines (path : Option Path) (e : LineEnding) {xs : List Text} {y : Text}
    (hxs : ModalEditor.Unbroken xs) (hy : '\n' ∉ y) (hxr : ∀ x ∈ xs, x.getLast? ≠ some '\r')
    (hyr : y.getLast? ≠ some '\r') :
    (ofText path (endLines e.text xs ++ y)).lines = if y = [] ∧ xs ≠ [] then xs else xs ++ [y] := by
  have hunbroken : ModalEditor.Unbroken (xs.map (· ++ e.text.dropLast)) := by
    intro l hl
    obtain ⟨x, hx, rfl⟩ := List.mem_map.mp hl
    cases e <;> simp [hxs x hx, LineEnding.text]
  have hback : (xs.map (· ++ e.text.dropLast)).map (dropFinal '\r') = xs := by
    rw [List.map_map]
    conv_rhs => rw [← List.map_id xs]
    exact List.map_congr_left fun x hx => dropFinal_ending e (hxr x hx)
  rw [endLines_text, lines_ofText hunbroken hy, hback, dropFinal_eq_self_iff.mpr hyr]
  simp

/-- The last of several lines is empty and is to have no ending. -/
def LosesLastLine (b : Buffer) : Prop :=
  b.finalBreak = false ∧ 1 < b.lines.length ∧ b.lines.getLast? = some []

instance (b : Buffer) : Decidable b.LosesLastLine := inferInstanceAs (Decidable (_ ∧ _ ∧ _))

/-- Lines without line breaks come back unless the last one is lost. -/
theorem lines_ofText_toText_of_unbroken (path : Option Path) {b : Buffer} (hne : b.lines ≠ [])
    (hb : ModalEditor.Unbroken b.lines) (hr : ∀ l ∈ b.lines, l.getLast? ≠ some '\r') :
    (ofText path b.toText).lines = b.lines ↔ ¬ b.LosesLastLine := by
  obtain ⟨xs, y, hlines⟩ := (List.eq_nil_or_concat' b.lines).resolve_left hne
  rw [hlines] at hb hr
  have hxs : ModalEditor.Unbroken xs := hb.mono (List.subset_append_left _ _)
  have hy : '\n' ∉ y := hb y (by simp)
  rw [toText_eq, hlines]
  by_cases hflag : (b.finalBreak && !(b.isNew && b.isBlank)) = true
  · have hfinal : b.finalBreak = true := by simp_all
    have hback := lines_ofText_endLines path b.ending hb (y := []) (by simp) hr (by simp)
    rw [if_pos ⟨rfl, by simp⟩, List.append_nil, ← join_append_ending (by simp)] at hback
    rw [if_pos hflag, hback]
    simp [LosesLastLine, hfinal]
  · have hback := lines_ofText_endLines path b.ending hxs hy
      (fun x hx => hr x (by simp [hx])) (hr y (by simp))
    rw [if_neg hflag, List.append_nil, join_concat, hback]
    -- a buffer that has been new and blank so far has one line only
    have hblank : b.finalBreak = true → xs = [] ∧ y = [] := by
      intro hfinal
      have hnew : b.isBlank = true := by simp_all
      have hsingle : xs ++ [y] = [[]] := by
        rw [← hlines]
        simpa [isBlank] using hnew
      rcases xs with _ | ⟨_, _⟩ <;> simp_all
    by_cases hlast : y = [] ∧ xs ≠ []
    · obtain ⟨rfl, hne'⟩ := hlast
      have hfinal : b.finalBreak = false := by
        cases hf : b.finalBreak with
        | false => rfl
        | true => exact absurd (hblank hf).1 hne'
      have hpos := List.length_pos_iff.mpr hne'
      simp [LosesLastLine, hlines, hne', hfinal, hpos]
    · have hkept : ¬ b.LosesLastLine := by
        rintro ⟨-, hlen, hempty⟩
        rw [hlines] at hlen hempty
        refine hlast ⟨by simpa using hempty, List.length_pos_iff.mp (by simpa using hlen)⟩
      simp [hlast, hkept]

/-- A buffer whose lines do not end in a carriage return is read as it was written exactly if no
line has a line break in it and the last line is not lost. -/
theorem lines_ofText_toText (path : Option Path) {b : Buffer} (hne : b.lines ≠ [])
    (hr : ∀ l ∈ b.lines, l.getLast? ≠ some '\r') :
    (ofText path b.toText).lines = b.lines ↔ ModalEditor.Unbroken b.lines ∧ ¬ b.LosesLastLine := by
  refine ⟨fun h => ?_, fun ⟨hb, hlast⟩ =>
    (lines_ofText_toText_of_unbroken path hne hb hr).mpr hlast⟩
  have hb : ModalEditor.Unbroken b.lines := by
    have hread : (ofText none b.toText).Unbroken := unbroken_ofText (by simp) b.toText
    rw [← h]
    exact hread.lines
  exact ⟨hb, (lines_ofText_toText_of_unbroken path hne hb hr).mp h⟩

end Buffer
end ModalEditor
