import ModalEditor.Proofs.Buffer.Breaks
import ModalEditor.Proofs.Word.Motion

/-!
# Stops in the row of a buffer

The searches of the word motions, place by place. The motions to the start of a word stop where a
word starts, or an empty line (`Flat.StopsAt`); the motion to the end of a word stops where one ends
(`Flat.EndsAt`). Each search leads past all places in between and ends at a stop, or at an end of
the row if there is none.

These are facts about the row alone, and hold of lines with breaks in them as well. Only the search
backward asks for more: it tells an empty line by its length, which finds every empty line of the
row if no line has a break inside.
-/

namespace ModalEditor

/-! ## Words of a text -/

namespace Text

/-- A character that is not blank stands at the column. -/
def isWordAt (t : Text) (j : Nat) : Bool := t[j]?.any fun c => !isBlank c

/-- A word starts at the column: a character that is not blank stands there, at the start of the
text or behind a blank. -/
def startsWord (t : Text) (j : Nat) : Bool := t.isWordAt j && (j = 0 || !t.isWordAt (j - 1))

/-- A word ends at the column: a character that is not blank stands there, at the end of the text or
in front of a blank. -/
def endsWord (t : Text) (j : Nat) : Bool := t.isWordAt j && !t.isWordAt (j + 1)

theorem isWordAt_eq_false_of_le {t : Text} {j : Nat} (hj : t.length ≤ j) :
    t.isWordAt j = false := by
  rw [isWordAt, List.getElem?_eq_none hj]
  rfl

theorem startsWord_eq_false_of_le {t : Text} {j : Nat} (hj : t.length ≤ j) :
    t.startsWord j = false := by
  rw [startsWord, isWordAt_eq_false_of_le hj, Bool.false_and]

theorem lt_length_of_isWordAt {t : Text} {j : Nat} (h : t.isWordAt j = true) : j < t.length := by
  refine Nat.lt_of_not_le fun hle => ?_
  rw [isWordAt_eq_false_of_le hle] at h
  cases h

end Text

theorem CharClass.of_eq_word {c : Char} : CharClass.of c = .word ↔ isBlank c = false := by
  have hbreak : isBlank '\n' = true := by decide
  unfold CharClass.of
  by_cases hc : c = '\n'
  · rw [if_pos hc, hc, hbreak]
    decide
  · rw [if_neg hc]
    cases isBlank c <;> decide

namespace Flat

variable {f : Flat} {lines : List Text} {i k j m n : Nat}

/-- In the row stand the words of the lines. -/
theorem isWordAt_ofLines (hk : k < lines.length) (hj : j ≤ lines[k].length) :
    (ofLines lines).isWordAt (lineStart lines k + j) = lines[k].isWordAt j := by
  unfold isWordAt
  rw [classAt?_ofLines hk hj]
  by_cases hlt : j < lines[k].length
  · have hclass : CharClass.of lines[k][j] = .word ↔ isBlank lines[k][j] = false :=
      CharClass.of_eq_word
    rw [if_pos hlt, Text.isWordAt, List.getElem?_eq_getElem hlt, Option.map_some, Option.any_some,
      Bool.eq_iff_iff, beq_iff_eq, Option.some_inj, hclass, Bool.not_eq_true']
  · rw [if_neg hlt, Text.isWordAt_eq_false_of_le (Nat.le_of_not_lt hlt)]
    split <;> rfl

theorem isWordAt_eq_false_of_le (hi : f.size ≤ i) : f.isWordAt i = false := by
  rw [isWordAt, f.classAt?_none_iff.mpr hi]
  rfl

theorem isWordAt_eq_false_of_class {cls : CharClass} (h : f.classAt? i = some cls)
    (hcls : cls ≠ .word) : f.isWordAt i = false := by
  rw [isWordAt, h]
  cases cls with
  | word => exact absurd rfl hcls
  | blank => rfl
  | lineBreak => rfl

/-! ## Stops -/

/-- A line starts at the place and ends there. -/
def EmptyAt (f : Flat) (i : Nat) : Prop :=
  (i = 0 ∨ f.classAt? (i - 1) = some .lineBreak) ∧ (f.classAt? i = some .lineBreak ∨ f.size ≤ i)

/-- A word or an empty line starts at the place. -/
def StopsAt (f : Flat) (i : Nat) : Prop :=
  f.isWordAt i = true ∧ (i = 0 ∨ f.isWordAt (i - 1) = false) ∨ f.EmptyAt i

/-- A word ends at the place. -/
def EndsAt (f : Flat) (i : Nat) : Prop := f.isWordAt i = true ∧ f.isWordAt (i + 1) = false

/-- Behind a character of a word no other word starts, and no line. -/
theorem not_stopsAt_behind_word (h : f.isWordAt i = true) : ¬ f.StopsAt (i + 1) := by
  rintro (⟨-, hstart | hstart⟩ | ⟨hstart | hstart, -⟩)
  · cases hstart
  · rw [Nat.add_sub_cancel, h] at hstart
    cases hstart
  · cases hstart
  · rw [Nat.add_sub_cancel, isWordAt_iff.mp h] at hstart
    cases hstart

/-- Where no word stands and no line starts, there is no stop. -/
theorem not_stopsAt_of_inner (hword : f.isWordAt (i + 1) = false)
    (hline : f.classAt? i ≠ some .lineBreak) : ¬ f.StopsAt (i + 1) := by
  rintro (⟨h, -⟩ | ⟨hstart | hstart, -⟩)
  · rw [hword] at h
    cases h
  · cases hstart
  · exact hline hstart

/-- Where a blank stands there is no stop. -/
theorem not_stopsAt_of_blank (h : f.classAt? i = some .blank) : ¬ f.StopsAt i := by
  rintro (⟨hword, -⟩ | ⟨-, hempty | hempty⟩)
  · rw [isWordAt_iff.mp hword] at h
    cases h
  · rw [hempty] at h
    cases h
  · exact absurd (lt_size_of_class h) (Nat.not_lt_of_le hempty)

/-! ## Stops of lines -/

section OfLines

variable {lines : List Text} {k j : Nat}

/-- In front of a line there is a break, or nothing. -/
theorem lineStart_behind_break (hk : k < lines.length) :
    lineStart lines k = 0 ∨ (ofLines lines).classAt? (lineStart lines k - 1) = some .lineBreak := by
  cases k with
  | zero => exact .inl (by simp [lineStart])
  | succ k =>
    have hk' : k < lines.length := Nat.lt_of_succ_lt hk
    have hclass := classAt?_ofLines hk' (Nat.le_refl lines[k].length)
    rw [if_neg (Nat.lt_irrefl _), if_pos hk] at hclass
    rw [lineStart_succ hk', Nat.add_sub_cancel]
    exact .inr hclass

theorem classAt?_break_iff (hk : k < lines.length) (hj : j < lines[k].length) :
    (ofLines lines).classAt? (lineStart lines k + j) = some .lineBreak ↔
      lines[k][j]? = some '\n' := by
  rw [classAt?_ofLines hk (Nat.le_of_lt hj), if_pos hj, List.getElem?_eq_getElem hj,
    Option.map_some, Option.some_inj, Option.some_inj, CharClass.of_eq_lineBreak]

/-- Words start in the row where they start in the lines. -/
theorem startsAt_ofLines (hk : k < lines.length) (hj : j ≤ lines[k].length) :
    (ofLines lines).isWordAt (lineStart lines k + j) = true ∧ (lineStart lines k + j = 0 ∨
      (ofLines lines).isWordAt (lineStart lines k + j - 1) = false) ↔
      lines[k].startsWord j = true := by
  rw [isWordAt_ofLines hk hj, Text.startsWord, Bool.and_eq_true, Bool.or_eq_true,
    decide_eq_true_eq, Bool.not_eq_true']
  refine and_congr_right fun _ => ?_
  cases j with
  | zero =>
    refine iff_of_true ?_ (.inl rfl)
    refine (lineStart_behind_break hk).imp id fun hbreak => ?_
    exact isWordAt_eq_false_of_class hbreak (by decide)
  | succ j =>
    have hplace : lineStart lines k + (j + 1) - 1 = lineStart lines k + j := rfl
    rw [hplace, isWordAt_ofLines hk (Nat.le_of_succ_le hj), Nat.add_sub_cancel]
    exact or_congr_left (iff_of_false (by omega) (by omega))

/-- Inside a line and at its end, only a break of the line can make an empty line of the row. -/
theorem emptyAt_inner (hk : k < lines.length) (hj : j < lines[k].length) :
    (ofLines lines).EmptyAt (lineStart lines k + (j + 1)) ↔
      lines[k][j]? = some '\n' ∧ (j + 1 < lines[k].length → lines[k][j + 1]? = some '\n') := by
  have hplace : lineStart lines k + (j + 1) - 1 = lineStart lines k + j := rfl
  rw [EmptyAt, hplace, classAt?_break_iff hk hj, ← classAt?_eq_none_iff]
  refine and_congr (or_iff_right (by omega)) ?_
  rw [classAt?_ofLines hk hj]
  by_cases hlt : j + 1 < lines[k].length
  · rw [if_pos hlt, List.getElem?_eq_getElem hlt]
    simp [CharClass.of_eq_lineBreak, hlt]
  · rw [if_neg hlt]
    refine iff_of_true ?_ fun hlt' => absurd hlt' hlt
    split
    · exact .inl rfl
    · exact .inr rfl

theorem emptyAt_start (hk : k < lines.length) (hline : '\n' ∉ lines[k]) :
    (ofLines lines).EmptyAt (lineStart lines k) ↔ lines[k] = [] := by
  have hclass := classAt?_ofLines hk (Nat.zero_le lines[k].length)
  rw [Nat.add_zero] at hclass
  rw [EmptyAt, ← classAt?_eq_none_iff, hclass]
  refine (and_iff_right (lineStart_behind_break hk)).trans ?_
  by_cases hlt : 0 < lines[k].length
  · have hne : lines[k][0] ≠ '\n' := fun heq => hline (heq ▸ List.getElem_mem hlt)
    rw [if_pos hlt, List.getElem?_eq_getElem hlt]
    simp [CharClass.of_eq_lineBreak, hne, List.ne_nil_of_length_pos hlt]
  · rw [if_neg hlt]
    refine iff_of_true ?_ (List.length_eq_zero_iff.mp (Nat.eq_zero_of_not_pos hlt))
    split
    · exact .inl rfl
    · exact .inr rfl

/-- The stops of the row are the starts of words and the empty lines. -/
theorem stopsAt_ofLines (hu : Unbroken lines) (hk : k < lines.length) (hj : j ≤ lines[k].length) :
    (ofLines lines).StopsAt (lineStart lines k + j) ↔
      lines[k].startsWord j = true ∨ lines[k] = [] := by
  have hline : '\n' ∉ lines[k] := hu _ (List.getElem_mem hk)
  refine or_congr (startsAt_ofLines hk hj) ?_
  cases j with
  | zero => exact emptyAt_start hk hline
  | succ j =>
    rw [emptyAt_inner hk hj]
    refine iff_of_false (fun hbreak => hline (List.mem_of_getElem? hbreak.1)) ?_
    exact List.ne_nil_of_length_pos (by omega)

/-- The ends of words of the row are those of the lines. -/
theorem endsAt_ofLines (hk : k < lines.length) (hj : j ≤ lines[k].length) :
    (ofLines lines).EndsAt (lineStart lines k + j) ↔ lines[k].endsWord j = true := by
  rw [EndsAt, Text.endsWord, Bool.and_eq_true, Bool.not_eq_true', isWordAt_ofLines hk hj]
  refine and_congr_right fun hword => ?_
  have hlt : j + 1 ≤ lines[k].length := Text.lt_length_of_isWordAt hword
  have hplace : lineStart lines k + j + 1 = lineStart lines k + (j + 1) := rfl
  rw [hplace, isWordAt_ofLines hk hlt]

end OfLines

/-! ## Searching forward -/

/-- The search for the end of a word leads past characters of the word only. -/
theorem skipWord_spec (hn : f.size ≤ i + n) :
    i ≤ f.skipWord i n ∧ f.isWordAt (f.skipWord i n) = false ∧
      ∀ m, i ≤ m → m < f.skipWord i n → f.isWordAt m = true := by
  fun_induction skipWord f i n with
  | case1 i => exact ⟨Nat.le_refl i, isWordAt_eq_false_of_le hn, fun m hm hlt => by omega⟩
  | case2 i n hword ih =>
    obtain ⟨hle, hstop, hpast⟩ := ih (by omega)
    refine ⟨by omega, hstop, fun m hm hlt => ?_⟩
    rcases Nat.eq_or_lt_of_le hm with rfl | hm
    · exact hword
    · exact hpast m hm hlt
  | case3 i n hword =>
    exact ⟨Nat.le_refl i, by simpa using hword, fun m hm hlt => by omega⟩

/-- At a word the search for one ends, and at the end of the row. -/
theorem skipBlanks_of_stop (h : f.isWordAt i = true ∨ f.size ≤ i) : f.skipBlanks i n = i := by
  cases n with
  | zero => rfl
  | succ n =>
    unfold skipBlanks
    rcases h with hword | hend
    · rw [isWordAt_iff.mp hword]
    · rw [f.classAt?_none_iff.mpr hend]

/-- `i` is the first stop behind `start`, or the end of the row if there is none before it. -/
structure Finds (f : Flat) (start i : Nat) : Prop where
  /-- It is behind. -/
  behind : start < i
  /-- It is a place of the row, or its end. -/
  within : i ≤ f.size
  /-- There is no stop in between. -/
  between : ∀ m, start < m → m < i → ¬ f.StopsAt m
  /-- It is a stop, unless the search came to the end. -/
  stops : i < f.size → f.StopsAt i

/-- The next place is a stop or the end. -/
theorem Finds.next (hi : i < f.size) (hstop : i + 1 < f.size → f.StopsAt (i + 1)) :
    f.Finds i (i + 1) :=
  ⟨Nat.lt_succ_self i, hi, fun m hm hlt => by omega, hstop⟩

/-- The search goes on from a place that is no stop. -/
theorem Finds.of_next (h : f.Finds (i + 1) j) (hstop : ¬ f.StopsAt (i + 1)) : f.Finds i j := by
  refine ⟨Nat.lt_of_succ_lt h.behind, h.within, fun m hm hlt => ?_, h.stops⟩
  rcases Nat.eq_or_lt_of_le (show i + 1 ≤ m from hm) with rfl | hm
  · exact hstop
  · exact h.between m hm hlt

/-- The search for a word makes one step, from a place where there is none. -/
theorem finds_skipBlanks_step (hi : i < f.size) (hword : f.isWordAt i = false)
    (hrest : i + 1 < f.size → f.isWordAt (i + 1) = false →
      f.Finds (i + 1) (f.skipBlanks (i + 1) n) ∧ ¬ f.StopsAt (i + 1)) :
    f.Finds i (f.skipBlanks (i + 1) n) := by
  by_cases hstop : f.isWordAt (i + 1) = true ∨ f.size ≤ i + 1
  · rw [skipBlanks_of_stop hstop]
    refine .next hi fun hlt => .inl ⟨?_, .inr hword⟩
    exact hstop.resolve_right (Nat.not_le_of_gt hlt)
  · rw [not_or, Bool.not_eq_true, Nat.not_le] at hstop
    obtain ⟨hfinds, hno⟩ := hrest hstop.2 hstop.1
    exact hfinds.of_next hno

/-- The search for a word leads past all places that are no stops. -/
theorem finds_skipBlanks (hn : f.size ≤ i + n) (hi : i < f.size) (hword : f.isWordAt i = false) :
    f.Finds i (f.skipBlanks i n) := by
  fun_induction skipBlanks f i n with
  | case1 i => exact absurd hi (Nat.not_lt_of_le hn)
  | case2 i n hnone => exact absurd hi (Nat.not_lt_of_le (f.classAt?_none_iff.mp hnone))
  | case3 i n hclass =>
    rw [isWordAt_iff.mpr hclass] at hword
    cases hword
  | case4 i n hblank ih =>
    refine finds_skipBlanks_step hi hword fun hi' hword' => ⟨ih (by omega) hi' hword', ?_⟩
    refine not_stopsAt_of_inner hword' ?_
    rw [hblank]
    decide
  | case5 i n hbreak hnone =>
    exact .next hi fun hlt => absurd hlt (Nat.not_lt_of_le (f.classAt?_none_iff.mp hnone))
  | case6 i n hbreak hnext => exact .next hi fun _ => .inr ⟨.inr hbreak, .inl hnext⟩
  | case7 i n hbreak cls hcls hnext ih =>
    refine finds_skipBlanks_step hi hword fun hi' hword' => ⟨ih (by omega) hi' hword', ?_⟩
    refine not_stopsAt_of_blank ?_
    cases cls with
    | word =>
      rw [isWordAt_iff.mpr hnext] at hword'
      cases hword'
    | blank => exact hnext
    | lineBreak => exact absurd rfl hcls

/-- Where the motion to the start of the next word ends its search. -/
def nextStop (f : Flat) (start : Nat) : Nat := f.skipBlanks (f.skipWord start f.size) f.size

/-- The search for the next word, from any place of the row. -/
theorem finds_nextStop (hi : i < f.size) : f.Finds i (f.nextStop i) := by
  obtain ⟨hle, hend, hpast⟩ := skipWord_spec (f := f) (i := i) (Nat.le_add_left f.size i)
  have hsize := skipWord_le f (n := f.size) (Nat.le_of_lt hi)
  unfold nextStop
  generalize hj : f.skipWord i f.size = j at hle hend hpast hsize
  -- behind a character of the word there is no stop, up to the end of the word
  have hinner : ∀ m, i < m → m ≤ j → ¬ f.StopsAt m := by
    intro m hm hmj
    obtain ⟨m, rfl⟩ : ∃ l, m = l + 1 := ⟨m - 1, by omega⟩
    exact not_stopsAt_behind_word (hpast m (by omega) (by omega))
  rcases Nat.eq_or_lt_of_le hsize with hlast | hlt
  · rw [skipBlanks_of_stop (.inr (Nat.le_of_eq hlast.symm))]
    exact ⟨by omega, hsize, fun m hm hmj => hinner m hm (Nat.le_of_lt hmj), fun hno => by omega⟩
  · have hfinds := finds_skipBlanks (Nat.le_add_left f.size j) hlt hend
    refine ⟨Nat.lt_of_le_of_lt hle hfinds.behind, hfinds.within, fun m hm hml => ?_, hfinds.stops⟩
    rcases Nat.lt_or_ge j m with hjm | hmj
    · exact hfinds.between m hjm hml
    · exact hinner m hm hmj

/-! ## Searching backward -/

/-- `i` is the last stop before `start`. -/
structure FindsBefore (f : Flat) (start i : Nat) : Prop where
  /-- It is before. -/
  before : i < start
  /-- There is no stop in between. -/
  between : ∀ m, i < m → m < start → ¬ f.StopsAt m
  /-- It is a stop. -/
  stops : f.StopsAt i

/-- The start of a word is the last stop up to any of its places. -/
theorem findsBefore_wordStart (h : f.isWordAt i = true) :
    f.FindsBefore (i + 1) (f.wordStart i) := by
  fun_induction wordStart f i with
  | case1 => exact ⟨Nat.zero_lt_one, fun m hm hlt => by omega, .inl ⟨h, .inl rfl⟩⟩
  | case2 i hword ih =>
    obtain ⟨hlt, hpast, hstop⟩ := ih hword
    refine ⟨by omega, fun m hm hmi => ?_, hstop⟩
    rcases Nat.eq_or_lt_of_le (Nat.le_of_lt_succ hmi) with rfl | hmi
    · exact not_stopsAt_behind_word hword
    · exact hpast m hm hmi
  | case3 i hword =>
    refine ⟨Nat.lt_succ_self _, fun m hm hlt => by omega, .inl ⟨h, .inr ?_⟩⟩
    simpa using hword

/-- What the search backward over blanks has found before `start`: a place in the last word, the
last stop, or the start of the buffer because there is no stop. -/
def FoundBack (f : Flat) (start : Nat) : Nat ⊕ Position → Prop
  | .inl i => i < start ∧ f.isWordAt i = true ∧ ∀ m, i < m → m < start → ¬ f.StopsAt m
  | .inr q =>
    (∃ i, f.FindsBefore start i ∧ q = f.position i) ∨
      q = ⟨0, 0⟩ ∧ ∀ m, m < start → ¬ f.StopsAt m

/-- The search has come from a place that is no stop. -/
theorem FoundBack.of_next {r : Nat ⊕ Position} (h : f.FoundBack i r) (hstop : ¬ f.StopsAt i) :
    f.FoundBack (i + 1) r := by
  have hmore : ∀ {m}, (m < i → ¬ f.StopsAt m) → m < i + 1 → ¬ f.StopsAt m := by
    intro m hm hlt
    rcases Nat.eq_or_lt_of_le (Nat.le_of_lt_succ hlt) with rfl | hlt
    · exact hstop
    · exact hm hlt
  cases r with
  | inl j =>
    obtain ⟨hlt, hword, hpast⟩ := h
    exact ⟨by omega, hword, fun m hm => hmore (hpast m hm)⟩
  | inr q =>
    rcases h with ⟨j, ⟨hlt, hpast, hj⟩, rfl⟩ | ⟨rfl, hnone⟩
    · exact .inl ⟨j, ⟨by omega, fun m hm => hmore (hpast m hm), hj⟩, rfl⟩
    · exact .inr ⟨rfl, fun m => hmore (hnone m)⟩

/-- The break that ends an empty line is a stop of the row; another break is none. -/
theorem stopsAt_break (hu : Unbroken lines) (h : (ofLines lines).classAt? i = some .lineBreak) :
    (ofLines lines).StopsAt i ↔
      (ofLines lines).lineLength ((ofLines lines).position i).line = 0 := by
  obtain ⟨k, j, hk, rfl, hchar | hbreak⟩ := exists_of_class h
  · obtain ⟨hj, -⟩ := hchar
    have hmem := List.mem_of_getElem? ((classAt?_break_iff hk hj).mp h)
    exact absurd hmem (hu _ (List.getElem_mem hk))
  · obtain ⟨rfl, -, -⟩ := hbreak
    have hword := Text.startsWord_eq_false_of_le (Nat.le_refl lines[k].length)
    rw [stopsAt_ofLines hu hk (Nat.le_refl _), position_ofLines hk (Nat.le_refl _),
      lineLength_ofLines hk, hword, List.length_eq_zero_iff]
    exact or_iff_right (by decide)

theorem position_zero (hne : lines ≠ []) : (ofLines lines).position 0 = ⟨0, 0⟩ := by
  have hstart : lineStart lines 0 + 0 = 0 := by simp [lineStart]
  have hpos := position_ofLines (List.length_pos_iff.mpr hne) (Nat.zero_le _)
  rwa [hstart] at hpos

/-- The position of the break that ends an empty line is that of the line. -/
theorem position_of_empty (h : (ofLines lines).classAt? i = some .lineBreak)
    (hempty : (ofLines lines).lineLength ((ofLines lines).position i).line = 0) :
    (ofLines lines).position i = ⟨((ofLines lines).position i).line, 0⟩ := by
  obtain ⟨k, j, hk, rfl, hchar | hbreak⟩ := exists_of_class h
  · have hj := hchar.1
    rw [position_ofLines hk (Nat.le_of_lt hj), lineLength_ofLines hk] at hempty
    omega
  · obtain ⟨rfl, -, -⟩ := hbreak
    rw [position_ofLines hk (Nat.le_refl _), lineLength_ofLines hk] at hempty
    rw [position_ofLines hk (Nat.le_refl _), hempty]

/-- The search backward over blanks leads past all places that are no stops. -/
theorem foundBack_backOverBlanks (hu : Unbroken lines) (hi : i < (ofLines lines).size) :
    (ofLines lines).FoundBack (i + 1) ((ofLines lines).backOverBlanks i) := by
  fun_induction backOverBlanks (ofLines lines) i with
  | case1 hword => exact ⟨Nat.zero_lt_one, isWordAt_iff.mpr hword, fun m hm hlt => by omega⟩
  | case2 hword =>
    have hne : lines ≠ [] := by
      rintro rfl
      exact absurd hi (by simp [size_ofLines, Text.join, List.intercalate])
    have hzero : (ofLines lines).position 0 = ⟨0, 0⟩ := position_zero hne
    by_cases hstop : (ofLines lines).StopsAt 0
    · exact .inl ⟨0, ⟨Nat.zero_lt_one, fun m hm hlt => by omega, hstop⟩, hzero.symm⟩
    · refine .inr ⟨rfl, fun m hm => ?_⟩
      rwa [Nat.lt_one_iff.mp hm]
  | case3 i hbreak line hempty =>
    refine .inl ⟨i + 1, ⟨Nat.lt_succ_self _, fun m hm hlt => by omega, ?_⟩,
      (position_of_empty hbreak hempty).symm⟩
    exact (stopsAt_break hu hbreak).mpr hempty
  | case4 i hbreak line hempty ih =>
    exact (ih (Nat.lt_of_succ_lt hi)).of_next fun hstop =>
      hempty ((stopsAt_break hu hbreak).mp hstop)
  | case5 i hblank ih => exact (ih (Nat.lt_of_succ_lt hi)).of_next (not_stopsAt_of_blank hblank)
  | case6 i hbreak hblank =>
    refine ⟨Nat.lt_succ_self _, ?_, fun m hm hlt => by omega⟩
    cases hc : (ofLines lines).classAt? (i + 1) with
    | none => exact absurd hi (Nat.not_lt_of_le (classAt?_eq_none_iff.mp hc))
    | some cls =>
      cases cls with
      | word => exact isWordAt_iff.mpr hc
      | blank => exact absurd hc hblank
      | lineBreak => exact absurd hc hbreak

/-! ## Searching the end of a word -/

theorem le_findWord (f : Flat) (i n : Nat) : i ≤ f.findWord i n := by
  fun_induction findWord f i n with
  | case1 => exact Nat.le_refl _
  | case2 => exact Nat.le_refl _
  | case3 i n _ ih => omega

/-- The search for a word leads past places without one. -/
theorem findWord_spec (hn : f.size ≤ i + n) :
    (∀ m, i ≤ m → m < f.findWord i n → f.isWordAt m = false) ∧
      (f.findWord i n < f.size → f.isWordAt (f.findWord i n) = true) := by
  fun_induction findWord f i n with
  | case1 i => exact ⟨fun m hm hlt => by omega, fun hlt => by omega⟩
  | case2 i n hword => exact ⟨fun m hm hlt => by omega, fun _ => hword⟩
  | case3 i n hword ih =>
    obtain ⟨hpast, hfound⟩ := ih (by omega)
    refine ⟨fun m hm hlt => ?_, hfound⟩
    rcases Nat.eq_or_lt_of_le hm with rfl | hm
    · simpa using hword
    · exact hpast m hm hlt

/-- The search for the end of a word leads past characters of it. -/
theorem wordEnd_spec (hn : f.size ≤ i + n) (h : f.isWordAt i = true) :
    i ≤ f.wordEnd i n ∧ f.EndsAt (f.wordEnd i n) ∧
      ∀ m, i ≤ m → m < f.wordEnd i n → f.isWordAt (m + 1) = true := by
  fun_induction wordEnd f i n with
  | case1 i =>
    rw [isWordAt_eq_false_of_le (show f.size ≤ i from hn)] at h
    cases h
  | case2 i n hword ih =>
    obtain ⟨hle, hend, hpast⟩ := ih (by omega) hword
    refine ⟨by omega, hend, fun m hm hlt => ?_⟩
    rcases Nat.eq_or_lt_of_le hm with rfl | hm
    · exact hword
    · exact hpast m hm hlt
  | case3 i n hword =>
    exact ⟨Nat.le_refl i, ⟨h, by simpa using hword⟩, fun m hm hlt => by omega⟩

/-- Where the motion to the end of a word ends its search, if there is a word. -/
def nextEnd? (f : Flat) (start : Nat) : Option Nat :=
  let i := f.findWord (start + 1) f.size
  if f.size ≤ i then none else some (f.wordEnd i f.size)

/-- The search for the next end of a word. -/
theorem nextEnd?_eq_some (h : f.nextEnd? i = some j) :
    i < j ∧ j < f.size ∧ f.EndsAt j ∧ ∀ m, i < m → m < j → ¬ f.EndsAt m := by
  obtain ⟨hblank, hword⟩ := findWord_spec (f := f) (i := i + 1) (Nat.le_add_left f.size (i + 1))
  have hbehind := le_findWord f (i + 1) f.size
  unfold nextEnd? at h
  dsimp only at h
  split at h
  · cases h
  · rename_i hfound
    cases h
    obtain ⟨hle, hend, hpast⟩ :=
      wordEnd_spec (Nat.le_add_left f.size _) (hword (Nat.lt_of_not_le hfound))
    refine ⟨by omega, lt_size_of_class (isWordAt_iff.mp hend.1), hend, fun m hm hlt => ?_⟩
    rintro ⟨hhere, hnext⟩
    rcases Nat.lt_or_ge m (f.findWord (i + 1) f.size) with hbefore | hin
    · rw [hblank m hm hbefore] at hhere
      cases hhere
    · rw [hpast m hin hlt] at hnext
      cases hnext

theorem nextEnd?_eq_none (h : f.nextEnd? i = none) (hm : i < m) : f.isWordAt m = false := by
  obtain ⟨hblank, -⟩ := findWord_spec (f := f) (i := i + 1) (Nat.le_add_left f.size (i + 1))
  unfold nextEnd? at h
  dsimp only at h
  split at h
  · rename_i hend
    rcases Nat.lt_or_ge m f.size with hlt | hge
    · exact hblank m hm (Nat.lt_of_lt_of_le hlt hend)
    · exact isWordAt_eq_false_of_le hge
  · cases h

end Flat
end ModalEditor
