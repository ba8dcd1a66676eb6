import ModalEditor.Normal.Run
import ModalEditor.Proofs.Word.Next

/-!
# Words of one line

Where a motion starts in a line, what it finds on that line depends on the line alone: the motion
forward leads to the next word of the line (`Word.forward_on_line`), the motion to the end of a word
to the next end on the line (`Word.toEnd_on_line`). Only what they do behind the last one depends on
the other lines.

So the words that a deletion takes are those of the line (`Buffer.wordSpanEnd_eq`). A change takes
the ends of words on its line too, but when there are fewer than it asks for, it reaches the end of
the line if a word stands on a line below, and the end of the last word otherwise
(`Buffer.changeSpanEnd_eq`).
-/

namespace ModalEditor

namespace Text

variable {t : Text} {a j m n : Nat} {hit : Nat → Bool}

/-- The columns of the text from `a` on that are hit. -/
def columnsFrom (t : Text) (a : Nat) (hit : Nat → Bool) : List Nat :=
  (List.range' a (t.length - a)).filter hit

/-- A word starts at a column behind others. In a text with breaks, an empty line between two of
them counts as a word. -/
def startsInside (t : Text) (j : Nat) : Bool :=
  t.startsWord j || (t[j - 1]? = some '\n' && t[j]? = some '\n')

/-- Where the words to the right of a column start. -/
def wordsAfter (t : Text) (a : Nat) : List Nat := t.columnsFrom (a + 1) t.startsInside

/-- Where the words from a column on end. -/
def wordEnds (t : Text) (a : Nat) : List Nat := t.columnsFrom a t.endsWord

theorem mem_columnsFrom : m ∈ t.columnsFrom a hit ↔ a ≤ m ∧ m < t.length ∧ hit m = true := by
  rw [columnsFrom, List.mem_filter, List.mem_range'_1, ← and_assoc]
  refine and_congr_left fun _ => ?_
  omega

theorem columnsFrom_nil (h : ∀ i, a ≤ i → i < t.length → hit i = false) :
    t.columnsFrom a hit = [] := by
  refine List.eq_nil_iff_forall_not_mem.mpr fun i hi => ?_
  obtain ⟨hai, hlt, hhit⟩ := mem_columnsFrom.mp hi
  rw [h i hai hlt] at hhit
  cases hhit

/-- Behind the last column no word starts. -/
theorem wordsAfter_of_le (ha : t.length ≤ a + 1) : t.wordsAfter a = [] :=
  columnsFrom_nil fun _ hi hlt => absurd hlt (Nat.not_lt_of_le (Nat.le_trans ha hi))

/-- The columns are those from the first hit on. -/
theorem columnsFrom_cons (ham : a ≤ m) (hm : m < t.length) (hhit : hit m = true)
    (hbefore : ∀ i, a ≤ i → i < m → hit i = false) :
    t.columnsFrom a hit = m :: t.columnsFrom (m + 1) hit := by
  have hsplit : List.range' a (t.length - a) =
      List.range' a (m - a) ++ m :: List.range' (m + 1) (t.length - (m + 1)) := by
    rw [← List.range'_succ, ← Nat.add_sub_cancel' ham, Nat.add_sub_cancel_left,
      List.range'_append_1]
    congr 1
    omega
  have hnone : (List.range' a (m - a)).filter hit = [] := by
    refine List.filter_eq_nil_iff.mpr ?_
    intro i hi
    rw [List.mem_range'_1] at hi
    rw [hbefore i hi.1 (by omega)]
    exact Bool.false_ne_true
  rw [columnsFrom, hsplit, List.filter_append, hnone, List.nil_append, List.filter_cons_of_pos hhit]
  rfl

theorem columnsFrom_of_not_hit (ha : a < t.length) (h : hit a = false) :
    t.columnsFrom a hit = t.columnsFrom (a + 1) hit := by
  have hcount : t.length - a = t.length - (a + 1) + 1 := by omega
  rw [columnsFrom, hcount, List.range'_succ, List.filter_cons_of_neg (by simp [h])]
  rfl

/-- Where the `n`-th word from a column on ends. If there are fewer, it is the end of the text if
more words are below, and else where the last one ends. -/
def endOfWords (t : Text) (a n : Nat) (below : Bool) : Nat :=
  match (t.wordEnds a)[n - 1]? with
  | some m => m + 1
  | none => if below then t.length else (t.wordEnds a).getLast?.elim t.length (· + 1)

/-- How far `n` words reach that are changed from a column on. -/
def changeStop (t : Text) (a n : Nat) (below : Bool) : Nat :=
  if t.isWordAt a then t.endOfWords a n below else (t.wordsAfter a)[n - 1]?.getD t.length

/-- In a text without breaks only words start. -/
theorem startsInside_of_unbroken (h : '\n' ∉ t) (j : Nat) : t.startsInside j = t.startsWord j := by
  have hnone : t[j]? ≠ some '\n' := fun hbreak => h (List.mem_of_getElem? hbreak)
  simp [startsInside, hnone]

theorem exists_isWordAt_iff : (t.any fun c => !isBlank c) = true ↔ ∃ j, t.isWordAt j = true := by
  rw [List.any_eq_true]
  constructor
  · rintro ⟨c, hc, hblank⟩
    obtain ⟨j, hj, rfl⟩ := List.getElem_of_mem hc
    exact ⟨j, by rw [isWordAt, List.getElem?_eq_getElem hj]; exact hblank⟩
  · rintro ⟨j, hword⟩
    have hj := lt_length_of_isWordAt hword
    rw [isWordAt, List.getElem?_eq_getElem hj] at hword
    exact ⟨t[j], List.getElem_mem hj, hword⟩

/-- A word has an end. -/
theorem exists_endsWord (h : t.isWordAt j = true) :
    ∃ m, j ≤ m ∧ t.endsWord m = true ∧ ∀ i, j ≤ i → i < m → t.endsWord i = false := by
  have hlt := lt_length_of_isWordAt h
  induction hn : t.length - j generalizing j with
  | zero => omega
  | succ n ih =>
    cases hnext : t.isWordAt (j + 1) with
    | false => exact ⟨j, Nat.le_refl j, by rw [endsWord, h, hnext]; rfl, fun i hi hlt' => by omega⟩
    | true =>
      obtain ⟨m, hm, hend, hbefore⟩ := ih hnext (lt_length_of_isWordAt hnext) (by omega)
      refine ⟨m, by omega, hend, fun i hi hlt' => ?_⟩
      rcases Nat.eq_or_lt_of_le hi with rfl | hi
      · rw [endsWord, hnext, Bool.not_true, Bool.and_false]
      · exact hbefore i hi hlt'

/-! ### How far words reach -/

theorem wordsAfter_stop_bounds (a n : Nat) (ha : a ≤ t.length) :
    a ≤ (t.wordsAfter a)[n]?.getD t.length ∧ (t.wordsAfter a)[n]?.getD t.length ≤ t.length := by
  cases hstart : (t.wordsAfter a)[n]? with
  | none => exact ⟨ha, Nat.le_refl _⟩
  | some m =>
    obtain ⟨ham, hm, -⟩ := mem_columnsFrom.mp (List.mem_of_getElem? hstart)
    exact ⟨Nat.le_of_succ_le ham, Nat.le_of_lt hm⟩

/-- How far the last word of a text reaches. -/
theorem lastEnd_bounds (ha : a ≤ t.length) :
    a ≤ (t.wordEnds a).getLast?.elim t.length (· + 1) ∧
      (t.wordEnds a).getLast?.elim t.length (· + 1) ≤ t.length := by
  cases hlast : (t.wordEnds a).getLast? with
  | none => exact ⟨ha, Nat.le_refl _⟩
  | some m =>
    obtain ⟨ham, hm, -⟩ := mem_columnsFrom.mp (List.mem_of_getLast? hlast)
    exact ⟨Nat.le_succ_of_le ham, hm⟩

theorem changeStop_bounds (ha : a ≤ t.length) (n : Nat) (below : Bool) :
    a ≤ t.changeStop a n below ∧ t.changeStop a n below ≤ t.length := by
  unfold changeStop
  split
  · unfold endOfWords
    cases hend : (t.wordEnds a)[n - 1]? with
    | none =>
      cases below with
      | true => exact ⟨ha, Nat.le_refl _⟩
      | false => exact lastEnd_bounds ha
    | some m =>
      obtain ⟨ham, hm, -⟩ := mem_columnsFrom.mp (List.mem_of_getElem? hend)
      exact ⟨Nat.le_succ_of_le ham, hm⟩
  · exact wordsAfter_stop_bounds a _ ha

/-- From a word at the column on, the text has fewer than `n` words, and it ends in blanks. -/
def RunsOut (t : Text) (a n : Nat) : Prop :=
  t.isWordAt a = true ∧ (t.wordEnds a).length < n ∧ t.isWordAt (t.length - 1) = false

instance (t : Text) (a n : Nat) : Decidable (t.RunsOut a n) :=
  inferInstanceAs (Decidable (_ ∧ _ ∧ _))

theorem wordEnds_ne_nil (h : t.isWordAt a = true) : t.wordEnds a ≠ [] := by
  obtain ⟨m, ham, hend, -⟩ := exists_endsWord h
  have hm := lt_length_of_isWordAt (Bool.and_eq_true_iff.mp hend).1
  exact List.ne_nil_of_mem (mem_columnsFrom.mpr ⟨ham, hm, hend⟩)

/-- The last column that is hit, if it is that of the last character. -/
theorem getLast?_columnsFrom (ha : a < t.length) (h : hit (t.length - 1) = true) :
    (t.columnsFrom a hit).getLast? = some (t.length - 1) := by
  have hcount : t.length - a = t.length - 1 - a + 1 := by omega
  have hlast : a + (t.length - 1 - a) = t.length - 1 := by omega
  rw [columnsFrom, hcount, List.range'_concat, List.filter_append, Nat.one_mul, hlast,
    List.filter_cons_of_pos h, List.filter_nil, List.getLast?_concat]

/-- From a word on, the last word reaches to the end of the text unless that is a blank. -/
theorem lastEnd_eq_length_iff (h : t.isWordAt a = true) :
    (t.wordEnds a).getLast?.elim t.length (· + 1) = t.length ↔
      t.isWordAt (t.length - 1) = true := by
  have ha := lt_length_of_isWordAt h
  constructor
  · intro hlen
    have hne := mt List.getLast?_eq_none_iff.mp (wordEnds_ne_nil h)
    obtain ⟨m, hm⟩ := Option.ne_none_iff_exists'.mp hne
    obtain ⟨-, -, hend⟩ := mem_columnsFrom.mp (List.mem_of_getLast? hm)
    rw [hm] at hlen
    have hsame : t.length - 1 = m := Nat.sub_eq_of_eq_add hlen.symm
    rw [hsame]
    exact (Bool.and_eq_true_iff.mp hend).1
  · intro hword
    have hend : t.endsWord (t.length - 1) = true := by
      rw [endsWord, hword, Nat.sub_add_cancel (Nat.zero_lt_of_lt ha),
        isWordAt_eq_false_of_le (Nat.le_refl _)]
      rfl
    rw [wordEnds, getLast?_columnsFrom ha hend]
    exact Nat.sub_add_cancel (Nat.zero_lt_of_lt ha)

/-- It makes a difference whether words stand below if there are too few on the line, and blanks
behind them. -/
theorem changeStop_eq_iff (hn : 0 < n) (below below' : Bool) :
    t.changeStop a n below = t.changeStop a n below' ↔ ¬ (t.RunsOut a n ∧ below ≠ below') := by
  unfold changeStop RunsOut
  cases hword : t.isWordAt a with
  | false => simp
  | true =>
    have hblank := lastEnd_eq_length_iff hword
    unfold endOfWords
    cases hend : (t.wordEnds a)[n - 1]? with
    | some m =>
      have hlen : ¬ (t.wordEnds a).length < n := by
        have hlt := (List.getElem?_eq_some_iff.mp hend).1
        omega
      simp [hlen]
    | none =>
      have hlen : (t.wordEnds a).length < n := by
        have hle := List.getElem?_eq_none_iff.mp hend
        omega
      rw [← Bool.not_eq_true, ← hblank]
      cases below <;> cases below' <;> simp [hlen, eq_comm]

end Text

open Flat

namespace Buffer

variable {b : Buffer} {p q : Position} {k j m : Nat}

/-- The place of a position is that of a character of its line, or of its end if it is empty. -/
theorem place?_clamp (hline : p.line < b.lines.length) : (Flat.ofLines b.lines).place? p =
    some (b.rowPlace ⟨p.line, b.clampColumn p.line p.col⟩) := by
  rw [place?_ofLines hline, rowPlace, clampColumn, lineLength_eq hline]

/-- Behind the first column of a line the stops of the row are those of the line. -/
theorem stopsAt_inside (hk : k < b.lines.length) (hpos : 0 < m) (hm : m < b.lineLength k) :
    (Flat.ofLines b.lines).StopsAt (b.rowPlace ⟨k, m⟩) ↔ (b.line k).startsInside m = true := by
  obtain ⟨i, rfl⟩ : ∃ i, m = i + 1 := ⟨m - 1, by omega⟩
  rw [lineLength_eq hk] at hm
  have hstart := startsAt_ofLines hk (Nat.le_of_lt hm)
  have hempty := emptyAt_inner hk (Nat.lt_of_succ_lt hm)
  rw [line_eq hk, Text.startsInside, Bool.or_eq_true, Bool.and_eq_true, decide_eq_true_eq,
    decide_eq_true_eq, Nat.add_sub_cancel]
  refine or_congr hstart (hempty.trans ?_)
  rw [forall_prop_of_true hm]

theorem rowPlace_lt_of_col (k : Nat) (hjm : j < m) : b.rowPlace ⟨k, j⟩ < b.rowPlace ⟨k, m⟩ :=
  Nat.add_lt_add_left hjm _

/-- A character has its place in the row. -/
theorem rowPlace_lt_size (hk : k < b.lines.length) (hm : m < b.lineLength k) :
    b.rowPlace ⟨k, m⟩ < (Flat.ofLines b.lines).size :=
  Nat.lt_of_lt_of_le (rowPlace_lt_of_col k hm) (rowPlace_le ⟨hk, Nat.le_refl (b.lineLength k)⟩)

/-- Columns behind a column have their places behind its place. -/
theorem rowPlace_clamp_lt (hjm : j < m) : b.rowPlace ⟨k, b.clampColumn k j⟩ < b.rowPlace ⟨k, m⟩ :=
  rowPlace_lt_of_col k (Nat.lt_of_le_of_lt (Nat.min_le_left _ _) hjm)

/-- A search from column `j` of line `k` leads past no stop up to the place `i`. -/
def Passes (b : Buffer) (k j i : Nat) : Prop :=
  ∀ c, b.rowPlace ⟨k, b.clampColumn k j⟩ < c → c < i → ¬ (Flat.ofLines b.lines).StopsAt c

theorem Passes.startsInside_eq_false {i : Nat} (h : b.Passes k j i) (hk : k < b.lines.length)
    (hjm : j < m) (hm : m < b.lineLength k) (hi : b.rowPlace ⟨k, m⟩ < i) :
    (b.line k).startsInside m = false := by
  have hno := h _ (rowPlace_clamp_lt hjm) hi
  rwa [stopsAt_inside hk (Nat.zero_lt_of_lt hjm) hm, Bool.not_eq_true] at hno

/-- The search ends at the next word of the line. -/
theorem Passes.wordsAfter_eq_cons (h : b.Passes k j (b.rowPlace ⟨k, m⟩)) (hk : k < b.lines.length)
    (hjm : j < m) (hm : m < b.lineLength k)
    (hstop : (Flat.ofLines b.lines).StopsAt (b.rowPlace ⟨k, m⟩)) :
    (b.line k).wordsAfter j = m :: (b.line k).wordsAfter m := by
  refine Text.columnsFrom_cons hjm hm ?_ fun c hjc hc => ?_
  · exact (stopsAt_inside hk (Nat.zero_lt_of_lt hjm) hm).mp hstop
  · exact h.startsInside_eq_false hk hjc (Nat.lt_trans hc hm) (rowPlace_lt_of_col k hc)

/-- The search leads past the line. -/
theorem Passes.wordsAfter_eq_nil {i : Nat} (h : b.Passes k j i) (hk : k < b.lines.length)
    (hi : b.rowPlace ⟨k, b.lineLength k⟩ ≤ i) : (b.line k).wordsAfter j = [] :=
  Text.columnsFrom_nil fun _ hjc hc =>
    h.startsInside_eq_false hk hjc hc (Nat.lt_of_lt_of_le (rowPlace_lt_of_col k hc) hi)

/-- A word stands on a line below. -/
def hasWordBelow (b : Buffer) (k : Nat) : Bool :=
  (b.lines.drop (k + 1)).any fun l => l.any fun c => !ModalEditor.isBlank c

theorem hasWordBelow_iff :
    b.hasWordBelow k = true ↔ ∃ l j, k < l ∧ l < b.lines.length ∧ (b.line l).isWordAt j = true := by
  unfold hasWordBelow
  rw [List.any_eq_true]
  constructor
  · rintro ⟨t, ht, hword⟩
    obtain ⟨i, hi, rfl⟩ := List.mem_drop_iff_getElem.mp ht
    obtain ⟨j, hj⟩ := Text.exists_isWordAt_iff.mp hword
    have hl : k + 1 + i < b.lines.length := by omega
    exact ⟨k + 1 + i, j, by omega, hl, by rwa [line_eq hl]⟩
  · rintro ⟨l, j, hkl, hl, hword⟩
    obtain ⟨i, rfl⟩ : ∃ i, l = k + 1 + i := ⟨l - (k + 1), by omega⟩
    refine ⟨b.line (k + 1 + i), ?_, Text.exists_isWordAt_iff.mpr ⟨j, hword⟩⟩
    rw [line_eq hl, List.mem_drop_iff_getElem]
    exact ⟨i, by omega, rfl⟩

/-- Behind a column of a line, an end of a word on the line is one of the buffer. -/
theorem wordEnd_on_line (hk : k < b.lines.length) (hjm : j < m)
    (hend : (b.line k).endsWord m = true) :
    b.WordEnd ⟨k, m⟩ ∧ Position.Before ⟨k, j⟩ ⟨k, m⟩ :=
  ⟨⟨hk, hend⟩, Position.before_iff.mpr (.inr ⟨rfl, hjm⟩)⟩

/-- Before the next end of a word none is on the line. -/
theorem endsWord_eq_false_of_firstAfter (h : Position.FirstAfter b.WordEnd ⟨k, j⟩ q)
    (hk : k < b.lines.length) (hjm : j < m) (hbefore : Position.Before ⟨k, m⟩ q) :
    (b.line k).endsWord m = false := by
  rw [← Bool.not_eq_true]
  intro hend
  obtain ⟨hstop, hafter⟩ := wordEnd_on_line hk hjm hend
  exact h.first _ hstop hafter hbefore

/-- If no word ends behind a position, none stands on a line below. -/
theorem hasWordBelow_eq_false (hnone : ∀ r, b.WordEnd r → ¬ Position.Before ⟨k, j⟩ r) :
    b.hasWordBelow k = false := by
  rw [← Bool.not_eq_true, hasWordBelow_iff]
  rintro ⟨l, i, hkl, hl, hword⟩
  obtain ⟨m, -, hend, -⟩ := Text.exists_endsWord hword
  exact hnone ⟨l, m⟩ ⟨hl, hend⟩ (Position.before_iff.mpr (.inl hkl))

end Buffer

namespace Word

variable {b : Buffer} {p q : Position} {k j m n : Nat}

/-- On a line the motion forward leads to the next word, and from there the words of the line go on.
If there is no more, it leads to another line, to the end of this one or nowhere. -/
theorem forward_on_line (b : Buffer) (k j : Nat) :
    (∃ m, m < b.lineLength k ∧ j < m ∧ forward b ⟨k, j⟩ = ⟨k, m⟩ ∧
      (b.line k).wordsAfter j = m :: (b.line k).wordsAfter m) ∨
    (b.line k).wordsAfter j = [] ∧ (forward b ⟨k, j⟩ = ⟨k, j⟩ ∨ (forward b ⟨k, j⟩).line ≠ k ∨
      forward b ⟨k, j⟩ = ⟨k, b.lineLength k⟩) := by
  rcases Nat.lt_or_ge k b.lines.length with hk | hk
  case inr =>
    refine .inr ⟨Text.wordsAfter_of_le ?_, .inl ?_⟩
    · simp [Buffer.line, List.getD_eq_getElem?_getD, hk]
    · unfold forward
      dsimp only
      rw [place?_eq_none hk]
  have hne : b.lines ≠ [] := List.ne_nil_of_length_pos (Nat.zero_lt_of_lt hk)
  have hclamp : b.clampColumn k j ≤ b.lineLength k - 1 := Nat.min_le_right _ _
  have hfrom : b.InText ⟨k, b.clampColumn k j⟩ := ⟨hk, by dsimp only; omega⟩
  rw [forward_eq (Buffer.place?_clamp (p := ⟨k, j⟩) hk)]
  dsimp only
  by_cases hend : (ofLines b.lines).size ≤ b.rowPlace ⟨k, b.clampColumn k j⟩ + 1
  · have hpasses : b.Passes k j (ofLines b.lines).size := fun c hc hsize => by omega
    have hwithin := Buffer.rowPlace_le (b := b) (p := ⟨k, b.lineLength k⟩) ⟨hk, Nat.le_refl _⟩
    exact .inr ⟨hpasses.wordsAfter_eq_nil hk hwithin, .inl (if_pos (.inl hend))⟩
  · simp only [hend, false_or]
    obtain ⟨hbehind, hwithin, hbetween, hstops⟩ :=
      finds_nextStop (f := ofLines b.lines) (i := b.rowPlace ⟨k, b.clampColumn k j⟩) (by omega)
    obtain ⟨⟨l, m⟩, hr, hplace⟩ := Buffer.exists_rowPlace hne hwithin
    rw [← hplace] at hbehind hwithin hbetween hstops ⊢
    rw [Buffer.position_rowPlace hr]
    have hpasses : b.Passes k j (b.rowPlace ⟨l, m⟩) := hbetween
    have hafter := Position.before_iff.mp ((Buffer.rowPlace_lt_iff hfrom hr).mp hbehind)
    dsimp only at hafter
    by_cases hin : l = k ∧ m < b.lineLength k
    · obtain ⟨rfl, hm⟩ := hin
      have hjm : j < m := by
        have hcol := (hafter.resolve_left (Nat.lt_irrefl _)).2
        unfold Buffer.clampColumn at hcol
        omega
      have hlt := Buffer.rowPlace_lt_size hk hm
      refine .inl ⟨m, hm, hjm, if_neg fun hstay => absurd hstay.1 (Nat.not_le_of_lt hlt), ?_⟩
      exact hpasses.wordsAfter_eq_cons hk hjm hm (hstops hlt)
    · have hfar : k < l ∨ k = l ∧ b.lineLength k ≤ m :=
        hafter.imp_right fun h => ⟨h.1, Nat.le_of_not_lt fun hm => hin ⟨h.1.symm, hm⟩⟩
      have hpast : b.rowPlace ⟨k, b.lineLength k⟩ ≤ b.rowPlace ⟨l, m⟩ := by
        rcases hfar with hlt | ⟨rfl, hle⟩
        · exact Nat.le_of_lt (Buffer.rowPlace_lt_of_line ⟨hk, Nat.le_refl _⟩ hlt)
        · exact Nat.add_le_add_left hle _
      refine .inr ⟨hpasses.wordsAfter_eq_nil hk hpast, ?_⟩
      split
      · exact .inl rfl
      · rcases hfar with hlt | ⟨rfl, hle⟩
        · exact .inr (.inl (Nat.ne_of_gt hlt))
        · exact .inr (.inr (congrArg _ (Nat.le_antisymm hr.2 hle)))

/-- On a line the motion to the end of a word leads to the next end. If there is no more on the
line, it leads to a line below where a word stands, and otherwise nowhere. -/
theorem toEnd_on_line (hk : k < b.lines.length) (hj : j < b.lineLength k) :
    (∃ m, m < b.lineLength k ∧ j < m ∧ toEnd b ⟨k, j⟩ = ⟨k, m⟩ ∧
      (b.line k).wordEnds (j + 1) = m :: (b.line k).wordEnds (m + 1)) ∨
    (b.line k).wordEnds (j + 1) = [] ∧
      if b.hasWordBelow k then k < (toEnd b ⟨k, j⟩).line ∧ b.OnText (toEnd b ⟨k, j⟩)
      else toEnd b ⟨k, j⟩ = ⟨k, j⟩ := by
  have hleads := toEnd_leadsNext (b := b) (p := ⟨k, j⟩) ⟨hk, .inr hj⟩
  generalize toEnd b ⟨k, j⟩ = q at hleads ⊢
  rcases hleads with hfirst | ⟨hnone, rfl⟩
  · obtain ⟨l, m⟩ := q
    have hword : (b.line l).isWordAt m = true := (Bool.and_eq_true_iff.mp hfirst.stops.2).1
    have hafter := Position.before_iff.mp hfirst.after
    dsimp only at hafter
    rcases hafter with hlt | ⟨rfl, hjm⟩
    · have hbelow : b.hasWordBelow k = true :=
        Buffer.hasWordBelow_iff.mpr ⟨l, m, hlt, hfirst.stops.1, hword⟩
      refine .inr ⟨Text.columnsFrom_nil fun i hji _ => ?_, ?_⟩
      · exact Buffer.endsWord_eq_false_of_firstAfter hfirst hk hji
          (Position.before_iff.mpr (.inl hlt))
      · rw [hbelow]
        exact ⟨hlt, hfirst.stops.onText⟩
    · have hm : m < b.lineLength k := Text.lt_length_of_isWordAt hword
      refine .inl ⟨m, hm, hjm, rfl, Text.columnsFrom_cons hjm hm hfirst.stops.2 fun i hji him => ?_⟩
      exact Buffer.endsWord_eq_false_of_firstAfter hfirst hk hji
        (Position.before_iff.mpr (.inr ⟨rfl, him⟩))
  · refine .inr ⟨Text.columnsFrom_nil fun i hji _ => ?_, ?_⟩
    · rw [← Bool.not_eq_true]
      intro hend
      obtain ⟨hstop, hafter⟩ := Buffer.wordEnd_on_line hk hji hend
      exact hnone _ hstop hafter
    · rw [Buffer.hasWordBelow_eq_false hnone]
      rfl

/-- A motion to the end of a word does not lead back to a line above. -/
theorem go_toEnd_below (hq : b.OnText q) (hkq : k < q.line) : k < (go toEnd b q n).line := by
  fun_induction go toEnd b q n with
  | case1 => exact hkq
  | case2 => exact hkq
  | case3 p n q' hne ih =>
    rcases toEnd_leadsNext hq with ⟨hstop, hafter, -⟩ | ⟨-, hstay⟩
    · rw [Position.before_iff] at hafter
      have hle : p.line ≤ (toEnd b p).line := by omega
      exact ih hstop.onText (Nat.lt_of_lt_of_le hkq hle)
    · exact absurd hstay hne

/-- Motions from the end of a word lead to the ends of words on the line, one after the other, and
then to another line or nowhere. -/
theorem go_toEnd_on_line (hk : k < b.lines.length) (hj : j < b.lineLength k)
    (hends : (b.line k).wordEnds a = j :: (b.line k).wordEnds (j + 1)) :
    (if (go toEnd b ⟨k, j⟩ n).line = k then (go toEnd b ⟨k, j⟩ n).col + 1 else b.lineLength k) =
      (b.line k).endOfWords a (n + 1) (b.hasWordBelow k) := by
  induction n generalizing j a with
  | zero =>
    rw [Text.endOfWords, hends]
    exact if_pos rfl
  | succ n ih =>
    unfold go
    dsimp only
    rcases toEnd_on_line hk hj with ⟨m, hm, hjm, hnext, hmore⟩ | ⟨hnone, hnext⟩
    · have hrest : (b.line k).endOfWords a (n + 2) (b.hasWordBelow k) =
          (b.line k).endOfWords (j + 1) (n + 1) (b.hasWordBelow k) := by
        unfold Text.endOfWords
        rw [hends, hmore, List.getLast?_cons_cons]
        rfl
      have hne : (⟨k, m⟩ : Position) ≠ ⟨k, j⟩ := fun heq =>
        absurd (congrArg Position.col heq) (Nat.ne_of_gt hjm)
      rw [hnext, if_neg hne, hrest]
      exact ih hm hmore
    · have hrest : (b.line k).endOfWords a (n + 2) (b.hasWordBelow k) =
          if b.hasWordBelow k then b.lineLength k else j + 1 := by
        rw [Text.endOfWords, hends, hnone]
        rfl
      rw [hrest]
      cases hbelow : b.hasWordBelow k with
      | true =>
        rw [hbelow] at hnext
        obtain ⟨hlt, htext⟩ := hnext
        have hne : toEnd b ⟨k, j⟩ ≠ ⟨k, j⟩ := fun heq =>
          absurd (congrArg Position.line heq) (Nat.ne_of_gt hlt)
        rw [if_neg hne]
        exact if_neg (Nat.ne_of_gt (go_toEnd_below htext hlt))
      | false =>
        rw [hbelow] at hnext
        have hstay : toEnd b ⟨k, j⟩ = ⟨k, j⟩ := hnext
        rw [if_pos hstay]
        exact if_pos rfl

end Word

namespace Buffer

open Word

variable {b : Buffer} {k a j n : Nat}

/-- A deletion of words reaches to where a word of the line starts, or to the end of the line. -/
theorem wordSpanEnd_eq (b : Buffer) (k a j n : Nat) :
    b.wordSpanEnd ⟨k, a⟩ n ⟨k, j⟩ =
      (j :: (b.line k).wordsAfter j)[n]?.getD (b.lineLength k) := by
  induction n generalizing j with
  | zero => rfl
  | succ n ih =>
    rw [wordSpanEnd, List.getElem?_cons_succ]
    dsimp only
    rcases forward_on_line b k j with ⟨m, hm, hjm, hnext, hmore⟩ | ⟨hnone, hnext⟩
    · have hgoes : ¬ (k ≠ k ∨ (⟨k, m⟩ : Position) = ⟨k, j⟩) := by
        simpa using Nat.ne_of_gt hjm
      rw [hnext, hmore, ← ih]
      exact if_neg (by simpa using hgoes)
    · rw [hnone]
      rcases hnext with hstay | hleaves | hend
      · exact if_pos (by simp [hstay])
      · exact if_pos (by simp [hleaves])
      · have hmore : (b.line k).wordsAfter (b.lineLength k) = [] :=
          Text.wordsAfter_of_le (Nat.le_succ _)
        rw [hend, ih, hmore]
        cases n <;> exact ite_self _

/-- A change of words from a word on reaches to the end of a word. -/
theorem wordEndsFrom_on_line (hword : (b.line k).isWordAt a = true) (hn : 0 < n) :
    let stop := b.wordEndsFrom ⟨k, a⟩ (if endsWord (b.line k) a then n - 1 else n)
    (if stop.line = k then stop.col + 1 else b.lineLength k) =
      (b.line k).endOfWords a n (b.hasWordBelow k) := by
  obtain ⟨n, rfl⟩ : ∃ m, n = m + 1 := ⟨n - 1, by omega⟩
  have ha : a < b.lineLength k := Text.lt_length_of_isWordAt hword
  have hk : k < b.lines.length := by
    refine Nat.lt_of_not_le fun hle => ?_
    simp [lineLength, line, List.getD_eq_getElem?_getD, hle] at ha
  have hends : endsWord (b.line k) a = (b.line k).endsWord a := by
    rw [Text.endsWord, hword, Bool.true_and, endsWord, Text.isWordAt]
    cases (b.line k)[a + 1]? <;> simp
  unfold wordEndsFrom
  rw [hends]
  cases hend : (b.line k).endsWord a with
  | true => exact go_toEnd_on_line hk ha (Text.columnsFrom_cons (Nat.le_refl a) ha hend (by omega))
  | false =>
    have hskip : (b.line k).wordEnds a = (b.line k).wordEnds (a + 1) :=
      Text.columnsFrom_of_not_hit ha hend
    rcases toEnd_on_line hk ha with ⟨m, hm, ham, hnext, hmore⟩ | ⟨hnone, -⟩
    · have hne : (⟨k, m⟩ : Position) ≠ ⟨k, a⟩ := fun heq =>
        absurd (congrArg Position.col heq) (Nat.ne_of_gt ham)
      simp only [Bool.false_eq_true, if_false, go, hnext, hne]
      exact go_toEnd_on_line hk hm (hskip.trans hmore)
    · obtain ⟨m, ham, hm, -⟩ := Text.exists_endsWord hword
      have hlt := Text.lt_length_of_isWordAt (Bool.and_eq_true_iff.mp hm).1
      have hmem : m ∈ (b.line k).wordEnds a := Text.mem_columnsFrom.mpr ⟨ham, hlt, hm⟩
      rw [hskip, hnone] at hmem
      cases hmem

/-- A change of words reaches as far as the text of the line says, and whether a word stands below.
-/
theorem changeSpanEnd_eq (ha : a ≤ b.lineLength k) (hn : 0 < n) :
    b.changeSpanEnd ⟨k, a⟩ n = (b.line k).changeStop a n (b.hasWordBelow k) := by
  unfold changeSpanEnd Text.changeStop
  dsimp only
  cases hchar : (b.line k)[a]? with
  | none =>
    have hle : (b.line k).length ≤ a := List.getElem?_eq_none_iff.mp hchar
    rw [Text.isWordAt_eq_false_of_le hle, Text.wordsAfter_of_le (Nat.le_succ_of_le hle)]
    exact Nat.le_antisymm ha hle
  | some c =>
    have hword : (b.line k).isWordAt a = !ModalEditor.isBlank c := by
      rw [Text.isWordAt, hchar]
      rfl
    dsimp only
    cases hblank : ModalEditor.isBlank c with
    | true =>
      rw [hblank] at hword
      rw [hword, Nat.max_eq_left hn, wordSpanEnd_eq]
      obtain ⟨n, rfl⟩ : ∃ m, n = m + 1 := ⟨n - 1, by omega⟩
      rfl
    | false =>
      rw [hblank] at hword
      rw [hword]
      exact wordEndsFrom_on_line hword hn

end Buffer
end ModalEditor
