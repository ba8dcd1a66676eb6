import ModalEditor.Proofs.Word.Stops

/-!
# Where word motions stop

Positions in a buffer come in the order of their places in the row (`Buffer.rowPlace_lt_iff`), so
what the searches find there is the next or the last stop in the buffer. From a position on the
text, in a buffer without line breaks in its lines, the motion forward leads to the next stop and
stays where it is if there is none, except that it does not leave the empty line in front of an
empty last line (`Word.forward_to_next_stop`). The motions backward and to the end of a word find
their stops from everywhere (`Word.backward_and_toEnd_stops`).
-/

namespace ModalEditor

/-! ## The order of positions -/

namespace Position

variable {p q : Position}

/-- `p` comes before `q`. -/
def Before (p q : Position) : Prop := p.compare q = .lt

instance (p q : Position) : Decidable (p.Before q) := inferInstanceAs (Decidable (_ = _))

/-- Lines come first, then columns. -/
theorem before_iff : p.Before q ↔ p.line < q.line ∨ p.line = q.line ∧ p.col < q.col := by
  unfold Before compare
  rw [Ordering.then_eq_lt, Nat.compare_eq_lt, Nat.compare_eq_eq, Nat.compare_eq_lt]

/-- `q` is the first stop after `p`. -/
structure FirstAfter (stop : Position → Prop) (p q : Position) : Prop where
  /-- It is a stop. -/
  stops : stop q
  /-- It comes after `p`. -/
  after : p.Before q
  /-- No other one comes before it. -/
  first : ∀ r, stop r → p.Before r → ¬ r.Before q

/-- `q` is the last stop before `p`. -/
structure LastBefore (stop : Position → Prop) (p q : Position) : Prop where
  /-- It is a stop. -/
  stops : stop q
  /-- It comes before `p`. -/
  before : q.Before p
  /-- No other one comes after it. -/
  last : ∀ r, stop r → r.Before p → ¬ q.Before r

/-- `q` is the first stop after `p`, or `p` itself if there is none. -/
def LeadsNext (stop : Position → Prop) (p q : Position) : Prop :=
  FirstAfter stop p q ∨ (∀ r, stop r → ¬ p.Before r) ∧ q = p

/-- `q` is the last stop before `p`, or the start of the buffer if there is none. -/
def LeadsBack (stop : Position → Prop) (p q : Position) : Prop :=
  LastBefore stop p q ∨ (∀ r, stop r → ¬ r.Before p) ∧ q = ⟨0, 0⟩

end Position

open Flat

namespace Buffer

variable {b : Buffer} {p q : Position} {i k : Nat}

/-! ## Positions and places -/

/-- The position is in a line or at its end. -/
def InText (b : Buffer) (p : Position) : Prop :=
  p.line < b.lines.length ∧ p.col ≤ b.lineLength p.line

/-- The place of a position in the row. -/
def rowPlace (b : Buffer) (p : Position) : Nat := lineStart b.lines p.line + p.col

theorem OnText.inText (h : b.OnText p) : b.InText p := ⟨h.1, by have := h.2; omega⟩

theorem InText.col_le (h : b.InText p) (hline : p.line < b.lines.length) :
    p.col ≤ b.lines[p.line].length := lineLength_eq hline ▸ h.2

theorem position_rowPlace (h : b.InText p) : (Flat.ofLines b.lines).position (b.rowPlace p) = p :=
  position_ofLines h.1 (h.col_le h.1)

theorem rowPlace_inj (hp : b.InText p) (hq : b.InText q) (h : b.rowPlace p = b.rowPlace q) :
    p = q := by
  rw [← position_rowPlace hp, ← position_rowPlace hq, h]

/-- A line ends before the next one starts. -/
theorem rowPlace_lt_of_line (hp : b.InText p) (hlt : p.line < q.line) :
    b.rowPlace p < b.rowPlace q := by
  have hnext := lineStart_succ hp.1
  have hmono := lineStart_mono b.lines (show p.line + 1 ≤ q.line from hlt)
  have hcol := hp.col_le hp.1
  unfold rowPlace
  omega

/-- Positions come in the order of their places. -/
theorem rowPlace_lt_iff (hp : b.InText p) (hq : b.InText q) :
    b.rowPlace p < b.rowPlace q ↔ p.Before q := by
  rw [Position.before_iff]
  rcases Nat.lt_trichotomy p.line q.line with hlt | heq | hgt
  · exact iff_of_true (rowPlace_lt_of_line hp hlt) (.inl hlt)
  · rw [rowPlace, rowPlace, heq]
    omega
  · have hplace := rowPlace_lt_of_line hq hgt
    omega

theorem exists_rowPlace (hne : b.lines ≠ []) (hi : i ≤ (Flat.ofLines b.lines).size) :
    ∃ p, b.InText p ∧ b.rowPlace p = i := by
  rw [size_ofLines] at hi
  obtain ⟨k, j, hk, hj, rfl⟩ := exists_lineStart hne hi
  exact ⟨⟨k, j⟩, ⟨hk, by rwa [lineLength_eq hk]⟩, rfl⟩

/-- The row ends at the end of the last line. -/
theorem rowPlace_end (hne : b.lines ≠ []) :
    b.rowPlace ⟨b.lastLine, b.lineLength b.lastLine⟩ = (Flat.ofLines b.lines).size := by
  have hlast : b.lastLine < b.lines.length := Nat.sub_one_lt (by simpa using hne)
  have hrow := length_join hne
  have hnext := lineStart_succ hlast
  have hcount : b.lastLine + 1 = b.lines.length :=
    Nat.sub_add_cancel (List.length_pos_iff.mpr hne)
  rw [hcount] at hnext
  rw [rowPlace, lineLength_eq hlast, size_ofLines]
  dsimp only
  omega

theorem inText_end (hne : b.lines ≠ []) : b.InText ⟨b.lastLine, b.lineLength b.lastLine⟩ :=
  ⟨Nat.sub_one_lt (by simpa using hne), Nat.le_refl _⟩

theorem rowPlace_le (h : b.InText p) : b.rowPlace p ≤ (Flat.ofLines b.lines).size := by
  have hne : b.lines ≠ [] := List.ne_nil_of_length_pos (Nat.zero_lt_of_lt h.1)
  rw [← rowPlace_end hne]
  refine Nat.le_of_not_lt fun hlt => ?_
  rw [rowPlace_lt_iff (inText_end hne) h, Position.before_iff] at hlt
  have hline := h.1
  have hcol := h.2
  unfold lastLine at hlt
  rcases hlt with hlt | ⟨heq, hlt⟩
  · dsimp only at hlt
    omega
  · dsimp only at heq hlt
    rw [heq] at hlt
    omega

theorem place?_eq (h : b.OnText p) : (Flat.ofLines b.lines).place? p = some (b.rowPlace p) := by
  have hcol := h.2
  rw [lineLength_eq h.1] at hcol
  rw [place?_ofLines h.1, rowPlace, Nat.min_eq_left (by omega)]

/-! ## Stops of a buffer -/

/-- A word or an empty line starts at the position. -/
def WordStart (b : Buffer) (p : Position) : Prop :=
  p.line < b.lines.length ∧
    ((b.line p.line).startsWord p.col = true ∨ b.line p.line = [] ∧ p.col = 0)

theorem WordStart.onText (h : b.WordStart p) : b.OnText p := by
  obtain ⟨hline, hword | ⟨-, hcol⟩⟩ := h
  · exact ⟨hline, .inr (Text.lt_length_of_isWordAt (Bool.and_eq_true_iff.mp hword).1)⟩
  · exact ⟨hline, .inl hcol⟩

/-- A word ends at the position. -/
def WordEnd (b : Buffer) (p : Position) : Prop :=
  p.line < b.lines.length ∧ (b.line p.line).endsWord p.col = true

theorem WordEnd.onText (h : b.WordEnd p) : b.OnText p :=
  ⟨h.1, .inr (Text.lt_length_of_isWordAt (Bool.and_eq_true_iff.mp h.2).1)⟩

/-- The hits of a search of the row are the places of stops. -/
structure Places (b : Buffer) (stop : Position → Prop) (hit : Nat → Prop) : Prop where
  /-- Stops are in the text. -/
  inText : ∀ q, stop q → b.InText q
  /-- The search hits their places, and no others. -/
  iff : ∀ q, b.InText q → (hit (b.rowPlace q) ↔ stop q)

theorem places_wordStart (hu : ModalEditor.Unbroken b.lines) :
    b.Places b.WordStart (Flat.ofLines b.lines).StopsAt where
  inText := fun _ hq => hq.onText.inText
  iff := by
    intro q hq
    have hline := line_eq hq.1
    rw [rowPlace, Flat.stopsAt_ofLines hu hq.1 (hq.col_le hq.1), WordStart, hline,
      and_iff_right hq.1]
    refine or_congr_right (and_iff_left_of_imp fun hempty => ?_).symm
    have hcol := hq.col_le hq.1
    rw [hempty] at hcol
    exact Nat.eq_zero_of_le_zero hcol

theorem places_wordEnd : b.Places b.WordEnd (Flat.ofLines b.lines).EndsAt where
  inText := fun _ hq => hq.onText.inText
  iff := by
    intro q hq
    rw [rowPlace, Flat.endsAt_ofLines hq.1 (hq.col_le hq.1), WordEnd, line_eq hq.1,
      and_iff_right hq.1]

section Places

variable {stop : Position → Prop} {hit : Nat → Prop}

/-- The first hit behind the place of a position is the first stop after it. -/
theorem Places.firstAfter (h : b.Places stop hit) (hp : b.InText p) (hq : b.InText q)
    (hlt : b.rowPlace p < b.rowPlace q) (hhit : hit (b.rowPlace q))
    (hfirst : ∀ m, b.rowPlace p < m → m < b.rowPlace q → ¬ hit m) : p.FirstAfter stop q := by
  refine ⟨(h.iff q hq).mp hhit, (rowPlace_lt_iff hp hq).mp hlt, fun r hr hafter hbefore => ?_⟩
  have hrtext := h.inText r hr
  refine hfirst (b.rowPlace r) ?_ ?_ ((h.iff r hrtext).mpr hr)
  · exact (rowPlace_lt_iff hp hrtext).mpr hafter
  · exact (rowPlace_lt_iff hrtext hq).mpr hbefore

/-- Without a hit behind its place no stop comes after a position. -/
theorem Places.none_after (h : b.Places stop hit) (hp : b.InText p)
    (hnone : ∀ m, b.rowPlace p < m → m ≤ (Flat.ofLines b.lines).size → ¬ hit m) :
    ∀ r, stop r → ¬ p.Before r := by
  intro r hr hafter
  have hrtext := h.inText r hr
  exact hnone _ ((rowPlace_lt_iff hp hrtext).mpr hafter) (rowPlace_le hrtext)
    ((h.iff r hrtext).mpr hr)

/-- The last hit before the place of a position is the last stop before it. -/
theorem Places.lastBefore (h : b.Places stop hit) (hp : b.InText p) (hq : b.InText q)
    (hlt : b.rowPlace q < b.rowPlace p) (hhit : hit (b.rowPlace q))
    (hlast : ∀ m, b.rowPlace q < m → m < b.rowPlace p → ¬ hit m) : p.LastBefore stop q := by
  refine ⟨(h.iff q hq).mp hhit, (rowPlace_lt_iff hq hp).mp hlt, fun r hr hbefore hafter => ?_⟩
  have hrtext := h.inText r hr
  refine hlast (b.rowPlace r) ?_ ?_ ((h.iff r hrtext).mpr hr)
  · exact (rowPlace_lt_iff hq hrtext).mpr hafter
  · exact (rowPlace_lt_iff hrtext hp).mpr hbefore

/-- Without a hit before its place no stop comes before a position. -/
theorem Places.none_before (h : b.Places stop hit) (hp : b.InText p)
    (hnone : ∀ m, m < b.rowPlace p → ¬ hit m) : ∀ r, stop r → ¬ r.Before p := by
  intro r hr hbefore
  have hrtext := h.inText r hr
  exact hnone _ ((rowPlace_lt_iff hrtext hp).mpr hbefore) ((h.iff r hrtext).mpr hr)

end Places

/-! ## The end of the row -/

/-- At the end of the row there is a stop if the last line is empty. -/
theorem stopsAt_size_iff (hu : ModalEditor.Unbroken b.lines) (hne : b.lines ≠ []) :
    (Flat.ofLines b.lines).StopsAt (Flat.ofLines b.lines).size ↔ b.line b.lastLine = [] := by
  have hend := inText_end hne
  have hword : (b.line b.lastLine).startsWord (b.lineLength b.lastLine) = false :=
    Text.startsWord_eq_false_of_le (Nat.le_refl _)
  rw [← rowPlace_end hne, (places_wordStart hu).iff _ hend, WordStart, and_iff_right hend.1, hword,
    lineLength, List.length_eq_zero_iff, and_self]
  exact or_iff_right Bool.false_ne_true

/-- The motion forward looks for an empty last line only if it is not the only line. -/
theorem endsEmpty_iff (hne : b.lines ≠ []) (hpos : 0 < (Flat.ofLines b.lines).size) :
    (Flat.ofLines b.lines).endsEmpty = true ↔ b.line b.lastLine = [] := by
  have hlast : b.lastLine < b.lines.length := (inText_end hne).1
  have hlen : (Flat.ofLines b.lines).lineLength (b.lines.length - 1) = b.lineLength b.lastLine := by
    rw [lineLength_eq hlast]
    exact lineLength_ofLines hlast
  rw [endsEmpty, size_starts, Bool.and_eq_true, decide_eq_true_eq, decide_eq_true_eq, hlen,
    lineLength, List.length_eq_zero_iff]
  refine and_iff_right_of_imp fun hempty => Nat.lt_of_not_le fun hone => ?_
  have hsize := rowPlace_end hne
  have hfirst : b.lastLine = 0 := Nat.sub_eq_zero_of_le hone
  rw [rowPlace, lineLength, hempty, hfirst] at hsize
  have hzero : lineStart b.lines 0 = 0 := by simp [lineStart]
  simp only [hzero, List.length_nil] at hsize
  omega

/-- The position is in an empty line and the line below, the last one, is empty too. -/
def BeforeLastBlank (b : Buffer) (p : Position) : Prop :=
  p.line + 2 = b.lines.length ∧ b.line p.line = [] ∧ b.line (p.line + 1) = []

instance (b : Buffer) (p : Position) : Decidable (b.BeforeLastBlank p) :=
  inferInstanceAs (Decidable (_ ∧ _ ∧ _))

/-- If the last line is empty, it starts at the end of the row. -/
theorem size_of_last_empty (hne : b.lines ≠ []) (hempty : b.line b.lastLine = []) :
    (Flat.ofLines b.lines).size = lineStart b.lines b.lastLine := by
  rw [← rowPlace_end hne, rowPlace, lineLength, hempty]
  rfl

theorem BeforeLastBlank.lastLine_eq (h : b.BeforeLastBlank p) : b.lastLine = p.line + 1 := by
  have hcount := h.1
  unfold lastLine
  omega

/-- The break between two empty lines at the end is the last place of the row, with a stop behind.
-/
theorem beforeLastBlank_iff (hu : ModalEditor.Unbroken b.lines) (hp : b.OnText p) :
    b.BeforeLastBlank p ↔ b.rowPlace p + 1 = (Flat.ofLines b.lines).size ∧
      (Flat.ofLines b.lines).StopsAt (Flat.ofLines b.lines).size := by
  obtain ⟨hline, hcol⟩ := hp
  have hne : b.lines ≠ [] := List.ne_nil_of_length_pos (Nat.zero_lt_of_lt hline)
  have hnext := lineStart_succ hline
  rw [← lineLength_eq hline] at hnext
  rw [stopsAt_size_iff hu hne]
  constructor
  · intro h
    have hlen : b.lineLength p.line = 0 := List.length_eq_zero_iff.mpr h.2.1
    have hbelow : b.line b.lastLine = [] := h.lastLine_eq ▸ h.2.2
    rw [← h.lastLine_eq] at hnext
    rw [size_of_last_empty hne hbelow, rowPlace]
    exact ⟨by omega, hbelow⟩
  · rintro ⟨hplace, hempty⟩
    rw [size_of_last_empty hne hempty, rowPlace] at hplace
    have hle : p.line + 1 ≤ b.lastLine := by
      refine Nat.lt_of_le_of_ne (Nat.le_sub_one_of_lt hline) fun heq => ?_
      rw [← heq] at hplace
      omega
    -- the line below starts behind this one, but not behind the last one
    have hmono := lineStart_mono b.lines hle
    have hbelow : p.line + 1 < b.lines.length := Nat.lt_of_le_of_lt hle (inText_end hne).1
    have hsame : (⟨p.line + 1, 0⟩ : Position) = ⟨b.lastLine, 0⟩ := by
      refine rowPlace_inj ⟨hbelow, Nat.zero_le _⟩ ⟨(inText_end hne).1, Nat.zero_le _⟩ ?_
      dsimp only [rowPlace]
      omega
    have hlast : p.line + 1 = b.lastLine := congrArg Position.line hsame
    refine ⟨?_, List.length_eq_zero_iff.mp (?_ : b.lineLength p.line = 0), hlast ▸ hempty⟩
    · unfold lastLine at hlast
      omega
    · omega

end Buffer

/-! ## The motions -/

namespace Word

open Flat

variable {b : Buffer} {p : Position}

/-- The motion forward, from a place of the row. -/
theorem forward_eq {i : Nat} (hplace : (ofLines b.lines).place? p = some i) : forward b p =
    if (ofLines b.lines).size ≤ i + 1 ∨ (ofLines b.lines).size ≤ (ofLines b.lines).nextStop i ∧
        (ofLines b.lines).endsEmpty = false
    then p else (ofLines b.lines).position ((ofLines b.lines).nextStop i) := by
  unfold forward
  dsimp only
  rw [hplace]
  dsimp only
  by_cases hend : (ofLines b.lines).size ≤ i + 1
  · rw [if_pos hend, if_pos (.inl hend)]
  · rw [if_neg hend]
    simp [hend, nextStop]

/-- The search for the next word finds the next stop, or there is none. -/
theorem leadsNext_nextStop (hu : Unbroken b.lines) (hp : b.InText p)
    (hend : b.rowPlace p + 1 < (ofLines b.lines).size) :
    p.LeadsNext b.WordStart (if (ofLines b.lines).size ≤ (ofLines b.lines).nextStop (b.rowPlace p) ∧
        (ofLines b.lines).endsEmpty = false
      then p else (ofLines b.lines).position ((ofLines b.lines).nextStop (b.rowPlace p))) := by
  have hne : b.lines ≠ [] := List.ne_nil_of_length_pos (Nat.zero_lt_of_lt hp.1)
  have hplaces := Buffer.places_wordStart hu
  obtain ⟨hbehind, hwithin, hbetween, hstops⟩ :=
    finds_nextStop (f := ofLines b.lines) (Nat.lt_of_succ_lt hend)
  have hlastEmpty := Buffer.endsEmpty_iff hne (Nat.zero_lt_of_lt hend)
  rw [← Buffer.stopsAt_size_iff hu hne] at hlastEmpty
  obtain ⟨q, hq, hqplace⟩ := Buffer.exists_rowPlace hne hwithin
  rw [← hqplace] at hbehind hwithin hbetween hstops ⊢
  rw [Buffer.position_rowPlace hq]
  split
  · rename_i hstay
    refine .inr ⟨hplaces.none_after hp fun m hlt hm hstop => ?_, rfl⟩
    rcases Nat.eq_or_lt_of_le hm with rfl | hm
    · rw [hlastEmpty.mpr hstop] at hstay
      cases hstay.2
    · exact hbetween m hlt (Nat.lt_of_lt_of_le hm hstay.1) hstop
  · rename_i hgo
    refine .inl (hplaces.firstAfter hp hq hbehind ?_ hbetween)
    rcases Nat.eq_or_lt_of_le hwithin with hsize | hlt
    · rw [hsize]
      refine hlastEmpty.mp ?_
      simpa [hsize] using hgo
    · exact hstops hlt

theorem forward_onText (hu : Unbroken b.lines) (hp : b.OnText p) : b.OnText (forward b p) := by
  rw [forward_eq (Buffer.place?_eq hp)]
  by_cases hend : (ofLines b.lines).size ≤ b.rowPlace p + 1
  · rwa [if_pos (.inl hend)]
  · simp only [hend, false_or]
    rcases leadsNext_nextStop hu hp.inText (Nat.lt_of_not_le hend) with hfirst | ⟨-, hstay⟩
    · exact hfirst.stops.onText
    · rwa [hstay]

/-- From a position on the text the motion forward leads to the next start of a word or empty line,
and stays where it is if there is none. From an empty line it does not lead to an empty last line
below. -/
theorem forward_to_next_stop (hu : Unbroken b.lines) (hp : b.OnText p) :
    (¬ b.BeforeLastBlank p → p.LeadsNext b.WordStart (forward b p)) ∧
      (b.BeforeLastBlank p →
        forward b p = p ∧ p.FirstAfter b.WordStart ⟨p.line + 1, 0⟩) := by
  have hplaces := Buffer.places_wordStart hu
  have hiff := Buffer.beforeLastBlank_iff hu hp
  rw [forward_eq (Buffer.place?_eq hp)]
  refine ⟨fun hno => ?_, fun h => ?_⟩
  · by_cases hend : (ofLines b.lines).size ≤ b.rowPlace p + 1
    · rw [if_pos (.inl hend)]
      refine .inr ⟨hplaces.none_after hp.inText fun m hlt hm hstop => ?_, rfl⟩
      obtain rfl : m = (ofLines b.lines).size := by omega
      exact hno (hiff.mpr ⟨by omega, hstop⟩)
    · simp only [hend, false_or]
      exact leadsNext_nextStop hu hp.inText (Nat.lt_of_not_le hend)
  · obtain ⟨hsize, hstop⟩ := hiff.mp h
    have hne : b.lines ≠ [] := List.ne_nil_of_length_pos (Nat.zero_lt_of_lt hp.1)
    have hbelow : b.rowPlace ⟨p.line + 1, 0⟩ = (ofLines b.lines).size := by
      rw [Buffer.size_of_last_empty hne (h.lastLine_eq ▸ h.2.2), h.lastLine_eq]
      rfl
    have hq : b.InText ⟨p.line + 1, 0⟩ := ⟨Nat.lt_of_succ_le (Nat.le_of_eq h.1), Nat.zero_le _⟩
    rw [if_pos (.inl (Nat.le_of_eq hsize.symm))]
    refine ⟨rfl, hplaces.firstAfter hp.inText hq ?_ (hbelow ▸ hstop) fun m hlt hm => ?_⟩
    · omega
    · omega

/-- From the end of the first of five lines the motion leads to an empty line, and from the empty
line in front of an empty last one nowhere. -/
theorem forward_to_next_stop_of_five_lines :
    let b : Buffer := { lines := [['a', ' '], [], [' ', 'b'], [], []] }
    (b.OnText ⟨0, 1⟩ ∧ forward b ⟨0, 1⟩ = ⟨1, 0⟩ ∧
      Position.LeadsNext b.WordStart ⟨0, 1⟩ ⟨1, 0⟩) ∧
    (b.OnText ⟨3, 0⟩ ∧ forward b ⟨3, 0⟩ = ⟨3, 0⟩ ∧
      Position.FirstAfter b.WordStart ⟨3, 0⟩ ⟨4, 0⟩) := by
  intro b
  have hu : Unbroken b.lines := by decide
  have htext : b.OnText ⟨0, 1⟩ := ⟨by decide, by decide⟩
  have hlast : b.OnText ⟨3, 0⟩ := ⟨by decide, by decide⟩
  have hstep : forward b ⟨0, 1⟩ = ⟨1, 0⟩ := by decide
  have hleads := (forward_to_next_stop hu htext).1 (by decide)
  rw [hstep] at hleads
  exact ⟨⟨htext, hstep, hleads⟩, hlast, (forward_to_next_stop hu hlast).2 (by decide)⟩

/-- Of two empty lines the motion does not leave the first. -/
theorem forward_stays_before_last_blank :
    let b : Buffer := { lines := [[], []] }
    Unbroken b.lines ∧ b.OnText ⟨0, 0⟩ ∧ forward b ⟨0, 0⟩ = ⟨0, 0⟩ ∧
      ¬ Position.LeadsNext b.WordStart ⟨0, 0⟩ (forward b ⟨0, 0⟩) := by
  intro b
  have hstay : forward b ⟨0, 0⟩ = ⟨0, 0⟩ := by decide
  refine ⟨by decide, ⟨by decide, by decide⟩, hstay, ?_⟩
  rw [hstay]
  rintro (hfirst | ⟨hnone, -⟩)
  · exact absurd hfirst.after (by decide)
  · exact hnone ⟨1, 0⟩ ⟨by decide, .inr ⟨rfl, rfl⟩⟩ (by decide)

/-- The search backward finds the last stop, or there is none. -/
theorem leadsBack_backOverBlanks (hu : Unbroken b.lines) (hp : b.InText p)
    (hstart : 0 < b.rowPlace p) :
    p.LeadsBack b.WordStart (match (ofLines b.lines).backOverBlanks (b.rowPlace p - 1) with
      | .inl i => (ofLines b.lines).position ((ofLines b.lines).wordStart i)
      | .inr stop => stop) := by
  have hplaces := Buffer.places_wordStart hu
  have hne : b.lines ≠ [] := List.ne_nil_of_length_pos (Nat.zero_lt_of_lt hp.1)
  have hle := Buffer.rowPlace_le hp
  have hfound := foundBack_backOverBlanks hu (i := b.rowPlace p - 1) (by omega)
  rw [Nat.sub_add_cancel hstart] at hfound
  have hlast : ∀ i, (ofLines b.lines).FindsBefore (b.rowPlace p) i →
      p.LastBefore b.WordStart ((ofLines b.lines).position i) := by
    rintro i ⟨hlt, hbetween, hstop⟩
    obtain ⟨q, hq, rfl⟩ := Buffer.exists_rowPlace hne (Nat.le_of_lt (Nat.lt_of_lt_of_le hlt hle))
    rw [Buffer.position_rowPlace hq]
    exact hplaces.lastBefore hp hq hlt hstop hbetween
  cases hback : (ofLines b.lines).backOverBlanks (b.rowPlace p - 1) with
  | inl i =>
    rw [hback] at hfound
    obtain ⟨hlt, hword, hpast⟩ := hfound
    obtain ⟨hbefore, hbetween, hstop⟩ := findsBefore_wordStart hword
    refine .inl (hlast _ ⟨by omega, fun m hm hmp => ?_, hstop⟩)
    rcases Nat.lt_or_ge i m with him | hmi
    · exact hpast m him hmp
    · exact hbetween m hm (Nat.lt_succ_of_le hmi)
  | inr stop =>
    rw [hback] at hfound
    rcases hfound with ⟨i, hi, rfl⟩ | ⟨rfl, hnone⟩
    · exact .inl (hlast i hi)
    · exact .inr ⟨hplaces.none_before hp hnone, rfl⟩

/-- The motion to the end of a word, from a place of the row. -/
theorem toEnd_eq {i : Nat} (hplace : (ofLines b.lines).place? p = some i) :
    toEnd b p = (((ofLines b.lines).nextEnd? i).map (ofLines b.lines).position).getD p := by
  unfold toEnd nextEnd?
  dsimp only
  rw [hplace]
  dsimp only
  by_cases hend : (ofLines b.lines).size ≤ i + 1
  · have hfound := Nat.le_trans hend (le_findWord (ofLines b.lines) (i + 1) (ofLines b.lines).size)
    rw [if_pos hend, if_pos hfound]
    rfl
  · rw [if_neg hend]
    split <;> rfl

/-- From a position on the text the motion to the end of a word leads to the next one. Breaks in the
lines make no difference to it. -/
theorem toEnd_leadsNext (hp : b.OnText p) : p.LeadsNext b.WordEnd (toEnd b p) := by
  have hne : b.lines ≠ [] := List.ne_nil_of_length_pos (Nat.zero_lt_of_lt hp.1)
  have hplaces : b.Places b.WordEnd (ofLines b.lines).EndsAt := Buffer.places_wordEnd
  rw [toEnd_eq (Buffer.place?_eq hp)]
  cases hnext : (ofLines b.lines).nextEnd? (b.rowPlace p) with
  | none =>
    refine .inr ⟨hplaces.none_after hp.inText fun m hlt hm hend => ?_, rfl⟩
    have hword := nextEnd?_eq_none hnext hlt
    rw [hend.1] at hword
    cases hword
  | some i =>
    obtain ⟨hlt, hsize, hend, hbetween⟩ := nextEnd?_eq_some hnext
    obtain ⟨q, hq, rfl⟩ := Buffer.exists_rowPlace hne (Nat.le_of_lt hsize)
    rw [Option.map_some, Option.getD_some, Buffer.position_rowPlace hq]
    exact .inl (hplaces.firstAfter hp.inText hq hlt hend hbetween)

/-- From a position on the text the motion backward leads to the last start of a word or empty line.
-/
theorem backward_leadsBack (hu : Unbroken b.lines) (hp : b.OnText p) :
    p.LeadsBack b.WordStart (backward b p) := by
  have hne : b.lines ≠ [] := List.ne_nil_of_length_pos (Nat.zero_lt_of_lt hp.1)
  have htext := hp.inText
  have hsize := Buffer.rowPlace_le htext
  unfold backward
  dsimp only
  rw [Buffer.place?_eq hp]
  dsimp only
  rcases Nat.eq_zero_or_pos (b.rowPlace p) with hzero | hpos
  · have hstart : p = ⟨0, 0⟩ := by
      rw [← Buffer.position_rowPlace htext, hzero, position_zero hne]
    refine .inr ⟨(Buffer.places_wordStart hu).none_before htext fun m hm => ?_, ?_⟩
    · omega
    · simpa [hzero] using hstart
  · have hsearch : ¬ (b.rowPlace p = 0 ∨ (ofLines b.lines).size = 0) := by omega
    rw [if_neg (by simpa using hsearch)]
    exact leadsBack_backOverBlanks hu htext hpos

/-- From a position on the text the motion backward leads to the last start of a word or empty line
before it, and to the start of the buffer if there is none; the motion to the end of a word leads to
the next one, and stays where it is if there is none. -/
theorem backward_and_toEnd_stops (hu : Unbroken b.lines) (hp : b.OnText p) :
    p.LeadsBack b.WordStart (backward b p) ∧ p.LeadsNext b.WordEnd (toEnd b p) :=
  ⟨backward_leadsBack hu hp, toEnd_leadsNext hp⟩

/-- From the second of two words, behind an empty line. -/
theorem backward_and_toEnd_stops_of_four_lines :
    let b : Buffer := { lines := [['a'], [], [' ', 'b', 'c'], [' ']] }
    b.OnText ⟨2, 1⟩ ∧
      (backward b ⟨2, 1⟩ = ⟨1, 0⟩ ∧ Position.LeadsBack b.WordStart ⟨2, 1⟩ ⟨1, 0⟩) ∧
      (toEnd b ⟨2, 1⟩ = ⟨2, 2⟩ ∧ Position.LeadsNext b.WordEnd ⟨2, 1⟩ ⟨2, 2⟩) := by
  intro b
  have htext : b.OnText ⟨2, 1⟩ := ⟨by decide, by decide⟩
  have hback : backward b ⟨2, 1⟩ = ⟨1, 0⟩ := by decide
  have hend : toEnd b ⟨2, 1⟩ = ⟨2, 2⟩ := by decide
  obtain ⟨hleadsBack, hleadsNext⟩ := backward_and_toEnd_stops (by decide) htext
  rw [hback] at hleadsBack
  rw [hend] at hleadsNext
  exact ⟨htext, ⟨hback, hleadsBack⟩, hend, hleadsNext⟩

end Word
end ModalEditor
