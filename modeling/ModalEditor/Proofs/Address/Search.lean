import Mathlib.Data.List.Basic
import ModalEditor.Address

/-!
# What a search finds

A search looks at the lines from its start on, the start included, and if it wraps then at the
others from the other end on (`mem_order`). It finds the line that matches and is met first: `Meets`
says which one that is in terms of lines before and behind others, without the rows of line numbers
that the search goes along.
-/

namespace ModalEditor

/-- A search comes to line `i` no later than to line `j`, unless it goes around the end in between.
-/
def Direction.Reaches : Direction → Nat → Nat → Prop
  | forward, i, j => i ≤ j
  | backward, i, j => j ≤ i

theorem Direction.Reaches.total (direction : Direction) (m n : Nat) :
    direction.Reaches m n ∨ direction.Reaches n m := by
  cases direction with
  | forward => exact Nat.le_total m n
  | backward => exact Nat.le_total n m

namespace Search

/-- Line `n` is the first hit among `count` lines that a search from line `start` on meets. -/
inductive Meets (hit : Nat → Bool) (count start : Nat) (direction : Direction) (wrap : Bool)
    (n : Nat) : Prop where
  /-- It is met before the search comes to the end. -/
  | ahead (hlt : n < count) (hhit : hit n = true) (hreach : direction.Reaches start n)
    (hfirst : ∀ i < count,
      direction.Reaches start i → direction.Reaches i n → hit i = true → i = n)
  /-- Nothing is met up to the end, and it is the first line met from the other end on. -/
  | around (hwrap : wrap = true) (hlt : n < count) (hhit : hit n = true)
    (hmissed : ∀ i < count, direction.Reaches start i → hit i = false)
    (hfirst : ∀ i < count, direction.Reaches i n → hit i = true → i = n)

variable {hit : Nat → Bool} {count start m n : Nat} {direction : Direction} {wrap : Bool}

theorem Meets.lt (h : Meets hit count start direction wrap n) : n < count := by
  cases h <;> assumption

theorem Meets.isHit (h : Meets hit count start direction wrap n) : hit n = true := by
  cases h <;> assumption

/-- The line that is met was looked at. -/
theorem Meets.looked (h : Meets hit count start direction wrap n) :
    wrap = true ∨ direction.Reaches start n := by
  cases h with
  | ahead _ _ hreach => exact .inr hreach
  | around hwrap => exact .inl hwrap

/-- A search meets one line first. -/
theorem Meets.unique (hm : Meets hit count start direction wrap m)
    (hn : Meets hit count start direction wrap n) : m = n := by
  cases hm with
  | ahead hltm hhitm hreachm hfirstm =>
    cases hn with
    | ahead hltn hhitn hreachn hfirstn =>
      cases Direction.Reaches.total direction m n with
      | inl hmn => exact hfirstn m hltm hreachm hmn hhitm
      | inr hnm => exact (hfirstm n hltn hreachn hnm hhitn).symm
    | around _ _ _ hmissed =>
      rw [hmissed m hltm hreachm] at hhitm
      cases hhitm
  | around _ hltm hhitm hmissed hfirstm =>
    cases hn with
    | ahead hltn hhitn hreachn =>
      rw [hmissed n hltn hreachn] at hhitn
      cases hhitn
    | around _ hltn hhitn _ hfirstn =>
      cases Direction.Reaches.total direction m n with
      | inl hmn => exact hfirstn m hltm hmn hhitm
      | inr hnm => exact (hfirstm n hltn hnm hhitn).symm

/-! ## The way of a search -/

/-- The line after `i` steps, around the end. -/
def lineAfter (count start : Nat) : Direction → Nat → Nat
  | .forward, i => (start + i) % count
  | .backward, i => (start + count - i) % count

/-- How many steps it takes to come to line `n`. -/
def stepsTo (count start : Nat) (direction : Direction) (n : Nat) : Nat :=
  match direction with
  | .forward => if start ≤ n then n - start else n + count - start
  | .backward => if n ≤ start then start - n else start + count - n

/-- How many lines are looked at. -/
def size (count start : Nat) (direction : Direction) (wrap : Bool) : Nat :=
  if wrap then count
  else match direction with
    | .forward => count - start
    | .backward => start + 1

theorem order_eq (hstart : start < count) : order count start direction wrap =
    (List.range (size count start direction wrap)).map (lineAfter count start direction) := by
  have hmin : min start (count - 1) = start := by omega
  cases direction <;>
    · unfold order
      rw [hmin]
      rfl

theorem size_le (hstart : start < count) : size count start direction wrap ≤ count := by
  unfold size
  split
  · exact Nat.le_refl count
  · cases direction with
    | forward => exact Nat.sub_le count start
    | backward => exact hstart

/-- A line number past the end goes around it once. -/
theorem mod_around (h : m < count + count) : m % count = if m < count then m else m - count := by
  split
  · exact Nat.mod_eq_of_lt ‹_›
  · rw [Nat.mod_eq_sub_mod (by omega), Nat.mod_eq_of_lt (by omega)]

theorem lineAfter_lt (hstart : start < count) (i : Nat) :
    lineAfter count start direction i < count := by
  cases direction <;> exact Nat.mod_lt _ (Nat.zero_lt_of_lt hstart)

theorem lineAfter_stepsTo (hstart : start < count) (hn : n < count) :
    lineAfter count start direction (stepsTo count start direction n) = n := by
  cases direction <;>
    · unfold lineAfter stepsTo
      dsimp only
      split <;> rw [mod_around (by omega)] <;> split <;> omega

theorem stepsTo_lineAfter {i : Nat} (hstart : start < count) (hi : i < count) :
    stepsTo count start direction (lineAfter count start direction i) = i := by
  cases direction with
  | forward =>
    have hline : (start + i) % count = _ := mod_around (by omega)
    grind [lineAfter, stepsTo]
  | backward =>
    have hline : (start + count - i) % count = _ := mod_around (by omega)
    grind [lineAfter, stepsTo]

theorem stepsTo_lt_size_iff (hstart : start < count) (hn : n < count) :
    stepsTo count start direction n < size count start direction wrap ↔
      wrap = true ∨ direction.Reaches start n := by
  cases direction <;> cases wrap <;> grind [stepsTo, size, Direction.Reaches]

/-- The lines on the way to a line that is ahead come before it. -/
theorem stepsTo_lt_of_ahead (hm : direction.Reaches start m) (hmn : direction.Reaches m n)
    (hne : m ≠ n) : stepsTo count start direction m < stepsTo count start direction n := by
  cases direction <;> grind [stepsTo, Direction.Reaches]

/-- The lines ahead come before those behind the end. -/
theorem stepsTo_lt_of_behind (hmlt : m < count) (hnlt : n < count) (hm : direction.Reaches start m)
    (hn : ¬ direction.Reaches start n) :
    stepsTo count start direction m < stepsTo count start direction n := by
  cases direction <;> grind [stepsTo, Direction.Reaches]

/-- The lines from the other end on to a line come before it. -/
theorem stepsTo_lt_of_around (hstart : start < count) (hmlt : m < count)
    (hn : ¬ direction.Reaches start n) (hmn : direction.Reaches m n) (hne : m ≠ n) :
    stepsTo count start direction m < stepsTo count start direction n := by
  cases direction <;> grind [stepsTo, Direction.Reaches]

/-- A search looks at the lines on its way to the end, and if it wraps at all lines. -/
theorem mem_order (hstart : start < count) : n ∈ order count start direction wrap ↔
    n < count ∧ (wrap = true ∨ direction.Reaches start n) := by
  rw [order_eq hstart, List.mem_map]
  constructor
  · rintro ⟨i, hi, rfl⟩
    have hi := List.mem_range.mp hi
    have hlt : lineAfter count start direction i < count := lineAfter_lt hstart i
    refine ⟨hlt, (stepsTo_lt_size_iff hstart hlt).mp ?_⟩
    rwa [stepsTo_lineAfter hstart (Nat.lt_of_lt_of_le hi (size_le hstart))]
  · rintro ⟨hlt, hlooked⟩
    exact ⟨_, List.mem_range.mpr ((stepsTo_lt_size_iff hstart hlt).mpr hlooked),
      lineAfter_stepsTo hstart hlt⟩

/-! ## The line that is found -/

/-- The line that is found matches, and those before it do not. -/
theorem before_of_find?_order (hstart : start < count)
    (h : (order count start direction wrap).find? hit = some n) :
    hit n = true ∧ ∀ m < count, stepsTo count start direction m < stepsTo count start direction n →
      hit m = false := by
  rw [order_eq hstart, List.find?_map] at h
  obtain ⟨i, hi, rfl⟩ := Option.map_eq_some_iff.mp h
  obtain ⟨hhit, hmem, hbefore⟩ := List.find?_range_eq_some.mp hi
  have hlt := Nat.lt_of_lt_of_le (List.mem_range.mp hmem) (size_le hstart)
  refine ⟨hhit, fun m hm hsteps => ?_⟩
  rw [stepsTo_lineAfter hstart hlt] at hsteps
  have hmiss := hbefore _ hsteps
  rw [Function.comp_apply, lineAfter_stepsTo hstart hm] at hmiss
  simpa using hmiss

theorem meets_of_find?_order (hstart : start < count)
    (h : (order count start direction wrap).find? hit = some n) :
    Meets hit count start direction wrap n := by
  obtain ⟨hlt, hlooked⟩ := (mem_order hstart).mp (List.mem_of_find?_eq_some h)
  obtain ⟨hhit, hbefore⟩ := before_of_find?_order hstart h
  -- A hit that comes before the line that is found would have been found.
  have hfirst : ∀ m < count, hit m = true →
      ¬ stepsTo count start direction m < stepsTo count start direction n := by
    intro m hm hhitm hsteps
    rw [hbefore m hm hsteps] at hhitm
    cases hhitm
  by_cases hreach : direction.Reaches start n
  · refine .ahead hlt hhit hreach fun m hm hstartm hmn hhitm => ?_
    by_contra hne
    exact hfirst m hm hhitm (stepsTo_lt_of_ahead hstartm hmn hne)
  · refine .around (hlooked.resolve_right hreach) hlt hhit (fun m hm hstartm => ?_)
      fun m hm hmn hhitm => ?_
    · exact hbefore m hm (stepsTo_lt_of_behind hm hlt hstartm hreach)
    · by_contra hne
      exact hfirst m hm hhitm (stepsTo_lt_of_around hstart hm hreach hmn hne)

/-- A search finds the line that is met first. -/
theorem findLine_eq_some_iff {isMatch : Text → Bool} {b : Buffer} (hstart : start < b.lineCount) :
    findLine isMatch b start direction wrap = some n ↔
      Meets (fun i => isMatch (b.line i)) b.lineCount start direction wrap n := by
  constructor
  · exact meets_of_find?_order hstart
  · intro hmeets
    cases hfind : findLine isMatch b start direction wrap with
    | none =>
      have hmem := (mem_order hstart).mpr ⟨hmeets.lt, hmeets.looked⟩
      exact absurd hmeets.isHit (List.find?_eq_none.mp hfind n hmem)
    | some m => rw [(meets_of_find?_order hstart hfind).unique hmeets]

/-- A search finds nothing if none of the lines that it looks at matches. -/
theorem findLine_eq_none_iff {isMatch : Text → Bool} {b : Buffer} (hstart : start < b.lineCount) :
    findLine isMatch b start direction wrap = none ↔
      ∀ i < b.lineCount, wrap = true ∨ direction.Reaches start i → isMatch (b.line i) = false := by
  rw [findLine, List.find?_eq_none]
  constructor
  · intro hnone i hi hlooked
    simpa using hnone i ((mem_order hstart).mpr ⟨hi, hlooked⟩)
  · intro hnone i hi
    obtain ⟨hlt, hlooked⟩ := (mem_order hstart).mp hi
    simp [hnone i hlt hlooked]

end Search
end ModalEditor
