import ModalEditor.Proofs.Register.Basic
import ModalEditor.Text.Alphabetic

/-!
# Membership in sets of characters

A set of characters is put together from ranges in any order: they are sorted, and those that touch are
joined. What is looked up in the end is whether one of the ranges that it was put together from holds
the character (`CharSet.contains_ofRanges`). So the tables of the standard can be read entry by entry,
and the alphanumeric characters of ASCII turn out to be its letters and digits.
-/

namespace ModalEditor

namespace CharSet

variable {n : Nat} {r : Nat × Nat} {rest ranges : List (Nat × Nat)}

/-- The ranges come in the order of their first code points. -/
def Ascending (ranges : List (Nat × Nat)) : Prop := ranges.Pairwise fun a b => a.1 ≤ b.1

/-- One of the ranges holds the code point. -/
def Covered (ranges : List (Nat × Nat)) (n : Nat) : Prop := ∃ r ∈ ranges, r.1 ≤ n ∧ n ≤ r.2

theorem not_covered_nil : ¬ Covered [] n := by
  rintro ⟨r, hr, -⟩
  cases hr

theorem covered_cons : Covered (r :: rest) n ↔ (r.1 ≤ n ∧ n ≤ r.2) ∨ Covered rest n := by
  simp only [Covered, List.mem_cons, exists_eq_or_imp]

/-- A code point before the first of ascending ranges is in none of them. -/
theorem Ascending.le_of_covered (h : Ascending (r :: rest)) (hn : Covered rest n) : r.1 ≤ n := by
  obtain ⟨q, hq, hlow, -⟩ := hn
  have hle : r.1 ≤ q.1 := List.rel_of_pairwise_cons h hq
  exact Nat.le_trans hle hlow

/-- Looking a code point up may stop at the first range behind it. -/
theorem coversCode_iff (h : Ascending ranges) : coversCode n ranges = true ↔ Covered ranges n := by
  induction ranges with
  | nil => simp [coversCode, not_covered_nil]
  | cons r rest ih =>
    have hrest := ih (List.Pairwise.of_cons h)
    have hlow : Covered rest n → r.1 ≤ n := h.le_of_covered
    rw [coversCode, covered_cons, Bool.and_eq_true, Bool.or_eq_true, decide_eq_true_iff,
      decide_eq_true_iff, hrest]
    constructor
    · rintro ⟨hle, hhigh | hcovered⟩
      · exact .inl ⟨hle, hhigh⟩
      · exact .inr hcovered
    · rintro (⟨hle, hhigh⟩ | hcovered)
      · exact ⟨hle, .inl hhigh⟩
      · exact ⟨hlow hcovered, .inr hcovered⟩

/-! ## Joining ranges -/

/-- The second range may give way to a longer first one. -/
theorem Ascending.join {lo hi top : Nat} {next : Nat × Nat}
    (h : Ascending ((lo, hi) :: next :: rest)) : Ascending ((lo, top) :: rest) := by
  obtain ⟨hfirst, hrest⟩ := List.pairwise_cons.mp h
  refine List.pairwise_cons.mpr ⟨?_, List.Pairwise.of_cons hrest⟩
  intro q hq
  exact hfirst q (List.mem_cons_of_mem _ hq)

/-- Joining ranges moves no range to the front. -/
theorem le_of_mem_joinRanges (h : Ascending (r :: rest)) : ∀ q ∈ joinRanges r rest, r.1 ≤ q.1 := by
  fun_induction joinRanges r rest with
  | case1 r =>
    intro q hq
    obtain rfl := List.mem_singleton.mp hq
    exact Nat.le_refl _
  | case2 lo hi lo' hi' rest htouch ih => exact ih h.join
  | case3 lo hi lo' hi' rest hgap ih =>
    obtain ⟨hfirst, hrest⟩ := List.pairwise_cons.mp h
    intro q hq
    rcases List.mem_cons.mp hq with rfl | hq
    · exact Nat.le_refl _
    · exact Nat.le_trans (hfirst (lo', hi') List.mem_cons_self) (ih hrest q hq)

theorem joinRanges_ascending (h : Ascending (r :: rest)) : Ascending (joinRanges r rest) := by
  fun_induction joinRanges r rest with
  | case1 r => exact h
  | case2 lo hi lo' hi' rest htouch ih => exact ih h.join
  | case3 lo hi lo' hi' rest hgap ih =>
    obtain ⟨hfirst, hrest⟩ := List.pairwise_cons.mp h
    refine List.pairwise_cons.mpr ⟨?_, ih hrest⟩
    intro q hq
    exact Nat.le_trans (hfirst (lo', hi') List.mem_cons_self) (le_of_mem_joinRanges hrest q hq)

theorem covered_joinRanges (h : Ascending (r :: rest)) :
    Covered (joinRanges r rest) n ↔ Covered (r :: rest) n := by
  fun_induction joinRanges r rest with
  | case1 r => rfl
  | case2 lo hi lo' hi' rest htouch ih =>
    have hle : lo ≤ lo' := List.rel_of_pairwise_cons h List.mem_cons_self
    -- The ranges touch, so that nothing lies between them.
    have hmax : lo ≤ n ∧ n ≤ max hi hi' ↔ (lo ≤ n ∧ n ≤ hi) ∨ (lo' ≤ n ∧ n ≤ hi') := by omega
    rw [ih h.join, covered_cons, covered_cons, covered_cons, hmax, or_assoc]
  | case3 lo hi lo' hi' rest hgap ih =>
    rw [covered_cons, ih (List.Pairwise.of_cons h), ← covered_cons]

/-! ## Sets put together -/

theorem ascending_mergeSort (ranges : List (Nat × Nat)) :
    Ascending (ranges.mergeSort fun a b => a.1 ≤ b.1) := by
  have htrans (a b c : Nat × Nat) (hab : decide (a.1 ≤ b.1) = true)
      (hbc : decide (b.1 ≤ c.1) = true) : decide (a.1 ≤ c.1) = true := by
    rw [decide_eq_true_iff] at hab hbc ⊢
    exact Nat.le_trans hab hbc
  have htotal (a b : Nat × Nat) : (decide (a.1 ≤ b.1) || decide (b.1 ≤ a.1)) = true := by
    rw [Bool.or_eq_true, decide_eq_true_iff, decide_eq_true_iff]
    exact Nat.le_total _ _
  refine (List.pairwise_mergeSort htrans htotal ranges).imp ?_
  intro a b hab
  exact of_decide_eq_true hab

/-- The ranges of a set are in order and hold the same code points as those that it was put together
from. -/
theorem ofRanges_spec (ranges : List (Nat × Nat)) :
    Ascending (ofRanges ranges).ranges ∧
      ∀ n, Covered (ofRanges ranges).ranges n ↔ Covered ranges n := by
  have hsorted := ascending_mergeSort (ranges.filter fun r => r.1 ≤ r.2)
  have hcovered (n : Nat) : Covered ((ranges.filter fun r => r.1 ≤ r.2).mergeSort
      fun a b => a.1 ≤ b.1) n ↔ Covered ranges n := by
    constructor
    · rintro ⟨r, hr, hholds⟩
      rw [List.mem_mergeSort, List.mem_filter] at hr
      exact ⟨r, hr.1, hholds⟩
    · rintro ⟨r, hr, hlow, hhigh⟩
      refine ⟨r, ?_, hlow, hhigh⟩
      rw [List.mem_mergeSort, List.mem_filter]
      exact ⟨hr, decide_eq_true (Nat.le_trans hlow hhigh)⟩
  unfold ofRanges
  split
  · rename_i hnil
    rw [hnil] at hcovered
    exact ⟨List.Pairwise.nil, hcovered⟩
  · rename_i r rest hcons
    rw [hcons] at hsorted hcovered
    refine ⟨joinRanges_ascending hsorted, ?_⟩
    intro n
    rw [covered_joinRanges hsorted, hcovered]

theorem contains_ofRanges (ranges : List (Nat × Nat)) (c : Char) :
    (ofRanges ranges).contains c = true ↔ Covered ranges c.toNat := by
  obtain ⟨hascending, hcovered⟩ := ofRanges_spec ranges
  rw [contains, coversCode_iff hascending, hcovered]

theorem covered_unions (sets : List CharSet) :
    Covered (unions sets).ranges n ↔ ∃ s ∈ sets, Covered s.ranges n := by
  rw [unions, (ofRanges_spec _).2]
  simp only [Covered, List.mem_flatMap]
  constructor
  · rintro ⟨r, ⟨s, hs, hr⟩, hholds⟩
    exact ⟨s, hs, r, hr, hholds⟩
  · rintro ⟨s, hs, r, hr, hholds⟩
    exact ⟨r, ⟨s, hs, hr⟩, hholds⟩

theorem contains_unions (sets : List CharSet) (c : Char) :
    (unions sets).contains c = true ↔ ∃ s ∈ sets, Covered s.ranges c.toNat := by
  rw [← covered_unions, unions, contains_ofRanges, (ofRanges_spec _).2]

theorem covered_union (s t : CharSet) :
    Covered (union s t).ranges n ↔ Covered s.ranges n ∨ Covered t.ranges n := by
  rw [union, (ofRanges_spec _).2]
  simp only [Covered, List.mem_append, or_and_right, exists_or]

/-! ## Tables -/

/-- The ranges of a written set that start within ASCII. -/
def asciiRanges (table : String) : List (Nat × Nat) :=
  ((Text.words table.toList).flatMap entryRanges).filter fun r => r.1 < 128

theorem covered_ofTable (table : String) (hn : n < 128) :
    Covered (ofTable table).ranges n ↔ Covered (asciiRanges table) n := by
  rw [ofTable, (ofRanges_spec _).2]
  constructor
  · rintro ⟨r, hr, hlow, hhigh⟩
    exact ⟨r, List.mem_filter.mpr ⟨hr, decide_eq_true (Nat.lt_of_le_of_lt hlow hn)⟩, hlow, hhigh⟩
  · rintro ⟨r, hr, hholds⟩
    exact ⟨r, (List.mem_filter.mp hr).1, hholds⟩

/-- A literal stands for the list of its characters, which are what there is to read. -/
theorem asciiRanges_ofList (t : Text) :
    asciiRanges (String.ofList t) =
      ((Text.words t).flatMap entryRanges).filter fun r => r.1 < 128 := by
  rw [asciiRanges, String.toList_ofList]

end CharSet

namespace Category

open CharSet

/-- What the classes of letters and numbers have in ASCII. -/
def asciiParts : List (String × List (Nat × Nat)) :=
  [("Lu", [(0x41, 0x5A)]), ("Ll", [(0x61, 0x7A)]), ("Lt", []), ("Lm", []), ("Lo", []),
   ("Nd", [(0x30, 0x39)]), ("Nl", []), ("No", [])]

theorem asciiRanges_rows :
    ((rows.filter fun row => row.1 ∈ asciiParts.map Prod.fst).map fun row =>
      (row.1, asciiRanges row.2)) = asciiParts := by
  unfold rows asciiParts
  simp only [List.filter_cons, List.map_cons, List.map_nil, List.mem_cons, List.not_mem_nil,
    or_false, String.reduceEq, or_true, or_self, decide_true, decide_false, if_true,
    Bool.false_eq_true, if_false, List.filter_nil]
  iterate 8 rw [asciiRanges_ofList]
  decide +kernel

/-- What a class of letters or numbers has in ASCII is listed. -/
theorem covered_members {code : String} {n : Nat} (hcode : code ∈ asciiParts.map Prod.fst)
    (hn : n < 128) :
    Covered (members code).ranges n ↔ ∃ part ∈ asciiParts, part.1 = code ∧ Covered part.2 n := by
  have hunassigned : code ≠ "Cn" := by
    rintro rfl
    revert hcode
    decide
  have hsurrogates : code ≠ "Cs" := by
    rintro rfl
    revert hcode
    decide
  rw [members, if_neg hunassigned, if_neg hsurrogates, covered_unions]
  rw [← asciiRanges_rows]
  constructor
  · rintro ⟨s, hs, hcovered⟩
    obtain ⟨row, hpicked, rfl⟩ := List.mem_map.mp hs
    obtain ⟨hrow, hname⟩ := List.mem_filter.mp hpicked
    obtain rfl := of_decide_eq_true hname
    refine ⟨(row.1, asciiRanges row.2), List.mem_map.mpr ⟨row, ?_, rfl⟩, rfl, ?_⟩
    · exact List.mem_filter.mpr ⟨hrow, decide_eq_true hcode⟩
    · exact (covered_ofTable row.2 hn).mp hcovered
  · rintro ⟨part, hpart, hname, hcovered⟩
    obtain ⟨row, hrow, rfl⟩ := List.mem_map.mp hpart
    refine ⟨ofTable row.2, List.mem_map.mpr ⟨row, ?_, rfl⟩, ?_⟩
    · exact List.mem_filter.mpr ⟨(List.mem_filter.mp hrow).1, decide_eq_true hname⟩
    · exact (covered_ofTable row.2 hn).mpr hcovered

theorem covered_classes {codes : List String} {n : Nat}
    (hcodes : ∀ code ∈ codes, code ∈ asciiParts.map Prod.fst) (hn : n < 128) :
    Covered (unions (codes.map members)).ranges n ↔
      ∃ part ∈ asciiParts, part.1 ∈ codes ∧ Covered part.2 n := by
  rw [covered_unions]
  constructor
  · rintro ⟨s, hs, hcovered⟩
    obtain ⟨code, hcode, rfl⟩ := List.mem_map.mp hs
    obtain ⟨part, hpart, hname, hheld⟩ := (covered_members (hcodes code hcode) hn).mp hcovered
    rw [← hname] at hcode
    exact ⟨part, hpart, hcode, hheld⟩
  · rintro ⟨part, hpart, hcode, hheld⟩
    refine ⟨members part.1, List.mem_map_of_mem hcode, ?_⟩
    exact (covered_members (hcodes part.1 hcode) hn).mpr ⟨part, hpart, rfl, hheld⟩

end Category

section Ascii

open CharSet Category

/-- The alphabetic characters that are no letters, and those of version 17, lie beyond ASCII. -/
theorem not_covered_of_ascii {n : Nat} (hn : n < 128) :
    ¬ Covered otherAlphabetic.ranges n ∧ ¬ Covered laterAlphabetic.ranges n ∧
      ¬ Covered laterNumbers.ranges n := by
  have hempty (table : String) (htable : asciiRanges table = []) :
      ¬ Covered (ofTable table).ranges n := by
    rw [covered_ofTable table hn, htable]
    exact not_covered_nil
  refine ⟨hempty _ ?_, hempty _ ?_, hempty _ ?_⟩
  all_goals
    rw [asciiRanges_ofList]
    decide +kernel

/-- The alphanumeric characters of ASCII are its letters and digits. -/
theorem isAlphanumeric_iff_of_ascii {c : Char} (hc : c.toNat < 128) :
    isAlphanumeric c = true ↔ isLetter c = true ∨ isDigit c = true := by
  obtain ⟨hother, hlater, hnumbers⟩ := not_covered_of_ascii hc
  have hletters : Covered letters.ranges c.toNat ↔ isLetter c = true := by
    rw [letters, covered_classes (by decide) hc, isLetter_iff, isLowerLetter_iff]
    simp [asciiParts, covered_cons, not_covered_nil, or_comm]
  have hdigits : Covered numbers.ranges c.toNat ↔ isDigit c = true := by
    rw [numbers, covered_classes (by decide) hc, isDigit_iff]
    simp [asciiParts, covered_cons, not_covered_nil]
  have hletterNumbers : ¬ Covered (members "Nl").ranges c.toNat := by
    rw [covered_members (by decide) hc]
    simp [asciiParts, not_covered_nil]
  have halphabetic : Covered latestAlphabetic.ranges c.toNat ↔ isLetter c = true := by
    rw [latestAlphabetic, covered_union, alphabeticSet, covered_unions]
    simp [hletters, hletterNumbers, hother, hlater]
  rw [isAlphanumeric, latestAlphanumeric, contains_unions]
  simp [halphabetic, hdigits, hnumbers]

end Ascii

end ModalEditor
