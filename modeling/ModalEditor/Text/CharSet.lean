import ModalEditor.Text.Basic

/-!
# Sets of characters

A set of characters is a list of ranges of code points, in increasing order, disjoint and not
adjacent. Membership, complement and the Boolean operations follow the list once, so that the
sets of the Unicode standard, which have hundreds of ranges, stay cheap to combine.

`CharSet.ofTable` reads the written form of a set: hexadecimal code points `41`, ranges `41-5A` and
ranges that take every second code point `100-136/2`, separated by blanks.
-/

namespace ModalEditor

/-- A set of code points as increasing, disjoint ranges that do not touch. -/
structure CharSet where
  /-- The ranges, each with its first and last code point. -/
  ranges : List (Nat × Nat)
deriving Repr, DecidableEq, Inhabited

namespace CharSet

/-- The last code point of Unicode. -/
def lastCode : Nat := 0x10FFFF

/-- The set without members. -/
def empty : CharSet := ⟨[]⟩

/-- `n` lies in one of the increasing ranges. -/
def coversCode (n : Nat) : List (Nat × Nat) → Bool
  | [] => false
  | (lo, hi) :: rest => lo ≤ n && (n ≤ hi || coversCode n rest)

/-- `c` is a member. -/
def contains (s : CharSet) (c : Char) : Bool := coversCode c.toNat s.ranges

/-- Joins the first range with those that touch it, for ranges in order of their first code. -/
def joinRanges : Nat × Nat → List (Nat × Nat) → List (Nat × Nat)
  | r, [] => [r]
  | (lo, hi), (lo', hi') :: rest =>
    if lo' ≤ hi + 1 then joinRanges (lo, max hi hi') rest
    else (lo, hi) :: joinRanges (lo', hi') rest

/-- The set of the code points in any of the ranges, whatever their order. -/
def ofRanges (ranges : List (Nat × Nat)) : CharSet :=
  match (ranges.filter fun r => r.1 ≤ r.2).mergeSort (fun a b => a.1 ≤ b.1) with
  | [] => empty
  | r :: rest => ⟨joinRanges r rest⟩

/-- The set with `c` as its only member. -/
def singleton (c : Char) : CharSet := ⟨[(c.toNat, c.toNat)]⟩

/-- The code points from `start` on that lie in none of the increasing ranges. -/
def gapsFrom (start : Nat) : List (Nat × Nat) → List (Nat × Nat)
  | [] => if start ≤ lastCode then [(start, lastCode)] else []
  | (lo, hi) :: rest =>
    if start < lo then (start, lo - 1) :: gapsFrom (hi + 1) rest else gapsFrom (hi + 1) rest

/-- The code points outside `s`. -/
def compl (s : CharSet) : CharSet := ⟨gapsFrom 0 s.ranges⟩

/-- The code points in `s` or `t`. -/
def union (s t : CharSet) : CharSet := ofRanges (s.ranges ++ t.ranges)

/-- The code points in both sets. -/
def inter (s t : CharSet) : CharSet := compl (union (compl s) (compl t))

/-- The code points in `s` and not in `t`. -/
def diff (s t : CharSet) : CharSet := inter s (compl t)

/-- The code points in exactly one of the sets. -/
def symmDiff (s t : CharSet) : CharSet := diff (union s t) (inter s t)

/-- The union of several sets. -/
def unions (sets : List CharSet) : CharSet := ofRanges (sets.flatMap ranges)

/-- No member lies beyond ASCII. -/
def isAscii (s : CharSet) : Bool := s.ranges.all fun r => r.2 ≤ 0x7F

/-- The value of a hexadecimal digit. -/
def hexDigit? (c : Char) : Option Nat :=
  if isDigit c then some (c.toNat - '0'.toNat)
  else if 'a' ≤ c && c ≤ 'f' then some (c.toNat - 'a'.toNat + 10)
  else if 'A' ≤ c && c ≤ 'F' then some (c.toNat - 'A'.toNat + 10)
  else none

/-- The value of a row of hexadecimal digits; other characters count as zero. -/
def hexValue (digits : Text) : Nat :=
  digits.foldl (fun n c => 16 * n + (hexDigit? c).getD 0) 0

/-- Every second code point from `lo` to `hi`. -/
def everySecond (lo hi : Nat) : List (Nat × Nat) :=
  (List.range ((hi - lo) / 2 + 1)).map fun i => (lo + 2 * i, lo + 2 * i)

/-- One entry of a written set. -/
def entryRanges (entry : Text) : List (Nat × Nat) :=
  match Text.cut? '-' entry with
  | none => [(hexValue entry, hexValue entry)]
  | some (lo, rest) =>
    match Text.cut? '/' rest with
    | none => [(hexValue lo, hexValue rest)]
    | some (hi, _) => everySecond (hexValue lo) (hexValue hi)

/-- The set that a table of hexadecimal entries writes. -/
def ofTable (table : String) : CharSet :=
  ofRanges ((Text.words table.toList).flatMap entryRanges)

end CharSet
end ModalEditor
