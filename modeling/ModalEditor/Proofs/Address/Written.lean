import Mathlib.Order.Basic
import ModalEditor.Proofs.Text.Escaping
import ModalEditor.Proofs.Text.Numeral

/-!
# Ranges as they are typed

Every range that can be typed has one text that stands for it: a `%`, or an address or two, each
with its base and the sum of its offsets. A range is not set off from the command behind it. It is
read back from the front of any text that cannot be taken for more of it, that is, unless a digit or
a sign follows, or a separator behind a single address. All the parts are read in the same way, each
with the rest of the text behind it: a base ends where no digit follows (`Base.split?_written`), an
offset where neither a digit nor a sign does (`Address.splitOffsets_written`).
-/

namespace ModalEditor

open NormalCommand

/-! ## Writing -/

/-- The character around the pattern of a search. -/
def Direction.delimiter : Direction → Char
  | forward => '/'
  | backward => '?'

/-- The base as it is typed. -/
def Base.written : Base → Text
  | current => ['.']
  | last => ['$']
  | number n => Text.ofNat n
  | mark name => ['\'', name]
  | search direction pattern =>
    direction.delimiter :: (Text.escape direction.delimiter pattern ++ [direction.delimiter])

/-- An offset as it is typed, with its sign. None is typed for the base itself. -/
def Address.writtenOffset (offset : Int) : Text :=
  if offset = 0 then [] else (if 0 < offset then '+' else '-') :: Text.ofNat offset.natAbs

/-- The address as it is typed. -/
def Address.written (a : Address) : Text := a.base.written ++ writtenOffset a.offset

/-- The character between two addresses. -/
def Separator.char : Separator → Char
  | comma => ','
  | semicolon => ';'

/-- The range as it is typed. -/
def Range.written : Range → Text
  | implicit => []
  | whole => ['%']
  | single a => a.written
  | pair first sep second => first.written ++ sep.char :: second.written

/-- A base that a text can stand for: its number is a count, its mark has a name, and its pattern
does not escape its delimiter, which is left to the writing. -/
def Base.Typable : Base → Prop
  | number n => n ≤ maxCount
  | mark name => isLowerLetter name = true
  | search direction pattern => Text.Paired direction.delimiter pattern
  | _ => True

/-- An address that a text can stand for. Its offset is as large as a number after a sign can make
it. -/
structure Address.Typable (a : Address) : Prop where
  /-- Its base can be typed. -/
  base : a.base.Typable
  /-- Its offset is a word. -/
  offset_le : a.offset ≤ maxOffset
  /-- It is not the smallest word, which has no number after a sign. -/
  le_offset : -maxOffset ≤ a.offset

/-- A range that a text can stand for. -/
def Range.Typable : Range → Prop
  | implicit => False
  | whole => True
  | single a => a.Typable
  | pair first _ second => first.Typable ∧ second.Typable

/-- The text is not taken for more of an address in front of it. -/
def EndsAddress (rest : Text) : Prop :=
  ∀ c ∈ rest.head?, isDigit c = false ∧ c ≠ '+' ∧ c ≠ '-'

/-- The text does not start with a separator. -/
def EndsSingle (rest : Text) : Prop := ∀ c ∈ rest.head?, c ≠ ',' ∧ c ≠ ';'

/-! ## Reading bases -/

section Reading

variable {rest : Text}

theorem EndsAddress.endsCount (h : EndsAddress rest) : EndsCount rest := fun c hc => (h c hc).1

theorem Direction.delimiter_ne (direction : Direction) : direction.delimiter ≠ '\\' := by
  cases direction <;> decide

/-- No form of a base but a number starts with a digit. -/
theorem Base.split?_of_isDigit {c : Char} (hc : isDigit c = true) (t : Text) :
    split? (c :: t) = (Text.splitNumber? (c :: t)).map fun (n, rest) => (.number n, rest) := by
  unfold split?
  split
  case h_6 => rfl
  all_goals
    rename_i heq
    cases heq
    exact absurd hc (by decide)

/-- A base is read back unless a digit follows. -/
theorem Base.split?_written {base : Base} (h : base.Typable) (hrest : EndsCount rest) :
    split? (base.written ++ rest) = some (base, rest) := by
  cases base with
  | current => rfl
  | last => rfl
  | number n =>
    obtain ⟨c, digits, hdigits⟩ := List.exists_cons_of_ne_nil (Text.ofNat_ne_nil n)
    have hc : isDigit c = true := Text.isDigit_ofNat n c (by rw [hdigits]; exact List.mem_cons_self)
    have hread := Text.splitNumber?_ofNat h hrest
    rw [written]
    rw [hdigits] at hread ⊢
    rw [List.cons_append, split?_of_isDigit hc, ← List.cons_append, hread, Option.map_some]
  | mark name =>
    have hname : isLowerLetter name = true := h
    rw [written, List.cons_append, List.cons_append, List.nil_append, split?, if_pos hname]
  | search direction pattern =>
    have hcut := Text.cutUnescaped_escape direction.delimiter_ne h rest
    have hpattern := Text.unescape_escape direction.delimiter_ne h
    rw [written, List.cons_append, List.append_assoc, List.singleton_append]
    cases direction <;>
      · dsimp only [Direction.delimiter] at hcut hpattern ⊢
        rw [split?, hcut]
        dsimp only
        rw [hpattern]

/-! ## Reading addresses -/

/-- Offsets end where no sign follows. -/
theorem Address.splitOffsets_of_ends (hrest : EndsAddress rest) (offset : Int) (count fuel : Nat) :
    splitOffsets offset count fuel rest = (offset, count, rest) := by
  cases rest with
  | nil => cases fuel <;> rfl
  | cons c rest =>
    obtain ⟨-, hplus, hminus⟩ := hrest c rfl
    cases fuel with
    | zero => rfl
    | succ fuel => simp [splitOffsets, hplus, hminus]

/-- An offset is read back unless a digit or a sign follows. -/
theorem Address.splitOffsets_written {offset : Int} (hle : offset ≤ maxOffset)
    (hge : -maxOffset ≤ offset) (hrest : EndsAddress rest) :
    ∃ count, splitOffsets 0 0 (writtenOffset offset ++ rest).length (writtenOffset offset ++ rest) =
      (offset, count, rest) := by
  unfold writtenOffset
  split
  · rename_i hzero
    exact ⟨0, by rw [List.nil_append, splitOffsets_of_ends hrest, hzero]⟩
  · rename_i hne
    have hword : maxOffset ≤ (maxCount : Int) := by decide
    have hread := Text.splitNumber?_ofNat (n := offset.natAbs) (by omega) hrest.endsCount
    refine ⟨1, ?_⟩
    rw [List.cons_append, List.length_cons, splitOffsets]
    by_cases hpos : 0 < offset
    · have hadd : addOffset 0 '+' offset.natAbs = offset := by
        change min (0 + min (offset.natAbs : Int) maxOffset) maxOffset = offset
        omega
      rw [if_pos hpos, if_pos (by decide), hread, Option.getD_some]
      dsimp only
      rw [hadd, splitOffsets_of_ends hrest]
    · have hadd : addOffset 0 '-' offset.natAbs = offset := by
        change max (0 - min (offset.natAbs : Int) maxOffset) (-maxOffset - 1) = offset
        omega
      rw [if_neg hpos, if_pos (by decide), hread, Option.getD_some]
      dsimp only
      rw [hadd, splitOffsets_of_ends hrest]

/-- What follows a base is no digit. -/
theorem Address.endsCount_offset (offset : Int) (hrest : EndsAddress rest) :
    EndsCount (writtenOffset offset ++ rest) := by
  unfold writtenOffset
  split
  · exact hrest.endsCount
  · split
    · exact endsCount_cons (by decide) _
    · exact endsCount_cons (by decide) _

/-- An address is read back unless a digit or a sign follows. -/
theorem Address.split?_written {a : Address} (h : a.Typable) (hrest : EndsAddress rest) :
    split? (a.written ++ rest) = some (a, rest) := by
  obtain ⟨count, hoffset⟩ := splitOffsets_written h.offset_le h.le_offset hrest
  rw [written, List.append_assoc, split?, Base.split?_written h.base (endsCount_offset _ hrest)]
  dsimp only
  rw [hoffset]

/-! ## Reading ranges -/

theorem Address.split?_percent (t : Text) : split? ('%' :: t) = none := rfl

/-- A range that starts with an address does not start with `%`. -/
theorem Range.split_of_address {t : Text} (h : Address.split? t ≠ none) :
    split t = match Address.split? t with
      | none => (.implicit, t)
      | some (first, ',' :: rest) => split.pairWith first .comma rest
      | some (first, ';' :: rest) => split.pairWith first .semicolon rest
      | some (first, rest) => (.single first, rest) := by
  conv =>
    lhs
    unfold split
  split
  · exact absurd (Address.split?_percent _) h
  · rfl

/-- An address is a range of its own unless a separator follows. -/
theorem Range.split_single {t : Text} {a : Address} (h : Address.split? t = some (a, rest))
    (hrest : EndsSingle rest) : split t = (.single a, rest) := by
  rw [split_of_address (by rw [h]; simp), h]
  split
  case h_1 heq => cases heq
  case h_2 heq =>
    cases heq
    exact absurd rfl (hrest ',' rfl).1
  case h_3 heq =>
    cases heq
    exact absurd rfl (hrest ';' rfl).2
  case h_4 heq =>
    cases heq
    rfl

/-- Two addresses around a separator are a pair. -/
theorem Range.split_pair {t more : Text} {first second : Address} {sep : Separator}
    (h : Address.split? t = some (first, sep.char :: more))
    (hmore : Address.split? more = some (second, rest)) :
    split t = (.pair first sep second, rest) := by
  have hpair : split.pairWith first sep more = (.pair first sep second, rest) := by
    unfold split.pairWith
    rw [hmore]
  rw [split_of_address (by rw [h]; simp), h]
  cases sep <;> exact hpair

theorem Separator.endsAddress (sep : Separator) (t : Text) : EndsAddress (sep.char :: t) := by
  rintro c ⟨⟩
  cases sep <;> decide

/-- A range that is typed in front of a text is read back, and the text is left. -/
theorem Range.split_written {r : Range} (h : r.Typable) (hrest : EndsAddress rest)
    (hsingle : ∀ a, r = .single a → EndsSingle rest) :
    split (r.written ++ rest) = (r, rest) := by
  cases r with
  | implicit => exact h.elim
  | whole => rfl
  | single a => exact split_single (Address.split?_written h hrest) (hsingle a rfl)
  | pair first sep second =>
    obtain ⟨hfirst, hsecond⟩ := h
    rw [written, List.append_assoc]
    exact split_pair (Address.split?_written hfirst (sep.endsAddress _))
      (Address.split?_written hsecond hrest)

end Reading

/-- The delimiter in a pattern is escaped, and the largest numbers are read as they are. -/
theorem Range.split_written_of_large_numbers :
    let r : Range := .pair { base := .search .forward "a/b".toList, offset := -2 } .semicolon
      { base := .number maxCount, offset := maxOffset }
    r.Typable ∧ EndsAddress ['d'] ∧
    r.written = "/a\\/b/-2;18446744073709551615+9223372036854775807".toList ∧
    split ("/a\\/b/-2;18446744073709551615+9223372036854775807".toList ++ ['d']) = (r, ['d']) := by
  intro r
  have hpattern : Text.Paired '/' "a/b".toList :=
    .char (by decide) (.char (by decide) (.char (by decide) .nil))
  have hr : r.Typable :=
    ⟨⟨hpattern, by decide, by decide⟩, ⟨Nat.le_refl _, by decide, by decide⟩⟩
  have hrest : EndsAddress ['d'] := by
    rintro c ⟨⟩
    decide
  have hwritten : r.written =
      "/a\\/b/-2;18446744073709551615+9223372036854775807".toList := by
    simp only [r, written, Address.written, Base.written, Address.writtenOffset, Text.ofNat_eq]
    decide
  have hpair : ∀ a, r = .single a → EndsSingle ['d'] := nofun
  have hread := split_written hr hrest hpair
  rw [hwritten] at hread
  exact ⟨hr, hrest, hwritten, hread⟩

end ModalEditor
