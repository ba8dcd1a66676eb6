import ModalEditor.Proofs.Buffer.Marks
import ModalEditor.Proofs.Buffer.RoundTrip
import ModalEditor.Proofs.Edit.Failure
import ModalEditor.Proofs.Pattern.Matches
import Mathlib

/-!
# Substitution line by line

A substitution goes down the lines of its span while the lines it has split push the others down.
What comes of it is simple nevertheless: each line becomes its pieces (`Rule.pieces`), whatever happens
to the others, and a line moves down by the lines that those of the span above it have become besides
themselves (`Rule.place`).

The invariant is `Rule.Applied`, on a buffer whose lines are `above ++ lines ++ below`: the lines in the
middle are replaced by their pieces, and the marks are at their places. It can be built from the
top, as a substitution does, or from the bottom, as a visit of the lines one by one does.
-/

namespace ModalEditor

namespace Pattern

theorem InOrder.le_length {t : Text} {pos : Nat} {ms : List Match} (h : InOrder t pos ms) :
    pos ≤ t.length := by
  induction ms generalizing pos with
  | nil => exact h
  | cons m ms ih => exact Nat.le_trans h.1 (Nat.le_trans h.2.1 (ih h.2.2))

/-- The first match alone. -/
theorem InOrder.take_one {t : Text} {pos : Nat} {ms : List Match} (h : InOrder t pos ms) :
    InOrder t pos (ms.take 1) := by
  cases ms with
  | nil => exact h
  | cons m ms => exact ⟨h.1, h.2.1, h.2.2.le_length⟩

theorem drop_take_append_drop {t : Text} {start stop : Nat} (h : start ≤ stop) :
    (t.take stop).drop start ++ t.drop stop = t.drop start := by
  have hdrop : t.drop stop = (t.drop start).drop (stop - start) := by
    rw [List.drop_drop, Nat.add_sub_cancel' h]
  rw [List.drop_take, hdrop, List.take_append_drop]

/-- What stands between the matches stays, and each match gives way to its replacement. -/
theorem replaceFrom_inOrder {t : Text} {pos : Nat} {ms : List Match} (h : InOrder t pos ms) :
    ∃ (gaps : List Text) (tail : Text), gaps.length = ms.length ∧
      t.drop pos =
        (List.zipWith (fun gap m => gap ++ (t.take m.stop).drop m.start) gaps ms).flatten ++ tail ∧
      ∀ replacement, replaceFrom replacement t pos ms =
        (List.zipWith (fun gap m => gap ++ replacement m) gaps ms).flatten ++ tail := by
  induction ms generalizing pos with
  | nil => exact ⟨[], t.drop pos, rfl, rfl, fun _ => rfl⟩
  | cons m ms ih =>
    obtain ⟨hstart, hstop, hrest⟩ := h
    obtain ⟨gaps, tail, hlen, htext, hreplaced⟩ := ih hrest
    refine ⟨(t.take m.start).drop pos :: gaps, tail, ?_, ?_, fun replacement => ?_⟩
    · rw [List.length_cons, List.length_cons, hlen]
    · rw [List.zipWith_cons_cons, List.flatten_cons, List.append_assoc, ← htext, List.append_assoc,
        drop_take_append_drop hstop, drop_take_append_drop hstart]
    · rw [replaceFrom, hreplaced, List.zipWith_cons_cons, List.flatten_cons]
      simp only [List.append_assoc]

end Pattern

namespace Substitute

namespace Rule

variable (r : Rule)

/-- The lines that a line becomes. Without a match it stays as it is. -/
def pieces (line : Text) : List Text := if r.count line = 0 then [line] else r.linesFor line

/-- Number of lines that a line becomes besides itself. -/
def extra (line : Text) : Nat := (r.pieces line).length - 1

/-- Number of matches on some lines. -/
def total (lines : List Text) : Nat := (lines.map r.count).sum

/-- Where line `n` is when `lines`, which start at line `first`, have become their pieces. -/
def place (lines : List Text) (first n : Nat) : Nat :=
  n + ((lines.take (n - first)).map r.extra).sum

/-- The line at which replacing on `lines` ends: the last piece of the last of them with a match. -/
def EndsAt (lines : List Text) (first n : Nat) : Prop :=
  ∃ front line rest, lines = front ++ line :: rest ∧ r.count line ≠ 0 ∧ r.total rest = 0 ∧
    n = r.place lines first (first + front.length) + r.extra line

/-- The line keeps what stands between the matches that are replaced, each of them gives way to its
replacement, and its pieces are what the line breaks leave of the whole. -/
def Rewrites (line : Text) : Prop :=
  ∃ (gaps : List Text) (tail : Text), gaps.length = (r.hits line).length ∧
    line = (List.zipWith (fun gap m => gap ++ (line.take m.stop).drop m.start) gaps
      (r.hits line)).flatten ++ tail ∧
    r.pieces line = Text.splitLines ((List.zipWith (fun gap m => gap ++ r.replacement line m) gaps
      (r.hits line)).flatten ++ tail)

/-- The buffers agree in everything but lines, marks, cursor and whether they are modified. -/
def SameFile (b b' : Buffer) : Prop :=
  b' = { b with
    lines := b'.lines, marks := b'.marks, current := b'.current, modified := b'.modified }

/-- `b'` is `b` with the pieces of `middle` in their place, which is between `above` and `below`. The
cursor is left out. -/
structure Applied (above middle below : List Text) (b b' : Buffer) : Prop where
  lines : b'.lines = above ++ middle.flatMap r.pieces ++ below
  marks : b'.marks = b.marks.map fun m => (m.1, r.place middle above.length m.2)
  modified : b'.modified = (b.modified || r.total middle ≠ 0)
  rest : SameFile b b'

/-- `b'` is what a substitution on the lines of a span makes of `b`. -/
structure Substituted (s : LineSpan) (b b' : Buffer) : Prop where
  /-- Each line of the span has become its pieces. -/
  lines : b'.lines =
    b.lines.take s.first ++ (b.linesOf s).flatMap r.pieces ++ b.lines.drop (s.last + 1)
  /-- Marks are where their lines are. -/
  marks : b'.marks = b.marks.map fun m => (m.1, r.place (b.linesOf s) s.first m.2)
  /-- A line of the span is where its first piece is, and every other line is itself. -/
  places : ∀ n < b.lines.length, b'.lines[r.place (b.linesOf s) s.first n]? =
    if s.contains n then (r.pieces (b.line n)).head? else b.lines[n]?
  /-- The cursor is on the last piece of the last line that has a match. -/
  cursor : r.total (b.linesOf s) ≠ 0 → ∃ n, s.contains n = true ∧ r.count (b.line n) ≠ 0 ∧
    (∀ m, n < m → s.contains m = true → r.count (b.line m) = 0) ∧
    b'.current = r.place (b.linesOf s) s.first n + r.extra (b.line n)
  /-- If there is a match the buffer counts as modified. -/
  modified : r.total (b.linesOf s) ≠ 0 → b'.modified = true
  /-- Without a match nothing happens. -/
  unchanged : r.total (b.linesOf s) = 0 → b' = b
  /-- Nothing else happens. -/
  rest : SameFile b b'

end Rule

/-! ## Pieces and places -/

section Place

variable {r : Rule} {line : Text} {lines : List Text} {first n k : Nat}

theorem Rule.linesFor_ne_nil (r : Rule) (line : Text) : r.linesFor line ≠ [] :=
  List.splitOn_ne_nil '\n' _

theorem Rule.pieces_of_none (h : r.count line = 0) : r.pieces line = [line] := if_pos h

theorem Rule.pieces_of_some (h : r.count line ≠ 0) : r.pieces line = r.linesFor line := if_neg h

theorem Rule.extra_of_none (h : r.count line = 0) : r.extra line = 0 := by
  rw [extra, pieces_of_none h]
  rfl

/-- A line without line breaks is split at those of its replacements only. -/
theorem Rule.pieces_of_unbroken (hline : '\n' ∉ line) : r.pieces line = r.linesFor line := by
  by_cases h : r.count line = 0
  · have hits : r.hits line = [] := List.length_eq_zero_iff.mp h
    rw [pieces_of_none h, linesFor, hits]
    exact (Text.splitLines_endLines unbroken_nil hline).symm
  · exact pieces_of_some h

/-- Matches that follow one another are replaced, the first one or all of them. -/
theorem Rule.rewrites_of_inOrder (hline : '\n' ∉ line)
    (hfind : Pattern.InOrder line 0 (r.find line)) : r.Rewrites line := by
  have hhits : Pattern.InOrder line 0 (r.hits line) := by
    unfold hits
    split
    · exact hfind
    · exact hfind.take_one
  obtain ⟨gaps, tail, hlen, htext, hreplaced⟩ := Pattern.replaceFrom_inOrder hhits
  refine ⟨gaps, tail, hlen, htext, ?_⟩
  rw [pieces_of_unbroken hline, linesFor, hreplaced]

theorem Rule.length_pieces (r : Rule) (line : Text) : (r.pieces line).length = r.extra line + 1 := by
  have hpos : 0 < (r.pieces line).length := by
    unfold pieces
    split
    · exact Nat.zero_lt_one
    · exact List.length_pos_iff.mpr (r.linesFor_ne_nil line)
  rw [extra, Nat.sub_add_cancel hpos]

theorem Rule.length_flatMap_pieces (r : Rule) (lines : List Text) :
    (lines.flatMap r.pieces).length = lines.length + (lines.map r.extra).sum := by
  induction lines with
  | nil => rfl
  | cons line lines ih =>
    rw [List.flatMap_cons, List.length_append, ih, length_pieces, List.map_cons, List.sum_cons,
      List.length_cons]
    omega

@[simp] theorem Rule.total_nil (r : Rule) : r.total [] = 0 := rfl

@[simp] theorem Rule.total_cons (r : Rule) (line : Text) (lines : List Text) :
    r.total (line :: lines) = r.count line + r.total lines := List.sum_cons

theorem Rule.total_append (r : Rule) (front lines : List Text) :
    r.total (front ++ lines) = r.total front + r.total lines := by
  rw [total, List.map_append, List.sum_append]
  rfl

theorem Rule.count_of_total (h : r.total lines = 0) (hmem : line ∈ lines) : r.count line = 0 := by
  obtain ⟨front, rest, rfl⟩ := List.append_of_mem hmem
  rw [total_append, total_cons] at h
  omega

/-- Some lines have a match if one of them has. -/
theorem Rule.total_cons_ne_zero (r : Rule) (line : Text) (lines : List Text) :
    decide (r.total (line :: lines) ≠ 0) =
      (decide (r.total [line] ≠ 0) || decide (r.total lines ≠ 0)) := by
  rw [← Bool.decide_or, decide_eq_decide, total_cons, total_cons, total_nil]
  omega

@[simp] theorem Rule.place_nil (r : Rule) (first n : Nat) : r.place [] first n = n := by
  simp [place]

/-- What is above the lines, and the first of them, stay where they are. -/
theorem Rule.place_of_le (h : n ≤ first) : r.place lines first n = n := by
  rw [place, Nat.sub_eq_zero_of_le h]
  rfl

theorem Rule.place_cons (h : first < n) :
    r.place (line :: lines) first n = r.place lines (first + 1) n + r.extra line := by
  have hsub : n - first = n - (first + 1) + 1 := by omega
  rw [place, place, hsub, List.take_succ_cons, List.map_cons, List.sum_cons]
  omega

/-- Lines that stand further down move down by as much. -/
theorem Rule.place_add (r : Rule) (lines : List Text) (first n k : Nat) :
    r.place lines (first + k) (n + k) = r.place lines first n + k := by
  rw [place, place, Nat.add_sub_add_right]
  omega

/-- What is below the lines moves down by all of their pieces. -/
theorem Rule.place_of_ge (h : first + lines.length ≤ n) :
    r.place lines first n = n + (lines.map r.extra).sum := by
  rw [place, List.take_of_length_le (by omega)]

theorem Rule.place_append {front : List Text} (line : Text) (rest : List Text) :
    r.place (front ++ line :: rest) first (first + front.length) =
      first + (front.flatMap r.pieces).length := by
  rw [place, Nat.add_sub_cancel_left, List.take_left, length_flatMap_pieces]
  omega

theorem Rule.place_lt_place (r : Rule) (lines : List Text) (first : Nat) {m n : Nat} (hmn : m < n) :
    r.place lines first m < r.place lines first n := by
  have hsplit : lines.take (n - first) =
      lines.take (m - first) ++ (lines.drop (m - first)).take (n - first - (m - first)) := by
    rw [← List.take_add]
    congr 1
    omega
  unfold place
  rw [hsplit, List.map_append, List.sum_append]
  omega

theorem Rule.EndsAt.cons (h : r.EndsAt lines (first + 1 + r.extra line) n) :
    r.EndsAt (line :: lines) first n := by
  obtain ⟨front, last, rest, rfl, hlast, hrest, rfl⟩ := h
  refine ⟨line :: front, last, rest, rfl, hlast, hrest, ?_⟩
  have hbelow : first + (line :: front).length = first + 1 + front.length := by
    rw [List.length_cons]
    omega
  have hdown : first + 1 + r.extra line + front.length =
      first + 1 + front.length + r.extra line := Nat.add_right_comm _ _ _
  rw [hbelow, Rule.place_cons (by omega), hdown, Rule.place_add]

end Place

/-! ## Replacing -/

section Replace

variable {r : Rule} {line : Text} {above middle below : List Text} {b b' b₁ : Buffer}

theorem Rule.SameFile.trans {a b c : Buffer} (h : SameFile a b) (k : SameFile b c) :
    SameFile a c := by
  unfold SameFile at h k ⊢
  rw [k, h]

/-- Where there are no lines, there is nothing to do. -/
theorem Rule.applied_nil (r : Rule) (hb : b.lines = above ++ below) :
    r.Applied above [] below b b := by
  refine ⟨by simpa using hb, ?_, ?_, rfl⟩
  · simp
  · simp

/-- A line without a match is passed by. -/
theorem Rule.Applied.pass (h : r.Applied (above ++ [line]) middle below b b')
    (hline : r.count line = 0) : r.Applied above (line :: middle) below b b' := by
  refine ⟨?_, ?_, ?_, h.rest⟩
  · rw [h.lines, List.flatMap_cons, pieces_of_none hline]
    simp only [List.append_assoc]
  · rw [h.marks]
    refine List.map_congr_left fun m _ => ?_
    rw [List.length_append, List.length_singleton]
    by_cases hm : above.length < m.2
    · rw [place_cons hm, extra_of_none hline]
      rfl
    · rw [place_of_le (by omega), place_of_le (by omega)]
  · rw [h.modified, total_cons, hline, Nat.zero_add]

/-- The buffer with the pieces of the line below `above` in its place. -/
theorem Rule.replaceLine_applied (hb : b.lines = above ++ line :: below)
    (hline : r.count line ≠ 0) :
    r.Applied above [line] below b (b.replaceLines (.line above.length) (r.linesFor line)) := by
  have hlt : above.length < b.lines.length := by
    rw [hb, List.length_append, List.length_cons]
    omega
  have hextra : (r.linesFor line).length - 1 = r.extra line := by
    rw [extra, pieces_of_some hline]
  refine ⟨?_, ?_, ?_, rfl⟩
  · rw [Buffer.lines_replaceLine (r.linesFor_ne_nil line), hb, List.take_left,
      List.flatMap_singleton, pieces_of_some hline, ← List.drop_drop, List.drop_left]
    rfl
  · rw [Buffer.marks_replaceLine hlt (r.linesFor_ne_nil line), hextra]
    refine List.map_congr_left fun m _ => ?_
    split
    · rename_i hm
      rw [place_cons hm, place_nil]
    · rename_i hm
      rw [place_of_le (by omega)]
  · rw [total_cons, total_nil, Nat.add_zero, decide_eq_true hline, Bool.or_true]
    rfl

/-- After the first line come the others, which its pieces have moved down. -/
theorem Rule.Applied.then_below (h : r.Applied above [line] (middle ++ below) b b₁)
    (k : r.Applied (above ++ r.pieces line) middle below b₁ b') :
    r.Applied above (line :: middle) below b b' := by
  refine ⟨?_, ?_, ?_, h.rest.trans k.rest⟩
  · rw [k.lines, List.flatMap_cons]
    simp only [List.append_assoc]
  · rw [k.marks, h.marks, List.map_map]
    refine List.map_congr_left fun m _ => ?_
    have hlen : (above ++ r.pieces line).length = above.length + 1 + r.extra line := by
      rw [List.length_append, length_pieces]
      omega
    dsimp only [Function.comp]
    rw [hlen]
    by_cases hm : above.length < m.2
    · rw [place_cons hm, place_cons hm, place_nil, place_add]
    · have habove := Nat.le_of_not_lt hm
      rw [place_of_le habove, place_of_le habove, place_of_le (by omega)]
  · rw [k.modified, h.modified, r.total_cons_ne_zero line middle, Bool.or_assoc]

/-- The lines below first, and then the line above them, which they have not moved. -/
theorem Rule.Applied.then_above (h : r.Applied (above ++ [line]) middle below b b₁)
    (k : r.Applied above [line] (middle.flatMap r.pieces ++ below) b₁ b') :
    r.Applied above (line :: middle) below b b' := by
  refine ⟨?_, ?_, ?_, h.rest.trans k.rest⟩
  · rw [k.lines, List.flatMap_cons, List.flatMap_cons, List.flatMap_nil, List.append_nil]
    simp only [List.append_assoc]
  · rw [k.marks, h.marks, List.map_map]
    refine List.map_congr_left fun m _ => ?_
    dsimp only [Function.comp]
    rw [List.length_append, List.length_singleton]
    by_cases hm : above.length < m.2
    · have hle : above.length + 1 ≤ r.place middle (above.length + 1) m.2 := by
        unfold place
        omega
      rw [place_cons hm, place_cons (by omega), place_nil]
    · rw [place_of_le (n := m.2) (by omega), place_of_le (by omega), place_of_le (by omega)]
  · rw [k.modified, h.modified, r.total_cons_ne_zero line middle, Bool.or_assoc,
      Bool.or_comm (decide (r.total middle ≠ 0))]

/-- What a way down the lines below `above` gives: the buffer, the number of matches, and the line
where the last of the pieces ends, if there are any. -/
structure Rule.Replaces (r : Rule) (above middle below : List Text) (b : Buffer)
    (result : Buffer × Nat × Option Nat) : Prop where
  /-- The pieces of all lines are in their place. -/
  applied : r.Applied above middle below b result.1
  /-- All matches are counted. -/
  count : result.2.1 = r.total middle
  /-- The last line with a match is known. -/
  last : r.total middle ≠ 0 → ∃ n, r.EndsAt middle above.length n ∧ result.2.2 = some n

/-- The way goes on below a line without a match. -/
theorem Rule.Replaces.pass {result : Buffer × Nat × Option Nat}
    (h : r.Replaces (above ++ [line]) middle below b result) (hline : r.count line = 0) :
    r.Replaces above (line :: middle) below b result where
  applied := h.applied.pass hline
  count := by rw [h.count, total_cons, hline, Nat.zero_add]
  last htotal := by
    rw [total_cons, hline, Nat.zero_add] at htotal
    obtain ⟨n, hn, hlast⟩ := h.last htotal
    rw [List.length_append, List.length_singleton] at hn
    refine ⟨n, EndsAt.cons ?_, hlast⟩
    rwa [extra_of_none hline, Nat.add_zero]

/-- The way goes on below the pieces of a line with matches. If it finds no more of them, it is this
line where the last piece ends. -/
theorem Rule.Replaces.replaced {result : Buffer × Nat × Option Nat}
    (hb : r.Applied above [line] (middle ++ below) b b₁) (hline : r.count line ≠ 0)
    (h : r.Replaces (above ++ r.pieces line) middle below b₁ result)
    (hnone : result.2.1 = 0 → result.2.2 = none) :
    r.Replaces above (line :: middle) below b
      (result.1, r.count line + result.2.1,
        result.2.2.or (some (above.length + r.extra line))) where
  applied := hb.then_below h.applied
  count := by rw [total_cons, h.count]
  last _ := by
    by_cases hrest : r.total middle = 0
    · refine ⟨above.length + r.extra line, ⟨[], line, middle, rfl, hline, hrest, ?_⟩, ?_⟩
      · rw [List.length_nil, Nat.add_zero, place_of_le (Nat.le_refl _)]
      · rw [hnone (h.count.trans hrest), Option.none_or]
    · obtain ⟨n, hn, hlast⟩ := h.last hrest
      rw [List.length_append, length_pieces] at hn
      refine ⟨n, EndsAt.cons ?_, by rw [hlast, Option.some_or]⟩
      rwa [Nat.add_assoc, Nat.add_comm 1]

/-- Replacing goes down the lines and counts. It gives the place where it ends. -/
theorem replaceOn_applied (r : Rule) (hb : b.lines = above ++ middle ++ below) :
    r.Replaces above middle below b (replaceOn r middle.length above.length b) := by
  induction middle generalizing above b with
  | nil => exact ⟨r.applied_nil (by simpa using hb), rfl, fun h => absurd rfl h⟩
  | cons line middle ih =>
    have hline : b.lines[above.length]? = some line := by
      rw [hb, List.append_assoc, List.getElem?_append_right (Nat.le_refl _), Nat.sub_self]
      rfl
    rw [List.length_cons, replaceOn, hline]
    dsimp only
    by_cases hcount : r.count line = 0
    · have hb' : b.lines = above ++ [line] ++ middle ++ below := by
        rw [hb]
        simp only [List.append_assoc, List.cons_append, List.nil_append]
      have hrest := ih hb'
      rw [List.length_append, List.length_singleton] at hrest
      rw [if_pos hcount]
      exact hrest.pass hcount
    · have hb₁ : b.lines = above ++ line :: (middle ++ below) := by rw [hb]; simp
      have hfirst := Rule.replaceLine_applied hb₁ hcount
      have hlines : (b.replaceLines (.line above.length) (r.linesFor line)).lines =
          above ++ r.pieces line ++ middle ++ below := by
        rw [hfirst.lines]
        simp
      have hlast : above.length + ((r.linesFor line).length - 1) + 1 =
          (above ++ r.pieces line).length := by
        rw [← Rule.pieces_of_some hcount, List.length_append, Rule.length_pieces]
        omega
      have hextra : above.length + ((r.linesFor line).length - 1) = above.length + r.extra line := by
        rw [Rule.extra, Rule.pieces_of_some hcount]
      have hdone := Rule.Replaces.replaced hfirst hcount (ih hlines) fun h0 => by
        rw [replaceOn_none h0]
      rw [if_neg hcount, hlast, hextra]
      exact hdone

theorem foldl_count (r : Rule) (lines : List Text) (k : Nat) :
    lines.foldl (fun total line => total + r.count line) k = k + r.total lines := by
  induction lines generalizing k with
  | nil => rfl
  | cons line lines ih => rw [List.foldl_cons, ih, Rule.total_cons, Nat.add_assoc]

/-- Counting alone comes to the same number. -/
theorem countFrom_eq_total (r : Rule) (b : Buffer) {s : LineSpan} (hs : s.first ≤ s.last) :
    countFrom r b s.size s.first = r.total (b.linesOf s) := by
  have hlines : (b.lines.drop s.first).take s.size = b.linesOf s := by
    rw [Buffer.linesOf, List.drop_take, LineSpan.size, Nat.sub_add_comm hs]
  rw [countFrom, hlines, foldl_count, Nat.zero_add]

theorem Rule.Applied.goTo (h : r.Applied above middle below b b') (n : Nat) :
    r.Applied above middle below b (b'.goTo n) := by
  refine ⟨h.lines, h.marks, h.modified, ?_⟩
  have hrest := h.rest
  unfold SameFile at hrest ⊢
  rw [hrest]
  rfl

/-- Where the cursor was makes no difference. -/
theorem Rule.Applied.of_goTo {n : Nat} (h : r.Applied above middle below (b.goTo n) b') :
    r.Applied above middle below b b' := ⟨h.lines, h.marks, h.modified, h.rest⟩

end Replace

/-! ## Where the lines are -/

section Places

variable {r : Rule} {line : Text} {above middle below : List Text} {b b' : Buffer}

/-- A row of lines, split at one of them. -/
theorem split_at {lines : List Text} {i : Nat} (h : lines[i]? = some line) :
    ∃ front rest, lines = front ++ line :: rest ∧ front.length = i := by
  obtain ⟨hi, rfl⟩ := List.getElem?_eq_some_iff.mp h
  refine ⟨lines.take i, lines.drop (i + 1), ?_, List.length_take_of_le (Nat.le_of_lt hi)⟩
  rw [List.getElem_cons_drop, List.take_append_drop]

/-- Lines of the buffer, looked up in the row that they stand in. -/
theorem line_of_middle (hb : b.lines = above ++ middle ++ below) {n : Nat} (hge : above.length ≤ n)
    (hlt : n < above.length + middle.length) : middle[n - above.length]? = some (b.line n) := by
  have hmiddle := List.getElem?_eq_getElem (l := middle) (i := n - above.length) (by omega)
  have hline : b.lines[n]? = middle[n - above.length]? := by
    rw [hb, List.append_assoc, List.getElem?_append_right hge,
      List.getElem?_append_left (by omega)]
  rw [Buffer.line, List.getD_eq_getElem?_getD, hline, hmiddle, Option.getD_some]

/-- A line in the middle has its first piece at its place, and any other line is itself. -/
theorem Rule.Applied.places (h : r.Applied above middle below b b')
    (hb : b.lines = above ++ middle ++ below) (n : Nat) :
    b'.lines[r.place middle above.length n]? =
      if above.length ≤ n ∧ n < above.length + middle.length then (r.pieces (b.line n)).head?
      else b.lines[n]? := by
  rw [h.lines]
  rcases Nat.lt_or_ge n above.length with habove | hge
  · rw [if_neg (by omega), place_of_le (Nat.le_of_lt habove), hb, List.append_assoc,
      List.append_assoc, List.getElem?_append_left habove, List.getElem?_append_left habove]
  rcases Nat.lt_or_ge n (above.length + middle.length) with hmiddle | hbelow
  · obtain ⟨front, rest, hsplit, hlen⟩ := split_at (line_of_middle hb hge hmiddle)
    obtain rfl : n = above.length + front.length := by omega
    have hpieces : r.pieces (b.line (above.length + front.length)) ≠ [] :=
      List.ne_nil_of_length_pos (by rw [length_pieces]; exact Nat.succ_pos _)
    obtain ⟨first, others, hfirst⟩ := List.exists_cons_of_ne_nil hpieces
    rw [if_pos ⟨hge, hmiddle⟩, hsplit, place_append, List.append_assoc,
      List.getElem?_append_right (Nat.le_add_right _ _), Nat.add_sub_cancel_left,
      List.flatMap_append, List.append_assoc, List.getElem?_append_right (Nat.le_refl _),
      Nat.sub_self, List.flatMap_cons, hfirst]
    rfl
  · rw [if_neg (by omega), place_of_ge hbelow, hb, List.getElem?_append_right
      (by rw [List.length_append, length_flatMap_pieces]; omega),
      List.getElem?_append_right (by rw [List.length_append]; omega), List.length_append,
      List.length_append, length_flatMap_pieces]
    congr 1
    omega

/-- The line at which replacing ends, as a line of the buffer. -/
theorem Rule.EndsAt.last_line {place : Nat} (h : r.EndsAt middle above.length place)
    (hb : b.lines = above ++ middle ++ below) :
    ∃ n, (above.length ≤ n ∧ n < above.length + middle.length) ∧ r.count (b.line n) ≠ 0 ∧
      (∀ m, n < m → m < above.length + middle.length → r.count (b.line m) = 0) ∧
      place = r.place middle above.length n + r.extra (b.line n) := by
  obtain ⟨front, line, rest, rfl, hline, hrest, rfl⟩ := h
  have hlt : above.length + front.length < above.length + (front ++ line :: rest).length := by
    rw [List.length_append, List.length_cons]
    omega
  have hlast := line_of_middle hb (Nat.le_add_right _ front.length) hlt
  rw [Nat.add_sub_cancel_left, List.getElem?_append_right (Nat.le_refl _), Nat.sub_self] at hlast
  obtain rfl : line = b.line (above.length + front.length) := Option.some.inj hlast
  refine ⟨_, ⟨Nat.le_add_right _ _, hlt⟩, hline, fun m hm hm' => ?_, rfl⟩
  refine Rule.count_of_total hrest
    (List.mem_of_getElem? (i := m - above.length - front.length - 1) ?_)
  rw [← line_of_middle hb (by omega) hm', List.getElem?_append_right (by omega),
    List.getElem?_cons, if_neg (by omega)]

end Places

/-! ## Substitution on a span -/

section Span

variable {r : Rule} {b b' : Buffer} {s : LineSpan}

/-- The line that the cursor is sent to is there. -/
theorem Rule.Applied.le_lastLine {above middle below : List Text}
    (h : r.Applied above middle below b b') {n : Nat} (hn : r.EndsAt middle above.length n) :
    n ≤ b'.lastLine := by
  obtain ⟨front, line, rest, rfl, -, -, rfl⟩ := hn
  rw [Buffer.lastLine, h.lines, place_append, List.length_append, List.length_append,
    List.flatMap_append, List.length_append, List.flatMap_cons, List.length_append, length_pieces]
  omega

/-- On the lines of a span, once the cursor is where it belongs. -/
theorem Rule.Applied.substituted (hs : s.first ≤ s.last) (hl : s.last < b.lines.length)
    (h : r.Applied (b.lines.take s.first) (b.linesOf s) (b.lines.drop (s.last + 1)) b b')
    (hcursor : r.total (b.linesOf s) ≠ 0 → r.EndsAt (b.linesOf s) s.first b'.current)
    (hunchanged : r.total (b.linesOf s) = 0 → b' = b) : r.Substituted s b b' := by
  obtain ⟨hb, habove, hsize⟩ := b.lines_eq_span hs hl
  have hcontains : ∀ n, s.contains n = true ↔
      s.first ≤ n ∧ n < s.first + (b.linesOf s).length := by
    intro n
    rw [LineSpan.contains_iff_le, hsize, LineSpan.size]
    omega
  have hplaces := h.places hb
  have hmarks := h.marks
  rw [habove] at hplaces hmarks
  refine ⟨h.lines, hmarks, fun n _ => ?_, fun hsome => ?_, fun hsome => ?_, hunchanged, h.rest⟩
  · rw [hplaces]
    simp only [hcontains]
  · have hends := hcursor hsome
    rw [← habove] at hends
    obtain ⟨n, hn, hcount, hbelow, hcurrent⟩ := hends.last_line hb
    rw [habove] at hn hbelow hcurrent
    exact ⟨n, (hcontains n).mpr hn, hcount,
      fun m hm hin => hbelow m hm ((hcontains m).mp hin).2, hcurrent⟩
  · rw [h.modified, decide_eq_true hsome, Bool.or_true]

/-- Replacing on the lines of a span puts their pieces in their place, and goes to where it ends. -/
theorem replace_applied (r : Rule) (b : Buffer) (hs : s.first ≤ s.last)
    (hl : s.last < b.lines.length) :
    r.Applied (b.lines.take s.first) (b.linesOf s) (b.lines.drop (s.last + 1)) b
        (replace r s b).1 ∧
      (replace r s b).2 = r.total (b.linesOf s) ∧
      (r.total (b.linesOf s) ≠ 0 →
        r.EndsAt (b.linesOf s) s.first (replace r s b).1.current) := by
  obtain ⟨hb, habove, hsize⟩ := b.lines_eq_span hs hl
  obtain ⟨happlied, htotal, hends⟩ := replaceOn_applied r hb
  have hplace : ∀ n, r.EndsAt (b.linesOf s) s.first n →
      n ≤ (replaceOn r (b.linesOf s).length (b.lines.take s.first).length b).1.lastLine := by
    intro n hn
    rw [← habove] at hn
    exact happlied.le_lastLine hn
  rw [hsize, habove] at happlied htotal hends hplace
  by_cases h0 : r.total (b.linesOf s) = 0
  · have hnone : replaceOn r s.size s.first b = (b, 0, none) := replaceOn_none (htotal.trans h0)
    rw [hnone] at happlied htotal
    rw [replace, hnone]
    exact ⟨happlied, htotal, fun h => absurd h0 h⟩
  · obtain ⟨n, hn, hchanged⟩ := hends h0
    have hle := hplace n hn
    rw [replace]
    rcases hr : replaceOn r s.size s.first b with ⟨b₁, count, changed⟩
    rw [hr] at happlied htotal hchanged hle
    obtain rfl : changed = some n := hchanged
    refine ⟨happlied.goTo n, htotal, fun _ => ?_⟩
    rwa [show (b₁.goTo n).current = n from Nat.min_eq_left hle]

/-- A substitution works on each line alone, whatever becomes of the others. -/
theorem replace_substituted (r : Rule) (b : Buffer) (hs : s.first ≤ s.last)
    (hl : s.last < b.lines.length) :
    r.Substituted s b (replace r s b).1 ∧ (replace r s b).2 = r.total (b.linesOf s) := by
  obtain ⟨happlied, htotal, hends⟩ := replace_applied r b hs hl
  refine ⟨happlied.substituted hs hl hends fun h0 => ?_, htotal⟩
  rw [replace_none (htotal.trans h0)]

end Span

end Substitute

namespace Edit

open Substitute

variable {d : Desk} {s : LineSpan} {pattern replacement typed : Text} {flags : SubFlags}
  {o : Options} {re : Pattern}

/-- A substitution on lines of the buffer with a pattern that can be read. -/
theorem run_substitute (replacement : Text) (hs : s.first ≤ s.last)
    (hl : s.last < d.buffer.lines.length) (htyped : typedIn d.buffer pattern = some typed)
    (hre : Search.compile typed (flags.ignoresCase o) = .ok re) :
    let rule := Rule.of re replacement flags
    let b := { d.buffer with lastSearch := some typed }
    (substitute s pattern replacement flags o).run.run d =
      (.ok (rule.total (d.buffer.linesOf s)),
        { d with buffer := if flags.countOnly then b else (replace rule s b).1 }) := by
  intro rule b
  have hcheck : ¬ d.buffer.lineCount ≤ s.last := Nat.not_le_of_gt hl
  unfold substitute
  rw [run_bind, run_checkSpan, if_neg hcheck]
  dsimp only
  rw [run_bind, run_compile_of_ok htyped hre]
  dsimp only
  rw [run_bind, run_buffer]
  dsimp only
  cases flags.countOnly with
  | true =>
    have hcount := countFrom_eq_total rule b hs
    exact congrArg (fun n => (Except.ok n, { d with buffer := b })) hcount
  | false =>
    have hcount := (replace_substituted rule b hs hl).2
    exact congrArg (fun n => (Except.ok n, { d with buffer := (replace rule s b).1 })) hcount

/-- A substitution is a map on lines. Whatever it is that finds the matches of a line, each line of the
span becomes its pieces, the marks and the cursor go where their lines are, and the matches are counted.
If the matches follow one another, the pieces are what is left of the line when each of them has given
way to its replacement; those of a pattern that was typed do. With `n` it is the same number, and
nothing but the pattern is remembered. -/
theorem substitute_maps_lines :
    (∀ (r : Rule) (s : LineSpan) (b : Buffer), s.first ≤ s.last → s.last < b.lines.length →
      r.Substituted s b (replace r s b).1 ∧ (replace r s b).2 = r.total (b.linesOf s) ∧
        countFrom r b s.size s.first = r.total (b.linesOf s)) ∧
    (∀ (r : Rule) (line : Text), '\n' ∉ line → Pattern.InOrder line 0 (r.find line) →
      r.Rewrites line) ∧
    ∀ (d : Desk) (s : LineSpan) (pattern replacement typed : Text) (flags : SubFlags) (o : Options)
      (re : Pattern), s.first ≤ s.last → s.last < d.buffer.lines.length →
      typedIn d.buffer pattern = some typed →
      Search.compile typed (flags.ignoresCase o) = .ok re →
      let rule := Rule.of re replacement flags
      let b := { d.buffer with lastSearch := some typed }
      (∀ line, '\n' ∉ line → rule.Rewrites line) ∧
      ∃ b', (substitute s pattern replacement flags o).run.run d =
          (.ok (rule.total (d.buffer.linesOf s)), { d with buffer := b' }) ∧
        (flags.countOnly = false → rule.Substituted s b b') ∧
        (flags.countOnly = true → b' = b) := by
  refine ⟨fun r s b hs hl => ?_, fun r line hline hfind => Rule.rewrites_of_inOrder hline hfind, ?_⟩
  · obtain ⟨hdone, hcount⟩ := replace_substituted r b hs hl
    exact ⟨hdone, hcount, countFrom_eq_total r b hs⟩
  intro d s pattern replacement typed flags o re hs hl htyped hre rule b
  have hinOrder : ∀ line, '\n' ∉ line → rule.Rewrites line := fun line hline =>
    Rule.rewrites_of_inOrder hline (Pattern.matchesOf_inOrder hre line)
  refine ⟨hinOrder, _, run_substitute replacement hs hl htyped hre, fun hflag => ?_, fun hflag => ?_⟩
  · rw [hflag]
    exact (replace_substituted rule b hs hl).1
  · rw [hflag]
    rfl

set_option maxRecDepth 4000 in
/-- `:%s/a/x\ry/g` breaks two of three lines, one of them twice, and with a rule that finds the first
`a` by hand it comes to the same. -/
theorem substitute_maps_three_lines :
    let b : Buffer :=
      { lines := [['a', '-', 'a'], ['b'], ['c', 'a']], marks := [('a', 0), ('b', 1), ('c', 2)] }
    let r := (substitute ⟨0, 2⟩ ['a'] ['x', '\\', 'r', 'y'] { all := true } {}).run.run ⟨b, {}⟩
    let byHand : Rule :=
      { find := fun line => (line.findIdxs (· == 'a')).map fun i => ⟨i, i + 1, []⟩
        replacement := fun _ _ => ['x', '\n', 'y']
        all := true }
    r.1.toOption = some 3 ∧
      r.2.buffer.lines = [['x'], ['y', '-', 'x'], ['y'], ['b'], ['c', 'x'], ['y']] ∧
      r.2.buffer.marks = [('a', 0), ('b', 3), ('c', 4)] ∧ r.2.buffer.current = 5 ∧
      r.2.buffer.modified = true ∧
      (replace byHand ⟨0, 2⟩ b).1.lines = r.2.buffer.lines ∧ byHand.Rewrites ['a', '-', 'a'] := by
  intro b r byHand
  obtain ⟨hrule, hmap, htyped⟩ := substitute_maps_lines
  -- Of the compiled pattern no more is needed than what becomes of the three lines.
  have hpieces : ((Search.compile ['a'] false).toOption.map fun re =>
      let rule := Rule.of re ['x', '\\', 'r', 'y'] { all := true }
      (b.lines.map rule.pieces, b.lines.map rule.count)) =
      some ([[['x'], ['y', '-', 'x'], ['y']], [['b']], [['c', 'x'], ['y']]], [2, 0, 1]) := by cbv
  cases hre : Search.compile ['a'] false with
  | error err =>
    rw [hre] at hpieces
    cases hpieces
  | ok re =>
    rw [hre] at hpieces
    obtain ⟨-, b', hrun, hdone, -⟩ := htyped ⟨b, {}⟩ ⟨0, 2⟩ ['a'] ['x', '\\', 'r', 'y'] ['a']
      { all := true } {} re (by decide) (by decide) rfl hre
    obtain ⟨hlines, hmarks, -, hcursor, hmodified, -, -⟩ := hdone rfl
    obtain ⟨hall, hcounts⟩ := Prod.mk.inj (Option.some.inj hpieces)
    set rule := Rule.of re ['x', '\\', 'r', 'y'] { all := true }
    simp only [b, List.map_cons, List.map_nil, List.cons.injEq, and_true] at hall hcounts
    obtain ⟨hp₀, hp₁, hp₂⟩ := hall
    obtain ⟨hc₀, hc₁, hc₂⟩ := hcounts
    have hspan : b.linesOf ⟨0, 2⟩ = [['a', '-', 'a'], ['b'], ['c', 'a']] := rfl
    have htotal : rule.total (b.linesOf ⟨0, 2⟩) = 3 := by
      rw [hspan]
      simp [hc₀, hc₁, hc₂]
    have hsome : rule.total (b.linesOf ⟨0, 2⟩) ≠ 0 := by
      rw [htotal]
      decide
    have hlines' : b'.lines = [['x'], ['y', '-', 'x'], ['y'], ['b'], ['c', 'x'], ['y']] := by
      refine hlines.trans ?_
      change [] ++ (b.linesOf ⟨0, 2⟩).flatMap rule.pieces ++ [] = _
      simp [hspan, hp₀, hp₁, hp₂]
    have hmarks' : b'.marks = [('a', 0), ('b', 3), ('c', 4)] := by
      refine hmarks.trans ?_
      change b.marks.map (fun m => (m.1, rule.place (b.linesOf ⟨0, 2⟩) 0 m.2)) = _
      simp [b, hspan, Rule.place, Rule.extra, hp₀, hp₁]
    have hcurrent' : b'.current = 5 := by
      obtain ⟨n, hn, hcount, hbelow, hcurrent⟩ := hcursor hsome
      have hle : n ≤ 2 := (LineSpan.contains_iff_le.mp hn).2
      obtain rfl | rfl | rfl : n = 0 ∨ n = 1 ∨ n = 2 := by omega
      · have h₂ : rule.count ['c', 'a'] = 0 := hbelow 2 Nat.two_pos rfl
        rw [hc₂] at h₂
        cases h₂
      · exact absurd hc₁ hcount
      · refine hcurrent.trans ?_
        change rule.place (b.linesOf ⟨0, 2⟩) 0 2 + rule.extra ['c', 'a'] = 5
        simp [hspan, Rule.place, Rule.extra, hp₀, hp₁, hp₂]
    rw [show r = _ from hrun]
    refine ⟨congrArg some htotal, hlines', hmarks', hcurrent', hmodified hsome, ?_, ?_⟩
    · exact (hrule byHand ⟨0, 2⟩ b (by decide) (by decide)).1.lines.trans hlines'.symm
    · exact hmap byHand ['a', '-', 'a'] (by decide) (by decide)

end Edit
end ModalEditor
