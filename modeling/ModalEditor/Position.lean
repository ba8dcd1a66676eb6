import ModalEditor.Text.Number

/-!
# Positions and spans

Lines and columns count from zero; columns count characters. A span is a run of whole lines, both
ends included, as an address of a command resolves to one. Messages count from one.
-/

namespace ModalEditor

/-- A place in a buffer. -/
structure Position where
  /-- The line. -/
  line : Nat
  /-- The column. -/
  col : Nat
deriving Repr, DecidableEq, Inhabited

namespace Position

/-- Positions are in order of their lines, those on a line in order of their columns. -/
def compare (p q : Position) : Ordering :=
  (Ord.compare p.line q.line).then (Ord.compare p.col q.col)

/-- The position as a status line shows it. -/
def display (p : Position) : String := toString (p.line + 1) ++ ":" ++ toString (p.col + 1)

/-- The position as a log shows it. -/
def describe (p : Position) : String := "Pos(" ++ toString p.line ++ ":" ++ toString p.col ++ ")"

end Position

/-- The lines from `first` to `last`. -/
structure LineSpan where
  /-- The first line. -/
  first : Nat
  /-- The last line. -/
  last : Nat
deriving Repr, DecidableEq, Inhabited

namespace LineSpan

/-- A single line. -/
def line (n : Nat) : LineSpan := ⟨n, n⟩

/-- Number of lines in the span. -/
def size (s : LineSpan) : Nat := s.last - s.first + 1

/-- The line lies in the span. -/
def contains (s : LineSpan) (n : Nat) : Bool := s.first ≤ n && n ≤ s.last

/-- The span as an address is typed. -/
def display (s : LineSpan) : String := toString (s.first + 1) ++ "," ++ toString (s.last + 1)

/-- The span as a log shows it. -/
def describe (s : LineSpan) : String :=
  "Lines(" ++ toString s.first ++ "..=" ++ toString s.last ++ ")"

end LineSpan
end ModalEditor
