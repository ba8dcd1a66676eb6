import ModalEditor.Pattern.Matching
import ModalEditor.Text.Number
import ModalEditor.Text.Utf8

/-!
# Patterns of the tools

The tools write patterns in two older dialects. In both, a dot, a bracket and a star are special.
Parentheses, braces, `|`, `+` and `?` are special with a backslash in the basic dialect and without
one in the extended dialect, where the backslash takes the meaning away.

A pattern is cut into marks, and the marks are put together one at a time; an open group keeps what
stands in front of it on a stack. The tools match single bytes, each taken as the character with its
number.
-/

namespace ModalEditor.Shell.BasicPattern

open Pattern (Expr Program)

/-- A part of a written pattern. -/
inductive Mark where
  /-- One character of a set. -/
  | chars (s : CharSet)
  /-- Repeats what stands in front; without a limit if there is no greatest number. -/
  | repeated (least : Nat) (most : Option Nat)
  /-- Opens a group. -/
  | opening
  /-- Closes a group. -/
  | closing
  /-- Stands between alternatives. -/
  | alternative
  /-- A test of the position. -/
  | test (l : Pattern.Look)
deriving Repr, DecidableEq

/-- What a character of an operator stands for. -/
def operator? (c : Char) : Option Mark :=
  match c with
  | '(' => some .opening
  | ')' => some .closing
  | '|' => some .alternative
  | '+' => some (.repeated 1 none)
  | '?' => some (.repeated 0 (some 1))
  | _ => none

/-- The members of a named class. -/
def classMembers (name : Text) : CharSet :=
  let members (p : Char → Bool) : CharSet :=
    .ofRanges (((List.range 128).filter fun n => p (Char.ofNat n)).map fun n => (n, n))
  match String.ofList name with
  | "upper" => members Char.isUpper
  | "lower" => members Char.isLower
  | "alpha" => members Char.isAlpha
  | "digit" => members Char.isDigit
  | "alnum" => members Char.isAlphanum
  | "space" => members isBlank
  | "blank" => members fun c => c == ' ' || c == '\t'
  | "punct" => members fun c => 32 < c.toNat && c.toNat < 127 && !c.isAlphanum
  | _ => .empty

/-- Reads the members of a bracket up to its end, in at most `fuel` steps. -/
def members? (fuel : Nat) (first : Bool) (s : CharSet) (t : Text) : Option (CharSet × Text) :=
  match fuel, t with
  | fuel + 1, '[' :: ':' :: rest =>
    match Text.cut? ':' rest with
    | some (name, ']' :: rest) => members? fuel false (s.union (classMembers name)) rest
    | _ => members? fuel false (s.union (.singleton '[')) (':' :: rest)
  | fuel + 1, c :: rest =>
    if c = ']' && !first then some (s, rest)
    else
      match rest with
      | '-' :: d :: rest' =>
        if d = ']' then members? fuel false (s.union (.singleton c)) rest
        else members? fuel false (s.union (.ofRanges [(c.toNat, d.toNat)])) rest'
      | _ => members? fuel false (s.union (.singleton c)) rest
  | _, _ => none

/-- Reads a bracket after its opening. -/
def bracket? (t : Text) : Option (CharSet × Text) :=
  match t with
  | '^' :: rest => (members? (t.length + 1) true .empty rest).map fun (s, rest) => (s.compl, rest)
  | _ => members? (t.length + 1) true .empty t

/-- Reads the numbers of a counted repetition after its opening. -/
def counted? (extended : Bool) (t : Text) : Option (Mark × Text) := do
  let (inside, rest) ← Text.cut? '\x7d' t
  let inside ← if extended then some inside else Text.beforeFinal? '\\' inside
  let mark ← match Text.cut? ',' inside with
    | none => (Text.count? inside).map fun n => Mark.repeated n (some n)
    | some (least, most) =>
      let least := (Text.count? least).getD 0
      if most.isEmpty then some (.repeated least none)
      else (Text.count? most).map fun n => .repeated least (some n)
  return (mark, rest)

/-- The mark of an escaped character that is no operator. -/
def escaped (c : Char) : Mark :=
  match c with
  | 'w' => .chars ((classMembers "alnum".toList).union (.singleton '_'))
  | 'W' => .chars ((classMembers "alnum".toList).union (.singleton '_')).compl
  | 's' => .chars (classMembers "space".toList)
  | 'S' => .chars (classMembers "space".toList).compl
  | 'b' => .test (.word .boundary false)
  | 'B' => .test (.word .noBoundary false)
  | '<' => .test (.word .start false)
  | '>' => .test (.word .stop false)
  | 'n' => .chars (.singleton '\n')
  | 't' => .chars (.singleton '\t')
  | c => .chars (.singleton c)

/-- Nothing stands in front that could be repeated. -/
def atStart (before : Option Mark) : Bool :=
  match before with
  | none | some .opening | some .alternative => true
  | some _ => false

/-- A branch of a basic pattern ends here. -/
def atEnd (t : Text) : Bool :=
  t.isEmpty || ")|".toList.any fun c => (Text.after? ['\\', c] t).isSome

/-- The first mark of a pattern and the rest; `before` is the mark in front of it. -/
def mark? (extended : Bool) (before : Option Mark) (t : Text) : Option (Mark × Text) :=
  let itself (c : Char) : Mark := .chars (.singleton c)
  match t with
  | [] | ['\\'] => none
  | '\\' :: c :: rest =>
    if extended then some (if (operator? c).isSome then itself c else escaped c, rest)
    else if c = '\x7b' then counted? false rest
    else some ((operator? c).getD (escaped c), rest)
  | '.' :: rest => some (.chars CharSet.empty.compl, rest)
  | '[' :: rest => (bracket? rest).map fun (s, rest) => (.chars s, rest)
  | '*' :: rest => some (if atStart before then itself '*' else .repeated 0 none, rest)
  | '^' :: rest =>
    some (if extended || atStart before then .test .textStart else itself '^', rest)
  | '$' :: rest => some (if extended || atEnd rest then .test .textEnd else itself '$', rest)
  | c :: rest =>
    if !extended then some (itself c, rest)
    else if c = '\x7b' && !atStart before then counted? true rest
    else some ((operator? c).getD (itself c), rest)

/-- Cuts a pattern into marks, in at most `fuel` steps; `before` is the mark in front. -/
def marks? (extended : Bool) (fuel : Nat) (before : Option Mark) (t : Text) :
    Option (List Mark) :=
  match fuel with
  | 0 => none
  | fuel + 1 =>
    if t.isEmpty then some []
    else do
      let (m, rest) ← mark? extended before t
      return m :: (← marks? extended fuel (some m) rest)

/-- A group that is being read. -/
structure Group where
  /-- Its number. -/
  index : Nat := 0
  /-- The alternatives that are complete. -/
  earlier : Option Expr := none
  /-- The parts of the one at hand, last first. -/
  parts : List Expr := []

/-- What a group matches. -/
def Group.expr (g : Group) : Expr :=
  let last := g.parts.foldl (fun e part => .seq part e) .empty
  match g.earlier with
  | none => last
  | some e => .either e last

/-- Where putting together stands. -/
structure Composer where
  /-- The group at hand. -/
  group : Group := {}
  /-- The groups around it, innermost first. -/
  outer : List Group := []
  /-- Number of groups so far. -/
  count : Nat := 0

/-- Adds a mark, if it can stand there. -/
def Composer.next? (p : Composer) (m : Mark) : Option Composer :=
  let add (g : Group) (e : Expr) : Group := { g with parts := e :: g.parts }
  match m with
  | .chars s => some { p with group := add p.group (.chars s) }
  | .test l => some { p with group := add p.group (.look l) }
  | .repeated least most =>
    match p.group.parts with
    | [] => none
    | e :: parts =>
      some { p with group := { p.group with parts := .repeated least most true e :: parts } }
  | .opening =>
    some { group := { index := p.count + 1 }, outer := p.group :: p.outer, count := p.count + 1 }
  | .alternative =>
    some { p with group := { p.group with earlier := some p.group.expr, parts := [] } }
  | .closing =>
    match p.outer with
    | [] => none
    | g :: outer => some { p with group := add g (.capture p.group.index p.group.expr), outer }

/-- Reads a pattern. -/
def read? (extended ignoreCase : Bool) (t : Text) : Option Program := do
  let marks ← marks? extended (t.length + 1) none t
  let fold (m : Mark) : Mark :=
    match m with
    | .chars s => .chars (if ignoreCase then CaseFold.asciiClosure s else s)
    | m => m
  let p ← (marks.map fold).foldlM (fun p m => p.next? m) ({} : Composer)
  if p.outer.isEmpty then return .ofExpr p.group.expr p.count else none

/-- The pattern of a text that stands for itself. -/
def literal (ignoreCase : Bool) (t : Text) : Program :=
  let one (c : Char) : Expr :=
    .chars (if ignoreCase then CaseFold.asciiClosure (.singleton c) else .singleton c)
  .ofExpr (t.foldr (fun c e => .seq (one c) e) .empty) 0

/-- Bytes as characters. -/
def charsOf (b : Bytes) : Text := b.map fun n => Char.ofNat n.toNat

/-- Characters as bytes. -/
def ofChars (t : Text) : Bytes := t.map fun c => UInt8.ofNat c.toNat

end ModalEditor.Shell.BasicPattern
