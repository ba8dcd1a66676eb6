import ModalEditor.Shell.BasicPattern
import ModalEditor.Shell.Tool

/-!
# Selecting lines and parts of lines

The tool `grep` prints the lines in which a pattern matches, the tool `cut` prints parts of every
line.
-/

namespace ModalEditor.Shell

open Pattern (Program)

/-- What `grep` looks for. -/
structure Query where
  /-- The letters of its options. -/
  letters : Text := []
  /-- The pattern. -/
  pattern : Option Text := none
  /-- The operands. -/
  names : List Text := []
deriving Repr, Inhabited

namespace Query

/-- Reads the arguments of `grep`. -/
def read (q : Query) : List Text → Query
  | ['-', 'e'] :: pattern :: rest => Query.read { q with pattern := some pattern } rest
  | ('-' :: c :: letters) :: rest =>
    Query.read { q with letters := q.letters ++ c :: letters } rest
  | name :: rest =>
    match q.pattern with
    | none => Query.read { q with pattern := some name } rest
    | some _ => Query.read { q with names := q.names ++ [name] } rest
  | [] => q

/-- An option is given. -/
def has (q : Query) (letter : Char) : Bool := q.letters.contains letter

/-- The program of its pattern; several patterns stand on lines of their own. -/
def programs? (q : Query) (pattern : Text) : Option (List Program) :=
  (Text.splitLines (BasicPattern.charsOf (Utf8.encode pattern))).mapM fun t =>
    if q.has 'F' then some (BasicPattern.literal (q.has 'i') t)
    else BasicPattern.read? (q.has 'E') (q.has 'i') t

/-- The line is one of those that are looked for. -/
def selects (q : Query) (programs : List Program) (line : Bytes) : Bool :=
  let t := BasicPattern.charsOf line
  let found := programs.any fun p =>
    if q.has 'x' then (p.allMatches t).any fun m => m.start == 0 && m.stop == t.length
    else if q.has 'w' then
      let isWord (c : Option Char) : Bool := c.any (Pattern.isWordOf false)
      (p.allMatches t).any fun m =>
        !isWord (if m.start = 0 then none else t[m.start - 1]?) && !isWord t[m.stop]?
    else p.hasMatch t
  found != q.has 'v'

/-- The rows for the lines that are looked for, each with its number. -/
def rows (q : Query) (programs : List Program) (selected : List (Bytes × Nat)) : List Bytes :=
  selected.flatMap fun (line, n) =>
    let front : Bytes := if q.has 'n' then bytesOf (toString n) ++ [58] else []
    if q.has 'o' then
      let t := BasicPattern.charsOf line
      programs.flatMap fun p =>
        (p.allMatches t).filterMap fun m =>
          if m.start = m.stop then none else some (front ++ (line.take m.stop).drop m.start)
    else [front ++ line]

end Query

/-- Prints the lines of its operands in which a pattern matches. -/
def grep (t : Task) : Printed :=
  let q := Query.read {} t.args
  match q.pattern with
  | none =>
    refused 2 [("Usage: grep [OPTION]... PATTERNS [FILE]...\n" ++
      "Try 'grep --help' for more information.").toList]
  | some pattern =>
    match q.programs? pattern with
    | none => refused 2 ["grep: the pattern cannot be read".toList]
    | some programs =>
      let o := readOperands t (usual "grep") q.names
      let found : List (Text × List (Bytes × Nat)) := o.contents.map fun (name, b) =>
        (name, ((linesOf b).zipIdx 1).filter fun (line, _) => q.selects programs line)
      let named := (q.names.length > 1 || q.has 'H') && !q.has 'h'
      let label (name : Text) : Bytes :=
        let name := if name.isEmpty || name = ['-'] then "(standard input)".toList else name
        if named then Utf8.encode name ++ [58] else []
      let out := found.flatMap fun (name, lines) =>
        if q.has 'q' then []
        else if q.has 'l' then (if lines.isEmpty then [] else [Utf8.encode name])
        else if q.has 'c' then [label name ++ bytesOf (toString lines.length)]
        else (q.rows programs lines).map (label name ++ ·)
      let any := found.any fun (_, lines) => !lines.isEmpty
      { out := ofLines out
        err := if q.has 's' then [] else o.err
        status :=
          if !o.err.isEmpty && !(any && q.has 'q') then 2 else if any then 0 else 1
        tookInput := o.tookInput }

/-- A range of fields or columns, counted from 1. -/
structure Span where
  /-- The first. -/
  first : Nat
  /-- The last, if there is an end. -/
  last : Option Nat
deriving Repr, DecidableEq, Inhabited

/-- Reads a range. -/
def Span.read? (t : Text) : Option Span :=
  match Text.cut? '-' t with
  | none => (Text.count? t).map fun n => ⟨n, some n⟩
  | some (a, b) =>
    if a.isEmpty && b.isEmpty then none
    else do
      let first ← if a.isEmpty then some 1 else Text.count? a
      let last ← if b.isEmpty then some none else (Text.count? b).map some
      return ⟨first, last⟩

/-- The number lies in the range. -/
def Span.has (s : Span) (n : Nat) : Bool := s.first ≤ n && s.last.all fun last => n ≤ last

/-- What `cut` prints of a line. -/
structure Slice where
  /-- The letter that tells columns from fields. -/
  unit : Char := ' '
  /-- The ranges. -/
  spans : Option (List Span) := none
  /-- What separates fields. -/
  mark : Text := ['\t']
  /-- Lines without a mark are left out. -/
  markedOnly : Bool := false
  /-- The operands. -/
  names : List Text := []
deriving Repr, Inhabited

namespace Slice

/-- Adds a list of ranges. -/
def withSpans (s : Slice) (unit : Char) (list : Text) : Slice :=
  { s with unit, spans := (list.splitOn ',').mapM Span.read? }

/-- Reads the arguments of `cut`. -/
def read (s : Slice) : List Text → Slice
  | ['-', 'c'] :: list :: rest => Slice.read (s.withSpans 'c' list) rest
  | ['-', 'b'] :: list :: rest => Slice.read (s.withSpans 'c' list) rest
  | ['-', 'f'] :: list :: rest => Slice.read (s.withSpans 'f' list) rest
  | ['-', 'd'] :: mark :: rest => Slice.read { s with mark } rest
  | ('-' :: 'c' :: list) :: rest => Slice.read (s.withSpans 'c' list) rest
  | ('-' :: 'b' :: list) :: rest => Slice.read (s.withSpans 'c' list) rest
  | ('-' :: 'f' :: list) :: rest => Slice.read (s.withSpans 'f' list) rest
  | ('-' :: 'd' :: mark) :: rest => Slice.read { s with mark } rest
  | ['-', 's'] :: rest => Slice.read { s with markedOnly := true } rest
  | name :: rest => Slice.read { s with names := s.names ++ [name] } rest
  | [] => s

/-- The parts of a line that lie in a range. -/
def ofLine (s : Slice) (spans : List Span) (line : Bytes) : Option Bytes :=
  let isIn (n : Nat) : Bool := spans.any (·.has n)
  if s.unit = 'c' then some (((line.zipIdx 1).filter fun (_, n) => isIn n).map Prod.fst)
  else
    let mark := (Utf8.encode s.mark).headD 9
    let fields := line.splitOn mark
    if fields.length = 1 then (if s.markedOnly then none else some line)
    else some ([mark].intercalate (((fields.zipIdx 1).filter fun (_, n) => isIn n).map Prod.fst))

end Slice

/-- Prints parts of every line of its operands. -/
def cut (t : Task) : Printed :=
  let s := Slice.read {} t.args
  match s.spans with
  | none =>
    refused 1 [("cut: you must specify a list of bytes, characters, or fields\n" ++
      "Try 'cut --help' for more information.").toList]
  | some spans =>
    filter t s.names 1 (usual "cut") fun b => ofLines ((linesOf b).filterMap (s.ofLine spans))

end ModalEditor.Shell
