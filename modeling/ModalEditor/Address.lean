import ModalEditor.Options
import ModalEditor.Search

/-!
# Addresses and ranges

A command of the command line can start with a range: `%` for all lines, or one address, or two
joined by `,` or `;`. An address is a base (`.`, `$`, a line number, a mark, a search) and offsets
that are added to it. A range is read without a buffer and resolved later, against the buffer that
the command works on.

`Range.split` reads a range off the front of a text; text that starts with no address has the
default range. `Range.resolve` gives the lines of a range or says why there are none.
-/

namespace ModalEditor

/-- What an address counts from. -/
inductive Base where
  /-- `.` -/
  | current
  /-- `$` -/
  | last
  /-- A line, counted from one. -/
  | number (n : Nat)
  /-- The line of a mark. -/
  | mark (name : Char)
  /-- The next line with the pattern; an empty pattern is the one searched for last. -/
  | search (direction : Direction) (pattern : Text)
deriving Repr, DecidableEq, Inhabited

/-- A line of a buffer, as typed. -/
structure Address where
  /-- What it counts from. -/
  base : Base
  /-- How many lines below the base it is. -/
  offset : Int := 0
deriving Repr, DecidableEq, Inhabited

/-- What joins two addresses. -/
inductive Separator where
  /-- `,` -/
  | comma
  /-- `;`: the second address counts from the first. -/
  | semicolon
deriving Repr, DecidableEq, Inhabited

/-- A range as typed. -/
inductive Range where
  /-- No range: the command has a default of its own. -/
  | implicit
  /-- `%` -/
  | whole
  /-- One line. -/
  | single (a : Address)
  /-- From one line to another. -/
  | pair (first : Address) (sep : Separator) (second : Address)
deriving Repr, DecidableEq, Inhabited

namespace Text

/-- The text before and after the first `delim` that no backslash escapes. -/
def cutUnescaped? (delim : Char) : Text → Option (Text × Text)
  | [] => none
  | ['\\'] => none
  | '\\' :: c :: rest => (cutUnescaped? delim rest).map fun (a, b) => ('\\' :: c :: a, b)
  | c :: rest =>
    if c = delim then some ([], rest)
    else (cutUnescaped? delim rest).map fun (a, b) => (c :: a, b)

/-- The text before and after an unescaped `delim`; without one, the whole text and nothing. -/
def cutUnescaped (delim : Char) (t : Text) : Text × Text := (cutUnescaped? delim t).getD (t, [])

/-- The text with `delim` in the place of each escaped `delim`; other escapes stay. -/
def unescape (delim : Char) : Text → Text
  | [] => []
  | '\\' :: c :: rest =>
    if c = delim then delim :: unescape delim rest else '\\' :: unescape delim (c :: rest)
  | c :: rest => c :: unescape delim rest

end Text

namespace Base

/-- Reads the base of an address off the front of a text. -/
def split? : Text → Option (Base × Text)
  | '.' :: rest => some (.current, rest)
  | '$' :: rest => some (.last, rest)
  | '\'' :: c :: rest => if isLowerLetter c then some (.mark c, rest) else none
  | '/' :: rest =>
    let (pattern, rest) := Text.cutUnescaped '/' rest
    some (.search .forward (Text.unescape '/' pattern), rest)
  | '?' :: rest =>
    let (pattern, rest) := Text.cutUnescaped '?' rest
    some (.search .backward (Text.unescape '?' pattern), rest)
  | t => (Text.splitNumber? t).map fun (n, rest) => (.number n, rest)

end Base

namespace Address

/-- An offset with a number added to or taken from it; it stays within a signed word. -/
def addOffset (offset : Int) (sign : Char) (n : Nat) : Int :=
  let n : Int := min n maxOffset
  if sign = '+' then min (offset + n) maxOffset else max (offset - n) (-maxOffset - 1)

/-- Reads offsets off the front of a text: signs, each with a number or counting for one. Gives
their sum on top of `offset`, and how many there were. -/
def splitOffsets (offset : Int) (count : Nat) : Nat → Text → Int × Nat × Text
  | fuel + 1, c :: rest =>
    if c = '+' || c = '-' then
      let (n, rest) := (Text.splitNumber? rest).getD (1, rest)
      splitOffsets (addOffset offset c n) (count + 1) fuel rest
    else (offset, count, c :: rest)
  | _, t => (offset, count, t)

/-- Reads an address off the front of a text. Offsets without a base count from the current
line. -/
def split? (t : Text) : Option (Address × Text) :=
  match Base.split? t with
  | some (base, rest) =>
    let (offset, _, rest) := splitOffsets 0 0 rest.length rest
    some ({ base, offset }, rest)
  | none =>
    let (offset, count, rest) := splitOffsets 0 0 t.length t
    if count = 0 then none else some ({ base := .current, offset }, rest)

end Address

namespace Range

/-- Reads a range off the front of a text. A pair without a second address ends at the current
line. -/
def split (t : Text) : Range × Text :=
  match t with
  | '%' :: rest => (.whole, rest)
  | _ =>
    match Address.split? t with
    | none => (.implicit, t)
    | some (first, ',' :: rest) => pairWith first .comma rest
    | some (first, ';' :: rest) => pairWith first .semicolon rest
    | some (first, rest) => (.single first, rest)
where
  /-- The pair with the address that follows, if one does. -/
  pairWith (first : Address) (sep : Separator) (rest : Text) : Range × Text :=
    match Address.split? rest with
    | some (second, rest) => (.pair first sep second, rest)
    | none => (.pair first sep { base := .current }, rest)

/-- No range was typed. -/
def isImplicit (r : Range) : Bool := r = .implicit

end Range

/-! ## Resolving -/

/-- The line that a search address finds, from line `start` on. -/
def searchLine (b : Buffer) (o : Options) (pattern : Text) (start : Nat) (direction : Direction) :
    Except EditorError Nat := do
  let pattern ←
    if pattern.isEmpty then
      match b.lastSearch with
      | some last => pure last
      | none => throw (.patternNotFound [])
    else pure pattern
  let re ← Search.compile pattern o.ignoreCase
  match Search.findLine re.isMatch b start direction o.wrapScan with
  | some n => return n
  | none => throw (.patternNotFound pattern)

/-- The line of a base. Line `0` counts as the first. -/
def Base.resolve (base : Base) (b : Buffer) (o : Options) (dot start : Nat) :
    Except EditorError Nat :=
  match base with
  | .current => .ok dot
  | .last => .ok b.lastLine
  | .number n => if b.lineCount < n then .error (.lineOutOfRange n) else .ok (n - 1)
  | .mark name =>
    match b.mark? name with
    | some n => .ok n
    | none => .error (.markNotSet name)
  | .search direction pattern => searchLine b o pattern start direction

/-- The line of an address, where `.` is line `dot` and searches start at line `start`. -/
def Address.resolve (a : Address) (b : Buffer) (o : Options) (dot start : Nat) :
    Except EditorError Nat := do
  let n := (← a.base.resolve b o dot start : Nat) + a.offset
  if n < 0 then throw (.lineOutOfRange 0)
  else if b.lineCount ≤ n.toNat then throw (.lineOutOfRange (n.toNat + 1))
  else return n.toNat

/-- The lines of a range; `fallback` is what no range stands for. -/
def Range.resolve (r : Range) (b : Buffer) (o : Options) (fallback : LineSpan) :
    Except EditorError LineSpan :=
  match r with
  | .implicit => .ok fallback
  | .whole => .ok b.wholeSpan
  | .single a => do return .line (← a.resolve b o b.current b.current)
  | .pair first sep second => do
    let start ← first.resolve b o b.current b.current
    let dot := match sep with
      | .comma => b.current
      | .semicolon => start
    let stop ← second.resolve b o dot start
    if stop < start then throw .invalidRange
    return ⟨start, stop⟩

/-- Reads and resolves a text that is a range and nothing more; an empty one is the current
line. -/
def Range.ofText (t : Text) (b : Buffer) (o : Options) : Except EditorError LineSpan :=
  let (range, rest) := Range.split (Text.trim t)
  if rest.isEmpty then range.resolve b o b.currentSpan else .error .invalidRange

end ModalEditor
