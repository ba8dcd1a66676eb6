import ModalEditor.Pattern.Syntax
import ModalEditor.Text.Alphabetic
import ModalEditor.Text.Number

/-!
# Reading patterns

`Node.read` turns the text of a pattern into its tree or gives the first fault. The reader walks
the text once, left to right. Open groups and open classes are kept on stacks of their own, so
that the depth of a pattern is bounded only by the check at the end.

In verbose mode (flag `x`) blanks and comments are passed over wherever `skip` or `stepOver` is
used; every other step takes the very next character.
-/

namespace ModalEditor.Pattern

/-- Where a reader stands. -/
structure Cursor where
  /-- The text still to read. -/
  rest : Text
  /-- Blanks and comments do not count. -/
  verbose : Bool := false
  /-- Number of capturing groups so far. -/
  groups : Nat := 0
  /-- Names of groups so far, each with its number. -/
  names : List (Text × Nat) := []

/-- A step of the reader. -/
abbrev Read := StateT Cursor (Except Fault)

/-- Most levels of nesting. -/
def nestLimit : Nat := 250

/-- The rest of a pattern after blanks and comments; a comment runs from `#` to a line break. -/
def skipBlanks (inComment : Bool) : Text → Text
  | [] => []
  | c :: rest =>
    if inComment then skipBlanks (c != '\n') rest
    else if isBlank c then skipBlanks false rest
    else if c = '#' then skipBlanks true rest
    else c :: rest

namespace Read

/-- The next character. -/
def look : Read (Option Char) := return (← get).rest.head?

/-- The next character is `c`. -/
def sees (c : Char) : Read Bool := return (← look) == some c

/-- Nothing is left. -/
def atEnd : Read Bool := return (← get).rest.isEmpty

/-- Passes over blanks and comments, in verbose mode. -/
def skip : Read Unit := modify fun s =>
  if s.verbose then { s with rest := skipBlanks false s.rest } else s

/-- Takes one character. Says whether anything is left. -/
def step : Read Bool := do
  modify fun s => { s with rest := s.rest.tail }
  return !(← atEnd)

/-- Takes one character and the blanks after it. Says whether anything is left. -/
def stepOver : Read Bool := do
  if ← step then
    skip
    return !(← atEnd)
  else return false

/-- Takes `t` if the rest starts with it. -/
def stepIf (t : String) : Read Bool := do
  match Text.after? t.toList (← get).rest with
  | some rest =>
    modify fun s => { s with rest }
    return true
  | none => return false

/-- The character after the next one that counts, for telling `a-]` and `a--` from a range. In
verbose mode a single `#` is passed over like a blank; if nothing else follows, the character that
directly comes next counts. -/
def lookBeyond : Read (Option Char) := do
  let s ← get
  let tail := s.rest.tail
  if s.verbose && !s.rest.isEmpty then
    return (beyond false tail).or tail.head?
  else return tail.head?
where
  /-- The first character that is neither blank nor the first `#`. -/
  beyond (seenHash : Bool) : Text → Option Char
    | [] => none
    | c :: rest =>
      if isBlank c then beyond seenHash rest
      else if c = '#' && !seenHash then beyond true rest
      else some c

end Read

open Read

/-- Collects characters that satisfy `p`, with the blanks after each. -/
def readWhile (p : Char → Bool) : Nat → Read Text
  | 0 => return []
  | fuel + 1 => do
    match ← look with
    | some c =>
      if p c then
        let _ ← stepOver
        return c :: (← readWhile p fuel)
      else return []
    | none => return []

/-- Number of steps that any loop over the rest can take. -/
def stepsLeft : Read Nat := return (← get).rest.length + 1

/-- A decimal number of at most 32 bits, with blanks around it; none if there is no digit. -/
def readDecimal : Read (Except Fault Nat) := do
  modify fun s => { s with rest := s.rest.dropWhile isBlank }
  let digits ← readWhile isDigit (← stepsLeft)
  let _ ← readWhile isBlank (← stepsLeft)
  if digits.isEmpty then return .error .countEmpty
  else if Text.digitsValue digits < 0x100000000 then return .ok (Text.digitsValue digits)
  else return .error .decimalInvalid

/-- The character that a row of hexadecimal digits names. -/
def charOfHex (digits : Text) : Read Literal := do
  let n := CharSet.hexValue digits
  if n < 0xD800 || (0xE000 ≤ n && n ≤ 0x10FFFF) then return { char := Char.ofNat n }
  else throw .hexInvalid

/-- A fixed number of hexadecimal digits. -/
def readHexDigits : Nat → Read Text
  | 0 => return []
  | n + 1 => do
    let some c ← look | throw .escapeEnd
    unless (CharSet.hexDigit? c).isSome do throw .hexDigit
    let more ← stepOver
    if n ≠ 0 && !more then throw .escapeEnd
    return c :: (← readHexDigits n)

/-- Hexadecimal digits up to a closing brace, which is the next character afterwards. -/
def readHexBrace : Nat → Read Text
  | 0 => throw .escapeEnd
  | fuel + 1 => do
    let more ← stepOver
    if !more then throw .escapeEnd
    match ← look with
    | some '}' => return []
    | some c =>
      unless (CharSet.hexDigit? c).isSome do throw .hexDigit
      return c :: (← readHexBrace fuel)
    | none => throw .escapeEnd

/-- The rest of an escape by number: `\x41`, `\u0041`, `\U00000041` or digits in braces. The next
character is the letter. -/
def readHex (letter : Char) : Read Literal := do
  let more ← stepOver
  if !more then throw .escapeEnd
  if ← sees '{' then
    let digits ← readHexBrace (← stepsLeft)
    let _ ← stepOver
    if digits.isEmpty then throw .hexEmpty
    charOfHex digits
  else
    let width := if letter = 'x' then 2 else if letter = 'u' then 4 else 8
    let l ← charOfHex (← readHexDigits width)
    return { l with asByte := letter = 'x' }

/-- Characters up to a closing brace, which is the next character afterwards. -/
def readToBrace : Nat → Read Text
  | 0 => throw .escapeEnd
  | fuel + 1 => do
    let more ← stepOver
    if !more then throw .escapeEnd
    match ← look with
    | some '}' => return []
    | some c => return c :: (← readToBrace fuel)
    | none => throw .escapeEnd

/-- Splits at the first `!=`. -/
def cutAtUnequal? : Text → Option (Text × Text)
  | '!' :: '=' :: rest => some ([], rest)
  | c :: rest => (cutAtUnequal? rest).map fun (a, b) => (c :: a, b)
  | [] => none

/-- A property as it stands between braces. All three separators mean the same. -/
def Property.ofText (t : Text) : Property :=
  match (cutAtUnequal? t).orElse fun _ => (Text.cut? ':' t).orElse fun _ => Text.cut? '=' t with
  | some (name, value) => .valued name value
  | none => .named t

/-- The rest of a property class. The next character is the letter `p` or `P`. -/
def readProperty : Read Property := do
  let more ← stepOver
  if !more then throw .escapeEnd
  if ← sees '{' then
    let name ← readToBrace (← stepsLeft)
    let _ ← step
    return .ofText name
  else
    let some c ← look | throw .escapeEnd
    if c = '\\' then throw .propertySyntax
    let _ ← stepOver
    return .named [c]

/-- The letters in the name of a word boundary. -/
def isBoundaryLetter (c : Char) : Bool := isLetter c || c = '-'

/-- The name of a word boundary in braces, if the braces hold one and not a count. -/
def readBoundary : Read Assertion := do
  let start ← get
  if !(← sees '{') then return .wordBoundary
  let more ← stepOver
  if !more then throw .boundaryEnd
  if !((← look).any isBoundaryLetter) then
    set start
    return .wordBoundary
  let name ← readWhile isBoundaryLetter (← stepsLeft)
  if !(← sees '}') then throw .boundaryUnclosed
  let _ ← step
  if name = "start".toList then return .wordStart
  else if name = "end".toList then return .wordEnd
  else if name = "start-half".toList then return .wordStartHalf
  else if name = "end-half".toList then return .wordEndHalf
  else throw .boundaryUnknown

/-- Characters of ASCII that are neither letters nor digits nor `<` and `>` stand for themselves
after a backslash. -/
def isEscapable (c : Char) : Bool :=
  c.toNat < 0x80 && !isDigit c && !isLetter c && c != '<' && c != '>'

/-- Escapes of control characters. -/
def controlEscapes : List (Char × Char) :=
  [('a', '\x07'), ('f', '\x0c'), ('t', '\t'), ('n', '\n'), ('r', '\r'), ('v', '\x0b')]

/-- An escape. The next character is the backslash. -/
def readEscape : Read Node := do
  let more ← step
  if !more then throw .escapeEnd
  let some c ← look | throw .escapeEnd
  if isDigit c then throw .backreference
  if c = 'x' || c = 'u' || c = 'U' then return .literal (← readHex c)
  if c = 'p' || c = 'P' then return .property (← readProperty) (c = 'P')
  let _ ← step
  match c with
  | 'd' => return .shorthand .digit false
  | 's' => return .shorthand .space false
  | 'w' => return .shorthand .word false
  | 'D' => return .shorthand .digit true
  | 'S' => return .shorthand .space true
  | 'W' => return .shorthand .word true
  | 'A' => return .assertion .textStart
  | 'z' => return .assertion .textEnd
  | 'b' => return .assertion (← readBoundary)
  | 'B' => return .assertion .noWordBoundary
  | '<' => return .assertion .wordStart
  | '>' => return .assertion .wordEnd
  | _ =>
    if isEscapable c then return .literal { char := c }
    else
      match controlEscapes.lookup c with
      | some d => return .literal { char := d }
      | none => throw .escapeUnknown

/-- A character, a dot, an anchor or an escape. -/
def readPrimitive : Read Node := do
  match ← look with
  | some '\\' => readEscape
  | some '.' => let _ ← step; return .dot
  | some '^' => let _ ← step; return .assertion .lineStart
  | some '$' => let _ ← step; return .assertion .lineEnd
  | some c => let _ ← step; return .literal { char := c }
  | none => return .empty

/-! ## Classes -/

/-- The classes such as `[:alpha:]`. -/
def asciiClasses : List (String × List (Nat × Nat)) :=
  [("alnum", [(0x30, 0x39), (0x41, 0x5A), (0x61, 0x7A)]), ("alpha", [(0x41, 0x5A), (0x61, 0x7A)]),
   ("ascii", [(0x00, 0x7F)]), ("blank", [(0x09, 0x09), (0x20, 0x20)]),
   ("cntrl", [(0x00, 0x1F), (0x7F, 0x7F)]), ("digit", [(0x30, 0x39)]), ("graph", [(0x21, 0x7E)]),
   ("lower", [(0x61, 0x7A)]), ("print", [(0x20, 0x7E)]),
   ("punct", [(0x21, 0x2F), (0x3A, 0x40), (0x5B, 0x60), (0x7B, 0x7E)]),
   ("space", [(0x09, 0x0D), (0x20, 0x20)]), ("upper", [(0x41, 0x5A)]),
   ("word", [(0x30, 0x39), (0x41, 0x5A), (0x5F, 0x5F), (0x61, 0x7A)]),
   ("xdigit", [(0x30, 0x39), (0x41, 0x46), (0x61, 0x66)])]

/-- A class such as `[:^alpha:]` at the front of the text, and what follows it. -/
def asciiClass? (t : Text) : Option (ClassNode × Text) := do
  let body ← Text.after? "[:".toList t
  let (negated, body) := match body with
    | '^' :: body => (true, body)
    | body => (false, body)
  let name := body.takeWhile (· ≠ ':')
  let rest ← Text.after? ":]".toList (body.dropWhile (· ≠ ':'))
  let ranges ← asciiClasses.lookup (String.ofList name)
  return (.ascii ranges negated, rest)

/-- An open bracket or an operator that waits for its right side. -/
inductive ClassFrame where
  /-- The parts before the bracket, last first, and whether the class in it is negated. -/
  | opened (outer : List ClassNode) (negated : Bool)
  /-- The left side of an operator. -/
  | operator (op : SetOperator) (left : ClassNode)

/-- Takes literal `-` at the start of a class; says how many there are. -/
def readDashes : Nat → Read (List ClassNode)
  | 0 => return []
  | fuel + 1 => do
    if ← sees '-' then
      let more ← stepOver
      if !more then throw .classUnclosed
      return .literal { char := '-' } :: (← readDashes fuel)
    else return []

/-- The opening of a class: the bracket, `^`, and the characters that count as literal only
there. Gives the parts read, last first. -/
def openClass : Read (Bool × List ClassNode) := do
  let more ← stepOver
  if !more then throw .classUnclosed
  let negated ← sees '^'
  if negated then
    let more ← stepOver
    if !more then throw .classUnclosed
  let dashes ← readDashes (← stepsLeft)
  if dashes.isEmpty && (← sees ']') then
    let more ← stepOver
    if !more then throw .classUnclosed
    return (negated, [.literal { char := ']' }])
  return (negated, dashes)

/-- Joins a right side to the operator that waits for it. -/
def closeOperator (right : ClassNode) : List ClassFrame → ClassNode × List ClassFrame
  | .operator op left :: frames => (.binary op left right, frames)
  | frames => (right, frames)

/-- A primitive as a part of a class. -/
def partOfPrimitive : Node → Read ClassNode
  | .literal l => return .literal l
  | .property p negated => return .property p negated
  | .shorthand s negated => return .shorthand s negated
  | _ => throw .classEscape

/-- A primitive as the end of a range. -/
def endOfPrimitive : Node → Read Literal
  | .literal l => return l
  | _ => throw .classRangeEnd

/-- A character or escape within a class. -/
def readClassPrimitive : Read Node := do
  match ← look with
  | some '\\' => readEscape
  | some c => let _ ← step; return .literal { char := c }
  | none => throw .classUnclosed

/-- A character, an escape or a range within a class. -/
def readClassPart : Read ClassNode := do
  let first ← readClassPrimitive
  skip
  if ← atEnd then throw .classUnclosed
  let beyond ← lookBeyond
  if !(← sees '-') || beyond == some ']' || beyond == some '-' then
    partOfPrimitive first
  else
    let more ← stepOver
    if !more then throw .classUnclosed
    let last ← readClassPrimitive
    let first ← endOfPrimitive first
    let last ← endOfPrimitive last
    if last.char < first.char then throw .classRange
    return .range first last

/-- The operators of classes. -/
def setOperators : List (String × SetOperator) :=
  [("&&", .intersection), ("--", .difference), ("~~", .symmetricDifference)]

/-- An operator at the front of the text, and what follows it. -/
def setOperator? (t : Text) : Option (SetOperator × Text) :=
  setOperators.findSome? fun (sign, op) => (Text.after? sign.toList t).map fun rest => (op, rest)

/-- The rest of a class: `parts` holds the parts of the innermost bracket, last first, `frames` the
open brackets and operators around it, innermost first. All operators bind alike, from the left. -/
def readClass : Nat → List ClassNode → List ClassFrame → Read Node
  | 0, _, _ => throw .classUnclosed
  | fuel + 1, parts, frames => do
    skip
    let rest := (← get).rest
    if rest.head? = some '[' then
      match (if frames.isEmpty then none else asciiClass? rest) with
      | some (part, rest) =>
        modify fun s => { s with rest }
        readClass fuel (part :: parts) frames
      | none =>
        let (negated, start) ← openClass
        readClass fuel start (.opened parts negated :: frames)
    else if rest.head? = some ']' then
      let (body, frames) := closeOperator (.ofParts parts.reverse) frames
      let _ ← step
      match frames with
      | .opened _ negated :: [] => return .bracket negated body
      | .opened outer negated :: frames => readClass fuel (.bracket negated body :: outer) frames
      | _ => throw .classUnclosed
    else
      match setOperator? rest with
      | some (op, rest) =>
        modify fun s => { s with rest }
        let (left, frames) := closeOperator (.ofParts parts.reverse) frames
        readClass fuel [] (.operator op left :: frames)
      | none =>
        if rest.isEmpty then throw .classUnclosed
        readClass fuel ((← readClassPart) :: parts) frames

/-! ## Groups and repetitions -/

/-- The letters of flags. -/
def flagLetters : List (Char × Flag) :=
  [('i', .ignoreCase), ('m', .multiLine), ('s', .dotAll), ('U', .swapGreed), ('u', .unicode),
   ('R', .carriageReturns), ('x', .verbose)]

/-- Flags up to `:` or `)`, which is the next character afterwards. -/
def readFlags : Nat → List FlagItem → Read (List FlagItem)
  | 0, _ => throw .flagEnd
  | fuel + 1, items => do
    match ← look with
    | none => throw .flagEnd
    | some c =>
      if c = ':' || c = ')' then
        if items.getLast? = some .negation then throw .flagDangling
        return items
      let item ← if c = '-' then pure FlagItem.negation else
        match flagLetters.lookup c with
        | some f => pure (.flag f)
        | none => throw .flagUnknown
      if item ∈ items then throw (if c = '-' then .flagNegatedTwice else .flagTwice)
      let more ← step
      if !more then throw .flagEnd
      readFlags fuel (items ++ [item])

/-- The character may stand in the name of a group. -/
def isNameChar (first : Bool) (c : Char) : Bool :=
  if first then c = '_' || isAlphabetic c
  else c = '_' || c = '.' || c = '[' || c = ']' || isAlphanumeric c

/-- The characters of a name up to `>`, which is the next character afterwards. -/
def readNameChars (first : Bool) : Nat → Read Text
  | 0 => throw .groupNameUnclosed
  | fuel + 1 => do
    match ← look with
    | none => throw .groupNameUnclosed
    | some '>' => return []
    | some c =>
      unless isNameChar first c do throw .groupNameInvalid
      let _ ← step
      return c :: (← readNameChars false fuel)

/-- The name of a group and its `>`. The name is taken for the group numbered `index`. -/
def readName (index : Nat) : Read Unit := do
  let name ← readNameChars true (← stepsLeft)
  let _ ← step
  if name.isEmpty then throw .groupNameEmpty
  if ((← get).names.lookup name).isSome then throw .groupNameTwice
  modify fun s => { s with names := s.names ++ [(name, index)] }

/-- The number of the next capturing group. -/
def nextGroup : Read Nat := do
  modify fun s => { s with groups := s.groups + 1 }
  return (← get).groups

/-- What an opening parenthesis starts. -/
inductive Opening where
  /-- A group. -/
  | group (kind : GroupKind)
  /-- Flags for the rest of the enclosing group. -/
  | flags (items : List FlagItem)

/-- An opening parenthesis with its name or flags. -/
def readOpening : Read Opening := do
  let _ ← step
  skip
  if (← stepIf "?=") || (← stepIf "?!") || (← stepIf "?<=") || (← stepIf "?<!") then
    throw .lookAround
  if (← stepIf "?P<") || (← stepIf "?<") then
    let index ← nextGroup
    readName index
    return .group (.capture index)
  else if ← stepIf "?" then
    if ← atEnd then throw .groupUnclosed
    let items ← readFlags (← stepsLeft) []
    let closes ← sees ')'
    let _ ← step
    if closes then
      if items.isEmpty then throw .repeatMissing
      return .flags items
    else return .group (.plain items)
  else return .group (.capture (← nextGroup))

/-- A repetition after `?`, `*` or `+`, which is the next character. -/
def readMark (least : Nat) (most : Option Nat) (sub : Node) : Read Node := do
  let more ← step
  if more && (← sees '?') then
    let _ ← step
    return .repeated least most false sub
  else return .repeated least most true sub

/-- The counts of a repetition in braces. The next character is the opening brace. -/
def readCounts : Read (Nat × Option Nat) := do
  let more ← stepOver
  if !more then throw .countUnclosed
  let least ← readDecimal
  if ← atEnd then throw .countUnclosed
  if ← sees ',' then
    let more ← stepOver
    if !more then throw .countUnclosed
    if ← sees '}' then return (← ofExcept least, none)
    else
      let least ← ofExcept least
      return (least, some (← ofExcept (← readDecimal)))
  else
    let n ← ofExcept least
    return (n, some n)
where
  /-- A value or its fault. -/
  ofExcept (n : Except Fault Nat) : Read Nat := match n with
    | .ok n => return n
    | .error f => throw f

/-- A repetition with counts in braces. -/
def readCounted (sub : Node) : Read Node := do
  let (least, most) ← readCounts
  if !(← sees '}') then throw .countUnclosed
  let more ← stepOver
  let mut greedy := true
  if more && (← sees '?') then
    greedy := false
    let _ ← step
  if most.any (· < least) then throw .countRange
  return .repeated least most greedy sub

/-- The part that a repetition applies to, and the parts before it. -/
def repeatable : List Node → Read (Node × List Node)
  | [] | .empty :: _ | .flags _ :: _ => throw .repeatMissing
  | part :: parts => return (part, parts)

/-! ## The pattern -/

/-- A group or the whole pattern while it is read. -/
structure Level where
  /-- The parts of the current branch, last first. -/
  parts : List Node := []
  /-- The branches before it, last first. -/
  branches : List Node := []

/-- A group that is still open. -/
structure OpenGroup where
  /-- What stands around it. -/
  outer : Level
  /-- What the group does. -/
  kind : GroupKind
  /-- Whether blanks counted outside. -/
  verbose : Bool

/-- The tree of a finished level. -/
def Level.close (l : Level) : Node :=
  .ofBranches (Node.ofParts l.parts.reverse :: l.branches).reverse

/-- The level with one more part. -/
def Level.push (l : Level) (part : Node) : Level := { l with parts := part :: l.parts }

/-- A repetition of the last part of the level; `operator` reads how often. -/
def readRepeated (operator : Node → Read Node) (level : Level) : Read Level := do
  let (part, parts) ← repeatable level.parts
  return { level with parts := (← operator part) :: parts }

/-- Reads to the end of the pattern, inside the open groups `outer`, innermost first. -/
def readLevel : Nat → Level → List OpenGroup → Read Node
  | 0, _, _ => throw .groupUnclosed
  | fuel + 1, level, outer => do
    skip
    match ← look with
    | none => if outer.isEmpty then return level.close else throw .groupUnclosed
    | some '(' =>
      match ← readOpening with
      | .flags items =>
        modify fun s => { s with verbose := (flagState? .verbose items).getD s.verbose }
        readLevel fuel (level.push (.flags items)) outer
      | .group kind =>
        let verbose := (← get).verbose
        if let .plain items := kind then
          modify fun s => { s with verbose := (flagState? .verbose items).getD verbose }
        readLevel fuel {} ({ outer := level, kind, verbose } :: outer)
    | some ')' =>
      match outer with
      | [] => throw .groupUnopened
      | g :: outer =>
        modify fun s => { s with verbose := g.verbose }
        let _ ← step
        readLevel fuel (g.outer.push (.group g.kind level.close)) outer
    | some '|' =>
      let _ ← step
      readLevel fuel { branches := Node.ofParts level.parts.reverse :: level.branches } outer
    | some '[' =>
      let (negated, start) ← openClass
      let part ← readClass (← stepsLeft) start [.opened [] negated]
      readLevel fuel (level.push part) outer
    | some '?' => readLevel fuel (← readRepeated (readMark 0 (some 1)) level) outer
    | some '*' => readLevel fuel (← readRepeated (readMark 0 none) level) outer
    | some '+' => readLevel fuel (← readRepeated (readMark 1 none) level) outer
    | some '{' => readLevel fuel (← readRepeated readCounted level) outer
    | some _ => readLevel fuel (level.push (← readPrimitive)) outer

/-- The tree of a pattern, the names of its groups and the number of groups, or why it is none. -/
def Node.read (t : Text) : Except Fault (Node × Cursor) := do
  let (node, cursor) ← (readLevel (t.length + 1) {} []).run { rest := t }
  if nestLimit < node.depth then throw (.nestedTooDeep nestLimit)
  return (node, cursor)

end ModalEditor.Pattern
