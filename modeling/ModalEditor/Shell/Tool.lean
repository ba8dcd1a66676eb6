import ModalEditor.Host.Disk
import ModalEditor.Text.Number

/-!
# Tools of the shell

Programs that the shell can run: small filters over bytes. Their lines end at line feeds, a last
line need not; characters are single bytes, and the order of lines is the order of their bytes.

A tool gets its arguments, its input and the disk, and leaves what it printed, what it complained
about, its status, and a disk if it has changed that.
-/

namespace ModalEditor.Shell

/-- What a tool works on. -/
structure Task where
  /-- Its arguments. -/
  args : List Text
  /-- Its input. -/
  input : Bytes
  /-- The disk. -/
  disk : Disk

/-- What a tool leaves. -/
structure Printed where
  /-- Its output. -/
  out : Bytes := []
  /-- Its complaints. -/
  err : Bytes := []
  /-- Its status; 0 is success. -/
  status : Nat := 0
  /-- It has read the input. -/
  tookInput : Bool := false
  /-- The disk, if it has changed. -/
  disk : Option Disk := none
deriving Repr, DecidableEq, Inhabited

/-- The bytes of a text. -/
def bytesOf (s : String) : Bytes := Utf8.encode s.toList

/-- A complaint on a line of its own. -/
def complaint (parts : List Text) : Bytes := Utf8.encode (parts.flatten ++ ['\n'])

/-- A tool that only complains. -/
def refused (status : Nat) (parts : List Text) : Printed := { err := complaint parts, status }

/-- A failure without the number of its error. -/
def reasonOf (f : IoFailure) : Text :=
  match Text.cut? '(' f.message with
  | some (reason, _) => Text.trimEnd reason
  | none => f.message

/-! ## Lines -/

/-- The lines of some bytes. -/
def linesOf (b : Bytes) : List Bytes :=
  let pieces := b.splitOn 10
  if pieces.getLast? = some [] then pieces.dropLast else pieces

/-- Lines as bytes, each with its line feed. -/
def ofLines (lines : List Bytes) : Bytes := lines.flatMap (· ++ [10])

/-- The order of bytes. -/
def bytesLe : Bytes → Bytes → Bool
  | [], _ => true
  | _ :: _, [] => false
  | a :: as, b :: bs => a < b || (a == b && bytesLe as bs)

/-- A byte that separates words. -/
def isSpace (b : UInt8) : Bool := b == 32 || (9 ≤ b && b ≤ 13)

/-- A decimal digit. -/
def isDigitByte (b : UInt8) : Bool := 48 ≤ b && b ≤ 57

/-! ## Arguments -/

/-- Splits arguments into the letters of options and operands. -/
def splitOptions (args : List Text) : Text × List Text :=
  let isOption (a : Text) : Bool := a.head? == some '-' && a.length > 1
  ((args.filter isOption).flatMap (·.drop 1), args.filter fun a => !isOption a)

/-- What the operands of a filter hold. -/
structure Operands where
  /-- The contents that could be read, by their names. -/
  contents : List (Text × Bytes) := []
  /-- Complaints about the others. -/
  err : Bytes := []
  /-- The input was among them. -/
  tookInput : Bool := false
deriving Inhabited

/-- Reads the operands of a filter; without any it reads the input, and so does `-`. -/
def readOperands (t : Task) (complain : Text → Text → List Text) (names : List Text) : Operands :=
  if names.isEmpty then { contents := [([], t.input)], tookInput := true }
  else
    names.foldl (fun o name =>
      if name = ['-'] then
        { o with
          contents := o.contents ++ [(name, if o.tookInput then [] else t.input)]
          tookInput := true }
      else
        match t.disk.read name with
        | .ok content => { o with contents := o.contents ++ [(name, content)] }
        | .error f => { o with err := o.err ++ complaint (complain name (reasonOf f)) }) {}

/-- The contents of operands, one after the other. -/
def Operands.all (o : Operands) : Bytes := o.contents.flatMap Prod.snd

/-- A filter over the contents of its operands. -/
def filter (t : Task) (names : List Text) (status : Nat) (complain : Text → Text → List Text)
    (f : Bytes → Bytes) : Printed :=
  let o := readOperands t complain names
  { out := f o.all, err := o.err, status := if o.err.isEmpty then 0 else status,
    tookInput := o.tookInput }

/-- The usual complaint about an operand. -/
def usual (tool : String) (name reason : Text) : List Text :=
  [tool.toList, ": ".toList, name, ": ".toList, reason]

/-- The complaint about an operand that cannot be opened. -/
def cannotOpen (tool : String) (name reason : Text) : List Text :=
  [tool.toList, ": cannot open '".toList, name, "' for reading: ".toList, reason]

/-! ## Escapes -/

/-- An octal digit. -/
def octal? (c : Char) : Option Nat :=
  if '0' ≤ c && c ≤ '7' then some (c.toNat - '0'.toNat) else none

/-- The byte that an escaped letter stands for. -/
def escaped? (c : Char) : Option UInt8 :=
  match c with
  | 'a' => some 7
  | 'b' => some 8
  | 't' => some 9
  | 'n' => some 10
  | 'v' => some 11
  | 'f' => some 12
  | 'r' => some 13
  | '\\' => some 92
  | _ => none

/-- Splits up to `n` octal digits off; `value` is that of the digits before them. -/
def splitOctal (n value : Nat) (t : Text) : Nat × Text :=
  match n, t with
  | n + 1, c :: rest =>
    match octal? c with
    | some d => splitOctal n (8 * value + d) rest
    | none => (value, t)
  | _, _ => (value, t)

/-- The first of an escaped text after its backslash, as bytes, and the rest. -/
def splitEscape (t : Text) : Bytes × Text :=
  match t with
  | [] => ([92], [])
  | c :: rest =>
    match octal? c, escaped? c with
    | some _, _ =>
      let (value, rest) := splitOctal 3 0 t
      ([UInt8.ofNat value], rest)
    | none, some b => ([b], rest)
    | none, none => (92 :: Utf8.encode [c], rest)

/-- The bytes of a text with escapes, in at most `fuel` steps. -/
def unescape (fuel : Nat) (t : Text) : Bytes :=
  match fuel, t with
  | fuel + 1, '\\' :: rest =>
    let (b, rest) := splitEscape rest
    b ++ unescape fuel rest
  | fuel + 1, c :: rest => Utf8.encode [c] ++ unescape fuel rest
  | _, _ => []

/-! ## Printing -/

/-- Prints its arguments with blanks between them; `-n` leaves the line open. -/
def echo (t : Task) : Printed :=
  let (goesOn, words) : Bool × List Text :=
    match t.args with
    | ['-', 'n'] :: words => (true, words)
    | words => (false, words)
  let text := Text.join [' '] words
  { out := unescape (text.length + 1) text ++ if goesOn then [] else [10] }

/-- Blanks or zeros in front of a text, or blanks behind it, up to a width. -/
def padTo (spec : Text) (zeros : Bool) (t : Bytes) : Bytes :=
  let left := spec.head? == some '-'
  let spec := if left then spec.drop 1 else spec
  let zero := zeros && !left && spec.head? == some '0'
  let gap := List.replicate ((Text.digitsValue (spec.filter isDigit)) - t.length)
    (if zero then 48 else 32)
  if left then t ++ gap else gap ++ t

/-- The number that a text writes. -/
def intOf (t : Text) : Int := ((String.ofList t).toInt?).getD 0

/-- A conversion of a format: what it makes of an argument. -/
def convert (spec : Text) (kind : Char) (arg : Text) : Option Bytes :=
  match kind with
  | 's' => some (padTo spec false (Utf8.encode arg))
  | 'b' => some (padTo spec false (unescape (arg.length + 1) arg))
  | 'c' => some (padTo spec false (Utf8.encode (arg.take 1)))
  | 'd' | 'i' | 'u' => some (padTo spec true (bytesOf (toString (intOf arg))))
  | 'o' => some (padTo spec true (Utf8.encode (Nat.toDigits 8 (intOf arg).toNat)))
  | 'x' => some (padTo spec true (Utf8.encode (Nat.toDigits 16 (intOf arg).toNat)))
  | _ => none

/-- Goes through a format once, in at most `fuel` steps: what it prints, the arguments that it
leaves, and whether it is a format at all. -/
def formatOnce (fuel : Nat) (format : Text) (args : List Text) : Bytes × List Text × Bool :=
  match fuel, format with
  | fuel + 1, '\\' :: rest =>
    let (b, rest) := splitEscape rest
    let (out, args, good) := formatOnce fuel rest args
    (b ++ out, args, good)
  | fuel + 1, '%' :: '%' :: rest =>
    let (out, args, good) := formatOnce fuel rest args
    (37 :: out, args, good)
  | fuel + 1, '%' :: rest =>
    let isSpec (c : Char) : Bool := isDigit c || c == '-' || c == '+' || c == ' '
    match rest.dropWhile isSpec with
    | [] => ([], args, false)
    | kind :: rest' =>
      match convert (rest.takeWhile isSpec) kind (args.headD []) with
      | none => ([], args, false)
      | some b =>
        let (out, args, good) := formatOnce fuel rest' (args.drop 1)
        (b ++ out, args, good)
  | fuel + 1, c :: rest =>
    let (out, args, good) := formatOnce fuel rest args
    (Utf8.encode [c] ++ out, args, good)
  | _, _ => ([], args, true)

/-- Goes through a format until no argument is left. -/
def formatAll (rounds : Nat) (format : Text) (args : List Text) : Bytes × Bool :=
  let (out, left, good) := formatOnce (format.length + 1) format args
  match rounds with
  | rounds + 1 =>
    if !good || left.isEmpty || left.length = args.length then (out, good)
    else
      let (more, good) := formatAll rounds format left
      (out ++ more, good)
  | 0 => (out, good)

/-- Prints its arguments by a format. -/
def printf (t : Task) : Printed :=
  match if t.args.head? = some "--".toList then t.args.drop 1 else t.args with
  | [] => refused 2 ["sh: 1: printf: usage: printf format [arg ...]".toList]
  | format :: args =>
    let (out, good) := formatAll args.length format args
    if good then { out } else { refused 2 ["printf: invalid directive".toList] with out }

/-- Prints the numbers from one to another. -/
def seq (t : Task) : Printed :=
  let bounds : Int × Int × Int :=
    match t.args.map intOf with
    | [last] => (1, 1, last)
    | [first, last] => (first, 1, last)
    | first :: step :: last :: _ => (first, step, last)
    | [] => (1, 1, 0)
  let (first, step, last) := bounds
  let count :=
    if step = 0 then 0
    else ((last - first) / step + 1).toNat
  { out := ofLines ((List.range count).map fun (i : Nat) =>
      bytesOf (toString (first + step * (i : Int)))) }

/-! ## Filters -/

/-- Copies its operands. -/
def cat (t : Task) : Printed :=
  let (letters, names) := splitOptions t.args
  match letters.find? (fun c => !(c ∈ ['u', 'n'])) with
  | some c =>
    refused 1 ["cat: invalid option -- '".toList, [c],
      "'\nTry 'cat --help' for more information.".toList]
  | none =>
    let numbered (b : Bytes) : Bytes :=
      ((linesOf b).zipIdx 1).flatMap fun (line, n) =>
        padTo ['6'] false (bytesOf (toString n)) ++ 9 :: line ++ [10]
    filter t names 1 (usual "cat") (if 'n' ∈ letters then numbered else id)

/-- Which part of its input `head` or `tail` prints. -/
structure Portion where
  /-- Bytes are counted, not lines. -/
  byBytes : Bool := false
  /-- How many, with a sign that may turn the meaning around. -/
  count : Text := ['1', '0']
  /-- The operands. -/
  names : List Text := []
deriving Repr, Inhabited

/-- Reads the arguments of `head` or `tail`. -/
def Portion.read (p : Portion) : List Text → Portion
  | ['-', 'n'] :: count :: rest => Portion.read { p with byBytes := false, count } rest
  | ['-', 'c'] :: count :: rest => Portion.read { p with byBytes := true, count } rest
  | ('-' :: 'n' :: count) :: rest => Portion.read { p with byBytes := false, count } rest
  | ('-' :: 'c' :: count) :: rest => Portion.read { p with byBytes := true, count } rest
  | ('-' :: c :: count) :: rest =>
    Portion.read (if isDigit c then { p with byBytes := false, count := c :: count } else p) rest
  | name :: rest => Portion.read { p with names := p.names ++ [name] } rest
  | [] => p

/-- Cuts a portion of some bytes by `cut`, which gets the number of units and does it on lines or on
single bytes. -/
def cutPortion (tool : String) (sign : Char)
    (cut : {α : Type} → Bool → Nat → List α → List α) (t : Task) : Printed :=
  let p := Portion.read {} t.args
  let turned := p.count.head? == some sign
  let digits := if p.count.head? = some '-' || p.count.head? = some '+' then p.count.drop 1
    else p.count
  match Text.count? digits with
  | none =>
    refused 1 [tool.toList, ": invalid number of ".toList,
      (if p.byBytes then "bytes" else "lines").toList, ": '".toList, p.count, "'".toList]
  | some n =>
    filter t p.names 1 (cannotOpen tool) fun b =>
      if p.byBytes then cut turned n b
      else
        let pieces := b.splitOn 10
        if pieces.getLast? = some [] then ofLines (cut turned n pieces.dropLast)
        else
          let lines := pieces.dropLast.map (· ++ [10]) ++ pieces.getLast?.toList
          (cut turned n lines).flatten

/-- Prints the first lines, or all but the last. -/
def head : Task → Printed :=
  cutPortion "head" '-' fun turned n units =>
    if turned then units.take (units.length - n) else units.take n

/-- Prints the last lines, or those from a line on. -/
def tail : Task → Printed :=
  cutPortion "tail" '+' fun turned n units =>
    if turned then units.drop (n - 1) else units.drop (units.length - n)

/-- The number at the start of a line, in thousandths of millionths. -/
def numericKey (line : Bytes) : Int :=
  let rest := line.dropWhile isSpace
  let negative := rest.head? == some 45
  let rest := if negative then rest.drop 1 else rest
  let value (digits : Bytes) : Nat := digits.foldl (fun n b => 10 * n + (b.toNat - 48)) 0
  let fraction :=
    match rest.dropWhile isDigitByte with
    | 46 :: more => (more.takeWhile isDigitByte).take 9
    | _ => []
  let size : Nat := value (rest.takeWhile isDigitByte) * 1000000000 +
    value (fraction ++ List.replicate (9 - fraction.length) 48)
  if negative then -size else size

/-- The byte as a capital, if it is a letter. -/
def upperByte (b : UInt8) : UInt8 := if 97 ≤ b && b ≤ 122 then b - 32 else b

/-- Sorts the lines of its operands. -/
def sort (t : Task) : Printed :=
  let (letters, names) := splitOptions t.args
  match letters.find? (fun c => !(c ∈ ['r', 'n', 'u', 'f', 's', 'b'])) with
  | some c =>
    refused 2 ["sort: invalid option -- '".toList, [c],
      "'\nTry 'sort --help' for more information.".toList]
  | none =>
    let keyLe (a b : Bytes) : Bool :=
      if 'n' ∈ letters then numericKey a ≤ numericKey b
      else if 'f' ∈ letters then bytesLe (a.map upperByte) (b.map upperByte)
      else bytesLe a b
    let same (a b : Bytes) : Bool := keyLe a b && keyLe b a
    let le (a b : Bytes) : Bool :=
      if same a b then 'u' ∈ letters || 's' ∈ letters || bytesLe a b else keyLe a b
    let order (a b : Bytes) : Bool :=
      if 'r' ∈ letters then
        (if same a b && ('u' ∈ letters || 's' ∈ letters) then true else le b a)
      else le a b
    filter t names 2 (fun name reason =>
      ["sort: cannot read: ".toList, name, ": ".toList, reason]) fun b =>
      let sorted := (linesOf b).mergeSort order
      ofLines (if 'u' ∈ letters then (sorted.splitBy same).filterMap List.head? else sorted)

/-- Prints one of equal neighbouring lines. -/
def uniq (t : Task) : Printed :=
  let (letters, names) := splitOptions t.args
  filter t (names.take 1) 1 (usual "uniq") fun b =>
    let groups := (linesOf b).splitBy (· == ·)
    let chosen := groups.filter fun g =>
      (!('d' ∈ letters) || g.length > 1) && (!('u' ∈ letters) || g.length = 1)
    ofLines (chosen.filterMap fun g => g.head?.map fun line =>
      if 'c' ∈ letters then padTo ['7'] false (bytesOf (toString g.length)) ++ 32 :: line
      else line)

/-- Number of words of some bytes. -/
def wordCount (b : Bytes) : Nat :=
  (b.splitBy fun x y => isSpace x == isSpace y).countP fun g => !(g.head?.all isSpace)

/-- Counts lines, words and bytes, which are its characters, too. -/
def wc (t : Task) : Printed :=
  let (letters, names) := splitOptions t.args
  let kinds :=
    if letters.isEmpty then ['l', 'w', 'c'] else ['l', 'w', 'm', 'c'].filter (· ∈ letters)
  let o := readOperands t (usual "wc") names
  let count (b : Bytes) (kind : Char) : Nat :=
    if kind = 'l' then b.count 10 else if kind = 'w' then wordCount b else b.length
  let sizes := o.contents.map fun (_, b) => (toString b.length).length
  let width : Nat :=
    if kinds.length ≤ 1 && names.length ≤ 1 then 1
    else if o.tookInput then 7 else sizes.foldl max 1
  let row (name : Text) (counts : List Nat) : Bytes :=
    let columns := counts.map fun n => padTo (Text.ofNat width) false (bytesOf (toString n))
    [32].intercalate columns ++ (if name.isEmpty then [] else 32 :: Utf8.encode name)
  let rows := o.contents.map fun (name, b) => row name (kinds.map (count b))
  let total := if o.contents.length > 1 then [row "total".toList (kinds.map (count o.all))] else []
  { out := ofLines (rows ++ total), err := o.err, status := if o.err.isEmpty then 0 else 1,
    tookInput := o.tookInput }

/-- Turns every line around. -/
def rev (t : Task) : Printed :=
  filter t t.args 1 (usual "rev") fun b =>
    let pieces := b.splitOn 10
    [10].intercalate (pieces.map List.reverse)

/-- Prints the lines from last to first. -/
def tac (t : Task) : Printed :=
  filter t t.args 1 (fun name reason =>
    ["tac: failed to open '".toList, name, "' for reading: ".toList, reason]) fun b =>
    let pieces := b.splitOn 10
    if pieces.getLast? = some [] then ofLines pieces.dropLast.reverse
    else pieces.getLast?.getD [] ++ ofLines pieces.dropLast.reverse

/-- Numbers the lines that are not empty. -/
def nl (t : Task) : Printed :=
  filter t t.args 1 (usual "nl") fun b =>
    ofLines ((linesOf b).foldl (fun (n, rows) line =>
      if line.isEmpty then (n, rows ++ [List.replicate 7 32])
      else (n + 1, rows ++ [padTo ['6'] false (bytesOf (toString n)) ++ 9 :: line]))
      ((1 : Nat), ([] : List Bytes))).2

/-! ## Replacing bytes -/

/-- The bytes with a property of letters and digits. -/
def classMembers (name : Text) : List UInt8 :=
  let bytesWith (p : Char → Bool) : List UInt8 :=
    ((List.range 128).filter fun n => p (Char.ofNat n)).map UInt8.ofNat
  match String.ofList name with
  | "upper" => bytesWith Char.isUpper
  | "lower" => bytesWith Char.isLower
  | "alpha" => bytesWith Char.isAlpha
  | "digit" => bytesWith Char.isDigit
  | "alnum" => bytesWith Char.isAlphanum
  | "space" => bytesWith fun c => isSpace (UInt8.ofNat c.toNat)
  | "blank" => bytesWith fun c => c == ' ' || c == '\t'
  | "punct" => bytesWith fun c => 32 < c.toNat && c.toNat < 127 && !c.isAlphanum
  | _ => []

/-- The bytes that a set of `tr` lists, in at most `fuel` steps. -/
def setMembers (fuel : Nat) (t : Text) : List UInt8 :=
  match fuel, t with
  | fuel + 1, '[' :: ':' :: rest =>
    match Text.cut? ':' rest with
    | some (name, ']' :: rest) => classMembers name ++ setMembers fuel rest
    | _ => 91 :: 58 :: setMembers fuel rest
  | fuel + 1, '\\' :: rest =>
    let (b, rest) := splitEscape rest
    (if b.length = 2 then b.drop 1 else b) ++ setMembers fuel rest
  | fuel + 1, a :: '-' :: b :: rest =>
    (List.range (b.toNat + 1 - a.toNat)).map (fun i => UInt8.ofNat (a.toNat + i)) ++
      setMembers fuel rest
  | fuel + 1, c :: rest => Utf8.encode [c] ++ setMembers fuel rest
  | _, _ => []

/-- Takes neighbouring copies of some bytes together. -/
def squeeze (members : List UInt8) (b : Bytes) : Bytes :=
  (b.splitBy (· == ·)).flatMap fun g =>
    if g.head?.any (· ∈ members) then g.take 1 else g

/-- Replaces, removes or squeezes bytes of its input. -/
def tr (t : Task) : Printed :=
  let (letters, names) := splitOptions t.args
  let sets := names.map fun n => setMembers (n.length + 1) n
  let first := sets.headD []
  let isIn (b : UInt8) : Bool := (b ∈ first) != ('c' ∈ letters || 'C' ∈ letters)
  let second := (sets.drop 1).headD []
  let image (b : UInt8) : UInt8 :=
    if 'c' ∈ letters || 'C' ∈ letters then second.getLastD b
    else second.getD (first.length - 1 - first.reverse.idxOf b) (second.getLastD b)
  let removed := if 'd' ∈ letters then t.input.filter fun b => !isIn b else t.input
  let mapped :=
    if 'd' ∈ letters || second.isEmpty then removed
    else removed.map fun b => if isIn b then image b else b
  let squeezed :=
    if 's' ∈ letters then
      squeeze (if second.isEmpty then (List.range 256).map UInt8.ofNat |>.filter isIn else second)
        mapped
    else mapped
  if sets.isEmpty then
    refused 1 ["tr: missing operand\nTry 'tr --help' for more information.".toList]
  else if sets.length = 1 && !('d' ∈ letters || 's' ∈ letters) then
    refused 1 ["tr: missing operand after '".toList, names.headD [],
      "'\nTwo strings must be given when translating.\n".toList,
      "Try 'tr --help' for more information.".toList]
  else { out := squeezed, tookInput := true }

/-! ## The disk -/

/-- Prints the working directory. -/
def pwd (t : Task) : Printed := { out := Utf8.encode (Disk.pathOf t.disk.working ++ ['\n']) }

/-- The names in a directory. -/
def namesIn (d : Disk) (p : Place) : List Text :=
  d.entries.filterMap fun (q, _) =>
    match p.isPrefixOf? q with
    | some [name] => some name
    | _ => none

/-- Lists directories. -/
def ls (t : Task) : Printed :=
  let (letters, names) := splitOptions t.args
  let one (name : Text) : Except IoFailure (List Bytes) := do
    let p ← t.disk.locate name
    match t.disk.entry? p with
    | none => throw .missing
    | some .directory =>
      let all := if letters.contains 'a' then [['.'], ['.', '.']] ++ namesIn t.disk p
        else (namesIn t.disk p).filter fun n => n.head? ≠ some '.'
      return (all.map Utf8.encode).mergeSort bytesLe
    | some _ => return [Utf8.encode name]
  let names := if names.isEmpty then [['.']] else names
  let results := names.map fun n => (n, one n)
  let err := results.flatMap fun (n, r) =>
    match r with
    | .ok _ => []
    | .error f => complaint ["ls: cannot access '".toList, n, "': ".toList, reasonOf f]
  { out := ofLines (results.flatMap fun (_, r) => r.toOption.getD []), err,
    status := if err.isEmpty then 0 else 2 }

end ModalEditor.Shell
