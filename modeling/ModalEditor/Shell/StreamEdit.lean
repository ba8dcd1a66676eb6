import ModalEditor.Shell.BasicPattern
import ModalEditor.Shell.Tool

/-!
# Editing a stream

The tool `sed` goes through its input line by line. Each line is put into a work space, the orders
of a script that apply to it are carried out there, and what the work space holds then is printed.
A second space keeps text from one line to the next.

An order names the lines that it applies to by one address, or by two that start and end a stretch
of lines. Text is kept as characters that stand for single bytes.
-/

namespace ModalEditor.Shell.StreamEdit

open Pattern (Program Match)

/-- A line that an order names. -/
inductive LineAddress where
  /-- The line with a number. -/
  | number (n : Nat)
  /-- The last line. -/
  | last
  /-- A line in which a pattern matches. -/
  | holding (p : Program)

/-- A part of a replacement. -/
inductive Piece where
  /-- A character. -/
  | char (c : Char)
  /-- The text of a group. -/
  | group (n : Nat)
deriving Repr, DecidableEq

/-- A replacement of matches. -/
structure Substitution where
  /-- What is replaced. -/
  program : Program
  /-- What is put there. -/
  pieces : List Piece
  /-- The first match that is replaced, counted from 1. -/
  first : Nat
  /-- The matches after it are replaced, too. -/
  all : Bool
  /-- A changed work space is printed. -/
  print : Bool

/-- What is done to a line. -/
inductive Deed where
  /-- Replaces matches. -/
  | substitute (s : Substitution)
  /-- Replaces characters by others. -/
  | map (old new : Text)
  /-- Starts the next line without printing. -/
  | delete
  /-- Prints the work space. -/
  | print
  /-- Prints the work space up to its first line break. -/
  | printFirst
  /-- Prints the number of the line. -/
  | number
  /-- Ends after this line. -/
  | quit (prints : Bool)
  /-- Puts the next line in the place of the work space, or adds it to that. -/
  | next (adds : Bool)
  /-- Keeps the work space, in place of what was kept or added to that. -/
  | keep (adds : Bool)
  /-- Fetches what was kept, in place of the work space or added to that. -/
  | fetch (adds : Bool)
  /-- Exchanges the work space and what was kept. -/
  | exchange
  /-- Prints a text before the line. -/
  | before (t : Text)
  /-- Prints a text after the line. -/
  | after (t : Text)
  /-- Prints a text in place of the line. -/
  | instead (t : Text)

/-- An order of a script. -/
structure Order where
  /-- The line, or the start of the stretch of lines, that it applies to. -/
  first : Option LineAddress := none
  /-- The end of that stretch. -/
  last : Option LineAddress := none
  /-- It applies to all other lines instead. -/
  negated : Bool := false
  /-- What is done. -/
  deed : Deed

/-! ## Reading scripts -/

/-- Reads up to the mark that closes a part; a backslash keeps the mark from closing it. -/
def upTo? (mark : Char) : Text → Option (Text × Text)
  | [] => none
  | '\\' :: c :: rest =>
    (upTo? mark rest).map fun (part, rest) =>
      (if c = mark then c :: part else '\\' :: c :: part, rest)
  | c :: rest =>
    if c = mark then some ([], rest)
    else (upTo? mark rest).map fun (part, rest) => (c :: part, rest)

/-- Reads a replacement. -/
def pieces : Text → List Piece
  | [] => []
  | '\\' :: c :: rest =>
    (if isDigit c then .group (c.toNat - '0'.toNat)
     else .char (if c = 'n' then '\n' else if c = 't' then '\t' else c)) :: pieces rest
  | '&' :: rest => .group 0 :: pieces rest
  | c :: rest => .char c :: pieces rest

/-- A pattern with the characters in it that are written as an escaped letter. -/
def withControls : Text → Text
  | '\\' :: 'n' :: rest => '\n' :: withControls rest
  | '\\' :: 't' :: rest => '\t' :: withControls rest
  | '\\' :: c :: rest => '\\' :: c :: withControls rest
  | c :: rest => c :: withControls rest
  | [] => []

/-- Reads an address, if there is one. -/
def address? (extended : Bool) (t : Text) : Option (Option LineAddress × Text) :=
  match t with
  | '$' :: rest => some (some .last, rest)
  | '/' :: rest => do
    let (part, rest) ← upTo? '/' rest
    return (some (.holding (← BasicPattern.read? extended false (withControls part))), rest)
  | _ =>
    match Text.splitNumber? t with
    | some (n, rest) => some (some (.number n), rest)
    | none => some (none, t)

/-- Reads the parts of a replacement after its letter. -/
def substitution? (extended : Bool) (t : Text) : Option (Deed × Text) := do
  let mark ← t.head?
  let (pattern, rest) ← upTo? mark (t.drop 1)
  let (replacement, rest) ← upTo? mark rest
  let isFlag (c : Char) : Bool := isDigit c || ['g', 'p', 'i', 'I'].contains c
  let flags := rest.takeWhile isFlag
  let ignoreCase := flags.contains 'i' || flags.contains 'I'
  let program ← BasicPattern.read? extended ignoreCase (withControls pattern)
  let first := (Text.count? (flags.filter isDigit)).getD 1
  return (.substitute { program, pieces := pieces replacement, first, all := flags.contains 'g',
                        print := flags.contains 'p' },
          rest.dropWhile isFlag)

/-- Reads the text of an order, which goes on to the end of the line; after a lone backslash it is
the next line. -/
def orderText (t : Text) : Text × Text :=
  let line := Text.trimStart (t.takeWhile (· ≠ '\n'))
  let rest := t.dropWhile (· ≠ '\n')
  if line = ['\\'] then
    let rest := rest.drop 1
    (Text.trimStart (rest.takeWhile (· ≠ '\n')), rest.dropWhile (· ≠ '\n'))
  else ((Text.after? ['\\'] line).getD line, rest)

/-- Reads what is done. -/
def deed? (extended : Bool) (t : Text) : Option (Deed × Text) :=
  match t with
  | 's' :: rest => substitution? extended rest
  | 'y' :: rest => do
    let mark ← rest.head?
    let (a, rest) ← upTo? mark (rest.drop 1)
    let (b, rest) ← upTo? mark rest
    if a.length = b.length then return (.map a b, rest) else none
  | 'd' :: rest => some (.delete, rest)
  | 'p' :: rest => some (.print, rest)
  | 'P' :: rest => some (.printFirst, rest)
  | '=' :: rest => some (.number, rest)
  | 'q' :: rest => some (.quit true, rest)
  | 'Q' :: rest => some (.quit false, rest)
  | 'n' :: rest => some (.next false, rest)
  | 'N' :: rest => some (.next true, rest)
  | 'h' :: rest => some (.keep false, rest)
  | 'H' :: rest => some (.keep true, rest)
  | 'g' :: rest => some (.fetch false, rest)
  | 'G' :: rest => some (.fetch true, rest)
  | 'x' :: rest => some (.exchange, rest)
  | 'i' :: rest => let (text, rest) := orderText rest; some (.before text, rest)
  | 'a' :: rest => let (text, rest) := orderText rest; some (.after text, rest)
  | 'c' :: rest => let (text, rest) := orderText rest; some (.instead text, rest)
  | _ => none

/-- A character between orders. -/
def isGap (c : Char) : Bool := isBlank c || c == ';'

/-- Reads an order. -/
def order? (extended : Bool) (t : Text) : Option (Order × Text) := do
  let (first, rest) ← address? extended t
  let (last, rest) ← match first, rest with
    | some _, ',' :: rest => address? extended (Text.trimStart rest)
    | _, rest => some (none, rest)
  let rest := Text.trimStart rest
  let negated := rest.head? == some '!'
  let (deed, rest) ← deed? extended (if negated then Text.trimStart (rest.drop 1) else rest)
  let ended := (rest.dropWhile fun c => c == ' ').head?.all fun c => isGap c
  if ended then return ({ first, last, negated, deed }, rest) else none

/-- Reads a script, in at most `fuel` orders. -/
def script? (extended : Bool) (fuel : Nat) (t : Text) : Option (List Order) :=
  let t := t.dropWhile isGap
  match fuel with
  | 0 => none
  | fuel + 1 =>
    if t.isEmpty then some []
    else do
      let (o, rest) ← order? extended t
      return o :: (← script? extended fuel rest)

/-! ## Going through the lines -/

/-- How a line goes on after an order. -/
inductive Flow where
  /-- With the next order. -/
  | on
  /-- It is done with, and what the work space holds is printed. -/
  | done
  /-- It is done with. -/
  | dropped
deriving Repr, DecidableEq

/-- Where editing stands. -/
structure Work where
  /-- Only orders print. -/
  quiet : Bool
  /-- The last line of the input ends without a line feed. -/
  isOpen : Bool
  /-- The lines to come. -/
  rest : List Text
  /-- The number of the line. -/
  number : Nat := 0
  /-- The work space. -/
  space : Text := []
  /-- What is kept. -/
  kept : Text := []
  /-- Texts to print after the line. -/
  later : List Text := []
  /-- For each order whether its stretch of lines has begun. -/
  begun : List Bool
  /-- No line follows any more. -/
  ended : Bool := false
  /-- What has been printed, in pieces, the last first. -/
  out : List Text := []
  /-- What has been printed lacks a line feed. -/
  owes : Bool := false

namespace Work

/-- Prints a text and ends its line. -/
def say (w : Work) (t : Text) : Work :=
  { w with out := ((if w.owes then ['\n'] else []) ++ t ++ ['\n']) :: w.out, owes := false }

/-- Prints a text of the work space, which ends as its line did. -/
def present (w : Work) (t : Text) : Work :=
  if w.isOpen && w.rest.isEmpty then
    { w with out := ((if w.owes then ['\n'] else []) ++ t) :: w.out, owes := true }
  else w.say t

/-- The line is the one that an address names. -/
def isAt (w : Work) (a : LineAddress) : Bool :=
  match a with
  | .number n => w.number == n
  | .last => w.rest.isEmpty
  | .holding p => p.hasMatch w.space

/-- An order applies to the line, and its stretch goes on after it. -/
def applies (w : Work) (o : Order) (begun : Bool) : Bool × Bool :=
  match o.first, o.last with
  | none, _ => (true, false)
  | some a, none => (w.isAt a, false)
  | some a, some b =>
    let past : Bool := match b with
      | .number n => n ≤ w.number
      | _ => false
    if begun then
      match b with
      | .number n => (w.number ≤ n, !past)
      | _ => (true, !w.isAt b)
    else if w.isAt a then
      match b with
      | .last => (true, !w.rest.isEmpty)
      | _ => (true, !past)
    else (false, false)

/-- The matches that a replacement takes. -/
def chosen (s : Substitution) (ms : List Match) : List Match :=
  let ms := ms.drop (s.first - 1)
  if s.all then ms else ms.take 1

/-- The text of a replacement. -/
def replacement (s : Substitution) (t : Text) (m : Match) : Text :=
  s.pieces.flatMap fun p =>
    match p with
    | .char c => [c]
    | .group n => m.groupText t n

/-- A text with a replacement made, from `pos` on. -/
def replaced (s : Substitution) (t : Text) (pos : Nat) : List Match → Text
  | [] => t.drop pos
  | m :: ms => (t.take m.start).drop pos ++ replacement s t m ++ replaced s t m.stop ms

/-- Takes the next line in. -/
def advance (w : Work) (line : Text) (rest : List Text) (adds : Bool) : Work :=
  { w with
    rest
    number := w.number + 1
    space := if adds then w.space ++ '\n' :: line else line }

/-- Does what an order says. -/
def carryOut (w : Work) (d : Deed) : Work × Flow :=
  match d with
  | .substitute s =>
    let ms := chosen s (s.program.allMatches w.space)
    if ms.isEmpty then (w, .on)
    else
      let w := { w with space := replaced s w.space 0 ms }
      (if s.print then w.present w.space else w, .on)
  | .map a b =>
    ({ w with space := w.space.map fun c => ((a.zip b).lookup c).getD c }, .on)
  | .delete => (w, .dropped)
  | .print => (w.present w.space, .on)
  | .printFirst => (w.say (w.space.takeWhile (· ≠ '\n')), .on)
  | .number => (w.say (Text.ofNat w.number), .on)
  | .quit prints => ({ w with ended := true }, if prints then .done else .dropped)
  | .next adds =>
    match w.rest with
    | [] => ({ w with ended := true }, .done)
    | line :: rest =>
      let w := if adds || w.quiet then w else w.present w.space
      (w.advance line rest adds, .on)
  | .keep adds => ({ w with kept := if adds then w.kept ++ '\n' :: w.space else w.space }, .on)
  | .fetch adds => ({ w with space := if adds then w.space ++ '\n' :: w.kept else w.kept }, .on)
  | .exchange => ({ w with space := w.kept, kept := w.space }, .on)
  | .before t => (w.say t, .on)
  | .after t => ({ w with later := w.later ++ [t] }, .on)
  | .instead t => (w.say t, .dropped)

/-- Goes through the orders with the stretches that have begun; `seen` are those of the orders that
are done with. -/
def runOrders (w : Work) (seen : List Bool) : List (Order × Bool) → Work × Flow
  | [] => ({ w with begun := seen.reverse }, .done)
  | (o, begun) :: rest =>
    let (yes, goesOn) := w.applies o begun
    let (w, flow) := if yes != o.negated then w.carryOut o.deed else (w, .on)
    let seen := goesOn :: seen
    match flow with
    | .on => runOrders w seen rest
    | flow => ({ w with begun := seen.reverse ++ rest.map Prod.snd }, flow)

/-- Goes through at most `fuel` lines. -/
def run (orders : List Order) : Nat → Work → Work
  | 0, w => w
  | fuel + 1, w =>
    match w.rest with
    | [] => w
    | line :: rest =>
      if w.ended then w
      else
        let w := w.advance line rest false
        let (w, flow) := w.runOrders [] (orders.zip w.begun)
        let w := if flow = .done && !w.quiet then w.present w.space else w
        run orders fuel { (w.later.foldl say w) with later := [] }

end Work

/-- The text after the orders of a script. -/
def edit (quiet : Bool) (orders : List Order) (t : Text) : Text :=
  let pieces := Text.splitLines t
  let isOpen := pieces.getLast? ≠ some []
  let lines := if isOpen then pieces else pieces.dropLast
  let w := Work.run orders lines.length
    { quiet, isOpen, rest := lines, begun := orders.map fun _ => false }
  w.out.reverse.flatten

/-! ## Arguments -/

/-- The arguments of the tool. -/
structure Arguments where
  /-- Only orders print. -/
  quiet : Bool := false
  /-- Patterns are in the extended dialect. -/
  extended : Bool := false
  /-- The scripts. -/
  scripts : List Text := []
  /-- The operands. -/
  names : List Text := []
  /-- All arguments could be read. -/
  good : Bool := true
deriving Repr, Inhabited

/-- Reads the arguments of the tool. -/
def Arguments.read (a : Arguments) : List Text → Arguments
  | ['-', 'e'] :: script :: rest => Arguments.read { a with scripts := a.scripts ++ [script] } rest
  | ('-' :: c :: letters) :: rest =>
    let known := (c :: letters).all fun c => ['n', 'E', 'r', 's', 'u'].contains c
    Arguments.read
      { a with
        quiet := a.quiet || (c :: letters).contains 'n'
        extended := a.extended || (c :: letters).contains 'E' || (c :: letters).contains 'r'
        good := a.good && known } rest
  | name :: rest => Arguments.read { a with names := a.names ++ [name] } rest
  | [] => a

/-- Edits its operands, one after the other, by the orders of a script. -/
def tool (t : Task) : Printed :=
  let a := Arguments.read {} t.args
  let (scripts, names) :=
    if a.scripts.isEmpty then (a.names.take 1, a.names.drop 1) else (a.scripts, a.names)
  let script := BasicPattern.charsOf (Utf8.encode (Text.join ['\n'] scripts))
  let isGood := a.good && !scripts.isEmpty
  match if isGood then script? a.extended (script.length + 1) script else none with
  | none => refused 1 ["sed: the script cannot be read".toList]
  | some orders =>
    filter t names 2 (fun name reason =>
      ["sed: can't read ".toList, name, ": ".toList, reason]) fun b =>
      if b.isEmpty then []
      else BasicPattern.ofChars (edit a.quiet orders (BasicPattern.charsOf b))

end ModalEditor.Shell.StreamEdit
