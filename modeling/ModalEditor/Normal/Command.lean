import ModalEditor.Register
import ModalEditor.Text.Number

/-!
# Normal-mode commands

In normal mode keys are commands: operators (`dd`, `yy`, `cc`, `dw`, `cw`, `x`, `p`), motions, marks
and the keys that start inserting. A count can stand before a command and, for operators, before
their second key too; the counts multiply. A register is chosen by `"x` in front.

`NormalCommand.read` reads the keys typed so far. Keys can be a command, the start of one, or
neither.
-/

namespace ModalEditor

/-- A motion of the cursor. -/
inductive Motion where
  /-- `j` -/
  | down
  /-- `k` -/
  | up
  /-- `h` -/
  | left
  /-- `l` -/
  | right
  /-- `0` -/
  | lineStart
  /-- `^` -/
  | firstNonBlank
  /-- `$` -/
  | lineEnd
  /-- `w` -/
  | wordForward
  /-- `b` -/
  | wordBackward
  /-- `gg` -/
  | firstLine
  /-- `G` -/
  | lastLine
deriving Repr, DecidableEq, Inhabited

/-- Where inserting starts. -/
inductive InsertKind where
  /-- `i`: before the cursor. -/
  | before
  /-- `a`: after the cursor. -/
  | after
  /-- `A`: at the end of the line. -/
  | lineEnd
  /-- `I`: at the start of the line. -/
  | lineStart
  /-- `o`: on a new line below. -/
  | openBelow
  /-- `O`: on a new line above. -/
  | openAbove
deriving Repr, DecidableEq, Inhabited

/-- What a command does once count and register are known. -/
inductive Action where
  /-- `dd` -/
  | deleteLines
  /-- `yy`, `Y` -/
  | yankLines
  /-- `cc` -/
  | changeLines
  /-- `dw` -/
  | deleteWords
  /-- `cw` -/
  | changeWords
  /-- `x` -/
  | deleteChars
  /-- `p`, `P` -/
  | put (before : Bool)
  /-- A motion. -/
  | move (m : Motion)
  /-- A key that starts inserting, or inserts the text that follows it at once. -/
  | insert (kind : InsertKind) (text : Option Text)
deriving Repr, DecidableEq, Inhabited

/-- A command of normal mode. -/
inductive NormalCommand where
  /-- `mx` -/
  | setMark (mark : Char)
  /-- `'x` -/
  | jumpMark (mark : Char)
  /-- `'x` and more keys: from the mark if it is set; else the keys with register `x`. -/
  | jumpMarkOr (mark : Char) (next otherwise : NormalCommand)
  /-- `{N}G` -/
  | gotoLine (n : Nat)
  /-- One command after the other. -/
  | andThen (first second : NormalCommand)
  /-- An action with its count and its register. -/
  | act (count : Option Nat) (register : Option Char) (action : Action)
deriving Repr, DecidableEq, Inhabited

/-- What a row of keys is. -/
inductive KeyReading where
  /-- A command. -/
  | complete (c : NormalCommand)
  /-- The start of a command. -/
  | incomplete
  /-- Neither. -/
  | invalid
deriving Repr, DecidableEq, Inhabited

/-- The reading of the keys after those of `first`. -/
def KeyReading.followed (first : NormalCommand) : KeyReading → KeyReading
  | .complete c => .complete (.andThen first c)
  | r => r

/-- The reading of keys after a mark, from the two readings they have. -/
def KeyReading.eitherWay (mark : Char) : KeyReading → KeyReading → KeyReading
  | .complete next, .complete otherwise => .complete (.jumpMarkOr mark next otherwise)
  | .invalid, _ => .invalid
  | _, .invalid => .invalid
  | _, _ => .incomplete

namespace NormalCommand

/-- Splits a count off the front: digits that do not start with `0`. Digits that write too large a
number are taken off but count for nothing. -/
def splitCount (keys : Text) : Option Nat × Text :=
  if keys.head? = some '0' then (none, keys)
  else (Text.count? (keys.takeWhile isDigit), keys.dropWhile isDigit)

/-- The product of two counts, as far as both are given. -/
def multiply : Option Nat → Option Nat → Option Nat
  | some m, some n => some (min (m * n) maxCount)
  | m, n => m.or n

/-- The keys that start inserting. -/
def insertKeys : List (Char × InsertKind) :=
  [('i', .before), ('a', .after), ('A', .lineEnd), ('I', .lineStart), ('o', .openBelow),
   ('O', .openAbove)]

/-- The commands without text or inner count. -/
def actions : List (String × Action) :=
  [("dd", .deleteLines), ("yy", .yankLines), ("Y", .yankLines), ("cc", .changeLines),
   ("dw", .deleteWords), ("cw", .changeWords), ("x", .deleteChars), ("p", .put false),
   ("P", .put true), ("j", .move .down), ("k", .move .up), ("h", .move .left),
   ("l", .move .right), ("0", .move .lineStart), ("^", .move .firstNonBlank),
   ("$", .move .lineEnd), ("w", .move .wordForward), ("b", .move .wordBackward),
   ("gg", .move .firstLine), ("G", .move .lastLine)]

/-- The keys that wait for another one. -/
def openKeys : List String := ["", "d", "y", "c", "g"]

/-- The action of an operator and the key after its inner count. -/
def operatorAction? : Char → Text → Option Action
  | 'd', ['d'] => some .deleteLines
  | 'y', ['y'] => some .yankLines
  | 'c', ['c'] => some .changeLines
  | 'd', ['w'] => some .deleteWords
  | 'c', ['w'] => some .changeWords
  | _, _ => none

/-- Reads an operator with an inner count, or a key that starts inserting. -/
def readCompound (count : Option Nat) (register : Option Char) : Text → KeyReading
  | [] => .incomplete
  | key :: rest =>
    match insertKeys.lookup key with
    | some kind =>
      .complete (.act count register (.insert kind (if rest.isEmpty then none else some rest)))
    | none =>
      if key ∉ ['d', 'y', 'c'] then .invalid
      else
        match splitCount rest with
        | (none, _) => .invalid
        | (some _, []) => .incomplete
        | (some inner, keys) =>
          match operatorAction? key keys with
          | some action => .complete (.act (multiply count (some inner)) register action)
          | none => .invalid

/-- Reads the keys after count and register. -/
def readAction (count : Option Nat) (register : Option Char) (keys : Text) : KeyReading :=
  if openKeys.any fun k => k.toList = keys then .incomplete
  else
    match actions.find? fun a => a.1.toList = keys with
    | some a => .complete (.act count register a.2)
    | none => readCompound count register keys

/-- Reads the keys after the register, where another count can stand. `G` with more keys after it
goes to the last line first; `again` reads those keys. -/
def readCounted (again : Text → KeyReading) (count : Option Nat) (register : Option Char)
    (keys : Text) : KeyReading :=
  let (inner, body) := splitCount keys
  match body with
  | 'G' :: next :: rest => (again (next :: rest)).followed (.act none none (.move .lastLine))
  | _ => readAction (multiply count inner) register body

/-- Reads keys; a register may have been chosen before them. Every call takes a key at least. -/
def readFrom : Nat → Option Char → Text → KeyReading
  | 0, _, _ => .incomplete
  | fuel + 1, some register, keys =>
    readCounted (readFrom fuel (some register)) none (some register) keys
  | fuel + 1, none, keys =>
    match keys with
    | [] | ['m'] | ['\''] => .incomplete
    | 'm' :: mark :: rest =>
      if isLowerLetter mark && rest.isEmpty then .complete (.setMark mark) else .invalid
    | '\'' :: mark :: rest =>
      if !isLowerLetter mark then .invalid
      else if rest.isEmpty then .complete (.jumpMark mark)
      else (readFrom fuel none rest).eitherWay mark (readFrom fuel (some mark) rest)
    | _ =>
      match splitCount keys with
      | (some n, ['G']) => .complete (.gotoLine n)
      | (some n, 'G' :: rest) => (readFrom fuel none rest).followed (.gotoLine n)
      | (_, ['"']) => .incomplete
      | (count, '"' :: register :: rest) =>
        if Register.isName register then
          readCounted (readFrom fuel (some register)) count (some register) rest
        else .invalid
      | (count, body) => readCounted (readFrom fuel none) count none body

/-- Reads the keys typed so far. -/
def read (keys : Text) : KeyReading := readFrom (keys.length + 1) none keys

end NormalCommand
end ModalEditor
