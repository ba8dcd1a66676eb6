import ModalEditor.Address
import ModalEditor.Edit.Substitute

/-!
# Commands of the command line

After `:` a command is typed: a range, a name and arguments. Two forms stand before all that. `'x`
goes to a mark first and reads the rest as a command, or, if the mark turns out not to be set, reads
the same text as `"x`; and `"x` selects a register for the rest.

This module has the commands; `ExCommand.readLine` in `Ex.Reading` reads them.
-/

namespace ModalEditor

/-- Where lines are read from. -/
inductive ReadSource where
  /-- A file, or the file of the buffer. -/
  | file (path : Option Path)
  /-- What a shell command prints. -/
  | shell (command : Text)
deriving Repr, DecidableEq, Inhabited

/-- What a global command does on each line. -/
inductive GlobalAction where
  /-- Deletes it. -/
  | delete
  /-- Substitutes on it. -/
  | substitute (pattern replacement : Text) (flags : SubFlags)
  /-- Carries out normal-mode keys. -/
  | normal (keys : Text)
deriving Repr, DecidableEq, Inhabited

/-- A command of the command line. -/
inductive ExCommand where
  /-- A range alone: goes to its last line. -/
  | goto (range : Range)
  /-- `:e` -/
  | edit (path : Option Path) (force : Bool)
  /-- `:w` -/
  | write (path : Option Path) (force : Bool)
  /-- `:wq` -/
  | writeQuit (path : Option Path)
  /-- `:x`: writes if there is something to write, and quits. -/
  | exit
  /-- `:q` -/
  | quit (force : Bool)
  /-- `:bn` -/
  | nextBuffer
  /-- `:bp` -/
  | previousBuffer
  /-- `:ls` -/
  | listBuffers
  /-- `:b`: a number or a part of a name. -/
  | switchBuffer (reference : Text)
  /-- `:r` -/
  | read (range : Range) (source : ReadSource)
  /-- `:saveas` -/
  | saveAs (path : Path)
  /-- `:reg`: all registers, or those named. -/
  | showRegisters (names : Text)
  /-- `:ma`, `:k` -/
  | setMark (range : Range) (name : Char)
  /-- `:d` -/
  | delete (range : Range) (register : Option Char) (count : Option Nat)
  /-- `:y` -/
  | yank (range : Range) (register : Option Char) (count : Option Nat)
  /-- `:pu`, `:P` -/
  | put (range : Range) (register : Option Char) (above : Bool)
  /-- `:s` -/
  | substitute (range : Range) (pattern replacement : Text) (flags : SubFlags)
  /-- `:s` and `:&` alone: the last substitution again, with its flags if none are given. -/
  | repeatSubstitute (range : Range) (flags : Option SubFlags)
  /-- `:g`, `:v` -/
  | global (range : Range) (pattern : Text) (inverse : Bool) (action : GlobalAction)
  /-- `:norm` -/
  | normal (range : Range) (keys : Text)
  /-- `:!` -/
  | filter (range : Range) (command : Text)
  /-- `:set` -/
  | set (args : Text)
  /-- `'x` and a command; `otherwise` is the same text read with `"x`. -/
  | atMark (mark : Char) (next otherwise : ExCommand)
  /-- `"x` alone. -/
  | selectRegister (name : Char)
  /-- `"x` and a command. -/
  | withRegister (name : Char) (next : ExCommand)
deriving Repr, DecidableEq, Inhabited

/-- Number of commands in a command, itself included. -/
def ExCommand.nodeCount : ExCommand → Nat
  | .atMark _ next otherwise => next.nodeCount + otherwise.nodeCount + 1
  | .withRegister _ next => next.nodeCount + 1
  | _ => 1

/-- The text typed after `:`. -/
structure CommandLine where
  /-- The text. -/
  input : Text := []
deriving Repr, DecidableEq, Inhabited

namespace CommandLine

/-- The line as it is shown. -/
def display (l : CommandLine) : Text := ':' :: l.input

/-- The line with one more character. -/
def insert (l : CommandLine) (c : Char) : CommandLine := ⟨l.input ++ [c]⟩

/-- The line without its last character, and whether there was one. -/
def backspace (l : CommandLine) : CommandLine × Bool := (⟨l.input.dropLast⟩, !l.input.isEmpty)

/-- Nothing but blanks is typed. -/
def isEmpty (l : CommandLine) : Bool := Text.isBlankOnly l.input

end CommandLine
end ModalEditor
