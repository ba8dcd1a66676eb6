import ModalEditor.Text.Number

/-!
# Commands of the shell

A script of the shell is a chain of pipelines; each one names when it runs, by the status of the one
before. A stage of a pipeline is a command: words, of which the first names what to run, with
assignments in front and redirections anywhere. Words keep their variables, which get their values
only when the command runs.
-/

namespace ModalEditor.Shell

/-- A part of a word. -/
inductive Part where
  /-- Text as it stands. -/
  | literal (t : Text)
  /-- The value of a variable; outside quotes its blanks separate words. -/
  | variable (name : Text) (quoted : Bool)
deriving Repr, DecidableEq, Inhabited

/-- A word: its parts, first to last. -/
abbrev Word := List Part

/-- Where a redirected stream leads. -/
inductive Target where
  /-- From a file. -/
  | input (path : Word)
  /-- To a file, in the place of its content. -/
  | output (path : Word)
  /-- To the end of a file. -/
  | append (path : Word)
  /-- Where another stream leads. -/
  | copy (stream : Word)
deriving Repr, DecidableEq, Inhabited

/-- A redirection of a stream: 0 is the input, 1 the output, 2 the complaints. -/
structure Redirection where
  /-- The number of the stream. -/
  stream : Nat
  /-- Where it leads. -/
  target : Target
deriving Repr, DecidableEq, Inhabited

/-- A stage of a pipeline. -/
structure Stage where
  /-- Variables and their values, first to last. -/
  assignments : List (Text × Word) := []
  /-- The words, first to last. -/
  words : List Word := []
  /-- The redirections, first to last. -/
  redirections : List Redirection := []
deriving Repr, DecidableEq, Inhabited

/-- The stage does nothing at all. -/
def Stage.isEmpty (s : Stage) : Bool :=
  s.assignments.isEmpty && s.words.isEmpty && s.redirections.isEmpty

/-- When a pipeline runs. -/
inductive Joint where
  /-- In any case. -/
  | always
  /-- After success. -/
  | ifGood
  /-- After failure. -/
  | ifBad
deriving Repr, DecidableEq, Inhabited

/-- A script: pipelines, each with when it runs. -/
abbrev Script := List (Joint × List Stage)

end ModalEditor.Shell
