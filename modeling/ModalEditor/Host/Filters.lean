import ModalEditor.Host

/-!
# A shell of filters

A shell for sessions that must not start processes. It knows a handful of filters by name, each with
the rest of the command as its argument, and a name for every way in which a command can fail. A
command that fails has printed something all the same, which nobody may use.
-/

namespace ModalEditor.Filters

/-- The lines of an input. A line feed ends a line; a carriage return before it is part of the
ending. -/
def inputLines (t : Text) : List Text :=
  let pieces := Text.splitLines t
  let last := pieces.getLastD []
  pieces.dropLast.map (Text.dropFinal '\r') ++ (if last.isEmpty then [] else [last])

/-- Lines, each with its line feed. -/
def outputText (lines : List Text) : Text := lines.flatMap fun l => l ++ ['\n']

/-- Lexicographic order of texts by their characters. -/
def textLe : Text → Text → Bool
  | [], _ => true
  | _ :: _, [] => false
  | a :: as, b :: bs => a < b || (a = b && textLe as bs)

/-- The text with `\n` and `\r`, written as two characters, in the place of the control
characters. -/
def unescaped : Text → Text
  | '\\' :: 'n' :: rest => '\n' :: unescaped rest
  | '\\' :: 'r' :: rest => '\r' :: unescaped rest
  | c :: rest => c :: unescaped rest
  | [] => []

/-- What a filter prints, given its argument and its input. -/
def output? (name : String) (arg stdin : Text) : Option Text :=
  match name with
  | "cat" => some stdin
  | "upper" => some (stdin.map Char.toUpper)
  | "sort" => some (outputText ((inputLines stdin).mergeSort textLe))
  | "rev" => some (outputText ((inputLines stdin).map List.reverse))
  | "echo" => some (arg ++ ['\n'])
  | "raw" => some (unescaped arg)
  | "true" => some []
  | _ => none

/-- A failed command. -/
def failed (status : Option Nat) (stderr : Text) : Except IoFailure ShellResult :=
  .ok { stdout := "lost\n".toList, stderr, status }

/-- Runs a command. -/
def run (command stdin : Text) : Except IoFailure ShellResult :=
  let (name, arg) := (Text.cut? ' ' command).getD (command, [])
  match output? (String.ofList name) arg stdin with
  | some stdout => .ok { stdout }
  | none =>
    match String.ofList name with
    | "false" => failed (some 1) []
    | "fail" => failed (some 3) ("  ".toList ++ arg ++ ['\n'])
    | "killed" => failed none []
    | "spawn" => .error ⟨.other, "injected spawn".toList⟩
    | _ => failed (some 127) (name ++ ": not found".toList)

end ModalEditor.Filters
