import ModalEditor.Shell.FileTool
import ModalEditor.Shell.Selection
import ModalEditor.Shell.StreamEdit

/-!
# The tools by name
-/

namespace ModalEditor.Shell

/-- A tool by its name. -/
def tool? (name : Text) : Option (Task → Printed) :=
  match String.ofList name with
  | ":" | "true" | "sleep" => some fun _ => {}
  | "false" => some fun _ => { status := 1 }
  | "echo" => some echo
  | "printf" => some printf
  | "seq" => some seq
  | "cat" => some cat
  | "head" => some head
  | "tail" => some tail
  | "sort" => some sort
  | "uniq" => some uniq
  | "wc" => some wc
  | "rev" => some rev
  | "tac" => some tac
  | "nl" => some nl
  | "tr" => some tr
  | "pwd" => some pwd
  | "ls" => some ls
  | "grep" => some grep
  | "cut" => some cut
  | "sed" => some StreamEdit.tool
  | "touch" => some touch
  | "rm" => some rm
  | "mkdir" => some mkdir
  | "cp" => some cp
  | "mv" => some mv
  | "tee" => some tee
  | "basename" => some basename
  | "yes" => some yes
  | "test" => some test
  | "[" => some bracketTest
  | _ => none

end ModalEditor.Shell
