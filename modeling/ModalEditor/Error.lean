import ModalEditor.Path
import ModalEditor.Pattern.Syntax
import ModalEditor.Text.Number

/-!
# Errors

Everything that can go wrong while a key or a command is carried out, as a cause with its data.
`EditorError.message` gives the text that the session says. Four kinds of failed input and output
are fatal: the session passes them on to its host instead of saying them.
-/

namespace ModalEditor

/-- The kinds of failed input and output that are told apart. -/
inductive IoKind where
  /-- No room is left on the store. -/
  | storageFull
  /-- A write that wrote nothing. -/
  | writeZero
  /-- No memory is left. -/
  | outOfMemory
  /-- The input ended too early. -/
  | unexpectedEnd
  /-- The file may not be used. -/
  | permissionDenied
  /-- The file is not text. -/
  | invalidData
  /-- Nothing has that name. -/
  | notFound
  /-- Any other failure. -/
  | other
deriving Repr, DecidableEq, Inhabited

/-- A failed input or output. -/
structure IoFailure where
  /-- What kind of failure it is. -/
  kind : IoKind
  /-- What the system says about it. -/
  message : Text
deriving Repr, DecidableEq, Inhabited

/-- The failure cannot be talked away: storage or memory is exhausted, or data is cut short. -/
def IoFailure.isFatal (f : IoFailure) : Bool :=
  f.kind ∈ [.storageFull, .writeZero, .outOfMemory, .unexpectedEnd]

/-- Why a command was not carried out. -/
inductive EditorError where
  /-- A mark that is not set. -/
  | markNotSet (mark : Char)
  /-- A search that found nothing. -/
  | patternNotFound (pattern : Text)
  /-- A range that runs backwards, or text after a range. -/
  | invalidRange
  /-- A line that the buffer does not have, counted from one. -/
  | lineOutOfRange (line : Nat)
  /-- Keys that are no command. -/
  | unsupportedCommand (keys : Text)
  /-- A name that is no command of the command line. -/
  | unsupportedExCommand (name : Text)
  /-- A text that is no pattern. -/
  | invalidPattern (pattern : Text) (fault : Pattern.Fault)
  /-- A register without content. -/
  | emptyRegister (name : Char)
  /-- A shell command that could not be run or that failed. -/
  | filterFailed (detail : Text)
  /-- A path outside the project. -/
  | accessDenied (path : Path)
  /-- A buffer with unsaved changes. -/
  | unsavedChanges (name : Text)
  /-- A file that does not exist. -/
  | cannotOpen (path : Path)
  /-- A repeated substitution with none before it. -/
  | noPreviousSubstitute
  /-- A buffer without a path. -/
  | noFileName
  /-- A put that would make too much text. -/
  | textTooLong
  /-- An argument that makes no sense. -/
  | invalidArgument (detail : Text)
  /-- Failed input or output. -/
  | io (failure : IoFailure)
deriving Repr, DecidableEq, Inhabited

namespace EditorError

/-- The text of an error. -/
def message : EditorError → Text
  | .markNotSet mark => "E20: Mark not set: '".toList ++ [mark]
  | .patternNotFound pattern => "E486: Pattern not found: ".toList ++ pattern
  | .invalidRange => "E16: Invalid range".toList
  | .lineOutOfRange line =>
    "E16: Invalid range: line ".toList ++ Text.ofNat line ++ " out of range".toList
  | .unsupportedCommand keys => "E1: Unsupported command: ".toList ++ keys
  | .unsupportedExCommand name => "E492: Not an editor command: ".toList ++ name
  | .invalidPattern pattern fault =>
    "E383: Invalid search string: ".toList ++ pattern ++ " (".toList ++ fault.reason.toList ++
      ")".toList
  | .emptyRegister name => "E353: Nothing in register ".toList ++ [name]
  | .filterFailed detail => "E485: Shell filter failed: ".toList ++ detail
  | .accessDenied path =>
    "E212: Access denied: ".toList ++ path ++ " is outside the project root".toList
  | .unsavedChanges name =>
    "E37: No write since last change for buffer \"".toList ++ name ++
      "\" (add ! to override)".toList
  | .cannotOpen path => "E484: Can't open file ".toList ++ path
  | .noPreviousSubstitute => "E35: No previous substitute".toList
  | .noFileName => "E32: No file name".toList
  | .textTooLong => "E1240: Resulting text too long".toList
  | .invalidArgument detail => "E474: Invalid argument: ".toList ++ detail
  | .io failure => failure.message

/-- The session cannot go on as if nothing had happened. -/
def isFatal : EditorError → Bool
  | .io failure => failure.isFatal
  | _ => false

end EditorError
end ModalEditor
