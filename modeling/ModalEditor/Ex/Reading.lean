import ModalEditor.Ex.Command
import ModalEditor.Text.Alphabetic

/-!
# Reading commands

A command line is read in this order: the forms `'x` and `"x`, a range, the commands whose argument
follows without a blank (`!`, `&`, `s`, `g`, `v`), and last a name with an optional `!` and
arguments.
-/

namespace ModalEditor.ExCommand

/-- A character that can delimit a pattern. -/
def isDelimiter (c : Char) : Bool :=
  !isAlphanumeric c && !isBlank c && c ∉ ['\\', '"', '|']

/-- The text is one of the names. -/
def isOneOf (name : Text) (names : List String) : Bool := names.any fun n => n.toList = name

/-- The error for arguments that make no sense. -/
def badArgument (detail : Text) : EditorError := .invalidArgument detail

/-! ## Substitution and global commands -/

/-- What follows the name of a substitution: nothing, or a delimiter and more. -/
def substituteBody? (t : Text) : Option Text := do
  let body ← (Text.after? "substitute".toList t).or (Text.after? ['s'] t)
  if body.head?.all isDelimiter then return body else none

/-- Pattern, replacement and flags of a substitution, each ended by the delimiter in front. A
missing delimiter ends the text there. -/
def substituteParts (delim : Char) (t : Text) : Text × Text × SubFlags :=
  let (pattern, rest) := Text.cutUnescaped delim t
  let (replacement, flags) := Text.cutUnescaped delim rest
  (Text.unescape delim pattern, Text.unescape delim replacement, .ofText flags)

/-- Reads a substitution after its name. -/
def readSubstitute (range : Range) : Text → ExCommand
  | [] => .repeatSubstitute range none
  | delim :: rest =>
    let (pattern, replacement, flags) := substituteParts delim rest
    .substitute range pattern replacement flags

/-- The names of global commands, and whether they pick the lines that do not match. -/
def globalNames : List (String × Bool) :=
  [("global", false), ("vglobal", true), ("g", false), ("v", true)]

/-- Whether a global command picks the lines that do not match, and what follows its name from the
delimiter on. -/
def globalBody? (t : Text) : Option (Bool × Text) := do
  let (inverse, rest) ← globalNames.findSome? fun (name, inverse) =>
    (Text.after? name.toList t).map fun rest => (inverse, rest)
  let (inverse, rest) := match rest with
    | '!' :: rest => (true, rest)
    | rest => (inverse, rest)
  let body := Text.trimStart rest
  if body.head?.any isDelimiter then return (inverse, body) else none

/-- The keys after the name of a normal-mode action. -/
def normalKeys? (name : String) (t : Text) : Option Text := do
  let rest ← Text.after? name.toList t
  let keys := match rest with
    | '!' :: keys => keys
    | keys => keys
  if keys.head?.any isBlank && !Text.isBlankOnly keys then return Text.trimStart keys else none

/-- A substitution as the action of a global command. It needs its parts. -/
def substituteAction? (t : Text) : Option GlobalAction := do
  match ← substituteBody? t with
  | [] => none
  | delim :: rest =>
    let (pattern, replacement, flags) := substituteParts delim rest
    return .substitute pattern replacement flags

/-- Reads the action of a global command. -/
def readGlobalAction (t : Text) : Except EditorError GlobalAction :=
  if isOneOf t ["d", "delete"] then .ok .delete
  else
    match substituteAction? t with
    | some action => .ok action
    | none =>
      match (normalKeys? "normal" t).or (normalKeys? "norm" t) with
      | some keys => .ok (.normal keys)
      | none => .error (.unsupportedCommand t)

/-- Reads a global command from its delimiter on. -/
def readGlobal (range : Range) (inverse : Bool) : Text → Except EditorError ExCommand
  | [] => .error (badArgument "global".toList)
  | delim :: rest => do
    let (pattern, action) := Text.cutUnescaped delim rest
    return .global range (Text.unescape delim pattern) inverse
      (← readGlobalAction (Text.trim action))

/-! ## Named commands -/

/-- Reads the name of a mark. -/
def readMark : Text → Except EditorError Char
  | [c] => if isLowerLetter c then .ok c else .error (badArgument ("mark: ".toList ++ [c]))
  | t => .error (badArgument ("mark: ".toList ++ t))

/-- Reads a register and a count, both of which may be missing. -/
def readRegisterAndCount (args : Text) : Except EditorError (Option Char × Option Nat) := do
  let (register, rest) ← match args with
    | c :: rest =>
      if isDigit c then pure (none, args)
      else if Register.isName c then pure (some c, Text.trimStart rest)
      else throw (badArgument args)
    | [] => pure (none, [])
  if rest.isEmpty then return (register, none)
  match Text.splitNumber? rest with
  | some (n + 1, []) => return (register, some (n + 1))
  | _ => throw (badArgument args)

/-- The argument as a path, if there is one. -/
def path? (args : Text) : Option Path := if args.isEmpty then none else some args

/-- What a read command reads. -/
def readSource (bang : Bool) (args : Text) : ReadSource :=
  if bang then .shell args
  else
    match args with
    | '!' :: command => .shell (Text.trim command)
    | _ => .file (path? args)

/-- Reads a command with a name. `text` is the whole command without its range. -/
def readNamed (range : Range) (text name : Text) (bang : Bool) (args : Text) :
    Except EditorError ExCommand := do
  if isOneOf name ["e", "edit"] then return .edit (path? args) bang
  else if isOneOf name ["w", "write"] then
    if args.head? = some '!' then throw (badArgument text)
    else return .write (path? args) bang
  else if isOneOf name ["wq"] then return .writeQuit (path? args)
  else if isOneOf name ["x", "xit", "exit"] then return .exit
  else if isOneOf name ["q", "quit"] then return .quit bang
  else if isOneOf name ["bn", "bnext"] then return .nextBuffer
  else if isOneOf name ["bp", "bprev", "bprevious", "bN", "bNext"] then return .previousBuffer
  else if isOneOf name ["ls", "buffers", "files"] then return .listBuffers
  else if isOneOf name ["b", "buffer"] then
    if args.isEmpty then throw (badArgument "buffer".toList) else return .switchBuffer args
  else if isOneOf name ["r", "read"] then return .read range (readSource bang args)
  else if isOneOf name ["sav", "saveas"] then
    if args.isEmpty then throw .noFileName else return .saveAs args
  else if isOneOf name ["reg", "registers", "di", "display"] then return .showRegisters args
  else if isOneOf name ["ma", "mark", "k"] then return .setMark range (← readMark args)
  else if name.length = 2 && name.head? = some 'k' && args.isEmpty then
    return .setMark range (← readMark (name.drop 1))
  else if isOneOf name ["d", "delete"] then
    let (register, count) ← readRegisterAndCount args
    return .delete range register count
  else if isOneOf name ["y", "yank"] then
    let (register, count) ← readRegisterAndCount args
    return .yank range register count
  else if isOneOf name ["p", "pu", "put", "P", "Put"] then
    let (register, _) ← readRegisterAndCount args
    return .put range register (bang || name.head? = some 'P')
  else if isOneOf name ["norm", "normal"] then
    if args.isEmpty then throw (badArgument "normal".toList) else return .normal range args
  else if isOneOf name ["se", "set"] then return .set args
  else throw (.unsupportedExCommand (if name.isEmpty then text else name))

/-- The flags after `&`; a second `&` keeps those of the last substitution. -/
def repeatFlags (t : Text) : Option SubFlags :=
  if t.head? = some '&' || Text.isBlankOnly t then none else some (.ofText t)

/-- Reads a command after its range. -/
def readCommand (range : Range) (text : Text) : Except EditorError ExCommand :=
  match text with
  | [] => .ok (.goto range)
  | '!' :: command => .ok (.filter range (Text.trim command))
  | '&' :: flags => .ok (.repeatSubstitute range (repeatFlags flags))
  | _ =>
    match substituteBody? text, globalBody? text with
    | some body, _ => .ok (readSubstitute range body)
    | none, some (inverse, body) => readGlobal range inverse body
    | none, none =>
      let name := text.takeWhile isLetter
      match text.dropWhile isLetter with
      | '!' :: args => readNamed range text name true (Text.trim args)
      | args => readNamed range text name false (Text.trim args)

/-! ## The whole line -/

/-- A mark at the front and the command after it, unless the text goes on as a range. -/
def splitMark? : Text → Option (Char × Text)
  | '\'' :: mark :: rest =>
    let rest := Text.trimStart rest
    if !isLowerLetter mark || rest.head?.all (· ∈ [',', ';', '+', '-']) then none
    else some (mark, rest)
  | _ => none

/-- Reads a command line; every form in front of a command takes two characters. -/
def readFrom : Nat → Text → Except EditorError ExCommand
  | 0, _ => .error .invalidRange
  | fuel + 1, line => do
    let line := Text.trim line
    match splitMark? line with
    | some (mark, rest) =>
      let next ← readFrom fuel rest
      return .atMark mark next (.withRegister mark next)
    | none =>
      match line with
      | '"' :: name :: rest =>
        if !Register.isName name then throw (badArgument line)
        let rest := Text.trimStart rest
        if rest.isEmpty then return .selectRegister name
        else return .withRegister name (← readFrom fuel rest)
      | ['"'] => throw (badArgument line)
      | _ =>
        let (range, rest) := Range.split line
        readCommand range (Text.trimStart rest)

/-- Reads a command line. -/
def readLine (line : Text) : Except EditorError ExCommand := readFrom (line.length + 1) line

end ModalEditor.ExCommand
