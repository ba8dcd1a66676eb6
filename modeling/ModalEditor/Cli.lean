import ModalEditor.Session
import ModalEditor.Text.Utf8

/-!
# The program

There is no screen. The program opens the files of its arguments, takes scripts of keys line by line
from its input, and prints what the session says to each key. It ends with the input, when the
session quits, or when something fails: then the failure is its last word, and its exit code is 1.

All of this is a function of the arguments, the input and the host.
-/

namespace ModalEditor.Cli

/-- How the program is called. -/
def usage : Text := "usage: n-vi [--root DIR] [--shell PROGRAM] [--set OPTION]... [FILE]...".toList

/-- What the arguments ask for. -/
structure Arguments where
  /-- The project. -/
  root : Path
  /-- The program that runs commands. -/
  shell : Text := "sh".toList
  /-- Settings to make first, in order. -/
  settings : List Text := []
  /-- Files to open, in order. -/
  files : List Path := []
deriving Repr, DecidableEq, Inhabited

/-- What the program is to do. -/
inductive Request where
  /-- Say how it is called. -/
  | help
  /-- Edit. -/
  | edit (a : Arguments)
deriving Repr, DecidableEq, Inhabited

/-- A failure of the arguments, with how the program is called. -/
def misused (reason : Text) : Text := reason ++ '\n' :: usage

/-- The arguments with the value of a flag; none if no flag with a value has that name. -/
def Arguments.withFlag? (a : Arguments) (flag value : Text) : Option Arguments :=
  match String.ofList flag with
  | "--root" => some { a with root := value }
  | "--shell" => some { a with shell := value }
  | "--set" => some { a with settings := a.settings ++ [value] }
  | _ => none

/-- Adds arguments to those read before. -/
def Arguments.add (a : Arguments) : List Text → Except Text Request
  | [] => .ok (.edit a)
  | arg :: rest =>
    if (a.withFlag? arg []).isSome then
      match rest with
      | [] => .error (misused (arg ++ " needs a value".toList))
      | value :: rest => add ((a.withFlag? arg value).getD a) rest
    else if arg ∈ ["-h".toList, "--help".toList] then .ok .help
    else if "--".toList.isPrefixOf arg then .error (misused ("unknown flag ".toList ++ arg))
    else add { a with files := a.files ++ [arg] } rest

/-- Reads the arguments of a program that was called in the directory `here`. -/
def Request.read (here : Path) (args : List Text) : Except Text Request :=
  Arguments.add { root := here } args

/-! ## Starting -/

/-- The options after some settings. -/
def settle (o : Options) : List Text → Except Text Options
  | [] => .ok o
  | setting :: rest =>
    match o.applySet setting with
    | (o, .ok _) => settle o rest
    | (_, .error e) => .error ("--set ".toList ++ setting ++ ": ".toList ++ e.message)

variable {σ : Type}

/-- Why a file was not opened. -/
def cannotOpen (path : Path) (e : EditorError) : Text :=
  "cannot open ".toList ++ path ++ ": ".toList ++ e.message

/-- Opens further files behind the first. -/
def openAll (h : Host σ) (s : Session σ) : List Path → Except Text (Session σ)
  | [] => .ok s
  | path :: rest =>
    match (EditorM.openTyped h path).run.run s.editor with
    | (.ok _, editor) => openAll h { s with editor } rest
    | (.error e, _) => .error (cannotOpen path e)

/-- The session on the files of the arguments, with the first one current. -/
def start (a : Arguments) (h : Host σ) (world : σ) : Except Text (Session σ) := do
  let o ← settle {} a.settings
  match a.files with
  | [] => return Session.new o world
  | first :: rest =>
    let s ← (Session.openPath h o world first).mapError (cannotOpen first)
    let s ← openAll h s rest
    let buffers ← (s.editor.buffers.switch ['1']).mapError EditorError.message
    return { s with editor := { s.editor with buffers } }

/-! ## Taking keys -/

/-- How the program goes on. -/
inductive Progress where
  /-- With the next line. -/
  | more
  /-- Not at all: the session has quit. -/
  | quit
  /-- Not at all: something has failed. -/
  | failed (reason : Text)
deriving Repr, DecidableEq, Inhabited

/-- Takes the keys of a script: the session afterwards, what it said, and how to go on. -/
def takeKeys (h : Host σ) (s : Session σ) : List Key → Session σ × List Text × Progress
  | [] => (s, [], .more)
  | key :: rest =>
    match s.press h key with
    | (s, .error f) =>
      (s, [], .failed ("fatal error on key ".toList ++ key.display ++ ": ".toList ++ f.message))
    | (s, .ok step) =>
      let said := if step.output.isEmpty then [] else [step.output]
      if step.quit then (s, said, .quit)
      else
        let (s, more, progress) := takeKeys h s rest
        (s, said ++ more, progress)

/-- The text of a line of input without its line break, unless it is no text. -/
def lineText? (line : Bytes) : Option Text :=
  (Utf8.decode? line).map fun t =>
    match Text.beforeFinal? '\n' t with
    | some t => Text.dropFinal '\r' t
    | none => t

/-- Takes a line of input, with its line break. -/
def takeLine (h : Host σ) (s : Session σ) (line : Bytes) : Session σ × List Text × Progress :=
  match lineText? line with
  | some script => takeKeys h s (Key.ofScript script)
  | none => (s, [], .failed "cannot read stdin: stream did not contain valid UTF-8".toList)

/-- Takes lines of input up to the end of the session. -/
def takeLines (h : Host σ) (s : Session σ) : List Bytes → Session σ × List Text × Progress
  | [] => (s, [], .more)
  | line :: rest =>
    match takeLine h s line with
    | (s, said, .more) =>
      let (s, more, progress) := takeLines h s rest
      (s, said ++ more, progress)
    | ended => ended

/-- The lines of some bytes, each with its line break. -/
def splitInput (input : Bytes) : List Bytes :=
  let pieces := input.splitOn 10
  pieces.dropLast.map (· ++ [10]) ++ pieces.getLast?.toList.filter (!·.isEmpty)

/-! ## The whole program -/

/-- What the program leaves besides the state of its host. -/
structure Outcome where
  /-- Its exit code. -/
  code : Nat := 0
  /-- What it printed. -/
  stdout : Text := []
  /-- What it complained about. -/
  stderr : Text := []
deriving Repr, DecidableEq, Inhabited

/-- Lines of text. -/
def printed (lines : List Text) : Text := lines.flatMap (· ++ ['\n'])

/-- The last words of a program that failed. -/
def lastWords (reason : Text) : Text := "n-vi: ".toList ++ reason ++ ['\n']

/-- How the program ends after some output. -/
def Progress.outcome (said : List Text) : Progress → Outcome
  | .more | .quit => { stdout := printed said }
  | .failed reason => { code := 1, stdout := printed said, stderr := lastWords reason }

/-- Runs the program in the directory `here`. What its host is depends on the arguments. -/
def run (here : Path) (hostFor : Arguments → Host σ) (args : List Text) (input : Bytes)
    (world : σ) :
    Outcome × σ :=
  match Request.read here args with
  | .error reason => (Progress.outcome [] (.failed reason), world)
  | .ok .help => ({ stdout := printed [usage] }, world)
  | .ok (.edit a) =>
    let h := hostFor a
    match start a h world with
    | .error reason => (Progress.outcome [] (.failed reason), world)
    | .ok s =>
      let (s, said, progress) := takeLines h s (splitInput input)
      (progress.outcome said, s.editor.world)

end ModalEditor.Cli
