import ModalEditor.Shell.Reading
import ModalEditor.Shell.Toolbox

/-!
# Running commands of the shell

The shell keeps a disk, its variables, the status of the last command, the input that is left and
what has been printed so far. Every stage of a script changes that state; the stages of a longer
pipeline work on copies, of which only the disk and the complaints are kept.

A script ends before its end when a command exits the shell or kills it.
-/

namespace ModalEditor.Shell

/-- Where a stream of output leads. -/
inductive Sink where
  /-- To the output of the shell. -/
  | out
  /-- To its complaints. -/
  | err
  /-- To the end of a file. -/
  | file (path : Path)
deriving Repr, DecidableEq, Inhabited

/-- Why a script does not go on. -/
inductive Ending where
  /-- The shell was left with a status. -/
  | exited (status : Nat)
  /-- The shell was killed. -/
  | killed
deriving Repr, DecidableEq, Inhabited

/-- The shell at work. -/
structure Machine where
  /-- The disk. -/
  disk : Disk
  /-- How the shell was called. -/
  name : Text
  /-- Its variables. -/
  bindings : List (Text × Text) := []
  /-- The status of the last command. -/
  status : Nat := 0
  /-- The input that is left. -/
  input : Bytes := []
  /-- What has been printed. -/
  out : Bytes := []
  /-- The complaints. -/
  err : Bytes := []
  /-- Why the script does not go on. -/
  ending : Option Ending := none

/-- The streams of a stage. -/
structure Streams where
  /-- What it reads, if not the input of the shell. -/
  input : Option Bytes := none
  /-- Where its output leads. -/
  out : Sink := .out
  /-- Where its complaints lead. -/
  err : Sink := .err

/-- The number by which the shell can be killed. -/
def ownNumber : Text := "4711".toList

namespace Machine

/-- The value of a variable. -/
def value (m : Machine) (name : Text) : Text :=
  match String.ofList name with
  | "$" => ownNumber
  | "?" => Text.ofNat m.status
  | "#" => ['0']
  | "0" => m.name
  | "PWD" => Disk.pathOf m.disk.working
  | _ => (m.bindings.lookup name).getD []

/-- The words that a word becomes, with those before it and the one at hand. -/
def expandParts (m : Machine) (done : List Text) (word : Option Text) : Word → List Text
  | [] => done ++ word.toList
  | .literal t :: parts => m.expandParts done (some (word.getD [] ++ t)) parts
  | .variable name true :: parts =>
    m.expandParts done (some (word.getD [] ++ m.value name)) parts
  | .variable name false :: parts =>
    match Text.words (m.value name) with
    | [] => m.expandParts done word parts
    | first :: rest =>
      let all := (word.getD [] ++ first) :: rest
      m.expandParts (done ++ all.dropLast) all.getLast? parts

/-- The words that a word becomes. -/
def expand (m : Machine) (w : Word) : List Text := m.expandParts [] none w

/-- The text that a word becomes where only one word can stand. -/
def expandOne (m : Machine) (w : Word) : Text := Text.join [' '] (m.expand w)

/-- The words of a complaint of the shell itself. -/
def ownComplaint (m : Machine) (parts : List Text) : Bytes :=
  complaint (m.name :: ": 1: ".toList :: parts)

/-- Lets bytes go where a stream leads. -/
def deliver (m : Machine) (b : Bytes) : Sink → Machine
  | .out => { m with out := m.out ++ b }
  | .err => { m with err := m.err ++ b }
  | .file path =>
    match m.disk.read path with
    | .ok old =>
      match m.disk.write path (old ++ b) with
      | .ok disk => { m with disk }
      | .error _ => m
    | .error _ => m

/-- A complaint of the shell that ends a stage. -/
def fails (m : Machine) (s : Streams) (status : Nat) (parts : List Text) : Machine :=
  { m.deliver (m.ownComplaint parts) s.err with status }

/-- A variable with a value. -/
def assign (m : Machine) (name value : Text) : Machine :=
  { m with bindings := (name, value) :: m.bindings }

/-- Redirects a stream of output. -/
def Streams.redirect (s : Streams) (stream : Nat) (sink : Sink) : Streams :=
  if stream = 2 then { s with err := sink } else { s with out := sink }

/-- Why a file could not be opened, in the words of the shell. -/
def openReason (usual : String) (f : IoFailure) : Text :=
  if f = .missing || f = .notDirectory then usual.toList else reasonOf f

/-- Opens a file for output. -/
def openOutput (m : Machine) (s : Streams) (stream : Nat) (path : Path) (keep : Bool) :
    Except (List Text) (Machine × Streams) :=
  let old := if keep then (m.disk.read path).toOption.getD [] else []
  match m.disk.write path old with
  | .ok disk => .ok ({ m with disk }, Streams.redirect s stream (.file path))
  | .error f =>
    .error ["cannot create ".toList, path, ": ".toList, openReason "Directory nonexistent" f]

/-- Carries out a redirection, or says why it cannot. -/
def redirect (m : Machine) (s : Streams) (r : Redirection) :
    Except (List Text) (Machine × Streams) :=
  match r.target with
  | .input w =>
    let path := m.expandOne w
    match m.disk.read path with
    | .ok content => .ok (m, { s with input := some content })
    | .error f =>
      if f = .isDirectory then .ok (m, { s with input := some [] })
      else .error ["cannot open ".toList, path, ": ".toList, openReason "No such file" f]
  | .output w => m.openOutput s r.stream (m.expandOne w) false
  | .append w => m.openOutput s r.stream (m.expandOne w) true
  | .copy w =>
    match m.expandOne w with
    | ['0'] => .ok (m, s)
    | ['1'] => .ok (m, Streams.redirect s r.stream s.out)
    | ['2'] => .ok (m, Streams.redirect s r.stream s.err)
    | _ => .error ["Syntax error: Bad fd number".toList]

/-- Carries out redirections in order; at the first that fails the others are left. -/
def redirectAll (m : Machine) (s : Streams) :
    List Redirection → Except (List Text) (Machine × Streams)
  | [] => .ok (m, s)
  | r :: rest => do
    let (m, s) ← m.redirect s r
    m.redirectAll s rest

/-- Leaves the shell. -/
def exit (m : Machine) (s : Streams) (args : List Text) : Machine :=
  match args with
  | [] => { m with ending := some (.exited m.status) }
  | n :: _ =>
    match Text.count? n with
    | some n => { m with ending := some (.exited (n % 256)), status := n % 256 }
    | none =>
      { m.fails s 2 ["exit: Illegal number: ".toList, n] with ending := some (.exited 2) }

/-- Sends a signal, which only the shell itself can get. -/
def kill (m : Machine) (s : Streams) (args : List Text) : Machine :=
  let (harmless, targets) : Bool × List Text :=
    match args with
    | ['-', 's'] :: _ :: rest => (false, rest)
    | ['-', '0'] :: rest => (true, rest)
    | ('-' :: _) :: rest => (false, rest)
    | rest => (false, rest)
  if targets.isEmpty then m.fails s 2 ["kill: Usage: kill [-s sigspec | -signum] pid".toList]
  else if !targets.contains ownNumber then m.fails s 1 ["kill: No such process".toList]
  else if harmless then { m with status := 0 }
  else { m with ending := some .killed }

/-- Changes the working directory. -/
def cd (m : Machine) (s : Streams) (args : List Text) : Machine :=
  match args with
  | [] => { m with status := 0 }
  | path :: _ =>
    match m.disk.enter path with
    | .ok disk => { m with disk, status := 0 }
    | .error _ => m.fails s 2 ["cd: can't cd to ".toList, path]

/-- The name of a tool without the directory that all tools are in. -/
def toolName (name : Text) : Text :=
  ((Text.after? "/bin/".toList name) <|> (Text.after? "/usr/bin/".toList name)).getD name

/-- Runs a tool. -/
def runTool (m : Machine) (s : Streams) (name : Text) (args : List Text) : Machine :=
  match tool? (toolName name) with
  | some tool =>
    let p := tool { args, input := s.input.getD m.input, disk := m.disk }
    let m := if p.tookInput && s.input.isNone then { m with input := [] } else m
    let m := { m with disk := p.disk.getD m.disk }
    { (m.deliver p.out s.out).deliver p.err s.err with status := p.status }
  | none =>
    let there := '/' ∈ name && (m.disk.locate name).toOption.any fun p => (m.disk.entry? p).isSome
    if there then m.fails s 126 [name, ": Permission denied".toList]
    else m.fails s 127 [name, ": not found".toList]

/-- Runs a command given by its words. -/
def runWords (m : Machine) (s : Streams) (words : List Text) : Machine :=
  match words with
  | [] => { m with status := 0 }
  | name :: args =>
    match String.ofList name with
    | "exit" => m.exit s args
    | "kill" => m.kill s args
    | "cd" => m.cd s args
    | _ => m.runTool s name args

/-- Runs a stage. -/
def runStage (m : Machine) (stage : Stage) : Machine :=
  let words := stage.words.flatMap m.expand
  let m :=
    if words.isEmpty then
      stage.assignments.foldl (fun m (name, w) => m.assign name (m.expandOne w)) m
    else m
  match m.redirectAll {} stage.redirections with
  | .error parts => m.fails {} 2 parts
  | .ok (m, s) => m.runWords s words

/-- Runs the stages of a pipeline on copies, each with the output of the one before as its input. -/
def runStages (m : Machine) (input : Bytes) : List Stage → Machine
  | [] => { m with out := m.out ++ input }
  | stage :: rest =>
    let copy := { m with input, out := [], ending := none }.runStage stage
    let status := match copy.ending with
      | some (.exited n) => n
      | _ => copy.status
    let m :=
      { m with
        disk := { copy.disk with working := m.disk.working }
        err := copy.err
        status
        ending := if copy.ending = some Ending.killed then some Ending.killed else m.ending }
    m.runStages copy.out rest

/-- Runs a pipeline. -/
def runPipeline (m : Machine) (stages : List Stage) : Machine :=
  match stages with
  | [stage] => m.runStage stage
  | stages => { m with input := [] }.runStages m.input stages

/-- Runs a script. -/
def runScript (m : Machine) : Script → Machine
  | [] => m
  | (joint, stages) :: rest =>
    let runs := match joint with
      | .always => true
      | .ifGood => m.status = 0
      | .ifBad => m.status ≠ 0
    let m := if runs && m.ending.isNone then m.runPipeline stages else m
    m.runScript rest

/-- What the shell leaves at its end. -/
def result (m : Machine) : ShellResult :=
  { stdout := Utf8.decodeLenient m.out
    stderr := Utf8.decodeLenient m.err
    status := match m.ending with
      | some .killed => none
      | some (.exited n) => some n
      | none => some m.status }

end Machine

/-- The programs that read scripts. -/
def shells : List Text := ["sh".toList, "dash".toList, "bash".toList]

/-- Runs a script, and keeps the working directory of the disk. -/
def runText (d : Disk) (name script : Text) (input : Bytes) : ShellResult × Disk :=
  let m : Machine := { disk := d, name, input }
  let m := match Script.read script with
    | .ok script => m.runScript script
    | .error reason => m.fails {} 2 ["Syntax error: ".toList, reason]
  (m.result, { m.disk with working := d.working })

/-- Starts a program in a directory with the option `-c` and a command. -/
def spawn (program : Text) (call : ShellCall) (d : Disk) : Except IoFailure ShellResult × Disk :=
  if program.contains '\x00' || call.command.contains '\x00' then (.error .nullInCommand, d)
  else
    match d.enter call.directory with
    | .error f => (.error f, d)
    | .ok there =>
      let name := Machine.toolName program
      let input := Utf8.encode call.stdin
      if shells.contains name then
        let (r, e) := runText there program call.command input
        (.ok r, { e with working := d.working })
      else
        match tool? name with
        | some tool =>
          let p := tool { args := ["-c".toList, call.command], input, disk := there }
          (.ok { stdout := Utf8.decodeLenient p.out, stderr := Utf8.decodeLenient p.err,
                 status := some p.status }, d)
        | none =>
          if '/' ∈ program then
            match there.locate program with
            | .error f => (.error f, d)
            | .ok p => (.error (if (there.entry? p).isSome then .forbidden else .missing), d)
          else (.error .missing, d)

end ModalEditor.Shell
