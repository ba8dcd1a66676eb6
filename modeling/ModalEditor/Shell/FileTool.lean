import ModalEditor.Shell.Tool

/-!
# Tools that work on files

Tools that make, copy and remove files, and the tool that tests them. They keep the disk as it was
where they fail.
-/

namespace ModalEditor.Shell

/-- What a tool leaves that goes through its operands; `f` changes the disk or complains. -/
def eachOperand (t : Task) (names : List Text) (f : Disk → Text → Except (List Text) Disk) :
    Printed :=
  let (disk, err) := names.foldl (fun (d, err) name =>
    match f d name with
    | .ok d => (d, err)
    | .error parts => (d, err ++ complaint parts)) (t.disk, ([] : Bytes))
  { disk := some disk, err, status := if err.isEmpty then 0 else 1 }

/-- A tool was called without the operands that it needs. -/
def operandMissing (tool : String) : Printed :=
  refused 1
    [(tool ++ ": missing operand\nTry '" ++ tool ++ " --help' for more information.").toList]

/-- Makes files that do not exist yet. -/
def touch (t : Task) : Printed :=
  let (_, names) := splitOptions t.args
  eachOperand t names fun d name =>
    let complain (f : IoFailure) : List Text :=
      ["touch: cannot touch '".toList, name, "': ".toList, reasonOf f]
    match d.locate name with
    | .error f => .error (complain f)
    | .ok p =>
      if (d.entry? p).isSome then .ok d else (d.write name []).mapError complain

/-- The disk without an entry and all below it. -/
def without (d : Disk) (p : Place) : Disk :=
  { d with entries := d.entries.filter fun (q, _) => !p.isPrefixOf q }

/-- Removes files, and directories if asked to. -/
def rm (t : Task) : Printed :=
  let (letters, names) := splitOptions t.args
  if names.isEmpty && !letters.contains 'f' then operandMissing "rm"
  else
    eachOperand t names fun d name =>
      let complain (f : IoFailure) : Except (List Text) Disk :=
        if letters.contains 'f' then .ok d
        else .error ["rm: cannot remove '".toList, name, "': ".toList, reasonOf f]
      match d.locate name with
      | .error f => complain f
      | .ok p =>
        match d.entry? p with
        | none => complain .missing
        | some .directory =>
          if letters.contains 'r' || letters.contains 'R' then .ok (without d p)
          else .error ["rm: cannot remove '".toList, name, "': Is a directory".toList]
        | some _ => .ok (without d p)

/-- Makes directories. -/
def mkdir (t : Task) : Printed :=
  let (letters, names) := splitOptions t.args
  if names.isEmpty then operandMissing "mkdir"
  else
    eachOperand t names fun d name =>
      let complain (reason : Text) : List Text :=
        ["mkdir: cannot create directory '".toList, name, "': ".toList, reason]
      if letters.contains 'p' then .ok (d.grow (d.placeOf name) .directory)
      else
        match d.locate name with
        | .error f => .error (complain (reasonOf f))
        | .ok p =>
          if (d.entry? p).isSome then .error (complain "File exists".toList)
          else .ok (d.put p .directory)

/-- Where a copy goes: into a directory under its own name, or to the path itself. -/
def copyTarget (d : Disk) (source target : Text) : Text :=
  let isDirectory := (d.locate target).toOption.any fun p => d.entry? p == some .directory
  if isDirectory then target ++ '/' :: (source.splitOn '/').getLastD [] else target

/-- Copies a file. -/
def cp (t : Task) : Printed :=
  let (_, names) := splitOptions t.args
  let target := names.getLastD []
  eachOperand t names.dropLast fun d source =>
    match d.read source with
    | .error f => .error ["cp: cannot stat '".toList, source, "': ".toList, reasonOf f]
    | .ok content =>
      let path := copyTarget d source target
      (d.write path content).mapError fun f =>
        ["cp: cannot create regular file '".toList, path, "': ".toList, reasonOf f]

/-- Moves a file. -/
def mv (t : Task) : Printed :=
  let (_, names) := splitOptions t.args
  let target := names.getLastD []
  eachOperand t names.dropLast fun d source =>
    match d.read source, d.locate source with
    | .ok content, .ok p =>
      let path := copyTarget d source target
      ((without d p).write path content).mapError fun f =>
        ["mv: cannot move '".toList, source, "' to '".toList, path, "': ".toList, reasonOf f]
    | .error f, _ | _, .error f =>
      .error ["mv: cannot stat '".toList, source, "': ".toList, reasonOf f]

/-- Copies its input to its output and to files. -/
def tee (t : Task) : Printed :=
  let (letters, names) := splitOptions t.args
  let p := eachOperand t names fun d name =>
    let old := if letters.contains 'a' then (d.read name).toOption.getD [] else []
    (d.write name (old ++ t.input)).mapError fun f =>
      ["tee: ".toList, name, ": ".toList, reasonOf f]
  { p with out := t.input, tookInput := true }

/-- Prints the last name of a path, without an ending. -/
def basename (t : Task) : Printed :=
  match t.args with
  | [] => operandMissing "basename"
  | path :: rest =>
    let trimmed := (path.reverse.dropWhile (· == '/')).reverse
    let name := (trimmed.splitOn '/').getLastD []
    let name := if name.isEmpty && !path.isEmpty then ['/'] else name
    let ending := rest.headD []
    let name :=
      if ending.length < name.length && ending.isSuffixOf name then
        name.take (name.length - ending.length)
      else name
    { out := Utf8.encode (name ++ ['\n']) }

/-- Prints a line over and over, more often than anyone reads it. -/
def yes (t : Task) : Printed :=
  let words := if t.args.isEmpty then [['y']] else t.args
  { out := ofLines (List.replicate 100000 (Utf8.encode (Text.join [' '] words))) }

/-! ## Tests -/

/-- A test of one operand holds. -/
def testOne? (d : Disk) (letter operand : Text) : Option Bool :=
  let entry := ((d.locate operand).toOption).bind d.entry?
  match String.ofList letter with
  | "-n" => some (!operand.isEmpty)
  | "-z" => some operand.isEmpty
  | "-e" | "-r" | "-w" => some entry.isSome
  | "-d" | "-x" => some (entry == some .directory)
  | "-f" => some (entry.any fun e => match e with
    | .file _ => true
    | _ => false)
  | "-s" => some (entry.any fun e => match e with
    | .file content => !content.isEmpty
    | .directory => true
    | _ => false)
  | "-t" | "-L" | "-h" => some false
  | _ => none

/-- A test of two operands holds. -/
def testTwo? (a operator b : Text) : Option Bool :=
  let (m, n) := (intOf a, intOf b)
  match String.ofList operator with
  | "=" | "==" => some (a == b)
  | "!=" => some (a != b)
  | "-eq" => some (m == n)
  | "-ne" => some (m != n)
  | "-lt" => some (m < n)
  | "-le" => some (m ≤ n)
  | "-gt" => some (n < m)
  | "-ge" => some (n ≤ m)
  | _ => none

/-- The test that some words make holds. -/
def testWords? (d : Disk) : List Text → Option Bool
  | [] => some false
  | ['!'] :: rest => (testWords? d rest).map not
  | [a] => some (!a.isEmpty)
  | [letter, operand] => testOne? d letter operand
  | [a, operator, b] => testTwo? a operator b
  | _ => none

/-- Tests files, texts and numbers. -/
def test (t : Task) : Printed :=
  match testWords? t.disk t.args with
  | some good => { status := if good then 0 else 1 }
  | none => refused 2 ["sh: 1: test: unexpected operator".toList]

/-- Tests with a bracket at the end. -/
def bracketTest (t : Task) : Printed :=
  if t.args.getLast? = some [']'] then test { t with args := t.args.dropLast }
  else refused 2 ["sh: 1: [: missing ]".toList]

end ModalEditor.Shell
