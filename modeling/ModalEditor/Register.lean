import ModalEditor.Text.Basic

/-!
# Registers

A register holds text that was yanked or deleted, and whether it was taken line by line or as a
piece of a line. A register file has the unnamed register `"`, which every yank and delete writes,
ten numbered ones and twenty-six named ones. `0` holds the last yank, `1` to `9` the last nine
deletes, newest first. A capital letter appends to the register of the small letter.
-/

namespace ModalEditor

/-- How a text was taken. -/
inductive RegisterKind where
  /-- As a piece of a line. -/
  | chars
  /-- As whole lines. -/
  | lines
deriving Repr, DecidableEq, Inhabited

/-- The content of a register. A piece of text with line breaks has several lines. -/
structure Register where
  /-- The lines. -/
  lines : List Text := []
  /-- How they were taken. -/
  kind : RegisterKind := .lines
deriving Repr, DecidableEq, Inhabited

namespace Register

/-- Nothing. -/
def empty : Register := {}

/-- Whole lines. -/
def ofLines (lines : List Text) : Register := { lines, kind := .lines }

/-- A piece of a line. -/
def ofText (t : Text) : Register := { lines := [t], kind := .chars }

/-- There is nothing to put. -/
def isEmpty (r : Register) : Bool :=
  r.lines.isEmpty || (r.kind == .chars && r.lines.all List.isEmpty)

/-- The content as one text. -/
def text (r : Register) : Text := Text.join ['\n'] r.lines

/-- Joins the last line of the first list with the first line of the second. -/
def joinEnds : List Text → List Text → List Text
  | [], more => more
  | [last], first :: more => (last ++ first) :: more
  | [last], [] => [last]
  | line :: lines, more => line :: joinEnds lines more

/-- `r` followed by `s`. Two pieces of lines join; otherwise the result is whole lines. Nothing in
front of `s` gives `s`. -/
def append (r s : Register) : Register :=
  if r.isEmpty then s
  else if r.kind = .chars && s.kind = .chars then { r with lines := joinEnds r.lines s.lines }
  else .ofLines (r.lines ++ s.lines)

/-- The content as a listing shows it, line breaks as `^J`. -/
def render (r : Register) : Text :=
  let t := Text.join "^J".toList r.lines
  if r.kind = .lines then t ++ "^J".toList else t

/-- A name that a command may use. -/
def isName (c : Char) : Bool := c = '"' || c = '%' || isDigit c || isLetter c

/-- A name that text can be written to: every one but `%`, which stands for the path. -/
def isWritable (c : Char) : Bool := isName c && c != '%'

end Register

/-- The registers that all buffers share. -/
structure RegisterFile where
  /-- The register `"`. -/
  unnamed : Register := .empty
  /-- The registers `0` to `9`. -/
  numbered : List Register := List.replicate 10 .empty
  /-- The registers `a` to `z`. -/
  named : List Register := List.replicate 26 .empty
deriving Repr, DecidableEq, Inhabited

namespace RegisterFile

/-- Place of a digit among the numbered registers. -/
def digitIndex (c : Char) : Nat := c.toNat - '0'.toNat

/-- Place of a letter, small or capital, among the named registers. -/
def letterIndex (c : Char) : Nat :=
  if isLowerLetter c then c.toNat - 'a'.toNat else c.toNat - 'A'.toNat

/-- The content of a register; no name stands for the unnamed one. The register `%` and other
names have no content here. -/
def get? (f : RegisterFile) (name : Option Char) : Option Register :=
  match name with
  | none => some f.unnamed
  | some c =>
    if c = '"' then some f.unnamed
    else if isLetter c then some (f.named.getD (letterIndex c) .empty)
    else if isDigit c then some (f.numbered.getD (digitIndex c) .empty)
    else none

/-- Writes the register that the target names, if it names a numbered or named one. -/
def write (f : RegisterFile) (target : Option Char) (content : Register) : RegisterFile :=
  match target with
  | none => f
  | some c =>
    if isLowerLetter c then { f with named := f.named.set (letterIndex c) content }
    else if isLetter c then
      { f with named := f.named.modify (letterIndex c) fun old => old.append content }
    else if isDigit c then { f with numbered := f.numbered.set (digitIndex c) content }
    else f

/-- Writes the target and the unnamed register. After an append the unnamed register holds all
that the named one holds. -/
def set (f : RegisterFile) (target : Option Char) (content : Register) : RegisterFile :=
  let f := f.write target content
  let whole :=
    match target with
    | some c => if isLetter c && !isLowerLetter c then (f.get? target).getD content else content
    | none => content
  { f with unnamed := whole }

/-- Makes room for a new delete in `1`; the oldest in `9` is lost. -/
def pushDelete (f : RegisterFile) (content : Register) : RegisterFile :=
  { f with numbered := f.numbered.take 1 ++ content :: (f.numbered.drop 1).take 8 }

/-- Keeps a deleted text: in `1`, in the target and in the unnamed register. -/
def recordDelete (f : RegisterFile) (target : Option Char) (content : Register) : RegisterFile :=
  (f.pushDelete content).set target content

/-- Keeps a yanked text: in `0`, in the target and in the unnamed register. -/
def recordYank (f : RegisterFile) (target : Option Char) (content : Register) : RegisterFile :=
  ({ f with numbered := f.numbered.set 0 content } : RegisterFile).set target content

/-- The names of all registers, in the order of listings. -/
def names : List Char := '"' :: ("0123456789abcdefghijklmnopqrstuvwxyz").toList

/-- The registers with content, in the order of listings. -/
def contents (f : RegisterFile) : List (Char × Register) :=
  names.filterMap fun name => do
    let r ← f.get? (some name)
    if r.isEmpty then none else return (name, r)

end RegisterFile
end ModalEditor
