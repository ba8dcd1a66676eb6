import ModalEditor.Buffer

/-!
# Word motions

A word is a run of characters that are not blank; an empty line counts as a word too. The motions
look at the buffer as one row of characters with a line break between lines, and turn places in it
back into positions.

* `Word.forward` (`w`) goes to the start of the next word,
* `Word.backward` (`b`) to the start of the word before,
* `Word.toEnd` (`e`) to the end of a word.
-/

namespace ModalEditor

/-- What a character is to a motion. -/
inductive CharClass where
  /-- Part of a word. -/
  | word
  /-- A blank. -/
  | blank
  /-- The break between lines. -/
  | lineBreak
deriving Repr, DecidableEq

/-- The class of a character. -/
def CharClass.of (c : Char) : CharClass :=
  if c = '\n' then .lineBreak else if isBlank c then .blank else .word

/-- A buffer as one row of characters. -/
structure Flat where
  /-- The characters, with a line break between lines. -/
  chars : Array Char
  /-- Where each line starts. -/
  starts : Array Nat
deriving Repr

namespace Flat

/-- Where the lines start, the first at `start`. -/
def lineStarts (start : Nat) : List Text → List Nat
  | [] => []
  | line :: lines => start :: lineStarts (start + line.length + 1) lines

/-- The row of the lines. -/
def ofLines (lines : List Text) : Flat :=
  { chars := (Text.join ['\n'] lines).toArray, starts := (lineStarts 0 lines).toArray }

/-- Number of characters. -/
def size (f : Flat) : Nat := f.chars.size

/-- The class of the character at a place; past the end there is none. -/
def classAt? (f : Flat) (i : Nat) : Option CharClass := (f.chars[i]?).map CharClass.of

/-- The character at a place is part of a word. -/
def isWordAt (f : Flat) (i : Nat) : Bool := f.classAt? i == some .word

/-- Number of characters of a line. -/
def lineLength (f : Flat) (n : Nat) : Nat :=
  let stop := match f.starts[n + 1]? with
    | some next => next - 1
    | none => f.size
  stop - f.starts.getD n 0

/-- The place of a position, on the last character of its line at most. -/
def place? (f : Flat) (p : Position) : Option Nat :=
  (f.starts[p.line]?).map fun start => start + min p.col (f.lineLength p.line - 1)

/-- The position of a place. -/
def position (f : Flat) (i : Nat) : Position :=
  let line := (f.starts.toList.takeWhile fun start => start ≤ i).length - 1
  ⟨line, i - f.starts.getD line 0⟩

/-- The last line is empty and not the only one. Its place is one past the last character. -/
def endsEmpty (f : Flat) : Bool := 1 < f.starts.size && f.lineLength (f.starts.size - 1) = 0

/-- The first place from `i` on, of the next `n`, that is not part of a word. -/
def skipWord (f : Flat) (i : Nat) : Nat → Nat
  | 0 => i
  | n + 1 => if f.isWordAt i then skipWord f (i + 1) n else i

/-- The first place from `i` on that starts a word or an empty line, among the next `n`. -/
def skipBlanks (f : Flat) (i : Nat) : Nat → Nat
  | 0 => i
  | n + 1 =>
    match f.classAt? i with
    | none | some .word => i
    | some .blank => skipBlanks f (i + 1) n
    | some .lineBreak =>
      match f.classAt? (i + 1) with
      | none | some .lineBreak => i + 1
      | some _ => skipBlanks f (i + 1) n

/-- Goes back from `i` over blanks and breaks to the end of a word (`inl`) or to a position where
the search stops: an empty line or the start of the buffer (`inr`). -/
def backOverBlanks (f : Flat) : Nat → Nat ⊕ Position
  | 0 =>
    match f.classAt? 0 with
    | some .word => .inl 0
    | _ => .inr ⟨0, 0⟩
  | i + 1 =>
    match f.classAt? (i + 1) with
    | some .lineBreak =>
      let line := (f.position (i + 1)).line
      if f.lineLength line = 0 then .inr ⟨line, 0⟩ else backOverBlanks f i
    | some .blank => backOverBlanks f i
    | _ => .inl (i + 1)

/-- The start of the word that `i` is in. -/
def wordStart (f : Flat) : Nat → Nat
  | 0 => 0
  | i + 1 => if f.isWordAt i then wordStart f i else i + 1

/-- The first place from `i` on, of the next `n`, that is part of a word. -/
def findWord (f : Flat) (i : Nat) : Nat → Nat
  | 0 => i
  | n + 1 => if f.isWordAt i then i else findWord f (i + 1) n

/-- The last place from `i` on, of the next `n`, before one that is not part of a word. -/
def wordEnd (f : Flat) (i : Nat) : Nat → Nat
  | 0 => i
  | n + 1 => if f.isWordAt (i + 1) then wordEnd f (i + 1) n else i

end Flat

namespace Word

/-- A motion: from a position in a buffer to another. -/
abbrev Motion := Buffer → Position → Position

/-- To the start of the next word. Stays where it is in the last word. -/
def forward : Motion := fun b p =>
  let f := Flat.ofLines b.lines
  match f.place? p with
  | none => p
  | some start =>
    if f.size ≤ start + 1 then p
    else
      let i := f.skipBlanks (f.skipWord start f.size) f.size
      if f.size ≤ i && !f.endsEmpty then p else f.position i

/-- To the start of the word before. -/
def backward : Motion := fun b p =>
  let f := Flat.ofLines b.lines
  match f.place? p with
  | none => p
  | some start =>
    if start = 0 || f.size = 0 then p
    else
      match f.backOverBlanks (start - 1) with
      | .inl i => f.position (f.wordStart i)
      | .inr stop => stop

/-- To the last character of this word or, from there, of the next one. -/
def toEnd : Motion := fun b p =>
  let f := Flat.ofLines b.lines
  match f.place? p with
  | none => p
  | some start =>
    if f.size ≤ start + 1 then p
    else
      let i := f.findWord (start + 1) f.size
      if f.size ≤ i then p else f.position (f.wordEnd i f.size)

/-- Makes a motion at most `n` times, as long as it leads somewhere else. -/
def go (motion : Motion) (b : Buffer) (p : Position) : Nat → Position
  | 0 => p
  | n + 1 =>
    let q := motion b p
    if q = p then p else go motion b q n

/-- Makes a motion `count` times, but once at least. -/
def repeated (motion : Motion) (b : Buffer) (p : Position) (count : Nat) : Position :=
  go motion b p (max count 1)

end Word
end ModalEditor
