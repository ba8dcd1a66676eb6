import ModalEditor.Text.Basic

/-!
# Text as bytes

Files and the input of the program are bytes that write text in UTF-8. Decoding reads one byte at a
time. Between characters a byte starts one; inside a character only some bytes may follow: a first
byte may narrow the second, so that no character has two spellings and no surrogate has one.

A byte that cannot follow ends the broken character in front of it and is then read as the start of
the next one. The decoder marks every broken character with a gap. Strict decoding accepts no gap,
lenient decoding puts a replacement character for each.
-/

namespace ModalEditor

/-- Bytes of a file or stream. -/
abbrev Bytes := List UInt8

namespace Utf8

/-- The bytes of a text. -/
def encode (t : Text) : Bytes := t.flatMap String.utf8EncodeChar

/-- A character that has begun. -/
structure Begun where
  /-- The bits read. -/
  bits : Nat
  /-- Number of bytes to come. -/
  owed : Nat
  /-- The least byte that may come next. -/
  low : UInt8 := 0x80
  /-- The greatest byte that may come next. -/
  high : UInt8 := 0xBF
deriving Repr, DecidableEq

/-- What a byte between characters starts: a whole character, a longer one, or nothing. -/
inductive Start where
  /-- A character of one byte. -/
  | whole (c : Char)
  /-- A longer character. -/
  | longer (b : Begun)
  /-- No character starts so. -/
  | broken
deriving Repr, DecidableEq

/-- Reads a byte between characters. -/
def start (b : UInt8) : Start :=
  let n := b.toNat
  if n < 0x80 then .whole (Char.ofNat n)
  else if n < 0xC2 then .broken
  else if n < 0xE0 then .longer { bits := n - 0xC0, owed := 1 }
  else if n = 0xE0 then .longer { bits := 0, owed := 2, low := 0xA0 }
  else if n = 0xED then .longer { bits := 0xD, owed := 2, high := 0x9F }
  else if n < 0xF0 then .longer { bits := n - 0xE0, owed := 2 }
  else if n = 0xF0 then .longer { bits := 0, owed := 3, low := 0x90 }
  else if n < 0xF4 then .longer { bits := n - 0xF0, owed := 3 }
  else if n = 0xF4 then .longer { bits := 4, owed := 3, high := 0x8F }
  else .broken

/-- Where decoding stands. -/
structure Decoder where
  /-- The character in whose middle it is. -/
  begun : Option Begun := none
  /-- The characters read, last first, with a gap for each broken one. -/
  read : List (Option Char) := []
deriving Repr, DecidableEq

namespace Decoder

/-- Reads a byte between characters. -/
def fresh (read : List (Option Char)) (b : UInt8) : Decoder :=
  match start b with
  | .whole c => { read := some c :: read }
  | .longer p => { begun := some p, read }
  | .broken => { read := none :: read }

/-- Reads a byte. -/
def next (d : Decoder) (b : UInt8) : Decoder :=
  match d.begun with
  | none => fresh d.read b
  | some p =>
    if p.low ≤ b && b ≤ p.high then
      let bits := 64 * p.bits + (b.toNat - 0x80)
      if p.owed ≤ 1 then { read := some (Char.ofNat bits) :: d.read }
      else { d with begun := some { bits, owed := p.owed - 1 } }
    else fresh (none :: d.read) b

/-- The characters at the end of the bytes, first to last. -/
def finish (d : Decoder) : List (Option Char) :=
  (if d.begun.isSome then none :: d.read else d.read).reverse

end Decoder

/-- The characters of some bytes, a gap for each broken one. -/
def pieces (bytes : Bytes) : List (Option Char) := (bytes.foldl Decoder.next {}).finish

/-- The text that some bytes write, if no character is broken. -/
def decode? (bytes : Bytes) : Option Text := (pieces bytes).mapM id

/-- The text that some bytes write, with a replacement character for every broken one. -/
def decodeLenient (bytes : Bytes) : Text := (pieces bytes).map (·.getD '\uFFFD')

end Utf8
end ModalEditor
