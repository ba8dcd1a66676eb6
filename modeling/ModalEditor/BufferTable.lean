import ModalEditor.Buffer

/-!
# The buffer table

The buffers of a session, numbered from one in the order in which they were added. Numbers are never
used again. One buffer is current. Buffers are known by their paths: opening a path a second time
goes to the buffer that is there.
-/

namespace ModalEditor

/-- A buffer with its number. -/
structure Slot where
  /-- The number. -/
  id : Nat
  /-- The buffer. -/
  buffer : Buffer
deriving Repr, DecidableEq, Inhabited

/-- The buffers of a session. -/
structure BufferTable where
  /-- The buffers, in order of their numbers. -/
  slots : List Slot
  /-- Place of the current buffer. -/
  current : Nat := 0
  /-- The number of the next buffer. -/
  nextId : Nat
deriving Repr, DecidableEq, Inhabited

namespace BufferTable

/-- A table with one buffer. -/
def ofBuffer (b : Buffer) : BufferTable := { slots := [⟨1, b⟩], nextId := 2 }

/-- The current entry. -/
def currentSlot (t : BufferTable) : Slot := t.slots.getD t.current default

/-- The current buffer. -/
def buffer (t : BufferTable) : Buffer := t.currentSlot.buffer

/-- The number of the current buffer. -/
def currentId (t : BufferTable) : Nat := t.currentSlot.id

/-- Puts a buffer in the place of another, under its number. -/
def setBuffer (t : BufferTable) (place : Nat) (b : Buffer) : BufferTable :=
  { t with slots := t.slots.modify place fun s => { s with buffer := b } }

/-- Puts a buffer in the place of the current one. -/
def setCurrent (t : BufferTable) (b : Buffer) : BufferTable := t.setBuffer t.current b

/-- The place of the buffer with a path. -/
def placeOf? (t : BufferTable) (path : Path) : Option Nat :=
  t.slots.findIdx? fun s => s.buffer.path.any (Path.same · path)

/-- Adds a buffer and makes it current. -/
def add (t : BufferTable) (b : Buffer) : BufferTable :=
  { slots := t.slots ++ [⟨t.nextId, b⟩], current := t.slots.length, nextId := t.nextId + 1 }

/-- Makes a buffer current, in the place of one with the same path or as a new one. -/
def install (t : BufferTable) (b : Buffer) : BufferTable :=
  match b.path.bind t.placeOf? with
  | some place => { t.setBuffer place b with current := place }
  | none => t.add b

/-- Makes the next buffer current; the first one follows the last. -/
def next (t : BufferTable) : BufferTable :=
  { t with current := (t.current + 1) % t.slots.length }

/-- Makes the buffer before current; the last one comes before the first. -/
def previous (t : BufferTable) : BufferTable :=
  { t with current := (t.current + t.slots.length - 1) % t.slots.length }

/-- The places of the buffers with a part of a name. -/
def placesNamed (t : BufferTable) (part : Text) : List Nat :=
  (List.range t.slots.length).filter fun i =>
    (t.slots[i]?).any fun s => Text.holds part s.buffer.displayName

/-- The place of a buffer by its number or by a part of its name that only it has. -/
def find (t : BufferTable) (reference : Text) : Except EditorError Nat :=
  match Text.number? reference with
  | some n =>
    match t.slots.findIdx? fun s => s.id = n with
    | some place => .ok place
    | none =>
      .error (.invalidArgument ("buffer ".toList ++ Text.ofNat n ++ " does not exist".toList))
  | none =>
    match t.placesNamed reference with
    | [place] => .ok place
    | [] => .error (.invalidArgument ("no matching buffer for ".toList ++ reference))
    | _ => .error (.invalidArgument ("more than one match for ".toList ++ reference))

/-- Makes a buffer current by its number or a part of its name. -/
def switch (t : BufferTable) (reference : Text) : Except EditorError BufferTable := do
  return { t with current := ← t.find reference }

/-- The name of the first buffer with unsaved changes. -/
def firstModified? (t : BufferTable) : Option Text :=
  (t.slots.find? fun s => s.buffer.modified).map fun s => s.buffer.displayName

/-- Blanks behind a text up to a width. -/
def padRight (width : Nat) (t : Text) : Text := t ++ List.replicate (width - t.length) ' '

/-- A buffer as a listing shows it: number, whether it is current, whether it has unsaved changes,
name and current line. -/
def row (isCurrent : Bool) (s : Slot) : Text :=
  let flags := (if isCurrent then "%a" else "  ").toList
  let changed := if s.buffer.modified then '+' else ' '
  let name := padRight 30 ('"' :: (s.buffer.displayName ++ ['"']))
  Text.ofNat s.id ++ ' ' :: (flags ++ ' ' :: changed :: ' ' ::
    (name ++ " line ".toList ++ Text.ofNat (s.buffer.current + 1)))

/-- The rows of a listing, counted from `place`. -/
def rowsFrom (current place : Nat) : List Slot → List Text
  | [] => []
  | s :: rest => row (place == current) s :: rowsFrom current (place + 1) rest

/-- All buffers as a listing shows them. -/
def rows (t : BufferTable) : List Text := rowsFrom t.current 0 t.slots

end BufferTable
end ModalEditor
