import ModalEditor.Buffer
import ModalEditor.Pattern

/-!
# Searching

Patterns as users type them have two escapes of their own: `\<` and `\>` stand for a word boundary.
Searches run over whole lines. They start at a given line, that line included, and go on at the
other end of the buffer if they may wrap.

What a line search needs to know of a pattern is only which lines it matches.
-/

namespace ModalEditor

/-- Which way a search goes. -/
inductive Direction where
  /-- Down. -/
  | forward
  /-- Up. -/
  | backward
deriving Repr, DecidableEq, Inhabited

namespace Search

/-- A typed pattern with `\b` in the place of `\<` and `\>`, the edges of a word. -/
def withWordEdges : Text → Text
  | [] => []
  | ['\\'] => ['\\']
  | '\\' :: c :: rest =>
    if c = '<' || c = '>' then '\\' :: 'b' :: withWordEdges rest
    else '\\' :: c :: withWordEdges rest
  | c :: rest => c :: withWordEdges rest

/-- Reads a typed pattern. -/
def compile (pattern : Text) (ignoreCase : Bool) : Except EditorError Pattern :=
  (Pattern.ofText (withWordEdges pattern) ignoreCase).mapError (.invalidPattern pattern)

/-- The lines a search looks at, in its order: from line `start` to the end of the buffer, and on
from the other end if it wraps. -/
def order (count start : Nat) (direction : Direction) (wrap : Bool) : List Nat :=
  let start := min start (count - 1)
  match direction with
  | .forward =>
    (List.range (if wrap then count else count - start)).map fun i => (start + i) % count
  | .backward =>
    (List.range (if wrap then count else start + 1)).map fun i => (start + count - i) % count

/-- The first line in the order of the search that matches. -/
def findLine (isMatch : Text → Bool) (b : Buffer) (start : Nat) (direction : Direction)
    (wrap : Bool) : Option Nat :=
  (order b.lineCount start direction wrap).find? fun n => isMatch (b.line n)

/-- The lines that match, or with `inverse` those that do not, from the top, counted from `n`. -/
def matchingFrom (isMatch : Text → Bool) (inverse : Bool) (n : Nat) : List Text → List Nat
  | [] => []
  | line :: lines =>
    if isMatch line != inverse then n :: matchingFrom isMatch inverse (n + 1) lines
    else matchingFrom isMatch inverse (n + 1) lines

/-- The lines of a buffer that match, or with `inverse` those that do not, from the top. -/
def matchingLines (isMatch : Text → Bool) (b : Buffer) (inverse : Bool) : List Nat :=
  matchingFrom isMatch inverse 0 b.lines

end Search
end ModalEditor
