import ModalEditor.Pattern.Program

/-!
# Matching

A search follows the program depth first, preferred ways first, and remembers every pair of an
instruction and a position it has been at: coming there a second time cannot succeed, since the
first time did not. So a search takes at most as many steps as there are such pairs, and the first
match it finds is the preferred one among those that start earliest.

`Program.matches` gives the matches of a text from left to right. They do not overlap, and an empty
match is not reported where the match before it ended.
-/

namespace ModalEditor.Pattern

/-- A match: what it covers and what its groups cover, group `0` first. -/
structure Match where
  /-- Index of the first character. -/
  start : Nat
  /-- Index after the last character. -/
  stop : Nat
  /-- First index and index after the last, for every group that took part. -/
  groups : List (Option (Nat × Nat))
deriving Repr, DecidableEq, Inhabited

/-- What a group covers, if it took part. -/
def Match.group? (m : Match) (i : Nat) : Option (Nat × Nat) := (m.groups[i]?).join

/-- The text of a group; empty if it took no part. -/
def Match.groupText (m : Match) (t : Text) (i : Nat) : Text :=
  match m.group? i with
  | some (start, stop) => (t.take stop).drop start
  | none => []

/-- The position is in front of a line break, or at the end. -/
def endsLine (carriageReturns : Bool) (before after : Option Char) : Bool :=
  match after with
  | none => true
  | some '\n' => !(carriageReturns && before == some '\r')
  | some '\r' => carriageReturns
  | some _ => false

/-- The position is after a line break, or at the start. -/
def startsLine (carriageReturns : Bool) (before after : Option Char) : Bool :=
  match before with
  | none => true
  | some '\n' => true
  | some '\r' => carriageReturns && after != some '\n'
  | some _ => false

/-- A character of a word, of all words or of those of ASCII. -/
def isWordOf (unicode : Bool) (c : Char) : Bool :=
  if unicode then isWordChar c else isDigit c || isLetter c || c = '_'

/-- The test holds between the two characters around a position. -/
def Look.holds (l : Look) (before after : Option Char) : Bool :=
  match l with
  | .textStart => before.isNone
  | .textEnd => after.isNone
  | .lineStart carriageReturns => startsLine carriageReturns before after
  | .lineEnd carriageReturns => endsLine carriageReturns before after
  | .word test unicode =>
    let wordBefore := before.any (isWordOf unicode)
    let wordAfter := after.any (isWordOf unicode)
    match test with
    | .boundary => wordBefore != wordAfter
    | .noBoundary => wordBefore == wordAfter
    | .start => !wordBefore && wordAfter
    | .stop => wordBefore && !wordAfter
    | .startHalf => !wordBefore
    | .stopHalf => !wordAfter

/-- A way that is still to be followed. -/
structure Thread where
  /-- The instruction. -/
  place : Nat
  /-- The position in the text. -/
  pos : Nat
  /-- The positions recorded so far. -/
  slots : Array (Option Nat)

namespace Program

/-- Number of pairs of an instruction and a position in a text. -/
def pairCount (p : Program) (t : Array Char) : Nat := p.code.size * (t.size + 1)

/-- The ways on from an instruction, preferred first, or the match it completes. -/
def advance (p : Program) (t : Array Char) (th : Thread) :
    Except (Array (Option Nat)) (List Thread) :=
  match p.code[th.place]? with
  | none => .ok []
  | some (.take s next) =>
    match t[th.pos]? with
    | some c => .ok (if s.contains c then [{ th with place := next, pos := th.pos + 1 }] else [])
    | none => .ok []
  | some (.test l next) =>
    let before := if th.pos = 0 then none else t[th.pos - 1]?
    .ok (if l.holds before t[th.pos]? then [{ th with place := next }] else [])
  | some (.split first second) => .ok [{ th with place := first }, { th with place := second }]
  | some (.mark slot next) =>
    .ok [{ th with place := next, slots := th.slots.setIfInBounds slot (some th.pos) }]
  | some .accept => .error th.slots

/-- Follows the threads, first to last, until one matches. `seen` marks the pairs of an instruction
and a position that were met before. -/
def follow (p : Program) (t : Array Char) :
    Nat → List Thread → Array Bool → Option (Array (Option Nat)) × Array Bool
  | 0, _, seen => (none, seen)
  | _, [], seen => (none, seen)
  | fuel + 1, th :: threads, seen =>
    let pair := th.place * (t.size + 1) + th.pos
    if seen.getD pair true then follow p t fuel threads seen
    else
      match p.advance t th with
      | .ok ways => follow p t fuel (ways ++ threads) (seen.setIfInBounds pair true)
      | .error slots => (some slots, seen)

/-- The match that recorded `slots`. -/
def matchOf (slots : Array (Option Nat)) : Match :=
  let pairs := (List.range (slots.size / 2)).map fun i =>
    match (slots[2 * i]?).join, (slots[2 * i + 1]?).join with
    | some start, some stop => some (start, stop)
    | _, _ => none
  let (start, stop) := (pairs.head?.join).getD (0, 0)
  { start, stop, groups := pairs }

/-- The first match that starts at one of the `n` positions from `pos` on. -/
def searchFrom (p : Program) (t : Array Char) : Nat → Nat → Array Bool → Option Match
  | 0, _, _ => none
  | n + 1, pos, seen =>
    let fresh := { place := p.entry, pos, slots := Array.replicate p.slots none }
    match p.follow t (2 * p.pairCount t + 2) [fresh] seen with
    | (some slots, _) => some (matchOf slots)
    | (none, seen) => searchFrom p t n (pos + 1) seen

/-- The first match that starts at `pos` or later. -/
def search (p : Program) (t : Array Char) (pos : Nat) : Option Match :=
  p.searchFrom t (t.size + 1 - pos) pos (Array.replicate (p.pairCount t) false)

/-- The matches from `pos` on; `last` is where the match before them ended. -/
def matchesFrom (p : Program) (t : Array Char) : Nat → Nat → Option Nat → List Match
  | 0, _, _ => []
  | fuel + 1, pos, last =>
    let found :=
      match p.search t pos with
      | some m => if m.start = m.stop && last = some m.stop then p.search t (pos + 1) else some m
      | none => none
    match found with
    | some m => m :: matchesFrom p t fuel m.stop (some m.stop)
    | none => []

/-- All matches in a text, from left to right. -/
def allMatches (p : Program) (t : Text) : List Match :=
  p.matchesFrom t.toArray (t.length + 2) 0 none

/-- Some part of the text matches. -/
def hasMatch (p : Program) (t : Text) : Bool := (p.search t.toArray 0).isSome

end Program
end ModalEditor.Pattern
