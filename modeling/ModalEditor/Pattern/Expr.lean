import ModalEditor.Pattern.Property
import ModalEditor.Text.CaseFold

/-!
# The meaning of a pattern

`Expr` is a pattern with all flags applied: sets of characters, tests of a position, repetitions,
groups, sequences and alternatives. `Expr.ofNode` applies the flags of a syntax tree, from left to
right; flags set inside a group end with it.

A pattern matches whole characters. With the flag `u` off, classes and boundaries know ASCII only,
and what could match a part of a character is refused.
-/

namespace ModalEditor.Pattern

/-- A test of the words around a position. -/
inductive WordTest where
  /-- A word starts or ends here. -/
  | boundary
  /-- No word starts or ends here. -/
  | noBoundary
  /-- A word starts here. -/
  | start
  /-- A word ends here. -/
  | stop
  /-- No word character stands before. -/
  | startHalf
  /-- No word character follows. -/
  | stopHalf
deriving Repr, DecidableEq

/-- A test of a position. -/
inductive Look where
  /-- The start of the text. -/
  | textStart
  /-- The end of the text. -/
  | textEnd
  /-- The start of the text or of a line in it. -/
  | lineStart (carriageReturns : Bool)
  /-- The end of the text or of a line in it. -/
  | lineEnd (carriageReturns : Bool)
  /-- A test of words, made of all word characters or of those of ASCII. -/
  | word (test : WordTest) (unicode : Bool)
deriving Repr, DecidableEq

/-- A pattern with its flags applied. -/
inductive Expr where
  /-- The empty text. -/
  | empty
  /-- One character of a set. -/
  | chars (s : CharSet)
  /-- The empty text, where the test holds. -/
  | look (l : Look)
  /-- From `least` to `most` times, or without limit; a greedy repetition prefers more. -/
  | repeated (least : Nat) (most : Option Nat) (greedy : Bool) (sub : Expr)
  /-- Remembers what matched under a number. -/
  | capture (index : Nat) (sub : Expr)
  /-- One after the other. -/
  | seq (first second : Expr)
  /-- Either, the first preferred. -/
  | either (first second : Expr)
deriving Repr, BEq

/-- The flags in force. -/
structure Flags where
  /-- Case does not matter. -/
  ignoreCase : Bool := false
  /-- Anchors match at line breaks. -/
  multiLine : Bool := false
  /-- A dot matches a line break. -/
  dotAll : Bool := false
  /-- Greedy and lazy change places. -/
  swapGreed : Bool := false
  /-- Classes and boundaries know all of Unicode. -/
  unicode : Bool := true
  /-- A carriage return is part of a line break. -/
  carriageReturns : Bool := false
deriving Repr, DecidableEq

/-- The flags after a list of changes. -/
def Flags.apply (f : Flags) (items : List FlagItem) : Flags :=
  { ignoreCase := (flagState? .ignoreCase items).getD f.ignoreCase
    multiLine := (flagState? .multiLine items).getD f.multiLine
    dotAll := (flagState? .dotAll items).getD f.dotAll
    swapGreed := (flagState? .swapGreed items).getD f.swapGreed
    unicode := (flagState? .unicode items).getD f.unicode
    carriageReturns := (flagState? .carriageReturns items).getD f.carriageReturns }

/-- The set closed under case, if case does not matter. -/
def Flags.fold (f : Flags) (s : CharSet) : CharSet :=
  if f.ignoreCase then (if f.unicode then CaseFold.closure s else CaseFold.asciiClosure s) else s

/-- The set closed under case if need be, and complemented if negated. With `u` off it must stay
within ASCII. -/
def Flags.finish (f : Flags) (negated : Bool) (s : CharSet) : Except Fault CharSet :=
  let s := f.fold s
  let s := if negated then s.compl else s
  if f.unicode || s.isAscii then .ok s else .error .withinCharacter

/-- A character as a part of a class. -/
def Flags.classChar (f : Flags) (l : Literal) : Except Fault Nat :=
  if f.unicode || l.char.toNat < 0x80 then .ok l.char.toNat
  else if l.asByte then .error .withinCharacter
  else .error .unicodeNotAllowed

/-- The members of a class with a letter of its own. -/
def Flags.shorthand (f : Flags) (s : Shorthand) (negated : Bool) : Except Fault CharSet :=
  let members :=
    match s, f.unicode with
    | .digit, true => Category.decimalDigits
    | .digit, false => ⟨[(0x30, 0x39)]⟩
    | .space, true => CharSet.ofRanges blankRanges
    | .space, false => ⟨[(0x09, 0x0D), (0x20, 0x20)]⟩
    | .word, true => wordSet
    | .word, false => ⟨[(0x30, 0x39), (0x41, 0x5A), (0x5F, 0x5F), (0x61, 0x7A)]⟩
  let members := if negated then members.compl else members
  if f.unicode || members.isAscii then .ok members else .error .withinCharacter

/-- The members of a property class. -/
def Flags.property (f : Flags) (p : Property) (negated : Bool) : Except Fault CharSet := do
  if !f.unicode then throw .unicodeNotAllowed
  f.finish negated (← p.members)

mutual

/-- The members of a class or of a part of one. -/
def ClassNode.members (f : Flags) : ClassNode → Except Fault CharSet
  | .literal l => do
    let n ← f.classChar l
    return ⟨[(n, n)]⟩
  | .range first last => return ⟨[(← f.classChar first, ← f.classChar last)]⟩
  | .ascii ranges negated => f.finish negated (CharSet.ofRanges ranges)
  | .property p negated => f.property p negated
  | .shorthand s negated => f.shorthand s negated
  | .bracket negated body => do f.finish negated (← body.members f)
  | .union parts => ClassNode.membersOfParts f parts
  | .binary op left right => do
    let left := f.fold (← left.members f)
    let right := f.fold (← right.members f)
    match op with
    | .intersection => return left.inter right
    | .difference => return left.diff right
    | .symmetricDifference => return left.symmDiff right

/-- The members of any of the parts. -/
def ClassNode.membersOfParts (f : Flags) : List ClassNode → Except Fault CharSet
  | [] => return .empty
  | part :: parts => do
    let first ← part.members f
    return first.union (← ClassNode.membersOfParts f parts)

end

namespace Expr

/-- The greatest number of characters that a match can have, if there is one. -/
def maxLength? : Expr → Option Nat
  | .empty | .look _ => some 0
  | .chars _ => some 1
  | .repeated _ most _ sub => do return (← most) * (← sub.maxLength?)
  | .capture _ sub => sub.maxLength?
  | .seq first second => do return (← first.maxLength?) + (← second.maxLength?)
  | .either first second => do return max (← first.maxLength?) (← second.maxLength?)

/-- The least number of characters that a match can have, if the expression can match. -/
def minLength? : Expr → Option Nat
  | .empty | .look _ => some 0
  | .chars s => if s.ranges.isEmpty then none else some 1
  | .repeated least _ _ sub => do return least * (← sub.minLength?)
  | .capture _ sub => sub.minLength?
  | .seq first second => do return (← first.minLength?) + (← second.minLength?)
  | .either first second => do return min (← first.minLength?) (← second.minLength?)

/-- The expression can match, and no match of it is empty. -/
def isLonger (e : Expr) : Bool := e.minLength?.any (0 < ·)

/-- The empty text can match. -/
def nullable : Expr → Bool
  | .empty | .look _ => true
  | .chars _ => false
  | .repeated least _ _ sub => least = 0 || sub.nullable
  | .capture _ sub => sub.nullable
  | .seq first second => first.nullable && second.nullable
  | .either first second => first.nullable || second.nullable

/-- A sequence; the empty text adds nothing to it. -/
def andThen : Expr → Expr → Expr
  | .empty, e => e
  | e, .empty => e
  | e, e' => .seq e e'

/-- The parts of a sequence. -/
def parts : Expr → List Expr
  | .empty => []
  | .seq first second => first.parts ++ second.parts
  | e => [e]

/-- The sequence of some parts. -/
def ofSequence (parts : List Expr) : Expr := parts.foldr andThen .empty

/-- The alternatives of a choice. -/
def branches : Expr → List Expr
  | .either first second => first.branches ++ second.branches
  | e => [e]

/-- A choice between alternatives, the first preferred. -/
def choice : List Expr → Expr
  | [] => .chars .empty
  | [e] => e
  | e :: rest => .either e (choice rest)

/-- The code of the character that the expression stands for, if it is just one. -/
def code? : Expr → Option Nat
  | .chars ⟨[(lo, hi)]⟩ => if lo = hi then some lo else none
  | _ => none

/-- The set that the expression stands for, if it is one with other than one member. -/
def set? : Expr → Option CharSet
  | .chars s => if (code? (.chars s)).isSome then none else some s
  | _ => none

/-- Parts with neighbouring characters put together; `text` are the characters at hand. -/
def atomsFrom (text : List Expr) : List Expr → List (List Expr)
  | [] => if text.isEmpty then [] else [text]
  | e :: rest =>
    if e.code?.isSome then atomsFrom (text ++ [e]) rest
    else (if text.isEmpty then [] else [text]) ++ [e] :: atomsFrom [] rest

/-- Number of leading entries that two lists share. -/
def sharedCount (as bs : List (List Expr)) : Nat :=
  ((as.zip bs).takeWhile fun (a, b) => a == b).length

/-- A choice between alternatives in its simplest form, in at most `fuel` steps: alternatives that
are all characters, or all sets, are one set, and sequences that all start alike share that
start. -/
def simplest (fuel : Nat) (alternatives : List Expr) : Expr :=
  let all := alternatives.flatMap branches
  match all.mapM code?, all.mapM set?, fuel with
  | some codes, _, _ => .chars (.ofRanges (codes.map fun n => (n, n)))
  | none, some sets, _ => .chars (CharSet.unions sets)
  | none, none, 0 => choice all
  | none, none, fuel + 1 =>
    match all.map fun e => atomsFrom [] e.parts with
    | first :: second :: rest =>
      let rows := first :: second :: rest
      let shared := (second :: rest).foldl (fun n row => min n (sharedCount first row)) first.length
      if shared = 0 || rows.any fun row => row.length < 2 then choice all
      else
        let ends := rows.map fun row => ofSequence (row.drop shared).flatten
        ofSequence ((first.take shared).flatten ++ [simplest fuel ends])
    | _ => choice all

/-- A choice between alternatives. -/
def oneOf (alternatives : List Expr) : Expr :=
  match alternatives with
  | [e] => e
  | es => simplest (es.flatMap branches).length es

/-- A repetition. What only matches the empty text need not be tried more than once. -/
def times (least : Nat) (most : Option Nat) (greedy : Bool) (sub : Expr) : Expr :=
  let once := sub.maxLength? = some 0
  let least := if once then min least 1 else least
  let most := if once then some (min (most.getD 1) 1) else most
  if most = some 0 then .empty
  else if least = 1 && most = some 1 then sub
  else .repeated least most greedy sub

/-- The expression for a test of the position. -/
def ofAssertion (f : Flags) : Assertion → Expr
  | .lineStart => .look (if f.multiLine then .lineStart f.carriageReturns else .textStart)
  | .lineEnd => .look (if f.multiLine then .lineEnd f.carriageReturns else .textEnd)
  | .textStart => .look .textStart
  | .textEnd => .look .textEnd
  | .wordBoundary => .look (.word .boundary f.unicode)
  | .noWordBoundary => .look (.word .noBoundary f.unicode)
  | .wordStart => .look (.word .start f.unicode)
  | .wordEnd => .look (.word .stop f.unicode)
  | .wordStartHalf => .look (.word .startHalf f.unicode)
  | .wordEndHalf => .look (.word .stopHalf f.unicode)

/-- The characters that a dot matches. -/
def dotSet (f : Flags) : CharSet :=
  if f.dotAll then CharSet.compl .empty
  else if f.carriageReturns then CharSet.compl ⟨[(0x0A, 0x0A), (0x0D, 0x0D)]⟩
  else CharSet.compl ⟨[(0x0A, 0x0A)]⟩

/-- One character, or its other cases too. -/
def ofLiteral (f : Flags) (l : Literal) : Except Fault Expr :=
  if !f.unicode && l.asByte && 0x80 ≤ l.char.toNat then .error .withinCharacter
  else .ok (.chars (f.fold (.singleton l.char)))

mutual

/-- The meaning of a tree under the flags in force, which it may change. -/
def ofNode : Node → StateT Flags (Except Fault) Expr
  | .empty => return .empty
  | .flags items => do
    modify (·.apply items)
    return .empty
  | .literal l => do ofLiteral (← get) l
  | .dot => do
    let f ← get
    if !f.unicode then throw .withinCharacter
    return .chars (dotSet f)
  | .assertion a => return ofAssertion (← get) a
  | .property p negated => do return .chars (← (← get).property p negated)
  | .shorthand s negated => do return .chars (← (← get).shorthand s negated)
  | .bracket negated body => do
    let f ← get
    return .chars (← f.finish negated (← body.members f))
  | .repeated least most greedy sub => do
    let e ← ofNode sub
    return times least most (greedy != (← get).swapGreed) e
  | .group kind sub => do
    let outer ← get
    if let .plain items := kind then set (outer.apply items)
    let e ← ofNode sub
    set outer
    match kind with
    | .capture index => return .capture index e
    | .plain _ => return e
  | .alternation branches => return oneOf (← ofBranches branches)
  | .concat parts => ofParts parts

/-- The meaning of a sequence. -/
def ofParts : List Node → StateT Flags (Except Fault) Expr
  | [] => return .empty
  | part :: parts => do
    let e ← ofNode part
    return e.andThen (← ofParts parts)

/-- The meanings of alternatives. -/
def ofBranches : List Node → StateT Flags (Except Fault) (List Expr)
  | [] => return []
  | branch :: branches => do
    let e ← ofNode branch
    return e :: (← ofBranches branches)

end

end Expr
end ModalEditor.Pattern
