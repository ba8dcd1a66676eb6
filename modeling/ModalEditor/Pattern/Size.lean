import ModalEditor.Pattern.ByteRow
import ModalEditor.Pattern.Expr

/-!
# The size of a pattern

A counted repetition stands for as many copies of what it repeats, so a short pattern can stand for
a huge machine. The size of the machine is computed here, in bytes, and a pattern is refused when
its machine would pass `sizeLimit`.

There are two machines, one for reading forwards and one for reading backwards. Both work on the
bytes of UTF-8, where a character of a set is a row of byte ranges. Reading forwards, the rows of a
set are the ways through a graph in which equal ends are shared. Reading backwards, every byte range
is a state, and starts of rows are shared as far as a table of a fixed number of places remembers
them: a later start may take the place of an earlier one, so how much is shared depends on the
numbers of the states, and the machine is laid out step by step. Groups only cost in the forward
machine.
-/

namespace ModalEditor.Pattern

/-- The greatest size of a machine: ten mebibytes. -/
def sizeLimit : Nat := 10485760

/-- Bytes of a state. -/
def stateSize : Nat := 32

namespace Size

/-- The states of a machine and the bytes that they need beyond their own size. -/
structure Cost where
  /-- Number of states. -/
  states : Nat
  /-- Further bytes. -/
  extra : Nat := 0
deriving Repr, DecidableEq

namespace Cost

/-- Both costs. -/
def add (a b : Cost) : Cost := ⟨a.states + b.states, a.extra + b.extra⟩

instance : Add Cost := ⟨add⟩

/-- All costs. -/
def sum (costs : List Cost) : Cost := costs.foldl add ⟨0, 0⟩

/-- The cost, several times. -/
def times (n : Nat) (a : Cost) : Cost := ⟨n * a.states, n * a.extra⟩

/-- Bytes in all. -/
def bytes (a : Cost) : Nat := stateSize * a.states + a.extra

end Cost

/-- The state between a way on and a way past it. -/
def fork : Cost := ⟨1, 8⟩

/-- The cost of a set that is no row of byte ranges by itself: a single character, a set of ASCII,
or nothing at all. -/
def smallSet? (s : CharSet) : Option Cost :=
  match s.ranges with
  | [] => some ⟨2, 0⟩
  | [(lo, hi)] =>
    if lo = hi then some ⟨(utf8Bytes lo).length, 0⟩
    else if s.isAscii then some ⟨2, 8⟩ else none
  | ranges => if s.isAscii then some ⟨2, 8 * ranges.length⟩ else none

/-! ## Choices of texts -/

/-- The bytes of an expression that stands for a text. -/
def text? (e : Expr) : Option (List Nat) := do
  if e.parts.isEmpty then none
  return ((← e.parts.mapM Expr.code?).map utf8Bytes).flatten

/-- Cuts words at the empty ones, each of which ends a chunk. Without a word before them, only the
first of several empty words counts. -/
def chunks : List (List Nat) → List (List (List Nat))
  | [] => [[]]
  | word :: words =>
    match word, chunks words with
    | [], rest => [] :: rest
    | word, chunk :: rest => (word :: chunk) :: rest
    | word, [] => [[word]]

/-- Empty words at the front, but for one of them, removed. -/
def withoutRepeats : List (List Nat) → List (List Nat)
  | [] :: [] :: words => withoutRepeats ([] :: words)
  | words => words

/-- The rests of words by their first byte. -/
def byFirst (words : List (List Nat)) : List (Nat × List (List Nat)) :=
  words.foldl (fun groups word =>
    match word with
    | [] => groups
    | b :: rest =>
      if groups.any fun g => g.1 == b then
        groups.map fun g => if g.1 == b then (b, g.2 ++ [rest]) else g
      else groups ++ [(b, [rest])]) []

/-- The cost of a tree of words. Words that start alike share a way; `fuel` bounds their length. -/
def treeCost (fuel : Nat) (words : List (List Nat)) : Cost :=
  match fuel with
  | 0 => ⟨0, 0⟩
  | fuel + 1 =>
    let groups := (chunks (withoutRepeats words)).map byFirst
    let ways := (groups.filter fun g => !g.isEmpty).length + (groups.length - 1)
    let steps := groups.map fun g =>
      match g.length with
      | 0 => (⟨0, 0⟩ : Cost)
      | 1 => ⟨1, 0⟩
      | n => ⟨1, 8 * n⟩
    let deeper := groups.flatten.map fun g =>
      if g.2.all List.isEmpty then ⟨0, 0⟩ else treeCost fuel g.2
    ⟨1, 4 * ways⟩ + .sum steps + .sum deeper

/-- The cost of a choice between texts: the tree of them and its end. -/
def wordsCost (words : List (List Nat)) : Cost :=
  ⟨1, 0⟩ + treeCost ((words.map List.length).foldl max 0 + 1) words

/-! ## The forward machine -/

/-- A node of the graph of a set: byte ranges and the numbers of the nodes that they lead to. Number
`0` is the end. -/
abbrev GraphNode := List (ByteRange × Nat)

/-- The graph of some rows as far as it is built. -/
structure Graph where
  /-- The nodes that are complete, last first. -/
  complete : List GraphNode := []
  /-- The row at hand, deepest node first: what leads on from each node but for its last byte range,
  which is the way of the row. -/
  path : List (GraphNode × ByteRange) := []

namespace Graph

/-- The number of a complete node, which is added if need be. -/
def intern (g : Graph) (node : GraphNode) : Graph × Nat :=
  match g.complete.idxOf? node with
  | some i => (g, g.complete.length - i)
  | none => ({ g with complete := node :: g.complete }, g.complete.length + 1)

/-- Completes the nodes of the row at hand that lie deeper than `depth`. Gives what leads on from
the node at that depth. -/
def close (g : Graph) (depth : Nat) (target : Nat) :
    List (GraphNode × ByteRange) → Graph × GraphNode
  | [] => (g, [])
  | (ways, range) :: path =>
    let node := ways ++ [(range, target)]
    if path.length ≤ depth then ({ g with path }, node)
    else
      let (g, n) := g.intern node
      g.close depth n path

/-- Adds a row. -/
def add (g : Graph) (row : List ByteRange) : Graph :=
  let shared := ((g.path.reverse.zip row).takeWhile fun (step, range) => step.2 == range).length
  let (g, ways) := if g.path.isEmpty then (g, []) else g.close shared 0 g.path
  match row.drop shared with
  | [] => g
  | range :: deeper =>
    let steps : List (GraphNode × ByteRange) := deeper.map fun r => ([], r)
    { g with path := steps.reverse ++ (ways, range) :: g.path }

/-- All nodes of the graph at the end of the rows. -/
def nodes (g : Graph) : List GraphNode :=
  let (g, root) := g.close 0 0 g.path
  (g.intern root).1.complete

end Graph

/-- The cost of a set in the forward machine. -/
def forwardSet (s : CharSet) : Cost :=
  (smallSet? s).getD <|
    let nodes := ((setRows s).foldl Graph.add {}).nodes
    ⟨1, 0⟩ + .sum (nodes.map fun node => ⟨1, 8 * node.length⟩)

/-! ## The backward machine -/

/-- A state that leads on by a byte range. -/
structure Place where
  /-- The number of the state that it leads to. -/
  after : Nat
  /-- The byte range. -/
  range : ByteRange
  /-- The number of the state. -/
  number : Nat

/-- What is laid out of a machine. Its states are numbered from `0`. -/
structure Tally where
  /-- What it costs. -/
  cost : Cost
  /-- The states that are remembered, each at its place. -/
  places : Array (Option Place) := Array.replicate 1000 none

/-- One step of the digest that chooses the place of a state. -/
def digestStep (digest : UInt64) (n : Nat) : UInt64 := (digest ^^^ n.toUInt64) * 1099511628211

/-- The place of a state. -/
def placeOf (after : Nat) (range : ByteRange) : Nat :=
  ([after, range.1, range.2].foldl digestStep 14695981039346656037 % 1000).toNat

namespace Tally

/-- The machine is within the limit. -/
def fits (t : Tally) : Bool := t.cost.bytes ≤ sizeLimit

/-- Lays out what costs the same anywhere. -/
def add (t : Tally) (cost : Cost) : Tally := { t with cost := t.cost + cost }

/-- Lays out the byte ranges of a row, the first of which leads to the state `after`. A state that
is remembered is used again, and a new one takes its place. -/
def addRow (t : Tally) (after : Nat) : List ByteRange → Tally
  | [] => t
  | range :: row =>
    let place := placeOf after range
    let known := (t.places[place]?).join.filter fun p => p.after == after && p.range == range
    match known, t with
    | some p, t => t.addRow p.number row
    | none, ⟨cost, places⟩ =>
      let number := cost.states
      let places := places.setIfInBounds place (some ⟨after, range, number⟩)
      Tally.addRow ⟨cost + ⟨1, 0⟩, places⟩ number row

/-- Lays out a set: a fork with a way for each row, and the end of all rows. -/
def addRows (t : Tally) (rows : List (List ByteRange)) : Tally :=
  let stop := t.cost.states + 1
  rows.foldl (fun t row => t.addRow stop row) (t.add ⟨2, 4 * rows.length⟩)

end Tally

/-! ## Machines of expressions -/

/-- What is laid out for an expression, in this order. -/
inductive Plan where
  /-- What costs the same anywhere. -/
  | fixed (cost : Cost)
  /-- A set, by the rows of its byte ranges. -/
  | ofRows (rows : List (List ByteRange))
  /-- One after the other. -/
  | andThen (first second : Plan)
  /-- Several copies. -/
  | copies (n : Nat) (sub : Plan)

namespace Plan

/-- One plan after the other. -/
def append : Plan → Plan → Plan
  | .fixed a, .fixed b => .fixed (a + b)
  | a, b => .andThen a b

instance : Append Plan := ⟨append⟩

/-- Several copies of a plan. -/
def times (n : Nat) : Plan → Plan
  | .fixed cost => .fixed (cost.times n)
  | sub => if n = 0 then .fixed ⟨0, 0⟩ else .copies n sub

/-- Lays out `n` copies, unless the limit is passed. -/
def repeatStep (step : Tally → Option Tally) : Nat → Tally → Option Tally
  | 0, t => some t
  | n + 1, t =>
    match step t with
    | some t => repeatStep step n t
    | none => none

/-- Lays out a plan, unless the limit is passed. -/
def layOut : Plan → Tally → Option Tally
  | .fixed cost, t => some (t.add cost)
  | .ofRows rows, t => some (t.addRows rows)
  | .andThen first second, t => do second.layOut (← first.layOut t)
  | .copies n sub, t => repeatStep (fun t => (sub.layOut t).filter Tally.fits) n t

end Plan

/-- A direction of reading. -/
inductive Direction where
  /-- From the first byte to the last. -/
  | forward
  /-- From the last byte to the first. -/
  | backward
deriving Repr, DecidableEq

namespace Direction

/-- What a group costs. -/
def group : Direction → Cost
  | .forward => ⟨2, 0⟩
  | .backward => ⟨0, 0⟩

/-- The plan of a set. -/
def set (s : CharSet) : Direction → Plan
  | .forward => .fixed (forwardSet s)
  | .backward => ((smallSet? s).map Plan.fixed).getD (.ofRows (setRows s))

/-- The bytes of a text in the order of reading. -/
def word (bytes : List Nat) : Direction → List Nat
  | .forward => bytes
  | .backward => bytes.reverse

/-- The test that holds only where reading starts. -/
def anchor : Direction → Look
  | .forward => .textStart
  | .backward => .textEnd

/-- The two in the order of reading. -/
def order (first second : α) : Direction → α × α
  | .forward => (first, second)
  | .backward => (second, first)

/-- The expression only matches where reading starts. -/
def anchored (d : Direction) : Expr → Bool
  | .empty | .chars _ => false
  | .look l => l = d.anchor
  | .repeated least _ _ sub => least ≠ 0 && d.anchored sub
  | .capture _ sub => d.anchored sub
  | .seq first second =>
    let ends := d.order (d.anchored first, first) (d.anchored second, second)
    ends.1.1 || (ends.1.2.maxLength? = some 0 && ends.2.1)
  | .either first second => d.anchored first && d.anchored second

mutual

/-- The plan of an expression. -/
def plan (d : Direction) : Expr → Plan
  | .empty | .look _ => .fixed ⟨1, 0⟩
  | .chars s => d.set s
  | .capture _ sub => .fixed d.group ++ d.plan sub
  | .seq first second =>
    let parts := d.order (d.plan first) (d.plan second)
    parts.1 ++ parts.2
  | .either first second =>
    match (Expr.either first second).branches.mapM text? with
    | some words => .fixed (wordsCost (words.map fun word => d.word word))
    | none => d.plan first ++ d.planSecond second
  | .repeated least none _ sub =>
    if least ≠ 0 then Plan.times least (d.plan sub) ++ .fixed fork
    else if sub.isLonger then .fixed fork ++ d.plan sub
    else d.plan sub ++ .fixed ⟨3, 16⟩
  | .repeated least (some most) _ sub =>
    let once := d.plan sub
    if least = most then Plan.times most once
    else if least = 0 && most = 1 then .fixed fork ++ once ++ .fixed ⟨1, 0⟩
    else
      let needed := if least = 0 then .fixed ⟨1, 0⟩ else Plan.times least once
      needed ++ .fixed ⟨1, 0⟩ ++ Plan.times (most - least) (.fixed fork ++ once)

/-- The plan of the alternatives after the first. The fork and the end of all stand after the
second. -/
def planSecond (d : Direction) : Expr → Plan
  | .either first rest => d.plan first ++ .fixed ⟨2, 8⟩ ++ d.planRest rest
  | e => d.plan e ++ .fixed ⟨2, 8⟩

/-- The plan of the alternatives after the second, each with its way from the fork. -/
def planRest (d : Direction) : Expr → Plan
  | .either first rest => d.plan first ++ .fixed ⟨0, 4⟩ ++ d.planRest rest
  | e => d.plan e ++ .fixed ⟨0, 4⟩

end

/-- The machine of an expression, from the search for its start to its final state, if it is within
the limit. -/
def machine? (d : Direction) (e : Expr) : Option Tally := do
  let start : Cost := if d.anchored e then ⟨1, 0⟩ else ⟨3, 16⟩
  let t ← (d.plan e).layOut { cost := start + d.group }
  guard (t.add ⟨1, 0⟩).fits
  return t

end Direction
end Size

/-- The machines of an expression are within the limit. -/
def Expr.fits (e : Expr) : Bool :=
  (Size.Direction.forward.machine? e).isSome && (Size.Direction.backward.machine? e).isSome

end ModalEditor.Pattern
