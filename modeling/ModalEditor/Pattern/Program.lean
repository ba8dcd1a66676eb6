import ModalEditor.Pattern.Expr

/-!
# Programs

A program is a table of instructions, each naming the ones that may follow it. `Program.ofExpr`
lays an expression out back to front: every part is given the instruction that comes after it, so
only loops have to be closed afterwards. Where two ways lead on, the preferred one comes first.
-/

namespace ModalEditor.Pattern

/-- One instruction. -/
inductive Instr where
  /-- Takes a character of the set. -/
  | take (s : CharSet) (next : Nat)
  /-- Tests the position. -/
  | test (l : Look) (next : Nat)
  /-- Two ways, the first preferred. -/
  | split (first second : Nat)
  /-- Records the position in a slot. -/
  | mark (slot next : Nat)
  /-- The pattern has matched. -/
  | accept
deriving Repr, Inhabited

/-- A pattern laid out for matching. -/
structure Program where
  /-- The instructions. -/
  code : Array Instr
  /-- Where matching starts. -/
  entry : Nat
  /-- Number of slots: two for every group and two for the whole match. -/
  slots : Nat
deriving Inhabited

namespace Program

/-- A step of laying out. -/
abbrev Layout := StateM (Array Instr)

/-- Adds an instruction and gives its place. -/
def emit (i : Instr) : Layout Nat := modifyGet fun code => (code.size, code.push i)

/-- Replaces an instruction. -/
def put (place : Nat) (i : Instr) : Layout Unit := modify fun code => code.setIfInBounds place i

/-- A choice between doing something and going on; a greedy one prefers to do it. -/
def choose (greedy : Bool) (go skip : Nat) : Instr :=
  if greedy then .split go skip else .split skip go

/-- `n` copies of a part in front of `next`. -/
def copies (part : Nat → Layout Nat) : Nat → Nat → Layout Nat
  | 0, next => return next
  | n + 1, next => do copies part n (← part next)

/-- Up to `n` copies of a part in front of `next`, each of them with a way past the rest. -/
def optional (greedy : Bool) (part : Nat → Layout Nat) (exit : Nat) : Nat → Nat → Layout Nat
  | 0, next => return next
  | n + 1, next => do
    optional greedy part exit n (← emit (choose greedy (← part next) exit))

/-- A loop over a part, entered at the part itself. Gives the place of the part and that of the
choice between another round and `next`. -/
def loop (greedy : Bool) (part : Nat → Layout Nat) (next : Nat) : Layout (Nat × Nat) := do
  let back ← emit .accept
  let start ← part back
  put back (choose greedy start next)
  return (start, back)

/-- Lays an expression out in front of `next` and gives its first instruction. -/
def layOut : Expr → Nat → Layout Nat
  | .empty, next => return next
  | .chars s, next => emit (.take s next)
  | .look l, next => emit (.test l next)
  | .capture index sub, next => do
    let close ← emit (.mark (2 * index + 1) next)
    emit (.mark (2 * index) (← layOut sub close))
  | .seq first second, next => do layOut first (← layOut second next)
  | .either first second, next => do
    let a ← layOut first next
    let b ← layOut second next
    emit (.split a b)
  | .repeated least (some most) greedy sub, next => do
    let rest ← optional greedy (layOut sub) next (most - least) next
    copies (layOut sub) least rest
  | .repeated least none greedy sub, next => do
    let (start, back) ← loop greedy (layOut sub) next
    if least = 0 then
      -- A part that can be empty is entered through a choice of its own, so that the choice
      -- after a round is met for the first time after that round.
      if sub.nullable then emit (choose greedy start next) else return back
    else copies (layOut sub) (least - 1) start

/-- The program of an expression with the given number of groups. -/
def ofExpr (e : Expr) (groups : Nat) : Program :=
  let (entry, code) := (do layOut (.capture 0 e) (← emit .accept) : Layout Nat).run #[]
  { code, entry, slots := 2 * (groups + 1) }

end Program
end ModalEditor.Pattern
