import ModalEditor.Address
import ModalEditor.Edit.Basic
import ModalEditor.Pattern.Template

/-!
# Substitution

A substitution replaces the matches of a pattern on every line of a span, the first one of a line or
all of them. Line breaks in the replacement break the line. What is needed of the pattern is only
`find`, which lists the matches of a line.

The replacement as typed is first written as a template (see `Pattern.Template`): `&` and `\0`
stand for the whole match, `\1` to `\9` for its groups, `\t` for a tab, `\r` and `\n` for a line
break; a backslash takes the meaning of any other character away.
-/

namespace ModalEditor

/-- The flags of a substitution. -/
structure SubFlags where
  /-- `g`: every match on a line. -/
  all : Bool := false
  /-- `i`: case does not matter. -/
  ignoreCase : Bool := false
  /-- `I`: case matters. -/
  matchCase : Bool := false
  /-- `n`: only count. -/
  countOnly : Bool := false
deriving Repr, DecidableEq, Inhabited

namespace SubFlags

/-- Reads flags; other characters do not count. -/
def ofText (t : Text) : SubFlags :=
  { all := 'g' ∈ t, ignoreCase := 'i' ∈ t, matchCase := 'I' ∈ t, countOnly := 'n' ∈ t }

/-- The letters of the flags that are set. -/
def text (f : SubFlags) : Text :=
  (if f.all then ['g'] else []) ++ (if f.ignoreCase then ['i'] else []) ++
    (if f.matchCase then ['I'] else []) ++ (if f.countOnly then ['n'] else [])

/-- Case does not matter: the flags decide, else the option. -/
def ignoresCase (f : SubFlags) (o : Options) : Bool :=
  f.ignoreCase || (!f.matchCase && o.ignoreCase)

end SubFlags

namespace Substitute

/-- The reference to a group in a template. -/
def groupRef (c : Char) : Text := ['$', '\x7b', c, '\x7d']

/-- A replacement as typed, as a template. -/
def template : Text → Text
  | [] => []
  | ['\\'] => ['\\']
  | '\\' :: c :: rest =>
    if isDigit c then groupRef c ++ template rest
    else if c = 't' then '\t' :: template rest
    else if c = 'r' || c = 'n' then '\n' :: template rest
    else if c = '$' then '$' :: '$' :: template rest
    else c :: template rest
  | '&' :: rest => groupRef '0' ++ template rest
  | '$' :: rest => '$' :: '$' :: template rest
  | c :: rest => c :: template rest

/-- What a substitution does to a line. -/
structure Rule where
  /-- The matches of a line, from left to right. -/
  find : Text → List Pattern.Match
  /-- The text for a match on a line. -/
  replacement : Text → Pattern.Match → Text
  /-- Every match counts, not only the first. -/
  all : Bool

/-- The rule of a pattern, a replacement as typed and flags. -/
def Rule.of (re : Pattern) (replacement : Text) (flags : SubFlags) : Rule :=
  let template := template replacement
  { find := re.matchesOf
    replacement := fun line m =>
      Pattern.Template.expand (m.groupText line) (fun n => re.names.lookup n) template
    all := flags.all }

/-- The matches on a line that are replaced. -/
def Rule.hits (r : Rule) (line : Text) : List Pattern.Match :=
  if r.all then r.find line else (r.find line).take 1

/-- The lines that a line becomes. -/
def Rule.linesFor (r : Rule) (line : Text) : List Text :=
  Text.splitLines (Pattern.replaceFrom (r.replacement line) line 0 (r.hits line))

/-- Number of matches of the rule on a line. -/
def Rule.count (r : Rule) (line : Text) : Nat := (r.hits line).length

/-- Number of matches on the `n` lines from line `i` on. -/
def countFrom (r : Rule) (b : Buffer) (n i : Nat) : Nat :=
  ((b.lines.drop i).take n).foldl (fun total line => total + r.count line) 0

/-- Replaces on the `n` lines from line `i` on. Gives the buffer, the number of matches and the
last line that was changed. -/
def replaceOn (r : Rule) : Nat → Nat → Buffer → Buffer × Nat × Option Nat
  | 0, _, b => (b, 0, none)
  | n + 1, i, b =>
    match b.lines[i]? with
    | none => (b, 0, none)
    | some line =>
      if r.count line = 0 then replaceOn r n (i + 1) b
      else
        let pieces := r.linesFor line
        let last := i + (pieces.length - 1)
        let (b, count, changed) := replaceOn r n (last + 1) (b.replaceLines (.line i) pieces)
        (b, r.count line + count, changed.or (some last))

/-- Replaces on the lines of a span and goes to the last line that was changed. Gives the number of
matches. -/
def replace (r : Rule) (s : LineSpan) (b : Buffer) : Buffer × Nat :=
  let (b, count, changed) := replaceOn r s.size s.first b
  match changed with
  | some n => (b.goTo n, count)
  | none => (b, count)

end Substitute

namespace Edit

/-- The pattern that a typed one stands for: an empty one is the one searched for last. -/
def typedPattern (pattern : Text) : Edit Text := do
  if !pattern.isEmpty then return pattern
  match (← buffer).lastSearch with
  | some last => return last
  | none => throw (.patternNotFound [])

/-- Reads a typed pattern and remembers it as the one searched for last. -/
def compile (pattern : Text) (ignoreCase : Bool) : Edit (Text × Pattern) := do
  let pattern ← typedPattern pattern
  let re ← orFail (Search.compile pattern ignoreCase)
  modifyBuffer fun b => { b with lastSearch := some pattern }
  return (pattern, re)

/-- Replaces matches on the lines of a span, or only counts them. Gives their number. -/
def substitute (s : LineSpan) (pattern replacement : Text) (flags : SubFlags) (o : Options) :
    Edit Nat := do
  checkSpan s
  let (_, re) ← compile pattern (flags.ignoresCase o)
  let rule := Substitute.Rule.of re replacement flags
  let b ← buffer
  if flags.countOnly then return Substitute.countFrom rule b s.size s.first
  let (b, count) := Substitute.replace rule s b
  modifyBuffer fun _ => b
  return count

end Edit
end ModalEditor
