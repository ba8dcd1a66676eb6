import ModalEditor.Text.Basic

/-!
# Keys

A host gives the session one key at a time. A key is written as its character or as a name in angle
brackets, and a script is a row of written keys: `iHello<Esc>:2,4d<CR>`. What looks like a name but
is none stands for its characters, so `:%s/<b>/x/` keeps its brackets.
-/

namespace ModalEditor

/-- One key. -/
inductive Key where
  /-- A character. -/
  | char (c : Char)
  /-- Enter. -/
  | enter
  /-- Tab. -/
  | tab
  /-- Backspace. -/
  | backspace
  /-- Escape. -/
  | escape
deriving Repr, DecidableEq, Inhabited

namespace Key

/-- The key that sends a character; control characters are sent by the named keys. -/
def ofChar (c : Char) : Key :=
  if c = '\x1b' then .escape
  else if c = '\r' || c = '\n' then .enter
  else if c = '\t' then .tab
  else if c = '\x08' || c = '\x7f' then .backspace
  else .char c

/-- The key with the given name, in lower case. -/
def ofName? (name : Text) : Option Key :=
  if name ∈ ["esc".toList, "escape".toList] then some .escape
  else if name ∈ ["cr".toList, "enter".toList, "return".toList] then some .enter
  else if name ∈ ["bs".toList, "backspace".toList] then some .backspace
  else if name = "tab".toList then some .tab
  else if name = "space".toList then some (.char ' ')
  else if name = "lt".toList then some (.char '<')
  else none

/-- What stands between angle brackets, if the text is in brackets. -/
def bracketed? : Text → Option Text
  | '<' :: rest => Text.beforeFinal? '>' rest
  | _ => none

/-- The key of a symbol: a single character, or a name in any case, with or without brackets. -/
def ofSymbol? : Text → Option Key
  | [c] => some (ofChar c)
  | symbol => ofName? (Text.lower ((bracketed? symbol).getD symbol))

/-- The key as it is written in a script. -/
def display : Key → Text
  | .char '<' => "<lt>".toList
  | .char c => [c]
  | .enter => "<CR>".toList
  | .tab => "<Tab>".toList
  | .backspace => "<BS>".toList
  | .escape => "<Esc>".toList

/-- A named key in brackets at the front of a script, and what follows it. The brackets close at
the first `>`. -/
def group? : Text → Option (Key × Text)
  | '<' :: rest => do
    let (name, after) ← Text.cut? '>' rest
    if name.isEmpty then none
    else return (← ofSymbol? ('<' :: (name ++ ['>'])), after)
  | _ => none

/-- Reads at most `fuel` keys. -/
def readScript : Nat → Text → List Key
  | 0, _ => []
  | _, [] => []
  | fuel + 1, c :: rest =>
    match group? (c :: rest) with
    | some (key, after) => key :: readScript fuel after
    | none => ofChar c :: readScript fuel rest

/-- The keys of a script. A script has no more keys than characters. -/
def ofScript (script : Text) : List Key := readScript script.length script

end Key
end ModalEditor
