import ModalEditor.Shell.Syntax

/-!
# Reading commands of the shell

A script is cut into tokens one character at a time, and the tokens are put together one at a time.
Both are folds: the lexer holds the word at hand and what the next character means, the parser holds
the stage at hand and the redirection that still waits for its word.
-/

namespace ModalEditor.Shell

/-- A token of a script. -/
inductive Token where
  /-- A word. -/
  | word (w : Word)
  /-- The number of the stream that the next operator redirects. -/
  | stream (n : Nat)
  /-- An operator, or a line break. -/
  | operator (name : String)
deriving Repr, DecidableEq, Inhabited

/-- What the next character of a script means. -/
inductive Within where
  /-- Nothing special. -/
  | plain
  /-- It stands for itself up to the closing quote. -/
  | single
  /-- It is in double quotes. -/
  | double
  /-- It follows a backslash. -/
  | escape (quoted : Bool)
  /-- It follows a dollar sign. -/
  | dollar (quoted : Bool)
  /-- It may go on with the name of a variable. -/
  | name (n : Text) (quoted : Bool)
  /-- It may go on with the name of a variable in braces. -/
  | braced (n : Text) (quoted : Bool)
  /-- It may make an operator longer. -/
  | operator (t : Text)
  /-- It is in a comment. -/
  | comment
deriving Repr, DecidableEq, Inhabited

/-- Where cutting stands. -/
structure Lexer where
  /-- What the next character means. -/
  within : Within := .plain
  /-- The word at hand, its parts last first. -/
  word : Option Word := none
  /-- The word at hand has no quotes. -/
  bare : Bool := true
  /-- The tokens, last first. -/
  tokens : List Token := []
deriving Repr, Inhabited

/-- The operators of more than one character. -/
def longOperators : List String := ["&&", "||", ";;", ">>", ">&", "<&", ">|", "<<", "<>"]

namespace Lexer

/-- Adds a character to the word at hand. -/
def push (l : Lexer) (c : Char) : Lexer :=
  match l.word with
  | some (.literal t :: parts) => { l with word := some (.literal (t ++ [c]) :: parts) }
  | w => { l with word := some (.literal [c] :: w.getD []) }

/-- Adds a variable to the word at hand. -/
def pushVariable (l : Lexer) (name : Text) (quoted : Bool) : Lexer :=
  { l with word := some (.variable name quoted :: l.word.getD []) }

/-- Ends the word at hand. -/
def endWord (l : Lexer) : Lexer :=
  match l.word with
  | none => l
  | some parts => { l with word := none, bare := true, tokens := .word parts.reverse :: l.tokens }

/-- Ends the word at hand in front of a redirection: a bare number is that of its stream. -/
def endStream (l : Lexer) : Lexer :=
  match l.word with
  | some [.literal t] =>
    match Text.count? t with
    | some n => if l.bare then { l with word := none, tokens := .stream n :: l.tokens }
                else l.endWord
    | none => l.endWord
  | _ => l.endWord

/-- Adds an operator. -/
def emit (l : Lexer) (name : Text) : Lexer :=
  { l with tokens := .operator (String.ofList name) :: l.tokens }

/-- Where a quoted or unquoted part goes on. -/
def base (quoted : Bool) : Within := if quoted then .double else .plain

/-- Opens a quote, which is a word even if nothing is in it. -/
def openQuote (l : Lexer) (w : Within) : Lexer :=
  { l with within := w, bare := false, word := some (l.word.getD [.literal []]) }

/-- A character outside quotes. -/
def plain (l : Lexer) (c : Char) : Lexer :=
  let l := { l with within := .plain }
  if c = ' ' || c = '\t' then l.endWord
  else if c = '\n' then l.endWord.emit [c]
  else if c = '\'' then l.openQuote .single
  else if c = '"' then l.openQuote .double
  else if c = '\\' then { l with within := .escape false, bare := false }
  else if c = '$' then { l with within := .dollar false }
  else if c = '#' && l.word.isNone then { l with within := .comment }
  else if c = '<' || c = '>' then { l.endStream with within := .operator [c] }
  else if c ∈ ['|', '&', ';', '(', ')'] then { l.endWord with within := .operator [c] }
  else l.push c

/-- A character in double quotes. -/
def double (l : Lexer) (c : Char) : Lexer :=
  let l := { l with within := .double }
  if c = '"' then { l with within := .plain }
  else if c = '\\' then { l with within := .escape true }
  else if c = '$' then { l with within := .dollar true }
  else l.push c

/-- A character after the end of a part. -/
def goOn (l : Lexer) (quoted : Bool) (c : Char) : Lexer := if quoted then l.double c else l.plain c

/-- A character that may stand in the name of a variable. -/
def isNameChar (c : Char) : Bool := isLetter c || isDigit c || c = '_'

/-- Reads a character. -/
def next (l : Lexer) (c : Char) : Lexer :=
  match l.within with
  | .plain => l.plain c
  | .double => l.double c
  | .single => if c = '\'' then { l with within := .plain } else l.push c
  | .escape quoted =>
    let l := { l with within := base quoted }
    if c = '\n' then l
    else if quoted && !(c ∈ ['$', '"', '\\', '\x60']) then (l.push '\\').push c
    else l.push c
  | .dollar quoted =>
    if c = '\x7b' then { l with within := .braced [] quoted }
    else if isLetter c || c = '_' then { l with within := .name [c] quoted }
    else if isDigit c || c ∈ ['$', '?', '!', '#', '@', '*'] then
      { l.pushVariable [c] quoted with within := base quoted }
    else (l.push '$').goOn quoted c
  | .name n quoted =>
    if isNameChar c then { l with within := .name (n ++ [c]) quoted }
    else (l.pushVariable n quoted).goOn quoted c
  | .braced n quoted =>
    if c = '\x7d' then { l.pushVariable n quoted with within := base quoted }
    else { l with within := .braced (n ++ [c]) quoted }
  | .operator t =>
    if String.ofList (t ++ [c]) ∈ longOperators then { l with within := .operator (t ++ [c]) }
    else (l.emit t).plain c
  | .comment => if c = '\n' then l.plain c else l

/-- The tokens at the end of the script, first to last; none if a quote is left open. -/
def finish (l : Lexer) : Option (List Token) :=
  let close (l : Lexer) := some l.endWord.tokens.reverse
  match l.within with
  | .plain | .comment => close l
  | .single | .double | .escape true | .dollar true | .name _ true | .braced _ _ => none
  | .escape false => close (l.push '\\')
  | .dollar false => close (l.push '$')
  | .name n false => close (l.pushVariable n false)
  | .operator t => close (l.emit t)

end Lexer

/-- The tokens of a script; none if a quote is left open. -/
def tokens? (script : Text) : Option (List Token) := (script.foldl Lexer.next {}).finish

/-- Where putting together stands. -/
structure Parser where
  /-- The pipelines, last first. -/
  done : Script := []
  /-- When the pipeline at hand runs. -/
  joint : Joint := .always
  /-- A pipeline has to follow. -/
  owes : Bool := false
  /-- The stages of the pipeline at hand, last first. -/
  stages : List Stage := []
  /-- The stage at hand; its words and redirections are first to last. -/
  stage : Stage := {}
  /-- The stream that a redirection is to change. -/
  stream : Option Nat := none
  /-- The redirection that waits for its word. -/
  waiting : Option String := none
deriving Repr, Inhabited

namespace Parser

/-- A word as an assignment. -/
def assignment? (w : Word) : Option (Text × Word) :=
  match w with
  | .literal t :: parts =>
    match Text.cut? '=' t with
    | some (name, value) =>
      if !name.isEmpty && name.all Lexer.isNameChar && !(name.headD '0' |> isDigit) then
        some (name, .literal value :: parts)
      else none
    | none => none
  | _ => none

/-- Where a redirection leads, and the stream that it changes if none is named. -/
def target? (operator : String) (w : Word) : Option (Nat × Target) :=
  match operator with
  | "<" => some (0, .input w)
  | ">" | ">|" => some (1, .output w)
  | ">>" => some (1, .append w)
  | ">&" => some (1, .copy w)
  | "<&" => some (0, .copy w)
  | _ => none

/-- Adds a word. -/
def word (p : Parser) (w : Word) : Parser :=
  match p.waiting with
  | some operator =>
    match target? operator w with
    | some (usual, target) =>
      let r : Redirection := { stream := p.stream.getD usual, target }
      { p with
        stage := { p.stage with redirections := p.stage.redirections ++ [r] }
        stream := none
        waiting := none }
    | none => p
  | none =>
    match if p.stage.words.isEmpty then assignment? w else none with
    | some a => { p with stage := { p.stage with assignments := p.stage.assignments ++ [a] } }
    | none => { p with stage := { p.stage with words := p.stage.words ++ [w] } }

/-- The stage at hand is empty, so nothing may end here. -/
def isBare (p : Parser) : Bool := p.stage.isEmpty

/-- Ends the pipeline at hand. -/
def endPipeline (p : Parser) (joint : Joint) (owes : Bool) : Parser :=
  if p.isBare then { p with joint, owes }
  else
    { done := (p.joint, (p.stage :: p.stages).reverse) :: p.done, joint, owes }

/-- How a text that cannot stand there is called. -/
def unexpected (name : String) : Text :=
  (if name = "\n" then "newline" else "\"" ++ name ++ "\"").toList ++ " unexpected".toList

/-- Reads a token, or says why it cannot stand there. -/
def next (p : Parser) (t : Token) : Except Text Parser :=
  match t with
  | .word w => .ok (p.word w)
  | .stream n => .ok { p with stream := some n }
  | .operator name =>
    if p.waiting.isSome then .error (unexpected name)
    else if name ∈ ["<", ">", ">|", ">>", ">&", "<&"] then .ok { p with waiting := some name }
    else if name = "\n" && p.isBare then .ok p
    else if p.isBare then .error (unexpected name)
    else
      match name with
      | "|" => .ok { p with stages := p.stage :: p.stages, stage := {}, owes := true }
      | "&&" => .ok (p.endPipeline .ifGood true)
      | "||" => .ok (p.endPipeline .ifBad true)
      | ";" | "&" | "\n" => .ok (p.endPipeline .always false)
      | _ => .error (unexpected name)

/-- The script at the end of the tokens. -/
def finish (p : Parser) : Except Text Script :=
  if p.waiting.isSome then .error (unexpected "\n")
  else if p.isBare && p.owes then .error "end of file unexpected".toList
  else .ok (p.endPipeline .always false).done.reverse

end Parser

/-- Reads a script, or says what is wrong with it. -/
def Script.read (text : Text) : Except Text Script :=
  match tokens? text with
  | none => .error "Unterminated quoted string".toList
  | some tokens => do (← tokens.foldlM Parser.next {}).finish

end ModalEditor.Shell
