import ModalEditor.Text.Basic

/-!
# The syntax of patterns

A pattern is a regular expression: characters, classes, groups, alternatives and repetitions, with
flags that change the reading of what follows them. This module has the syntax trees and the
reasons for which a pattern is refused; `Pattern.Reader` reads a text into a tree.
-/

namespace ModalEditor.Pattern

/-- Why a text is not a pattern. -/
inductive Fault where
  /-- The expanded pattern passes the size limit. -/
  | tooLarge
  /-- More nested groups, classes and repetitions than the limit allows. -/
  | nestedTooDeep (limit : Nat)
  /-- An escape that only makes sense outside a class. -/
  | classEscape
  /-- A class range that runs backwards. -/
  | classRange
  /-- A class range with an end that is not one character. -/
  | classRangeEnd
  /-- A class without its closing bracket. -/
  | classUnclosed
  /-- A number that does not fit in 32 bits. -/
  | decimalInvalid
  /-- Braces with no hexadecimal digit between them. -/
  | hexEmpty
  /-- A hexadecimal number that is no character. -/
  | hexInvalid
  /-- A character that is no hexadecimal digit. -/
  | hexDigit
  /-- The pattern ends within an escape. -/
  | escapeEnd
  /-- An escape without meaning. -/
  | escapeUnknown
  /-- A `-` among flags with no flag after it. -/
  | flagDangling
  /-- A flag that is given twice. -/
  | flagTwice
  /-- A second `-` among flags. -/
  | flagNegatedTwice
  /-- The pattern ends among flags. -/
  | flagEnd
  /-- A flag without meaning. -/
  | flagUnknown
  /-- A group name that is already taken. -/
  | groupNameTwice
  /-- A group name without characters. -/
  | groupNameEmpty
  /-- A character that cannot stand in a group name. -/
  | groupNameInvalid
  /-- The pattern ends within a group name. -/
  | groupNameUnclosed
  /-- A group without its closing parenthesis. -/
  | groupUnclosed
  /-- A closing parenthesis without a group. -/
  | groupUnopened
  /-- A repetition whose least count exceeds its greatest. -/
  | countRange
  /-- A repetition whose braces lack a number. -/
  | countEmpty
  /-- A repetition without its closing brace. -/
  | countUnclosed
  /-- A repetition of nothing. -/
  | repeatMissing
  /-- A named word boundary without its closing brace. -/
  | boundaryUnclosed
  /-- A word boundary of an unknown name. -/
  | boundaryUnknown
  /-- The pattern ends after the opening brace that follows a word boundary. -/
  | boundaryEnd
  /-- A property that starts with a backslash. -/
  | propertySyntax
  /-- A property that is not known. -/
  | propertyUnknown
  /-- A property whose value is not known. -/
  | propertyValueUnknown
  /-- A property, or a character beyond ASCII, where only ASCII is allowed. -/
  | unicodeNotAllowed
  /-- A part that would match within a character. -/
  | withinCharacter
  /-- A reference to what a group matched. -/
  | backreference
  /-- A test of the text around the match. -/
  | lookAround
deriving Repr, DecidableEq, Inhabited

/-- The reason as it stands in a message. -/
def Fault.reason : Fault → String
  | .tooLarge => "pattern too large"
  | .nestedTooDeep limit =>
    "error: exceed the maximum number of nested parentheses/brackets (" ++ toString limit ++ ")"
  | .classEscape => "error: invalid escape sequence found in character class"
  | .classRange => "error: invalid character class range, the start must be <= the end"
  | .classRangeEnd => "error: invalid range boundary, must be a literal"
  | .classUnclosed => "error: unclosed character class"
  | .decimalInvalid => "error: decimal literal invalid"
  | .hexEmpty => "error: hexadecimal literal empty"
  | .hexInvalid => "error: hexadecimal literal is not a Unicode scalar value"
  | .hexDigit => "error: invalid hexadecimal digit"
  | .escapeEnd => "error: incomplete escape sequence, reached end of pattern prematurely"
  | .escapeUnknown => "error: unrecognized escape sequence"
  | .flagDangling => "error: dangling flag negation operator"
  | .flagTwice => "error: duplicate flag"
  | .flagNegatedTwice => "error: flag negation operator repeated"
  | .flagEnd => "error: expected flag but got end of regex"
  | .flagUnknown => "error: unrecognized flag"
  | .groupNameTwice => "error: duplicate capture group name"
  | .groupNameEmpty => "error: empty capture group name"
  | .groupNameInvalid => "error: invalid capture group character"
  | .groupNameUnclosed => "error: unclosed capture group name"
  | .groupUnclosed => "error: unclosed group"
  | .groupUnopened => "error: unopened group"
  | .countRange => "error: invalid repetition count range, the start must be <= the end"
  | .countEmpty => "error: repetition quantifier expects a valid decimal"
  | .countUnclosed => "error: unclosed counted repetition"
  | .repeatMissing => "error: repetition operator missing expression"
  | .boundaryUnclosed =>
    "error: special word boundary assertion is either unclosed or contains an invalid character"
  | .boundaryUnknown =>
    "error: unrecognized special word boundary assertion, valid choices are: start, end, " ++
      "start-half or end-half"
  | .boundaryEnd =>
    "error: found either the beginning of a special word boundary or a bounded repetition on a " ++
      "\\b with an opening brace, but no closing brace"
  | .propertySyntax => "error: invalid Unicode character class"
  | .propertyUnknown => "error: Unicode property not found"
  | .propertyValueUnknown => "error: Unicode property value not found"
  | .unicodeNotAllowed => "error: Unicode not allowed here"
  | .withinCharacter => "error: pattern can match invalid UTF-8"
  | .backreference => "error: backreferences are not supported"
  | .lookAround =>
    "error: look-around, including look-ahead and look-behind, is not supported"

/-- A switch of the syntax, set by its letter. -/
inductive Flag where
  /-- `i`: case does not matter. -/
  | ignoreCase
  /-- `m`: `^` and `$` also match at line breaks. -/
  | multiLine
  /-- `s`: a dot also matches a line break. -/
  | dotAll
  /-- `U`: repetitions are lazy unless marked with `?`. -/
  | swapGreed
  /-- `u`: classes and boundaries know all of Unicode. -/
  | unicode
  /-- `R`: a carriage return is part of a line break. -/
  | carriageReturns
  /-- `x`: blanks and comments in the pattern do not count. -/
  | verbose
deriving Repr, DecidableEq

/-- An entry of a list of flags. -/
inductive FlagItem where
  /-- The flags after it are switched off. -/
  | negation
  /-- A flag. -/
  | flag (f : Flag)
deriving Repr, DecidableEq

/-- Whether a list of flags switches `f` on or off, if it names it. -/
def flagState? (f : Flag) (items : List FlagItem) : Option Bool :=
  (items.foldl (fun (on, state) item =>
    match item with
    | .negation => (false, state)
    | .flag g => if g = f then (on, some on) else (on, state)) (true, none)).2

/-- A test of a position. -/
inductive Assertion where
  /-- `^` -/
  | lineStart
  /-- `$` -/
  | lineEnd
  /-- `\A` -/
  | textStart
  /-- `\z` -/
  | textEnd
  /-- `\b` -/
  | wordBoundary
  /-- `\B` -/
  | noWordBoundary
  /-- `\b{start}` -/
  | wordStart
  /-- `\b{end}` -/
  | wordEnd
  /-- `\b{start-half}` -/
  | wordStartHalf
  /-- `\b{end-half}` -/
  | wordEndHalf
deriving Repr, DecidableEq

/-- A class with a letter of its own. -/
inductive Shorthand where
  /-- `\d` -/
  | digit
  /-- `\s` -/
  | space
  /-- `\w` -/
  | word
deriving Repr, DecidableEq

/-- The name in a property class such as `\p{Lu}` or `\p{sc=Greek}`. -/
inductive Property where
  /-- A name alone. -/
  | named (name : Text)
  /-- A name and a value. -/
  | valued (name value : Text)
deriving Repr, DecidableEq

/-- A character of a pattern. -/
structure Literal where
  /-- The character. -/
  char : Char
  /-- It is written as `\x` and two digits, the one way to write a byte. -/
  asByte : Bool := false
deriving Repr, DecidableEq

/-- The operators between the parts of a class. -/
inductive SetOperator where
  /-- `&&` -/
  | intersection
  /-- `--` -/
  | difference
  /-- `~~` -/
  | symmetricDifference
deriving Repr, DecidableEq

/-- A class in brackets, or a part of one. -/
inductive ClassNode where
  /-- One character. -/
  | literal (l : Literal)
  /-- The characters from one to another. -/
  | range (first last : Literal)
  /-- A class such as `[:alpha:]`, by its ranges. -/
  | ascii (ranges : List (Nat × Nat)) (negated : Bool)
  /-- A property class. -/
  | property (p : Property) (negated : Bool)
  /-- A class with a letter of its own. -/
  | shorthand (s : Shorthand) (negated : Bool)
  /-- A class in brackets. -/
  | bracket (negated : Bool) (body : ClassNode)
  /-- The members of all parts. -/
  | union (parts : List ClassNode)
  /-- Two classes joined by an operator. -/
  | binary (op : SetOperator) (left right : ClassNode)
deriving Repr

/-- What a pair of parentheses does. -/
inductive GroupKind where
  /-- Remembers what it matched, under a number. -/
  | capture (index : Nat)
  /-- Sets flags inside. -/
  | plain (flags : List FlagItem)
deriving Repr, DecidableEq

/-- The tree of a pattern. -/
inductive Node where
  /-- Nothing. -/
  | empty
  /-- Flags for what follows in the group. -/
  | flags (items : List FlagItem)
  /-- One character. -/
  | literal (l : Literal)
  /-- `.` -/
  | dot
  /-- A test of the position. -/
  | assertion (a : Assertion)
  /-- A property class. -/
  | property (p : Property) (negated : Bool)
  /-- A class with a letter of its own. -/
  | shorthand (s : Shorthand) (negated : Bool)
  /-- A class in brackets. -/
  | bracket (negated : Bool) (body : ClassNode)
  /-- From `least` to `most` times, or without limit. -/
  | repeated (least : Nat) (most : Option Nat) (greedy : Bool) (sub : Node)
  /-- A group. -/
  | group (kind : GroupKind) (sub : Node)
  /-- Alternatives, the first preferred. -/
  | alternation (branches : List Node)
  /-- One after the other. -/
  | concat (parts : List Node)
deriving Repr

/-- One part stands for itself, several for their union. -/
def ClassNode.ofParts : List ClassNode → ClassNode
  | [part] => part
  | parts => .union parts

/-- No part is the empty pattern, one part stands for itself. -/
def Node.ofParts : List Node → Node
  | [] => .empty
  | [part] => part
  | parts => .concat parts

/-- One branch stands for itself. -/
def Node.ofBranches : List Node → Node
  | [branch] => branch
  | branches => .alternation branches

mutual

/-- Levels of brackets, unions and operators. -/
def ClassNode.depth : ClassNode → Nat
  | .bracket _ body => 1 + body.depth
  | .union [] => 0
  | .union (part :: parts) => 1 + max part.depth (ClassNode.depthOfParts parts)
  | .binary _ left right => 1 + max left.depth right.depth
  | _ => 0

/-- The greatest depth of a part. -/
def ClassNode.depthOfParts : List ClassNode → Nat
  | [] => 0
  | part :: parts => max part.depth (ClassNode.depthOfParts parts)

end

mutual

/-- Levels of groups, classes, repetitions, alternatives and sequences. -/
def Node.depth : Node → Nat
  | .bracket _ body => 1 + body.depth
  | .repeated _ _ _ sub => 1 + sub.depth
  | .group _ sub => 1 + sub.depth
  | .alternation branches => 1 + Node.depthOfParts branches
  | .concat parts => 1 + Node.depthOfParts parts
  | _ => 0

/-- The greatest depth of a part. -/
def Node.depthOfParts : List Node → Nat
  | [] => 0
  | part :: parts => max part.depth (Node.depthOfParts parts)

end

end ModalEditor.Pattern
