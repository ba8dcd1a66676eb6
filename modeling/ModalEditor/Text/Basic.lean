/-!
# Text

Text is a list of characters, so that a column is an index and every edit is a matter of `take`,
`drop` and `++`. This module holds the few operations on text that the whole editor shares:
blanks and trimming, splitting into lines and words, and the size of a text in its encoded form.

"Blank" is the `White_Space` property of Unicode, not only the ASCII blanks.
-/

namespace ModalEditor

/-- A text: its characters, first to last. A line of a buffer is a text without line breaks. -/
abbrev Text := List Char

/-- Ranges of the code points that have the `White_Space` property. -/
def blankRanges : List (Nat × Nat) :=
  [(0x09, 0x0D), (0x20, 0x20), (0x85, 0x85), (0xA0, 0xA0), (0x1680, 0x1680), (0x2000, 0x200A),
   (0x2028, 0x2029), (0x202F, 0x202F), (0x205F, 0x205F), (0x3000, 0x3000)]

/-- A character that separates words. -/
def isBlank (c : Char) : Bool :=
  blankRanges.any fun (lo, hi) => lo ≤ c.toNat && c.toNat ≤ hi

namespace Text

/-- The text without its leading blanks. -/
def trimStart (t : Text) : Text := t.dropWhile isBlank

/-- The text without its trailing blanks. -/
def trimEnd (t : Text) : Text := (t.reverse.dropWhile isBlank).reverse

/-- The text without leading and trailing blanks. -/
def trim (t : Text) : Text := trimEnd (trimStart t)

/-- No character of the text is anything but blank. -/
def isBlankOnly (t : Text) : Bool := t.all isBlank

/-- What follows `start` in `t`, if `t` starts with it. -/
def after? (start t : Text) : Option Text := List.isPrefixOf? start t

/-- The text without one final `c`, if it has one. -/
def dropFinal (c : Char) (t : Text) : Text :=
  if t.getLast? = some c then t.dropLast else t

/-- What stands before a final `c`, if the text ends in one. -/
def beforeFinal? (c : Char) (t : Text) : Option Text :=
  if t.getLast? = some c then some t.dropLast else none

/-- The pieces between line breaks; a text with `n` line breaks has `n + 1` pieces. -/
def splitLines (t : Text) : List Text := t.splitOn '\n'

/-- The pieces joined with `sep` between them. -/
def join (sep : Text) (pieces : List Text) : Text := sep.intercalate pieces

/-- The text before and after the first `c`, if there is one. -/
def cut? (c : Char) : Text → Option (Text × Text)
  | [] => none
  | d :: rest =>
    if d = c then some ([], rest) else (cut? c rest).map fun (before, after) => (d :: before, after)

/-- The text has a place where `part` starts. -/
def holds (part : Text) : Text → Bool
  | [] => part.isEmpty
  | c :: rest => part.isPrefixOf (c :: rest) || holds part rest

/-- Collects words: `word` holds the letters of the current one, last first. -/
def wordsFrom (word : Text) : Text → List Text
  | [] => if word.isEmpty then [] else [word.reverse]
  | c :: rest =>
    if isBlank c then
      if word.isEmpty then wordsFrom [] rest else word.reverse :: wordsFrom [] rest
    else wordsFrom (c :: word) rest

/-- The maximal runs of characters that are not blank. -/
def words (t : Text) : List Text := wordsFrom [] t

/-- Number of bytes of the text when it is stored in UTF-8. -/
def byteSize (t : Text) : Nat := t.foldl (fun n c => n + c.utf8Size) 0

/-- ASCII letters in lower case, every other character as it is. -/
def lower (t : Text) : Text := t.map Char.toLower

/-- `n` copies of `t`, one after the other. -/
def repeated (n : Nat) (t : Text) : Text := (List.replicate n t).flatten

end Text

/-- A letter from `a` to `z`, the characters that name marks. -/
def isLowerLetter (c : Char) : Bool := 'a' ≤ c && c ≤ 'z'

/-- A decimal digit of ASCII. -/
def isDigit (c : Char) : Bool := '0' ≤ c && c ≤ '9'

/-- A letter of ASCII. -/
def isLetter (c : Char) : Bool := isLowerLetter c || ('A' ≤ c && c ≤ 'Z')

end ModalEditor
