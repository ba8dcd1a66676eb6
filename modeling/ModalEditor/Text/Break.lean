import ModalEditor.Text.Script
import ModalEditor.Text.Trait

/-!
# Breaks

Three properties of Unicode sort characters by their part in the breaks of text: between the
characters that a reader sees, between words, and between sentences. Their values are made of
traits, general categories and short lists, as the standard defines them. Characters with no part in
a break have no value here. Names are written without case, blanks, `_` and `-`.
-/

namespace ModalEditor.Break

/-- Spacing marks that start a seen character of their own. -/
def separateMarks : CharSet := CharSet.ofTable
  "102B-102C 1038 1062-1064 1067-106D 1083 1087-108C 108F 109A-109C 1A61 1A63-1A64 AA7B AA7D
   11720-11721"

/-- Hangul syllables without a final consonant, from which every twenty-eighth starts. -/
def openSyllables : CharSet :=
  .ofRanges ((List.range 399).map fun i => (0xAC00 + 28 * i, 0xAC00 + 28 * i))

/-- Invisible characters that no seen character holds. -/
def graphemeControls : CharSet :=
  (CharSet.unions (((Category.members "Cn").inter (Trait.tabled "defaultignorablecodepoint")) ::
    ["Cc", "Cf", "Zl", "Zp"].map Category.members)).diff
    (CharSet.unions [Trait.graphemeExtend, Trait.tabled "prependedconcatenationmark",
      CharSet.ofTable "A D 200D"])

/-- The value of breaks between seen characters that `name` stands for. -/
def grapheme? (name : String) : Option CharSet :=
  match name with
  | "cr" => some (.singleton '\r')
  | "lf" => some (.singleton '\n')
  | "cn" | "control" => some graphemeControls
  | "ex" | "extend" => some (Trait.graphemeExtend.union (Trait.tabled "emojimodifier"))
  | "zwj" => some (.singleton '\u200D')
  | "ri" | "regionalindicator" => some (Trait.tabled "regionalindicator")
  | "pp" | "prepend" =>
    some (.ofTable
      "600-605 6DD 70F 890-891 8E2 D4E 110BD 110CD 111C2-111C3 113D1 1193F 11941 11A84-11A89
       11D46 11F02")
  | "sm" | "spacingmark" =>
    some (((Category.members "Mc").diff (Trait.graphemeExtend.union separateMarks)).union
      (.ofTable "E33 EB3"))
  | "l" => some (.ofTable "1100-115F A960-A97C")
  | "v" => some (.ofTable "1160-11A7 D7B0-D7C6 16D63 16D67-16D6A")
  | "t" => some (.ofTable "11A8-11FF D7CB-D7FB")
  | "lv" => some openSyllables
  | "lvt" => some ((CharSet.ofTable "AC00-D7A3").diff openSyllables)
  | _ => none

/-- Characters that go on with a word or sentence. -/
def extending : CharSet := Trait.graphemeExtend.union (Category.members "Mc")

/-- Marks that are put in front of a number. -/
def numberSigns : CharSet := CharSet.ofTable "600-605 6DD 890-891 8E2 110BD 110CD"

/-- Characters of numbers. -/
def numeric : CharSet :=
  CharSet.unions [Category.decimalDigits, numberSigns, CharSet.ofTable "66B 19DA"]

/-- Invisible characters that say how text is written. -/
def format : CharSet :=
  (Category.members "Cf").diff
    ((Trait.tabled "prependedconcatenationmark").union (CharSet.ofTable "200B-200D E0020-E007F"))

/-- Characters of the Katakana script and those that go with them. -/
def katakana : CharSet := CharSet.ofTable
  "3031-3035 309B-309C 30A0-30FA 30FC-30FF 31F0-31FF 32D0-32FE 3300-3357 FF66-FF9D 1AFF0-1AFF3
   1AFF5-1AFFB 1AFFD-1AFFE 1B000 1B120-1B122 1B155 1B164-1B167"

/-- The letters of a script. -/
def scriptMembers (code : String) : CharSet := (Script.find? code).getD .empty

/-- Letters of the Hebrew script. -/
def hebrew : CharSet := (Category.members "Lo").inter (scriptMembers "hebr")

/-- Scripts that are written without spaces between words. -/
def unspacedScripts : List String :=
  ["hira", "thai", "laoo", "khmr", "mymr", "talu", "tale", "lana", "tavt", "ahom"]

/-- Letters that make words of their own with spaces between them. -/
def spacedLetters : CharSet :=
  (alphabeticSet.diff (CharSet.unions (Trait.tabled "ideographic" :: katakana :: extending ::
    hebrew :: unspacedScripts.map scriptMembers))).union
    (CharSet.ofTable
      "B8 2C2-2C5 2D2-2D7 2DE-2DF 2E5-2EB 2ED 2EF-2FF 55A-55C 55E 58A 5F3 70F A708-A716 A720-A721
       A789-A78A AB5B")

/-- The value of breaks between words that `name` stands for. -/
def word? (name : String) : Option CharSet :=
  match name with
  | "cr" => some (.singleton '\r')
  | "lf" => some (.singleton '\n')
  | "nl" | "newline" => some (.ofTable "B-C 85 2028-2029")
  | "extend" => some (extending.union (Trait.tabled "emojimodifier"))
  | "zwj" => some (.singleton '\u200D')
  | "fo" | "format" => some format
  | "ri" | "regionalindicator" => some (Trait.tabled "regionalindicator")
  | "ka" | "katakana" => some katakana
  | "hl" | "hebrewletter" => some hebrew
  | "le" | "aletter" => some spacedLetters
  | "sq" | "singlequote" => some (.singleton '\'')
  | "dq" | "doublequote" => some (.singleton '"')
  | "mb" | "midnumlet" => some (.ofTable "2E 2018-2019 2024 FE52 FF07 FF0E")
  | "ml" | "midletter" => some (.ofTable "3A B7 387 55F 5F4 2027 FE13 FE55 FF1A")
  | "mn" | "midnum" => some (.ofTable "2C 3B 37E 589 60C-60D 66C 7F8 2044 FE50 FE54 FF0C FF1B")
  | "nu" | "numeric" => some numeric
  | "ex" | "extendnumlet" => some (.ofTable "5F 202F 203F-2040 2054 FE33-FE34 FE4D-FE4F FF3F")
  | "wsegspace" => some (.ofTable "20 1680 2000-2006 2008-200A 205F 3000")
  | _ => none

/-- Letters in lower case that matter for sentences. -/
def lower : CharSet :=
  Trait.lowercase.diff (Trait.graphemeExtend.union (CharSet.ofTable "10D0-10FA 10FD-10FF"))

/-- Letters in upper case that matter for sentences. -/
def upper : CharSet :=
  (Trait.uppercase.union (Category.members "Lt")).diff (CharSet.ofTable "1C90-1CBA 1CBD-1CBF")

/-- Dots, which need not end a sentence. -/
def dots : CharSet := CharSet.ofTable "2E 2024 FE52 FF0E"

/-- The value of breaks between sentences that `name` stands for. -/
def sentence? (name : String) : Option CharSet :=
  match name with
  | "cr" => some (.singleton '\r')
  | "lf" => some (.singleton '\n')
  | "ex" | "extend" => some (extending.union (.singleton '\u200D'))
  | "se" | "sep" => some (.ofTable "85 2028-2029")
  | "fo" | "format" => some (format.union (.ofTable "70F 200B"))
  | "sp" => some (.ofTable "9 B-C 20 A0 1680 2000-200A 202F 205F 3000")
  | "lo" | "lower" => some lower
  | "up" | "upper" => some upper
  | "le" | "oletter" =>
    some ((alphabeticSet.diff (CharSet.unions [lower, upper, extending])).union (.ofTable "5F3"))
  | "nu" | "numeric" => some (numeric.union (.ofTable "66C"))
  | "at" | "aterm" => some dots
  | "sc" | "scontinue" =>
    some (.ofTable
      "2C-2D 3A-3B 37E 55D 60C-60D 7F8 1802 1808 2013-2014 3001 FE10-FE11 FE13-FE14 FE31-FE32
       FE50-FE51 FE54-FE55 FE58 FE63 FF0C-FF0D FF1A-FF1B FF64")
  | "st" | "sterm" => some ((Trait.tabled "sentenceterminal").diff dots)
  | "cl" | "close" =>
    some (CharSet.unions (.ofTable "22 27 275B-2760 2E00-2E01 2E06-2E08 2E0B 1F676-1F678" ::
      ["Ps", "Pe", "Pi", "Pf"].map Category.members))
  | _ => none

end ModalEditor.Break
