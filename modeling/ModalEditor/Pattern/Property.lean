import ModalEditor.Pattern.Syntax
import ModalEditor.Text.Age
import ModalEditor.Text.Break

/-!
# Property classes

The classes `\p{…}` name properties of the Unicode standard: general categories, scripts, traits,
ages and the parts that characters have in the breaks of text. Names are compared without case,
blanks, `_` and `-`, and an `is` at the front does not count.
-/

namespace ModalEditor.Pattern

/-- A name as it is compared. -/
def looseName (name : Text) : String :=
  let (start, rest) := (Text.lower (name.take 2), name.drop 2)
  let isStart := start = "is".toList
  let letters := (if isStart then rest else name).filter fun c =>
    c.toNat < 0x80 && c != ' ' && c != '_' && c != '-'
  let loose := String.ofList (Text.lower letters)
  -- `isc` is a name of its own and no other way to write `c`.
  if isStart && loose = "c" then "isc" else loose

/-- The general category, or one of the three classes that cover all assignments. No character is a
surrogate, so that category is not among them. -/
def categoryNamed? (name : String) : Option CharSet :=
  match name with
  | "any" => some (CharSet.compl .empty)
  | "assigned" => some Category.assigned
  | "ascii" => some ⟨[(0, 0x7F)]⟩
  | "cs" | "surrogate" => none
  | name => Category.find? name

/-- Names of categories and scripts that no character has. -/
def emptyNames : List String := "cs" :: "surrogate" :: Script.emptyNames

/-- Names of properties whose values make no classes. -/
def otherProperties : List String := [
  "cjkaccountingnumeric", "kaccountingnumeric", "cjkothernumeric", "kothernumeric",
  "cjkprimarynumeric", "kprimarynumeric", "nv", "numericvalue", "bmg", "bidimirroringglyph", "bpb",
  "bidipairedbracket", "cf", "casefolding", "cjkcompatibilityvariant", "kcompatibilityvariant",
  "dm", "decompositionmapping", "equideo", "equivalentunifiedideograph", "fcnfkc",
  "fcnfkcclosure", "lc", "lowercasemapping", "nfkccf", "nfkccasefold", "nfkcscf",
  "nfkcsimplecasefold", "scf", "simplecasefolding", "sfc", "slc", "simplelowercasemapping", "stc",
  "simpletitlecasemapping", "suc", "simpleuppercasemapping", "tc", "titlecasemapping", "uc",
  "uppercasemapping", "cjkiicore", "kiicore", "cjkirggsource", "kirggsource", "cjkirghsource",
  "kirghsource", "cjkirgjsource", "kirgjsource", "cjkirgkpsource", "kirgkpsource",
  "cjkirgksource", "kirgksource", "cjkirgmsource", "kirgmsource", "cjkirgssource", "kirgssource",
  "cjkirgtsource", "kirgtsource", "cjkirguksource", "kirguksource", "cjkirgusource",
  "kirgusource", "cjkirgvsource", "kirgvsource", "cjkrsunicode", "krsunicode",
  "unicoderadicalstroke", "urs", "kehcat", "kehdesc", "kehhg", "kehifao", "kehjsesh",
  "kehnomirror", "kehnorotate", "isc", "ocomment", "jsn", "jamoshortname", "na", "name", "na1",
  "unicode1name", "namealias", "blk", "block", "bc", "bidiclass", "bpt", "bidipairedbrackettype",
  "ccc", "canonicalcombiningclass", "dt", "decompositiontype", "ea", "eastasianwidth", "hst",
  "hangulsyllabletype", "incb", "indicconjunctbreak", "inpc", "indicpositionalcategory", "insc",
  "indicsyllabiccategory", "jg", "joininggroup", "jt", "joiningtype", "lb", "linebreak", "nfcqc",
  "nfcquickcheck", "nfdqc", "nfdquickcheck", "nfkcqc", "nfkcquickcheck", "nfkdqc",
  "nfkdquickcheck", "nt", "numerictype", "vo", "verticalorientation", "bidim", "bidimirrored",
  "ce", "compositionexclusion", "compex", "fullcompositionexclusion", "cwkcf",
  "changeswhennfkccasefolded", "xonfc", "expandsonnfc", "xonfd", "expandsonnfd", "xonfkc",
  "expandsonnfkc", "xonfkd", "expandsonnfkd"]

/-- The classes that the values of a property make, if there is a property of the name. Traits have
values that make none. -/
def valuesOf? (name : String) : Option (String → Option CharSet) :=
  match name with
  | "gc" | "generalcategory" => some categoryNamed?
  | "sc" | "script" => some Script.find?
  | "scx" | "scriptextensions" => some Script.findUsed?
  | "age" => some Age.find?
  | "gcb" | "graphemeclusterbreak" => some Break.grapheme?
  | "wb" | "wordbreak" => some Break.word?
  | "sb" | "sentencebreak" => some Break.sentence?
  | name =>
    if name ∈ otherProperties || (Trait.find? name).isSome then some fun _ => none else none

/-- The members of a property. A name alone is a trait, else a general category, else a script; a
name with a value gives what has that value. -/
def Property.members : Property → Except Fault CharSet
  | .named name =>
    let name := looseName name
    let found := (Trait.find? name).orElse fun _ => (categoryNamed? name).orElse fun _ =>
      Script.find? name
    match found with
    | some s => .ok s
    | none => .error (if name ∈ emptyNames then .propertyValueUnknown else .propertyUnknown)
  | .valued name value =>
    match valuesOf? (looseName name) with
    | none => .error .propertyUnknown
    | some find? =>
      match find? (looseName value) with
      | some s => .ok s
      | none => .error .propertyValueUnknown

end ModalEditor.Pattern
