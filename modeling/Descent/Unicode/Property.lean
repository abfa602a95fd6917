import Descent.CharSet
import Descent.Unicode.Age
import Descent.Unicode.BinaryProperty
import Descent.Unicode.CaseFolding
import Descent.Unicode.GeneralCategory
import Descent.Unicode.Script
import Descent.Unicode.ScriptExtension
import Descent.Unicode.Segmentation

/-!
# Character properties by name

`property?` finds the set of a property that is named alone (`Lu`, `Greek`, `Alphabetic`), and
`propertyValue?` the set of a property with a value (`script=Greek`). Names are compared after
`foldName`. `foldCase` closes a set under simple case folding.
-/

namespace Descent.Unicode

/-! ## Names -/

/-- The form in which names are compared: without a leading `is`, without blanks, underscores,
hyphens and non-ASCII characters, and in lower case. Only `isc` keeps its `is`, since it is a name
of its own. -/
def foldName (name : String) : String :=
  let keep (cs : List Char) : List Char :=
    (cs.filter fun c => c.toNat < 0x80 && c != ' ' && c != '_' && c != '-').map Char.toLower
  match name.toList with
  | i :: s :: rest =>
    if i.toLower = 'i' && s.toLower = 's' then
      let folded := keep rest
      String.ofList (if folded = ['c'] then ['i', 's', 'c'] else folded)
    else String.ofList (keep (i :: s :: rest))
  | cs => String.ofList (keep cs)

/-- The table entry with the name `name`, which is folded already. -/
def listed? (table : List (List String × String)) (name : String) : Option CharSet :=
  (table.find? fun entry => entry.1.contains name).map fun entry => CharSet.ofHex entry.2

/-- The characters that a table lists under `name`, none if it does not. -/
def listed (table : List (List String × String)) (name : String) : CharSet :=
  (listed? table name).getD CharSet.empty

/-! ## General categories -/

/-- The characters of any of the categories. -/
def inCategories (names : List String) : CharSet :=
  CharSet.unions (names.map (listed generalCategories))

/-- The characters that have a category. -/
def assigned : CharSet :=
  CharSet.unions (generalCategories.map fun entry => CharSet.ofHex entry.2)

/-- The categories that a group of categories joins. -/
def categoryGroup? : String → Option (List String)
  | "c" | "other" => some ["cc", "cf", "co"]
  | "l" | "letter" => some ["lu", "ll", "lt", "lm", "lo"]
  | "lc" | "casedletter" => some ["lu", "ll", "lt"]
  | "m" | "mark" | "combiningmark" => some ["mn", "mc", "me"]
  | "n" | "number" => some ["nd", "nl", "no"]
  | "p" | "punctuation" | "punct" => some ["pc", "pd", "ps", "pe", "pi", "pf", "po"]
  | "s" | "symbol" => some ["sm", "sc", "sk", "so"]
  | "z" | "separator" => some ["zs", "zl", "zp"]
  | _ => none

/-- The set of a general category, of a group of them, or of all characters that have one. -/
def generalCategory? (name : String) : Option CharSet :=
  match name with
  | "any" => some CharSet.all
  | "ascii" => some ⟨[(0, 0x7F)]⟩
  | "assigned" => some assigned
  | "cn" | "unassigned" => some assigned.complement
  | _ =>
    match categoryGroup? name with
    | some categories =>
      let members := inCategories categories
      some (if categories.contains "cc" then members.union assigned.complement else members)
    | none => listed? generalCategories name

/-! ## Binary properties -/

/-- The characters that the listed binary property `name` holds of. -/
def having (name : String) : CharSet := listed binaryProperties name

def lowercase : CharSet := (inCategories ["ll"]).union (having "otherlowercase")

def uppercase : CharSet := (inCategories ["lu"]).union (having "otheruppercase")

def alphabetic : CharSet :=
  CharSet.unions
    [inCategories ["lu", "ll", "lt", "lm", "lo", "nl"], having "otherlowercase",
      having "otheruppercase", having "otheralphabetic"]

def graphemeExtend : CharSet := (inCategories ["me", "mn"]).union (having "othergraphemeextend")

/-- Characters kept for the notation of patterns, which no identifier holds. -/
def patternCharacters : CharSet := (having "patternsyntax").union (having "patternwhitespace")

def idStart : CharSet :=
  ((inCategories ["lu", "ll", "lt", "lm", "lo", "nl"]).union (having "otheridstart")).diff
    patternCharacters

def idContinue : CharSet :=
  (CharSet.unions
    [idStart, inCategories ["mn", "mc", "nd", "pc"], having "otheridcontinue"]).diff
    patternCharacters

/-- Identifier characters whose compatibility forms cannot stand at the same place. -/
def unstableInIdentifiers : CharSet :=
  CharSet.ofHex "37A 309B-309C FC5E-FC63 FDFA-FDFB FE70 FE72 FE74 FE76 FE78 FE7A FE7C FE7E"

/-- Identifier characters whose compatibility forms start no identifier. -/
def unstableAtStart : CharSet := CharSet.ofHex "E33 EB3 FF9E-FF9F"

def wordPunctuation : CharSet :=
  CharSet.unions [listed wordBreaks "ml", listed wordBreaks "mb", listed wordBreaks "sq"]

/-- The binary properties that are computed from listed ones. -/
def computedProperty? : String → Option CharSet
  | "alpha" | "alphabetic" => some alphabetic
  | "lower" | "lowercase" => some lowercase
  | "upper" | "uppercase" => some uppercase
  | "cased" => some (CharSet.unions [lowercase, uppercase, inCategories ["lt"]])
  | "ci" | "caseignorable" =>
    some ((inCategories ["mn", "me", "cf", "lm", "sk"]).union wordPunctuation)
  | "cwcm" | "changeswhencasemapped" =>
    some (CharSet.unions [having "cwl", having "cwu", having "cwt"])
  | "di" | "defaultignorablecodepoint" =>
    some ((CharSet.unions
      [having "otherdefaultignorablecodepoint", inCategories ["cf"], having "vs"]).diff
      (CharSet.unions
        [having "wspace", CharSet.ofHex "FFF9-FFFB", CharSet.ofHex "13430-1343F", having "pcm"]))
  | "grbase" | "graphemebase" =>
    some (assigned.diff ((inCategories ["cc", "cf", "co", "zl", "zp"]).union graphemeExtend))
  | "grext" | "graphemeextend" => some graphemeExtend
  | "idc" | "idcontinue" => some idContinue
  | "ids" | "idstart" => some idStart
  | "math" => some ((inCategories ["sm"]).union (having "othermath"))
  | "xidc" | "xidcontinue" => some (idContinue.diff unstableInIdentifiers)
  | "xids" | "xidstart" => some (idStart.diff (unstableInIdentifiers.union unstableAtStart))
  | _ => none

/-- The set of a binary property. -/
def binaryProperty? (name : String) : Option CharSet :=
  match computedProperty? name with
  | some members => some members
  | none => listed? binaryProperties name

/-! ## Scripts, ages and segmentation -/

/-- The characters used with a script: those with extensions that name it, and of those without
extensions the ones that belong to it. -/
def scriptExtension? (name : String) : Option CharSet :=
  (listed? scripts name).map fun own =>
    (own.diff (CharSet.ofHex extendedCharacters)).union (listed scriptExtensions name)

/-- The characters that a version of the standard knows: those it added and all older ones. -/
def knownSince? (name : String) : Option CharSet :=
  match ages.findIdx? (fun entry => entry.1.contains name) with
  | some i => some (CharSet.unions ((ages.take (i + 1)).map fun entry => CharSet.ofHex entry.2))
  | none => none

/-- The skin tones, which extend the picture before them. -/
def pictureModifiers : CharSet := CharSet.ofHex "1F3FB-1F3FF"

/-- The first of every 28 Hangul syllables, which has no final consonant. -/
def openSyllables : CharSet :=
  CharSet.ofRanges ((List.range 399).map fun i => (0xAC00 + 28 * i, 0xAC00 + 28 * i))

def graphemeBreak? : String → Option CharSet
  | "ex" | "extend" => some (graphemeExtend.union pictureModifiers)
  | "lv" => some openSyllables
  | "lvt" => some ((CharSet.ofHex "AC00-D7A3").diff openSyllables)
  | name => listed? graphemeBreaks name

def wordExtend : CharSet :=
  (CharSet.unions [graphemeExtend, inCategories ["mc"], pictureModifiers]).diff
    (CharSet.ofHex "200D")

def wordBreak? : String → Option CharSet
  | "extend" => some wordExtend
  | "le" | "aletter" =>
    some ((alphabetic.diff (CharSet.unions
      [listed wordBreaks "ka", listed wordBreaks "hl", wordExtend,
        CharSet.ofHex unspacedLetters])).union (CharSet.ofHex wordJoiningCharacters))
  | name => listed? wordBreaks name

def sentenceExtend : CharSet :=
  CharSet.unions [graphemeExtend, inCategories ["mc"], CharSet.ofHex "200D"]

/-- Georgian letters of the everyday alphabet, which count as lower case in sentences. -/
def sentenceLower : CharSet :=
  (lowercase.diff graphemeExtend).union (CharSet.ofHex "10D0-10FA 10FD-10FF")

/-- Upper case in sentences: the Georgian capitals are for headings only. -/
def sentenceUpper : CharSet :=
  (uppercase.union (inCategories ["lt"])).diff (CharSet.ofHex "1C90-1CBA 1CBD-1CBF")

def sentenceBreak? : String → Option CharSet
  | "ex" | "extend" => some sentenceExtend
  | "lo" | "lower" => some sentenceLower
  | "up" | "upper" => some sentenceUpper
  | "le" | "oletter" =>
    some ((alphabetic.union (CharSet.ofHex "5F3")).diff
      (CharSet.unions [sentenceLower, sentenceUpper, sentenceExtend]))
  | name => listed? sentenceBreaks name

/-! ## Looking up -/

/-- The set of a property that is named alone: a binary property, a general category or a
script. -/
def property? (name : String) : Option CharSet :=
  let name := foldName name
  let binary := if ["cf", "sc", "lc"].contains name then none else binaryProperty? name
  match binary with
  | some members => some members
  | none =>
    match generalCategory? name with
    | some members => some members
    | none => listed? scripts name

/-- The set of a property that is named with a value. -/
def propertyValue? (name value : String) : Option CharSet :=
  let value := foldName value
  match foldName name with
  | "gc" | "generalcategory" => generalCategory? value
  | "sc" | "script" => listed? scripts value
  | "scx" | "scriptextensions" => scriptExtension? value
  | "age" => knownSince? value
  | "gcb" | "graphemeclusterbreak" => graphemeBreak? value
  | "wb" | "wordbreak" => wordBreak? value
  | "sb" | "sentencebreak" => sentenceBreak? value
  | _ => none

/-! ## Classes of characters in text -/

/-- The decimal digits of all scripts. -/
def digit : CharSet := inCategories ["nd"]

/-- Blanks of all kinds. -/
def whiteSpace : CharSet := having "whitespace"

/-- The characters of words: letters and what behaves like them, marks, digits, connectors. -/
def word : CharSet :=
  CharSet.unions [alphabetic, inCategories ["mn", "mc", "me", "nd", "pc"], having "joincontrol"]

/-- Letters, digits and other numbers. -/
def alphanumeric : CharSet := alphabetic.union (inCategories ["nd", "nl", "no"])

/-! ## Case -/

/-- The code points of a set, written with commas between them. -/
def orbitMembers (digits : List Char) : List Char → List Nat
  | [] => [CharSet.hexNumber digits.reverse]
  | c :: cs =>
    if c = ',' then CharSet.hexNumber digits.reverse :: orbitMembers [] cs
    else orbitMembers (c :: digits) cs

/-- The sets of characters that differ in case only. -/
def orbits : List (List Nat) := (CharSet.words [] caseOrbits.toList).map (orbitMembers [])

/-- The characters that differ from a member of `s` in case only, and the members. -/
def foldCase (s : CharSet) : CharSet :=
  let touched := orbits.filter fun orbit =>
    orbit.any fun n => s.ranges.any fun (lo, hi) => lo ≤ n && n ≤ hi
  ⟨touched.foldr
    (fun orbit merged => orbit.foldr (fun n merged => CharSet.insertRange n n merged) merged)
    s.ranges⟩

/-- The ASCII letters that differ from a member of `s` in case only, and the members. -/
def foldAsciiCase (s : CharSet) : CharSet :=
  let letters := (List.range 26).flatMap fun i =>
    let upper := 0x41 + i
    let lower := 0x61 + i
    if s.ranges.any (fun (lo, hi) => (lo ≤ upper && upper ≤ hi) || (lo ≤ lower && lower ≤ hi))
    then [(upper, upper), (lower, lower)] else []
  (CharSet.ofRanges letters).union s

end Descent.Unicode
