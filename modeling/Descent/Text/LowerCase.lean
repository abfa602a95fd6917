import Descent.Unicode.Property

/-!
# Lower case

The lower-case form of a text, in all scripts. A capital sigma at the end of a word has a form of
its own, and the dotted capital I becomes two characters.
-/

namespace Descent.Text

/-- The characters that have another form in lower case. -/
def raised : CharSet := Unicode.having "cwl"

/-- The characters with upper and lower case. -/
def cased : CharSet :=
  CharSet.unions [Unicode.lowercase, Unicode.uppercase, Unicode.inCategories ["lt"]]

/-- The characters that casing looks through. -/
def caseIgnorable : CharSet := (Unicode.computedProperty? "ci").getD CharSet.empty

/-- The lower-case form of a character on its own: of the characters that differ from it in case
only, the next one that is not raised, or else the first one. -/
def lowerChar (c : Char) : Char :=
  if c.toNat < 0x80 then c.toLower
  else if !raised.contains c then c
  else
    let others := ((Unicode.orbits.find? (·.contains c.toNat)).getD []).filter fun n =>
      !raised.contains (Char.ofNat n)
    match others.find? (c.toNat < ·), others with
    | some n, _ => Char.ofNat n
    | none, n :: _ => Char.ofNat n
    | none, [] => c

/-- Whether the first character that casing does not look through has a case. -/
def meetsCased (cs : List Char) : Bool :=
  match cs.dropWhile caseIgnorable.contains with
  | [] => false
  | c :: _ => cased.contains c

/-- The lower-case form of a text, after the characters `before`, latest first. -/
def lowerAfter (before : List Char) : List Char → List Char
  | [] => []
  | c :: cs =>
    let form :=
      if c = 'Σ' then [if meetsCased before && !meetsCased cs then 'ς' else 'σ']
      else if c = 'İ' then ['i', '\u0307']
      else [lowerChar c]
    form ++ lowerAfter (c :: before) cs

/-- The lower-case form of a text. -/
def lower (s : String) : String := String.ofList (lowerAfter [] s.toList)

end Descent.Text
