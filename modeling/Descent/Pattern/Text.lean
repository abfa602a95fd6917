import Descent.Pattern.Ast
import Descent.Unicode.Property

/-!
# Reading patterns

`Ast.ofText?` reads the text of a regular expression. There are no back references and no look
around; braces always count repetitions, so that a lone `{` is an error. While the flag `x` is on,
blanks and comments between the parts of a pattern are skipped.
-/

namespace Descent.Pattern

/-! ## The cursor -/

/-- What is left to read, whether blanks are skipped, and which groups have been opened. -/
structure Cursor where
  rest : List Char
  ignoreBlanks : Bool
  groups : Nat
  names : List (List Char)

/-- A reading step; it fails on text that is no pattern. -/
abbrev Read := StateT Cursor Option

namespace Read

/-- The text is no pattern. -/
def fail {α : Type} : Read α := fun _ => none

/-- Goes on if the test holds. -/
def require (test : Bool) : Read Unit := if test then pure () else fail

/-- The next character, which is not consumed. -/
def peek? : Read (Option Char) := return (← get).rest.head?

/-- The next character, which there has to be; it is not consumed. -/
def peek : Read Char := do
  match ← peek? with
  | some c => return c
  | none => fail

/-- Drops `n` characters. -/
def drop (n : Nat) : Read Unit := modify fun s => { s with rest := s.rest.drop n }

/-- The text after blanks and comments, which start with `#` and end with the line. -/
def afterBlanks (inComment : Bool) : List Char → List Char
  | [] => []
  | c :: cs =>
    if inComment then afterBlanks (c != '\n') cs
    else if Unicode.whiteSpace.contains c then afterBlanks false cs
    else if c = '#' then afterBlanks true cs
    else c :: cs

/-- Skips blanks and comments where they do not count. -/
def blanks : Read Unit := modify fun s =>
  if s.ignoreBlanks then { s with rest := afterBlanks false s.rest } else s

/-- Drops one character and the blanks after it. -/
def advance : Read Unit := do drop 1; blanks

/-- The characters up to the first one that `keep` refuses, blanks dropped where they do not
count, and the text from that one on. -/
def gatherFrom (ignoreBlanks : Bool) (keep : Char → Bool) (inComment : Bool) :
    List Char → List Char × List Char
  | [] => ([], [])
  | c :: cs =>
    if inComment then gatherFrom ignoreBlanks keep (c != '\n') cs
    else if ignoreBlanks && Unicode.whiteSpace.contains c then
      gatherFrom ignoreBlanks keep false cs
    else if ignoreBlanks && c == '#' then gatherFrom ignoreBlanks keep true cs
    else if keep c then
      let (kept, rest) := gatherFrom ignoreBlanks keep false cs
      (c :: kept, rest)
    else ([], c :: cs)

/-- Consumes characters while `keep` accepts them. -/
def gather (keep : Char → Bool) : Read (List Char) := do
  let s ← get
  let (kept, rest) := gatherFrom s.ignoreBlanks keep false s.rest
  set { s with rest := rest }
  return kept

/-- Consumes `text` if it comes next. -/
def accept (text : List Char) : Read Bool := do
  let s ← get
  if text.isPrefixOf s.rest then
    set { s with rest := s.rest.drop text.length }
    return true
  else return false

end Read

/-! ## Escapes -/

/-- Characters with a meaning of their own in some place. -/
def isMeta (c : Char) : Bool :=
  ['\\', '.', '+', '*', '?', '(', ')', '|', '[', ']', '\x7b', '\x7d', '^', '$', '#', '&', '-',
    '~'].contains c

/-- Whether a backslash before `c` only makes sure that it stands for itself. -/
def isPlainEscape (c : Char) : Bool :=
  isMeta c || (c.toNat < 0x80 && !c.isAlphanum && c != '<' && c != '>')

/-- The character that hexadecimal digits name; none for a surrogate or beyond the last code
point, or without digits. -/
def scalarOfHex? (digits : List Char) : Option Char := do
  if digits.isEmpty then none
  let values ← digits.mapM CharSet.hexValue?
  let n := values.foldl (fun n d => 16 * n + d) 0
  if n.isValidChar then some (Char.ofNat n) else none

open Read

/-- Reads exactly `n` hexadecimal digits. -/
def readHexDigits : Nat → Read (List Char)
  | 0 => return []
  | n + 1 => do
    let c ← peek
    require (CharSet.hexValue? c).isSome
    advance
    return c :: (← readHexDigits n)

/-- Reads the digits of a hexadecimal escape, whose letter comes next: `n` of them, or any number
in braces. -/
def readHex (n : Nat) (isByte : Bool) : Read Ast := do
  advance
  let (digits, isByte) ←
    if (← peek) = '\x7b' then do
      advance
      let digits ← gather (· != '\x7d')
      require ((← peek) = '\x7d')
      advance
      pure (digits, false)
    else do
      let digits ← readHexDigits n
      pure (digits, isByte)
  match scalarOfHex? digits with
  | some c => return .literal ⟨c, isByte⟩
  | none => fail

/-- Splits a list at the first place where `mark` stands. -/
def splitAtMark (mark : List Char) : List Char → Option (List Char × List Char)
  | [] => none
  | c :: cs =>
    if mark.isPrefixOf (c :: cs) then some ([], (c :: cs).drop mark.length)
    else (splitAtMark mark cs).map fun (before, after) => (c :: before, after)

/-- The property that the text in the braces of `\p` names. -/
def queryOf (text : List Char) : PropertyQuery :=
  let valued (parts : List Char × List Char) : PropertyQuery :=
    .valued (String.ofList parts.1) (String.ofList parts.2)
  match splitAtMark ['!', '='] text with
  | some parts => valued parts
  | none =>
    match splitAtMark [':'] text with
    | some parts => valued parts
    | none =>
      match splitAtMark ['='] text with
      | some parts => valued parts
      | none => .named (String.ofList text)

/-- Reads a property escape, whose letter comes next. -/
def readProperty (negated : Bool) : Read Ast := do
  advance
  let c ← peek
  if c = '\x7b' then
    advance
    let text ← gather (· != '\x7d')
    require ((← peek) = '\x7d')
    drop 1
    return .property (queryOf text) negated
  else
    require (c != '\\')
    advance
    return .property (.named (String.ofList [c])) negated

/-- Reads what may follow `\b` in braces. Braces that start with neither a letter nor a hyphen
count repetitions and are left alone. -/
def readBoundary : Read Ast := do
  let isNameChar (c : Char) : Bool := c.isAlpha || c == '-'
  if (← peek?) = some '\x7b' then
    let before ← get
    advance
    if isNameChar (← peek) then
      let name ← gather isNameChar
      require ((← peek) = '\x7d')
      drop 1
      match String.ofList name with
      | "start" => return .assertion .wordStart
      | "end" => return .assertion .wordEnd
      | "start-half" => return .assertion .wordStartHalf
      | "end-half" => return .assertion .wordEndHalf
      | _ => fail
    else
      set before
      return .assertion .wordBoundary
  else return .assertion .wordBoundary

/-- Reads an escape, whose backslash comes next. -/
def readEscape : Read Ast := do
  drop 1
  let c ← peek
  let plain (c : Char) : Ast := .literal ⟨c, false⟩
  match c with
  | 'x' => readHex 2 true
  | 'u' => readHex 4 false
  | 'U' => readHex 8 false
  | 'p' => readProperty false
  | 'P' => readProperty true
  | _ =>
    drop 1
    match c with
    | 'd' => return .short .digit false
    | 'D' => return .short .digit true
    | 's' => return .short .space false
    | 'S' => return .short .space true
    | 'w' => return .short .word false
    | 'W' => return .short .word true
    | 'a' => return plain '\x07'
    | 'f' => return plain '\x0c'
    | 't' => return plain '\t'
    | 'n' => return plain '\n'
    | 'r' => return plain '\r'
    | 'v' => return plain '\x0b'
    | 'A' => return .assertion .textStart
    | 'z' => return .assertion .textEnd
    | 'b' => readBoundary
    | 'B' => return .assertion .notWordBoundary
    | '<' => return .assertion .wordStart
    | '>' => return .assertion .wordEnd
    | _ => if isPlainEscape c then return plain c else fail

/-! ## Classes -/

/-- Reads one end of a range, or an item that is no range. -/
def readItem : Read Ast := do
  let c ← peek
  if c = '\\' then readEscape
  else
    drop 1
    return .literal ⟨c, false⟩

/-- What an item means inside brackets; assertions mean nothing there. -/
def itemSet : Ast → Read ClassSet
  | .literal l => return .literal l
  | .short kind negated => return .short kind negated
  | .property query negated => return .property query negated
  | _ => fail

/-- The next character after blanks. A comment hides blanks up to its first other character. -/
def peekAfter (inComment : Bool) : List Char → Option Char
  | [] => none
  | c :: cs =>
    if Unicode.whiteSpace.contains c then peekAfter inComment cs
    else if !inComment && c == '#' then peekAfter true cs
    else some c

/-- The character after the next one, blanks left out where they do not count. -/
def peekSecond : Read (Option Char) := do
  let s ← get
  let after := s.rest.drop 1
  if s.ignoreBlanks then return (peekAfter false after).or after.head?
  else return after.head?

/-- Reads a range or a single item. A hyphen before `]` or another hyphen makes no range. -/
def readRange : Read ClassSet := do
  let lo ← readItem
  blanks
  let c ← peek
  let second ← peekSecond
  if c != '-' || second == some ']' || second == some '-' then itemSet lo
  else
    advance
    let hi ← readItem
    match lo, hi with
    | .literal lo, .literal hi =>
      require (lo.char.toNat ≤ hi.char.toNat)
      return .range lo hi
    | _, _ => fail

/-- Reads a class such as `[:alpha:]`. Consumes nothing if there is none. -/
def readNamedClass? : Read (Option ClassSet) := do
  let s ← get
  match s.rest with
  | '[' :: ':' :: afterMark =>
    let negated := afterMark.head? == some '^'
    let afterSign := if negated then afterMark.drop 1 else afterMark
    let name := afterSign.takeWhile (· != ':')
    let afterName := afterSign.drop name.length
    match NamedClass.ofName? name, afterName with
    | some kind, ':' :: ']' :: rest =>
      set { s with rest := rest }
      return some (.named kind negated)
    | _, _ => return none
  | _ => return none

/-- The hyphens that stand for themselves at the start of a class, at most `fuel` of them. -/
def readHyphens : Nat → Read (List ClassSet)
  | 0 => return []
  | fuel + 1 => do
    if (← peek) = '-' then
      advance
      return .literal ⟨'-', false⟩ :: (← readHyphens fuel)
    else return []

/-- Reads the opening of a class: whether it is negated, and the items that only stand for
themselves because they come first. -/
def readOpening : Read (Bool × List ClassSet) := do
  advance
  let negated := (← peek) = '^'
  if negated then advance
  let hyphens ← readHyphens (← get).rest.length
  let c ← peek
  if hyphens.isEmpty && c = ']' then
    advance
    let _ ← peek
    return (negated, [.literal ⟨']', false⟩])
  else return (negated, hyphens)

/-- An operator that waits for its right side. -/
abbrev Pending := Option (SetOperator × ClassSet)

/-- The set that ends here, as right side of the operator before it. -/
def joinPending (pending : Pending) (rhs : ClassSet) : ClassSet :=
  match pending with
  | some (op, lhs) => .binary op lhs rhs
  | none => rhs

/-- The operator that comes next. -/
def peekOperator? : Read (Option SetOperator) := do
  match (← get).rest with
  | '&' :: '&' :: _ => return some .intersection
  | '-' :: '-' :: _ => return some .difference
  | '~' :: '~' :: _ => return some .symmetricDifference
  | _ => return none

/-- Reads the rest of a class up to its closing bracket, given the latest items in reverse. -/
def readClassRest : Nat → List ClassSet → Pending → Read ClassSet
  | 0, _, _ => fail
  | fuel + 1, items, pending => do
    blanks
    match ← peekOperator? with
    | some op =>
      drop 2
      readClassRest fuel [] (some (op, joinPending pending (.ofItems items.reverse)))
    | none =>
      match ← peek with
      | ']' =>
        drop 1
        return joinPending pending (.ofItems items.reverse)
      | '[' =>
        match ← readNamedClass? with
        | some item => readClassRest fuel (item :: items) pending
        | none =>
          let (negated, first) ← readOpening
          let inner ← readClassRest fuel first.reverse none
          readClassRest fuel (.bracketed negated inner :: items) pending
      | _ =>
        let item ← readRange
        readClassRest fuel (item :: items) pending

/-- Reads a class, whose opening bracket comes next. -/
def readClass : Read Ast := do
  let (negated, first) ← readOpening
  let set ← readClassRest ((← get).rest.length + 1) first.reverse none
  return .bracketed negated set

/-! ## Repetitions -/

/-- The largest number that may be written in a repetition. -/
def maxCount : Nat := 4294967295

/-- Reads a number with blanks around it; `none` if there are no digits. -/
def readCount : Read (Option Nat) := do
  let skipWhite : Read Unit := modify fun s =>
    { s with rest := s.rest.dropWhile Unicode.whiteSpace.contains }
  skipWhite
  let digits ← gather Char.isDigit
  skipWhite
  if digits.isEmpty then return none
  else
    let n := digits.foldl (fun n d => 10 * n + (d.toNat - '0'.toNat)) 0
    require (n ≤ maxCount)
    return some n

/-- Reads the bounds of a counted repetition, whose opening brace comes next. -/
def readBounds : Read (Nat × Option Nat) := do
  advance
  let min? ← readCount
  let bounds ←
    if (← peek) = ',' then do
      advance
      match min? with
      | none => fail
      | some min =>
        if (← peek) = '\x7d' then pure (min, none)
        else match ← readCount with
          | none => fail
          | some max => do
            require (min ≤ max)
            pure (min, some max)
    else match min? with
      | some n => pure (n, some n)
      | none => fail
  require ((← peek) = '\x7d')
  advance
  return bounds

/-- Whether a question mark follows, which makes a repetition lazy. -/
def readGreedy : Read Bool := return !(← accept ['?'])

/-! ## Groups -/

/-- Reads the letters of a flag group, up to its end or the colon before its pattern. -/
def flagChangeOf? (letters : List Char) : Option FlagChange := do
  let onLetters := letters.takeWhile (· != '-')
  let on ← onLetters.mapM Flag.ofLetter?
  let off ← match letters.drop onLetters.length with
    | [] => some []
    | [_] => none
    | _ :: offLetters => offLetters.mapM Flag.ofLetter?
  if (on ++ off).Nodup then some ⟨on, off⟩ else none

/-- Whether `c` may stand in the name of a group, at its start or later. -/
def isNameChar (atStart : Bool) (c : Char) : Bool :=
  c == '_' ||
    (if atStart then Unicode.alphabetic.contains c
     else ['.', '[', ']'].contains c || Unicode.alphanumeric.contains c)

/-- Whether a group may have the name. -/
def isGroupName : List Char → Bool
  | [] => false
  | c :: cs => isNameChar true c && cs.all (isNameChar false)

/-- Takes the number of the next capturing group. -/
def openGroup : Read GroupKind := do
  let s ← get
  set { s with groups := s.groups + 1 }
  return .capturing (s.groups + 1)

/-- Reads the name of a group and the bracket that closes the name. -/
def readGroupName : Read Unit := do
  let s ← get
  let name := s.rest.takeWhile (· != '>')
  require (isGroupName name && !s.names.contains name)
  require ((s.rest.drop name.length).head? == some '>')
  set { s with rest := s.rest.drop (name.length + 1), names := name :: s.names }

/-- Reads the start of a group, whose parenthesis comes next: flags alone, or what the group is
for. -/
def readGroupStart : Read (FlagChange ⊕ GroupKind) := do
  advance
  let ahead := (← get).rest
  require !([['?', '='], ['?', '!'], ['?', '<', '='], ['?', '<', '!']].any (·.isPrefixOf ahead))
  if (← accept ['?', 'P', '<']) || (← accept ['?', '<']) then
    readGroupName
    return .inr (← openGroup)
  else if ← accept ['?'] then
    let s ← get
    let letters := s.rest.takeWhile fun c => c != ':' && c != ')'
    match flagChangeOf? letters, s.rest.drop letters.length with
    | some change, ')' :: rest =>
      require !letters.isEmpty
      set { s with rest := rest }
      return .inl change
    | some change, ':' :: rest =>
      set { s with rest := rest }
      return .inr (.flagged change)
    | _, _ => fail
  else return .inr (← openGroup)

/-! ## Patterns -/

/-- Turns the skipping of blanks on or off. -/
def setIgnoreBlanks (on : Bool) : Read Unit := modify fun s => { s with ignoreBlanks := on }

/-- The part that a repetition operator applies to, and the parts before it. -/
def repeated : List Ast → Read (Ast × List Ast)
  | [] => fail
  | part :: parts => do
    require !part.isUnrepeatable
    return (part, parts)

/-- Reads up to the end of the group or of the text, given the finished alternatives and the
parts of the current one, both in reverse. -/
def readAlternatives : Nat → List Ast → List Ast → Read Ast
  | 0, _, _ => fail
  | fuel + 1, alternatives, parts => do
    blanks
    let repeatLast (min : Nat) (max : Option Nat) : Read Ast := do
      let (sub, before) ← repeated parts
      let greedy ← readGreedy
      readAlternatives fuel alternatives (.repetition min max greedy sub :: before)
    let finish : Ast := .ofAlternatives (Ast.ofParts parts.reverse :: alternatives).reverse
    match ← peek? with
    | none => return finish
    | some ')' => return finish
    | some '|' =>
      drop 1
      readAlternatives fuel (Ast.ofParts parts.reverse :: alternatives) []
    | some '(' =>
      match ← readGroupStart with
      | .inl change =>
        setIgnoreBlanks (change.apply .ignoreBlanks (← get).ignoreBlanks)
        readAlternatives fuel alternatives (.flags change :: parts)
      | .inr kind =>
        let before := (← get).ignoreBlanks
        match kind with
        | .flagged change => setIgnoreBlanks (change.apply .ignoreBlanks before)
        | .capturing _ => pure ()
        let sub ← readAlternatives fuel [] []
        require ((← peek) = ')')
        setIgnoreBlanks before
        drop 1
        readAlternatives fuel alternatives (.group kind sub :: parts)
    | some '[' =>
      let part ← readClass
      readAlternatives fuel alternatives (part :: parts)
    | some '?' => drop 1; repeatLast 0 (some 1)
    | some '*' => drop 1; repeatLast 0 none
    | some '+' => drop 1; repeatLast 1 none
    | some '\x7b' =>
      let (min, max) ← readBounds
      repeatLast min max
    | some '\\' =>
      let part ← readEscape
      readAlternatives fuel alternatives (part :: parts)
    | some c =>
      drop 1
      let part : Ast := match c with
        | '.' => .dot
        | '^' => .assertion .lineStart
        | '$' => .assertion .lineEnd
        | c => .literal ⟨c, false⟩
      readAlternatives fuel alternatives (part :: parts)

/-- The nesting depth that a pattern may have. -/
def nestingLimit : Nat := 250

/-- The pattern that a text writes, if it is one and is not nested too deeply. -/
def Ast.ofText? (text : List Char) : Option Ast := do
  let (ast, cursor) ← (readAlternatives (text.length + 1) [] []).run ⟨text, false, 0, []⟩
  if cursor.rest.isEmpty && ast.depth ≤ nestingLimit then some ast else none

end Descent.Pattern
