import Descent.CharSet
import Descent.Toml.Value

/-!
# TOML scalars

Strings, numbers, dates and times. A string is read from the characters after its opening quotes;
numbers, dates and times are read from the whole of a word.
-/

namespace Descent.Toml

/-! ## Strings -/

/-- Whether a character may stand unescaped in text: a tab, or what is no control character. -/
def isTextChar (c : Char) : Bool := c = '\t' || (0x20 ≤ c.toNat && c.toNat != 0x7F)

/-- The character that hexadecimal digits name. -/
def charOfHex? (digits : List Char) : Option Char := do
  let values ← digits.mapM CharSet.hexValue?
  let n := values.foldl (fun n d => 16 * n + d) 0
  if n.isValidChar then some (Char.ofNat n) else none

/-- The character that a letter after a backslash stands for. -/
def escaped? : Char → Option Char
  | 'b' => some '\x08'
  | 't' => some '\t'
  | 'n' => some '\n'
  | 'f' => some '\x0c'
  | 'r' => some '\r'
  | '"' => some '"'
  | '\\' => some '\\'
  | _ => none

/-- A text and what comes behind it. -/
abbrev Split := Option (List Char × List Char)

/-- Puts a character in front of the text. -/
def Split.cons (c? : Option Char) (split : Split) : Split :=
  match c?, split with
  | some c, some (text, rest) => some (c :: text, rest)
  | _, _ => none

/-- The rest of a string on one line, up to its closing quote. -/
def basicString : List Char → Split
  | [] => none
  | '"' :: rest => some ([], rest)
  | '\\' :: 'u' :: a :: b :: c :: d :: rest =>
    Split.cons (charOfHex? [a, b, c, d]) (basicString rest)
  | '\\' :: 'U' :: a :: b :: c :: d :: e :: f :: g :: h :: rest =>
    Split.cons (charOfHex? [a, b, c, d, e, f, g, h]) (basicString rest)
  | '\\' :: c :: rest => Split.cons (escaped? c) (basicString rest)
  | c :: rest => if isTextChar c then Split.cons (some c) (basicString rest) else none

/-- The rest of a string on one line without escapes. -/
def literalString : List Char → Split
  | [] => none
  | '\'' :: rest => some ([], rest)
  | c :: rest => if isTextChar c then Split.cons (some c) (literalString rest) else none

/-- What a backslash at the end of a line does: nothing, wait for the end of the line, or skip
blanks and empty lines after it. -/
inductive Continuation where
  | none
  | waiting
  | skipping
deriving DecidableEq, Repr

/-- The rest of a string over several lines. Up to two quotes may stand before the closing ones. -/
def longString (mode : Continuation) : List Char → Split
  | [] => none
  | '\r' :: '\n' :: rest =>
    if mode = .none then Split.cons (some '\n') (longString .none rest)
    else longString .skipping rest
  | '\n' :: rest =>
    if mode = .none then Split.cons (some '\n') (longString .none rest)
    else longString .skipping rest
  | '"' :: '"' :: '"' :: '"' :: '"' :: rest =>
    if mode = .waiting then none else some (['"', '"'], rest)
  | '"' :: '"' :: '"' :: '"' :: rest => if mode = .waiting then none else some (['"'], rest)
  | '"' :: '"' :: '"' :: rest => if mode = .waiting then none else some ([], rest)
  | '\\' :: 'u' :: a :: b :: c :: d :: rest =>
    if mode = .waiting then none
    else Split.cons (charOfHex? [a, b, c, d]) (longString .none rest)
  | '\\' :: 'U' :: a :: b :: c :: d :: e :: f :: g :: h :: rest =>
    if mode = .waiting then none
    else Split.cons (charOfHex? [a, b, c, d, e, f, g, h]) (longString .none rest)
  | '\\' :: '\n' :: rest => if mode = .waiting then none else longString .skipping rest
  | '\\' :: '\r' :: '\n' :: rest => if mode = .waiting then none else longString .skipping rest
  | '\\' :: ' ' :: rest => if mode = .waiting then none else longString .waiting rest
  | '\\' :: '\t' :: rest => if mode = .waiting then none else longString .waiting rest
  | '\\' :: c :: rest =>
    if mode = .waiting then none else Split.cons (escaped? c) (longString .none rest)
  | c :: rest =>
    if mode != .none && (c = ' ' || c = '\t') then longString mode rest
    else if mode = .waiting || !isTextChar c then none
    else Split.cons (some c) (longString .none rest)

/-- The rest of a string over several lines without escapes. -/
def longLiteralString : List Char → Split
  | [] => none
  | '\r' :: '\n' :: rest => Split.cons (some '\n') (longLiteralString rest)
  | '\n' :: rest => Split.cons (some '\n') (longLiteralString rest)
  | '\'' :: '\'' :: '\'' :: '\'' :: '\'' :: rest => some (['\'', '\''], rest)
  | '\'' :: '\'' :: '\'' :: '\'' :: rest => some (['\''], rest)
  | '\'' :: '\'' :: '\'' :: rest => some ([], rest)
  | c :: rest => if isTextChar c then Split.cons (some c) (longLiteralString rest) else none

/-- The text without the line end that it starts with. -/
def withoutFirstNewline : List Char → List Char
  | '\r' :: '\n' :: rest => rest
  | '\n' :: rest => rest
  | cs => cs

/-- The string at the start of a text, if one starts there. -/
def stringAt? : List Char → Option Split
  | '"' :: '"' :: '"' :: rest => some (longString .none (withoutFirstNewline rest))
  | '\'' :: '\'' :: '\'' :: rest => some (longLiteralString (withoutFirstNewline rest))
  | '"' :: rest => some (basicString rest)
  | '\'' :: rest => some (literalString rest)
  | _ => none

/-! ## Numbers -/

/-- The digits of a number with single underscores between them. -/
def underscored? (isDigit : Char → Bool) : List Char → Option (List Char)
  | [] => none
  | [c] => if isDigit c then some [c] else none
  | c :: '_' :: rest => if isDigit c then (underscored? isDigit rest).map (c :: ·) else none
  | c :: rest => if isDigit c then (underscored? isDigit rest).map (c :: ·) else none

/-- The number that digits write to a base. -/
def numberOfDigits (base : Nat) (digits : List Char) : Nat :=
  digits.foldl (fun n c => base * n + (CharSet.hexValue? c).getD 0) 0

/-- The digits of an integer, which has no zero in front. -/
def integerDigits? (word : List Char) : Option (List Char) :=
  match underscored? Char.isDigit word with
  | some ['0'] => some ['0']
  | some ('0' :: _) => none
  | digits? => digits?

/-- Whether a word starts with a minus sign, and the word without its sign. -/
def splitSign : List Char → Bool × List Char
  | '+' :: rest => (false, rest)
  | '-' :: rest => (true, rest)
  | word => (false, word)

/-- An integer of 64 bits. -/
def int64Of? (n : Int) : Option Value := if Text.fitsInt64 n then some (.int n) else none

/-- An integer: decimal with a sign, or to another base without one. -/
def integer? (word : List Char) : Option Value :=
  let based (base : Nat) (isDigit : Char → Bool) (rest : List Char) : Option Value := do
    let digits ← underscored? isDigit rest
    int64Of? (numberOfDigits base digits)
  match word with
  | '0' :: 'x' :: rest => based 16 (fun c => (CharSet.hexValue? c).isSome) rest
  | '0' :: 'o' :: rest => based 8 (fun c => '0' ≤ c && c ≤ '7') rest
  | '0' :: 'b' :: rest => based 2 (fun c => c = '0' || c = '1') rest
  | _ => do
    let (negative, rest) := splitSign word
    let n := numberOfDigits 10 (← integerDigits? rest)
    int64Of? (if negative then -(n : Int) else n)

/-- The exponent of a number, from the word after its letter. -/
def exponent? (word : List Char) : Option Int := do
  let (negative, rest) := splitSign word
  let n := numberOfDigits 10 (← underscored? Char.isDigit rest)
  some (if negative then -(n : Int) else n)

/-- A number with a fraction, an exponent or both, or one that is not finite. A number that is too
large has no value. -/
def float? (word : List Char) : Option Value := do
  let (negative, rest) := splitSign word
  match rest with
  | ['i', 'n', 'f'] => some (.float (.infinite negative))
  | ['n', 'a', 'n'] => some (.float .nan)
  | _ =>
    let isExponent (c : Char) : Bool := c = 'e' || c = 'E'
    let mantissa := rest.takeWhile fun c => !isExponent c
    let exponent ← match rest.drop mantissa.length with
      | [] => some 0
      | _ :: digits => exponent? digits
    let whole := mantissa.takeWhile (· != '.')
    let wholeDigits ← integerDigits? whole
    let fraction ← match mantissa.drop whole.length with
      | [] => if mantissa.length = rest.length then none else some []
      | _ :: digits => underscored? Char.isDigit digits
    let x := Text.Double.ofDecimal negative (numberOfDigits 10 (wholeDigits ++ fraction))
      (exponent - fraction.length)
    if x = .infinite false then none else some (.float x)

/-! ## Dates and times -/

/-- A number of two digits within bounds, and the text behind it. -/
def twoDigits? (least greatest : Nat) : List Char → Option (Nat × List Char)
  | a :: b :: rest =>
    if a.isDigit && b.isDigit then
      let n := numberOfDigits 10 [a, b]
      if least ≤ n && n ≤ greatest then some (n, rest) else none
    else none
  | _ => none

/-- Skips a character. -/
def skip? (mark : Char) : List Char → Option (List Char)
  | c :: rest => if c = mark then some rest else none
  | [] => none

/-- A number in at least `width` digits. -/
def padded (width n : Nat) : List Char :=
  let digits := Text.digits n
  List.replicate (width - digits.length) '0' ++ digits

/-- The number of days of a month. -/
def daysOfMonth (year month : Nat) : Nat :=
  if month = 2 then
    if (year % 4 = 0 && year % 100 != 0) || year % 400 = 0 then 29 else 28
  else if [4, 6, 9, 11].contains month then 30 else 31

/-- The text of a date, and the text behind it. -/
def date? (word : List Char) : Split := do
  let yearDigits := word.take 4
  if yearDigits.length != 4 || !yearDigits.all Char.isDigit then none
  let year := numberOfDigits 10 yearDigits
  let (month, rest) ← twoDigits? 1 12 (← skip? '-' (word.drop 4))
  let (day, rest) ← twoDigits? 1 31 (← skip? '-' rest)
  if daysOfMonth year month < day then none
  some (padded 4 year ++ '-' :: padded 2 month ++ '-' :: padded 2 day, rest)

/-- The fraction of a second that digits write: up to nine digits, without zeros at the end. -/
def secondFraction (digits : List Char) : List Char :=
  let kept := ((digits.take 9).reverse.dropWhile (· = '0')).reverse
  if kept.isEmpty then [] else '.' :: kept

/-- The text of a time of day, and the text behind it. -/
def time? (word : List Char) : Split := do
  let (hour, rest) ← twoDigits? 0 23 word
  let (minute, rest) ← twoDigits? 0 59 (← skip? ':' rest)
  let (second, rest) ← twoDigits? 0 60 (← skip? ':' rest)
  let whole := padded 2 hour ++ ':' :: padded 2 minute ++ ':' :: padded 2 second
  match rest with
  | '.' :: rest =>
    let digits := rest.takeWhile Char.isDigit
    if digits.isEmpty then none
    some (whole ++ secondFraction digits, rest.drop digits.length)
  | _ => some (whole, rest)

/-- The text of the offset of a time zone, which is all of the word. -/
def offset? (word : List Char) : Option (List Char) :=
  match word with
  | ['Z'] => some ['Z']
  | ['z'] => some ['Z']
  | [] => some []
  | _ => do
    let (negative, rest) := splitSign word
    if rest.length = word.length then none
    let (hour, rest) ← twoDigits? 0 23 rest
    let (minute, rest) ← twoDigits? 0 59 (← skip? ':' rest)
    if !rest.isEmpty then none
    let sign := if negative && (hour, minute) != (0, 0) then '-' else '+'
    some (sign :: padded 2 hour ++ ':' :: padded 2 minute)

/-- A date, a time, or both with an offset or without one. -/
def datetime? (word : List Char) : Option Value := do
  match date? word with
  | some (date, []) => some (.datetime (String.ofList date))
  | some (date, mark :: rest) =>
    if mark != 'T' && mark != 't' && mark != ' ' then none
    let (time, rest) ← time? rest
    some (.datetime (String.ofList (date ++ 'T' :: time ++ (← offset? rest))))
  | none =>
    match time? word with
    | some (time, []) => some (.datetime (String.ofList time))
    | _ => none

/-- The value of a word. -/
def word? (word : List Char) : Option Value :=
  match word with
  | ['t', 'r', 'u', 'e'] => some (.bool true)
  | ['f', 'a', 'l', 's', 'e'] => some (.bool false)
  | _ => ((datetime? word).or (float? word)).or (integer? word)

/-- Whether a character may be part of a word. -/
def isWordChar (c : Char) : Bool := c.isAlphanum || ['+', '-', '_', '.', ':'].contains c

/-- The word at the start of a text, and the text behind it. A date takes the time after a blank
with it. -/
def wordAt (text : List Char) : List Char × List Char :=
  let word := text.takeWhile isWordChar
  let rest := text.drop word.length
  match date? word, rest with
  | some (_, []), ' ' :: c :: more =>
    if c.isDigit then
      let time := (c :: more).takeWhile isWordChar
      (word ++ ' ' :: time, (c :: more).drop time.length)
    else (word, rest)
  | _, _ => (word, rest)

end Descent.Toml
