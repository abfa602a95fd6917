/-!
# Decimal numerals

Writing integers without leading zeros, and reading digits with an optional sign.
-/

namespace Descent.Text

/-! ## Writing -/

/-- The digits of a number. -/
def digits (n : Nat) : List Char := Nat.toDigits 10 n

/-- The digits of an integer, after a minus sign if it is negative. -/
def decimal : Int → List Char
  | .ofNat n => digits n
  | .negSucc n => '-' :: digits (n + 1)

/-- The numeral of an integer as a string. -/
def decimalString (n : Int) : String := String.ofList (decimal n)

/-! ## Reading -/

/-- The number that digits write, most significant first. -/
def valueOfDigits (cs : List Char) : Nat :=
  cs.foldl (fun n c => 10 * n + (c.toNat - '0'.toNat)) 0

/-- Reads a number without sign: one digit or more, and nothing else. -/
def natOfDigits? (cs : List Char) : Option Nat :=
  if cs.isEmpty || !cs.all Char.isDigit then none else some (valueOfDigits cs)

/-- Reads a number after an optional plus sign, up to a greatest one. -/
def natUpTo? (greatest : Nat) (cs : List Char) : Option Nat :=
  let unsigned := match cs with
    | '+' :: rest => rest
    | _ => cs
  match natOfDigits? unsigned with
  | some n => if n ≤ greatest then some n else none
  | none => none

/-- The least integer of 64 bits. -/
def minInt64 : Int := -9223372036854775808

/-- The greatest integer of 64 bits. -/
def maxInt64 : Int := 9223372036854775807

/-- Whether an integer fits into 64 bits. -/
def fitsInt64 (n : Int) : Bool := minInt64 ≤ n && n ≤ maxInt64

/-- Reads an integer of 64 bits after an optional sign. -/
def int64? (cs : List Char) : Option Int :=
  let n? : Option Int := match cs with
    | '-' :: rest => (natOfDigits? rest).map fun n => -(n : Int)
    | '+' :: rest => (natOfDigits? rest).map Int.ofNat
    | _ => (natOfDigits? cs).map Int.ofNat
  n?.filter fitsInt64

end Descent.Text
