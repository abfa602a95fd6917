import Descent.Text.Decimal

/-!
# Floating-point numbers

Numbers of 64 bits as exact multiples of powers of two. `Double.ofDecimal` takes the number nearest
to a decimal one, and `Double.text` writes the fewest digits that are nearest to no other number.
-/

namespace Descent.Text

/-- A floating-point number. A finite one is its mantissa times two to the power of its exponent,
with a sign; a mantissa has at most 53 bits, and fewer only at the least exponent. -/
inductive Double where
  | finite (negative : Bool) (mantissa : Nat) (exponent : Int)
  | infinite (negative : Bool)
  | nan
deriving DecidableEq, Repr, Inhabited

namespace Double

/-- The number of bits of a mantissa. -/
def precision : Nat := 53

/-- The least mantissa of full precision. -/
def leastFull : Nat := 4503599627370496

/-- The least exponent. -/
def leastExponent : Int := -1074

/-- The greatest exponent of a finite number. -/
def greatestExponent : Int := 971

/-- Whether a number is zero. -/
def isZero : Double → Bool
  | finite _ mantissa _ => mantissa = 0
  | _ => false

/-! ## Fractions -/

/-- A fraction times a power of a base. -/
def scale (base : Nat) (num den : Nat) : Int → Nat × Nat
  | .ofNat n => (num * Nat.pow base n, den)
  | .negSucc n => (num, den * Nat.pow base (n + 1))

/-- The integer nearest to a fraction; of two the even one. -/
def roundFraction (num den : Nat) : Nat :=
  let floor := num / den
  let twice := 2 * (num % den)
  if twice < den || (twice = den && floor % 2 = 0) then floor else floor + 1

/-! ## Reading -/

/-- The finite number nearest to a positive fraction, or infinity. -/
def ofFraction (negative : Bool) (num den : Nat) : Double :=
  let guess : Int := (Nat.log2 num : Int) - Nat.log2 den - (precision - 1 : Nat)
  let quotient (q : Int) : Nat :=
    let (n, d) := scale 2 num den (-q)
    n / d
  let fitted := if quotient guess < leastFull then guess - 1 else guess
  let q := max fitted leastExponent
  let (n, d) := scale 2 num den (-q)
  let m := roundFraction n d
  let (m, q) := if m = 2 * leastFull then (leastFull, q + 1) else (m, q)
  if greatestExponent < q then infinite negative else finite negative m q

/-- The number nearest to `digits` times ten to the power of `exponent`. -/
def ofDecimal (negative : Bool) (digits : Nat) (exponent : Int) : Double :=
  let size : Int := (Text.digits digits).length + exponent
  if digits = 0 || size < -400 then finite negative 0 leastExponent
  else if 400 < size then infinite negative
  else
    let (num, den) := scale 10 digits 1 exponent
    ofFraction negative num den

/-! ## Writing -/

/-- The largest `n` with ten to the power of `n` at most the fraction. -/
def decimalExponent (num den : Nat) : Int :=
  let guess : Int := (digits num).length - (digits den).length
  let (n, d) := scale 10 num den (-guess)
  if n < d then guess - 1 else guess

/-- The multiple of ten to the power of `k` that is nearest to the number, if its nearest
floating-point number is this one. The numbers that are nearest to it reach half a unit of the
exponent up and down, or a quarter down where the exponents change; the ends count if the mantissa
is even. -/
def candidate? (mantissa : Nat) (exponent : Int) (k : Int) : Option Nat :=
  let narrow := mantissa = leastFull && leastExponent < exponent
  let (unitNum, unitDen) := scale 2 1 4 exponent
  let (unitNum, unitDen) := scale 10 unitNum unitDen (-k)
  let value := 4 * mantissa * unitNum
  let low := value - (if narrow then 1 else 2) * unitNum
  let high := value + 2 * unitNum
  let inside (d : Nat) : Bool :=
    if mantissa % 2 = 0 then low ≤ d * unitDen && d * unitDen ≤ high
    else low < d * unitDen && d * unitDen < high
  let below := value / unitDen
  let nearest := roundFraction value unitDen
  let other := if nearest = below then below + 1 else below
  if 0 < nearest && inside nearest then some nearest
  else if 0 < other && inside other then some other
  else none

/-- The fewest digits that begin at the power `k` of ten or up to `n` powers below, and the power of
ten of the last one. -/
def shortestFrom (mantissa : Nat) (exponent k : Int) : Nat → Nat × Int
  | 0 => ((candidate? mantissa exponent k).getD 0, k)
  | n + 1 =>
    match candidate? mantissa exponent k with
    | some d => (d, k)
    | none => shortestFrom mantissa exponent (k - 1) n

/-- The fewest digits of a positive number, and the power of ten of the last one. They may begin one
power above the number, where it is rounded up to a power of ten. -/
def shortest (mantissa : Nat) (exponent : Int) : Nat × Int :=
  let (num, den) := scale 2 mantissa 1 exponent
  shortestFrom mantissa exponent (decimalExponent num den + 1) 17

/-- Digits times ten to the power of `k`, written with a point and at least one digit on both sides
of it. -/
def positional (ds : List Char) (k : Int) : List Char :=
  match k with
  | .ofNat n => ds ++ List.replicate n '0' ++ ['.', '0']
  | .negSucc n =>
    if n + 1 < ds.length then
      ds.take (ds.length - (n + 1)) ++ '.' :: ds.drop (ds.length - (n + 1))
    else ['0', '.'] ++ List.replicate (n + 1 - ds.length) '0' ++ ds

/-- The number with a point, in the fewest digits that tell it from others, and without
exponent. -/
def text : Double → List Char
  | finite negative mantissa exponent =>
    let magnitude :=
      if mantissa = 0 then ['0', '.', '0']
      else
        let (ds, k) := shortest mantissa exponent
        positional (digits ds) k
    if negative then '-' :: magnitude else magnitude
  | infinite negative => if negative then ['-', 'i', 'n', 'f'] else ['i', 'n', 'f']
  | nan => ['N', 'a', 'N']

end Double

end Descent.Text
