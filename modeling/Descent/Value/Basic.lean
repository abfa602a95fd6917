import Descent.Text.Decimal
import Descent.Text.Position

/-!
# Values

What parsers produce: data of the shape of JSON, with integers for numbers. The entries of an object
stand in the order of their keys.
-/

namespace Descent

/-- A value produced by a parser. -/
inductive Value where
  | null
  | bool (b : Bool)
  | num (n : Int)
  | str (s : String)
  | arr (items : List Value)
  | obj (entries : List (String × Value))
deriving Repr, Inhabited

namespace Value

/-! ## Equality -/

mutual

/-- Whether two values are the same. -/
def beq : Value → Value → Bool
  | null, null => true
  | bool a, bool b => a == b
  | num a, num b => a == b
  | str a, str b => a == b
  | arr as, arr bs => beqItems as bs
  | obj as, obj bs => beqEntries as bs
  | _, _ => false

def beqItems : List Value → List Value → Bool
  | [], [] => true
  | a :: as, b :: bs => beq a b && beqItems as bs
  | _, _ => false

def beqEntries : List (String × Value) → List (String × Value) → Bool
  | [], [] => true
  | (k, a) :: as, (l, b) :: bs => k == l && beq a b && beqEntries as bs
  | _, _ => false

end

mutual

theorem beq_iff : ∀ a b : Value, beq a b = true ↔ a = b
  | null, b => by cases b <;> simp [beq]
  | bool _, b => by cases b <;> simp [beq]
  | num _, b => by cases b <;> simp [beq]
  | str _, b => by cases b <;> simp [beq]
  | arr as, b => by cases b <;> simp [beq, beqItems_iff as]
  | obj as, b => by cases b <;> simp [beq, beqEntries_iff as]

theorem beqItems_iff : ∀ as bs : List Value, beqItems as bs = true ↔ as = bs
  | [], bs => by cases bs <;> simp [beqItems]
  | a :: as, bs => by cases bs <;> simp [beqItems, beq_iff a, beqItems_iff as]

theorem beqEntries_iff : ∀ as bs : List (String × Value), beqEntries as bs = true ↔ as = bs
  | [], bs => by cases bs <;> simp [beqEntries]
  | (k, a) :: as, bs => by
    cases bs with
    | nil => simp [beqEntries]
    | cons entry bs =>
      simp [beqEntries, beq_iff a, beqEntries_iff as, Prod.ext_iff]

end

instance : DecidableEq Value := fun a b => decidable_of_iff _ (beq_iff a b)

/-! ## Looking at values -/

/-- The number of bytes of a string and the number of items of an array; 0 for all else. -/
def length : Value → Nat
  | str s => Text.byteLength s.toList
  | arr items => items.length
  | _ => 0

/-- An item of an array, null if there is none. -/
def item (i : Nat) : Value → Value
  | arr items => items.getD i null
  | _ => null

/-- The last item of an array, null if there is none. -/
def last : Value → Value
  | arr items => items.getLast?.getD null
  | _ => null

mutual

/-- The characters of all strings inside a value, in order. -/
def text : Value → List Char
  | str s => s.toList
  | arr items => itemsText items
  | obj entries => entriesText entries
  | _ => []

def itemsText : List Value → List Char
  | [] => []
  | v :: vs => v.text ++ itemsText vs

def entriesText : List (String × Value) → List Char
  | [] => []
  | (_, v) :: entries => v.text ++ entriesText entries

end

/-! ## Making values -/

/-- The string of the characters. -/
def ofChars (cs : List Char) : Value := str (String.ofList cs)

/-- A value that may be missing: null, or the value under the key `some`. -/
def ofOption : Option Value → Value
  | none => null
  | some v => obj [("some", v)]

/-- The next natural number; 0 after all else. -/
def next : Value → Value
  | num (.ofNat n) => num (n + 1)
  | _ => num 0

end Value

end Descent
