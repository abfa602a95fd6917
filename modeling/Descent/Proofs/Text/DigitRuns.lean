import Descent.Proofs.Text.Numeral
import Mathlib.Algebra.Ring.Nat
import Mathlib.Data.List.Induction

/-!
# Runs of digits

`DigitsFit` says that each longest run of digits of a text has a value of at most 64 bits. Then all
digits that stand together do (`DigitsFit.of_digits`). It holds of texts that are short enough
(`digitsFit_of_length_le`).
-/

namespace Descent.Text

/-- Each longest run of digits in the text has a value of at most 64 bits. -/
def DigitsFit (text : List Char) : Prop :=
  ∀ front digits rest, text = front ++ (digits ++ rest) → (∀ c ∈ digits, c.isDigit = true) →
    (∀ c ∈ front.getLast?, c.isDigit = false) → (∀ c ∈ rest.head?, c.isDigit = false) →
    (valueOfDigits digits : Int) ≤ maxInt64

/-! ## Values of more digits -/

/-- The value of digits behind others of the value `n`. -/
def continueValue (n : Nat) (cs : List Char) : Nat :=
  cs.foldl (fun n c => 10 * n + (c.toNat - '0'.toNat)) n

theorem valueOfDigits_append (cs ds : List Char) :
    valueOfDigits (cs ++ ds) = continueValue (valueOfDigits cs) ds := List.foldl_append

theorem le_continueValue (n : Nat) (cs : List Char) : n ≤ continueValue n cs := by
  induction cs generalizing n with
  | nil => exact Nat.le_refl n
  | cons c cs ih =>
    have := ih (10 * n + (c.toNat - '0'.toNat))
    simp only [continueValue, List.foldl_cons] at this ⊢
    omega

theorem continueValue_mono {m n : Nat} (h : m ≤ n) (cs : List Char) :
    continueValue m cs ≤ continueValue n cs := by
  induction cs generalizing m n with
  | nil => exact h
  | cons c cs ih =>
    simp only [continueValue, List.foldl_cons]
    apply ih
    omega

theorem continueValue_lt {cs : List Char} (h : ∀ c ∈ cs, c.isDigit = true) (n : Nat) :
    continueValue n cs < (n + 1) * 10 ^ cs.length := by
  induction cs generalizing n with
  | nil => simp [continueValue]
  | cons c cs ih =>
    obtain ⟨hc, hcs⟩ := List.forall_mem_cons.1 h
    obtain ⟨d, hd, -, hval⟩ := exists_digitChar hc
    have hdigit : c.toNat - '0'.toNat = d := by
      have : '0'.toNat = 48 := rfl
      omega
    have hstep : continueValue n (c :: cs) = continueValue (10 * n + d) cs := by
      rw [← hdigit]
      rfl
    calc continueValue n (c :: cs) = continueValue (10 * n + d) cs := hstep
      _ < (10 * n + d + 1) * 10 ^ cs.length := ih hcs _
      _ ≤ (n + 1) * 10 * 10 ^ cs.length := Nat.mul_le_mul_right _ (by omega)
      _ = (n + 1) * 10 ^ (c :: cs).length := by
        rw [List.length_cons, Nat.pow_succ, Nat.mul_assoc, Nat.mul_comm 10]

/-! ## Digits that stand together -/

section
variable {text front digits rest : List Char}

/-- Where no digit follows, digits fit that others may stand before. -/
theorem DigitsFit.of_stop (h : DigitsFit text) (htext : text = front ++ (digits ++ rest))
    (hd : ∀ c ∈ digits, c.isDigit = true) (hr : ∀ c ∈ rest.head?, c.isDigit = false) :
    (valueOfDigits digits : Int) ≤ maxInt64 := by
  induction front using List.reverseRecOn generalizing digits with
  | nil => exact h [] digits rest htext hd (by simp) hr
  | append_singleton front c ih =>
    cases hc : c.isDigit with
    | false => exact h _ digits rest htext hd (by simp [hc]) hr
    | true =>
      have hlonger := @ih (c :: digits) (by simp [htext])
        (List.forall_mem_cons.2 ⟨hc, hd⟩)
      have hle : valueOfDigits digits ≤ valueOfDigits ([c] ++ digits) := by
        rw [valueOfDigits_append]
        exact continueValue_mono (Nat.zero_le _) digits
      rw [List.singleton_append] at hle
      omega

/-- All digits that stand together fit. -/
theorem DigitsFit.of_digits (h : DigitsFit text) (htext : text = front ++ (digits ++ rest))
    (hd : ∀ c ∈ digits, c.isDigit = true) : (valueOfDigits digits : Int) ≤ maxInt64 := by
  induction rest generalizing digits with
  | nil => exact h.of_stop htext hd (by simp)
  | cons c rest ih =>
    cases hc : c.isDigit with
    | false => exact h.of_stop htext hd (by simp [hc])
    | true =>
      have hlonger := @ih (digits ++ [c]) (by simp [htext])
        (List.forall_mem_append.2 ⟨hd, List.forall_mem_singleton.2 hc⟩)
      have hle := le_continueValue (valueOfDigits digits) [c]
      rw [← valueOfDigits_append] at hle
      omega

/-- A number with up to 18 digits has at most 64 bits. -/
theorem digitsFit_of_length_le (h : text.length ≤ 18) : DigitsFit text := by
  rintro front digits rest rfl hd - -
  have hlt := continueValue_lt hd 0
  have hlength : digits.length ≤ 18 := by
    simp only [List.length_append] at h
    omega
  have hpow : 10 ^ digits.length ≤ 10 ^ 18 := Nat.pow_le_pow_right (by decide) hlength
  have hvalue : valueOfDigits digits < 10 ^ 18 := by
    rw [Nat.zero_add, Nat.one_mul] at hlt
    exact Nat.lt_of_lt_of_le hlt hpow
  unfold maxInt64
  omega

end

end Descent.Text
