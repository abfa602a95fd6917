import Descent.Text.Decimal

/-!
# Numerals

The digits of a number are a numeral without leading zeros (`numeral_digits`), each such numeral is
that of a number (`Numeral.digits_value`), and reading undoes writing (`valueOfDigits_digits`,
`int64?_digits`).
-/

namespace Descent.Text

/-- One digit or more, and more than one only after a digit other than zero. -/
inductive Numeral : List Char → Prop
  | mk {c : Char} {cs : List Char} : c.isDigit = true → (∀ d ∈ cs, d.isDigit = true) →
      (c = '0' → cs = []) → Numeral (c :: cs)

/-! ## Digits -/

theorem isDigit_iff {c : Char} : c.isDigit = true ↔ 48 ≤ c.toNat ∧ c.toNat ≤ 57 := by
  simp only [Char.isDigit, Bool.and_eq_true, decide_eq_true_eq, ge_iff_le, UInt32.le_iff_toNat_le]
  rfl

/-- A digit is the one that stands for its value. -/
theorem exists_digitChar {c : Char} (h : c.isDigit = true) :
    ∃ d < 10, c = Nat.digitChar d ∧ c.toNat = 48 + d := by
  rw [isDigit_iff] at h
  refine ⟨c.toNat - 48, by omega, ?_, by omega⟩
  rw [← Char.toNat_inj, Nat.toNat_digitChar_of_lt_ten (by omega)]
  omega

theorem valueOfDigits_digits (n : Nat) : valueOfDigits (digits n) = n :=
  Nat.ofDigitChars_ten_toDigits

theorem isDigit_of_mem_digits {n : Nat} {c : Char} (h : c ∈ digits n) : c.isDigit = true :=
  Nat.isDigit_of_mem_toDigits (by decide) (by decide) h

theorem digits_injective {m n : Nat} (h : digits m = digits n) : m = n := by
  rw [← valueOfDigits_digits m, h, valueOfDigits_digits]

theorem digits_of_lt {d : Nat} (hd : d < 10) : digits d = [d.digitChar] :=
  Nat.toDigits_of_lt_base hd

theorem digits_append {n d : Nat} (hn : 0 < n) (hd : d < 10) :
    digits (10 * n + d) = digits n ++ [d.digitChar] := by
  rw [digits, ← Nat.toDigits_append_toDigits (by decide) hn hd, Nat.toDigits_of_lt_base hd]
  rfl

/-! ## Numerals -/

theorem Numeral.append {cs : List Char} (h : Numeral cs) (h0 : cs ≠ ['0']) {c : Char}
    (hc : c.isDigit = true) : Numeral (cs ++ [c]) := by
  cases h with
  | @mk d ds hd hds hz =>
    refine .mk hd (fun e he => ?_) fun h => ?_
    · rcases List.mem_append.1 he with he | he
      · exact hds e he
      · rwa [List.mem_singleton.1 he]
    · rw [h, hz h] at h0
      exact absurd rfl h0

/-- The digits of a number have no leading zeros. -/
theorem numeral_digits (n : Nat) : Numeral (digits n) := by
  induction n using Nat.strongRecOn with
  | ind n ih =>
    have hlast : (n % 10).digitChar.isDigit = true :=
      isDigit_of_mem_digits (n := n % 10) (by rw [digits_of_lt (by omega)]; simp)
    rcases Nat.lt_or_ge n 10 with hn | hn
    · rw [digits_of_lt hn]
      rw [Nat.mod_eq_of_lt hn] at hlast
      exact .mk hlast (fun _ hd => nomatch hd) fun _ => rfl
    · have hzero : digits (n / 10) ≠ ['0'] := by
        intro h
        have := digits_injective (h.trans (digits_of_lt (d := 0) (by omega)).symm)
        omega
      rw [← Nat.div_add_mod n 10, digits_append (by omega) (by omega)]
      exact (ih (n / 10) (by omega)).append hzero hlast

/-- Reading on after a number that is not zero appends the digits. -/
theorem digits_foldl {cs : List Char} (hcs : ∀ c ∈ cs, c.isDigit = true) {n : Nat} (hn : 0 < n) :
    digits (cs.foldl (fun n c => 10 * n + (c.toNat - '0'.toNat)) n) = digits n ++ cs := by
  induction cs generalizing n with
  | nil => exact (List.append_nil _).symm
  | cons c cs ih =>
    obtain ⟨hc, hcs'⟩ := List.forall_mem_cons.1 hcs
    obtain ⟨d, hd, rfl, hval⟩ := exists_digitChar hc
    have hstep : 10 * n + (d.digitChar.toNat - '0'.toNat) = 10 * n + d := by
      rw [hval]
      exact congrArg _ (Nat.add_sub_cancel_left 48 d)
    rw [List.foldl_cons, hstep, ih hcs' (by omega), digits_append hn hd, List.append_assoc]
    rfl

/-- A numeral without leading zeros is that of its value. -/
theorem Numeral.digits_value {cs : List Char} (h : Numeral cs) :
    digits (valueOfDigits cs) = cs := by
  cases h with
  | @mk c cs hc hcs hz =>
    obtain ⟨d, hd, rfl, hval⟩ := exists_digitChar hc
    have hfirst : 10 * 0 + (d.digitChar.toNat - '0'.toNat) = d := by
      rw [hval, Nat.mul_zero, Nat.zero_add]
      exact Nat.add_sub_cancel_left 48 d
    rw [valueOfDigits, List.foldl_cons, hfirst]
    rcases Nat.eq_zero_or_pos d with rfl | hpos
    · rw [hz rfl]
      exact digits_of_lt hd
    · rw [digits_foldl hcs hpos, digits_of_lt hd]
      rfl

/-! ## Reading -/

theorem natOfDigits?_digits (n : Nat) : natOfDigits? (digits n) = some n := by
  have hne : digits n ≠ [] := Nat.toDigits_ne_nil
  have hall : (digits n).all Char.isDigit = true :=
    List.all_eq_true.2 fun _ hc => isDigit_of_mem_digits hc
  simp [natOfDigits?, hne, hall, valueOfDigits_digits]

/-- The digits of a number read as the number if it has at most 64 bits. -/
theorem int64?_digits (n : Nat) :
    int64? (digits n) = if (n : Int) ≤ maxInt64 then some (n : Int) else none := by
  have hread := natOfDigits?_digits n
  have hfits : fitsInt64 n = decide ((n : Int) ≤ maxInt64) := by
    have : minInt64 ≤ (n : Int) := by unfold minInt64; omega
    simp [fitsInt64, this]
  have hunsigned :
      int64? (digits n) = ((natOfDigits? (digits n)).map Int.ofNat).filter fitsInt64 := by
    have hd := numeral_digits n
    generalize digits n = cs at hd
    cases hd with
    | @mk c cs hc _ _ =>
      unfold int64?
      dsimp only
      split
      · rename_i heq
        cases heq
        exact absurd hc (by decide)
      · rename_i heq
        cases heq
        exact absurd hc (by decide)
      · rfl
  rw [hunsigned, hread, Option.map_some, Option.filter_some, Int.ofNat_eq_natCast, hfits]
  simp only [decide_eq_true_eq]

end Descent.Text
