/-!
# Positions in a text

A text is a list of characters, and a position in it is the number of bytes before it in UTF-8.
`suffixAt?` is the text from a position on; it has no answer beyond the end or inside a character.
-/

namespace Descent.Text

/-- The number of bytes of a text. -/
def byteLength : List Char → Nat
  | [] => 0
  | c :: cs => c.utf8Size + byteLength cs

@[simp] theorem byteLength_nil : byteLength [] = 0 := rfl

@[simp] theorem byteLength_cons (c : Char) (cs : List Char) :
    byteLength (c :: cs) = c.utf8Size + byteLength cs := rfl

@[simp] theorem byteLength_append (cs ds : List Char) :
    byteLength (cs ++ ds) = byteLength cs + byteLength ds := by
  induction cs with
  | nil => simp
  | cons c cs ih => simp [ih, Nat.add_assoc]

/-- The text from a position on, if that is a boundary between characters of the text. -/
def suffixAt? : List Char → Nat → Option (List Char)
  | cs, 0 => some cs
  | [], _ + 1 => none
  | c :: cs, position + 1 =>
    if c.utf8Size ≤ position + 1 then suffixAt? cs (position + 1 - c.utf8Size) else none

@[simp] theorem suffixAt?_zero (cs : List Char) : suffixAt? cs 0 = some cs := by
  cases cs <;> rfl

/-- Whether a position is the start or the end of the text or lies between two characters. -/
def isBoundary (cs : List Char) (position : Nat) : Bool := (suffixAt? cs position).isSome

/-- A prefix of the text can be stepped over. -/
theorem suffixAt?_append (cs ds : List Char) (position : Nat) :
    suffixAt? (cs ++ ds) (byteLength cs + position) = suffixAt? ds position := by
  induction cs with
  | nil => simp
  | cons c cs ih =>
    have hc : 0 < c.utf8Size := Char.utf8Size_pos c
    obtain ⟨n, hn⟩ : ∃ n, byteLength (c :: cs) + position = n + 1 :=
      ⟨byteLength (c :: cs) + position - 1, by simp only [byteLength_cons]; omega⟩
    rw [hn, List.cons_append, suffixAt?, ← hn, byteLength_cons]
    rw [if_pos (by omega), ← ih]
    congr 1
    omega

/-- A boundary splits the text. -/
theorem exists_append_of_suffixAt? {cs rest : List Char} {position : Nat}
    (h : suffixAt? cs position = some rest) :
    ∃ front, cs = front ++ rest ∧ byteLength front = position := by
  induction cs generalizing position with
  | nil =>
    cases position with
    | zero => exact ⟨[], by simp_all⟩
    | succ n => simp [suffixAt?] at h
  | cons c cs ih =>
    cases position with
    | zero => exact ⟨[], by simp_all⟩
    | succ n =>
      rw [suffixAt?] at h
      split at h
      · obtain ⟨front, rfl, hlen⟩ := ih h
        exact ⟨c :: front, rfl, by simp only [byteLength_cons, hlen]; omega⟩
      · simp at h

end Descent.Text
