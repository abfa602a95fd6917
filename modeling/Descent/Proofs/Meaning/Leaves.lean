import Descent.Proofs.Meaning.Derives

/-!
# Leaves and shapes are functions

At each position a leaf answers one thing, and that is what `Parser.run` computes for it
(`recognizes_literal_iff` and the like); the same holds of the combinators that change an outcome
(`reshapes_optional_iff` and the like).
-/

namespace Descent

/-! ## Positions -/

theorem Text.suffixAt?_eq_some_iff {input rest : List Char} {position : Nat} :
    suffixAt? input position = some rest ↔ At input position rest := by
  constructor
  · exact exists_append_of_suffixAt?
  · rintro ⟨front, rfl, rfl⟩
    have := suffixAt?_append front rest 0
    rwa [Nat.add_zero, suffixAt?_zero] at this

/-- There is one rest at a position. -/
theorem Text.At.unique {input rest rest' : List Char} {position : Nat}
    (h : At input position rest) (h' : At input position rest') : rest = rest' := by
  rw [← suffixAt?_eq_some_iff] at h h'
  exact Option.some.inj (h.symm.trans h')

theorem Text.not_at_of_suffixAt?_eq_none {input : List Char} {position : Nat}
    (h : suffixAt? input position = none) (rest : List Char) : ¬ At input position rest := by
  rw [← suffixAt?_eq_some_iff, h]
  exact nofun

namespace Text

variable {input text rest : List Char} {position : Nat}

theorem isBoundary_iff : isBoundary input position = true ↔ ∃ rest, At input position rest := by
  rw [isBoundary, Option.isSome_iff_exists]
  exact exists_congr fun _ => suffixAt?_eq_some_iff

theorem At.isBoundary (h : At input position rest) : isBoundary input position = true :=
  isBoundary_iff.2 ⟨rest, h⟩

theorem At.le_length (h : At input position rest) : position ≤ byteLength input := by
  obtain ⟨front, rfl, rfl⟩ := h
  rw [byteLength_append]
  omega

/-- Behind a text that stands at the position. -/
theorem At.append (h : At input position (text ++ rest)) :
    At input (position + byteLength text) rest := by
  obtain ⟨front, rfl, rfl⟩ := h
  exact ⟨front ++ text, (List.append_assoc ..).symm, byteLength_append _ _⟩

/-- The start and the end of the input. -/
theorem At.start (input : List Char) : At input 0 input := ⟨[], rfl, rfl⟩

theorem At.eq_length_iff (h : At input position rest) :
    position = byteLength input ↔ rest = [] := by
  obtain ⟨front, rfl, rfl⟩ := h
  constructor
  · intro hl
    cases rest with
    | nil => rfl
    | cons c rest =>
      have := Char.utf8Size_pos c
      simp only [byteLength_append, byteLength_cons] at hl
      omega
  · rintro rfl
    simp

end Text

/-- A match is a front part of the text. -/
theorem Pattern.exists_append_of_match? {p : Pattern} {cs text : List Char}
    (h : p.match? cs = some text) : ∃ rest, cs = text ++ rest := by
  obtain ⟨n, -, rfl⟩ := Option.map_eq_some_iff.1 h
  exact ⟨cs.drop n, (List.take_append_drop n cs).symm⟩

/-! ## Leaves -/

section
variable {input : List Char} {position : Nat} {step : Step}

theorem recognizes_literal_iff {text : String} :
    Recognizes input position (.literal text) step ↔
      step = .ok (Parser.matchLiteral text input position) := by
  constructor
  · intro h
    unfold Parser.matchLiteral
    cases h with
    | literal h =>
      rw [Text.suffixAt?_eq_some_iff.2 h]
      simp
    | literal_fails h =>
      split
      · rename_i rest hr
        rw [if_neg]
        rw [List.isPrefixOf_iff_prefix]
        rintro ⟨rest', rfl⟩
        exact h rest' (Text.suffixAt?_eq_some_iff.1 hr)
      · rfl
  · rintro rfl
    unfold Parser.matchLiteral
    split
    · rename_i rest hr
      have hat := Text.suffixAt?_eq_some_iff.1 hr
      split
      · rename_i hp
        obtain ⟨rest', rfl⟩ := List.isPrefixOf_iff_prefix.1 hp
        exact .literal hat
      · rename_i hp
        refine .literal_fails fun rest' h => hp ?_
        rw [hat.unique h, List.isPrefixOf_iff_prefix]
        exact List.prefix_append _ _
    · rename_i hr
      exact .literal_fails fun _ => Text.not_at_of_suffixAt?_eq_none hr _

theorem contains_bne_iff {set : String} {negate : Bool} {c : Char} :
    (set.toList.contains c != negate) = true ↔ (c ∈ set.toList ↔ negate = false) := by
  cases negate <;> simp

theorem recognizes_charClass_iff {set : String} {negate : Bool} :
    Recognizes input position (.charClass set negate) step ↔
      step = .ok (Parser.matchCharClass set negate input position) := by
  constructor
  · intro h
    unfold Parser.matchCharClass
    cases h with
    | charClass h hc =>
      rw [Text.suffixAt?_eq_some_iff.2 h]
      simp only [contains_bne_iff.2 hc, if_true]
    | charClass_fails h =>
      split
      · rename_i c rest hr
        have hc := h c rest (Text.suffixAt?_eq_some_iff.1 hr)
        rw [← contains_bne_iff] at hc
        rw [if_neg hc]
      · rfl
  · rintro rfl
    unfold Parser.matchCharClass
    split
    · rename_i c rest hr
      have hat := Text.suffixAt?_eq_some_iff.1 hr
      split
      · rename_i hc
        exact .charClass hat (contains_bne_iff.1 hc)
      · rename_i hc
        refine .charClass_fails fun c' rest' h => ?_
        cases hat.unique h
        rwa [← contains_bne_iff]
    · rename_i hr
      refine .charClass_fails fun c rest h => ?_
      exact absurd (Text.suffixAt?_eq_some_iff.2 h) (hr c rest)

theorem recognizes_pattern_iff {expression : String} {ignoreCase : Bool} {p : Pattern}
    (hp : Pattern.compile? expression ignoreCase = some p) :
    Recognizes input position (.pattern expression ignoreCase) step ↔
      step = .ok (Parser.matchPattern p input position) := by
  constructor
  · intro h
    unfold Parser.matchPattern
    cases h with
    | pattern hp' h hm =>
      cases hp.symm.trans hp'
      rw [Text.suffixAt?_eq_some_iff.2 h, Option.bind_some, hm]
    | pattern_fails hp' h =>
      cases hp.symm.trans hp'
      cases hr : Text.suffixAt? input position with
      | none => rfl
      | some rest => rw [Option.bind_some, h rest (Text.suffixAt?_eq_some_iff.1 hr)]
  · rintro rfl
    unfold Parser.matchPattern
    cases hr : Text.suffixAt? input position with
    | none => exact .pattern_fails hp fun rest h => absurd h (Text.not_at_of_suffixAt?_eq_none hr _)
    | some rest =>
      have hat := Text.suffixAt?_eq_some_iff.1 hr
      cases hm : p.match? rest with
      | none =>
        simp only [Option.bind_some, hm]
        exact .pattern_fails hp fun rest' h => by rw [← hat.unique h, hm]
      | some text =>
        obtain ⟨rest', rfl⟩ := Pattern.exists_append_of_match? hm
        simp only [Option.bind_some, hm]
        exact .pattern hp hat hm

theorem recognizes_custom_iff {answer : List Char → Nat → Step} :
    Recognizes input position (.custom answer) step ↔ step = answer input position := by
  constructor
  · intro h
    cases h
    rfl
  · rintro rfl
    exact .custom

end

/-! ## Shapes -/

section
variable {position : Nat} {body : Grammar} {o o' : Outcome Value}

theorem Reshapes.body?_eq {g : Grammar} (h : Reshapes position g body o o') :
    g.body? = some body := by
  cases h <;> rfl

theorem reshapes_optional_iff :
    Reshapes position (.optional body) body o o' ↔ o' = Parser.optionalOutcome position o := by
  constructor
  · intro h
    cases h with
    | optional_match => rfl
    | optional_none ho => cases o <;> first | rfl | cases ho
  · rintro rfl
    cases o with
    | success v next => exact .optional_match
    | failure next => exact .optional_none rfl
    | rejected v next => exact .optional_none rfl

theorem reshapes_transform_iff {f : Value → Value} :
    Reshapes position (.transform f body) body o o' ↔ o' = Parser.transformOutcome f o := by
  constructor
  · intro h
    cases h with
    | transform_match => rfl
    | transform_fails ho => cases o <;> first | rfl | cases ho
  · rintro rfl
    cases o with
    | success v next => exact .transform_match
    | failure next => exact .transform_fails rfl
    | rejected v next => exact .transform_fails rfl

theorem reshapes_tryTransform_iff {f : Value → Option Value} :
    Reshapes position (.tryTransform f body) body o o' ↔
      o' = Parser.tryTransformOutcome f position o := by
  constructor
  · intro h
    cases h with
    | tryTransform_match hv => simp only [Parser.tryTransformOutcome, hv]
    | tryTransform_none hv => simp only [Parser.tryTransformOutcome, hv]
    | tryTransform_fails ho => cases o <;> first | rfl | cases ho
  · rintro rfl
    cases o with
    | success v next =>
      unfold Parser.tryTransformOutcome
      dsimp only
      split
      · exact .tryTransform_match ‹_›
      · exact .tryTransform_none ‹_›
    | failure next => exact .tryTransform_fails rfl
    | rejected v next => exact .tryTransform_fails rfl

theorem reshapes_tag_iff {accepts : Value → Bool} :
    Reshapes position (.tag accepts body) body o o' ↔ o' = Parser.tagOutcome accepts o := by
  constructor
  · intro h
    cases h with
    | tag_accepts hv => simp [Parser.tagOutcome, hv]
    | tag_rejects hv => simp [Parser.tagOutcome, hv]
    | tag_fails ho => cases o <;> first | rfl | cases ho
  · rintro rfl
    cases o with
    | success v next =>
      cases hv : accepts v with
      | true => simpa [Parser.tagOutcome, hv] using Reshapes.tag_accepts hv
      | false => simpa [Parser.tagOutcome, hv] using Reshapes.tag_rejects hv
    | failure next => exact .tag_fails rfl
    | rejected v next => exact .tag_fails rfl

theorem reshapes_guarded_iff {accepts : Value → Bool} :
    Reshapes position (.guarded accepts body) body o o' ↔
      o' = Parser.guardOutcome accepts position o := by
  constructor
  · intro h
    cases h with
    | guarded_accepts hv => simp [Parser.guardOutcome, hv]
    | guarded_rejects hv => simp [Parser.guardOutcome, hv]
    | guarded_fails ho => cases o <;> first | rfl | cases ho
  · rintro rfl
    cases o with
    | success v next =>
      cases hv : accepts v with
      | true => simpa [Parser.guardOutcome, hv] using Reshapes.guarded_accepts hv
      | false => simpa [Parser.guardOutcome, hv] using Reshapes.guarded_rejects hv
    | failure next => exact .guarded_fails rfl
    | rejected v next => exact .guarded_fails rfl

end

end Descent
