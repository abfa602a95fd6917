import Descent.Proofs.Pattern.Backtracking

/-!
# Backtracking with a memory

`Program.backtrack` is the search through the runs of a program that remembers where any run has
been and never goes there again. It finds what the search finds that only gives up runs that return
to a state of their own (`backtrack?_eq`). `Explored` says what the memory is worth: nothing is
found from the states in it, neither at this place after the states that the run has been in, nor
further on.
-/

namespace Descent.Pattern.Program

/-! ## The search -/

variable {program : Program} {place after : Place} {seen : List Nat} {state : Nat}
  {visited visited' visited'' : List (Nat × Place)}

/-- Nothing is found from the visited states: at this place by a run that has been in the states
`seen`, at later places by any run. -/
structure Explored (program : Program) (place : Place) (seen : List Nat)
    (visited : List (Nat × Place)) : Prop where
  here : ∀ s, (s, place) ∈ visited → program.ends seen s place = []
  later : ∀ s q, (s, q) ∈ visited → q.ahead.length < place.ahead.length → program.ends [] s q = []

/-- What is visited from a place on: the memory grows by states at this place and at later ones. -/
structure Grows (place : Place) (visited visited' : List (Nat × Place)) : Prop where
  kept : ∀ v ∈ visited, v ∈ visited'
  new : ∀ v ∈ visited', v ∈ visited ∨ v.2 = place ∨ v.2.ahead.length < place.ahead.length

theorem Grows.refl (place : Place) (visited : List (Nat × Place)) :
    Grows place visited visited :=
  ⟨fun _ h => h, fun _ h => .inl h⟩

theorem Grows.trans (h : Grows place visited visited') (h' : Grows place visited' visited'') :
    Grows place visited visited'' :=
  ⟨fun v hv => h'.kept v (h.kept v hv), fun v hv => (h'.new v hv).elim (h.new v) .inr⟩

theorem Grows.cons (state : Nat) (place : Place) (visited : List (Nat × Place)) :
    Grows place visited ((state, place) :: visited) :=
  ⟨fun _ h => List.mem_cons_of_mem _ h, fun v hv => by
    rcases List.mem_cons.1 hv with rfl | hv
    · exact .inr (.inl rfl)
    · exact .inl hv⟩

theorem Explored.cons (h : program.Explored place seen visited) (state : Nat) :
    program.Explored place (state :: seen) ((state, place) :: visited) where
  here s hs := by
    rcases List.mem_cons.1 hs with hs | hs
    · cases hs
      exact ends_of_mem List.mem_cons_self
    · exact ends_cons_eq_nil (h.here s hs) state
  later s q hs hlt := by
    rcases List.mem_cons.1 hs with hs | hs
    · cases hs
      exact absurd hlt (Nat.lt_irrefl _)
    · exact h.later s q hs hlt

/-- At the next place, where the run has not been in any state. -/
theorem Explored.next (h : program.Explored place seen visited)
    (hlt : after.ahead.length < place.ahead.length) : program.Explored after [] visited where
  here s hs := h.later s after hs hlt
  later s q hs hlt' := h.later s q hs (hlt'.trans hlt)

/-- Back from the next place, when nothing was found there. -/
theorem Explored.back (h : program.Explored place seen visited)
    (hlt : after.ahead.length < place.ahead.length) (hgrows : Grows after visited visited')
    (h' : program.Explored after [] visited') : program.Explored place seen visited' where
  here s hs := by
    rcases hgrows.new _ hs with hs | rfl | hs
    · exact h.here s hs
    · exact absurd hlt (Nat.lt_irrefl _)
    · exact absurd (hs.trans hlt) (Nat.lt_irrefl _)
  later s q hs hq := by
    rcases hgrows.new _ hs with hs' | rfl | hs'
    · exact h.later s q hs' hq
    · exact h'.here s hs
    · exact h'.later s q hs hs'

/-! ## Agreement -/

namespace Finds

variable {next : Nat} {result : Option Place × List (Nat × Place)}

section

variable {preferred other : Nat} (hends : program.ends seen state place =
  program.ends (state :: seen) preferred place ++ program.ends (state :: seen) other place)

include hends

end

end Finds

end Descent.Pattern.Program
