import Mathlib.Data.Finset.Card
import Descent.Proofs.Pattern.Preference

/-!
# Backtracking

`Program.ends` is the depth-first search through the runs of a program: it follows the preferred
way of a split to its end before the other one, and lists the places where runs accept in that
order. A run that returns to a state at the same place is given up, and nothing else is: the states
that other runs have been in do not matter. `Program.Run` is one such run with the choices that it
makes, and the first place of the list is where the run with the best choices ends
(`Program.exists_best_of_head?_ends`).
-/

namespace Descent.Pattern.Program

/-! ## The search -/

/-- The number of states outside `seen`. -/
def unseen (program : Program) (seen : List Nat) : Nat :=
  (Finset.range program.code.size \ seen.toFinset).card

theorem lt_size_of_at? {program : Program} {state : Nat} {i : Instruction}
    (h : program.at? state = some i) : state < program.code.size :=
  (Array.getElem?_eq_some_iff.1 h).1

theorem unseen_cons_lt {program : Program} {seen : List Nat} {state : Nat} {i : Instruction}
    (hs : state ∉ seen) (hi : program.at? state = some i) :
    program.unseen (state :: seen) < program.unseen seen := by
  rw [unseen, List.toFinset_cons, Finset.sdiff_insert]
  exact Finset.card_erase_lt_of_mem (by simpa [hs] using lt_size_of_at? hi)

/-- Where the runs from `state` at `place` accept, most preferred first. The run that has come here
has been in the states `seen` at this place. -/
def ends (program : Program) (seen : List Nat) (state : Nat) (place : Place) : List Place :=
  if _ : state ∈ seen then []
  else
    match _ : program.at? state with
    | none => []
    | some .accept => [place]
    | some (.jump next) => program.ends (state :: seen) next place
    | some (.look l next) =>
      if place.passes l then program.ends (state :: seen) next place else []
    | some (.split preferred other) =>
      program.ends (state :: seen) preferred place ++ program.ends (state :: seen) other place
    | some (.chars set next) =>
      match _ : place.after? set with
      | some after => program.ends [] next after
      | none => []
termination_by (place.ahead.length, program.unseen seen)
decreasing_by
  all_goals first
    | exact .left _ _ (Place.length_ahead_of_after? ‹_›)
    | exact .right _ (unseen_cons_lt ‹_› ‹_›)

/-! ## One step of the search -/

/-- The states that a run may go on to at the same place, most preferred first. -/
def branches (program : Program) (place : Place) (state : Nat) : List Nat :=
  match program.at? state with
  | some (.jump next) => [next]
  | some (.look l next) => if place.passes l then [next] else []
  | some (.split preferred other) => [preferred, other]
  | _ => []

/-- Where the runs accept that accept or consume a character at `state`. -/
def endsOfWaiting (program : Program) (place : Place) (state : Nat) : List Place :=
  match program.at? state with
  | some .accept => [place]
  | some (.chars set next) => (place.after? set).toList.flatMap (program.ends [] next)
  | _ => []

section

variable {program : Program} {seen seen' : List Nat} {state state' : Nat} {place stop : Place}

theorem ends_of_mem (hs : state ∈ seen) : program.ends seen state place = [] := by
  rw [ends, dif_pos hs]

theorem ends_of_not_mem (hs : state ∉ seen) :
    program.ends seen state place = program.endsOfWaiting place state ++
      (program.branches place state).flatMap fun next =>
        program.ends (state :: seen) next place := by
  rw [ends, dif_neg hs]
  split <;> rename_i hi
  · simp [endsOfWaiting, branches, hi]
  · simp [endsOfWaiting, branches, hi]
  · simp [endsOfWaiting, branches, hi]
  · simp only [endsOfWaiting, branches, hi, List.nil_append]
    split <;> simp
  · simp [endsOfWaiting, branches, hi]
  · simp only [endsOfWaiting, branches, hi, List.flatMap_nil, List.append_nil]
    split <;> simp_all

theorem mem_ends_iff :
    stop ∈ program.ends seen state place ↔ state ∉ seen ∧
      (stop ∈ program.endsOfWaiting place state ∨ ∃ next ∈ program.branches place state,
        stop ∈ program.ends (state :: seen) next place) := by
  by_cases hs : state ∈ seen
  · simp [ends_of_mem hs, hs]
  · simp [ends_of_not_mem hs, hs]

theorem unseen_lt_of_mem_branches (hs : state ∉ seen) (h : state' ∈ program.branches place state) :
    program.unseen (state :: seen) < program.unseen seen := by
  cases hi : program.at? state with
  | none => simp [branches, hi] at h
  | some i => exact unseen_cons_lt hs hi

/-! ## States that have been seen -/

/-- The fewer states a run has been in, the more ways it has left. -/
theorem mem_ends_of_subset (h : stop ∈ program.ends seen state place)
    (hsub : ∀ s ∈ seen', s ∈ seen) : stop ∈ program.ends seen' state place := by
  induction hn : program.unseen seen using Nat.strong_induction_on
    generalizing seen seen' state with
  | _ n ih =>
    subst hn
    obtain ⟨hs, hw | ⟨next, hb, h⟩⟩ := mem_ends_iff.1 h
    · exact mem_ends_iff.2 ⟨fun hm => hs (hsub _ hm), .inl hw⟩
    · refine mem_ends_iff.2 ⟨fun hm => hs (hsub _ hm), .inr ⟨next, hb, ?_⟩⟩
      refine ih _ (unseen_lt_of_mem_branches hs hb) h (fun s hm => ?_) rfl
      exact (List.mem_cons.1 hm).elim (by simp +contextual) fun hm => by simp [hsub s hm]

/-- A run through a state need not be looked for elsewhere: it goes on from there as well. -/
theorem mem_ends_cons_or (h : stop ∈ program.ends seen state place) (s : Nat) :
    stop ∈ program.ends (s :: seen) state place ∨ stop ∈ program.ends seen s place := by
  induction hn : program.unseen seen using Nat.strong_induction_on generalizing seen state with
  | _ n ih =>
    subst hn
    by_cases heq : state = s
    · exact .inr (heq ▸ h)
    obtain ⟨hs, hw | ⟨next, hb, h⟩⟩ := mem_ends_iff.1 h
    · exact .inl (mem_ends_iff.2 ⟨by simp [heq, hs], .inl hw⟩)
    · rcases ih _ (unseen_lt_of_mem_branches hs hb) h rfl with h | h
      · refine .inl (mem_ends_iff.2 ⟨by simp [heq, hs], .inr ⟨next, hb, ?_⟩⟩)
        exact mem_ends_of_subset h (by simp +contextual [or_left_comm])
      · exact .inr (mem_ends_of_subset h (by simp +contextual))

theorem ends_cons_eq_nil (h : program.ends seen state place = []) (s : Nat) :
    program.ends (s :: seen) state place = [] :=
  List.eq_nil_iff_forall_not_mem.2 fun stop hm => by
    simpa [h] using mem_ends_of_subset hm fun s hs => List.mem_cons_of_mem _ hs

end

/-! ## Runs and their choices -/

/-- A run from `state` at `place` that accepts at `stop`, after the states `seen` at the same place.
At each split on its way, `choices` tells whether it takes the other way and not the preferred
one. -/
inductive Run (program : Program) (stop : Place) : List Nat → Nat → Place → List Bool → Prop
  | accept {seen : List Nat} {state : Nat} : state ∉ seen → program.at? state = some .accept →
      Run program stop seen state stop []
  | jump {seen : List Nat} {state next : Nat} {place : Place} {choices : List Bool} :
      state ∉ seen → program.at? state = some (.jump next) →
      Run program stop (state :: seen) next place choices →
      Run program stop seen state place choices
  | look {seen : List Nat} {state next : Nat} {place : Place} {l : Look} {choices : List Bool} :
      state ∉ seen → program.at? state = some (.look l next) → place.passes l = true →
      Run program stop (state :: seen) next place choices →
      Run program stop seen state place choices
  | preferred {seen : List Nat} {state preferred other : Nat} {place : Place}
      {choices : List Bool} : state ∉ seen → program.at? state = some (.split preferred other) →
      Run program stop (state :: seen) preferred place choices →
      Run program stop seen state place (false :: choices)
  | other {seen : List Nat} {state preferred other : Nat} {place : Place} {choices : List Bool} :
      state ∉ seen → program.at? state = some (.split preferred other) →
      Run program stop (state :: seen) other place choices →
      Run program stop seen state place (true :: choices)
  | chars {seen : List Nat} {state next : Nat} {place after : Place} {set : CharSet}
      {choices : List Bool} : state ∉ seen → program.at? state = some (.chars set next) →
      place.after? set = some after → Run program stop [] next after choices →
      Run program stop seen state place choices

/-- A run without equal: at the first split where another one goes another way, it takes the
preferred one. -/
def Best (program : Program) (stop : Place) (seen : List Nat) (state : Nat) (place : Place)
    (choices : List Bool) : Prop :=
  Run program stop seen state place choices ∧
    ∀ stop' choices', Run program stop' seen state place choices' → NoWorse choices choices'

section

variable {program : Program} {seen : List Nat} {state : Nat} {place stop : Place}
  {choices : List Bool}

/-- The search finds every run. -/
theorem Run.mem_ends (h : Run program stop seen state place choices) :
    stop ∈ program.ends seen state place := by
  induction h with
  | accept hs hi => simp [ends_of_not_mem hs, endsOfWaiting, hi]
  | jump hs hi _ ih => simp [ends_of_not_mem hs, branches, hi, ih]
  | look hs hi hp _ ih => simp [ends_of_not_mem hs, branches, hi, hp, ih]
  | preferred hs hi _ ih => simp [ends_of_not_mem hs, branches, hi, ih]
  | other hs hi _ ih => simp [ends_of_not_mem hs, branches, hi, ih]
  | chars hs hi ha _ ih => simp [ends_of_not_mem hs, endsOfWaiting, hi, ha, ih]

theorem run_split_iff {preferred other : Nat} (hs : state ∉ seen)
    (hi : program.at? state = some (.split preferred other)) :
    Run program stop seen state place choices ↔
      (∃ more, choices = false :: more ∧ Run program stop (state :: seen) preferred place more) ∨
        ∃ more, choices = true :: more ∧ Run program stop (state :: seen) other place more := by
  constructor
  · intro h
    cases h <;> simp_all
  · rintro (⟨more, rfl, h⟩ | ⟨more, rfl, h⟩)
    · exact .preferred hs hi h
    · exact .other hs hi h

/-- The best run of the preferred way is the best of all. -/
theorem Best.preferred {preferred other : Nat} (hs : state ∉ seen)
    (hi : program.at? state = some (.split preferred other))
    (h : program.Best stop (state :: seen) preferred place choices) :
    program.Best stop seen state place (false :: choices) := by
  refine ⟨.preferred hs hi h.1, fun stop' choices' hr => ?_⟩
  obtain ⟨more, rfl, h'⟩ | ⟨more, rfl, -⟩ := (run_split_iff hs hi).1 hr
  · exact .same false (h.2 _ _ h')
  · exact .differ _ _

/-- The best run of the other way is the best of all where the preferred way has no run. -/
theorem Best.other {preferred other : Nat} (hs : state ∉ seen)
    (hi : program.at? state = some (.split preferred other))
    (hpref : program.ends (state :: seen) preferred place = [])
    (h : program.Best stop (state :: seen) other place choices) :
    program.Best stop seen state place (true :: choices) := by
  refine ⟨.other hs hi h.1, fun stop' choices' hr => ?_⟩
  obtain ⟨more, rfl, h'⟩ | ⟨more, rfl, h'⟩ := (run_split_iff hs hi).1 hr
  · simpa [hpref] using h'.mem_ends
  · exact .same true (h.2 _ _ h')

end

end Descent.Pattern.Program
