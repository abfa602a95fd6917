import Descent.Proofs.Meaning.Adequacy
import Mathlib.Data.List.Induction

/-!
# The farthest of many failures

What a tracker knows after failures have been recorded is a function of the failures
(`Tracker.farthest?_recordAll`): the greatest of their positions, and the labels of those that are
there, each once and in the order in which they first come. `Farthest.IsOf` says this without
computing it, and does not depend on the order of the failures but for that of the labels
(`Failure.farthest?_perm`).
-/

namespace Descent

namespace Failure

/-- The labels of the failures at a position. -/
def labelsAt (position : Nat) (failures : List Failure) : List String :=
  ((failures.filter fun failure => failure.position = position).map label).eraseDups

/-- The farthest of the failures. -/
def farthest? (failures : List Failure) : Option Farthest :=
  (failures.map position).max?.map fun position => ⟨position, labelsAt position failures⟩

section
variable {failures : List Failure} {n : Nat} {labels : List String}

theorem farthest?_eq_none_iff : farthest? failures = none ↔ failures = [] := by
  simp [farthest?]

/-- The farthest failure is at a position of one of the failures, and none is farther. -/
theorem farthest?_eq_some_iff : farthest? failures = some ⟨n, labels⟩ ↔
    (∃ failure ∈ failures, failure.position = n) ∧ (∀ failure ∈ failures, failure.position ≤ n) ∧
      labels = labelsAt n failures := by
  simp only [farthest?, Option.map_eq_some_iff, List.max?_eq_some_iff, List.mem_map,
    forall_exists_index, and_imp, forall_apply_eq_imp_iff₂, Farthest.mk.injEq]
  constructor
  · rintro ⟨_, ⟨hex, hle⟩, rfl, rfl⟩
    exact ⟨hex, hle, rfl⟩
  · rintro ⟨hex, hle, rfl⟩
    exact ⟨n, ⟨hex, hle⟩, rfl, rfl⟩

theorem labelsAt_append_of_ne {failure : Failure} (h : failure.position ≠ n) :
    labelsAt n (failures ++ [failure]) = labelsAt n failures := by
  simp [labelsAt, List.filter_append, h]

theorem eraseDups_removeAll_singleton (label : String) (labels : List String) :
    ([label].removeAll labels).eraseDups = if labels.contains label then [] else [label] := by
  have h : [label].removeAll labels = if labels.contains label then [] else [label] := by
    rw [List.removeAll, List.filter_cons, List.filter_nil, List.elem_eq_contains]
    cases labels.contains label <;> rfl
  rw [h]
  split <;> simp [List.eraseDups_cons]

/-- One more label at the position is new, or there already. -/
theorem labelsAt_append_self (failures : List Failure) (failure : Failure) :
    labelsAt failure.position (failures ++ [failure]) =
      labelsAt failure.position failures ++
        if (labelsAt failure.position failures).contains failure.label then []
        else [failure.label] := by
  have hcontains : (labelsAt failure.position failures).contains failure.label =
      ((failures.filter fun f => f.position = failure.position).map label).contains
        failure.label := by
    rw [Bool.eq_iff_iff, List.contains_iff_mem, List.contains_iff_mem, labelsAt,
      List.mem_eraseDups]
  have hlast : ([failure].filter fun f => f.position = failure.position) = [failure] := by simp
  rw [hcontains, ← eraseDups_removeAll_singleton, labelsAt, List.filter_append, List.map_append,
    List.eraseDups_append, hlast]
  rfl

theorem labelsAt_of_forall_lt (h : ∀ failure ∈ failures, failure.position < n) :
    labelsAt n failures = [] := by
  have : (failures.filter fun failure => failure.position = n) = [] :=
    List.filter_eq_nil_iff.2 fun failure hf => by simpa using Nat.ne_of_lt (h failure hf)
  rw [labelsAt, this]
  rfl

end

end Failure

/-! ## What is told of failures -/

/-- The greatest position at which there are failures, and the labels there, each once and in the
order of the first failures with them. -/
structure Farthest.IsOf (failures : List Failure) (far : Farthest) : Prop where
  attained : ∃ failure ∈ failures, failure.position = far.position
  greatest : ∀ failure ∈ failures, failure.position ≤ far.position
  labels : ∀ label, label ∈ far.expected ↔ ⟨far.position, label⟩ ∈ failures
  nodup : far.expected.Nodup
  order : far.expected.Pairwise fun label later => ∃ front rest, failures = front ++ rest ∧
    ⟨far.position, label⟩ ∈ front ∧ ⟨far.position, later⟩ ∉ front

namespace Failure

section
variable {failures failures' : List Failure} {n : Nat} {label : String} {far far' : Farthest}

theorem mem_labelsAt : label ∈ labelsAt n failures ↔ ⟨n, label⟩ ∈ failures := by
  simp only [labelsAt, List.mem_eraseDups, List.mem_map, List.mem_filter, decide_eq_true_eq]
  constructor
  · rintro ⟨⟨m, l⟩, ⟨hmem, rfl⟩, rfl⟩
    exact hmem
  · intro hmem
    exact ⟨⟨n, label⟩, ⟨hmem, rfl⟩, rfl⟩

/-- A label comes before another one if there is a failure with it before all with the other. -/
theorem pairwise_labelsAt (n : Nat) (failures : List Failure) :
    (labelsAt n failures).Pairwise fun label later => ∃ front rest, failures = front ++ rest ∧
      ⟨n, label⟩ ∈ front ∧ ⟨n, later⟩ ∉ front := by
  induction failures using List.reverseRecOn with
  | nil => exact List.Pairwise.nil
  | append_singleton failures failure ih =>
    have hold : (labelsAt n failures).Pairwise fun label later => ∃ front rest,
        failures ++ [failure] = front ++ rest ∧ ⟨n, label⟩ ∈ front ∧ ⟨n, later⟩ ∉ front :=
      ih.imp fun ⟨front, rest, hf, hin, hout⟩ =>
        ⟨front, rest ++ [failure], by rw [hf, List.append_assoc], hin, hout⟩
    by_cases hn : failure.position = n
    · subst hn
      rw [labelsAt_append_self]
      split <;> rename_i hc
      · rwa [List.append_nil]
      · refine List.pairwise_append.2 ⟨hold, List.pairwise_singleton _ _, ?_⟩
        intro label hlabel later hlater
        rw [List.mem_singleton.1 hlater]
        refine ⟨failures, [failure], rfl, mem_labelsAt.1 hlabel, fun hmem => hc ?_⟩
        exact List.contains_iff_mem.2 (mem_labelsAt.2 hmem)
    · rwa [labelsAt_append_of_ne hn]

/-- The farthest failure is what `Farthest.IsOf` says. -/
theorem isOf_of_farthest? (h : farthest? failures = some far) : far.IsOf failures := by
  obtain ⟨n, labels⟩ := far
  obtain ⟨hex, hle, rfl⟩ := farthest?_eq_some_iff.1 h
  have horder := pairwise_labelsAt n failures
  exact
    { attained := hex
      greatest := hle
      labels := fun _ => mem_labelsAt
      nodup := horder.imp fun ⟨_, _, _, hin, hout⟩ heq => hout (heq ▸ hin)
      order := horder }

end

end Failure

/-- The order of the failures matters for the order of the labels only. -/
theorem Farthest.IsOf.of_perm {failures failures' : List Failure} {far far' : Farthest}
    (h : far.IsOf failures) (h' : far'.IsOf failures') (hp : failures.Perm failures') :
    far.position = far'.position ∧ ∀ label, label ∈ far.expected ↔ label ∈ far'.expected := by
  have hposition : far.position = far'.position := by
    obtain ⟨failure, hmem, heq⟩ := h.attained
    obtain ⟨failure', hmem', heq'⟩ := h'.attained
    have hle := h'.greatest failure (hp.mem_iff.1 hmem)
    have hle' := h.greatest failure' (hp.mem_iff.2 hmem')
    omega
  refine ⟨hposition, fun label => ?_⟩
  rw [h.labels, h'.labels, hposition]
  exact hp.mem_iff

/-- Failures in another order: the same position and the same labels. -/
theorem Failure.farthest?_perm {failures failures' : List Failure}
    (hp : failures.Perm failures') :
    (farthest? failures).map Farthest.position = (farthest? failures').map Farthest.position ∧
      ∀ label, (∃ far ∈ farthest? failures, label ∈ far.expected) ↔
        ∃ far ∈ farthest? failures', label ∈ far.expected := by
  cases h : farthest? failures with
  | none =>
    obtain rfl := farthest?_eq_none_iff.1 h
    obtain rfl := hp.nil_eq
    simp [h]
  | some far =>
    cases h' : farthest? failures' with
    | none =>
      obtain rfl := farthest?_eq_none_iff.1 h'
      obtain rfl := hp.eq_nil
      simp [farthest?] at h
    | some far' =>
      obtain ⟨hposition, hlabels⟩ :=
        (isOf_of_farthest? h).of_perm (isOf_of_farthest? h') hp
      simpa [hposition] using hlabels

/-! ## Recording -/

namespace Tracker

variable {failures : List Failure}

/-- One more failure. -/
theorem farthest?_record {tracker : Tracker} (h : tracker.farthest? = Failure.farthest? failures)
    (failure : Failure) :
    (tracker.record failure.position failure.label).farthest? =
      Failure.farthest? (failures ++ [failure]) := by
  obtain ⟨n, l⟩ := failure
  symm
  unfold record
  cases hf : Failure.farthest? failures with
  | none =>
    obtain rfl := Failure.farthest?_eq_none_iff.1 hf
    rw [h, hf]
    simp [Failure.farthest?, Failure.labelsAt, List.eraseDups_cons]
  | some current =>
    obtain ⟨m, labels⟩ := current
    obtain ⟨⟨f, hfm, rfl⟩, hle, rfl⟩ := Failure.farthest?_eq_some_iff.1 hf
    have hmem : f ∈ failures ++ [⟨n, l⟩] := List.mem_append_left _ hfm
    have hall : ∀ k, n ≤ k → (∀ g ∈ failures, g.position ≤ k) →
        ∀ g ∈ failures ++ [⟨n, l⟩], g.position ≤ k := by
      intro k hn hk g hg
      rcases List.mem_append.1 hg with hg | hg
      · exact hk g hg
      · rwa [List.mem_singleton.1 hg]
    rw [h, hf]
    dsimp only
    split
    · -- behind the farthest: nothing changes
      rename_i hlt
      rw [h, hf]
      exact Failure.farthest?_eq_some_iff.2 ⟨⟨f, hmem, rfl⟩, hall _ (Nat.le_of_lt hlt) hle,
        (Failure.labelsAt_append_of_ne (Nat.ne_of_lt hlt)).symm⟩
    · split
      · -- at the farthest: the label is added, if it is not there yet
        obtain rfl : n = f.position := ‹_›
        have hlabels := Failure.labelsAt_append_self failures ⟨f.position, l⟩
        dsimp only at hlabels
        split <;> rename_i hc
        · rw [if_pos hc, List.append_nil] at hlabels
          rw [h, hf]
          exact Failure.farthest?_eq_some_iff.2
            ⟨⟨f, hmem, rfl⟩, hall _ (Nat.le_refl _) hle, hlabels.symm⟩
        · rw [if_neg hc] at hlabels
          exact Failure.farthest?_eq_some_iff.2
            ⟨⟨f, hmem, rfl⟩, hall _ (Nat.le_refl _) hle, hlabels.symm⟩
      · -- ahead of the farthest: it is the only one there
        rename_i hlt hne
        have hgt : ∀ g ∈ failures, g.position < n := fun g hg =>
          Nat.lt_of_le_of_lt (hle g hg) (by omega)
        have hlabels := Failure.labelsAt_append_self failures ⟨n, l⟩
        rw [Failure.labelsAt_of_forall_lt hgt] at hlabels
        have hfar := hall n (Nat.le_refl _) fun g hg => Nat.le_of_lt (hgt g hg)
        exact Failure.farthest?_eq_some_iff.2 ⟨⟨⟨n, l⟩, by simp, rfl⟩, hfar, hlabels.symm⟩

/-- A tracker knows the farthest of the failures that have been recorded. -/
theorem farthest?_recordAll (failures : List Failure) :
    (empty.recordAll failures).farthest? = Failure.farthest? failures := by
  induction failures using List.reverseRecOn with
  | nil => rfl
  | append_singleton failures failure ih =>
    rw [recordAll_append, recordAll_singleton]
    exact farthest?_record ih failure

end Tracker

end Descent
