import Descent.Tracker

/-!
# Shared trackers

A tracker is cloned wherever it is needed, and all clones share one record. Each clone is a holder
with a number of its own; what is recorded or forgotten through one holder is so for all the others.
-/

namespace Descent

/-- The records there are, and for each holder the number of its record. -/
structure Trackers where
  trackers : List Tracker
  holders : List Nat
deriving DecidableEq, Repr, Inhabited

/-- What is done with trackers. Holders are numbered in the order in which they come. -/
inductive Deed
  /-- A new tracker. -/
  | create
  | clone (holder : Nat)
  | record (holder position : Nat) (label : String)
  | reset (holder : Nat)
deriving DecidableEq, Repr

namespace Trackers

/-- No trackers. -/
def empty : Trackers := ⟨[], []⟩

/-- What is read through a holder. -/
def farthest? (all : Trackers) (holder : Nat) : Option (Option Farthest) :=
  (all.holders[holder]?.bind fun i => all.trackers[i]?).map Tracker.farthest?

/-- Changes the record of a holder. -/
def update (all : Trackers) (holder : Nat) (change : Tracker → Tracker) : Option Trackers :=
  all.holders[holder]?.map fun i => { all with trackers := all.trackers.modify i change }

/-- Does one thing; `none` for a holder that is not there. -/
def perform (all : Trackers) : Deed → Option Trackers
  | .create => some ⟨all.trackers ++ [Tracker.empty], all.holders ++ [all.trackers.length]⟩
  | .clone holder =>
    all.holders[holder]?.map fun i => { all with holders := all.holders ++ [i] }
  | .record holder position label => all.update holder (Tracker.record position label)
  | .reset holder => all.update holder fun _ => Tracker.empty

/-- Does one thing after another. -/
def performAll (all : Trackers) (deeds : List Deed) : Option Trackers :=
  deeds.foldlM perform all

theorem performAll_cons (all : Trackers) (deed : Deed) (deeds : List Deed) :
    all.performAll (deed :: deeds) = (all.perform deed).bind fun all => all.performAll deeds :=
  rfl

theorem performAll_append (all : Trackers) (deeds deeds' : List Deed) :
    all.performAll (deeds ++ deeds') =
      (all.performAll deeds).bind fun all => all.performAll deeds' := by
  unfold performAll
  rw [List.foldlM_append]
  rfl

theorem performAll_singleton (all : Trackers) (deed : Deed) :
    all.performAll [deed] = all.perform deed := by
  unfold performAll
  simp

end Trackers

end Descent
