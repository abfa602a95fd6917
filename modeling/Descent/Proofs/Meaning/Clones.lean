import Descent.Proofs.Meaning.Farthest
import Descent.Trackers

/-!
# What is read through the clones of a tracker

`clones deeds holder` tells from what has been done which holders are clones of the same tracker: a
new tracker founds a family, and a clone belongs to the family of what it is cloned from.
`standing mine deeds` lists the failures recorded through some holders since one of them last reset.
Trackers stay `Settled deeds`, so that clones hold one record and no others do, and in
`Tells deeds`: each record knows the farthest of the failures that stand for its holders. One deed
keeps both (`Tells.perform`) and so do all (`tells_of_performAll`). Deeds can be done if they are
`possible`. Trackers that are `Alike` admit the same deeds, so records in a row can be made in any
order.
-/

namespace Descent

namespace Deed

/-- The holder through which it is done. -/
def holder? : Deed → Option Nat
  | .create => none
  | .clone holder | .record holder _ _ | .reset holder => some holder

/-- Whether a holder comes with it. -/
def brings : Deed → Bool
  | .create | .clone _ => true
  | .record _ _ _ | .reset _ => false

/-- Whether all is done through holders that are there, of which there are `known` at first. -/
def possible (known : Nat) : List Deed → Bool
  | [] => true
  | deed :: deeds =>
    deed.holder?.all (· < known) && possible (known + deed.brings.toNat) deeds

/-- The founder of each holder's family after it. -/
def settle (founders : List Nat) : Deed → List Nat
  | .create => founders ++ [founders.length]
  | .clone holder => founders ++ founders[holder]?.toList
  | .record _ _ _ | .reset _ => founders

/-- Whether it records a failure. -/
def IsRecord (deed : Deed) : Prop := ∃ holder position label, deed = .record holder position label

/-- The failure, if one is recorded through one of some holders. -/
def recorded (mine : Nat → Bool) : Deed → Option Failure
  | .record holder position label => if mine holder then some ⟨position, label⟩ else none
  | _ => none

/-- Whether one of some holders resets. -/
def resets (mine : Nat → Bool) : Deed → Bool
  | .reset holder => mine holder
  | _ => false

/-- What stands after it. -/
def outcome (mine : Nat → Bool) (failures : List Failure) (deed : Deed) : List Failure :=
  if deed.resets mine then [] else failures ++ (deed.recorded mine).toList

section
variable {mine mine' : Nat → Bool} {deed : Deed}

theorem recorded_congr (h : ∀ holder ∈ deed.holder?, mine holder = mine' holder) :
    deed.recorded mine = deed.recorded mine' := by
  cases deed <;> simp_all [recorded, holder?]

theorem resets_congr (h : ∀ holder ∈ deed.holder?, mine holder = mine' holder) :
    deed.resets mine = deed.resets mine' := by
  cases deed <;> simp_all [resets, holder?]

/-- What is done through other holders changes nothing. -/
theorem outcome_of_not_mine (h : ∀ holder ∈ deed.holder?, mine holder = false)
    (failures : List Failure) : deed.outcome mine failures = failures := by
  cases deed <;> simp_all [outcome, resets, recorded, holder?]

end

end Deed

/-! ## Clones -/

/-- The founder of each holder's family, in the order in which the holders come. The holder of a new
tracker founds a family, and a clone joins the family of what it is cloned from. -/
def founders (deeds : List Deed) : List Nat := deeds.foldl Deed.settle []

/-- Whether the other holder is a clone of the same tracker. -/
def clones (deeds : List Deed) (holder other : Nat) : Bool :=
  (founders deeds)[other]? == (founders deeds)[holder]?

section
variable {before between between' : List Deed}

theorem founders_concat (deeds : List Deed) (deed : Deed) :
    founders (deeds ++ [deed]) = deed.settle (founders deeds) := by
  unfold founders
  rw [List.foldl_append]
  rfl

theorem foldl_settle_of_records (h : ∀ deed ∈ between, deed.IsRecord) (families : List Nat) :
    between.foldl Deed.settle families = families := by
  induction between with
  | nil => rfl
  | cons deed between ih =>
    obtain ⟨holder, position, label, rfl⟩ := h deed (by simp)
    exact ih fun deed hd => h deed (by simp [hd])

/-- Records bring no holder, so that others may stand in their place. -/
theorem clones_of_records (h : ∀ deed ∈ between, deed.IsRecord)
    (h' : ∀ deed ∈ between', deed.IsRecord) (after : List Deed) :
    clones (before ++ between ++ after) = clones (before ++ between' ++ after) := by
  have hfounders : founders (before ++ between ++ after) =
      founders (before ++ between' ++ after) := by
    unfold founders
    simp only [List.foldl_append, foldl_settle_of_records h, foldl_settle_of_records h']
  unfold clones
  rw [hfounders]

end

/-! ## What stands -/

/-- The failures recorded through some holders since the last reset through one of them. -/
def standing (mine : Nat → Bool) (deeds : List Deed) : List Failure :=
  (deeds.reverse.takeWhile fun deed => !deed.resets mine).reverse.filterMap (Deed.recorded mine)

section
variable {mine mine' : Nat → Bool} {deeds deeds' : List Deed} {deed : Deed}

theorem standing_concat : standing mine (deeds ++ [deed]) =
    deed.outcome mine (standing mine deeds) := by
  unfold standing Deed.outcome
  rw [List.reverse_concat, List.takeWhile_cons]
  cases h : deed.resets mine with
  | true => simp
  | false => cases hr : deed.recorded mine <;> simp [hr]

theorem standing_congr
    (h : ∀ deed ∈ deeds, ∀ holder ∈ deed.holder?, mine holder = mine' holder) :
    standing mine deeds = standing mine' deeds := by
  induction deeds using List.reverseRecOn with
  | nil => rfl
  | append_singleton deeds deed ih =>
    have hlast := h deed (by simp)
    rw [standing_concat, standing_concat, ih fun deed hd => h deed (by simp [hd])]
    unfold Deed.outcome
    rw [Deed.recorded_congr hlast, Deed.resets_congr hlast]

theorem standing_eq_nil
    (h : ∀ deed ∈ deeds, ∀ holder ∈ deed.holder?, mine holder = false) :
    standing mine deeds = [] := by
  induction deeds using List.reverseRecOn with
  | nil => rfl
  | append_singleton deeds deed ih =>
    rw [standing_concat, Deed.outcome_of_not_mine (h deed (by simp)),
      ih fun deed hd => h deed (by simp [hd])]

/-- Records in a row add what they record. -/
theorem standing_append_of_records
    (h : ∀ deed ∈ deeds', deed.IsRecord) :
    standing mine (deeds ++ deeds') =
      standing mine deeds ++ deeds'.filterMap (Deed.recorded mine) := by
  induction deeds' using List.reverseRecOn with
  | nil => simp
  | append_singleton deeds' deed ih =>
    obtain ⟨holder, position, label, rfl⟩ := h deed (by simp)
    rw [← List.append_assoc, standing_concat, ih fun deed hd => h deed (by simp [hd])]
    cases hr : Deed.recorded mine (.record holder position label) <;>
      simp [Deed.outcome, Deed.resets, hr]

theorem standing_perm_append (h : (standing mine deeds).Perm (standing mine deeds'))
    (after : List Deed) :
    (standing mine (deeds ++ after)).Perm (standing mine (deeds' ++ after)) := by
  induction after using List.reverseRecOn with
  | nil => simpa using h
  | append_singleton after deed ih =>
    rw [← List.append_assoc, ← List.append_assoc, standing_concat, standing_concat]
    unfold Deed.outcome
    split
    · exact .refl _
    · exact ih.append_right _

end

/-! ## What can be done -/

namespace Trackers

/-- What is done through a holder that is there can be done. -/
theorem exists_perform {all : Trackers} {deed : Deed}
    (h : ∀ holder ∈ deed.holder?, holder < all.holders.length) :
    ∃ all', all.perform deed = some all' ∧
      all'.holders.length = all.holders.length + deed.brings.toNat := by
  have hholder : ∀ {holder}, deed.holder? = some holder →
      ∃ i, all.holders[holder]? = some i := fun hd =>
    ⟨_, List.getElem?_eq_getElem (h _ hd)⟩
  cases deed with
  | create => exact ⟨_, rfl, by simp [Deed.brings]⟩
  | clone holder =>
    obtain ⟨i, hi⟩ := hholder rfl
    exact ⟨_, Option.map_eq_some_iff.2 ⟨i, hi, rfl⟩, by simp [Deed.brings]⟩
  | record holder position label | reset holder =>
    obtain ⟨i, hi⟩ := hholder rfl
    exact ⟨_, Option.map_eq_some_iff.2 ⟨i, hi, rfl⟩, by simp [Deed.brings]⟩

theorem exists_performAll_of_possible (all : Trackers) {deeds : List Deed}
    (h : Deed.possible all.holders.length deeds = true) :
    ∃ all', all.performAll deeds = some all' ∧
      all'.holders.length = all.holders.length + deeds.countP Deed.brings := by
  induction deeds generalizing all with
  | nil => exact ⟨all, rfl, rfl⟩
  | cons deed deeds ih =>
    rw [Deed.possible, Bool.and_eq_true] at h
    have hholder : ∀ holder ∈ deed.holder?, holder < all.holders.length := by
      intro holder hd
      have hall := h.1
      rw [Option.mem_def.1 hd] at hall
      simpa using hall
    obtain ⟨mid, hmid, hlength⟩ := exists_perform hholder
    obtain ⟨all', hall', hlength'⟩ := ih mid (by rw [hlength]; exact h.2)
    refine ⟨all', by rw [performAll_cons, hmid, Option.bind_some, hall'], ?_⟩
    rw [hlength', hlength, List.countP_cons]
    cases deed.brings <;> simp [Nat.add_comm, Nat.add_left_comm]

/-! ## Who holds what -/

/-- Clones of one tracker hold one record, and no others hold it. -/
structure Settled (deeds : List Deed) (all : Trackers) : Prop where
  known : ∀ i ∈ all.holders, i < all.trackers.length
  length : (founders deeds).length = all.holders.length
  founded : ∀ founder ∈ founders deeds, founder < (founders deeds).length
  same : ∀ a ∈ all.holders.zip (founders deeds), ∀ b ∈ all.holders.zip (founders deeds),
    a.1 = b.1 ↔ a.2 = b.2

/-- One more pair agrees with all if it does with those that are there. -/
theorem same_concat {pairs : List (Nat × Nat)} {last : Nat × Nat}
    (hsame : ∀ a ∈ pairs, ∀ b ∈ pairs, a.1 = b.1 ↔ a.2 = b.2)
    (hlast : ∀ a ∈ pairs, a.1 = last.1 ↔ a.2 = last.2) :
    ∀ a ∈ pairs ++ [last], ∀ b ∈ pairs ++ [last], a.1 = b.1 ↔ a.2 = b.2 := by
  simp only [List.forall_mem_append, List.forall_mem_singleton]
  refine ⟨fun a ha => ⟨hsame a ha, hlast a ha⟩, fun b hb => ?_, trivial⟩
  rw [eq_comm, hlast b hb, eq_comm]

section
variable {deeds : List Deed} {all all' : Trackers} {holder other i n founder : Nat} {deed : Deed}

theorem Settled.zip_concat (h : Settled deeds all) :
    (all.holders ++ [i]).zip (founders deeds ++ [founder]) =
      all.holders.zip (founders deeds) ++ [(i, founder)] :=
  List.zip_append h.length.symm

/-- A new tracker founds a family and has a record of its own. -/
theorem Settled.create (h : Settled deeds all) : Settled (deeds ++ [.create])
    ⟨all.trackers ++ [Tracker.empty], all.holders ++ [all.trackers.length]⟩ := by
  have hfounders : founders (deeds ++ [.create]) = founders deeds ++ [(founders deeds).length] :=
    founders_concat deeds .create
  refine ⟨?_, ?_, ?_, ?_⟩
  · rw [List.length_append, List.forall_mem_append]
    exact ⟨fun i hi => Nat.lt_succ_of_lt (h.known i hi), by simp⟩
  · rw [hfounders, List.length_append, List.length_append, h.length]
    rfl
  · rw [hfounders, List.length_append, List.forall_mem_append]
    exact ⟨fun founder hf => Nat.lt_succ_of_lt (h.founded founder hf), by simp⟩
  · rw [hfounders, h.zip_concat]
    refine same_concat h.same fun a ha => ?_
    -- Neither the new record nor the new founder is there yet.
    obtain ⟨hi, hf⟩ := List.of_mem_zip ha
    have hi := h.known _ hi
    have hf := h.founded _ hf
    exact iff_of_false (Nat.ne_of_lt hi) (Nat.ne_of_lt hf)

theorem Settled.exists_founder (h : Settled deeds all) (hi : all.holders[holder]? = some i) :
    ∃ founder, (founders deeds)[holder]? = some founder ∧
      (i, founder) ∈ all.holders.zip (founders deeds) := by
  obtain ⟨hlt, -⟩ := List.getElem?_eq_some_iff.1 hi
  rw [← h.length] at hlt
  have hfounder := List.getElem?_eq_getElem hlt
  have hzip : (all.holders.zip (founders deeds))[holder]? = some (i, (founders deeds)[holder]) :=
    List.getElem?_zip_eq_some.2 ⟨hi, hfounder⟩
  exact ⟨_, hfounder, List.mem_of_getElem? hzip⟩

/-- A clone joins the family whose record it holds. -/
theorem Settled.clone (h : Settled deeds all) (hi : all.holders[holder]? = some i) :
    Settled (deeds ++ [.clone holder]) { all with holders := all.holders ++ [i] } := by
  obtain ⟨founder, hfounder, hmem⟩ := h.exists_founder hi
  have hfounders : founders (deeds ++ [.clone holder]) = founders deeds ++ [founder] := by
    rw [founders_concat]
    show founders deeds ++ (founders deeds)[holder]?.toList = _
    rw [hfounder, Option.toList_some]
  refine ⟨?_, ?_, ?_, ?_⟩
  · rw [List.forall_mem_append, List.forall_mem_singleton]
    exact ⟨h.known, h.known i (List.mem_of_getElem? hi)⟩
  · rw [hfounders, List.length_append, List.length_append, h.length]
    rfl
  · rw [hfounders, List.length_append, List.forall_mem_append, List.forall_mem_singleton]
    exact ⟨fun f hf => Nat.lt_succ_of_lt (h.founded f hf),
      Nat.lt_succ_of_lt (h.founded founder (List.mem_of_getElem? hfounder))⟩
  · rw [hfounders, h.zip_concat]
    exact same_concat h.same fun a ha => h.same a ha _ hmem

/-- What is done through a holder leaves the holders and their families as they are. -/
theorem Settled.update (h : Settled deeds all) (hdeed : deed.brings = false)
    (change : Tracker → Tracker) :
    Settled (deeds ++ [deed]) { all with trackers := all.trackers.modify i change } := by
  have hfounders : founders (deeds ++ [deed]) = founders deeds := by
    rw [founders_concat]
    cases deed <;> first | rfl | cases hdeed
  constructor
  · intro j hj
    rw [List.length_modify]
    exact h.known j hj
  all_goals rw [hfounders]
  · exact h.length
  · exact h.founded
  · exact h.same

/-! ## What is told -/

/-- Whether a holder holds the record with a number. -/
def has (all : Trackers) (i holder : Nat) : Bool := all.holders[holder]? == some i

/-- The clones of a holder are the holders of its record. -/
theorem Settled.clones_eq_has (h : Settled deeds all) (hi : all.holders[holder]? = some i) :
    clones deeds holder = all.has i := by
  obtain ⟨founder, hfounder, hmem⟩ := h.exists_founder hi
  funext other
  unfold clones has
  rw [hfounder, Bool.eq_iff_iff, beq_iff_eq, beq_iff_eq]
  cases hj : all.holders[other]? with
  | none =>
    have hnone : (founders deeds)[other]? = none := by
      rw [List.getElem?_eq_none_iff, h.length]
      exact List.getElem?_eq_none_iff.1 hj
    simp [hnone]
  | some j =>
    obtain ⟨founder', hfounder', hmem'⟩ := h.exists_founder hj
    rw [hfounder', Option.some.injEq, Option.some.injEq]
    exact (h.same _ hmem' _ hmem).symm

/-- Each record knows the farthest of the failures that stand for its holders (module doc). -/
structure Tells (deeds : List Deed) (all : Trackers) : Prop extends Settled deeds all where
  used : ∀ deed ∈ deeds, ∀ holder ∈ deed.holder?, holder < all.holders.length
  tells : ∀ i tracker, all.trackers[i]? = some tracker →
    tracker.farthest? = Failure.farthest? (standing (all.has i) deeds)

/-- A new holder is none of the old ones. -/
theorem has_append (hlt : other < all.holders.length) (trackers : List Tracker) :
    has ⟨trackers, all.holders ++ [n]⟩ i other = all.has i other := by
  unfold has
  rw [List.getElem?_append_left hlt]

/-- What has been done stands for the same records when a new holder has come. -/
theorem Tells.standing_append (h : Tells deeds all) (trackers : List Tracker) :
    standing (has ⟨trackers, all.holders ++ [n]⟩ i) deeds = standing (all.has i) deeds :=
  standing_congr fun deed hd holder hh => has_append (h.used deed hd holder hh) trackers

theorem Tells.used_concat (h : Tells deeds all)
    (hn : ∀ holder ∈ deed.holder?, holder < n) (hle : all.holders.length ≤ n) :
    ∀ d ∈ deeds ++ [deed], ∀ holder ∈ d.holder?, holder < n := by
  intro d hd holder hh
  rcases List.mem_append.1 hd with hd | hd
  · exact Nat.lt_of_lt_of_le (h.used d hd holder hh) hle
  · rw [List.mem_singleton.1 hd] at hh
    exact hn holder hh

/-- A new record. -/
theorem Tells.create (h : Tells deeds all) : Tells (deeds ++ [.create])
    ⟨all.trackers ++ [Tracker.empty], all.holders ++ [all.trackers.length]⟩ where
  toSettled := h.toSettled.create
  used := h.used_concat (by simp [Deed.holder?]) (by simp)
  tells := by
    intro i tracker hi
    rw [standing_concat, Deed.outcome_of_not_mine (by simp [Deed.holder?]), h.standing_append]
    by_cases hlt : i < all.trackers.length
    · rw [List.getElem?_append_left hlt] at hi
      exact h.tells i tracker hi
    · -- Nothing has been done through the holder of the new record.
      rw [List.getElem?_append_right (Nat.le_of_not_lt hlt), List.getElem?_singleton] at hi
      rw [standing_eq_nil]
      · split at hi
        · obtain rfl := Option.some.inj hi
          rfl
        · cases hi
      · intro deed _ holder _
        have hnone : all.holders[holder]? ≠ some i := fun heq =>
          hlt (h.known i (List.mem_of_getElem? heq))
        unfold has
        simpa using hnone

/-- A new holder of a record that there is. -/
theorem Tells.clone (h : Tells deeds all) (hi : all.holders[holder]? = some i) :
    Tells (deeds ++ [.clone holder]) { all with holders := all.holders ++ [i] } where
  toSettled := h.toSettled.clone hi
  used := by
    obtain ⟨hlt, -⟩ := List.getElem?_eq_some_iff.1 hi
    refine h.used_concat ?_ (by simp)
    rintro _ ⟨⟩
    simp only [List.length_append, List.length_singleton]
    omega
  tells := by
    intro j tracker hj
    have hsame : Deed.outcome (has { all with holders := all.holders ++ [i] } j)
        (standing (has { all with holders := all.holders ++ [i] } j) deeds) (.clone holder) =
        standing (has { all with holders := all.holders ++ [i] } j) deeds := by
      simp [Deed.outcome, Deed.resets, Deed.recorded]
    rw [standing_concat, hsame, h.standing_append]
    exact h.tells j tracker hj

/-- The record of a holder changes as what stands for it does. -/
theorem Tells.update {change : Tracker → Tracker} (h : Tells deeds all)
    (hi : all.holders[holder]? = some i) (hdeed : deed.holder? = some holder)
    (hbrings : deed.brings = false)
    (hchange : ∀ tracker failures, tracker.farthest? = Failure.farthest? failures →
      (change tracker).farthest? = Failure.farthest? (deed.outcome (all.has i) failures)) :
    Tells (deeds ++ [deed]) { all with trackers := all.trackers.modify i change } where
  toSettled := h.toSettled.update hbrings change
  used := by
    obtain ⟨hlt, -⟩ := List.getElem?_eq_some_iff.1 hi
    refine h.used_concat ?_ (Nat.le_refl _)
    rw [hdeed]
    rintro _ ⟨⟩
    exact hlt
  tells := by
    intro j tracker hj
    show tracker.farthest? = Failure.farthest? (standing (all.has j) (deeds ++ [deed]))
    rw [standing_concat]
    rw [List.getElem?_modify] at hj
    by_cases hij : i = j
    · subst hij
      obtain ⟨old, hold, rfl⟩ := Option.map_eq_some_iff.1 hj
      rw [if_pos rfl]
      exact hchange old _ (h.tells i old hold)
    · obtain ⟨old, hold, rfl⟩ := Option.map_eq_some_iff.1 hj
      rw [if_neg hij, Deed.outcome_of_not_mine]
      · exact h.tells j old hold
      · rw [hdeed]
        rintro _ ⟨⟩
        unfold has
        rw [hi]
        simpa using hij

/-- What is done keeps the trackers telling what stands. -/
theorem Tells.perform (h : Tells deeds all) (hp : all.perform deed = some all') :
    Tells (deeds ++ [deed]) all' := by
  cases deed with
  | create =>
    obtain rfl := Option.some.inj hp
    exact h.create
  | clone holder =>
    obtain ⟨i, hi, rfl⟩ := Option.map_eq_some_iff.1 hp
    exact h.clone hi
  | record holder position label =>
    obtain ⟨i, hi, rfl⟩ := Option.map_eq_some_iff.1 hp
    refine h.update hi rfl rfl fun tracker failures ht => ?_
    have hmine : all.has i holder = true := by simp [has, hi]
    simpa [Deed.outcome, Deed.resets, Deed.recorded, hmine] using
      Tracker.farthest?_record ht ⟨position, label⟩
  | reset holder =>
    obtain ⟨i, hi, rfl⟩ := Option.map_eq_some_iff.1 hp
    refine h.update hi rfl rfl fun tracker failures _ => ?_
    have hmine : all.has i holder = true := by simp [has, hi]
    simp [Deed.outcome, Deed.resets, hmine, Failure.farthest?]

theorem tells_of_performAll (h : empty.performAll deeds = some all) : Tells deeds all := by
  induction deeds using List.reverseRecOn generalizing all with
  | nil =>
    obtain rfl := Option.some.inj h
    have hsettled : Settled [] empty := ⟨by simp [empty], rfl, by simp [founders], by simp [empty]⟩
    exact ⟨hsettled, by simp, by simp [empty]⟩
  | append_singleton deeds deed ih =>
    rw [performAll_append, Option.bind_eq_some_iff] at h
    obtain ⟨before, hbefore, hlast⟩ := h
    rw [performAll_singleton] at hlast
    exact (ih hbefore).perform hlast

/-- A holder reads the farthest of the failures that stand for the clones of its tracker. -/
theorem Tells.farthest? (h : Tells deeds all) (holder : Nat) (hlt : holder < all.holders.length) :
    all.farthest? holder = some (Failure.farthest? (standing (clones deeds holder) deeds)) := by
  have hi : all.holders[holder]? = some all.holders[holder] := List.getElem?_eq_getElem hlt
  have hknown := h.known _ (List.getElem_mem hlt)
  have htells := h.tells _ _ (List.getElem?_eq_getElem hknown)
  unfold Trackers.farthest?
  rw [hi, Option.bind_some, List.getElem?_eq_getElem hknown, Option.map_some, htells,
    h.clones_eq_has hi]

end

/-! ## Records in another order -/

section
variable {a b a' : Trackers} {deeds deeds' before between between' after : List Deed} {deed : Deed}

/-- The same holders hold the same records, which may know different failures. -/
structure Alike (a b : Trackers) : Prop where
  holders : a.holders = b.holders
  length : a.trackers.length = b.trackers.length

theorem Alike.refl (a : Trackers) : Alike a a := ⟨rfl, rfl⟩

theorem Alike.trans {c : Trackers} (h : Alike a b) (h' : Alike b c) : Alike a c :=
  ⟨h.holders.trans h'.holders, h.length.trans h'.length⟩

theorem Alike.symm (h : Alike a b) : Alike b a := ⟨h.holders.symm, h.length.symm⟩

/-- Whether something can be done does not depend on what is known. -/
theorem Alike.perform (h : Alike a b) (hp : a.perform deed = some a') :
    ∃ b', b.perform deed = some b' ∧ Alike a' b' := by
  cases deed with
  | create =>
    obtain rfl := Option.some.inj hp
    exact ⟨_, rfl, by simp [h.holders, h.length], by simp [h.length]⟩
  | clone holder =>
    obtain ⟨i, hi, rfl⟩ := Option.map_eq_some_iff.1 hp
    rw [h.holders] at hi
    exact ⟨_, Option.map_eq_some_iff.2 ⟨i, hi, rfl⟩, by simp [h.holders], h.length⟩
  | record holder position label | reset holder =>
    obtain ⟨i, hi, rfl⟩ := Option.map_eq_some_iff.1 hp
    rw [h.holders] at hi
    exact ⟨_, Option.map_eq_some_iff.2 ⟨i, hi, rfl⟩, h.holders, by simp [h.length]⟩

theorem Alike.performAll (h : Alike a b) (hp : a.performAll deeds = some a') :
    ∃ b', b.performAll deeds = some b' ∧ Alike a' b' := by
  induction deeds generalizing a b with
  | nil =>
    obtain rfl := Option.some.inj hp
    exact ⟨b, rfl, h⟩
  | cons deed deeds ih =>
    rw [performAll_cons, Option.bind_eq_some_iff] at hp
    obtain ⟨a₁, h₁, hrest⟩ := hp
    obtain ⟨b₁, hb₁, halike⟩ := h.perform h₁
    obtain ⟨b', hb', halike'⟩ := ih halike hrest
    exact ⟨b', by rw [performAll_cons, hb₁, Option.bind_some, hb'], halike'⟩

/-- Whether it is a record through a holder that is there. -/
def Records (all : Trackers) (deed : Deed) : Prop :=
  ∃ holder < all.holders.length, ∃ position label, deed = .record holder position label

theorem Alike.records (h : Alike a b) (hr : a.Records deed) : b.Records deed := by
  obtain ⟨holder, hlt, rest⟩ := hr
  exact ⟨holder, by rwa [← h.holders], rest⟩

/-- A record can be made through any holder, and leaves the holders as they are. -/
theorem Records.exists_perform (h : a.Records deed) :
    ∃ a', a.perform deed = some a' ∧ Alike a a' := by
  obtain ⟨holder, hlt, position, label, rfl⟩ := h
  exact ⟨_, Option.map_eq_some_iff.2 ⟨_, List.getElem?_eq_getElem hlt, rfl⟩, rfl, by simp⟩

theorem exists_performAll_of_records (h : ∀ deed ∈ deeds, a.Records deed) :
    ∃ a', a.performAll deeds = some a' ∧ Alike a a' := by
  induction deeds generalizing a with
  | nil => exact ⟨a, rfl, .refl a⟩
  | cons deed deeds ih =>
    obtain ⟨a₁, h₁, halike⟩ := (h deed (by simp)).exists_perform
    obtain ⟨a', ha', halike'⟩ := ih fun d hd => halike.records (h d (by simp [hd]))
    exact ⟨a', by rw [performAll_cons, h₁, Option.bind_some, ha'], halike.trans halike'⟩

/-- Records that have been made were made through holders that are there. -/
theorem records_of_performAll
    (h : ∀ deed ∈ deeds, deed.IsRecord) (hp : a.performAll deeds = some a') :
    ∀ deed ∈ deeds, a.Records deed := by
  induction deeds generalizing a with
  | nil => simp
  | cons deed deeds ih =>
    rw [performAll_cons, Option.bind_eq_some_iff] at hp
    obtain ⟨a₁, h₁, hrest⟩ := hp
    obtain ⟨holder, position, label, rfl⟩ := h deed (by simp)
    obtain ⟨i, hi, -⟩ := Option.map_eq_some_iff.1 h₁
    have hfirst : a.Records (.record holder position label) :=
      ⟨holder, (List.getElem?_eq_some_iff.1 hi).1, position, label, rfl⟩
    obtain ⟨_, h₁', halike⟩ := hfirst.exists_perform
    obtain rfl := Option.some.inj (h₁.symm.trans h₁')
    intro d hd
    rcases List.mem_cons.1 hd with rfl | hd
    · exact hfirst
    · exact halike.symm.records (ih (fun d hd => h d (by simp [hd])) hrest d hd)

/-- Records in another order can be made as well, by the same holders. -/
theorem exists_performAll_of_perm (hperm : between.Perm between')
    (hr : ∀ deed ∈ between, deed.IsRecord)
    (hp : a.performAll (before ++ between ++ after) = some a') :
    ∃ b, a.performAll (before ++ between' ++ after) = some b ∧ Alike a' b := by
  simp only [performAll_append, Option.bind_eq_some_iff] at hp ⊢
  obtain ⟨a₂, ⟨a₁, h₁, h₂⟩, h₃⟩ := hp
  have hrecords := records_of_performAll hr h₂
  obtain ⟨_, h₂', halike⟩ := exists_performAll_of_records hrecords
  obtain rfl := Option.some.inj (h₂.symm.trans h₂')
  obtain ⟨b₂, hb₂, halike'⟩ := exists_performAll_of_records fun deed hd =>
    hrecords deed (hperm.mem_iff.2 hd)
  obtain ⟨b, hb, hab⟩ := (halike.symm.trans halike').performAll h₃
  exact ⟨b, ⟨b₂, ⟨a₁, h₁, hb₂⟩, hb⟩, hab⟩

/-- After any history, a holder knows nothing if nothing stands for the clones of its tracker, and
the farthest of what stands otherwise. The order of records that come in a row matters for the order
of the labels only. -/
theorem farthest?_of_performAll {deeds : List Deed} (h : Deed.possible 0 deeds = true) :
    ∃ all, empty.performAll deeds = some all ∧ all.holders.length = deeds.countP Deed.brings ∧
      ∀ holder < all.holders.length, ∃ far?, all.farthest? holder = some far? ∧
        (far? = none ↔ standing (clones deeds holder) deeds = []) ∧
        (∀ far ∈ far?, far.IsOf (standing (clones deeds holder) deeds)) ∧
        ∀ before between between' after, deeds = before ++ between ++ after →
          (∀ deed ∈ between, deed.IsRecord) → between.Perm between' →
          ∃ all' far?', empty.performAll (before ++ between' ++ after) = some all' ∧
            all'.farthest? holder = some far?' ∧
            far?.map Farthest.position = far?'.map Farthest.position ∧
            ∀ label, (∃ far ∈ far?, label ∈ far.expected) ↔
              ∃ far ∈ far?', label ∈ far.expected := by
  obtain ⟨all, hall, hlength⟩ := exists_performAll_of_possible empty h
  have htells := tells_of_performAll hall
  refine ⟨all, hall, by simpa [empty] using hlength, fun holder hlt => ?_⟩
  refine ⟨_, htells.farthest? holder hlt, Failure.farthest?_eq_none_iff,
    fun far hfar => Failure.isOf_of_farthest? hfar, ?_⟩
  rintro before between between' after rfl hr hperm
  -- The same holders are there in the other order, and they are clones as before.
  obtain ⟨all', hall', halike⟩ := exists_performAll_of_perm hperm hr hall
  have hlt' : holder < all'.holders.length := by
    rw [← halike.holders]
    exact hlt
  have hread := (tells_of_performAll hall').farthest? holder hlt'
  have hr' : ∀ deed ∈ between', deed.IsRecord := fun deed hd => hr deed (hperm.mem_iff.2 hd)
  have hclones : clones (before ++ between ++ after) = clones (before ++ between' ++ after) :=
    clones_of_records hr hr' after
  -- What stands is the same in another order: first behind the records, then behind all the rest.
  have hbetween : (standing (clones (before ++ between' ++ after) holder) (before ++ between)).Perm
      (standing (clones (before ++ between' ++ after) holder) (before ++ between')) := by
    rw [standing_append_of_records hr, standing_append_of_records hr']
    exact (hperm.filterMap _).append_left _
  have hstanding : (standing (clones (before ++ between ++ after) holder)
        (before ++ between ++ after)).Perm
      (standing (clones (before ++ between' ++ after) holder) (before ++ between' ++ after)) := by
    rw [hclones]
    exact standing_perm_append hbetween after
  exact ⟨all', _, hall', hread, Failure.farthest?_perm hstanding⟩

end

/-- A tracker with two holders, one of which resets. -/
def twoHolders : List Deed := [.create, .clone 0, .record 0 7 "digit", .reset 1]

/-- What the two record after that: the last failure is nearer, and one label comes twice. -/
def fiveRecords : List Deed :=
  [.record 0 2 "number", .record 1 4 "')'", .record 0 4 "operator", .record 0 4 "')'",
    .record 1 1 "'('"]

theorem farthest?_of_performAll_twoHolders :
    ∃ all, empty.performAll (twoHolders ++ fiveRecords) = some all ∧
      clones (twoHolders ++ fiveRecords) 0 1 = true ∧
      all.farthest? 0 = some (some ⟨4, ["')'", "operator"]⟩) ∧
      Farthest.IsOf [⟨2, "number"⟩, ⟨4, "')'"⟩, ⟨4, "operator"⟩, ⟨4, "')'"⟩, ⟨1, "'('"⟩]
        ⟨4, ["')'", "operator"]⟩ ∧
      ∃ all' far', empty.performAll (twoHolders ++ fiveRecords.reverse) = some all' ∧
        all'.farthest? 0 = some (some far') ∧ far'.position = 4 ∧
        ∀ label, label ∈ ["')'", "operator"] ↔ label ∈ far'.expected := by
  have hpossible : Deed.possible 0 (twoHolders ++ fiveRecords) = true := by decide
  obtain ⟨all, hrun, -, hknown⟩ := farthest?_of_performAll hpossible
  obtain rfl : _ = all := Option.some.inj hrun
  obtain ⟨far?, hread, -, hfar, hperm⟩ := hknown 0 (by decide)
  obtain rfl : some ⟨4, ["')'", "operator"]⟩ = far? := Option.some.inj hread
  have hrecords : ∀ deed ∈ fiveRecords, deed.IsRecord := by simp [fiveRecords, Deed.IsRecord]
  obtain ⟨all', far?', hrun', hread', hposition, hlabels⟩ := hperm twoHolders fiveRecords
    fiveRecords.reverse [] rfl hrecords (List.reverse_perm _).symm
  cases far?' with
  | none => cases hposition
  | some far' =>
    exact ⟨_, hrun, rfl, rfl, hfar _ rfl, all', far', by simpa using hrun', hread',
      (Option.some.inj hposition).symm, by simpa using hlabels⟩

end Trackers

end Descent
