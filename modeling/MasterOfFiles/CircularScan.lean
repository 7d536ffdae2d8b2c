import Mathlib.Data.List.Nodup
import Mathlib.Data.Nat.ModEq

/-!
# Scanning a ring of positions

An arc is the list of positions that a hand passes on a ring of `count` positions, in the order
in which it passes them.  A full arc visits every position once.
-/

namespace MasterOfFiles

namespace CircularScan

variable {count start steps position : Nat}

/-- The positions that a hand passes in some steps. -/
def arc (count start steps : Nat) : List Nat :=
  (List.range steps).map fun offset => (start + offset) % count

@[simp]
theorem arc_zero (count start : Nat) : arc count start 0 = [] :=
  rfl

theorem arc_succ (inside : start < count) (steps : Nat) :
    arc count start (steps + 1) = start :: arc count ((start + 1) % count) steps := by
  rw [arc, List.range_succ_eq_map, List.map_cons, List.map_map]
  congr 1
  · exact Nat.mod_eq_of_lt inside
  · apply List.map_congr_left
    intro offset _
    rw [Function.comp_apply, Nat.mod_add_mod]
    congr 1
    omega

theorem lt_of_mem_arc (positive : 0 < count) (member : position ∈ arc count start steps) :
    position < count := by
  obtain ⟨offset, _, rfl⟩ := List.mem_map.mp member
  exact Nat.mod_lt _ positive

theorem mem_circle (inside : start < count) :
    position ∈ arc count start count ↔ position < count := by
  constructor
  · exact lt_of_mem_arc (Nat.zero_lt_of_lt inside)
  · intro positionLt
    apply List.mem_map.mpr
    by_cases ahead : start ≤ position
    · refine ⟨position - start, List.mem_range.mpr (by omega), ?_⟩
      rw [Nat.add_sub_cancel' ahead, Nat.mod_eq_of_lt positionLt]
    · refine ⟨position + count - start, List.mem_range.mpr (by omega), ?_⟩
      rw [show start + (position + count - start) = position + count by omega,
        Nat.add_mod_right, Nat.mod_eq_of_lt positionLt]

/-- An arc of no more than a full round visits no position twice. -/
theorem nodup_arc (short : steps ≤ count) : (arc count start steps).Nodup := by
  apply List.Nodup.map_on _ List.nodup_range
  intro first firstLt second secondLt same
  have firstBound := List.mem_range.mp firstLt
  have secondBound := List.mem_range.mp secondLt
  have congruent : first ≡ second [MOD count] := Nat.ModEq.add_left_cancel' start same
  exact congruent.eq_of_lt_of_lt (by omega) (by omega)

/-- The first position that a hand meets with some property, within a round. -/
def FirstMet (count start : Nat) (meets : Nat → Prop) (position : Nat) : Prop :=
  ∃ offset < count, position = (start + offset) % count ∧ meets position ∧
    ∀ earlier < offset, ¬ meets ((start + earlier) % count)

/-- A search along a full arc returns what it finds at the first position that has something. -/
theorem firstMet_of_findSome? {α : Type*} {find : Nat → Option α} {found : α}
    (search : (arc count start count).findSome? find = some found) :
    ∃ position, FirstMet count start (fun other => (find other).isSome = true) position ∧
      find position = some found := by
  obtain ⟨before, position, rest, arcEq, here, missed⟩ := List.findSome?_eq_some_iff.mp search
  have lengthEq : (arc count start count).length = count := by
    simp [arc]
  rw [arcEq, List.length_append, List.length_cons] at lengthEq
  have passed : ∀ offset < count, (before ++ position :: rest)[offset]? =
      some ((start + offset) % count) := by
    intro offset offsetLt
    rw [← arcEq, arc, List.getElem?_map, List.getElem?_range offsetLt, Option.map_some]
  refine ⟨position, ⟨before.length, by omega, ?_, by simp [here], ?_⟩, here⟩
  · have atPosition := passed before.length (by omega)
    rw [List.getElem?_append_right (Nat.le_refl _), Nat.sub_self, List.getElem?_cons_zero]
      at atPosition
    exact Option.some.inj atPosition
  · intro earlier earlierLt
    have atEarlier := passed earlier (by omega)
    rw [List.getElem?_append_left earlierLt] at atEarlier
    have nothing := missed _ (List.mem_of_getElem? atEarlier)
    simp [nothing]

theorem FirstMet.eq_start {meets : Nat → Prop} (first : FirstMet count start meets position)
    (inside : start < count) (here : meets start) : position = start := by
  obtain ⟨offset, _, positionEq, _, missed⟩ := first
  cases offset with
  | zero => rw [positionEq, Nat.add_zero, Nat.mod_eq_of_lt inside]
  | succ offset =>
      have missedStart := missed 0 (by omega)
      rw [Nat.add_zero, Nat.mod_eq_of_lt inside] at missedStart
      exact absurd here missedStart

theorem FirstMet.congr {meets others : Nat → Prop} (first : FirstMet count start meets position)
    (same : ∀ other < count, meets other ↔ others other) :
    FirstMet count start others position := by
  obtain ⟨offset, offsetLt, positionEq, met, missed⟩ := first
  have positive : 0 < count := by omega
  refine ⟨offset, offsetLt, positionEq, ?_, ?_⟩
  · apply (same _ _).mp met
    rw [positionEq]
    exact Nat.mod_lt _ positive
  · intro earlier earlierLt meetsEarlier
    exact missed earlier earlierLt ((same _ (Nat.mod_lt _ positive)).mpr meetsEarlier)

end CircularScan

end MasterOfFiles
