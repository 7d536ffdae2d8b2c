import Mathlib.Data.List.Basic

/-!
# Flat stores

The abstract counterpart of a paged memory: every key has an unbounded row of
cells, a write replaces a range of one row and a read lists a range.
-/

namespace MasterOfFiles

namespace FlatStore

variable {Key Value : Type*} {contents : Key → Nat → Value} {key : Key} {start : Nat}

def range (contents : Key → Nat → Value) (key : Key) (start count : Nat) : List Value :=
  (List.range' start count).map (contents key)

theorem range_append (first second : Nat) :
    range contents key start first ++ range contents key (start + first) second =
      range contents key start (first + second) := by
  rw [range, range, range, ← List.map_append, List.range'_append_1]

theorem range_congr {other : Key → Nat → Value} (same : contents key = other key)
    {count : Nat} : range contents key start count = range other key start count := by
  rw [range, range, same]

variable [DecidableEq Key]

/-- Replace the cells of `key` from `start` on by `values`. -/
def overwrite (contents : Key → Nat → Value) (key : Key) (start : Nat)
    (values : List Value) : Key → Nat → Value :=
  fun other address =>
    if other = key ∧ start ≤ address then
      values.getD (address - start) (contents other address)
    else contents other address

@[simp]
theorem overwrite_nil : overwrite contents key start [] = contents := by
  funext other address
  simp [overwrite]

theorem overwrite_congr {other : Key → Nat → Value} {row : Key}
    (same : contents row = other row) {values : List Value} :
    overwrite contents key start values row = overwrite other key start values row := by
  funext address
  simp [overwrite, same]

theorem overwrite_append (first second : List Value) :
    overwrite (overwrite contents key start first) key (start + first.length) second =
      overwrite contents key start (first ++ second) := by
  funext other address
  unfold overwrite
  by_cases same : other = key
  · by_cases beyond : start + first.length ≤ address
    · have after : start ≤ address := by omega
      have outside : first.length ≤ address - start := by omega
      have shift : address - (start + first.length) = address - start - first.length := by
        omega
      simp [same, beyond, after, List.getElem?_append_right outside, shift,
        List.getElem?_eq_none outside]
    · by_cases after : start ≤ address
      · have inside : address - start < first.length := by omega
        simp [same, beyond, after, List.getElem?_append_left inside]
      · simp [same, beyond, after]
  · simp [same]

end FlatStore

end MasterOfFiles
