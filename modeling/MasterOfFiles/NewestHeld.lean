import Mathlib.Data.Finset.Card

/-!
# Holding what was used last

A bounded collection that holds the items used last, of all items seen.  A rank orders the items
by their last use.  The collection is the same whatever way its replacement found the item used
least recently, and a larger collection holds everything that a smaller one holds.
-/

namespace MasterOfFiles

namespace NewestHeld

variable {Item : Type*} [DecidableEq Item] {rank later : Item → Nat} {seen held : Finset Item}
  {capacity : Nat} {item : Item}

/-- No item seen is newer than an item held and not held itself, and items are left out only
when the collection is full. -/
structure HoldsNewest (rank : Item → Nat) (seen held : Finset Item) (capacity : Nat) :
    Prop where
  subset : held ⊆ seen
  newest : ∀ item ∈ held, ∀ other ∈ seen, rank item < rank other → other ∈ held
  card_le : held.card ≤ capacity
  full : held = seen ∨ held.card = capacity

/-- The item becomes the newest, and the others keep their ranks. -/
structure Renews (rank later : Item → Nat) (seen : Finset Item) (item : Item) : Prop where
  others : ∀ other ∈ seen, other ≠ item → later other = rank other
  newest : ∀ other ∈ seen, other ≠ item → later other < later item

def newer (rank : Item → Nat) (seen : Finset Item) (item : Item) : Finset Item :=
  seen.filter fun other => rank item < rank other

omit [DecidableEq Item] in
theorem holdsNewest_empty (rank : Item → Nat) (capacity : Nat) :
    HoldsNewest rank ∅ ∅ capacity :=
  ⟨Finset.Subset.refl _, by simp, by simp, Or.inl rfl⟩

namespace HoldsNewest

theorem use (holds : HoldsNewest rank seen held capacity) (renews : Renews rank later seen item)
    (isHeld : item ∈ held) : HoldsNewest later seen held capacity := by
  refine ⟨holds.subset, ?_, holds.card_le, holds.full⟩
  intro old oldHeld other otherSeen newerOther
  by_cases same : other = item
  · rwa [same]
  · have otherRank := renews.others other otherSeen same
    by_cases oldSame : old = item
    · have bound := renews.newest other otherSeen same
      rw [← oldSame] at bound
      omega
    · rw [renews.others old (holds.subset oldHeld) oldSame, otherRank] at newerOther
      exact holds.newest old oldHeld other otherSeen newerOther

theorem add (holds : HoldsNewest rank seen held capacity) (absent : item ∉ held)
    (room : held.card < capacity) :
    HoldsNewest later (insert item seen) (insert item held) capacity := by
  have whole : held = seen := holds.full.resolve_right (Nat.ne_of_lt room)
  refine ⟨Finset.insert_subset_insert _ holds.subset, ?_, ?_, Or.inl (by rw [whole])⟩
  · intro old _ other otherSeen _
    rwa [whole]
  · rw [Finset.card_insert_of_notMem absent]
    exact room

/-- Without room the item takes the place of the oldest one held. -/
theorem replace (holds : HoldsNewest rank seen held capacity)
    (renews : Renews rank later seen item) (absent : item ∉ held) (isFull : held.card = capacity)
    {victim : Item} (victimHeld : victim ∈ held)
    (oldest : ∀ other ∈ held, other ≠ victim → rank victim < rank other) :
    HoldsNewest later (insert item seen) (insert item (held.erase victim)) capacity := by
  have erased : item ∉ held.erase victim := fun member => absent (Finset.mem_of_mem_erase member)
  have card : (insert item (held.erase victim)).card = capacity := by
    have positive := Finset.card_pos.mpr ⟨victim, victimHeld⟩
    rw [Finset.card_insert_of_notMem erased, Finset.card_erase_of_mem victimHeld]
    omega
  refine ⟨Finset.insert_subset_insert _ ((Finset.erase_subset _ _).trans holds.subset), ?_,
    card.le, Or.inr card⟩
  intro old oldHeld other otherSeen newerOther
  by_cases same : other = item
  · rw [same]
    exact Finset.mem_insert_self _ _
  · have otherWasSeen := Finset.mem_of_mem_insert_of_ne otherSeen same
    have otherRank := renews.others other otherWasSeen same
    rcases Finset.mem_insert.mp oldHeld with rfl | oldKept
    · have bound := renews.newest other otherWasSeen same
      omega
    · obtain ⟨oldNe, oldWasHeld⟩ := Finset.mem_erase.mp oldKept
      have oldDifferent : old ≠ item := fun equal => absent (equal ▸ oldWasHeld)
      rw [renews.others old (holds.subset oldWasHeld) oldDifferent, otherRank] at newerOther
      have otherHeld := holds.newest old oldWasHeld other otherWasSeen newerOther
      have older := oldest old oldWasHeld oldNe
      refine Finset.mem_insert_of_mem (Finset.mem_erase.mpr ⟨?_, otherHeld⟩)
      rintro rfl
      omega

/-- An item is held exactly when fewer than `capacity` others were used since. -/
theorem mem_iff (holds : HoldsNewest rank seen held capacity) (distinct : Set.InjOn rank seen)
    (isSeen : item ∈ seen) : item ∈ held ↔ (newer rank seen item).card < capacity := by
  constructor
  · intro isHeld
    have inside : newer rank seen item ⊆ held.erase item := by
      intro other member
      obtain ⟨otherSeen, newerOther⟩ := Finset.mem_filter.mp member
      refine Finset.mem_erase.mpr ⟨?_, holds.newest item isHeld other otherSeen newerOther⟩
      rintro rfl
      exact Nat.lt_irrefl _ newerOther
    have positive := Finset.card_pos.mpr ⟨item, isHeld⟩
    have bound := Finset.card_le_card inside
    rw [Finset.card_erase_of_mem isHeld] at bound
    have room := holds.card_le
    omega
  · intro few
    by_contra notHeld
    have isFull : held.card = capacity :=
      holds.full.resolve_left fun whole => notHeld (whole ▸ isSeen)
    have inside : held ⊆ newer rank seen item := by
      intro other otherHeld
      refine Finset.mem_filter.mpr ⟨holds.subset otherHeld, ?_⟩
      by_contra notNewer
      have different : rank other ≠ rank item := fun same =>
        notHeld (distinct (holds.subset otherHeld) isSeen same ▸ otherHeld)
      exact notHeld (holds.newest other otherHeld item isSeen (by omega))
    have bound := Finset.card_le_card inside
    omega

end HoldsNewest

end NewestHeld

end MasterOfFiles
