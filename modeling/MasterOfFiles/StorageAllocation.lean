import MasterOfFiles.StorageFailedWrites

/-!
# Which physical block a write takes

`bitmap.bin` is sized in whole bytes, and `get_free_bit_index` searches all of its bits.  The bits
past the last physical block start clear, so once every physical block is taken the search returns
one of them, and the write fails at the `link` instead of reporting `NOT_ENOUGH_SPACE`.
-/

namespace MasterOfFiles

namespace Storage

variable {config : StorageConfig} {Hash : Type}

theorem StorageConfig.totalBlocks_le_bits (config : StorageConfig) :
    config.totalBlocks ≤ 8 * config.bitmapSizeBytes := by
  unfold StorageConfig.bitmapSizeBytes
  omega

theorem StorageConfig.bits_eq_totalBlocks (config : StorageConfig)
    (wholeBytes : 8 ∣ config.totalBlocks) : 8 * config.bitmapSizeBytes = config.totalBlocks := by
  unfold StorageConfig.bitmapSizeBytes
  omega

namespace Disk

/-- Every block that a call takes, so that its bit changes, exists and was free, and the call
reports `NOT_ENOUGH_SPACE` exactly when no block that exists is free. -/
structure AllocatesInside (before after : Disk config Hash) (code : Int) : Prop where
  inside : ∀ taken, after.bitmap taken ≠ before.bitmap taken →
    taken < config.totalBlocks ∧ before.bitmap taken = false
  full : code = notEnoughSpace ↔
    ∀ physical < config.totalBlocks, before.bitmap physical = true

/-- A physical block is free, or the bits past the last physical block are all set. -/
def SearchStaysInside (disk : Disk config Hash) : Prop :=
  (∃ physical < config.totalBlocks, disk.bitmap physical = false) ∨
    ∀ stray, config.totalBlocks ≤ stray → stray < 8 * config.bitmapSizeBytes →
      disk.bitmap stray = true

/-- A bitmap of whole bytes has no bits past the last physical block. -/
theorem searchStaysInside_of_wholeBytes (disk : Disk config Hash)
    (wholeBytes : 8 ∣ config.totalBlocks) : disk.SearchStaysInside := by
  right
  intro stray past bound
  rw [config.bits_eq_totalBlocks wholeBytes] at bound
  omega

section Search

variable {disk : Disk config Hash} {free : Nat}

theorem getFreeBitIndex_eq_none_iff :
    disk.getFreeBitIndex = none ↔
      ∀ bit < 8 * config.bitmapSizeBytes, disk.bitmap bit = true := by
  simp [getFreeBitIndex, List.find?_eq_none]

/-- The search stops at the first clear bit. -/
theorem bitmap_before_free (found : disk.getFreeBitIndex = some free) {bit : Nat}
    (earlier : bit < free) : disk.bitmap bit = true := by
  obtain ⟨_, _, passed⟩ := List.find?_range_eq_some.mp found
  simpa using passed bit earlier

/-- What `get_free_bit_index` finds exists exactly when some physical block is free. -/
theorem free_lt_totalBlocks_iff (found : disk.getFreeBitIndex = some free) :
    free < config.totalBlocks ↔ ∃ physical < config.totalBlocks, disk.bitmap physical = false := by
  constructor
  · intro inside
    exact ⟨free, inside, bitmap_of_getFreeBitIndex found⟩
  · rintro ⟨physical, inside, clear⟩
    by_contra outside
    have taken : disk.bitmap physical = true := bitmap_before_free found (by omega)
    rw [clear] at taken
    cases taken

end Search

section Writes

variable {disk : Disk config Hash} {fileTag : FileTag} {blockNumber : UInt32}
  {metadata : FileMetadata} {physical free : Nat}

/-- The three ways in which the write of a shared block ends on a reliable host. -/
theorem sharedWrite_cases (reaches : Reaches reliable disk fileTag blockNumber metadata physical)
    (shared : 1 < disk.links.linkCount physical) (blockData : List UInt8) :
    ∃ code after, disk.executeBlockWrite reliable fileTag blockNumber blockData = (code, after) ∧
      ((disk.getFreeBitIndex = none ∧ code = notEnoughSpace ∧ after.bitmap = disk.bitmap) ∨
        ∃ free, disk.getFreeBitIndex = some free ∧
          code = (if free < config.totalBlocks then 0 else -5) ∧
            after.bitmap = Function.update disk.bitmap free true) := by
  have result := executeBlockWrite_of_shared reaches shared blockData
  have stays : reliable (.removeLogical blockNumber.toNat) = false := rfl
  by_cases finds : FindsBlock reliable disk blockNumber.toNat
  · obtain ⟨free, own, found, taken, linked, moved⟩ :=
      moveToFreeBlock_of_findsBlock metadata reaches.linked stays finds
    obtain ⟨other, inside, foundInside⟩ := finds.free
    obtain rfl : free = other := Option.some.inj (found.symm.trans foundInside)
    rw [moved] at result
    simp only [writeToLogicalBlock_of_linked linked, reliable_apply, Bool.false_eq_true,
      if_false] at result
    exact ⟨0, _, result, Or.inr ⟨free, found, by rw [if_pos inside], taken⟩⟩
  · have moving := moveToFreeBlock_of_removed metadata reaches.linked stays
    simp only [reliable_apply, Bool.false_eq_true, if_false] at moving
    cases found : disk.getFreeBitIndex with
    | none =>
        simp only [found] at moving
        rw [moving] at result
        exact ⟨notEnoughSpace, _, result, Or.inl ⟨rfl, rfl, rfl⟩⟩
    | some free =>
        have outside : ¬ free < config.totalBlocks := by
          intro inside
          exact finds ⟨rfl, ⟨free, inside, found⟩, rfl, rfl⟩
        have linking := createNewHardlink_of_found reliable fileTag blockNumber.toNat found
        simp only [found, linking, Nat.not_lt.mp outside, or_true, if_true] at moving
        rw [moving] at result
        exact ⟨-5, _, result, Or.inr ⟨free, rfl, by rw [if_neg outside], rfl⟩⟩

/-- Whenever a write needs a physical block, it takes a free one that exists, and reports a lack
of space exactly when there is none, if and only if the search cannot get past the last physical
block. -/
theorem allocation_inside_iff
    (reaches : Reaches reliable disk fileTag blockNumber metadata physical)
    (shared : 1 < disk.links.linkCount physical) (blockData : List UInt8) :
    AllocatesInside disk (disk.executeBlockWrite reliable fileTag blockNumber blockData).2
        (disk.executeBlockWrite reliable fileTag blockNumber blockData).1 ↔
      disk.SearchStaysInside := by
  have bits := config.totalBlocks_le_bits
  obtain ⟨code, after, result, outcome⟩ := sharedWrite_cases reaches shared blockData
  rw [result]
  rcases outcome with ⟨none, rfl, bitmapEq⟩ | ⟨free, found, rfl, bitmapEq⟩
  · have allSet := getFreeBitIndex_eq_none_iff.mp none
    have stays : disk.SearchStaysInside := Or.inr fun stray _ bound => allSet stray bound
    refine iff_of_true ⟨?_, ?_⟩ stays
    · intro taken changed
      rw [bitmapEq] at changed
      exact absurd rfl changed
    · simp only [true_iff]
      intro other inside
      exact allSet other (Nat.lt_of_lt_of_le inside bits)
  · have clear := bitmap_of_getFreeBitIndex found
    have room := free_lt_totalBlocks_iff found
    constructor
    · intro allocates
      left
      have changed : after.bitmap free ≠ disk.bitmap free := by
        rw [bitmapEq, Function.update_self, clear]
        decide
      exact room.mp (allocates.inside free changed).1
    · intro stays
      have inside : free < config.totalBlocks := by
        rcases stays with available | straySet
        · exact room.mpr available
        · by_contra outside
          have bound := List.mem_range.mp (List.mem_of_find?_eq_some found)
          have set := straySet free (Nat.not_lt.mp outside) bound
          rw [clear] at set
          cases set
      refine ⟨?_, ?_⟩
      · intro taken changed
        have same : taken = free := by
          by_contra different
          rw [bitmapEq, Function.update_of_ne different] at changed
          exact changed rfl
        rw [same]
        exact ⟨inside, clear⟩
      · rw [if_pos inside]
        have stored : ¬ (0 : Int) = notEnoughSpace := by decide
        apply iff_of_false stored
        intro allSet
        rw [allSet free inside] at clear
        cases clear

def writtenBlocks (count : Nat) : Disk fourByteConfig String :=
  sampleDisk ([.createFile fileA, .truncateFile fileA 4] ++
    (List.range count).map fun index => .executeBlockWrite fileA (UInt32.ofNat index) [65])

theorem reachable_writtenBlocks (count : Nat) :
    (storageSystem oneByteMd5).Reachable (writtenBlocks count) :=
  reachable_executeAll oneByteMd5 _

/-- All four physical blocks are taken; the write of the last block of `a:T` sets the bit of a
fifth one and fails at the `link`. -/
theorem allocation_past_last_block :
    ∃ after, (storageSystem oneByteMd5).Reachable (writtenBlocks 3) ∧
      Reaches reliable (writtenBlocks 3) fileA 3 ⟨4, [1, 2, 3, 0], .workInProgress⟩ 0 ∧
      1 < (writtenBlocks 3).links.linkCount 0 ∧
      (writtenBlocks 3).executeBlockWrite reliable fileA 3 [66] = (-5, after) ∧
      (writtenBlocks 3).bitmap 4 = false ∧ after.bitmap 4 = true ∧
      ¬ AllocatesInside (writtenBlocks 3) after (-5) := by
  have code : ((writtenBlocks 3).executeBlockWrite reliable fileA 3 [66]).1 = -5 := by
    decide +kernel
  have clear : (writtenBlocks 3).bitmap 4 = false := by decide +kernel
  have marked : ((writtenBlocks 3).executeBlockWrite reliable fileA 3 [66]).2.bitmap 4 =
      true := by
    decide +kernel
  have reaches : Reaches reliable (writtenBlocks 3) fileA 3
      ⟨4, [1, 2, 3, 0], .workInProgress⟩ 0 :=
    ⟨by decide +kernel, by decide +kernel, by decide, by decide, rfl, by decide +kernel⟩
  have shared : 1 < (writtenBlocks 3).links.linkCount 0 := by decide +kernel
  refine ⟨((writtenBlocks 3).executeBlockWrite reliable fileA 3 [66]).2,
    reachable_writtenBlocks 3, reaches, shared, Prod.ext code rfl, clear, marked, ?_⟩
  intro allocates
  have changed : ((writtenBlocks 3).executeBlockWrite reliable fileA 3 [66]).2.bitmap 4 ≠
      (writtenBlocks 3).bitmap 4 := by
    rw [marked, clear]
    decide
  have inside : 4 < fourByteConfig.totalBlocks := (allocates.inside 4 changed).1
  exact absurd inside (by decide)

/-- One block is left, and the write takes it. -/
theorem allocation_inside_iff_of_free_block :
    AllocatesInside (writtenBlocks 2)
        ((writtenBlocks 2).executeBlockWrite reliable fileA 2 [66]).2
        ((writtenBlocks 2).executeBlockWrite reliable fileA 2 [66]).1 ↔
      (writtenBlocks 2).SearchStaysInside := by
  have reaches : Reaches reliable (writtenBlocks 2) fileA 2
      ⟨4, [1, 2, 0, 0], .workInProgress⟩ 0 :=
    ⟨by decide +kernel, by decide +kernel, by decide, by decide, rfl, by decide +kernel⟩
  exact allocation_inside_iff reaches (by decide +kernel) [66]

end Writes

end Disk

end Storage

end MasterOfFiles
