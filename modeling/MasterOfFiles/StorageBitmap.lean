import MasterOfFiles.StorageConsistency

/-!
# The bitmap and the links

A bit of `bitmap.bin` should be set exactly when some logical block is linked
to its physical block.  Two operations link a block without looking at its
bit: `truncate_file` links block 0, and COMMIT links whatever block the hash
index names.  `KeepsBitmapTrue` says when these two are harmless, and every
other step of a run of successful requests keeps the bitmap true.
-/

namespace MasterOfFiles

namespace Storage

variable {config : StorageConfig} {Hash : Type}

namespace Disk

/-- A bit is set exactly when its physical block has a logical block. -/
def BitmapTrue (disk : Disk config Hash) : Prop :=
  ∀ physical, disk.bitmap physical = true ↔ disk.links.Linked physical

section Primitives

variable {disk : Disk config Hash} {fileTag : FileTag} {index physical : Nat}

/-- A change of links that keeps every link count positive or zero as it was. -/
theorem BitmapTrue.of_linked {before after : Disk config Hash} (bitmapTrue : before.BitmapTrue)
    (bitmapEq : after.bitmap = before.bitmap)
    (linkedIff : ∀ physical, after.links.Linked physical ↔ before.links.Linked physical) :
    after.BitmapTrue := by
  intro physical
  rw [bitmapEq, linkedIff]
  exact bitmapTrue physical

theorem BitmapTrue.dropLink (bitmapTrue : disk.BitmapTrue)
    (linked : disk.links.inode fileTag index = some physical) :
    (disk.dropLink fileTag index physical).BitmapTrue := by
  intro other
  by_cases same : other = physical
  · subst same
    by_cases last : (disk.links.unlink fileTag index).linkCount other = 0
    · simpa [Disk.dropLink, last] using (LinkTable.linkCount_eq_zero_iff _ _).mp last
    · have others := (LinkTable.linkCount_pos_iff _ _).mp (Nat.pos_of_ne_zero last)
      have bit := (bitmapTrue other).mpr ⟨fileTag, index, linked⟩
      simpa [Disk.dropLink, last, bit] using others
  · have linkedIff := LinkTable.linked_unlink_of_ne linked same
    have bitEq : (disk.dropLink fileTag index physical).bitmap other =
        disk.bitmap other := by
      simp only [Disk.dropLink]
      split
      · rw [Function.update_of_ne same]
      · rfl
    rw [bitEq, bitmapTrue other]
    exact linkedIff.symm

theorem BitmapTrue.relink (bitmapTrue : disk.BitmapTrue) {registered : Nat}
    (linked : disk.links.inode fileTag index = some physical)
    (different : registered ≠ physical) (used : disk.links.Linked registered) :
    (disk.relink fileTag index registered physical).BitmapTrue := by
  have linkedIff : ∀ other, other ≠ physical →
      (((disk.links.unlink fileTag index).link fileTag index registered).Linked other ↔
        disk.links.Linked other) := by
    intro other otherNe
    rw [LinkTable.linked_link (by simp), LinkTable.linked_unlink_of_ne linked otherNe]
    constructor
    · rintro (rfl | kept)
      · exact used
      · exact kept
    · exact Or.inr
  intro other
  by_cases same : other = physical
  · subst same
    by_cases last : ((disk.links.unlink fileTag index).link fileTag index
        registered).linkCount other = 0
    · simpa [Disk.relink, last] using (LinkTable.linkCount_eq_zero_iff _ _).mp last
    · have others := (LinkTable.linkCount_pos_iff _ _).mp (Nat.pos_of_ne_zero last)
      have bit := (bitmapTrue other).mpr ⟨fileTag, index, linked⟩
      simpa [Disk.relink, last, bit] using others
  · have bitEq : (disk.relink fileTag index registered physical).bitmap other =
        disk.bitmap other := by
      simp only [Disk.relink]
      split
      · rw [Function.update_of_ne same]
      · rfl
    rw [bitEq, bitmapTrue other]
    exact (linkedIff other same).symm

end Primitives

section Loops

variable {fileTag : FileTag}

theorem BitmapTrue.deleteSurplusBlocks {disk : Disk config Hash} {index : Nat}
    {blocks : List Nat} (bitmapTrue : disk.BitmapTrue)
    (linked : ∀ offset, disk.links.inode fileTag (index + offset) = blocks[offset]?)
    (blockLt : ∀ physical ∈ blocks, physical < config.totalBlocks) :
    (deleteSurplusBlocks reliable fileTag index blocks disk).BitmapTrue := by
  induction blocks generalizing index disk with
  | nil => exact bitmapTrue
  | cons physical rest ih =>
      have first : disk.links.inode fileTag index = some physical := by
        simpa using linked 0
      rw [Disk.deleteSurplusBlocks,
        deleteLogicalBlock_reliable (by simp [first]) (blockLt physical (by simp))]
      refine ih (bitmapTrue.dropLink first) ?_
        (fun other member => blockLt other (by simp [member]))
      intro offset
      have next := linked (offset + 1)
      have different : index + 1 + offset ≠ index := by omega
      simpa [Disk.dropLink, different, Nat.add_comm, Nat.add_left_comm] using next

theorem BitmapTrue.linkZeroBlocks {disk grown : Disk config Hash} {index count : Nat}
    (bitmapTrue : disk.BitmapTrue) (bitZero : disk.bitmap 0 = true)
    (done : linkZeroBlocks reliable fileTag index count disk = (true, grown)) :
    grown.BitmapTrue := by
  induction count generalizing index disk with
  | zero =>
      simp only [Disk.linkZeroBlocks, Prod.mk.injEq, true_and] at done
      exact done ▸ bitmapTrue
  | succ count ih =>
      simp only [Disk.linkZeroBlocks] at done
      split at done
      · simp at done
      · rename_i linked linking
        obtain ⟨_, free, rfl⟩ := linkLogicalBlock_reliable.mp linking
        refine ih ?_ ?_ done
        · refine bitmapTrue.of_linked rfl ?_
          intro physical
          rw [LinkTable.linked_link free]
          constructor
          · rintro (rfl | kept)
            · exact (bitmapTrue 0).mp bitZero
            · exact kept
          · exact Or.inr
        · exact bitZero

end Loops

end Disk

section Condition

variable [DecidableEq Hash]

/-- Truncation grows a file only while bit 0 is set, and COMMIT relinks a
logical block only to a physical block that is linked when the loop gets there:
by another File:Tag, by an earlier block after its own relinking, or by a later
block. -/
structure KeepsBitmapTrue (md5 : Block config.blockSize → Hash) (disk : Disk config Hash)
    (request : Request) : Prop where
  growth : ∀ fileTag newSizeBytes metadata, request = .truncateFile fileTag newSizeBytes →
    disk.metadata fileTag = some metadata →
      (metadata.blocks.length : Int) < newBlockCount config newSizeBytes →
        disk.bitmap 0 = true
  relinking : ∀ fileTag metadata index, request = .executeTagCommit fileTag →
    disk.metadata fileTag = some metadata → index < metadata.blocks.length →
      disk.commitTarget md5 fileTag metadata.blocks index ≠
          metadata.blocks.getD index 0 →
        (∃ other position, other ≠ fileTag ∧ disk.links.inode other position =
          some (disk.commitTarget md5 fileTag metadata.blocks index)) ∨
        (∃ earlier < index, disk.commitTarget md5 fileTag metadata.blocks earlier =
          disk.commitTarget md5 fileTag metadata.blocks index) ∨
        (∃ later > index, metadata.blocks[later]? =
          some (disk.commitTarget md5 fileTag metadata.blocks index))

variable {md5 : Block config.blockSize → Hash} {disk : Disk config Hash} {request : Request}

theorem KeepsBitmapTrue.of_bit (bit : disk.bitmap 0 = true)
    (notCommit : ∀ fileTag, request ≠ .executeTagCommit fileTag) :
    KeepsBitmapTrue md5 disk request :=
  ⟨fun _ _ _ _ _ _ => bit, fun fileTag _ _ same => absurd same (notCommit fileTag)⟩

theorem KeepsBitmapTrue.of_commit {fileTag : FileTag} {metadata : FileMetadata}
    (held : disk.metadata fileTag = some metadata)
    (elsewhere : ∀ index < metadata.blocks.length,
      disk.commitTarget md5 fileTag metadata.blocks index ≠ metadata.blocks.getD index 0 →
        ∃ other position, other ≠ fileTag ∧ disk.links.inode other position =
          some (disk.commitTarget md5 fileTag metadata.blocks index)) :
    KeepsBitmapTrue md5 disk (.executeTagCommit fileTag) := by
  refine ⟨by simp, ?_⟩
  rintro _ found index ⟨⟩ isFound inside moves
  obtain rfl := Option.some.inj (held.symm.trans isFound)
  exact Or.inl (elsewhere index inside moves)

end Condition

namespace Disk

section Operations

variable {before after : Disk config Hash} {fileTag : FileTag}

theorem BitmapTrue.truncateFile (bitmapTrue : before.BitmapTrue)
    (consistent : before.Consistent) {newSizeBytes : Int32}
    (growth : ∀ metadata, before.metadata fileTag = some metadata →
      (metadata.blocks.length : Int) < newBlockCount config newSizeBytes →
        before.bitmap 0 = true)
    (done : before.truncateFile reliable fileTag newSizeBytes = (0, after)) :
    after.BitmapTrue := by
  obtain ⟨metadata, held, outcome⟩ := truncateFile_success done
  have blocksEq := blocksOf_of_metadata held
  rcases outcome with ⟨_, rfl⟩ | ⟨newCount, _, countLt, rfl⟩ |
    ⟨extra, grown, countEq, extraPos, linking, rfl⟩
  · exact bitmapTrue
  · refine bitmapTrue.deleteSurplusBlocks ?_ ?_
    · intro offset
      rw [consistent.inode, blocksEq, List.getElem?_drop]
    · intro physical member
      refine consistent.block_lt fileTag physical ?_
      rw [blocksEq]
      exact List.mem_of_mem_drop member
  · have grownTrue : grown.BitmapTrue :=
      bitmapTrue.linkZeroBlocks (growth metadata held (by omega)) linking
    exact grownTrue

theorem BitmapTrue.createTag (bitmapTrue : before.BitmapTrue) {source target : FileTag}
    (done : before.createTag reliable source target = (0, after)) : after.BitmapTrue := by
  obtain ⟨metadata, _, _, rfl⟩ := createTag_success done
  exact bitmapTrue.of_linked rfl (fun _ => LinkTable.linked_copyDirectory source target)

theorem BitmapTrue.executeBlockWrite (bitmapTrue : before.BitmapTrue)
    {blockNumber : UInt32} {blockData : List UInt8}
    (done : before.executeBlockWrite reliable fileTag blockNumber blockData = (0, after)) :
    after.BitmapTrue := by
  obtain ⟨metadata, physical, _, _, linked, outcome⟩ := executeBlockWrite_success done
  rcases outcome with ⟨_, rfl⟩ | ⟨shared, free, found, _, rfl⟩
  · exact bitmapTrue
  · have freeBit := bitmap_of_getFreeBitIndex found
    have physicalNe : physical ≠ free := by
      rintro rfl
      have bit := (bitmapTrue physical).mpr ⟨_, _, linked⟩
      simp [freeBit] at bit
    intro other
    have linkedIff : ((before.links.unlink fileTag blockNumber.toNat).link fileTag
        blockNumber.toNat free).Linked other ↔
          other = free ∨ before.links.Linked other := by
      rw [LinkTable.linked_link (by simp)]
      refine or_congr_right ?_
      by_cases same : other = physical
      · subst same
        obtain ⟨otherTag, position, elsewhere, otherLinked⟩ :=
          LinkTable.exists_other_name_of_one_lt_linkCount shared fileTag blockNumber.toNat
        refine iff_of_true ⟨otherTag, position, ?_⟩ ⟨fileTag, _, linked⟩
        rw [LinkTable.inode_unlink, if_neg (by simpa using elsewhere)]
        exact otherLinked
      · exact LinkTable.linked_unlink_of_ne linked same
    refine Iff.trans ?_ linkedIff.symm
    by_cases same : other = free
    · simp [setMetadata, same]
    · simp [setMetadata, same, bitmapTrue other]

theorem BitmapTrue.deleteTag (bitmapTrue : before.BitmapTrue)
    (consistent : before.Consistent)
    (done : before.deleteTag reliable fileTag = (0, after)) : after.BitmapTrue := by
  obtain ⟨metadata, held, _, rfl⟩ := deleteTag_success done
  have blocksEq := blocksOf_of_metadata held
  have linked : ∀ offset, before.links.inode fileTag (0 + offset) =
      metadata.blocks[offset]? := by
    intro offset
    rw [Nat.zero_add, consistent.inode, blocksEq]
  have blockLt : ∀ physical ∈ metadata.blocks, physical < config.totalBlocks := by
    rw [← blocksEq]
    exact consistent.block_lt fileTag
  refine (bitmapTrue.deleteSurplusBlocks linked blockLt).of_linked rfl ?_
  intro physical
  refine LinkTable.linked_removeDirectory ?_
  intro index
  simp [inode_deleteSurplusBlocks linked blockLt]

section Commit

variable [DecidableEq Hash] {md5 : Block config.blockSize → Hash}

/-- The target of a logical block is linked when the loop reaches it. -/
theorem DeduplicatedUpTo.linked_target (consistent : before.Consistent)
    {metadata : FileMetadata} (held : before.metadata fileTag = some metadata)
    {index : Nat} (indexLt : index < metadata.blocks.length)
    {state : Deduplication config Hash}
    (invariant : DeduplicatedUpTo md5 before fileTag metadata.blocks index state)
    (keeps : KeepsBitmapTrue md5 before (.executeTagCommit fileTag))
    (moves : before.commitTarget md5 fileTag metadata.blocks index ≠
      metadata.blocks.getD index 0) :
    state.disk.links.Linked (before.commitTarget md5 fileTag metadata.blocks index) := by
  rcases keeps.relinking fileTag metadata index rfl held indexLt moves with
    ⟨other, position, different, linked⟩ | ⟨earlier, earlierLt, same⟩ |
    ⟨later, laterGt, listed⟩
  · refine ⟨other, position, ?_⟩
    rw [invariant.inode, if_neg (by simp [different])]
    exact linked
  · refine ⟨fileTag, earlier, ?_⟩
    rw [invariant.inode, ← same]
    split
    · rfl
    · rename_i stays
      have unmoved : before.commitTarget md5 fileTag metadata.blocks earlier =
          metadata.blocks.getD earlier 0 := by
        by_contra moved
        exact stays ⟨rfl, earlierLt, moved⟩
      have earlierIn : earlier < metadata.blocks.length := earlierLt.trans indexLt
      rw [consistent.inode, blocksOf_of_metadata held, unmoved,
        List.getD_eq_getElem?_getD, List.getElem?_eq_getElem earlierIn, Option.getD_some]
  · refine ⟨fileTag, later, ?_⟩
    rw [invariant.inode, if_neg (by omega), consistent.inode, blocksOf_of_metadata held]
    exact listed

theorem BitmapTrue.executeTagCommit (bitmapTrue : before.BitmapTrue)
    (consistent : before.Consistent)
    (keeps : KeepsBitmapTrue md5 before (.executeTagCommit fileTag))
    (done : executeTagCommit reliable md5 before fileTag = (0, after)) :
    after.BitmapTrue := by
  obtain ⟨metadata, final, held, _, whole, rfl⟩ := executeTagCommit_success done
  have kept : ∀ index state next, index < metadata.blocks.length →
      DeduplicatedUpTo md5 before fileTag metadata.blocks index state →
      state.disk.BitmapTrue →
      deduplicateBlock reliable md5 fileTag index state = (0, next) →
      next.disk.BitmapTrue := by
    intro index state next indexLt invariant stateTrue iteration
    obtain ⟨_, _, outcome, _⟩ := invariant.step_cases indexLt iteration
    rcases outcome with ⟨_, diskEq, _⟩ | ⟨moves, _, diskEq, _⟩
    · rw [diskEq]
      exact stateTrue
    · rw [diskEq]
      refine stateTrue.relink ?_ moves (invariant.linked_target consistent held indexLt keeps moves)
      rw [invariant.inode, if_neg (by omega), consistent.inode,
        blocksOf_of_metadata held, List.getElem?_eq_getElem indexLt,
        List.getD_eq_getElem?_getD, List.getElem?_eq_getElem indexLt, Option.getD_some]
  exact (DeduplicatedUpTo.loop kept (DeduplicatedUpTo.initial before metadata.blocks)
    bitmapTrue (by simp) whole).2

theorem BitmapTrue.execute (bitmapTrue : before.BitmapTrue)
    (consistent : before.Consistent) {request : Request}
    (keeps : KeepsBitmapTrue md5 before request)
    (done : before.execute reliable md5 request = (0, after)) : after.BitmapTrue := by
  cases request with
  | createFile fileTag =>
      obtain ⟨_, rfl⟩ := createFile_success done
      exact bitmapTrue
  | truncateFile fileTag newSizeBytes =>
      exact bitmapTrue.truncateFile consistent
        (fun metadata => keeps.growth fileTag newSizeBytes metadata rfl) done
  | createTag source target => exact bitmapTrue.createTag done
  | executeBlockWrite fileTag blockNumber blockData => exact bitmapTrue.executeBlockWrite done
  | executeBlockRead fileTag blockNumber =>
      have unchanged := execute_executeBlockRead md5 before reliable fileTag blockNumber
      rw [done] at unchanged
      obtain rfl : after = before := unchanged
      exact bitmapTrue
  | executeTagCommit fileTag => exact bitmapTrue.executeTagCommit consistent keeps done
  | deleteTag fileTag => exact bitmapTrue.deleteTag consistent done

theorem bitmapTrue_executeAll {requests : List Request} (consistent : before.Consistent)
    (bitmapTrue : before.BitmapTrue)
    (meet : AllMeet md5 (fun disk request => Succeeds md5 disk request ∧
      KeepsBitmapTrue md5 disk request) before requests) :
    (before.executeAll md5 requests).BitmapTrue := by
  induction requests generalizing before with
  | nil => exact bitmapTrue
  | cons request requests ih =>
      obtain ⟨⟨succeeds, keeps⟩, rest⟩ := meet
      have done := eq_of_code succeeds
      exact ih (consistent.execute done) (bitmapTrue.execute consistent keeps done) rest

end Commit

end Operations

theorem bitmapTrue_initStorage : (initStorage config Hash).BitmapTrue := by
  intro physical
  have linkedIff : (initStorage config Hash).links.Linked physical ↔
      physical = 0 ∨ (LinkTable.empty : LinkTable FileTag Nat Nat).Linked physical :=
    LinkTable.linked_link rfl
  rw [linkedIff]
  by_cases zero : physical = 0
  · simp [initStorage, zero]
  · simp [initStorage, zero, LinkTable.Linked]

end Disk

section Runs

variable [DecidableEq Hash] {md5 : Block config.blockSize → Hash}

/-- Along every run of successful requests that keep the bitmap true, a bit is
set exactly when some logical block is linked to its physical block. -/
theorem bitmap_iff_linked {disk : Disk config Hash}
    (reachable : ((storageSystem md5).guarded (fun before request =>
      Succeeds md5 before request ∧ KeepsBitmapTrue md5 before request)).Reachable disk)
    (physical : Nat) :
    disk.bitmap physical = true ↔
      ∃ fileTag index, disk.links.inode fileTag index = some physical := by
  have kept : ((storageSystem md5).guarded (fun before request =>
      Succeeds md5 before request ∧ KeepsBitmapTrue md5 before request)).Preserves
        (fun state => state.Consistent ∧ state.BitmapTrue) := by
    rintro before request _ ⟨consistent, bitmapTrue⟩ ⟨⟨succeeds, keeps⟩, rfl⟩
    have done := Disk.eq_of_code succeeds
    exact ⟨consistent.execute done, bitmapTrue.execute consistent keeps done⟩
  have both : disk.Consistent ∧ disk.BitmapTrue := by
    refine reachable.invariant ?_ kept
    rintro _ rfl
    exact ⟨Disk.consistent_initStorage, Disk.bitmapTrue_initStorage⟩
  exact both.2 physical

/-- Two files grow and are written, and the COMMIT of the second one relinks it from block 2, which
becomes free, to block 1. -/
theorem bitmap_iff_linked_after_relinking :
    (sampleDisk storedTwice).links.inode fileB 0 = some 1 ∧
      ∀ physical, (sampleDisk storedTwice).bitmap physical = true ↔
        ∃ fileTag index, (sampleDisk storedTwice).links.inode fileTag index = some physical := by
  have firstHeld : (sampleDisk (storedTwice.take 3)).metadata fileA =
      some ⟨1, [1], .workInProgress⟩ := by decide +kernel
  have secondHeld : (sampleDisk (storedTwice.take 7)).metadata fileB =
      some ⟨1, [2], .workInProgress⟩ := by decide +kernel
  have meet : Disk.AllMeet oneByteMd5 (fun before request =>
      Succeeds oneByteMd5 before request ∧ KeepsBitmapTrue oneByteMd5 before request)
        (initStorage fourByteConfig String) storedTwice := by
    refine ⟨⟨by decide +kernel, .of_bit (by decide +kernel) (by simp)⟩,
      ⟨by decide +kernel, .of_bit (by decide +kernel) (by simp)⟩,
      ⟨by decide +kernel, .of_bit (by decide +kernel) (by simp)⟩,
      ⟨by decide +kernel, .of_commit firstHeld ?_⟩,
      ⟨by decide +kernel, .of_bit (by decide +kernel) (by simp)⟩,
      ⟨by decide +kernel, .of_bit (by decide +kernel) (by simp)⟩,
      ⟨by decide +kernel, .of_bit (by decide +kernel) (by simp)⟩,
      ⟨by decide +kernel, .of_commit secondHeld ?_⟩, trivial⟩
    · intro index inside moves
      obtain rfl : index = 0 := by simpa using inside
      exact absurd (by decide +kernel) moves
    · intro index inside _
      obtain rfl : index = 0 := by simpa using inside
      exact ⟨fileA, 0, by decide, by decide +kernel⟩
  exact ⟨by decide +kernel, bitmap_iff_linked ⟨_, _, rfl, run_of_allMeet meet⟩⟩

/-- `initial_file:BASE` is truncated to nothing, which frees block 0; the next
growth links block 0 again and leaves its bit clear. -/
theorem linked_block_marked_free_after_growth :
    ∃ disk : Disk fourByteConfig String,
      ((storageSystem oneByteMd5).guarded (Succeeds oneByteMd5)).Reachable disk ∧
        disk.links.inode fileA 0 = some 0 ∧ disk.bitmap 0 = false := by
  have meet : Disk.AllMeet oneByteMd5 (Succeeds oneByteMd5)
      (initStorage fourByteConfig String)
      [.truncateFile initialFileBase 0, .createFile fileA, .truncateFile fileA 1] :=
    ⟨by decide +kernel, by decide +kernel, by decide +kernel, trivial⟩
  exact ⟨_, ⟨_, _, rfl, run_of_allMeet meet⟩, by decide +kernel, by decide +kernel⟩

end Runs

end Storage

end MasterOfFiles
