import MasterOfFiles.StorageEffects

/-!
# Blocks that stay reserved

A logical block is reserved when its name is linked to a physical block whose bit is set.  No
request takes that physical block away while the name is there: a bit is only cleared when its
block has no name left, a write goes to a block with one name or to a free one, and COMMIT moves
its own names only.  Nothing here asks the links and the metadata to agree, so it also holds
after requests that stopped halfway.
-/

namespace MasterOfFiles

namespace Storage

namespace Disk

variable {config : StorageConfig} {Hash : Type}

/-- The logical block is linked to a physical block whose bit is set. -/
structure Reserved (disk : Disk config Hash) (fileTag : FileTag) (index physical : Nat) :
    Prop where
  linked : disk.links.inode fileTag index = some physical
  bit : disk.bitmap physical = true

section Commit

/-- Move one link to another physical block. -/
def moveLink (disk : Disk config Hash) (fileTag : FileTag) (index registered : Nat) :
    Disk config Hash :=
  { disk with links := (disk.links.unlink fileTag index).link fileTag index registered }

variable [DecidableEq Hash] {md5 : Block config.blockSize → Hash}

omit [DecidableEq Hash] in
theorem updateLogicalBlockLink_cases (disk : Disk config Hash) (fileTag : FileTag)
    (index registered : Nat) :
    disk.updateLogicalBlockLink reliable fileTag index registered = (-1, disk) ∨
      (config.totalBlocks ≤ registered ∧
        disk.updateLogicalBlockLink reliable fileTag index registered =
          (-2, { disk with links := disk.links.unlink fileTag index })) ∨
      (registered < config.totalBlocks ∧
        disk.updateLogicalBlockLink reliable fileTag index registered =
          (0, disk.moveLink fileTag index registered)) := by
  rw [updateLogicalBlockLink]
  split
  · exact Or.inl rfl
  · rename_i removed removal
    obtain ⟨_, rfl⟩ := removeLogicalBlock_reliable.mp removal
    right
    rcases Nat.lt_or_ge registered config.totalBlocks with inside | outside
    · right
      simp [linkLogicalBlock, moveLink, Nat.not_le.mpr inside, inside]
    · left
      simp [linkLogicalBlock, outside]

omit [DecidableEq Hash] in
theorem freePhBlockIfUnused_cases (disk : Disk config Hash) (index physical : Nat) :
    (disk.freePhBlockIfUnused reliable index physical).2 = disk ∨
      (disk.links.linkCount physical = 0 ∧
        (disk.freePhBlockIfUnused reliable index physical).2 = disk.setBit physical false) := by
  simp only [freePhBlockIfUnused, statPhysicalBlock, reliable_apply, Bool.false_eq_true,
    false_or, if_false, stNlink]
  by_cases absent : config.totalBlocks ≤ physical
  · exact Or.inl (by simp [absent])
  · by_cases unused : disk.links.linkCount physical = 0
    · exact Or.inr ⟨unused, by simp [absent, unused]⟩
    · have used : 1 < 1 + disk.links.linkCount physical := by omega
      exact Or.inl (by simp [absent, used])

/-- What one iteration leaves on the disk, whatever it returns: a block is only moved to the
one that its hash names, and the bit of the old one is only cleared when it has no name left. -/
theorem deduplicateBlock_cases (md5 : Block config.blockSize → Hash) (fileTag : FileTag)
    (position : Nat) (state : Deduplication config Hash) :
    (deduplicateBlock reliable md5 fileTag position state).2.disk = state.disk ∨
      ∃ content registered, state.disk.logicalContent fileTag position = some content ∧
        state.hashIndex (md5 content) = some registered ∧
        registered ≠ state.blocks.getD position 0 ∧
        ((config.totalBlocks ≤ registered ∧
            (deduplicateBlock reliable md5 fileTag position state).2.disk =
              { state.disk with links := state.disk.links.unlink fileTag position }) ∨
          (deduplicateBlock reliable md5 fileTag position state).2.disk =
            state.disk.moveLink fileTag position registered ∨
          ((state.disk.moveLink fileTag position registered).links.linkCount
              (state.blocks.getD position 0) = 0 ∧
            (deduplicateBlock reliable md5 fileTag position state).2.disk =
              (state.disk.moveLink fileTag position registered).setBit
                (state.blocks.getD position 0) false)) := by
  simp only [deduplicateBlock, readBlockContent_reliable, reliable_apply,
    Bool.false_eq_true, if_false]
  split
  · exact Or.inl rfl
  · rename_i content held
    split
    · exact Or.inl rfl
    · rename_i registered found
      split
      · exact Or.inl rfl
      · rename_i different
        rcases updateLogicalBlockLink_cases state.disk fileTag position registered with
          refused | ⟨outside, failed⟩ | ⟨_, relinked⟩
        · left
          rw [refused]
          rfl
        · refine Or.inr ⟨content, registered, held, found, different, Or.inl ⟨outside, ?_⟩⟩
          rw [failed]
          rfl
        · refine Or.inr ⟨content, registered, held, found, different, Or.inr ?_⟩
          rw [relinked]
          have freeing := freePhBlockIfUnused_cases
            (state.disk.moveLink fileTag position registered) position
            (state.blocks.getD position 0)
          split
          · rename_i moved same
            obtain rfl := (Prod.mk.inj same).2
            split
            · rename_i freed result
              rw [result] at freeing
              exact freeing
            · rename_i kept _ result
              rw [result] at freeing
              exact freeing
          · rename_i notZero same
            exact (notZero (Prod.mk.inj same).1.symm).elim

end Commit

namespace Reserved

variable {disk after : Disk config Hash} {fileTag other : FileTag}
  {index position physical : Nat}

theorem of_eq (reserved : disk.Reserved fileTag index physical)
    (links : after.links = disk.links) (bitmap : after.bitmap = disk.bitmap) :
    after.Reserved fileTag index physical := by
  refine ⟨?_, ?_⟩
  · rw [links]
    exact reserved.linked
  · rw [bitmap]
    exact reserved.bit

theorem unlink (reserved : disk.Reserved fileTag index physical)
    (elsewhere : ¬ (fileTag = other ∧ index = position)) :
    ({ disk with links := disk.links.unlink other position } :
      Disk config Hash).Reserved fileTag index physical := by
  refine ⟨?_, reserved.bit⟩
  rw [LinkTable.inode_unlink, if_neg elsewhere]
  exact reserved.linked

theorem link (reserved : disk.Reserved fileTag index physical)
    (elsewhere : ¬ (fileTag = other ∧ index = position)) (target : Nat) :
    ({ disk with links := disk.links.link other position target } :
      Disk config Hash).Reserved fileTag index physical := by
  refine ⟨?_, reserved.bit⟩
  rw [LinkTable.inode_link, if_neg elsewhere]
  exact reserved.linked

/-- The bit of a block without names is cleared. -/
theorem clearBit (reserved : disk.Reserved fileTag index physical) {freed : Nat}
    (unnamed : disk.links.linkCount freed = 0) :
    (disk.setBit freed false).Reserved fileTag index physical := by
  refine ⟨reserved.linked, ?_⟩
  have different : physical ≠ freed := by
    rintro rfl
    exact (LinkTable.linkCount_eq_zero_iff _ _).mp unnamed ⟨fileTag, index, reserved.linked⟩
  exact (Function.update_of_ne different _ _).trans reserved.bit

theorem reserve (reserved : disk.Reserved fileTag index physical) (free : Nat) :
    (disk.setBit free true).Reserved fileTag index physical := by
  refine ⟨reserved.linked, ?_⟩
  by_cases same : physical = free
  · simp [setBit, same]
  · exact (Function.update_of_ne same _ _).trans reserved.bit

theorem ne_of_getFreeBitIndex (reserved : disk.Reserved fileTag index physical) {free : Nat}
    (found : disk.getFreeBitIndex = some free) : physical ≠ free := by
  rintro rfl
  exact absurd (reserved.bit.symm.trans (bitmap_of_getFreeBitIndex found)) (by simp)

section Loops

theorem deleteLogicalBlock (reserved : disk.Reserved fileTag index physical)
    (elsewhere : ¬ (fileTag = other ∧ index = position)) (freed : Nat) :
    (disk.deleteLogicalBlock reliable other position freed).2.Reserved fileTag index
      physical := by
  rw [Disk.deleteLogicalBlock]
  split
  · exact reserved
  · rename_i removed removal
    obtain ⟨_, rfl⟩ := removeLogicalBlock_reliable.mp removal
    have unlinked := reserved.unlink elsewhere
    split
    · exact unlinked
    · rename_i links counted
      split
      · exact unlinked
      · rename_i onlyName
        have unnamed : (disk.links.unlink other position).linkCount freed = 0 := by
          simp only [statPhysicalBlock, reliable_apply, Bool.false_eq_true, false_or] at counted
          split at counted
          · simp at counted
          · simp only [Option.some.injEq, stNlink] at counted
            omega
        rw [modifyBitmapBit_reliable]
        exact unlinked.clearBit unnamed

theorem deleteSurplusBlocks (reserved : disk.Reserved fileTag index physical)
    (start : Nat) (blocks : List Nat) (kept : fileTag ≠ other ∨ index < start) :
    (Disk.deleteSurplusBlocks reliable other start blocks disk).Reserved fileTag index
      physical := by
  induction blocks generalizing start disk with
  | nil => exact reserved
  | cons freed rest ih =>
      rw [Disk.deleteSurplusBlocks]
      apply ih
      · apply reserved.deleteLogicalBlock
        rintro ⟨sameTag, rfl⟩
        rcases kept with different | before
        · exact different sameTag
        · exact absurd before (Nat.lt_irrefl _)
      · exact kept.imp_right Nat.lt_succ_of_lt

theorem deleteTagBlocks (reserved : disk.Reserved fileTag index physical)
    (start : Nat) (blocks : List Nat) (different : fileTag ≠ other) :
    (Disk.deleteTagBlocks reliable other start blocks disk).2.Reserved fileTag index
      physical := by
  induction blocks generalizing start disk with
  | nil => exact reserved
  | cons freed rest ih =>
      have first : (disk.deleteLogicalBlock reliable other start freed).2.Reserved fileTag index
          physical :=
        reserved.deleteLogicalBlock (fun same => different same.1) freed
      rw [Disk.deleteTagBlocks]
      split
      · rename_i deleted step
        rw [step] at first
        exact ih first (start + 1)
      · rename_i failed _ step
        rw [step] at first
        exact first

theorem linkZeroBlocks (reserved : disk.Reserved fileTag index physical)
    (start count : Nat) :
    (Disk.linkZeroBlocks reliable other start count disk).2.Reserved fileTag index physical := by
  induction count generalizing start disk with
  | zero => exact reserved
  | succ count ih =>
      rw [Disk.linkZeroBlocks]
      split
      · exact reserved
      · rename_i linked linking
        obtain ⟨_, free, rfl⟩ := linkLogicalBlock_reliable.mp linking
        apply ih
        apply reserved.link
        rintro ⟨rfl, rfl⟩
        exact absurd (reserved.linked.symm.trans free) (by simp)

end Loops

section Commit

theorem moveLink (reserved : disk.Reserved fileTag index physical)
    (elsewhere : ¬ (fileTag = other ∧ index = position)) (registered : Nat) :
    (disk.moveLink other position registered).Reserved fileTag index physical :=
  (reserved.unlink elsewhere).link elsewhere registered

variable [DecidableEq Hash] {md5 : Block config.blockSize → Hash}

/-- An iteration of COMMIT for another logical block. -/
theorem deduplicateBlock {state : Deduplication config Hash}
    (reserved : state.disk.Reserved fileTag index physical)
    (elsewhere : ¬ (fileTag = other ∧ index = position)) :
    (Disk.deduplicateBlock reliable md5 other position state).2.disk.Reserved fileTag index
      physical := by
  have moved := fun registered => reserved.moveLink elsewhere registered
  rcases deduplicateBlock_cases md5 other position state with
    same | ⟨content, registered, _, _, _, ⟨_, removed⟩ | relinked | ⟨unnamed, freed⟩⟩
  · rw [same]
    exact reserved
  · rw [removed]
    exact reserved.unlink elsewhere
  · rw [relinked]
    exact moved registered
  · rw [freed]
    exact (moved registered).clearBit unnamed

theorem deduplicateLoop_of_ne (different : fileTag ≠ other) (start remaining : Nat)
    {state : Deduplication config Hash}
    (reserved : state.disk.Reserved fileTag index physical) :
    (Disk.deduplicateLoop reliable md5 other start remaining state).2.disk.Reserved fileTag
      index physical := by
  induction remaining generalizing start state with
  | zero => exact reserved
  | succ remaining ih =>
      have first : (Disk.deduplicateBlock reliable md5 other start state).2.disk.Reserved fileTag
          index physical :=
        reserved.deduplicateBlock fun same => different same.1
      rw [Disk.deduplicateLoop]
      split
      · rename_i next iteration
        rw [iteration] at first
        exact ih (start + 1) first
      · exact first

end Commit

section Operations

theorem createFile (reserved : disk.Reserved fileTag index physical) :
    (disk.createFile reliable other).2.Reserved fileTag index physical := by
  by_cases present : disk.tagDirs other = true
  · simpa [Disk.createFile, createFileDirStructure, present, fileTagAlreadyExists] using reserved
  · have made : ((disk.makeDirectories other).setMetadata other defaultMetadata).Reserved fileTag
        index physical := reserved.of_eq rfl rfl
    simpa [Disk.createFile, createFileDirStructure, present] using made

theorem truncateFile (reserved : disk.Reserved fileTag index physical) (newSizeBytes : Int32)
    (kept : fileTag ≠ other ∨ newBlockCount config newSizeBytes < 0 ∨
      (index : Int) < newBlockCount config newSizeBytes) :
    (disk.truncateFile reliable other newSizeBytes).2.Reserved fileTag index physical := by
  simp only [Disk.truncateFile, readFileMetadata_reliable, saveFileMetadata_reliable,
    reliable_apply, Bool.false_eq_true, or_false]
  split
  · exact reserved
  · rename_i metadata held
    split
    · exact reserved.of_eq rfl rfl
    · split
      · exact reserved
      · rename_i nonnegative
        split
        · have freed := reserved.deleteSurplusBlocks (newBlockCount config newSizeBytes).toNat
            (metadata.blocks.drop (newBlockCount config newSizeBytes).toNat)
            (kept.imp_right fun inside => by omega)
          exact freed.of_eq rfl rfl
        · have grown : (Disk.linkZeroBlocks reliable other metadata.blocks.length
              ((newBlockCount config newSizeBytes).toNat - metadata.blocks.length)
              disk).2.Reserved fileTag index physical :=
            reserved.linkZeroBlocks _ _
          split
          · rename_i failed loop
            rw [loop] at grown
            exact grown
          · rename_i linked loop
            rw [loop] at grown
            exact grown.of_eq rfl rfl

/-- A copy of links adds names to the target and changes none that it has. -/
theorem createTag (reserved : disk.Reserved fileTag index physical) (source : FileTag) :
    (disk.createTag reliable source other).2.Reserved fileTag index physical := by
  have copied : ∀ made : Disk config Hash, made.links = disk.links.copyDirectory source other →
      made.bitmap = disk.bitmap → made.Reserved fileTag index physical := by
    intro made linksEq bitmapEq
    refine ⟨?_, ?_⟩
    · rw [linksEq, LinkTable.inode_copyDirectory, if_neg]
      · exact reserved.linked
      · rintro ⟨rfl, free⟩
        simp [reserved.linked] at free
    · rw [bitmapEq]
      exact reserved.bit
  simp only [Disk.createTag, readFileMetadata_reliable]
  split
  · exact reserved
  · split
    · exact reserved
    · rename_i absent metadata held
      simp only [makeTagDirectories, reliable_apply, Bool.false_eq_true, false_or,
        and_false, if_false, copyLogicalBlocks, createMetadataFile_reliable]
      by_cases orphan : disk.tagDirs other = false ∧ disk.fileDirs other.file = false
      · simpa [orphan] using reserved
      · simp only [orphan, if_false]
        split_ifs
        · exact copied _ rfl rfl
        · exact copied _ rfl rfl

theorem deleteTag (reserved : disk.Reserved fileTag index physical)
    (kept : fileTag ≠ other ∨ other = initialFileBase) :
    (disk.deleteTag reliable other).2.Reserved fileTag index physical := by
  rw [Disk.deleteTag]
  split
  · exact reserved
  · rename_i unprotected
    have different : fileTag ≠ other := kept.resolve_right unprotected
    rw [readFileMetadata_reliable]
    split
    · exact reserved
    · rename_i metadata held
      have emptied := reserved.deleteTagBlocks 0 metadata.blocks different
      split
      · rename_i failed loop
        rw [loop] at emptied
        exact emptied
      · rename_i deleted loop
        rw [loop] at emptied
        simp only [deleteFileDirStructure, fileDirExists_reliable, reliable_apply,
          Bool.false_eq_true, if_false]
        by_cases present : deleted.tagDirs other = true
        · have removed : (deleted.removeDirectories other).Reserved fileTag index physical := by
            refine ⟨?_, emptied.bit⟩
            rw [removeDirectories, LinkTable.inode_removeDirectory, if_neg different]
            exact emptied.linked
          simpa [present] using removed
        · simpa [present, fileTagMissing] using emptied

theorem moveToFreeBlock (reserved : disk.Reserved fileTag index physical)
    (metadata : FileMetadata) (elsewhere : ¬ (fileTag = other ∧ index = position)) :
    (disk.moveToFreeBlock reliable other metadata position).2.Reserved fileTag index
      physical := by
  simp only [Disk.moveToFreeBlock, reliable_apply, Bool.false_eq_true, if_false,
    saveFileMetadata_reliable]
  split
  · exact reserved
  · rename_i removed removal
    obtain ⟨_, rfl⟩ := removeLogicalBlock_reliable.mp removal
    have unlinked := reserved.unlink elsewhere
    split
    · exact unlinked
    · rename_i free found
      have marked := unlinked.reserve free
      split
      · exact marked
      · rename_i linked linking
        rw [createNewHardlink] at linking
        split at linking
        · simp at linking
        · obtain ⟨_, _, rfl⟩ := linkLogicalBlock_reliable.mp linking
          exact (marked.link elsewhere free).of_eq rfl rfl

/-- A write moves its own name only, to a block whose bit was clear. -/
theorem executeBlockWrite (reserved : disk.Reserved fileTag index physical)
    (blockNumber : UInt32) (blockData : List UInt8)
    (elsewhere : ¬ (fileTag = other ∧ index = blockNumber.toNat)) :
    (disk.executeBlockWrite reliable other blockNumber blockData).2.Reserved fileTag index
      physical := by
  rw [Disk.executeBlockWrite]
  split
  · exact reserved
  · split
    · exact reserved
    · rename_i metadata held
      split
      · exact reserved
      · split
        · exact reserved
        · split
          · exact reserved
          · rename_i numHardlinks counted
            have own : (if 2 < numHardlinks then
                disk.moveToFreeBlock reliable other metadata blockNumber.toNat
              else (0, disk)).2.Reserved fileTag index physical := by
              split
              · exact reserved.moveToFreeBlock metadata elsewhere
              · exact reserved
            split
            · rename_i owned moving
              rw [moving] at own
              split
              · exact own
              · rename_i written writing
                simp only [writeToLogicalBlock, reliable_apply, Bool.false_eq_true,
                  if_false] at writing
                obtain ⟨target, _, rfl⟩ := Option.map_eq_some_iff.mp writing
                exact own.of_eq rfl rfl
            · rename_i failed moving
              exact own

/-- The bytes of a reserved block change only by a write to its own name. -/
theorem not_writes (reserved : disk.Reserved fileTag index physical) {request : Request}
    (elsewhere : ∀ blockNumber blockData,
      request = .executeBlockWrite fileTag blockNumber blockData → index ≠ blockNumber.toNat) :
    ¬ request.Writes disk physical := by
  cases request with
  | executeBlockWrite target blockNumber blockData =>
      rintro ⟨current, linked, ⟨few, rfl⟩ | ⟨_, found⟩⟩
      · obtain ⟨rfl, rfl⟩ := LinkTable.name_unique_of_linkCount_le_one few reserved.linked linked
        exact elsewhere blockNumber blockData rfl rfl
      · exact reserved.ne_of_getFreeBitIndex found rfl
  | _ => exact id

end Operations

end Reserved

section Commit

variable [DecidableEq Hash] {md5 : Block config.blockSize → Hash} {disk start : Disk config Hash}
  {fileTag other : FileTag} {index physical : Nat} {bytes : Block config.blockSize}

/-- A logical block is reserved, and its bytes are known. -/
def Keeps (start disk : Disk config Hash) (fileTag : FileTag) (index : Nat)
    (bytes : Block config.blockSize) : Prop :=
  ∃ physical, disk.Reserved fileTag index physical ∧ start.content physical = bytes

/-- COMMIT leaves the logical block where it is, or moves it to an existing block with the same
bytes whose bit is set, and no earlier logical block has left that one. -/
def MovesSafely (md5 : Block config.blockSize → Hash) (disk : Disk config Hash)
    (fileTag : FileTag) (blocks : List Nat) (index : Nat) (bytes : Block config.blockSize) :
    Prop :=
  disk.commitTarget md5 fileTag blocks index = blocks.getD index 0 ∨
    (disk.commitTarget md5 fileTag blocks index < config.totalBlocks ∧
      disk.content (disk.commitTarget md5 fileTag blocks index) = bytes ∧
      disk.bitmap (disk.commitTarget md5 fileTag blocks index) = true ∧
      ∀ earlier < index, blocks.getD earlier 0 = disk.commitTarget md5 fileTag blocks index →
        disk.commitTarget md5 fileTag blocks earlier =
          disk.commitTarget md5 fileTag blocks index)

/-- The hash index names the target of the block that the loop has reached. -/
theorem commitTarget_of_registered {blocks : List Nat} {count registered : Nat}
    {state : Deduplication config Hash} {content : Block config.blockSize}
    (invariant : DeduplicatedUpTo md5 start fileTag blocks count state)
    (held : state.disk.logicalContent fileTag count = some content)
    (found : state.hashIndex (md5 content) = some registered) :
    start.commitTarget md5 fileTag blocks count = registered := by
  rw [invariant.logicalContent_self] at held
  rw [invariant.hashIndex] at found
  simp [commitTarget, logicalHash_of_content held, found]

/-- The iteration for the logical block itself. -/
theorem Keeps.deduplicateBlock_self {blocks : List Nat} {state : Deduplication config Hash}
    (keeps : Keeps start state.disk fileTag index bytes)
    (invariant : DeduplicatedUpTo md5 start fileTag blocks index state)
    (indexLt : index < blocks.length)
    (safely : MovesSafely md5 start fileTag blocks index bytes)
    (marked : start.commitTarget md5 fileTag blocks index ≠ blocks.getD index 0 →
      state.disk.bitmap (start.commitTarget md5 fileTag blocks index) = true) :
    Keeps start (deduplicateBlock reliable md5 fileTag index state).2.disk fileTag index
      bytes := by
  have current : state.blocks.getD index 0 = blocks.getD index 0 := by
    simpa using invariant.blocks_getD index indexLt
  rcases deduplicateBlock_cases md5 fileTag index state with
    same | ⟨content, registered, held, found, different, outcome⟩
  · rw [same]
    exact keeps
  · have target := commitTarget_of_registered invariant held found
    rw [current] at different outcome
    rcases safely with stays | ⟨inside, sameBytes, _, _⟩
    · exact absurd (target.symm.trans stays) different
    · have moved : (state.disk.moveLink fileTag index registered).Reserved fileTag index
          registered := by
        refine ⟨by simp [moveLink], ?_⟩
        rw [← target]
        exact marked (by rw [target]; exact different)
      rw [target] at inside sameBytes
      rcases outcome with ⟨outside, _⟩ | relinked | ⟨unnamed, freed⟩
      · omega
      · rw [relinked]
        exact ⟨registered, moved, sameBytes⟩
      · rw [freed]
        exact ⟨registered, moved.clearBit unnamed, sameBytes⟩

/-- The bit of the target is still set after the iteration for an earlier block. -/
theorem MovesSafely.waits {blocks : List Nat} {count : Nat} {state : Deduplication config Hash}
    (safely : MovesSafely md5 start fileTag blocks index bytes)
    (invariant : DeduplicatedUpTo md5 start fileTag blocks count state)
    (countLt : count < blocks.length) (earlier : count < index)
    (moves : start.commitTarget md5 fileTag blocks index ≠ blocks.getD index 0)
    (marked : state.disk.bitmap (start.commitTarget md5 fileTag blocks index) = true) :
    (deduplicateBlock reliable md5 fileTag count state).2.disk.bitmap
      (start.commitTarget md5 fileTag blocks index) = true := by
  have current : state.blocks.getD count 0 = blocks.getD count 0 := by
    simpa using invariant.blocks_getD count countLt
  rcases deduplicateBlock_cases md5 fileTag count state with
    same | ⟨content, registered, held, found, different, outcome⟩
  · rw [same]
    exact marked
  · have target := commitTarget_of_registered invariant held found
    rw [current] at different outcome
    rcases outcome with ⟨_, removed⟩ | relinked | ⟨_, freed⟩
    · rw [removed]
      exact marked
    · rw [relinked]
      exact marked
    · rw [freed]
      refine (Function.update_of_ne ?_ _ _).trans marked
      intro left
      rcases safely with stays | ⟨_, _, _, remain⟩
      · exact moves stays
      · have sameTarget := remain count earlier left.symm
        rw [target, left] at sameTarget
        exact different sameTarget

/-- The loop of COMMIT keeps the bytes of a logical block that it moves safely, whether or not
it goes through. -/
theorem Keeps.deduplicateLoop {blocks : List Nat} {count remaining : Nat}
    {state : Deduplication config Hash}
    (invariant : DeduplicatedUpTo md5 start fileTag blocks count state)
    (total : count + remaining = blocks.length)
    (safely : MovesSafely md5 start fileTag blocks index bytes)
    (keeps : Keeps start state.disk fileTag index bytes)
    (waiting : count ≤ index → start.commitTarget md5 fileTag blocks index ≠
      blocks.getD index 0 →
        state.disk.bitmap (start.commitTarget md5 fileTag blocks index) = true) :
    Keeps start (Disk.deduplicateLoop reliable md5 fileTag count remaining state).2.disk
      fileTag index bytes := by
  induction remaining generalizing count state with
  | zero => exact keeps
  | succ remaining ih =>
      have countLt : count < blocks.length := by omega
      have step : Keeps start
            (Disk.deduplicateBlock reliable md5 fileTag count state).2.disk fileTag index bytes ∧
          (count + 1 ≤ index → start.commitTarget md5 fileTag blocks index ≠
            blocks.getD index 0 →
              (Disk.deduplicateBlock reliable md5 fileTag count state).2.disk.bitmap
                (start.commitTarget md5 fileTag blocks index) = true) := by
        by_cases here : index = count
        · subst here
          refine ⟨?_, by omega⟩
          exact keeps.deduplicateBlock_self invariant countLt safely (waiting (Nat.le_refl _))
        · refine ⟨?_, ?_⟩
          · obtain ⟨physical, reserved, held⟩ := keeps
            exact ⟨physical, reserved.deduplicateBlock fun same => here same.2, held⟩
          · intro before moves
            exact safely.waits invariant countLt (by omega) moves
              (waiting (by omega) moves)
      rw [Disk.deduplicateLoop]
      split
      · rename_i next iteration
        rw [iteration] at step
        exact ih (invariant.step countLt iteration) (by omega) step.1 step.2
      · exact step.1

theorem deduplicateBlocks_links (md5 : Block config.blockSize → Hash) (disk : Disk config Hash)
    (fileTag : FileTag) (blocks : List Nat) :
    (deduplicateBlocks reliable md5 disk fileTag blocks).2.1.links =
        (deduplicateLoop reliable md5 fileTag 0 blocks.length
          ⟨disk, disk.hashIndex, blocks⟩).2.disk.links ∧
      (deduplicateBlocks reliable md5 disk fileTag blocks).2.1.bitmap =
        (deduplicateLoop reliable md5 fileTag 0 blocks.length
          ⟨disk, disk.hashIndex, blocks⟩).2.disk.bitmap := by
  simp only [deduplicateBlocks, reliable_apply, Bool.false_eq_true, if_false,
    saveHashIndex_reliable]
  split
  · rename_i noBlocks
    rw [noBlocks, deduplicateLoop]
    exact ⟨rfl, rfl⟩
  · split
    · rename_i final whole
      rw [whole]
      exact ⟨rfl, rfl⟩
    · rename_i code final notZero whole
      rw [whole]
      exact ⟨rfl, rfl⟩

/-- COMMIT leaves the links and bits of its loop, whatever it returns. -/
theorem executeTagCommit_cases (md5 : Block config.blockSize → Hash) (disk : Disk config Hash)
    (fileTag : FileTag) :
    (executeTagCommit reliable md5 disk fileTag).2 = disk ∨
      ∃ metadata, disk.metadata fileTag = some metadata ∧ metadata.state ≠ .committed ∧
        (executeTagCommit reliable md5 disk fileTag).2.links =
          (deduplicateLoop reliable md5 fileTag 0 metadata.blocks.length
            ⟨disk, disk.hashIndex, metadata.blocks⟩).2.disk.links ∧
        (executeTagCommit reliable md5 disk fileTag).2.bitmap =
          (deduplicateLoop reliable md5 fileTag 0 metadata.blocks.length
            ⟨disk, disk.hashIndex, metadata.blocks⟩).2.disk.bitmap := by
  simp only [executeTagCommit, readFileMetadata_reliable, saveFileMetadata_reliable,
    reliable_apply, Bool.false_eq_true, if_false]
  split
  · exact Or.inl rfl
  · split
    · exact Or.inl rfl
    · rename_i metadata held
      split
      · exact Or.inl rfl
      · rename_i inProgress
        right
        refine ⟨metadata, held, inProgress, ?_⟩
        have loop := deduplicateBlocks_links md5 disk fileTag metadata.blocks
        split
        · rename_i deduplicated blocks result
          rw [result] at loop
          exact loop
        · rename_i code failed blocks notZero result
          rw [result] at loop
          exact loop

theorem Reserved.executeTagCommit_of_ne (reserved : disk.Reserved fileTag index physical)
    (different : fileTag ≠ other) :
    (executeTagCommit reliable md5 disk other).2.Reserved fileTag index physical := by
  rcases executeTagCommit_cases md5 disk other with same | ⟨metadata, _, _, links, bitmap⟩
  · rw [same]
    exact reserved
  · exact (Reserved.deduplicateLoop_of_ne different 0 metadata.blocks.length reserved).of_eq links
      bitmap

theorem Keeps.executeTagCommit (keeps : Keeps disk disk fileTag index bytes)
    (safely : ∀ metadata, disk.metadata fileTag = some metadata → metadata.state ≠ .committed →
      MovesSafely md5 disk fileTag metadata.blocks index bytes) :
    Keeps disk (Disk.executeTagCommit reliable md5 disk fileTag).2 fileTag index bytes := by
  rcases executeTagCommit_cases md5 disk fileTag with
    same | ⟨metadata, held, inProgress, links, bitmap⟩
  · rw [same]
    exact keeps
  · have moves := safely metadata held inProgress
    obtain ⟨physical, reserved, sameBytes⟩ := keeps.deduplicateLoop
      (DeduplicatedUpTo.initial disk metadata.blocks) (Nat.zero_add _) moves
      (fun _ leaves => (moves.resolve_left leaves).2.2.1)
    exact ⟨physical, reserved.of_eq links bitmap, sameBytes⟩

end Commit

end Disk

end Storage

end MasterOfFiles
