import MasterOfFiles.StorageCommitContents
import MasterOfFiles.StorageConsistency
import MasterOfFiles.StorageReservations

/-!
# Grown files read as zeros

`truncate_file` grows a file by linking physical block 0, which `init_storage` fills with zeros.
No operation protects that block by its number: it stays zero because `initial_file:BASE` is
committed, cannot be deleted and keeps a link to it.  A block that has been added reads as zeros
until it is written, as long as COMMIT moves it to a zero block that stays reserved.
-/

namespace MasterOfFiles

namespace Storage

variable {config : StorageConfig} {Hash : Type}

/-- Storage together with the logical blocks that a successful `truncate_file` has added and
that nobody has written, cut off or deleted since. -/
structure Growth (config : StorageConfig) (Hash : Type) where
  disk : Disk config Hash
  grown : FileTag → Nat → Bool

/-- The File:Tag exists and is not committed. -/
def Disk.InProgress (disk : Disk config Hash) (fileTag : FileTag) : Prop :=
  (disk.metadata fileTag).map FileMetadata.state = some .workInProgress

/-- A write of the logical block that has to move it finds a free physical block. -/
def Disk.FindsRoom (disk : Disk config Hash) (fileTag : FileTag) (index : Nat) : Prop :=
  (disk.links.inode fileTag index).any
      (fun physical => decide (1 < disk.links.linkCount physical)) = true →
    disk.getFreeBitIndex.any (fun free => decide (free < config.totalBlocks)) = true

/-- Which blocks are grown and unwritten after a request. -/
def Growth.grownAfter (state : Growth config Hash) : Request → FileTag → Nat → Bool
  | .truncateFile fileTag newSizeBytes => fun other index =>
    if other = fileTag ∧ (state.disk.truncateFile reliable fileTag newSizeBytes).1 = 0 then
      decide ((index : Int) < newBlockCount config newSizeBytes) &&
        (state.grown fileTag index || decide ((state.disk.blocksOf fileTag).length ≤ index))
    else state.grown other index
  | .executeBlockWrite fileTag blockNumber blockData => fun other index =>
    state.grown other index && !decide (other = fileTag ∧ index = blockNumber.toNat ∧
      (state.disk.executeBlockWrite reliable fileTag blockNumber blockData).1 = 0)
  | .deleteTag fileTag => fun other index =>
    state.grown other index && !decide (other = fileTag ∧ fileTag ≠ initialFileBase)
  | _ => state.grown

section System

variable [DecidableEq Hash]

def Growth.next (md5 : Block config.blockSize → Hash) (state : Growth config Hash)
    (request : Request) : Growth config Hash :=
  ⟨(state.disk.execute reliable md5 request).2, state.grownAfter request⟩

/-- Storage from its start, with the grown blocks written down. -/
def growthSystem (md5 : Block config.blockSize → Hash) :
    TransitionSystem (Growth config Hash) Request :=
  .ofNext (fun state => state = ⟨initStorage config Hash, fun _ _ => false⟩)
    fun state request => some (state.next md5 request)

/-- The condition: `initial_file:BASE` is not truncated to nothing, a write of a grown block
finds room, and COMMIT moves a grown block to a zero block that is reserved. -/
def KeepsZeros (md5 : Block config.blockSize → Hash) (state : Growth config Hash) :
    Request → Prop
  | .truncateFile fileTag newSizeBytes =>
    fileTag = initialFileBase → newBlockCount config newSizeBytes ≠ 0
  | .executeBlockWrite fileTag blockNumber _ =>
    state.grown fileTag blockNumber.toNat = true → state.disk.InProgress fileTag →
      state.disk.FindsRoom fileTag blockNumber.toNat
  | .executeTagCommit fileTag => state.disk.InProgress fileTag →
    ∀ index < (state.disk.blocksOf fileTag).length, state.grown fileTag index = true →
      Disk.MovesSafely md5 state.disk fileTag (state.disk.blocksOf fileTag) index
        (zeroBlock config.blockSize)
  | _ => True

instance (disk : Disk config Hash) (fileTag : FileTag) : Decidable (disk.InProgress fileTag) :=
  inferInstanceAs (Decidable (_ = _))

instance (disk : Disk config Hash) (fileTag : FileTag) (index : Nat) :
    Decidable (disk.FindsRoom fileTag index) :=
  inferInstanceAs (Decidable (_ → _))

instance (md5 : Block config.blockSize → Hash) (disk : Disk config Hash) (fileTag : FileTag)
    (blocks : List Nat) (index : Nat) (bytes : Block config.blockSize) :
    Decidable (Disk.MovesSafely md5 disk fileTag blocks index bytes) :=
  inferInstanceAs (Decidable (_ ∨ _))

instance (md5 : Block config.blockSize → Hash) :
    ∀ (state : Growth config Hash) (request : Request), Decidable (KeepsZeros md5 state request)
  | _, .truncateFile _ _ => inferInstanceAs (Decidable (_ → _))
  | _, .executeBlockWrite _ _ _ => inferInstanceAs (Decidable (_ → _))
  | _, .executeTagCommit _ => inferInstanceAs (Decidable (_ → _))
  | _, .createFile _ => instDecidableTrue
  | _, .createTag _ _ => instDecidableTrue
  | _, .executeBlockRead _ _ => instDecidableTrue
  | _, .deleteTag _ => instDecidableTrue

end System

namespace Disk

variable {disk after : Disk config Hash} {fileTag other : FileTag} {index : Nat}

/-- What keeps physical block 0 zero. -/
structure Anchored (disk : Disk config Hash) : Prop where
  wellFormed : disk.WellFormed
  zero : disk.content 0 = zeroBlock config.blockSize
  anchor : disk.Reserved initialFileBase 0 0
  committed : (disk.metadata initialFileBase).map FileMetadata.state = some .committed
  holds : 0 < (disk.blocksOf initialFileBase).length

theorem anchored_initStorage : (initStorage config Hash).Anchored := by
  refine ⟨wellFormed_initStorage, rfl, ⟨?_, ?_⟩, ?_, ?_⟩
  · simp [initStorage]
  · simp [initStorage]
  · simp [initStorage]
  · simp [initStorage, blocksOf]

theorem metadata_setMetadata (disk : Disk config Hash) (fileTag : FileTag)
    (metadata : FileMetadata) :
    (disk.setMetadata fileTag metadata).metadata fileTag = some metadata :=
  Function.update_self ..

/-- The metadata after a truncation: untouched when it fails, else with the new block count. -/
theorem truncateFile_metadata (disk : Disk config Hash) (fileTag : FileTag)
    (newSizeBytes : Int32) :
    ((disk.truncateFile reliable fileTag newSizeBytes).1 ≠ 0 ∧
        (disk.truncateFile reliable fileTag newSizeBytes).2.metadata = disk.metadata) ∨
      ((disk.truncateFile reliable fileTag newSizeBytes).1 = 0 ∧
        ∃ metadata new, disk.metadata fileTag = some metadata ∧
          (disk.truncateFile reliable fileTag newSizeBytes).2.metadata fileTag = some new ∧
          new.state = metadata.state ∧
          (new.blocks.length : Int) = newBlockCount config newSizeBytes) := by
  by_cases done : (disk.truncateFile reliable fileTag newSizeBytes).1 = 0
  · obtain ⟨metadata, held, outcome⟩ := truncateFile_success (eq_of_code done)
    refine Or.inr ⟨done, metadata, ?_⟩
    rcases outcome with ⟨same, afterEq⟩ | ⟨newCount, countEq, countLt, afterEq⟩ |
      ⟨extra, grown, countEq, _, _, afterEq⟩
    · rw [afterEq]
      exact ⟨_, held, metadata_setMetadata _ _ _, rfl, same.symm⟩
    · rw [afterEq]
      refine ⟨_, held, metadata_setMetadata _ _ _, rfl, ?_⟩
      rw [countEq, List.length_take, Nat.min_eq_left (Nat.le_of_lt countLt)]
    · rw [afterEq]
      refine ⟨_, held, metadata_setMetadata _ _ _, rfl, ?_⟩
      rw [countEq, List.length_append, List.length_replicate]
  · refine Or.inl ⟨done, ?_⟩
    simp only [truncateFile, readFileMetadata_reliable, saveFileMetadata_reliable,
      reliable_apply, Bool.false_eq_true, or_false] at done ⊢
    split
    · rfl
    · rename_i metadata held
      simp only [held] at done
      split
      · rename_i same
        simp [same] at done
      · rename_i different
        simp only [different, if_false] at done
        split
        · rfl
        · rename_i nonnegative
          simp only [nonnegative, if_false] at done
          split
          · rename_i shrinks
            simp [shrinks] at done
          · rename_i grows
            simp only [grows, if_false] at done
            have linking := linkZeroBlocks_linksOnly disk fileTag metadata.blocks.length
              ((newBlockCount config newSizeBytes).toNat - metadata.blocks.length)
            split
            · rename_i failed loop
              rw [loop] at linking
              exact linking.metadata
            · rename_i grown loop
              simp [loop] at done

theorem Anchored.truncateFile (anchored : disk.Anchored) {newSizeBytes : Int32}
    (positive : newBlockCount config newSizeBytes ≠ 0) :
    (disk.truncateFile reliable initialFileBase newSizeBytes).2.Anchored := by
  have touches : Touches initialFileBase (fun _ => False) disk
      (disk.truncateFile reliable initialFileBase newSizeBytes).2 :=
    truncateFile_touches disk initialFileBase newSizeBytes
  have wellFormed := touches.wellFormed anchored.wellFormed
  have zero := (touches.content 0 id).trans anchored.zero
  have anchor : (disk.truncateFile reliable initialFileBase newSizeBytes).2.Reserved
      initialFileBase 0 0 :=
    anchored.anchor.truncateFile newSizeBytes (by right; omega)
  rcases truncateFile_metadata disk initialFileBase newSizeBytes with
    ⟨_, same⟩ | ⟨_, metadata, new, held, newHeld, stateEq, lengthEq⟩
  · refine ⟨wellFormed, zero, anchor, ?_, ?_⟩
    · rw [same]
      exact anchored.committed
    · rw [blocksOf, same]
      exact anchored.holds
  · refine ⟨wellFormed, zero, anchor, ?_, ?_⟩
    · have committed := anchored.committed
      rw [held, Option.map_some] at committed
      rw [newHeld, Option.map_some, stateEq]
      exact committed
    · rw [blocksOf_of_metadata newHeld]
      omega

section Anchor

variable [DecidableEq Hash] {md5 : Block config.blockSize → Hash}

/-- `initial_file:BASE` refuses everything but a truncation. -/
theorem Anchored.refuses (anchored : disk.Anchored) {request : Request}
    (aimed : request.target = initialFileBase)
    (resizes : ∀ newSizeBytes, request ≠ .truncateFile initialFileBase newSizeBytes) :
    (disk.execute reliable md5 request).2 = disk := by
  obtain ⟨metadata, held, committed⟩ := Option.map_eq_some_iff.mp anchored.committed
  have present := anchored.wellFormed.tagDirs initialFileBase (by simp [held])
  cases request with
  | createFile target =>
      obtain rfl : target = initialFileBase := aimed
      simp [execute, createFile, createFileDirStructure, present, fileTagAlreadyExists]
  | truncateFile target newSizeBytes =>
      obtain rfl : target = initialFileBase := aimed
      exact absurd rfl (resizes newSizeBytes)
  | createTag source target =>
      obtain rfl : target = initialFileBase := aimed
      simp [execute, createTag, held]
  | executeBlockWrite target blockNumber blockData =>
      obtain rfl : target = initialFileBase := aimed
      simp [execute, executeBlockWrite, present, held, committed]
  | executeBlockRead target blockNumber => simp
  | executeTagCommit target =>
      obtain rfl : target = initialFileBase := aimed
      simp [execute, executeTagCommit, present, held, committed]
  | deleteTag target =>
      obtain rfl : target = initialFileBase := aimed
      simp [execute, deleteTag]

/-- A request for another File:Tag leaves the names of this one reserved. -/
theorem Reserved.execute_of_ne {physical : Nat} {request : Request}
    (reserved : disk.Reserved fileTag index physical) (different : fileTag ≠ request.target) :
    (disk.execute reliable md5 request).2.Reserved fileTag index physical := by
  cases request with
  | createFile target => exact reserved.createFile
  | truncateFile target newSizeBytes => exact reserved.truncateFile _ (Or.inl different)
  | createTag source target => exact reserved.createTag source
  | executeBlockWrite target blockNumber blockData =>
      exact reserved.executeBlockWrite _ _ fun same => different same.1
  | executeBlockRead target blockNumber =>
      rw [execute_executeBlockRead]
      exact reserved
  | executeTagCommit target => exact reserved.executeTagCommit_of_ne different
  | deleteTag target => exact reserved.deleteTag (Or.inl different)

/-- Block 0 stays zero unless `initial_file:BASE` is truncated to nothing. -/
theorem Anchored.execute (anchored : disk.Anchored) {request : Request}
    (keeps : ∀ newSizeBytes, request = .truncateFile initialFileBase newSizeBytes →
      newBlockCount config newSizeBytes ≠ 0) :
    (disk.execute reliable md5 request).2.Anchored := by
  by_cases aimed : request.target = initialFileBase
  · by_cases resizes : ∃ newSizeBytes, request = .truncateFile initialFileBase newSizeBytes
    · obtain ⟨newSizeBytes, rfl⟩ := resizes
      exact anchored.truncateFile (keeps newSizeBytes rfl)
    · rw [anchored.refuses aimed fun newSizeBytes same => resizes ⟨newSizeBytes, same⟩]
      exact anchored
  · have different : initialFileBase ≠ request.target := Ne.symm aimed
    have touches := execute_touches md5 disk request
    have wellFormed := touches.wellFormed anchored.wellFormed
    have metadataEq := touches.metadata initialFileBase different
    refine ⟨wellFormed, ?_, anchored.anchor.execute_of_ne different, ?_, ?_⟩
    · rw [touches.content 0 (anchored.anchor.not_writes ?_)]
      · exact anchored.zero
      · rintro blockNumber blockData rfl
        exact absurd rfl aimed
    · rw [metadataEq]
      exact anchored.committed
    · rw [blocksOf, metadataEq]
      exact anchored.holds

end Anchor

section Aimed

variable {bytes : Block config.blockSize}

theorem exists_metadata_of_listed (listed : index < (disk.blocksOf fileTag).length) :
    ∃ metadata, disk.metadata fileTag = some metadata := by
  cases held : disk.metadata fileTag with
  | none => simp [blocksOf_of_missing held] at listed
  | some metadata => exact ⟨metadata, rfl⟩

theorem Keeps.of_reserved (keeps : Keeps disk disk fileTag index bytes)
    (reserved : ∀ physical, disk.Reserved fileTag index physical →
      after.Reserved fileTag index physical)
    (sameBytes : ∀ physical, disk.Reserved fileTag index physical →
      after.content physical = disk.content physical) :
    Keeps after after fileTag index bytes := by
  obtain ⟨physical, before, held⟩ := keeps
  exact ⟨physical, reserved physical before, (sameBytes physical before).trans held⟩

theorem truncateFile_code {newSizeBytes : Int32} {metadata : FileMetadata}
    (held : disk.metadata fileTag = some metadata)
    (nonnegative : 0 ≤ newBlockCount config newSizeBytes)
    (shrinks : newBlockCount config newSizeBytes ≤ metadata.blocks.length) :
    (disk.truncateFile reliable fileTag newSizeBytes).1 = 0 := by
  simp only [truncateFile, readFileMetadata_reliable, held, saveFileMetadata_reliable,
    reliable_apply, Bool.false_eq_true, or_false]
  split
  · rfl
  · rw [if_neg (by omega), if_pos (by omega)]

theorem Keeps.truncateFile (keeps : Keeps disk disk fileTag index bytes)
    (listed : index < (disk.blocksOf fileTag).length) {newSizeBytes : Int32}
    (left : (disk.truncateFile reliable fileTag newSizeBytes).1 = 0 →
      (index : Int) < newBlockCount config newSizeBytes) :
    Keeps (disk.truncateFile reliable fileTag newSizeBytes).2
      (disk.truncateFile reliable fileTag newSizeBytes).2 fileTag index bytes := by
  have touches : Touches fileTag (fun _ => False) disk
      (disk.truncateFile reliable fileTag newSizeBytes).2 :=
    truncateFile_touches disk fileTag newSizeBytes
  have inside : newBlockCount config newSizeBytes < 0 ∨
      (index : Int) < newBlockCount config newSizeBytes := by
    obtain ⟨metadata, held⟩ := exists_metadata_of_listed listed
    rw [blocksOf_of_metadata held] at listed
    by_contra outside
    rw [not_or] at outside
    have done : (disk.truncateFile reliable fileTag newSizeBytes).1 = 0 :=
      truncateFile_code held (by omega) (by omega)
    exact outside.2 (left done)
  exact keeps.of_reserved (fun _ reserved => reserved.truncateFile newSizeBytes (Or.inr inside))
    (fun physical _ => touches.content physical id)

/-- The blocks that a truncation adds are linked to block 0. -/
theorem inode_truncateFile {newSizeBytes : Int32}
    (done : (disk.truncateFile reliable fileTag newSizeBytes).1 = 0)
    (added : (disk.blocksOf fileTag).length ≤ index)
    (inside : (index : Int) < newBlockCount config newSizeBytes) :
    (disk.truncateFile reliable fileTag newSizeBytes).2.links.inode fileTag index = some 0 := by
  obtain ⟨metadata, held, outcome⟩ := truncateFile_success (eq_of_code done)
  rw [blocksOf_of_metadata held] at added
  rcases outcome with ⟨same, _⟩ | ⟨newCount, countEq, countLt, _⟩ |
    ⟨extra, grown, countEq, _, linking, afterEq⟩
  · omega
  · omega
  · have linked := inode_linkZeroBlocks linking fileTag index
    rw [afterEq]
    exact linked.trans (if_pos ⟨rfl, added, by omega⟩)

/-- Moving a block to a free one goes through. -/
theorem moveToFreeBlock_code {physical free : Nat} (metadata : FileMetadata)
    (reserved : disk.Reserved fileTag index physical)
    (found : disk.getFreeBitIndex = some free) (inside : free < config.totalBlocks) :
    ∃ linked : Disk config Hash, linked.links.inode fileTag index = some free ∧
      disk.moveToFreeBlock reliable fileTag metadata index = (0, linked) := by
  have removal : disk.removeLogicalBlock reliable fileTag index =
      some { disk with links := disk.links.unlink fileTag index } :=
    removeLogicalBlock_reliable.mpr ⟨by simp [reserved.linked], rfl⟩
  have foundAfter : ({ disk with links := disk.links.unlink fileTag index } :
      Disk config Hash).getFreeBitIndex = some free := found
  have inBitmap : free < 8 * config.bitmapSizeBytes :=
    List.mem_range.mp (List.mem_of_find?_eq_some found)
  simp only [moveToFreeBlock, removal, reliable_apply, Bool.false_eq_true, if_false, foundAfter]
  simp [createNewHardlink, Nat.not_le.mpr inBitmap, linkLogicalBlock, Nat.not_le.mpr inside,
    setBit, setMetadata]

/-- A write of a reserved block succeeds or is refused, if it finds room. -/
theorem executeBlockWrite_code {physical : Nat} {blockNumber : UInt32} {blockData : List UInt8}
    (reserved : disk.Reserved fileTag blockNumber.toNat physical)
    (room : disk.InProgress fileTag → disk.FindsRoom fileTag blockNumber.toNat) :
    (disk.executeBlockWrite reliable fileTag blockNumber blockData).1 = 0 ∨
      (disk.executeBlockWrite reliable fileTag blockNumber blockData).2 = disk := by
  simp only [executeBlockWrite, readFileMetadata_reliable, phBlockLinks_reliable,
    reserved.linked, Option.map_some]
  split
  · exact Or.inr rfl
  · split
    · exact Or.inr rfl
    · rename_i metadata held
      split
      · exact Or.inr rfl
      · rename_i uncommitted
        split
        · exact Or.inr rfl
        · left
          have inProgress : disk.InProgress fileTag := by
            rw [InProgress, held, Option.map_some]
            cases state : metadata.state with
            | workInProgress => rfl
            | committed => exact absurd state uncommitted
          by_cases shared : 2 < disk.stNlink physical
          · rw [if_pos shared]
            have many : 1 < disk.links.linkCount physical := by
              rw [stNlink] at shared
              omega
            have found := room inProgress (by rw [reserved.linked]; simpa using many)
            obtain ⟨free, isFree, inside⟩ := (Option.any_eq_true _ _).mp found
            obtain ⟨linked, name, moved⟩ :=
              moveToFreeBlock_code metadata reserved isFree (by simpa using inside)
            rw [moved]
            simp [writeToLogicalBlock, name]
          · rw [if_neg shared]
            simp [writeToLogicalBlock, reserved.linked]

theorem length_executeBlockWrite (disk : Disk config Hash) (fileTag : FileTag)
    (blockNumber : UInt32) (blockData : List UInt8) :
    ((disk.executeBlockWrite reliable fileTag blockNumber blockData).2.blocksOf
      fileTag).length = (disk.blocksOf fileTag).length := by
  cases result : disk.executeBlockWrite reliable fileTag blockNumber blockData with
  | mk code after =>
      by_cases success : code = 0
      · subst success
        obtain ⟨metadata, physical, held, _, _, outcome⟩ := executeBlockWrite_success result
        rcases outcome with ⟨_, rfl⟩ | ⟨_, free, _, _, rfl⟩
        · rfl
        · rw [blocksOf_of_metadata (metadata_setMetadata _ _ _), blocksOf_of_metadata held,
            List.length_set]
      · have only := executeBlockWrite_linksOnly_of_failed result success
        rw [blocksOf, only.metadata]
        rfl

theorem length_executeTagCommit [DecidableEq Hash] (md5 : Block config.blockSize → Hash)
    (disk : Disk config Hash) (fileTag : FileTag) :
    ((Disk.executeTagCommit reliable md5 disk fileTag).2.blocksOf fileTag).length =
      (disk.blocksOf fileTag).length := by
  cases result : Disk.executeTagCommit reliable md5 disk fileTag with
  | mk code after =>
      by_cases success : code = 0
      · subst success
        obtain ⟨metadata, outcome⟩ := executeTagCommit_outcome result
        obtain ⟨blocks, lengthEq, _, metadataEq⟩ := outcome.metadata_eq
        rw [blocksOf_of_metadata outcome.held, ← lengthEq]
        have held : after.metadata fileTag =
            some { metadata with blocks := blocks, state := .committed } := by
          rw [metadataEq, Function.update_self]
        rw [blocksOf_of_metadata held]
      · have only := executeTagCommit_linksOnly_of_failed result success
        rw [blocksOf, only.metadata]
        rfl

end Aimed

end Disk

/-- The invariant: block 0 is anchored, and every grown block is listed, reserved and zero. -/
structure Growth.Zeroed (state : Growth config Hash) : Prop where
  anchored : state.disk.Anchored
  listed : ∀ fileTag index, state.grown fileTag index = true →
    index < (state.disk.blocksOf fileTag).length
  zeros : ∀ fileTag index, state.grown fileTag index = true →
    Disk.Keeps state.disk state.disk fileTag index (zeroBlock config.blockSize)

namespace Growth

variable {state : Growth config Hash} {fileTag : FileTag} {index : Nat} {request : Request}

/-- A request for another File:Tag grows nothing here. -/
theorem grownAfter_of_ne (different : fileTag ≠ request.target) :
    state.grownAfter request fileTag index = state.grown fileTag index := by
  cases request with
  | truncateFile target newSizeBytes => exact if_neg fun same => different same.1
  | executeBlockWrite target blockNumber blockData =>
      have elsewhere : ¬ fileTag = target := different
      simp [grownAfter, elsewhere]
  | deleteTag target =>
      have elsewhere : ¬ fileTag = target := different
      simp [grownAfter, elsewhere]
  | _ => rfl

/-- A block that has been truncated to or added by a truncation. -/
theorem Zeroed.truncateFile (zeroed : state.Zeroed) {newSizeBytes : Int32}
    (anchored : (state.disk.truncateFile reliable fileTag newSizeBytes).2.Anchored)
    (grown : state.grownAfter (.truncateFile fileTag newSizeBytes) fileTag index = true) :
    index < ((state.disk.truncateFile reliable fileTag newSizeBytes).2.blocksOf
        fileTag).length ∧
      Disk.Keeps (state.disk.truncateFile reliable fileTag newSizeBytes).2
        (state.disk.truncateFile reliable fileTag newSizeBytes).2 fileTag index
        (zeroBlock config.blockSize) := by
  rcases Disk.truncateFile_metadata state.disk fileTag newSizeBytes with
    ⟨failed, same⟩ | ⟨done, metadata, new, held, newHeld, _, lengthEq⟩
  · have before : state.grown fileTag index = true := by
      simpa [grownAfter, failed] using grown
    have listed := zeroed.listed fileTag index before
    refine ⟨?_, ?_⟩
    · rw [Disk.blocksOf, same]
      exact listed
    · exact (zeroed.zeros fileTag index before).truncateFile listed
        fun succeeded => absurd succeeded failed
  · obtain ⟨inside, old | added⟩ : (index : Int) < newBlockCount config newSizeBytes ∧
        (state.grown fileTag index = true ∨
          (state.disk.blocksOf fileTag).length ≤ index) := by
      simpa [grownAfter, done] using grown
    · refine ⟨?_, ?_⟩
      · rw [Disk.blocksOf_of_metadata newHeld]
        omega
      · exact (zeroed.zeros fileTag index old).truncateFile (zeroed.listed fileTag index old)
          fun _ => inside
    · refine ⟨?_, 0, ⟨?_, anchored.anchor.bit⟩, anchored.zero⟩
      · rw [Disk.blocksOf_of_metadata newHeld]
        omega
      · exact Disk.inode_truncateFile done added inside

/-- A block of the written File:Tag that has not been written itself. -/
theorem Zeroed.executeBlockWrite (zeroed : state.Zeroed) {blockNumber : UInt32}
    {blockData : List UInt8}
    (room : state.grown fileTag blockNumber.toNat = true → state.disk.InProgress fileTag →
      state.disk.FindsRoom fileTag blockNumber.toNat)
    (grown : state.grownAfter (.executeBlockWrite fileTag blockNumber blockData) fileTag
      index = true) :
    index < ((state.disk.executeBlockWrite reliable fileTag blockNumber blockData).2.blocksOf
        fileTag).length ∧
      Disk.Keeps (state.disk.executeBlockWrite reliable fileTag blockNumber blockData).2
        (state.disk.executeBlockWrite reliable fileTag blockNumber blockData).2 fileTag index
        (zeroBlock config.blockSize) := by
  obtain ⟨before, unwritten⟩ : state.grown fileTag index = true ∧
      (index ≠ blockNumber.toNat ∨
        (state.disk.executeBlockWrite reliable fileTag blockNumber blockData).1 ≠ 0) := by
    simpa [grownAfter, ← imp_iff_not_or] using grown
  have listed := zeroed.listed fileTag index before
  have keeps := zeroed.zeros fileTag index before
  refine ⟨by rw [Disk.length_executeBlockWrite]; exact listed, ?_⟩
  by_cases here : index = blockNumber.toNat
  · obtain ⟨physical, reserved, _⟩ := keeps
    have outcome : (state.disk.executeBlockWrite reliable fileTag blockNumber blockData).1 = 0 ∨
        (state.disk.executeBlockWrite reliable fileTag blockNumber blockData).2 =
          state.disk := by
      apply Disk.executeBlockWrite_code
      · exact here ▸ reserved
      · exact room (here ▸ before)
    rcases outcome with done | same
    · exact absurd done (unwritten.resolve_left (not_not_intro here))
    · rw [same]
      exact zeroed.zeros fileTag index before
  · have touches := Disk.executeBlockWrite_touches state.disk fileTag blockNumber blockData
    apply keeps.of_reserved
    · exact fun physical reserved => reserved.executeBlockWrite _ _ fun same => here same.2
    · intro physical reserved
      apply touches.content physical
      have untouched : ¬ (Request.executeBlockWrite fileTag blockNumber blockData).Writes
          state.disk physical := by
        apply reserved.not_writes
        rintro otherNumber otherData same
        cases same
        exact here
      exact untouched

section Steps

variable [DecidableEq Hash] {md5 : Block config.blockSize → Hash}

theorem Zeroed.of_ne (zeroed : state.Zeroed) (different : fileTag ≠ request.target)
    (grown : state.grown fileTag index = true) :
    index < ((state.next md5 request).disk.blocksOf fileTag).length ∧
      Disk.Keeps (state.next md5 request).disk (state.next md5 request).disk fileTag index
        (zeroBlock config.blockSize) := by
  have touches := Disk.execute_touches md5 state.disk request
  refine ⟨?_, ?_⟩
  · rw [next, Disk.blocksOf, touches.metadata fileTag different]
    exact zeroed.listed fileTag index grown
  · apply (zeroed.zeros fileTag index grown).of_reserved
    · exact fun physical reserved => reserved.execute_of_ne different
    · intro physical reserved
      apply touches.content physical
      apply reserved.not_writes
      rintro blockNumber blockData rfl
      exact absurd rfl different

/-- A block of the committed File:Tag. -/
theorem Zeroed.executeTagCommit (zeroed : state.Zeroed)
    (safely : KeepsZeros md5 state (.executeTagCommit fileTag))
    (grown : state.grown fileTag index = true) :
    index < ((Disk.executeTagCommit reliable md5 state.disk fileTag).2.blocksOf
        fileTag).length ∧
      Disk.Keeps (Disk.executeTagCommit reliable md5 state.disk fileTag).2
        (Disk.executeTagCommit reliable md5 state.disk fileTag).2 fileTag index
        (zeroBlock config.blockSize) := by
  have listed := zeroed.listed fileTag index grown
  refine ⟨by rw [Disk.length_executeTagCommit]; exact listed, ?_⟩
  have touches : Disk.Touches fileTag (fun _ => False) state.disk
      (Disk.executeTagCommit reliable md5 state.disk fileTag).2 :=
    Disk.executeTagCommit_touches md5 state.disk fileTag
  have kept : Disk.Keeps state.disk (Disk.executeTagCommit reliable md5 state.disk fileTag).2
      fileTag index (zeroBlock config.blockSize) := by
    apply (zeroed.zeros fileTag index grown).executeTagCommit
    intro metadata held uncommitted
    have inProgress : state.disk.InProgress fileTag := by
      rw [Disk.InProgress, held, Option.map_some]
      cases state : metadata.state with
      | workInProgress => rfl
      | committed => exact absurd state uncommitted
    have moves := safely inProgress index listed grown
    rw [Disk.blocksOf_of_metadata held] at moves
    exact moves
  obtain ⟨physical, reserved, sameBytes⟩ := kept
  exact ⟨physical, reserved, (touches.content physical id).trans sameBytes⟩

theorem Zeroed.next (zeroed : state.Zeroed) (keeps : KeepsZeros md5 state request) :
    (state.next md5 request).Zeroed := by
  have anchored : (state.disk.execute reliable md5 request).2.Anchored := by
    apply zeroed.anchored.execute
    rintro newSizeBytes rfl
    exact keeps rfl
  have grownKeeps : ∀ fileTag index, state.grownAfter request fileTag index = true →
      index < ((state.next md5 request).disk.blocksOf fileTag).length ∧
        Disk.Keeps (state.next md5 request).disk (state.next md5 request).disk fileTag index
          (zeroBlock config.blockSize) := by
    intro fileTag index grown
    by_cases aimed : request.target = fileTag
    · have unchanged : (state.disk.execute reliable md5 request).2 = state.disk →
          state.grown fileTag index = true →
          index < ((state.next md5 request).disk.blocksOf fileTag).length ∧
            Disk.Keeps (state.next md5 request).disk (state.next md5 request).disk fileTag
              index (zeroBlock config.blockSize) := by
        intro same before
        rw [Growth.next, same]
        exact ⟨zeroed.listed fileTag index before, zeroed.zeros fileTag index before⟩
      cases request with
      | createFile target =>
          obtain rfl : target = fileTag := aimed
          refine unchanged ?_ grown
          obtain ⟨metadata, held⟩ :=
            Disk.exists_metadata_of_listed (zeroed.listed target index grown)
          have present := zeroed.anchored.wellFormed.tagDirs target (by simp [held])
          simp [Disk.execute, Disk.createFile, Disk.createFileDirStructure, present,
            fileTagAlreadyExists]
      | truncateFile target newSizeBytes =>
          obtain rfl : target = fileTag := aimed
          exact zeroed.truncateFile anchored grown
      | createTag source target =>
          obtain rfl : target = fileTag := aimed
          refine unchanged ?_ grown
          obtain ⟨metadata, held⟩ :=
            Disk.exists_metadata_of_listed (zeroed.listed target index grown)
          simp [Disk.execute, Disk.createTag, held]
      | executeBlockWrite target blockNumber blockData =>
          obtain rfl : target = fileTag := aimed
          exact zeroed.executeBlockWrite keeps grown
      | executeBlockRead target blockNumber =>
          exact unchanged (Disk.execute_executeBlockRead md5 state.disk reliable _ _) grown
      | executeTagCommit target =>
          obtain rfl : target = fileTag := aimed
          exact zeroed.executeTagCommit keeps grown
      | deleteTag target =>
          obtain rfl : target = fileTag := aimed
          obtain ⟨before, isBase⟩ : state.grown target index = true ∧
              target = initialFileBase := by
            simpa [grownAfter] using grown
          refine unchanged ?_ before
          rw [isBase]
          simp [Disk.execute, Disk.deleteTag]
    · have different : fileTag ≠ request.target := Ne.symm aimed
      rw [grownAfter_of_ne different] at grown
      exact zeroed.of_ne different grown
  exact ⟨anchored, fun fileTag index grown => (grownKeeps fileTag index grown).1,
    fun fileTag index grown => (grownKeeps fileTag index grown).2⟩

end Steps

end Growth

section Runs

variable [DecidableEq Hash] {md5 : Block config.blockSize → Hash}

/-- In every run whose requests meet the condition, physical block 0 holds only zeros, and every
block that `truncate_file` has added and nobody has written since reads as zeros. -/
theorem grown_blocks_read_as_zeros {state : Growth config Hash}
    (reachable : ((growthSystem md5).guarded (KeepsZeros md5)).Reachable state) :
    state.disk.content 0 = zeroBlock config.blockSize ∧
      ∀ fileTag index, state.grown fileTag index = true →
        state.disk.executeBlockRead reliable fileTag (UInt32.ofNat index) =
          .ok (zeroBlock config.blockSize) := by
  have zeroed : state.Zeroed := by
    apply reachable.invariant
    · rintro _ rfl
      exact ⟨Disk.anchored_initStorage, by simp, by simp⟩
    · rintro before request after zeroed ⟨keeps, step⟩
      obtain rfl := Option.some.inj step
      exact zeroed.next keeps
  refine ⟨zeroed.anchored.zero, ?_⟩
  intro fileTag index grown
  have listed := zeroed.listed fileTag index grown
  obtain ⟨metadata, held⟩ := Disk.exists_metadata_of_listed listed
  obtain ⟨physical, reserved, bytes⟩ := zeroed.zeros fileTag index grown
  rw [Disk.blocksOf_of_metadata held] at listed
  apply Disk.executeBlockRead_of_index zeroed.anchored.wellFormed held listed
  rw [Disk.logicalContent, reserved.linked, Option.map_some, bytes]

/-- `fileA` is written and committed, and `fileB` grown and written after it. -/
def growAgain : List Request :=
  writeOneByte fileA 65 ++ [.executeTagCommit fileA, .createFile fileB, .truncateFile fileB 2,
    .executeBlockWrite fileB 0 [66]]

theorem grown_blocks_read_as_zeros_growAgain :
    ∃ state : Growth fourByteConfig String,
      ((growthSystem oneByteMd5).guarded (KeepsZeros oneByteMd5)).Reachable state ∧
        state.disk.executeBlockRead reliable fileB 1 =
          .ok (zeroBlock fourByteConfig.blockSize) := by
  have summary : (TransitionSystem.runNext (TransitionSystem.guardedNext
      (fun state request => some (state.next oneByteMd5 request)) (KeepsZeros oneByteMd5))
      ⟨initStorage fourByteConfig String, fun _ _ => false⟩ growAgain).map
        (fun state => state.grown fileB 1) = some true := by
    decide +kernel
  obtain ⟨state, ends, grown⟩ := Option.map_eq_some_iff.mp summary
  have reachable : ((growthSystem oneByteMd5).guarded (KeepsZeros oneByteMd5)).Reachable state :=
    ⟨_, growAgain, rfl, TransitionSystem.run_of_runGuarded ends⟩
  exact ⟨state, reachable, (grown_blocks_read_as_zeros reachable).2 fileB 1 grown⟩

/-- `initial_file:BASE` may be truncated to nothing, which leaves physical block 0 with the one
name that `fileA` gives it: the next write goes to it in place. -/
theorem block_zero_written_in_place :
    ∃ disk : Disk fourByteConfig String,
      (storageSystem oneByteMd5).Reachable disk ∧
        disk.content 0 ≠ zeroBlock fourByteConfig.blockSize ∧
        (disk.truncateFile reliable fileB 1).1 = 0 ∧
        (disk.truncateFile reliable fileB 1).2.executeBlockRead reliable fileB 0 ≠
          .ok (zeroBlock fourByteConfig.blockSize) := by
  let requests : List Request := [.truncateFile initialFileBase 0, .createFile fileA,
    .truncateFile fileA 1, .executeBlockWrite fileA 0 [65], .createFile fileB]
  refine ⟨sampleDisk requests, reachable_executeAll oneByteMd5 requests, ?_, ?_, ?_⟩
  · decide +kernel
  · decide +kernel
  · decide +kernel

end Runs

end Storage

end MasterOfFiles
