import MasterOfFiles.LockOrder
import MasterOfFiles.StorageBitmapThreads

/-!
# The mutexes of the Storage module

`execute_block_write`, `execute_tag_commit`, `truncate_file` and `delete_tag` from one call to
the next, with every exit they have.  `bitmap_load` takes `g_storage_bitmap_mutex` and returns
with it when it succeeds; `bitmap_persist` gives it back on every path; `modify_bitmap_bits`
takes and releases it itself.  `deduplicate_blocks` keeps `g_blocks_hash_index_mutex` around its
whole loop, and so around the bitmap of the blocks it frees.

A call looks at the disk and changes it in two steps, so the runs of several threads include
those in which it does both at once.  A failed `fwrite` leaves the file as it was.
-/

namespace MasterOfFiles

namespace Storage

/-- `g_blocks_hash_index_mutex` and `g_storage_bitmap_mutex`. -/
inductive StorageMutex
  | hashIndex
  | bitmap
deriving DecidableEq

instance : Fintype StorageMutex where
  elems := {.hashIndex, .bitmap}
  complete mutex := by
    cases mutex <;> simp

/-- The hash index first, then the bitmap. -/
def StorageMutex.rank : StorageMutex → Nat
  | hashIndex => 0
  | bitmap => 1

/-- The calls with an exit of their own inside one step of a `Host`: those of `bitmap_load`,
`bitmap_persist` and `modify_bitmap_bits`, and in the loop of `deduplicate_blocks` the
`malloc` of its buffer, its `strdup` and the two uses of `get_physical_block_number`. -/
inductive InnerCall
  | openBitmap
  | allocateBitmap
  | readBitmap
  | createBitmap
  | reopenBitmap
  | writeBitmap
  | allocateBuffer
  | duplicateName
  | parseRegistered
  | parsePrevious
deriving DecidableEq

/-- Which calls of one request fail, for the calls made once per logical block by its index,
and how many bits of a bitmap reach the file already at `fwrite`. -/
structure CallPattern where
  host : Host
  inner : Nat → InnerCall → Bool
  through : Nat

/-- The pattern of a host, whose failures on the bitmap are those of `fopen` when it is loaded
and of `fwrite` when it is stored. -/
def CallPattern.ofHost (host : Host) : CallPattern where
  host := host
  inner index
    | .openBitmap => host (.loadBitmap index)
    | .writeBitmap => host (.storeBitmap index)
    | _ => false
  through := 0

section Programs

variable {config : StorageConfig} {Hash : Type}

abbrev StorageProgram (config : StorageConfig) (Hash : Type) : Type :=
  LockProgram StorageMutex (Disk config Hash)

/-- A call that leaves a changed disk behind when it succeeds. -/
def attempt (call : Disk config Hash → Option (Disk config Hash))
    (onFailure onSuccess : StorageProgram config Hash) : StorageProgram config Hash :=
  .branch fun disk =>
    if (call disk).isSome then .perform (fun disk => (call disk).getD disk) onSuccess
    else onFailure

def writeBitmap (bitmap : Bitmap) (disk : Disk config Hash) : Disk config Hash :=
  { disk with bitmap := bitmap }

variable (pattern : CallPattern)

/-- `bitmap_load`, which succeeds with the mutex held and the bitmap in its buffer. -/
def bitmapLoad (index : Nat) (onFailure : StorageProgram config Hash)
    (onSuccess : Bitmap → StorageProgram config Hash) : StorageProgram config Hash :=
  if pattern.inner index .openBitmap ∨ pattern.inner index .allocateBitmap then onFailure
  else
    .lock .bitmap <|
      if pattern.inner index .readBitmap ∨ pattern.inner index .createBitmap then
        .unlock .bitmap onFailure
      else .branch fun disk => onSuccess disk.bitmap

/-- `bitmap_persist`, which releases the mutex whether it fails or not. -/
def bitmapPersist (index : Nat) (buffer : Bitmap)
    (onFailure onSuccess : StorageProgram config Hash) : StorageProgram config Hash :=
  if pattern.inner index .reopenBitmap ∨ pattern.inner index .writeBitmap then
    .unlock .bitmap onFailure
  else .perform (writeBitmap buffer) <| .unlock .bitmap onSuccess

/-- `modify_bitmap_bits` with `count = 1`: the stream is closed after the mutex is released. -/
def modifyBitmapBits (index physical : Nat) (value : Bool)
    (onFailure onSuccess : StorageProgram config Hash) : StorageProgram config Hash :=
  if pattern.inner index .openBitmap ∨ pattern.inner index .allocateBitmap then onFailure
  else
    .lock .bitmap <|
      if pattern.inner index .readBitmap ∨ pattern.inner index .createBitmap then
        .unlock .bitmap onFailure
      else
        .branch fun disk =>
          let buffer := Function.update disk.bitmap physical value
          if pattern.inner index .writeBitmap then .unlock .bitmap onFailure
          else
            .perform
              (fun disk => writeBitmap (splice pattern.through buffer disk.bitmap) disk) <|
              .unlock .bitmap <| .perform (writeBitmap buffer) onSuccess

def deleteLogicalBlockProgram (fileTag : FileTag) (index physical : Nat)
    (onFailure onSuccess : StorageProgram config Hash) : StorageProgram config Hash :=
  attempt (fun disk => disk.removeLogicalBlock pattern.host fileTag index) onFailure <|
    .branch fun disk =>
      match disk.statPhysicalBlock pattern.host index physical with
      | none => onFailure
      | some links =>
        if links ≠ 1 then onSuccess
        else modifyBitmapBits pattern index physical false onFailure onSuccess

/-- `save_file_metadata`, whose `config_save` may fail unnoticed. -/
def saveFileMetadataProgram (fileTag : FileTag) (metadata : FileMetadata)
    (next : StorageProgram config Hash) : StorageProgram config Hash :=
  .perform (fun disk => disk.saveFileMetadata pattern.host fileTag metadata) next

/-- `write_to_logical_block` at the end of `execute_block_write`. -/
def writeToLogicalBlockProgram (fileTag : FileTag) (index : Nat) (blockData : List UInt8) :
    StorageProgram config Hash :=
  attempt (fun disk => disk.writeToLogicalBlock pattern.host fileTag index blockData) .done .done

/-- The branch of `execute_block_write` for a block with more than two names. -/
def moveToFreeBlockProgram (fileTag : FileTag) (metadata : FileMetadata) (index : Nat)
    (next : StorageProgram config Hash) : StorageProgram config Hash :=
  attempt (fun disk => disk.removeLogicalBlock pattern.host fileTag index) .done <|
    bitmapLoad pattern index .done fun buffer =>
      match BitmapServer.getFreeBitIndex config buffer with
      | none => .unlock .bitmap .done
      | some physical =>
        bitmapPersist pattern index (Function.update buffer physical true) .done <|
          attempt (fun disk => disk.createNewHardlink pattern.host fileTag index physical)
            .done <|
            saveFileMetadataProgram pattern fileTag
              { metadata with blocks := metadata.blocks.set index physical } next

def executeBlockWriteProgram (fileTag : FileTag) (blockNumber : UInt32)
    (blockData : List UInt8) : StorageProgram config Hash :=
  .branch fun disk =>
    if !disk.fileDirExists pattern.host fileTag then .done
    else
      .branch fun disk =>
        match disk.readFileMetadata pattern.host fileTag with
        | none => .done
        | some metadata =>
          if metadata.state = .committed then .done
          else if (metadata.blocks.length : Int) ≤ blockNumberAsInt blockNumber then .done
          else
            .branch fun disk =>
              match disk.phBlockLinks pattern.host fileTag blockNumber.toNat with
              | none => .done
              | some numHardlinks =>
                let write :=
                  writeToLogicalBlockProgram pattern fileTag blockNumber.toNat blockData
                if 2 < numHardlinks then
                  moveToFreeBlockProgram pattern fileTag metadata blockNumber.toNat write
                else write

/-- The loop of `truncate_file` that frees the surplus blocks. -/
def deleteSurplusBlocksProgram (fileTag : FileTag) (next : StorageProgram config Hash) :
    Nat → List Nat → StorageProgram config Hash
  | _, [] => next
  | index, physical :: rest =>
    let others := deleteSurplusBlocksProgram fileTag next (index + 1) rest
    deleteLogicalBlockProgram pattern fileTag index physical others others

/-- The loop of `truncate_file` that links `count` new blocks to physical block 0. -/
def linkZeroBlocksProgram (fileTag : FileTag) (next : StorageProgram config Hash) :
    Nat → Nat → StorageProgram config Hash
  | _, 0 => next
  | index, count + 1 =>
    attempt (fun disk => disk.linkLogicalBlock pattern.host fileTag index 0) .done <|
      linkZeroBlocksProgram fileTag next (index + 1) count

def truncateFileProgram (fileTag : FileTag) (newSizeBytes : Int32) :
    StorageProgram config Hash :=
  .branch fun disk =>
    match disk.readFileMetadata pattern.host fileTag with
    | none => .done
    | some metadata =>
      let oldCount := metadata.blocks.length
      let newCount := newBlockCount config newSizeBytes
      let save (blocks : List Nat) : StorageProgram config Hash :=
        saveFileMetadataProgram pattern fileTag
          { metadata with size := newSizeBytes.toInt, blocks := blocks } .done
      if newCount = oldCount then save metadata.blocks
      else if newCount < 0 ∨ pattern.host .allocateBlocks then .done
      else if newCount < oldCount then
        deleteSurplusBlocksProgram pattern fileTag (save (metadata.blocks.take newCount.toNat))
          newCount.toNat (metadata.blocks.drop newCount.toNat)
      else
        linkZeroBlocksProgram pattern fileTag
          (save (metadata.blocks ++ List.replicate (newCount.toNat - oldCount) 0))
          oldCount (newCount.toNat - oldCount)

/-- The loop of `delete_tag`. -/
def deleteTagBlocksProgram (fileTag : FileTag) (next : StorageProgram config Hash) :
    Nat → List Nat → StorageProgram config Hash
  | _, [] => next
  | index, physical :: rest =>
    deleteLogicalBlockProgram pattern fileTag index physical .done <|
      deleteTagBlocksProgram fileTag next (index + 1) rest

/-- `delete_file_dir_structure` at the end of `delete_tag`. -/
def deleteFileDirStructureProgram (fileTag : FileTag) : StorageProgram config Hash :=
  .branch fun disk =>
    if !disk.fileDirExists pattern.host fileTag then .done
    else if pattern.host (.removeDirectory fileTag) then .done
    else .perform (fun disk => disk.removeDirectories fileTag) .done

def deleteTagProgram (fileTag : FileTag) : StorageProgram config Hash :=
  if fileTag = initialFileBase then .done
  else
    .branch fun disk =>
      match disk.readFileMetadata pattern.host fileTag with
      | none => .done
      | some metadata =>
        deleteTagBlocksProgram pattern fileTag (deleteFileDirStructureProgram pattern fileTag) 0
          metadata.blocks

def freePhBlockIfUnusedProgram (index physical : Nat)
    (onFailure onSuccess : StorageProgram config Hash) : StorageProgram config Hash :=
  .branch fun disk =>
    match disk.statPhysicalBlock pattern.host index physical with
    | none => onFailure
    | some numbLinks =>
      if 1 < numbLinks then onSuccess
      else if pattern.inner index .parsePrevious then onFailure
      else
        bitmapLoad pattern index onFailure fun buffer =>
          bitmapPersist pattern index (Function.update buffer physical false) onFailure onSuccess

variable [DecidableEq Hash] (md5 : Block config.blockSize → Hash)

/-- One iteration of the loop of `deduplicate_blocks`, with its hash index and its blocks. -/
def deduplicateBlockProgram (fileTag : FileTag) (logicalBlock : Nat)
    (hashIndex : Hash → Option Nat) (blocks : List Nat) (onFailure : StorageProgram config Hash)
    (onSuccess : (Hash → Option Nat) → List Nat → StorageProgram config Hash) :
    StorageProgram config Hash :=
  let physicalBlock := blocks.getD logicalBlock 0
  if pattern.inner logicalBlock .allocateBuffer then onFailure
  else
    .branch fun disk =>
      match disk.readBlockContent pattern.host fileTag logicalBlock with
      | none => onFailure
      | some content =>
        if pattern.host (.hashLogical logicalBlock) then onFailure
        else
          match hashIndex (md5 content) with
          | none =>
            onSuccess (Function.update hashIndex (md5 content) (some physicalBlock)) blocks
          | some registered =>
            if pattern.inner logicalBlock .duplicateName then onFailure
            else if registered = physicalBlock then onSuccess hashIndex blocks
            else
              attempt (fun disk => disk.removeLogicalBlock pattern.host fileTag logicalBlock)
                onFailure <|
              attempt (fun disk => disk.linkLogicalBlock pattern.host fileTag logicalBlock
                registered) onFailure <|
              if pattern.inner logicalBlock .parseRegistered then onFailure
              else
                freePhBlockIfUnusedProgram pattern logicalBlock physicalBlock onFailure <|
                  onSuccess hashIndex (blocks.set logicalBlock registered)

/-- The loop of `deduplicate_blocks` over `remaining` blocks from `logicalBlock` on. -/
def deduplicateLoopProgram (fileTag : FileTag) (onFailure : StorageProgram config Hash)
    (onSuccess : (Hash → Option Nat) → List Nat → StorageProgram config Hash) :
    Nat → Nat → (Hash → Option Nat) → List Nat → StorageProgram config Hash
  | _, 0, hashIndex, blocks => onSuccess hashIndex blocks
  | logicalBlock, remaining + 1, hashIndex, blocks =>
    deduplicateBlockProgram pattern md5 fileTag logicalBlock hashIndex blocks onFailure
      fun hashIndex blocks =>
        deduplicateLoopProgram fileTag onFailure onSuccess (logicalBlock + 1) remaining hashIndex
          blocks

/-- `deduplicate_blocks`, which keeps its mutex until `unlock_hash_index`. -/
def deduplicateBlocksProgram (fileTag : FileTag) (blocks : List Nat)
    (onFailure : StorageProgram config Hash)
    (onSuccess : List Nat → StorageProgram config Hash) : StorageProgram config Hash :=
  if blocks.length = 0 then onSuccess blocks
  else
    .lock .hashIndex <|
      if pattern.host .readHashIndex then .unlock .hashIndex onFailure
      else
        .branch fun disk =>
          deduplicateLoopProgram pattern md5 fileTag (.unlock .hashIndex onFailure)
            (fun hashIndex blocks =>
              .perform (fun disk => disk.saveHashIndex pattern.host hashIndex) <|
                .unlock .hashIndex (onSuccess blocks))
            0 blocks.length disk.hashIndex blocks

def executeTagCommitProgram (fileTag : FileTag) : StorageProgram config Hash :=
  .branch fun disk =>
    if !disk.fileDirExists pattern.host fileTag then .done
    else
      .branch fun disk =>
        match disk.readFileMetadata pattern.host fileTag with
        | none => .done
        | some metadata =>
          if metadata.state = .committed then .done
          else
            deduplicateBlocksProgram pattern md5 fileTag metadata.blocks .done fun blocks =>
              if pattern.host .allocateState then .done
              else
                saveFileMetadataProgram pattern fileTag
                  { metadata with blocks := blocks, state := .committed } .done

/-- The operations that work under the mutexes, with their arguments. -/
inductive LockingOperation
  | executeBlockWrite (fileTag : FileTag) (blockNumber : UInt32) (blockData : List UInt8)
  | executeTagCommit (fileTag : FileTag)
  | truncateFile (fileTag : FileTag) (newSizeBytes : Int32)
  | deleteTag (fileTag : FileTag)

/-- One operation of a client thread and the calls that fail in it. -/
structure LockingRequest where
  operation : LockingOperation
  pattern : CallPattern

def requestProgram (request : LockingRequest) : StorageProgram config Hash :=
  match request.operation with
  | .executeBlockWrite fileTag blockNumber blockData =>
    executeBlockWriteProgram request.pattern fileTag blockNumber blockData
  | .executeTagCommit fileTag => executeTagCommitProgram request.pattern md5 fileTag
  | .truncateFile fileTag newSizeBytes =>
    truncateFileProgram request.pattern fileTag newSizeBytes
  | .deleteTag fileTag => deleteTagProgram request.pattern fileTag

/-- What the operation makes of a disk on a host. -/
def LockingOperation.run (host : Host) (disk : Disk config Hash) :
    LockingOperation → Disk config Hash
  | executeBlockWrite fileTag blockNumber blockData =>
    (disk.executeBlockWrite host fileTag blockNumber blockData).2
  | executeTagCommit fileTag => (disk.executeTagCommit host md5 fileTag).2
  | truncateFile fileTag newSizeBytes => (disk.truncateFile host fileTag newSizeBytes).2
  | deleteTag fileTag => (disk.deleteTag host fileTag).2

/-- Any number of client threads over any disk. -/
def lockSystem : TransitionSystem
    (LockMachine LockingRequest StorageMutex (Disk config Hash)) (LockStep LockingRequest) :=
  LockMachine.system (fun _ => True) (requestProgram md5)

end Programs

open StorageMutex

section Order

variable {config : StorageConfig} {Hash : Type} {excluded : Disk config Hash → Prop}
  {held : Set StorageMutex} {onFailure onSuccess next : StorageProgram config Hash}
  (pattern : CallPattern)

theorem ordered_attempt (call : Disk config Hash → Option (Disk config Hash))
    (failure : onFailure.Ordered rank excluded held)
    (success : onSuccess.Ordered rank excluded held) :
    (attempt call onFailure onSuccess).Ordered rank excluded held := by
  intro disk _
  dsimp only
  split
  · exact success
  · exact failure

theorem ordered_lock_bitmap (free : bitmap ∉ held)
    (ordered : next.Ordered rank excluded (insert bitmap held)) :
    (LockProgram.lock bitmap next).Ordered rank excluded held := by
  refine ⟨?_, ordered⟩
  intro other holds
  cases other with
  | hashIndex => decide
  | bitmap => exact absurd holds free

theorem ordered_unlock_bitmap (free : bitmap ∉ held)
    (ordered : next.Ordered rank excluded held) :
    (LockProgram.unlock bitmap next).Ordered rank excluded (insert bitmap held) := by
  refine ⟨Set.mem_insert _ _, ?_⟩
  rw [Set.insert_sdiff_self_of_notMem free]
  exact ordered

/-- The exits of `bitmap_load` before it takes the mutex and after it gave it back look the
same to its caller. -/
theorem ordered_bitmapLoad (index : Nat) {onSuccess : Bitmap → StorageProgram config Hash}
    (free : bitmap ∉ held) (failure : onFailure.Ordered rank excluded held)
    (success : ∀ buffer, (onSuccess buffer).Ordered rank excluded (insert bitmap held)) :
    (bitmapLoad pattern index onFailure onSuccess).Ordered rank excluded held := by
  unfold bitmapLoad
  split
  · exact failure
  · apply ordered_lock_bitmap free
    split
    · exact ordered_unlock_bitmap free failure
    · intro disk _
      exact success disk.bitmap

theorem ordered_bitmapPersist (index : Nat) (buffer : Bitmap) (free : bitmap ∉ held)
    (failure : onFailure.Ordered rank excluded held)
    (success : onSuccess.Ordered rank excluded held) :
    (bitmapPersist pattern index buffer onFailure onSuccess).Ordered rank excluded
      (insert bitmap held) := by
  unfold bitmapPersist
  split
  · exact ordered_unlock_bitmap free failure
  · exact ordered_unlock_bitmap free success

theorem ordered_modifyBitmapBits (index physical : Nat) (value : Bool) (free : bitmap ∉ held)
    (failure : onFailure.Ordered rank excluded held)
    (success : onSuccess.Ordered rank excluded held) :
    (modifyBitmapBits pattern index physical value onFailure onSuccess).Ordered rank excluded
      held := by
  unfold modifyBitmapBits
  split
  · exact failure
  · apply ordered_lock_bitmap free
    split
    · exact ordered_unlock_bitmap free failure
    · intro disk _
      dsimp only
      split
      · exact ordered_unlock_bitmap free failure
      · exact ordered_unlock_bitmap free success

theorem ordered_deleteLogicalBlockProgram (fileTag : FileTag) (index physical : Nat)
    (free : bitmap ∉ held) (failure : onFailure.Ordered rank excluded held)
    (success : onSuccess.Ordered rank excluded held) :
    (deleteLogicalBlockProgram pattern fileTag index physical onFailure onSuccess).Ordered rank
      excluded held := by
  apply ordered_attempt _ failure
  intro disk _
  dsimp only
  split
  · exact failure
  · split
    · exact success
    · exact ordered_modifyBitmapBits pattern index physical false free failure success

theorem ordered_moveToFreeBlockProgram (fileTag : FileTag) (metadata : FileMetadata)
    (index : Nat) (ordered : next.Ordered rank excluded ∅) :
    (moveToFreeBlockProgram pattern fileTag metadata index next).Ordered rank excluded ∅ := by
  have free : bitmap ∉ (∅ : Set StorageMutex) := Set.notMem_empty _
  apply ordered_attempt
  · rfl
  · apply ordered_bitmapLoad pattern index free
    · rfl
    · intro buffer
      split
      · exact ordered_unlock_bitmap free rfl
      · apply ordered_bitmapPersist pattern index _ free
        · rfl
        · apply ordered_attempt
          · rfl
          · exact ordered

theorem ordered_executeBlockWriteProgram (fileTag : FileTag) (blockNumber : UInt32)
    (blockData : List UInt8) :
    (executeBlockWriteProgram pattern fileTag blockNumber blockData
      : StorageProgram config Hash).Ordered rank excluded ∅ := by
  have writes : (writeToLogicalBlockProgram pattern fileTag blockNumber.toNat blockData
      : StorageProgram config Hash).Ordered rank excluded ∅ := ordered_attempt _ rfl rfl
  intro disk _
  dsimp only
  split
  · rfl
  · intro disk _
    dsimp only
    split
    · rfl
    · split
      · rfl
      · generalize blockNumberAsInt blockNumber = number
        split
        · rfl
        · intro disk _
          dsimp only
          split
          · rfl
          · split
            · exact ordered_moveToFreeBlockProgram pattern fileTag _ _ writes
            · exact writes

theorem ordered_deleteSurplusBlocksProgram (fileTag : FileTag) (free : bitmap ∉ held)
    (ordered : next.Ordered rank excluded held) (blocks : List Nat) (index : Nat) :
    (deleteSurplusBlocksProgram pattern fileTag next index blocks).Ordered rank excluded held := by
  induction blocks generalizing index with
  | nil => exact ordered
  | cons physical rest ih =>
      apply ordered_deleteLogicalBlockProgram pattern fileTag index physical free
      · exact ih (index + 1)
      · exact ih (index + 1)

theorem ordered_linkZeroBlocksProgram (fileTag : FileTag)
    (ordered : next.Ordered rank excluded ∅) (count index : Nat) :
    (linkZeroBlocksProgram pattern fileTag next index count).Ordered rank excluded ∅ := by
  induction count generalizing index with
  | zero => exact ordered
  | succ count ih =>
      apply ordered_attempt
      · rfl
      · exact ih (index + 1)

theorem ordered_truncateFileProgram (fileTag : FileTag) (newSizeBytes : Int32) :
    (truncateFileProgram pattern fileTag newSizeBytes
      : StorageProgram config Hash).Ordered rank excluded ∅ := by
  have free : bitmap ∉ (∅ : Set StorageMutex) := Set.notMem_empty _
  intro disk _
  dsimp only
  split
  · rfl
  · split
    · rfl
    · split
      · rfl
      · split
        · apply ordered_deleteSurplusBlocksProgram pattern fileTag free
          rfl
        · apply ordered_linkZeroBlocksProgram
          rfl

theorem ordered_deleteTagBlocksProgram (fileTag : FileTag)
    (ordered : next.Ordered rank excluded ∅) (blocks : List Nat) (index : Nat) :
    (deleteTagBlocksProgram pattern fileTag next index blocks).Ordered rank excluded ∅ := by
  have free : bitmap ∉ (∅ : Set StorageMutex) := Set.notMem_empty _
  induction blocks generalizing index with
  | nil => exact ordered
  | cons physical rest ih =>
      apply ordered_deleteLogicalBlockProgram pattern fileTag index physical free
      · rfl
      · exact ih (index + 1)

theorem ordered_deleteTagProgram (fileTag : FileTag) :
    (deleteTagProgram pattern fileTag : StorageProgram config Hash).Ordered rank
      excluded ∅ := by
  have removes : (deleteFileDirStructureProgram pattern fileTag
      : StorageProgram config Hash).Ordered rank excluded ∅ := by
    intro disk _
    dsimp only
    split
    · rfl
    · split
      · rfl
      · rfl
  unfold deleteTagProgram
  split
  · rfl
  · intro disk _
    dsimp only
    split
    · rfl
    · exact ordered_deleteTagBlocksProgram pattern fileTag removes _ 0

/-- The bitmap is updated inside whatever else the thread holds. -/
theorem ordered_freePhBlockIfUnusedProgram (index physical : Nat) (free : bitmap ∉ held)
    (failure : onFailure.Ordered rank excluded held)
    (success : onSuccess.Ordered rank excluded held) :
    (freePhBlockIfUnusedProgram pattern index physical onFailure onSuccess).Ordered rank excluded
      held := by
  intro disk _
  dsimp only
  split
  · exact failure
  · split
    · exact success
    · split
      · exact failure
      · apply ordered_bitmapLoad pattern index free failure
        intro buffer
        exact ordered_bitmapPersist pattern index _ free failure success

variable [DecidableEq Hash] (md5 : Block config.blockSize → Hash)

theorem ordered_deduplicateBlockProgram (fileTag : FileTag) (logicalBlock : Nat)
    (hashIndex : Hash → Option Nat) (blocks : List Nat)
    {onSuccess : (Hash → Option Nat) → List Nat → StorageProgram config Hash}
    (free : bitmap ∉ held) (failure : onFailure.Ordered rank excluded held)
    (success : ∀ hashIndex blocks, (onSuccess hashIndex blocks).Ordered rank excluded held) :
    (deduplicateBlockProgram pattern md5 fileTag logicalBlock hashIndex blocks onFailure
      onSuccess).Ordered rank excluded held := by
  unfold deduplicateBlockProgram
  dsimp only
  split
  · exact failure
  · intro disk _
    dsimp only
    split
    · exact failure
    · split
      · exact failure
      · split
        · exact success _ _
        · split
          · exact failure
          · split
            · exact success _ _
            · apply ordered_attempt _ failure
              apply ordered_attempt _ failure
              split
              · exact failure
              · apply ordered_freePhBlockIfUnusedProgram pattern _ _ free failure
                exact success _ _

theorem ordered_deduplicateLoopProgram (fileTag : FileTag)
    {onSuccess : (Hash → Option Nat) → List Nat → StorageProgram config Hash}
    (free : bitmap ∉ held) (failure : onFailure.Ordered rank excluded held)
    (success : ∀ hashIndex blocks, (onSuccess hashIndex blocks).Ordered rank excluded held)
    (remaining logicalBlock : Nat) (hashIndex : Hash → Option Nat) (blocks : List Nat) :
    (deduplicateLoopProgram pattern md5 fileTag onFailure onSuccess logicalBlock remaining
      hashIndex blocks).Ordered rank excluded held := by
  induction remaining generalizing logicalBlock hashIndex blocks with
  | zero => exact success hashIndex blocks
  | succ remaining ih =>
      apply ordered_deduplicateBlockProgram pattern md5 fileTag _ _ _ free failure
      intro hashIndex blocks
      exact ih (logicalBlock + 1) hashIndex blocks

/-- Every exit of the loop passes through `unlock_hash_index`. -/
theorem ordered_deduplicateBlocksProgram (fileTag : FileTag) (blocks : List Nat)
    {onSuccess : List Nat → StorageProgram config Hash}
    (failure : onFailure.Ordered rank excluded ∅)
    (success : ∀ blocks, (onSuccess blocks).Ordered rank excluded ∅) :
    (deduplicateBlocksProgram pattern md5 fileTag blocks onFailure onSuccess).Ordered rank
      excluded ∅ := by
  have unlocks (next : StorageProgram config Hash) (ordered : next.Ordered rank excluded ∅) :
      (LockProgram.unlock hashIndex next).Ordered rank excluded (insert hashIndex ∅) := by
    refine ⟨Set.mem_insert _ _, ?_⟩
    rw [Set.insert_sdiff_self_of_notMem (Set.notMem_empty _)]
    exact ordered
  unfold deduplicateBlocksProgram
  split
  · exact success blocks
  · refine ⟨fun other holds => absurd holds (Set.notMem_empty other), ?_⟩
    split
    · exact unlocks _ failure
    · intro disk _
      apply ordered_deduplicateLoopProgram pattern md5 fileTag
      · simp
      · exact unlocks _ failure
      · intro hashIndex blocks
        exact unlocks _ (success blocks)

theorem ordered_executeTagCommitProgram (fileTag : FileTag) :
    (executeTagCommitProgram pattern md5 fileTag).Ordered rank excluded ∅ := by
  intro disk _
  dsimp only
  split
  · rfl
  · intro disk _
    dsimp only
    split
    · rfl
    · split
      · rfl
      · apply ordered_deduplicateBlocksProgram
        · rfl
        · intro blocks
          split
          · rfl
          · rfl

theorem ordered_requestProgram (request : LockingRequest) :
    (requestProgram md5 request).Ordered rank excluded ∅ := by
  obtain ⟨operation, pattern⟩ := request
  cases operation with
  | executeBlockWrite fileTag blockNumber blockData =>
      exact ordered_executeBlockWriteProgram pattern fileTag blockNumber blockData
  | executeTagCommit fileTag => exact ordered_executeTagCommitProgram pattern md5 fileTag
  | truncateFile fileTag newSizeBytes =>
      exact ordered_truncateFileProgram pattern fileTag newSizeBytes
  | deleteTag fileTag => exact ordered_deleteTagProgram pattern fileTag

/-- Whatever calls fail, every path of the four operations takes a mutex only when it does not
hold it and in their order, releases only what it holds and ends with nothing held.  So no
threads that run them wait for one another, and while some thread has not finished, some thread
can go on. -/
theorem storage_mutexes_released_and_ordered :
    (∀ request, (requestProgram md5 request).Ordered rank (fun _ => False) ∅) ∧
      ∀ machine, (lockSystem md5).Reachable machine →
        (∀ threads, ¬machine.Deadlocked threads) ∧
          ∀ thread, machine.program thread ≠ .done →
            ∃ other after,
              LockMachine.next (requestProgram md5) machine (.advance other) = some after := by
  refine ⟨ordered_requestProgram md5, ?_⟩
  intro machine reachable
  have inOrder := LockMachine.inOrder_of_reachable (ordered_requestProgram md5) reachable
  refine ⟨inOrder.not_deadlocked, ?_⟩
  intro thread unfinished
  exact inOrder.exists_advance unfinished

end Order

section Effect

variable {config : StorageConfig} {Hash : Type} (host : Host) (disk : Disk config Hash)
  (onFailure onSuccess next : StorageProgram config Hash)

theorem effect_attempt (call : Disk config Hash → Option (Disk config Hash)) :
    (attempt call onFailure onSuccess).effect disk =
      match call disk with
      | none => onFailure.effect disk
      | some changed => onSuccess.effect changed := by
  simp only [attempt, LockProgram.effect]
  cases result : call disk with
  | none => rfl
  | some changed =>
      change onSuccess.effect ((call disk).getD disk) = onSuccess.effect changed
      rw [result]
      rfl

theorem effect_attempt_none {call : Disk config Hash → Option (Disk config Hash)}
    (fails : call disk = none) :
    (attempt call onFailure onSuccess).effect disk = onFailure.effect disk := by
  rw [effect_attempt, fails]

theorem effect_attempt_some {call : Disk config Hash → Option (Disk config Hash)}
    {changed : Disk config Hash} (succeeds : call disk = some changed) :
    (attempt call onFailure onSuccess).effect disk = onSuccess.effect changed := by
  rw [effect_attempt, succeeds]

theorem inner_ofHost (index : Nat) (call : InnerCall) (opens : call ≠ .openBitmap)
    (stores : call ≠ .writeBitmap) : ¬(CallPattern.ofHost host).inner index call = true := by
  cases call with
  | openBitmap => exact absurd rfl opens
  | writeBitmap => exact absurd rfl stores
  | _ => exact Bool.false_ne_true

theorem inner_ofHost_opens (index : Nat) :
    ((CallPattern.ofHost host).inner index .openBitmap = true ∨
      (CallPattern.ofHost host).inner index .allocateBitmap = true) ↔
        host (.loadBitmap index) = true :=
  ⟨fun fails => fails.resolve_right (inner_ofHost host index _ (by decide) (by decide)), Or.inl⟩

theorem inner_ofHost_reads (index : Nat) :
    ¬((CallPattern.ofHost host).inner index .readBitmap = true ∨
      (CallPattern.ofHost host).inner index .createBitmap = true) :=
  not_or_intro (inner_ofHost host index _ (by decide) (by decide))
    (inner_ofHost host index _ (by decide) (by decide))

theorem inner_ofHost_stores (index : Nat) :
    ((CallPattern.ofHost host).inner index .reopenBitmap = true ∨
      (CallPattern.ofHost host).inner index .writeBitmap = true) ↔
        host (.storeBitmap index) = true :=
  ⟨fun fails => fails.resolve_left (inner_ofHost host index _ (by decide) (by decide)), Or.inr⟩

theorem effect_bitmapLoad (index : Nat) (onSuccess : Bitmap → StorageProgram config Hash) :
    (bitmapLoad (.ofHost host) index onFailure onSuccess).effect disk =
      if host (.loadBitmap index) then onFailure.effect disk
      else (onSuccess disk.bitmap).effect disk := by
  unfold bitmapLoad
  rw [if_neg (inner_ofHost_reads host index)]
  by_cases loads : host (.loadBitmap index) = true
  · rw [if_pos loads, if_pos ((inner_ofHost_opens host index).mpr loads)]
  · rw [if_neg loads, if_neg (mt (inner_ofHost_opens host index).mp loads)]
    rfl

theorem effect_bitmapPersist (index : Nat) (buffer : Bitmap) :
    (bitmapPersist (.ofHost host) index buffer onFailure onSuccess).effect disk =
      if host (.storeBitmap index) then onFailure.effect disk
      else onSuccess.effect (writeBitmap buffer disk) := by
  unfold bitmapPersist
  by_cases stores : host (.storeBitmap index) = true
  · rw [if_pos stores, if_pos ((inner_ofHost_stores host index).mpr stores)]
    rfl
  · rw [if_neg stores, if_neg (mt (inner_ofHost_stores host index).mp stores)]
    rfl

theorem effect_modifyBitmapBits (index physical : Nat) (value : Bool) :
    (modifyBitmapBits (.ofHost host) index physical value onFailure onSuccess).effect disk =
      match disk.modifyBitmapBit host index physical value with
      | (0, changed) => onSuccess.effect changed
      | (_, kept) => onFailure.effect kept := by
  unfold modifyBitmapBits Disk.modifyBitmapBit
  rw [if_neg (inner_ofHost_reads host index)]
  by_cases loads : host (.loadBitmap index) = true
  · rw [if_pos loads, if_pos ((inner_ofHost_opens host index).mpr loads)]
    rfl
  · rw [if_neg loads, if_neg (mt (inner_ofHost_opens host index).mp loads)]
    simp only [LockProgram.effect]
    by_cases stores : (CallPattern.ofHost host).inner index .writeBitmap = true
    · rw [if_pos stores, if_pos (show host (.storeBitmap index) = true from stores)]
      rfl
    · rw [if_neg stores, if_neg (show ¬host (.storeBitmap index) = true from stores)]
      rfl

theorem effect_deleteLogicalBlockProgram (fileTag : FileTag) (index physical : Nat) :
    (deleteLogicalBlockProgram (.ofHost host) fileTag index physical onFailure
        onSuccess).effect disk =
      match disk.deleteLogicalBlock host fileTag index physical with
      | (0, deleted) => onSuccess.effect deleted
      | (_, failed) => onFailure.effect failed := by
  unfold deleteLogicalBlockProgram Disk.deleteLogicalBlock
  rw [effect_attempt]
  change (match disk.removeLogicalBlock host fileTag index with | none => _ | some _ => _) = _
  cases disk.removeLogicalBlock host fileTag index with
  | none => rfl
  | some removed =>
      simp only [LockProgram.effect]
      change LockProgram.effect (match removed.statPhysicalBlock host index physical with
        | none => _ | some _ => _) _ = _
      cases removed.statPhysicalBlock host index physical with
      | none => rfl
      | some links =>
          dsimp only
          split
          · rfl
          · rw [effect_modifyBitmapBits]
            unfold Disk.modifyBitmapBit
            by_cases loads : host (.loadBitmap index) = true
            · simp only [if_pos loads]
            · by_cases stores : host (.storeBitmap index) = true
              · simp only [if_neg loads, if_pos stores]
              · simp only [if_neg loads, if_neg stores]

theorem effect_moveToFreeBlockProgram (fileTag : FileTag) (metadata : FileMetadata)
    (index : Nat) :
    (moveToFreeBlockProgram (.ofHost host) fileTag metadata index next).effect disk =
      match disk.moveToFreeBlock host fileTag metadata index with
      | (0, moved) => next.effect moved
      | (_, failed) => failed := by
  unfold moveToFreeBlockProgram Disk.moveToFreeBlock
  rw [effect_attempt]
  change (match disk.removeLogicalBlock host fileTag index with | none => _ | some _ => _) = _
  cases disk.removeLogicalBlock host fileTag index with
  | none => rfl
  | some removed =>
      dsimp only
      rw [effect_bitmapLoad]
      by_cases loads : host (.loadBitmap index) = true
      · simp only [if_pos loads]
        rfl
      · simp only [if_neg loads]
        change LockProgram.effect (match removed.getFreeBitIndex with
          | none => _ | some _ => _) _ = _
        cases removed.getFreeBitIndex with
        | none => rfl
        | some physical =>
            dsimp only
            rw [effect_bitmapPersist]
            by_cases stores : host (.storeBitmap index) = true
            · simp only [if_pos stores]
              rfl
            · simp only [if_neg stores]
              rw [effect_attempt]
              change (match (removed.setBit physical true).createNewHardlink host fileTag index
                physical with | none => _ | some _ => _) = _
              cases (removed.setBit physical true).createNewHardlink host fileTag index
                physical with
              | none => rfl
              | some linked => rfl

theorem effect_writeToLogicalBlockProgram (fileTag : FileTag) (logicalBlock : Nat)
    (blockData : List UInt8) :
    (writeToLogicalBlockProgram (.ofHost host) fileTag logicalBlock blockData).effect disk =
      (match disk.writeToLogicalBlock host fileTag logicalBlock blockData with
        | none => ((-7 : Int), disk)
        | some written => (0, written)).2 := by
  apply (effect_attempt disk .done .done _).trans
  change (match disk.writeToLogicalBlock host fileTag logicalBlock blockData with
    | none => _ | some _ => _) = _
  cases disk.writeToLogicalBlock host fileTag logicalBlock blockData with
  | none => rfl
  | some written => rfl

theorem effect_executeBlockWriteProgram (fileTag : FileTag) (blockNumber : UInt32)
    (blockData : List UInt8) :
    (executeBlockWriteProgram (.ofHost host) fileTag blockNumber blockData).effect disk =
      (disk.executeBlockWrite host fileTag blockNumber blockData).2 := by
  simp only [executeBlockWriteProgram, LockProgram.effect, Disk.executeBlockWrite]
  change LockProgram.effect (if !disk.fileDirExists host fileTag then _ else _) disk = _
  by_cases missing : (!disk.fileDirExists host fileTag) = true
  · rw [if_pos missing, if_pos missing]
    rfl
  · rw [if_neg missing, if_neg missing]
    change LockProgram.effect (match disk.readFileMetadata host fileTag with
      | none => _ | some _ => _) disk = _
    cases disk.readFileMetadata host fileTag with
    | none => rfl
    | some metadata =>
        dsimp only
        by_cases committed : metadata.state = .committed
        · rw [if_pos committed, if_pos committed]
          rfl
        · rw [if_neg committed, if_neg committed]
          generalize blockNumberAsInt blockNumber = number
          by_cases outside : (metadata.blocks.length : Int) ≤ number
          · rw [if_pos outside, if_pos outside]
            rfl
          · rw [if_neg outside, if_neg outside]
            change LockProgram.effect (match disk.phBlockLinks host fileTag blockNumber.toNat with
              | none => _ | some _ => _) disk = _
            cases disk.phBlockLinks host fileTag blockNumber.toNat with
            | none => rfl
            | some numHardlinks =>
                dsimp only
                by_cases shared : 2 < numHardlinks
                · rw [if_pos shared, if_pos shared, effect_moveToFreeBlockProgram]
                  split
                  · rename_i own moves
                    rw [moves]
                    exact effect_writeToLogicalBlockProgram host own fileTag _ blockData
                  · rename_i code failed stops moves
                    rw [moves]
                    split
                    · rename_i own same
                      exact absurd (Prod.mk.inj same).1 stops
                    · rfl
                · rw [if_neg shared, if_neg shared]
                  exact effect_writeToLogicalBlockProgram host disk fileTag _ blockData

theorem effect_deleteSurplusBlocksProgram (fileTag : FileTag) (blocks : List Nat)
    (index : Nat) :
    (deleteSurplusBlocksProgram (.ofHost host) fileTag next index blocks).effect disk =
      next.effect (Disk.deleteSurplusBlocks host fileTag index blocks disk) := by
  induction blocks generalizing index disk with
  | nil => rfl
  | cons physical rest ih =>
      rw [deleteSurplusBlocksProgram, effect_deleteLogicalBlockProgram, Disk.deleteSurplusBlocks]
      split
      · rename_i deleted result
        rw [result, ih]
      · rename_i code failed _ result
        rw [result, ih]

theorem effect_linkZeroBlocksProgram (fileTag : FileTag) (count index : Nat) :
    (linkZeroBlocksProgram (.ofHost host) fileTag next index count).effect disk =
      match Disk.linkZeroBlocks host fileTag index count disk with
      | (true, grown) => next.effect grown
      | (false, failed) => failed := by
  induction count generalizing index disk with
  | zero => rfl
  | succ count ih =>
      rw [linkZeroBlocksProgram, effect_attempt, Disk.linkZeroBlocks]
      change (match disk.linkLogicalBlock host fileTag index 0 with
        | none => _ | some _ => _) = _
      cases disk.linkLogicalBlock host fileTag index 0 with
      | none => rfl
      | some linked => exact ih linked (index + 1)

theorem effect_truncateFileProgram (fileTag : FileTag) (newSizeBytes : Int32) :
    (truncateFileProgram (.ofHost host) fileTag newSizeBytes).effect disk =
      (disk.truncateFile host fileTag newSizeBytes).2 := by
  simp only [truncateFileProgram, LockProgram.effect, Disk.truncateFile]
  change LockProgram.effect (match disk.readFileMetadata host fileTag with
    | none => _ | some _ => _) disk = _
  cases disk.readFileMetadata host fileTag with
  | none => rfl
  | some metadata =>
      dsimp only
      generalize newBlockCount config newSizeBytes = newCount
      by_cases same : newCount = metadata.blocks.length
      · rw [if_pos same, if_pos same]
        rfl
      · rw [if_neg same, if_neg same]
        by_cases denied : newCount < 0 ∨ host .allocateBlocks = true
        · rw [if_pos denied]
          change LockProgram.effect (if newCount < 0 ∨ host .allocateBlocks = true then _ else _)
            disk = _
          rw [if_pos denied]
          rfl
        · rw [if_neg denied]
          change LockProgram.effect (if newCount < 0 ∨ host .allocateBlocks = true then _ else _)
            disk = _
          rw [if_neg denied]
          by_cases shrinks : newCount < metadata.blocks.length
          · rw [if_pos shrinks, if_pos shrinks, effect_deleteSurplusBlocksProgram]
            rfl
          · rw [if_neg shrinks, if_neg shrinks, effect_linkZeroBlocksProgram]
            split
            · rename_i grown links
              rw [links]
              rfl
            · rename_i failed links
              rw [links]

omit onFailure onSuccess next in
theorem deleteTagBlocks_of_failed {fileTag : FileTag} {physical index : Nat} {rest : List Nat}
    {code : Int} {failed : Disk config Hash} (fails : code ≠ 0)
    (result : disk.deleteLogicalBlock host fileTag index physical = (code, failed)) :
    Disk.deleteTagBlocks host fileTag index (physical :: rest) disk = (false, failed) := by
  rw [Disk.deleteTagBlocks, result]
  split
  · rename_i deleted same
    exact absurd (Prod.mk.inj same).1 fails
  · rename_i other kept _ same
    rw [(Prod.mk.inj same).2]

theorem effect_deleteTagBlocksProgram (fileTag : FileTag) (blocks : List Nat) (index : Nat) :
    (deleteTagBlocksProgram (.ofHost host) fileTag next index blocks).effect disk =
      match Disk.deleteTagBlocks host fileTag index blocks disk with
      | (true, emptied) => next.effect emptied
      | (false, failed) => failed := by
  induction blocks generalizing index disk with
  | nil => rfl
  | cons physical rest ih =>
      rw [deleteTagBlocksProgram, effect_deleteLogicalBlockProgram]
      split
      · rename_i deleted result
        rw [Disk.deleteTagBlocks, result]
        exact ih deleted (index + 1)
      · rename_i code failed stops result
        rw [deleteTagBlocks_of_failed host disk stops result]
        rfl

theorem effect_deleteFileDirStructureProgram (fileTag : FileTag) :
    (deleteFileDirStructureProgram (.ofHost host) fileTag).effect disk =
      (disk.deleteFileDirStructure host fileTag).2 := by
  simp only [deleteFileDirStructureProgram, LockProgram.effect, Disk.deleteFileDirStructure]
  change LockProgram.effect (if !disk.fileDirExists host fileTag then _
    else if host (.removeDirectory fileTag) then _ else _) disk = _
  by_cases missing : (!disk.fileDirExists host fileTag) = true
  · rw [if_pos missing, if_pos missing]
    rfl
  · rw [if_neg missing, if_neg missing]
    by_cases fails : host (.removeDirectory fileTag) = true
    · rw [if_pos fails, if_pos fails]
      rfl
    · rw [if_neg fails, if_neg fails]
      rfl

theorem effect_deleteTagProgram (fileTag : FileTag) :
    (deleteTagProgram (.ofHost host) fileTag).effect disk =
      (disk.deleteTag host fileTag).2 := by
  unfold deleteTagProgram Disk.deleteTag
  by_cases guarded : fileTag = initialFileBase
  · rw [if_pos guarded, if_pos guarded]
    rfl
  · rw [if_neg guarded, if_neg guarded]
    simp only [LockProgram.effect]
    change LockProgram.effect (match disk.readFileMetadata host fileTag with
      | none => _ | some _ => _) disk = _
    cases disk.readFileMetadata host fileTag with
    | none => rfl
    | some metadata =>
        dsimp only
        rw [effect_deleteTagBlocksProgram]
        split
        · rename_i emptied result
          rw [result]
          apply (effect_deleteFileDirStructureProgram host emptied fileTag).trans
          change _ = (match emptied.deleteFileDirStructure host fileTag with
            | (0, deleted) => ((0 : Int), deleted)
            | (_, failed) => (-3, failed)).2
          split
          · rename_i deleted removes
            rw [removes]
          · rename_i code failed _ stops
            rw [stops]
        · rename_i failed result
          rw [result]

theorem effect_freePhBlockIfUnusedProgram (index physical : Nat) :
    (freePhBlockIfUnusedProgram (.ofHost host) index physical onFailure onSuccess).effect disk =
      match disk.freePhBlockIfUnused host index physical with
      | (0, freed) => onSuccess.effect freed
      | (_, kept) => onFailure.effect kept := by
  simp only [freePhBlockIfUnusedProgram, LockProgram.effect, Disk.freePhBlockIfUnused]
  change LockProgram.effect (match disk.statPhysicalBlock host index physical with
    | none => _ | some _ => _) disk = _
  cases disk.statPhysicalBlock host index physical with
  | none => rfl
  | some numbLinks =>
      dsimp only
      by_cases shared : 1 < numbLinks
      · rw [if_pos shared, if_pos shared]
        rfl
      · rw [if_neg shared, if_neg shared]
        change LockProgram.effect (bitmapLoad (.ofHost host) index onFailure fun buffer =>
          bitmapPersist (.ofHost host) index (Function.update buffer physical false) onFailure
            onSuccess) disk = _
        rw [effect_bitmapLoad]
        by_cases loads : host (.loadBitmap index) = true
        · rw [if_pos loads, if_pos loads]
          rfl
        · rw [if_neg loads, if_neg loads, effect_bitmapPersist]
          by_cases stores : host (.storeBitmap index) = true
          · rw [if_pos stores, if_pos stores]
            rfl
          · rw [if_neg stores, if_neg stores]
            rfl

variable [DecidableEq Hash] (md5 : Block config.blockSize → Hash)

/-- The effect of what follows an iteration, at the variables that the iteration leaves. -/
theorem effect_deduplicateBlockProgram (fileTag : FileTag) (logicalBlock : Nat)
    (hashIndex : Hash → Option Nat) (blocks : List Nat)
    (onSuccess : (Hash → Option Nat) → List Nat → StorageProgram config Hash) :
    (deduplicateBlockProgram (.ofHost host) md5 fileTag logicalBlock hashIndex blocks onFailure
        onSuccess).effect disk =
      match Disk.deduplicateBlock host md5 fileTag logicalBlock ⟨disk, hashIndex, blocks⟩ with
      | (0, state) => (onSuccess state.hashIndex state.blocks).effect state.disk
      | (_, state) => onFailure.effect state.disk := by
  unfold deduplicateBlockProgram Disk.deduplicateBlock
  dsimp only
  rw [if_neg (inner_ofHost host logicalBlock .allocateBuffer (by decide) (by decide))]
  simp only [LockProgram.effect]
  rw [show disk.readBlockContent (CallPattern.ofHost host).host fileTag logicalBlock =
    disk.readBlockContent host fileTag logicalBlock from rfl]
  cases disk.readBlockContent host fileTag logicalBlock with
  | none => rfl
  | some content =>
      dsimp only
      by_cases hashes : host (.hashLogical logicalBlock) = true
      · rw [if_pos hashes]
        change LockProgram.effect (if host (.hashLogical logicalBlock) = true then _ else _)
          disk = _
        rw [if_pos hashes]
        rfl
      · rw [if_neg hashes]
        change LockProgram.effect (if host (.hashLogical logicalBlock) = true then _ else _)
          disk = _
        rw [if_neg hashes]
        cases hashIndex (md5 content) with
        | none => rfl
        | some registered =>
            dsimp only
            rw [if_neg (inner_ofHost host logicalBlock .duplicateName (by decide) (by decide))]
            by_cases same : registered = blocks.getD logicalBlock 0
            · rw [if_pos same, if_pos same]
              rfl
            · rw [if_neg same, if_neg same]
              unfold Disk.updateLogicalBlockLink
              cases removes : disk.removeLogicalBlock host fileTag logicalBlock with
              | none => exact effect_attempt_none _ _ _ removes
              | some removed =>
                  apply (effect_attempt_some _ _ _ removes).trans
                  cases links : removed.linkLogicalBlock host fileTag logicalBlock registered with
                  | none =>
                      dsimp only
                      rw [links]
                      exact effect_attempt_none _ _ _ links
                  | some linked =>
                      apply (effect_attempt_some _ _ _ links).trans
                      dsimp only
                      have parses := inner_ofHost host logicalBlock .parseRegistered (by decide)
                        (by decide)
                      rw [links, if_neg parses, effect_freePhBlockIfUnusedProgram]
                      dsimp only
                      cases frees : linked.freePhBlockIfUnused host logicalBlock
                          (blocks.getD logicalBlock 0) with
                      | mk code freed =>
                          simp only [frees]
                          by_cases released : code = 0
                          · subst released
                            rfl
                          · simp only

theorem deduplicateLoop_of_failed {fileTag : FileTag} {logicalBlock remaining : Nat} {code : Int}
    {before failed : Disk.Deduplication config Hash} (fails : code ≠ 0)
    (result : Disk.deduplicateBlock host md5 fileTag logicalBlock before = (code, failed)) :
    Disk.deduplicateLoop host md5 fileTag logicalBlock (remaining + 1) before =
      (code, failed) := by
  rw [Disk.deduplicateLoop, result]
  split
  · rename_i next same
    exact absurd (Prod.mk.inj same).1 fails
  · rfl

theorem effect_deduplicateLoopProgram (fileTag : FileTag)
    (onSuccess : (Hash → Option Nat) → List Nat → StorageProgram config Hash)
    (remaining logicalBlock : Nat) (hashIndex : Hash → Option Nat) (blocks : List Nat) :
    (deduplicateLoopProgram (.ofHost host) md5 fileTag onFailure onSuccess logicalBlock remaining
        hashIndex blocks).effect disk =
      match Disk.deduplicateLoop host md5 fileTag logicalBlock remaining
        ⟨disk, hashIndex, blocks⟩ with
      | (0, state) => (onSuccess state.hashIndex state.blocks).effect state.disk
      | (_, state) => onFailure.effect state.disk := by
  induction remaining generalizing disk logicalBlock hashIndex blocks with
  | zero => rfl
  | succ remaining ih =>
      rw [deduplicateLoopProgram, effect_deduplicateBlockProgram]
      split
      · rename_i state result
        rw [Disk.deduplicateLoop, result]
        exact ih state.disk (logicalBlock + 1) state.hashIndex state.blocks
      · rename_i code state stops result
        rw [deduplicateLoop_of_failed host md5 stops result]
        split
        · rename_i other same
          exact absurd (Prod.mk.inj same).1 stops
        · rename_i other after _ same
          rw [(Prod.mk.inj same).2]

theorem deduplicateBlocks_of_failed {fileTag : FileTag} {blocks : List Nat} {code : Int}
    {state : Disk.Deduplication config Hash} (occupied : ¬blocks.length = 0)
    (reads : ¬host .readHashIndex = true) (fails : code ≠ 0)
    (result : Disk.deduplicateLoop host md5 fileTag 0 blocks.length
      ⟨disk, disk.hashIndex, blocks⟩ = (code, state)) :
    disk.deduplicateBlocks host md5 fileTag blocks = (code, state.disk, state.blocks) := by
  unfold Disk.deduplicateBlocks
  rw [if_neg occupied, if_neg reads, result]
  split
  · rename_i final same
    exact absurd (Prod.mk.inj same).1 fails
  · rename_i other final _ same
    obtain ⟨codes, states⟩ := Prod.mk.inj same
    rw [codes, states]

theorem effect_deduplicateBlocksProgram (fileTag : FileTag) (blocks : List Nat)
    (onSuccess : List Nat → StorageProgram config Hash) :
    (deduplicateBlocksProgram (.ofHost host) md5 fileTag blocks onFailure onSuccess).effect disk =
      match disk.deduplicateBlocks host md5 fileTag blocks with
      | (0, deduplicated, moved) => (onSuccess moved).effect deduplicated
      | (_, failed, _) => onFailure.effect failed := by
  unfold deduplicateBlocksProgram
  by_cases empty : blocks.length = 0
  · unfold Disk.deduplicateBlocks
    rw [if_pos empty, if_pos empty]
    rfl
  · rw [if_neg empty]
    by_cases unread : host .readHashIndex = true
    · unfold Disk.deduplicateBlocks
      rw [if_neg empty, if_pos unread]
      simp only [LockProgram.effect]
      rw [if_pos (show (CallPattern.ofHost host).host .readHashIndex = true from unread)]
      rfl
    · simp only [LockProgram.effect]
      rw [if_neg (show ¬(CallPattern.ofHost host).host .readHashIndex = true from unread)]
      simp only [LockProgram.effect]
      rw [effect_deduplicateLoopProgram]
      split
      · rename_i state result
        unfold Disk.deduplicateBlocks
        rw [if_neg empty, if_neg unread, result]
        rfl
      · rename_i code state stops result
        rw [deduplicateBlocks_of_failed host disk md5 empty unread stops result]
        split
        · rename_i deduplicated moved same
          exact absurd (Prod.mk.inj same).1 stops
        · rename_i other failed moved _ same
          rw [← (Prod.mk.inj (Prod.mk.inj same).2).1]
          rfl

theorem effect_executeTagCommitProgram (fileTag : FileTag) :
    (executeTagCommitProgram (.ofHost host) md5 fileTag).effect disk =
      (disk.executeTagCommit host md5 fileTag).2 := by
  simp only [executeTagCommitProgram, LockProgram.effect, Disk.executeTagCommit]
  change LockProgram.effect (if !disk.fileDirExists host fileTag then _ else _) disk = _
  by_cases missing : (!disk.fileDirExists host fileTag) = true
  · rw [if_pos missing, if_pos missing]
    rfl
  · rw [if_neg missing, if_neg missing]
    change LockProgram.effect (match disk.readFileMetadata host fileTag with
      | none => _ | some _ => _) disk = _
    cases disk.readFileMetadata host fileTag with
    | none => rfl
    | some metadata =>
        dsimp only
        by_cases committed : metadata.state = .committed
        · rw [if_pos committed, if_pos committed]
          rfl
        · rw [if_neg committed, if_neg committed, effect_deduplicateBlocksProgram]
          obtain ⟨⟨code, deduplicated, moved⟩, result⟩ : ∃ outcome,
              disk.deduplicateBlocks host md5 fileTag metadata.blocks = outcome := ⟨_, rfl⟩
          rw [result]
          cases code with
          | ofNat number =>
              cases number with
              | zero =>
                  change LockProgram.effect (if host .allocateState then _ else _) deduplicated =
                    (if host .allocateState then ((-2 : Int), deduplicated) else _).2
                  by_cases denied : host .allocateState = true
                  · rw [if_pos denied, if_pos denied]
                    rfl
                  · rw [if_neg denied, if_neg denied]
                    rfl
              | succ number => rfl
          | negSucc number => rfl

/-- Without other threads the steps of a request make of the disk what the whole operation makes
of it. -/
theorem effect_requestProgram (operation : LockingOperation) :
    (requestProgram md5 ⟨operation, .ofHost host⟩).effect disk =
      operation.run md5 host disk := by
  cases operation with
  | executeBlockWrite fileTag blockNumber blockData =>
      exact effect_executeBlockWriteProgram host disk fileTag blockNumber blockData
  | executeTagCommit fileTag => exact effect_executeTagCommitProgram host disk md5 fileTag
  | truncateFile fileTag newSizeBytes =>
      exact effect_truncateFileProgram host disk fileTag newSizeBytes
  | deleteTag fileTag => exact effect_deleteTagProgram host disk fileTag

end Effect

end Storage

end MasterOfFiles
