import MasterOfFiles.StorageDisk

/-!
# The Storage operations

One definition per operation of the Storage module, in the order of its system
calls.  Each returns the code of the source function together with the disk it
leaves behind, so an operation that stops halfway shows what it already
changed.  The query identifier is only logged and is left out.
-/

namespace MasterOfFiles

namespace Storage

def blockNumberAsInt (blockNumber : UInt32) : Int :=
  Int.bmod blockNumber.toNat (2 ^ 32)

/-- The block count of `truncate_file`, rounded up in `int` arithmetic. -/
def newBlockCount (config : StorageConfig) (newSizeBytes : Int32) : Int :=
  (Int.bmod (newSizeBytes.toInt + config.blockSize - 1) (2 ^ 32)).tdiv config.blockSize

/-- The default content of `create_metadata_file`. -/
def defaultMetadata : FileMetadata where
  size := 0
  blocks := []
  state := .workInProgress

/-- The component `initial_file`. -/
def initialFileName : PathName := ⟨"initial_file", by decide⟩

def baseTagName : PathName := ⟨"BASE", by decide⟩

def initialFileBase : FileTag := ⟨initialFileName, baseTagName⟩

namespace Disk

variable {config : StorageConfig} {Hash : Type}

def createFile (host : Host) (disk : Disk config Hash) (fileTag : FileTag) :
    Int × Disk config Hash :=
  match disk.createFileDirStructure host fileTag with
  | (0, made) =>
    match made.createMetadataFile host fileTag defaultMetadata with
    | (0, created) => (0, created)
    | (_, failed) => (-2, (failed.deleteFileDirStructure host fileTag).2)
  | failed => failed

/-- The loop of `truncate_file` that frees the surplus blocks from `index` on;
the result of `delete_logical_block` is ignored. -/
def deleteSurplusBlocks (host : Host) (fileTag : FileTag) :
    Nat → List Nat → Disk config Hash → Disk config Hash
  | _, [], disk => disk
  | index, physical :: rest, disk =>
    deleteSurplusBlocks host fileTag (index + 1) rest
      (disk.deleteLogicalBlock host fileTag index physical).2

/-- The loop of `truncate_file` that links `count` new blocks to physical
block 0. -/
def linkZeroBlocks (host : Host) (fileTag : FileTag) :
    Nat → Nat → Disk config Hash → Bool × Disk config Hash
  | _, 0, disk => (true, disk)
  | index, count + 1, disk =>
    match disk.linkLogicalBlock host fileTag index 0 with
    | none => (false, disk)
    | some linked => linkZeroBlocks host fileTag (index + 1) count linked

def truncateFile (host : Host) (disk : Disk config Hash) (fileTag : FileTag)
    (newSizeBytes : Int32) : Int × Disk config Hash :=
  match disk.readFileMetadata host fileTag with
  | none => (-1, disk)
  | some metadata =>
    let oldCount := metadata.blocks.length
    let newCount := newBlockCount config newSizeBytes
    if newCount = oldCount then
      (0, disk.saveFileMetadata host fileTag
        { metadata with size := newSizeBytes.toInt })
    else if newCount < 0 ∨ host .allocateBlocks then (-3, disk)
    else if newCount < oldCount then
      let freed := deleteSurplusBlocks host fileTag newCount.toNat
        (metadata.blocks.drop newCount.toNat) disk
      (0, freed.saveFileMetadata host fileTag
        { metadata with
          size := newSizeBytes.toInt
          blocks := metadata.blocks.take newCount.toNat })
    else
      match linkZeroBlocks host fileTag oldCount (newCount.toNat - oldCount) disk with
      | (false, failed) => (-2, failed)
      | (true, grown) =>
        (0, grown.saveFileMetadata host fileTag
          { metadata with
            size := newSizeBytes.toInt
            blocks := metadata.blocks ++
              List.replicate (newCount.toNat - oldCount) 0 })

/-- `mkdir` of the tag directory and of its `logical_blocks`, as `create_tag`
does it: an existing directory is fine, a missing file directory is not. -/
def makeTagDirectories (host : Host) (disk : Disk config Hash) (target : FileTag) :
    Int × Disk config Hash :=
  if disk.tagDirs target = false ∧
      (host (.makeDirectory target) ∨ disk.fileDirs target.file = false) then (-1, disk)
  else
    let made := { disk with tagDirs := Function.update disk.tagDirs target true }
    if disk.tagDirs target = false ∧ host (.makeLogicalBlocks target) then (-2, made)
    else (0, made)

/-- `cp -rl` between two `logical_blocks` directories; the exit status is not
zero when some entry of the source already has a name in the target. -/
def copyLogicalBlocks (host : Host) (disk : Disk config Hash) (source target : FileTag) :
    Int × Disk config Hash :=
  let copied := { disk with links := disk.links.copyDirectory source target }
  if host .copyLinks ∨
      ∃ name ∈ disk.links.support, name.1 = source ∧
        (disk.links.inode target name.2).isSome then (1, copied)
  else (0, copied)

def createTag (host : Host) (disk : Disk config Hash) (source target : FileTag) :
    Int × Disk config Hash :=
  match disk.readFileMetadata host target with
  | some _ => (fileTagAlreadyExists, disk)
  | none =>
    match disk.readFileMetadata host source with
    | none => (fileTagMissing, disk)
    | some metadata =>
      match disk.makeTagDirectories host target with
      | (0, made) =>
        match made.copyLogicalBlocks host source target with
        | (0, copied) =>
          match copied.createMetadataFile host target
              { metadata with state := .workInProgress } with
          | (0, created) => (0, created)
          | (_, failed) => (-3, failed)
        | (_, failed) => (-3, failed)
      | failed => failed

/-- `create_new_hardlink`; `none` is a negative result. -/
def createNewHardlink (host : Host) (disk : Disk config Hash) (fileTag : FileTag)
    (index physical : Nat) : Option (Disk config Hash) :=
  if 8 * config.bitmapSizeBytes ≤ physical then none
  else disk.linkLogicalBlock host fileTag index physical

/-- `write_to_logical_block`; `none` is a negative result. -/
def writeToLogicalBlock (host : Host) (disk : Disk config Hash) (fileTag : FileTag)
    (index : Nat) (blockData : List UInt8) : Option (Disk config Hash) :=
  if host (.writeLogical index) then none
  else
    (disk.links.inode fileTag index).map fun physical =>
      { disk with
        content := Function.update disk.content physical
          (paddedBlock config.blockSize blockData) }

/-- The branch of `execute_block_write` for a block with more than two names:
drop the shared link, reserve the first free physical block and link to it. -/
def moveToFreeBlock (host : Host) (disk : Disk config Hash) (fileTag : FileTag)
    (metadata : FileMetadata) (index : Nat) : Int × Disk config Hash :=
  match disk.removeLogicalBlock host fileTag index with
  | none => (-2, disk)
  | some removed =>
    if host (.loadBitmap index) then (-3, removed)
    else
      match removed.getFreeBitIndex with
      | none => (notEnoughSpace, removed)
      | some physical =>
        if host (.storeBitmap index) then (-4, removed)
        else
          match (removed.setBit physical true).createNewHardlink host fileTag index
              physical with
          | none => (-5, removed.setBit physical true)
          | some linked =>
            (0, linked.saveFileMetadata host fileTag
              { metadata with blocks := metadata.blocks.set index physical })

def executeBlockWrite (host : Host) (disk : Disk config Hash) (fileTag : FileTag)
    (blockNumber : UInt32) (blockData : List UInt8) : Int × Disk config Hash :=
  if !disk.fileDirExists host fileTag then (fileTagMissing, disk)
  else
    match disk.readFileMetadata host fileTag with
    | none => (fileTagMissing, disk)
    | some metadata =>
      if metadata.state = .committed then (fileAlreadyCommitted, disk)
      else if (metadata.blocks.length : Int) ≤ blockNumberAsInt blockNumber then
        (readOutOfBounds, disk)
      else
        match disk.phBlockLinks host fileTag blockNumber.toNat with
        | none => (-1, disk)
        | some numHardlinks =>
          match (if 2 < numHardlinks then
              disk.moveToFreeBlock host fileTag metadata blockNumber.toNat
            else (0, disk)) with
          | (0, own) =>
            match own.writeToLogicalBlock host fileTag blockNumber.toNat blockData with
            | none => (-7, own)
            | some written => (0, written)
          | failed => failed

/-- `execute_block_read`: the code of a failure, or the bytes put into the
buffer. -/
def executeBlockRead (host : Host) (disk : Disk config Hash) (fileTag : FileTag)
    (blockNumber : UInt32) : Except Int (Block config.blockSize) :=
  if !disk.fileDirExists host fileTag then .error fileTagMissing
  else
    match disk.readFileMetadata host fileTag with
    | none => .error fileTagMissing
    | some metadata =>
      if (metadata.blocks.length : Int) ≤ blockNumberAsInt blockNumber then
        .error readOutOfBounds
      else if host (.readLogical blockNumber.toNat) then .error (-1)
      else
        match disk.logicalContent fileTag blockNumber.toNat with
        | none => .error (-1)
        | some content => .ok content

/-- The loop of `delete_tag`, which stops at the first block that cannot be
deleted. -/
def deleteTagBlocks (host : Host) (fileTag : FileTag) :
    Nat → List Nat → Disk config Hash → Bool × Disk config Hash
  | _, [], disk => (true, disk)
  | index, physical :: rest, disk =>
    match disk.deleteLogicalBlock host fileTag index physical with
    | (0, deleted) => deleteTagBlocks host fileTag (index + 1) rest deleted
    | (_, failed) => (false, failed)

def deleteTag (host : Host) (disk : Disk config Hash) (fileTag : FileTag) :
    Int × Disk config Hash :=
  if fileTag = initialFileBase then (-1, disk)
  else
    match disk.readFileMetadata host fileTag with
    | none => (fileTagMissing, disk)
    | some metadata =>
      match deleteTagBlocks host fileTag 0 metadata.blocks disk with
      | (false, failed) => (-2, failed)
      | (true, emptied) =>
        match emptied.deleteFileDirStructure host fileTag with
        | (0, deleted) => (0, deleted)
        | (_, failed) => (-3, failed)

section Commit

variable [DecidableEq Hash]

/-- The variables of the loop of `deduplicate_blocks`: the disk, the hash index
held in memory and the `BLOCKS` of the metadata held in memory. -/
structure Deduplication (config : StorageConfig) (Hash : Type) where
  disk : Disk config Hash
  hashIndex : Hash → Option Nat
  blocks : List Nat

def readBlockContent (host : Host) (disk : Disk config Hash) (fileTag : FileTag)
    (index : Nat) : Option (Block config.blockSize) :=
  if host (.readLogical index) then none else disk.logicalContent fileTag index

def updateLogicalBlockLink (host : Host) (disk : Disk config Hash) (fileTag : FileTag)
    (index physical : Nat) : Int × Disk config Hash :=
  match disk.removeLogicalBlock host fileTag index with
  | none => (-1, disk)
  | some removed =>
    match removed.linkLogicalBlock host fileTag index physical with
    | none => (-2, removed)
    | some linked => (0, linked)

def freePhBlockIfUnused (host : Host) (disk : Disk config Hash) (index physical : Nat) :
    Int × Disk config Hash :=
  match disk.statPhysicalBlock host index physical with
  | none => (-1, disk)
  | some numbLinks =>
    if 1 < numbLinks then (0, disk)
    else if host (.loadBitmap index) then (-3, disk)
    else if host (.storeBitmap index) then (-4, disk)
    else (0, disk.setBit physical false)

/-- One iteration of the loop of `deduplicate_blocks`. -/
def deduplicateBlock (host : Host) (md5 : Block config.blockSize → Hash)
    (fileTag : FileTag) (logicalBlock : Nat) (state : Deduplication config Hash) :
    Int × Deduplication config Hash :=
  let physicalBlock := state.blocks.getD logicalBlock 0
  match state.disk.readBlockContent host fileTag logicalBlock with
  | none => (-3, state)
  | some content =>
    if host (.hashLogical logicalBlock) then (-3, state)
    else
      match state.hashIndex (md5 content) with
      | none =>
        (0, { state with
          hashIndex := Function.update state.hashIndex (md5 content)
            (some physicalBlock) })
      | some registered =>
        if registered = physicalBlock then (0, state)
        else
          match state.disk.updateLogicalBlockLink host fileTag logicalBlock
              registered with
          | (0, relinked) =>
            let blocks := state.blocks.set logicalBlock registered
            match relinked.freePhBlockIfUnused host logicalBlock physicalBlock with
            | (0, freed) => (0, { state with disk := freed, blocks := blocks })
            | (_, kept) => (-7, { state with disk := kept, blocks := blocks })
          | (_, failed) => (-5, { state with disk := failed })

/-- The loop of `deduplicate_blocks` over `remaining` blocks from `logicalBlock`
on. -/
def deduplicateLoop (host : Host) (md5 : Block config.blockSize → Hash)
    (fileTag : FileTag) : Nat → Nat → Deduplication config Hash →
      Int × Deduplication config Hash
  | _, 0, state => (0, state)
  | logicalBlock, remaining + 1, state =>
    match deduplicateBlock host md5 fileTag logicalBlock state with
    | (0, next) => deduplicateLoop host md5 fileTag (logicalBlock + 1) remaining next
    | failed => failed

/-- `config_save` of the hash index, whose result is ignored. -/
def saveHashIndex (host : Host) (disk : Disk config Hash)
    (hashIndex : Hash → Option Nat) : Disk config Hash :=
  if host .saveHashIndex then disk else { disk with hashIndex := hashIndex }

/-- `deduplicate_blocks`: the code, the disk and the `BLOCKS` it leaves in the
metadata structure of its caller.  The hash index is saved only when every
block went through. -/
def deduplicateBlocks (host : Host) (md5 : Block config.blockSize → Hash)
    (disk : Disk config Hash) (fileTag : FileTag) (blocks : List Nat) :
    Int × Disk config Hash × List Nat :=
  if blocks.length = 0 then (0, disk, blocks)
  else if host .readHashIndex then (-1, disk, blocks)
  else
    match deduplicateLoop host md5 fileTag 0 blocks.length
        ⟨disk, disk.hashIndex, blocks⟩ with
    | (0, final) =>
      (0, final.disk.saveHashIndex host final.hashIndex, final.blocks)
    | (code, final) => (code, final.disk, final.blocks)

def executeTagCommit (host : Host) (md5 : Block config.blockSize → Hash)
    (disk : Disk config Hash) (fileTag : FileTag) : Int × Disk config Hash :=
  if !disk.fileDirExists host fileTag then (fileTagMissing, disk)
  else
    match disk.readFileMetadata host fileTag with
    | none => (fileTagMissing, disk)
    | some metadata =>
      if metadata.state = .committed then (fileAlreadyCommitted, disk)
      else
        match deduplicateBlocks host md5 disk fileTag metadata.blocks with
        | (0, deduplicated, blocks) =>
          if host .allocateState then (-2, deduplicated)
          else
            (0, deduplicated.saveFileMetadata host fileTag
              { metadata with blocks := blocks, state := .committed })
        | (_, failed, _) => (-1, failed)

end Commit

end Disk

end Storage

end MasterOfFiles
