import MasterOfFiles.StorageOperations
import MasterOfFiles.TransitionSystem

/-!
# Storage as a transition system

Requests are executed one at a time from the disk that `init_storage` creates.
The second half of the file says what each operation does on a host whose
calls succeed: one equation per primitive and, per operation, what a result of
zero means.
-/

namespace MasterOfFiles

namespace Storage

variable {config : StorageConfig} {Hash : Type}

/-- The requests that Storage serves, one per operation. -/
inductive Request
  | createFile (fileTag : FileTag)
  | truncateFile (fileTag : FileTag) (newSizeBytes : Int32)
  | createTag (source target : FileTag)
  | executeBlockWrite (fileTag : FileTag) (blockNumber : UInt32) (blockData : List UInt8)
  | executeBlockRead (fileTag : FileTag) (blockNumber : UInt32)
  | executeTagCommit (fileTag : FileTag)
  | deleteTag (fileTag : FileTag)
deriving DecidableEq

/-- The disk after `init_storage`: zeroed blocks, an empty hash index, and
`initial_file:BASE` linked to physical block 0. -/
def initStorage (config : StorageConfig) (Hash : Type) : Disk config Hash where
  fileDirs := Function.update (fun _ => false) initialFileName true
  tagDirs := Function.update (fun _ => false) initialFileBase true
  metadata := Function.update (fun _ => none) initialFileBase
    (some ⟨0, [0], .committed⟩)
  links := LinkTable.empty.link initialFileBase 0 0
  content := fun _ => zeroBlock config.blockSize
  bitmap := Function.update (fun _ => false) 0 true
  hashIndex := fun _ => none

theorem blockNumberAsInt_of_lt {blockNumber : UInt32}
    (small : blockNumber.toNat < 2 ^ 31) :
    blockNumberAsInt blockNumber = blockNumber.toNat := by
  unfold blockNumberAsInt
  apply Int.bmod_eq_of_le_mul_two
  · omega
  · omega

theorem blockNumberAsInt_of_nonneg {blockNumber : UInt32}
    (nonnegative : 0 ≤ blockNumberAsInt blockNumber) :
    blockNumberAsInt blockNumber = blockNumber.toNat := by
  refine blockNumberAsInt_of_lt ?_
  by_contra large
  have numberLt := blockNumber.toNat_lt
  have shifted : blockNumberAsInt blockNumber = (blockNumber.toNat : Int) - 2 ^ 32 := by
    unfold blockNumberAsInt
    rw [← Int.sub_bmod_right, Int.bmod_eq_of_le_mul_two]
    · omega
    · omega
    · omega
  omega

namespace Disk

variable [DecidableEq Hash]

/-- Execute one request; a read leaves the disk alone. -/
def execute (host : Host) (md5 : Block config.blockSize → Hash)
    (disk : Disk config Hash) : Request → Int × Disk config Hash
  | .createFile fileTag => disk.createFile host fileTag
  | .truncateFile fileTag newSizeBytes => disk.truncateFile host fileTag newSizeBytes
  | .createTag source target => disk.createTag host source target
  | .executeBlockWrite fileTag blockNumber blockData =>
    disk.executeBlockWrite host fileTag blockNumber blockData
  | .executeBlockRead fileTag blockNumber =>
    match disk.executeBlockRead host fileTag blockNumber with
    | .ok _ => (0, disk)
    | .error code => (code, disk)
  | .executeTagCommit fileTag => executeTagCommit host md5 disk fileTag
  | .deleteTag fileTag => disk.deleteTag host fileTag

end Disk

section Systems

variable [DecidableEq Hash]

/-- Storage on a reliable host: every request is executed, whatever it
returns. -/
def storageSystem (md5 : Block config.blockSize → Hash) :
    TransitionSystem (Disk config Hash) Request where
  initial disk := disk = initStorage config Hash
  step before request after := (before.execute reliable md5 request).2 = after

/-- The request returns zero. -/
def Succeeds (md5 : Block config.blockSize → Hash) (disk : Disk config Hash)
    (request : Request) : Prop :=
  (disk.execute reliable md5 request).1 = 0

/-- The request leaves the disk as it was. -/
def Rejected (md5 : Block config.blockSize → Hash) (disk : Disk config Hash)
    (request : Request) : Prop :=
  (disk.execute reliable md5 request).2 = disk

def Disk.executeAll (md5 : Block config.blockSize → Hash) (disk : Disk config Hash)
    (requests : List Request) : Disk config Hash :=
  requests.foldl (fun current request => (current.execute reliable md5 request).2) disk

theorem reachable_executeAll (md5 : Block config.blockSize → Hash)
    (requests : List Request) :
    (storageSystem md5).Reachable ((initStorage config Hash).executeAll md5 requests) := by
  induction requests using List.reverseRecOn with
  | nil => exact TransitionSystem.Reachable.start rfl
  | append_singleton requests request ih =>
      refine TransitionSystem.Reachable.next ih (?_ : (storageSystem md5).step _ request _)
      simp [storageSystem, Disk.executeAll]

instance (md5 : Block config.blockSize → Hash) (disk : Disk config Hash)
    (request : Request) : Decidable (Succeeds md5 disk request) :=
  inferInstanceAs (Decidable (_ = _))

/-- Every request of a list meets a condition in the state it is executed in. -/
def Disk.AllMeet (md5 : Block config.blockSize → Hash)
    (condition : Disk config Hash → Request → Prop) :
    Disk config Hash → List Request → Prop
  | _, [] => True
  | disk, request :: requests =>
    condition disk request ∧
      Disk.AllMeet md5 condition (disk.execute reliable md5 request).2 requests

/-- A list of requests that meet a condition is a run of the guarded system. -/
theorem run_of_allMeet {md5 : Block config.blockSize → Hash}
    {condition : Disk config Hash → Request → Prop} {disk : Disk config Hash}
    {requests : List Request} (meet : Disk.AllMeet md5 condition disk requests) :
    ((storageSystem md5).guarded condition).Run disk requests
      (disk.executeAll md5 requests) := by
  induction requests generalizing disk with
  | nil => exact TransitionSystem.Run.nil
  | cons request requests ih =>
      have first : ((storageSystem md5).guarded condition).Run disk [request]
          (disk.execute reliable md5 request).2 :=
        TransitionSystem.Run.single ⟨meet.1, rfl⟩
      exact first.append (ih meet.2)

end Systems

/-- A file system of four one-byte blocks, small enough to be evaluated. -/
def fourByteConfig : StorageConfig := ⟨4, 1, by decide, by decide, by decide⟩

/-- The MD5 sums of the one-byte blocks NUL, `A` and `B`. -/
def oneByteMd5 (block : Block fourByteConfig.blockSize) : String :=
  match block.toList with
  | [0] => "93b885adfe0da089cdf634904fd59f71"
  | [65] => "7fc56270e7a70fa81a5935b72eacbe29"
  | [66] => "9d5ed678fe57bcca610140957afab571"
  | _ => ""

def fileA : FileTag := ⟨⟨"a", by decide⟩, ⟨"T", by decide⟩⟩

def fileB : FileTag := ⟨⟨"b", by decide⟩, ⟨"T", by decide⟩⟩

def fileC : FileTag := ⟨⟨"c", by decide⟩, ⟨"T", by decide⟩⟩

/-- Create a File:Tag of one block and write one byte to it. -/
def writeOneByte (fileTag : FileTag) (byte : UInt8) : List Request :=
  [.createFile fileTag, .truncateFile fileTag 1, .executeBlockWrite fileTag 0 [byte]]

/-- `a:T` and `b:T` with the same byte, both committed. -/
def storedTwice : List Request :=
  writeOneByte fileA 65 ++ [.executeTagCommit fileA] ++ writeOneByte fileB 65 ++
    [.executeTagCommit fileB]

/-- The disk after some requests on the four-byte file system. -/
def sampleDisk (requests : List Request) : Disk fourByteConfig String :=
  (initStorage fourByteConfig String).executeAll oneByteMd5 requests

namespace Disk

theorem eq_of_code {result : Int × Disk config Hash} (code : result.1 = 0) :
    result = (0, result.2) :=
  Prod.ext code rfl

section Primitives

@[simp]
theorem fileDirExists_reliable (disk : Disk config Hash) (fileTag : FileTag) :
    disk.fileDirExists reliable fileTag = disk.tagDirs fileTag := by
  simp [fileDirExists]

@[simp]
theorem readFileMetadata_reliable (disk : Disk config Hash) (fileTag : FileTag) :
    disk.readFileMetadata reliable fileTag = disk.metadata fileTag := by
  simp [readFileMetadata]

@[simp]
theorem saveFileMetadata_reliable (disk : Disk config Hash) (fileTag : FileTag)
    (metadata : FileMetadata) :
    disk.saveFileMetadata reliable fileTag metadata =
      disk.setMetadata fileTag metadata := by
  simp [saveFileMetadata]

@[simp]
theorem saveHashIndex_reliable (disk : Disk config Hash) (hashIndex : Hash → Option Nat) :
    disk.saveHashIndex reliable hashIndex = { disk with hashIndex := hashIndex } := by
  simp [saveHashIndex]

@[simp]
theorem createMetadataFile_reliable (disk : Disk config Hash) (fileTag : FileTag)
    (metadata : FileMetadata) :
    disk.createMetadataFile reliable fileTag metadata =
      (0, disk.setMetadata fileTag metadata) := by
  simp [createMetadataFile]

@[simp]
theorem modifyBitmapBit_reliable (disk : Disk config Hash) (index physical : Nat)
    (value : Bool) :
    disk.modifyBitmapBit reliable index physical value =
      (0, disk.setBit physical value) := by
  simp [modifyBitmapBit]

@[simp]
theorem readBlockContent_reliable (disk : Disk config Hash) (fileTag : FileTag)
    (index : Nat) :
    disk.readBlockContent reliable fileTag index = disk.logicalContent fileTag index := by
  simp [readBlockContent]

@[simp]
theorem phBlockLinks_reliable (disk : Disk config Hash) (fileTag : FileTag)
    (index : Nat) :
    disk.phBlockLinks reliable fileTag index =
      (disk.links.inode fileTag index).map disk.stNlink := by
  simp [phBlockLinks]

theorem removeLogicalBlock_reliable {disk removed : Disk config Hash}
    {fileTag : FileTag} {index : Nat} :
    disk.removeLogicalBlock reliable fileTag index = some removed ↔
      disk.links.inode fileTag index ≠ none ∧
        removed = { disk with links := disk.links.unlink fileTag index } := by
  simp only [removeLogicalBlock, reliable_apply, Bool.false_eq_true, false_or]
  split <;> simp_all [eq_comm]

theorem linkLogicalBlock_reliable {disk linked : Disk config Hash}
    {fileTag : FileTag} {index physical : Nat} :
    disk.linkLogicalBlock reliable fileTag index physical = some linked ↔
      physical < config.totalBlocks ∧ disk.links.inode fileTag index = none ∧
        linked = { disk with links := disk.links.link fileTag index physical } := by
  simp only [linkLogicalBlock, reliable_apply, Bool.false_eq_true, false_or]
  split
  · rename_i refused
    simp only [reduceCtorEq, false_iff, not_and]
    intro physicalLt free
    rcases refused with tooBig | taken
    · omega
    · exact absurd free taken
  · rename_i accepted
    push Not at accepted
    simp [accepted, eq_comm]

/-- Drop one link and clear the bit of its physical block when that was the
last one: what `delete_logical_block` does when its calls succeed. -/
def dropLink (disk : Disk config Hash) (fileTag : FileTag) (index physical : Nat) :
    Disk config Hash :=
  { disk with
    links := disk.links.unlink fileTag index
    bitmap :=
      if (disk.links.unlink fileTag index).linkCount physical = 0 then
        Function.update disk.bitmap physical false
      else disk.bitmap }

theorem deleteLogicalBlock_reliable {disk : Disk config Hash} {fileTag : FileTag}
    {index physical : Nat} (held : disk.links.inode fileTag index ≠ none)
    (physicalLt : physical < config.totalBlocks) :
    disk.deleteLogicalBlock reliable fileTag index physical =
      (0, disk.dropLink fileTag index physical) := by
  have removed : disk.removeLogicalBlock reliable fileTag index =
      some { disk with links := disk.links.unlink fileTag index } :=
    removeLogicalBlock_reliable.mpr ⟨held, rfl⟩
  simp only [deleteLogicalBlock, removed, statPhysicalBlock, reliable_apply,
    Bool.false_eq_true, false_or, Nat.not_le.mpr physicalLt, if_false, stNlink]
  by_cases last : (disk.links.unlink fileTag index).linkCount physical = 0
  · simp [last, dropLink, setBit]
  · simp [last, dropLink]

end Primitives

section Success

variable {disk after : Disk config Hash} {fileTag : FileTag}

theorem createFile_success (done : disk.createFile reliable fileTag = (0, after)) :
    disk.tagDirs fileTag = false ∧
      after = (disk.makeDirectories fileTag).setMetadata fileTag defaultMetadata := by
  by_cases present : disk.tagDirs fileTag = true
  · simp [createFile, createFileDirStructure, present, fileTagAlreadyExists] at done
  · simp only [Bool.not_eq_true] at present
    simp only [createFile, createFileDirStructure, fileDirExists_reliable, present,
      Bool.false_eq_true, if_false, reliable_apply, createMetadataFile_reliable,
      Prod.mk.injEq, true_and] at done
    exact ⟨present, done.symm⟩

theorem truncateFile_success {newSizeBytes : Int32}
    (done : disk.truncateFile reliable fileTag newSizeBytes = (0, after)) :
    ∃ metadata, disk.metadata fileTag = some metadata ∧
      ((newBlockCount config newSizeBytes = metadata.blocks.length ∧
          after = disk.setMetadata fileTag
            { metadata with size := newSizeBytes.toInt }) ∨
        (∃ newCount : Nat, newBlockCount config newSizeBytes = newCount ∧
          newCount < metadata.blocks.length ∧
          after = (deleteSurplusBlocks reliable fileTag newCount
            (metadata.blocks.drop newCount) disk).setMetadata fileTag
              { metadata with
                size := newSizeBytes.toInt
                blocks := metadata.blocks.take newCount }) ∨
        (∃ extra : Nat, ∃ grown,
          newBlockCount config newSizeBytes = (metadata.blocks.length + extra : Nat) ∧
          0 < extra ∧
          linkZeroBlocks reliable fileTag metadata.blocks.length extra disk =
            (true, grown) ∧
          after = grown.setMetadata fileTag
            { metadata with
              size := newSizeBytes.toInt
              blocks := metadata.blocks ++ List.replicate extra 0 })) := by
  simp only [truncateFile, readFileMetadata_reliable] at done
  split at done
  · simp at done
  · rename_i metadata held
    refine ⟨metadata, held, ?_⟩
    simp only [saveFileMetadata_reliable, reliable_apply, Bool.false_eq_true,
      or_false] at done
    split at done
    · rename_i same
      simp only [Prod.mk.injEq, true_and] at done
      exact Or.inl ⟨same, done.symm⟩
    · split at done
      · simp at done
      · rename_i different nonnegative
        split at done
        · rename_i shrinks
          simp only [Prod.mk.injEq, true_and] at done
          refine Or.inr (Or.inl ⟨(newBlockCount config newSizeBytes).toNat,
            by omega, by omega, done.symm⟩)
        · split at done
          · simp at done
          · rename_i grown linked
            simp only [Prod.mk.injEq, true_and] at done
            exact Or.inr (Or.inr ⟨_, grown, by omega, by omega, linked, done.symm⟩)

theorem createTag_success {source target : FileTag}
    (done : disk.createTag reliable source target = (0, after)) :
    ∃ metadata, disk.metadata source = some metadata ∧
      disk.metadata target = none ∧
      after = ({ disk with
          tagDirs := Function.update disk.tagDirs target true
          links := disk.links.copyDirectory source target } :
            Disk config Hash).setMetadata target
          { metadata with state := .workInProgress } := by
  simp only [createTag, readFileMetadata_reliable] at done
  split at done
  · simp [fileTagAlreadyExists] at done
  · rename_i absent
    split at done
    · simp [fileTagMissing] at done
    · rename_i metadata held
      simp only [makeTagDirectories, reliable_apply, Bool.false_eq_true, false_or,
        and_false, if_false] at done
      refine ⟨metadata, held, absent, ?_⟩
      by_cases orphan : disk.tagDirs target = false ∧ disk.fileDirs target.file = false
      · simp [orphan] at done
      · simp only [orphan, if_false, copyLogicalBlocks, reliable_apply,
          Bool.false_eq_true, false_or, createMetadataFile_reliable] at done
        split_ifs at done with conflict
        · simp at done
        · simpa using (Prod.mk.inj done).2.symm

theorem deleteTagBlocks_success {host : Host} {index : Nat} {blocks : List Nat}
    (done : deleteTagBlocks host fileTag index blocks disk = (true, after)) :
    after = deleteSurplusBlocks host fileTag index blocks disk := by
  induction blocks generalizing index disk with
  | nil => simpa [deleteTagBlocks, deleteSurplusBlocks, eq_comm] using done
  | cons physical rest ih =>
      simp only [deleteTagBlocks] at done
      split at done
      · rename_i deleted step
        rw [deleteSurplusBlocks, step]
        exact ih done
      · simp at done

theorem deleteTag_success (done : disk.deleteTag reliable fileTag = (0, after)) :
    ∃ metadata, disk.metadata fileTag = some metadata ∧ fileTag ≠ initialFileBase ∧
      after = (deleteSurplusBlocks reliable fileTag 0 metadata.blocks
        disk).removeDirectories fileTag := by
  simp only [deleteTag, readFileMetadata_reliable] at done
  split at done
  · simp at done
  · rename_i unprotected
    split at done
    · simp [fileTagMissing] at done
    · rename_i metadata held
      refine ⟨metadata, held, unprotected, ?_⟩
      split at done
      · simp at done
      · rename_i emptied loop
        rw [← deleteTagBlocks_success loop]
        simp only [deleteFileDirStructure, fileDirExists_reliable, reliable_apply,
          Bool.false_eq_true, if_false] at done
        by_cases present : emptied.tagDirs fileTag = true
        · simpa [present, eq_comm] using done
        · simp [present, fileTagMissing] at done

theorem bitmap_of_getFreeBitIndex {physical : Nat}
    (found : disk.getFreeBitIndex = some physical) :
    disk.bitmap physical = false := by
  simpa using List.find?_some found

theorem moveToFreeBlock_success {metadata : FileMetadata} {index : Nat}
    (done : disk.moveToFreeBlock reliable fileTag metadata index = (0, after)) :
    ∃ free, disk.getFreeBitIndex = some free ∧ free < config.totalBlocks ∧
      after = ({ disk with
          links := (disk.links.unlink fileTag index).link fileTag index free
          bitmap := Function.update disk.bitmap free true } :
            Disk config Hash).setMetadata fileTag
          { metadata with blocks := metadata.blocks.set index free } := by
  simp only [moveToFreeBlock, reliable_apply, Bool.false_eq_true, if_false] at done
  split at done
  · simp at done
  · rename_i removed removal
    obtain ⟨_, rfl⟩ := removeLogicalBlock_reliable.mp removal
    split at done
    · simp [notEnoughSpace] at done
    · rename_i free found
      split at done
      · simp at done
      · rename_i linked linking
        simp only [createNewHardlink, setBit] at linking
        split at linking
        · simp at linking
        · obtain ⟨freeLt, _, rfl⟩ := linkLogicalBlock_reliable.mp linking
          refine ⟨free, found, freeLt, ?_⟩
          simpa [eq_comm] using done

theorem executeBlockWrite_success {blockNumber : UInt32} {blockData : List UInt8}
    (done : disk.executeBlockWrite reliable fileTag blockNumber blockData = (0, after)) :
    ∃ metadata physical, disk.metadata fileTag = some metadata ∧
      metadata.state = .workInProgress ∧
      disk.links.inode fileTag blockNumber.toNat = some physical ∧
      ((disk.links.linkCount physical ≤ 1 ∧
          after = { disk with
            content := Function.update disk.content physical
              (paddedBlock config.blockSize blockData) }) ∨
        (1 < disk.links.linkCount physical ∧
          ∃ free, disk.getFreeBitIndex = some free ∧ free < config.totalBlocks ∧
            after = ({ disk with
              links := (disk.links.unlink fileTag blockNumber.toNat).link fileTag
                blockNumber.toNat free
              bitmap := Function.update disk.bitmap free true
              content := Function.update disk.content free
                (paddedBlock config.blockSize blockData) } :
                  Disk config Hash).setMetadata fileTag
              { metadata with
                blocks := metadata.blocks.set blockNumber.toNat free })) := by
  simp only [executeBlockWrite, readFileMetadata_reliable, phBlockLinks_reliable] at done
  split at done
  · simp [fileTagMissing] at done
  · split at done
    · simp [fileTagMissing] at done
    · rename_i metadata held
      split at done
      · simp [fileAlreadyCommitted] at done
      · rename_i open_
        split at done
        · simp [readOutOfBounds] at done
        · cases linked : disk.links.inode fileTag blockNumber.toNat with
          | none => simp [linked] at done
          | some physical =>
              have inProgress : metadata.state = .workInProgress := by
                cases state : metadata.state <;> simp_all
              refine ⟨metadata, physical, held, inProgress, rfl, ?_⟩
              simp only [linked, Option.map_some, stNlink] at done
              by_cases shared : 1 < disk.links.linkCount physical
              · right
                refine ⟨shared, ?_⟩
                rw [if_pos (by omega)] at done
                split at done
                · rename_i own moved
                  obtain ⟨free, found, freeLt, rfl⟩ := moveToFreeBlock_success moved
                  refine ⟨free, found, freeLt, ?_⟩
                  simpa [writeToLogicalBlock, setMetadata, eq_comm] using done
                · rename_i failed notZero
                  exact absurd done (notZero _)
              · left
                refine ⟨by omega, ?_⟩
                rw [if_neg (by omega)] at done
                simpa [writeToLogicalBlock, linked, eq_comm] using done

theorem executeTagCommit_success [DecidableEq Hash] {md5 : Block config.blockSize → Hash}
    (done : executeTagCommit reliable md5 disk fileTag = (0, after)) :
    ∃ metadata final, disk.metadata fileTag = some metadata ∧
      metadata.state = .workInProgress ∧
      deduplicateLoop reliable md5 fileTag 0 metadata.blocks.length
        ⟨disk, disk.hashIndex, metadata.blocks⟩ = (0, final) ∧
      after = ({ final.disk with hashIndex := final.hashIndex } :
          Disk config Hash).setMetadata fileTag
        { metadata with blocks := final.blocks, state := .committed } := by
  simp only [executeTagCommit, readFileMetadata_reliable, saveFileMetadata_reliable,
    reliable_apply, Bool.false_eq_true, if_false] at done
  split at done
  · simp [fileTagMissing] at done
  · split at done
    · simp [fileTagMissing] at done
    · rename_i metadata held
      split at done
      · simp [fileAlreadyCommitted] at done
      · have inProgress : metadata.state = .workInProgress := by
          cases state : metadata.state <;> simp_all
        split at done
        · rename_i deduplicated blocks loop
          simp only [deduplicateBlocks, reliable_apply, Bool.false_eq_true, if_false,
            saveHashIndex_reliable] at loop
          split at loop
          · rename_i noBlocks
            simp only [Prod.mk.injEq, true_and] at loop done
            obtain ⟨rfl, rfl⟩ := loop
            refine ⟨metadata, ⟨disk, disk.hashIndex, metadata.blocks⟩, held, inProgress,
              ?_, done.symm⟩
            rw [noBlocks, deduplicateLoop]
          · split at loop
            · rename_i final whole
              simp only [Prod.mk.injEq, true_and] at loop done
              obtain ⟨rfl, rfl⟩ := loop
              exact ⟨metadata, final, held, inProgress, whole, done.symm⟩
            · rename_i code final notZero whole
              simp only [Prod.mk.injEq] at loop
              exact (notZero loop.1).elim
        · simp at done

end Success

end Disk

end Storage

end MasterOfFiles
