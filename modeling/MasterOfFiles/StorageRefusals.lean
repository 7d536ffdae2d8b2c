import MasterOfFiles.StorageCommitContents
import MasterOfFiles.StorageGrowth
import MasterOfFiles.StorageRefinement

/-!
# Requests that succeed or change nothing

On a consistent disk an operation that stops halfway has run out of room, or it is a
COMMIT.  With room for the writes, and with COMMITs that relink blocks only to blocks in
use with the same bytes, every request either does what it means to the block lists or
leaves the disk as it was.
-/

namespace MasterOfFiles

namespace Storage

variable {config : StorageConfig} {Hash : Type}

namespace Disk

variable {disk : Disk config Hash} {fileTag : FileTag}

theorem Consistent.inode_none (consistent : disk.Consistent)
    (missing : disk.metadata fileTag = none) (index : Nat) :
    disk.links.inode fileTag index = none := by
  rw [consistent.inode, blocksOf_of_missing missing]
  rfl

/-- Blocks without a name can all be linked to block 0. -/
theorem linkZeroBlocks_code {disk : Disk config Hash} {index : Nat} (count : Nat)
    (free : ∀ position, index ≤ position → disk.links.inode fileTag position = none) :
    (linkZeroBlocks reliable fileTag index count disk).1 = true := by
  induction count generalizing index disk with
  | zero => rfl
  | succ count ih =>
      have linking : disk.linkLogicalBlock reliable fileTag index 0 =
          some { disk with links := disk.links.link fileTag index 0 } :=
        linkLogicalBlock_reliable.mpr
          ⟨config.totalBlocks_pos, free index (Nat.le_refl _), rfl⟩
      rw [linkZeroBlocks, linking]
      refine ih fun position later => ?_
      have different : position ≠ index := by omega
      simp [different, free position (by omega)]

/-- A list that names all links from `index` on can be deleted. -/
theorem deleteTagBlocks_code {disk : Disk config Hash} {index : Nat} {blocks : List Nat}
    (linked : ∀ offset, disk.links.inode fileTag (index + offset) = blocks[offset]?)
    (blockLt : ∀ physical ∈ blocks, physical < config.totalBlocks) :
    (deleteTagBlocks reliable fileTag index blocks disk).1 = true := by
  induction blocks generalizing index disk with
  | nil => rfl
  | cons physical rest ih =>
      have first : disk.links.inode fileTag index = some physical := by
        simpa using linked 0
      rw [deleteTagBlocks,
        deleteLogicalBlock_reliable (by simp [first]) (blockLt physical (by simp))]
      refine ih (fun offset => ?_) fun other member => blockLt other (by simp [member])
      have next := linked (offset + 1)
      have different : index + 1 + offset ≠ index := by omega
      simpa [dropLink, different, Nat.add_comm, Nat.add_left_comm] using next

/-- A result that is not zero has left the disk alone. -/
def Untouched (disk : Disk config Hash) (result : Int × Disk config Hash) : Prop :=
  result.1 ≠ 0 → result.2 = disk

theorem createFile_untouched : disk.Untouched (disk.createFile reliable fileTag) := by
  intro failed
  by_cases present : disk.tagDirs fileTag = true
  · simp [createFile, createFileDirStructure, present, fileTagAlreadyExists]
  · simp [createFile, createFileDirStructure, present] at failed

theorem Consistent.truncateFile_untouched (consistent : disk.Consistent)
    {newSizeBytes : Int32} (nonnegative : 0 ≤ newBlockCount config newSizeBytes) :
    disk.Untouched (disk.truncateFile reliable fileTag newSizeBytes) := by
  intro failed
  cases held : disk.metadata fileTag with
  | none => simp [Disk.truncateFile, held]
  | some metadata =>
      by_cases shrinks : newBlockCount config newSizeBytes ≤ metadata.blocks.length
      · exact absurd (truncateFile_code held nonnegative shrinks) failed
      · have linking := @linkZeroBlocks_code config Hash fileTag disk metadata.blocks.length
          ((newBlockCount config newSizeBytes).toNat - metadata.blocks.length) (by
            intro position later
            rw [consistent.inode, blocksOf_of_metadata held]
            exact List.getElem?_eq_none later)
        simp only [Disk.truncateFile, readFileMetadata_reliable, held, saveFileMetadata_reliable,
          reliable_apply, Bool.false_eq_true, or_false] at failed
        rw [if_neg (by omega), if_neg (by omega), if_neg (by omega)] at failed
        split at failed
        · rename_i grown stopped
          rw [stopped] at linking
          simp at linking
        · exact absurd rfl failed

theorem Consistent.createTag_untouched (consistent : disk.Consistent) {source : FileTag} :
    disk.Untouched (disk.createTag reliable source fileTag) := by
  intro failed
  cases held : disk.metadata fileTag with
  | some metadata => simp [Disk.createTag, held]
  | none =>
      cases sourceHeld : disk.metadata source with
      | none => simp [Disk.createTag, held, sourceHeld]
      | some metadata =>
          by_cases refused : disk.tagDirs fileTag = false ∧ disk.fileDirs fileTag.file = false
          · simp [Disk.createTag, held, sourceHeld, makeTagDirectories, refused]
          · simp [Disk.createTag, held, sourceHeld, makeTagDirectories, refused,
              copyLogicalBlocks, consistent.inode_none held] at failed

theorem BitmapTrue.executeBlockWrite_untouched (bitmapTrue : disk.BitmapTrue) {blockNumber : UInt32}
    {blockData : List UInt8}
    (room : disk.InProgress fileTag → disk.FindsRoom fileTag blockNumber.toNat) :
    disk.Untouched (disk.executeBlockWrite reliable fileTag blockNumber blockData) := by
  intro failed
  cases linked : disk.links.inode fileTag blockNumber.toNat with
  | none =>
      simp only [Disk.executeBlockWrite, readFileMetadata_reliable, phBlockLinks_reliable,
        linked, Option.map_none] at failed ⊢
      split
      · rfl
      · split
        · rfl
        · split
          · rfl
          · split <;> rfl
  | some physical =>
      have reserved : disk.Reserved fileTag blockNumber.toNat physical :=
        ⟨linked, (bitmapTrue physical).mpr ⟨fileTag, blockNumber.toNat, linked⟩⟩
      exact (executeBlockWrite_code reserved room).resolve_left failed

theorem Consistent.deleteTag_untouched (consistent : disk.Consistent) :
    disk.Untouched (disk.deleteTag reliable fileTag) := by
  intro failed
  by_cases base : fileTag = initialFileBase
  · simp [Disk.deleteTag, base]
  · cases held : disk.metadata fileTag with
    | none => simp [Disk.deleteTag, base, held]
    | some metadata =>
        have loop : (deleteTagBlocks reliable fileTag 0 metadata.blocks disk).1 = true := by
          refine deleteTagBlocks_code (fun offset => ?_) fun physical member => ?_
          · rw [Nat.zero_add, consistent.inode, blocksOf_of_metadata held]
          · exact consistent.block_lt fileTag physical (by rwa [blocksOf_of_metadata held])
        have only := deleteTagBlocks_linksOnly disk fileTag 0 metadata.blocks
        have present := consistent.tagDirs fileTag (by simp [held])
        simp only [Disk.deleteTag, if_neg base, readFileMetadata_reliable, held] at failed
        split at failed
        · rename_i emptied stopped
          rw [stopped] at loop
          simp at loop
        · rename_i emptied went
          rw [went] at only
          have tagDirsEq : emptied.tagDirs = disk.tagDirs := only.tagDirs
          simp [deleteFileDirStructure, tagDirsEq, present] at failed

end Disk

/-- The bytes of the logical blocks of each File:Tag. -/
def Disk.blockLists (disk : Disk config Hash) : BlockLists config.blockSize :=
  fun fileTag => (disk.metadata fileTag).map fun metadata => metadata.blocks.map disk.content

section Harmless

variable [DecidableEq Hash]

/-- A request that does what it means or nothing: a write finds room, a truncation has a
size from 0 to `INT_MAX - block_size`, a COMMIT relinks to blocks in use with the same
bytes, and `initial_file:BASE` is left alone. -/
def Harmless (md5 : Block config.blockSize → Hash) (disk : Disk config Hash) :
    Request → Prop
  | .truncateFile fileTag newSizeBytes =>
    Independent config (.truncateFile fileTag newSizeBytes)
  | .executeBlockWrite fileTag blockNumber _ => fileTag ≠ initialFileBase ∧
    (disk.InProgress fileTag → disk.FindsRoom fileTag blockNumber.toNat)
  | .executeTagCommit fileTag => fileTag ≠ initialFileBase ∧
    (Succeeds md5 disk (.executeTagCommit fileTag) ∧
        KeepsBitmapTrue md5 disk (.executeTagCommit fileTag) ∧
        disk.TargetsHoldBytes md5 fileTag ∨
      Rejected md5 disk (.executeTagCommit fileTag))
  | _ => True

variable {md5 : Block config.blockSize → Hash} {disk after : Disk config Hash}
  {lists : BlockLists config.blockSize} {fileTag : FileTag}

/-- A COMMIT that relinks only to blocks with the same bytes changes no block list. -/
theorem Refines.executeTagCommit (refines : Refines disk lists)
    (unprotected : fileTag ≠ initialFileBase)
    (keeps : KeepsBitmapTrue md5 disk (.executeTagCommit fileTag))
    (targets : disk.TargetsHoldBytes md5 fileTag)
    (done : Disk.executeTagCommit reliable md5 disk fileTag = (0, after)) :
    Refines after lists := by
  obtain ⟨metadata, outcome⟩ := Disk.executeTagCommit_outcome done
  obtain ⟨blocks, lengthEq, _, metadataEq⟩ := outcome.metadata_eq
  have consistent := refines.consistent.executeTagCommit done
  have same : ∀ index, after.logicalContent fileTag index =
      disk.logicalContent fileTag index := by
    intro index
    rw [outcome.logicalContent]
    split
    · rename_i moved
      obtain ⟨bytes, read⟩ := Option.isSome_iff_exists.mp (outcome.readable index moved.2.1)
      rcases targets metadata outcome.held index moved.2.1 bytes read with stays | bytesEq
      · exact absurd stays moved.2.2
      · rw [read, bytesEq]
    · rfl
  refine ⟨consistent, refines.bitmapTrue.executeTagCommit refines.consistent keeps done, ?_, ?_,
    fun other => ?_⟩
  · rw [Disk.blocksOf, metadataEq, Function.update_of_ne (Ne.symm unprotected)]
    exact refines.base
  · rw [outcome.content, refines.zero]
  · rw [refines.lists]
    by_cases here : other = fileTag
    · subst here
      rw [metadataEq, Function.update_self, outcome.held]
      simp only [Option.map_some, Option.some.injEq]
      refine List.ext_getElem? fun index => ?_
      have contents := same index
      rw [Disk.logicalContent, Disk.logicalContent, consistent.inode,
        refines.consistent.inode, Disk.blocksOf_of_metadata outcome.held,
        Disk.blocksOf_of_metadata (by rw [metadataEq, Function.update_self])] at contents
      simpa using contents.symm
    · rw [metadataEq, Function.update_of_ne here, outcome.content]

/-- A harmless request takes the step of the block lists or leaves the disk alone. -/
theorem Refines.execute (refines : Refines disk lists) {request : Request}
    (harmless : Harmless md5 disk request) :
    Refines (disk.execute reliable md5 request).2
      (if (disk.execute reliable md5 request).1 = 0 then lists.apply request else lists) := by
  have refused : disk.Untouched (disk.execute reliable md5 request) →
      (Succeeds md5 disk request →
        Refines (disk.execute reliable md5 request).2 (lists.apply request)) →
      Refines (disk.execute reliable md5 request).2
        (if (disk.execute reliable md5 request).1 = 0 then lists.apply request
          else lists) := by
    intro untouched succeeded
    split
    · rename_i done
      exact succeeded done
    · rename_i failed
      rw [untouched failed]
      exact refines
  have stepped : Independent config request → Succeeds md5 disk request →
      Refines (disk.execute reliable md5 request).2 (lists.apply request) :=
    fun independent succeeds => refines.step independent (Disk.eq_of_code succeeds)
  cases request with
  | createFile fileTag => exact refused Disk.createFile_untouched (stepped trivial)
  | truncateFile fileTag newSizeBytes =>
      refine refused (refines.consistent.truncateFile_untouched ?_) (stepped harmless)
      rw [newBlockCount_eq_ceilDiv harmless.2.1 harmless.2.2]
      exact Int.natCast_nonneg _
  | createTag source target =>
      exact refused refines.consistent.createTag_untouched (stepped trivial)
  | executeBlockWrite fileTag blockNumber blockData =>
      exact refused (refines.bitmapTrue.executeBlockWrite_untouched harmless.2)
        (stepped harmless.1)
  | executeBlockRead fileTag blockNumber =>
      exact refused (fun _ => Disk.execute_executeBlockRead md5 disk reliable fileTag
        blockNumber) (stepped trivial)
  | executeTagCommit fileTag =>
      obtain ⟨unprotected, ⟨succeeds, keeps, targets⟩ | rejected⟩ := harmless
      · have code : (disk.execute reliable md5 (.executeTagCommit fileTag)).1 = 0 := succeeds
        rw [if_pos code]
        exact refines.executeTagCommit unprotected keeps targets (Disk.eq_of_code succeeds)
      · rw [show (disk.execute reliable md5 (.executeTagCommit fileTag)).2 = disk from rejected]
        split
        · exact refines
        · exact refines
  | deleteTag fileTag =>
      exact refused refines.consistent.deleteTag_untouched (stepped trivial)

end Harmless

end Storage

end MasterOfFiles
