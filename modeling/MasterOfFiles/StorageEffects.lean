import MasterOfFiles.StorageDeduplication
import Mathlib.Algebra.Order.Ring.Int

/-!
# What a request can touch

Whatever it returns, a request only changes the directory of its own File:Tag,
keeps the disk well formed, and changes bytes only in `execute_block_write`.
These facts hold of failed requests as well, so they hold along every run.
-/

namespace MasterOfFiles

namespace Storage

variable {config : StorageConfig} {Hash : Type}

namespace Disk

/-- A `metadata.config` lives in an existing directory and lists fewer blocks
than an `int` can count. -/
structure WellFormed (disk : Disk config Hash) : Prop where
  tagDirs : ∀ fileTag, disk.metadata fileTag ≠ none → disk.tagDirs fileTag = true
  length_lt : ∀ fileTag metadata, disk.metadata fileTag = some metadata →
    metadata.blocks.length < 2 ^ 31

/-- Only links of `target` and bits of the bitmap have changed. -/
structure LinksOnly (target : FileTag) (before after : Disk config Hash) : Prop where
  fileDirs : after.fileDirs = before.fileDirs
  tagDirs : after.tagDirs = before.tagDirs
  metadata : after.metadata = before.metadata
  content : after.content = before.content
  hashIndex : after.hashIndex = before.hashIndex
  inode : ∀ other, other ≠ target → ∀ index,
    after.links.inode other index = before.links.inode other index

namespace LinksOnly

variable {target : FileTag} {before middle after : Disk config Hash}

theorem refl (target : FileTag) (disk : Disk config Hash) : LinksOnly target disk disk :=
  ⟨rfl, rfl, rfl, rfl, rfl, fun _ _ _ => rfl⟩

theorem trans (first : LinksOnly target before middle)
    (second : LinksOnly target middle after) : LinksOnly target before after where
  fileDirs := second.fileDirs.trans first.fileDirs
  tagDirs := second.tagDirs.trans first.tagDirs
  metadata := second.metadata.trans first.metadata
  content := second.content.trans first.content
  hashIndex := second.hashIndex.trans first.hashIndex
  inode other different index :=
    (second.inode other different index).trans (first.inode other different index)

theorem unlink (disk : Disk config Hash) (target : FileTag) (index : Nat) :
    LinksOnly target disk { disk with links := disk.links.unlink target index } :=
  ⟨rfl, rfl, rfl, rfl, rfl, by intro other different _; simp [different]⟩

theorem link (disk : Disk config Hash) (target : FileTag) (index physical : Nat) :
    LinksOnly target disk { disk with links := disk.links.link target index physical } :=
  ⟨rfl, rfl, rfl, rfl, rfl, by intro other different _; simp [different]⟩

theorem setBit (disk : Disk config Hash) (target : FileTag) (physical : Nat)
    (value : Bool) : LinksOnly target disk (disk.setBit physical value) :=
  ⟨rfl, rfl, rfl, rfl, rfl, fun _ _ _ => rfl⟩

theorem wellFormed (only : LinksOnly target before after) (start : before.WellFormed) :
    after.WellFormed := by
  refine ⟨?_, ?_⟩
  · rw [only.metadata, only.tagDirs]
    exact start.tagDirs
  · rw [only.metadata]
    exact start.length_lt

end LinksOnly

section Loops

theorem deleteLogicalBlock_linksOnly (disk : Disk config Hash) (fileTag : FileTag)
    (index physical : Nat) :
    LinksOnly fileTag disk (disk.deleteLogicalBlock reliable fileTag index physical).2 := by
  simp only [deleteLogicalBlock, modifyBitmapBit_reliable]
  split
  · exact LinksOnly.refl fileTag disk
  · rename_i removed removal
    obtain ⟨_, rfl⟩ := removeLogicalBlock_reliable.mp removal
    have unlinked := LinksOnly.unlink disk fileTag index
    split
    · exact unlinked
    · split
      · exact unlinked
      · exact unlinked.trans (LinksOnly.setBit _ fileTag physical false)

theorem deleteSurplusBlocks_linksOnly (disk : Disk config Hash) (fileTag : FileTag)
    (index : Nat) (blocks : List Nat) :
    LinksOnly fileTag disk (deleteSurplusBlocks reliable fileTag index blocks disk) := by
  induction blocks generalizing index disk with
  | nil => exact LinksOnly.refl fileTag disk
  | cons physical rest ih =>
      exact (deleteLogicalBlock_linksOnly disk fileTag index physical).trans (ih _ _)

theorem deleteTagBlocks_linksOnly (disk : Disk config Hash) (fileTag : FileTag)
    (index : Nat) (blocks : List Nat) :
    LinksOnly fileTag disk (deleteTagBlocks reliable fileTag index blocks disk).2 := by
  induction blocks generalizing index disk with
  | nil => exact LinksOnly.refl fileTag disk
  | cons physical rest ih =>
      have first := deleteLogicalBlock_linksOnly disk fileTag index physical
      rw [deleteTagBlocks]
      split
      · rename_i deleted step
        rw [step] at first
        exact first.trans (ih _ _)
      · rename_i failed _ step
        rw [step] at first
        exact first

theorem linkZeroBlocks_linksOnly (disk : Disk config Hash) (fileTag : FileTag)
    (index count : Nat) :
    LinksOnly fileTag disk (linkZeroBlocks reliable fileTag index count disk).2 := by
  induction count generalizing index disk with
  | zero => exact LinksOnly.refl fileTag disk
  | succ count ih =>
      rw [linkZeroBlocks]
      split
      · exact LinksOnly.refl fileTag disk
      · rename_i linked linking
        obtain ⟨_, _, rfl⟩ := linkLogicalBlock_reliable.mp linking
        exact (LinksOnly.link disk fileTag index 0).trans (ih _ _)

theorem updateLogicalBlockLink_linksOnly (disk : Disk config Hash) (fileTag : FileTag)
    (index physical : Nat) :
    LinksOnly fileTag disk
      (disk.updateLogicalBlockLink reliable fileTag index physical).2 := by
  rw [updateLogicalBlockLink]
  split
  · exact LinksOnly.refl fileTag disk
  · rename_i removed removal
    obtain ⟨_, rfl⟩ := removeLogicalBlock_reliable.mp removal
    have unlinked := LinksOnly.unlink disk fileTag index
    split
    · exact unlinked
    · rename_i linked linking
      obtain ⟨_, _, rfl⟩ := linkLogicalBlock_reliable.mp linking
      exact unlinked.trans (LinksOnly.link _ fileTag index physical)

theorem freePhBlockIfUnused_linksOnly (disk : Disk config Hash) (fileTag : FileTag)
    (index physical : Nat) :
    LinksOnly fileTag disk (disk.freePhBlockIfUnused reliable index physical).2 := by
  simp only [freePhBlockIfUnused, reliable_apply, Bool.false_eq_true, if_false]
  split
  · exact LinksOnly.refl fileTag disk
  · split
    · exact LinksOnly.refl fileTag disk
    · exact LinksOnly.setBit disk fileTag physical false

variable [DecidableEq Hash]

theorem deduplicateBlock_linksOnly (md5 : Block config.blockSize → Hash)
    (fileTag : FileTag) (logicalBlock : Nat)
    (state : Deduplication config Hash) :
    LinksOnly fileTag state.disk
      (deduplicateBlock reliable md5 fileTag logicalBlock state).2.disk := by
  simp only [deduplicateBlock, reliable_apply, Bool.false_eq_true, if_false]
  split
  · exact LinksOnly.refl fileTag _
  · split
    · exact LinksOnly.refl fileTag _
    · rename_i registered _
      split
      · exact LinksOnly.refl fileTag _
      · have update := updateLogicalBlockLink_linksOnly state.disk fileTag logicalBlock
          registered
        split
        · rename_i relinked relinking
          rw [relinking] at update
          have release := freePhBlockIfUnused_linksOnly relinked fileTag logicalBlock
            (state.blocks.getD logicalBlock 0)
          split
          · rename_i freed freeing
            rw [freeing] at release
            exact update.trans release
          · rename_i kept _ freeing
            rw [freeing] at release
            exact update.trans release
        · rename_i failed _ relinking
          rw [relinking] at update
          exact update

theorem deduplicateLoop_linksOnly (md5 : Block config.blockSize → Hash)
    (fileTag : FileTag) (logicalBlock remaining : Nat)
    (state : Deduplication config Hash) :
    LinksOnly fileTag state.disk
      (deduplicateLoop reliable md5 fileTag logicalBlock remaining state).2.disk := by
  induction remaining generalizing logicalBlock state with
  | zero => exact LinksOnly.refl fileTag _
  | succ remaining ih =>
      have first := deduplicateBlock_linksOnly md5 fileTag logicalBlock state
      rw [deduplicateLoop]
      split
      · rename_i next iteration
        rw [iteration] at first
        exact first.trans (ih _ _)
      · exact first

end Loops

/-- Everything outside the directory of `target` is as it was, bytes have
changed only in the physical blocks `written`, and the disk stays well formed. -/
structure Touches (target : FileTag) (written : Nat → Prop)
    (before after : Disk config Hash) : Prop where
  metadata : ∀ other, other ≠ target → after.metadata other = before.metadata other
  tagDirs : ∀ other, other ≠ target → after.tagDirs other = before.tagDirs other
  inode : ∀ other, other ≠ target → ∀ index,
    after.links.inode other index = before.links.inode other index
  content : ∀ physical, ¬ written physical →
    after.content physical = before.content physical
  wellFormed : before.WellFormed → after.WellFormed

namespace Touches

variable {target : FileTag} {written : Nat → Prop} {before middle after : Disk config Hash}

theorem refl (target : FileTag) (written : Nat → Prop) (disk : Disk config Hash) :
    Touches target written disk disk :=
  ⟨fun _ _ => rfl, fun _ _ => rfl, fun _ _ _ => rfl, fun _ _ => rfl, id⟩

theorem trans (first : Touches target written before middle)
    (second : Touches target written middle after) :
    Touches target written before after where
  metadata other different :=
    (second.metadata other different).trans (first.metadata other different)
  tagDirs other different :=
    (second.tagDirs other different).trans (first.tagDirs other different)
  inode other different index :=
    (second.inode other different index).trans (first.inode other different index)
  content physical untouched :=
    (second.content physical untouched).trans (first.content physical untouched)
  wellFormed start := second.wellFormed (first.wellFormed start)

theorem of_linksOnly (only : LinksOnly target before after) :
    Touches target written before after where
  metadata other _ := by rw [only.metadata]
  tagDirs other _ := by rw [only.tagDirs]
  inode := only.inode
  content physical _ := by rw [only.content]
  wellFormed := only.wellFormed

theorem setMetadata (disk : Disk config Hash) {metadata : FileMetadata}
    (present : disk.WellFormed → disk.tagDirs target = true)
    (lengthLt : disk.WellFormed → metadata.blocks.length < 2 ^ 31) :
    Touches target written disk (disk.setMetadata target metadata) where
  metadata other different := by simp [Disk.setMetadata, different]
  tagDirs _ _ := rfl
  inode _ _ _ := rfl
  content _ _ := rfl
  wellFormed start := by
    refine ⟨?_, ?_⟩
    · intro fileTag held
      by_cases same : fileTag = target
      · exact same ▸ present start
      · exact start.tagDirs fileTag (by simpa [Disk.setMetadata, same] using held)
    · intro fileTag found held
      by_cases same : fileTag = target
      · simp only [Disk.setMetadata, same, Function.update_self, Option.some.injEq] at held
        exact held ▸ lengthLt start
      · exact start.length_lt fileTag found (by simpa [Disk.setMetadata, same] using held)

theorem setMetadata_after (only : LinksOnly target before after) {old new : FileMetadata}
    (held : before.metadata target = some old)
    (lengthLt : before.WellFormed → new.blocks.length < 2 ^ 31) :
    Touches target written before (after.setMetadata target new) where
  metadata other different := by simp [Disk.setMetadata, different, only.metadata]
  tagDirs other _ := by simp [Disk.setMetadata, only.tagDirs]
  inode other different index := only.inode other different index
  content physical _ := by simp [Disk.setMetadata, only.content]
  wellFormed start := by
    have present : after.tagDirs target = true := by
      rw [only.tagDirs]
      exact start.tagDirs target (by simp [held])
    have saved : Touches target written after (after.setMetadata target new) :=
      Touches.setMetadata after (fun _ => present) (fun _ => lengthLt start)
    exact saved.wellFormed (only.wellFormed start)

theorem makeDirectory (disk : Disk config Hash) (fileDirs : PathName → Bool) :
    Touches target written disk { disk with
      fileDirs := fileDirs
      tagDirs := Function.update disk.tagDirs target true } where
  metadata _ _ := rfl
  tagDirs other different := by simp [different]
  inode _ _ _ := rfl
  content _ _ := rfl
  wellFormed start := by
    refine ⟨?_, start.length_lt⟩
    intro fileTag held
    by_cases same : fileTag = target
    · simp [same]
    · simpa [same] using start.tagDirs fileTag held

theorem removeDirectories (disk : Disk config Hash) :
    Touches target written disk (disk.removeDirectories target) where
  metadata other different := by simp [Disk.removeDirectories, different]
  tagDirs other different := by simp [Disk.removeDirectories, different]
  inode other different index := by simp [Disk.removeDirectories, different]
  content _ _ := rfl
  wellFormed start := by
    refine ⟨?_, ?_⟩
    · intro fileTag held
      by_cases same : fileTag = target
      · simp [Disk.removeDirectories, same] at held
      · simp only [Disk.removeDirectories, Function.update_of_ne same] at held ⊢
        exact start.tagDirs fileTag held
    · intro fileTag metadata held
      by_cases same : fileTag = target
      · simp [Disk.removeDirectories, same] at held
      · simp only [Disk.removeDirectories, Function.update_of_ne same] at held
        exact start.length_lt fileTag metadata held

end Touches

theorem newBlockCount_lt (config : StorageConfig) (newSizeBytes : Int32) :
    newBlockCount config newSizeBytes < 2 ^ 31 := by
  rw [newBlockCount]
  have below : (newSizeBytes.toInt + config.blockSize - 1).bmod (2 ^ 32) < 2 ^ 31 :=
    lt_of_lt_of_le (Int.bmod_lt (by decide)) (by decide)
  generalize (newSizeBytes.toInt + config.blockSize - 1).bmod (2 ^ 32) = value at below ⊢
  rcases Int.le_total 0 value with nonnegative | nonpositive
  · calc
      value.tdiv config.blockSize = value / config.blockSize :=
        Int.tdiv_eq_ediv_of_nonneg nonnegative
      _ ≤ value := Int.ediv_le_self _ nonnegative
      _ < 2 ^ 31 := below
  · have quotient : 0 ≤ (-value).tdiv config.blockSize :=
      Int.tdiv_nonneg (by omega) (Int.natCast_nonneg _)
    rw [Int.neg_tdiv] at quotient
    omega

section Operations

variable {written : Nat → Prop}

theorem createFile_touches (disk : Disk config Hash) (fileTag : FileTag) :
    Touches fileTag written disk (disk.createFile reliable fileTag).2 := by
  by_cases present : disk.tagDirs fileTag = true
  · simpa [createFile, createFileDirStructure, present, fileTagAlreadyExists] using
      Touches.refl fileTag written disk
  · have made : Touches fileTag written disk (disk.makeDirectories fileTag) :=
      Touches.makeDirectory disk _
    simpa [createFile, createFileDirStructure, present] using
      made.trans (Touches.setMetadata _ (fun _ => by simp [makeDirectories])
        (fun _ => by simp [defaultMetadata]))

theorem truncateFile_touches (disk : Disk config Hash) (fileTag : FileTag)
    (newSizeBytes : Int32) :
    Touches fileTag written disk (disk.truncateFile reliable fileTag newSizeBytes).2 := by
  simp only [truncateFile, readFileMetadata_reliable, saveFileMetadata_reliable,
    reliable_apply, Bool.false_eq_true, or_false]
  have countLt := newBlockCount_lt config newSizeBytes
  split
  · exact Touches.refl fileTag written disk
  · rename_i metadata held
    split
    · exact Touches.setMetadata_after (LinksOnly.refl fileTag disk) held
        (fun start => start.length_lt fileTag metadata held)
    · split
      · exact Touches.refl fileTag written disk
      · split
        · exact Touches.setMetadata_after (deleteSurplusBlocks_linksOnly disk fileTag _ _) held
            (fun _ => by simp only [List.length_take]; omega)
        · have linking := linkZeroBlocks_linksOnly disk fileTag metadata.blocks.length
            ((newBlockCount config newSizeBytes).toNat - metadata.blocks.length)
          split
          · rename_i failed loop
            rw [loop] at linking
            exact Touches.of_linksOnly linking
          · rename_i grown loop
            rw [loop] at linking
            refine Touches.setMetadata_after linking held (fun _ => ?_)
            simp only [List.length_append, List.length_replicate]
            omega

theorem createTag_touches (disk : Disk config Hash) (source target : FileTag) :
    Touches target written disk (disk.createTag reliable source target).2 := by
  have copying : ∀ made : Disk config Hash, LinksOnly target made
      { made with links := made.links.copyDirectory source target } :=
    fun made => ⟨rfl, rfl, rfl, rfl, rfl, by
      intro other different index
      simp [different]⟩
  have making : Touches target written disk
      { disk with tagDirs := Function.update disk.tagDirs target true } :=
    Touches.makeDirectory disk disk.fileDirs
  simp only [createTag, readFileMetadata_reliable]
  split
  · exact Touches.refl target written disk
  · split
    · exact Touches.refl target written disk
    · rename_i absent metadata held
      simp only [makeTagDirectories, reliable_apply, Bool.false_eq_true, false_or,
        and_false, if_false, copyLogicalBlocks, createMetadataFile_reliable]
      by_cases orphan : disk.tagDirs target = false ∧ disk.fileDirs target.file = false
      · simpa [orphan] using Touches.refl target written disk
      · simp only [orphan, if_false]
        have copied := making.trans (Touches.of_linksOnly (copying _))
        split_ifs
        · exact copied
        · refine copied.trans (Touches.setMetadata _ (fun _ => by simp) ?_)
          intro start
          exact start.length_lt source metadata (by simpa using held)

theorem deleteTag_touches (disk : Disk config Hash) (fileTag : FileTag) :
    Touches fileTag written disk (disk.deleteTag reliable fileTag).2 := by
  simp only [deleteTag, readFileMetadata_reliable]
  split
  · exact Touches.refl fileTag written disk
  · split
    · exact Touches.refl fileTag written disk
    · rename_i metadata held
      have loop := deleteTagBlocks_linksOnly disk fileTag 0 metadata.blocks
      split
      · rename_i failed step
        rw [step] at loop
        exact Touches.of_linksOnly loop
      · rename_i emptied step
        rw [step] at loop
        have start : Touches fileTag written disk emptied := Touches.of_linksOnly loop
        simp only [deleteFileDirStructure, fileDirExists_reliable, reliable_apply,
          Bool.false_eq_true, if_false]
        by_cases present : emptied.tagDirs fileTag = true
        · simpa [present] using start.trans (Touches.removeDirectories emptied)
        · simpa [present, fileTagMissing] using start

theorem CommitOutcome.touches [DecidableEq Hash] {md5 : Block config.blockSize → Hash}
    {before after : Disk config Hash} {fileTag : FileTag} {metadata : FileMetadata}
    (outcome : CommitOutcome md5 before fileTag metadata after) :
    Touches fileTag written before after where
  metadata other different := by
    obtain ⟨blocks, _, _, metadataEq⟩ := outcome.metadata_eq
    simp [metadataEq, different]
  tagDirs other _ := by rw [outcome.tagDirs]
  inode other different index := by simp [outcome.inode, different]
  content physical _ := by rw [outcome.content]
  wellFormed start := by
    obtain ⟨blocks, lengthEq, _, metadataEq⟩ := outcome.metadata_eq
    refine ⟨?_, ?_⟩
    · intro other held
      rw [outcome.tagDirs]
      by_cases same : other = fileTag
      · exact start.tagDirs other (by simp [same, outcome.held])
      · exact start.tagDirs other (by simpa [metadataEq, same] using held)
    · intro other found held
      by_cases same : other = fileTag
      · simp only [metadataEq, same, Function.update_self, Option.some.injEq] at held
        rw [← held]
        exact lengthEq ▸ start.length_lt fileTag metadata outcome.held
      · exact start.length_lt other found (by simpa [metadataEq, same] using held)

section FailedCommit

variable [DecidableEq Hash] {md5 : Block config.blockSize → Hash}
  {disk after : Disk config Hash} {fileTag : FileTag} {code : Int}

theorem deduplicateBlocks_linksOnly_of_failed {blocks blocksAfter : List Nat}
    (result : deduplicateBlocks reliable md5 disk fileTag blocks =
      (code, after, blocksAfter)) (failed : code ≠ 0) : LinksOnly fileTag disk after := by
  have loop := deduplicateLoop_linksOnly md5 fileTag 0 blocks.length
    ⟨disk, disk.hashIndex, blocks⟩
  simp only [deduplicateBlocks, reliable_apply, Bool.false_eq_true, if_false] at result
  split at result
  · exact (failed (Prod.mk.inj result).1.symm).elim
  · split at result
    · exact (failed (Prod.mk.inj result).1.symm).elim
    · rename_i final _ whole
      rw [whole] at loop
      simp only [Prod.mk.injEq] at result
      rw [← result.2.1]
      exact loop

theorem executeTagCommit_linksOnly_of_failed
    (result : executeTagCommit reliable md5 disk fileTag = (code, after))
    (failed : code ≠ 0) : LinksOnly fileTag disk after := by
  simp only [executeTagCommit, readFileMetadata_reliable, reliable_apply,
    Bool.false_eq_true, if_false] at result
  split at result
  · exact (Prod.mk.inj result).2 ▸ LinksOnly.refl fileTag disk
  · split at result
    · exact (Prod.mk.inj result).2 ▸ LinksOnly.refl fileTag disk
    · split at result
      · exact (Prod.mk.inj result).2 ▸ LinksOnly.refl fileTag disk
      · split at result
        · exact (failed (Prod.mk.inj result).1.symm).elim
        · rename_i dedupCode deduplicated blocks notZero loop
          rw [← (Prod.mk.inj result).2]
          exact deduplicateBlocks_linksOnly_of_failed loop notZero

end FailedCommit

theorem executeTagCommit_touches [DecidableEq Hash] (md5 : Block config.blockSize → Hash)
    (disk : Disk config Hash) (fileTag : FileTag) :
    Touches fileTag written disk (executeTagCommit reliable md5 disk fileTag).2 := by
  cases result : executeTagCommit reliable md5 disk fileTag with
  | mk code after =>
      by_cases success : code = 0
      · subst success
        obtain ⟨metadata, outcome⟩ := executeTagCommit_outcome result
        exact outcome.touches
      · exact Touches.of_linksOnly (executeTagCommit_linksOnly_of_failed result success)

/-- The physical block whose bytes a write replaces: the one behind the logical
block when it has no other name, otherwise the first free one. -/
def WrittenBlock (disk : Disk config Hash) (fileTag : FileTag) (index physical : Nat) :
    Prop :=
  ∃ current, disk.links.inode fileTag index = some current ∧
    ((disk.links.linkCount current ≤ 1 ∧ physical = current) ∨
      (1 < disk.links.linkCount current ∧ disk.getFreeBitIndex = some physical))

section FailedWrite

variable {disk after : Disk config Hash} {fileTag : FileTag} {code : Int}

theorem moveToFreeBlock_linksOnly_of_failed {metadata : FileMetadata} {index : Nat}
    (result : disk.moveToFreeBlock reliable fileTag metadata index = (code, after))
    (failed : code ≠ 0) : LinksOnly fileTag disk after := by
  simp only [moveToFreeBlock, reliable_apply, Bool.false_eq_true, if_false] at result
  split at result
  · exact (Prod.mk.inj result).2 ▸ LinksOnly.refl fileTag disk
  · rename_i removed removal
    obtain ⟨_, rfl⟩ := removeLogicalBlock_reliable.mp removal
    have unlinked := LinksOnly.unlink disk fileTag index
    split at result
    · exact (Prod.mk.inj result).2 ▸ unlinked
    · rename_i free _
      split at result
      · exact (Prod.mk.inj result).2 ▸ unlinked.trans (LinksOnly.setBit _ fileTag free true)
      · exact (failed (Prod.mk.inj result).1.symm).elim

theorem executeBlockWrite_linksOnly_of_failed {blockNumber : UInt32}
    {blockData : List UInt8}
    (result : disk.executeBlockWrite reliable fileTag blockNumber blockData = (code, after))
    (failed : code ≠ 0) : LinksOnly fileTag disk after := by
  simp only [executeBlockWrite, readFileMetadata_reliable, phBlockLinks_reliable] at result
  split at result
  · exact (Prod.mk.inj result).2 ▸ LinksOnly.refl fileTag disk
  · split at result
    · exact (Prod.mk.inj result).2 ▸ LinksOnly.refl fileTag disk
    · split at result
      · exact (Prod.mk.inj result).2 ▸ LinksOnly.refl fileTag disk
      · split at result
        · exact (Prod.mk.inj result).2 ▸ LinksOnly.refl fileTag disk
        · rename_i metadata _ _ _
          cases linked : disk.links.inode fileTag blockNumber.toNat with
          | none =>
              simp only [linked, Option.map_none] at result
              exact (Prod.mk.inj result).2 ▸ LinksOnly.refl fileTag disk
          | some physical =>
              simp only [linked, Option.map_some] at result
              by_cases shared : 2 < disk.stNlink physical
              · rw [if_pos shared] at result
                split at result
                · rename_i own moved
                  obtain ⟨free, _, _, rfl⟩ := moveToFreeBlock_success moved
                  simp [writeToLogicalBlock, setMetadata, Ne.symm failed] at result
                · rename_i moveResult notZero
                  exact moveToFreeBlock_linksOnly_of_failed result failed
              · rw [if_neg shared] at result
                simp [writeToLogicalBlock, linked, Ne.symm failed] at result

end FailedWrite

theorem executeBlockWrite_touches (disk : Disk config Hash) (fileTag : FileTag)
    (blockNumber : UInt32) (blockData : List UInt8) :
    Touches fileTag (disk.WrittenBlock fileTag blockNumber.toNat) disk
      (disk.executeBlockWrite reliable fileTag blockNumber blockData).2 := by
  cases result : disk.executeBlockWrite reliable fileTag blockNumber blockData with
  | mk code after =>
      by_cases success : code = 0
      · subst success
        obtain ⟨metadata, physical, held, _, linked, outcome⟩ :=
          executeBlockWrite_success result
        rcases outcome with ⟨few, rfl⟩ | ⟨shared, free, found, _, rfl⟩
        · refine ⟨fun _ _ => rfl, fun _ _ => rfl, fun _ _ _ => rfl, ?_, ?_⟩
          · intro other untouched
            have different : other ≠ physical :=
              fun same => untouched ⟨physical, linked, Or.inl ⟨few, same⟩⟩
            simp [different]
          · exact fun start => ⟨start.tagDirs, start.length_lt⟩
        · refine ⟨?_, fun _ _ => rfl, ?_, ?_, ?_⟩
          · intro other different
            simp [setMetadata, different]
          · intro other different index
            simp [setMetadata, different]
          · intro other untouched
            have different : other ≠ free := by
              intro same
              exact untouched ⟨physical, linked, Or.inr ⟨shared, same ▸ found⟩⟩
            simp [setMetadata, different]
          · intro start
            have moved : LinksOnly fileTag disk ({ disk with
                links := (disk.links.unlink fileTag blockNumber.toNat).link fileTag
                  blockNumber.toNat free
                bitmap := Function.update disk.bitmap free true } : Disk config Hash) :=
              ⟨rfl, rfl, rfl, rfl, rfl, by intro other different index; simp [different]⟩
            have saved : Touches fileTag (fun _ => False) disk (setMetadata _ fileTag
                { metadata with blocks := metadata.blocks.set blockNumber.toNat free }) :=
              Touches.setMetadata_after moved held
                (fun start => by simpa using start.length_lt fileTag metadata held)
            have kept := saved.wellFormed start
            exact ⟨kept.tagDirs, kept.length_lt⟩
      · exact Touches.of_linksOnly (executeBlockWrite_linksOnly_of_failed result success)

end Operations

end Disk

/-- The File:Tag whose directory a request may change. -/
def Request.target : Request → FileTag
  | .createFile fileTag => fileTag
  | .truncateFile fileTag _ => fileTag
  | .createTag _ target => target
  | .executeBlockWrite fileTag _ _ => fileTag
  | .executeBlockRead fileTag _ => fileTag
  | .executeTagCommit fileTag => fileTag
  | .deleteTag fileTag => fileTag

/-- The physical blocks whose bytes a request may change. -/
def Request.Writes (disk : Disk config Hash) : Request → Nat → Prop
  | .executeBlockWrite fileTag blockNumber _ =>
    disk.WrittenBlock fileTag blockNumber.toNat
  | _ => fun _ => False

namespace Disk

variable [DecidableEq Hash] {md5 : Block config.blockSize → Hash}

@[simp]
theorem execute_executeBlockRead (md5 : Block config.blockSize → Hash)
    (disk : Disk config Hash) (host : Host) (fileTag : FileTag) (blockNumber : UInt32) :
    (disk.execute host md5 (.executeBlockRead fileTag blockNumber)).2 = disk := by
  simp only [execute]
  split <;> rfl

/-- Whatever a request returns, it stays within its target. -/
theorem execute_touches (md5 : Block config.blockSize → Hash) (disk : Disk config Hash)
    (request : Request) :
    Touches request.target (request.Writes disk) disk
      (disk.execute reliable md5 request).2 := by
  cases request with
  | createFile fileTag => exact createFile_touches disk fileTag
  | truncateFile fileTag newSizeBytes => exact truncateFile_touches disk fileTag newSizeBytes
  | createTag source target => exact createTag_touches disk source target
  | executeBlockWrite fileTag blockNumber blockData =>
      exact executeBlockWrite_touches disk fileTag blockNumber blockData
  | executeBlockRead fileTag blockNumber =>
      rw [execute_executeBlockRead]
      exact Touches.refl _ _ disk
  | executeTagCommit fileTag => exact executeTagCommit_touches md5 disk fileTag
  | deleteTag fileTag => exact deleteTag_touches disk fileTag

omit [DecidableEq Hash] in
theorem wellFormed_initStorage : (initStorage config Hash).WellFormed := by
  refine ⟨?_, ?_⟩
  · intro fileTag held
    by_cases same : fileTag = initialFileBase <;> simp_all [initStorage]
  · intro fileTag metadata held
    by_cases same : fileTag = initialFileBase
    · simp only [initStorage, same, Function.update_self, Option.some.injEq] at held
      simp [← held]
    · simp [initStorage, same] at held

theorem wellFormed_of_reachable {disk : Disk config Hash}
    (reachable : (storageSystem md5).Reachable disk) : disk.WellFormed := by
  have kept : (storageSystem md5).Preserves WellFormed := by
    rintro before request _ start rfl
    exact (execute_touches md5 before request).wellFormed start
  refine reachable.invariant ?_ kept
  rintro _ rfl
  exact wellFormed_initStorage

end Disk

end Storage

end MasterOfFiles
