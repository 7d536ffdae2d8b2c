import MasterOfFiles.StorageEffects

/-!
# When COMMIT keeps the bytes of a File:Tag

COMMIT writes no block, so a File:Tag changes its bytes exactly when a logical
block is relinked to a physical block that holds other bytes.  The hash index
is never updated when a block is freed or overwritten, so this does happen.
-/

namespace MasterOfFiles

namespace Storage

namespace Disk

variable {config : StorageConfig} {Hash : Type}

/-- Every logical block of every File:Tag reads the same on both disks. -/
def SameReads (before after : Disk config Hash) : Prop :=
  ∀ fileTag blockNumber,
    after.executeBlockRead reliable fileTag blockNumber =
      before.executeBlockRead reliable fileTag blockNumber

theorem sameReads_of_logicalContent {before after : Disk config Hash}
    (tagDirs : after.tagDirs = before.tagDirs)
    (lengths : ∀ fileTag, (after.metadata fileTag).map (·.blocks.length) =
      (before.metadata fileTag).map (·.blocks.length))
    (contents : ∀ fileTag index,
      after.logicalContent fileTag index = before.logicalContent fileTag index) :
    SameReads before after := by
  intro fileTag blockNumber
  have lengthEq := lengths fileTag
  simp only [executeBlockRead, fileDirExists_reliable, readFileMetadata_reliable,
    tagDirs, contents]
  cases afterEq : after.metadata fileTag <;> cases beforeEq : before.metadata fileTag <;>
    simp_all

theorem executeBlockRead_of_index {disk : Disk config Hash} (wellFormed : disk.WellFormed)
    {fileTag : FileTag} {metadata : FileMetadata}
    (held : disk.metadata fileTag = some metadata) {index : Nat}
    (indexLt : index < metadata.blocks.length) {bytes : Block config.blockSize}
    (read : disk.logicalContent fileTag index = some bytes) :
    disk.executeBlockRead reliable fileTag (UInt32.ofNat index) = .ok bytes := by
  have lengthLt := wellFormed.length_lt fileTag metadata held
  have numberEq : (UInt32.ofNat index).toNat = index :=
    UInt32.toNat_ofNat_of_lt' (lt_of_lt_of_le (indexLt.trans lengthLt) (by decide))
  have signedEq : blockNumberAsInt (UInt32.ofNat index) = index := by
    rw [blockNumberAsInt_of_lt (by omega), numberEq]
  have present := wellFormed.tagDirs fileTag (by simp [held])
  simp [executeBlockRead, present, held, signedEq, numberEq, read, indexLt]

variable [DecidableEq Hash] {md5 : Block config.blockSize → Hash}

/-- Every logical block stays on its physical block or moves to one that holds
the same bytes. -/
def TargetsHoldBytes (md5 : Block config.blockSize → Hash) (disk : Disk config Hash)
    (fileTag : FileTag) : Prop :=
  ∀ metadata, disk.metadata fileTag = some metadata →
    ∀ index < metadata.blocks.length, ∀ bytes,
      disk.logicalContent fileTag index = some bytes →
        disk.commitTarget md5 fileTag metadata.blocks index =
            metadata.blocks.getD index 0 ∨
          disk.content (disk.commitTarget md5 fileTag metadata.blocks index) = bytes

namespace CommitOutcome

variable {before after : Disk config Hash} {fileTag : FileTag} {metadata : FileMetadata}

theorem logicalContent (outcome : CommitOutcome md5 before fileTag metadata after)
    (other : FileTag) (index : Nat) :
    after.logicalContent other index =
      if other = fileTag ∧ index < metadata.blocks.length ∧
          before.commitTarget md5 fileTag metadata.blocks index ≠
            metadata.blocks.getD index 0 then
        some (before.content (before.commitTarget md5 fileTag metadata.blocks index))
      else before.logicalContent other index := by
  rw [Disk.logicalContent, outcome.inode, outcome.content]
  split <;> rfl

theorem lengths (outcome : CommitOutcome md5 before fileTag metadata after)
    (other : FileTag) :
    (after.metadata other).map (·.blocks.length) =
      (before.metadata other).map (·.blocks.length) := by
  obtain ⟨blocks, lengthEq, _, metadataEq⟩ := outcome.metadata_eq
  by_cases same : other = fileTag
  · simp [metadataEq, same, outcome.held, lengthEq]
  · simp [metadataEq, same]

theorem sameReads (outcome : CommitOutcome md5 before fileTag metadata after)
    (targets : before.TargetsHoldBytes md5 fileTag) : SameReads before after := by
  refine sameReads_of_logicalContent outcome.tagDirs outcome.lengths ?_
  intro other index
  rw [outcome.logicalContent]
  split
  · rename_i moved
    obtain ⟨rfl, indexLt, different⟩ := moved
    obtain ⟨bytes, read⟩ := Option.isSome_iff_exists.mp (outcome.readable index indexLt)
    rw [read]
    rcases targets metadata outcome.held index indexLt bytes read with stays | bytesEq
    · exact absurd stays different
    · rw [bytesEq]
  · rfl

end CommitOutcome

/-- In every reachable state, a COMMIT that returns zero leaves every read of
every File:Tag unchanged exactly when the blocks it relinks to hold the bytes
that the relinked blocks had. -/
theorem executeTagCommit_sameReads_iff {before after : Disk config Hash}
    {fileTag : FileTag} (reachable : (storageSystem md5).Reachable before)
    (done : executeTagCommit reliable md5 before fileTag = (0, after)) :
    SameReads before after ↔ before.TargetsHoldBytes md5 fileTag := by
  obtain ⟨metadata, outcome⟩ := executeTagCommit_outcome done
  have wellFormed := wellFormed_of_reachable reachable
  have touches : Touches fileTag (fun _ => False) before after := outcome.touches
  have wellFormedAfter := touches.wellFormed wellFormed
  constructor
  · intro same found held index indexLt bytes read
    obtain rfl : metadata = found := by simpa [outcome.held] using held
    by_cases stays : before.commitTarget md5 fileTag metadata.blocks index =
        metadata.blocks.getD index 0
    · exact Or.inl stays
    · right
      obtain ⟨blocks, lengthEq, _, metadataEq⟩ := outcome.metadata_eq
      have readBefore := executeBlockRead_of_index wellFormed held indexLt read
      have moved : after.logicalContent fileTag index = some
          (before.content (before.commitTarget md5 fileTag metadata.blocks index)) := by
        rw [outcome.logicalContent, if_pos ⟨rfl, indexLt, stays⟩]
      have readAfter := executeBlockRead_of_index wellFormedAfter
        (by rw [metadataEq, Function.update_self]) (by simpa [lengthEq] using indexLt) moved
      have equal := same fileTag (UInt32.ofNat index)
      rw [readBefore, readAfter] at equal
      exact Except.ok.inj equal
  · exact outcome.sameReads

theorem executeTagCommit_sameReads_of_first_commit :
    SameReads (sampleDisk (writeOneByte fileA 65))
        (executeTagCommit reliable oneByteMd5 (sampleDisk (writeOneByte fileA 65)) fileA).2 ↔
      (sampleDisk (writeOneByte fileA 65)).TargetsHoldBytes oneByteMd5 fileA :=
  executeTagCommit_sameReads_iff (reachable_executeAll oneByteMd5 (writeOneByte fileA 65))
    (eq_of_code (by decide +kernel))

/-- Block 1 is registered with the hash of `A`, freed with `a:T` and reused for
the `B` of `b:T`; the COMMIT of `c:T`, which holds `A`, then relinks it to
block 1. -/
theorem executeTagCommit_changes_reads_of_reused_block :
    ∃ before after : Disk fourByteConfig String,
      (storageSystem oneByteMd5).Reachable before ∧
      (∀ first ∈ [[0], [65], [66]], ∀ second ∈ [[0], [65], [66]],
        oneByteMd5 (paddedBlock 1 first) = oneByteMd5 (paddedBlock 1 second) →
          first = second) ∧
      executeTagCommit reliable oneByteMd5 before fileC = (0, after) ∧
      before.executeBlockRead reliable fileC 0 = .ok (paddedBlock 1 [65]) ∧
      after.executeBlockRead reliable fileC 0 = .ok (paddedBlock 1 [66]) ∧
      ¬ SameReads before after := by
  let requests : List Request := writeOneByte fileA 65 ++
    [.executeTagCommit fileA, .deleteTag fileA] ++ writeOneByte fileB 66 ++
    writeOneByte fileC 65
  have readBefore : (sampleDisk requests).executeBlockRead reliable fileC 0 =
      .ok (paddedBlock 1 [65]) := by decide +kernel
  have readAfter : (executeTagCommit reliable oneByteMd5 (sampleDisk requests)
      fileC).2.executeBlockRead reliable fileC 0 = .ok (paddedBlock 1 [66]) := by
    decide +kernel
  refine ⟨sampleDisk requests,
    (executeTagCommit reliable oneByteMd5 (sampleDisk requests) fileC).2,
    reachable_executeAll oneByteMd5 requests, by decide +kernel,
    eq_of_code (by decide +kernel), readBefore, readAfter, ?_⟩
  intro same
  have equal := readAfter.symm.trans ((same fileC 0).trans readBefore)
  exact absurd equal (by decide +kernel)

end Disk

end Storage

end MasterOfFiles
