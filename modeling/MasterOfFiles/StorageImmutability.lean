import MasterOfFiles.StorageCommitContents
import MasterOfFiles.StorageConsistency

/-!
# Committed File:Tags

The operations other than `truncate_file` refuse a COMMITTED target, and the
link-count test keeps them off the blocks that a committed File:Tag shares.
Two gaps remain and are spelled out in `RespectsCommitted`: `truncate_file`
does not look at the state of its target, and a write that needs a new block
takes the first clear bit even when the committed File:Tag is linked to it.
-/

namespace MasterOfFiles

namespace Storage

variable {config : StorageConfig} {Hash : Type} [DecidableEq Hash]
  {md5 : Block config.blockSize → Hash} {fileTag : FileTag}

/-- The request is not a deletion of `fileTag` nor a truncation that changes
it, and a write that is not refused does not reserve a physical block that
`fileTag` is linked to. -/
structure RespectsCommitted (fileTag : FileTag) (disk : Disk config Hash)
    (request : Request) : Prop where
  kept : request ≠ .deleteTag fileTag
  truncation : ∀ newSizeBytes, request = .truncateFile fileTag newSizeBytes →
    newBlockCount config newSizeBytes < 0 ∨
      ∀ metadata, disk.metadata fileTag = some metadata →
        newSizeBytes.toInt = metadata.size ∧
          newBlockCount config newSizeBytes = metadata.blocks.length
  reservation : ∀ target blockNumber blockData metadata shared free,
    request = .executeBlockWrite target blockNumber blockData →
      disk.metadata target = some metadata → metadata.state = .workInProgress →
      blockNumberAsInt blockNumber < metadata.blocks.length →
      disk.links.inode target blockNumber.toNat = some shared →
      1 < disk.links.linkCount shared → disk.getFreeBitIndex = some free →
        ∀ index, disk.links.inode fileTag index ≠ some free

/-- Everything that determines what `fileTag` is and reads as. -/
structure SameFile (fileTag : FileTag) (before after : Disk config Hash) : Prop where
  tagDirs : after.tagDirs fileTag = before.tagDirs fileTag
  metadata : after.metadata fileTag = before.metadata fileTag
  inode : ∀ index, after.links.inode fileTag index = before.links.inode fileTag index
  content : ∀ index physical, before.links.inode fileTag index = some physical →
    after.content physical = before.content physical

namespace SameFile

variable {before middle after : Disk config Hash}

omit [DecidableEq Hash]

theorem refl (fileTag : FileTag) (disk : Disk config Hash) : SameFile fileTag disk disk :=
  ⟨rfl, rfl, fun _ => rfl, fun _ _ _ => rfl⟩

theorem trans (first : SameFile fileTag before middle)
    (second : SameFile fileTag middle after) : SameFile fileTag before after where
  tagDirs := second.tagDirs.trans first.tagDirs
  metadata := second.metadata.trans first.metadata
  inode index := (second.inode index).trans (first.inode index)
  content index physical linked := by
    rw [second.content index physical (by rw [first.inode, linked]),
      first.content index physical linked]

theorem executeBlockRead (same : SameFile fileTag before after) (blockNumber : UInt32) :
    after.executeBlockRead reliable fileTag blockNumber =
      before.executeBlockRead reliable fileTag blockNumber := by
  have contentEq : after.logicalContent fileTag blockNumber.toNat =
      before.logicalContent fileTag blockNumber.toNat := by
    rw [Disk.logicalContent, Disk.logicalContent, same.inode]
    cases linked : before.links.inode fileTag blockNumber.toNat with
    | none => rfl
    | some physical => simp [same.content _ _ linked]
  simp only [Disk.executeBlockRead, Disk.fileDirExists_reliable,
    Disk.readFileMetadata_reliable, same.tagDirs, same.metadata, contentEq]

end SameFile

namespace Disk

variable {disk : Disk config Hash} {metadata : FileMetadata}

/-- A committed File:Tag refuses the requests aimed at itself. -/
theorem execute_of_committed (wellFormed : disk.WellFormed)
    (held : disk.metadata fileTag = some metadata) (committed : metadata.state = .committed)
    {request : Request} (aimed : request.target = fileTag)
    (respects : RespectsCommitted fileTag disk request) :
    (disk.execute reliable md5 request).2 = disk := by
  have present := wellFormed.tagDirs fileTag (by simp [held])
  cases request with
  | createFile target =>
      obtain rfl : target = fileTag := aimed
      simp [execute, createFile, createFileDirStructure, present, fileTagAlreadyExists]
  | truncateFile target newSizeBytes =>
      obtain rfl : target = fileTag := aimed
      rcases respects.truncation newSizeBytes rfl with negative | unchanged
      · have different : newBlockCount config newSizeBytes ≠ metadata.blocks.length := by
          omega
        simp [execute, truncateFile, held, different, negative]
      · obtain ⟨sizeEq, countEq⟩ := unchanged metadata held
        have sameMetadata : Function.update disk.metadata target (some metadata) =
            disk.metadata := by
          rw [← held, Function.update_eq_self]
        simp [execute, truncateFile, held, countEq, sizeEq, setMetadata, sameMetadata]
  | createTag source target =>
      obtain rfl : target = fileTag := aimed
      simp [execute, createTag, held]
  | executeBlockWrite target blockNumber blockData =>
      obtain rfl : target = fileTag := aimed
      simp [execute, executeBlockWrite, present, held, committed]
  | executeBlockRead target blockNumber => simp
  | executeTagCommit target =>
      obtain rfl : target = fileTag := aimed
      simp [execute, executeTagCommit, present, held, committed]
  | deleteTag target =>
      obtain rfl : target = fileTag := aimed
      exact absurd rfl respects.kept

omit [DecidableEq Hash] in
/-- A write is refused unless its target is work in progress and has the block. -/
theorem executeBlockWrite_of_refused {target : FileTag} {blockNumber : UInt32}
    {blockData : List UInt8}
    (refused : ∀ metadata, disk.metadata target = some metadata →
      metadata.state = .workInProgress →
        ¬ blockNumberAsInt blockNumber < metadata.blocks.length) :
    (disk.executeBlockWrite reliable target blockNumber blockData).2 = disk := by
  unfold executeBlockWrite
  split
  · rfl
  · split
    · rfl
    · rename_i metadata read
      have held : disk.metadata target = some metadata := by
        simpa [readFileMetadata] using read
      split
      · rfl
      · rename_i notCommitted
        have outside := refused metadata held (by cases state : metadata.state <;> simp_all)
        rw [if_pos (not_lt.mp outside)]

/-- A request aimed at another File:Tag is refused, or it writes no block of `fileTag`. -/
theorem unchanged_or_not_writes {request : Request} (elsewhere : request.target ≠ fileTag)
    (respects : RespectsCommitted fileTag disk request) :
    (disk.execute reliable md5 request).2 = disk ∨
      ∀ index physical, disk.links.inode fileTag index = some physical →
        ¬ request.Writes disk physical := by
  cases request with
  | executeBlockWrite target blockNumber blockData =>
      by_cases refused : ∀ metadata, disk.metadata target = some metadata →
          metadata.state = .workInProgress →
            ¬ blockNumberAsInt blockNumber < metadata.blocks.length
      · exact Or.inl (executeBlockWrite_of_refused refused)
      · push Not at refused
        obtain ⟨metadata, held, inProgress, inside⟩ := refused
        right
        rintro index physical linked ⟨current, currentLinked, ⟨few, rfl⟩ | ⟨shared, found⟩⟩
        · exact elsewhere
            (LinkTable.name_unique_of_linkCount_le_one few currentLinked linked).1
        · exact respects.reservation target blockNumber blockData metadata current physical rfl
            held inProgress inside currentLinked shared found index linked
  | _ => exact Or.inr fun _ _ _ => id

theorem execute_sameFile (wellFormed : disk.WellFormed)
    (held : disk.metadata fileTag = some metadata) (committed : metadata.state = .committed)
    {request : Request} (respects : RespectsCommitted fileTag disk request) :
    SameFile fileTag disk (disk.execute reliable md5 request).2 := by
  by_cases aimed : request.target = fileTag
  · rw [execute_of_committed wellFormed held committed aimed respects]
    exact SameFile.refl fileTag disk
  · rcases @unchanged_or_not_writes config Hash _ md5 fileTag disk request aimed respects with
      unchanged | spares
    · rw [unchanged]
      exact SameFile.refl fileTag disk
    · have touches := execute_touches md5 disk request
      exact ⟨touches.tagDirs fileTag (Ne.symm aimed), touches.metadata fileTag (Ne.symm aimed),
        touches.inode fileTag (Ne.symm aimed),
        fun index physical linked => touches.content physical (spares index physical linked)⟩

end Disk

/-- From any reachable state, along every run of requests that respect the
committed File:Tag, it keeps its metadata (so it stays COMMITTED, with the same
size and number of blocks) and every block reads the same bytes. -/
theorem committed_unchanged_along_respecting_runs {first last : Disk config Hash}
    {metadata : FileMetadata} {requests : List Request}
    (reachable : (storageSystem md5).Reachable first)
    (held : first.metadata fileTag = some metadata) (committed : metadata.state = .committed)
    (run : ((storageSystem md5).guarded (RespectsCommitted fileTag)).Run first requests last) :
    last.metadata fileTag = some metadata ∧
      ∀ blockNumber, last.executeBlockRead reliable fileTag blockNumber =
        first.executeBlockRead reliable fileTag blockNumber := by
  have kept : ((storageSystem md5).guarded (RespectsCommitted fileTag)).Preserves
      (fun current => current.WellFormed ∧ SameFile fileTag first current) := by
    rintro before request after ⟨wellFormed, same⟩ ⟨respects, rfl⟩
    refine ⟨(Disk.execute_touches md5 before request).wellFormed wellFormed, ?_⟩
    exact same.trans (Disk.execute_sameFile wellFormed (by rw [same.metadata, held])
      committed respects)
  obtain ⟨_, same⟩ := run.preserves kept
    ⟨Disk.wellFormed_of_reachable reachable, SameFile.refl fileTag first⟩
  exact ⟨by rw [same.metadata, held], same.executeBlockRead⟩

/-- `a:T` with one block, committed. -/
def committedSample : Disk fourByteConfig String :=
  sampleDisk (writeOneByte fileA 65 ++ [.executeTagCommit fileA])

def copyOfA : FileTag := ⟨fileA.file, ⟨"U", by decide⟩⟩

/-- `a:T` is copied to `a:U`, which then gets a byte and a block of its own and is committed. -/
def writtenCopy : List Request :=
  [.createTag fileA copyOfA, .executeBlockWrite copyOfA 0 [66], .executeTagCommit copyOfA]

def copiedSample : Disk fourByteConfig String :=
  (committedSample.execute reliable oneByteMd5 (.createTag fileA copyOfA)).2

theorem consistent_copiedSample : copiedSample.Consistent := by
  have succeeds : (committedSample.execute reliable oneByteMd5 (.createTag fileA copyOfA)).1 =
      0 := by
    decide +kernel
  have before : committedSample.Consistent :=
    Disk.consistent_executeAll Disk.consistent_initStorage ⟨by decide +kernel, by decide +kernel,
      by decide +kernel, by decide +kernel, trivial⟩
  exact before.execute (Disk.eq_of_code succeeds)

theorem committed_unchanged_by_writtenCopy :
    (committedSample.executeAll oneByteMd5 writtenCopy).metadata copyOfA =
        some ⟨1, [2], .committed⟩ ∧
      (committedSample.executeAll oneByteMd5 writtenCopy).metadata fileA =
          some ⟨1, [1], .committed⟩ ∧
        (committedSample.executeAll oneByteMd5 writtenCopy).executeBlockRead reliable fileA 0 =
          committedSample.executeBlockRead reliable fileA 0 := by
  have held : committedSample.metadata fileA = some ⟨1, [1], .committed⟩ := by
    decide +kernel
  have blocks : copiedSample.blocksOf fileA = [1] := by decide +kernel
  have nextFree : copiedSample.getFreeBitIndex = some 2 := by decide +kernel
  have meet : Disk.AllMeet oneByteMd5 (RespectsCommitted fileA) committedSample writtenCopy := by
    refine ⟨⟨by simp, by simp, by simp⟩, ⟨by simp, by simp, ?_⟩, ⟨by simp, by simp, by simp⟩,
      trivial⟩
    rintro _ _ _ _ _ free ⟨⟩ _ _ _ _ _ isFree index linked
    obtain rfl := Option.some.inj (nextFree.symm.trans isFree)
    have listed := (consistent_copiedSample.inode fileA index).symm.trans linked
    rw [blocks] at listed
    exact absurd (List.mem_of_getElem? listed) (by decide)
  obtain ⟨kept, reads⟩ := committed_unchanged_along_respecting_runs
    (reachable_executeAll oneByteMd5 _) held rfl (run_of_allMeet meet)
  exact ⟨by decide +kernel, kept, reads 0⟩

/-- `truncate_file` accepts a COMMITTED File:Tag and changes its size and its
number of blocks. -/
theorem truncateFile_changes_committed_file :
    ∃ first last : Disk fourByteConfig String,
      (storageSystem oneByteMd5).Reachable first ∧
      first.metadata fileA = some ⟨1, [1], .committed⟩ ∧
      (storageSystem oneByteMd5).Run first [.truncateFile fileA 3] last ∧
      last.metadata fileA = some ⟨3, [1, 0, 0], .committed⟩ := by
  refine ⟨committedSample, (committedSample.truncateFile reliable fileA 3).2,
    reachable_executeAll oneByteMd5 _, by decide +kernel,
    TransitionSystem.Run.single rfl, by decide +kernel⟩

end Storage

end MasterOfFiles
