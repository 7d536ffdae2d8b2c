import MasterOfFiles.StorageEffects

/-!
# Copying a File:Tag

`create_tag` makes the directory of the new tag with a plain `mkdir`, while `create_file` makes the
directory of the file as well.  A File:Tag that does not exist has left nothing behind but the
directory of its file, and whether that one is there decides whether TAG succeeds.
-/

namespace MasterOfFiles

namespace Storage

variable {config : StorageConfig} {Hash : Type}

namespace Disk

section Remains

/-- A File:Tag without metadata has neither a directory nor links. -/
def NoRemains (disk : Disk config Hash) : Prop :=
  ∀ fileTag, disk.metadata fileTag = none →
    disk.tagDirs fileTag = false ∧ ∀ index, disk.links.inode fileTag index = none

variable {before after : Disk config Hash} {target fileTag : FileTag} {written : Nat → Prop}

/-- Only the File:Tag that a request changes has to be looked at. -/
theorem NoRemains.of_touches (clean : before.NoRemains)
    (touches : Touches target written before after)
    (own : after.metadata target = none →
      after.tagDirs target = false ∧ ∀ index, after.links.inode target index = none) :
    after.NoRemains := by
  intro fileTag missing
  by_cases same : fileTag = target
  · rw [same] at missing ⊢
    exact own missing
  · rw [touches.metadata fileTag same] at missing
    rw [touches.tagDirs fileTag same]
    refine ⟨(clean fileTag missing).1, ?_⟩
    intro index
    rw [touches.inode fileTag same]
    exact (clean fileTag missing).2 index

theorem NoRemains.createFile (clean : before.NoRemains) (fileTag : FileTag) :
    (before.createFile reliable fileTag).2.NoRemains := by
  have touches : Touches fileTag (fun _ => False) before (before.createFile reliable fileTag).2 :=
    createFile_touches before fileTag
  apply clean.of_touches touches
  intro missing
  cases present : before.tagDirs fileTag with
  | true =>
      have refused : before.createFile reliable fileTag = (fileTagAlreadyExists, before) := by
        simp [Disk.createFile, createFileDirStructure, present, fileTagAlreadyExists]
      rw [refused] at missing ⊢
      exact clean fileTag missing
  | false => simp [Disk.createFile, createFileDirStructure, present, setMetadata] at missing

theorem NoRemains.truncateFile (clean : before.NoRemains) (fileTag : FileTag)
    (newSizeBytes : Int32) : (before.truncateFile reliable fileTag newSizeBytes).2.NoRemains := by
  have touches : Touches fileTag (fun _ => False) before
      (before.truncateFile reliable fileTag newSizeBytes).2 :=
    truncateFile_touches before fileTag newSizeBytes
  apply clean.of_touches touches
  intro missing
  simp only [Disk.truncateFile, readFileMetadata_reliable, saveFileMetadata_reliable] at missing ⊢
  cases held : before.metadata fileTag with
  | none => exact clean fileTag held
  | some metadata =>
      exfalso
      simp only [held] at missing
      split at missing
      · simp [setMetadata] at missing
      · split at missing
        · simp [held] at missing
        · split at missing
          · simp [setMetadata] at missing
          · have linking := linkZeroBlocks_linksOnly before fileTag metadata.blocks.length
              ((newBlockCount config newSizeBytes).toNat - metadata.blocks.length)
            split at missing
            · rename_i failed loop
              rw [loop] at linking
              have kept : failed.metadata = before.metadata := linking.metadata
              simp [kept, held] at missing
            · simp [setMetadata] at missing

theorem createTag_of_free {source : FileTag} {metadata : FileMetadata}
    (held : before.metadata source = some metadata) (missing : before.metadata target = none)
    (noDirectory : before.tagDirs target = false)
    (noLinks : ∀ index, before.links.inode target index = none) :
    before.createTag reliable source target =
      if before.fileDirs target.file = true then
        (0, ({ before with
          tagDirs := Function.update before.tagDirs target true
          links := before.links.copyDirectory source target } : Disk config Hash).setMetadata target
            { metadata with state := .workInProgress })
      else (-1, before) := by
  cases directory : before.fileDirs target.file with
  | false =>
      simp [createTag, held, missing, makeTagDirectories, noDirectory, directory]
  | true =>
      simp [createTag, held, missing, makeTagDirectories, noDirectory, directory,
        copyLogicalBlocks, noLinks]

theorem NoRemains.createTag (clean : before.NoRemains) (source target : FileTag) :
    (before.createTag reliable source target).2.NoRemains := by
  have touches : Touches target (fun _ => False) before
      (before.createTag reliable source target).2 :=
    createTag_touches before source target
  apply clean.of_touches touches
  intro missing
  cases free : before.metadata target with
  | some metadata =>
      have refused : (before.createTag reliable source target).2 = before := by
        simp [Disk.createTag, free]
      rw [refused, free] at missing
      cases missing
  | none =>
      cases held : before.metadata source with
      | none =>
          have refused : (before.createTag reliable source target).2 = before := by
            simp [Disk.createTag, free, held]
          rw [refused]
          exact clean target free
      | some metadata =>
          rw [createTag_of_free held free (clean target free).1 (clean target free).2] at missing ⊢
          split
          · rename_i directory
            simp [directory, setMetadata] at missing
          · exact clean target free

theorem NoRemains.executeBlockWrite (clean : before.NoRemains) (fileTag : FileTag)
    (blockNumber : UInt32) (blockData : List UInt8) :
    (before.executeBlockWrite reliable fileTag blockNumber blockData).2.NoRemains := by
  apply clean.of_touches (executeBlockWrite_touches before fileTag blockNumber blockData)
  intro missing
  cases held : before.metadata fileTag with
  | none =>
      have refused : (before.executeBlockWrite reliable fileTag blockNumber blockData).2 =
          before := by
        simp [Disk.executeBlockWrite, held]
      rw [refused]
      exact clean fileTag held
  | some metadata =>
      exfalso
      cases result : before.executeBlockWrite reliable fileTag blockNumber blockData with
      | mk code after =>
          rw [result] at missing
          by_cases success : code = 0
          · subst success
            obtain ⟨_, _, _, _, _, outcome⟩ := executeBlockWrite_success result
            rcases outcome with ⟨_, rfl⟩ | ⟨_, _, _, _, rfl⟩
            · simp [held] at missing
            · simp [setMetadata] at missing
          · have only := executeBlockWrite_linksOnly_of_failed result success
            simp [only.metadata, held] at missing

theorem NoRemains.executeTagCommit [DecidableEq Hash] (md5 : Block config.blockSize → Hash)
    (clean : before.NoRemains) (fileTag : FileTag) :
    (Disk.executeTagCommit reliable md5 before fileTag).2.NoRemains := by
  have touches : Touches fileTag (fun _ => False) before
      (Disk.executeTagCommit reliable md5 before fileTag).2 :=
    executeTagCommit_touches md5 before fileTag
  apply clean.of_touches touches
  intro missing
  cases held : before.metadata fileTag with
  | none =>
      have refused : (Disk.executeTagCommit reliable md5 before fileTag).2 = before := by
        simp [Disk.executeTagCommit, held]
      rw [refused]
      exact clean fileTag held
  | some metadata =>
      exfalso
      cases result : Disk.executeTagCommit reliable md5 before fileTag with
      | mk code after =>
          rw [result] at missing
          by_cases success : code = 0
          · subst success
            obtain ⟨_, outcome⟩ := executeTagCommit_outcome result
            obtain ⟨_, _, _, metadataEq⟩ := outcome.metadata_eq
            simp [metadataEq] at missing
          · have only := executeTagCommit_linksOnly_of_failed result success
            simp [only.metadata, held] at missing

theorem NoRemains.deleteTag (clean : before.NoRemains) (fileTag : FileTag) :
    (before.deleteTag reliable fileTag).2.NoRemains := by
  have touches : Touches fileTag (fun _ => False) before (before.deleteTag reliable fileTag).2 :=
    deleteTag_touches before fileTag
  apply clean.of_touches touches
  simp only [Disk.deleteTag, readFileMetadata_reliable]
  split
  · exact clean fileTag
  · cases held : before.metadata fileTag with
    | none => exact fun _ => clean fileTag held
    | some metadata =>
        have loop := deleteTagBlocks_linksOnly before fileTag 0 metadata.blocks
        dsimp only
        split
        · rename_i failed step
          rw [step] at loop
          intro missing
          have kept : failed.metadata = before.metadata := loop.metadata
          simp [kept, held] at missing
        · rename_i emptied step
          rw [step] at loop
          have kept : emptied.metadata = before.metadata := loop.metadata
          intro missing
          cases present : emptied.tagDirs fileTag with
          | false =>
              simp [deleteFileDirStructure, present, fileTagMissing, kept, held] at missing
          | true => simp [deleteFileDirStructure, present, Disk.removeDirectories]

end Remains

section Reachable

variable [DecidableEq Hash] {md5 : Block config.blockSize → Hash}

theorem NoRemains.execute {before : Disk config Hash} (clean : before.NoRemains)
    (md5 : Block config.blockSize → Hash) (request : Request) :
    (before.execute reliable md5 request).2.NoRemains := by
  cases request with
  | createFile fileTag => exact clean.createFile fileTag
  | truncateFile fileTag newSizeBytes => exact clean.truncateFile fileTag newSizeBytes
  | createTag source target => exact clean.createTag source target
  | executeBlockWrite fileTag blockNumber blockData =>
      exact clean.executeBlockWrite fileTag blockNumber blockData
  | executeBlockRead fileTag blockNumber =>
      rw [execute_executeBlockRead]
      exact clean
  | executeTagCommit fileTag => exact clean.executeTagCommit md5 fileTag
  | deleteTag fileTag => exact clean.deleteTag fileTag

theorem noRemains_of_reachable {disk : Disk config Hash}
    (reachable : (storageSystem md5).Reachable disk) : disk.NoRemains := by
  apply reachable.invariant
  · rintro _ rfl fileTag missing
    have different : fileTag ≠ initialFileBase := by
      rintro rfl
      simp [initStorage] at missing
    refine ⟨by simp [initStorage, different], ?_⟩
    intro index
    simp [initStorage, different]
  · rintro before request _ clean rfl
    exact clean.execute md5 request

end Reachable

section Tags

variable [DecidableEq Hash] {md5 : Block config.blockSize → Hash}

/-- The target is an open copy of the source, and every other File:Tag is as it was. -/
structure TagCopied (before after : Disk config Hash) (source target : FileTag)
    (metadata : FileMetadata) : Prop where
  metadata : after.metadata target = some { metadata with state := .workInProgress }
  content : ∀ index, after.logicalContent target index = before.logicalContent source index
  others : ∀ other, other ≠ target → after.metadata other = before.metadata other ∧
    after.tagDirs other = before.tagDirs other ∧ ∀ index,
      after.links.inode other index = before.links.inode other index ∧
        after.logicalContent other index = before.logicalContent other index

/-- In every reachable state, TAG from an existing File:Tag to one that does not exist does what it
should exactly when the directory of the target's file exists. -/
theorem createTag_copies_iff {disk : Disk config Hash} {source target : FileTag}
    {metadata : FileMetadata} (reachable : (storageSystem md5).Reachable disk)
    (held : disk.metadata source = some metadata) (missing : disk.metadata target = none) :
    ((disk.createTag reliable source target).1 = 0 ∧
        TagCopied disk (disk.createTag reliable source target).2 source target metadata) ↔
      disk.fileDirs target.file = true := by
  obtain ⟨noDirectory, noLinks⟩ := noRemains_of_reachable reachable target missing
  rw [createTag_of_free held missing noDirectory noLinks]
  cases directory : disk.fileDirs target.file with
  | false => simp
  | true =>
      simp only [if_true, true_and, iff_true]
      refine ⟨by simp [setMetadata], ?_, ?_⟩
      · intro index
        simp [logicalContent, setMetadata, noLinks]
      · intro other different
        refine ⟨by simp [setMetadata, different], by simp [setMetadata, different], ?_⟩
        intro index
        have sameLink : (disk.links.copyDirectory source target).inode other index =
            disk.links.inode other index := by
          simp [different]
        exact ⟨sameLink, congrArg (Option.map disk.content) sameLink⟩

/-- `b` has lost its only tag, and its directory is still there. -/
theorem createTag_copies_iff_after_deleteTag :
    let disk : Disk fourByteConfig String :=
      sampleDisk (writeOneByte fileA 65 ++ [.createFile fileB, .deleteTag fileB])
    ((disk.createTag reliable fileA fileB).1 = 0 ∧
        TagCopied disk (disk.createTag reliable fileA fileB).2 fileA fileB
          ⟨1, [1], .workInProgress⟩) ↔
      disk.fileDirs fileB.file = true := by
  intro disk
  have reachable : (storageSystem oneByteMd5).Reachable disk := reachable_executeAll oneByteMd5 _
  exact createTag_copies_iff reachable (by decide +kernel) (by decide +kernel)

/-- No tag of `c` was ever created. -/
theorem createTag_refuses_new_file :
    ∃ disk : Disk fourByteConfig String, (storageSystem oneByteMd5).Reachable disk ∧
      disk.metadata fileA = some ⟨1, [1], .workInProgress⟩ ∧ disk.metadata fileC = none ∧
      (disk.createTag reliable fileA fileC).1 = -1 ∧
      (disk.createTag reliable fileA fileC).2.metadata fileC = none := by
  let disk : Disk fourByteConfig String := sampleDisk (writeOneByte fileA 65)
  have reachable : (storageSystem oneByteMd5).Reachable disk := reachable_executeAll oneByteMd5 _
  exact ⟨disk, reachable, by decide +kernel, by decide +kernel, by decide +kernel,
    by decide +kernel⟩

end Tags

end Disk

end Storage

end MasterOfFiles
