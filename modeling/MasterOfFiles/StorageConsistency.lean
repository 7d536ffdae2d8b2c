import MasterOfFiles.StorageEffects

/-!
# Metadata and hard links agree

`Consistent` says that the `logical_blocks` directory of every File:Tag holds
exactly the links that its `BLOCKS` list names.  Every request that returns
zero keeps it, although each operation updates the two in its own order.
-/

namespace MasterOfFiles

namespace Storage

variable {config : StorageConfig} {Hash : Type}

namespace Disk

/-- The `BLOCKS` of a File:Tag, empty when it has no metadata. -/
def blocksOf (disk : Disk config Hash) (fileTag : FileTag) : List Nat :=
  (disk.metadata fileTag).elim [] FileMetadata.blocks

theorem blocksOf_of_metadata {disk : Disk config Hash} {fileTag : FileTag}
    {metadata : FileMetadata} (held : disk.metadata fileTag = some metadata) :
    disk.blocksOf fileTag = metadata.blocks := by
  simp [blocksOf, held]

theorem blocksOf_of_missing {disk : Disk config Hash} {fileTag : FileTag}
    (missing : disk.metadata fileTag = none) : disk.blocksOf fileTag = [] := by
  simp [blocksOf, missing]

theorem blocksOf_update {disk : Disk config Hash} {before : Disk config Hash}
    {target : FileTag} {metadata : FileMetadata}
    (metadataEq : disk.metadata = Function.update before.metadata target (some metadata))
    (fileTag : FileTag) :
    disk.blocksOf fileTag =
      if fileTag = target then metadata.blocks else before.blocksOf fileTag := by
  by_cases same : fileTag = target
  · simp [blocksOf, metadataEq, same]
  · simp [blocksOf, metadataEq, same]

/-- The links of every File:Tag are the ones its metadata lists, they lead to
existing blocks, and metadata lives in an existing directory. -/
structure Consistent (disk : Disk config Hash) : Prop where
  inode : ∀ fileTag index,
    disk.links.inode fileTag index = (disk.blocksOf fileTag)[index]?
  block_lt : ∀ fileTag, ∀ physical ∈ disk.blocksOf fileTag,
    physical < config.totalBlocks
  tagDirs : ∀ fileTag, disk.metadata fileTag ≠ none → disk.tagDirs fileTag = true

/-- Reassemble consistency after one File:Tag got new metadata. -/
theorem Consistent.update {before after : Disk config Hash} {target : FileTag}
    {metadata : FileMetadata} (consistent : before.Consistent)
    (metadataEq : after.metadata = Function.update before.metadata target (some metadata))
    (others : ∀ other, other ≠ target → ∀ index,
      after.links.inode other index = before.links.inode other index)
    (own : ∀ index, after.links.inode target index = metadata.blocks[index]?)
    (blockLt : ∀ physical ∈ metadata.blocks, physical < config.totalBlocks)
    (tagDirsEq : ∀ other, other ≠ target → after.tagDirs other = before.tagDirs other)
    (present : after.tagDirs target = true) : after.Consistent where
  inode fileTag index := by
    rw [blocksOf_update metadataEq]
    by_cases same : fileTag = target
    · rw [if_pos same, same, own]
    · rw [if_neg same, others fileTag same, consistent.inode]
  block_lt fileTag physical member := by
    rw [blocksOf_update metadataEq] at member
    by_cases same : fileTag = target
    · exact blockLt physical (by simpa [same] using member)
    · exact consistent.block_lt fileTag physical (by simpa [same] using member)
  tagDirs fileTag held := by
    by_cases same : fileTag = target
    · rw [same, present]
    · rw [tagDirsEq fileTag same]
      exact consistent.tagDirs fileTag (by simpa [metadataEq, same] using held)

section Loops

variable {fileTag : FileTag}

/-- Freeing the blocks from `index` on removes exactly the links from `index`
on, provided the list names them all. -/
theorem inode_deleteSurplusBlocks {disk : Disk config Hash} {index : Nat}
    {blocks : List Nat}
    (linked : ∀ offset, disk.links.inode fileTag (index + offset) = blocks[offset]?)
    (blockLt : ∀ physical ∈ blocks, physical < config.totalBlocks) (other : FileTag)
    (position : Nat) :
    (deleteSurplusBlocks reliable fileTag index blocks disk).links.inode other position =
      if other = fileTag ∧ index ≤ position then none
      else disk.links.inode other position := by
  induction blocks generalizing index disk with
  | nil =>
      rw [deleteSurplusBlocks]
      split
      · rename_i inside
        obtain ⟨rfl, indexLe⟩ := inside
        simpa [Nat.add_sub_cancel' indexLe] using linked (position - index)
      · rfl
  | cons physical rest ih =>
      have first : disk.links.inode fileTag index = some physical := by
        simpa using linked 0
      rw [deleteSurplusBlocks,
        deleteLogicalBlock_reliable (by simp [first]) (blockLt physical (by simp)), ih]
      · by_cases same : other = fileTag
        · by_cases inside : index < position
          · simp [same, Nat.le_of_lt inside, Nat.succ_le_of_lt inside]
          · by_cases here : position = index
            · simp [dropLink, same, here]
            · have before : ¬ index ≤ position := by omega
              have notNext : ¬ index + 1 ≤ position := by omega
              simp [dropLink, same, here, before, notNext]
        · simp [dropLink, same]
      · intro offset
        have next := linked (offset + 1)
        have different : index + 1 + offset ≠ index := by omega
        simpa [dropLink, different, Nat.add_comm, Nat.add_left_comm] using next
      · exact fun other member => blockLt other (by simp [member])

theorem inode_linkZeroBlocks {disk grown : Disk config Hash} {index count : Nat}
    (done : linkZeroBlocks reliable fileTag index count disk = (true, grown))
    (other : FileTag) (position : Nat) :
    grown.links.inode other position =
      if other = fileTag ∧ index ≤ position ∧ position < index + count then some 0
      else disk.links.inode other position := by
  induction count generalizing index disk with
  | zero =>
      simp only [linkZeroBlocks, Prod.mk.injEq, true_and] at done
      rw [← done, if_neg (by omega)]
  | succ count ih =>
      simp only [linkZeroBlocks] at done
      split at done
      · simp at done
      · rename_i linked linking
        obtain ⟨_, _, rfl⟩ := linkLogicalBlock_reliable.mp linking
        rw [ih done]
        by_cases same : other = fileTag
        · by_cases here : position = index
          · simp [same, here]
          · have split : index + 1 ≤ position ∧ position < index + 1 + count ↔
                index ≤ position ∧ position < index + (count + 1) := by omega
            simp only [same, true_and, split, LinkTable.inode_link, here, and_false,
              if_false]
        · simp [same]

end Loops

section Operations

variable {before after : Disk config Hash} {fileTag : FileTag}

theorem Consistent.createFile (consistent : before.Consistent)
    (done : before.createFile reliable fileTag = (0, after)) : after.Consistent := by
  obtain ⟨absent, rfl⟩ := createFile_success done
  have missing : before.metadata fileTag = none := by
    by_contra held
    simp [consistent.tagDirs fileTag held] at absent
  refine consistent.update rfl (fun _ _ _ => rfl) ?_ ?_ ?_ ?_
  · intro index
    have empty : before.links.inode fileTag index = none := by
      rw [consistent.inode, blocksOf_of_missing missing]
      rfl
    simpa [setMetadata, makeDirectories, defaultMetadata] using empty
  · simp [defaultMetadata]
  · intro other different
    simp [makeDirectories, setMetadata, different]
  · simp [makeDirectories, setMetadata]

theorem Consistent.truncateFile (consistent : before.Consistent) {newSizeBytes : Int32}
    (done : before.truncateFile reliable fileTag newSizeBytes = (0, after)) :
    after.Consistent := by
  obtain ⟨metadata, held, outcome⟩ := truncateFile_success done
  have blocksEq := blocksOf_of_metadata held
  have linked : ∀ index, before.links.inode fileTag index = metadata.blocks[index]? := by
    intro index
    rw [consistent.inode, blocksEq]
  have blockLt : ∀ physical ∈ metadata.blocks, physical < config.totalBlocks := by
    rw [← blocksEq]
    exact consistent.block_lt fileTag
  have present : before.tagDirs fileTag = true := consistent.tagDirs fileTag (by simp [held])
  rcases outcome with ⟨_, rfl⟩ | ⟨newCount, _, countLt, rfl⟩ |
    ⟨extra, grown, _, _, linking, rfl⟩
  · exact consistent.update rfl (fun _ _ _ => rfl) linked blockLt (fun _ _ => rfl) present
  · have only := deleteSurplusBlocks_linksOnly before fileTag newCount
      (metadata.blocks.drop newCount)
    have listed : ∀ offset, before.links.inode fileTag (newCount + offset) =
        (metadata.blocks.drop newCount)[offset]? := by
      intro offset
      rw [linked, List.getElem?_drop]
    have shrunk := inode_deleteSurplusBlocks listed
      (fun physical member => blockLt physical (List.mem_of_mem_drop member))
    refine consistent.update (by rw [setMetadata, only.metadata]) only.inode ?_ ?_ ?_ ?_
    · intro index
      rw [setMetadata, shrunk]
      by_cases freed : newCount ≤ index
      · simp [freed]
      · simp [freed, linked, Nat.lt_of_not_le freed]
    · intro physical member
      exact blockLt physical (List.mem_of_mem_take member)
    · intro other _
      rw [setMetadata, only.tagDirs]
    · rw [setMetadata, only.tagDirs, present]
  · have only := linkZeroBlocks_linksOnly before fileTag metadata.blocks.length extra
    rw [linking] at only
    refine consistent.update (by rw [setMetadata, only.metadata]) only.inode ?_ ?_ ?_ ?_
    · intro index
      rw [setMetadata, inode_linkZeroBlocks linking, linked]
      rcases Nat.lt_or_ge index metadata.blocks.length with old | new
      · simp [List.getElem?_append_left old, Nat.not_le.mpr old]
      · rw [List.getElem?_append_right new, List.getElem?_replicate,
          List.getElem?_eq_none new]
        by_cases inside : index < metadata.blocks.length + extra
        · rw [if_pos ⟨rfl, new, inside⟩, if_pos (by omega)]
        · rw [if_neg (by omega), if_neg (by omega)]
    · intro physical member
      rcases List.mem_append.mp member with old | new
      · exact blockLt physical old
      · rw [List.eq_of_mem_replicate new]
        exact config.totalBlocks_pos
    · intro other _
      rw [setMetadata, only.tagDirs]
    · rw [setMetadata, only.tagDirs, present]

theorem Consistent.createTag (consistent : before.Consistent) {source target : FileTag}
    (done : before.createTag reliable source target = (0, after)) : after.Consistent := by
  obtain ⟨metadata, held, missing, rfl⟩ := createTag_success done
  have blocksEq := blocksOf_of_metadata held
  refine consistent.update rfl ?_ ?_ ?_ ?_ ?_
  · intro other different index
    simp [setMetadata, different]
  · intro index
    have empty : before.links.inode target index = none := by
      rw [consistent.inode, blocksOf_of_missing missing]
      rfl
    simp [setMetadata, empty, consistent.inode, blocksEq]
  · rw [← blocksEq]
    exact consistent.block_lt source
  · intro other different
    simp [setMetadata, different]
  · simp [setMetadata]

theorem Consistent.executeBlockWrite (consistent : before.Consistent)
    {blockNumber : UInt32} {blockData : List UInt8}
    (done : before.executeBlockWrite reliable fileTag blockNumber blockData = (0, after)) :
    after.Consistent := by
  obtain ⟨metadata, physical, held, _, linked, outcome⟩ := executeBlockWrite_success done
  have blocksEq := blocksOf_of_metadata held
  rcases outcome with ⟨_, rfl⟩ | ⟨_, free, _, freeLt, rfl⟩
  · exact ⟨consistent.inode, consistent.block_lt, consistent.tagDirs⟩
  · rw [consistent.inode, blocksEq] at linked
    obtain ⟨numberLt, _⟩ := List.getElem?_eq_some_iff.mp linked
    refine consistent.update rfl ?_ ?_ ?_ (fun _ _ => rfl) ?_
    · intro other different index
      simp [setMetadata, different]
    · intro index
      by_cases here : index = blockNumber.toNat
      · simp [setMetadata, here, numberLt]
      · simp [setMetadata, here, Ne.symm here, consistent.inode, blocksEq]
    · intro other member
      rcases List.mem_or_eq_of_mem_set member with old | rfl
      · exact consistent.block_lt fileTag other (by rwa [blocksEq])
      · exact freeLt
    · exact consistent.tagDirs fileTag (by simp [held])

theorem Consistent.executeTagCommit [DecidableEq Hash]
    {md5 : Block config.blockSize → Hash} (consistent : before.Consistent)
    (done : executeTagCommit reliable md5 before fileTag = (0, after)) :
    after.Consistent := by
  obtain ⟨metadata, outcome⟩ := executeTagCommit_outcome done
  obtain ⟨blocks, lengthEq, targets, metadataEq⟩ := outcome.metadata_eq
  have blocksEq := blocksOf_of_metadata outcome.held
  refine consistent.update metadataEq ?_ ?_ ?_ ?_ ?_
  · intro other different index
    simp [outcome.inode, different]
  · intro index
    rw [outcome.inode, consistent.inode, blocksEq]
    rcases Nat.lt_or_ge index metadata.blocks.length with inside | outside
    · have entry : blocks[index]? =
          some (before.commitTarget md5 fileTag metadata.blocks index) := by
        rw [← targets index inside, List.getD_eq_getElem?_getD]
        simp [lengthEq, inside]
      rw [entry]
      split
      · rfl
      · rename_i stays
        have same : before.commitTarget md5 fileTag metadata.blocks index =
            metadata.blocks.getD index 0 := by
          by_contra different
          exact stays ⟨rfl, inside, different⟩
        rw [same, List.getD_eq_getElem?_getD]
        simp [inside]
    · rw [if_neg (by omega), List.getElem?_eq_none outside,
        List.getElem?_eq_none (by simpa [lengthEq] using outside)]
  · intro physical member
    obtain ⟨index, indexLt, rfl⟩ := List.mem_iff_getElem.mp member
    have entry := targets index (lengthEq ▸ indexLt)
    rw [List.getD_eq_getElem?_getD, List.getElem?_eq_getElem indexLt,
      Option.getD_some] at entry
    show blocks[index] < config.totalBlocks
    rw [entry]
    by_cases stays : before.commitTarget md5 fileTag metadata.blocks index =
        metadata.blocks.getD index 0
    · rw [stays, List.getD_eq_getElem?_getD,
        List.getElem?_eq_getElem (lengthEq ▸ indexLt), Option.getD_some]
      exact consistent.block_lt fileTag _ (by rw [blocksEq]; exact List.getElem_mem _)
    · exact outcome.target_lt index (lengthEq ▸ indexLt) stays
  · intro other _
    rw [outcome.tagDirs]
  · rw [outcome.tagDirs]
    exact consistent.tagDirs fileTag (by simp [outcome.held])

theorem Consistent.deleteTag (consistent : before.Consistent)
    (done : before.deleteTag reliable fileTag = (0, after)) : after.Consistent := by
  obtain ⟨metadata, held, _, rfl⟩ := deleteTag_success done
  have only := deleteSurplusBlocks_linksOnly before fileTag 0 metadata.blocks
  refine ⟨?_, ?_, ?_⟩
  · intro other index
    by_cases same : other = fileTag
    · simp [removeDirectories, blocksOf, same]
    · simp [removeDirectories, blocksOf, same, only.metadata, only.inode other same,
        consistent.inode]
  · intro other physical member
    by_cases same : other = fileTag
    · simp [removeDirectories, blocksOf, same] at member
    · refine consistent.block_lt other physical ?_
      simpa [removeDirectories, blocksOf, same, only.metadata] using member
  · intro other present
    by_cases same : other = fileTag
    · simp [removeDirectories, same] at present
    · simp only [removeDirectories, Function.update_of_ne same, only.metadata,
        only.tagDirs] at present ⊢
      exact consistent.tagDirs other present

/-- Every request that returns zero keeps metadata and links in agreement. -/
theorem Consistent.execute [DecidableEq Hash] {md5 : Block config.blockSize → Hash}
    (consistent : before.Consistent) {request : Request}
    (done : before.execute reliable md5 request = (0, after)) : after.Consistent := by
  cases request with
  | createFile fileTag => exact consistent.createFile done
  | truncateFile fileTag newSizeBytes => exact consistent.truncateFile done
  | createTag source target => exact consistent.createTag done
  | executeBlockWrite fileTag blockNumber blockData => exact consistent.executeBlockWrite done
  | executeBlockRead fileTag blockNumber =>
      have unchanged := execute_executeBlockRead md5 before reliable fileTag blockNumber
      rw [done] at unchanged
      obtain rfl : after = before := unchanged
      exact consistent
  | executeTagCommit fileTag => exact consistent.executeTagCommit done
  | deleteTag fileTag => exact consistent.deleteTag done

theorem consistent_executeAll [DecidableEq Hash] {md5 : Block config.blockSize → Hash}
    {requests : List Request} (consistent : before.Consistent)
    (meet : AllMeet md5 (Succeeds md5) before requests) :
    (before.executeAll md5 requests).Consistent := by
  induction requests generalizing before with
  | nil => exact consistent
  | cons request requests ih => exact ih (consistent.execute (eq_of_code meet.1)) meet.2

end Operations

theorem consistent_initStorage : (initStorage config Hash).Consistent := by
  refine ⟨?_, ?_, wellFormed_initStorage.tagDirs⟩
  · intro fileTag index
    by_cases same : fileTag = initialFileBase
    · cases index <;> simp [initStorage, blocksOf, same]
    · simp [initStorage, blocksOf, same]
  · intro fileTag physical member
    by_cases same : fileTag = initialFileBase
    · obtain rfl : physical = 0 := by simpa [initStorage, blocksOf, same] using member
      exact config.totalBlocks_pos
    · simp [initStorage, blocksOf, same] at member

end Disk

section Agreement

variable [DecidableEq Hash] {md5 : Block config.blockSize → Hash}

/-- After any requests that each return zero or leave the disk alone, the
`logical_blocks` of a File:Tag are exactly the indices of its `BLOCKS`, and
each is linked to the physical block listed there. -/
theorem links_agree_with_metadata {disk : Disk config Hash}
    (reachable : ((storageSystem md5).guarded
      (fun before request => Succeeds md5 before request ∨
        Rejected md5 before request)).Reachable disk)
    {fileTag : FileTag} {metadata : FileMetadata}
    (held : disk.metadata fileTag = some metadata) (index : Nat) :
    disk.links.inode fileTag index = metadata.blocks[index]? := by
  have kept : ((storageSystem md5).guarded (fun before request =>
      Succeeds md5 before request ∨ Rejected md5 before request)).Preserves
        Disk.Consistent := by
    rintro before request _ consistent ⟨succeeds | rejected, rfl⟩
    · exact consistent.execute (Disk.eq_of_code succeeds)
    · rw [rejected]
      exact consistent
  have consistent : disk.Consistent := by
    refine reachable.invariant ?_ kept
    rintro _ rfl
    exact Disk.consistent_initStorage
  rw [consistent.inode, Disk.blocksOf_of_metadata held]

theorem links_agree_with_metadata_of_written_file :
    (sampleDisk (writeOneByte fileA 65)).metadata fileA =
        some ⟨1, [1], .workInProgress⟩ ∧
      ∀ index, (sampleDisk (writeOneByte fileA 65)).links.inode fileA index =
        [1][index]? := by
  have held : (sampleDisk (writeOneByte fileA 65)).metadata fileA =
      some ⟨1, [1], .workInProgress⟩ := by
    decide +kernel
  have meet : Disk.AllMeet oneByteMd5 (fun before request =>
      Succeeds oneByteMd5 before request ∨ Rejected oneByteMd5 before request)
        (initStorage fourByteConfig String) (writeOneByte fileA 65) :=
    ⟨Or.inl (by decide +kernel), Or.inl (by decide +kernel), Or.inl (by decide +kernel),
      trivial⟩
  exact ⟨held, links_agree_with_metadata ⟨_, _, rfl, run_of_allMeet meet⟩ held⟩

end Agreement

end Storage

end MasterOfFiles
