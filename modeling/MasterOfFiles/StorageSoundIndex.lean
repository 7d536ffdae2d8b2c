import MasterOfFiles.StorageBitmap
import MasterOfFiles.StorageBlockNames
import MasterOfFiles.StorageCommitContents

/-!
# COMMIT on a sound hash index

The hash index is sound when every entry names a linked block whose bytes have the hash of the
entry.  Then a block that the index names never loses its last link while the loop runs: a logical
block that is linked to it holds its bytes, so its target is the block itself.
-/

namespace MasterOfFiles

namespace Storage

namespace Disk

variable {config : StorageConfig} {Hash : Type}

/-- The value that `blocks_hash_index.config` holds for a hash. -/
def hashIndexEntry (disk : Disk config Hash) (hash : Hash) : Option (List Char) :=
  (disk.hashIndex hash).map blockName

/-- Every entry of the hash index names a linked block whose bytes have the hash of the entry. -/
def SoundIndex (md5 : Block config.blockSize → Hash) (disk : Disk config Hash) : Prop :=
  ∀ hash name, disk.hashIndexEntry hash = some name →
    ∃ physical, name = blockName physical ∧ md5 (disk.content physical) = hash ∧
      disk.links.Linked physical

/-- The contents that a COMMIT compares by their hashes: those of the logical blocks of the
File:Tag and those of the registered blocks. -/
def Compared (disk : Disk config Hash) (fileTag : FileTag) : Set (Block config.blockSize) :=
  {bytes | (∃ index, disk.logicalContent fileTag index = some bytes) ∨
    ∃ hash physical, disk.hashIndex hash = some physical ∧ disk.content physical = bytes}

variable {md5 : Block config.blockSize → Hash} {before after : Disk config Hash}
  {fileTag : FileTag}

theorem soundIndex_iff {disk : Disk config Hash} :
    disk.SoundIndex md5 ↔ ∀ hash physical, disk.hashIndex hash = some physical →
      md5 (disk.content physical) = hash ∧ disk.links.Linked physical := by
  constructor
  · intro sound hash physical entry
    obtain ⟨other, sameName, facts⟩ := sound hash (blockName physical)
      (by simp [hashIndexEntry, entry])
    rw [blockName_inj.mp sameName]
    exact facts
  · intro sound hash name entry
    obtain ⟨physical, held, rfl⟩ := Option.map_eq_some_iff.mp entry
    exact ⟨physical, rfl, sound hash physical held⟩

/-- A logical block holds the bytes of the block that the metadata lists. -/
theorem Consistent.logicalContent_eq (consistent : before.Consistent) {metadata : FileMetadata}
    (held : before.metadata fileTag = some metadata) {index : Nat}
    (indexLt : index < metadata.blocks.length) :
    before.logicalContent fileTag index =
      some (before.content (metadata.blocks.getD index 0)) := by
  simp [logicalContent, consistent.inode, blocksOf_of_metadata held,
    List.getD_eq_getElem?_getD, List.getElem?_eq_getElem indexLt]

theorem Consistent.inode_eq (consistent : before.Consistent) {metadata : FileMetadata}
    (held : before.metadata fileTag = some metadata) {index : Nat}
    (indexLt : index < metadata.blocks.length) :
    before.links.inode fileTag index = some (metadata.blocks.getD index 0) := by
  simp [consistent.inode, blocksOf_of_metadata held, List.getD_eq_getElem?_getD,
    List.getElem?_eq_getElem indexLt]

variable [DecidableEq Hash]

theorem registeredBefore_mono {blocks : List Nat} {count later : Nat} (le : count ≤ later)
    {hash : Hash} {physical : Nat}
    (registered : before.registeredBefore md5 fileTag blocks count hash = some physical) :
    before.registeredBefore md5 fileTag blocks later hash = some physical := by
  induction later, le using Nat.le_induction with
  | base => exact registered
  | succ later _ ih => rw [registeredBefore_succ, ih, Option.some_or]

section Registered

variable {metadata : FileMetadata} {hash : Hash} {physical : Nat}

/-- When the loop has ended, the hash of every logical block is registered for its target. -/
theorem registeredBefore_logicalHash {index : Nat} (indexLt : index < metadata.blocks.length)
    (hashed : before.logicalHash md5 fileTag index = some hash) :
    before.registeredBefore md5 fileTag metadata.blocks metadata.blocks.length hash =
      some (before.commitTarget md5 fileTag metadata.blocks index) := by
  have registered : before.registeredBefore md5 fileTag metadata.blocks (index + 1) hash =
      some (before.commitTarget md5 fileTag metadata.blocks index) := by
    rw [registeredBefore_succ, if_pos hashed]
    simp only [commitTarget, hashed]
    cases before.registeredBefore md5 fileTag metadata.blocks index hash with
    | none => rfl
    | some found => rfl
  exact registeredBefore_mono indexLt registered

/-- A block that the loop registers is the one that some logical block was linked to. -/
theorem hashIndex_or_listed_of_registered {count : Nat}
    (registered : before.registeredBefore md5 fileTag metadata.blocks count hash =
      some physical) :
    before.hashIndex hash = some physical ∨
      ∃ earlier < count, before.logicalHash md5 fileTag earlier = some hash ∧
        metadata.blocks.getD earlier 0 = physical := by
  rcases Option.or_eq_some_iff.mp registered with onDisk | ⟨_, added⟩
  · exact Or.inl onDisk
  · obtain ⟨earlier, found, same⟩ := Option.map_eq_some_iff.mp added
    have hashed := List.find?_some found
    have earlierLt := List.mem_range.mp (List.mem_of_find?_eq_some found)
    exact Or.inr ⟨earlier, earlierLt, by simpa using hashed, same⟩

variable (consistent : before.Consistent) (sound : before.SoundIndex md5)
  (held : before.metadata fileTag = some metadata)

omit [DecidableEq Hash] in
variable (md5) in
include consistent held in
theorem Consistent.logicalHash_eq {index : Nat} (indexLt : index < metadata.blocks.length) :
    before.logicalHash md5 fileTag index =
      some (md5 (before.content (metadata.blocks.getD index 0))) :=
  logicalHash_of_content (consistent.logicalContent_eq held indexLt)

include consistent sound held

/-- The entries that the loop adds are as sound as those on disk. -/
theorem SoundIndex.registered
    (registered : before.registeredBefore md5 fileTag metadata.blocks metadata.blocks.length
      hash = some physical) :
    md5 (before.content physical) = hash ∧ before.links.Linked physical := by
  rcases hashIndex_or_listed_of_registered registered with
    onDisk | ⟨earlier, earlierLt, hashed, rfl⟩
  · exact soundIndex_iff.mp sound hash physical onDisk
  · rw [consistent.logicalHash_eq md5 held earlierLt] at hashed
    exact ⟨Option.some.inj hashed, fileTag, earlier, consistent.inode_eq held earlierLt⟩

/-- A logical block that is linked to a registered block stays there. -/
theorem SoundIndex.commitTarget_eq
    (registered : before.registeredBefore md5 fileTag metadata.blocks metadata.blocks.length
      hash = some physical)
    {index : Nat} (linked : before.links.inode fileTag index = some physical) :
    before.commitTarget md5 fileTag metadata.blocks index = physical := by
  obtain ⟨hashEq, _⟩ := sound.registered consistent held registered
  have hashed : before.logicalHash md5 fileTag index = some hash := by
    rw [logicalHash, logicalContent, linked, ← hashEq]
    rfl
  have indexLt : index < metadata.blocks.length := by
    rw [consistent.inode, blocksOf_of_metadata held] at linked
    exact (List.getElem?_eq_some_iff.mp linked).1
  have final := registeredBefore_logicalHash indexLt hashed
  exact Option.some.inj (final.symm.trans registered)

/-- On a sound index the block to which a COMMIT relinks is linked when the loop gets there. -/
theorem SoundIndex.keepsBitmapTrue : KeepsBitmapTrue md5 before (.executeTagCommit fileTag) where
  growth := by simp
  relinking := by
    intro target found index request foundHeld indexLt moves
    obtain rfl := Request.executeTagCommit.inj request
    obtain rfl : metadata = found := by simpa [held] using foundHeld
    have registered := registeredBefore_logicalHash indexLt
      (consistent.logicalHash_eq md5 held indexLt)
    obtain ⟨_, other, position, linked⟩ := sound.registered consistent held registered
    by_cases same : other = fileTag
    · subst same
      have stays := sound.commitTarget_eq consistent held registered linked
      rw [consistent.inode, blocksOf_of_metadata held] at linked
      rcases Nat.lt_trichotomy position index with smaller | equal | larger
      · exact Or.inr (Or.inl ⟨position, smaller, stays⟩)
      · subst equal
        refine absurd ?_ moves
        rw [List.getD_eq_getElem?_getD, linked, Option.getD_some]
      · exact Or.inr (Or.inr ⟨position, larger, linked⟩)
    · exact Or.inl ⟨other, position, same, linked⟩

/-- Without collisions a logical block moves only to a block with the same bytes. -/
theorem SoundIndex.targetsHoldBytes (noCollisions : (before.Compared fileTag).InjOn md5) :
    before.TargetsHoldBytes md5 fileTag := by
  intro found foundHeld index indexLt bytes read
  obtain rfl : metadata = found := by simpa [held] using foundHeld
  have hashed := consistent.logicalHash_eq md5 held indexLt
  have registered := registeredBefore_logicalHash indexLt hashed
  have hashEq := (sound.registered consistent held registered).1
  have listed := consistent.logicalContent_eq held indexLt
  obtain rfl := Option.some.inj (listed.symm.trans read)
  right
  refine noCollisions ?_ (Or.inl ⟨index, listed⟩) hashEq
  rcases hashIndex_or_listed_of_registered registered with onDisk | ⟨earlier, earlierLt, _, same⟩
  · exact Or.inr ⟨_, _, onDisk, rfl⟩
  · rw [← same]
    exact Or.inl ⟨earlier, consistent.logicalContent_eq held earlierLt⟩

end Registered

section Committed

variable {metadata : FileMetadata}

theorem CommitOutcome.hashIndex (outcome : CommitOutcome md5 before fileTag metadata after)
    (done : executeTagCommit reliable md5 before fileTag = (0, after)) :
    after.hashIndex =
      before.registeredBefore md5 fileTag metadata.blocks metadata.blocks.length := by
  obtain ⟨found, final, held, _, whole, rfl⟩ := executeTagCommit_success done
  obtain rfl : metadata = found := by simpa [outcome.held] using held
  have kept : ∀ index state next, index < metadata.blocks.length →
      DeduplicatedUpTo md5 before fileTag metadata.blocks index state → True →
      deduplicateBlock reliable md5 fileTag index state = (0, next) → True := by
    simp
  exact (DeduplicatedUpTo.loop kept (DeduplicatedUpTo.initial before metadata.blocks) trivial
    (by simp) whole).1.hashIndex

variable (outcome : CommitOutcome md5 before fileTag metadata after)
  (consistent : before.Consistent)

include outcome consistent

theorem CommitOutcome.inode_commitTarget {index : Nat} (indexLt : index < metadata.blocks.length) :
    after.links.inode fileTag index =
      some (before.commitTarget md5 fileTag metadata.blocks index) := by
  rw [outcome.inode, consistent.inode_eq outcome.held indexLt]
  split
  · rfl
  · rename_i stays
    rw [not_and, not_and, not_not] at stays
    rw [stays rfl indexLt]

/-- A registered block keeps a link. -/
theorem CommitOutcome.linked_registered (sound : before.SoundIndex md5) {hash : Hash}
    {physical : Nat}
    (registered : before.registeredBefore md5 fileTag metadata.blocks metadata.blocks.length
      hash = some physical) : after.links.Linked physical := by
  obtain ⟨_, other, position, linked⟩ := sound.registered consistent outcome.held registered
  refine ⟨other, position, ?_⟩
  rw [outcome.inode, linked]
  split
  · rename_i moved
    obtain ⟨rfl, _, _⟩ := moved
    rw [sound.commitTarget_eq consistent outcome.held registered linked]
  · rfl

end Committed

/-- The block behind a logical block is the one that the new index names for its bytes. -/
theorem CommitOutcome.hashIndexEntry_eq {metadata : FileMetadata}
    (outcome : CommitOutcome md5 before fileTag metadata after)
    (consistent : before.Consistent) (sound : before.SoundIndex md5)
    (hashIndexEq : after.hashIndex =
      before.registeredBefore md5 fileTag metadata.blocks metadata.blocks.length)
    {index : Nat} {bytes : Block config.blockSize}
    (read : after.logicalContent fileTag index = some bytes) :
    ∃ physical, after.links.inode fileTag index = some physical ∧
      after.hashIndexEntry (md5 bytes) = some (blockName physical) := by
  have held := outcome.held
  have indexLt : index < metadata.blocks.length := by
    by_contra outside
    have missing : after.links.inode fileTag index = none := by
      rw [outcome.inode, if_neg (by simp [outside]), consistent.inode,
        blocksOf_of_metadata held, List.getElem?_eq_none (by omega)]
    simp [Disk.logicalContent, missing] at read
  have linked := outcome.inode_commitTarget consistent indexLt
  have registered := registeredBefore_logicalHash indexLt
    (consistent.logicalHash_eq md5 held indexLt)
  have hashEq := (sound.registered consistent held registered).1
  have bytesEq : before.content (before.commitTarget md5 fileTag metadata.blocks index) =
      bytes := by
    simpa [Disk.logicalContent, linked, outcome.content] using read
  refine ⟨_, linked, ?_⟩
  rw [hashIndexEntry, hashIndexEq, ← bytesEq, hashEq, registered]
  rfl

/-- The loop of `deduplicate_blocks` on the names of the blocks goes through, and it leaves the
disk, the entries of the hash index and the `BLOCKS` of the committed File:Tag. -/
def CommittedByNames (md5 : Block config.blockSize → Hash) (before after : Disk config Hash)
    (fileTag : FileTag) : Prop :=
  ∃ metadata final, before.metadata fileTag = some metadata ∧
    deduplicateLoopNamed reliable md5 fileTag 0 metadata.blocks.length
      ⟨before, before.hashIndexEntry, metadata.blocks⟩ = (0, final) ∧
    after.hashIndexEntry = final.hashIndex ∧
    after = ({ final.disk with hashIndex := after.hashIndex } :
      Disk config Hash).setMetadata fileTag
        { metadata with blocks := final.blocks, state := .committed }

theorem committedByNames_of_success
    (done : executeTagCommit reliable md5 before fileTag = (0, after)) :
    CommittedByNames md5 before after fileTag := by
  obtain ⟨metadata, final, held, _, whole, rfl⟩ := executeTagCommit_success done
  have named := deduplicateLoopNamed_named reliable md5 fileTag 0 metadata.blocks.length
    ⟨before, before.hashIndex, metadata.blocks⟩
  rw [whole] at named
  exact ⟨metadata, final.named, held, named, rfl, rfl⟩

/-- A COMMIT on a sound index without collisions changes no read, keeps the links, the bitmap
and the index sound, and links every logical block of the File:Tag to the block that the index
names for its bytes.  Comparing names and freeing the numbers read in them comes to the same. -/
theorem executeTagCommit_sound (consistent : before.Consistent) (bitmapTrue : before.BitmapTrue)
    (sound : before.SoundIndex md5) (noCollisions : (before.Compared fileTag).InjOn md5)
    (done : executeTagCommit reliable md5 before fileTag = (0, after)) :
    SameReads before after ∧
      (after.Consistent ∧ after.BitmapTrue ∧ after.SoundIndex md5) ∧
      (∀ metadata, after.metadata fileTag = some metadata →
        ∀ index < metadata.blocks.length, ∃ physical,
          after.links.inode fileTag index = some physical ∧
          after.hashIndexEntry (md5 (after.content physical)) = some (blockName physical)) ∧
      (∀ first second bytes, after.logicalContent fileTag first = some bytes →
        after.logicalContent fileTag second = some bytes →
          after.links.inode fileTag first = after.links.inode fileTag second) ∧
      (∀ physical, ¬ after.links.Linked physical → after.bitmap physical = false) ∧
      CommittedByNames md5 before after fileTag := by
  obtain ⟨metadata, outcome⟩ := executeTagCommit_outcome done
  have held := outcome.held
  have hashIndexEq := outcome.hashIndex done
  have consistentAfter := consistent.executeTagCommit done
  have bitmapAfter := bitmapTrue.executeTagCommit consistent
    (sound.keepsBitmapTrue consistent held) done
  have indexed : ∀ index bytes, after.logicalContent fileTag index = some bytes →
      ∃ physical, after.links.inode fileTag index = some physical ∧
        after.hashIndexEntry (md5 bytes) = some (blockName physical) :=
    fun _ _ => outcome.hashIndexEntry_eq consistent sound hashIndexEq
  refine ⟨outcome.sameReads (sound.targetsHoldBytes consistent held noCollisions),
    ⟨consistentAfter, bitmapAfter, ?_⟩, ?_, ?_, ?_, committedByNames_of_success done⟩
  · rw [soundIndex_iff, hashIndexEq, outcome.content]
    intro hash physical registered
    exact ⟨(sound.registered consistent held registered).1,
      outcome.linked_registered consistent sound registered⟩
  · intro metadataAfter heldAfter index indexLt
    obtain ⟨physical, linked, entry⟩ :=
      indexed index _ (consistentAfter.logicalContent_eq heldAfter indexLt)
    have listed := consistentAfter.inode_eq heldAfter indexLt
    obtain rfl := Option.some.inj (listed.symm.trans linked)
    exact ⟨_, linked, entry⟩
  · intro first second bytes firstRead secondRead
    obtain ⟨firstBlock, firstLinked, firstEntry⟩ := indexed first bytes firstRead
    obtain ⟨secondBlock, secondLinked, secondEntry⟩ := indexed second bytes secondRead
    have sameName := Option.some.inj (firstEntry.symm.trans secondEntry)
    rw [firstLinked, secondLinked, blockName_inj.mp sameName]
  · intro physical unlinked
    exact Bool.eq_false_iff.mpr fun marked => unlinked ((bitmapAfter physical).mp marked)

/-- Both blocks of `a:T` hold `A`. -/
def twinDisk : Disk fourByteConfig String :=
  sampleDisk [.createFile fileA, .truncateFile fileA 2, .executeBlockWrite fileA 0 [65],
    .executeBlockWrite fileA 1 [65]]

theorem executeTagCommit_sound_of_twins :
    twinDisk.links.inode fileA 0 ≠ twinDisk.links.inode fileA 1 ∧
      (executeTagCommit reliable oneByteMd5 twinDisk fileA).2.links.inode fileA 0 =
        (executeTagCommit reliable oneByteMd5 twinDisk fileA).2.links.inode fileA 1 := by
  have consistent : twinDisk.Consistent := by
    apply consistent_executeAll consistent_initStorage
    exact ⟨by decide +kernel, by decide +kernel, by decide +kernel, by decide +kernel, trivial⟩
  have bitmapTrue : twinDisk.BitmapTrue := by
    apply bitmapTrue_executeAll consistent_initStorage bitmapTrue_initStorage
    refine ⟨⟨by decide +kernel, by simp, by simp⟩, ⟨by decide +kernel, ?_, by simp⟩,
      ⟨by decide +kernel, by simp, by simp⟩, ⟨by decide +kernel, by simp, by simp⟩, trivial⟩
    intro _ _ _ _ _ _
    decide +kernel
  have unregistered : ∀ hash, twinDisk.hashIndex hash = none := by
    intro hash
    rfl
  have sound : twinDisk.SoundIndex oneByteMd5 := by
    rw [soundIndex_iff]
    simp [unregistered]
  have noCollisions : (twinDisk.Compared fileA).InjOn oneByteMd5 := by
    have onlyA : ∀ bytes ∈ twinDisk.Compared fileA, bytes = paddedBlock 1 [65] := by
      rintro bytes (⟨index, read⟩ | ⟨hash, physical, registered, _⟩)
      · match index with
        | 0 => exact Option.some.inj (read.symm.trans (by decide +kernel))
        | 1 => exact Option.some.inj (read.symm.trans (by decide +kernel))
        | index + 2 =>
          have missing : twinDisk.links.inode fileA (index + 2) = none := by
            rw [consistent.inode]
            rfl
          simp [logicalContent, missing] at read
      · simp [unregistered] at registered
    intro first firstMem second secondMem _
    rw [onlyA first firstMem, onlyA second secondMem]
  have done : executeTagCommit reliable oneByteMd5 twinDisk fileA =
      (0, (executeTagCommit reliable oneByteMd5 twinDisk fileA).2) :=
    eq_of_code (by decide +kernel)
  obtain ⟨_, _, _, shared, _⟩ :=
    executeTagCommit_sound consistent bitmapTrue sound noCollisions done
  refine ⟨by decide +kernel, shared 0 1 (paddedBlock 1 [65]) (by decide +kernel)
    (by decide +kernel)⟩

end Disk

end Storage

end MasterOfFiles
