import MasterOfFiles.StorageSoundIndex

/-!
# Committed bytes are stored once

As long as no request invalidates an entry of the hash index, every logical block that a COMMIT
has gone through is the physical block that the index names for its bytes.  So two committed
logical blocks with the same bytes are one physical block, whatever File:Tags they belong to.
-/

namespace MasterOfFiles

namespace Storage

variable {config : StorageConfig} {Hash : Type}

/-- The logical blocks whose names a request removes for good. -/
def Request.Drops (config : StorageConfig) : Request → FileTag → Nat → Prop
  | .deleteTag target, fileTag, _ => fileTag = target
  | .truncateFile target newSizeBytes, fileTag, index =>
    fileTag = target ∧ newBlockCount config newSizeBytes ≤ index
  | _, _, _ => False

/-- The request overwrites no block that the hash index names and leaves each of them a link,
truncates no committed File:Tag, and grows a File:Tag only while bit 0 is set. -/
structure KeepsIndex (disk : Disk config Hash) (request : Request) : Prop where
  written : ∀ hash physical, disk.hashIndex hash = some physical →
    ¬ request.Writes disk physical
  linked : ∀ hash physical, disk.hashIndex hash = some physical → ∃ fileTag index,
    disk.links.inode fileTag index = some physical ∧ ¬ request.Drops config fileTag index
  truncated : ∀ fileTag newSizeBytes metadata, request = .truncateFile fileTag newSizeBytes →
    disk.metadata fileTag = some metadata → metadata.state = .workInProgress
  growth : ∀ fileTag newSizeBytes metadata, request = .truncateFile fileTag newSizeBytes →
    disk.metadata fileTag = some metadata →
      (metadata.blocks.length : Int) < newBlockCount config newSizeBytes →
        disk.bitmap 0 = true

namespace Disk

/-- The File:Tags that a COMMIT has gone through. -/
def CommittedTag (disk : Disk config Hash) (fileTag : FileTag) : Prop :=
  fileTag ≠ initialFileBase ∧ ∃ metadata, disk.metadata fileTag = some metadata ∧
    metadata.state = .committed

/-- Every block of a committed File:Tag is the one that the index names for its bytes. -/
def Registered (md5 : Block config.blockSize → Hash) (disk : Disk config Hash) : Prop :=
  ∀ fileTag, disk.CommittedTag fileTag → ∀ index physical,
    disk.links.inode fileTag index = some physical →
      disk.hashIndex (md5 (disk.content physical)) = some physical

structure StoredOnce (md5 : Block config.blockSize → Hash) (disk : Disk config Hash) :
    Prop where
  consistent : disk.Consistent
  bitmapTrue : disk.BitmapTrue
  sound : disk.SoundIndex md5
  registered : disk.Registered md5

variable {md5 : Block config.blockSize → Hash} {before after : Disk config Hash}
  {fileTag : FileTag}

theorem storedOnce_initStorage : (initStorage config Hash).StoredOnce md5 where
  consistent := consistent_initStorage
  bitmapTrue := bitmapTrue_initStorage
  sound := soundIndex_iff.mpr (by simp [initStorage])
  registered := by
    rintro fileTag ⟨notInitial, metadata, held, _⟩
    simp [initStorage, notInitial] at held

section Frames

variable [DecidableEq Hash] {request : Request}

theorem execute_hashIndex (done : before.execute reliable md5 request = (0, after))
    (notCommit : ∀ fileTag, request ≠ .executeTagCommit fileTag) :
    after.hashIndex = before.hashIndex := by
  cases request with
  | createFile fileTag =>
      obtain ⟨_, rfl⟩ := createFile_success done
      rfl
  | truncateFile fileTag newSizeBytes =>
      obtain ⟨metadata, _, ⟨_, rfl⟩ | ⟨newCount, _, _, rfl⟩ | ⟨extra, grown, _, _, linked, rfl⟩⟩ :=
        truncateFile_success done
      · rfl
      · exact (deleteSurplusBlocks_linksOnly ..).hashIndex
      · have only := linkZeroBlocks_linksOnly before fileTag metadata.blocks.length extra
        rw [linked] at only
        exact only.hashIndex
  | createTag source target =>
      obtain ⟨_, _, _, rfl⟩ := createTag_success done
      rfl
  | executeBlockWrite fileTag blockNumber blockData =>
      obtain ⟨_, _, _, _, _, ⟨_, rfl⟩ | ⟨_, _, _, _, rfl⟩⟩ := executeBlockWrite_success done
      · rfl
      · rfl
  | executeBlockRead fileTag blockNumber =>
      have unchanged := execute_executeBlockRead md5 before reliable fileTag blockNumber
      rw [done] at unchanged
      rw [show after = before from unchanged]
  | executeTagCommit fileTag => exact absurd rfl (notCommit fileTag)
  | deleteTag fileTag =>
      obtain ⟨metadata, _, _, rfl⟩ := deleteTag_success done
      exact (deleteSurplusBlocks_linksOnly ..).hashIndex

/-- A request other than COMMIT keeps every link of its target that it does not drop or
move. -/
theorem Consistent.execute_inode (consistent : before.Consistent)
    (done : before.execute reliable md5 request = (0, after))
    (notCommit : ∀ fileTag, request ≠ .executeTagCommit fileTag) {index physical : Nat}
    (linked : before.links.inode fileTag index = some physical)
    (kept : ¬ request.Drops config fileTag index) :
    after.links.inode fileTag index = some physical ∨
      1 < before.links.linkCount physical ∧ ∃ blockNumber blockData,
        request = .executeBlockWrite fileTag blockNumber blockData ∧
          index = blockNumber.toNat := by
  by_cases elsewhere : fileTag = request.target
  · cases request with
    | createFile target =>
        obtain rfl : fileTag = target := elsewhere
        obtain ⟨_, rfl⟩ := createFile_success done
        exact Or.inl linked
    | truncateFile target newSizeBytes =>
        obtain rfl : fileTag = target := elsewhere
        obtain ⟨metadata, held, outcome⟩ := truncateFile_success done
        have listed := consistent.inode fileTag
        simp only [blocksOf_of_metadata held] at listed
        have indexLt : index < metadata.blocks.length := by
          rw [listed] at linked
          exact (List.getElem?_eq_some_iff.mp linked).1
        left
        have consistentAfter := consistent.truncateFile done
        rw [consistentAfter.inode]
        rw [listed] at linked
        rcases outcome with ⟨_, rfl⟩ | ⟨newCount, countEq, _, rfl⟩ | ⟨extra, grown, _, _, _, rfl⟩
        · simpa [blocksOf, setMetadata] using linked
        · have inside : index < newCount := by
            by_contra outside
            exact kept ⟨rfl, by omega⟩
          simpa [blocksOf, setMetadata, List.getElem?_take, inside] using linked
        · simpa [blocksOf, setMetadata, List.getElem?_append_left indexLt] using linked
    | createTag source target =>
        obtain rfl : fileTag = target := elsewhere
        obtain ⟨_, _, missing, rfl⟩ := createTag_success done
        rw [consistent.inode, blocksOf_of_missing missing] at linked
        cases linked
    | executeBlockWrite target blockNumber blockData =>
        obtain rfl : fileTag = target := elsewhere
        obtain ⟨metadata, shared, _, _, here, outcome⟩ := executeBlockWrite_success done
        rcases outcome with ⟨_, rfl⟩ | ⟨several, free, _, _, rfl⟩
        · exact Or.inl linked
        · by_cases same : index = blockNumber.toNat
          · subst same
            obtain rfl := Option.some.inj (linked.symm.trans here)
            exact Or.inr ⟨several, blockNumber, blockData, rfl, rfl⟩
          · left
            simpa [setMetadata, same] using linked
    | executeBlockRead target blockNumber =>
        have unchanged := execute_executeBlockRead md5 before reliable target blockNumber
        rw [done] at unchanged
        rw [show after = before from unchanged]
        exact Or.inl linked
    | executeTagCommit target => exact absurd rfl (notCommit target)
    | deleteTag target => exact absurd elsewhere kept
  · left
    have touches := execute_touches md5 before request
    rw [done] at touches
    rw [touches.inode fileTag elsewhere]
    exact linked

theorem StoredOnce.content_registered (keeps : KeepsIndex before request)
    (done : before.execute reliable md5 request = (0, after)) {hash : Hash} {physical : Nat}
    (entry : before.hashIndex hash = some physical) :
    after.content physical = before.content physical := by
  have touches := execute_touches md5 before request
  rw [done] at touches
  exact touches.content physical (keeps.written hash physical entry)

theorem StoredOnce.soundIndex (stored : before.StoredOnce md5) (keeps : KeepsIndex before request)
    (done : before.execute reliable md5 request = (0, after))
    (notCommit : ∀ fileTag, request ≠ .executeTagCommit fileTag) : after.SoundIndex md5 := by
  rw [soundIndex_iff, execute_hashIndex done notCommit]
  intro hash physical entry
  rw [StoredOnce.content_registered keeps done entry]
  refine ⟨(soundIndex_iff.mp stored.sound hash physical entry).1, ?_⟩
  obtain ⟨fileTag, index, linked, kept⟩ := keeps.linked hash physical entry
  rcases stored.consistent.execute_inode done notCommit linked kept with
    stays | ⟨several, blockNumber, blockData, rfl, rfl⟩
  · exact ⟨fileTag, index, stays⟩
  · obtain ⟨other, position, different, otherLinked⟩ :=
      LinkTable.exists_other_name_of_one_lt_linkCount several fileTag blockNumber.toNat
    rcases stored.consistent.execute_inode done notCommit otherLinked (fun drops => drops) with
      stays | ⟨_, otherNumber, otherData, sameRequest, rfl⟩
    · exact ⟨other, position, stays⟩
    · obtain ⟨rfl, rfl, _⟩ := Request.executeBlockWrite.inj sameRequest
      exact absurd rfl different

/-- Such a request commits nothing: a File:Tag that is committed afterwards was so before, and
the request was not aimed at it. -/
theorem committedTag_before (committed : after.CommittedTag fileTag)
    (keeps : KeepsIndex before request)
    (done : before.execute reliable md5 request = (0, after))
    (notCommit : ∀ fileTag, request ≠ .executeTagCommit fileTag) :
    before.CommittedTag fileTag ∧ ∀ index,
      after.links.inode fileTag index = before.links.inode fileTag index := by
  obtain ⟨notInitial, metadata, held, state⟩ := committed
  have touches := execute_touches md5 before request
  rw [done] at touches
  by_cases elsewhere : fileTag = request.target
  · cases request with
    | createFile target =>
        obtain rfl : fileTag = target := elsewhere
        obtain ⟨_, rfl⟩ := createFile_success done
        simp only [setMetadata, Function.update_self, Option.some.injEq] at held
        simp [← held, defaultMetadata] at state
    | truncateFile target newSizeBytes =>
        obtain rfl : fileTag = target := elsewhere
        obtain ⟨old, oldHeld, outcome⟩ := truncateFile_success done
        have inProgress := keeps.truncated fileTag newSizeBytes old rfl oldHeld
        rcases outcome with ⟨_, rfl⟩ | ⟨_, _, _, rfl⟩ | ⟨_, _, _, _, _, rfl⟩
        all_goals
          simp only [setMetadata, Function.update_self, Option.some.injEq] at held
          simp [← held, inProgress] at state
    | createTag source target =>
        obtain rfl : fileTag = target := elsewhere
        obtain ⟨_, _, _, rfl⟩ := createTag_success done
        simp only [setMetadata, Function.update_self, Option.some.injEq] at held
        simp [← held] at state
    | executeBlockWrite target blockNumber blockData =>
        obtain rfl : fileTag = target := elsewhere
        obtain ⟨old, _, oldHeld, inProgress, _, outcome⟩ := executeBlockWrite_success done
        rcases outcome with ⟨_, rfl⟩ | ⟨_, _, _, _, rfl⟩
        · obtain rfl := Option.some.inj (oldHeld.symm.trans held)
          simp [inProgress] at state
        · simp only [setMetadata, Function.update_self, Option.some.injEq] at held
          simp [← held, inProgress] at state
    | executeBlockRead target blockNumber =>
        have unchanged := execute_executeBlockRead md5 before reliable target blockNumber
        rw [done] at unchanged
        obtain rfl : after = before := unchanged
        exact ⟨⟨notInitial, metadata, held, state⟩, fun _ => rfl⟩
    | executeTagCommit target => exact absurd rfl (notCommit target)
    | deleteTag target =>
        obtain rfl : fileTag = target := elsewhere
        obtain ⟨_, _, _, rfl⟩ := deleteTag_success done
        simp [removeDirectories] at held
  · rw [touches.metadata fileTag elsewhere] at held
    exact ⟨⟨notInitial, metadata, held, state⟩, touches.inode fileTag elsewhere⟩

theorem StoredOnce.registered_after (stored : before.StoredOnce md5)
    (keeps : KeepsIndex before request)
    (done : before.execute reliable md5 request = (0, after))
    (notCommit : ∀ fileTag, request ≠ .executeTagCommit fileTag) : after.Registered md5 := by
  intro fileTag committed index physical linked
  obtain ⟨wasCommitted, inodeEq⟩ := committedTag_before committed keeps done notCommit
  rw [inodeEq] at linked
  have entry := stored.registered fileTag wasCommitted index physical linked
  rw [execute_hashIndex done notCommit, StoredOnce.content_registered keeps done entry]
  exact entry

theorem StoredOnce.executeTagCommit (stored : before.StoredOnce md5)
    (done : Disk.executeTagCommit reliable md5 before fileTag = (0, after)) :
    after.StoredOnce md5 := by
  obtain ⟨consistent, bitmapTrue, sound, registered⟩ := stored
  obtain ⟨metadata, outcome⟩ := executeTagCommit_outcome done
  have hashIndexEq := outcome.hashIndex done
  refine ⟨consistent.executeTagCommit done, bitmapTrue.executeTagCommit consistent
    (sound.keepsBitmapTrue consistent outcome.held) done, ?_, ?_⟩
  · rw [soundIndex_iff, hashIndexEq, outcome.content]
    intro hash physical entry
    exact ⟨(sound.registered consistent outcome.held entry).1,
      outcome.linked_registered consistent sound entry⟩
  · rintro other ⟨notInitial, found, held, state⟩ index physical linked
    by_cases same : other = fileTag
    · subst same
      have read : after.logicalContent other index = some (after.content physical) := by
        simp [logicalContent, linked]
      obtain ⟨target, targetLinked, entry⟩ :=
        outcome.hashIndexEntry_eq consistent sound hashIndexEq read
      obtain rfl := Option.some.inj (linked.symm.trans targetLinked)
      obtain ⟨named, namedEntry, sameName⟩ := Option.map_eq_some_iff.mp entry
      rw [namedEntry, blockName_inj.mp sameName]
    · have touches := execute_touches md5 before (.executeTagCommit fileTag)
      rw [execute, done] at touches
      rw [touches.inode other same] at linked
      rw [touches.metadata other same] at held
      have entry := registered other ⟨notInitial, found, held, state⟩ index physical linked
      rw [hashIndexEq, outcome.content]
      exact registeredBefore_mono (Nat.zero_le _) (by simpa [registeredBefore] using entry)

theorem StoredOnce.execute (stored : before.StoredOnce md5) (keeps : KeepsIndex before request)
    (done : before.execute reliable md5 request = (0, after)) : after.StoredOnce md5 := by
  by_cases commits : ∃ fileTag, request = .executeTagCommit fileTag
  · obtain ⟨fileTag, rfl⟩ := commits
    exact stored.executeTagCommit done
  · have notCommit : ∀ fileTag, request ≠ .executeTagCommit fileTag :=
      fun fileTag same => commits ⟨fileTag, same⟩
    have keepsBitmap : KeepsBitmapTrue md5 before request :=
      ⟨keeps.growth, fun fileTag _ _ same => absurd same (notCommit fileTag)⟩
    exact ⟨stored.consistent.execute done,
      stored.bitmapTrue.execute stored.consistent keepsBitmap done,
      stored.soundIndex keeps done notCommit, stored.registered_after keeps done notCommit⟩

end Frames

end Disk

section Runs

variable [DecidableEq Hash] {md5 : Block config.blockSize → Hash}

/-- A request that returns zero or leaves the disk as it was, and keeps the index. -/
def KeepsSharing (md5 : Block config.blockSize → Hash) (disk : Disk config Hash)
    (request : Request) : Prop :=
  (Succeeds md5 disk request ∨ Rejected md5 disk request) ∧ KeepsIndex disk request

theorem storedOnce_of_reachable {disk : Disk config Hash}
    (reachable : ((storageSystem md5).guarded (KeepsSharing md5)).Reachable disk) :
    disk.StoredOnce md5 := by
  refine reachable.invariant ?_ ?_
  · rintro _ rfl
    exact Disk.storedOnce_initStorage
  · rintro before request _ stored ⟨⟨succeeds | rejected, keeps⟩, rfl⟩
    · exact stored.execute keeps (Disk.eq_of_code succeeds)
    · rwa [show (before.execute reliable md5 request).2 = before from rejected]

/-- Along every run of requests that keep the index, the physical block behind each logical
block of a committed File:Tag is a function of its bytes, and committed bytes are stored once. -/
theorem committed_bytes_stored_once {disk : Disk config Hash}
    (reachable : ((storageSystem md5).guarded (KeepsSharing md5)).Reachable disk) :
    (∀ fileTag, disk.CommittedTag fileTag → ∀ index, disk.links.inode fileTag index =
        (disk.logicalContent fileTag index).bind fun bytes => disk.hashIndex (md5 bytes)) ∧
      Set.InjOn disk.content {physical | ∃ fileTag index, disk.CommittedTag fileTag ∧
        disk.links.inode fileTag index = some physical} := by
  have registered := (storedOnce_of_reachable reachable).registered
  refine ⟨fun fileTag committed index => ?_, ?_⟩
  · cases linked : disk.links.inode fileTag index with
    | none => simp [Disk.logicalContent, linked]
    | some physical =>
        simp [Disk.logicalContent, linked, registered fileTag committed index physical linked]
  · rintro first ⟨fileTag, index, committed, linked⟩ second
      ⟨other, position, otherCommitted, otherLinked⟩ sameBytes
    have entry := registered fileTag committed index first linked
    rw [sameBytes, registered other otherCommitted position second otherLinked] at entry
    exact (Option.some.inj entry).symm

/-- The target of the request is not committed, and bit 0 is set. -/
def TargetOpen (disk : Disk config Hash) (request : Request) : Bool :=
  disk.bitmap 0 && (disk.metadata request.target).all fun metadata =>
    decide (metadata.state = .workInProgress)

omit [DecidableEq Hash] in
theorem state_of_targetOpen {disk : Disk config Hash} {request : Request}
    (targetOpen : TargetOpen disk request = true) {metadata : FileMetadata}
    (held : disk.metadata request.target = some metadata) :
    metadata.state = .workInProgress := by
  simpa [TargetOpen, held] using (Bool.and_eq_true_iff.mp targetOpen).2

omit [DecidableEq Hash] in
theorem keepsIndex_of_empty {disk : Disk config Hash} {request : Request}
    (empty : disk.hashIndex = fun _ => none) (targetOpen : TargetOpen disk request = true) :
    KeepsIndex disk request where
  written hash physical entry := by simp [empty] at entry
  linked hash physical entry := by simp [empty] at entry
  truncated fileTag newSizeBytes metadata same held := by
    subst same
    exact state_of_targetOpen targetOpen held
  growth _ _ _ _ _ _ := (Bool.and_eq_true_iff.mp targetOpen).1

theorem keepsIndex_of_single {disk : Disk config Hash} {request : Request} {hash : Hash}
    {physical : Nat}
    (single : disk.hashIndex = Function.update (fun _ => none) hash (some physical))
    (targetOpen : TargetOpen disk request = true)
    (linked : disk.links.inode fileA 0 = some physical) (elsewhere : request.target ≠ fileA)
    (written : ¬ request.Writes disk physical) : KeepsIndex disk request := by
  have only : ∀ other found, disk.hashIndex other = some found → found = physical := by
    intro other found entry
    by_cases same : other = hash <;> simp_all
  have kept : ¬ request.Drops config fileA 0 := by
    intro drops
    cases request with
    | truncateFile target newSizeBytes => exact elsewhere drops.1.symm
    | deleteTag target => exact elsewhere (Eq.symm drops)
    | _ => exact drops
  refine ⟨fun other found entry => ?_, fun other found entry => ?_, ?_, ?_⟩
  · rwa [only other found entry]
  · rw [only other found entry]
    exact ⟨fileA, 0, linked, kept⟩
  · intro fileTag newSizeBytes metadata same held
    subst same
    exact state_of_targetOpen targetOpen held
  · exact fun _ _ _ _ _ _ => (Bool.and_eq_true_iff.mp targetOpen).1

theorem storedTwice_keepsSharing : Disk.AllMeet oneByteMd5 (KeepsSharing oneByteMd5)
    (initStorage fourByteConfig String) storedTwice := by
  refine ⟨⟨Or.inl (by decide +kernel), keepsIndex_of_empty rfl (by decide +kernel)⟩,
    ⟨Or.inl (by decide +kernel), keepsIndex_of_empty rfl (by decide +kernel)⟩,
    ⟨Or.inl (by decide +kernel), keepsIndex_of_empty rfl (by decide +kernel)⟩,
    ⟨Or.inl (by decide +kernel), keepsIndex_of_empty rfl (by decide +kernel)⟩,
    ⟨Or.inl (by decide +kernel), keepsIndex_of_single rfl (by decide +kernel)
      (by decide +kernel) (by decide) id⟩,
    ⟨Or.inl (by decide +kernel), keepsIndex_of_single rfl (by decide +kernel)
      (by decide +kernel) (by decide) id⟩,
    ⟨Or.inl (by decide +kernel), keepsIndex_of_single rfl (by decide +kernel)
      (by decide +kernel) (by decide) ?_⟩,
    ⟨Or.inl (by decide +kernel), keepsIndex_of_single rfl (by decide +kernel)
      (by decide +kernel) (by decide) id⟩, trivial⟩
  have block : (sampleDisk (storedTwice.take 6)).links.inode fileB 0 = some 0 := by
    decide +kernel
  have free : (sampleDisk (storedTwice.take 6)).getFreeBitIndex = some 2 := by
    decide +kernel
  rintro ⟨current, linked, ⟨_, same⟩ | ⟨_, found⟩⟩
  · obtain rfl := Option.some.inj (block.symm.trans linked)
    cases same
  · cases free.symm.trans found

theorem storedTwice_shares :
    (sampleDisk storedTwice).links.inode fileA 0 =
      (sampleDisk storedTwice).links.inode fileB 0 := by
  have reachable : ((storageSystem oneByteMd5).guarded (KeepsSharing oneByteMd5)).Reachable
      (sampleDisk storedTwice) :=
    ⟨_, _, rfl, run_of_allMeet storedTwice_keepsSharing⟩
  have byBytes := (committed_bytes_stored_once reachable).1
  have first : (sampleDisk storedTwice).CommittedTag fileA :=
    ⟨by decide, ⟨1, [1], .committed⟩, by decide +kernel, rfl⟩
  have second : (sampleDisk storedTwice).CommittedTag fileB :=
    ⟨by decide, ⟨1, [1], .committed⟩, by decide +kernel, rfl⟩
  have sameBytes : (sampleDisk storedTwice).logicalContent fileA 0 =
      (sampleDisk storedTwice).logicalContent fileB 0 := by
    decide +kernel
  rw [byBytes fileA first 0, byBytes fileB second 0, sameBytes]

end Runs

end Storage

end MasterOfFiles
