import MasterOfFiles.StorageRequests

/-!
# What a failed block write leaves behind

`execute_block_write` drops the link of a shared block before it has another one, and nothing is
undone when a later call fails.  `Reaches` says when a write gets past its checks; from there on
the operation is one equation for a block of its own and one for a shared block.
-/

namespace MasterOfFiles

namespace Storage

variable {config : StorageConfig} {Hash : Type}

/-- The bytes of a block after the first `stored` bytes of `new` were written over `old`. -/
def tornBlock {size : Nat} (stored : Nat) (old new : Block size) : Block size :=
  Vector.ofFn fun position =>
    if position.val < stored then new.get position else old.get position

namespace Disk

section Definitions

/-- The bytes that an `fwrite` has stored before it failed. -/
def tearBlock (disk : Disk config Hash) (stored : Nat) (fileTag : FileTag) (index : Nat)
    (blockData : List UInt8) : Disk config Hash :=
  match disk.links.inode fileTag index with
  | none => disk
  | some physical =>
    { disk with
      content := Function.update disk.content physical
        (tornBlock stored (disk.content physical) (paddedBlock config.blockSize blockData)) }

/-- `execute_block_write` where the `fwrite` of the block, when it fails, fails after `stored`
bytes; no other call that can fail writes to a block. -/
def executeBlockWriteTorn (host : Host) (stored : Nat) (disk : Disk config Hash)
    (fileTag : FileTag) (blockNumber : UInt32) (blockData : List UInt8) :
    Int × Disk config Hash :=
  match disk.executeBlockWrite host fileTag blockNumber blockData with
  | (-7, failed) => (-7, failed.tearBlock stored fileTag blockNumber.toNat blockData)
  | result => result

/-- The metadata, the links, the bytes of the blocks and the bitmap are the same. -/
structure SameFiles (before after : Disk config Hash) : Prop where
  metadata : after.metadata = before.metadata
  inode : after.links.inode = before.links.inode
  content : after.content = before.content
  bitmap : after.bitmap = before.bitmap

theorem SameFiles.refl (disk : Disk config Hash) : SameFiles disk disk :=
  ⟨rfl, rfl, rfl, rfl⟩

/-- A write passes every check and finds the physical block behind its logical block. -/
structure Reaches (host : Host) (disk : Disk config Hash) (fileTag : FileTag)
    (blockNumber : UInt32) (metadata : FileMetadata) (physical : Nat) : Prop where
  exists_ : disk.fileDirExists host fileTag = true
  held : disk.readFileMetadata host fileTag = some metadata
  uncommitted : metadata.state ≠ .committed
  inside : blockNumberAsInt blockNumber < metadata.blocks.length
  stat : host (.statLogical blockNumber.toNat) = false
  linked : disk.links.inode fileTag blockNumber.toNat = some physical

/-- After the `remove` of a shared block, another block is found, reserved and linked. -/
structure FindsBlock (host : Host) (disk : Disk config Hash) (index : Nat) : Prop where
  loadBitmap : host (.loadBitmap index) = false
  free : ∃ free < config.totalBlocks, disk.getFreeBitIndex = some free
  storeBitmap : host (.storeBitmap index) = false
  linkLogical : host (.linkLogical index) = false

end Definitions

section Equations

variable {host : Host} {disk : Disk config Hash} {fileTag : FileTag} {blockNumber : UInt32}
  {metadata : FileMetadata} {physical : Nat}

theorem reaches_unique {other : FileMetadata} {block : Nat}
    (reaches : Reaches host disk fileTag blockNumber metadata physical)
    (again : Reaches host disk fileTag blockNumber other block) :
    other = metadata ∧ block = physical :=
  ⟨Option.some.inj (again.held.symm.trans reaches.held),
    Option.some.inj (again.linked.symm.trans reaches.linked)⟩

/-- A write that does not get past its checks fails and changes nothing. -/
theorem executeBlockWrite_of_not_reaches
    (never : ∀ metadata physical, ¬ Reaches host disk fileTag blockNumber metadata physical)
    (blockData : List UInt8) :
    ∃ code : Int, code ≠ 0 ∧ code ≠ -7 ∧
      disk.executeBlockWrite host fileTag blockNumber blockData = (code, disk) := by
  unfold executeBlockWrite
  split
  · exact ⟨fileTagMissing, by decide, by decide, rfl⟩
  · rename_i present
    split
    · exact ⟨fileTagMissing, by decide, by decide, rfl⟩
    · rename_i metadata held
      split
      · exact ⟨fileAlreadyCommitted, by decide, by decide, rfl⟩
      · rename_i uncommitted
        split
        · exact ⟨readOutOfBounds, by decide, by decide, rfl⟩
        · rename_i inside
          have missing : disk.phBlockLinks host fileTag blockNumber.toNat = none := by
            unfold phBlockLinks
            split
            · rfl
            · rename_i stat
              rw [Option.map_eq_none_iff]
              by_contra found
              obtain ⟨physical, linked⟩ := Option.ne_none_iff_exists'.mp found
              exact never metadata physical ⟨by simpa using present, held, uncommitted,
                by simpa using inside, by simpa using stat, linked⟩
          simp only [missing]
          exact ⟨-1, by decide, by decide, rfl⟩

theorem writeToLogicalBlock_of_linked {index : Nat}
    (linked : disk.links.inode fileTag index = some physical) (blockData : List UInt8) :
    disk.writeToLogicalBlock host fileTag index blockData =
      if host (.writeLogical index) then none
      else some { disk with
        content := Function.update disk.content physical
          (paddedBlock config.blockSize blockData) } := by
  rw [writeToLogicalBlock, linked]
  rfl

/-- A write to a block with one name only. -/
theorem executeBlockWrite_of_own
    (reaches : Reaches host disk fileTag blockNumber metadata physical)
    (own : disk.links.linkCount physical ≤ 1) (blockData : List UInt8) :
    disk.executeBlockWrite host fileTag blockNumber blockData =
      if host (.writeLogical blockNumber.toNat) then (-7, disk)
      else (0, { disk with
        content := Function.update disk.content physical
          (paddedBlock config.blockSize blockData) }) := by
  have notShared : ¬ 2 < disk.stNlink physical := by
    rw [stNlink]
    omega
  have inside : ¬ (metadata.blocks.length : Int) ≤ blockNumberAsInt blockNumber :=
    Int.not_le.mpr reaches.inside
  simp only [executeBlockWrite, reaches.exists_, reaches.held, reaches.uncommitted, inside,
    phBlockLinks, reaches.stat, reaches.linked, notShared, Bool.not_true, Bool.false_eq_true,
    if_false, Option.map_some, writeToLogicalBlock]
  split <;> rename_i found <;> split at found <;> simp_all

/-- A write to a shared block is the move to a free block and the write there. -/
theorem executeBlockWrite_of_shared
    (reaches : Reaches host disk fileTag blockNumber metadata physical)
    (shared : 1 < disk.links.linkCount physical) (blockData : List UInt8) :
    disk.executeBlockWrite host fileTag blockNumber blockData =
      match disk.moveToFreeBlock host fileTag metadata blockNumber.toNat with
      | (0, own) =>
        match own.writeToLogicalBlock host fileTag blockNumber.toNat blockData with
        | none => (-7, own)
        | some written => (0, written)
      | failed => failed := by
  have isShared : 2 < disk.stNlink physical := by
    rw [stNlink]
    omega
  have inside : ¬ (metadata.blocks.length : Int) ≤ blockNumberAsInt blockNumber :=
    Int.not_le.mpr reaches.inside
  have result := Eq.refl (disk.executeBlockWrite host fileTag blockNumber blockData)
  conv at result =>
    rhs
    simp only [executeBlockWrite, reaches.exists_, reaches.held, reaches.uncommitted, inside,
      phBlockLinks, reaches.stat, reaches.linked, isShared, Bool.not_true, Bool.false_eq_true,
      if_false, if_true, Option.map_some]
  exact result

theorem moveToFreeBlock_of_kept {index : Nat} (kept : host (.removeLogical index) = true) :
    disk.moveToFreeBlock host fileTag metadata index = (-2, disk) := by
  simp [moveToFreeBlock, removeLogicalBlock, kept]

theorem moveToFreeBlock_of_removed {index : Nat} (metadata : FileMetadata)
    (linked : disk.links.inode fileTag index = some physical)
    (removed : host (.removeLogical index) = false) :
    disk.moveToFreeBlock host fileTag metadata index =
      let removed := { disk with links := disk.links.unlink fileTag index }
      if host (.loadBitmap index) then (-3, removed)
      else
        match disk.getFreeBitIndex with
        | none => (notEnoughSpace, removed)
        | some physical =>
          if host (.storeBitmap index) then (-4, removed)
          else
            match (removed.setBit physical true).createNewHardlink host fileTag index
                physical with
            | none => (-5, removed.setBit physical true)
            | some linked =>
              (0, linked.saveFileMetadata host fileTag
                { metadata with blocks := metadata.blocks.set index physical }) := by
  simp only [moveToFreeBlock, removeLogicalBlock, removed, linked, Bool.false_eq_true, reduceCtorEq,
    or_self, if_false]
  rfl

/-- The bit that the search finds is in range of the bitmap, so only `link` can refuse it. -/
theorem createNewHardlink_of_found {free : Nat} (host : Host) (fileTag : FileTag) (index : Nat)
    (found : disk.getFreeBitIndex = some free) :
    (({ disk with links := disk.links.unlink fileTag index } : Disk config Hash).setBit free
        true).createNewHardlink host fileTag index free =
      if host (.linkLogical index) ∨ config.totalBlocks ≤ free then none
      else some (({ disk with
        links := (disk.links.unlink fileTag index).link fileTag index free } :
          Disk config Hash).setBit free true) := by
  have inBitmap : free < 8 * config.bitmapSizeBytes :=
    List.mem_range.mp (List.mem_of_find?_eq_some found)
  simp [createNewHardlink, Nat.not_le.mpr inBitmap, linkLogicalBlock, setBit]

/-- Without another block the logical block has lost its own. -/
theorem moveToFreeBlock_of_not_findsBlock {index : Nat} (metadata : FileMetadata)
    (linked : disk.links.inode fileTag index = some physical)
    (removed : host (.removeLogical index) = false) (lost : ¬ FindsBlock host disk index) :
    ∃ code failed, code ≠ 0 ∧ code ≠ -7 ∧ failed.links.inode fileTag index = none ∧
      disk.moveToFreeBlock host fileTag metadata index = (code, failed) := by
  rw [moveToFreeBlock_of_removed metadata linked removed]
  have gone : (disk.links.unlink fileTag index).inode fileTag index = none := by simp
  dsimp only
  split
  · exact ⟨-3, _, by decide, by decide, gone, rfl⟩
  · rename_i loads
    split
    · exact ⟨notEnoughSpace, _, by decide, by decide, gone, rfl⟩
    · rename_i free found
      split
      · exact ⟨-4, _, by decide, by decide, gone, rfl⟩
      · rename_i stores
        split
        · exact ⟨-5, _, by decide, by decide, gone, rfl⟩
        · rename_i relinked linking
          exfalso
          apply lost
          rw [createNewHardlink_of_found host fileTag index found] at linking
          split at linking
          · cases linking
          · rename_i accepted
            push Not at accepted
            exact ⟨by simpa using loads, ⟨free, accepted.2, found⟩, by simpa using stores,
              by simpa using accepted.1⟩

theorem moveToFreeBlock_of_findsBlock {index : Nat} (metadata : FileMetadata)
    (linked : disk.links.inode fileTag index = some physical)
    (removed : host (.removeLogical index) = false) (finds : FindsBlock host disk index) :
    ∃ free own, disk.getFreeBitIndex = some free ∧
      own.bitmap = Function.update disk.bitmap free true ∧
      own.links.inode fileTag index = some free ∧
        disk.moveToFreeBlock host fileTag metadata index = (0, own) := by
  obtain ⟨free, inside, found⟩ := finds.free
  have linking := createNewHardlink_of_found host fileTag index found
  simp only [finds.linkLogical, Nat.not_le.mpr inside, Bool.false_eq_true, or_self,
    if_false] at linking
  have moved := moveToFreeBlock_of_removed metadata linked removed
  simp only [finds.loadBitmap, found, finds.storeBitmap, linking, Bool.false_eq_true,
    if_false] at moved
  refine ⟨free, _, found, ?_, ?_, moved⟩
  · unfold saveFileMetadata
    split <;> simp [setBit, setMetadata]
  · unfold saveFileMetadata
    split <;> simp [setBit, setMetadata]

end Equations

section FailedWrites

variable {host : Host} {disk : Disk config Hash} {fileTag : FileTag} {blockNumber : UInt32}
  {metadata : FileMetadata} {physical : Nat}

/-- Once a write is past its checks: a shared block is not given up, or all of the copy on write
succeeds; the bytes of a block of its own are stored, or the part of them that was stored is what
was there. -/
def LeavesNothing (host : Host) (stored : Nat) (disk : Disk config Hash) (fileTag : FileTag)
    (blockNumber : UInt32) (blockData : List UInt8) : Prop :=
  ∀ metadata physical, Reaches host disk fileTag blockNumber metadata physical →
    if 1 < disk.links.linkCount physical then
      host (.removeLogical blockNumber.toNat) = true ∨
        (FindsBlock host disk blockNumber.toNat ∧
          host (.writeLogical blockNumber.toNat) = false)
    else
      host (.writeLogical blockNumber.toNat) = false ∨
        tornBlock stored (disk.content physical) (paddedBlock config.blockSize blockData) =
          disk.content physical

theorem executeBlockWriteTorn_of_code {code : Int} {after : Disk config Hash} {stored : Nat}
    {blockData : List UInt8} (notWrite : code ≠ -7)
    (result : disk.executeBlockWrite host fileTag blockNumber blockData = (code, after)) :
    disk.executeBlockWriteTorn host stored fileTag blockNumber blockData = (code, after) := by
  unfold executeBlockWriteTorn
  rw [result]
  split
  · rename_i same
    exact absurd (Prod.mk.inj same).1 notWrite
  · rfl

theorem executeBlockWriteTorn_of_write {after : Disk config Hash} {stored : Nat}
    {blockData : List UInt8}
    (result : disk.executeBlockWrite host fileTag blockNumber blockData = (-7, after)) :
    disk.executeBlockWriteTorn host stored fileTag blockNumber blockData =
      (-7, after.tearBlock stored fileTag blockNumber.toNat blockData) := by
  unfold executeBlockWriteTorn
  rw [result]
  rfl

@[simp]
theorem bitmap_tearBlock (stored index : Nat) (blockData : List UInt8) :
    (disk.tearBlock stored fileTag index blockData).bitmap = disk.bitmap := by
  unfold tearBlock
  split <;> rfl

/-- A block of its own keeps its bytes, or the part of them that was overwritten. -/
theorem ownWrite_changes_nothing_iff
    (reaches : Reaches host disk fileTag blockNumber metadata physical)
    (own : disk.links.linkCount physical ≤ 1) (stored : Nat) (blockData : List UInt8) :
    ((disk.executeBlockWriteTorn host stored fileTag blockNumber blockData).1 ≠ 0 →
        SameFiles disk (disk.executeBlockWriteTorn host stored fileTag blockNumber blockData).2) ↔
      host (.writeLogical blockNumber.toNat) = false ∨
        tornBlock stored (disk.content physical) (paddedBlock config.blockSize blockData) =
          disk.content physical := by
  have result := executeBlockWrite_of_own reaches own blockData
  cases write : host (.writeLogical blockNumber.toNat) with
  | false =>
      rw [write] at result
      rw [executeBlockWriteTorn_of_code (by decide) result]
      simp
  | true =>
      rw [write] at result
      rw [executeBlockWriteTorn_of_write result]
      simp only [tearBlock, reaches.linked, reduceCtorEq, false_or]
      constructor
      · intro same
        have contents : Function.update disk.content physical
            (tornBlock stored (disk.content physical)
              (paddedBlock config.blockSize blockData)) physical = disk.content physical :=
          congrFun (same (by decide)).content physical
        rwa [Function.update_self] at contents
      · intro kept _
        refine ⟨rfl, rfl, ?_, rfl⟩
        rw [kept]
        exact Function.update_eq_self physical disk.content

theorem sharedWrite_changes_nothing_iff
    (reaches : Reaches host disk fileTag blockNumber metadata physical)
    (shared : 1 < disk.links.linkCount physical) (stored : Nat) (blockData : List UInt8) :
    ((disk.executeBlockWriteTorn host stored fileTag blockNumber blockData).1 ≠ 0 →
        SameFiles disk (disk.executeBlockWriteTorn host stored fileTag blockNumber blockData).2) ↔
      host (.removeLogical blockNumber.toNat) = true ∨
        (FindsBlock host disk blockNumber.toNat ∧
          host (.writeLogical blockNumber.toNat) = false) := by
  have result := executeBlockWrite_of_shared reaches shared blockData
  cases removal : host (.removeLogical blockNumber.toNat) with
  | true =>
      rw [moveToFreeBlock_of_kept removal] at result
      rw [executeBlockWriteTorn_of_code (by decide) result]
      simp [SameFiles.refl]
  | false =>
      simp only [Bool.false_eq_true, false_or]
      by_cases finds : FindsBlock host disk blockNumber.toNat
      · obtain ⟨free, own, found, taken, linked, moved⟩ :=
          moveToFreeBlock_of_findsBlock metadata reaches.linked removal finds
        rw [moved] at result
        simp only [writeToLogicalBlock_of_linked linked] at result
        cases write : host (.writeLogical blockNumber.toNat) with
        | false =>
            simp only [write, Bool.false_eq_true, if_false] at result
            rw [executeBlockWriteTorn_of_code (by decide) result]
            simp [finds]
        | true =>
            simp only [write, if_true] at result
            rw [executeBlockWriteTorn_of_write result]
            simp only [reduceCtorEq, and_false, iff_false]
            intro same
            have bits := congrFun (same (by decide)).bitmap free
            rw [bitmap_tearBlock, taken, Function.update_self,
              bitmap_of_getFreeBitIndex found] at bits
            cases bits
      · obtain ⟨code, failed, codeNe, notWrite, gone, moved⟩ :=
          moveToFreeBlock_of_not_findsBlock metadata reaches.linked removal finds
        rw [moved] at result
        simp only [finds, false_and, iff_false]
        have stopped : disk.executeBlockWrite host fileTag blockNumber blockData =
            (code, failed) := by
          rw [result]
          split
          · rename_i own zero
            exact absurd (Prod.mk.inj zero).1 codeNe
          · rfl
        rw [executeBlockWriteTorn_of_code notWrite stopped]
        intro same
        have links := congrFun (congrFun (same codeNe).inode fileTag) blockNumber.toNat
        rw [gone, reaches.linked] at links
        cases links

/-- For every state, every data and every failing call, also a short `fwrite`: a failed write
leaves metadata, links, bytes and bitmap as they were exactly when it gave up no shared block and
overwrote no byte. -/
theorem failedWrite_changes_nothing_iff (host : Host) (stored : Nat) (disk : Disk config Hash)
    (fileTag : FileTag) (blockNumber : UInt32) (blockData : List UInt8) :
    ((disk.executeBlockWriteTorn host stored fileTag blockNumber blockData).1 ≠ 0 →
        SameFiles disk (disk.executeBlockWriteTorn host stored fileTag blockNumber blockData).2) ↔
      LeavesNothing host stored disk fileTag blockNumber blockData := by
  by_cases reached : ∃ metadata physical,
      Reaches host disk fileTag blockNumber metadata physical
  · obtain ⟨metadata, physical, reaches⟩ := reached
    have condition : LeavesNothing host stored disk fileTag blockNumber blockData ↔
        if 1 < disk.links.linkCount physical then
          host (.removeLogical blockNumber.toNat) = true ∨
            (FindsBlock host disk blockNumber.toNat ∧
              host (.writeLogical blockNumber.toNat) = false)
        else
          host (.writeLogical blockNumber.toNat) = false ∨
            tornBlock stored (disk.content physical)
              (paddedBlock config.blockSize blockData) = disk.content physical := by
      constructor
      · intro leaves
        exact leaves metadata physical reaches
      · intro leaves other block again
        obtain ⟨rfl, rfl⟩ := reaches_unique reaches again
        exact leaves
    rw [condition]
    split
    · rename_i shared
      exact sharedWrite_changes_nothing_iff reaches shared stored blockData
    · rename_i own
      exact ownWrite_changes_nothing_iff reaches (Nat.le_of_not_lt own) stored blockData
  · push Not at reached
    obtain ⟨code, _, notWrite, result⟩ := executeBlockWrite_of_not_reaches reached blockData
    rw [executeBlockWriteTorn_of_code notWrite result]
    constructor
    · intro _ metadata physical reaches
      exact absurd reaches (reached metadata physical)
    · intro _ _
      exact SameFiles.refl disk

/-- `a:T` has one block, which it shares with `initial_file:BASE`; the bitmap cannot be loaded when
it is written, and `a:T` has lost its only logical block. -/
theorem failedWrite_loses_block :
    ∃ before after : Disk fourByteConfig String,
      (storageSystem oneByteMd5).Reachable before ∧
      before.executeBlockWriteTorn (fun call => decide (call = .loadBitmap 0)) 0 fileA 0 [65] =
        (-3, after) ∧
      before.links.inode fileA 0 = some 0 ∧ after.links.inode fileA 0 = none ∧
      ¬ SameFiles before after := by
  let disk : Disk fourByteConfig String :=
    sampleDisk [.createFile fileA, .truncateFile fileA 1]
  let result := disk.executeBlockWriteTorn (fun call => decide (call = .loadBitmap 0)) 0 fileA 0
    [65]
  have before : disk.links.inode fileA 0 = some 0 := by decide +kernel
  have after : result.2.links.inode fileA 0 = none := by decide +kernel
  have code : result.1 = -3 := by decide +kernel
  have reachable : (storageSystem oneByteMd5).Reachable disk := reachable_executeAll oneByteMd5 _
  refine ⟨disk, result.2, reachable, Prod.ext code rfl, before, after, ?_⟩
  intro same
  have links := congrFun (congrFun same.inode fileA) 0
  rw [before, after] at links
  cases links

end FailedWrites

end Disk

end Storage

end MasterOfFiles
