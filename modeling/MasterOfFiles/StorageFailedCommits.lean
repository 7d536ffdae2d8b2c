import MasterOfFiles.StorageConsistency

/-!
# What a failed COMMIT leaves behind

The loop of `deduplicate_blocks` moves links on disk one block at a time, while the new `BLOCKS`
and the new hash index stay in memory until every block went through.  `Removes` and `Completes`
say of one block, in terms of the disk before the COMMIT, whether its link is removed and whether
all of its calls succeed.
-/

namespace MasterOfFiles

namespace Storage

namespace Disk

variable {config : StorageConfig} {Hash : Type} [DecidableEq Hash]

section Definitions

/-- The block is a duplicate: COMMIT links it to another physical block. -/
def Moves (md5 : Block config.blockSize → Hash) (disk : Disk config Hash) (fileTag : FileTag)
    (blocks : List Nat) (index : Nat) : Prop :=
  disk.commitTarget md5 fileTag blocks index ≠ blocks.getD index 0

instance (md5 : Block config.blockSize → Hash) (disk : Disk config Hash) (fileTag : FileTag)
    (blocks : List Nat) (index : Nat) : Decidable (disk.Moves md5 fileTag blocks index) :=
  inferInstanceAs (Decidable (_ ≠ _))

/-- The links when the loop has gone through the first `count` blocks. -/
def linksUpTo (md5 : Block config.blockSize → Hash) (disk : Disk config Hash) (fileTag : FileTag)
    (blocks : List Nat) (count : Nat) (other : FileTag) (index : Nat) : Option Nat :=
  if other = fileTag ∧ index < count ∧ disk.Moves md5 fileTag blocks index then
    some (disk.commitTarget md5 fileTag blocks index)
  else disk.links.inode other index

/-- Moving the block leaves its old physical block without links. -/
def FreesOld (md5 : Block config.blockSize → Hash) (disk : Disk config Hash) (fileTag : FileTag)
    (blocks : List Nat) (index : Nat) : Prop :=
  ∀ other position,
    disk.linksUpTo md5 fileTag blocks (index + 1) other position ≠ some (blocks.getD index 0)

/-- The block is read, found to be a duplicate, and its link is removed. -/
structure Removes (host : Host) (md5 : Block config.blockSize → Hash) (disk : Disk config Hash)
    (fileTag : FileTag) (blocks : List Nat) (index : Nat) : Prop where
  moves : disk.Moves md5 fileTag blocks index
  readLogical : host (.readLogical index) = false
  hashLogical : host (.hashLogical index) = false
  removeLogical : host (.removeLogical index) = false

/-- Every call that the loop makes for the block succeeds. -/
structure Completes (host : Host) (md5 : Block config.blockSize → Hash) (disk : Disk config Hash)
    (fileTag : FileTag) (blocks : List Nat) (index : Nat) : Prop where
  readLogical : host (.readLogical index) = false
  hashLogical : host (.hashLogical index) = false
  moved : disk.Moves md5 fileTag blocks index →
    host (.removeLogical index) = false ∧ host (.linkLogical index) = false ∧
      disk.commitTarget md5 fileTag blocks index < config.totalBlocks ∧
      host (.statPhysical index) = false ∧
      (disk.FreesOld md5 fileTag blocks index →
        host (.loadBitmap index) = false ∧ host (.storeBitmap index) = false)

/-- The File:Tag is found and the hash index is read. -/
structure EntersLoop (host : Host) (disk : Disk config Hash) (fileTag : FileTag) : Prop where
  statDirectory : disk.fileDirExists host fileTag = true
  readMetadata : host (.readMetadata fileTag) = false
  readHashIndex : host .readHashIndex = false

/-- The loop removes the link of a first duplicate only if every call for every block succeeds. -/
def RemovesOnlyToComplete (host : Host) (md5 : Block config.blockSize → Hash)
    (disk : Disk config Hash) (fileTag : FileTag) (blocks : List Nat) : Prop :=
  EntersLoop host disk fileTag → ∀ first < blocks.length,
    (∀ earlier < first, Completes host md5 disk fileTag blocks earlier) →
      Removes host md5 disk fileTag blocks first →
        ∀ index < blocks.length, Completes host md5 disk fileTag blocks index

/-- The metadata, the links, the bitmap and the hash index are the same, and metadata and links
still agree. -/
structure CommitUndone (before after : Disk config Hash) : Prop where
  metadata : after.metadata = before.metadata
  inode : after.links.inode = before.links.inode
  bitmap : after.bitmap = before.bitmap
  hashIndex : after.hashIndex = before.hashIndex
  consistent : after.Consistent

end Definitions

section Iterations

variable {host : Host} {md5 : Block config.blockSize → Hash} {start : Disk config Hash}
  {fileTag : FileTag} {blocks : List Nat} {count : Nat} {state next : Deduplication config Hash}

omit [DecidableEq Hash] in
theorem removeLogicalBlock_of_linked {disk : Disk config Hash} {index physical : Nat}
    (linked : disk.links.inode fileTag index = some physical) :
    disk.removeLogicalBlock host fileTag index =
      if host (.removeLogical index) then none
      else some { disk with links := disk.links.unlink fileTag index } := by
  simp [removeLogicalBlock, linked]

omit [DecidableEq Hash] in
/-- The calls of `update_logical_block_link` on a linked block. -/
theorem updateLogicalBlockLink_of_linked {disk : Disk config Hash} {index physical : Nat}
    (linked : disk.links.inode fileTag index = some physical) (registered : Nat) :
    disk.updateLogicalBlockLink host fileTag index registered =
      if host (.removeLogical index) then (-1, disk)
      else if host (.linkLogical index) ∨ config.totalBlocks ≤ registered then
        (-2, { disk with links := disk.links.unlink fileTag index })
      else (0, { disk with
        links := (disk.links.unlink fileTag index).link fileTag index registered }) := by
  rw [updateLogicalBlockLink, removeLogicalBlock_of_linked linked]
  split
  · rename_i kept
    split at kept
    · rename_i fails
      rw [if_pos fails]
    · cases kept
  · rename_i removed removal
    split at removal
    · cases removal
    · rename_i succeeds
      rw [if_neg succeeds, ← Option.some.inj removal]
      by_cases refused : host (.linkLogical index) = true ∨ config.totalBlocks ≤ registered
      · simp [linkLogicalBlock, refused]
      · simp [linkLogicalBlock, refused]

omit [DecidableEq Hash] in
theorem freePhBlockIfUnused_of_lt {disk : Disk config Hash} {index physical : Nat}
    (physicalLt : physical < config.totalBlocks) :
    disk.freePhBlockIfUnused host index physical =
      if host (.statPhysical index) then (-1, disk)
      else if disk.links.linkCount physical ≠ 0 then (0, disk)
      else if host (.loadBitmap index) then (-3, disk)
      else if host (.storeBitmap index) then (-4, disk)
      else (0, disk.setBit physical false) := by
  unfold freePhBlockIfUnused statPhysicalBlock
  cases stat : host (.statPhysical index) with
  | true => simp
  | false =>
      have several : 1 < disk.stNlink physical ↔ disk.links.linkCount physical ≠ 0 := by
        unfold stNlink
        omega
      simp [Nat.not_le.mpr physicalLt, several]

omit [DecidableEq Hash] in
theorem freePhBlockIfUnused_zero_iff {disk : Disk config Hash} {index physical : Nat}
    (physicalLt : physical < config.totalBlocks) :
    (disk.freePhBlockIfUnused host index physical).1 = 0 ↔
      host (.statPhysical index) = false ∧ (disk.links.linkCount physical = 0 →
        host (.loadBitmap index) = false ∧ host (.storeBitmap index) = false) := by
  rw [freePhBlockIfUnused_of_lt physicalLt]
  cases host (.statPhysical index) with
  | true => simp
  | false =>
      by_cases unused : disk.links.linkCount physical = 0
      · cases host (.loadBitmap index) <;> cases host (.storeBitmap index) <;> simp [unused]
      · simp [unused]

omit [DecidableEq Hash] in
theorem freePhBlockIfUnused_kept {disk after : Disk config Hash} {index physical : Nat} {code : Int}
    (physicalLt : physical < config.totalBlocks)
    (result : disk.freePhBlockIfUnused host index physical = (code, after)) (failed : code ≠ 0) :
    after = disk := by
  rw [freePhBlockIfUnused_of_lt physicalLt] at result
  split_ifs at result <;> simp_all

/-- An iteration on a block that can be read. -/
theorem deduplicateBlock_of_content {bytes : Block config.blockSize} (host : Host)
    (content : state.disk.logicalContent fileTag count = some bytes) :
    deduplicateBlock host md5 fileTag count state =
      if host (.readLogical count) ∨ host (.hashLogical count) then (-3, state)
      else
        match state.hashIndex (md5 bytes) with
        | none =>
          (0, { state with
            hashIndex := Function.update state.hashIndex (md5 bytes)
              (some (state.blocks.getD count 0)) })
        | some registered =>
          if registered = state.blocks.getD count 0 then (0, state)
          else
            match state.disk.updateLogicalBlockLink host fileTag count registered with
            | (0, relinked) =>
              match relinked.freePhBlockIfUnused host count (state.blocks.getD count 0) with
              | (0, freed) =>
                (0, { state with disk := freed, blocks := state.blocks.set count registered })
              | (_, kept) =>
                (-7, { state with disk := kept, blocks := state.blocks.set count registered })
            | (_, failed) => (-5, { state with disk := failed }) := by
  cases read : host (.readLogical count) with
  | true => simp [deduplicateBlock, readBlockContent, read]
  | false =>
      cases hash : host (.hashLogical count) with
      | true => simp [deduplicateBlock, readBlockContent, read, hash, content]
      | false =>
          have result := Eq.refl (deduplicateBlock host md5 fileTag count state)
          conv at result =>
            rhs
            simp only [deduplicateBlock, readBlockContent, read, hash, content,
              Bool.false_eq_true, if_false]
          exact result

namespace DeduplicatedUpTo

/-- The links of the loop are those of the disk at the start, with the visited duplicates moved. -/
theorem inode_eq (invariant : DeduplicatedUpTo md5 start fileTag blocks count state)
    (other : FileTag) (index : Nat) : state.disk.links.inode other index =
      start.linksUpTo md5 fileTag blocks count other index :=
  invariant.inode other index

/-- The block about to be visited, as the loop sees it. -/
theorem current (invariant : DeduplicatedUpTo md5 start fileTag blocks count state)
    (countLt : count < blocks.length) :
    state.blocks.getD count 0 = blocks.getD count 0 := by
  simpa using invariant.blocks_getD count countLt

theorem linked (invariant : DeduplicatedUpTo md5 start fileTag blocks count state)
    (listed : start.links.inode fileTag count = some (blocks.getD count 0)) :
    state.disk.links.inode fileTag count = some (blocks.getD count 0) := by
  rw [invariant.inode, if_neg (by omega), listed]

theorem content_eq (invariant : DeduplicatedUpTo md5 start fileTag blocks count state)
    (listed : start.links.inode fileTag count = some (blocks.getD count 0)) :
    state.disk.logicalContent fileTag count = some (start.content (blocks.getD count 0)) := by
  rw [invariant.logicalContent_self, logicalContent, listed, Option.map_some]

/-- What the loop finds in its hash index decides whether the block moves. -/
theorem target_eq (invariant : DeduplicatedUpTo md5 start fileTag blocks count state)
    (listed : start.links.inode fileTag count = some (blocks.getD count 0)) :
    start.commitTarget md5 fileTag blocks count =
      (state.hashIndex (md5 (start.content (blocks.getD count 0)))).getD
        (blocks.getD count 0) := by
  have content : start.logicalContent fileTag count =
      some (start.content (blocks.getD count 0)) := by
    rw [logicalContent, listed, Option.map_some]
  rw [invariant.hashIndex, commitTarget, logicalHash_of_content content]

/-- A block that is no duplicate is read and hashed, and nothing else is done on disk. -/
theorem stays (invariant : DeduplicatedUpTo md5 start fileTag blocks count state)
    (countLt : count < blocks.length)
    (listed : start.links.inode fileTag count = some (blocks.getD count 0))
    (unmoved : ¬ start.Moves md5 fileTag blocks count) :
    ∃ next : Deduplication config Hash, next.disk = state.disk ∧
      ∀ host, deduplicateBlock host md5 fileTag count state =
        if host (.readLogical count) ∨ host (.hashLogical count) then (-3, state)
        else (0, next) := by
  have target := invariant.target_eq listed
  have content := invariant.content_eq listed
  have current := invariant.current countLt
  rw [Moves, not_not] at unmoved
  rw [unmoved] at target
  cases found : state.hashIndex (md5 (start.content (blocks.getD count 0))) with
  | none =>
      refine ⟨{ state with
        hashIndex := Function.update state.hashIndex
          (md5 (start.content (blocks.getD count 0))) (some (state.blocks.getD count 0)) },
        rfl, ?_⟩
      intro host
      rw [deduplicateBlock_of_content host content]
      simp only [found]
  | some registered =>
      rw [found, Option.getD_some] at target
      refine ⟨state, rfl, ?_⟩
      intro host
      rw [deduplicateBlock_of_content host content]
      simp only [found, current, ← target, if_true]

theorem moves (invariant : DeduplicatedUpTo md5 start fileTag blocks count state)
    (countLt : count < blocks.length)
    (listed : start.links.inode fileTag count = some (blocks.getD count 0))
    (moved : start.Moves md5 fileTag blocks count) (host : Host) :
    deduplicateBlock host md5 fileTag count state =
      if host (.readLogical count) ∨ host (.hashLogical count) then (-3, state)
      else
        match state.disk.updateLogicalBlockLink host fileTag count
            (start.commitTarget md5 fileTag blocks count) with
        | (0, relinked) =>
          match relinked.freePhBlockIfUnused host count (blocks.getD count 0) with
          | (0, freed) => (0, { state with
              disk := freed
              blocks := state.blocks.set count (start.commitTarget md5 fileTag blocks count) })
          | (_, kept) => (-7, { state with
              disk := kept
              blocks := state.blocks.set count (start.commitTarget md5 fileTag blocks count) })
        | (_, failed) => (-5, { state with disk := failed }) := by
  have target := invariant.target_eq listed
  have content := invariant.content_eq listed
  have current := invariant.current countLt
  rw [Moves] at moved
  cases found : state.hashIndex (md5 (start.content (blocks.getD count 0))) with
  | none =>
      rw [found, Option.getD_none] at target
      exact absurd target moved
  | some registered =>
      rw [found, Option.getD_some] at target
      rw [target] at moved ⊢
      rw [deduplicateBlock_of_content host content]
      simp only [found, current, if_neg moved]

theorem inode_moved (invariant : DeduplicatedUpTo md5 start fileTag blocks count state)
    (moved : start.Moves md5 fileTag blocks count) (other : FileTag) (index : Nat) :
    ((state.disk.links.unlink fileTag count).link fileTag count
        (start.commitTarget md5 fileTag blocks count)).inode other index =
      start.linksUpTo md5 fileTag blocks (count + 1) other index := by
  rw [LinkTable.inode_link, LinkTable.inode_unlink, invariant.inode_eq, linksUpTo, linksUpTo]
  by_cases self : other = fileTag ∧ index = count
  · obtain ⟨rfl, rfl⟩ := self
    rw [if_pos ⟨rfl, rfl⟩, if_pos ⟨rfl, Nat.lt_succ_self index, moved⟩]
  · rw [if_neg self, if_neg self]
    have visited : (other = fileTag ∧ index < count ∧ start.Moves md5 fileTag blocks index) ↔
        (other = fileTag ∧ index < count + 1 ∧ start.Moves md5 fileTag blocks index) := by
      constructor
      · rintro ⟨same, before, moves⟩
        exact ⟨same, Nat.lt_succ_of_lt before, moves⟩
      · rintro ⟨same, before, moves⟩
        refine ⟨same, ?_, moves⟩
        have different : index ≠ count := fun equal => self ⟨same, equal⟩
        omega
    simp only [visited]

theorem linkCount_moved_iff (invariant : DeduplicatedUpTo md5 start fileTag blocks count state)
    (moved : start.Moves md5 fileTag blocks count) :
    ((state.disk.links.unlink fileTag count).link fileTag count
        (start.commitTarget md5 fileTag blocks count)).linkCount (blocks.getD count 0) = 0 ↔
      start.FreesOld md5 fileTag blocks count := by
  rw [LinkTable.linkCount_eq_zero_iff, LinkTable.Linked, FreesOld]
  simp only [invariant.inode_moved moved, not_exists]

theorem moves_success (invariant : DeduplicatedUpTo md5 start fileTag blocks count state)
    (countLt : count < blocks.length)
    (listed : start.links.inode fileTag count = some (blocks.getD count 0))
    (blockLt : blocks.getD count 0 < config.totalBlocks)
    (moved : start.Moves md5 fileTag blocks count)
    (completes : Completes host md5 start fileTag blocks count) :
    deduplicateBlock host md5 fileTag count state = (0, { state with
      disk := state.disk.relink fileTag count (start.commitTarget md5 fileTag blocks count)
        (blocks.getD count 0)
      blocks := state.blocks.set count (start.commitTarget md5 fileTag blocks count) }) := by
  obtain ⟨removes, links, targetLt, stat, frees⟩ := completes.moved moved
  have freesIff := invariant.linkCount_moved_iff moved
  rw [invariant.moves countLt listed moved, updateLogicalBlockLink_of_linked
    (invariant.linked listed)]
  simp only [completes.readLogical, completes.hashLogical, removes, links,
    Nat.not_le.mpr targetLt, Bool.false_eq_true, or_self, if_false,
    freePhBlockIfUnused_of_lt blockLt, stat]
  by_cases freed : start.FreesOld md5 fileTag blocks count
  · obtain ⟨loads, stores⟩ := frees freed
    have unused := freesIff.mpr freed
    simp only [relink, unused, ne_eq, not_true_eq_false, if_false, loads, stores,
      Bool.false_eq_true, if_true, setBit]
  · have used := mt freesIff.mp freed
    simp only [relink, used, ne_eq, not_false_eq_true, if_true, if_false]

theorem iteration_of_completes (invariant : DeduplicatedUpTo md5 start fileTag blocks count state)
    (countLt : count < blocks.length)
    (listed : start.links.inode fileTag count = some (blocks.getD count 0))
    (blockLt : blocks.getD count 0 < config.totalBlocks)
    (completes : Completes host md5 start fileTag blocks count) :
    ∃ next, deduplicateBlock host md5 fileTag count state = (0, next) ∧
      DeduplicatedUpTo md5 start fileTag blocks (count + 1) next ∧
      (¬ start.Moves md5 fileTag blocks count → next.disk = state.disk) := by
  by_cases moved : start.Moves md5 fileTag blocks count
  · have onReliable : Completes reliable md5 start fileTag blocks count :=
      ⟨rfl, rfl, fun _ => ⟨rfl, rfl, (completes.moved moved).2.2.1, rfl,
        fun _ => ⟨rfl, rfl⟩⟩⟩
    have iteration := invariant.moves_success countLt listed blockLt moved completes
    have again := invariant.moves_success countLt listed blockLt moved onReliable
    exact ⟨_, iteration, invariant.step countLt again, fun unmoved => absurd moved unmoved⟩
  · obtain ⟨next, diskEq, iteration⟩ := invariant.stays countLt listed moved
    refine ⟨next, ?_, ?_, fun _ => diskEq⟩
    · rw [iteration, completes.readLogical, completes.hashLogical]
      simp
    · apply invariant.step countLt
      rw [iteration]
      simp

/-- An iteration that removes the link of its block and then fails does not put it back. -/
theorem iteration_after_removal
    (invariant : DeduplicatedUpTo md5 start fileTag blocks count state)
    (countLt : count < blocks.length)
    (listed : start.links.inode fileTag count = some (blocks.getD count 0))
    (blockLt : blocks.getD count 0 < config.totalBlocks)
    (removes : Removes host md5 start fileTag blocks count)
    (fails : ¬ Completes host md5 start fileTag blocks count) :
    ∃ code next, code ≠ 0 ∧ deduplicateBlock host md5 fileTag count state = (code, next) ∧
      next.disk.links.inode fileTag count ≠ some (blocks.getD count 0) := by
  have moved := removes.moves
  have freesIff := invariant.linkCount_moved_iff moved
  have iteration := invariant.moves countLt listed moved host
  rw [updateLogicalBlockLink_of_linked (invariant.linked listed)] at iteration
  simp only [removes.readLogical, removes.hashLogical, removes.removeLogical, Bool.false_eq_true,
    or_self, if_false] at iteration
  by_cases unlinked : host (.linkLogical count) = true ∨
      config.totalBlocks ≤ start.commitTarget md5 fileTag blocks count
  · simp only [unlinked, if_true] at iteration
    exact ⟨-5, _, by decide, iteration, by simp⟩
  · obtain ⟨links, targetLt⟩ : host (.linkLogical count) = false ∧
        start.commitTarget md5 fileTag blocks count < config.totalBlocks := by
      simpa using unlinked
    simp only [unlinked, if_false] at iteration
    cases freeing : ({ state.disk with
        links := (state.disk.links.unlink fileTag count).link fileTag count
          (start.commitTarget md5 fileTag blocks count) } :
        Disk config Hash).freePhBlockIfUnused host count (blocks.getD count 0) with
    | mk code kept =>
        have codeNe : code ≠ 0 := by
          rintro rfl
          obtain ⟨stat, frees⟩ := (freePhBlockIfUnused_zero_iff blockLt).mp
            (congrArg Prod.fst freeing)
          apply fails
          refine ⟨removes.readLogical, removes.hashLogical,
            fun _ => ⟨removes.removeLogical, links, targetLt, stat, ?_⟩⟩
          exact fun freed => frees (freesIff.mpr freed)
        have keptEq := freePhBlockIfUnused_kept blockLt freeing codeNe
        rw [freeing] at iteration
        have stopped : deduplicateBlock host md5 fileTag count state = (-7, { state with
            disk := kept
            blocks := state.blocks.set count (start.commitTarget md5 fileTag blocks count) }) := by
          rw [iteration]
          split
          · rename_i zero
            exact absurd (Prod.mk.inj zero).1 codeNe
          · rename_i same
            rw [(Prod.mk.inj same).2]
        refine ⟨-7, _, by decide, stopped, ?_⟩
        simpa [keptEq, Moves] using moved

theorem iteration_of_not_completes
    (invariant : DeduplicatedUpTo md5 start fileTag blocks count state)
    (countLt : count < blocks.length)
    (listed : start.links.inode fileTag count = some (blocks.getD count 0))
    (blockLt : blocks.getD count 0 < config.totalBlocks)
    (fails : ¬ Completes host md5 start fileTag blocks count) :
    ∃ code next, code ≠ 0 ∧ deduplicateBlock host md5 fileTag count state = (code, next) ∧
      ((¬ Removes host md5 start fileTag blocks count ∧ next.disk = state.disk) ∨
        (Removes host md5 start fileTag blocks count ∧
          next.disk.links.inode fileTag count ≠ some (blocks.getD count 0))) := by
  by_cases removes : Removes host md5 start fileTag blocks count
  · obtain ⟨code, next, codeNe, iteration, changed⟩ :=
      invariant.iteration_after_removal countLt listed blockLt removes fails
    exact ⟨code, next, codeNe, iteration, Or.inr ⟨removes, changed⟩⟩
  · by_cases unread : host (.readLogical count) = true ∨ host (.hashLogical count) = true
    · refine ⟨-3, state, by decide, ?_, Or.inl ⟨removes, rfl⟩⟩
      rw [deduplicateBlock_of_content host (invariant.content_eq listed), if_pos unread]
    · obtain ⟨reads, hashes⟩ : host (.readLogical count) = false ∧
          host (.hashLogical count) = false := by
        simpa using unread
      have moved : start.Moves md5 fileTag blocks count := by
        by_contra unmoved
        exact fails ⟨reads, hashes, fun moves => absurd moves unmoved⟩
      have removal : host (.removeLogical count) = true := by
        by_contra removed
        exact removes ⟨moved, reads, hashes, by simpa using removed⟩
      have iteration := invariant.moves countLt listed moved host
      rw [if_neg unread, updateLogicalBlockLink_of_linked (invariant.linked listed)] at iteration
      simp only [removal, if_true] at iteration
      exact ⟨-5, _, by decide, iteration, Or.inl ⟨removes, rfl⟩⟩

end DeduplicatedUpTo

end Iterations

section Loop

variable {host : Host} {md5 : Block config.blockSize → Hash} {start : Disk config Hash}
  {fileTag : FileTag} {blocks : List Nat} {count : Nat} {state next : Deduplication config Hash}

/-- How the loop ends when it fails at a block: nothing was removed, or a link has changed. -/
def StoppedAt (host : Host) (md5 : Block config.blockSize → Hash) (start : Disk config Hash)
    (fileTag : FileTag) (blocks : List Nat) (failed : Nat) (after : Disk config Hash) : Prop :=
  ((∀ earlier < failed, ¬ start.Moves md5 fileTag blocks earlier) ∧
      ¬ Removes host md5 start fileTag blocks failed ∧ after = start) ∨
    (((∃ earlier < failed, start.Moves md5 fileTag blocks earlier) ∨
        Removes host md5 start fileTag blocks failed) ∧
      ∃ index, after.links.inode fileTag index ≠ start.links.inode fileTag index)

theorem stoppedAt_of_iteration (countLt : count < blocks.length)
    (listed : ∀ index < blocks.length,
      start.links.inode fileTag index = some (blocks.getD index 0))
    (invariant : DeduplicatedUpTo md5 start fileTag blocks count state)
    (same : (∀ earlier < count, ¬ start.Moves md5 fileTag blocks earlier) → state.disk = start)
    (outcome : (¬ Removes host md5 start fileTag blocks count ∧ next.disk = state.disk) ∨
      (Removes host md5 start fileTag blocks count ∧
        next.disk.links.inode fileTag count ≠ some (blocks.getD count 0))) :
    StoppedAt host md5 start fileTag blocks count next.disk := by
  rcases outcome with ⟨kept, diskEq⟩ | ⟨removes, changed⟩
  · by_cases unmoved : ∀ earlier < count, ¬ start.Moves md5 fileTag blocks earlier
    · exact Or.inl ⟨unmoved, kept, diskEq.trans (same unmoved)⟩
    · push Not at unmoved
      obtain ⟨earlier, earlierLt, moved⟩ := unmoved
      refine Or.inr ⟨Or.inl ⟨earlier, earlierLt, moved⟩, earlier, ?_⟩
      rw [diskEq, invariant.inode, if_pos ⟨rfl, earlierLt, moved⟩,
        listed earlier (earlierLt.trans countLt)]
      exact fun equal => moved (Option.some.inj equal)
  · refine Or.inr ⟨Or.inr removes, count, ?_⟩
    rw [listed count countLt]
    exact changed

/-- The loop stops at the first block for which a call fails. -/
theorem deduplicateLoop_outcome (host : Host)
    (listed : ∀ index < blocks.length,
      start.links.inode fileTag index = some (blocks.getD index 0))
    (blockLt : ∀ index < blocks.length, blocks.getD index 0 < config.totalBlocks)
    {remaining : Nat} (total : count + remaining = blocks.length)
    (invariant : DeduplicatedUpTo md5 start fileTag blocks count state)
    (same : (∀ earlier < count, ¬ start.Moves md5 fileTag blocks earlier) → state.disk = start) :
    ∃ code final, deduplicateLoop host md5 fileTag count remaining state = (code, final) ∧
      ((code = 0 ∧ ∀ index, count ≤ index → index < blocks.length →
          Completes host md5 start fileTag blocks index) ∨
        (code ≠ 0 ∧ ∃ failed, count ≤ failed ∧ failed < blocks.length ∧
          (∀ index, count ≤ index → index < failed →
            Completes host md5 start fileTag blocks index) ∧
          ¬ Completes host md5 start fileTag blocks failed ∧
          StoppedAt host md5 start fileTag blocks failed final.disk)) := by
  induction remaining generalizing count state with
  | zero =>
      refine ⟨0, state, rfl, Or.inl ⟨rfl, ?_⟩⟩
      intro index countLe indexLt
      omega
  | succ remaining ih =>
      have countLt : count < blocks.length := by omega
      by_cases completes : Completes host md5 start fileTag blocks count
      · obtain ⟨next, iteration, nextInvariant, kept⟩ :=
          invariant.iteration_of_completes countLt (listed count countLt) (blockLt count countLt)
            completes
        have nextSame : (∀ earlier < count + 1, ¬ start.Moves md5 fileTag blocks earlier) →
            next.disk = start := by
          intro unmoved
          rw [kept (unmoved count (Nat.lt_succ_self count))]
          exact same fun earlier earlierLt => unmoved earlier (Nat.lt_succ_of_lt earlierLt)
        have fromCount : ∀ {bound : Nat}, (∀ index, count + 1 ≤ index → index < bound →
            Completes host md5 start fileTag blocks index) →
              ∀ index, count ≤ index → index < bound →
                Completes host md5 start fileTag blocks index := by
          intro bound rest index countLe indexLt
          rcases Nat.eq_or_lt_of_le countLe with rfl | later
          · exact completes
          · exact rest index later indexLt
        obtain ⟨code, final, loop, outcome⟩ := ih (by omega) nextInvariant nextSame
        refine ⟨code, final, ?_, ?_⟩
        · rw [deduplicateLoop, iteration]
          exact loop
        · rcases outcome with ⟨zero, rest⟩ | ⟨codeNe, failed, countLe, failedLt, rest, stops⟩
          · exact Or.inl ⟨zero, fromCount rest⟩
          · exact Or.inr ⟨codeNe, failed, by omega, failedLt, fromCount rest, stops⟩
      · obtain ⟨code, next, codeNe, iteration, outcome⟩ :=
          invariant.iteration_of_not_completes countLt (listed count countLt)
            (blockLt count countLt) completes
        refine ⟨code, next, ?_, Or.inr ⟨codeNe, count, Nat.le_refl count, countLt, ?_, completes,
          stoppedAt_of_iteration countLt listed invariant same outcome⟩⟩
        · rw [deduplicateLoop, iteration]
          split
          · rename_i zero
            exact absurd (Prod.mk.inj zero).1 codeNe
          · rfl
        · intro index countLe indexLt
          omega

end Loop

section FailedCommits

variable {host : Host} {md5 : Block config.blockSize → Hash} {disk : Disk config Hash}
  {fileTag : FileTag} {metadata : FileMetadata}

omit [DecidableEq Hash] in
theorem CommitUndone.refl (consistent : disk.Consistent) : CommitUndone disk disk :=
  ⟨rfl, rfl, rfl, rfl, consistent⟩

theorem executeTagCommit_of_not_entersLoop (outside : ¬ EntersLoop host disk fileTag)
    (held : disk.metadata fileTag = some metadata)
    (inProgress : metadata.state = .workInProgress) (allocates : host .allocateState = false)
    (failed : (executeTagCommit host md5 disk fileTag).1 ≠ 0) :
    (executeTagCommit host md5 disk fileTag).2 = disk := by
  have uncommitted : metadata.state ≠ .committed := by simp [inProgress]
  cases present : disk.fileDirExists host fileTag with
  | false => simp [executeTagCommit, present]
  | true =>
      cases unreadable : host (.readMetadata fileTag) with
      | true => simp [executeTagCommit, present, readFileMetadata, unreadable]
      | false =>
          cases unindexed : host .readHashIndex with
          | false => exact absurd ⟨present, unreadable, unindexed⟩ outside
          | true =>
              by_cases noBlocks : metadata.blocks.length = 0
              · simp [executeTagCommit, present, readFileMetadata, unreadable, held, uncommitted,
                  deduplicateBlocks, noBlocks, allocates] at failed
              · simp [executeTagCommit, present, readFileMetadata, unreadable, held, uncommitted,
                  deduplicateBlocks, noBlocks, unindexed]

/-- Past its checks, COMMIT returns zero exactly when its loop does, and a failed loop leaves its
disk behind. -/
theorem executeTagCommit_of_loop {code : Int} {final : Deduplication config Hash}
    (enters : EntersLoop host disk fileTag) (held : disk.metadata fileTag = some metadata)
    (inProgress : metadata.state = .workInProgress) (allocates : host .allocateState = false)
    (loop : deduplicateLoop host md5 fileTag 0 metadata.blocks.length
      ⟨disk, disk.hashIndex, metadata.blocks⟩ = (code, final)) :
    (code = 0 → (executeTagCommit host md5 disk fileTag).1 = 0) ∧
      (code ≠ 0 → executeTagCommit host md5 disk fileTag = (-1, final.disk)) := by
  have uncommitted : metadata.state ≠ .committed := by simp [inProgress]
  by_cases noBlocks : metadata.blocks.length = 0
  · have done : code = 0 := by
      rw [noBlocks, deduplicateLoop] at loop
      exact (Prod.mk.inj loop).1.symm
    refine ⟨fun _ => ?_, fun failed => absurd done failed⟩
    simp [executeTagCommit, enters.statDirectory, readFileMetadata, enters.readMetadata, held,
      uncommitted, deduplicateBlocks, noBlocks, allocates]
  · constructor
    · rintro rfl
      simp [executeTagCommit, enters.statDirectory, readFileMetadata, enters.readMetadata, held,
        uncommitted, deduplicateBlocks, noBlocks, enters.readHashIndex, loop, allocates]
    · intro failed
      have stopped : deduplicateBlocks host md5 disk fileTag metadata.blocks =
          (code, final.disk, final.blocks) := by
        simp only [deduplicateBlocks, noBlocks, enters.readHashIndex, loop, Bool.false_eq_true,
          if_false]
      simp only [executeTagCommit, enters.statDirectory, readFileMetadata, enters.readMetadata,
        held, uncommitted, Bool.not_true, Bool.false_eq_true, if_false, stopped]

/-- A loop that fails at a block leaves the disk as it was exactly when it removed no link. -/
theorem StoppedAt.undone_iff {blocks : List Nat} {failed : Nat} {after : Disk config Hash}
    (stops : StoppedAt host md5 disk fileTag blocks failed after)
    (consistent : disk.Consistent) (enters : EntersLoop host disk fileTag)
    (failedLt : failed < blocks.length)
    (before : ∀ index < failed, Completes host md5 disk fileTag blocks index)
    (incomplete : ¬ Completes host md5 disk fileTag blocks failed) :
    CommitUndone disk after ↔ RemovesOnlyToComplete host md5 disk fileTag blocks := by
  constructor
  · intro undone _ first _ earlier removes
    exfalso
    rcases stops with ⟨unmoved, kept, _⟩ | ⟨_, index, changed⟩
    · rcases Nat.lt_trichotomy first failed with less | rfl | greater
      · exact unmoved first less removes.moves
      · exact kept removes
      · exact incomplete (earlier failed greater)
    · exact changed (congrFun (congrFun undone.inode fileTag) index)
  · intro onlyToComplete
    rcases stops with ⟨_, _, unchanged⟩ | ⟨removal, _⟩
    · rw [unchanged]
      exact CommitUndone.refl consistent
    · exfalso
      apply incomplete
      rcases removal with ⟨earlier, earlierLt, moved⟩ | removes
      · have completes := before earlier earlierLt
        have removes : Removes host md5 disk fileTag blocks earlier :=
          ⟨moved, completes.readLogical, completes.hashLogical, (completes.moved moved).1⟩
        exact onlyToComplete enters earlier (earlierLt.trans failedLt)
          (fun index indexLt => before index (indexLt.trans earlierLt)) removes failed failedLt
      · exact onlyToComplete enters failed failedLt before removes failed failedLt

/-- From every state in which metadata and links agree, a COMMIT that fails in its loop leaves
everything as it was exactly when it removed no link. -/
theorem failedCommit_undone_iff (host : Host) (md5 : Block config.blockSize → Hash)
    (consistent : disk.Consistent) (held : disk.metadata fileTag = some metadata)
    (inProgress : metadata.state = .workInProgress) (allocates : host .allocateState = false) :
    ((executeTagCommit host md5 disk fileTag).1 ≠ 0 →
        CommitUndone disk (executeTagCommit host md5 disk fileTag).2) ↔
      RemovesOnlyToComplete host md5 disk fileTag metadata.blocks := by
  have blocksEq := blocksOf_of_metadata held
  have listed : ∀ index < metadata.blocks.length,
      disk.links.inode fileTag index = some (metadata.blocks.getD index 0) := by
    intro index indexLt
    rw [consistent.inode, blocksEq, List.getD_eq_getElem?_getD, List.getElem?_eq_getElem indexLt,
      Option.getD_some]
  have blockLt : ∀ index < metadata.blocks.length,
      metadata.blocks.getD index 0 < config.totalBlocks := by
    intro index indexLt
    apply consistent.block_lt fileTag
    rw [blocksEq, List.getD_eq_getElem?_getD, List.getElem?_eq_getElem indexLt, Option.getD_some]
    exact List.getElem_mem indexLt
  by_cases enters : EntersLoop host disk fileTag
  · have initial : DeduplicatedUpTo md5 disk fileTag metadata.blocks 0
        ⟨disk, disk.hashIndex, metadata.blocks⟩ :=
      DeduplicatedUpTo.initial disk metadata.blocks
    obtain ⟨code, final, loop, outcome⟩ :=
      deduplicateLoop_outcome host listed blockLt (Nat.zero_add _) initial (fun _ => rfl)
    obtain ⟨succeeds, fails⟩ := executeTagCommit_of_loop enters held inProgress allocates loop
    rcases outcome with ⟨zero, completes⟩ | ⟨codeNe, failed, _, failedLt, before, incomplete, stops⟩
    · apply iff_of_true
      · intro failed
        exact absurd (succeeds zero) failed
      · intro _ _ _ _ _ index indexLt
        exact completes index (Nat.zero_le index) indexLt
    · have undone := stops.undone_iff consistent enters failedLt
        (fun index indexLt => before index (Nat.zero_le index) indexLt) incomplete
      rw [fails codeNe]
      simpa using undone
  · apply iff_of_true
    · intro failed
      rw [executeTagCommit_of_not_entersLoop enters held inProgress allocates failed]
      exact CommitUndone.refl consistent
    · intro entersLoop
      exact absurd entersLoop enters

/-- `a:T` is committed and holds the byte of `b:T`. -/
def duplicateDisk : Disk fourByteConfig String :=
  sampleDisk (writeOneByte fileA 65 ++ [.executeTagCommit fileA] ++ writeOneByte fileB 65)

theorem consistent_duplicateDisk : duplicateDisk.Consistent := by
  apply consistent_executeAll consistent_initStorage
  exact ⟨by decide +kernel, by decide +kernel, by decide +kernel, by decide +kernel,
    by decide +kernel, by decide +kernel, by decide +kernel, trivial⟩

/-- The block of `b:T` cannot be read. -/
theorem failedCommit_undone_iff_of_unread :
    ((executeTagCommit (fun call => decide (call = .readLogical 0)) oneByteMd5 duplicateDisk
          fileB).1 ≠ 0 →
        CommitUndone duplicateDisk (executeTagCommit (fun call => decide (call = .readLogical 0))
          oneByteMd5 duplicateDisk fileB).2) ↔
      RemovesOnlyToComplete (fun call => decide (call = .readLogical 0)) oneByteMd5 duplicateDisk
        fileB [2] := by
  have held : duplicateDisk.metadata fileB = some ⟨1, [2], .workInProgress⟩ := by decide +kernel
  exact failedCommit_undone_iff _ oneByteMd5 consistent_duplicateDisk held rfl (by decide)

/-- The block of `b:T` is a duplicate; its link is removed and the `link` to the block of `a:T`
fails. -/
theorem failedCommit_loses_block :
    ∃ after, duplicateDisk.Consistent ∧
      duplicateDisk.metadata fileB = some ⟨1, [2], .workInProgress⟩ ∧
      executeTagCommit (fun call => decide (call = .linkLogical 0)) oneByteMd5 duplicateDisk
        fileB = (-1, after) ∧
      after.metadata fileB = some ⟨1, [2], .workInProgress⟩ ∧
      after.links.inode fileB 0 = none ∧ ¬ CommitUndone duplicateDisk after := by
  have code : (executeTagCommit (fun call => decide (call = .linkLogical 0)) oneByteMd5
      duplicateDisk fileB).1 = -1 := by
    decide +kernel
  have gone : (executeTagCommit (fun call => decide (call = .linkLogical 0)) oneByteMd5
      duplicateDisk fileB).2.links.inode fileB 0 = none := by
    decide +kernel
  have linked : duplicateDisk.links.inode fileB 0 = some 2 := by decide +kernel
  refine ⟨(executeTagCommit (fun call => decide (call = .linkLogical 0)) oneByteMd5
    duplicateDisk fileB).2, consistent_duplicateDisk, by decide +kernel, Prod.ext code rfl,
    by decide +kernel, gone, ?_⟩
  intro undone
  have kept := congrFun (congrFun undone.inode fileB) 0
  rw [gone, linked] at kept
  cases kept

end FailedCommits

end Disk

end Storage

end MasterOfFiles
