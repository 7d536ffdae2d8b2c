import MasterOfFiles.StorageRequests

/-!
# What COMMIT does to the links

The loop of `deduplicate_blocks` is described in terms of the disk before it:
`commitTarget` is the physical block that each logical block ends up linked to.
The loop invariant says that the blocks already visited are linked to their
targets, that the others are untouched, and that no byte has changed.
-/

namespace MasterOfFiles

namespace Storage

namespace Disk

variable {config : StorageConfig} {Hash : Type} [DecidableEq Hash]

/-- The MD5 sum of the bytes behind a logical block name. -/
def logicalHash (md5 : Block config.blockSize → Hash) (disk : Disk config Hash)
    (fileTag : FileTag) (index : Nat) : Option Hash :=
  (disk.logicalContent fileTag index).map md5

/-- The block that the hash index names for a hash when the loop reaches
logical block `count`: the one on disk, or else the `BLOCKS` entry of the first
logical block before `count` with that hash. -/
def registeredBefore (md5 : Block config.blockSize → Hash) (disk : Disk config Hash)
    (fileTag : FileTag) (blocks : List Nat) (count : Nat) (hash : Hash) : Option Nat :=
  (disk.hashIndex hash).or
    (((List.range count).find? fun earlier =>
      decide (disk.logicalHash md5 fileTag earlier = some hash)).map
        fun earlier => blocks.getD earlier 0)

/-- The physical block to which COMMIT links a logical block. -/
def commitTarget (md5 : Block config.blockSize → Hash) (disk : Disk config Hash)
    (fileTag : FileTag) (blocks : List Nat) (index : Nat) : Nat :=
  match disk.logicalHash md5 fileTag index with
  | none => blocks.getD index 0
  | some hash =>
    (disk.registeredBefore md5 fileTag blocks index hash).getD (blocks.getD index 0)

/-- Move one link to another physical block and clear the bit of the old one
when that was its last link. -/
def relink (disk : Disk config Hash) (fileTag : FileTag) (index registered physical : Nat) :
    Disk config Hash :=
  { disk with
    links := (disk.links.unlink fileTag index).link fileTag index registered
    bitmap :=
      if ((disk.links.unlink fileTag index).link fileTag index registered).linkCount
          physical = 0 then
        Function.update disk.bitmap physical false
      else disk.bitmap }

variable {md5 : Block config.blockSize → Hash} {fileTag : FileTag}

omit [DecidableEq Hash] in
theorem updateLogicalBlockLink_success {disk after : Disk config Hash}
    {index registered : Nat}
    (done : disk.updateLogicalBlockLink reliable fileTag index registered = (0, after)) :
    registered < config.totalBlocks ∧
      after = { disk with
        links := (disk.links.unlink fileTag index).link fileTag index registered } := by
  simp only [updateLogicalBlockLink] at done
  split at done
  · simp at done
  · rename_i removed removal
    obtain ⟨_, rfl⟩ := removeLogicalBlock_reliable.mp removal
    split at done
    · simp at done
    · rename_i linked linking
      obtain ⟨registeredLt, _, rfl⟩ := linkLogicalBlock_reliable.mp linking
      exact ⟨registeredLt, (Prod.mk.inj done).2.symm⟩

omit [DecidableEq Hash] in
theorem freePhBlockIfUnused_success {disk after : Disk config Hash}
    {index physical : Nat}
    (done : disk.freePhBlockIfUnused reliable index physical = (0, after)) :
    after = { disk with
      bitmap :=
        if disk.links.linkCount physical = 0 then
          Function.update disk.bitmap physical false
        else disk.bitmap } := by
  simp only [freePhBlockIfUnused, statPhysicalBlock, reliable_apply, Bool.false_eq_true,
    false_or, if_false, stNlink] at done
  by_cases absent : config.totalBlocks ≤ physical
  · simp [absent] at done
  · simp only [absent, if_false] at done
    by_cases unused : disk.links.linkCount physical = 0
    · simpa [unused, setBit, eq_comm] using done
    · have used : 1 < 1 + disk.links.linkCount physical := by omega
      simp only [used, if_true, Prod.mk.injEq, true_and] at done
      simp [unused, ← done]

/-- What one successful iteration does: register the block, find it registered
already, or relink it. -/
theorem deduplicateBlock_success {logicalBlock : Nat} {state next : Deduplication config Hash}
    (done : deduplicateBlock reliable md5 fileTag logicalBlock state = (0, next)) :
    ∃ content, state.disk.logicalContent fileTag logicalBlock = some content ∧
      ((state.hashIndex (md5 content) = none ∧
          next = { state with
            hashIndex := Function.update state.hashIndex (md5 content)
              (some (state.blocks.getD logicalBlock 0)) }) ∨
        (state.hashIndex (md5 content) = some (state.blocks.getD logicalBlock 0) ∧
          next = state) ∨
        (∃ registered, state.hashIndex (md5 content) = some registered ∧
          registered ≠ state.blocks.getD logicalBlock 0 ∧
          registered < config.totalBlocks ∧
          next = { state with
            disk := state.disk.relink fileTag logicalBlock registered
              (state.blocks.getD logicalBlock 0)
            blocks := state.blocks.set logicalBlock registered })) := by
  simp only [deduplicateBlock, readBlockContent_reliable, reliable_apply,
    Bool.false_eq_true, if_false] at done
  split at done
  · simp at done
  · rename_i content held
    refine ⟨content, held, ?_⟩
    split at done
    · rename_i unregistered
      exact Or.inl ⟨unregistered, (Prod.mk.inj done).2.symm⟩
    · rename_i registered found
      split at done
      · rename_i same
        exact Or.inr (Or.inl ⟨same ▸ found, (Prod.mk.inj done).2.symm⟩)
      · rename_i different
        split at done
        · rename_i relinked update
          obtain ⟨registeredLt, rfl⟩ := updateLogicalBlockLink_success update
          split at done
          · rename_i freed freeing
            have freedEq := freePhBlockIfUnused_success freeing
            refine Or.inr (Or.inr ⟨registered, found, different, registeredLt, ?_⟩)
            rw [← (Prod.mk.inj done).2, freedEq]
            rfl
          · simp at done
        · simp at done

omit [DecidableEq Hash] in
theorem logicalHash_of_content {disk : Disk config Hash} {index : Nat}
    {content : Block config.blockSize}
    (held : disk.logicalContent fileTag index = some content) :
    disk.logicalHash md5 fileTag index = some (md5 content) := by
  simp [logicalHash, held]

theorem registeredBefore_succ (disk : Disk config Hash) (blocks : List Nat)
    (count : Nat) (hash : Hash) :
    disk.registeredBefore md5 fileTag blocks (count + 1) hash =
      (disk.registeredBefore md5 fileTag blocks count hash).or
        (if disk.logicalHash md5 fileTag count = some hash then
          some (blocks.getD count 0)
        else none) := by
  simp only [registeredBefore, List.range_succ, List.find?_append, List.find?_singleton,
    Option.or_assoc]
  congr 1
  cases (List.range count).find? fun earlier =>
      decide (disk.logicalHash md5 fileTag earlier = some hash) with
  | some earlier => simp
  | none => by_cases same : disk.logicalHash md5 fileTag count = some hash <;> simp [same]

/-- A block whose hash is registered adds nothing to the hash index. -/
theorem registeredBefore_succ_of_found {disk : Disk config Hash} {blocks : List Nat}
    {count registered : Nat} {content : Block config.blockSize}
    (held : disk.logicalContent fileTag count = some content)
    (found : disk.registeredBefore md5 fileTag blocks count (md5 content) =
      some registered) :
    disk.registeredBefore md5 fileTag blocks (count + 1) =
      disk.registeredBefore md5 fileTag blocks count := by
  funext hash
  rw [registeredBefore_succ, logicalHash_of_content held]
  by_cases same : hash = md5 content
  · subst same
    simp [found]
  · simp [Ne.symm same]

/-- The loop invariant of `deduplicate_blocks` when it reaches logical block
`count`. -/
structure DeduplicatedUpTo (md5 : Block config.blockSize → Hash)
    (start : Disk config Hash) (fileTag : FileTag) (blocks : List Nat) (count : Nat)
    (state : Deduplication config Hash) : Prop where
  hashIndex : state.hashIndex = start.registeredBefore md5 fileTag blocks count
  blocks_length : state.blocks.length = blocks.length
  blocks_getD : ∀ index < blocks.length, state.blocks.getD index 0 =
    if index < count then start.commitTarget md5 fileTag blocks index
    else blocks.getD index 0
  inode : ∀ other index, state.disk.links.inode other index =
    if other = fileTag ∧ index < count ∧
        start.commitTarget md5 fileTag blocks index ≠ blocks.getD index 0 then
      some (start.commitTarget md5 fileTag blocks index)
    else start.links.inode other index
  content : state.disk.content = start.content
  metadata : state.disk.metadata = start.metadata
  tagDirs : state.disk.tagDirs = start.tagDirs
  fileDirs : state.disk.fileDirs = start.fileDirs

namespace DeduplicatedUpTo

variable {start : Disk config Hash} {blocks : List Nat} {count : Nat}
  {state next : Deduplication config Hash}

theorem initial (start : Disk config Hash) (blocks : List Nat) :
    DeduplicatedUpTo md5 start fileTag blocks 0 ⟨start, start.hashIndex, blocks⟩ where
  hashIndex := by
    funext hash
    simp [registeredBefore]
  blocks_length := rfl
  blocks_getD := by simp
  inode := by simp
  content := rfl
  metadata := rfl
  tagDirs := rfl
  fileDirs := rfl

/-- The block about to be visited still reads as it did at the start. -/
theorem logicalContent_self
    (invariant : DeduplicatedUpTo md5 start fileTag blocks count state) :
    state.disk.logicalContent fileTag count = start.logicalContent fileTag count := by
  simp [logicalContent, invariant.inode, invariant.content]

/-- The three outcomes of one iteration, in terms of the disk at the start. -/
theorem step_cases (invariant : DeduplicatedUpTo md5 start fileTag blocks count state)
    (countLt : count < blocks.length)
    (done : deduplicateBlock reliable md5 fileTag count state = (0, next)) :
    ∃ content, start.logicalContent fileTag count = some content ∧
      ((start.commitTarget md5 fileTag blocks count = blocks.getD count 0 ∧
          next.disk = state.disk ∧ next.blocks = state.blocks) ∨
        (start.commitTarget md5 fileTag blocks count ≠ blocks.getD count 0 ∧
          start.commitTarget md5 fileTag blocks count < config.totalBlocks ∧
          next.disk = state.disk.relink fileTag count
            (start.commitTarget md5 fileTag blocks count) (blocks.getD count 0) ∧
          next.blocks =
            state.blocks.set count (start.commitTarget md5 fileTag blocks count))) ∧
      next.hashIndex = start.registeredBefore md5 fileTag blocks (count + 1) := by
  obtain ⟨content, held, outcome⟩ := deduplicateBlock_success done
  rw [invariant.logicalContent_self] at held
  have hashEq : start.logicalHash md5 fileTag count = some (md5 content) :=
    logicalHash_of_content held
  have current : state.blocks.getD count 0 = blocks.getD count 0 := by
    simpa using invariant.blocks_getD count countLt
  have target : start.commitTarget md5 fileTag blocks count =
      (start.registeredBefore md5 fileTag blocks count (md5 content)).getD
        (blocks.getD count 0) := by
    simp [commitTarget, hashEq]
  refine ⟨content, held, ?_⟩
  rw [invariant.hashIndex, current] at outcome
  rcases outcome with ⟨unregistered, rfl⟩ | ⟨found, rfl⟩ |
    ⟨registered, found, different, registeredLt, rfl⟩
  · refine ⟨Or.inl ⟨by simp [target, unregistered], rfl, rfl⟩, ?_⟩
    funext hash
    rw [registeredBefore_succ, hashEq]
    by_cases same : hash = md5 content
    · subst same
      simp [unregistered]
    · simp [Function.update_of_ne same, Ne.symm same]
  · refine ⟨Or.inl ⟨by simp [target, found], rfl, rfl⟩, ?_⟩
    rw [registeredBefore_succ_of_found held found]
    exact invariant.hashIndex
  · have targetEq : start.commitTarget md5 fileTag blocks count = registered := by
      simp [target, found]
    rw [targetEq, registeredBefore_succ_of_found held found]
    exact ⟨Or.inr ⟨different, registeredLt, rfl, rfl⟩, rfl⟩

theorem step (invariant : DeduplicatedUpTo md5 start fileTag blocks count state)
    (countLt : count < blocks.length)
    (done : deduplicateBlock reliable md5 fileTag count state = (0, next)) :
    DeduplicatedUpTo md5 start fileTag blocks (count + 1) next := by
  obtain ⟨content, _, outcome, hashIndexEq⟩ := invariant.step_cases countLt done
  have split : ∀ index, index < count + 1 ↔ index < count ∨ index = count := by
    intro index
    omega
  rcases outcome with ⟨same, diskEq, blocksEq⟩ | ⟨different, _, diskEq, blocksEq⟩
  · refine ⟨hashIndexEq, by rw [blocksEq, invariant.blocks_length], ?_, ?_, ?_, ?_, ?_, ?_⟩
    · intro index indexLt
      rw [blocksEq, invariant.blocks_getD index indexLt]
      by_cases self : index = count
      · simp [self, same]
      · simp [split, self]
    · intro other index
      rw [diskEq, invariant.inode]
      by_cases self : index = count
      · simp [self, same]
      · simp [split, self]
    · rw [diskEq, invariant.content]
    · rw [diskEq, invariant.metadata]
    · rw [diskEq, invariant.tagDirs]
    · rw [diskEq, invariant.fileDirs]
  · refine ⟨hashIndexEq, by rw [blocksEq, List.length_set, invariant.blocks_length],
      ?_, ?_, ?_, ?_, ?_, ?_⟩
    · intro index indexLt
      by_cases self : index = count
      · subst self
        simp [blocksEq, List.getD_eq_getElem?_getD, invariant.blocks_length, countLt]
      · have kept := invariant.blocks_getD index indexLt
        simp only [List.getD_eq_getElem?_getD] at kept ⊢
        simp [blocksEq, Ne.symm self, kept, split, self]
    · intro other index
      rw [diskEq]
      simp only [relink, LinkTable.inode_link, LinkTable.inode_unlink]
      by_cases self : other = fileTag ∧ index = count
      · obtain ⟨rfl, rfl⟩ := self
        rw [if_pos ⟨rfl, rfl⟩, if_pos ⟨rfl, Nat.lt_succ_self index, different⟩]
      · rw [if_neg self, if_neg self, invariant.inode]
        by_cases sameTag : other = fileTag
        · have otherIndex : index ≠ count := fun h => self ⟨sameTag, h⟩
          simp [split, otherIndex]
        · simp [sameTag]
    · rw [diskEq, relink, invariant.content]
    · rw [diskEq, relink, invariant.metadata]
    · rw [diskEq, relink, invariant.tagDirs]
    · rw [diskEq, relink, invariant.fileDirs]

/-- A successful run of the loop reaches its invariant at the end of `BLOCKS`.
The extra property is any fact about the loop that its iterations keep. -/
theorem loop {extra : Nat → Deduplication config Hash → Prop}
    (kept : ∀ index before after, index < blocks.length →
      DeduplicatedUpTo md5 start fileTag blocks index before → extra index before →
      deduplicateBlock reliable md5 fileTag index before = (0, after) →
      extra (index + 1) after)
    {remaining : Nat} (invariant : DeduplicatedUpTo md5 start fileTag blocks count state)
    (begins : extra count state) (total : count + remaining = blocks.length)
    (done : deduplicateLoop reliable md5 fileTag count remaining state = (0, next)) :
    DeduplicatedUpTo md5 start fileTag blocks blocks.length next ∧
      extra blocks.length next := by
  induction remaining generalizing count state with
  | zero =>
      simp only [deduplicateLoop, Prod.mk.injEq, true_and] at done
      rw [← total, ← done]
      exact ⟨invariant, begins⟩
  | succ remaining ih =>
      simp only [deduplicateLoop] at done
      split at done
      · rename_i middle iteration
        exact ih (invariant.step (by omega) iteration)
          (kept count state middle (by omega) invariant begins iteration)
          (by omega) done
      · rename_i failed notZero
        exact (notZero _ done).elim

end DeduplicatedUpTo

/-- A visited logical block was readable and its target exists. -/
def Visited (md5 : Block config.blockSize → Hash) (start : Disk config Hash)
    (fileTag : FileTag) (blocks : List Nat) (index : Nat) : Prop :=
  (start.logicalContent fileTag index).isSome = true ∧
    (start.commitTarget md5 fileTag blocks index ≠ blocks.getD index 0 →
      start.commitTarget md5 fileTag blocks index < config.totalBlocks)

theorem DeduplicatedUpTo.visited {start : Disk config Hash} {blocks : List Nat}
    {count : Nat} {state next : Deduplication config Hash}
    (invariant : DeduplicatedUpTo md5 start fileTag blocks count state)
    (countLt : count < blocks.length)
    (done : deduplicateBlock reliable md5 fileTag count state = (0, next)) :
    Visited md5 start fileTag blocks count := by
  obtain ⟨content, contentEq, outcome, _⟩ := invariant.step_cases countLt done
  refine ⟨by simp [contentEq], ?_⟩
  intro different
  rcases outcome with ⟨same, _⟩ | ⟨_, targetLt, _⟩
  · exact absurd same different
  · exact targetLt

/-- What a COMMIT that returns zero leaves behind, in terms of the disk before
it. -/
structure CommitOutcome (md5 : Block config.blockSize → Hash)
    (before : Disk config Hash) (fileTag : FileTag) (metadata : FileMetadata)
    (after : Disk config Hash) : Prop where
  held : before.metadata fileTag = some metadata
  inProgress : metadata.state = .workInProgress
  readable : ∀ index < metadata.blocks.length,
    (before.logicalContent fileTag index).isSome = true
  target_lt : ∀ index < metadata.blocks.length,
    before.commitTarget md5 fileTag metadata.blocks index ≠
        metadata.blocks.getD index 0 →
      before.commitTarget md5 fileTag metadata.blocks index < config.totalBlocks
  metadata_eq : ∃ blocks, blocks.length = metadata.blocks.length ∧
    (∀ index < metadata.blocks.length, blocks.getD index 0 =
      before.commitTarget md5 fileTag metadata.blocks index) ∧
    after.metadata = Function.update before.metadata fileTag
      (some { metadata with blocks := blocks, state := .committed })
  inode : ∀ other index, after.links.inode other index =
    if other = fileTag ∧ index < metadata.blocks.length ∧
        before.commitTarget md5 fileTag metadata.blocks index ≠
          metadata.blocks.getD index 0 then
      some (before.commitTarget md5 fileTag metadata.blocks index)
    else before.links.inode other index
  content : after.content = before.content
  tagDirs : after.tagDirs = before.tagDirs
  fileDirs : after.fileDirs = before.fileDirs

theorem executeTagCommit_outcome {before after : Disk config Hash}
    (done : executeTagCommit reliable md5 before fileTag = (0, after)) :
    ∃ metadata, CommitOutcome md5 before fileTag metadata after := by
  obtain ⟨metadata, final, held, inProgress, whole, rfl⟩ := executeTagCommit_success done
  have visited : ∀ index state next, index < metadata.blocks.length →
      DeduplicatedUpTo md5 before fileTag metadata.blocks index state →
      (∀ earlier < index, Visited md5 before fileTag metadata.blocks earlier) →
      deduplicateBlock reliable md5 fileTag index state = (0, next) →
      ∀ earlier < index + 1, Visited md5 before fileTag metadata.blocks earlier := by
    intro index state next indexLt invariant earlierVisited iteration earlier earlierLt
    rcases Nat.lt_succ_iff_lt_or_eq.mp earlierLt with smaller | rfl
    · exact earlierVisited earlier smaller
    · exact invariant.visited indexLt iteration
  obtain ⟨invariant, allVisited⟩ := DeduplicatedUpTo.loop visited
    (DeduplicatedUpTo.initial before metadata.blocks) (by simp) (by simp) whole
  refine ⟨metadata, held, inProgress, fun index indexLt => (allVisited index indexLt).1,
    fun index indexLt => (allVisited index indexLt).2,
    ⟨final.blocks, invariant.blocks_length, ?_, ?_⟩, ?_, invariant.content,
    invariant.tagDirs, invariant.fileDirs⟩
  · intro index indexLt
    simpa [indexLt] using invariant.blocks_getD index indexLt
  · simp [setMetadata, invariant.metadata]
  · exact invariant.inode

end Disk

end Storage

end MasterOfFiles
