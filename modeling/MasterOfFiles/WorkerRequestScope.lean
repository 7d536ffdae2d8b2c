import MasterOfFiles.WorkerReplies

/-!
# Which File:Tags the Worker asks Storage for

A memory manager whose tables all belong to certain File:Tags asks for the blocks of
these only, whatever Storage answers, and an instruction adds no table but those of the
File:Tags it names.  The request that an instruction makes itself is its last one.
-/

namespace MasterOfFiles

namespace Worker

variable {config : MemoryConfig}

/-- Every page table belongs to one of certain File:Tags. -/
def TablesWithin (owned : Set FileTag) (mm : MemoryManager config) : Prop :=
  ∀ fileTag ∈ mm.entries.map Prod.fst, fileTag ∈ owned

/-- A request of the memory manager for a block of certain File:Tags. -/
def BlockWithin (owned : Set FileTag) (request : StorageRequest config) : Prop :=
  request.ofInstruction = false ∧ ∀ fileTag ∈ request.fileTags, fileTag ∈ owned

namespace Client

variable {owned : Set FileTag} {mm after : MemoryManager config} {fileTag : FileTag}

section Tables

theorem tablesWithin_congr (keys : after.entries.map Prod.fst = mm.entries.map Prod.fst)
    (within : TablesWithin owned mm) : TablesWithin owned after := by
  unfold TablesWithin
  rw [keys]
  exact within

theorem tablesWithin_modifyTable (within : TablesWithin owned mm) (fileTag : FileTag)
    (change : List PageEntry → List PageEntry) :
    TablesWithin owned (mm.modifyTable fileTag change) :=
  tablesWithin_congr (mm.keys_modifyTable fileTag change) within

theorem mem_owned_of_mem_allPages (within : TablesWithin owned mm)
    {candidate : FileTag × Nat × PageEntry} (member : candidate ∈ mm.allPages) :
    candidate.1 ∈ owned := by
  obtain ⟨fileTag, pageNumber, entry⟩ := candidate
  obtain ⟨table, listed, _⟩ := mm.mem_allPages.mp member
  exact within _ (List.mem_map.mpr ⟨_, listed, rfl⟩)

theorem mem_owned_of_pageAtClock (within : TablesWithin owned mm)
    {candidate : FileTag × Nat × PageEntry} (found : mm.pageAtClock = some candidate) :
    candidate.1 ∈ owned := by
  unfold MemoryManager.pageAtClock at found
  split at found
  · exact mem_owned_of_mem_allPages within (List.mem_of_find?_eq_some found)
  · simp at found

theorem tablesWithin_evict (within : TablesWithin owned mm) (fileTag : FileTag)
    (pageNumber frame : Nat) : TablesWithin owned (mm.evict fileTag pageNumber frame) :=
  tablesWithin_modifyTable within fileTag _

theorem tablesWithin_clockFirstPass (within : TablesWithin owned mm) (steps : Nat) :
    TablesWithin owned (MemoryManager.clockFirstPass steps mm).2 := by
  induction steps generalizing mm with
  | zero => exact within
  | succ steps ih =>
      unfold MemoryManager.clockFirstPass
      split
      · exact @ih mm.advanceClock within
      · rename_i fileTag pageNumber entry _
        split
        · exact tablesWithin_evict within fileTag pageNumber mm.clockPointer
        · exact @ih mm.advanceClock within

theorem tablesWithin_clockSecondPass (within : TablesWithin owned mm) (steps : Nat)
    (candidate : Option (FileTag × Nat × PageEntry))
    (before : ∀ found, candidate = some found → found.1 ∈ owned) :
    TablesWithin owned (MemoryManager.clockSecondPass steps candidate mm).2 ∧
      ∀ found, (MemoryManager.clockSecondPass steps candidate mm).1 = some found →
        found.1 ∈ owned := by
  induction steps generalizing mm candidate with
  | zero => exact ⟨within, before⟩
  | succ steps ih =>
      unfold MemoryManager.clockSecondPass
      split
      · exact @ih mm.advanceClock within candidate before
      · rename_i chosenTag chosenNumber chosen found
        refine ih ?_ _ ?_
        · split
          · exact tablesWithin_modifyTable within chosenTag _
          · exact within
        · intro later isLater
          split at isLater
          · obtain rfl := Option.some.inj isLater
            exact mem_owned_of_pageAtClock within found
          · exact before later isLater

theorem tablesWithin_growTable (within : TablesWithin owned mm) {pageNumber : Nat}
    {grown : MemoryManager config} (grows : mm.growTable fileTag pageNumber = some grown) :
    TablesWithin owned grown := by
  unfold MemoryManager.growTable at grows
  split at grows
  · simp at grows
  · split at grows
    · obtain rfl := Option.some.inj grows
      exact within
    · obtain ⟨resized, _, rfl⟩ := Option.map_eq_some_iff.mp grows
      exact tablesWithin_modifyTable within fileTag _

theorem tablesWithin_mmFreeFrame (within : TablesWithin owned mm) (frame : Nat) :
    TablesWithin owned (mm.mmFreeFrame frame) := by
  unfold MemoryManager.mmFreeFrame
  split <;> exact within

theorem tablesWithin_mmUpdatePageAccess (within : TablesWithin owned mm)
    (fileTag : FileTag) (pageNumber : Nat) :
    TablesWithin owned (mm.mmUpdatePageAccess fileTag pageNumber) := by
  unfold MemoryManager.mmUpdatePageAccess
  split
  · split
    · exact within
    · exact tablesWithin_modifyTable within fileTag _
  · exact tablesWithin_modifyTable within fileTag _

theorem tablesWithin_mmCreatePageTable (within : TablesWithin owned mm)
    (isOwned : fileTag ∈ owned) : TablesWithin owned (mm.mmCreatePageTable fileTag) := by
  unfold MemoryManager.mmCreatePageTable
  split
  · exact within
  · intro other member
    simp only [List.map_append, List.mem_append, List.map_cons, List.map_nil,
      List.mem_singleton] at member
    rcases member with old | rfl
    · exact within other old
    · exact isOwned

theorem tablesWithin_mmResizePageTable (within : TablesWithin owned mm) (count : Nat) :
    TablesWithin owned (mm.mmResizePageTable fileTag count) := by
  unfold MemoryManager.mmResizePageTable
  split
  · exact within
  · exact tablesWithin_modifyTable within fileTag _

theorem tablesWithin_mmRemovePageTable (within : TablesWithin owned mm) :
    TablesWithin owned (mm.mmRemovePageTable fileTag) := by
  rcases mm.mmRemovePageTable_entries fileTag with ⟨_, same⟩ | ⟨table, perm⟩
  · rw [same]
    exact within
  · intro other member
    refine within other ((perm.map Prod.fst).mem_iff.mpr ?_)
    exact List.mem_cons_of_mem _ member

end Tables

section Programs

/-- What a program of the memory manager asks and what it ends with. -/
abbrev KeepsWithin (owned : Set FileTag) (program : Client config (Result × MemoryManager config)) :
    Prop :=
  program.Ensures (BlockWithin owned) fun result => TablesWithin owned result.2

theorem writeBlockToStorage_within (isOwned : fileTag ∈ owned) (pageNumber frame : Nat) :
    (writeBlockToStorage mm fileTag pageNumber frame).Ensures (BlockWithin owned)
      fun _ => True :=
  ⟨⟨rfl, by simpa [StorageRequest.fileTags] using isOwned⟩, fun _ => trivial⟩

theorem mmFindLruVictim_within (within : TablesWithin owned mm) :
    KeepsWithin owned (mmFindLruVictim mm) := by
  unfold mmFindLruVictim
  split
  · exact within
  · rename_i fileTag pageNumber entry oldest
    have isOwned : fileTag ∈ owned := by
      rcases MemoryManager.foldl_olderPage mm.allPages (2 ^ 64 - 1, none) with
        same | ⟨found, member, eq, _⟩
      · rw [oldest] at same
        simp at same
      · obtain rfl := Option.some.inj (oldest.symm.trans eq)
        exact mem_owned_of_mem_allPages within member
    split
    · refine (writeBlockToStorage_within isOwned _ _).bind fun written _ => ?_
      split
      · exact tablesWithin_evict within _ _ _
      · exact within
    · exact tablesWithin_evict within _ _ _

theorem clockRounds_within (within : TablesWithin owned mm) (rounds : Nat) :
    (clockRounds rounds mm).Ensures (BlockWithin owned)
      fun result => ∀ found, result = some found → TablesWithin owned found.2 := by
  induction rounds generalizing mm with
  | zero => simp [clockRounds]
  | succ rounds ih =>
      unfold clockRounds
      have firstWithin := tablesWithin_clockFirstPass within config.frameCount
      split
      · rename_i frame evicted pass
        rw [pass] at firstWithin
        simpa using firstWithin
      · rename_i first pass
        rw [pass] at firstWithin
        have secondWithin :=
          tablesWithin_clockSecondPass firstWithin config.frameCount none (by simp)
        split
        · rename_i second sweep
          rw [sweep] at secondWithin
          exact ih secondWithin.1
        · rename_i fileTag pageNumber entry second sweep
          rw [sweep] at secondWithin
          have isOwned : fileTag ∈ owned := secondWithin.2 _ rfl
          refine (writeBlockToStorage_within isOwned _ _).bind fun written _ => ?_
          split
          · rintro found ⟨⟩
            exact tablesWithin_evict secondWithin.1 fileTag pageNumber entry.frame
          · rintro found ⟨⟩
            exact secondWithin.1

theorem mmFindClockmVictim_within (within : TablesWithin owned mm) :
    KeepsWithin owned (mmFindClockmVictim mm) := by
  unfold mmFindClockmVictim
  split
  · exact within
  · refine (clockRounds_within within 2).bind fun found foundWithin => ?_
    cases found with
    | none => exact within
    | some found => exact foundWithin found rfl

theorem mmFindVictim_within (within : TablesWithin owned mm) :
    KeepsWithin owned (mmFindVictim mm) := by
  unfold mmFindVictim
  split
  · exact mmFindLruVictim_within within
  · exact mmFindClockmVictim_within within

theorem mmAllocateFrame_within (within : TablesWithin owned mm) :
    KeepsWithin owned (mmAllocateFrame mm) := by
  unfold mmAllocateFrame
  split
  · exact within
  · refine (mmFindVictim_within within).bind fun found foundWithin => ?_
    split
    · exact foundWithin
    · exact foundWithin

theorem mmHandlePageFault_within (within : TablesWithin owned mm) (isOwned : fileTag ∈ owned)
    (pageNumber : Nat) : KeepsWithin owned (mmHandlePageFault mm fileTag pageNumber) := by
  unfold mmHandlePageFault
  split
  · exact within
  · rename_i grown grows
    have grownWithin := tablesWithin_growTable within grows
    split
    · exact grownWithin
    · refine (mmAllocateFrame_within grownWithin).bind fun found foundWithin => ?_
      split
      · exact foundWithin
      · rename_i frame allocated
        split
        · exact tablesWithin_mmFreeFrame foundWithin frame
        · refine ⟨⟨rfl, by simpa [StorageRequest.fileTags] using isOwned⟩, fun block => ?_⟩
          cases block with
          | none => exact tablesWithin_mmFreeFrame foundWithin frame
          | some bytes =>
              have loadedWithin : TablesWithin owned (allocated.loadFrame frame bytes) :=
                foundWithin
              dsimp only [Asking.bind]
              split
              · exact tablesWithin_mmFreeFrame loadedWithin frame
              · exact tablesWithin_mmUpdatePageAccess
                  (tablesWithin_modifyTable loadedWithin fileTag _) fileTag pageNumber

theorem ensurePresent_within (within : TablesWithin owned mm) (isOwned : fileTag ∈ owned)
    (pageNumber : Nat) : KeepsWithin owned (ensurePresent mm fileTag pageNumber) := by
  unfold ensurePresent
  split
  · exact within
  · rename_i grown grows
    have grownWithin := tablesWithin_growTable within grows
    split
    · exact grownWithin
    · exact mmHandlePageFault_within grownWithin isOwned pageNumber

theorem tablesWithin_transferPage (within : TablesWithin owned mm) (write : Bool)
    (pageNumber offset : Nat) (buffer : List UInt8) :
    TablesWithin owned (transferPage mm fileTag write pageNumber offset buffer).2 := by
  have accessed := tablesWithin_mmUpdatePageAccess within fileTag pageNumber
  unfold transferPage
  cases write with
  | false => exact accessed
  | true => exact tablesWithin_modifyTable accessed fileTag _

theorem accessLoop_within (within : TablesWithin owned mm) (isOwned : fileTag ∈ owned)
    (write : Bool) (steps pageNumber offset : Nat) (buffer : List UInt8) :
    (accessLoop fileTag write steps pageNumber offset buffer mm).Ensures (BlockWithin owned)
      fun result => TablesWithin owned result.2.2 := by
  induction steps generalizing mm pageNumber offset buffer with
  | zero => exact within
  | succ steps ih =>
      unfold accessLoop
      split
      · exact within
      · refine (ensurePresent_within within isOwned pageNumber).bind
          fun ensured ensuredWithin => ?_
        split
        · exact ensuredWithin
        · exact (ih (tablesWithin_transferPage ensuredWithin write pageNumber offset
            buffer) _ _ _).bind fun rest restWithin => restWithin

theorem mmAccessMemory_within (within : TablesWithin owned mm) (isOwned : fileTag ∈ owned)
    (baseAddress : UInt32) (buffer : List UInt8) (write : Bool) :
    (mmAccessMemory mm fileTag baseAddress buffer write).Ensures (BlockWithin owned)
      fun result => TablesWithin owned result.2.2 := by
  unfold mmAccessMemory
  split
  · exact within
  · exact accessLoop_within within isOwned write _ _ _ buffer

theorem flushPages_within (within : TablesWithin owned mm) (isOwned : fileTag ∈ owned)
    (entries : List PageEntry) : KeepsWithin owned (flushPages fileTag entries mm) := by
  induction entries generalizing mm with
  | nil => exact within
  | cons entry rest ih =>
      unfold flushPages
      split
      · exact ih within
      · split
        · exact within
        · refine (writeBlockToStorage_within isOwned _ _).bind fun written _ => ?_
          split
          · exact ih (tablesWithin_modifyTable within fileTag _)
          · exact within

theorem mmFlushQuery_within (within : TablesWithin owned mm) (isOwned : fileTag ∈ owned) :
    KeepsWithin owned (mmFlushQuery mm fileTag) := by
  unfold mmFlushQuery
  split
  · exact within
  · split
    · exact within
    · exact flushPages_within within isOwned _

theorem flushTables_within (within : TablesWithin owned mm) {fileTags : List FileTag}
    (areOwned : ∀ fileTag ∈ fileTags, fileTag ∈ owned) :
    KeepsWithin owned (flushTables fileTags mm) := by
  induction fileTags generalizing mm with
  | nil => exact within
  | cons fileTag rest ih =>
      refine (flushPages_within within (areOwned fileTag (by simp)) _).bind
        fun flushed flushedWithin => ?_
      split
      · exact flushedWithin
      · exact ih flushedWithin fun other member => areOwned other (by simp [member])

theorem mmFlushAllDirty_within (within : TablesWithin owned mm) :
    KeepsWithin owned (mmFlushAllDirty mm) := by
  unfold mmFlushAllDirty
  split
  · exact within
  · exact flushTables_within within within

end Programs

section Instructions

variable {allocated delivered : Bool} {instruction : Instruction}

/-- An instruction asks only for the File:Tags that it names and those of the tables. -/
theorem executeInstruction_within (within : TablesWithin owned mm)
    (areOwned : ∀ fileTag ∈ instruction.fileTags, fileTag ∈ owned) :
    (executeInstruction allocated delivered mm instruction).Ensures
      (fun request => ∀ fileTag ∈ request.fileTags, fileTag ∈ owned)
      fun outcome => TablesWithin owned outcome.memory := by
  have weaken : ∀ request : StorageRequest config, BlockWithin owned request →
      ∀ fileTag ∈ request.fileTags, fileTag ∈ owned := fun _ block => block.2
  cases instruction with
  | create fileTag => exact ⟨areOwned, fun _ => within⟩
  | truncate fileTag size =>
      rw [executeInstruction]
      split
      · exact within
      · refine ⟨areOwned, fun accepted => ?_⟩
        dsimp only [Asking.bind]
        split
        · exact tablesWithin_mmResizePageTable within _
        · exact within
  | write fileTag base data =>
      have isOwned := areOwned fileTag (by simp [Instruction.fileTags])
      exact ((mmAccessMemory_within (tablesWithin_mmCreatePageTable within isOwned) isOwned
        base data true).mono weaken fun _ kept => kept).bind fun _ kept => kept
  | read fileTag base size =>
      have isOwned := areOwned fileTag (by simp [Instruction.fileTags])
      have created := tablesWithin_mmCreatePageTable within isOwned
      rw [executeInstruction]
      split
      · exact created
      · refine ((mmAccessMemory_within created isOwned base _ false).mono weaken
          fun _ kept => kept).bind fun _ kept => ?_
        split
        · exact kept
        · exact kept
  | tag source target => exact ⟨areOwned, fun _ => within⟩
  | commit fileTag =>
      have isOwned := areOwned fileTag (by simp [Instruction.fileTags])
      refine ((mmFlushQuery_within within isOwned).mono weaken fun _ kept => kept).bind
        fun flushed kept => ?_
      split
      · exact ⟨areOwned, fun _ => kept⟩
      · exact kept
  | flush fileTag =>
      have isOwned := areOwned fileTag (by simp [Instruction.fileTags])
      exact ((mmFlushQuery_within within isOwned).mono weaken fun _ kept => kept).bind
        fun _ kept => kept
  | delete fileTag => exact ⟨areOwned, fun _ => tablesWithin_mmRemovePageTable within⟩
  | finish => exact within

theorem executeInstruction_endsWith :
    (executeInstruction allocated delivered mm instruction).EndsWith
      fun request => request.ofInstruction = true := by
  have everywhere : TablesWithin Set.univ mm := fun _ _ => trivial
  have block : ∀ request : StorageRequest config, BlockWithin Set.univ request →
      ¬ request.ofInstruction = true := by
    intro request within
    simp [within.1]
  cases instruction with
  | create fileTag => exact ⟨fun _ _ => ⟨_, rfl⟩, fun _ => trivial⟩
  | truncate fileTag size =>
      rw [executeInstruction]
      split
      · trivial
      · refine ⟨fun _ answer => ?_, fun answer => ?_⟩
        · dsimp only [Asking.bind]
          split
          · exact ⟨_, rfl⟩
          · exact ⟨_, rfl⟩
        · dsimp only [Asking.bind]
          split
          · trivial
          · trivial
  | write fileTag base data =>
      refine Asking.EndsWith.bind ((mmAccessMemory_within (tablesWithin_mmCreatePageTable
        everywhere trivial) trivial base data true).mono block fun _ _ => trivial) ?_
      exact fun _ _ => trivial
  | read fileTag base size =>
      rw [executeInstruction]
      split
      · trivial
      · refine Asking.EndsWith.bind ((mmAccessMemory_within (tablesWithin_mmCreatePageTable
          everywhere trivial) trivial base _ false).mono block fun _ _ => trivial) ?_
        intro result _
        split
        · trivial
        · trivial
  | tag source target => exact ⟨fun _ _ => ⟨_, rfl⟩, fun _ => trivial⟩
  | commit fileTag =>
      refine Asking.EndsWith.bind
        ((mmFlushQuery_within everywhere trivial).mono block fun _ _ => trivial) ?_
      intro flushed _
      split
      · exact ⟨fun _ _ => ⟨_, rfl⟩, fun _ => trivial⟩
      · trivial
  | flush fileTag =>
      refine Asking.EndsWith.bind
        ((mmFlushQuery_within everywhere trivial).mono block fun _ _ => trivial) ?_
      exact fun _ _ => trivial
  | delete fileTag => exact ⟨fun _ _ => ⟨_, rfl⟩, fun _ => trivial⟩
  | finish => trivial

end Instructions

end Client

end Worker

end MasterOfFiles
