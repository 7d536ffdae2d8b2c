import MasterOfFiles.WorkerInterpreter

/-!
# The record of the last victim

Next to its tables the memory manager keeps what the log says about a replacement: the strings
of the entry whose page was evicted last, the number of that page and whether it still has to be
reported.  The strings belong to the entry.  `mm_create_page_table` copies them to the heap and
`mm_remove_page_table` frees them; the record only points to them.
-/

namespace MasterOfFiles

namespace Worker

/-- A string that `strdup` has copied to the heap.  No two copies share a block, and a block that
was freed is not used again. -/
structure HeapString where
  block : Nat
  text : String
deriving DecidableEq

/-- The strings of a `file_tag_entry_t`. -/
structure EntryNames where
  file : HeapString
  tag : HeapString
deriving DecidableEq

/-- What `mm_handle_page_fault` logs about the page that was replaced. -/
structure Replacement where
  file : Option HeapString
  tag : Option HeapString
  pageNumber : Nat
deriving DecidableEq

/-- The memory manager with the strings of its entries and the `last_victim` fields; the first
block that `strdup` has not given out yet is `nextBlock`. -/
structure RecordedMemory (config : MemoryConfig) where
  memory : MemoryManager config
  names : FileTag → Option EntryNames
  nextBlock : Nat
  lastVictimFile : Option HeapString
  lastVictimTag : Option HeapString
  lastVictimPage : Nat
  lastVictimValid : Bool

namespace RecordedMemory

variable {config : MemoryConfig}

/-- Replace the tables and leave the record alone. -/
def withMemory (state : RecordedMemory config) (memory : MemoryManager config) :
    RecordedMemory config :=
  { state with memory := memory }

def mmCreatePageTable (state : RecordedMemory config) (fileTag : FileTag) :
    RecordedMemory config :=
  match state.memory.findPageTable fileTag with
  | some _ => state
  | none =>
    { state with
      memory := state.memory.mmCreatePageTable fileTag
      names := Function.update state.names fileTag
        (some ⟨⟨state.nextBlock, fileTag.file⟩, ⟨state.nextBlock + 1, fileTag.tag⟩⟩)
      nextBlock := state.nextBlock + 2 }

def mmRemovePageTable (state : RecordedMemory config) (fileTag : FileTag) :
    RecordedMemory config :=
  match state.memory.findPageTable fileTag with
  | none => state
  | some _ =>
    { state with
      memory := state.memory.mmRemovePageTable fileTag
      names := Function.update state.names fileTag none }

/-- The assignments to `last_victim_file`, `last_victim_tag`, `last_victim_page` and
`last_victim_valid` that end a search. -/
def recordVictim (state : RecordedMemory config) (fileTag : FileTag) (pageNumber : Nat) :
    RecordedMemory config :=
  { state with
    lastVictimFile := (state.names fileTag).map EntryNames.file
    lastVictimTag := (state.names fileTag).map EntryNames.tag
    lastVictimPage := pageNumber
    lastVictimValid := true }

def mmFindLruVictim (faults : StorageFaults) (state : RecordedMemory config) :
    Option Nat × RecordedMemory config :=
  match (state.memory.allPages.foldl MemoryManager.olderPage (2 ^ 64 - 1, none)).2 with
  | none => (none, state)
  | some (fileTag, pageNumber, entry) =>
    if entry.dirty then
      match state.memory.writeBlockToStorage faults fileTag pageNumber entry.frame with
      | (false, failed) => (none, state.withMemory failed)
      | (true, written) =>
        (some entry.frame, (state.withMemory
          (written.evict fileTag pageNumber entry.frame)).recordVictim fileTag pageNumber)
    else
      (some entry.frame, (state.withMemory
        (state.memory.evict fileTag pageNumber entry.frame)).recordVictim fileTag pageNumber)

/-- The first pass of `mm_find_clockm_victim`. -/
def clockFirstPass : Nat → RecordedMemory config → Option Nat × RecordedMemory config
  | 0, state => (none, state)
  | steps + 1, state =>
    match state.memory.pageAtClock with
    | none => clockFirstPass steps (state.withMemory state.memory.advanceClock)
    | some (fileTag, pageNumber, entry) =>
      if entry.useBit = false ∧ entry.dirty = false then
        let evicted := state.memory.evict fileTag pageNumber state.memory.clockPointer
        (some state.memory.clockPointer,
          (state.withMemory evicted.advanceClock).recordVictim fileTag pageNumber)
      else clockFirstPass steps (state.withMemory state.memory.advanceClock)

/-- The `while (1)` loop of `mm_find_clockm_victim`; the outer `none` says that it is not over
after some number of rounds. -/
def clockRounds (faults : StorageFaults) :
    Nat → RecordedMemory config → Option (Option Nat × RecordedMemory config)
  | 0, _ => none
  | rounds + 1, state =>
    match clockFirstPass config.frameCount state with
    | (some frame, evicted) => some (some frame, evicted)
    | (none, first) =>
      match MemoryManager.clockSecondPass config.frameCount none first.memory with
      | (none, second) => clockRounds faults rounds (first.withMemory second)
      | (some (fileTag, pageNumber, entry), second) =>
        match second.writeBlockToStorage faults fileTag pageNumber entry.frame with
        | (false, failed) => some (none, first.withMemory failed)
        | (true, written) =>
          some (some entry.frame, (first.withMemory
            { written.evict fileTag pageNumber entry.frame with
              clockPointer := (entry.frame + 1) % config.frameCount }).recordVictim fileTag
                pageNumber)

def mmFindClockmVictim (faults : StorageFaults) (rounds : Nat) (state : RecordedMemory config) :
    Option (Option Nat × RecordedMemory config) :=
  if config.frameCount = 0 then some (none, state) else clockRounds faults rounds state

def findVictim (faults : StorageFaults) (rounds : Nat) (state : RecordedMemory config) :
    Option (Option Nat × RecordedMemory config) :=
  match config.policy with
  | .lru => some (state.mmFindLruVictim faults)
  | .clockM => state.mmFindClockmVictim faults rounds

def mmAllocateFrame (faults : StorageFaults) (rounds : Nat) (state : RecordedMemory config) :
    Option (Option Nat × RecordedMemory config) :=
  match (List.range config.frameCount).find? fun frame => !state.memory.used frame with
  | some frame => some (some frame, state.withMemory (state.memory.setUsed frame true))
  | none =>
    (state.findVictim faults rounds).map fun search =>
      match search with
      | (some frame, evicted) =>
        (some frame, evicted.withMemory (evicted.memory.setUsed frame true))
      | (none, failed) => (none, failed)

/-- The replacement that the end of a page fault reports. -/
def replacement (state : RecordedMemory config) : Option Replacement :=
  if state.lastVictimValid then
    some ⟨state.lastVictimFile, state.lastVictimTag, state.lastVictimPage⟩
  else none

/-- The rest of `mm_handle_page_fault` once it has a frame: whether it returns 0 and the
replacement that it reports. -/
def useFrame (faults : StorageFaults) (allocated : RecordedMemory config) (fileTag : FileTag)
    (pageNumber frame : Nat) : Bool × Option Replacement × RecordedMemory config :=
  if config.frameCount ≤ frame then
    (false, none, allocated.withMemory (allocated.memory.mmFreeFrame frame))
  else
    match allocated.memory.readBlockFromStorage faults fileTag pageNumber with
    | (none, failed) => (false, none, allocated.withMemory (failed.mmFreeFrame frame))
    | (some bytes, asked) =>
      let loaded := asked.loadFrame frame bytes
      if (loaded.page fileTag pageNumber).isNone then
        (false, none, allocated.withMemory (loaded.mmFreeFrame frame))
      else
        (true, allocated.replacement,
          { allocated.withMemory ((loaded.ptMap fileTag pageNumber frame).mmUpdatePageAccess
              fileTag pageNumber) with
            lastVictimValid := false })

/-- `mm_handle_page_fault`; the outer `none` says that the search for a victim is not over after
some number of rounds. -/
def mmHandlePageFault (faults : StorageFaults) (rounds : Nat) (state : RecordedMemory config)
    (fileTag : FileTag) (pageNumber : Nat) :
    Option (Bool × Option Replacement × RecordedMemory config) :=
  match state.memory.growTable fileTag pageNumber with
  | none => some (false, none, state)
  | some grown =>
    if !grown.connected then some (false, none, state.withMemory grown)
    else
      ((state.withMemory grown).mmAllocateFrame faults rounds).map fun allocation =>
        match allocation with
        | (none, failed) => (false, none, failed)
        | (some frame, allocated) => allocated.useFrame faults fileTag pageNumber frame

section Tables

variable (faults : StorageFaults) (rounds : Nat) (state : RecordedMemory config)

def tables (search : Option Nat × RecordedMemory config) : Option Nat × MemoryManager config :=
  (search.1, search.2.memory)

theorem tables_mmFindLruVictim :
    tables (state.mmFindLruVictim faults) = state.memory.mmFindLruVictim faults := by
  unfold mmFindLruVictim MemoryManager.mmFindLruVictim
  cases (state.memory.allPages.foldl MemoryManager.olderPage (2 ^ 64 - 1, none)).2 with
  | none => rfl
  | some page =>
      obtain ⟨fileTag, pageNumber, entry⟩ := page
      by_cases dirty : entry.dirty = true
      · simp only [if_pos dirty]
        cases state.memory.writeBlockToStorage faults fileTag pageNumber entry.frame with
        | mk done written => cases done <;> rfl
      · simp only [if_neg dirty]
        rfl

theorem tables_clockFirstPass (steps : Nat) :
    tables (clockFirstPass steps state) = MemoryManager.clockFirstPass steps state.memory := by
  induction steps generalizing state with
  | zero => rfl
  | succ steps ih =>
      rw [clockFirstPass, MemoryManager.clockFirstPass]
      cases state.memory.pageAtClock with
      | none => exact ih (state.withMemory state.memory.advanceClock)
      | some page =>
          obtain ⟨fileTag, pageNumber, entry⟩ := page
          by_cases ideal : entry.useBit = false ∧ entry.dirty = false
          · simp only [if_pos ideal]
            rfl
          · simp only [if_neg ideal]
            exact ih (state.withMemory state.memory.advanceClock)

theorem tables_clockRounds :
    (clockRounds faults rounds state).map tables =
      MemoryManager.clockRounds faults rounds state.memory := by
  induction rounds generalizing state with
  | zero => rfl
  | succ rounds ih =>
      rw [clockRounds, MemoryManager.clockRounds, ← tables_clockFirstPass]
      obtain ⟨result, first⟩ := clockFirstPass config.frameCount state
      cases result with
      | some frame => rfl
      | none =>
          simp only [tables]
          cases MemoryManager.clockSecondPass config.frameCount none first.memory with
          | mk candidate second =>
              cases candidate with
              | none => exact ih (first.withMemory second)
              | some page =>
                  obtain ⟨fileTag, pageNumber, entry⟩ := page
                  simp only
                  cases second.writeBlockToStorage faults fileTag pageNumber entry.frame with
                  | mk done written => cases done <;> rfl

theorem tables_mmFindClockmVictim :
    ((state.mmFindClockmVictim faults 2).map tables).getD (none, state.memory) =
      state.memory.mmFindClockmVictim faults := by
  unfold mmFindClockmVictim MemoryManager.mmFindClockmVictim
  by_cases empty : config.frameCount = 0
  · rw [if_pos empty, if_pos empty]
    rfl
  · rw [if_neg empty, if_neg empty, tables_clockRounds]

theorem tables_mmAllocateFrame :
    ((state.mmAllocateFrame faults 2).map tables).getD (none, state.memory) =
      state.memory.mmAllocateFrame faults := by
  unfold mmAllocateFrame MemoryManager.mmAllocateFrame
  cases (List.range config.frameCount).find? fun frame => !state.memory.used frame with
  | some frame => rfl
  | none =>
      simp only [findVictim]
      cases config.policy with
      | lru =>
          simp only [← tables_mmFindLruVictim]
          obtain ⟨result, after⟩ := state.mmFindLruVictim faults
          cases result <;> rfl
      | clockM =>
          simp only [← tables_mmFindClockmVictim]
          cases state.mmFindClockmVictim faults 2 with
          | none => rfl
          | some search =>
              obtain ⟨result, after⟩ := search
              cases result <;> rfl

theorem memory_mmHandlePageFault {fileTag : FileTag} {pageNumber : Nat} {done : Bool}
    {report : Option Replacement} {after : RecordedMemory config}
    (returns : state.mmHandlePageFault faults 2 fileTag pageNumber = some (done, report, after)) :
    state.memory.mmHandlePageFault faults fileTag pageNumber = (done, after.memory) := by
  unfold mmHandlePageFault at returns
  unfold MemoryManager.mmHandlePageFault
  cases growing : state.memory.growTable fileTag pageNumber with
  | none =>
      rw [growing] at returns
      cases returns
      rfl
  | some grown =>
      rw [growing] at returns
      simp only at returns ⊢
      split at returns
      · rename_i apart
        cases returns
        rw [if_pos apart]
        rfl
      · rename_i connected
        rw [if_neg connected]
        obtain ⟨⟨result, allocated⟩, allocation, ends⟩ := Option.map_eq_some_iff.mp returns
        have same := tables_mmAllocateFrame faults (state.withMemory grown)
        rw [allocation] at same
        change (result, allocated.memory) = grown.mmAllocateFrame faults at same
        rw [← same]
        cases result with
        | none =>
            cases ends
            rfl
        | some frame =>
            have outcome := congrArg (fun fault => (fault.1, fault.2.2.memory)) ends
            dsimp only at outcome
            rw [← outcome, useFrame]
            by_cases outside : config.frameCount ≤ frame
            · simp only [if_pos outside]
              rfl
            · simp only [if_neg outside]
              cases allocated.memory.readBlockFromStorage faults fileTag pageNumber with
              | mk bytes asked =>
                  cases bytes with
                  | none => rfl
                  | some bytes =>
                      by_cases missing :
                          ((asked.loadFrame frame bytes).page fileTag pageNumber).isNone = true
                      · simp only [if_pos missing]
                        rfl
                      · simp only [if_neg missing]
                        rfl

end Tables

end RecordedMemory

end Worker

end MasterOfFiles
