import MasterOfFiles.Asking
import MasterOfFiles.WorkerInterpreter

/-!
# What the Worker asks Storage

The functions of the memory manager and `execute_instruction` as programs that ask
Storage, request by request, so that anything may happen in Storage in between.  A
Storage that only holds blocks and fails as it is told turns them back into the
functions of the other model.  The fields `storage` and `requests` of a memory manager
belong to that Storage, and the programs leave them alone.
-/

namespace MasterOfFiles

namespace Worker

/-- The requests of `storage.c`, without the query id. -/
inductive StorageRequest (config : MemoryConfig)
  | readBlock (fileTag : FileTag) (blockNumber : Nat)
  | writeBlock (fileTag : FileTag) (blockNumber : Nat) (bytes : Page config.pageSize)
  | createFile (fileTag : FileTag)
  | truncateFile (fileTag : FileTag) (size : Int32)
  | forkFile (source target : FileTag)
  | commitFile (fileTag : FileTag)
  | deleteFile (fileTag : FileTag)

namespace StorageRequest

variable {config : MemoryConfig}

/-- What the Worker takes from the response: the bytes of a block that it reads, and else
whether Storage accepted the request. -/
abbrev Answer : StorageRequest config → Type
  | .readBlock _ _ => Option (Page config.pageSize)
  | _ => Bool

/-- The request comes from `execute_instruction` and not from the memory manager. -/
def ofInstruction : StorageRequest config → Bool
  | .readBlock _ _ => false
  | .writeBlock _ _ _ => false
  | _ => true

def fileTags : StorageRequest config → List FileTag
  | .readBlock fileTag _ => [fileTag]
  | .writeBlock fileTag _ _ => [fileTag]
  | .createFile fileTag => [fileTag]
  | .truncateFile fileTag _ => [fileTag]
  | .forkFile source target => [source, target]
  | .commitFile fileTag => [fileTag]
  | .deleteFile fileTag => [fileTag]

end StorageRequest

abbrev Client (config : MemoryConfig) (Result : Type) : Type :=
  Asking (@StorageRequest.Answer config) Result

namespace Client

variable {config : MemoryConfig}

/-- Send a request to Storage and wait for the response. -/
def ask (request : StorageRequest config) : Client config request.Answer :=
  Asking.request request

def writeBlockToStorage (mm : MemoryManager config) (fileTag : FileTag)
    (blockNumber frame : Nat) : Client config Bool :=
  ask (.writeBlock fileTag blockNumber (mm.physicalMemory frame))

def mmFindLruVictim (mm : MemoryManager config) :
    Client config (Option Nat × MemoryManager config) :=
  match (mm.allPages.foldl MemoryManager.olderPage (2 ^ 64 - 1, none)).2 with
  | none => pure (none, mm)
  | some (fileTag, pageNumber, entry) => do
    if entry.dirty then
      let written ← writeBlockToStorage mm fileTag pageNumber entry.frame
      if written then
        pure (some entry.frame, mm.evict fileTag pageNumber entry.frame)
      else pure (none, mm)
    else pure (some entry.frame, mm.evict fileTag pageNumber entry.frame)

/-- The `while (1)` loop of `mm_find_clockm_victim`, given up after some number of
rounds. -/
def clockRounds :
    Nat → MemoryManager config → Client config (Option (Option Nat × MemoryManager config))
  | 0, _ => pure none
  | rounds + 1, mm =>
    match MemoryManager.clockFirstPass config.frameCount mm with
    | (some frame, evicted) => pure (some (some frame, evicted))
    | (none, first) =>
      match MemoryManager.clockSecondPass config.frameCount none first with
      | (none, second) => clockRounds rounds second
      | (some (fileTag, pageNumber, entry), second) => do
        let written ← writeBlockToStorage second fileTag pageNumber entry.frame
        if written then
          pure (some (some entry.frame,
            { second.evict fileTag pageNumber entry.frame with
              clockPointer := (entry.frame + 1) % config.frameCount }))
        else pure (some (none, second))

def mmFindClockmVictim (mm : MemoryManager config) :
    Client config (Option Nat × MemoryManager config) :=
  if config.frameCount = 0 then pure (none, mm)
  else do
    let found ← clockRounds 2 mm
    pure (found.getD (none, mm))

def mmFindVictim (mm : MemoryManager config) :
    Client config (Option Nat × MemoryManager config) :=
  match config.policy with
  | .lru => mmFindLruVictim mm
  | .clockM => mmFindClockmVictim mm

def mmAllocateFrame (mm : MemoryManager config) :
    Client config (Option Nat × MemoryManager config) :=
  match (List.range config.frameCount).find? fun frame => !mm.used frame with
  | some frame => pure (some frame, mm.setUsed frame true)
  | none => do
    let found ← mmFindVictim mm
    match found with
    | (some frame, evicted) => pure (some frame, evicted.setUsed frame true)
    | (none, failed) => pure (none, failed)

def mmHandlePageFault (mm : MemoryManager config) (fileTag : FileTag) (pageNumber : Nat) :
    Client config (Bool × MemoryManager config) :=
  match mm.growTable fileTag pageNumber with
  | none => pure (false, mm)
  | some grown =>
    if !grown.connected then pure (false, grown)
    else do
      let found ← mmAllocateFrame grown
      match found with
      | (none, failed) => pure (false, failed)
      | (some frame, allocated) =>
        if config.frameCount ≤ frame then pure (false, allocated.mmFreeFrame frame)
        else
          let block ← ask (.readBlock fileTag pageNumber)
          match block with
          | none => pure (false, allocated.mmFreeFrame frame)
          | some bytes =>
            let loaded := allocated.loadFrame frame bytes
            if (loaded.page fileTag pageNumber).isNone then
              pure (false, loaded.mmFreeFrame frame)
            else
              pure (true, (loaded.ptMap fileTag pageNumber frame).mmUpdatePageAccess fileTag
                pageNumber)

/-- Make a page present, as the body of the loop of `mm_access_memory` does. -/
def ensurePresent (mm : MemoryManager config) (fileTag : FileTag) (pageNumber : Nat) :
    Client config (Bool × MemoryManager config) :=
  match mm.growTable fileTag pageNumber with
  | none => pure (false, mm)
  | some grown =>
    if (grown.page fileTag pageNumber).any PageEntry.present then pure (true, grown)
    else mmHandlePageFault grown fileTag pageNumber

/-- What the loop of `mm_access_memory` does with a present page: the bytes it leaves in
the buffer for the page, and the memory. -/
def transferPage (mm : MemoryManager config) (fileTag : FileTag) (write : Bool)
    (pageNumber offset : Nat) (buffer : List UInt8) : List UInt8 × MemoryManager config :=
  let frame := ((mm.page fileTag pageNumber).map PageEntry.frame).getD 0
  let count := min (config.pageSize - offset) buffer.length
  let accessed := mm.mmUpdatePageAccess fileTag pageNumber
  if write then
    (buffer.take count,
      (accessed.loadFrame frame (MemoryManager.patchPage (accessed.physicalMemory frame)
        offset (buffer.take count))).ptSetDirty fileTag pageNumber true)
  else (MemoryManager.pageChunk (accessed.physicalMemory frame) offset count, accessed)

/-- The loop of `mm_access_memory`. -/
def accessLoop (fileTag : FileTag) (write : Bool) :
    Nat → Nat → Nat → List UInt8 → MemoryManager config →
      Client config (Bool × List UInt8 × MemoryManager config)
  | 0, _, _, buffer, mm => pure (buffer.isEmpty, buffer, mm)
  | steps + 1, pageNumber, offset, buffer, mm =>
    if buffer.isEmpty then pure (true, buffer, mm)
    else do
      let ensured ← ensurePresent mm fileTag pageNumber
      match ensured with
      | (false, failed) => pure (false, buffer, failed)
      | (true, present) =>
        let transferred := transferPage present fileTag write pageNumber offset buffer
        let rest ← accessLoop fileTag write steps ((pageNumber + 1) % 2 ^ 32) 0
          (buffer.drop (min (config.pageSize - offset) buffer.length)) transferred.2
        pure (rest.1, transferred.1 ++ rest.2.1, rest.2.2)

/-- `mm_access_memory`. -/
def mmAccessMemory (mm : MemoryManager config) (fileTag : FileTag) (baseAddress : UInt32)
    (buffer : List UInt8) (write : Bool) :
    Client config (Bool × List UInt8 × MemoryManager config) :=
  if buffer.isEmpty ∨ (mm.findPageTable fileTag).isNone then pure (false, buffer, mm)
  else
    accessLoop fileTag write buffer.length (baseAddress.toNat / config.pageSize)
      (baseAddress.toNat % config.pageSize) buffer mm

/-- The write-back loop of the two flush functions. -/
def flushPages (fileTag : FileTag) :
    List PageEntry → MemoryManager config → Client config (Bool × MemoryManager config)
  | [], mm => pure (true, mm)
  | entry :: rest, mm =>
    if !entry.present then flushPages fileTag rest mm
    else if config.frameCount ≤ entry.frame then pure (false, mm)
    else do
      let written ← writeBlockToStorage mm fileTag entry.pageNumber entry.frame
      if written then
        flushPages fileTag rest (mm.ptSetDirty fileTag entry.pageNumber false)
      else pure (false, mm)

def mmFlushQuery (mm : MemoryManager config) (fileTag : FileTag) :
    Client config (Bool × MemoryManager config) :=
  if !mm.connected then pure (false, mm)
  else
    match mm.findPageTable fileTag with
    | none => pure (true, mm)
    | some table => flushPages fileTag (MemoryManager.dirtyEntries table) mm

/-- The loop of `mm_flush_all_dirty` over the File:Tags. -/
def flushTables :
    List FileTag → MemoryManager config → Client config (Bool × MemoryManager config)
  | [], mm => pure (true, mm)
  | fileTag :: rest, mm => do
    let flushed ← flushPages fileTag
      (MemoryManager.dirtyEntries ((mm.findPageTable fileTag).getD [])) mm
    match flushed with
    | (false, failed) => pure (false, failed)
    | (true, flushed) => flushTables rest flushed

def mmFlushAllDirty (mm : MemoryManager config) :
    Client config (Bool × MemoryManager config) :=
  if !mm.connected then pure (false, mm)
  else flushTables (mm.entries.map Prod.fst) mm

/-- `execute_instruction`; the flags say whether `malloc` and `realloc` succeed and
whether the Master gets the bytes of a READ. -/
def executeInstruction (allocated delivered : Bool) (mm : MemoryManager config) :
    Instruction → Client config (InstructionOutcome config)
  | .create fileTag => do
    let accepted ← ask (.createFile fileTag)
    pure ⟨accepted, none, mm⟩
  | .truncate fileTag size =>
    if sizeOfInt size % config.pageSize ≠ 0 then pure ⟨false, none, mm⟩
    else do
      let accepted ← ask (.truncateFile fileTag size)
      if accepted && allocated then
        pure ⟨true, none, mm.mmResizePageTable fileTag (newPageCount config size)⟩
      else pure ⟨accepted, none, mm⟩
  | .write fileTag base data => do
    let result ← mmAccessMemory (mm.mmCreatePageTable fileTag) fileTag base data true
    pure ⟨result.1, none, result.2.2⟩
  | .read fileTag base size =>
    let created := mm.mmCreatePageTable fileTag
    if !allocated then pure ⟨false, none, created⟩
    else do
      let result ← mmAccessMemory created fileTag base
        (List.replicate (sizeOfInt size) 0) false
      if result.1 && delivered then pure ⟨true, some result.2.1, result.2.2⟩
      else pure ⟨false, none, result.2.2⟩
  | .tag source target => do
    let accepted ← ask (.forkFile source target)
    pure ⟨accepted, none, mm⟩
  | .commit fileTag => do
    let flushed ← mmFlushQuery mm fileTag
    if flushed.1 then
      let accepted ← ask (.commitFile fileTag)
      pure ⟨accepted, none, flushed.2⟩
    else pure ⟨false, none, flushed.2⟩
  | .flush fileTag => do
    let flushed ← mmFlushQuery mm fileTag
    pure ⟨flushed.1, none, flushed.2⟩
  | .delete fileTag => do
    let accepted ← ask (.deleteFile fileTag)
    pure ⟨accepted, none, mm.mmRemovePageTable fileTag⟩
  | .finish => pure ⟨true, none, mm⟩

end Client

end Worker

end MasterOfFiles
