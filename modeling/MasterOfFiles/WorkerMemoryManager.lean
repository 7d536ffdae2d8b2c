import Mathlib.Data.List.Basic
import Mathlib.Data.Vector.Basic
import Mathlib.Logic.Function.Basic

/-!
# The memory manager of the Worker

Page tables, frames and the two replacement policies, together with the
Storage blocks that the pages are loaded from and written back to.  A request
to Storage may fail and then leaves its blocks alone; which requests fail is
given by a `StorageFaults` sequence, so every pattern of failures is covered.
The simulated delays are left out, and so is the record of the last victim, which
is only logged; a later file adds it.
-/

namespace MasterOfFiles

namespace Worker

/-- A File:Tag as the Worker names it. -/
structure FileTag where
  file : String
  tag : String
deriving DecidableEq

/-- The bytes of one page, which is also the size of a Storage block. -/
abbrev Page (size : Nat) : Type := Vector UInt8 size

/-- The replacement policies of `pt_replacement_t`. -/
inductive ReplacementPolicy
  | clockM
  | lru
deriving DecidableEq

/-- The parameters of `mm_create`; the page size is the block size that Storage
announces and the memory size is an `int`. -/
structure MemoryConfig where
  pageSize : Nat
  frameCount : Nat
  policy : ReplacementPolicy
  pageSize_pos : 0 < pageSize
  pageSize_lt : pageSize < 2 ^ 32
  frameCount_lt : frameCount < 2 ^ 31

theorem MemoryConfig.offset_lt (config : MemoryConfig) (address : Nat) :
    address % config.pageSize < config.pageSize :=
  Nat.mod_lt _ config.pageSize_pos

theorem MemoryConfig.two_bytes : 2 < 2 ^ 32 := by decide

theorem MemoryConfig.two_frames : 2 < 2 ^ 31 := by decide

/-- A `pt_entry_t`. -/
structure PageEntry where
  pageNumber : Nat
  frame : Nat
  dirty : Bool
  present : Bool
  lastAccessTime : Nat
  useBit : Bool
deriving DecidableEq

/-- The entry that `pt_create` and `pt_resize` put at an index. -/
def freshEntry (pageNumber : Nat) : PageEntry where
  pageNumber := pageNumber
  frame := 0
  dirty := false
  present := false
  lastAccessTime := 0
  useBit := false

/-- `pt_resize` on the entries of a table; `none` is a failure. -/
def ptResize (table : List PageEntry) (newPageCount : Nat) : Option (List PageEntry) :=
  if newPageCount = 0 then none
  else
    some (table.take newPageCount ++
      (List.range' table.length (newPageCount - table.length)).map freshEntry)

/-- Which requests to Storage fail, by their number. -/
abbrev StorageFaults : Type := Nat → Bool

structure MemoryManager (config : MemoryConfig) where
  entries : List (FileTag × List PageEntry)
  used : Nat → Bool
  clockPointer : Nat
  physicalMemory : Nat → Page config.pageSize
  globalTimestamp : Nat
  connected : Bool
  storage : FileTag → Nat → Page config.pageSize
  requests : Nat

namespace MemoryManager

variable {config : MemoryConfig}

/-- `mm_find_page_table`. -/
def findPageTable (mm : MemoryManager config) (fileTag : FileTag) :
    Option (List PageEntry) :=
  (mm.entries.find? fun entry => decide (entry.1 = fileTag)).map Prod.snd

def page (mm : MemoryManager config) (fileTag : FileTag) (pageNumber : Nat) :
    Option PageEntry :=
  (mm.findPageTable fileTag).bind fun table => table[pageNumber]?

def modifyTable (mm : MemoryManager config) (fileTag : FileTag)
    (change : List PageEntry → List PageEntry) : MemoryManager config :=
  { mm with
    entries := mm.entries.map fun entry =>
      if entry.1 = fileTag then (entry.1, change entry.2) else entry }

/-- Replace one entry of a page table, when it is in range. -/
def modifyPage (mm : MemoryManager config) (fileTag : FileTag) (pageNumber : Nat)
    (change : PageEntry → PageEntry) : MemoryManager config :=
  mm.modifyTable fileTag fun table => table.modify pageNumber change

def ptMap (mm : MemoryManager config) (fileTag : FileTag) (pageNumber frame : Nat) :
    MemoryManager config :=
  mm.modifyPage fileTag pageNumber fun entry =>
    { entry with frame := frame, present := true, dirty := false }

def ptUnmap (mm : MemoryManager config) (fileTag : FileTag) (pageNumber : Nat) :
    MemoryManager config :=
  mm.modifyPage fileTag pageNumber fun entry =>
    { entry with frame := 0, present := false, dirty := false }

def ptSetDirty (mm : MemoryManager config) (fileTag : FileTag) (pageNumber : Nat)
    (dirty : Bool) : MemoryManager config :=
  mm.modifyPage fileTag pageNumber fun entry => { entry with dirty := dirty }

/-- Every entry of every table, in the order in which the searches visit them. -/
def allPages (mm : MemoryManager config) : List (FileTag × Nat × PageEntry) :=
  mm.entries.flatMap fun entry =>
    entry.2.zipIdx.map fun indexed => (entry.1, indexed.2, indexed.1)

def mmFindPageForFrame (mm : MemoryManager config) (frame : Nat) :
    Option (FileTag × Nat × PageEntry) :=
  mm.allPages.find? fun candidate =>
    candidate.2.2.present && decide (candidate.2.2.frame = frame)

def mmCreatePageTable (mm : MemoryManager config) (fileTag : FileTag) :
    MemoryManager config :=
  match mm.findPageTable fileTag with
  | some _ => mm
  | none => { mm with entries := mm.entries ++ [(fileTag, [freshEntry 0])] }

def setUsed (mm : MemoryManager config) (frame : Nat) (value : Bool) :
    MemoryManager config :=
  { mm with used := Function.update mm.used frame value }

def mmFreeFrame (mm : MemoryManager config) (frame : Nat) : MemoryManager config :=
  if config.frameCount ≤ frame then mm else mm.setUsed frame false

def readBlockFromStorage (faults : StorageFaults) (mm : MemoryManager config)
    (fileTag : FileTag) (blockNumber : Nat) :
    Option (Page config.pageSize) × MemoryManager config :=
  (if faults mm.requests then none else some (mm.storage fileTag blockNumber),
    { mm with requests := mm.requests + 1 })

/-- Storage accepts the bytes of a frame as a block. -/
def storeFrame (mm : MemoryManager config) (fileTag : FileTag) (blockNumber frame : Nat) :
    MemoryManager config :=
  { mm with
    requests := mm.requests + 1
    storage := Function.update mm.storage fileTag
      (Function.update (mm.storage fileTag) blockNumber (mm.physicalMemory frame)) }

/-- `write_block_to_storage`, with the bytes of a frame; the flag says whether
it succeeded. -/
def writeBlockToStorage (faults : StorageFaults) (mm : MemoryManager config)
    (fileTag : FileTag) (blockNumber frame : Nat) : Bool × MemoryManager config :=
  if faults mm.requests then (false, { mm with requests := mm.requests + 1 })
  else (true, mm.storeFrame fileTag blockNumber frame)

def mmUpdatePageAccess (mm : MemoryManager config) (fileTag : FileTag)
    (pageNumber : Nat) : MemoryManager config :=
  match config.policy with
  | .lru =>
    if (mm.page fileTag pageNumber).isNone then mm
    else
      let newTimestamp := (mm.globalTimestamp + 1) % 2 ^ 64
      { mm.modifyPage fileTag pageNumber fun entry =>
          { entry with lastAccessTime := newTimestamp } with
        globalTimestamp := newTimestamp }
  | .clockM => mm.modifyPage fileTag pageNumber fun entry => { entry with useBit := true }

/-- One comparison of the search of `mm_find_lru_victim`. -/
def olderPage (best : Nat × Option (FileTag × Nat × PageEntry))
    (candidate : FileTag × Nat × PageEntry) :
    Nat × Option (FileTag × Nat × PageEntry) :=
  if candidate.2.2.present ∧ candidate.2.2.lastAccessTime < best.1 then
    (candidate.2.2.lastAccessTime, some candidate)
  else best

/-- Unmap a page and mark its frame unused. -/
def evict (mm : MemoryManager config) (fileTag : FileTag) (pageNumber frame : Nat) :
    MemoryManager config :=
  (mm.ptUnmap fileTag pageNumber).setUsed frame false

def mmFindLruVictim (faults : StorageFaults) (mm : MemoryManager config) :
    Option Nat × MemoryManager config :=
  match (mm.allPages.foldl olderPage (2 ^ 64 - 1, none)).2 with
  | none => (none, mm)
  | some (fileTag, pageNumber, entry) =>
    if entry.dirty then
      match mm.writeBlockToStorage faults fileTag pageNumber entry.frame with
      | (false, failed) => (none, failed)
      | (true, written) => (some entry.frame, written.evict fileTag pageNumber entry.frame)
    else (some entry.frame, mm.evict fileTag pageNumber entry.frame)

/-- Move the clock hand one frame on. -/
def advanceClock (mm : MemoryManager config) : MemoryManager config :=
  { mm with clockPointer := (mm.clockPointer + 1) % config.frameCount }

/-- The page behind the frame under the clock hand, if the frame is used. -/
def pageAtClock (mm : MemoryManager config) : Option (FileTag × Nat × PageEntry) :=
  if mm.used mm.clockPointer then mm.mmFindPageForFrame mm.clockPointer else none

/-- The first pass of `mm_find_clockm_victim`: look for a page that is neither
used nor dirty. -/
def clockFirstPass : Nat → MemoryManager config → Option Nat × MemoryManager config
  | 0, mm => (none, mm)
  | steps + 1, mm =>
    match mm.pageAtClock with
    | none => clockFirstPass steps mm.advanceClock
    | some (fileTag, pageNumber, entry) =>
      if entry.useBit = false ∧ entry.dirty = false then
        (some mm.clockPointer,
          (mm.evict fileTag pageNumber mm.clockPointer).advanceClock)
      else clockFirstPass steps mm.advanceClock

/-- The second pass: remember the first dirty page that is not used and clear
the use bits. -/
def clockSecondPass : Nat → Option (FileTag × Nat × PageEntry) → MemoryManager config →
    Option (FileTag × Nat × PageEntry) × MemoryManager config
  | 0, candidate, mm => (candidate, mm)
  | steps + 1, candidate, mm =>
    match mm.pageAtClock with
    | none => clockSecondPass steps candidate mm.advanceClock
    | some (fileTag, pageNumber, entry) =>
      let chosen :=
        if entry.useBit = false ∧ entry.dirty = true ∧ candidate = none then
          some (fileTag, pageNumber, entry)
        else candidate
      let cleared :=
        if entry.useBit then
          mm.modifyPage fileTag pageNumber fun current => { current with useBit := false }
        else mm
      clockSecondPass steps chosen cleared.advanceClock

/-- The `while (1)` loop of `mm_find_clockm_victim`, given up after some number
of rounds; the outer `none` is that giving up. -/
def clockRounds (faults : StorageFaults) :
    Nat → MemoryManager config → Option (Option Nat × MemoryManager config)
  | 0, _ => none
  | rounds + 1, mm =>
    match clockFirstPass config.frameCount mm with
    | (some frame, evicted) => some (some frame, evicted)
    | (none, first) =>
      match clockSecondPass config.frameCount none first with
      | (none, second) => clockRounds faults rounds second
      | (some (fileTag, pageNumber, entry), second) =>
        match second.writeBlockToStorage faults fileTag pageNumber entry.frame with
        | (false, failed) => some (none, failed)
        | (true, written) =>
          some (some entry.frame,
            { written.evict fileTag pageNumber entry.frame with
              clockPointer := (entry.frame + 1) % config.frameCount })

/-- `mm_find_clockm_victim`; two rounds are enough (`clockRounds_two`).  Its guard
`mm->policy != CLOCK_M` is left out: `mm_allocate_frame`, the only caller, has looked at the
policy. -/
def mmFindClockmVictim (faults : StorageFaults) (mm : MemoryManager config) :
    Option Nat × MemoryManager config :=
  if config.frameCount = 0 then (none, mm)
  else (clockRounds faults 2 mm).getD (none, mm)

def mmAllocateFrame (faults : StorageFaults) (mm : MemoryManager config) :
    Option Nat × MemoryManager config :=
  match (List.range config.frameCount).find? fun frame => !mm.used frame with
  | some frame => (some frame, mm.setUsed frame true)
  | none =>
    match (match config.policy with
      | .lru => mm.mmFindLruVictim faults
      | .clockM => mm.mmFindClockmVictim faults) with
    | (some frame, evicted) => (some frame, evicted.setUsed frame true)
    | (none, failed) => (none, failed)

/-- Grow the table of a File:Tag so that it has an entry for a page, in `uint32_t`
arithmetic; `none` is a failed resize. -/
def growTable (mm : MemoryManager config) (fileTag : FileTag) (pageNumber : Nat) :
    Option (MemoryManager config) :=
  match mm.findPageTable fileTag with
  | none => none
  | some table =>
    if pageNumber < table.length then some mm
    else
      (ptResize table ((pageNumber + 1) % 2 ^ 32)).map fun resized =>
        mm.modifyTable fileTag fun _ => resized

/-- Put the bytes of a Storage block into a frame. -/
def loadFrame (mm : MemoryManager config) (frame : Nat) (bytes : Page config.pageSize) :
    MemoryManager config :=
  { mm with physicalMemory := Function.update mm.physicalMemory frame bytes }

/-- `mm_handle_page_fault`; the flag says whether it returned 0. -/
def mmHandlePageFault (faults : StorageFaults) (mm : MemoryManager config)
    (fileTag : FileTag) (pageNumber : Nat) : Bool × MemoryManager config :=
  match mm.growTable fileTag pageNumber with
  | none => (false, mm)
  | some grown =>
    if !grown.connected then (false, grown)
    else
      match grown.mmAllocateFrame faults with
      | (none, failed) => (false, failed)
      | (some frame, allocated) =>
        if config.frameCount ≤ frame then (false, allocated.mmFreeFrame frame)
        else
          match allocated.readBlockFromStorage faults fileTag pageNumber with
          | (none, failed) => (false, failed.mmFreeFrame frame)
          | (some bytes, asked) =>
            let loaded := asked.loadFrame frame bytes
            if (loaded.page fileTag pageNumber).isNone then
              (false, loaded.mmFreeFrame frame)
            else
              (true, (loaded.ptMap fileTag pageNumber frame).mmUpdatePageAccess fileTag
                pageNumber)

def patchPage {size : Nat} (bytes : Page size) (offset : Nat) (data : List UInt8) :
    Page size :=
  Vector.ofFn fun position =>
    if offset ≤ position.val then data.getD (position.val - offset) bytes[position]
    else bytes[position]

/-- The bytes of a page from `offset` on, at most `count` of them. -/
def pageChunk {size : Nat} (bytes : Page size) (offset count : Nat) : List UInt8 :=
  (bytes.toList.drop offset).take count

/-- Make a page present, as the body of the loop of `mm_access_memory` does. -/
def ensurePresent (faults : StorageFaults) (mm : MemoryManager config)
    (fileTag : FileTag) (pageNumber : Nat) : Bool × MemoryManager config :=
  match mm.growTable fileTag pageNumber with
  | none => (false, mm)
  | some grown =>
    if (grown.page fileTag pageNumber).any PageEntry.present then (true, grown)
    else grown.mmHandlePageFault faults fileTag pageNumber

/-- The loop of `mm_access_memory` from `pageNumber` and `offset` on, with the
rest of the buffer.  It returns whether the whole buffer was transferred and
the buffer it leaves: the bytes read, or the bytes written unchanged. -/
def accessLoop (faults : StorageFaults) (fileTag : FileTag) (write : Bool) :
    Nat → Nat → Nat → List UInt8 → MemoryManager config →
      Bool × List UInt8 × MemoryManager config
  | 0, _, _, buffer, mm => (buffer.isEmpty, buffer, mm)
  | steps + 1, pageNumber, offset, buffer, mm =>
    if buffer.isEmpty then (true, buffer, mm)
    else
      match mm.ensurePresent faults fileTag pageNumber with
      | (false, failed) => (false, buffer, failed)
      | (true, present) =>
        let frame := ((present.page fileTag pageNumber).map PageEntry.frame).getD 0
        let count := min (config.pageSize - offset) buffer.length
        let accessed := present.mmUpdatePageAccess fileTag pageNumber
        let chunk :=
          if write then buffer.take count
          else pageChunk (accessed.physicalMemory frame) offset count
        let transferred :=
          if write then
            (accessed.loadFrame frame (patchPage (accessed.physicalMemory frame) offset
              (buffer.take count))).ptSetDirty fileTag pageNumber true
          else accessed
        match accessLoop faults fileTag write steps ((pageNumber + 1) % 2 ^ 32) 0
            (buffer.drop count) transferred with
        | (done, rest, final) => (done, chunk ++ rest, final)

/-- `mm_access_memory` on the table of a File:Tag. -/
def mmAccessMemory (faults : StorageFaults) (mm : MemoryManager config)
    (fileTag : FileTag) (baseAddress : UInt32) (buffer : List UInt8) (write : Bool) :
    Bool × List UInt8 × MemoryManager config :=
  if buffer.isEmpty ∨ (mm.findPageTable fileTag).isNone then (false, buffer, mm)
  else
    accessLoop faults fileTag write buffer.length (baseAddress.toNat / config.pageSize)
      (baseAddress.toNat % config.pageSize) buffer mm

def mmWriteToMemory (faults : StorageFaults) (mm : MemoryManager config)
    (fileTag : FileTag) (baseAddress : UInt32) (data : List UInt8) :
    Bool × MemoryManager config :=
  match mm.mmAccessMemory faults fileTag baseAddress data true with
  | (done, _, after) => (done, after)

def mmReadFromMemory (faults : StorageFaults) (mm : MemoryManager config)
    (fileTag : FileTag) (baseAddress : UInt32) (size : Nat) :
    Bool × List UInt8 × MemoryManager config :=
  mm.mmAccessMemory faults fileTag baseAddress (List.replicate size 0) false

/-- The write-back loop of the two flush functions over a copy of the dirty
entries of one table. -/
def flushPages (faults : StorageFaults) (fileTag : FileTag) :
    List PageEntry → MemoryManager config → Bool × MemoryManager config
  | [], mm => (true, mm)
  | entry :: rest, mm =>
    if !entry.present then flushPages faults fileTag rest mm
    else if config.frameCount ≤ entry.frame then (false, mm)
    else
      match mm.writeBlockToStorage faults fileTag entry.pageNumber entry.frame with
      | (false, failed) => (false, failed)
      | (true, written) =>
        flushPages faults fileTag rest (written.ptSetDirty fileTag entry.pageNumber false)

/-- `pt_get_dirty_entries` of a table. -/
def dirtyEntries (table : List PageEntry) : List PageEntry :=
  table.filter PageEntry.dirty

/-- `mm_flush_query`; the flag says whether it returned 0. -/
def mmFlushQuery (faults : StorageFaults) (mm : MemoryManager config)
    (fileTag : FileTag) : Bool × MemoryManager config :=
  if !mm.connected then (false, mm)
  else
    match mm.findPageTable fileTag with
    | none => (true, mm)
    | some table => flushPages faults fileTag (dirtyEntries table) mm

/-- The loop of `mm_flush_all_dirty` over the File:Tags. -/
def flushTables (faults : StorageFaults) :
    List FileTag → MemoryManager config → Bool × MemoryManager config
  | [], mm => (true, mm)
  | fileTag :: rest, mm =>
    match flushPages faults fileTag
        (dirtyEntries ((mm.findPageTable fileTag).getD [])) mm with
    | (false, failed) => (false, failed)
    | (true, flushed) => flushTables faults rest flushed

def mmFlushAllDirty (faults : StorageFaults) (mm : MemoryManager config) :
    Bool × MemoryManager config :=
  if !mm.connected then (false, mm)
  else flushTables faults (mm.entries.map Prod.fst) mm

end MemoryManager

end Worker

end MasterOfFiles
