import MasterOfFiles.WorkerRequests

/-!
# The programs of the Worker against blocks that fail as they are told

The Storage of the memory manager holds blocks and a count of the requests, and a
`Replies` says which requests it refuses.  Served by it, each program computes what the
function of the same name computes, so what is known of the functions holds of the
programs.
-/

namespace MasterOfFiles

namespace Worker

variable {config : MemoryConfig}

/-- The blocks of Storage as the Worker names them. -/
abbrev Contents (config : MemoryConfig) : Type := FileTag → Nat → Page config.pageSize

/-- The memory manager with certain blocks behind it after a number of requests. -/
def MemoryManager.over (mm : MemoryManager config) (contents : Contents config)
    (requests : Nat) : MemoryManager config :=
  { mm with storage := contents, requests := requests }

def StorageRequest.apply (contents : Contents config) : StorageRequest config → Contents config
  | .readBlock _ _ => contents
  | .writeBlock fileTag blockNumber bytes =>
    Function.update contents fileTag (Function.update (contents fileTag) blockNumber bytes)
  | .createFile fileTag =>
    Function.update contents fileTag fun _ => MemoryManager.zeroPage config
  | .truncateFile fileTag size =>
    Function.update contents fileTag fun number =>
      if number < storedBlockCount config size then contents fileTag number
      else MemoryManager.zeroPage config
  | .forkFile source target => Function.update contents target (contents source)
  | .commitFile _ => contents
  | .deleteFile fileTag =>
    Function.update contents fileTag fun _ => MemoryManager.zeroPage config

def StorageRequest.answer (contents : Contents config) (accepted : Bool) :
    (request : StorageRequest config) → request.Answer
  | .readBlock fileTag number => if accepted then some (contents fileTag number) else none
  | .writeBlock _ _ _ => accepted
  | .createFile _ => accepted
  | .truncateFile _ _ => accepted
  | .forkFile _ _ => accepted
  | .commitFile _ => accepted
  | .deleteFile _ => accepted

/-- The number of block requests after a request. -/
def StorageRequest.count (requests : Nat) (request : StorageRequest config) : Nat :=
  if request.ofInstruction then requests else requests + 1

def Replies.accepts (replies : Replies) (requests : Nat) (request : StorageRequest config) :
    Bool :=
  if request.ofInstruction then replies.accepted else !replies.faults requests

def StorageRequest.applyIf (contents : Contents config) (accepted : Bool)
    (request : StorageRequest config) : Contents config :=
  if accepted then request.apply contents else contents

/-- Storage as the memory manager has it: the blocks and the number of block requests. -/
def replying (replies : Replies) :
    Asking.Server (@StorageRequest.Answer config) (Contents config × Nat) :=
  fun state request =>
    (request.answer state.1 (replies.accepts state.2 request),
      request.applyIf state.1 (replies.accepts state.2 request), request.count state.2)

namespace Client

open MemoryManager (olderPage)

variable {mm : MemoryManager config} {contents : Contents config} {requests : Nat}
  {replies : Replies}

/-- The result of a program that ends in a memory manager, with the blocks that Storage
has then behind it. -/
def joined {Result : Type} (outcome : (Result × MemoryManager config) × Contents config × Nat) :
    Result × MemoryManager config :=
  (outcome.1.1, outcome.1.2.over outcome.2.1 outcome.2.2)

theorem over_writeBlockToStorage (fileTag : FileTag) (blockNumber frame : Nat) :
    (mm.over contents requests).writeBlockToStorage replies.faults fileTag blockNumber frame =
      (((writeBlockToStorage mm fileTag blockNumber frame).run (replying replies)
          (contents, requests)).1,
        mm.over ((writeBlockToStorage mm fileTag blockNumber frame).run (replying replies)
            (contents, requests)).2.1
          ((writeBlockToStorage mm fileTag blockNumber frame).run (replying replies)
            (contents, requests)).2.2) := by
  have counted : (mm.over contents requests).requests = requests := rfl
  unfold MemoryManager.writeBlockToStorage
  rw [counted]
  cases failed : replies.faults requests with
  | false =>
      simp [writeBlockToStorage, ask, Asking.request, replying, Replies.accepts, failed,
        StorageRequest.ofInstruction, StorageRequest.answer, StorageRequest.applyIf,
        StorageRequest.count]
      rfl
  | true =>
      simp [writeBlockToStorage, ask, Asking.request, replying, Replies.accepts, failed,
        StorageRequest.ofInstruction, StorageRequest.answer, StorageRequest.applyIf,
        StorageRequest.count]
      rfl

theorem mmFindLruVictim_run :
    joined ((mmFindLruVictim mm).run (replying replies) (contents, requests)) =
      (mm.over contents requests).mmFindLruVictim replies.faults := by
  unfold mmFindLruVictim MemoryManager.mmFindLruVictim
  have same : (mm.over contents requests).allPages = mm.allPages := rfl
  rw [same]
  cases oldest : (mm.allPages.foldl olderPage (2 ^ 64 - 1, none)).2 with
  | none => rfl
  | some victim =>
      obtain ⟨fileTag, pageNumber, entry⟩ := victim
      dsimp only
      split
      · rw [Asking.run_bind, over_writeBlockToStorage]
        rcases (writeBlockToStorage mm fileTag pageNumber entry.frame).run (replying replies)
          (contents, requests) with ⟨written, later⟩
        cases written <;> rfl
      · rfl

theorem over_clockFirstPass (steps : Nat) :
    MemoryManager.clockFirstPass steps (mm.over contents requests) =
      ((MemoryManager.clockFirstPass steps mm).1,
        (MemoryManager.clockFirstPass steps mm).2.over contents requests) := by
  induction steps generalizing mm with
  | zero => rfl
  | succ steps ih =>
      unfold MemoryManager.clockFirstPass
      have same : (mm.over contents requests).pageAtClock = mm.pageAtClock := rfl
      rw [same]
      cases mm.pageAtClock with
      | none => exact @ih mm.advanceClock
      | some found =>
          obtain ⟨fileTag, pageNumber, entry⟩ := found
          dsimp only
          split
          · rfl
          · exact @ih mm.advanceClock

theorem over_clockSecondPass (steps : Nat)
    (candidate : Option (FileTag × Nat × PageEntry)) :
    MemoryManager.clockSecondPass steps candidate (mm.over contents requests) =
      ((MemoryManager.clockSecondPass steps candidate mm).1,
        (MemoryManager.clockSecondPass steps candidate mm).2.over contents requests) := by
  induction steps generalizing mm candidate with
  | zero => rfl
  | succ steps ih =>
      unfold MemoryManager.clockSecondPass
      have same : (mm.over contents requests).pageAtClock = mm.pageAtClock := rfl
      rw [same]
      cases mm.pageAtClock with
      | none => exact @ih mm.advanceClock candidate
      | some found =>
          obtain ⟨fileTag, pageNumber, entry⟩ := found
          dsimp only
          cases entry.useBit with
          | false => exact @ih mm.advanceClock _
          | true =>
              exact @ih (mm.modifyPage fileTag pageNumber fun current =>
                { current with useBit := false }).advanceClock _

theorem clockRounds_run (rounds : Nat) :
    MemoryManager.clockRounds replies.faults rounds (mm.over contents requests) =
      ((clockRounds rounds mm).run (replying replies) (contents, requests)).1.map
        fun found => joined (found,
          ((clockRounds rounds mm).run (replying replies) (contents, requests)).2) := by
  induction rounds generalizing mm with
  | zero => rfl
  | succ rounds ih =>
      unfold MemoryManager.clockRounds clockRounds
      rw [over_clockFirstPass]
      rcases MemoryManager.clockFirstPass config.frameCount mm with ⟨chosen, first⟩
      cases chosen with
      | some frame => rfl
      | none =>
          dsimp only
          rw [over_clockSecondPass]
          rcases MemoryManager.clockSecondPass config.frameCount none first with
            ⟨candidate, second⟩
          cases candidate with
          | none => exact ih
          | some candidate =>
              obtain ⟨fileTag, pageNumber, entry⟩ := candidate
              dsimp only
              rw [Asking.run_bind, over_writeBlockToStorage]
              rcases (writeBlockToStorage second fileTag pageNumber entry.frame).run
                (replying replies) (contents, requests) with ⟨written, later⟩
              cases written <;> rfl

theorem clockRounds_none (rounds : Nat) :
    ((clockRounds rounds mm).run (replying replies) (contents, requests)).1 = none →
      ((clockRounds rounds mm).run (replying replies) (contents, requests)).2 =
        (contents, requests) := by
  induction rounds generalizing mm with
  | zero => exact fun _ => rfl
  | succ rounds ih =>
      unfold clockRounds
      rcases MemoryManager.clockFirstPass config.frameCount mm with ⟨chosen, first⟩
      cases chosen with
      | some frame => simp
      | none =>
          dsimp only
          rcases MemoryManager.clockSecondPass config.frameCount none first with
            ⟨candidate, second⟩
          cases candidate with
          | none => exact ih
          | some candidate =>
              obtain ⟨fileTag, pageNumber, entry⟩ := candidate
              dsimp only
              rw [Asking.run_bind]
              split <;> simp

theorem mmFindClockmVictim_run :
    joined ((mmFindClockmVictim mm).run (replying replies) (contents, requests)) =
      (mm.over contents requests).mmFindClockmVictim replies.faults := by
  unfold mmFindClockmVictim MemoryManager.mmFindClockmVictim
  split
  · rfl
  · rw [Asking.run_bind, clockRounds_run]
    have unasked := @clockRounds_none config mm contents requests replies 2
    generalize (clockRounds 2 mm).run (replying replies) (contents, requests) = outcome at *
    obtain ⟨found, later⟩ := outcome
    cases found with
    | some found => rfl
    | none =>
        obtain rfl : later = (contents, requests) := unasked rfl
        rfl

theorem mmAllocateFrame_run :
    joined ((mmAllocateFrame mm).run (replying replies) (contents, requests)) =
      (mm.over contents requests).mmAllocateFrame replies.faults := by
  unfold mmAllocateFrame MemoryManager.mmAllocateFrame mmFindVictim
  have same : (mm.over contents requests).used = mm.used := rfl
  rw [same]
  cases (List.range config.frameCount).find? fun frame => !mm.used frame with
  | some frame => rfl
  | none =>
      dsimp only
      rw [Asking.run_bind]
      cases config.policy with
      | lru =>
          dsimp only
          rw [← mmFindLruVictim_run]
          rcases (mmFindLruVictim mm).run (replying replies) (contents, requests) with
            ⟨⟨found, after⟩, later⟩
          cases found <;> rfl
      | clockM =>
          dsimp only
          rw [← mmFindClockmVictim_run]
          rcases (mmFindClockmVictim mm).run (replying replies) (contents, requests) with
            ⟨⟨found, after⟩, later⟩
          cases found <;> rfl

theorem over_growTable (fileTag : FileTag) (pageNumber : Nat) :
    (mm.over contents requests).growTable fileTag pageNumber =
      (mm.growTable fileTag pageNumber).map fun grown => grown.over contents requests := by
  unfold MemoryManager.growTable
  have same : (mm.over contents requests).findPageTable fileTag = mm.findPageTable fileTag := rfl
  rw [same]
  cases mm.findPageTable fileTag with
  | none => rfl
  | some table =>
      dsimp only
      split
      · rfl
      · cases ptResize table ((pageNumber + 1) % 2 ^ 32) <;> rfl

theorem over_mmFreeFrame (frame : Nat) :
    (mm.over contents requests).mmFreeFrame frame =
      (mm.mmFreeFrame frame).over contents requests := by
  unfold MemoryManager.mmFreeFrame
  split <;> rfl

theorem over_mmUpdatePageAccess (fileTag : FileTag) (pageNumber : Nat) :
    (mm.over contents requests).mmUpdatePageAccess fileTag pageNumber =
      (mm.mmUpdatePageAccess fileTag pageNumber).over contents requests := by
  unfold MemoryManager.mmUpdatePageAccess
  have same : (mm.over contents requests).page fileTag pageNumber =
    mm.page fileTag pageNumber := rfl
  rw [same]
  cases config.policy with
  | clockM => rfl
  | lru =>
      dsimp only
      split <;> rfl

theorem over_readBlockFromStorage (fileTag : FileTag) (blockNumber : Nat) :
    (mm.over contents requests).readBlockFromStorage replies.faults fileTag blockNumber =
      (((ask (.readBlock fileTag blockNumber)).run (replying replies)
          (contents, requests)).1,
        mm.over ((ask (.readBlock fileTag blockNumber)).run (replying replies)
            (contents, requests)).2.1
          ((ask (.readBlock fileTag blockNumber)).run (replying replies)
            (contents, requests)).2.2) := by
  have counted : (mm.over contents requests).requests = requests := rfl
  unfold MemoryManager.readBlockFromStorage
  rw [counted]
  cases failed : replies.faults requests with
  | false =>
      simp [ask, Asking.request, replying, Replies.accepts, failed,
        StorageRequest.ofInstruction, StorageRequest.answer, StorageRequest.applyIf,
        StorageRequest.count]
      exact ⟨rfl, rfl⟩
  | true =>
      simp [ask, Asking.request, replying, Replies.accepts, failed,
        StorageRequest.ofInstruction, StorageRequest.answer, StorageRequest.applyIf,
        StorageRequest.count]
      rfl

theorem mmHandlePageFault_run (fileTag : FileTag) (pageNumber : Nat) :
    joined ((mmHandlePageFault mm fileTag pageNumber).run (replying replies)
        (contents, requests)) =
      (mm.over contents requests).mmHandlePageFault replies.faults fileTag pageNumber := by
  unfold mmHandlePageFault MemoryManager.mmHandlePageFault
  rw [over_growTable]
  cases mm.growTable fileTag pageNumber with
  | none => rfl
  | some grown =>
      rw [Option.map_some]
      dsimp only
      have connectedEq : (grown.over contents requests).connected = grown.connected := rfl
      rw [connectedEq]
      split
      · rfl
      · rw [Asking.run_bind, ← mmAllocateFrame_run]
        rcases (mmAllocateFrame grown).run (replying replies) (contents, requests) with
          ⟨⟨found, allocated⟩, later, count⟩
        cases found with
        | none => rfl
        | some frame =>
            dsimp only [joined]
            split
            · rw [over_mmFreeFrame]
              rfl
            · rw [Asking.run_bind, over_readBlockFromStorage]
              rcases (ask (.readBlock fileTag pageNumber)).run (replying replies)
                (later, count) with ⟨block, last, total⟩
              cases block with
              | none =>
                  dsimp only
                  rw [over_mmFreeFrame]
                  rfl
              | some bytes =>
                  dsimp only
                  have pageEq : ((allocated.over last total).loadFrame frame bytes).page
                    fileTag pageNumber = (allocated.loadFrame frame bytes).page fileTag
                      pageNumber := rfl
                  rw [pageEq]
                  split
                  · change _ = (false, ((allocated.loadFrame frame bytes).over last
                      total).mmFreeFrame frame)
                    rw [over_mmFreeFrame]
                    rfl
                  · change _ = (true, (((allocated.loadFrame frame bytes).ptMap fileTag
                      pageNumber frame).over last total).mmUpdatePageAccess fileTag pageNumber)
                    rw [over_mmUpdatePageAccess]
                    rfl

theorem ensurePresent_run (fileTag : FileTag) (pageNumber : Nat) :
    joined ((ensurePresent mm fileTag pageNumber).run (replying replies)
        (contents, requests)) =
      (mm.over contents requests).ensurePresent replies.faults fileTag pageNumber := by
  unfold ensurePresent MemoryManager.ensurePresent
  rw [over_growTable]
  cases mm.growTable fileTag pageNumber with
  | none => rfl
  | some grown =>
      rw [Option.map_some]
      dsimp only
      have pageEq : (grown.over contents requests).page fileTag pageNumber =
        grown.page fileTag pageNumber := rfl
      rw [pageEq]
      split
      · rfl
      · exact mmHandlePageFault_run fileTag pageNumber

def joinedBuffer (outcome : (Bool × List UInt8 × MemoryManager config) ×
    Contents config × Nat) : Bool × List UInt8 × MemoryManager config :=
  (outcome.1.1, outcome.1.2.1, outcome.1.2.2.over outcome.2.1 outcome.2.2)

theorem over_transferPage (fileTag : FileTag) (write : Bool) (pageNumber offset : Nat)
    (buffer : List UInt8) :
    transferPage (mm.over contents requests) fileTag write pageNumber offset buffer =
      ((transferPage mm fileTag write pageNumber offset buffer).1,
        (transferPage mm fileTag write pageNumber offset buffer).2.over contents requests) := by
  unfold transferPage
  rw [over_mmUpdatePageAccess]
  cases write <;> rfl

theorem accessLoop_succ (faults : StorageFaults) (fileTag : FileTag) (write : Bool)
    (steps pageNumber offset : Nat) {buffer : List UInt8} (more : buffer.isEmpty = false) :
    mm.accessLoop faults fileTag write (steps + 1) pageNumber offset buffer =
      if (mm.ensurePresent faults fileTag pageNumber).1 then
        let transferred := transferPage (mm.ensurePresent faults fileTag pageNumber).2 fileTag
          write pageNumber offset buffer
        let rest := transferred.2.accessLoop faults fileTag write steps
          ((pageNumber + 1) % 2 ^ 32) 0
          (buffer.drop (min (config.pageSize - offset) buffer.length))
        (rest.1, transferred.1 ++ rest.2.1, rest.2.2)
      else (false, buffer, (mm.ensurePresent faults fileTag pageNumber).2) := by
  rw [MemoryManager.accessLoop, more]
  rcases mm.ensurePresent faults fileTag pageNumber with ⟨done, present⟩
  cases done with
  | false => rfl
  | true => cases write <;> rfl

theorem accessLoop_run (fileTag : FileTag) (write : Bool) (steps pageNumber offset : Nat)
    (buffer : List UInt8) :
    joinedBuffer ((accessLoop fileTag write steps pageNumber offset buffer mm).run
        (replying replies) (contents, requests)) =
      (mm.over contents requests).accessLoop replies.faults fileTag write steps pageNumber
        offset buffer := by
  induction steps generalizing mm pageNumber offset buffer contents requests with
  | zero => rfl
  | succ steps ih =>
      cases more : buffer.isEmpty with
      | true =>
          rw [accessLoop, MemoryManager.accessLoop, more]
          rfl
      | false =>
          rw [accessLoop_succ _ _ _ _ _ _ more, accessLoop, more, ← ensurePresent_run]
          simp only [Bool.false_eq_true, if_false]
          rw [Asking.run_bind]
          rcases (ensurePresent mm fileTag pageNumber).run (replying replies)
            (contents, requests) with ⟨⟨done, present⟩, later, count⟩
          cases done with
          | false => rfl
          | true =>
              simp only [joined, if_true, over_transferPage]
              rw [Asking.run_bind, ← ih]
              rfl

theorem mmAccessMemory_run (fileTag : FileTag) (baseAddress : UInt32) (buffer : List UInt8)
    (write : Bool) :
    joinedBuffer ((mmAccessMemory mm fileTag baseAddress buffer write).run (replying replies)
        (contents, requests)) =
      (mm.over contents requests).mmAccessMemory replies.faults fileTag baseAddress buffer
        write := by
  unfold mmAccessMemory MemoryManager.mmAccessMemory
  have same : (mm.over contents requests).findPageTable fileTag = mm.findPageTable fileTag := rfl
  rw [same]
  split
  · rfl
  · exact accessLoop_run fileTag write _ _ _ buffer

theorem flushPages_run (fileTag : FileTag) (entries : List PageEntry) :
    joined ((flushPages fileTag entries mm).run (replying replies) (contents, requests)) =
      (mm.over contents requests).flushPages replies.faults fileTag entries := by
  induction entries generalizing mm contents requests with
  | nil => rfl
  | cons entry rest ih =>
      unfold flushPages MemoryManager.flushPages
      split
      · exact ih
      · split
        · rfl
        · rw [Asking.run_bind, over_writeBlockToStorage]
          rcases (writeBlockToStorage mm fileTag entry.pageNumber entry.frame).run
            (replying replies) (contents, requests) with ⟨written, later, count⟩
          cases written with
          | false => rfl
          | true => exact ih

theorem mmFlushQuery_run (fileTag : FileTag) :
    joined ((mmFlushQuery mm fileTag).run (replying replies) (contents, requests)) =
      (mm.over contents requests).mmFlushQuery replies.faults fileTag := by
  unfold mmFlushQuery MemoryManager.mmFlushQuery
  have connectedEq : (mm.over contents requests).connected = mm.connected := rfl
  have tableEq : (mm.over contents requests).findPageTable fileTag =
    mm.findPageTable fileTag := rfl
  rw [connectedEq, tableEq]
  split
  · rfl
  · cases mm.findPageTable fileTag with
    | none => rfl
    | some table => exact flushPages_run fileTag _

theorem flushTables_run (fileTags : List FileTag) :
    joined ((flushTables fileTags mm).run (replying replies) (contents, requests)) =
      (mm.over contents requests).flushTables replies.faults fileTags := by
  induction fileTags generalizing mm contents requests with
  | nil => rfl
  | cons fileTag rest ih =>
      unfold flushTables MemoryManager.flushTables
      have tableEq : (mm.over contents requests).findPageTable fileTag =
        mm.findPageTable fileTag := rfl
      rw [Asking.run_bind, tableEq, ← flushPages_run]
      rcases (flushPages fileTag (MemoryManager.dirtyEntries
        ((mm.findPageTable fileTag).getD [])) mm).run (replying replies) (contents, requests)
        with ⟨⟨done, flushed⟩, later, count⟩
      cases done with
      | false => rfl
      | true => exact ih

theorem mmFlushAllDirty_run :
    joined ((mmFlushAllDirty mm).run (replying replies) (contents, requests)) =
      (mm.over contents requests).mmFlushAllDirty replies.faults := by
  unfold mmFlushAllDirty MemoryManager.mmFlushAllDirty
  have connectedEq : (mm.over contents requests).connected = mm.connected := rfl
  rw [connectedEq]
  split
  · rfl
  · exact flushTables_run _

theorem over_mmCreatePageTable (fileTag : FileTag) :
    (mm.over contents requests).mmCreatePageTable fileTag =
      (mm.mmCreatePageTable fileTag).over contents requests := by
  unfold MemoryManager.mmCreatePageTable
  have tableEq : (mm.over contents requests).findPageTable fileTag =
    mm.findPageTable fileTag := rfl
  rw [tableEq]
  split <;> rfl

theorem over_mmResizePageTable (fileTag : FileTag) (count : Nat) :
    (mm.over contents requests).mmResizePageTable fileTag count =
      (mm.mmResizePageTable fileTag count).over contents requests := by
  unfold MemoryManager.mmResizePageTable
  have tableEq : (mm.over contents requests).findPageTable fileTag =
    mm.findPageTable fileTag := rfl
  rw [tableEq]
  split <;> rfl

theorem over_mmRemovePageTable (fileTag : FileTag) :
    (mm.over contents requests).mmRemovePageTable fileTag =
      (mm.mmRemovePageTable fileTag).over contents requests := by
  unfold MemoryManager.mmRemovePageTable
  have entriesEq : (mm.over contents requests).entries = mm.entries := rfl
  rw [entriesEq]
  split <;> rfl

/-- An outcome of `execute_instruction` whose memory has the Storage that replied. -/
def joinedOutcome (outcome : InstructionOutcome config × Contents config × Nat) :
    InstructionOutcome config where
  succeeded := outcome.1.succeeded
  content := outcome.1.content
  memory := outcome.1.memory.over outcome.2.1 outcome.2.2

theorem ask_run {Result : Type} (request : StorageRequest config)
    (next : request.Answer → Client config Result) :
    (ask request >>= next).run (replying replies) (contents, requests) =
      (next (request.answer contents (replies.accepts requests request))).run
        (replying replies) (request.applyIf contents (replies.accepts requests request),
          request.count requests) :=
  rfl

/-- Served by blocks that fail as the replies say, the program of `execute_instruction`
computes `execute_instruction`. -/
theorem executeInstruction_run (instruction : Instruction) :
    joinedOutcome ((executeInstruction replies.allocated replies.delivered mm instruction).run
        (replying replies) (contents, requests)) =
      (mm.over contents requests).executeInstruction replies instruction := by
  obtain ⟨faults, accepted, allocated, delivered⟩ := replies
  cases instruction with
  | create fileTag => cases accepted <;> rfl
  | truncate fileTag size =>
      rw [executeInstruction, MemoryManager.executeInstruction]
      split
      · rfl
      · rw [ask_run]
        cases accepted with
        | false => rfl
        | true =>
            cases allocated with
            | false => rfl
            | true =>
                change _ = InstructionOutcome.mk true none
                  ((mm.over ((StorageRequest.truncateFile fileTag size).apply contents)
                    requests).mmResizePageTable fileTag (newPageCount config size))
                rw [over_mmResizePageTable]
                rfl
  | write fileTag base data =>
      rw [executeInstruction, MemoryManager.executeInstruction, over_mmCreatePageTable,
        MemoryManager.mmWriteToMemory, ← mmAccessMemory_run, Asking.run_bind]
      rfl
  | read fileTag base size =>
      rw [executeInstruction, MemoryManager.executeInstruction, over_mmCreatePageTable]
      cases allocated with
      | false => rfl
      | true =>
          rw [MemoryManager.mmReadFromMemory, ← mmAccessMemory_run]
          simp only [Bool.not_true, Bool.false_eq_true, if_false]
          rw [Asking.run_bind]
          rcases (mmAccessMemory (mm.mmCreatePageTable fileTag) fileTag base
            (List.replicate (sizeOfInt size) 0) false).run
              (replying ⟨faults, accepted, true, delivered⟩) (contents, requests) with
            ⟨⟨done, buffer, after⟩, later⟩
          cases done with
          | false => rfl
          | true => cases delivered <;> rfl
  | tag source target => cases accepted <;> rfl
  | commit fileTag =>
      rw [executeInstruction, MemoryManager.executeInstruction, ← mmFlushQuery_run,
        Asking.run_bind]
      rcases (mmFlushQuery mm fileTag).run (replying ⟨faults, accepted, allocated, delivered⟩)
        (contents, requests) with ⟨⟨done, flushed⟩, later⟩
      cases done with
      | false => rfl
      | true => cases accepted <;> rfl
  | flush fileTag =>
      rw [executeInstruction, MemoryManager.executeInstruction, ← mmFlushQuery_run,
        Asking.run_bind]
      rfl
  | delete fileTag =>
      rw [executeInstruction, MemoryManager.executeInstruction, ask_run, over_mmRemovePageTable]
      cases accepted <;> rfl
  | finish => rfl

end Client

end Worker

end MasterOfFiles
