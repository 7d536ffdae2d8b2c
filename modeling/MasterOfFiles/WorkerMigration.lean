import MasterOfFiles.WorkerFrames

/-!
# Migration of a query between Workers

One execution of a query is evicted at instruction boundaries and resumed on any Workers,
next to other queries on other File:Tags; the other runs the same instructions on a
single Worker.  All Workers of the first share one Storage and each keeps its own memory
manager.  An eviction writes the dirty pages back but leaves the pages resident, so a
Worker that gets the query back may hold pages from before what the others have written.
-/

namespace MasterOfFiles

namespace Worker

namespace MemoryManager

variable {config : MemoryConfig} {mm after : MemoryManager config} {replies : Replies}
  {scope : Scope} {fileTag : FileTag}

def byteAt (config : MemoryConfig) (pages : Nat → Page config.pageSize) (address : Nat) :
    UInt8 :=
  (pages (address / config.pageSize)).get
    ⟨address % config.pageSize, config.offset_lt address⟩

def storedView (mm : MemoryManager config) (fileTag : FileTag) (address : Nat) : UInt8 :=
  byteAt config (mm.storage fileTag) address

/-- What an instruction that succeeds does to the bytes that a query sees; TAG copies the
bytes that Storage has. -/
def seenAfter (config : MemoryConfig) (stored seen : FileTag → Nat → UInt8) :
    Instruction → FileTag → Nat → UInt8
  | .create fileTag => Function.update seen fileTag fun _ => 0
  | .truncate fileTag size => Function.update seen fileTag fun address =>
    if address / config.pageSize < storedBlockCount config size then seen fileTag address
    else 0
  | .write fileTag base data => FlatStore.overwrite seen fileTag base.toNat data
  | .tag source target => Function.update seen target (stored source)
  | .delete fileTag => Function.update seen fileTag fun _ => 0
  | _ => seen

/-- What an instruction that succeeds sends to the Master. -/
def contentOf (seen : FileTag → Nat → UInt8) : Instruction → Option (List UInt8)
  | .read fileTag base size => some (FlatStore.range seen fileTag base.toNat (sizeOfInt size))
  | _ => none

theorem view_eq_byteAt {pages : Nat → Page config.pageSize}
    (same : ∀ number, mm.pageView fileTag number = pages number) :
    mm.view fileTag = byteAt config pages := by
  funext address
  simp only [view, byteAt, same]

theorem byteAt_zeroPage : byteAt config (fun _ => zeroPage config) = fun _ => 0 := by
  funext address
  simp [byteAt, zeroPage, Vector.get]

theorem view_setBlocks_of_ne {other : FileTag} {blocks : Nat → Page config.pageSize}
    (different : other ≠ fileTag) :
    (mm.setBlocks fileTag blocks).view other = mm.view other := by
  funext address
  simp [view, pageView, setBlocks, different, page, findPageTable]

/-- Without present pages a query sees the blocks. -/
theorem view_setBlocks_self {blocks : Nat → Page config.pageSize}
    (absent : ∀ number entry, ¬ mm.Present fileTag number entry) :
    (mm.setBlocks fileTag blocks).view fileTag = byteAt config blocks := by
  refine view_eq_byteAt fun number => ?_
  have absentAfter : ∀ entry, ¬ (mm.setBlocks fileTag blocks).Present fileTag number entry :=
    fun entry present => absent number entry (present.of_entries rfl)
  rw [pageView_of_not_present absentAfter]
  simp [setBlocks]

theorem toNat_tdiv_of_lt {value divisor : Int} (positive : 0 < divisor)
    (below : value < divisor) : (value.tdiv divisor).toNat = 0 := by
  by_cases negative : value < 0
  · have flipped : 0 ≤ (-value).tdiv divisor := Int.tdiv_nonneg (by omega) (by omega)
    rw [Int.neg_tdiv] at flipped
    omega
  · rw [Int.tdiv_eq_zero_of_lt (by omega) below]
    rfl

/-- The Worker keeps at least the pages of the blocks that Storage keeps. -/
theorem storedBlockCount_le {size : Int32}
    (aligned : sizeOfInt size % config.pageSize = 0) :
    storedBlockCount config size ≤ newPageCount config size := by
  have positive := config.pageSize_pos
  have pageLt := config.pageSize_lt
  have lower := size.le_toInt
  have upper := size.toInt_lt
  unfold newPageCount storedBlockCount
  unfold sizeOfInt at aligned ⊢
  generalize size.toInt = value at *
  by_cases wraps : 2 ^ 31 ≤ value + config.pageSize - 1
  · have wrapped : Int.bmod (value + config.pageSize - 1) (2 ^ 32) =
        value + config.pageSize - 1 - 2 ^ 32 := by
      rw [← Int.sub_bmod_right, Int.bmod_eq_of_le_mul_two (by omega) (by omega)]
      rfl
    rw [wrapped, toNat_tdiv_of_lt (by omega) (by omega)]
    exact Nat.zero_le _
  · rw [Int.bmod_eq_of_le_mul_two (by omega) (by omega)]
    by_cases small : value ≤ 0
    · rw [toNat_tdiv_of_lt (by omega) (by omega)]
      exact Nat.zero_le _
    · obtain ⟨natural, rfl⟩ := Int.eq_ofNat_of_zero_le (by omega : 0 ≤ value)
      have natSize : ((natural : Int) % 2 ^ 64).toNat = natural := by omega
      rw [natSize] at aligned ⊢
      obtain ⟨count, rfl⟩ := Nat.dvd_of_mod_eq_zero aligned
      have exact : ((config.pageSize * count : Nat) : Int) + config.pageSize - 1 =
          ((config.pageSize * count + (config.pageSize - 1) : Nat) : Int) := by omega
      have countLe : count ≤ config.pageSize * count := Nat.le_mul_of_pos_left _ positive
      rw [exact, ← Int.ofNat_tdiv, Int.toNat_natCast, Nat.mul_add_div positive,
        Nat.div_eq_of_lt (by omega), Nat.mul_div_cancel_left _ positive,
        Nat.mod_eq_of_lt (by omega)]
      omega

/-- The present pages after an accepted TRUNCATE are those of the blocks that are kept. -/
theorem present_truncate (sound : Sound scope none mm) (tracked : fileTag ∈ scope.coherent)
    {size : Int32} (keeps : KeepsCoherent scope.coherent mm replies (.truncate fileTag size))
    (aligned : sizeOfInt size % config.pageSize = 0) (accepted : replies.accepted = true)
    (number : Nat) (entry : PageEntry) :
    (if replies.allocated then
      (mm.truncated fileTag size).mmResizePageTable fileTag (newPageCount config size)
      else mm.truncated fileTag size).Present fileTag number entry ↔
        mm.Present fileTag number entry ∧ number < storedBlockCount config size := by
  have beyond : mm.Present fileTag number entry → storedBlockCount config size ≤ number →
      replies.allocated = true ∧ newPageCount config size ≠ 0 ∧
        newPageCount config size ≤ number := fun present atLeast =>
    keeps aligned accepted tracked _ (mem_residentPages.mpr present) atLeast
  cases allocated : replies.allocated with
  | false =>
      refine ⟨fun present => ?_, fun both => both.1.of_entries rfl⟩
      have before : mm.Present fileTag number entry := present.of_entries rfl
      refine ⟨before, ?_⟩
      by_contra outside
      simp [allocated] at beyond
      exact outside (beyond before)
  | true =>
      rw [if_pos rfl]
      have pageOf := @page_truncated_mmResizePageTable config mm fileTag fileTag size number
      constructor
      · intro present
        have before := (mm.dropped_truncated fileTag size).present_before sound.keys present
        refine ⟨before, ?_⟩
        by_contra outside
        obtain ⟨_, positive, dropsIt⟩ := beyond before (by omega)
        have held := present.held
        rw [pageOf, if_pos ⟨rfl, positive, findPageTable_isSome before.held⟩,
          if_neg (by omega)] at held
        simp at held
      · rintro ⟨before, inside⟩
        have atMost := @storedBlockCount_le config size aligned
        refine ⟨?_, before.present⟩
        rw [pageOf, if_pos ⟨rfl, by omega, findPageTable_isSome before.held⟩,
          if_pos (by omega), before.held, Option.getD_some]

/-- After a TRUNCATE a query sees the bytes of the blocks that are kept, then zeros. -/
theorem view_truncate (sound : Sound scope none mm) (tracked : fileTag ∈ scope.coherent)
    {size : Int32} (keeps : KeepsCoherent scope.coherent mm replies (.truncate fileTag size))
    (done : (mm.executeInstruction replies (.truncate fileTag size)).succeeded = true) :
    (mm.executeInstruction replies (.truncate fileTag size)).memory.view fileTag =
      fun address => if address / config.pageSize < storedBlockCount config size then
        mm.view fileTag address else 0 := by
  rcases @truncate_cases config mm replies fileTag size with
    ⟨outcome, _⟩ | ⟨aligned, accepted, outcome⟩
  · simp [outcome] at done
  · rw [outcome]
    have presentIff := present_truncate sound tracked keeps aligned accepted
    set final : MemoryManager config := if replies.allocated then
      (mm.truncated fileTag size).mmResizePageTable fileTag (newPageCount config size)
      else mm.truncated fileTag size with finalEq
    have memoryEq : final.physicalMemory = mm.physicalMemory := by
      rw [finalEq]
      split
      · exact (mm.dropped_truncated fileTag size).physicalMemory
      · rfl
    have storageEq : final.storage fileTag =
        mm.keptBlocks fileTag (storedBlockCount config size) := by
      rw [finalEq]
      split
      · rw [mmResizePageTable_eq]
        simp [truncated, setBlocks]
      · simp [truncated, setBlocks]
    have pageOf : ∀ number, final.pageView fileTag number =
        if number < storedBlockCount config size then mm.pageView fileTag number
        else zeroPage config := by
      intro number
      by_cases inMemory : ∃ entry, final.Present fileTag number entry
      · obtain ⟨entry, present⟩ := inMemory
        obtain ⟨before, inside⟩ := (presentIff number entry).mp present
        rw [present.pageView, if_pos inside, before.pageView, memoryEq]
      · rw [pageView_of_not_present fun entry present => inMemory ⟨entry, present⟩, storageEq,
          keptBlocks]
        split
        · rename_i inside
          refine (pageView_of_not_present fun entry present => ?_).symm
          exact inMemory ⟨entry, (presentIff number entry).mpr ⟨present, inside⟩⟩
        · rfl
    funext address
    change (final.pageView fileTag (address / config.pageSize)).get _ = _
    rw [pageOf]
    split
    · rfl
    · simp [zeroPage, Vector.get]

theorem view_congr (pages : ∀ number, after.page fileTag number = mm.page fileTag number)
    (memoryEq : after.physicalMemory = mm.physicalMemory)
    (storageEq : after.storage fileTag = mm.storage fileTag) :
    after.view fileTag = mm.view fileTag := by
  funext address
  simp only [view, pageView, pages, memoryEq, storageEq]

theorem view_truncate_of_ne {other : FileTag} {size : Int32} (different : other ≠ fileTag) :
    (mm.executeInstruction replies (.truncate fileTag size)).memory.view other =
      mm.view other := by
  rcases @truncate_cases config mm replies fileTag size with ⟨outcome, _⟩ | ⟨_, _, outcome⟩
  · rw [outcome]
  · rw [outcome]
    dsimp only
    split
    · refine view_congr (fun number => ?_)
        (mm.dropped_truncated fileTag size).physicalMemory ?_
      · rw [page_truncated_mmResizePageTable, if_neg (by simp [different])]
      · rw [mmResizePageTable_eq]
        exact setBlocks_storage_of_ne different
    · exact view_setBlocks_of_ne different

theorem view_delete (sound : Sound scope none mm) (other : FileTag)
    (done : (mm.executeInstruction replies (.delete fileTag)).succeeded = true) :
    (mm.executeInstruction replies (.delete fileTag)).memory.view other =
      Function.update mm.view fileTag (fun _ => 0) other := by
  have pageOf := @page_mmRemovePageTable config mm fileTag sound.keys
  rw [executeInstruction] at done ⊢
  split at done
  · simp at done
  · rename_i accepted
    rw [if_neg accepted]
    by_cases same : other = fileTag
    · subst same
      rw [Function.update_self, ← byteAt_zeroPage]
      refine view_setBlocks_self fun number entry present => ?_
      have held := present.held
      rw [pageOf, if_pos rfl] at held
      simp at held
    · rw [Function.update_of_ne same, view_setBlocks_of_ne same]
      refine view_congr (fun number => ?_) ?_ ?_
      · rw [pageOf, if_neg same]
      · rw [mmRemovePageTable_eq]
      · rw [mmRemovePageTable_eq]

/-- An instruction that succeeds changes what a query sees in the way that only depends on
what the query saw and, for TAG, on the blocks in Storage. -/
theorem Sound.seen_executeInstruction (sound : Sound scope none mm) {instruction : Instruction}
    (keeps : KeepsCoherent scope.coherent mm replies instruction)
    (notSpared : ∀ fileTag ∈ instruction.fileTags, fileTag ∉ scope.spared)
    (done : (mm.executeInstruction replies instruction).succeeded = true) {other : FileTag}
    (tracked : other ∈ scope.coherent) :
    (mm.executeInstruction replies instruction).memory.view other =
      seenAfter config mm.storedView mm.view instruction other := by
  cases instruction with
  | create fileTag =>
      rw [MemoryManager.executeInstruction] at done ⊢
      split at done
      · simp at done
      · rename_i accepted
        rw [if_neg accepted, seenAfter]
        by_cases same : other = fileTag
        · subst same
          rw [Function.update_self, ← byteAt_zeroPage]
          exact view_setBlocks_self (not_present_of_residentPages
            (keeps (by simpa using accepted) tracked))
        · rw [Function.update_of_ne same, view_setBlocks_of_ne same]
  | truncate fileTag size =>
      rw [seenAfter]
      by_cases same : other = fileTag
      · subst same
        rw [Function.update_self]
        exact view_truncate sound tracked keeps done
      · rw [Function.update_of_ne same]
        exact view_truncate_of_ne same
  | write fileTag base data =>
      have creating := Unmoved.mmCreatePageTable mm fileTag
      obtain ⟨_, _, written, whole, view⟩ := (creating.sound sound).mmWriteToMemory
        (notSpared fileTag (by simp [Instruction.fileTags])) rfl
      rw [whole done, List.take_length] at view
      refine (view other tracked).trans ?_
      exact FlatStore.overwrite_congr ((creating.invisible _).view tracked)
  | read fileTag base size =>
      have created := Kept.of_unmoved sound (Unmoved.mmCreatePageTable mm fileTag)
      change _ = mm.view other
      rw [MemoryManager.executeInstruction]
      split
      · exact created.invisible.view tracked
      · split
        · rename_i failed reading
          exact (created.trans (created.sound.mmReadFromMemory reading).1).invisible.view tracked
        · rename_i content final reading
          have kept := created.trans (created.sound.mmReadFromMemory reading).1
          split
          · exact kept.invisible.view tracked
          · exact kept.invisible.view tracked
  | tag source target =>
      rw [MemoryManager.executeInstruction] at done ⊢
      split at done
      · simp at done
      · rename_i accepted
        rw [if_neg accepted, seenAfter]
        by_cases same : other = target
        · subst same
          rw [Function.update_self]
          exact view_setBlocks_self (not_present_of_residentPages
            (keeps (by simpa using accepted) tracked))
        · rw [Function.update_of_ne same, view_setBlocks_of_ne same]
  | commit fileTag =>
      obtain ⟨kept, _⟩ :=
        sound.mmFlushQuery (rfl : mm.mmFlushQuery replies.faults fileTag = (_, _))
      exact kept.invisible.view tracked
  | flush fileTag =>
      obtain ⟨kept, _⟩ :=
        sound.mmFlushQuery (rfl : mm.mmFlushQuery replies.faults fileTag = (_, _))
      exact kept.invisible.view tracked
  | delete fileTag => exact view_delete sound other done
  | finish => rfl

theorem accepted_of_tag {source target : FileTag}
    (done : (mm.executeInstruction replies (.tag source target)).succeeded = true) :
    replies.accepted = true := by
  rw [executeInstruction] at done
  split at done
  · simp at done
  · rename_i accepted
    simpa using accepted

theorem Sound.content_executeInstruction (sound : Sound scope none mm)
    {instruction : Instruction}
    (named : ∀ fileTag ∈ instruction.fileTags, fileTag ∈ scope.coherent)
    (done : (mm.executeInstruction replies instruction).succeeded = true) :
    (mm.executeInstruction replies instruction).content = contentOf mm.view instruction := by
  cases instruction with
  | read fileTag base size =>
      have created := Kept.of_unmoved sound (Unmoved.mmCreatePageTable mm fileTag)
      have tracked := named fileTag (by simp [Instruction.fileTags])
      rw [MemoryManager.executeInstruction] at done ⊢
      split at done
      · simp at done
      · rename_i allocated
        rw [if_neg allocated]
        split at done
        · simp at done
        · rename_i content final reading
          split at done
          · simp at done
          · rename_i delivered
            rw [if_neg delivered, (created.sound.mmReadFromMemory reading).2 tracked rfl,
              contentOf, FlatStore.range_congr (created.invisible.view tracked)]
  | create fileTag =>
      rw [MemoryManager.executeInstruction]
      split <;> rfl
  | truncate fileTag size =>
      rcases @truncate_cases config mm replies fileTag size with
        ⟨outcome, _⟩ | ⟨_, _, outcome⟩ <;> rw [outcome] <;> rfl
  | write fileTag base data => rfl
  | tag source target =>
      rw [MemoryManager.executeInstruction]
      split <;> rfl
  | commit fileTag => rfl
  | flush fileTag => rfl
  | delete fileTag =>
      rw [MemoryManager.executeInstruction]
      split <;> rfl
  | finish => rfl

end MemoryManager

/-- The Workers of a system: one block size, and a memory of its own for each. -/
structure Fleet where
  pageSize : Nat
  frameCount : Nat → Nat
  policy : Nat → ReplacementPolicy
  pageSize_pos : 0 < pageSize
  pageSize_lt : pageSize < 2 ^ 32
  frameCount_lt : ∀ worker, frameCount worker < 2 ^ 31

def Fleet.config (fleet : Fleet) (worker : Nat) : MemoryConfig where
  pageSize := fleet.pageSize
  frameCount := fleet.frameCount worker
  policy := fleet.policy worker
  pageSize_pos := fleet.pageSize_pos
  pageSize_lt := fleet.pageSize_lt
  frameCount_lt := fleet.frameCount_lt worker

/-- The two executions: the Workers with the Storage they share and the Worker that has
the query, and the memory manager of the Worker that executes the script on its own, with
its Storage; and what the READs of each have sent. -/
structure Migration (fleet : Fleet) (home : Nat) where
  storage : FileTag → Nat → Page fleet.pageSize
  workers : (worker : Nat) → MemoryManager (fleet.config worker)
  current : Option Nat
  alone : MemoryManager (fleet.config home)
  sent : List (List UInt8)
  sentAlone : List (List UInt8)

/-- The query executes an instruction, is evicted or resumed; another query executes an
instruction or is evicted. -/
inductive MigrationLabel
  | execute (instruction : Instruction) (replies aloneReplies : Replies)
  | evict (faults : StorageFaults)
  | resume (worker : Nat)
  | other (worker : Nat) (instruction : Instruction) (replies : Replies)
  | evictOther (worker : Nat) (faults : StorageFaults)

namespace Migration

variable {fleet : Fleet} {home : Nat}

/-- The memory manager of a Worker with the Storage of all. -/
def attached (state : Migration fleet home) (worker : Nat) :
    MemoryManager (fleet.config worker) :=
  { state.workers worker with storage := state.storage }

def worked (state : Migration fleet home) (worker : Nat)
    (memory : MemoryManager (fleet.config worker)) : Migration fleet home :=
  { state with
    storage := memory.storage
    workers := Function.update state.workers worker memory }

/-- The query executes an instruction on a Worker, and alone; it goes on when the
instruction succeeds. -/
def executed (state : Migration fleet home) (worker : Nat) (instruction : Instruction)
    (replies aloneReplies : Replies) : Option (Migration fleet home) :=
  let outcome := (state.attached worker).executeInstruction replies instruction
  let aloneOutcome := state.alone.executeInstruction aloneReplies instruction
  if outcome.succeeded ∧ aloneOutcome.succeeded then
    some
      { state.worked worker outcome.memory with
        alone := aloneOutcome.memory
        sent := state.sent ++ outcome.content.toList
        sentAlone := state.sentAlone ++ aloneOutcome.content.toList }
  else none

/-- The step function.  The query names the given File:Tags, and no other query does. -/
def next (fileTags : List FileTag) (state : Migration fleet home) :
    MigrationLabel → Option (Migration fleet home)
  | .execute instruction replies aloneReplies =>
    if ∀ fileTag ∈ instruction.fileTags, fileTag ∈ fileTags then
      state.current.bind fun worker =>
        state.executed worker instruction replies aloneReplies
    else none
  | .evict faults =>
    state.current.bind fun worker =>
      match (state.attached worker).mmFlushAllDirty faults with
      | (true, flushed) => some { state.worked worker flushed with current := none }
      | (false, _) => none
  | .resume worker =>
    if state.current = none then some { state with current := some worker } else none
  | .other worker instruction replies =>
    if state.current ≠ some worker ∧ ∀ fileTag ∈ instruction.fileTags, fileTag ∉ fileTags then
      some (state.worked worker
        ((state.attached worker).executeInstruction replies instruction).memory)
    else none
  | .evictOther worker faults =>
    if state.current ≠ some worker then
      some (state.worked worker ((state.attached worker).mmFlushAllDirty faults).2)
    else none

/-- All Workers have just started, and the two executions find the same blocks. -/
def Started (fileTags : List FileTag) (state : Migration fleet home) : Prop :=
  (∀ worker, (state.workers worker).Created) ∧ state.alone.Created ∧
    (∀ fileTag ∈ fileTags, state.alone.storage fileTag = state.storage fileTag) ∧
    state.current = none ∧ state.sent = [] ∧ state.sentAlone = []

/-- Every way of cutting the execution of every script into pieces. -/
def system (fleet : Fleet) (home : Nat) (fileTags : List FileTag) :
    TransitionSystem (Migration fleet home) MigrationLabel :=
  .ofNext (Started fileTags) (next fileTags)

/-- A TAG that Storage accepts copies the same blocks in both executions. -/
def SameSource (state : Migration fleet home) (replies : Replies) : Instruction → Prop
  | .tag source _ => replies.accepted = true → state.storage source = state.alone.storage source
  | _ => True

/-- The condition: instructions leave no page resident whose block Storage has changed, TAG
copies the same blocks, and a Worker that takes the query over holds its pages as they are
in Storage. -/
def Fresh (fileTags : List FileTag) (state : Migration fleet home) : MigrationLabel → Prop
  | .execute instruction replies aloneReplies =>
    (∀ worker, state.current = some worker →
      MemoryManager.KeepsCoherent { fileTag | fileTag ∈ fileTags } (state.attached worker)
        replies instruction) ∧
    MemoryManager.KeepsCoherent { fileTag | fileTag ∈ fileTags } state.alone aloneReplies
      instruction ∧
    state.SameSource replies instruction
  | .resume worker => ∀ fileTag ∈ fileTags,
    ∀ page ∈ (state.workers worker).residentPages fileTag,
      (state.workers worker).physicalMemory page.1.frame = state.storage fileTag page.2
  | _ => True

/-- What the query sees: through the Worker that has it, or in Storage. -/
def seen (state : Migration fleet home) (fileTag : FileTag) : Nat → UInt8 :=
  match state.current with
  | some worker => (state.attached worker).view fileTag
  | none => MemoryManager.byteAt (fleet.config home) (state.storage fileTag)

/-- The scope of a Worker that has the query: its File:Tags agree with Storage. -/
def holder (fileTags : List FileTag) (leaked : Set Nat) : MemoryManager.Scope where
  coherent := { fileTag | fileTag ∈ fileTags }
  spared := ∅
  leaked := leaked

/-- The scope of any other Worker: the File:Tags of the query have no dirty page. -/
def bystander (fileTags : List FileTag) (leaked : Set Nat) : MemoryManager.Scope where
  coherent := ∅
  spared := { fileTag | fileTag ∈ fileTags }
  leaked := leaked

/-- The invariant: the query sees the same in both executions. -/
structure Agrees (fileTags : List FileTag) (state : Migration fleet home) : Prop where
  holding : ∀ worker, state.current = some worker →
    ∃ leaked, MemoryManager.Sound (holder fileTags leaked) none (state.attached worker)
  waiting : ∀ worker, state.current ≠ some worker →
    ∃ leaked, MemoryManager.Sound (bystander fileTags leaked) none (state.workers worker)
  alone : ∃ leaked, MemoryManager.Sound (holder fileTags leaked) none state.alone
  seen : ∀ fileTag ∈ fileTags, state.seen fileTag = state.alone.view fileTag
  sent : state.sent = state.sentAlone

variable {fileTags : List FileTag} {state after : Migration fleet home} {worker : Nat}

theorem attached_worked (memory : MemoryManager (fleet.config worker)) :
    (state.worked worker memory).attached worker = memory := by
  simp [attached, worked]

theorem workers_worked_of_ne {other : Nat} (different : other ≠ worker)
    (memory : MemoryManager (fleet.config worker)) :
    (state.worked worker memory).workers other = state.workers other :=
  Function.update_of_ne different _ _

/-- A Worker without the query changes nothing that the query sees. -/
theorem Agrees.worked (agrees : Agrees fileTags state) (apart : state.current ≠ some worker)
    {memory : MemoryManager (fleet.config worker)} {leaked : Set Nat}
    (sound : MemoryManager.Sound (bystander fileTags leaked) none memory)
    (stored : ∀ fileTag ∈ fileTags, memory.storage fileTag = state.storage fileTag) :
    Agrees fileTags (state.worked worker memory) := by
  have holderWorkers : ∀ other, state.current = some other →
      (state.worked worker memory).workers other = state.workers other := by
    intro other isCurrent
    refine workers_worked_of_ne ?_ memory
    rintro rfl
    exact apart isCurrent
  refine ⟨fun other isCurrent => ?_, fun other notCurrent => ?_, agrees.alone, ?_, agrees.sent⟩
  · obtain ⟨otherLeaked, otherSound⟩ := agrees.holding other isCurrent
    refine ⟨otherLeaked, ?_⟩
    unfold attached
    rw [holderWorkers other isCurrent]
    refine otherSound.of_storage rfl rfl rfl rfl ?_
    intro fileTag tracked number entry present clean
    rw [otherSound.clean fileTag tracked number entry present clean]
    exact congrFun (stored fileTag tracked).symm number
  · by_cases same : other = worker
    · subst same
      refine ⟨leaked, ?_⟩
      have here : (state.worked other memory).workers other = memory := Function.update_self _ _ _
      rw [here]
      exact sound
    · rw [workers_worked_of_ne same]
      exact agrees.waiting other notCurrent
  · intro fileTag tracked
    refine Eq.trans ?_ (agrees.seen fileTag tracked)
    have currentEq : (state.worked worker memory).current = state.current := rfl
    unfold Migration.seen
    rw [currentEq]
    cases isCurrent : state.current with
    | none =>
        exact congrArg (MemoryManager.byteAt (fleet.config home)) (stored fileTag tracked)
    | some other =>
        have same := holderWorkers other isCurrent
        refine MemoryManager.view_congr (fun number => ?_) ?_ (stored fileTag tracked)
        · unfold attached
          rw [same]
          rfl
        · unfold attached
          rw [same]

theorem seenAfter_config (first second : Nat) :
    MemoryManager.seenAfter (fleet.config first) =
      MemoryManager.seenAfter (fleet.config second) := by
  funext stored seen instruction
  cases instruction <;> rfl

theorem seenAfter_congr {config : MemoryConfig} {instruction : Instruction}
    {stored otherStored seen otherSeen : FileTag → Nat → UInt8} {fileTag : FileTag}
    (same : seen fileTag = otherSeen fileTag)
    (source : ∀ source target, instruction = .tag source target →
      stored source = otherStored source) :
    MemoryManager.seenAfter config stored seen instruction fileTag =
      MemoryManager.seenAfter config otherStored otherSeen instruction fileTag := by
  cases instruction with
  | create created =>
      by_cases here : fileTag = created
      · subst here
        simp [MemoryManager.seenAfter]
      · simp [MemoryManager.seenAfter, here, same]
  | truncate truncated size =>
      by_cases here : fileTag = truncated
      · subst here
        simp [MemoryManager.seenAfter, same]
      · simp [MemoryManager.seenAfter, here, same]
  | write written base data => exact FlatStore.overwrite_congr same
  | tag copied target =>
      by_cases here : fileTag = target
      · subst here
        simp [MemoryManager.seenAfter, source copied fileTag rfl]
      · simp [MemoryManager.seenAfter, here, same]
  | delete deleted =>
      by_cases here : fileTag = deleted
      · subst here
        simp [MemoryManager.seenAfter]
      · simp [MemoryManager.seenAfter, here, same]
  | read _ _ _ => exact same
  | commit _ => exact same
  | flush _ => exact same
  | finish => exact same

theorem contentOf_congr {instruction : Instruction} {seen otherSeen : FileTag → Nat → UInt8}
    (same : ∀ fileTag ∈ instruction.fileTags, seen fileTag = otherSeen fileTag) :
    MemoryManager.contentOf seen instruction =
      MemoryManager.contentOf otherSeen instruction := by
  cases instruction with
  | read fileTag base size =>
      have sameHere := same fileTag (by simp [Instruction.fileTags])
      rw [MemoryManager.contentOf, MemoryManager.contentOf, FlatStore.range_congr sameHere]
  | _ => rfl

theorem Agrees.execute (agrees : Agrees fileTags state) (isCurrent : state.current = some worker)
    {instruction : Instruction} {replies aloneReplies : Replies}
    (named : ∀ fileTag ∈ instruction.fileTags, fileTag ∈ fileTags)
    (fresh : Fresh fileTags state (.execute instruction replies aloneReplies))
    (step : state.executed worker instruction replies aloneReplies = some after) :
    Agrees fileTags after := by
  obtain ⟨keepsAll, keepsAlone, sameSource⟩ := fresh
  have keeps := keepsAll worker isCurrent
  obtain ⟨leaked, sound⟩ := agrees.holding worker isCurrent
  obtain ⟨aloneLeaked, aloneSound⟩ := agrees.alone
  have seenHere : ∀ fileTag ∈ fileTags,
      (state.attached worker).view fileTag = state.alone.view fileTag := by
    intro fileTag tracked
    have seen := agrees.seen fileTag tracked
    unfold Migration.seen at seen
    rw [isCurrent] at seen
    exact seen
  unfold executed at step
  dsimp only at step
  split at step
  · rename_i succeeded
    obtain rfl := Option.some.inj step
    have kept := (sound.executeInstruction keeps (by simp [holder])).1
    have aloneKept := (aloneSound.executeInstruction keepsAlone (by simp [holder])).1
    set outcome := (state.attached worker).executeInstruction replies instruction
    set aloneOutcome := state.alone.executeInstruction aloneReplies instruction
    have attachedEq : (state.worked worker outcome.memory).attached worker = outcome.memory :=
      attached_worked outcome.memory
    refine ⟨fun other otherCurrent => ?_, fun other notCurrent => ?_, ⟨_, aloneKept⟩, ?_, ?_⟩
    · obtain rfl : worker = other := Option.some.inj (isCurrent.symm.trans otherCurrent)
      refine ⟨leaked ∪ (state.attached worker).droppedFrames replies instruction, ?_⟩
      change MemoryManager.Sound _ none
        ((state.worked worker outcome.memory).attached worker)
      rw [attachedEq]
      exact kept
    · have different : other ≠ worker := by
        rintro rfl
        exact notCurrent isCurrent
      change ∃ leaked, MemoryManager.Sound _ none
        ((state.worked worker outcome.memory).workers other)
      rw [workers_worked_of_ne different]
      exact agrees.waiting other notCurrent
    · intro fileTag tracked
      have seenEq : Migration.seen { state.worked worker outcome.memory with
          alone := aloneOutcome.memory
          sent := state.sent ++ outcome.content.toList
          sentAlone := state.sentAlone ++ aloneOutcome.content.toList } fileTag =
            outcome.memory.view fileTag := by
        have currentEq : (state.worked worker outcome.memory).current = some worker := isCurrent
        unfold Migration.seen
        rw [currentEq]
        exact congrArg (fun memory => MemoryManager.view memory fileTag) attachedEq
      rw [seenEq]
      refine (sound.seen_executeInstruction keeps (by simp [holder]) succeeded.1 tracked).trans ?_
      refine Eq.trans ?_ (aloneSound.seen_executeInstruction keepsAlone (by simp [holder])
        succeeded.2 tracked).symm
      rw [seenAfter_config worker home]
      refine seenAfter_congr (seenHere fileTag tracked) fun source target isTag => ?_
      subst isTag
      have accepted := MemoryManager.accepted_of_tag succeeded.1
      exact congrArg (MemoryManager.byteAt (fleet.config home)) (sameSource accepted)
    · have content : outcome.content = aloneOutcome.content := by
        rw [sound.content_executeInstruction named succeeded.1,
          aloneSound.content_executeInstruction named succeeded.2]
        exact contentOf_congr fun fileTag isNamed => seenHere fileTag (named fileTag isNamed)
      change state.sent ++ outcome.content.toList = state.sentAlone ++ aloneOutcome.content.toList
      rw [agrees.sent, content]
  · cases step

/-- A successful flush leaves in Storage what the query saw. -/
theorem Agrees.evict (agrees : Agrees fileTags state) (isCurrent : state.current = some worker)
    {faults : StorageFaults} {flushed : MemoryManager (fleet.config worker)}
    (flush : (state.attached worker).mmFlushAllDirty faults = (true, flushed)) :
    Agrees fileTags { state.worked worker flushed with current := none } := by
  obtain ⟨leaked, sound⟩ := agrees.holding worker isCurrent
  obtain ⟨kept, clean⟩ := sound.mmFlushAllDirty flush
  refine ⟨by simp, fun other _ => ?_, agrees.alone, fun fileTag tracked => ?_, agrees.sent⟩
  · change ∃ leaked, MemoryManager.Sound _ none ((state.worked worker flushed).workers other)
    by_cases same : other = worker
    · subst same
      have here : (state.worked other flushed).workers other = flushed :=
        Function.update_self _ _ _
      rw [here]
      exact ⟨leaked, { kept.sound with
        clean := by simp [bystander]
        spared := fun fileTag _ => clean rfl fileTag }⟩
    · rw [workers_worked_of_ne same]
      refine agrees.waiting other fun otherCurrent => same ?_
      exact Option.some.inj (otherCurrent.symm.trans isCurrent)
  · refine Eq.trans ?_ (agrees.seen fileTag tracked)
    have seenHere : state.seen fileTag = (state.attached worker).view fileTag := by
      unfold Migration.seen
      rw [isCurrent]
    rw [seenHere]
    have stored : (state.attached worker).view fileTag =
        MemoryManager.byteAt (fleet.config worker) (flushed.storage fileTag) :=
      MemoryManager.view_eq_byteAt fun number =>
        (kept.storage_eq tracked (clean rfl fileTag) number).symm
    exact stored.symm

/-- A Worker whose pages agree with Storage can take the query over. -/
theorem Agrees.resume (agrees : Agrees fileTags state) (notCurrent : state.current = none)
    (fresh : Fresh fileTags state (.resume worker)) :
    Agrees fileTags { state with current := some worker } := by
  obtain ⟨leaked, sound⟩ := agrees.waiting worker (by simp [notCurrent])
  have coherent : ∀ fileTag ∈ fileTags, ∀ number entry,
      (state.attached worker).Present fileTag number entry →
        (state.attached worker).physicalMemory entry.frame = state.storage fileTag number := by
    intro fileTag tracked number entry present
    exact fresh fileTag tracked (entry, number)
      (MemoryManager.mem_residentPages.mpr (present.of_entries rfl))
  have attachedSound : MemoryManager.Sound (bystander fileTags leaked) none
      (state.attached worker) := sound.of_storage rfl rfl rfl rfl (by simp [bystander])
  refine ⟨fun other isCurrent => ?_, fun other _ => ?_, agrees.alone,
    fun fileTag tracked => ?_, agrees.sent⟩
  · obtain rfl : worker = other := Option.some.inj isCurrent
    exact ⟨leaked, { attachedSound with
      clean := fun fileTag tracked number entry present _ =>
        coherent fileTag tracked number entry present
      spared := by simp [holder] }⟩
  · exact agrees.waiting other (by simp [notCurrent])
  · refine Eq.trans ?_ (agrees.seen fileTag tracked)
    have seenHere : state.seen fileTag =
        MemoryManager.byteAt (fleet.config home) (state.storage fileTag) := by
      unfold Migration.seen
      rw [notCurrent]
    rw [seenHere]
    refine MemoryManager.view_eq_byteAt (fun number => ?_ :
      ∀ number, (state.attached worker).pageView fileTag number = state.storage fileTag number)
    by_cases inMemory : ∃ entry, (state.attached worker).Present fileTag number entry
    · obtain ⟨entry, present⟩ := inMemory
      rw [present.pageView]
      exact coherent fileTag tracked number entry present
    · rw [MemoryManager.pageView_of_not_present fun entry present => inMemory ⟨entry, present⟩]
      rfl

theorem Agrees.next (agrees : Agrees fileTags state) {label : MigrationLabel}
    (fresh : Fresh fileTags state label) (step : state.next fileTags label = some after) :
    Agrees fileTags after := by
  cases label with
  | execute instruction replies aloneReplies =>
      unfold Migration.next at step
      dsimp only at step
      split at step
      · rename_i named
        obtain ⟨worker, isCurrent, executing⟩ := Option.bind_eq_some_iff.mp step
        exact agrees.execute isCurrent named fresh executing
      · cases step
  | evict faults =>
      obtain ⟨worker, isCurrent, flushing⟩ := Option.bind_eq_some_iff.mp step
      split at flushing
      · rename_i flushed flush
        obtain rfl := Option.some.inj flushing
        exact agrees.evict isCurrent flush
      · cases flushing
  | resume worker =>
      unfold Migration.next at step
      dsimp only at step
      split at step
      · rename_i notCurrent
        obtain rfl := Option.some.inj step
        exact agrees.resume notCurrent fresh
      · cases step
  | other worker instruction replies =>
      unfold Migration.next at step
      dsimp only at step
      split at step
      · rename_i apart
        obtain rfl := Option.some.inj step
        obtain ⟨leaked, sound⟩ := agrees.waiting worker apart.1
        have attachedSound : MemoryManager.Sound (bystander fileTags leaked) none
            (state.attached worker) := sound.of_storage rfl rfl rfl rfl (by simp [bystander])
        obtain ⟨kept, stored⟩ := attachedSound.executeInstruction
          (MemoryManager.keepsCoherent_empty replies instruction) apart.2
        exact agrees.worked apart.1 kept stored
      · cases step
  | evictOther worker faults =>
      unfold Migration.next at step
      dsimp only at step
      split at step
      · rename_i apart
        obtain rfl := Option.some.inj step
        obtain ⟨leaked, sound⟩ := agrees.waiting worker apart
        have attachedSound : MemoryManager.Sound (bystander fileTags leaked) none
            (state.attached worker) := sound.of_storage rfl rfl rfl rfl (by simp [bystander])
        obtain ⟨kept, _⟩ := attachedSound.mmFlushAllDirty
          (rfl : (state.attached worker).mmFlushAllDirty faults = (_, _))
        exact agrees.worked apart kept.sound kept.stored
      · cases step

theorem Started.agrees (started : Started fileTags state) : Agrees fileTags state := by
  obtain ⟨created, aloneCreated, sameBlocks, notCurrent, noneSent, noneSentAlone⟩ := started
  refine ⟨by simp [notCurrent], fun worker _ => ⟨∅, ?_⟩, ⟨∅, ?_⟩, fun fileTag tracked => ?_,
    noneSent.trans noneSentAlone.symm⟩
  · have sound := (created worker).sound
    have absent : ∀ fileTag number, (state.workers worker).page fileTag number = none := by
      simp [MemoryManager.page, MemoryManager.findPageTable, (created worker).1]
    exact { sound with
      clean := by simp [bystander]
      spared := by simp [absent] }
  · exact aloneCreated.sound.restrict (Set.subset_univ _) (by simp [holder]) rfl
  · have absent : ∀ number entry, ¬ state.alone.Present fileTag number entry := by
      intro number entry present
      have held := present.held
      simp [MemoryManager.page, MemoryManager.findPageTable, aloneCreated.1] at held
    unfold Migration.seen
    rw [notCurrent]
    refine (MemoryManager.view_eq_byteAt fun number => ?_).symm
    rw [MemoryManager.pageView_of_not_present (absent number), sameBlocks fileTag tracked]

section Runs

/-- Two bytes a page and a frame for each Worker. -/
def smallFleet : Fleet where
  pageSize := 2
  frameCount _ := 1
  policy _ := .clockM
  pageSize_pos := Nat.two_pos
  pageSize_lt := MemoryConfig.two_bytes
  frameCount_lt _ := MemoryManager.oneFrameConfig.frameCount_lt

def materias : FileTag := ⟨"MATERIAS", "BASE"⟩

def createdMemory (worker : Nat) : MemoryManager (smallFleet.config worker) where
  entries := []
  used _ := false
  clockPointer := 0
  physicalMemory _ := Vector.replicate 2 0
  globalTimestamp := 0
  connected := true
  storage _ _ := Vector.replicate 2 0
  requests := 0

def startedMigration : Migration smallFleet 0 where
  storage _ _ := Vector.replicate 2 0
  workers := createdMemory
  current := none
  alone := createdMemory 0
  sent := []
  sentAlone := []

theorem started_startedMigration : Started [materias] startedMigration :=
  ⟨fun _ => ⟨rfl, fun _ => rfl, rfl⟩, ⟨rfl, fun _ => rfl, rfl⟩, fun _ _ => rfl, rfl, rfl, rfl⟩

/-- The query executes an instruction and everything outside answers well. -/
def executes (instruction : Instruction) : MigrationLabel :=
  .execute instruction MemoryManager.goodReplies MemoryManager.goodReplies

/-- Worker 0 writes a page, Worker 1 reads it. -/
def handedOver : List MigrationLabel :=
  [.resume 0, executes (.write materias 0 [65]), .evict fun _ => false, .resume 1,
    executes (.read materias 0 1)]

/-- A check that is enough for the condition in a script of READs and WRITEs. -/
def quicklyFresh (state : Migration smallFleet 0) : MigrationLabel → Bool
  | .execute (.write _ _ _) _ _ => true
  | .execute (.read _ _ _) _ _ => true
  | .evict _ => true
  | .resume worker => ((state.workers worker).residentPages materias).isEmpty
  | _ => false

theorem fresh_of_quicklyFresh (state : Migration smallFleet 0) (label : MigrationLabel)
    (quick : state.quicklyFresh label = true) : Fresh [materias] state label := by
  unfold quicklyFresh at quick
  split at quick
  · simp [Fresh, MemoryManager.KeepsCoherent, SameSource]
  · simp [Fresh, MemoryManager.KeepsCoherent, SameSource]
  · trivial
  · intro fileTag tracked
    obtain rfl := List.mem_singleton.mp tracked
    simp [List.isEmpty_iff.mp quick]
  · cases quick

/-- Worker 0 gets the query back after Worker 1 has written to the page. -/
def handedBack : List MigrationLabel :=
  [.resume 0, executes (.write materias 0 [65]), .evict fun _ => false, .resume 1,
    executes (.write materias 0 [66]), .evict fun _ => false, .resume 0,
    executes (.read materias 0 1)]

end Runs

end Migration

end Worker

end MasterOfFiles
