import MasterOfFiles.SharedStorage

/-!
# Tasks under way on shared Storage

While a task is under way, what is left of its program does to the blocks that it found
what the whole program does to them with some pattern of refusals, because nobody else
touches its File:Tags.  When the task ends, what is known of the memory manager over
blocks that fail as they are told holds of the disk.
-/

namespace MasterOfFiles

namespace Worker

variable {config : MemoryConfig}

section Requests

variable {contents other : Contents config} {owned : Set FileTag}
  {request : StorageRequest config}

/-- The two rows of blocks agree on certain File:Tags. -/
def AgreeOn (owned : Set FileTag) (contents other : Contents config) : Prop :=
  ∀ fileTag ∈ owned, contents fileTag = other fileTag

theorem AgreeOn.answer (agree : AgreeOn owned contents other)
    (within : ∀ fileTag ∈ request.fileTags, fileTag ∈ owned) (accepted : Bool) :
    request.answer contents accepted = request.answer other accepted := by
  cases request with
  | readBlock fileTag number =>
      have same := agree fileTag (within fileTag (by simp [StorageRequest.fileTags]))
      simp only [StorageRequest.answer, same]
  | _ => rfl

/-- A request leaves the File:Tags alone that it does not name. -/
theorem apply_of_notMem {fileTag : FileTag} (unnamed : fileTag ∉ request.fileTags) :
    request.apply contents fileTag = contents fileTag := by
  cases request <;> simp_all [StorageRequest.apply, StorageRequest.fileTags]

theorem applyIf_of_notMem {fileTag : FileTag} (accepted : Bool)
    (unnamed : fileTag ∉ request.fileTags) :
    request.applyIf contents accepted fileTag = contents fileTag := by
  unfold StorageRequest.applyIf
  split
  · exact apply_of_notMem unnamed
  · rfl

theorem AgreeOn.applyIf (agree : AgreeOn owned contents other)
    (within : ∀ fileTag ∈ request.fileTags, fileTag ∈ owned) (accepted : Bool) :
    AgreeOn owned (request.applyIf contents accepted) (request.applyIf other accepted) := by
  intro fileTag isOwned
  by_cases named : fileTag ∈ request.fileTags
  · unfold StorageRequest.applyIf
    split
    · have here := agree fileTag isOwned
      cases request with
      | forkFile source target =>
          have sourceEq := agree source (within source (by simp [StorageRequest.fileTags]))
          by_cases same : fileTag = target
          · simp [StorageRequest.apply, same, sourceEq]
          · simp [StorageRequest.apply, same, here]
      | _ =>
          obtain rfl : fileTag = _ := by simpa [StorageRequest.fileTags] using named
          simp [StorageRequest.apply, here]
    · exact agree fileTag isOwned
  · rw [applyIf_of_notMem accepted named, applyIf_of_notMem accepted named]
    exact agree fileTag isOwned

end Requests

section Underway

variable {owned : Set FileTag} {contents after : Contents config} {mm : MemoryManager config}
  {execution : Execution config}

/-- The replies give the answers that a task has got: to the requests of its memory manager
and to its own. -/
structure Matches (execution : Execution config) (refused : List Bool) (own : Option Bool)
    (replies : Replies) : Prop where
  allocated : replies.allocated = execution.allocated
  delivered : replies.delivered = execution.delivered
  faults : ∀ index (inside : index < refused.length), replies.faults index = refused[index]
  accepted : ∀ answer, own = some answer → replies.accepted = answer

/-- Replies that give certain answers, and accept everything else. -/
def repliesOf (execution : Execution config) (refused : List Bool) (own : Option Bool) :
    Replies where
  faults index := refused.getD index false
  accepted := own.getD true
  allocated := execution.allocated
  delivered := execution.delivered

theorem matches_repliesOf (execution : Execution config) (refused : List Bool)
    (own : Option Bool) : Matches execution refused own (repliesOf execution refused own) where
  allocated := rfl
  delivered := rfl
  faults index inside := by simp [repliesOf, inside]
  accepted := by
    rintro answer rfl
    rfl

/-- A task under way on File:Tags of its own. -/
structure Underway (owned : Set FileTag) (contents : Contents config)
    (mm : MemoryManager config) (execution : Execution config) : Prop where
  named : ∀ fileTag ∈ execution.task.fileTags, fileTag ∈ owned
  ready : execution.task.Ready execution.allocated mm
  asks : execution.rest.Ensures (fun request => ∀ fileTag ∈ request.fileTags, fileTag ∈ owned)
    fun outcome => TablesWithin owned outcome.memory
  ends : execution.rest.EndsWith fun request => request.ofInstruction = true
  path : ∃ refused own now, AgreeOn owned now contents ∧
    (own ≠ none → ∃ outcome, execution.rest = .done outcome) ∧
    ∀ replies, Matches execution refused own replies →
      (execution.task.program execution.allocated execution.delivered mm).run
          (replying replies) (execution.found, 0) =
        execution.rest.run (replying replies) (now, refused.length)

theorem Task.program_within {allocated delivered : Bool} {task : Task}
    (within : TablesWithin owned mm) (named : ∀ fileTag ∈ task.fileTags, fileTag ∈ owned) :
    (task.program allocated delivered mm).Ensures
      (fun request => ∀ fileTag ∈ request.fileTags, fileTag ∈ owned)
      fun outcome => TablesWithin owned outcome.memory := by
  cases task with
  | execute instruction => exact Client.executeInstruction_within within named
  | evict =>
      exact ((Client.mmFlushAllDirty_within within).mono (fun _ block => block.2)
        fun _ kept => kept).bind fun _ kept => kept

theorem Task.program_endsWith {allocated delivered : Bool} {task : Task} :
    (task.program allocated delivered mm).EndsWith
      fun request => request.ofInstruction = true := by
  cases task with
  | execute instruction => exact Client.executeInstruction_endsWith
  | evict =>
      have everywhere : TablesWithin Set.univ mm := fun _ _ => trivial
      refine Asking.EndsWith.bind ((Client.mmFlushAllDirty_within everywhere).mono ?_
        fun _ _ => trivial) fun _ _ => trivial
      intro request within
      simp [within.1]

theorem Underway.start {task : Task} {allocated delivered : Bool}
    (within : TablesWithin owned mm) (named : ∀ fileTag ∈ task.fileTags, fileTag ∈ owned)
    (ready : task.Ready allocated mm) :
    Underway owned contents mm
      ⟨task, allocated, delivered, contents, task.program allocated delivered mm⟩ where
  named := named
  ready := ready
  asks := task.program_within within named
  ends := task.program_endsWith
  path := ⟨[], none, contents, fun _ _ => rfl, by simp, fun _ _ => rfl⟩

/-- Changes to the File:Tags of others do not matter. -/
theorem Underway.of_agreeOn (underway : Underway owned contents mm execution)
    (agree : AgreeOn owned contents after) : Underway owned after mm execution := by
  obtain ⟨refused, own, now, same, done, run⟩ := underway.path
  exact ⟨underway.named, underway.ready, underway.asks, underway.ends, refused, own, now,
    fun fileTag isOwned => (same fileTag isOwned).trans (agree fileTag isOwned), done, run⟩

theorem Underway.serve (underway : Underway owned contents mm execution)
    {request : StorageRequest config}
    {resume : request.Answer → Client config (InstructionOutcome config)}
    (asking : execution.rest = Asking.ask request resume) (accepted : Bool) :
    Underway owned (request.applyIf contents accepted) mm
      { execution with rest := resume (request.answer contents accepted) } := by
  obtain ⟨refused, own, now, agree, done, run⟩ := underway.path
  have asks := underway.asks
  have ends := underway.ends
  rw [asking] at asks ends run
  have notYet : own = none := by
    by_contra already
    obtain ⟨outcome, isDone⟩ := done already
    rw [asking] at isDone
    cases isDone
  subst notYet
  have answerEq := agree.answer asks.1 accepted
  refine ⟨underway.named, underway.ready, asks.2 _, ends.2 _, ?_⟩
  by_cases special : request.ofInstruction = true
  · refine ⟨refused, some accepted, request.applyIf now accepted, agree.applyIf asks.1 accepted,
      fun _ => ends.1 special _, fun replies matching => ?_⟩
    have isAccepted := matching.accepted accepted rfl
    rw [run replies ⟨matching.allocated, matching.delivered, matching.faults, by simp⟩,
      ← answerEq]
    simp [replying, Replies.accepts, special, isAccepted, StorageRequest.count]
  · refine ⟨refused ++ [!accepted], none, request.applyIf now accepted,
      agree.applyIf asks.1 accepted, by simp, fun replies matching => ?_⟩
    have isAccepted : replies.faults refused.length = !accepted := by
      simpa using matching.faults refused.length (by simp)
    have earlier : ∀ index (inside : index < refused.length),
        replies.faults index = refused[index] := by
      intro index inside
      have found := matching.faults index (by simp; omega)
      rwa [List.getElem_append_left inside] at found
    rw [run replies ⟨matching.allocated, matching.delivered, earlier, by simp⟩, ← answerEq]
    simp [replying, Replies.accepts, special, isAccepted, StorageRequest.count]

/-- When the task ends, its whole program has met some pattern of refusals. -/
theorem Underway.finish (underway : Underway owned contents mm execution)
    {outcome : InstructionOutcome config} (isDone : execution.rest = Asking.done outcome) :
    ∃ replies now requests, replies.allocated = execution.allocated ∧
      replies.delivered = execution.delivered ∧ AgreeOn owned now contents ∧
      (execution.task.program replies.allocated replies.delivered mm).run (replying replies)
        (execution.found, 0) = (outcome, now, requests) := by
  obtain ⟨refused, own, now, agree, _, run⟩ := underway.path
  have whole := run _ (matches_repliesOf execution refused own)
  rw [isDone] at whole
  exact ⟨repliesOf execution refused own, now, refused.length, rfl, rfl, agree, whole⟩

end Underway

section Tasks

open MemoryManager (Sound Scope)

variable {mm : MemoryManager config} {scope : Scope} {replies : Replies}

/-- An instruction does not change what is seen of a File:Tag that it does not name. -/
theorem view_executeInstruction_of_notMem (sound : Sound scope none mm)
    {instruction : Instruction} (notSpared : ∀ fileTag ∈ instruction.fileTags,
      fileTag ∉ scope.spared) {other : FileTag} (tracked : other ∈ scope.coherent)
    (unnamed : other ∉ instruction.fileTags) :
    (mm.executeInstruction replies instruction).memory.view other = mm.view other := by
  cases instruction with
  | create fileTag =>
      have different : other ≠ fileTag := by simpa [Instruction.fileTags] using unnamed
      rw [MemoryManager.executeInstruction]
      split
      · rfl
      · exact MemoryManager.view_setBlocks_of_ne different
  | truncate fileTag size =>
      exact MemoryManager.view_truncate_of_ne (by simpa [Instruction.fileTags] using unnamed)
  | write fileTag base data =>
      have different : other ≠ fileTag := by simpa [Instruction.fileTags] using unnamed
      have creating := MemoryManager.Unmoved.mmCreatePageTable mm fileTag
      obtain ⟨_, _, written, _, view⟩ := (creating.sound sound).mmWriteToMemory
        (notSpared fileTag (by simp [Instruction.fileTags])) rfl
      refine (view other tracked).trans ?_
      rw [← (creating.invisible _).view tracked]
      funext address
      simp [FlatStore.overwrite, different]
  | read fileTag base size =>
      have created := MemoryManager.Kept.of_unmoved sound
        (MemoryManager.Unmoved.mmCreatePageTable mm fileTag)
      rw [MemoryManager.executeInstruction]
      split
      · exact created.invisible.view tracked
      · split
        · rename_i failed reading
          exact (created.trans (created.sound.mmReadFromMemory reading).1).invisible.view tracked
        · rename_i content final reading
          have kept := created.trans (created.sound.mmReadFromMemory reading).1
          split
          · exact kept.invisible.view tracked
          · exact kept.invisible.view tracked
  | tag source target =>
      have different : other ≠ target := by
        rintro rfl
        simp [Instruction.fileTags] at unnamed
      rw [MemoryManager.executeInstruction]
      split
      · rfl
      · exact MemoryManager.view_setBlocks_of_ne different
  | commit fileTag =>
      obtain ⟨kept, _⟩ :=
        sound.mmFlushQuery (rfl : mm.mmFlushQuery replies.faults fileTag = (_, _))
      exact kept.invisible.view tracked
  | flush fileTag =>
      obtain ⟨kept, _⟩ :=
        sound.mmFlushQuery (rfl : mm.mmFlushQuery replies.faults fileTag = (_, _))
      exact kept.invisible.view tracked
  | delete fileTag =>
      have different : other ≠ fileTag := by simpa [Instruction.fileTags] using unnamed
      have removed : (mm.mmRemovePageTable fileTag).view other = mm.view other := by
        refine MemoryManager.view_congr (fun number => ?_) ?_ ?_
        · rw [MemoryManager.page_mmRemovePageTable sound.keys, if_neg different]
        · rw [MemoryManager.mmRemovePageTable_eq]
        · rw [MemoryManager.mmRemovePageTable_eq]
      rw [MemoryManager.executeInstruction]
      split
      · exact removed
      · exact (MemoryManager.view_setBlocks_of_ne different).trans removed
  | finish => rfl

/-- Without dirty pages a Worker sees what Storage has. -/
theorem view_eq_storedView (sound : Sound scope none mm) {fileTag : FileTag}
    (tracked : fileTag ∈ scope.coherent)
    (clean : ∀ page ∈ mm.residentPages fileTag, page.1.dirty = false) :
    mm.view fileTag = mm.storedView fileTag := by
  refine MemoryManager.view_eq_byteAt fun number => ?_
  by_cases inMemory : ∃ entry, mm.Present fileTag number entry
  · obtain ⟨entry, present⟩ := inMemory
    rw [present.pageView]
    exact sound.clean fileTag tracked number entry present
      (clean _ (MemoryManager.mem_residentPages.mpr present))
  · exact MemoryManager.pageView_of_not_present
      fun entry present => inMemory ⟨entry, present⟩

/-- A TRUNCATE to a whole number of pages leaves as many pages as blocks. -/
theorem counts_of_aligned {size : Int32} (nonnegative : 0 ≤ size.toInt)
    (bounded : size.toInt ≤ 2 ^ 31 - 1 - config.pageSize)
    (aligned : sizeOfInt size % config.pageSize = 0) :
    ∃ count : Nat, size.toInt = (config.pageSize * count : Nat) ∧
      newPageCount config size = count ∧ storedBlockCount config size = count := by
  have positive := config.pageSize_pos
  unfold newPageCount storedBlockCount
  unfold sizeOfInt at aligned ⊢
  generalize size.toInt = value at *
  obtain ⟨natural, rfl⟩ := Int.eq_ofNat_of_zero_le nonnegative
  have natSize : ((natural : Int) % 2 ^ 64).toNat = natural := by omega
  rw [natSize] at aligned ⊢
  obtain ⟨count, rfl⟩ := Nat.dvd_of_mod_eq_zero aligned
  have exact : ((config.pageSize * count : Nat) : Int) + config.pageSize - 1 =
      ((config.pageSize * count + (config.pageSize - 1) : Nat) : Int) := by omega
  have countLe : count ≤ config.pageSize * count := Nat.le_mul_of_pos_left _ positive
  refine ⟨count, rfl, ?_, ?_⟩
  · rw [Nat.mul_div_cancel_left _ positive, Nat.mod_eq_of_lt (by omega)]
  · rw [exact, Int.bmod_eq_of_le_mul_two (by omega) (by omega), ← Int.ofNat_tdiv,
      Int.toNat_natCast, Nat.mul_add_div positive, Nat.div_eq_of_lt (by omega), Nat.add_zero]

/-- A task that is ready drops the pages that Storage cuts off. -/
theorem Task.Ready.keepsCoherent {instruction : Instruction}
    (ready : (Task.execute instruction).Ready replies.allocated mm) (coherent : Set FileTag) :
    MemoryManager.KeepsCoherent coherent mm replies instruction := by
  cases instruction with
  | create fileTag => exact fun _ _ => ready
  | tag source target => exact fun _ _ => ready.1
  | truncate fileTag size =>
      intro aligned _ _ page member beyond
      obtain ⟨nonnegative, bounded, absent | ⟨allocated, nonzero⟩⟩ := ready
      · simp [absent] at member
      · obtain ⟨count, sizeEq, pages, blocks⟩ :=
          counts_of_aligned nonnegative bounded aligned
        refine ⟨allocated, ?_, by omega⟩
        rintro none
        obtain rfl : count = 0 := by omega
        exact nonzero (by simpa using sizeEq)
  | _ => trivial

/-- The scope of a Worker: its File:Tags agree with Storage. -/
def ownScope (owned : Set FileTag) (leaked : Set Nat) : Scope where
  coherent := owned
  spared := ∅
  leaked := leaked

/-- What a task has done to what is seen through a memory manager. -/
structure Effect (owned : Set FileTag) (task : Task) (before after : MemoryManager config)
    (succeeded : Bool) (content : Option (List UInt8)) : Prop where
  sound : ∃ leaked, Sound (ownScope owned leaked) none after
  unnamed : ∀ fileTag ∈ owned, fileTag ∉ task.fileTags → after.view fileTag = before.view fileTag
  seen : succeeded = true → ∀ fileTag ∈ owned,
    after.view fileTag = task.seenAfter config before.view fileTag
  content : succeeded = true → content = task.contentOf before.view

variable {owned : Set FileTag} {found now : Contents config} {requests : Nat}
  {outcome : InstructionOutcome config} {leaked : Set Nat} {task : Task}
  {seen otherSeen : FileTag → Nat → UInt8} {fileTag : FileTag}

theorem Task.seenAfter_congr (same : seen fileTag = otherSeen fileTag)
    (named : ∀ source ∈ task.fileTags, seen source = otherSeen source) :
    task.seenAfter config seen fileTag = task.seenAfter config otherSeen fileTag := by
  cases task with
  | execute instruction =>
      refine Migration.seenAfter_congr same ?_
      rintro source target rfl
      exact named source (by simp [Task.fileTags, Instruction.fileTags])
  | evict => exact same

theorem Task.contentOf_congr (named : ∀ source ∈ task.fileTags, seen source = otherSeen source) :
    task.contentOf seen = task.contentOf otherSeen := by
  cases task with
  | execute instruction => exact Migration.contentOf_congr named
  | evict => rfl

theorem Task.seenAfter_of_notMem (unnamed : fileTag ∉ task.fileTags) :
    task.seenAfter config seen fileTag = seen fileTag := by
  cases task with
  | execute instruction =>
      cases instruction with
      | write written base data =>
          have different : fileTag ≠ written := by
            simpa [Task.fileTags, Instruction.fileTags] using unnamed
          funext address
          simp [Task.seenAfter, MemoryManager.seenAfter, FlatStore.overwrite, different]
      | _ => simp_all [Task.seenAfter, MemoryManager.seenAfter, Task.fileTags,
          Instruction.fileTags]
  | evict => rfl

theorem effect_executeInstruction (replies : Replies)
    (sound : Sound (ownScope owned leaked) none mm)
    {instruction : Instruction} (named : ∀ fileTag ∈ instruction.fileTags, fileTag ∈ owned)
    (ready : (Task.execute instruction).Ready replies.allocated mm) :
    Effect owned (.execute instruction) mm (mm.executeInstruction replies instruction).memory
      (mm.executeInstruction replies instruction).succeeded
      (mm.executeInstruction replies instruction).content := by
  have keeps := ready.keepsCoherent owned
  have notSpared : ∀ fileTag ∈ instruction.fileTags,
      fileTag ∉ (ownScope owned leaked).spared := by
    simp [ownScope]
  refine ⟨⟨_, (sound.executeInstruction keeps notSpared).1⟩, fun fileTag isOwned unnamed =>
    view_executeInstruction_of_notMem sound notSpared isOwned unnamed,
    fun done fileTag isOwned => ?_, fun done => sound.content_executeInstruction named done⟩
  rw [sound.seen_executeInstruction keeps notSpared done isOwned]
  refine Migration.seenAfter_congr rfl ?_
  rintro source target rfl
  exact (view_eq_storedView sound (named source (by simp [Instruction.fileTags])) ready.2).symm

theorem Task.effect (task : Task)
    (sound : Sound (ownScope owned leaked) none (mm.over found 0))
    (named : ∀ fileTag ∈ task.fileTags, fileTag ∈ owned)
    (ready : task.Ready replies.allocated mm)
    (ran : (task.program replies.allocated replies.delivered mm).run (replying replies)
      (found, 0) = (outcome, now, requests)) :
    Effect owned task (mm.over found 0) (outcome.memory.over now requests) outcome.succeeded
      outcome.content := by
  cases task with
  | execute instruction =>
      have whole := @Client.executeInstruction_run config mm found 0 replies instruction
      have effect := effect_executeInstruction replies sound named ready
      rw [← whole] at effect
      simp only [Task.program] at ran
      rw [ran] at effect
      exact effect
  | evict =>
      have whole := @Client.mmFlushAllDirty_run config mm found 0 replies
      simp only [Task.program, Asking.run_bind] at ran
      generalize (Client.mmFlushAllDirty mm).run (replying replies) (found, 0) = flushed
        at whole ran
      obtain ⟨rfl, rest⟩ := Prod.mk.inj ran
      obtain ⟨kept, _⟩ := sound.mmFlushAllDirty whole.symm
      rw [rest] at kept
      exact ⟨⟨leaked, kept.sound⟩, fun _ isOwned _ => kept.invisible.view isOwned,
        fun _ _ isOwned => kept.invisible.view isOwned, fun _ => rfl⟩

end Tasks

end Worker

end MasterOfFiles
