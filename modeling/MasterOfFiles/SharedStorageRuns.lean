import MasterOfFiles.SharedStorageTasks

/-!
# Shared Storage behaves as one flat store

Each Worker is sound on its own File:Tags over the blocks that its task found, or over
those in Storage when it is idle.  Every step of a run keeps this, and the end of a task
is a step of the flat store.
-/

namespace MasterOfFiles

namespace Worker

open MemoryManager (Sound)

variable {site : Site} {Hash : Type} {owner : FileTag → Nat}
  {state after : SharedStorage site Hash}

namespace SharedStorage

def owned (owner : FileTag → Nat) (worker : Nat) : Set FileTag :=
  { fileTag | owner fileTag = worker }

/-- The blocks that the memory of a Worker goes with: those that the task under way found,
or those in Storage. -/
def base (state : SharedStorage site Hash) (worker : Nat) : Contents (site.config worker) :=
  match state.running worker with
  | some execution => execution.found
  | none => state.contents

/-- The memory of a Worker over the blocks that it goes with. -/
def attached (state : SharedStorage site Hash) (worker : Nat) :
    MemoryManager (site.config worker) :=
  (state.memories worker).over (state.base worker) 0

/-- The invariant: the disk refines block lists, each Worker is sound on its own
File:Tags, and what it sees there is in the flat store. -/
structure Agrees (owner : FileTag → Nat) (state : SharedStorage site Hash)
    (seen : FileTag → Nat → UInt8) : Prop where
  refines : Storage.Refines state.disk state.disk.blockLists
  within : ∀ worker, TablesWithin (owned owner worker) (state.memories worker)
  sound : ∀ worker, ∃ leaked, Sound (ownScope (owned owner worker) leaked) none
    (state.attached worker)
  underway : ∀ worker execution, state.running worker = some execution →
    Underway (owned owner worker) state.contents (state.memories worker) execution
  seen : ∀ fileTag, (state.attached (owner fileTag)).view fileTag = seen fileTag

variable {worker other : Nat} {execution : Execution (site.config worker)}
  {seen : FileTag → Nat → UInt8}

theorem eq_blockLists {disk : Storage.Disk site.storage Hash}
    {lists : Storage.BlockLists site.storage.blockSize} (refines : Storage.Refines disk lists) :
    lists = disk.blockLists :=
  funext refines.lists

/-- A memory that is sound over some blocks is sound over blocks that agree with them, and
sees the same. -/
theorem sound_over {config : MemoryConfig} {mm : MemoryManager config} {owned : Set FileTag}
    {leaked : Set Nat} {contents others : Contents config} {requests count : Nat}
    (agree : AgreeOn owned contents others)
    (sound : Sound (ownScope owned leaked) none (mm.over contents requests)) :
    Sound (ownScope owned leaked) none (mm.over others count) := by
  refine sound.of_storage rfl rfl rfl rfl fun fileTag isOwned number entry present clean => ?_
  rw [sound.clean fileTag isOwned number entry present clean]
  exact congrFun (agree fileTag isOwned) number

theorem view_over {config : MemoryConfig} {mm : MemoryManager config} {owned : Set FileTag}
    {contents others : Contents config} {requests count : Nat}
    (agree : AgreeOn owned contents others) {fileTag : FileTag} (isOwned : fileTag ∈ owned) :
    (mm.over others count).view fileTag = (mm.over contents requests).view fileTag :=
  MemoryManager.view_congr (fun _ => rfl) rfl (agree fileTag isOwned).symm

theorem base_of_running (running : state.running worker = some execution) :
    state.base worker = execution.found := by
  rw [base, running]

theorem base_of_idle (idle : state.running worker = none) :
    state.base worker = state.contents := by
  rw [base, idle]

variable {task : Task} {allocated delivered : Bool}

def started (state : SharedStorage site Hash) (worker : Nat) (task : Task)
    (allocated delivered : Bool) : Execution (site.config worker) :=
  ⟨task, allocated, delivered, state.contents,
    task.program allocated delivered (state.memories worker)⟩

theorem attached_start (idle : state.running worker = none) (other : Nat) :
    (state.resume worker (state.started worker task allocated delivered)).attached other =
      state.attached other := by
  have baseEq : (state.resume worker (state.started worker task allocated delivered)).base
      other = state.base other := by
    by_cases same : other = worker
    · subst same
      have isRunning : (state.resume other (state.started other task allocated
          delivered)).running other = some (state.started other task allocated delivered) :=
        Function.update_self _ _ _
      rw [base_of_running isRunning, base_of_idle idle]
      rfl
    · simp [base, resume, contents, same]
  rw [attached, baseEq]
  rfl

theorem Agrees.start (agrees : Agrees owner state seen) (idle : state.running worker = none)
    (named : ∀ fileTag ∈ task.fileTags, owner fileTag = worker)
    (ready : task.Ready allocated (state.memories worker)) :
    Agrees owner (state.resume worker (state.started worker task allocated delivered))
      seen := by
  refine ⟨agrees.refines, agrees.within, fun other => ?_, fun other found isRunning => ?_,
    fun fileTag => ?_⟩
  · rw [attached_start idle]
    exact agrees.sound other
  · by_cases same : other = worker
    · subst same
      simp only [resume, Function.update_self, Option.some.injEq] at isRunning
      obtain rfl := isRunning
      exact Underway.start (agrees.within other) named ready
    · simp only [resume, Function.update_of_ne same] at isRunning
      exact agrees.underway other found isRunning
  · rw [attached_start idle]
    exact agrees.seen fileTag

/-- The disk changes in the File:Tags of one Worker only, whose task goes on. -/
theorem Agrees.resume (agrees : Agrees owner state seen)
    {disk : Storage.Disk site.storage Hash} (refines : Storage.Refines disk disk.blockLists)
    (isRunning : state.running worker = some execution)
    {rest : Client (site.config worker) (InstructionOutcome (site.config worker))}
    (others : ∀ other, other ≠ worker →
      @AgreeOn (site.config other) (owned owner other) state.contents
        (seenBlocks disk.blockLists))
    (underway : Underway (owned owner worker) (seenBlocks disk.blockLists)
      (state.memories worker) { execution with rest := rest }) :
    Agrees owner ({ state with disk := disk }.resume worker { execution with rest := rest })
      seen := by
  set after := SharedStorage.resume { state with disk := disk } worker
    { execution with rest := rest } with afterEq
  have here : after.running worker = some { execution with rest := rest } :=
    Function.update_self _ _ _
  have there : ∀ other, other ≠ worker → after.running other = state.running other :=
    fun other different => Function.update_of_ne different _ _
  have agree : ∀ other, @AgreeOn (site.config other) (owned owner other) (state.base other)
      (after.base other) := by
    intro other
    by_cases same : other = worker
    · subst same
      rw [base_of_running isRunning, base_of_running here]
      exact fun _ _ => rfl
    · cases runs : state.running other with
      | some found =>
          rw [base_of_running runs, base_of_running ((there other same).trans runs)]
          exact fun _ _ => rfl
      | none =>
          rw [base_of_idle runs, base_of_idle ((there other same).trans runs)]
          exact others other same
  refine ⟨refines, agrees.within, fun other => ?_, fun other found runs => ?_,
    fun fileTag => ?_⟩
  · obtain ⟨leaked, sound⟩ := agrees.sound other
    exact ⟨leaked, sound_over (agree other) sound⟩
  · by_cases same : other = worker
    · subst same
      obtain rfl := Option.some.inj (here.symm.trans runs)
      exact underway
    · exact (agrees.underway other found ((there other same).symm.trans runs)).of_agreeOn
        (others other same)
  · exact (view_over (agree (owner fileTag)) rfl).trans (agrees.seen fileTag)

variable [DecidableEq Hash] {md5 : Storage.Block site.storage.blockSize → Hash}

theorem Agrees.serve (agrees : Agrees owner state seen)
    (isRunning : state.running worker = some execution)
    {request : StorageRequest (site.config worker)}
    {continues : request.Answer → Client (site.config worker)
      (InstructionOutcome (site.config worker))}
    (asking : execution.rest = Asking.ask request continues)
    (harmless : HarmlessRequest md5 state.disk request) :
    Agrees owner ({ state with disk := (respond md5 state.disk request).2 }.resume worker
      { execution with rest := continues (respond md5 state.disk request).1 }) seen := by
  have underway := agrees.underway worker execution isRunning
  have within := underway.asks
  rw [asking] at within
  obtain ⟨accepted, lists, refines, answerEq, seenEq⟩ := respond_cases agrees.refines harmless
  obtain rfl := eq_blockLists refines
  refine agrees.resume refines isRunning (fun other different fileTag isOwned => ?_) ?_
  · have unnamed : fileTag ∉ request.fileTags := fun named =>
      different (Eq.trans (Eq.symm isOwned) (within.1 fileTag named))
    rw [seenEq]
    exact (@applyIf_of_notMem (site.config worker) state.contents request fileTag accepted
      unnamed).symm
  · rw [seenEq, answerEq]
    exact underway.serve asking accepted

omit [DecidableEq Hash] in
/-- What the flat store holds when a task of a Worker has ended. -/
def seenThen (owner : FileTag → Nat) (state : SharedStorage site Hash) (worker : Nat)
    (memory : MemoryManager (site.config worker)) (seen : FileTag → Nat → UInt8) :
    FileTag → Nat → UInt8 :=
  fun fileTag =>
    if owner fileTag = worker then (memory.over state.contents 0).view fileTag
    else seen fileTag

omit [DecidableEq Hash] in
theorem Agrees.finish (agrees : Agrees owner state seen)
    (isRunning : state.running worker = some execution)
    {outcome : InstructionOutcome (site.config worker)}
    (isDone : execution.rest = Asking.done outcome) :
    Agrees owner (state.ended worker execution.task outcome)
        (seenThen owner state worker outcome.memory seen) ∧
      (flatStore site).step seen
        ⟨worker, execution.task, outcome.succeeded, outcome.content⟩
        (seenThen owner state worker outcome.memory seen) := by
  have underway := agrees.underway worker execution isRunning
  have within := underway.asks
  rw [isDone] at within
  obtain ⟨replies, now, requests, allocatedEq, _, agree, ran⟩ := underway.finish isDone
  obtain ⟨leaked, sound⟩ := agrees.sound worker
  rw [attached, base_of_running isRunning] at sound
  have effect := execution.task.effect sound underway.named
    (by rw [allocatedEq]; exact underway.ready) ran
  have seenBefore : ∀ fileTag ∈ owned owner worker,
      ((state.memories worker).over execution.found 0).view fileTag = seen fileTag := by
    rintro fileTag rfl
    rw [← agrees.seen fileTag, attached, base_of_running isRunning]
  have seenNow : ∀ fileTag ∈ owned owner worker,
      seenThen owner state worker outcome.memory seen fileTag =
        (outcome.memory.over now requests).view fileTag := by
    intro fileTag isOwned
    rw [seenThen, if_pos (show owner fileTag = worker from isOwned)]
    exact view_over agree isOwned
  have seenElse : ∀ fileTag ∉ owned owner worker,
      seenThen owner state worker outcome.memory seen fileTag = seen fileTag :=
    fun fileTag notOwned => if_neg notOwned
  have here : (state.ended worker execution.task outcome).attached worker =
      outcome.memory.over state.contents 0 := by
    have idle : (state.ended worker execution.task outcome).running worker = none :=
      Function.update_self _ _ _
    rw [attached, base_of_idle idle]
    simp only [ended, Function.update_self]
    rfl
  have there : ∀ other, other ≠ worker →
      (state.ended worker execution.task outcome).attached other = state.attached other := by
    intro other different
    simp only [attached, base, ended, Function.update_of_ne different]
    rfl
  refine ⟨⟨agrees.refines, fun other => ?_, fun other => ?_, fun other found runs => ?_,
    fun fileTag => ?_⟩, ?_⟩
  · by_cases same : other = worker
    · subst same
      simpa [ended] using within
    · simpa [ended, same] using agrees.within other
  · by_cases same : other = worker
    · subst same
      obtain ⟨leakedAfter, soundAfter⟩ := effect.sound
      rw [here]
      exact ⟨leakedAfter, sound_over agree soundAfter⟩
    · rw [there other same]
      exact agrees.sound other
  · by_cases same : other = worker
    · subst same
      simp [ended] at runs
    · have memoryEq : (state.ended worker execution.task outcome).memories other =
          state.memories other := Function.update_of_ne same _ _
      simp only [ended, Function.update_of_ne same] at runs
      rw [memoryEq]
      exact agrees.underway other found runs
  · by_cases same : owner fileTag = worker
    · rw [same, here, seenThen, if_pos same]
    · rw [there _ same, agrees.seen, seenElse fileTag same]
  · simp only [flatStore]
    split
    · rename_i succeeded
      constructor
      · funext fileTag
        by_cases isOwned : fileTag ∈ owned owner worker
        · rw [seenNow fileTag isOwned, effect.seen succeeded fileTag isOwned]
          exact Task.seenAfter_congr (seenBefore fileTag isOwned)
            fun source named => seenBefore source (underway.named source named)
        · rw [seenElse fileTag isOwned, Task.seenAfter_of_notMem
            fun named => isOwned (underway.named fileTag named)]
      · rw [effect.content succeeded]
        exact Task.contentOf_congr
          fun source named => seenBefore source (underway.named source named)
    · intro fileTag unnamed
      by_cases isOwned : fileTag ∈ owned owner worker
      · rw [seenNow fileTag isOwned, effect.unnamed fileTag isOwned unnamed,
          seenBefore fileTag isOwned]
      · exact seenElse fileTag isOwned

omit [DecidableEq Hash] in
theorem Started.agrees (started : Started state) : Agrees owner state fun _ _ => 0 := by
  obtain ⟨diskEq, workers, _⟩ := started
  have refines : Storage.Refines state.disk (Storage.BlockLists.initial _) := by
    rw [diskEq]
    exact Storage.Refines.initial
  have listsEq := eq_blockLists refines
  have zero : ∀ fileTag number, state.contents fileTag number =
      Storage.zeroBlock site.storage.blockSize := by
    intro fileTag number
    rw [contents, ← listsEq, seenBlocks]
    cases fileTag.onDisk with
    | none => rfl
    | some name =>
        by_cases base : name = Storage.initialFileBase
        · cases number <;> simp [Storage.BlockLists.initial, base]
        · simp [Storage.BlockLists.initial, base]
  have absent : ∀ worker fileTag number, (state.attached worker).page fileTag number = none := by
    intro worker fileTag number
    have empty : (state.attached worker).entries = [] := (workers worker).1.1
    simp [MemoryManager.page, MemoryManager.findPageTable, empty]
  refine ⟨listsEq ▸ refines, fun worker => ?_, fun worker => ?_, fun worker execution runs => ?_,
    fun fileTag => ?_⟩
  · intro fileTag member
    rw [(workers worker).1.1] at member
    simp at member
  · have created : (state.attached worker).Created := (workers worker).1
    exact ⟨∅, created.sound.restrict (Set.subset_univ _) (by simp [ownScope]) rfl⟩
  · rw [(workers worker).2] at runs
    cases runs
  · have seesStorage : (state.attached (owner fileTag)).view fileTag =
        MemoryManager.byteAt (site.config (owner fileTag)) (state.contents fileTag) := by
      refine MemoryManager.view_eq_byteAt fun number => ?_
      rw [MemoryManager.pageView_of_not_present fun entry present => ?_]
      · rw [attached, base_of_idle (workers _).2]
        rfl
      · have held := present.held
        rw [absent] at held
        cases held
    rw [seesStorage, funext (zero fileTag)]
    exact MemoryManager.byteAt_zeroPage

theorem Agrees.next (agrees : Agrees owner state seen)
    (run : (flatStore site).Run (fun _ _ => 0) state.history seen) {label : SharedLabel}
    (proper : Proper md5 owner state label) (step : state.next md5 label = some after) :
    ∃ seenAfter, (flatStore site).Run (fun _ _ => 0) after.history seenAfter ∧
      Agrees owner after seenAfter := by
  cases label with
  | start worker task allocated delivered =>
      rw [SharedStorage.next] at step
      split at step
      · cases step
      · rename_i idle
        obtain rfl := Option.some.inj step
        exact ⟨seen, run,
          agrees.start idle (fun fileTag member => (proper.1 fileTag member).2) proper.2⟩
  | serve worker =>
      obtain ⟨execution, isRunning, step⟩ := Option.bind_eq_some_iff.mp step
      split at step
      · cases step
      · rename_i request continues asking
        obtain rfl := Option.some.inj step
        exact ⟨seen, run, agrees.serve isRunning asking
          (proper execution isRunning request continues asking)⟩
  | finish worker =>
      obtain ⟨execution, isRunning, step⟩ := Option.bind_eq_some_iff.mp step
      split at step
      · rename_i outcome isDone
        obtain rfl := Option.some.inj step
        obtain ⟨agreesAfter, stepped⟩ := agrees.finish isRunning isDone
        exact ⟨_, run.snoc stepped, agreesAfter⟩
      · cases step

/-- Every state reached agrees with a flat store that has run through the history. -/
theorem agrees_of_reachable
    (reachable : ((system md5).guarded (Proper md5 owner)).Reachable state) :
    ∃ seen, (flatStore site).Run (fun _ _ => 0) state.history seen ∧ Agrees owner state seen := by
  have kept : ((system md5).guarded (Proper md5 owner)).Preserves fun state =>
      ∃ seen, (flatStore site).Run (fun _ _ => 0) state.history seen ∧
        Agrees owner state seen := by
    rintro before label after ⟨seen, run, agrees⟩ ⟨proper, step⟩
    exact agrees.next run proper step
  exact reachable.invariant (fun first started => by
    refine ⟨_, ?_, Started.agrees started⟩
    rw [started.2.2]
    exact TransitionSystem.Run.nil) kept

omit [DecidableEq Hash] in
theorem Agrees.view_of_idle (agrees : Agrees owner state seen) {fileTag : FileTag}
    (idle : state.running (owner fileTag) = none) :
    ((state.memories (owner fileTag)).over state.contents 0).view fileTag = seen fileTag := by
  rw [← agrees.seen fileTag, attached, base_of_idle idle]

theorem fourByteConfig_blockSize_lt : Storage.fourByteConfig.blockSize < 2 ^ 16 := by decide

/-- One byte of memory for every Worker on the file system of four one-byte blocks. -/
def smallSite : Site where
  storage := Storage.fourByteConfig
  frameCount _ := 1
  policy _ := .lru
  blockSize_lt := fourByteConfig_blockSize_lt
  frameCount_lt _ := MemoryManager.oneFrameConfig.frameCount_lt

def firstFile : FileTag := ⟨"a", "T"⟩

def secondFile : FileTag := ⟨"b", "T"⟩

/-- Worker 1 uses `b:T` and Worker 0 everything else. -/
def smallOwner (fileTag : FileTag) : Nat :=
  if fileTag = secondFile then 1 else 0

def startedMemory (worker : Nat) : MemoryManager (smallSite.config worker) where
  entries := []
  used _ := false
  clockPointer := 0
  physicalMemory _ := Vector.replicate 1 0
  globalTimestamp := 0
  connected := true
  storage _ _ := Vector.replicate 1 0
  requests := 0

/-- Storage and its Workers before the first task. -/
def startedSite : SharedStorage smallSite String where
  disk := Storage.initStorage smallSite.storage String
  memories := startedMemory
  running _ := none
  history := []

/-- A check that is enough for an operation to be harmless. -/
def quicklyHarmless (disk : Storage.Disk smallSite.storage String) : Storage.Request → Bool
  | .truncateFile fileTag size => decide (fileTag ≠ Storage.initialFileBase ∧
      0 ≤ size.toInt ∧ size.toInt ≤ 2 ^ 31 - 1 - smallSite.storage.blockSize)
  | .executeBlockWrite fileTag _ _ => decide (fileTag ≠ Storage.initialFileBase ∧
      disk.getFreeBitIndex.any (fun free => decide (free < smallSite.storage.totalBlocks)) =
        true)
  | .executeTagCommit _ => false
  | _ => true

def quicklyReady {config : MemoryConfig} (memory : MemoryManager config) : Task → Bool
  | .execute (.create fileTag) => (memory.residentPages fileTag).isEmpty
  | .execute (.tag _ _) => false
  | .execute (.truncate fileTag size) => decide (0 ≤ size.toInt ∧
      size.toInt ≤ 2 ^ 31 - 1 - config.pageSize) &&
    (memory.residentPages fileTag).isEmpty
  | _ => true

def quicklyProper (state : SharedStorage smallSite String) : SharedLabel → Bool
  | .start worker task _ _ => task.fileTags.all (fun fileTag =>
      decide (fileTag.onDisk.isSome = true ∧ smallOwner fileTag = worker)) &&
    quicklyReady (state.memories worker) task
  | .serve worker =>
    match (state.running worker).map Execution.rest with
    | some (Asking.ask request _) => request.operation.all (quicklyHarmless state.disk)
    | _ => true
  | .finish _ => true

/-- Two Workers create, grow and write their files at the same time, and read them; the
first one writes its dirty page back in between. -/
def bothAtOnce : List SharedLabel :=
  [.start 0 (.execute (.create firstFile)) true true,
    .start 1 (.execute (.create secondFile)) true true, .serve 1, .serve 0, .finish 0, .finish 1,
    .start 0 (.execute (.truncate firstFile 1)) true true, .serve 0,
    .start 1 (.execute (.truncate secondFile 1)) true true, .finish 0, .serve 1, .finish 1,
    .start 0 (.execute (.write firstFile 0 [65])) true true,
    .start 1 (.execute (.write secondFile 0 [66])) true true, .serve 0, .serve 1, .finish 1,
    .finish 0, .start 0 .evict true true, .start 1 (.execute (.read secondFile 0 1)) true true,
    .serve 0, .finish 1, .finish 0, .start 0 (.execute (.read firstFile 0 1)) true true,
    .finish 0]

theorem started_startedSite : Started startedSite :=
  ⟨rfl, fun _ => ⟨⟨rfl, fun _ => rfl, rfl⟩, rfl⟩, rfl⟩

theorem harmless_of_quicklyHarmless {disk : Storage.Disk smallSite.storage String}
    {request : Storage.Request} (quick : quicklyHarmless disk request = true) :
    Storage.Harmless Storage.oneByteMd5 disk request := by
  cases request with
  | truncateFile fileTag size =>
      obtain ⟨unprotected, nonnegative, bounded⟩ := of_decide_eq_true quick
      exact ⟨unprotected, nonnegative, bounded⟩
  | executeBlockWrite fileTag number bytes =>
      obtain ⟨unprotected, room⟩ := of_decide_eq_true quick
      exact ⟨unprotected, fun _ _ => room⟩
  | executeTagCommit fileTag => cases quick
  | _ => trivial

theorem ready_of_quicklyReady {config : MemoryConfig} {memory : MemoryManager config}
    {task : Task} {allocated : Bool} (quick : quicklyReady memory task = true) :
    task.Ready allocated memory := by
  unfold quicklyReady at quick
  split at quick
  · exact List.isEmpty_iff.mp quick
  · cases quick
  · obtain ⟨sizes, empty⟩ := Bool.and_eq_true_iff.mp quick
    obtain ⟨nonnegative, bounded⟩ := of_decide_eq_true sizes
    exact ⟨nonnegative, bounded, Or.inl (List.isEmpty_iff.mp empty)⟩
  · unfold Task.Ready
    split <;> simp_all

theorem proper_of_quicklyProper (state : SharedStorage smallSite String) (label : SharedLabel)
    (quick : state.quicklyProper label = true) :
    Proper Storage.oneByteMd5 smallOwner state label := by
  cases label with
  | start worker task allocated delivered =>
      obtain ⟨named, ready⟩ := Bool.and_eq_true_iff.mp quick
      exact ⟨fun fileTag member => of_decide_eq_true (List.all_eq_true.mp named fileTag member),
        ready_of_quicklyReady ready⟩
  | serve worker =>
      intro execution isRunning request continues asking operation behind
      simp only [quicklyProper, isRunning, Option.map_some, asking, behind,
        Option.all_some] at quick
      exact harmless_of_quicklyHarmless quick
  | finish worker => trivial

end SharedStorage

end Worker

end MasterOfFiles
