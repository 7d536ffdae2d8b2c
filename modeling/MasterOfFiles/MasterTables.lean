import MasterOfFiles.MasterHandlers

/-!
# Invariants of the tables of the Master

`QueryTables` says that every query of `query_list` waits in `ready_queue` or
stands in `running_list`, `WorkerTables` that every worker is in exactly one of
`idle_list` and `busy_list`, and `Assignments` that every running query has one
worker that names it.  Each change that the handlers are made of is shown to
keep them.
-/

namespace MasterOfFiles

namespace Master

/-- The query that a worker is said to run. -/
def current (master : Master) (socket : Nat) : Option Nat :=
  (master.worker socket).bind WorkerControlBlock.currentQueryId

/-- Every query is queued once, and its control block agrees with the queue. -/
structure QueryTables (master : Master) : Prop where
  nodup : master.queryList.Nodup
  block_iff : ∀ queryId, master.query queryId ≠ none ↔ queryId ∈ master.queryList
  queues_nodup : (master.readyQueue ++ master.runningList).Nodup
  queued_iff : ∀ queryId, queryId ∈ master.queryList ↔
    queryId ∈ master.readyQueue ∨ queryId ∈ master.runningList
  id_lt : ∀ queryId ∈ master.queryList, queryId < master.nextQueryId
  not_cleanedUp : ∀ queryId query, master.query queryId = some query →
    query.cleanedUp = false
  ready_state : ∀ queryId ∈ master.readyQueue, ∀ query, master.query queryId = some query →
    query.state = .ready
  running_state : ∀ queryId ∈ master.runningList, ∀ query,
    master.query queryId = some query → query.state = .running ∨ query.state = .canceled

/-- Every worker is idle or busy, and an idle one runs nothing. -/
structure WorkerTables (master : Master) : Prop where
  nodup : master.workerList.Nodup
  block_iff : ∀ socket, master.worker socket ≠ none ↔ socket ∈ master.workerList
  lists_nodup : (master.idleList ++ master.busyList).Nodup
  listed_iff : ∀ socket, socket ∈ master.workerList ↔
    socket ∈ master.idleList ∨ socket ∈ master.busyList
  socket_pos : ∀ socket ∈ master.workerList, 0 < socket
  idle : ∀ socket ∈ master.idleList, ∀ worker, master.worker socket = some worker →
    worker.currentQueryId = none ∧ worker.state = .idle

/-- Every running query has one worker that names it, and is assigned to it. -/
structure Assignments (master : Master) : Prop where
  holder : ∀ queryId ∈ master.runningList, ∃ socket, master.current socket = some queryId
  running : ∀ socket queryId, master.current socket = some queryId →
    queryId ∈ master.queryList → queryId ∈ master.runningList
  unique : ∀ socket other queryId, master.current socket = some queryId →
    master.current other = some queryId → queryId ∈ master.queryList → socket = other
  assigned : ∀ socket queryId worker query, master.worker socket = some worker →
    worker.currentQueryId = some queryId → master.query queryId = some query →
      query.assignedWorkerId = some worker.workerId
  bounded : ∀ socket queryId, master.current socket = some queryId →
    queryId < master.nextQueryId

structure Sound (master : Master) : Prop where
  queries : QueryTables master
  workers : WorkerTables master
  assignments : Assignments master

variable {master : Master} {socket queryId : Nat}

section Lookup

theorem QueryTables.exists_block (tables : QueryTables master)
    (listed : queryId ∈ master.queryList) : ∃ query, master.query queryId = some query :=
  Option.ne_none_iff_exists'.mp ((tables.block_iff queryId).mpr listed)

theorem QueryTables.listed (tables : QueryTables master) {query : QueryControlBlock}
    (block : master.query queryId = some query) : queryId ∈ master.queryList :=
  (tables.block_iff queryId).mp (by simp [block])

theorem QueryTables.not_running (tables : QueryTables master)
    (ready : queryId ∈ master.readyQueue) : queryId ∉ master.runningList :=
  fun running => (List.nodup_append.mp tables.queues_nodup).2.2 _ ready _ running rfl

theorem QueryTables.ready_nodup (tables : QueryTables master) : master.readyQueue.Nodup :=
  (List.nodup_append.mp tables.queues_nodup).1

theorem QueryTables.running_nodup (tables : QueryTables master) :
    master.runningList.Nodup :=
  (List.nodup_append.mp tables.queues_nodup).2.1

theorem QueryTables.running_listed (tables : QueryTables master)
    (running : queryId ∈ master.runningList) : queryId ∈ master.queryList :=
  (tables.queued_iff queryId).mpr (Or.inr running)

theorem query_of_findRunning {query : QueryControlBlock}
    (found : master.findRunning queryId = some query) :
    queryId ∈ master.runningList ∧ master.query queryId = some query := by
  unfold findRunning at found
  split at found
  · rename_i running
    exact ⟨running, found⟩
  · cases found

theorem QueryTables.findRunning_none_iff (tables : QueryTables master) :
    master.findRunning queryId = none ↔ queryId ∉ master.runningList := by
  unfold findRunning
  split
  · rename_i running
    obtain ⟨query, block⟩ := tables.exists_block (tables.running_listed running)
    simp [block, running]
  · rename_i absent
    simp [absent]

theorem WorkerTables.exists_block (tables : WorkerTables master)
    (listed : socket ∈ master.workerList) : ∃ worker, master.worker socket = some worker :=
  Option.ne_none_iff_exists'.mp ((tables.block_iff socket).mpr listed)

theorem WorkerTables.findWorkerBySocket_none_iff (tables : WorkerTables master) :
    master.findWorkerBySocket socket = none ↔ socket ∉ master.workerList := by
  unfold findWorkerBySocket
  split
  · rename_i listed
    obtain ⟨worker, block⟩ := tables.exists_block listed
    simp [block, listed]
  · rename_i absent
    simp [absent]

theorem WorkerTables.listed_of_current (tables : WorkerTables master)
    (runs : master.current socket = some queryId) : socket ∈ master.workerList := by
  refine (tables.block_iff socket).mp fun missing => ?_
  simp [current, missing] at runs

theorem WorkerTables.current_of_idle (tables : WorkerTables master)
    (idle : socket ∈ master.idleList) : master.current socket = none := by
  unfold current
  cases block : master.worker socket with
  | none => rfl
  | some worker => exact (tables.idle socket idle worker block).1

theorem WorkerTables.busy_of_current (tables : WorkerTables master)
    (runs : master.current socket = some queryId) : socket ∈ master.busyList := by
  rcases (tables.listed_iff socket).mp (tables.listed_of_current runs) with idle | busy
  · simp [tables.current_of_idle idle] at runs
  · exact busy

theorem current_eq_some_iff : master.current socket = some queryId ↔
    ∃ worker, master.worker socket = some worker ∧
      worker.currentQueryId = some queryId := by
  rw [current, Option.bind_eq_some_iff]

theorem insertQueryByPriority_perm {priority : Nat → Nat} {queue : List Nat} :
    (insertQueryByPriority priority queryId queue).Perm (queryId :: queue) := by
  induction queue with
  | nil => exact List.Perm.refl _
  | cons existing rest ih =>
      unfold insertQueryByPriority
      split
      · exact List.Perm.refl _
      · exact (ih.cons existing).trans (List.Perm.swap _ _ _)

end Lookup

section Transport

variable {after : Master}

theorem QueryTables.of_eq (tables : QueryTables master) (queryEq : after.query = master.query)
    (queryListEq : after.queryList = master.queryList)
    (readyEq : after.readyQueue = master.readyQueue)
    (runningEq : after.runningList = master.runningList)
    (nextEq : after.nextQueryId = master.nextQueryId) : QueryTables after := by
  obtain ⟨nodup, block, queues, queued, bound, cleaned, ready, running⟩ := tables
  refine ⟨?_, ?_, ?_, ?_, ?_, ?_, ?_, ?_⟩ <;>
    simpa only [queryEq, queryListEq, readyEq, runningEq, nextEq]

theorem WorkerTables.of_eq (tables : WorkerTables master)
    (workerEq : after.worker = master.worker)
    (workerListEq : after.workerList = master.workerList)
    (idleEq : after.idleList = master.idleList)
    (busyEq : after.busyList = master.busyList) : WorkerTables after := by
  obtain ⟨nodup, block, lists, listed, positive, idle⟩ := tables
  refine ⟨?_, ?_, ?_, ?_, ?_, ?_⟩ <;>
    simpa only [workerEq, workerListEq, idleEq, busyEq]

/-- Only fields that no list depends on have changed, or the order of the ready
queue and the idle list. -/
structure Quiet (before after : Master) : Prop where
  query : ∀ queryId, Option.Rel
    (fun old new => new.cleanedUp = old.cleanedUp ∧
      (new.state = old.state ∨ (old.state = .running ∧ new.state = .canceled)) ∧
      (queryId ∈ before.runningList → new.assignedWorkerId = old.assignedWorkerId) ∧
      new.programCounter = old.programCounter ∧ new.queryFilePath = old.queryFilePath)
    (before.query queryId) (after.query queryId)
  queryList : after.queryList = before.queryList
  readyQueue : after.readyQueue.Perm before.readyQueue
  runningList : after.runningList = before.runningList
  nextQueryId : after.nextQueryId = before.nextQueryId
  worker : after.worker = before.worker
  workerList : after.workerList = before.workerList
  idleList : after.idleList.Perm before.idleList
  busyList : after.busyList = before.busyList

theorem Quiet.current (quiet : Quiet master after) (socket : Nat) :
    after.current socket = master.current socket := by
  rw [Master.current, Master.current, quiet.worker]

/-- A block afterwards comes from a block before. -/
theorem Quiet.block (quiet : Quiet master after) {new : QueryControlBlock}
    (held : after.query queryId = some new) : ∃ old, master.query queryId = some old ∧
      new.cleanedUp = old.cleanedUp ∧
      (new.state = old.state ∨ (old.state = .running ∧ new.state = .canceled)) ∧
      (queryId ∈ master.runningList → new.assignedWorkerId = old.assignedWorkerId) ∧
      new.programCounter = old.programCounter ∧ new.queryFilePath = old.queryFilePath := by
  have related := quiet.query queryId
  rw [held] at related
  cases block : master.query queryId with
  | none => rw [block] at related; cases related
  | some old =>
      rw [block] at related
      cases related with
      | some fields => exact ⟨old, rfl, fields⟩

theorem Quiet.query_eq_none_iff (quiet : Quiet master after) :
    after.query queryId = none ↔ master.query queryId = none := by
  have related := quiet.query queryId
  cases block : master.query queryId with
  | none =>
      cases held : after.query queryId with
      | none => simp
      | some new => rw [block, held] at related; cases related
  | some old =>
      cases held : after.query queryId with
      | none => rw [block, held] at related; cases related
      | some new => simp

/-- Blocks may change where no list depends on them, and the ready queue may change its order. -/
theorem QueryTables.of_blocks (tables : QueryTables master)
    (blocks : ∀ queryId new, after.query queryId = some new →
      ∃ old, master.query queryId = some old ∧ new.cleanedUp = old.cleanedUp ∧
        (new.state = old.state ∨ (old.state = .running ∧ new.state = .canceled)))
    (none_iff : ∀ queryId, after.query queryId = none ↔ master.query queryId = none)
    (queryListEq : after.queryList = master.queryList)
    (readyPerm : after.readyQueue.Perm master.readyQueue)
    (runningEq : after.runningList = master.runningList)
    (nextEq : after.nextQueryId = master.nextQueryId) : QueryTables after where
  nodup := by rw [queryListEq]; exact tables.nodup
  block_iff queryId := by
    rw [ne_eq, none_iff, queryListEq]
    exact tables.block_iff queryId
  queues_nodup := by
    rw [runningEq]
    exact ((readyPerm.append_right _).nodup_iff).mpr tables.queues_nodup
  queued_iff queryId := by
    rw [queryListEq, runningEq, readyPerm.mem_iff]
    exact tables.queued_iff queryId
  id_lt queryId := by
    rw [queryListEq, nextEq]
    exact tables.id_lt queryId
  not_cleanedUp queryId new held := by
    obtain ⟨old, block, cleaned, _⟩ := blocks queryId new held
    rw [cleaned]
    exact tables.not_cleanedUp queryId old block
  ready_state queryId ready new held := by
    obtain ⟨old, block, _, state⟩ := blocks queryId new held
    have oldState := tables.ready_state queryId (readyPerm.mem_iff.mp ready) old block
    rcases state with same | ⟨running, _⟩
    · rw [same]
      exact oldState
    · simp [oldState] at running
  running_state queryId running new held := by
    obtain ⟨old, block, _, state⟩ := blocks queryId new held
    rw [runningEq] at running
    rcases state with same | ⟨_, canceled⟩
    · rw [same]
      exact tables.running_state queryId running old block
    · exact Or.inr canceled

theorem Quiet.queryTables (quiet : Quiet master after) (tables : QueryTables master) :
    QueryTables after := by
  apply tables.of_blocks _ (fun _ => quiet.query_eq_none_iff) quiet.queryList quiet.readyQueue
    quiet.runningList quiet.nextQueryId
  intro queryId new held
  obtain ⟨old, block, cleaned, state, _⟩ := quiet.block held
  exact ⟨old, block, cleaned, state⟩

theorem Quiet.sound (quiet : Quiet master after) (sound : Sound master) : Sound after where
  queries := quiet.queryTables sound.queries
  workers :=
    { nodup := by rw [quiet.workerList]; exact sound.workers.nodup
      block_iff := by rw [quiet.worker, quiet.workerList]; exact sound.workers.block_iff
      lists_nodup := by
        rw [quiet.busyList]
        exact ((quiet.idleList.append_right _).nodup_iff).mpr sound.workers.lists_nodup
      listed_iff := fun socket => by
        rw [quiet.workerList, quiet.busyList, quiet.idleList.mem_iff]
        exact sound.workers.listed_iff socket
      socket_pos := by rw [quiet.workerList]; exact sound.workers.socket_pos
      idle := fun socket idle => by
        rw [quiet.worker]
        exact sound.workers.idle socket (quiet.idleList.mem_iff.mp idle) }
  assignments :=
    { holder := fun queryId running => by
        rw [quiet.runningList] at running
        obtain ⟨socket, runs⟩ := sound.assignments.holder queryId running
        exact ⟨socket, (quiet.current socket).trans runs⟩
      running := fun socket queryId runs listed => by
        rw [quiet.current] at runs
        rw [quiet.queryList] at listed
        rw [quiet.runningList]
        exact sound.assignments.running socket queryId runs listed
      unique := fun socket other queryId runs otherRuns listed => by
        rw [quiet.current] at runs otherRuns
        rw [quiet.queryList] at listed
        exact sound.assignments.unique socket other queryId runs otherRuns listed
      assigned := fun socket queryId worker new block runs held => by
        rw [quiet.worker] at block
        obtain ⟨old, oldBlock, _, _, assigned, _⟩ := quiet.block held
        have running := sound.assignments.running socket queryId
          (current_eq_some_iff.mpr ⟨worker, block, runs⟩) (sound.queries.listed oldBlock)
        rw [assigned running]
        exact sound.assignments.assigned socket queryId worker old block runs oldBlock
      bounded := fun socket queryId runs => by
        rw [quiet.current] at runs
        rw [quiet.nextQueryId]
        exact sound.assignments.bounded socket queryId runs }

end Transport

section Drop

theorem current_dropQuery (other : Nat) :
    (master.dropQuery queryId).current other = master.current other :=
  rfl

theorem mem_runningList_dropQuery (tables : QueryTables master) {other : Nat} :
    other ∈ (master.dropQuery queryId).runningList ↔
      other ≠ queryId ∧ other ∈ master.runningList :=
  tables.running_nodup.mem_erase_iff

theorem mem_queryList_dropQuery (tables : QueryTables master) {other : Nat} :
    other ∈ (master.dropQuery queryId).queryList ↔
      other ≠ queryId ∧ other ∈ master.queryList :=
  tables.nodup.mem_erase_iff

theorem query_dropQuery_of_ne {other : Nat} (different : other ≠ queryId) :
    (master.dropQuery queryId).query other = master.query other :=
  Function.update_of_ne different _ _

theorem query_dropQuery_self : (master.dropQuery queryId).query queryId = none :=
  Function.update_self _ _ _

theorem QueryTables.dropQuery (tables : QueryTables master) (queryId : Nat) :
    QueryTables (master.dropQuery queryId) := by
  have block : ∀ {other query}, (master.dropQuery queryId).query other = some query →
      other ≠ queryId ∧ master.query other = some query := by
    intro other query held
    have different : other ≠ queryId := by
      rintro rfl
      simp [query_dropQuery_self] at held
    exact ⟨different, (query_dropQuery_of_ne different).symm.trans held⟩
  refine ⟨tables.nodup.erase queryId, ?_, ?_, ?_, ?_, ?_, ?_, ?_⟩
  · intro other
    rw [mem_queryList_dropQuery tables]
    by_cases same : other = queryId
    · simp [same, query_dropQuery_self]
    · rw [query_dropQuery_of_ne same, tables.block_iff]
      simp [same]
  · exact tables.queues_nodup.sublist
      ((List.erase_sublist).append (List.erase_sublist))
  · intro other
    rw [mem_queryList_dropQuery tables, mem_runningList_dropQuery tables, tables.queued_iff]
    change _ ↔ other ∈ master.readyQueue.erase queryId ∨ _
    rw [tables.ready_nodup.mem_erase_iff]
    tauto
  · exact fun other member => tables.id_lt other (List.mem_of_mem_erase member)
  · exact fun other query held => tables.not_cleanedUp other query (block held).2
  · exact fun other ready query held =>
      tables.ready_state other (List.mem_of_mem_erase ready) query (block held).2
  · exact fun other running query held =>
      tables.running_state other (List.mem_of_mem_erase running) query (block held).2

theorem Sound.dropQuery (sound : Sound master) (queryId : Nat) :
    Sound (master.dropQuery queryId) where
  queries := sound.queries.dropQuery queryId
  workers := sound.workers.of_eq rfl rfl rfl rfl
  assignments :=
    { holder := fun other running =>
        sound.assignments.holder other (List.mem_of_mem_erase running)
      running := fun socket other runs listed => by
        rw [mem_queryList_dropQuery sound.queries] at listed
        rw [mem_runningList_dropQuery sound.queries]
        exact ⟨listed.1, sound.assignments.running socket other runs listed.2⟩
      unique := fun socket second other runs secondRuns listed =>
        sound.assignments.unique socket second other runs secondRuns
          (List.mem_of_mem_erase listed)
      assigned := fun socket other worker query block runs held => by
        have different : other ≠ queryId := by
          rintro rfl
          simp [query_dropQuery_self] at held
        rw [query_dropQuery_of_ne different] at held
        exact sound.assignments.assigned socket other worker query block runs held
      bounded := sound.assignments.bounded }

end Drop

section Release

theorem worker_forgetQuery_of_ne {other : Nat} (different : other ≠ socket) :
    (master.forgetQuery socket).worker other = master.worker other :=
  Function.update_of_ne different _ _

theorem worker_forgetQuery_self :
    (master.forgetQuery socket).worker socket = (master.worker socket).map fun worker =>
      { worker with state := .idle, currentQueryId := none } :=
  Function.update_self _ _ _

theorem current_forgetQuery (other : Nat) :
    (master.forgetQuery socket).current other =
      if other = socket then none else master.current other := by
  unfold current
  split
  · rename_i same
    rw [same, worker_forgetQuery_self]
    cases master.worker socket <;> rfl
  · rename_i different
    rw [worker_forgetQuery_of_ne different]

theorem current_releaseWorker (other : Nat) :
    (master.releaseWorker socket).current other =
      if other = socket then none else master.current other :=
  current_forgetQuery other

theorem WorkerTables.forget_block_iff (tables : WorkerTables master) (other : Nat) :
    (master.forgetQuery socket).worker other ≠ none ↔ other ∈ master.workerList := by
  by_cases same : other = socket
  · rw [same, worker_forgetQuery_self, ne_eq, Option.map_eq_none_iff]
    exact tables.block_iff socket
  · rw [worker_forgetQuery_of_ne same]
    exact tables.block_iff other

theorem WorkerTables.forget_idle (tables : WorkerTables master) {other : Nat}
    (free : other = socket ∨ other ∈ master.idleList) {worker : WorkerControlBlock}
    (held : (master.forgetQuery socket).worker other = some worker) :
    worker.currentQueryId = none ∧ worker.state = .idle := by
  by_cases same : other = socket
  · rw [same, worker_forgetQuery_self] at held
    obtain ⟨old, _, rfl⟩ := Option.map_eq_some_iff.mp held
    exact ⟨rfl, rfl⟩
  · rw [worker_forgetQuery_of_ne same] at held
    exact tables.idle other (free.resolve_left same) worker held

theorem WorkerTables.forgetQuery (tables : WorkerTables master) (socket : Nat) :
    WorkerTables (master.forgetQuery socket) where
  nodup := tables.nodup
  block_iff := tables.forget_block_iff
  lists_nodup := tables.lists_nodup
  listed_iff := tables.listed_iff
  socket_pos := tables.socket_pos
  idle _ idle _ held := tables.forget_idle (Or.inr idle) held

theorem WorkerTables.releaseWorker (tables : WorkerTables master)
    (busy : socket ∈ master.busyList) : WorkerTables (master.releaseWorker socket) where
  nodup := tables.nodup
  block_iff := tables.forget_block_iff
  lists_nodup := by
    have rearranged : ((master.idleList ++ [socket]) ++ master.busyList.erase socket).Perm
        (master.idleList ++ master.busyList) := by
      rw [List.append_assoc]
      exact List.Perm.append_left _ (List.perm_cons_erase busy).symm
    exact rearranged.nodup_iff.mpr tables.lists_nodup
  listed_iff other := by
    have busyNodup := (List.nodup_append.mp tables.lists_nodup).2.1
    change other ∈ master.workerList ↔
      other ∈ master.idleList ++ [socket] ∨ other ∈ master.busyList.erase socket
    rw [tables.listed_iff, List.mem_append, List.mem_singleton, busyNodup.mem_erase_iff]
    by_cases same : other = socket
    · simp [same, busy]
    · simp [same]
  socket_pos := tables.socket_pos
  idle other idle worker held := by
    refine tables.forget_idle ?_ held
    rcases List.mem_append.mp idle with old | new
    · exact Or.inr old
    · exact Or.inl (List.mem_singleton.mp new)

theorem Assignments.forgetQuery (assignments : Assignments master)
    (done : ∀ queryId, master.current socket = some queryId →
      queryId ∉ master.runningList) : Assignments (master.forgetQuery socket) where
  holder queryId running := by
    obtain ⟨holder, runs⟩ := assignments.holder queryId running
    refine ⟨holder, ?_⟩
    have different : holder ≠ socket := by
      rintro rfl
      exact done queryId runs running
    rw [current_forgetQuery, if_neg different]
    exact runs
  running other queryId runs listed := by
    rw [current_forgetQuery] at runs
    split at runs
    · simp at runs
    · exact assignments.running other queryId runs listed
  unique first second queryId runs secondRuns listed := by
    rw [current_forgetQuery] at runs secondRuns
    split at runs
    · simp at runs
    · split at secondRuns
      · simp at secondRuns
      · exact assignments.unique first second queryId runs secondRuns listed
  assigned other queryId worker query block runs held := by
    by_cases same : other = socket
    · rw [same, worker_forgetQuery_self] at block
      obtain ⟨old, _, rfl⟩ := Option.map_eq_some_iff.mp block
      simp at runs
    · rw [worker_forgetQuery_of_ne same] at block
      exact assignments.assigned other queryId worker query block runs held
  bounded other queryId runs := by
    rw [current_forgetQuery] at runs
    split at runs
    · simp at runs
    · exact assignments.bounded other queryId runs

theorem Sound.forgetQuery (sound : Sound master)
    (done : ∀ queryId, master.current socket = some queryId →
      queryId ∉ master.runningList) : Sound (master.forgetQuery socket) where
  queries := sound.queries.of_eq rfl rfl rfl rfl rfl
  workers := sound.workers.forgetQuery socket
  assignments := sound.assignments.forgetQuery done

theorem Sound.releaseWorker (sound : Sound master) (busy : socket ∈ master.busyList)
    (done : ∀ queryId, master.current socket = some queryId →
      queryId ∉ master.runningList) : Sound (master.releaseWorker socket) where
  queries := sound.queries.of_eq rfl rfl rfl rfl rfl
  workers := sound.workers.releaseWorker busy
  assignments := by
    obtain ⟨holder, running, unique, assigned, bounded⟩ := sound.assignments.forgetQuery done
    exact ⟨holder, running, unique, assigned, bounded⟩

/-- The worker of a query is released and the query dropped. -/
theorem Sound.retire (sound : Sound master) (runs : master.current socket = some queryId) :
    Sound ((master.releaseWorker socket).dropQuery queryId) := by
  have dropped := sound.dropQuery queryId
  refine dropped.releaseWorker (sound.workers.busy_of_current runs) ?_
  intro other otherRuns
  obtain rfl : queryId = other := Option.some.inj (runs.symm.trans otherRuns)
  rw [mem_runningList_dropQuery sound.queries]
  exact fun running => running.1 rfl

theorem Sound.cleanupWorkerResources (sound : Sound master)
    (done : ∀ queryId, master.current socket = some queryId →
      queryId ∉ master.runningList) : Sound (master.cleanupWorkerResources socket) := by
  have workerOf : ∀ {other worker},
      (master.cleanupWorkerResources socket).worker other = some worker →
        other ≠ socket ∧ master.worker other = some worker := by
    intro other worker held
    have different : other ≠ socket := by
      rintro rfl
      simp [Master.cleanupWorkerResources] at held
    exact ⟨different, (Function.update_of_ne different _ _).symm.trans held⟩
  have currentOf : ∀ {other queryId},
      (master.cleanupWorkerResources socket).current other = some queryId →
        other ≠ socket ∧ master.current other = some queryId := by
    intro other queryId runs
    obtain ⟨worker, block, names⟩ := current_eq_some_iff.mp runs
    obtain ⟨different, old⟩ := workerOf block
    exact ⟨different, current_eq_some_iff.mpr ⟨worker, old, names⟩⟩
  have idleNodup := (List.nodup_append.mp sound.workers.lists_nodup).1
  have busyNodup := (List.nodup_append.mp sound.workers.lists_nodup).2.1
  refine ⟨sound.queries.of_eq rfl rfl rfl rfl rfl, ⟨?_, ?_, ?_, ?_, ?_, ?_⟩,
    ⟨?_, ?_, ?_, ?_, ?_⟩⟩
  · exact sound.workers.nodup.erase socket
  · intro other
    change Function.update master.worker socket none other ≠ none ↔
      other ∈ master.workerList.erase socket
    rw [sound.workers.nodup.mem_erase_iff]
    by_cases same : other = socket
    · simp [same]
    · rw [Function.update_of_ne same, sound.workers.block_iff]
      simp [same]
  · exact sound.workers.lists_nodup.sublist
      ((List.erase_sublist).append (List.erase_sublist))
  · intro other
    change other ∈ master.workerList.erase socket ↔
      other ∈ master.idleList.erase socket ∨ other ∈ master.busyList.erase socket
    rw [sound.workers.nodup.mem_erase_iff, idleNodup.mem_erase_iff,
      busyNodup.mem_erase_iff, sound.workers.listed_iff]
    tauto
  · exact fun other member => sound.workers.socket_pos other (List.mem_of_mem_erase member)
  · exact fun other idle worker held =>
      sound.workers.idle other (List.mem_of_mem_erase idle) worker (workerOf held).2
  · intro queryId running
    obtain ⟨holder, runs⟩ := sound.assignments.holder queryId running
    have different : holder ≠ socket := by
      rintro rfl
      exact done queryId runs running
    obtain ⟨worker, block, names⟩ := current_eq_some_iff.mp runs
    exact ⟨holder, current_eq_some_iff.mpr
      ⟨worker, (Function.update_of_ne different _ _).trans block, names⟩⟩
  · exact fun other queryId runs => sound.assignments.running other queryId (currentOf runs).2
  · exact fun first second queryId runs secondRuns =>
      sound.assignments.unique first second queryId (currentOf runs).2 (currentOf secondRuns).2
  · exact fun other queryId worker query block =>
      sound.assignments.assigned other queryId worker query (workerOf block).2
  · exact fun other queryId runs => sound.assignments.bounded other queryId (currentOf runs).2

end Release

section Requeue

variable {programCounter now : Nat}

theorem query_requeueEvicted_of_ne {other : Nat} (different : other ≠ queryId) :
    (master.requeueEvicted queryId programCounter now).query other = master.query other :=
  Function.update_of_ne different _ _

theorem query_requeueEvicted_self {query : QueryControlBlock}
    (block : master.query queryId = some query) :
    (master.requeueEvicted queryId programCounter now).query queryId =
      some
        { query with
          programCounter := programCounter
          state := .ready
          assignedWorkerId := none
          preemptionPending := false
          readyTimestamp := now } := by
  change Function.update master.query queryId _ queryId = _
  rw [Function.update_self, block, Option.map_some]

theorem QueryTables.mem_readyQueue_requeueEvicted {other : Nat} :
    other ∈ (master.requeueEvicted queryId programCounter now).readyQueue ↔
      other = queryId ∨ other ∈ master.readyQueue := by
  rw [← List.mem_cons]
  exact insertQueryByPriority_perm.mem_iff

theorem requeueEvicted_perm (running : queryId ∈ master.runningList) :
    ((master.requeueEvicted queryId programCounter now).readyQueue ++
      (master.requeueEvicted queryId programCounter now).runningList).Perm
        (master.readyQueue ++ master.runningList) := by
  have inserted : ((master.requeueEvicted queryId programCounter now).readyQueue ++
      master.runningList.erase queryId).Perm
        ((queryId :: master.readyQueue) ++ master.runningList.erase queryId) :=
    insertQueryByPriority_perm.append_right _
  have moved : ((queryId :: master.readyQueue) ++ master.runningList.erase queryId).Perm
      (master.readyQueue ++ queryId :: master.runningList.erase queryId) :=
    List.perm_middle.symm
  exact (inserted.trans moved).trans
    (List.Perm.append_left _ (List.perm_cons_erase running).symm)

theorem QueryTables.requeueEvicted (tables : QueryTables master)
    (running : queryId ∈ master.runningList) :
    QueryTables (master.requeueEvicted queryId programCounter now) := by
  obtain ⟨query, block⟩ := tables.exists_block (tables.running_listed running)
  have self : (master.requeueEvicted queryId programCounter now).query queryId = _ :=
    query_requeueEvicted_self block
  have runningIff : ∀ other,
      other ∈ (master.requeueEvicted queryId programCounter now).runningList ↔
        other ≠ queryId ∧ other ∈ master.runningList :=
    fun other => tables.running_nodup.mem_erase_iff
  refine ⟨tables.nodup, ?_, ?_, ?_, tables.id_lt, ?_, ?_, ?_⟩
  · intro other
    by_cases same : other = queryId
    · rw [same, self]
      exact ⟨fun _ => tables.running_listed running, fun _ => by simp⟩
    · rw [query_requeueEvicted_of_ne same]
      exact tables.block_iff other
  · exact (requeueEvicted_perm running).nodup_iff.mpr tables.queues_nodup
  · intro other
    rw [runningIff, mem_readyQueue_requeueEvicted]
    change other ∈ master.queryList ↔ _
    rw [tables.queued_iff]
    by_cases same : other = queryId
    · simp [same, running]
    · simp [same]
  · intro other found held
    by_cases same : other = queryId
    · rw [same, self] at held
      rw [← Option.some.inj held]
      exact tables.not_cleanedUp queryId query block
    · rw [query_requeueEvicted_of_ne same] at held
      exact tables.not_cleanedUp other found held
  · intro other ready found held
    by_cases same : other = queryId
    · rw [same, self] at held
      rw [← Option.some.inj held]
    · rw [query_requeueEvicted_of_ne same] at held
      exact tables.ready_state other
        ((mem_readyQueue_requeueEvicted.mp ready).resolve_left same) found held
  · intro other stays found held
    rw [runningIff] at stays
    rw [query_requeueEvicted_of_ne stays.1] at held
    exact tables.running_state other stays.2 found held

/-- The worker of a query is released and the query goes back to the ready queue. -/
theorem Sound.requeue (sound : Sound master) (runs : master.current socket = some queryId)
    (running : queryId ∈ master.runningList) :
    Sound ((master.requeueEvicted queryId programCounter now).releaseWorker socket) := by
  have listed := sound.queries.running_listed running
  have busy := sound.workers.busy_of_current runs
  have currentOf : ∀ {other found},
      ((master.requeueEvicted queryId programCounter now).releaseWorker socket).current other =
        some found → other ≠ socket ∧ master.current other = some found := by
    intro other found otherRuns
    rw [current_releaseWorker] at otherRuns
    split at otherRuns
    · simp at otherRuns
    · rename_i different
      exact ⟨different, otherRuns⟩
  have notHeld : ∀ {other found}, other ≠ socket → master.current other = some found →
      found ≠ queryId := by
    rintro other found different otherRuns rfl
    exact different (sound.assignments.unique other socket found otherRuns runs listed)
  have workers : WorkerTables (master.requeueEvicted queryId programCounter now) :=
    sound.workers.of_eq rfl rfl rfl rfl
  refine ⟨(sound.queries.requeueEvicted running).of_eq rfl rfl rfl rfl rfl,
    workers.releaseWorker busy, ⟨?_, ?_, ?_, ?_, ?_⟩⟩
  · intro found stays
    obtain ⟨different, old⟩ := sound.queries.running_nodup.mem_erase_iff.mp stays
    obtain ⟨holder, holderRuns⟩ := sound.assignments.holder found old
    refine ⟨holder, ?_⟩
    have elsewhere : holder ≠ socket := by
      rintro rfl
      exact different (Option.some.inj (holderRuns.symm.trans runs))
    rw [current_releaseWorker, if_neg elsewhere]
    exact holderRuns
  · intro other found otherRuns foundListed
    obtain ⟨different, old⟩ := currentOf otherRuns
    exact sound.queries.running_nodup.mem_erase_iff.mpr
      ⟨notHeld different old, sound.assignments.running other found old foundListed⟩
  · intro first second found firstRuns secondRuns foundListed
    exact sound.assignments.unique first second found (currentOf firstRuns).2
      (currentOf secondRuns).2 foundListed
  · intro other found worker query block names held
    by_cases same : other = socket
    · rw [same] at block
      have forgotten := worker_forgetQuery_self.symm.trans block
      obtain ⟨old, _, rfl⟩ := Option.map_eq_some_iff.mp forgotten
      simp at names
    · have oldBlock : master.worker other = some worker :=
        (worker_forgetQuery_of_ne same).symm.trans block
      have different := notHeld same (current_eq_some_iff.mpr ⟨worker, oldBlock, names⟩)
      have oldHeld : master.query found = some query :=
        (query_requeueEvicted_of_ne different).symm.trans held
      exact sound.assignments.assigned other found worker query oldBlock names oldHeld
  · exact fun other found otherRuns =>
      sound.assignments.bounded other found (currentOf otherRuns).2

end Requeue

section Assign

variable {readyRest idleRest : List Nat} {worker : WorkerControlBlock}

theorem worker_assignQuery_of_ne {workerId other : Nat} (different : other ≠ socket) :
    (master.assignQuery socket queryId workerId).worker other = master.worker other :=
  Function.update_of_ne different _ _

theorem worker_assignQuery_self {workerId : Nat} (block : master.worker socket = some worker) :
    (master.assignQuery socket queryId workerId).worker socket =
      some { worker with currentQueryId := some queryId, state := .busy } := by
  change Function.update master.worker socket _ socket = _
  rw [Function.update_self, block, Option.map_some]

theorem query_assignQuery_of_ne {workerId other : Nat} (different : other ≠ queryId) :
    (master.assignQuery socket queryId workerId).query other = master.query other :=
  Function.update_of_ne different _ _

theorem query_assignQuery_self {workerId : Nat} {query : QueryControlBlock}
    (block : master.query queryId = some query) :
    (master.assignQuery socket queryId workerId).query queryId =
      some
        { query with
          state := .running
          assignedWorkerId := some workerId
          preemptionPending := false } := by
  change Function.update master.query queryId _ queryId = _
  have same : (master.modifyWorker socket fun worker =>
      { worker with currentQueryId := some queryId, state := .busy }).query queryId =
        some query := block
  rw [Function.update_self, same, Option.map_some]

theorem current_assignQuery (block : master.worker socket = some worker) (workerId other : Nat) :
    (master.assignQuery socket queryId workerId).current other =
      if other = socket then some queryId else master.current other := by
  unfold current
  split
  · rename_i same
    rw [same, worker_assignQuery_self block]
    rfl
  · rename_i different
    rw [worker_assignQuery_of_ne different]

theorem mem_runningList_assignQuery {workerId other : Nat} :
    other ∈ (master.assignQuery socket queryId workerId).runningList ↔
      other ∈ master.runningList ∨ other = queryId := by
  change other ∈ master.runningList ++ [queryId] ↔ _
  rw [List.mem_append, List.mem_singleton]

theorem QueryTables.assignQuery (tables : QueryTables master)
    (ready : master.readyQueue = queryId :: readyRest) (socket workerId : Nat) :
    QueryTables (master.assignQuery socket queryId workerId) := by
  have member : queryId ∈ master.readyQueue := by simp [ready]
  have restOf : ∀ {other}, other ∈ readyRest → other ∈ master.readyQueue ∧ other ≠ queryId := by
    intro other rest
    refine ⟨by simp [ready, rest], ?_⟩
    rintro rfl
    have nodup := tables.ready_nodup
    rw [ready, List.nodup_cons] at nodup
    exact nodup.1 rest
  have tailEq : (master.assignQuery socket queryId workerId).readyQueue = readyRest := by
    change master.readyQueue.tail = readyRest
    rw [ready, List.tail_cons]
  have listed : queryId ∈ master.queryList := (tables.queued_iff queryId).mpr (Or.inl member)
  obtain ⟨query, block⟩ := tables.exists_block listed
  have self : (master.assignQuery socket queryId workerId).query queryId = _ :=
    query_assignQuery_self block
  refine ⟨tables.nodup, ?_, ?_, ?_, tables.id_lt, ?_, ?_, ?_⟩
  · intro other
    by_cases same : other = queryId
    · rw [same, self]
      exact ⟨fun _ => listed, fun _ => by simp⟩
    · rw [query_assignQuery_of_ne same]
      exact tables.block_iff other
  · rw [tailEq]
    have moved : (readyRest ++ (master.runningList ++ [queryId])).Perm
        (master.readyQueue ++ master.runningList) := by
      rw [ready, ← List.append_assoc]
      exact List.perm_append_singleton _ _
    exact moved.nodup_iff.mpr tables.queues_nodup
  · intro other
    rw [tailEq, mem_runningList_assignQuery]
    change other ∈ master.queryList ↔ _
    rw [tables.queued_iff, ready, List.mem_cons]
    tauto
  · intro other found held
    by_cases same : other = queryId
    · rw [same, self] at held
      rw [← Option.some.inj held]
      exact tables.not_cleanedUp queryId query block
    · rw [query_assignQuery_of_ne same] at held
      exact tables.not_cleanedUp other found held
  · intro other rest found held
    rw [tailEq] at rest
    rw [query_assignQuery_of_ne (restOf rest).2] at held
    exact tables.ready_state other (restOf rest).1 found held
  · intro other running found held
    by_cases same : other = queryId
    · rw [same, self] at held
      rw [← Option.some.inj held]
      exact Or.inl rfl
    · rw [query_assignQuery_of_ne same] at held
      exact tables.running_state other
        ((mem_runningList_assignQuery.mp running).resolve_right same) found held

theorem WorkerTables.assignQuery (tables : WorkerTables master)
    (idle : master.idleList = socket :: idleRest) (block : master.worker socket = some worker)
    (queryId workerId : Nat) : WorkerTables (master.assignQuery socket queryId workerId) := by
  have tailEq : (master.assignQuery socket queryId workerId).idleList = idleRest := by
    change master.idleList.tail = idleRest
    rw [idle, List.tail_cons]
  have restOf : ∀ {other}, other ∈ idleRest → other ∈ master.idleList ∧ other ≠ socket := by
    intro other rest
    refine ⟨by simp [idle, rest], ?_⟩
    rintro rfl
    have nodup := (List.nodup_append.mp tables.lists_nodup).1
    rw [idle, List.nodup_cons] at nodup
    exact nodup.1 rest
  refine ⟨tables.nodup, ?_, ?_, ?_, tables.socket_pos, ?_⟩
  · intro other
    by_cases same : other = socket
    · rw [same, worker_assignQuery_self block]
      exact ⟨fun _ => (tables.block_iff socket).mp (by simp [block]), fun _ => by simp⟩
    · rw [worker_assignQuery_of_ne same]
      exact tables.block_iff other
  · rw [tailEq]
    have moved : (idleRest ++ (master.busyList ++ [socket])).Perm
        (master.idleList ++ master.busyList) := by
      rw [idle, ← List.append_assoc]
      exact List.perm_append_singleton _ _
    exact moved.nodup_iff.mpr tables.lists_nodup
  · intro other
    rw [tailEq]
    change other ∈ master.workerList ↔ other ∈ idleRest ∨ other ∈ master.busyList ++ [socket]
    rw [tables.listed_iff, idle, List.mem_cons, List.mem_append, List.mem_singleton]
    tauto
  · intro other rest found held
    rw [tailEq] at rest
    rw [worker_assignQuery_of_ne (restOf rest).2] at held
    exact tables.idle other (restOf rest).1 found held

/-- The first ready query is assigned to the first idle worker. -/
theorem Sound.assignQuery (sound : Sound master)
    (ready : master.readyQueue = queryId :: readyRest)
    (idle : master.idleList = socket :: idleRest)
    (block : master.worker socket = some worker) :
    Sound (master.assignQuery socket queryId worker.workerId) := by
  have isReady : queryId ∈ master.readyQueue := by simp [ready]
  have isIdle : socket ∈ master.idleList := by simp [idle]
  have listed := (sound.queries.queued_iff queryId).mpr (Or.inl isReady)
  obtain ⟨query, queryBlock⟩ := sound.queries.exists_block listed
  have unheld : ∀ other, master.current other ≠ some queryId := by
    intro other runs
    exact sound.queries.not_running isReady
      (sound.assignments.running other queryId runs listed)
  refine ⟨sound.queries.assignQuery ready socket worker.workerId,
    sound.workers.assignQuery idle block queryId worker.workerId, ⟨?_, ?_, ?_, ?_, ?_⟩⟩
  · intro found running
    rcases mem_runningList_assignQuery.mp running with old | rfl
    · obtain ⟨holder, runs⟩ := sound.assignments.holder found old
      refine ⟨holder, ?_⟩
      have different : holder ≠ socket := by
        rintro rfl
        rw [sound.workers.current_of_idle isIdle] at runs
        simp at runs
      rw [current_assignQuery block, if_neg different]
      exact runs
    · exact ⟨socket, by rw [current_assignQuery block, if_pos rfl]⟩
  · intro other found runs foundListed
    rw [current_assignQuery block] at runs
    rw [mem_runningList_assignQuery]
    split at runs
    · exact Or.inr (Option.some.inj runs).symm
    · exact Or.inl (sound.assignments.running other found runs foundListed)
  · intro first second found firstRuns secondRuns foundListed
    rw [current_assignQuery block] at firstRuns secondRuns
    split at firstRuns
    · rename_i firstHere
      split at secondRuns
      · rename_i secondHere
        rw [firstHere, secondHere]
      · rw [← Option.some.inj firstRuns] at secondRuns
        exact absurd secondRuns (unheld second)
    · split at secondRuns
      · rw [← Option.some.inj secondRuns] at firstRuns
        exact absurd firstRuns (unheld first)
      · exact sound.assignments.unique first second found firstRuns secondRuns foundListed
  · intro other found holder foundQuery holderBlock names held
    by_cases same : other = socket
    · rw [same, worker_assignQuery_self block] at holderBlock
      rw [← Option.some.inj holderBlock] at names ⊢
      obtain rfl : queryId = found := Option.some.inj names
      rw [query_assignQuery_self queryBlock] at held
      rw [← Option.some.inj held]
    · rw [worker_assignQuery_of_ne same] at holderBlock
      have different : found ≠ queryId := by
        rintro rfl
        exact unheld other (current_eq_some_iff.mpr ⟨holder, holderBlock, names⟩)
      rw [query_assignQuery_of_ne different] at held
      exact sound.assignments.assigned other found holder foundQuery holderBlock names held
  · intro other found runs
    rw [current_assignQuery block] at runs
    split at runs
    · rw [← Option.some.inj runs]
      exact sound.queries.id_lt queryId listed
    · exact sound.assignments.bounded other found runs

end Assign

section Create

theorem Sound.createWorker (sound : Sound master) {workerId : Nat}
    (fresh : socket ∉ master.workerList) (positive : 0 < socket) :
    Sound (master.createWorker workerId socket) := by
  have missing : master.worker socket = none := by
    by_contra present
    exact fresh ((sound.workers.block_iff socket).mp present)
  have other : ∀ {name}, name ≠ socket →
      (master.createWorker workerId socket).worker name = master.worker name :=
    fun different => Function.update_of_ne different _ _
  have self : (master.createWorker workerId socket).worker socket =
      some { workerId := workerId, currentQueryId := none, state := .idle } :=
    Function.update_self _ _ _
  have currentEq : ∀ name, (master.createWorker workerId socket).current name =
      master.current name := by
    intro name
    unfold current
    by_cases same : name = socket
    · rw [same, self, missing]
      rfl
    · rw [other same]
  refine ⟨sound.queries.of_eq rfl rfl rfl rfl rfl, ⟨?_, ?_, ?_, ?_, ?_, ?_⟩,
    ⟨?_, ?_, ?_, ?_, ?_⟩⟩
  · exact (List.perm_append_singleton _ _).nodup_iff.mpr
      (List.nodup_cons.mpr ⟨fresh, sound.workers.nodup⟩)
  · intro name
    change _ ↔ name ∈ master.workerList ++ [socket]
    rw [List.mem_append, List.mem_singleton]
    by_cases same : name = socket
    · simp [same, self]
    · rw [other same, sound.workers.block_iff]
      simp [same]
  · have absent : socket ∉ master.idleList ++ master.busyList := by
      rw [List.mem_append, ← sound.workers.listed_iff]
      exact fresh
    have moved : (master.idleList ++ [socket] ++ master.busyList).Perm
        (socket :: (master.idleList ++ master.busyList)) := by
      rw [List.append_assoc]
      exact List.perm_middle
    exact moved.nodup_iff.mpr (List.nodup_cons.mpr ⟨absent, sound.workers.lists_nodup⟩)
  · intro name
    change name ∈ master.workerList ++ [socket] ↔
      name ∈ master.idleList ++ [socket] ∨ name ∈ master.busyList
    simp only [List.mem_append, List.mem_singleton, sound.workers.listed_iff]
    tauto
  · intro name listed
    rcases List.mem_append.mp listed with old | new
    · exact sound.workers.socket_pos name old
    · rw [List.mem_singleton.mp new]
      exact positive
  · intro name idle found held
    by_cases same : name = socket
    · rw [same, self] at held
      rw [← Option.some.inj held]
      exact ⟨rfl, rfl⟩
    · rw [other same] at held
      rcases List.mem_append.mp idle with old | new
      · exact sound.workers.idle name old found held
      · exact absurd (List.mem_singleton.mp new) same
  · intro queryId running
    obtain ⟨holder, runs⟩ := sound.assignments.holder queryId running
    exact ⟨holder, (currentEq holder).trans runs⟩
  · intro name queryId runs
    rw [currentEq] at runs
    exact sound.assignments.running name queryId runs
  · intro first second queryId firstRuns secondRuns
    rw [currentEq] at firstRuns secondRuns
    exact sound.assignments.unique first second queryId firstRuns secondRuns
  · intro name queryId found query held names
    by_cases same : name = socket
    · rw [same, self] at held
      rw [← Option.some.inj held] at names
      simp at names
    · rw [other same] at held
      exact sound.assignments.assigned name queryId found query held names
  · intro name queryId runs
    rw [currentEq] at runs
    exact sound.assignments.bounded name queryId runs

theorem enqueueReady_readyQueue (config : MasterConfig) :
    (master.enqueueReady config queryId).readyQueue.Perm (queryId :: master.readyQueue) := by
  unfold enqueueReady
  split
  · exact insertQueryByPriority_perm
  · exact List.perm_append_singleton _ _

/-- Putting a query into the ready queue touches nothing else. -/
theorem enqueueReady_eq (config : MasterConfig) :
    master.enqueueReady config queryId =
      { master with readyQueue := (master.enqueueReady config queryId).readyQueue } := by
  unfold enqueueReady
  split <;> rfl

theorem block_createQuery {config : MasterConfig} {path : String} {priority now : Nat}
    {query : QueryControlBlock}
    (block : (master.createQuery config path priority socket now).query queryId = some query) :
    (queryId = master.nextQueryId ∧ query = newQueryBlock path priority socket now) ∨
      (queryId ≠ master.nextQueryId ∧ master.query queryId = some query) := by
  rw [Master.createQuery, enqueueReady_eq] at block
  change Function.update master.query master.nextQueryId
    (some (newQueryBlock path priority socket now)) queryId = some query at block
  exact update_eq_some_cases block

theorem QueryTables.createQuery (tables : QueryTables master) (config : MasterConfig)
    (path : String) (priority socket now : Nat) :
    QueryTables (master.createQuery config path priority socket now) := by
  have fresh : master.nextQueryId ∉ master.queryList :=
    fun listed => Nat.lt_irrefl _ (tables.id_lt _ listed)
  have notQueued : master.nextQueryId ∉ master.readyQueue ++ master.runningList := by
    rw [List.mem_append, ← tables.queued_iff]
    exact fresh
  have readyPerm : (master.createQuery config path priority socket now).readyQueue.Perm
      (master.nextQueryId :: master.readyQueue) := enqueueReady_readyQueue config
  rw [Master.createQuery, enqueueReady_eq] at readyPerm ⊢
  have other : ∀ {found}, found ≠ master.nextQueryId →
      (master.registerQuery (newQueryBlock path priority socket now)).query found =
        master.query found :=
    fun different => Function.update_of_ne different _ _
  have self : (master.registerQuery (newQueryBlock path priority socket now)).query
      master.nextQueryId = some (newQueryBlock path priority socket now) :=
    Function.update_self _ _ _
  constructor
  · exact (List.perm_append_singleton _ _).nodup_iff.mpr
      (List.nodup_cons.mpr ⟨fresh, tables.nodup⟩)
  · intro found
    change (master.registerQuery _).query found ≠ none ↔
      found ∈ master.queryList ++ [master.nextQueryId]
    rw [List.mem_append, List.mem_singleton]
    by_cases same : found = master.nextQueryId
    · simp [same, self]
    · rw [other same, tables.block_iff]
      simp [same]
  · exact ((readyPerm.append_right _).nodup_iff).mpr
      (List.nodup_cons.mpr ⟨notQueued, tables.queues_nodup⟩)
  · intro found
    change found ∈ master.queryList ++ [master.nextQueryId] ↔ _ ∨ found ∈ master.runningList
    rw [readyPerm.mem_iff, List.mem_append, List.mem_singleton, List.mem_cons,
      tables.queued_iff]
    tauto
  · intro found listed
    change found < master.nextQueryId + 1
    rcases List.mem_append.mp listed with old | new
    · exact Nat.lt_succ_of_lt (tables.id_lt found old)
    · rw [List.mem_singleton.mp new]
      exact Nat.lt_succ_self _
  · intro found query held
    by_cases same : found = master.nextQueryId
    · rw [same] at held
      rw [← Option.some.inj (self.symm.trans held)]
      rfl
    · exact tables.not_cleanedUp found query ((other same).symm.trans held)
  · intro found ready query held
    by_cases same : found = master.nextQueryId
    · rw [same] at held
      rw [← Option.some.inj (self.symm.trans held)]
      rfl
    · have old := (List.mem_cons.mp (readyPerm.mem_iff.mp ready)).resolve_left same
      exact tables.ready_state found old query ((other same).symm.trans held)
  · intro found running query held
    have different : found ≠ master.nextQueryId := by
      rintro rfl
      exact notQueued (List.mem_append_right _ running)
    exact tables.running_state found running query ((other different).symm.trans held)

theorem Sound.createQuery (sound : Sound master) (config : MasterConfig) (path : String)
    (priority now : Nat) : Sound (master.createQuery config path priority socket now) := by
  have unheld : ∀ holder, master.current holder ≠ some master.nextQueryId :=
    fun holder runs => Nat.lt_irrefl _ (sound.assignments.bounded holder _ runs)
  have queries := sound.queries.createQuery config path priority socket now
  rw [Master.createQuery, enqueueReady_eq] at queries ⊢
  refine ⟨queries, sound.workers.of_eq rfl rfl rfl rfl, ⟨sound.assignments.holder, ?_, ?_, ?_, ?_⟩⟩
  · intro holder found runs listed
    rcases List.mem_append.mp listed with old | new
    · exact sound.assignments.running holder found runs old
    · rw [List.mem_singleton.mp new] at runs
      exact absurd runs (unheld holder)
  · intro first second found firstRuns secondRuns listed
    rcases List.mem_append.mp listed with old | new
    · exact sound.assignments.unique first second found firstRuns secondRuns old
    · rw [List.mem_singleton.mp new] at firstRuns
      exact absurd firstRuns (unheld first)
  · intro holder found worker query block names held
    have different : found ≠ master.nextQueryId := by
      rintro rfl
      exact unheld holder (current_eq_some_iff.mpr ⟨worker, block, names⟩)
    exact sound.assignments.assigned holder found worker query block names
      ((Function.update_of_ne different _ _).symm.trans held)
  · exact fun holder found runs =>
      Nat.lt_succ_of_lt (sound.assignments.bounded holder found runs)

end Create

end Master

end MasterOfFiles
