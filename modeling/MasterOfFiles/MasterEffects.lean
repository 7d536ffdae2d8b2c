import MasterOfFiles.MasterTables

/-!
# What the handlers do to sound tables

Every handler is described once: which of a handful of changes it makes to
sound tables, under which circumstances, and which messages it sends to
Workers.
-/

namespace MasterOfFiles

namespace Master

variable {master : Master} {socket queryId : Nat}

/-- No Worker is given a query by these messages. -/
def StartsNothing (sent : List Outgoing) : Prop :=
  ∀ socket queryId programCounter path,
    Outgoing.toWorker socket (.startQuery queryId programCounter path) ∉ sent

theorem startsNothing_nil : StartsNothing [] := by
  intro socket queryId programCounter path member
  cases member

theorem startsNothing_toQueryControl (socket : Nat) (message : QueryControlMessage) :
    StartsNothing [.toQueryControl socket message] := by
  intro socket queryId programCounter path member
  simp at member

theorem startsNothing_preemptReq (socket queryId : Nat) :
    StartsNothing [.toWorker socket (.preemptReq queryId)] := by
  intro socket queryId programCounter path member
  simp at member

section Quiet

theorem query_modifyQuery_self {query : QueryControlBlock}
    {change : QueryControlBlock → QueryControlBlock}
    (block : master.query queryId = some query) :
    (master.modifyQuery queryId change).query queryId = some (change query) := by
  simp [modifyQuery, block]

variable {middle after : Master}

theorem Quiet.refl (master : Master) : Quiet master master where
  query found := by
    cases master.query found with
    | none => exact Option.Rel.none
    | some query => exact Option.Rel.some ⟨rfl, Or.inl rfl, fun _ => rfl, rfl, rfl⟩
  queryList := rfl
  readyQueue := List.Perm.refl _
  runningList := rfl
  nextQueryId := rfl
  worker := rfl
  workerList := rfl
  idleList := List.Perm.refl _
  busyList := rfl

theorem Quiet.trans (first : Quiet master middle) (second : Quiet middle after) :
    Quiet master after where
  query found := by
    cases held : after.query found with
    | none =>
        rw [first.query_eq_none_iff.mp (second.query_eq_none_iff.mp held)]
        exact Option.Rel.none
    | some new =>
        obtain ⟨between, betweenHeld, cleaned, state, assigned, counter, path⟩ :=
          second.block held
        obtain ⟨old, oldHeld, oldCleaned, oldState, oldAssigned, oldCounter, oldPath⟩ :=
          first.block betweenHeld
        rw [first.runningList] at assigned
        rw [oldHeld]
        refine Option.Rel.some ⟨cleaned.trans oldCleaned, ?_,
          fun running => (assigned running).trans (oldAssigned running),
          counter.trans oldCounter, path.trans oldPath⟩
        rcases state with same | ⟨wasRunning, canceled⟩
        · rw [same]
          exact oldState
        · rcases oldState with oldSame | ⟨_, wasCanceled⟩
          · exact Or.inr ⟨oldSame ▸ wasRunning, canceled⟩
          · simp [wasRunning] at wasCanceled
  queryList := second.queryList.trans first.queryList
  readyQueue := second.readyQueue.trans first.readyQueue
  runningList := second.runningList.trans first.runningList
  nextQueryId := second.nextQueryId.trans first.nextQueryId
  worker := second.worker.trans first.worker
  workerList := second.workerList.trans first.workerList
  idleList := second.idleList.trans first.idleList
  busyList := second.busyList.trans first.busyList

/-- Writing the pending flag of a query, or canceling it while it runs. -/
theorem Quiet.modifyQuery {change : QueryControlBlock → QueryControlBlock}
    (fields : ∀ query, master.query queryId = some query →
      (change query).cleanedUp = query.cleanedUp ∧
      ((change query).state = query.state ∨
        (query.state = .running ∧ (change query).state = .canceled)) ∧
      (change query).assignedWorkerId = query.assignedWorkerId ∧
      (change query).programCounter = query.programCounter ∧
      (change query).queryFilePath = query.queryFilePath) :
    Quiet master (master.modifyQuery queryId change) := by
  refine { Quiet.refl master with query := fun found => ?_ }
  by_cases same : found = queryId
  · rw [same]
    cases block : master.query queryId with
    | none =>
        rw [Master.modifyQuery, block, Option.map_none]
        simp only [Function.update_self]
        exact Option.Rel.none
    | some query =>
        obtain ⟨cleaned, state, assigned, counter, path⟩ := fields query block
        rw [query_modifyQuery_self block]
        exact Option.Rel.some ⟨cleaned, state, fun _ => assigned, counter, path⟩
  · have unchanged : (master.modifyQuery queryId change).query found = master.query found :=
      Function.update_of_ne same _ _
    rw [unchanged]
    exact (Quiet.refl master).query found

end Quiet

section Reports

/-- Dropping a query forgets whatever was written to its block before. -/
theorem dropQuery_modifyQuery (change : QueryControlBlock → QueryControlBlock) :
    (master.modifyQuery queryId change).dropQuery queryId = master.dropQuery queryId := by
  simp [dropQuery, modifyQuery]

theorem QueryTables.not_mem_erase_running (tables : QueryTables master) (queryId : Nat) :
    queryId ∉ master.runningList.erase queryId :=
  fun member => (tables.running_nodup.mem_erase_iff.mp member).1 rfl

theorem cleanupQueryResources_eq_dropQuery {query : QueryControlBlock}
    (block : master.query queryId = some query) (fresh : query.cleanedUp = false) :
    master.cleanupQueryResources queryId = master.dropQuery queryId := by
  simp [cleanupQueryResources, block, fresh]

theorem Sound.findRunning (sound : Sound master) (running : queryId ∈ master.runningList) :
    ∃ query, master.findRunning queryId = some query ∧ master.query queryId = some query ∧
      query.cleanedUp = false := by
  obtain ⟨query, block⟩ :=
    sound.queries.exists_block (sound.queries.running_listed running)
  exact ⟨query, by simp [Master.findRunning, running, block], block,
    sound.queries.not_cleanedUp queryId query block⟩

/-- `manage_worker_end_query` ignores an unknown worker, makes a worker forget
whatever it runs when the query is not running, and otherwise retires the
query. -/
theorem Sound.manageWorkerEndQuery_cases (sound : Sound master) (socket queryId : Nat) :
    StartsNothing (master.manageWorkerEndQuery socket queryId).2 ∧
      ((socket ∉ master.workerList ∧
          (master.manageWorkerEndQuery socket queryId).1 = master) ∨
        (socket ∈ master.workerList ∧ queryId ∉ master.runningList ∧
          (master.manageWorkerEndQuery socket queryId).1 = master.forgetQuery socket) ∨
        (socket ∈ master.workerList ∧ queryId ∈ master.runningList ∧
          (master.manageWorkerEndQuery socket queryId).1 =
            (master.releaseWorker socket).dropQuery queryId)) := by
  unfold manageWorkerEndQuery
  cases search : master.findWorkerBySocket socket with
  | none =>
      exact ⟨startsNothing_nil,
        Or.inl ⟨sound.workers.findWorkerBySocket_none_iff.mp search, rfl⟩⟩
  | some worker =>
      have listed : socket ∈ master.workerList := by
        by_contra absent
        simp [sound.workers.findWorkerBySocket_none_iff.mpr absent] at search
      by_cases running : queryId ∈ master.runningList
      · obtain ⟨query, found, block, fresh⟩ := sound.findRunning running
        have absent := sound.queries.not_mem_erase_running queryId
        simp only [found, fresh, Bool.false_eq_true, if_false]
        refine ⟨?_, Or.inr (Or.inr ⟨listed, running, ?_⟩)⟩
        · split
          · exact startsNothing_toQueryControl _ _
          · exact startsNothing_nil
        · simp [Master.cleanupQueryResources, Master.dropQuery, Master.releaseWorker,
            Master.forgetQuery, modifyWorker, modifyQuery, block, fresh,
            List.erase_of_not_mem absent]
      · rw [sound.queries.findRunning_none_iff.mpr running]
        exact ⟨startsNothing_nil, Or.inr (Or.inl ⟨listed, running, rfl⟩)⟩

/-- `manage_worker_evict_response` of a query that is running on the sender
retires it when it was canceled and requeues it otherwise. -/
theorem Sound.manageWorkerEvictResponse_cases (sound : Sound master)
    (programCounter now : Nat)
    (holder : queryId ∈ master.runningList → socket ∈ master.workerList →
      master.current socket = some queryId) :
    (¬ (socket ∈ master.workerList ∧ queryId ∈ master.runningList) ∧
        master.manageWorkerEvictResponse socket queryId programCounter now = master) ∨
      (master.current socket = some queryId ∧ queryId ∈ master.runningList ∧
        (master.manageWorkerEvictResponse socket queryId programCounter now =
            (master.releaseWorker socket).dropQuery queryId ∨
          master.manageWorkerEvictResponse socket queryId programCounter now =
            (master.requeueEvicted queryId programCounter now).releaseWorker socket)) := by
  unfold manageWorkerEvictResponse
  cases search : master.findWorkerBySocket socket with
  | none =>
      left
      have absent := sound.workers.findWorkerBySocket_none_iff.mp search
      exact ⟨fun both => absent both.1, rfl⟩
  | some worker =>
      have listed : socket ∈ master.workerList := by
        by_contra absent
        simp [sound.workers.findWorkerBySocket_none_iff.mpr absent] at search
      by_cases running : queryId ∈ master.runningList
      · right
        obtain ⟨query, found, block, fresh⟩ := sound.findRunning running
        have runs := holder running listed
        have busy := sound.workers.busy_of_current runs
        refine ⟨runs, running, ?_⟩
        simp only [found]
        split
        · left
          have discarded : master.discardEvicted queryId programCounter =
              master.dropQuery queryId := by
            simp [discardEvicted, Master.cleanupQueryResources, Master.dropQuery, modifyQuery,
              block, fresh,
              List.erase_of_not_mem (sound.queries.not_mem_erase_running queryId)]
          have stillBusy : socket ∈ (master.dropQuery queryId).busyList := busy
          rw [discarded, if_pos stillBusy]
          rfl
        · right
          have stillBusy :
              socket ∈ (master.requeueEvicted queryId programCounter now).busyList := busy
          rw [if_pos stillBusy]
      · left
        rw [sound.queries.findRunning_none_iff.mpr running]
        exact ⟨fun both => running both.2, rfl⟩

/-- `handle_error_from_storage` retires whatever query the sender runs. -/
theorem Sound.handleErrorFromStorage_cases (sound : Sound master)
    (socket messageId : Nat) (reason : String) :
    StartsNothing (master.handleErrorFromStorage socket messageId reason).2 ∧
      ((master.handleErrorFromStorage socket messageId reason).1 = master ∨
        ∃ running ∈ master.runningList, master.current socket = some running ∧
          (master.handleErrorFromStorage socket messageId reason).1 =
            (master.releaseWorker socket).dropQuery running) := by
  unfold handleErrorFromStorage
  cases search : (master.findWorkerBySocket socket).bind
      WorkerControlBlock.currentQueryId with
  | none => exact ⟨startsNothing_nil, Or.inl rfl⟩
  | some running =>
      have runs : master.current socket = some running := by
        unfold findWorkerBySocket at search
        split at search
        · exact search
        · simp at search
      by_cases isRunning : running ∈ master.runningList
      · obtain ⟨query, found, block, fresh⟩ := sound.findRunning isRunning
        have released : (master.releaseWorker socket).query running = some query := block
        simp only [found, finalizeQueryWithError, released]
        refine ⟨startsNothing_toQueryControl _ _, Or.inr ⟨running, isRunning, runs, ?_⟩⟩
        rw [cleanupQueryResources_eq_dropQuery (query_modifyQuery_self released) fresh,
          dropQuery_modifyQuery]
      · simp only [sound.queries.findRunning_none_iff.mpr isRunning]
        exact ⟨startsNothing_nil, Or.inl trivial⟩

end Reports

section Preemption

/-- The worker of a running query can be found by its id. -/
theorem Sound.assignedWorker (sound : Sound master) {query : QueryControlBlock}
    (running : queryId ∈ master.runningList) (block : master.query queryId = some query) :
    ∃ found, (query.assignedWorkerId.bind master.findWorkerById).filter (0 < ·) =
      some found := by
  obtain ⟨holder, runs⟩ := sound.assignments.holder queryId running
  obtain ⟨worker, workerBlock, names⟩ := current_eq_some_iff.mp runs
  have assigned := sound.assignments.assigned holder queryId worker query workerBlock names
    block
  have listed := sound.workers.listed_of_current runs
  cases search : master.findWorkerById worker.workerId with
  | none =>
      have missing := List.find?_eq_none.mp search holder listed
      simp [workerBlock] at missing
  | some found =>
      have positive := sound.workers.socket_pos found (List.mem_of_find?_eq_some search)
      exact ⟨found, by simp [assigned, search, Option.filter, positive]⟩

theorem Sound.preemptQueryInExec (sound : Sound master) (sent : Bool)
    (running : queryId ∈ master.runningList) :
    Quiet master (master.preemptQueryInExec sent queryId).1 ∧
      StartsNothing (master.preemptQueryInExec sent queryId).2 := by
  obtain ⟨query, block⟩ :=
    sound.queries.exists_block (sound.queries.running_listed running)
  obtain ⟨found, assigned⟩ := sound.assignedWorker running block
  have flagged : ∀ pending, Quiet master
      (master.modifyQuery queryId fun query => { query with preemptionPending := pending }) :=
    fun pending => Quiet.modifyQuery fun query _ => ⟨rfl, Or.inl rfl, rfl, rfl, rfl⟩
  unfold Master.preemptQueryInExec
  simp only [block, assigned]
  split
  · exact ⟨Quiet.refl master, startsNothing_nil⟩
  · split
    · exact ⟨flagged true, startsNothing_preemptReq found queryId⟩
    · exact ⟨flagged false, startsNothing_nil⟩

/-- One round of the search of `check_preemption`. -/
def worseOf (master : Master) (worst : Option Nat) (queryId : Nat) : Option Nat :=
  match worst with
  | none => some queryId
  | some current =>
    if master.priorityOf current < master.priorityOf queryId then some queryId
    else some current

/-- A round keeps what it had or takes the query, whichever has the larger priority. -/
theorem worseOf_spec (master : Master) (worst : Option Nat) (queryId : Nat) :
    ∃ current, master.worseOf worst queryId = some current ∧
      (current = queryId ∨ worst = some current) ∧
        master.priorityOf queryId ≤ master.priorityOf current ∧
          ∀ first, worst = some first → master.priorityOf first ≤ master.priorityOf current := by
  cases worst with
  | none => exact ⟨queryId, rfl, Or.inl rfl, Nat.le_refl _, by simp⟩
  | some current =>
      rw [worseOf]
      split
      · rename_i larger
        exact ⟨queryId, rfl, Or.inl rfl, Nat.le_refl _, by simpa using Nat.le_of_lt larger⟩
      · rename_i notLarger
        exact ⟨current, rfl, Or.inr rfl, Nat.le_of_not_lt notLarger, by simp⟩

/-- The search ends with one of the queries or with what it began with, and nothing that it has
seen has a larger priority. -/
theorem foldl_worseOf {queries : List Nat} :
    ∀ {worst : Option Nat} {last : Nat}, queries.foldl master.worseOf worst = some last →
      (last ∈ queries ∨ worst = some last) ∧
        (∀ other ∈ queries, master.priorityOf other ≤ master.priorityOf last) ∧
          ∀ first, worst = some first → master.priorityOf first ≤ master.priorityOf last := by
  induction queries with
  | nil =>
      intro worst last ends
      have began : worst = some last := ends
      simp [began]
  | cons query rest ih =>
      intro worst last ends
      obtain ⟨current, round, picked, queryLe, beforeLe⟩ := master.worseOf_spec worst query
      rw [List.foldl_cons, round] at ends
      obtain ⟨origin, restLe, currentLe⟩ := ih ends
      have currentLe := currentLe current rfl
      constructor
      · rcases origin with member | began
        · exact Or.inl (List.mem_cons_of_mem query member)
        · obtain rfl : current = last := Option.some.inj began
          rcases picked with same | kept
          · exact Or.inl (same ▸ List.mem_cons_self)
          · exact Or.inr kept
      · constructor
        · intro other member
          rcases List.mem_cons.mp member with same | later
          · rw [same]
            exact Nat.le_trans queryLe currentLe
          · exact restLe other later
        · intro first began
          exact Nat.le_trans (beforeLe first began) currentLe

theorem worstRunning_mem (worst : master.worstRunning = some queryId) :
    queryId ∈ master.runningList := by
  rcases (foldl_worseOf worst).1 with member | impossible
  · exact member
  · cases impossible

/-- No running query has a larger priority than the one that `check_preemption` has found. -/
theorem priorityOf_le_worstRunning (worst : master.worstRunning = some queryId) :
    ∀ other ∈ master.runningList, master.priorityOf other ≤ master.priorityOf queryId :=
  (foldl_worseOf worst).2.1

theorem Sound.checkPreemption (sound : Sound master) (sent : Bool) :
    Quiet master (master.checkPreemption sent).1 ∧
      StartsNothing (master.checkPreemption sent).2 := by
  unfold Master.checkPreemption
  split
  · exact ⟨Quiet.refl master, startsNothing_nil⟩
  · split
    · rename_i bestReady rest worst _ worstEq
      split
      · exact ⟨Quiet.refl master, startsNothing_nil⟩
      · exact sound.preemptQueryInExec sent (worstRunning_mem worstEq)
    · exact ⟨Quiet.refl master, startsNothing_nil⟩

theorem ageQuery_eq (agingInterval now : Nat) (query : QueryControlBlock) :
    ∃ priority readyTimestamp, (ageQuery agingInterval now query).1 =
      { query with priority := priority, readyTimestamp := readyTimestamp } := by
  by_cases ready : query.state ≠ .ready
  · exact ⟨query.priority, query.readyTimestamp, by rw [ageQuery, if_pos ready]⟩
  · by_cases started : query.readyTimestamp = 0
    · exact ⟨query.priority, now, by rw [ageQuery, if_neg ready, if_pos started]⟩
    · simp only [ageQuery, if_neg ready, if_neg started]
      split_ifs
      · exact ⟨query.priority, query.readyTimestamp, rfl⟩
      · exact ⟨_, _, rfl⟩
      · exact ⟨query.priority, query.readyTimestamp, rfl⟩

theorem quiet_agingPass (config : MasterConfig) (now : Nat) :
    Quiet master (master.agingPass config now) := by
  have aged : ∀ queue : List Nat, queue.Perm master.readyQueue → Quiet master
      { master with
        query := fun queryId =>
          if queryId ∈ master.readyQueue then
            (master.query queryId).map fun query => (ageQuery config.agingInterval now query).1
          else master.query queryId
        readyQueue := queue } := by
    intro queue permuted
    refine { Quiet.refl master with query := fun found => ?_, readyQueue := permuted }
    change Option.Rel _ (master.query found) (if found ∈ master.readyQueue then _ else _)
    split
    · cases master.query found with
      | none => exact Option.Rel.none
      | some query =>
          obtain ⟨priority, timestamp, agedEq⟩ := ageQuery_eq config.agingInterval now query
          rw [Option.map_some, agedEq]
          exact Option.Rel.some ⟨rfl, Or.inl rfl, fun _ => rfl, rfl, rfl⟩
    · exact (Quiet.refl master).query found
  unfold agingPass
  split
  · exact Quiet.refl master
  · dsimp only
    split
    · exact aged _ (config.listSort_perm _ _)
    · exact aged _ (List.Perm.refl _)

end Preemption

section Dispatch

/-- A reverted assignment leaves the tables as they were, but for the order of
the queues. -/
theorem Sound.revertAssignment (sound : Sound master) (config : MasterConfig)
    {readyRest idleRest : List Nat} {worker : WorkerControlBlock}
    (ready : master.readyQueue = queryId :: readyRest)
    (idle : master.idleList = socket :: idleRest)
    (block : master.worker socket = some worker) :
    Quiet master
      ((master.assignQuery socket queryId worker.workerId).revertAssignment config socket
        queryId) := by
  have isReady : queryId ∈ master.readyQueue := by simp [ready]
  have isIdle : socket ∈ master.idleList := by simp [idle]
  have notRunning := sound.queries.not_running isReady
  have notBusy : socket ∉ master.busyList :=
    fun busy => (List.nodup_append.mp sound.workers.lists_nodup).2.2 _ isIdle _ busy rfl
  obtain ⟨query, queryBlock⟩ :=
    sound.queries.exists_block ((sound.queries.queued_iff queryId).mpr (Or.inl isReady))
  have state := sound.queries.ready_state queryId isReady query queryBlock
  have fields := sound.workers.idle socket isIdle worker block
  rw [Master.revertAssignment, enqueueReady_eq]
  refine ⟨?_, rfl, ?_, ?_, rfl, ?_, rfl, ?_, ?_⟩
  · intro found
    by_cases same : found = queryId
    · rw [same, queryBlock]
      have reverted : ((master.assignQuery socket queryId worker.workerId).forgetQuery
          socket).query queryId = _ := query_assignQuery_self queryBlock
      simp only [query_modifyQuery_self reverted]
      exact Option.Rel.some ⟨rfl, Or.inl state.symm, fun running => absurd running notRunning,
        rfl, rfl⟩
    · have unchanged : (((master.assignQuery socket queryId worker.workerId).forgetQuery
          socket).modifyQuery queryId fun query =>
            { query with state := .ready, assignedWorkerId := none }).query found =
          master.query found :=
        (Function.update_of_ne same _ _).trans (query_assignQuery_of_ne same)
      simp only [unchanged]
      exact (Quiet.refl master).query found
  · refine (enqueueReady_readyQueue config).trans ?_
    change (queryId :: master.readyQueue.tail).Perm master.readyQueue
    rw [ready, List.tail_cons]
  · change (master.runningList ++ [queryId]).erase queryId = master.runningList
    rw [List.erase_append_right _ notRunning]
    simp
  · change ((master.assignQuery socket queryId worker.workerId).forgetQuery socket).worker =
      master.worker
    funext found
    by_cases same : found = socket
    · rw [same, worker_forgetQuery_self, worker_assignQuery_self block, block, Option.map_some,
        ← fields.1, ← fields.2]
    · rw [worker_forgetQuery_of_ne same, worker_assignQuery_of_ne same]
  · change (master.idleList.tail ++ [socket]).Perm master.idleList
    rw [idle, List.tail_cons]
    exact List.perm_append_singleton _ _
  · change (master.busyList ++ [socket]).erase socket = master.busyList
    rw [List.erase_append_right _ notBusy]
    simp

/-- `try_dispatch` leaves the tables as they are, or assigns the first ready query
to the first idle worker and sends it there. -/
theorem Sound.tryDispatch_cases (sound : Sound master) (config : MasterConfig) (sent : Bool) :
    (Quiet master (master.tryDispatch config sent).1 ∧
        (master.tryDispatch config sent).2 = []) ∨
      ∃ socket idleRest queryId readyRest worker query,
        master.idleList = socket :: idleRest ∧ master.readyQueue = queryId :: readyRest ∧
        master.worker socket = some worker ∧ master.query queryId = some query ∧
        master.tryDispatch config sent =
          (master.assignQuery socket queryId worker.workerId,
            [.toWorker socket
              (.startQuery queryId query.programCounter query.queryFilePath)]) := by
  unfold Master.tryDispatch
  split
  · rename_i socket idleRest queryId readyRest idle ready
    split
    · exact Or.inl ⟨Quiet.refl master, rfl⟩
    · split
      · rename_i worker query workerBlock queryBlock
        split
        · exact Or.inr ⟨socket, idleRest, queryId, readyRest, worker, query, idle, ready,
            workerBlock, queryBlock, rfl⟩
        · exact Or.inl ⟨sound.revertAssignment config ready idle workerBlock, rfl⟩
      · exact Or.inl ⟨Quiet.refl master, rfl⟩
  · exact Or.inl ⟨Quiet.refl master, rfl⟩

end Dispatch

section Disconnections

theorem QueryTables.state_cases (tables : QueryTables master) {query : QueryControlBlock}
    (block : master.query queryId = some query) :
    (queryId ∈ master.readyQueue ∧ query.state = .ready) ∨
      (queryId ∈ master.runningList ∧
        (query.state = .running ∨ query.state = .canceled)) := by
  rcases (tables.queued_iff queryId).mp (tables.listed block) with ready | running
  · exact Or.inl ⟨ready, tables.ready_state queryId ready query block⟩
  · exact Or.inr ⟨running, tables.running_state queryId running query block⟩

/-- The disconnection of a Query Control drops a query that is ready or was
canceled before, and otherwise at most cancels and preempts one. -/
theorem Sound.handleQueryControlDisconnection_cases (sound : Sound master) (sent : Bool)
    (socket : Nat) :
    StartsNothing (master.handleQueryControlDisconnection sent socket).2 ∧
      (Quiet master (master.handleQueryControlDisconnection sent socket).1 ∨
        ∃ queryId query, master.findQueryBySocket socket = some queryId ∧
          master.query queryId = some query ∧
          (query.state ≠ .canceled → queryId ∈ master.readyQueue) ∧
          (master.handleQueryControlDisconnection sent socket).1 =
            master.dropQuery queryId) := by
  unfold handleQueryControlDisconnection
  cases search : master.findQueryBySocket socket with
  | none => exact ⟨startsNothing_nil, Or.inl (Quiet.refl master)⟩
  | some queryId =>
      cases block : master.query queryId with
      | none => simp only [block]; exact ⟨startsNothing_nil, Or.inl (Quiet.refl master)⟩
      | some query =>
          have fresh := sound.queries.not_cleanedUp queryId query block
          simp only [block, fresh, Bool.false_eq_true, if_false]
          rcases sound.queries.state_cases block with
            ⟨ready, state⟩ | ⟨running, state | state⟩
          · have canceledBlock : (master.modifyQuery queryId fun query =>
                { query with state := .canceled }).query queryId = _ :=
              query_modifyQuery_self block
            simp only [state, finalizeQueryWithError, canceledBlock]
            refine ⟨startsNothing_toQueryControl _ _,
              Or.inr ⟨queryId, query, rfl, block, fun _ => ready, ?_⟩⟩
            rw [cleanupQueryResources_eq_dropQuery (query_modifyQuery_self canceledBlock) fresh,
              dropQuery_modifyQuery, dropQuery_modifyQuery]
          · simp only [state]
            have canceled : Quiet master (master.modifyQuery queryId fun query =>
                { query with state := .canceled }) := by
              refine Quiet.modifyQuery fun found held => ?_
              obtain rfl : query = found := Option.some.inj (block.symm.trans held)
              exact ⟨rfl, Or.inr ⟨state, rfl⟩, rfl, rfl, rfl⟩
            obtain ⟨preempted, starts⟩ :=
              (canceled.sound sound).preemptQueryInExec sent running
            exact ⟨starts, Or.inl (canceled.trans preempted)⟩
          · simp only [state]
            exact ⟨startsNothing_nil, Or.inr ⟨queryId, query, rfl, block,
              fun notCanceled => absurd state notCanceled,
              cleanupQueryResources_eq_dropQuery block fresh⟩⟩

theorem Sound.handleWorkerDisconnection_cases (sound : Sound master) (socket : Nat) :
    StartsNothing (master.handleWorkerDisconnection socket).2 ∧
      ((master.handleWorkerDisconnection socket).1 = master ∨
        ((∀ queryId, master.current socket = some queryId →
            queryId ∉ master.runningList) ∧
          (master.handleWorkerDisconnection socket).1 =
            master.cleanupWorkerResources socket) ∨
        ∃ queryId, master.current socket = some queryId ∧
          (master.handleWorkerDisconnection socket).1 =
            (master.dropQuery queryId).cleanupWorkerResources socket) := by
  unfold handleWorkerDisconnection findWorkerBySocket
  split
  · exact ⟨startsNothing_nil, Or.inl rfl⟩
  · rename_i worker found
    have block : master.worker socket = some worker := by
      split at found
      · exact found
      · cases found
    have runsIff : ∀ queryId, master.current socket = some queryId →
        worker.currentQueryId = some queryId := by
      intro queryId runs
      obtain ⟨holder, holderBlock, names⟩ := current_eq_some_iff.mp runs
      obtain rfl : worker = holder := Option.some.inj (block.symm.trans holderBlock)
      exact names
    cases names : worker.currentQueryId with
    | none =>
        refine ⟨startsNothing_nil, Or.inr (Or.inl ⟨fun queryId runs => ?_, rfl⟩)⟩
        simp [names] at runsIff
        exact absurd runs (runsIff queryId)
    | some queryId =>
        have runs := current_eq_some_iff.mpr ⟨worker, block, names⟩
        simp only [abandonQuery]
        split
        · rename_i listed
          obtain ⟨query, queryBlock⟩ := sound.queries.exists_block listed
          have fresh := sound.queries.not_cleanedUp queryId query queryBlock
          simp only [finalizeQueryWithError, queryBlock]
          refine ⟨startsNothing_toQueryControl _ _, Or.inr (Or.inr ⟨queryId, runs, ?_⟩)⟩
          rw [cleanupQueryResources_eq_dropQuery (query_modifyQuery_self queryBlock) fresh,
            dropQuery_modifyQuery]
        · rename_i absent
          refine ⟨startsNothing_nil, Or.inr (Or.inl ⟨fun other otherRuns => ?_, rfl⟩)⟩
          obtain rfl : queryId = other := Option.some.inj (runs.symm.trans otherRuns)
          exact fun running => absent (sound.queries.running_listed running)

end Disconnections

section Silent

/-- The changes that neither take a report nor create or send a query. -/
inductive Silent (master : Master) : Master → Prop
  | quiet {after : Master} (quiet : Quiet master after) : Silent master after
  | connect (workerId socket : Nat) (fresh : socket ∉ master.workerList)
      (positive : 0 < socket) : Silent master (master.createWorker workerId socket)
  | drop (queryId : Nat) : Silent master (master.dropQuery queryId)
  | leave (socket : Nat) (done : ∀ queryId, master.current socket = some queryId →
      queryId ∉ master.runningList) : Silent master (master.cleanupWorkerResources socket)
  | abandon (socket queryId : Nat) (runs : master.current socket = some queryId) :
      Silent master ((master.dropQuery queryId).cleanupWorkerResources socket)

theorem Silent.refl (master : Master) : Silent master master :=
  .quiet (Quiet.refl master)

variable {after : Master}

theorem Sound.abandon (sound : Sound master) (runs : master.current socket = some queryId) :
    Sound ((master.dropQuery queryId).cleanupWorkerResources socket) := by
  refine (sound.dropQuery queryId).cleanupWorkerResources fun other otherRuns => ?_
  obtain rfl : queryId = other := Option.some.inj (runs.symm.trans otherRuns)
  rw [mem_runningList_dropQuery sound.queries]
  exact fun running => running.1 rfl

theorem Silent.sound (silent : Silent master after) (sound : Sound master) : Sound after := by
  cases silent with
  | quiet quiet => exact quiet.sound sound
  | connect workerId socket fresh positive => exact sound.createWorker fresh positive
  | drop queryId => exact sound.dropQuery queryId
  | leave socket done => exact sound.cleanupWorkerResources done
  | abandon socket queryId runs => exact sound.abandon runs

theorem current_cleanupWorkerResources (other : Nat) :
    (master.cleanupWorkerResources socket).current other =
      if other = socket then none else master.current other := by
  unfold current Master.cleanupWorkerResources
  split
  · rename_i same
    simp [same]
  · rename_i different
    simp [different]

theorem current_createWorker {workerId : Nat} (missing : master.worker socket = none)
    (other : Nat) : (master.createWorker workerId socket).current other =
      master.current other := by
  unfold current Master.createWorker
  by_cases same : other = socket
  · simp [same, missing]
  · simp [same]

theorem WorkerTables.worker_eq_none (tables : WorkerTables master)
    (absent : socket ∉ master.workerList) : master.worker socket = none := by
  by_contra present
  exact absent ((tables.block_iff socket).mp present)

theorem Silent.current_eq (silent : Silent master after) (sound : Sound master)
    (listed : socket ∈ after.workerList) : after.current socket = master.current socket := by
  cases silent with
  | quiet quiet => exact quiet.current socket
  | connect workerId fresh absent positive =>
      exact current_createWorker (sound.workers.worker_eq_none absent) socket
  | drop queryId => rfl
  | leave left done =>
      have stays := sound.workers.nodup.mem_erase_iff.mp listed
      rw [current_cleanupWorkerResources, if_neg stays.1]
  | abandon left queryId runs =>
      have stays := sound.workers.nodup.mem_erase_iff.mp listed
      rw [current_cleanupWorkerResources, if_neg stays.1]
      rfl

/-- A block that remains has its script and its program counter, and is ready only if
it was. -/
theorem Silent.block (silent : Silent master after) {new : QueryControlBlock}
    (held : after.query queryId = some new) : ∃ old, master.query queryId = some old ∧
      new.programCounter = old.programCounter ∧ new.queryFilePath = old.queryFilePath ∧
      (queryId ∈ after.readyQueue → queryId ∈ master.readyQueue) := by
  have dropped : ∀ {removed}, (master.dropQuery removed).query queryId = some new →
      master.query queryId = some new := by
    intro removed found
    by_cases same : queryId = removed
    · rw [same, query_dropQuery_self] at found
      cases found
    · exact (query_dropQuery_of_ne same).symm.trans found
  cases silent with
  | quiet quiet =>
      obtain ⟨old, block, _, _, _, counter, path⟩ := quiet.block held
      exact ⟨old, block, counter, path, quiet.readyQueue.mem_iff.mp⟩
  | connect workerId socket fresh positive => exact ⟨new, held, rfl, rfl, fun ready => ready⟩
  | drop removed => exact ⟨new, dropped held, rfl, rfl, List.mem_of_mem_erase⟩
  | leave socket done => exact ⟨new, held, rfl, rfl, fun ready => ready⟩
  | abandon socket removed runs => exact ⟨new, dropped held, rfl, rfl, List.mem_of_mem_erase⟩

theorem Silent.nextQueryId (silent : Silent master after) :
    after.nextQueryId = master.nextQueryId := by
  cases silent with
  | quiet quiet => exact quiet.nextQueryId
  | _ => rfl

end Silent

end Master

end MasterOfFiles
