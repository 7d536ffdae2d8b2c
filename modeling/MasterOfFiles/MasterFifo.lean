import MasterOfFiles.MasterRuns

/-!
# The handlers of the Master without preemption

Under FIFO no thread ages the queries or preempts them, so a query is asked back only after it
was canceled.  Then every handler creates a query at the end of the ready queue, starts the first
one, or at most takes queries away.
-/

namespace MasterOfFiles

namespace Master

variable {master middle after : Master} {config : MasterConfig} {socket queryId : Nat}

/-- The query was canceled, and may be gone since. -/
structure Canceled (master : Master) (queryId : Nat) : Prop where
  bounded : queryId < master.nextQueryId
  state : ∀ query, master.query queryId = some query → query.state = .canceled

/-- No query is added, moved ahead in the ready queue or made to run, and none that was canceled
is taken back. -/
structure Retains (master after : Master) : Prop where
  block : ∀ queryId new, after.query queryId = some new →
    ∃ old, master.query queryId = some old ∧ (old.state = .canceled → new.state = .canceled)
  readyQueue : after.readyQueue.Sublist master.readyQueue
  runningList : after.runningList.Sublist master.runningList
  nextQueryId : after.nextQueryId = master.nextQueryId
  current : ∀ socket queryId, after.current socket = some queryId →
    master.current socket = some queryId

/-- Every eviction that the messages ask for is that of a canceled query. -/
def RecallsCanceled (master : Master) (sent : List Outgoing) : Prop :=
  ∀ socket queryId, .toWorker socket (.preemptReq queryId) ∈ sent → Canceled master queryId

/-- What a handler does when no query comes back, with the queries that it creates. -/
inductive Turn (config : MasterConfig) (master : Master) :
    List Nat → Master × List Outgoing → Prop
  | retain (after : Master) (sent : List Outgoing) (retains : Retains master after)
      (nothing : StartsNothing sent) (recalls : RecallsCanceled after sent) :
      Turn config master [] (after, sent)
  | create (path : String) (priority socket now : Nat) :
      Turn config master [master.nextQueryId]
        (master.createQuery config path priority socket now, [])
  | start (socket queryId : Nat) (readyRest : List Nat) (worker : WorkerControlBlock)
      (query : QueryControlBlock) (ready : master.readyQueue = queryId :: readyRest)
      (holder : master.worker socket = some worker)
      (block : master.query queryId = some query) :
      Turn config master []
        (master.assignQuery socket queryId worker.workerId,
          [.toWorker socket (.startQuery queryId query.programCounter query.queryFilePath)])

section Retains

theorem Retains.refl (master : Master) : Retains master master where
  block _ new held := ⟨new, held, id⟩
  readyQueue := List.Sublist.refl _
  runningList := List.Sublist.refl _
  nextQueryId := rfl
  current _ _ runs := runs

theorem Retains.trans (first : Retains master middle) (second : Retains middle after) :
    Retains master after where
  block queryId new held := by
    obtain ⟨between, betweenHeld, later⟩ := second.block queryId new held
    obtain ⟨old, block, earlier⟩ := first.block queryId between betweenHeld
    exact ⟨old, block, fun canceled => later (earlier canceled)⟩
  readyQueue := second.readyQueue.trans first.readyQueue
  runningList := second.runningList.trans first.runningList
  nextQueryId := second.nextQueryId.trans first.nextQueryId
  current socket queryId runs := first.current socket queryId (second.current socket queryId runs)

theorem retains_dropQuery (master : Master) (queryId : Nat) :
    Retains master (master.dropQuery queryId) where
  block found new held := by
    by_cases same : found = queryId
    · rw [same, query_dropQuery_self] at held
      cases held
    · rw [query_dropQuery_of_ne same] at held
      exact ⟨new, held, id⟩
  readyQueue := List.erase_sublist
  runningList := List.erase_sublist
  nextQueryId := rfl
  current _ _ runs := runs

theorem retains_forgetQuery (master : Master) (socket : Nat) :
    Retains master (master.forgetQuery socket) where
  block _ new held := ⟨new, held, id⟩
  readyQueue := List.Sublist.refl _
  runningList := List.Sublist.refl _
  nextQueryId := rfl
  current found queryId runs := by
    rw [current_forgetQuery] at runs
    split at runs
    · cases runs
    · exact runs

theorem retains_releaseWorker (master : Master) (socket : Nat) :
    Retains master (master.releaseWorker socket) where
  block _ new held := ⟨new, held, id⟩
  readyQueue := List.Sublist.refl _
  runningList := List.Sublist.refl _
  nextQueryId := rfl
  current := (retains_forgetQuery master socket).current

theorem retains_eraseRunning (master : Master) (queryId : Nat) :
    Retains master { master with runningList := master.runningList.erase queryId } where
  block _ new held := ⟨new, held, id⟩
  readyQueue := List.Sublist.refl _
  runningList := List.erase_sublist
  nextQueryId := rfl
  current _ _ runs := runs

theorem retains_cleanupWorkerResources (master : Master) (socket : Nat) :
    Retains master (master.cleanupWorkerResources socket) where
  block _ new held := ⟨new, held, id⟩
  readyQueue := List.Sublist.refl _
  runningList := List.Sublist.refl _
  nextQueryId := rfl
  current found queryId runs := by
    rw [current_cleanupWorkerResources] at runs
    split at runs
    · cases runs
    · exact runs

theorem retains_createWorker (missing : master.worker socket = none) (workerId : Nat) :
    Retains master (master.createWorker workerId socket) where
  block _ new held := ⟨new, held, id⟩
  readyQueue := List.Sublist.refl _
  runningList := List.Sublist.refl _
  nextQueryId := rfl
  current found queryId runs := by rwa [current_createWorker missing] at runs

/-- Writing to a block in a way that does not take a canceled query back. -/
theorem retains_modifyQuery {change : QueryControlBlock → QueryControlBlock}
    (stays : ∀ query : QueryControlBlock, query.state = .canceled →
      (change query).state = .canceled) (master : Master) (queryId : Nat) :
    Retains master (master.modifyQuery queryId change) where
  block found new held := by
    rcases block_modifyQuery held with ⟨rfl, old, block, rfl⟩ | ⟨_, same⟩
    · exact ⟨old, block, stays old⟩
    · exact ⟨new, same, id⟩
  readyQueue := List.Sublist.refl _
  runningList := List.Sublist.refl _
  nextQueryId := rfl
  current _ _ runs := runs

theorem Canceled.retains (canceled : Canceled master queryId) (retains : Retains master after) :
    Canceled after queryId where
  bounded := by
    rw [retains.nextQueryId]
    exact canceled.bounded
  state query block := by
    obtain ⟨old, held, stays⟩ := retains.block queryId query block
    exact stays (canceled.state old held)

theorem Canceled.not_ready (canceled : Canceled master queryId) (tables : QueryTables master) :
    queryId ∉ master.readyQueue := by
  intro ready
  obtain ⟨query, block⟩ :=
    tables.exists_block ((tables.queued_iff queryId).mpr (Or.inl ready))
  have state := tables.ready_state queryId ready query block
  rw [canceled.state query block] at state
  cases state

theorem Canceled.createQuery (canceled : Canceled master queryId) (config : MasterConfig)
    (path : String) (priority client now : Nat) :
    Canceled (master.createQuery config path priority client now) queryId where
  bounded := by
    rw [Master.createQuery, enqueueReady_eq]
    exact Nat.lt_succ_of_lt canceled.bounded
  state query block := by
    rcases block_createQuery block with ⟨new, _⟩ | ⟨_, old⟩
    · exact absurd canceled.bounded (new ▸ Nat.lt_irrefl _)
    · exact canceled.state query old

theorem Canceled.assignQuery (canceled : Canceled master queryId) (tables : QueryTables master)
    {assigned : Nat} (ready : assigned ∈ master.readyQueue) (socket workerId : Nat) :
    Canceled (master.assignQuery socket assigned workerId) queryId where
  bounded := canceled.bounded
  state query block := by
    have different : queryId ≠ assigned := by
      rintro rfl
      exact canceled.not_ready tables ready
    rw [query_assignQuery_of_ne different] at block
    exact canceled.state query block

theorem Canceled.turn (canceled : Canceled master queryId) (tables : QueryTables master)
    {created : List Nat} {effect : Master × List Outgoing}
    (turn : Turn config master created effect) : Canceled effect.1 queryId := by
  cases turn with
  | retain after sent retains nothing recalls => exact canceled.retains retains
  | create path priority socket now => exact canceled.createQuery config path priority socket now
  | start socket started readyRest worker query ready holder block =>
      exact canceled.assignQuery tables (by simp [ready]) socket worker.workerId

end Retains

section Handlers

theorem Turn.of_retains {sent : List Outgoing} (retains : Retains master after)
    (quiet : ∀ socket message, .toWorker socket message ∉ sent) :
    Turn config master [] (after, sent) :=
  .retain after sent retains (fun socket _ _ _ => quiet socket _)
    fun socket _ asked => absurd asked (quiet socket _)

theorem Turn.of_silent (retains : Retains master after) :
    Turn config master [] (after, []) :=
  .of_retains retains fun _ _ => List.not_mem_nil

theorem retains_cleanupQueryResources (master : Master) (queryId : Nat) :
    Retains master (master.cleanupQueryResources queryId) := by
  unfold cleanupQueryResources
  split
  · exact Retains.refl master
  · split
    · exact Retains.refl master
    · exact retains_dropQuery master queryId

theorem retains_finalizeQueryWithError (master : Master) (queryId : Nat) (reason : String) :
    Retains master (master.finalizeQueryWithError queryId reason).1 := by
  unfold finalizeQueryWithError
  split
  · exact Retains.refl master
  · exact retains_modifyQuery (fun _ _ => rfl) master queryId

theorem quiet_finalizeQueryWithError (master : Master) (queryId : Nat) (reason : String)
    (socket : Nat) (message : WorkerMessage) :
    .toWorker socket message ∉ (master.finalizeQueryWithError queryId reason).2 := by
  unfold finalizeQueryWithError
  split
  · exact List.not_mem_nil
  · simp

theorem Turn.of_preemptQueryInExec (retains : Retains master middle)
    (canceled : Canceled middle queryId) (sent : Bool) :
    Turn config master [] (middle.preemptQueryInExec sent queryId) := by
  unfold Master.preemptQueryInExec
  split
  · exact .of_silent retains
  · rename_i query block
    split
    · exact .of_silent retains
    · split
      · exact .of_retains ((retains.trans (retains_finalizeQueryWithError middle queryId _)).trans
          (retains_cleanupQueryResources _ queryId)) (quiet_finalizeQueryWithError middle queryId _)
      · rename_i found _
        have flagged : ∀ pending, Retains middle (middle.modifyQuery queryId fun query =>
            { query with preemptionPending := pending }) := by
          intro pending
          refine retains_modifyQuery ?_ middle queryId
          exact fun _ state => state
        split
        · refine .retain _ _ (retains.trans (flagged true)) (startsNothing_preemptReq found queryId)
            ?_
          intro socket asked member
          obtain ⟨_, rfl⟩ : socket = found ∧ asked = queryId := by simpa using member
          exact canceled.retains (flagged true)
        · exact .of_silent (retains.trans (flagged false))

theorem QueryTables.turn_handleQueryControlDisconnection (tables : QueryTables master)
    (sent : Bool) (socket : Nat) :
    Turn config master [] (master.handleQueryControlDisconnection sent socket) := by
  unfold Master.handleQueryControlDisconnection
  split
  · exact .of_silent (Retains.refl master)
  · rename_i queryId found
    have cancel : Retains master (master.modifyQuery queryId fun query =>
        { query with state := .canceled }) := retains_modifyQuery (fun _ _ => rfl) master queryId
    split
    · exact .of_silent (Retains.refl master)
    · rename_i query block
      split
      · exact .of_silent (Retains.refl master)
      · split
        · exact .of_retains ((cancel.trans (retains_finalizeQueryWithError _ queryId _)).trans
            (retains_cleanupQueryResources _ queryId)) (quiet_finalizeQueryWithError _ queryId _)
        · refine .of_preemptQueryInExec cancel ⟨tables.id_lt queryId (tables.listed block), ?_⟩ sent
          intro canceled held
          rw [query_modifyQuery_self block] at held
          rw [← Option.some.inj held]
        · exact .of_silent (retains_cleanupQueryResources master queryId)
        · exact .of_silent (retains_cleanupQueryResources master queryId)
        · exact .of_retains ((retains_finalizeQueryWithError master queryId _).trans
            (retains_cleanupQueryResources _ queryId)) (quiet_finalizeQueryWithError _ queryId _)

theorem turn_handleWorkerDisconnection (master : Master) (socket : Nat) :
    Turn config master [] (master.handleWorkerDisconnection socket) := by
  unfold Master.handleWorkerDisconnection
  split
  · exact .of_silent (Retains.refl master)
  · rename_i worker _
    cases worker.currentQueryId with
    | none => exact .of_silent (retains_cleanupWorkerResources master socket)
    | some queryId =>
        unfold Master.abandonQuery
        dsimp only
        split
        · exact .of_retains (((retains_finalizeQueryWithError master queryId _).trans
            (retains_cleanupQueryResources _ queryId)).trans
              (retains_cleanupWorkerResources _ socket)) (quiet_finalizeQueryWithError _ queryId _)
        · exact .of_silent (retains_cleanupWorkerResources master socket)

theorem WorkerTables.turn_tryDispatch (workers : WorkerTables master) :
    Turn config master [] (master.tryDispatch config true) := by
  unfold Master.tryDispatch
  split
  · rename_i socket idleRest queryId readyRest idle ready
    have positive : 0 < socket :=
      workers.socket_pos socket ((workers.listed_iff socket).mpr (Or.inl (by simp [idle])))
    split
    · exact .of_silent (Retains.refl master)
    · split
      · rename_i worker query holder block
        simp only [positive, and_self, if_true]
        exact .start socket queryId readyRest worker query ready holder block
      · exact .of_silent (Retains.refl master)
  · exact .of_silent (Retains.refl master)

end Handlers

section Reports

theorem turn_manageWorkerEndQuery (master : Master) (socket queryId : Nat) :
    Turn config master [] (master.manageWorkerEndQuery socket queryId) := by
  unfold Master.manageWorkerEndQuery
  split
  · exact .of_silent (Retains.refl master)
  · split
    · exact .of_silent (retains_forgetQuery master socket)
    · split
      · exact .of_silent (retains_releaseWorker master socket)
      · rename_i query found fresh
        have block := (query_of_findRunning found).2
        have completed : ((({ master.modifyQuery queryId (fun query =>
              { query with state := .completed, assignedWorkerId := none }) with
            runningList := master.runningList.erase queryId } : Master).releaseWorker
              socket).cleanupQueryResources queryId) =
            (({ master with runningList := master.runningList.erase queryId } :
              Master).releaseWorker socket).dropQuery queryId := by
          simp [Master.cleanupQueryResources, Master.dropQuery, Master.releaseWorker,
            Master.forgetQuery, modifyWorker, modifyQuery, block, fresh]
        have retained := ((retains_eraseRunning master queryId).trans
          (retains_releaseWorker _ socket)).trans (retains_dropQuery _ queryId)
        rw [← completed] at retained
        refine .of_retains retained ?_
        intro found message
        split
        · simp
        · exact List.not_mem_nil

theorem Canceled.turn_manageWorkerEvictResponse (canceled : Canceled master queryId)
    (socket programCounter now : Nat) :
    Turn config master []
      (master.manageWorkerEvictResponse socket queryId programCounter now, []) := by
  unfold Master.manageWorkerEvictResponse
  split
  · exact .of_silent (Retains.refl master)
  · split
    · exact .of_silent (Retains.refl master)
    · rename_i query found
      rw [if_pos (canceled.state query (query_of_findRunning found).2)]
      have discarded : Retains master (master.discardEvicted queryId programCounter) := by
        refine (Retains.trans ?_ (retains_eraseRunning _ queryId)).trans
          (retains_cleanupQueryResources _ queryId)
        refine retains_modifyQuery ?_ master queryId
        exact fun _ state => state
      refine .of_silent (discarded.trans ?_)
      dsimp only
      split
      · exact retains_releaseWorker _ socket
      · exact retains_forgetQuery _ socket

theorem turn_handleErrorFromStorage (master : Master) (socket messageId : Nat) (reason : String) :
    Turn config master [] (master.handleErrorFromStorage socket messageId reason) := by
  unfold Master.handleErrorFromStorage
  split
  · exact .of_silent (Retains.refl master)
  · rename_i queryId _
    split
    · exact .of_silent (Retains.refl master)
    · exact .of_retains (((retains_releaseWorker master socket).trans
        (retains_finalizeQueryWithError _ queryId _)).trans
          (retains_cleanupQueryResources _ queryId)) (quiet_finalizeQueryWithError _ queryId _)

end Reports

end Master

end MasterOfFiles
