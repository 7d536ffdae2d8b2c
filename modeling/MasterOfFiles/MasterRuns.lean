import Mathlib.Data.List.Nodup
import MasterOfFiles.MasterEffects
import MasterOfFiles.TransitionSystem

/-!
# The queries of the Master along every run

Handlers in any order, with arbitrary query ids in the messages of the Workers and sends that may
fail.  A whole handler is one critical section here, or two where a `try_dispatch` follows, so a
run may also stop or change over between them.  Every handler makes one of a few changes to the
queries (`Change`), whatever the worker table says, and what holds of the queries along a run is
shown of these changes.
-/

namespace MasterOfFiles

/-- A message of the Master about a query.  READ_DATA is named with the query it is forwarded
for, the other messages carry theirs. -/
inductive Sending
  | report (outgoing : Outgoing)
  | readData (socket queryId : Nat)
deriving DecidableEq

namespace Sending

def queryId : Sending → Nat
  | report (.toWorker _ (.startQuery queryId _ _)) => queryId
  | report (.toWorker _ (.preemptReq queryId)) => queryId
  | report (.toQueryControl _ message) => message.queryId
  | readData _ queryId => queryId

/-- OP_END_QUERY and QC_OP_MASTER_FIN_DESCONEXION end a query. -/
def terminal : Sending → Bool
  | report (.toQueryControl _ _) => true
  | report (.toWorker _ _) | readData _ _ => false

/-- OP_WORKER_START_QUERY dispatches a query. -/
def starts : Sending → Bool
  | report (.toWorker _ (.startQuery _ _ _)) => true
  | report (.toWorker _ (.preemptReq _)) | report (.toQueryControl _ _) | readData _ _ => false

/-- OP_WORKER_PREEMPT_REQ asks for the eviction of a query. -/
def preempts : Sending → Bool
  | report (.toWorker _ (.preemptReq _)) => true
  | report (.toWorker _ (.startQuery _ _ _)) | report (.toQueryControl _ _) | readData _ _ =>
    false

end Sending

namespace Master

/-- The handlers of the Master; `sent` says whether the sends to Workers succeed.
`changeWorkers` is whatever happens to the worker table besides: nothing about the Workers is
assumed, such as that a socket is registered once. -/
inductive Handler
  | workerHandshake (workerId socket : Nat)
  | newQuery (path : String) (priority : UInt8) (socket now : Nat)
  | readMessage (queryId : Nat)
  | endQuery (socket queryId : Nat)
  | evictRes (socket queryId programCounter now : Nat)
  | storageError (socket queryId : Nat) (reason : String)
  | disconnectQueryControl (socket : Nat) (sent : Bool)
  | disconnectWorker (socket : Nat)
  | dispatch (sent : Bool)
  | aging (now : Nat)
  | checkPreemption (sent : Bool)
  | changeWorkers (worker : Nat → Option WorkerControlBlock)
      (workerList idleList busyList : List Nat)

/-- The messages of a handler, as messages about queries. -/
def reported (effect : Master × List Outgoing) : Master × List Sending :=
  (effect.1, effect.2.map Sending.report)

/-- `manage_read_message_from_worker` up to its `try_dispatch`. -/
def manageReadMessageFromWorker (master : Master) (queryId : Nat) : List Sending :=
  match master.findRunning queryId with
  | none => []
  | some query => [.readData query.socketFd queryId]

def perform (config : MasterConfig) (master : Master) : Handler → Master × List Sending
  | .workerHandshake workerId socket => (master.manageWorkerHandshake workerId socket, [])
  | .newQuery path priority socket now =>
    (master.createQuery config path priority.toNat socket now, [])
  | .readMessage queryId => (master, master.manageReadMessageFromWorker queryId)
  | .endQuery socket queryId => reported (master.manageWorkerEndQuery socket queryId)
  | .evictRes socket queryId programCounter now =>
    (master.manageWorkerEvictResponse socket queryId programCounter now, [])
  | .storageError socket queryId reason =>
    reported (master.handleErrorFromStorage socket queryId reason)
  | .disconnectQueryControl socket sent =>
    reported (master.handleQueryControlDisconnection sent socket)
  | .disconnectWorker socket => reported (master.handleWorkerDisconnection socket)
  | .dispatch sent => reported (master.tryDispatch config sent)
  | .aging now => (master.agingPass config now, [])
  | .checkPreemption sent => reported (master.checkPreemption sent)
  | .changeWorkers worker workerList idleList busyList =>
    ({ master with
        worker := worker, workerList := workerList, idleList := idleList, busyList := busyList },
      [])

def handle (config : MasterConfig) (master : Master) (handler : Handler) : Option Master :=
  some (master.perform config handler).1

/-- Every sequence of handlers, from `init_master` on. -/
def handlers (config : MasterConfig) : TransitionSystem Master Handler :=
  .ofNext (· = initMaster) (handle config)

/-- The queries of `query_list` whose Query Control a handler finds gone. -/
def closedBy (master : Master) : Handler → List Nat
  | .disconnectQueryControl socket _ =>
    master.queryList.filter fun queryId =>
      (master.query queryId).any fun query => decide (query.socketFd = socket)
  | _ => []

/-- Cancel a query, or not, and write its pending flag. -/
def mark (cancel pending : Bool) (query : QueryControlBlock) : QueryControlBlock :=
  { query with
    state := if cancel then .canceled else query.state
    preemptionPending := pending }

structure SameQueries (master after : Master) : Prop where
  query : after.query = master.query
  queryList : after.queryList = master.queryList
  readyQueue : after.readyQueue = master.readyQueue
  runningList : after.runningList = master.runningList
  nextQueryId : after.nextQueryId = master.nextQueryId

/-- What a handler can do to the queries, and what it then sends. -/
inductive Change (config : MasterConfig) (master : Master) (handler : Handler) :
    List Sending → Master → Prop
  | keep : Change config master handler [] master
  | forward (socket queryId : Nat) (running : queryId ∈ master.runningList) :
      Change config master handler [.readData socket queryId] master
  | create (path : String) (priority : UInt8) (socket now : Nat)
      (asked : handler = .newQuery path priority socket now) :
      Change config master handler [] (master.createQuery config path priority.toNat socket now)
  | finish (queryId : Nat) (query : QueryControlBlock) (message : QueryControlMessage)
      (block : master.query queryId = some query) (about : message.queryId = queryId) :
      Change config master handler [.report (.toQueryControl query.socketFd message)]
        (master.dropQuery queryId)
  | unreported (queryId : Nat) (query : QueryControlBlock)
      (block : master.query queryId = some query) (socket : query.socketFd = 0) :
      Change config master handler [] (master.dropQuery queryId)
  | discard (queryId : Nat) (query : QueryControlBlock)
      (block : master.query queryId = some query) (canceled : query.state = .canceled) :
      Change config master handler [] (master.dropQuery queryId)
  | requeue (queryId programCounter now : Nat) (running : queryId ∈ master.runningList) :
      Change config master handler [] (master.requeueEvicted queryId programCounter now)
  | age (now : Nat) : Change config master handler [] (master.agingPass config now)
  | cancel (queryId : Nat) (query : QueryControlBlock)
      (block : master.query queryId = some query) (running : query.state = .running)
      (gone : queryId ∈ master.closedBy handler) :
      Change config master handler []
        (master.modifyQuery queryId (mark true query.preemptionPending))
  | preempt (queryId socket : Nat) (query : QueryControlBlock) (canceled : Bool)
      (block : master.query queryId = some query) (running : queryId ∈ master.runningList)
      (gone : canceled = true → query.state = .running ∧ queryId ∈ master.closedBy handler)
      (first : query.preemptionPending = false) :
      Change config master handler [.report (.toWorker socket (.preemptReq queryId))]
        (master.modifyQuery queryId (mark canceled true))
  | assign (socket queryId workerId : Nat) (readyRest : List Nat) (query : QueryControlBlock)
      (ready : master.readyQueue = queryId :: readyRest)
      (block : master.query queryId = some query) :
      Change config master handler
        [.report (.toWorker socket
          (.startQuery queryId query.programCounter query.queryFilePath))]
        (master.assignQuery socket queryId workerId)
  | revert (socket queryId workerId : Nat) (readyRest : List Nat)
      (ready : master.readyQueue = queryId :: readyRest) :
      Change config master handler []
        ((master.assignQuery socket queryId workerId).revertAssignment config socket queryId)

/-- A handler's effect is such a change, besides what it does to the workers. -/
def Changes (config : MasterConfig) (master : Master) (handler : Handler)
    (effect : Master × List Sending) : Prop :=
  ∃ image, Change config master handler effect.2 image ∧ SameQueries image effect.1

variable {config : MasterConfig} {master middle after : Master} {handler : Handler}
  {socket queryId : Nat}

section Effects

@[simp]
theorem SameQueries.refl (master : Master) : SameQueries master master :=
  ⟨rfl, rfl, rfl, rfl, rfl⟩

theorem SameQueries.trans (first : SameQueries master middle)
    (second : SameQueries middle after) : SameQueries master after where
  query := second.query.trans first.query
  queryList := second.queryList.trans first.queryList
  readyQueue := second.readyQueue.trans first.readyQueue
  runningList := second.runningList.trans first.runningList
  nextQueryId := second.nextQueryId.trans first.nextQueryId

theorem SameQueries.queryTables (same : SameQueries master after)
    (tables : QueryTables master) : QueryTables after :=
  tables.of_eq same.query same.queryList same.readyQueue same.runningList same.nextQueryId

theorem SameQueries.releaseWorker (socket : Nat) :
    SameQueries master (master.releaseWorker socket) :=
  ⟨rfl, rfl, rfl, rfl, rfl⟩

theorem SameQueries.forgetQuery (socket : Nat) :
    SameQueries master (master.forgetQuery socket) :=
  ⟨rfl, rfl, rfl, rfl, rfl⟩

theorem SameQueries.dropQuery (same : SameQueries master after) (queryId : Nat) :
    SameQueries (master.dropQuery queryId) (after.dropQuery queryId) := by
  constructor
  · simp only [Master.dropQuery, same.query]
  · simp only [Master.dropQuery, same.queryList]
  · simp only [Master.dropQuery, same.readyQueue]
  · simp only [Master.dropQuery, same.runningList]
  · exact same.nextQueryId

theorem modifyQuery_eq_self {change : QueryControlBlock → QueryControlBlock}
    {query : QueryControlBlock} (block : master.query queryId = some query)
    (unchanged : change query = query) : master.modifyQuery queryId change = master := by
  have blocks : Function.update master.query queryId ((master.query queryId).map change) =
      master.query := by
    rw [block, Option.map_some, unchanged, ← block]
    exact Function.update_eq_self queryId master.query
  rw [modifyQuery, blocks]

theorem modifyQuery_modifyQuery (first second : QueryControlBlock → QueryControlBlock) :
    (master.modifyQuery queryId first).modifyQuery queryId second =
      master.modifyQuery queryId (second ∘ first) := by
  simp [modifyQuery]

theorem modifyQuery_congr {first second : QueryControlBlock → QueryControlBlock}
    {query : QueryControlBlock} (block : master.query queryId = some query)
    (agree : first query = second query) :
    master.modifyQuery queryId first = master.modifyQuery queryId second := by
  simp [modifyQuery, block, agree]

theorem block_modifyQuery {change : QueryControlBlock → QueryControlBlock} {other : Nat}
    {new : QueryControlBlock} (held : (master.modifyQuery queryId change).query other = some new) :
    (other = queryId ∧ ∃ old, master.query queryId = some old ∧ new = change old) ∨
      (other ≠ queryId ∧ master.query other = some new) := by
  by_cases same : other = queryId
  · left
    subst same
    simp only [modifyQuery, Function.update_self, Option.map_eq_some_iff] at held
    obtain ⟨old, block, changed⟩ := held
    exact ⟨rfl, old, block, changed.symm⟩
  · right
    simp only [modifyQuery, Function.update_of_ne same] at held
    exact ⟨same, held⟩

theorem query_modifyQuery_eq_none_iff {change : QueryControlBlock → QueryControlBlock}
    {other : Nat} :
    (master.modifyQuery queryId change).query other = none ↔ master.query other = none := by
  by_cases same : other = queryId
  · simp [same, modifyQuery]
  · simp only [modifyQuery, Function.update_of_ne same]

theorem changes_keep (same : SameQueries master after) :
    Changes config master handler (after, []) :=
  ⟨master, Change.keep, same⟩

/-- `finalize_query_with_error` with the `cleanup_query_resources` that follows it, perhaps after
the query was written to and its worker freed. -/
theorem changes_finalize {query : QueryControlBlock}
    {change : QueryControlBlock → QueryControlBlock} (tables : QueryTables master)
    (block : master.query queryId = some query)
    (keeps : (change query).socketFd = query.socketFd ∧
      (change query).cleanedUp = query.cleanedUp)
    (same : SameQueries (master.modifyQuery queryId change) after) (reason : String) :
    Changes config master handler
      (reported (((after.finalizeQueryWithError queryId reason).1).cleanupQueryResources queryId,
        (after.finalizeQueryWithError queryId reason).2)) := by
  have held : after.query queryId = some (change query) := by
    rw [same.query]
    exact query_modifyQuery_self block
  have fresh : (change query).cleanedUp = false := by
    rw [keeps.2]
    exact tables.not_cleanedUp queryId query block
  have finalized : (after.modifyQuery queryId fun query =>
      { query with state := .canceled }).query queryId =
        some { change query with state := .canceled } := query_modifyQuery_self held
  refine ⟨master.dropQuery queryId, ?_, ?_⟩
  · simp only [reported, Master.finalizeQueryWithError, held, keeps.1, List.map_cons, List.map_nil]
    exact Change.finish queryId query (.finDesconexion queryId reason) block rfl
  · simp only [reported, Master.finalizeQueryWithError, held]
    rw [cleanupQueryResources_eq_dropQuery finalized fresh, dropQuery_modifyQuery,
      ← dropQuery_modifyQuery change]
    exact same.dropQuery queryId

theorem Changes.of_same {sendings : List Sending}
    (changes : Changes config master handler (middle, sendings))
    (same : SameQueries middle after) : Changes config master handler (after, sendings) := by
  obtain ⟨image, change, imageSame⟩ := changes
  exact ⟨image, change, imageSame.trans same⟩

theorem changes_mark {query : QueryControlBlock} (block : master.query queryId = some query)
    (canceled : Bool)
    (gone : canceled = true → query.state = .running ∧ queryId ∈ master.closedBy handler) :
    Changes config master handler
      (master.modifyQuery queryId (mark canceled query.preemptionPending), []) := by
  cases canceled with
  | true =>
      obtain ⟨running, isClosed⟩ := gone rfl
      exact ⟨_, Change.cancel queryId query block running isClosed, SameQueries.refl _⟩
  | false =>
      rw [modifyQuery_eq_self block rfl]
      exact changes_keep (SameQueries.refl master)

/-- `preempt_query_in_exec` on a running query that may just have been canceled. -/
theorem changes_preemptQueryInExec {query : QueryControlBlock} (tables : QueryTables master)
    (block : master.query queryId = some query) (running : queryId ∈ master.runningList)
    (canceled : Bool)
    (gone : canceled = true → query.state = .running ∧ queryId ∈ master.closedBy handler)
    (sent : Bool) :
    Changes config master handler
      (reported ((master.modifyQuery queryId
        (mark canceled query.preemptionPending)).preemptQueryInExec sent queryId)) := by
  have held : (master.modifyQuery queryId (mark canceled query.preemptionPending)).query queryId =
      some (mark canceled query.preemptionPending query) := query_modifyQuery_self block
  have marked : Changes config master handler
      (master.modifyQuery queryId (mark canceled query.preemptionPending), []) :=
    changes_mark block canceled gone
  unfold Master.preemptQueryInExec
  rw [held]
  dsimp only
  split
  · exact marked
  · rename_i pending
    have notPending : query.preemptionPending = false := by simpa [mark] using pending
    split
    · exact changes_finalize tables block ⟨rfl, rfl⟩ (SameQueries.refl _) _
    · rename_i found _
      have rewritten : ∀ flag, (master.modifyQuery queryId
          (mark canceled query.preemptionPending)).modifyQuery queryId
            (fun query => { query with preemptionPending := flag }) =
          master.modifyQuery queryId (mark canceled flag) := by
        intro flag
        rw [modifyQuery_modifyQuery]
        rfl
      simp only [rewritten]
      split
      · exact ⟨_, Change.preempt queryId found query canceled block running gone notPending,
          SameQueries.refl _⟩
      · rw [notPending] at marked
        exact marked

theorem changes_checkPreemption (tables : QueryTables master) (sent : Bool) :
    Changes config master handler (reported (master.checkPreemption sent)) := by
  unfold Master.checkPreemption
  split
  · exact changes_keep (SameQueries.refl master)
  · split
    · rename_i worst _ worstEq
      split
      · exact changes_keep (SameQueries.refl master)
      · have running := worstRunning_mem worstEq
        obtain ⟨query, block⟩ := tables.exists_block (tables.running_listed running)
        have preempted : Changes config master handler (reported ((master.modifyQuery worst
            (mark false query.preemptionPending)).preemptQueryInExec sent worst)) :=
          changes_preemptQueryInExec tables block running false (by simp) sent
        rwa [modifyQuery_eq_self block rfl] at preempted
    · exact changes_keep (SameQueries.refl master)

theorem QueryTables.findRunning_eq (tables : QueryTables master) {query : QueryControlBlock}
    (found : master.findRunning queryId = some query) :
    queryId ∈ master.runningList ∧ master.query queryId = some query ∧
      query.cleanedUp = false := by
  obtain ⟨running, block⟩ := query_of_findRunning found
  exact ⟨running, block, tables.not_cleanedUp queryId query block⟩

/-- Dropping a query that was taken off `running_list` before, and written to. -/
theorem SameQueries.dropErased (tables : QueryTables master) (queryId : Nat)
    (change : QueryControlBlock → QueryControlBlock)
    (same : SameQueries
      { master.modifyQuery queryId change with runningList := master.runningList.erase queryId }
      after) : SameQueries (master.dropQuery queryId) (after.dropQuery queryId) := by
  constructor
  · simp [Master.dropQuery, same.query, modifyQuery]
  · simp [Master.dropQuery, same.queryList, modifyQuery]
  · simp [Master.dropQuery, same.readyQueue, modifyQuery]
  · simp [Master.dropQuery, same.runningList,
      List.erase_of_not_mem (tables.not_mem_erase_running queryId)]
  · exact same.nextQueryId

theorem SameQueries.discardEvicted {query : QueryControlBlock} (tables : QueryTables master)
    (block : master.query queryId = some query) (programCounter : Nat) :
    SameQueries (master.dropQuery queryId) (master.discardEvicted queryId programCounter) := by
  have fresh := tables.not_cleanedUp queryId query block
  have discarded : master.discardEvicted queryId programCounter = Master.dropQuery _ queryId :=
    cleanupQueryResources_eq_dropQuery (query_modifyQuery_self block) fresh
  rw [discarded]
  exact SameQueries.dropErased tables queryId _ (SameQueries.refl _)

theorem changes_manageWorkerEndQuery (tables : QueryTables master) (socket queryId : Nat) :
    Changes config master handler (reported (master.manageWorkerEndQuery socket queryId)) := by
  unfold Master.manageWorkerEndQuery
  split
  · exact changes_keep (SameQueries.refl master)
  · split
    · exact changes_keep (SameQueries.forgetQuery socket)
    · rename_i query found
      obtain ⟨running, block, fresh⟩ := tables.findRunning_eq found
      rw [fresh, if_neg Bool.false_ne_true]
      have completed : SameQueries
          { master.modifyQuery queryId
              (fun query => { query with state := .completed, assignedWorkerId := none }) with
            runningList := master.runningList.erase queryId }
          (({ master.modifyQuery queryId
              (fun query => { query with state := .completed, assignedWorkerId := none }) with
            runningList := master.runningList.erase queryId } : Master).releaseWorker socket) :=
        SameQueries.releaseWorker socket
      have dropped := SameQueries.dropErased tables queryId _ completed
      have held := (congrFun completed.query queryId).trans (query_modifyQuery_self block)
      rw [← cleanupQueryResources_eq_dropQuery held fresh] at dropped
      refine ⟨master.dropQuery queryId, ?_, dropped⟩
      by_cases positive : 0 < query.socketFd
      · simp only [reported, if_pos positive, List.map_cons, List.map_nil]
        exact Change.finish queryId query (.endQuery queryId) block rfl
      · simp only [reported, if_neg positive, List.map_nil]
        exact Change.unreported queryId query block (by omega)

theorem changes_manageWorkerEvictResponse (tables : QueryTables master)
    (socket queryId programCounter now : Nat) :
    Changes config master handler
      (master.manageWorkerEvictResponse socket queryId programCounter now, []) := by
  unfold Master.manageWorkerEvictResponse
  split
  · exact changes_keep (SameQueries.refl master)
  · split
    · exact changes_keep (SameQueries.refl master)
    · rename_i query found
      obtain ⟨running, block, fresh⟩ := tables.findRunning_eq found
      have moved : Changes config master handler
          (if query.state = .canceled then master.discardEvicted queryId programCounter
            else master.requeueEvicted queryId programCounter now, []) := by
        split
        · rename_i canceled
          refine ⟨master.dropQuery queryId, Change.discard queryId query block canceled, ?_⟩
          exact SameQueries.discardEvicted tables block programCounter
        · exact ⟨_, Change.requeue queryId programCounter now running, SameQueries.refl _⟩
      have freed : ∀ requeued : Master, SameQueries requeued
          (if socket ∈ requeued.busyList then requeued.releaseWorker socket
            else requeued.forgetQuery socket) := by
        intro requeued
        split
        · exact SameQueries.releaseWorker socket
        · exact SameQueries.forgetQuery socket
      exact moved.of_same (freed _)

theorem changes_handleErrorFromStorage (tables : QueryTables master) (socket queryId : Nat)
    (reason : String) :
    Changes config master handler
      (reported (master.handleErrorFromStorage socket queryId reason)) := by
  unfold Master.handleErrorFromStorage
  split
  · exact changes_keep (SameQueries.refl master)
  · rename_i currentId _
    split
    · exact changes_keep (SameQueries.refl master)
    · rename_i query found
      obtain ⟨_, block, _⟩ := tables.findRunning_eq found
      have same : SameQueries (master.modifyQuery currentId id) (master.releaseWorker socket) := by
        rw [modifyQuery_eq_self block rfl]
        exact SameQueries.releaseWorker socket
      exact changes_finalize tables block ⟨rfl, rfl⟩ same reason

theorem changes_handleWorkerDisconnection (tables : QueryTables master) (socket : Nat) :
    Changes config master handler (reported (master.handleWorkerDisconnection socket)) := by
  have cleaned : ∀ abandoned : Master,
      SameQueries abandoned (abandoned.cleanupWorkerResources socket) :=
    fun _ => ⟨rfl, rfl, rfl, rfl, rfl⟩
  unfold Master.handleWorkerDisconnection
  split
  · exact changes_keep (SameQueries.refl master)
  · rename_i worker _
    cases worker.currentQueryId with
    | none => exact changes_keep (cleaned master)
    | some queryId =>
        unfold Master.abandonQuery
        dsimp only
        split
        · rename_i listed
          obtain ⟨query, block⟩ := tables.exists_block listed
          have same : SameQueries (master.modifyQuery queryId id) master := by
            rw [modifyQuery_eq_self block rfl]
            exact SameQueries.refl master
          have finalized : Changes config master handler _ := changes_finalize tables block
            ⟨rfl, rfl⟩ same "Se desconectó worker mientras realizaba la query"
          exact finalized.of_same (cleaned _)
        · exact changes_keep (cleaned master)

theorem changes_handleQueryControlDisconnection (tables : QueryTables master) (socket : Nat)
    (sent : Bool) :
    Changes config master (.disconnectQueryControl socket sent)
      (reported (master.handleQueryControlDisconnection sent socket)) := by
  unfold Master.handleQueryControlDisconnection
  split
  · exact changes_keep (SameQueries.refl master)
  · rename_i queryId found
    have gone : queryId ∈ master.closedBy (.disconnectQueryControl socket sent) := by
      unfold findQueryBySocket at found
      have matched := List.find?_some found
      exact List.mem_filter.mpr ⟨List.mem_of_find?_eq_some found, matched⟩
    split
    · exact changes_keep (SameQueries.refl master)
    · rename_i query block
      rw [tables.not_cleanedUp queryId query block, if_neg Bool.false_ne_true]
      rcases tables.state_cases block with ⟨-, ready⟩ | ⟨running, state | canceled⟩
      · rw [ready]
        exact changes_finalize tables block ⟨rfl, rfl⟩ (SameQueries.refl _) _
      · rw [state]
        have preempted : Changes config master _ _ :=
          changes_preemptQueryInExec tables block running true (fun _ => ⟨state, gone⟩) sent
        have canceled : master.modifyQuery queryId (mark true query.preemptionPending) =
            master.modifyQuery queryId fun query => { query with state := .canceled } :=
          modifyQuery_congr block rfl
        rwa [canceled] at preempted
      · rw [canceled]
        have fresh := tables.not_cleanedUp queryId query block
        rw [cleanupQueryResources_eq_dropQuery block fresh]
        exact ⟨_, Change.discard queryId query block canceled, SameQueries.refl _⟩

theorem changes_tryDispatch (sent : Bool) :
    Changes config master handler (reported (master.tryDispatch config sent)) := by
  unfold Master.tryDispatch
  split
  · rename_i socket idleRest queryId readyRest _ ready
    split
    · exact changes_keep (SameQueries.refl master)
    · split
      · rename_i worker query _ block
        split
        · exact ⟨_, Change.assign socket queryId worker.workerId readyRest query ready block,
            SameQueries.refl _⟩
        · exact ⟨_, Change.revert socket queryId worker.workerId readyRest ready,
            SameQueries.refl _⟩
      · exact changes_keep (SameQueries.refl master)
  · exact changes_keep (SameQueries.refl master)

theorem changes_perform (tables : QueryTables master) (handler : Handler) :
    Changes config master handler (master.perform config handler) := by
  cases handler with
  | workerHandshake workerId socket =>
      change Changes config master _ (master.manageWorkerHandshake workerId socket, [])
      unfold manageWorkerHandshake
      split
      · exact changes_keep (SameQueries.refl master)
      · exact changes_keep ⟨rfl, rfl, rfl, rfl, rfl⟩
  | newQuery path priority socket now =>
      exact ⟨_, Change.create path priority socket now rfl, SameQueries.refl _⟩
  | readMessage queryId =>
      change Changes config master _ (master, master.manageReadMessageFromWorker queryId)
      unfold manageReadMessageFromWorker
      split
      · exact changes_keep (SameQueries.refl master)
      · rename_i query found
        exact ⟨master, Change.forward query.socketFd queryId (query_of_findRunning found).1,
          SameQueries.refl _⟩
  | endQuery socket queryId => exact changes_manageWorkerEndQuery tables socket queryId
  | evictRes socket queryId programCounter now =>
      exact changes_manageWorkerEvictResponse tables socket queryId programCounter now
  | storageError socket queryId reason =>
      exact changes_handleErrorFromStorage tables socket queryId reason
  | disconnectQueryControl socket sent =>
      exact changes_handleQueryControlDisconnection tables socket sent
  | disconnectWorker socket => exact changes_handleWorkerDisconnection tables socket
  | dispatch sent => exact changes_tryDispatch sent
  | aging now => exact ⟨_, Change.age now, SameQueries.refl _⟩
  | checkPreemption sent => exact changes_checkPreemption tables sent
  | changeWorkers => exact changes_keep ⟨rfl, rfl, rfl, rfl, rfl⟩

end Effects

section Lists

variable {sendings : List Sending}

/-- Every query of `query_list` stands in one queue, once, in a state that fits the queue. -/
structure EachQueuedOnce (master : Master) : Prop where
  nodup : master.queryList.Nodup
  queued : ∀ queryId ∈ master.queryList, ∃ query, master.query queryId = some query ∧
    ((master.readyQueue.count queryId = 1 ∧ queryId ∉ master.runningList ∧
        query.state = .ready) ∨
      (master.runningList.count queryId = 1 ∧ queryId ∉ master.readyQueue ∧
        (query.state = .running ∨ query.state = .canceled)))
  listed : ∀ queryId ∈ master.readyQueue ++ master.runningList, queryId ∈ master.queryList

theorem QueryTables.eachQueuedOnce (tables : QueryTables master) : EachQueuedOnce master where
  nodup := tables.nodup
  queued := by
    intro queryId listed
    obtain ⟨query, block⟩ := tables.exists_block listed
    refine ⟨query, block, ?_⟩
    rcases tables.state_cases block with ⟨ready, state⟩ | ⟨running, state⟩
    · left
      exact ⟨List.count_eq_one_of_mem tables.ready_nodup ready, tables.not_running ready, state⟩
    · right
      refine ⟨List.count_eq_one_of_mem tables.running_nodup running, ?_, state⟩
      exact fun ready => tables.not_running ready running
  listed := by
    intro queryId queued
    exact (tables.queued_iff queryId).mpr (List.mem_append.mp queued)

theorem queryTables_initMaster : QueryTables initMaster where
  nodup := List.nodup_nil
  block_iff := by simp [initMaster]
  queues_nodup := List.nodup_nil
  queued_iff := by simp [initMaster]
  id_lt := by simp [initMaster]
  not_cleanedUp := by simp [initMaster]
  ready_state := by simp [initMaster]
  running_state := by simp [initMaster]

theorem query_revertAssignment (config : MasterConfig) {query : QueryControlBlock}
    (block : master.query queryId = some query) (socket workerId : Nat) :
    ((master.assignQuery socket queryId workerId).revertAssignment config socket queryId).query =
      (master.modifyQuery queryId fun query =>
        { query with
          state := .ready, assignedWorkerId := none, preemptionPending := false }).query := by
  rw [Master.revertAssignment, enqueueReady_eq]
  funext other
  by_cases same : other = queryId
  · rw [same, query_modifyQuery_self block]
    exact query_modifyQuery_self (query_assignQuery_self block)
  · exact (Function.update_of_ne same _ _).trans
      ((query_assignQuery_of_ne same).trans (Function.update_of_ne same _ _).symm)

theorem lists_revertAssignment (config : MasterConfig) {readyRest : List Nat}
    (ready : master.readyQueue = queryId :: readyRest) (absent : queryId ∉ master.runningList)
    (socket workerId : Nat) :
    ((master.assignQuery socket queryId workerId).revertAssignment config socket
        queryId).readyQueue.Perm master.readyQueue ∧
      ((master.assignQuery socket queryId workerId).revertAssignment config socket
        queryId).runningList = master.runningList := by
  rw [Master.revertAssignment]
  constructor
  · apply (enqueueReady_readyQueue config).trans
    change (queryId :: master.readyQueue.tail).Perm master.readyQueue
    rw [ready, List.tail_cons]
  · rw [enqueueReady_eq]
    change (master.runningList ++ [queryId]).erase queryId = master.runningList
    rw [List.erase_append_right _ absent]
    simp

theorem QueryTables.revertAssignment (tables : QueryTables master) {workerId : Nat}
    {readyRest : List Nat} (ready : master.readyQueue = queryId :: readyRest) :
    QueryTables
      ((master.assignQuery socket queryId workerId).revertAssignment config socket queryId) := by
  have isReady : queryId ∈ master.readyQueue := by simp [ready]
  obtain ⟨query, block⟩ :=
    tables.exists_block ((tables.queued_iff queryId).mpr (Or.inl isReady))
  have state := tables.ready_state queryId isReady query block
  obtain ⟨readyPerm, runningEq⟩ :=
    lists_revertAssignment config ready (tables.not_running isReady) socket workerId
  have blocks := query_revertAssignment config block socket workerId
  apply tables.of_blocks _ _ _ readyPerm runningEq
  · rw [Master.revertAssignment, enqueueReady_eq]
    rfl
  · intro other new held
    rw [blocks] at held
    rcases block_modifyQuery held with ⟨rfl, old, oldBlock, rfl⟩ | ⟨_, same⟩
    · obtain rfl : query = old := Option.some.inj (block.symm.trans oldBlock)
      exact ⟨query, block, rfl, Or.inl state.symm⟩
    · exact ⟨new, same, rfl, Or.inl rfl⟩
  · intro other
    rw [blocks]
    exact query_modifyQuery_eq_none_iff
  · rw [Master.revertAssignment, enqueueReady_eq]
    rfl

theorem Change.queryTables (change : Change config master handler sendings after)
    (tables : QueryTables master) : QueryTables after := by
  cases change with
  | keep => exact tables
  | forward => exact tables
  | create path priority socket now => exact tables.createQuery config path _ socket now
  | finish queryId => exact tables.dropQuery queryId
  | unreported queryId => exact tables.dropQuery queryId
  | discard queryId => exact tables.dropQuery queryId
  | requeue queryId programCounter now running => exact tables.requeueEvicted running
  | age now => exact (quiet_agingPass config now).queryTables tables
  | cancel queryId query block running gone =>
      apply (Quiet.modifyQuery _).queryTables tables
      intro other held
      obtain rfl : query = other := Option.some.inj (block.symm.trans held)
      exact ⟨rfl, Or.inr ⟨running, rfl⟩, rfl, rfl, rfl⟩
  | preempt queryId socket query canceled block running gone first =>
      apply (Quiet.modifyQuery _).queryTables tables
      intro other held
      obtain rfl : query = other := Option.some.inj (block.symm.trans held)
      cases canceled with
      | true => exact ⟨rfl, Or.inr ⟨(gone rfl).1, rfl⟩, rfl, rfl, rfl⟩
      | false => exact ⟨rfl, Or.inl rfl, rfl, rfl, rfl⟩
  | assign socket queryId workerId readyRest query ready block =>
      exact tables.assignQuery ready socket workerId
  | revert socket queryId workerId readyRest ready => exact tables.revertAssignment ready

/-- The invariant rule for properties of the queries: it holds of the empty tables, the changes
keep it, and it does not depend on the workers. -/
theorem reachable_invariant {property : Master → Prop} (starts : property initMaster)
    (kept : ∀ {master after : Master} {handler : Handler} {sendings : List Sending},
      QueryTables master → property master → Change config master handler sendings after →
        property after)
    (queries : ∀ {master after : Master}, SameQueries master after → property master →
      property after)
    (reachable : (handlers config).Reachable master) : QueryTables master ∧ property master := by
  apply reachable.invariant
  · rintro state rfl
    exact ⟨queryTables_initMaster, starts⟩
  · intro before handler after holds step
    obtain rfl : (before.perform config handler).1 = after := Option.some.inj step
    obtain ⟨image, change, same⟩ : Changes config before _ _ := changes_perform holds.1 handler
    exact ⟨same.queryTables (change.queryTables holds.1),
      queries same (kept holds.1 holds.2 change)⟩

theorem queryTables_of_reachable (reachable : (handlers config).Reachable master) :
    QueryTables master := by
  have both : QueryTables master ∧ True :=
    reachable_invariant trivial (fun _ _ _ => trivial) (fun _ _ => trivial) reachable
  exact both.1

/-- No order of handlers loses a query or queues it twice. -/
theorem eachQueuedOnce_of_reachable (config : MasterConfig) {master : Master}
    (reachable : (handlers config).Reachable master) : EachQueuedOnce master :=
  (queryTables_of_reachable reachable).eachQueuedOnce

/-- A worker that is not registered answers for a query that runs elsewhere, and another one ends
a query that does not exist. -/
def confusedReports : List Handler :=
  [.workerHandshake 1 5, .newQuery "Q0" 3 6 1, .dispatch false, .dispatch true,
    .newQuery "Q1" 1 7 2, .evictRes 9 0 1 3, .endQuery 5 8, .disconnectQueryControl 6 false]

theorem eachQueuedOnce_confusedReports :
    ∃ master, (handlers (.mergeSorting .priority 10)).Run initMaster confusedReports master ∧
      master.readyQueue = [1] ∧ master.runningList = [0] ∧ EachQueuedOnce master := by
  have summary : (TransitionSystem.runNext (handle (.mergeSorting .priority 10)) initMaster
      confusedReports).map (fun master => (master.readyQueue, master.runningList)) =
        some ([1], [0]) := by
    decide +kernel
  obtain ⟨master, ends, facts⟩ := Option.map_eq_some_iff.mp summary
  simp only [Prod.mk.injEq] at facts
  have run : (handlers (.mergeSorting .priority 10)).Run initMaster confusedReports master :=
    TransitionSystem.run_of_runNext ends
  exact ⟨master, run, facts.1, facts.2,
    eachQueuedOnce_of_reachable (.mergeSorting .priority 10) ⟨initMaster, _, rfl, run⟩⟩

end Lists

end Master

end MasterOfFiles
