import Mathlib.Algebra.Group.Nat.Defs
import Mathlib.Data.List.Basic
import Mathlib.Data.List.Perm.Basic
import Mathlib.Logic.Function.Basic

/-!
# The tables and handlers of the Master

Query and worker control blocks, the lists that hold them and the critical
sections of the handlers that move them.  A control block is known by its query
id or by the socket of its worker, and a list holds these names in place of
pointers.  Every handler is the part it runs with the table mutexes held; the
`try_dispatch` that most of them end with takes the mutexes again and is a
handler of its own.  A handler returns the messages it sends together with the
new tables.  Counters that are only logged, and the lists of completed,
canceled and disconnected elements that nothing reads, are left out.
-/

namespace MasterOfFiles

/-- `t_query_state`. -/
inductive QueryState
  | new
  | ready
  | running
  | completed
  | canceled
deriving DecidableEq

/-- `t_worker_state`. -/
inductive WorkerStatus
  | disconnected
  | idle
  | busy
deriving DecidableEq

/-- `t_query_control_block`, without the id that names it; `none` stands for the
worker id -1. -/
structure QueryControlBlock where
  socketFd : Nat
  queryFilePath : String
  priority : Nat
  initialPriority : Nat
  readyTimestamp : Nat
  assignedWorkerId : Option Nat
  programCounter : Nat
  preemptionPending : Bool
  cleanedUp : Bool
  state : QueryState
deriving DecidableEq

/-- `t_worker_control_block`, without the socket that names it; `none` stands for
the query id -1. -/
structure WorkerControlBlock where
  workerId : Nat
  currentQueryId : Option Nat
  state : WorkerStatus
deriving DecidableEq

inductive SchedulingAlgorithm
  | fifo
  | priority
deriving DecidableEq

/-- The configuration of the Master and the `list_sort` of the commons, which
sorts by a strict comparison. -/
structure MasterConfig where
  schedulingAlgorithm : SchedulingAlgorithm
  agingInterval : Nat
  listSort : (Nat → Nat → Bool) → List Nat → List Nat
  listSort_perm : ∀ compare elements, (listSort compare elements).Perm elements
  listSort_sorted : ∀ (priority : Nat → Nat) elements,
    (listSort (fun first second => decide (priority first < priority second))
      elements).Pairwise fun first second => priority first ≤ priority second

/-- A configuration whose `list_sort` is a stable merge sort. -/
def MasterConfig.mergeSorting (algorithm : SchedulingAlgorithm) (agingInterval : Nat) :
    MasterConfig where
  schedulingAlgorithm := algorithm
  agingInterval := agingInterval
  listSort compare elements := elements.mergeSort fun first second => !compare second first
  listSort_perm _ elements := List.mergeSort_perm elements _
  listSort_sorted priority elements := by
    refine (List.pairwise_mergeSort ?_ ?_ elements).imp ?_
    · intro first second third firstLe secondLe
      simp only [Bool.not_eq_true', decide_eq_false_iff_not, Nat.not_lt] at *
      omega
    · intro first second
      simp only [Bool.or_eq_true, Bool.not_eq_true', decide_eq_false_iff_not, Nat.not_lt]
      omega
    · intro first second
      simp

inductive WorkerMessage
  | startQuery (queryId programCounter : Nat) (path : String)
  | preemptReq (queryId : Nat)
deriving DecidableEq

/-- What the Master sends to a Query Control at the end of its query. -/
inductive QueryControlMessage
  | endQuery (queryId : Nat)
  | finDesconexion (queryId : Nat) (reason : String)
deriving DecidableEq

def QueryControlMessage.queryId : QueryControlMessage → Nat
  | .endQuery queryId => queryId
  | .finDesconexion queryId _ => queryId

inductive Outgoing
  | toWorker (socket : Nat) (message : WorkerMessage)
  | toQueryControl (socket : Nat) (message : QueryControlMessage)
deriving DecidableEq

/-- What a Worker sends to the Master about the queries it runs. -/
inductive WorkerReport
  | endQuery (queryId : Nat)
  | evictRes (queryId programCounter : Nat)
  | storageError (queryId : Nat) (reason : String)
deriving DecidableEq

/-- `t_master`: the two tables. -/
structure Master where
  query : Nat → Option QueryControlBlock
  queryList : List Nat
  readyQueue : List Nat
  runningList : List Nat
  nextQueryId : Nat
  worker : Nat → Option WorkerControlBlock
  workerList : List Nat
  idleList : List Nat
  busyList : List Nat

def initMaster : Master where
  query _ := none
  queryList := []
  readyQueue := []
  runningList := []
  nextQueryId := 0
  worker _ := none
  workerList := []
  idleList := []
  busyList := []

/-- An entry of a table that was written to is the new one or an old one. -/
theorem update_eq_some_cases {Key Value : Type} [DecidableEq Key] {table : Key → Option Value}
    {key other : Key} {entry found : Value}
    (held : Function.update table key (some entry) other = some found) :
    (other = key ∧ found = entry) ∨ (other ≠ key ∧ table other = some found) := by
  by_cases same : other = key
  · rw [same, Function.update_self] at held
    exact Or.inl ⟨same, (Option.some.inj held).symm⟩
  · rw [Function.update_of_ne same] at held
    exact Or.inr ⟨same, held⟩

namespace Master

/-- Write fields of a query control block. -/
def modifyQuery (master : Master) (queryId : Nat)
    (change : QueryControlBlock → QueryControlBlock) : Master :=
  { master with
    query := Function.update master.query queryId ((master.query queryId).map change) }

/-- Write fields of a worker control block. -/
def modifyWorker (master : Master) (socket : Nat)
    (change : WorkerControlBlock → WorkerControlBlock) : Master :=
  { master with
    worker := Function.update master.worker socket ((master.worker socket).map change) }

section Queries

def priorityOf (master : Master) (queryId : Nat) : Nat :=
  ((master.query queryId).map QueryControlBlock.priority).getD 0

def insertQueryByPriority (priority : Nat → Nat) (queryId : Nat) : List Nat → List Nat
  | [] => [queryId]
  | existing :: rest =>
    if priority queryId < priority existing then queryId :: existing :: rest
    else existing :: insertQueryByPriority priority queryId rest

/-- Put a query into the ready queue as the scheduling algorithm asks for. -/
def enqueueReady (config : MasterConfig) (master : Master) (queryId : Nat) : Master :=
  match config.schedulingAlgorithm with
  | .priority =>
    { master with
      readyQueue := insertQueryByPriority master.priorityOf queryId master.readyQueue }
  | .fifo => { master with readyQueue := master.readyQueue ++ [queryId] }

/-- The control block that `create_query` fills in. -/
def newQueryBlock (path : String) (priority socket now : Nat) : QueryControlBlock where
  socketFd := socket
  queryFilePath := path
  priority := priority
  initialPriority := priority
  readyTimestamp := now
  assignedWorkerId := none
  programCounter := 0
  preemptionPending := false
  cleanedUp := false
  state := .ready

/-- Add a control block to `query_list` under the next query id. -/
def registerQuery (master : Master) (query : QueryControlBlock) : Master :=
  { master with
    query := Function.update master.query master.nextQueryId (some query)
    queryList := master.queryList ++ [master.nextQueryId]
    nextQueryId := master.nextQueryId + 1 }

/-- `create_query`, with the id of `generate_query_id`. -/
def createQuery (config : MasterConfig) (master : Master) (path : String)
    (priority socket now : Nat) : Master :=
  enqueueReady config (master.registerQuery (newQueryBlock path priority socket now))
    master.nextQueryId

def findQueryBySocket (master : Master) (socket : Nat) : Option Nat :=
  master.queryList.find? fun queryId =>
    (master.query queryId).any fun query => decide (query.socketFd = socket)

/-- The search for a query in `running_list`. -/
def findRunning (master : Master) (queryId : Nat) : Option QueryControlBlock :=
  if queryId ∈ master.runningList then master.query queryId else none

def finalizeQueryWithError (master : Master) (queryId : Nat) (reason : String) :
    Master × List Outgoing :=
  match master.query queryId with
  | none => (master, [])
  | some query =>
    (master.modifyQuery queryId fun query => { query with state := .canceled },
      [.toQueryControl query.socketFd (.finDesconexion queryId reason)])

def dropQuery (master : Master) (queryId : Nat) : Master :=
  { master with
    readyQueue := master.readyQueue.erase queryId
    runningList := master.runningList.erase queryId
    queryList := master.queryList.erase queryId
    query := Function.update master.query queryId none }

def cleanupQueryResources (master : Master) (queryId : Nat) : Master :=
  match master.query queryId with
  | none => master
  | some query => if query.cleanedUp then master else master.dropQuery queryId

end Queries

section Workers

/-- `create_worker`.  The tables are keyed by the socket, so a second registration on a socket
replaces the first; the code keeps both control blocks, and its searches find the first. -/
def createWorker (master : Master) (workerId socket : Nat) : Master :=
  { master with
    worker := Function.update master.worker socket
      (some { workerId := workerId, currentQueryId := none, state := .idle })
    workerList := master.workerList ++ [socket]
    idleList := master.idleList ++ [socket] }

def manageWorkerHandshake (master : Master) (workerId socket : Nat) : Master :=
  if workerId = 0 then master else master.createWorker workerId socket

def findWorkerBySocket (master : Master) (socket : Nat) : Option WorkerControlBlock :=
  if socket ∈ master.workerList then master.worker socket else none

/-- The search for a worker with `match_worker_by_id`. -/
def findWorkerById (master : Master) (workerId : Nat) : Option Nat :=
  master.workerList.find? fun socket =>
    (master.worker socket).any fun worker => decide (worker.workerId = workerId)

def forgetQuery (master : Master) (socket : Nat) : Master :=
  master.modifyWorker socket fun worker =>
    { worker with state := .idle, currentQueryId := none }

/-- Free a worker and move it from `busy_list` to `idle_list`. -/
def releaseWorker (master : Master) (socket : Nat) : Master :=
  { master.forgetQuery socket with
    busyList := master.busyList.erase socket
    idleList := master.idleList ++ [socket] }

def cleanupWorkerResources (master : Master) (socket : Nat) : Master :=
  { master with
    idleList := master.idleList.erase socket
    busyList := master.busyList.erase socket
    workerList := master.workerList.erase socket
    worker := Function.update master.worker socket none }

end Workers

section Reports

def manageWorkerEndQuery (master : Master) (socket queryId : Nat) :
    Master × List Outgoing :=
  match master.findWorkerBySocket socket with
  | none => (master, [])
  | some _ =>
    match master.findRunning queryId with
    | none => (master.forgetQuery socket, [])
    | some query =>
      if query.cleanedUp then (master.releaseWorker socket, [])
      else
        let completed := master.modifyQuery queryId fun query =>
          { query with state := .completed, assignedWorkerId := none }
        let removed := { completed with runningList := completed.runningList.erase queryId }
        ((removed.releaseWorker socket).cleanupQueryResources queryId,
          if 0 < query.socketFd then
            [.toQueryControl query.socketFd (.endQuery queryId)]
          else [])

/-- The end of a query that was canceled while its eviction was pending. -/
def discardEvicted (master : Master) (queryId programCounter : Nat) : Master :=
  let updated := master.modifyQuery queryId fun query =>
    { query with
      programCounter := programCounter
      preemptionPending := false
      assignedWorkerId := none }
  { updated with
    runningList := updated.runningList.erase queryId }.cleanupQueryResources queryId

/-- The way of an evicted query back to the ready queue. -/
def requeueEvicted (master : Master) (queryId programCounter now : Nat) : Master :=
  let updated := master.modifyQuery queryId fun query =>
    { query with
      programCounter := programCounter
      state := .ready
      assignedWorkerId := none
      preemptionPending := false
      readyTimestamp := now }
  { updated with
    runningList := updated.runningList.erase queryId
    readyQueue := insertQueryByPriority updated.priorityOf queryId updated.readyQueue }

def manageWorkerEvictResponse (master : Master) (socket queryId programCounter now : Nat) :
    Master :=
  match master.findWorkerBySocket socket with
  | none => master
  | some _ =>
    match master.findRunning queryId with
    | none => master
    | some query =>
      let requeued :=
        if query.state = .canceled then master.discardEvicted queryId programCounter
        else master.requeueEvicted queryId programCounter now
      if socket ∈ requeued.busyList then requeued.releaseWorker socket
      else requeued.forgetQuery socket

/-- `handle_error_from_storage`; the query id of the message is read and not used. -/
def handleErrorFromStorage (master : Master) (socket : Nat) (_queryId : Nat)
    (reason : String) : Master × List Outgoing :=
  match (master.findWorkerBySocket socket).bind WorkerControlBlock.currentQueryId with
  | none => (master, [])
  | some queryId =>
    match master.findRunning queryId with
    | none => (master, [])
    | some _ =>
      match (master.releaseWorker socket).finalizeQueryWithError queryId reason with
      | (finalized, sent) => (finalized.cleanupQueryResources queryId, sent)

end Reports

section Preemption

/-- `preempt_query_in_exec`; `sent` says whether the request could be sent. -/
def preemptQueryInExec (sent : Bool) (master : Master) (queryId : Nat) :
    Master × List Outgoing :=
  match master.query queryId with
  | none => (master, [])
  | some query =>
    if query.preemptionPending then (master, [])
    else
      match (query.assignedWorkerId.bind master.findWorkerById).filter (0 < ·) with
      | none =>
        match master.finalizeQueryWithError queryId
            "Error en preemption - worker inválido" with
        | (finalized, notices) => (finalized.cleanupQueryResources queryId, notices)
      | some socket =>
        if sent then
          (master.modifyQuery queryId fun query => { query with preemptionPending := true },
            [.toWorker socket (.preemptReq queryId)])
        else
          (master.modifyQuery queryId fun query => { query with preemptionPending := false },
            [])

/-- The running query with the largest priority number, the first of equals. -/
def worstRunning (master : Master) : Option Nat :=
  master.runningList.foldl
    (fun worst queryId =>
      match worst with
      | none => some queryId
      | some current =>
        if master.priorityOf current < master.priorityOf queryId then some queryId
        else some current)
    none

def checkPreemption (sent : Bool) (master : Master) : Master × List Outgoing :=
  if master.busyList = [] then (master, [])
  else
    match master.readyQueue, master.worstRunning with
    | bestReady :: _, some worst =>
      if master.priorityOf worst ≤ master.priorityOf bestReady then (master, [])
      else master.preemptQueryInExec sent worst
    | _, _ => (master, [])

/-- One query of an aging pass, in 64-bit and 32-bit arithmetic, and whether its
priority changed. -/
def ageQuery (agingInterval now : Nat) (query : QueryControlBlock) :
    QueryControlBlock × Bool :=
  if query.state ≠ .ready then (query, false)
  else if query.readyTimestamp = 0 then ({ query with readyTimestamp := now }, false)
  else
    let elapsed := (now + 2 ^ 64 - query.readyTimestamp) % 2 ^ 64
    if elapsed < agingInterval then (query, false)
    else
      let intervals := Int.bmod (elapsed / agingInterval) (2 ^ 32)
      if 0 < intervals ∧ 0 < query.priority then
        ({ query with
            priority := query.priority - intervals.toNat
            readyTimestamp :=
              (query.readyTimestamp + intervals.toNat * agingInterval) % 2 ^ 64 },
          true)
      else (query, false)

/-- The part of `aging_thread_func` under the query mutex. -/
def agingPass (config : MasterConfig) (now : Nat) (master : Master) : Master :=
  if config.agingInterval = 0 ∨ master.readyQueue = [] then master
  else
    let aged :=
      { master with
        query := fun queryId =>
          if queryId ∈ master.readyQueue then
            (master.query queryId).map fun query => (ageQuery config.agingInterval now query).1
          else master.query queryId }
    if master.readyQueue.any fun queryId =>
        (master.query queryId).any fun query => (ageQuery config.agingInterval now query).2
    then
      { aged with
        readyQueue := config.listSort
          (fun first second => decide (aged.priorityOf first < aged.priorityOf second))
          aged.readyQueue }
    else aged

end Preemption

section Dispatch

/-- The assignment in `try_dispatch` of the first ready query to the first idle
worker, before the query is sent. -/
def assignQuery (master : Master) (socket queryId workerId : Nat) : Master :=
  let busy := master.modifyWorker socket fun worker =>
    { worker with currentQueryId := some queryId, state := .busy }
  let running := busy.modifyQuery queryId fun query =>
    { query with
      state := .running
      assignedWorkerId := some workerId
      preemptionPending := false }
  { running with
    readyQueue := running.readyQueue.tail
    idleList := running.idleList.tail
    runningList := running.runningList ++ [queryId]
    busyList := running.busyList ++ [socket] }

/-- The reversal in `try_dispatch` of an assignment that could not be sent. -/
def revertAssignment (config : MasterConfig) (master : Master) (socket queryId : Nat) :
    Master :=
  let idle := master.forgetQuery socket
  let ready := idle.modifyQuery queryId fun query =>
    { query with state := .ready, assignedWorkerId := none }
  enqueueReady config
    { ready with
      runningList := ready.runningList.erase queryId
      busyList := ready.busyList.erase socket
      idleList := ready.idleList ++ [socket] }
    queryId

/-- `try_dispatch`; `sent` says whether the query could be sent. -/
def tryDispatch (config : MasterConfig) (sent : Bool) (master : Master) :
    Master × List Outgoing :=
  match master.idleList, master.readyQueue with
  | socket :: _, queryId :: _ =>
    if master.runningList.any fun running =>
        (master.query running).any QueryControlBlock.preemptionPending
    then (master, [])
    else
      match master.worker socket, master.query queryId with
      | some worker, some query =>
        let assigned := master.assignQuery socket queryId worker.workerId
        if sent ∧ 0 < socket then
          (assigned,
            [.toWorker socket (.startQuery queryId query.programCounter query.queryFilePath)])
        else (assigned.revertAssignment config socket queryId, [])
      | _, _ => (master, [])
  | _, _ => (master, [])

end Dispatch

section Disconnections

def handleQueryControlDisconnection (sent : Bool) (master : Master) (socket : Nat) :
    Master × List Outgoing :=
  match master.findQueryBySocket socket with
  | none => (master, [])
  | some queryId =>
    match master.query queryId with
    | none => (master, [])
    | some query =>
      if query.cleanedUp then (master, [])
      else
        match query.state with
        | .ready =>
          match (master.modifyQuery queryId fun query =>
              { query with state := .canceled }).finalizeQueryWithError queryId
                "Se cancela Query - QC desconectada (READY)" with
          | (finalized, notices) => (finalized.cleanupQueryResources queryId, notices)
        | .running =>
          (master.modifyQuery queryId fun query =>
            { query with state := .canceled }).preemptQueryInExec sent queryId
        | .completed => (master.cleanupQueryResources queryId, [])
        | .canceled => (master.cleanupQueryResources queryId, [])
        | .new =>
          match master.finalizeQueryWithError queryId
              "Query cancelada porque Query Control se desconectó" with
          | (finalized, notices) => (finalized.cleanupQueryResources queryId, notices)

def abandonQuery (master : Master) (queryId : Nat) : Master × List Outgoing :=
  if queryId ∈ master.queryList then
    match master.finalizeQueryWithError queryId
        "Se desconectó worker mientras realizaba la query" with
    | (finalized, notices) => (finalized.cleanupQueryResources queryId, notices)
  else (master, [])

def handleWorkerDisconnection (master : Master) (socket : Nat) : Master × List Outgoing :=
  match master.findWorkerBySocket socket with
  | none => (master, [])
  | some worker =>
    match (match worker.currentQueryId with
      | none => (master, [])
      | some queryId => master.abandonQuery queryId) with
    | (abandoned, notices) => (abandoned.cleanupWorkerResources socket, notices)

end Disconnections

end Master

end MasterOfFiles
