import MasterOfFiles.LockOrder
import MasterOfFiles.MasterScheduling

/-!
# The table mutexes of the Master

The handlers as the lock and unlock steps they take on `worker_table_mutex` and
`query_table_mutex`, with their work on the tables between them.  `try_dispatch` says that
workers are locked first and queries second, and every handler but one does so:
`handle_query_control_disconnection` holds the query mutex when it takes the worker mutex for a
query that is RUNNING.  Any number of client threads and the aging thread run the handlers, and
a send may fail.
-/

namespace MasterOfFiles

/-- `worker_table_mutex` and `query_table_mutex`. -/
inductive TableMutex
  | workerTable
  | queryTable
deriving DecidableEq

instance : Fintype TableMutex where
  elems := {.workerTable, .queryTable}
  complete mutex := by
    cases mutex <;> simp

def TableMutex.rank : TableMutex → Nat
  | workerTable => 0
  | queryTable => 1

namespace Master

def Event.leavingQueryControl : Event → Option Nat
  | disconnectQueryControl socket => some socket
  | _ => none

/-- What makes a handler run, and the results of its sends: the `OP_WORKER_ACK` of the handshake
and the message to a Worker. -/
structure HandlerCall where
  event : Event
  acknowledged : Bool
  sent : Bool
deriving DecidableEq

abbrev TableProgram : Type := LockProgram TableMutex Master

section Programs

def lockingBoth (change : Master → Master) (next : TableProgram) : TableProgram :=
  .lock .workerTable <| .lock .queryTable <| .perform change <|
    .unlock .queryTable <| .unlock .workerTable next

def tryDispatchProgram (config : MasterConfig) (sent : Bool) : TableProgram :=
  lockingBoth (fun master => (master.tryDispatch config sent).1) .done

def checkPreemptionProgram (sent : Bool) : TableProgram :=
  lockingBoth (fun master => (master.checkPreemption sent).1) .done

def createWorkerProgram (workerId socket : Nat) (next : TableProgram) : TableProgram :=
  .lock .workerTable <| .perform (fun master => master.createWorker workerId socket) <|
    .unlock .workerTable next

/-- `manage_worker_handshake`. -/
def workerHandshakeProgram (config : MasterConfig) (workerId socket : Nat)
    (acknowledged sent : Bool) : TableProgram :=
  if workerId = 0 then .done
  else createWorkerProgram workerId socket
    (if acknowledged then tryDispatchProgram config sent else .done)

def createQueryProgram (config : MasterConfig) (path : String) (priority socket now : Nat)
    (next : TableProgram) : TableProgram :=
  .lock .queryTable <|
    .perform (fun master => master.createQuery config path priority socket now) <|
      .unlock .queryTable next

/-- `manage_read_message_from_worker`, which looks at `running_list` without a mutex. -/
def readMessageProgram (config : MasterConfig) (queryId : Nat) (sent : Bool) : TableProgram :=
  .branch fun master =>
    if (master.findRunning queryId).isNone then tryDispatchProgram config sent else .done

/-- `manage_worker_end_query`. -/
def endQueryProgram (config : MasterConfig) (socket queryId : Nat) (sent : Bool) :
    TableProgram :=
  .lock .workerTable <| .lock .queryTable <| .branch fun master =>
    .perform (fun master => (master.manageWorkerEndQuery socket queryId).1) <|
      .unlock .queryTable <| .unlock .workerTable <|
        if (master.findWorkerBySocket socket).isNone ∨ (master.findRunning queryId).isNone
        then .done else tryDispatchProgram config sent

/-- `manage_worker_evict_response`. -/
def evictResProgram (config : MasterConfig) (socket queryId programCounter now : Nat)
    (sent : Bool) : TableProgram :=
  lockingBoth
    (fun master => master.manageWorkerEvictResponse socket queryId programCounter now)
    (tryDispatchProgram config sent)

/-- `handle_error_from_storage`. -/
def storageErrorProgram (config : MasterConfig) (socket queryId : Nat) (reason : String)
    (sent : Bool) : TableProgram :=
  lockingBoth (fun master => (master.handleErrorFromStorage socket queryId reason).1)
    (tryDispatchProgram config sent)

/-- `handle_worker_disconnection`. -/
def workerDisconnectionProgram (socket : Nat) : TableProgram :=
  .lock .workerTable <| .branch fun master =>
    match master.findWorkerBySocket socket with
    | none => .unlock .workerTable .done
    | some worker =>
      match worker.currentQueryId with
      | none =>
        .perform (fun master => master.cleanupWorkerResources socket) <|
          .unlock .workerTable .done
      | some queryId =>
        .lock .queryTable <| .perform (fun master => (master.abandonQuery queryId).1) <|
          .unlock .queryTable <|
            .perform (fun master => master.cleanupWorkerResources socket) <|
              .unlock .workerTable .done

/-- The query that `find_query_by_socket` finds for the socket, when it is RUNNING. -/
def runningQueryOf (master : Master) (socket : Nat) : Option Nat :=
  (master.findQueryBySocket socket).filter fun queryId =>
    (master.query queryId).any fun query =>
      !query.cleanedUp && decide (query.state = .running)

/-- `handle_query_control_disconnection`. -/
def queryControlDisconnectionProgram (socket : Nat) (sent : Bool) : TableProgram :=
  .lock .queryTable <| .branch fun master =>
    match master.runningQueryOf socket with
    | some queryId =>
      .lock .workerTable <|
        .perform
          (fun master =>
            ((master.modifyQuery queryId fun query =>
              { query with state := .canceled }).preemptQueryInExec sent queryId).1) <|
          .unlock .workerTable <| .unlock .queryTable .done
    | none =>
      .perform (fun master => (master.handleQueryControlDisconnection sent socket).1) <|
        .unlock .queryTable .done

/-- One round of `aging_thread_func`, which only runs with priorities. -/
def agingProgram (config : MasterConfig) (now : Nat) (sent : Bool) : TableProgram :=
  if config.schedulingAlgorithm = .fifo ∨ config.agingInterval = 0 then .done
  else
    .lock .queryTable <| .branch fun master =>
      if master.readyQueue = [] then .unlock .queryTable .done
      else
        .perform (fun master => master.agingPass config now) <|
          .unlock .queryTable (checkPreemptionProgram sent)

def handlerProgram (config : MasterConfig) (call : HandlerCall) : TableProgram :=
  match call.event with
  | .workerHandshake workerId socket =>
    workerHandshakeProgram config workerId socket call.acknowledged call.sent
  | .newQuery path priority socket now =>
    createQueryProgram config path priority socket now (tryDispatchProgram config call.sent)
  | .readMessage queryId => readMessageProgram config queryId call.sent
  | .endQuery socket queryId => endQueryProgram config socket queryId call.sent
  | .evictRes socket queryId programCounter now =>
    evictResProgram config socket queryId programCounter now call.sent
  | .storageError socket queryId reason =>
    storageErrorProgram config socket queryId reason call.sent
  | .disconnectQueryControl socket => queryControlDisconnectionProgram socket call.sent
  | .disconnectWorker socket => workerDisconnectionProgram socket
  | .aging now => agingProgram config now call.sent

/-- Any number of threads that run handlers on the tables of `init_master`. -/
def lockSystem (config : MasterConfig) :
    TransitionSystem (LockMachine HandlerCall TableMutex Master) (LockStep HandlerCall) :=
  LockMachine.system (· = initMaster) (handlerProgram config)

/-- The handler is `handle_query_control_disconnection` and finds its query RUNNING. -/
def FindsRunning (call : HandlerCall) (master : Master) : Prop :=
  ∃ socket ∈ call.event.leavingQueryControl, master.runningQueryOf socket ≠ none

instance (call : HandlerCall) (master : Master) : Decidable (FindsRunning call master) :=
  inferInstanceAs (Decidable (∃ socket ∈ call.event.leavingQueryControl,
    master.runningQueryOf socket ≠ none))

end Programs

open TableMutex

section Order

variable {excluded : Master → Prop} {next : TableProgram}

theorem ordered_lock (mutex : TableMutex) (ordered : next.Ordered rank excluded {mutex}) :
    (LockProgram.lock mutex next).Ordered rank excluded ∅ := by
  refine ⟨by simp, ?_⟩
  convert ordered
  simp

theorem ordered_unlock (mutex : TableMutex) (ordered : next.Ordered rank excluded ∅) :
    (LockProgram.unlock mutex next).Ordered rank excluded {mutex} := by
  refine ⟨by simp, ?_⟩
  convert ordered
  simp

theorem ordered_unlock_queryTable (ordered : next.Ordered rank excluded {workerTable}) :
    (LockProgram.unlock queryTable next).Ordered rank excluded {queryTable, workerTable} := by
  refine ⟨by simp, ?_⟩
  convert ordered
  ext mutex
  cases mutex <;> simp

theorem ordered_lock_queryTable
    (ordered : next.Ordered rank excluded {queryTable, workerTable}) :
    (LockProgram.lock queryTable next).Ordered rank excluded {workerTable} := by
  refine ⟨?_, ordered⟩
  intro other held
  rw [Set.mem_singleton_iff] at held
  rw [held]
  decide

theorem ordered_lockingBoth (change : Master → Master)
    (ordered : next.Ordered rank excluded ∅) :
    (lockingBoth change next).Ordered rank excluded ∅ := by
  apply ordered_lock _
  apply ordered_lock_queryTable
  apply ordered_unlock_queryTable
  exact ordered_unlock _ ordered

theorem ordered_tryDispatchProgram (config : MasterConfig) (sent : Bool) :
    (tryDispatchProgram config sent).Ordered rank excluded ∅ := by
  apply ordered_lockingBoth
  rfl

theorem ordered_endQueryProgram (config : MasterConfig) (socket queryId : Nat) (sent : Bool) :
    (endQueryProgram config socket queryId sent).Ordered rank excluded ∅ := by
  apply ordered_lock _
  apply ordered_lock_queryTable
  intro master _
  apply ordered_unlock_queryTable
  apply ordered_unlock _
  split
  · rfl
  · exact ordered_tryDispatchProgram config sent

theorem ordered_workerDisconnectionProgram (socket : Nat) :
    (workerDisconnectionProgram socket).Ordered rank excluded ∅ := by
  apply ordered_lock _
  intro master _
  dsimp only
  split
  · exact ordered_unlock _ rfl
  · split
    · exact ordered_unlock _ rfl
    · apply ordered_lock_queryTable
      apply ordered_unlock_queryTable
      exact ordered_unlock _ rfl

theorem ordered_agingProgram (config : MasterConfig) (now : Nat) (sent : Bool) :
    (agingProgram config now sent).Ordered rank excluded ∅ := by
  unfold agingProgram
  split
  · rfl
  · apply ordered_lock
    intro master _
    dsimp only
    split
    · exact ordered_unlock _ rfl
    · apply ordered_unlock
      apply ordered_lockingBoth
      rfl

/-- With the excluded tables left out, only the branch that takes no second mutex remains. -/
theorem ordered_queryControlDisconnectionProgram (socket : Nat) (sent : Bool)
    (excludes : ∀ master, ¬excluded master → master.runningQueryOf socket = none) :
    (queryControlDisconnectionProgram socket sent).Ordered rank excluded ∅ := by
  apply ordered_lock
  intro master allowed
  simp only [excludes master allowed]
  exact ordered_unlock _ rfl

theorem ordered_handlerProgram (config : MasterConfig) (call : HandlerCall) :
    (handlerProgram config call).Ordered rank (FindsRunning call) ∅ := by
  obtain ⟨event, acknowledged, sent⟩ := call
  cases event with
  | workerHandshake workerId socket =>
      change (workerHandshakeProgram config workerId socket acknowledged sent).Ordered _ _ _
      unfold workerHandshakeProgram
      split
      · rfl
      · apply ordered_lock
        apply ordered_unlock
        split
        · exact ordered_tryDispatchProgram config sent
        · rfl
  | newQuery path priority socket now =>
      apply ordered_lock
      apply ordered_unlock
      exact ordered_tryDispatchProgram config sent
  | readMessage queryId =>
      change (readMessageProgram config queryId sent).Ordered _ _ _
      intro master _
      dsimp only
      split
      · exact ordered_tryDispatchProgram config sent
      · rfl
  | endQuery socket queryId => exact ordered_endQueryProgram config socket queryId sent
  | evictRes socket queryId programCounter now =>
      exact ordered_lockingBoth _ (ordered_tryDispatchProgram config sent)
  | storageError socket queryId reason =>
      exact ordered_lockingBoth _ (ordered_tryDispatchProgram config sent)
  | disconnectQueryControl socket =>
      apply ordered_queryControlDisconnectionProgram
      intro master allowed
      by_contra finds
      exact allowed ⟨socket, rfl, finds⟩
  | disconnectWorker socket => exact ordered_workerDisconnectionProgram socket
  | aging now => exact ordered_agingProgram config now sent

end Order

section Alone

variable {config : MasterConfig} {master after : Master}

/-- In the reverse order the disconnection of a Query Control never breaks the order. -/
theorem reversed_queryControlDisconnectionProgram (socket : Nat) (sent : Bool) :
    (queryControlDisconnectionProgram socket sent).Ordered (fun mutex => 1 - rank mutex)
      (fun _ => False) ∅ := by
  refine ⟨by simp, ?_⟩
  intro master _
  dsimp only
  split
  · refine ⟨by simp [rank], by simp, by simp, ?_⟩
    change (_ : Set TableMutex) = ∅
    ext mutex
    cases mutex <;> simp
  · refine ⟨by simp, ?_⟩
    change (_ : Set TableMutex) = ∅
    simp

theorem handleQueryControlDisconnection_running {socket queryId : Nat} (sent : Bool)
    (running : master.runningQueryOf socket = some queryId) :
    master.handleQueryControlDisconnection sent socket =
      (master.modifyQuery queryId fun query =>
        { query with state := .canceled }).preemptQueryInExec sent queryId := by
  obtain ⟨found, state⟩ := Option.filter_eq_some_iff.mp running
  obtain ⟨query, queried, state⟩ := (Option.any_eq_true _ _).mp state
  simp only [Bool.and_eq_true, Bool.not_eq_true', decide_eq_true_eq] at state
  unfold handleQueryControlDisconnection
  simp only [found, queried, state.1, state.2]
  rfl

theorem effect_workerDisconnectionProgram (master : Master) (socket : Nat) :
    (workerDisconnectionProgram socket).effect master =
      (master.handleWorkerDisconnection socket).1 := by
  simp only [workerDisconnectionProgram, LockProgram.effect, handleWorkerDisconnection]
  cases master.findWorkerBySocket socket with
  | none => rfl
  | some worker =>
      cases current : worker.currentQueryId with
      | none =>
          simp only [current]
          rfl
      | some queryId =>
          simp only [current]
          rfl

theorem effect_queryControlDisconnectionProgram (master : Master) (socket : Nat) (sent : Bool) :
    (queryControlDisconnectionProgram socket sent).effect master =
      (master.handleQueryControlDisconnection sent socket).1 := by
  simp only [queryControlDisconnectionProgram, LockProgram.effect]
  split
  · rename_i queryId running
    rw [handleQueryControlDisconnection_running sent running]
    rfl
  · rfl

theorem effect_agingProgram (master : Master) (now : Nat) :
    (agingProgram config now true).effect master = master.agingRound config now := by
  unfold agingProgram agingRound
  by_cases sleeps : config.schedulingAlgorithm = .fifo ∨ config.agingInterval = 0
  · rw [if_pos sleeps, if_pos (sleeps.imp id Or.inl)]
    rfl
  · rw [if_neg sleeps]
    by_cases empty : master.readyQueue = []
    · simp only [LockProgram.effect, if_pos empty]
      rw [if_pos (Or.inr (Or.inr empty))]
    · have awake : ¬(config.schedulingAlgorithm = .fifo ∨ config.agingInterval = 0 ∨
          master.readyQueue = []) := by
        rw [← or_assoc]
        exact not_or_intro sleeps empty
      simp only [LockProgram.effect, if_neg empty]
      rw [if_neg awake]
      rfl

/-- The steps of a handler, taken one after another, make of the tables what the whole handler
makes of them. -/
theorem effect_handlerProgram {event : Event}
    (completes : complete config master event = some after) :
    (handlerProgram config ⟨event, true, true⟩).effect master = after := by
  cases event with
  | workerHandshake workerId socket =>
      simp only [complete, manageWorkerHandshake] at completes
      simp only [handlerProgram, workerHandshakeProgram]
      split at completes
      · cases completes
      · split at completes
        · rename_i zero
          rw [if_pos zero]
          exact Option.some.inj completes
        · rename_i positive
          rw [if_neg positive]
          exact Option.some.inj completes
  | newQuery path priority socket now => exact Option.some.inj completes
  | readMessage queryId =>
      have ends := Option.some.inj completes
      rw [← ends]
      simp only [handlerProgram, readMessageProgram, LockProgram.effect]
      split
      · rfl
      · rfl
  | endQuery socket queryId =>
      have ends := Option.some.inj completes
      rw [← ends]
      simp only [handlerProgram, endQueryProgram, LockProgram.effect]
      split
      · rfl
      · rfl
  | evictRes socket queryId programCounter now => exact Option.some.inj completes
  | storageError socket queryId reason => exact Option.some.inj completes
  | disconnectQueryControl socket =>
      rw [← Option.some.inj completes]
      exact effect_queryControlDisconnectionProgram master socket true
  | disconnectWorker socket =>
      rw [← Option.some.inj completes]
      exact effect_workerDisconnectionProgram master socket
  | aging now =>
      rw [← Option.some.inj completes]
      exact effect_agingProgram master now

/-- A thread that begins a handler while no mutex is held, and is left alone, completes it. -/
theorem finishes_handlerProgram {machine : LockMachine HandlerCall TableMutex Master}
    {thread : Nat} {event : Event} (completes : complete config machine.store event = some after)
    (begun : machine.program thread = handlerProgram config ⟨event, true, true⟩)
    (free : ∀ mutex, machine.holder mutex = none) :
    LockMachine.Finishes (· = initMaster) (handlerProgram config) machine thread after := by
  have nothing : machine.held thread = ∅ := by
    ext mutex
    simp [LockMachine.held, free mutex]
  have alone : machine.Alone thread := by
    intro mutex other holds
    rw [free mutex] at holds
    cases holds
  rw [← effect_handlerProgram completes]
  cases leaving : event.leavingQueryControl with
  | none =>
      have ordered := ordered_handlerProgram config ⟨event, true, true⟩
      rw [← nothing] at ordered
      apply LockMachine.finishes_effect (ordered.mono _) begun alone
      rintro store ⟨socket, leaves, -⟩
      rw [leaving] at leaves
      cases leaves
  | some socket =>
      obtain rfl : event = .disconnectQueryControl socket := by
        cases event <;> simp_all [Event.leavingQueryControl]
      have ordered := reversed_queryControlDisconnectionProgram socket true
      rw [← nothing] at ordered
      exact LockMachine.finishes_effect ordered begun alone

end Alone

section Runs

variable {config : MasterConfig}

/-- In a run in which no `handle_query_control_disconnection` finds its query RUNNING, no set of
threads ever waits for one another. -/
theorem not_deadlocked_of_run {last : LockMachine HandlerCall TableMutex Master}
    (reachable : ((lockSystem config).guarded (LockMachine.Avoids FindsRunning)).Reachable last)
    (threads : Set Nat) : ¬last.Deadlocked threads :=
  LockMachine.not_deadlocked_of_ordered (ordered_handlerProgram config) reachable threads

def handlerSteps (thread : Nat) (event : Event) (steps : Nat) : List (LockStep HandlerCall) :=
  .begin thread ⟨event, true, true⟩ :: List.replicate steps (.advance thread)

/-- The Query Control on socket 6 disconnects while the worker on socket 5 reports the end of
its query: thread 0 holds the worker mutex when thread 1 takes the query mutex. -/
def disconnectedDuringEndQuery : List (LockStep HandlerCall) :=
  handlerSteps 0 (.workerHandshake 1 5) 8 ++ handlerSteps 1 (.newQuery "Q0" 3 6 1) 8 ++
    handlerSteps 0 (.endQuery 5 0) 1 ++ handlerSteps 1 (.disconnectQueryControl 6) 2

/-- Each of the two threads holds the mutex that the other one waits for. -/
theorem disconnection_deadlocks :
    ∃ last, (lockSystem (.mergeSorting .fifo 0)).Reachable last ∧
      last.holder .workerTable = some 0 ∧ (last.program 0).Wants .queryTable ∧
      last.holder .queryTable = some 1 ∧ (last.program 1).Wants .workerTable ∧
      last.Deadlocked {0, 1} := by
  have summary : (TransitionSystem.runNext
      (LockMachine.next (handlerProgram (.mergeSorting .fifo 0)))
      (LockMachine.fresh initMaster) disconnectedDuringEndQuery).map (fun last =>
        (last.holder .workerTable, last.holder .queryTable,
          decide ((last.program 0).Wants .queryTable),
          decide ((last.program 1).Wants .workerTable))) = some (some 0, some 1, true, true) := by
    decide +kernel
  obtain ⟨last, ends, facts⟩ := Option.map_eq_some_iff.mp summary
  simp only [Prod.mk.injEq, decide_eq_true_eq] at facts
  obtain ⟨workers, queries, first, second⟩ := facts
  refine ⟨last, ?_, workers, first, queries, second, by simp, ?_⟩
  · exact ⟨_, _, ⟨initMaster, rfl, rfl⟩, TransitionSystem.run_of_runNext ends⟩
  · rintro thread (rfl | rfl)
    · exact ⟨⟨_, workers⟩, _, first, 1, by simp, queries⟩
    · exact ⟨⟨_, queries⟩, _, second, 0, by simp, workers⟩

/-- The Query Control disconnects when its query waits for a worker, and a worker connects. -/
def disconnectedWhileReady : List (LockStep HandlerCall) :=
  handlerSteps 1 (.newQuery "Q0" 3 6 1) 8 ++ handlerSteps 1 (.disconnectQueryControl 6) 2 ++
    handlerSteps 0 (.workerHandshake 1 5) 1

theorem not_deadlocked_disconnectedWhileReady :
    ∃ last, ((lockSystem (.mergeSorting .fifo 0)).guarded
        (LockMachine.Avoids FindsRunning)).Reachable last ∧
      last.holder .workerTable = some 0 ∧ last.holder .queryTable = some 1 ∧
      ∀ threads, ¬last.Deadlocked threads := by
  have summary : (TransitionSystem.runNext (TransitionSystem.guardedNext
      (LockMachine.next (handlerProgram (.mergeSorting .fifo 0))) (LockMachine.Avoids FindsRunning))
      (LockMachine.fresh initMaster) disconnectedWhileReady).map (fun last =>
        (last.holder .workerTable, last.holder .queryTable)) = some (some 0, some 1) := by
    decide +kernel
  obtain ⟨last, ends, facts⟩ := Option.map_eq_some_iff.mp summary
  simp only [Prod.mk.injEq] at facts
  have reachable : ((lockSystem (.mergeSorting .fifo 0)).guarded
      (LockMachine.Avoids FindsRunning)).Reachable last :=
    ⟨_, _, ⟨initMaster, rfl, rfl⟩, TransitionSystem.run_of_runGuarded ends⟩
  exact ⟨last, reachable, facts.1, facts.2, not_deadlocked_of_run reachable⟩

end Runs

end Master

end MasterOfFiles
