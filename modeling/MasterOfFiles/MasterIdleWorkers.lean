import MasterOfFiles.MasterScheduling

/-!
# Idle workers beside ready queries

What each whole handler keeps: the elements of the queues exist once each, and no worker is
idle beside a ready query unless an eviction is awaited.  A handler that ends the only awaited
eviction keeps this when its `try_dispatch` can hand out all that has piled up.
-/

namespace MasterOfFiles

namespace Master

variable {master after : Master} {socket queryId : Nat}

section Handlers

/-- The invariant between two handlers. -/
structure Steady (master : Master) : Prop where
  dispatchable : Dispatchable master
  undone : master.LeavesNothingUndone

variable {config : MasterConfig}

theorem Steady.dispatch (steady : Steady master) (config : MasterConfig) :
    Steady (master.dispatch config) := by
  have dispatched := steady.dispatchable.dispatch config steady.undone.few
  exact ⟨dispatched.1, dispatched.2⟩

theorem worker_of_findWorkerBySocket {worker : WorkerControlBlock}
    (found : master.findWorkerBySocket socket = some worker) :
    socket ∈ master.workerList ∧ master.worker socket = some worker := by
  unfold findWorkerBySocket at found
  split at found
  · rename_i listed
    exact ⟨listed, found⟩
  · cases found

theorem Steady.workerHandshake (steady : Steady master) {workerId : Nat}
    (positive : 0 < socket) :
    Steady ((master.createWorker workerId socket).dispatch config) := by
  have created := steady.dispatchable.createWorker workerId positive
  have dispatched := created.dispatch config ?_
  · exact ⟨dispatched.1, dispatched.2⟩
  · by_cases idle : master.idleList = []
    · left
      simp [Master.createWorker, idle]
    · by_cases ready : master.readyQueue = []
      · right
        left
        simp [Master.createWorker, ready]
      · exact Or.inr (Or.inr (steady.undone idle ready))

theorem Steady.newQuery (steady : Steady master) (path : String) (priority socket now : Nat) :
    Steady ((master.createQuery config path priority socket now).dispatch config) := by
  have created := steady.dispatchable.createQuery config path priority socket now
  have dispatched := created.dispatch config ?_
  · exact ⟨dispatched.1, dispatched.2⟩
  · have readyPerm : (master.createQuery config path priority socket now).readyQueue.Perm
        (master.nextQueryId :: master.readyQueue) := enqueueReady_readyQueue config
    have idleEq : (master.createQuery config path priority socket now).idleList =
        master.idleList := by
      rw [Master.createQuery, enqueueReady_eq]
      rfl
    by_cases idle : master.idleList = []
    · left
      rw [idleEq, idle]
      exact Nat.zero_le 1
    · by_cases ready : master.readyQueue = []
      · right
        left
        rw [readyPerm.length_eq, ready]
        exact Nat.le_refl 1
      · right
        right
        obtain ⟨queryId, running, query, block, pending⟩ := steady.undone idle ready
        have different : queryId ≠ master.nextQueryId :=
          Nat.ne_of_lt (steady.dispatchable.queued queryId
            (List.mem_append_right _ running)).2
        rw [Master.createQuery, enqueueReady_eq]
        refine ⟨queryId, running, query, ?_, pending⟩
        exact (Function.update_of_ne different ..).trans block

theorem Steady.retire (steady : Steady master) (dispatchable : Dispatchable after)
    (retires : Retires queryId master after)
    (idle : after.idleList.length ≤ master.idleList.length + 1)
    (ready : after.readyQueue.length ≤ master.readyQueue.length + 1)
    (keepsUp : master.AwaitsOnly queryId →
      after.idleList.length ≤ 1 ∨ after.readyQueue.length ≤ 1) :
    Steady (after.dispatch config) := by
  have dispatched := dispatchable.dispatch config
    (retires.few steady.undone idle ready keepsUp)
  exact ⟨dispatched.1, dispatched.2⟩

/-- A report about a query that it is done with, from a worker that is released. -/
theorem Steady.report (steady : Steady master) (settles : Settles queryId master after)
    (idle : after.idleList = master.idleList ++ [socket])
    (keepsUp : master.AwaitsOnly queryId →
      master.idleList = [] ∨ master.readyQueue.length ≤ 1) :
    Steady (after.dispatch config) := by
  have shorter := settles.ready.length_le
  apply steady.retire settles.dispatchable settles.toRetires
  · simp [idle]
  · exact Nat.le_succ_of_le shorter
  · intro only
    rcases keepsUp only with noIdle | fewReady
    · left
      simp [idle, noIdle]
    · exact Or.inr (Nat.le_trans shorter fewReady)

theorem Steady.endQuery (steady : Steady master)
    (keepsUp : master.KeepsUp (.endQuery socket queryId))
    (completes : master.complete config (.endQuery socket queryId) = some after) :
    Steady after := by
  simp only [complete, Option.some.injEq] at completes
  subst completes
  cases found : master.findWorkerBySocket socket with
  | none =>
      simp only [manageWorkerEndQuery, found, Option.isNone_none, true_or, if_true]
      exact steady
  | some worker =>
      cases running : master.findRunning queryId with
      | none =>
          simp only [manageWorkerEndQuery, found, running, Option.isNone_none, or_true,
            if_true]
          exact ⟨steady.dispatchable.forgetQuery socket, steady.undone⟩
      | some query =>
          have sender := worker_of_findWorkerBySocket found
          have kept := steady.dispatchable.not_cleanedUp queryId query
            (query_of_findRunning running).2
          simp only [manageWorkerEndQuery, found, running, Option.isNone_some, kept,
            Bool.false_eq_true, or_self, if_false]
          have completed := (steady.dispatchable.settles queryId).modifyQuery
            (fun query => { query with state := .completed, assignedWorkerId := none })
            (fun _ => rfl)
          have present : master.worker socket ≠ none := by simp [sender.2]
          apply steady.report
            (completed.eraseRunning.releaseWorker present).cleanupQueryResources
          · rw [(workers_cleanupQueryResources _ _).1]
            rfl
          · exact keepsUp sender.1

theorem Steady.storageError (steady : Steady master) {reason : String}
    (keepsUp : master.KeepsUp (.storageError socket queryId reason)) :
    Steady ((master.handleErrorFromStorage socket queryId reason).1.dispatch config) := by
  unfold handleErrorFromStorage
  cases runs : (master.findWorkerBySocket socket).bind WorkerControlBlock.currentQueryId with
  | none => exact steady.dispatch config
  | some current =>
      cases running : master.findRunning current with
      | none =>
          simp only [running]
          exact steady.dispatch config
      | some query =>
          simp only [running]
          obtain ⟨worker, found, -⟩ := Option.bind_eq_some_iff.mp runs
          have present : master.worker socket ≠ none := by
            simp [(worker_of_findWorkerBySocket found).2]
          apply steady.report
            (((steady.dispatchable.settles current).releaseWorker
              present).finalizeQueryWithError reason).cleanupQueryResources
          · rw [(workers_cleanupQueryResources _ _).1, idleList_finalizeQueryWithError]
            rfl
          · exact keepsUp current runs

/-- The query of an `EVICT_RES` leaves `running_list`; it is dropped or ready again. -/
theorem Dispatchable.requeued (dispatchable : Dispatchable master)
    (running : queryId ∈ master.runningList) (canceled : Bool) (programCounter now : Nat) :
    let requeued := if canceled then master.discardEvicted queryId programCounter
      else master.requeueEvicted queryId programCounter now
    Dispatchable requeued ∧ Retires queryId master requeued ∧
      requeued.readyQueue.length ≤ master.readyQueue.length + (if canceled then 0 else 1) ∧
        requeued.idleList = master.idleList ∧ requeued.busyList = master.busyList ∧
          requeued.worker = master.worker := by
  cases canceled with
  | true =>
      have settles := (((dispatchable.settles queryId).modifyQuery
        (fun query =>
          { query with
            programCounter := programCounter
            preemptionPending := false
            assignedWorkerId := none }) (fun _ => rfl)).eraseRunning).cleanupQueryResources
      exact ⟨settles.dispatchable, settles.toRetires, settles.ready.length_le,
        workers_cleanupQueryResources _ _⟩
  | false =>
      refine ⟨dispatchable.requeueEvicted running programCounter now, ⟨?_, ?_⟩, ?_, rfl, rfl, rfl⟩
      · intro other different member
        exact (List.mem_erase_of_ne different).mpr member
      · intro other different
        exact query_requeueEvicted_of_ne different
      · exact Nat.le_of_eq insertQueryByPriority_perm.length_eq

/-- The end of `manage_worker_evict_response`: the sender becomes idle if it was busy. -/
theorem Steady.evicted (steady : Steady master) {requeued : Master} {gained : Nat}
    (dispatchable : Dispatchable requeued) (retires : Retires queryId master requeued)
    (gain : gained ≤ 1)
    (ready : requeued.readyQueue.length ≤ master.readyQueue.length + gained)
    (idle : requeued.idleList = master.idleList) (busy : requeued.busyList = master.busyList)
    (present : requeued.worker socket ≠ none)
    (keepsUp : master.AwaitsOnly queryId →
      (master.idleList.length + if socket ∈ master.busyList then 1 else 0) ≤ 1 ∨
        master.readyQueue.length + gained ≤ 1) :
    Steady ((if socket ∈ requeued.busyList then requeued.releaseWorker socket
      else requeued.forgetQuery socket).dispatch config) := by
  rw [busy]
  split
  · rename_i busySender
    rw [if_pos busySender] at keepsUp
    have idleAfter : (requeued.releaseWorker socket).idleList.length =
        master.idleList.length + 1 := by
      rw [releaseWorker, idle, List.length_append]
      rfl
    apply steady.retire (dispatchable.releaseWorker present) ⟨retires.running, retires.query⟩
    · exact Nat.le_of_eq idleAfter
    · change requeued.readyQueue.length ≤ _
      omega
    · intro only
      rw [idleAfter]
      exact (keepsUp only).imp_right (Nat.le_trans ready)
  · rename_i idleSender
    rw [if_neg idleSender, Nat.add_zero] at keepsUp
    have idleAfter : (requeued.forgetQuery socket).idleList.length = master.idleList.length :=
      congrArg List.length idle
    apply steady.retire (dispatchable.forgetQuery socket) ⟨retires.running, retires.query⟩
    · exact Nat.le_succ_of_le (Nat.le_of_eq idleAfter)
    · change requeued.readyQueue.length ≤ _
      omega
    · intro only
      rw [idleAfter]
      exact (keepsUp only).imp_right (Nat.le_trans ready)

theorem Steady.evictRes (steady : Steady master) {programCounter now : Nat}
    (keepsUp : master.KeepsUp (.evictRes socket queryId programCounter now)) :
    Steady ((master.manageWorkerEvictResponse socket queryId programCounter now).dispatch
      config) := by
  unfold manageWorkerEvictResponse
  cases found : master.findWorkerBySocket socket with
  | none => exact steady.dispatch config
  | some worker =>
      cases running : master.findRunning queryId with
      | none => exact steady.dispatch config
      | some query =>
          have sender := worker_of_findWorkerBySocket found
          have held := query_of_findRunning running
          have keeps := keepsUp sender.1
          rw [held.2] at keeps
          simp only [Option.any_some, decide_eq_true_eq] at keeps
          obtain ⟨dispatchable, retires, ready, idle, busy, workers⟩ :=
            steady.dispatchable.requeued held.1 (decide (query.state = .canceled))
              programCounter now
          simp only [decide_eq_true_eq] at dispatchable retires ready idle busy workers
          apply steady.evicted dispatchable retires _ ready idle busy _ keeps
          · split
            · exact Nat.zero_le 1
            · exact Nat.le_refl 1
          · rw [workers, sender.2]
            exact Option.some_ne_none worker

theorem Steady.settle (steady : Steady master) (settles : Settles queryId master after)
    (idle : after.idleList = master.idleList)
    (keepsUp : master.AwaitsOnly queryId → master.idleList = [] ∨ master.readyQueue = []) :
    Steady after := by
  refine ⟨settles.dispatchable, ?_⟩
  apply settles.toRetires.leavesNothingUndone steady.undone
  · exact fun noIdle => idle.trans noIdle
  · exact settles.nothingReady
  · intro only
    exact (keepsUp only).imp (fun noIdle => idle.trans noIdle) settles.nothingReady

theorem Steady.modifyQuery (steady : Steady master) (queryId : Nat)
    (change : QueryControlBlock → QueryControlBlock)
    (keeps : ∀ query, (change query).cleanedUp = query.cleanedUp)
    (asks : ∀ query, query.preemptionPending = true →
      (change query).preemptionPending = true) :
    Steady (master.modifyQuery queryId change) := by
  refine ⟨steady.dispatchable.modifyQuery queryId change keeps, ?_⟩
  intro idle ready
  obtain ⟨pending, running, query, block, preempting⟩ := steady.undone idle ready
  by_cases same : pending = queryId
  · subst same
    exact ⟨pending, running, change query, by simp [Master.modifyQuery, block],
      asks query preempting⟩
  · exact ⟨pending, running, query, by simp [Master.modifyQuery, same, block], preempting⟩

/-- Asking for a preemption awaits one more eviction, or drops a query that none is awaited
of. -/
theorem Steady.preemptQueryInExec (steady : Steady master) (queryId : Nat) :
    Steady (master.preemptQueryInExec true queryId).1 := by
  unfold Master.preemptQueryInExec
  cases block : master.query queryId with
  | none => exact steady
  | some query =>
      simp only
      split
      · exact steady
      · rename_i notPending
        split
        · have settles := ((steady.dispatchable.settles queryId).finalizeQueryWithError
            "Error en preemption - worker inválido").cleanupQueryResources
          apply steady.settle settles
          · rw [(workers_cleanupQueryResources _ _).1, idleList_finalizeQueryWithError]
          · rintro ⟨-, ⟨pending, pendingBlock, isPending⟩, -⟩
            rw [block] at pendingBlock
            cases pendingBlock
            exact absurd isPending notPending
        · exact steady.modifyQuery queryId _ (fun _ => rfl) (fun _ _ => rfl)

theorem Steady.checkPreemption (steady : Steady master) :
    Steady (master.checkPreemption true).1 := by
  unfold Master.checkPreemption
  split
  · exact steady
  · split
    · split
      · exact steady
      · exact steady.preemptQueryInExec _
    · exact steady

theorem preempting_agingPass (config : MasterConfig) (now : Nat)
    (preempting : master.Preempting queryId) :
    (master.agingPass config now).Preempting queryId := by
  obtain ⟨query, block, pending⟩ := preempting
  obtain ⟨priority, timestamp, agedEq⟩ := ageQuery_eq config.agingInterval now query
  have aged : ∃ old, (if queryId ∈ master.readyQueue then
      (master.query queryId).map fun query => (ageQuery config.agingInterval now query).1
      else master.query queryId) = some old ∧ old.preemptionPending = true := by
    split
    · refine ⟨{ query with priority := priority, readyTimestamp := timestamp }, ?_, pending⟩
      rw [block, Option.map_some, agedEq]
    · exact ⟨query, block, pending⟩
  unfold agingPass
  split
  · exact ⟨query, block, pending⟩
  · dsimp only
    split
    · exact aged
    · exact aged

theorem Steady.agingRound (steady : Steady master) (config : MasterConfig) (now : Nat) :
    Steady (master.agingRound config now) := by
  unfold Master.agingRound
  split
  · exact steady
  · have quiet : Quiet master (master.agingPass config now) := quiet_agingPass config now
    apply Steady.checkPreemption
    refine ⟨steady.dispatchable.of_quiet quiet, ?_⟩
    intro idle ready
    have idleBefore : master.idleList ≠ [] := by
      intro empty
      have permuted := quiet.idleList
      rw [empty] at permuted
      exact idle permuted.eq_nil
    have readyBefore : master.readyQueue ≠ [] := by
      intro empty
      have permuted := quiet.readyQueue
      rw [empty] at permuted
      exact ready permuted.eq_nil
    obtain ⟨pending, running, preempting⟩ := steady.undone idleBefore readyBefore
    refine ⟨pending, ?_, preempting_agingPass config now preempting⟩
    rw [quiet.runningList]
    exact running

theorem Steady.disconnectQueryControl (steady : Steady master)
    (keepsUp : master.KeepsUp (.disconnectQueryControl socket)) :
    Steady (master.handleQueryControlDisconnection true socket).1 := by
  unfold handleQueryControlDisconnection
  cases found : master.findQueryBySocket socket with
  | none => exact steady
  | some queryId =>
      cases block : master.query queryId with
      | none =>
          simp only [block]
          exact steady
      | some query =>
          have kept := steady.dispatchable.not_cleanedUp queryId query block
          have keeps := keepsUp queryId query found block
          have settles := steady.dispatchable.settles queryId
          simp only [block, kept, Bool.false_eq_true, if_false]
          cases state : query.state with
          | ready =>
              apply steady.settle (((settles.modifyQuery
                (fun query => { query with state := .canceled })
                (fun _ => rfl)).finalizeQueryWithError _).cleanupQueryResources)
              · rw [(workers_cleanupQueryResources _ _).1, idleList_finalizeQueryWithError]
                rfl
              · exact keeps (by simp [state])
          | running =>
              apply Steady.preemptQueryInExec
              exact steady.modifyQuery queryId _ (fun _ => rfl) (fun _ pending => pending)
          | completed =>
              apply steady.settle settles.cleanupQueryResources
              · exact (workers_cleanupQueryResources _ _).1
              · exact keeps (by simp [state])
          | canceled =>
              apply steady.settle settles.cleanupQueryResources
              · exact (workers_cleanupQueryResources _ _).1
              · exact keeps (by simp [state])
          | new =>
              apply steady.settle (settles.finalizeQueryWithError _).cleanupQueryResources
              · rw [(workers_cleanupQueryResources _ _).1, idleList_finalizeQueryWithError]
              · exact keeps (by simp [state])

theorem Steady.removeWorker (steady : Steady master) {abandoned : Master}
    (settles : Settles queryId master abandoned)
    (idle : abandoned.idleList = master.idleList)
    (once : socket ∉ master.idleList.erase socket)
    (keepsUp : master.AwaitsOnly queryId →
      master.idleList.erase socket = [] ∨ master.readyQueue = []) :
    Steady (abandoned.cleanupWorkerResources socket) := by
  have idleAfter : (abandoned.cleanupWorkerResources socket).idleList =
      master.idleList.erase socket := by
    rw [← idle]
    rfl
  have retires : Retires queryId master (abandoned.cleanupWorkerResources socket) :=
    ⟨settles.running, settles.query⟩
  constructor
  · apply settles.dispatchable.cleanupWorkerResources
    rwa [idle]
  · apply retires.leavesNothingUndone steady.undone
    · intro noIdle
      rw [idleAfter, noIdle]
      rfl
    · exact settles.nothingReady
    · intro only
      rw [idleAfter]
      exact (keepsUp only).imp_right settles.nothingReady

theorem Steady.disconnectWorker (steady : Steady master)
    (keepsUp : master.KeepsUp (.disconnectWorker socket)) :
    Steady (master.handleWorkerDisconnection socket).1 := by
  obtain ⟨keeps, once⟩ := keepsUp
  unfold handleWorkerDisconnection
  cases found : master.findWorkerBySocket socket with
  | none => exact steady
  | some worker =>
      rw [found, Option.bind_some] at keeps
      cases runs : worker.currentQueryId with
      | none =>
          simp only [runs]
          refine ⟨steady.dispatchable.cleanupWorkerResources once, ?_⟩
          intro idle ready
          apply steady.undone _ ready
          intro noIdle
          apply idle
          simp [cleanupWorkerResources, noIdle]
      | some queryId =>
          simp only [runs]
          have settles := steady.dispatchable.settles queryId
          unfold abandonQuery
          split
          · apply steady.removeWorker (settles.finalizeQueryWithError _).cleanupQueryResources
            · rw [(workers_cleanupQueryResources _ _).1, idleList_finalizeQueryWithError]
            · exact once
            · exact keeps queryId runs
          · exact steady.removeWorker settles rfl once (keeps queryId runs)

theorem Steady.complete (steady : Steady master) {event : Event}
    (keepsUp : master.KeepsUp event) (completes : master.complete config event = some after) :
    Steady after := by
  cases event with
  | endQuery socket queryId => exact steady.endQuery keepsUp completes
  | workerHandshake workerId socket =>
      simp only [Master.complete, manageWorkerHandshake] at completes
      split at completes
      · cases completes
      · rename_i accepted
        split at completes
        · cases completes
          exact steady
        · cases completes
          exact steady.workerHandshake (by omega)
  | newQuery path priority socket now =>
      cases completes
      exact steady.newQuery path priority socket now
  | readMessage queryId =>
      cases completes
      split
      · exact steady.dispatch config
      · exact steady
  | evictRes socket queryId programCounter now =>
      cases completes
      exact steady.evictRes keepsUp
  | storageError socket queryId reason =>
      cases completes
      exact steady.storageError keepsUp
  | disconnectQueryControl socket =>
      cases completes
      exact steady.disconnectQueryControl keepsUp
  | disconnectWorker socket =>
      cases completes
      exact steady.disconnectWorker keepsUp
  | aging now =>
      cases completes
      exact steady.agingRound config now

end Handlers

section Runs

variable {config : MasterConfig}

/-- After every sequence of whole handlers that keep up, an idle worker beside a ready query
waits for an eviction that was asked for. -/
theorem leavesNothingUndone_of_run {last : Master} {events : List Event}
    (run : ((scheduling config).guarded KeepsUp).Run initMaster events last) :
    last.LeavesNothingUndone := by
  have steady : Steady last := by
    apply run.preserves
    · intro before event after steady step
      exact steady.complete step.1 step.2
    · refine ⟨dispatchable_initMaster, ?_⟩
      intro idle
      exact absurd rfl idle
  exact steady.undone

/-- The Query Control of query 0 disconnects while its worker (socket 5) runs it; another
worker (socket 7) and two more queries arrive while the eviction is awaited; then the worker on
socket 5 answers. -/
def gatheredWhileAwaited : List Event :=
  [.workerHandshake 1 5, .newQuery "Q0" 3 6 1, .disconnectQueryControl 6,
    .workerHandshake 2 7, .newQuery "Q1" 3 8 2, .newQuery "Q2" 3 9 3, .evictRes 5 0 1 4]

/-- The handler sends query 1 to the worker on socket 7, and query 2 to none. -/
theorem worker_left_idle :
    ∃ last, (scheduling (.mergeSorting .fifo 0)).Run initMaster gatheredWhileAwaited last ∧
      ¬last.LeavesNothingUndone := by
  have summary : (TransitionSystem.runNext (complete (.mergeSorting .fifo 0)) initMaster
      gatheredWhileAwaited).map (fun last => (last.idleList, last.readyQueue, last.runningList,
        (last.query 1).map QueryControlBlock.preemptionPending)) =
          some ([5], [2], [1], some false) := by
    decide +kernel
  obtain ⟨last, ends, facts⟩ := Option.map_eq_some_iff.mp summary
  simp only [Prod.mk.injEq] at facts
  obtain ⟨idle, ready, running, awaited⟩ := facts
  refine ⟨last, TransitionSystem.run_of_runNext ends, ?_⟩
  intro undone
  obtain ⟨queryId, runs, query, block, pending⟩ := undone (by simp [idle]) (by simp [ready])
  obtain rfl : queryId = 1 := by simpa [running] using runs
  rw [block, Option.map_some, pending] at awaited
  cases awaited

/-- Only one query waits when the worker on socket 5 answers. -/
def evictedWhileAwaited : List Event :=
  [.workerHandshake 1 5, .newQuery "Q0" 3 6 1, .disconnectQueryControl 6, .newQuery "Q1" 3 8 2,
    .evictRes 5 0 1 3]

theorem leavesNothingUndone_evicted :
    ∃ last, ((scheduling (.mergeSorting .fifo 0)).guarded KeepsUp).Run initMaster
        evictedWhileAwaited last ∧ last.runningList = [1] ∧ last.LeavesNothingUndone := by
  have along : TransitionSystem.Along (complete (.mergeSorting .fifo 0)) KeepsUp initMaster
      evictedWhileAwaited := by
    refine ⟨trivial, fun middle step => ?_⟩
    cases step
    refine ⟨trivial, fun middle step => ?_⟩
    cases step
    refine ⟨fun _ _ _ _ _ _ => Or.inl rfl, fun middle step => ?_⟩
    cases step
    refine ⟨trivial, fun middle step => ?_⟩
    cases step
    refine ⟨fun _ _ => Or.inl (by decide +kernel), fun middle step => trivial⟩
  have summary : (TransitionSystem.runNext (complete (.mergeSorting .fifo 0)) initMaster
      evictedWhileAwaited).map Master.runningList = some [1] := by
    decide +kernel
  obtain ⟨last, ends, running⟩ := Option.map_eq_some_iff.mp summary
  have run : ((scheduling (.mergeSorting .fifo 0)).guarded KeepsUp).Run initMaster
      evictedWhileAwaited last := TransitionSystem.run_guarded_of_along ends along
  exact ⟨last, run, running, leavesNothingUndone_of_run run⟩

end Runs

end Master

end MasterOfFiles
