import MasterOfFiles.MasterSockets

/-!
# The Workers that the Master commands

OP_WORKER_START_QUERY goes to the first Worker of `idle_list`, and OP_WORKER_PREEMPT_REQ to the
Worker that `match_worker_by_id` finds for a query.  Both are in the worker table, and no handler
but `create_worker` puts a number there.
-/

namespace MasterOfFiles

namespace Master

variable {reaches : Nat → Prop} {master middle after : Master} {socket queryId : Nat}

/-- The Worker that a preemption of the query would be asked of. -/
def preemptionTarget (master : Master) (queryId : Nat) : Option Nat :=
  (master.query queryId).bind fun query =>
    if query.preemptionPending then none
    else query.assignedWorkerId.bind master.findWorkerById

/-- `try_dispatch` finds a query to hand out and no preemption pending. -/
def HandsOut (master : Master) : Prop :=
  master.readyQueue ≠ [] ∧
    (master.runningList.any fun running =>
      (master.query running).any QueryControlBlock.preemptionPending) = false

instance (master : Master) : Decidable master.HandsOut :=
  inferInstanceAs (Decidable (_ ∧ _))

/-- A handler registers no Worker, and commands registered Workers only, of those that it may
reach. -/
structure Commands (reaches : Nat → Prop) (master : Master)
    (effect : Master × List Outgoing) : Prop where
  registered : ∀ socket, effect.1.worker socket ≠ none → master.worker socket ≠ none
  commanded : ∀ socket message, Outgoing.toWorker socket message ∈ effect.2 →
    reaches socket ∧ master.worker socket ≠ none

section Primitives

theorem Commands.of_eq (workers : after.worker = master.worker) :
    Commands reaches master (after, []) where
  registered socket present := by
    rw [workers] at present
    exact present
  commanded socket message member := by cases member

theorem Commands.trans {first second : List Outgoing}
    (before : Commands reaches master (middle, first))
    (later : Commands reaches middle (after, second)) :
    Commands reaches master (after, first ++ second) where
  registered socket present := before.registered socket (later.registered socket present)
  commanded socket message member := by
    rcases List.mem_append.mp member with member | member
    · exact before.commanded socket message member
    · obtain ⟨reached, present⟩ := later.commanded socket message member
      exact ⟨reached, before.registered socket present⟩

theorem Commands.then {sent : List Outgoing} (before : Commands reaches master (middle, sent))
    (later : Commands reaches middle (after, [])) : Commands reaches master (after, sent) := by
  have both := before.trans later
  rwa [List.append_nil] at both

theorem Commands.reports (kept : Commands reaches master (after, [])) (socket : Nat)
    (message : QueryControlMessage) :
    Commands reaches master (after, [.toQueryControl socket message]) where
  registered := kept.registered
  commanded worker command member := by simp at member

theorem commands_modifyWorker (socket : Nat) (change : WorkerControlBlock → WorkerControlBlock) :
    Commands reaches master (master.modifyWorker socket change, []) where
  registered other present := by
    by_cases same : other = socket
    · subst same
      intro missing
      simp [modifyWorker, missing] at present
    · simpa only [modifyWorker, Function.update_of_ne same] using present
  commanded socket message member := by cases member

theorem commands_releaseWorker (socket : Nat) :
    Commands reaches master (master.releaseWorker socket, []) := by
  apply (commands_modifyWorker socket _).then
  exact Commands.of_eq rfl

theorem commands_cleanupWorkerResources :
    Commands reaches master (master.cleanupWorkerResources socket, []) where
  registered other present := by
    by_cases same : other = socket
    · subst same
      simp [cleanupWorkerResources] at present
    · simpa only [cleanupWorkerResources, Function.update_of_ne same] using present
  commanded socket message member := by cases member

theorem commands_cleanupQueryResources (queryId : Nat) :
    Commands reaches master (master.cleanupQueryResources queryId, []) := by
  unfold cleanupQueryResources
  split
  · exact Commands.of_eq rfl
  · split
    · exact Commands.of_eq rfl
    · exact Commands.of_eq rfl

theorem commands_finalizeQueryWithError (queryId : Nat) (reason : String) :
    Commands reaches master (master.finalizeQueryWithError queryId reason) := by
  unfold finalizeQueryWithError
  split
  · exact Commands.of_eq rfl
  · apply Commands.reports
    exact Commands.of_eq rfl

/-- The pair of `finalize_query_with_error` and `cleanup_query_resources`. -/
theorem commands_finalize_cleanup (queryId : Nat) (reason : String) :
    Commands reaches master
      (((master.finalizeQueryWithError queryId reason).1).cleanupQueryResources queryId,
        (master.finalizeQueryWithError queryId reason).2) := by
  apply (commands_finalizeQueryWithError queryId reason).then
  exact commands_cleanupQueryResources queryId

end Primitives

section Handlers

theorem registered_of_findWorkerById {workerId : Nat}
    (found : master.findWorkerById workerId = some socket) : master.worker socket ≠ none := by
  intro missing
  have matching := List.find?_some found
  simp [missing] at matching

theorem commands_preemptQueryInExec (sent : Bool) (queryId : Nat)
    (reach : ∀ socket ∈ master.preemptionTarget queryId, reaches socket) :
    Commands reaches master (master.preemptQueryInExec sent queryId) := by
  unfold preemptQueryInExec
  split
  · exact Commands.of_eq rfl
  · rename_i query block
    split
    · exact Commands.of_eq rfl
    · rename_i notPending
      split
      · exact commands_finalize_cleanup queryId _
      · rename_i socket found
        obtain ⟨assigned, -⟩ := Option.filter_eq_some_iff.mp found
        split
        · refine ⟨fun _ present => present, ?_⟩
          intro other message member
          simp only [List.mem_singleton, Outgoing.toWorker.injEq] at member
          obtain ⟨rfl, rfl⟩ := member
          obtain ⟨workerId, -, search⟩ := Option.bind_eq_some_iff.mp assigned
          refine ⟨reach other ?_, registered_of_findWorkerById search⟩
          simp [preemptionTarget, block, notPending, assigned]
        · exact Commands.of_eq rfl

theorem commands_checkPreemption (sent : Bool)
    (reach : ∀ queryId ∈ master.worstRunning, ∀ socket ∈ master.preemptionTarget queryId,
      reaches socket) :
    Commands reaches master (master.checkPreemption sent) := by
  unfold checkPreemption
  split
  · exact Commands.of_eq rfl
  · split
    · rename_i worst _ picked
      split
      · exact Commands.of_eq rfl
      · exact commands_preemptQueryInExec sent worst (reach worst picked)
    · exact Commands.of_eq rfl

theorem commands_agingPass (config : MasterConfig) (now : Nat) :
    Commands reaches master (master.agingPass config now, []) := by
  unfold agingPass
  split
  · exact Commands.of_eq rfl
  · dsimp only
    split
    · exact Commands.of_eq rfl
    · exact Commands.of_eq rfl

theorem commands_createQuery (config : MasterConfig) (path : String)
    (priority socket now : Nat) :
    Commands reaches master (master.createQuery config path priority socket now, []) := by
  apply Commands.of_eq
  unfold createQuery
  rw [enqueueReady_eq]
  rfl

theorem commands_manageWorkerEndQuery (socket queryId : Nat) :
    Commands reaches master (master.manageWorkerEndQuery socket queryId) := by
  unfold manageWorkerEndQuery
  split
  · exact Commands.of_eq rfl
  · split
    · exact commands_modifyWorker socket _
    · rename_i query _
      split
      · exact commands_releaseWorker socket
      · dsimp only
        have removed : Commands reaches master
            ({ master.modifyQuery queryId fun query =>
                { query with state := .completed, assignedWorkerId := none } with
              runningList := master.runningList.erase queryId }, []) :=
          Commands.of_eq rfl
        have done := (removed.then (commands_releaseWorker socket)).then
          (commands_cleanupQueryResources queryId)
        split
        · exact done.reports _ _
        · exact done

theorem commands_manageWorkerEvictResponse (socket queryId programCounter now : Nat) :
    Commands reaches master
      (master.manageWorkerEvictResponse socket queryId programCounter now, []) := by
  have discarded : Commands reaches master (master.discardEvicted queryId programCounter, []) := by
    have updated : Commands reaches master
        ({ master.modifyQuery queryId fun query =>
            { query with
              programCounter := programCounter
              preemptionPending := false
              assignedWorkerId := none } with
          runningList := master.runningList.erase queryId }, []) :=
      Commands.of_eq rfl
    exact updated.then (commands_cleanupQueryResources queryId)
  have requeued : Commands reaches master
      (master.requeueEvicted queryId programCounter now, []) :=
    Commands.of_eq rfl
  unfold manageWorkerEvictResponse
  split
  · exact Commands.of_eq rfl
  · split
    · exact Commands.of_eq rfl
    · rename_i query _
      by_cases canceled : query.state = .canceled
      · simp only [if_pos canceled]
        split
        · exact discarded.then (commands_releaseWorker socket)
        · exact discarded.then (commands_modifyWorker socket _)
      · simp only [if_neg canceled]
        split
        · exact requeued.then (commands_releaseWorker socket)
        · exact requeued.then (commands_modifyWorker socket _)

theorem commands_handleErrorFromStorage (socket messageId : Nat) (reason : String) :
    Commands reaches master (master.handleErrorFromStorage socket messageId reason) := by
  unfold handleErrorFromStorage
  split
  · exact Commands.of_eq rfl
  · rename_i queryId _
    split
    · exact Commands.of_eq rfl
    · have released : Commands reaches master (master.releaseWorker socket, []) :=
        commands_releaseWorker socket
      exact released.trans (commands_finalize_cleanup queryId reason)

theorem commands_tryDispatch (config : MasterConfig) (sent : Bool)
    (reach : master.HandsOut → sent = true → ∀ socket ∈ master.idleList.head?, reaches socket) :
    Commands reaches master (master.tryDispatch config sent) := by
  unfold tryDispatch
  split
  · rename_i socket _ queryId _ idle ready
    split
    · exact Commands.of_eq rfl
    · rename_i notPending
      split
      · rename_i worker query registered _
        have assigned : Commands reaches master
            (master.assignQuery socket queryId worker.workerId, []) := by
          apply (commands_modifyWorker socket _).then
          exact Commands.of_eq rfl
        split
        · rename_i succeeds
          have handsOut : master.HandsOut := ⟨by simp [ready], by simpa using notPending⟩
          refine ⟨assigned.registered, ?_⟩
          intro other message member
          simp only [List.mem_singleton, Outgoing.toWorker.injEq] at member
          obtain ⟨rfl, rfl⟩ := member
          exact ⟨reach handsOut succeeds.1 other (by simp [idle]), by simp [registered]⟩
        · apply assigned.then
          apply (commands_modifyWorker socket _).then
          apply Commands.of_eq
          unfold revertAssignment
          rw [enqueueReady_eq]
          rfl
      · exact Commands.of_eq rfl
  · exact Commands.of_eq rfl

theorem commands_handleWorkerDisconnection (socket : Nat) :
    Commands reaches master (master.handleWorkerDisconnection socket) := by
  unfold handleWorkerDisconnection
  split
  · exact Commands.of_eq rfl
  · rename_i worker _
    cases worker.currentQueryId with
    | none => exact commands_cleanupWorkerResources
    | some queryId =>
        have abandoned : Commands reaches master (master.abandonQuery queryId) := by
          unfold abandonQuery
          split
          · exact commands_finalize_cleanup queryId _
          · exact Commands.of_eq rfl
        exact abandoned.then commands_cleanupWorkerResources

theorem preemptionTarget_canceled :
    (master.modifyQuery queryId fun query =>
      { query with state := .canceled }).preemptionTarget queryId =
        master.preemptionTarget queryId := by
  simp only [preemptionTarget, modifyQuery, Function.update_self]
  cases master.query queryId with
  | none => rfl
  | some query => rfl

theorem commands_handleQueryControlDisconnection (sent : Bool) (socket : Nat)
    (reach : ∀ queryId ∈ master.findQueryBySocket socket,
      ∀ socket ∈ master.preemptionTarget queryId, reaches socket) :
    Commands reaches master (master.handleQueryControlDisconnection sent socket) := by
  unfold handleQueryControlDisconnection
  split
  · exact Commands.of_eq rfl
  · rename_i queryId found
    have canceled : Commands reaches master (master.modifyQuery queryId fun query =>
        { query with state := .canceled }, []) :=
      Commands.of_eq rfl
    split
    · exact Commands.of_eq rfl
    · split
      · exact Commands.of_eq rfl
      · split
        · exact canceled.trans (commands_finalize_cleanup queryId _)
        · apply canceled.trans
          apply commands_preemptQueryInExec
          rw [preemptionTarget_canceled]
          exact reach queryId found
        · exact commands_cleanupQueryResources queryId
        · exact commands_cleanupQueryResources queryId
        · exact commands_finalize_cleanup queryId _

end Handlers

end Master

end MasterOfFiles
