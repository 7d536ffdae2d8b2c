import MasterOfFiles.MasterEffects

/-!
# The descriptor numbers of the queries

A query is known to the Master by the descriptor number of the connection that submitted it.
The handlers keep that number in the control block, send what they have to say about the query
on it, and `handle_query_control_disconnection` finds the query of a connection by it and
changes no other.
-/

namespace MasterOfFiles

namespace Master

variable {master middle after : Master} {queryId : Nat}

/-- Every query control block is in `query_list`. -/
def Listed (master : Master) : Prop :=
  ∀ queryId, master.query queryId ≠ none → queryId ∈ master.queryList

/-- The queries keep their numbers, and every message to a Query Control goes to the number of
the query that it is about. -/
structure KeepsSockets (master : Master) (effect : Master × List Outgoing) : Prop where
  sockets : ∀ queryId query, effect.1.query queryId = some query →
    ∃ old, master.query queryId = some old ∧ old.socketFd = query.socketFd
  recipients : ∀ socket message, Outgoing.toQueryControl socket message ∈ effect.2 →
    ∃ query, master.query message.queryId = some query ∧ query.socketFd = socket
  listed : master.Listed → effect.1.Listed

section Primitives

theorem KeepsSockets.of_eq (queries : after.query = master.query)
    (list : after.queryList = master.queryList) : KeepsSockets master (after, []) where
  sockets queryId query block := by
    rw [queries] at block
    exact ⟨query, block, rfl⟩
  recipients socket message member := by cases member
  listed listed queryId block := by
    rw [queries] at block
    rw [list]
    exact listed queryId block

theorem KeepsSockets.trans {first second : List Outgoing}
    (before : KeepsSockets master (middle, first)) (later : KeepsSockets middle (after, second)) :
    KeepsSockets master (after, first ++ second) where
  sockets queryId query block := by
    obtain ⟨old, oldBlock, same⟩ := later.sockets queryId query block
    obtain ⟨older, olderBlock, sameToo⟩ := before.sockets queryId old oldBlock
    exact ⟨older, olderBlock, sameToo.trans same⟩
  recipients socket message member := by
    rcases List.mem_append.mp member with member | member
    · exact before.recipients socket message member
    · obtain ⟨query, block, socketEq⟩ := later.recipients socket message member
      obtain ⟨old, oldBlock, same⟩ := before.sockets _ query block
      exact ⟨old, oldBlock, same.trans socketEq⟩
  listed listed := later.listed (before.listed listed)

theorem KeepsSockets.then {sent : List Outgoing} (before : KeepsSockets master (middle, sent))
    (later : KeepsSockets middle (after, [])) : KeepsSockets master (after, sent) := by
  have both := before.trans later
  rwa [List.append_nil] at both

theorem KeepsSockets.sends {sent : List Outgoing} (kept : KeepsSockets master (after, []))
    (recipients : ∀ socket message, Outgoing.toQueryControl socket message ∈ sent →
      ∃ query, master.query message.queryId = some query ∧ query.socketFd = socket) :
    KeepsSockets master (after, sent) :=
  ⟨kept.sockets, recipients, kept.listed⟩

theorem keepsSockets_modifyQuery (queryId : Nat) {change : QueryControlBlock → QueryControlBlock}
    (socket : ∀ query, (change query).socketFd = query.socketFd) :
    KeepsSockets master (master.modifyQuery queryId change, []) where
  sockets found query block := by
    by_cases same : found = queryId
    · subst same
      simp only [modifyQuery, Function.update_self, Option.map_eq_some_iff] at block
      obtain ⟨old, oldBlock, rfl⟩ := block
      exact ⟨old, oldBlock, (socket old).symm⟩
    · simp only [modifyQuery, Function.update_of_ne same] at block
      exact ⟨query, block, rfl⟩
  recipients socket message member := by cases member
  listed listed found block := by
    apply listed found
    by_cases same : found = queryId
    · subst same
      intro missing
      simp [modifyQuery, missing] at block
    · simpa only [modifyQuery, Function.update_of_ne same] using block

theorem keepsSockets_dropQuery (queryId : Nat) :
    KeepsSockets master (master.dropQuery queryId, []) where
  sockets found query block := by
    by_cases same : found = queryId
    · subst same
      simp [dropQuery] at block
    · simp only [dropQuery, Function.update_of_ne same] at block
      exact ⟨query, block, rfl⟩
  recipients socket message member := by cases member
  listed listed found block := by
    by_cases same : found = queryId
    · subst same
      simp [dropQuery] at block
    · simp only [dropQuery, Function.update_of_ne same] at block
      exact (List.mem_erase_of_ne same).mpr (listed found block)

theorem keepsSockets_cleanupQueryResources (queryId : Nat) :
    KeepsSockets master (master.cleanupQueryResources queryId, []) := by
  unfold cleanupQueryResources
  split
  · exact KeepsSockets.of_eq rfl rfl
  · split
    · exact KeepsSockets.of_eq rfl rfl
    · exact keepsSockets_dropQuery queryId

theorem keepsSockets_finalizeQueryWithError (queryId : Nat) (reason : String) :
    KeepsSockets master (master.finalizeQueryWithError queryId reason) := by
  unfold finalizeQueryWithError
  split
  · exact KeepsSockets.of_eq rfl rfl
  · rename_i query block
    apply KeepsSockets.sends
    · apply keepsSockets_modifyQuery
      intro query
      rfl
    · intro socket message member
      simp only [List.mem_singleton, Outgoing.toQueryControl.injEq] at member
      obtain ⟨rfl, rfl⟩ := member
      exact ⟨query, block, rfl⟩

/-- The pair of `finalize_query_with_error` and `cleanup_query_resources`. -/
theorem keepsSockets_finalize_cleanup (queryId : Nat) (reason : String) :
    KeepsSockets master
      (((master.finalizeQueryWithError queryId reason).1).cleanupQueryResources queryId,
        (master.finalizeQueryWithError queryId reason).2) := by
  apply KeepsSockets.then (keepsSockets_finalizeQueryWithError queryId reason)
  exact keepsSockets_cleanupQueryResources queryId

end Primitives

section Handlers

theorem keepsSockets_preemptQueryInExec (sent : Bool) (queryId : Nat) :
    KeepsSockets master (master.preemptQueryInExec sent queryId) := by
  unfold preemptQueryInExec
  split
  · exact KeepsSockets.of_eq rfl rfl
  · split
    · exact KeepsSockets.of_eq rfl rfl
    · split
      · exact keepsSockets_finalize_cleanup queryId _
      · rename_i socket _
        split
        · apply KeepsSockets.sends
          · apply keepsSockets_modifyQuery
            intro query
            rfl
          · intro recipient message member
            simp at member
        · apply keepsSockets_modifyQuery
          intro query
          rfl

theorem keepsSockets_checkPreemption (sent : Bool) :
    KeepsSockets master (master.checkPreemption sent) := by
  unfold checkPreemption
  split
  · exact KeepsSockets.of_eq rfl rfl
  · split
    · split
      · exact KeepsSockets.of_eq rfl rfl
      · exact keepsSockets_preemptQueryInExec sent _
    · exact KeepsSockets.of_eq rfl rfl

theorem keepsSockets_agingPass (config : MasterConfig) (now : Nat) :
    KeepsSockets master (master.agingPass config now, []) := by
  have aged : KeepsSockets master
      ({ master with
        query := fun queryId =>
          if queryId ∈ master.readyQueue then
            (master.query queryId).map fun query => (ageQuery config.agingInterval now query).1
          else master.query queryId }, []) := by
    refine ⟨?_, ?_, ?_⟩
    · intro queryId query block
      dsimp only at block
      split at block
      · obtain ⟨old, oldBlock, rfl⟩ := Option.map_eq_some_iff.mp block
        obtain ⟨priority, timestamp, agedEq⟩ := ageQuery_eq config.agingInterval now old
        exact ⟨old, oldBlock, by rw [agedEq]⟩
      · exact ⟨query, block, rfl⟩
    · intro socket message member
      cases member
    · intro listed queryId block
      apply listed queryId
      intro missing
      simp [missing] at block
  unfold agingPass
  split
  · exact KeepsSockets.of_eq rfl rfl
  · dsimp only
    split
    · exact aged.then (KeepsSockets.of_eq rfl rfl)
    · exact aged

theorem keepsSockets_manageWorkerEndQuery (socket queryId : Nat) :
    KeepsSockets master (master.manageWorkerEndQuery socket queryId) := by
  unfold manageWorkerEndQuery
  split
  · exact KeepsSockets.of_eq rfl rfl
  · split
    · exact KeepsSockets.of_eq rfl rfl
    · rename_i query found
      split
      · exact KeepsSockets.of_eq rfl rfl
      · obtain ⟨-, block⟩ := query_of_findRunning found
        have completed : KeepsSockets master (master.modifyQuery queryId fun query =>
            { query with state := .completed, assignedWorkerId := none }, []) := by
          apply keepsSockets_modifyQuery
          intro query
          rfl
        apply KeepsSockets.sends
        · apply KeepsSockets.then _ (keepsSockets_cleanupQueryResources queryId)
          exact completed.then (KeepsSockets.of_eq rfl rfl)
        · intro recipient message member
          split at member
          · simp only [List.mem_singleton, Outgoing.toQueryControl.injEq] at member
            obtain ⟨rfl, rfl⟩ := member
            exact ⟨query, block, rfl⟩
          · cases member

theorem keepsSockets_manageWorkerEvictResponse (socket queryId programCounter now : Nat) :
    KeepsSockets master
      (master.manageWorkerEvictResponse socket queryId programCounter now, []) := by
  have discarded : KeepsSockets master (master.discardEvicted queryId programCounter, []) := by
    apply KeepsSockets.then _ (keepsSockets_cleanupQueryResources queryId)
    have updated : KeepsSockets master (master.modifyQuery queryId fun query =>
        { query with
          programCounter := programCounter
          preemptionPending := false
          assignedWorkerId := none }, []) := by
      apply keepsSockets_modifyQuery
      intro query
      rfl
    exact updated.then (KeepsSockets.of_eq rfl rfl)
  have requeued : KeepsSockets master
      (master.requeueEvicted queryId programCounter now, []) := by
    have updated : KeepsSockets master (master.modifyQuery queryId fun query =>
        { query with
          programCounter := programCounter
          state := .ready
          assignedWorkerId := none
          preemptionPending := false
          readyTimestamp := now }, []) := by
      apply keepsSockets_modifyQuery
      intro query
      rfl
    exact updated.then (KeepsSockets.of_eq rfl rfl)
  unfold manageWorkerEvictResponse
  split
  · exact KeepsSockets.of_eq rfl rfl
  · split
    · exact KeepsSockets.of_eq rfl rfl
    · rename_i query _
      by_cases canceled : query.state = .canceled
      · simp only [if_pos canceled]
        split
        · exact discarded.then (KeepsSockets.of_eq rfl rfl)
        · exact discarded.then (KeepsSockets.of_eq rfl rfl)
      · simp only [if_neg canceled]
        split
        · exact requeued.then (KeepsSockets.of_eq rfl rfl)
        · exact requeued.then (KeepsSockets.of_eq rfl rfl)

theorem keepsSockets_handleErrorFromStorage (socket messageId : Nat) (reason : String) :
    KeepsSockets master (master.handleErrorFromStorage socket messageId reason) := by
  unfold handleErrorFromStorage
  split
  · exact KeepsSockets.of_eq rfl rfl
  · rename_i queryId _
    split
    · exact KeepsSockets.of_eq rfl rfl
    · have released : KeepsSockets master (master.releaseWorker socket, []) :=
        KeepsSockets.of_eq rfl rfl
      exact released.trans (keepsSockets_finalize_cleanup queryId reason)

theorem keepsSockets_assignQuery (socket queryId workerId : Nat) :
    KeepsSockets master (master.assignQuery socket queryId workerId, []) := by
  have busy : KeepsSockets master (master.modifyWorker socket fun worker =>
      { worker with currentQueryId := some queryId, state := .busy }, []) :=
    KeepsSockets.of_eq rfl rfl
  have running : KeepsSockets (master.modifyWorker socket fun worker =>
      { worker with currentQueryId := some queryId, state := .busy })
      ((master.modifyWorker socket fun worker =>
        { worker with currentQueryId := some queryId, state := .busy }).modifyQuery queryId
          fun query =>
            { query with
              state := .running
              assignedWorkerId := some workerId
              preemptionPending := false }, []) := by
    apply keepsSockets_modifyQuery
    intro query
    rfl
  exact (busy.then running).then (KeepsSockets.of_eq rfl rfl)

theorem keepsSockets_revertAssignment (config : MasterConfig) (socket queryId : Nat) :
    KeepsSockets master (master.revertAssignment config socket queryId, []) := by
  have idle : KeepsSockets master (master.forgetQuery socket, []) :=
    KeepsSockets.of_eq rfl rfl
  have ready : KeepsSockets (master.forgetQuery socket)
      ((master.forgetQuery socket).modifyQuery queryId fun query =>
        { query with state := .ready, assignedWorkerId := none }, []) := by
    apply keepsSockets_modifyQuery
    intro query
    rfl
  unfold revertAssignment
  rw [enqueueReady_eq]
  exact (idle.then ready).then (KeepsSockets.of_eq rfl rfl)

theorem keepsSockets_tryDispatch (config : MasterConfig) (sent : Bool) :
    KeepsSockets master (master.tryDispatch config sent) := by
  unfold tryDispatch
  split
  · rename_i socket _ queryId _ _ _
    split
    · exact KeepsSockets.of_eq rfl rfl
    · split
      · rename_i worker query _ _
        have assigned : KeepsSockets master
            (master.assignQuery socket queryId worker.workerId, []) :=
          keepsSockets_assignQuery socket queryId worker.workerId
        split
        · apply assigned.sends
          intro recipient message member
          simp at member
        · exact assigned.then (keepsSockets_revertAssignment config socket queryId)
      · exact KeepsSockets.of_eq rfl rfl
  · exact KeepsSockets.of_eq rfl rfl

theorem keepsSockets_abandonQuery (queryId : Nat) :
    KeepsSockets master (master.abandonQuery queryId) := by
  unfold abandonQuery
  split
  · exact keepsSockets_finalize_cleanup queryId _
  · exact KeepsSockets.of_eq rfl rfl

theorem keepsSockets_handleWorkerDisconnection (socket : Nat) :
    KeepsSockets master (master.handleWorkerDisconnection socket) := by
  unfold handleWorkerDisconnection
  split
  · exact KeepsSockets.of_eq rfl rfl
  · rename_i worker _
    cases worker.currentQueryId with
    | none => exact KeepsSockets.of_eq rfl rfl
    | some queryId =>
        apply (keepsSockets_abandonQuery queryId).then
        exact KeepsSockets.of_eq rfl rfl

theorem keepsSockets_handleQueryControlDisconnection (sent : Bool) (socket : Nat) :
    KeepsSockets master (master.handleQueryControlDisconnection sent socket) := by
  unfold handleQueryControlDisconnection
  split
  · exact KeepsSockets.of_eq rfl rfl
  · rename_i queryId _
    have canceled : KeepsSockets master (master.modifyQuery queryId fun query =>
        { query with state := .canceled }, []) := by
      apply keepsSockets_modifyQuery
      intro query
      rfl
    split
    · exact KeepsSockets.of_eq rfl rfl
    · split
      · exact KeepsSockets.of_eq rfl rfl
      · split
        · exact canceled.trans (keepsSockets_finalize_cleanup queryId _)
        · exact canceled.trans (keepsSockets_preemptQueryInExec sent queryId)
        · exact keepsSockets_cleanupQueryResources queryId
        · exact keepsSockets_cleanupQueryResources queryId
        · exact keepsSockets_finalize_cleanup queryId _

end Handlers

section Lookup

/-- The two maps of query blocks differ at most at one query. -/
def OnlyQuery (queryId : Nat) (master after : Master) : Prop :=
  ∀ other, other ≠ queryId → after.query other = master.query other

theorem OnlyQuery.trans (first : OnlyQuery queryId master middle)
    (second : OnlyQuery queryId middle after) : OnlyQuery queryId master after := by
  intro other distinct
  rw [second other distinct, first other distinct]

theorem onlyQuery_refl (queryId : Nat) (master : Master) : OnlyQuery queryId master master :=
  fun _ _ => rfl

theorem onlyQuery_modifyQuery (queryId : Nat)
    (change : QueryControlBlock → QueryControlBlock) :
    OnlyQuery queryId master (master.modifyQuery queryId change) :=
  fun _ distinct => Function.update_of_ne distinct ..

theorem onlyQuery_cleanupQueryResources (queryId : Nat) :
    OnlyQuery queryId master (master.cleanupQueryResources queryId) := by
  unfold cleanupQueryResources
  split
  · exact onlyQuery_refl queryId master
  · split
    · exact onlyQuery_refl queryId master
    · intro other distinct
      exact query_dropQuery_of_ne distinct

theorem onlyQuery_finalizeQueryWithError (queryId : Nat) (reason : String) :
    OnlyQuery queryId master (master.finalizeQueryWithError queryId reason).1 := by
  unfold finalizeQueryWithError
  split
  · exact onlyQuery_refl queryId master
  · exact onlyQuery_modifyQuery queryId _

theorem onlyQuery_finalize_cleanup (queryId : Nat) (reason : String) :
    OnlyQuery queryId master
      ((master.finalizeQueryWithError queryId reason).1.cleanupQueryResources queryId) :=
  (onlyQuery_finalizeQueryWithError queryId reason).trans
    (onlyQuery_cleanupQueryResources queryId)

theorem onlyQuery_preemptQueryInExec (sent : Bool) (queryId : Nat) :
    OnlyQuery queryId master (master.preemptQueryInExec sent queryId).1 := by
  unfold preemptQueryInExec
  split
  · exact onlyQuery_refl queryId master
  · split
    · exact onlyQuery_refl queryId master
    · split
      · exact onlyQuery_finalize_cleanup queryId _
      · split
        · exact onlyQuery_modifyQuery queryId _
        · exact onlyQuery_modifyQuery queryId _

/-- `handle_query_control_disconnection` changes no query but the one it finds. -/
theorem found_of_changed {sent : Bool} {socket : Nat}
    (changed : (master.handleQueryControlDisconnection sent socket).1.query queryId ≠
      master.query queryId) : master.findQueryBySocket socket = some queryId := by
  by_contra missed
  apply changed
  unfold handleQueryControlDisconnection
  split
  · rfl
  · rename_i found search
    have distinct : queryId ≠ found := by
      rintro rfl
      exact missed search
    split
    · rfl
    · split
      · rfl
      · split
        · exact (onlyQuery_modifyQuery found _).trans (onlyQuery_finalize_cleanup found _)
            queryId distinct
        · exact (onlyQuery_modifyQuery found _).trans (onlyQuery_preemptQueryInExec sent found)
            queryId distinct
        · exact onlyQuery_cleanupQueryResources found queryId distinct
        · exact onlyQuery_cleanupQueryResources found queryId distinct
        · exact onlyQuery_finalize_cleanup found _ queryId distinct

theorem block_of_findQueryBySocket {socket : Nat}
    (found : master.findQueryBySocket socket = some queryId) :
    ∃ query, master.query queryId = some query ∧ query.socketFd = socket := by
  have holds := List.find?_some found
  obtain ⟨query, block, same⟩ := (Option.any_eq_true _ _).mp holds
  exact ⟨query, block, of_decide_eq_true same⟩

theorem socket_ne_of_findQueryBySocket {socket : Nat} {query : QueryControlBlock}
    (listed : master.Listed) (absent : master.findQueryBySocket socket = none)
    (block : master.query queryId = some query) : query.socketFd ≠ socket := by
  have member : queryId ∈ master.queryList := by
    apply listed
    rw [block]
    simp
  have missed := List.find?_eq_none.mp absent queryId member
  simpa [block] using missed

theorem Listed.createQuery (listed : master.Listed) (config : MasterConfig) (path : String)
    (priority socket now : Nat) :
    (master.createQuery config path priority socket now).Listed := by
  intro queryId block
  obtain ⟨query, held⟩ := Option.ne_none_iff_exists'.mp block
  have list : (master.createQuery config path priority socket now).queryList =
      master.queryList ++ [master.nextQueryId] := by
    rw [Master.createQuery, enqueueReady_eq]
    rfl
  rw [list]
  rcases block_createQuery held with ⟨rfl, -⟩ | ⟨-, older⟩
  · simp
  · apply List.mem_append_left
    apply listed
    rw [older]
    simp

end Lookup

end Master

end MasterOfFiles
