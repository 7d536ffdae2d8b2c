import MasterOfFiles.ClusterPreemption
import Mathlib.Data.List.Nodup

/-!
# Where a query can still be heard of

A query is attached to the Worker that holds it or whose report on it is in flight; there is
never more than one.  A query is live as long as instructions of it can still be executed: it
is ready, or it travels.
-/

namespace MasterOfFiles

namespace Master

variable {master after : Master} {queryId : Nat}

theorem Silent.mem_readyQueue (silent : Silent master after)
    (ready : queryId ∈ after.readyQueue) : queryId ∈ master.readyQueue := by
  cases silent with
  | quiet quiet => exact quiet.readyQueue.mem_iff.mp ready
  | connect workerId socket fresh positive => exact ready
  | drop removed => exact List.mem_of_mem_erase ready
  | leave socket done => exact ready
  | abandon socket removed runs => exact List.mem_of_mem_erase ready

end Master

namespace Cluster

variable {config : MasterConfig} {scripts : Scripts} {cluster after : Cluster}
  {label : ClusterLabel} {socket found queryId : Nat} {effect : ThreadEffect}

/-- A Worker holds the query, or its report on the query is in flight. -/
def Attached (cluster : Cluster) (socket queryId : Nat) : Prop :=
  queryId ∈ cluster.tokens socket ∨ queryId ∈ endIds (cluster.toMaster socket)

def AttachedOnce (cluster : Cluster) : Prop :=
  ∀ socket other queryId, cluster.Attached socket queryId → cluster.Attached other queryId →
    socket = other

/-- Instructions of the query can still be executed. -/
def Live (cluster : Cluster) (queryId : Nat) : Prop :=
  queryId ∈ cluster.master.readyQueue ∨
    ∃ socket context, cluster.Travels socket context ∧ context.queryId = queryId

theorem Located.attached_holds (located : Located cluster)
    (attached : cluster.Attached socket queryId) : cluster.master.Holds socket queryId := by
  rcases attached with token | ended
  · exact located.held socket queryId token
  · exact located.endHeld socket queryId ended

theorem Located.attached_not_ready (located : Located cluster)
    (attached : cluster.Attached socket queryId) : queryId ∉ cluster.master.readyQueue := by
  intro ready
  have listed := (located.sound.queries.queued_iff queryId).mpr (Or.inl ready)
  exact located.sound.queries.not_running ready
    ((located.attached_holds attached).running listed).1

section Threads

theorem attached_listen (formed : (cluster.process socket).WellFormed) {flush : Option String}
    {message : WorkerMessage} {rest : List WorkerMessage}
    (first : cluster.toWorker socket = message :: rest)
    (attached : ((cluster.takeMessage (.listen socket flush)).afterThread socket
      ((cluster.process socket).listen message flush)).Attached found queryId) :
    cluster.Attached found queryId := by
  have step := WorkerProcess.listen_step (cluster.process socket) message flush
  by_cases same : found = socket
  · subst same
    have passed := WorkerProcess.listen_tokens formed step
    rcases attached with token | ended
    · left
      simp only [tokens, afterThread, takeMessage, Function.update_self, first, List.tail_cons,
        evictIds_append, List.mem_append] at token
      simp only [tokens, first, List.mem_append]
      rw [startIds_cons]
      have kept : queryId ∈ evictIds ((cluster.process found).listen message flush).sent ∨
          queryId ∈ ((cluster.process found).listen message flush).process.activeIds ∨
          queryId ∈ ((cluster.process found).listen message flush).process.assignedIds →
            queryId ∈ (cluster.process found).activeIds ∨
            queryId ∈ (cluster.process found).assignedIds ∨ queryId ∈ startIds [message] := by
        intro member
        have moved := passed.subset (List.mem_append.mpr (member.imp id List.mem_append.mpr))
        simpa only [List.mem_append] using moved
      simp only [List.mem_append]
      tauto
    · right
      simpa [afterThread, takeMessage, WorkerProcess.listen_ends step] using ended
  · simpa [Attached, tokens, afterThread, takeMessage, same] using attached

theorem attached_execute (formed : (cluster.process socket).WellFormed)
    {answers : StorageAnswers}
    (execution : (cluster.process socket).execute scripts answers = some effect)
    (attached : (cluster.afterThread socket effect).Attached found queryId) :
    cluster.Attached found queryId := by
  have step := WorkerProcess.execute_step execution
  by_cases same : found = socket
  · subst same
    have passed := WorkerProcess.execute_tokens formed step
    have kept : queryId ∈ evictIds effect.sent ∨ queryId ∈ effect.process.activeIds ∨
        queryId ∈ effect.process.assignedIds →
          queryId ∈ (cluster.process found).activeIds ∨
          queryId ∈ (cluster.process found).assignedIds := by
      intro member
      have moved := passed.subset (List.mem_append.mpr (member.imp id List.mem_append.mpr))
      simpa only [List.mem_append] using moved
    rcases attached with token | ended
    · left
      simp only [tokens, afterThread, Function.update_self, evictIds_append,
        List.mem_append] at token
      simp only [tokens, List.mem_append]
      tauto
    · simp only [afterThread, Function.update_self, endIds_append, List.mem_append] at ended
      rcases ended with old | new
      · exact Or.inr old
      · left
        have active := (WorkerProcess.execute_ends step new).1
        simp [tokens, active]
  · simpa [Attached, tokens, afterThread, same] using attached

theorem Located.attached_thread (located : Located cluster)
    (taken : cluster.threadEffect scripts label = some (socket, effect))
    (attached : ((cluster.takeMessage label).afterThread socket effect).Attached found
      queryId) : cluster.Attached found queryId := by
  rcases threadEffect_cases taken with
    ⟨flush, message, rest, rfl, first, rfl⟩ | ⟨answers, rfl, execution⟩
  · exact attached_listen (located.formed socket) first attached
  · exact attached_execute (located.formed socket) execution attached

theorem Orderly.live_thread (orderly : Orderly cluster)
    (taken : cluster.threadEffect scripts label = some (socket, effect))
    (live : ((cluster.takeMessage label).afterThread socket effect).Live queryId) :
    cluster.Live queryId := by
  have masterEq : ((cluster.takeMessage label).afterThread socket effect).master =
      cluster.master := by
    cases label <;> rfl
  rcases live with ready | ⟨found, context, travels, rfl⟩
  · left
    rwa [masterEq] at ready
  · right
    rcases threadEffect_cases taken with
      ⟨flush, message, rest, rfl, first, rfl⟩ | ⟨answers, rfl, execution⟩
    · obtain ⟨path, before, _⟩ := orderly.travels_listen first travels
      exact ⟨found, _, before, rfl⟩
    · rcases orderly.travels_execute execution travels with
        ⟨path, before, _⟩ | ⟨executed, isExecuted, rfl⟩
      · exact ⟨found, _, before, rfl⟩
      · have executing := (WorkerProcess.execute_instruction
          (WorkerProcess.execute_step execution) isExecuted).1
        refine ⟨socket, executed, .held (Or.inr ?_), rfl⟩
        rw [executing]
        rfl

theorem Orderly.not_live_of_failed (orderly : Orderly cluster) {answers : StorageAnswers}
    (execution : (cluster.process socket).execute scripts answers = some effect)
    {context : QueryContext} (executed : effect.executedInstruction = some context)
    (failed : effect.process.executor = .closing context .error) :
    ¬ (cluster.afterThread socket effect).Live context.queryId := by
  have step := WorkerProcess.execute_step execution
  have executing := (WorkerProcess.execute_instruction step executed).1
  have active : context.queryId ∈ (cluster.process socket).activeIds := by
    simp [WorkerProcess.activeIds, executing, Executor.active, Executor.context]
  have token : context.queryId ∈ cluster.tokens socket :=
    List.mem_append_right _ (List.mem_append_left _ active)
  have apart : ∀ {found other}, cluster.Travels found other →
      other.queryId = context.queryId → found = socket := by
    intro found other before sameId
    exact orderly.located.disjoint found socket _ before.token (sameId ▸ token)
  obtain ⟨_, notStarted, notEvicted⟩ :=
    @Located.active_unique cluster socket orderly.located context executing socket
  rintro (ready | ⟨found, other, travels, sameId⟩)
  · exact orderly.located.attached_not_ready (Or.inl token) ready
  · cases travels with
    | sent message =>
        obtain rfl : found = socket := apart (.sent message) sameId
        rw [← sameId] at notStarted
        exact notStarted (mem_startIds.mpr ⟨_, _, message⟩)
    | held carries =>
        by_cases same : found = socket
        · simp only [same, afterThread, Function.update_self] at carries
          rcases carries with ⟨awaits, rfl⟩ | progress
          · refine awaits.2.2 ?_
            rw [failed, sameId]
            rfl
          · rw [failed] at progress
            cases progress
        · simp only [afterThread, Function.update_of_ne same] at carries
          exact same (apart (.held carries) sameId)
    | evicted report =>
        by_cases same : found = socket
        · simp only [same, afterThread, Function.update_self] at report
          rcases List.mem_append.mp report with old | new
          · rw [← sameId] at notEvicted
            exact notEvicted (mem_evictIds.mpr ⟨_, old⟩)
          · obtain ⟨noInstruction, _⟩ := WorkerProcess.execute_evicts step new
            rw [executed] at noInstruction
            cases noInstruction
        · simp only [afterThread, Function.update_of_ne same] at report
          exact same (apart (.evicted report) sameId)

end Threads

section Handlers

variable {handling : Master × List Outgoing}

theorem mem_toMaster_attend {report : WorkerReport}
    (member : report ∈ (cluster.attend label).toMaster socket) :
    report ∈ cluster.toMaster socket := by
  cases label with
  | receive taken now =>
      by_cases same : socket = taken
      · simp only [same, attend, Function.update_self] at member
        rw [same]
        exact List.mem_of_mem_tail member
      · simpa [attend, same] using member
  | _ => exact member

theorem Orderly.ready_of_startIds (orderly : Orderly cluster)
    (handled : cluster.handlerEffect config label = some handling)
    (started : queryId ∈ startIds (Master.messagesTo socket handling.2)) :
    queryId ∈ cluster.master.readyQueue := by
  obtain ⟨programCounter, path, message⟩ := mem_startIds.mp started
  obtain ⟨outgoing, member, isSent⟩ := List.mem_filterMap.mp message
  cases outgoing with
  | toWorker destination sent =>
      dsimp only at isSent
      split at isSent
      · obtain rfl := Option.some.inj isSent
        obtain ⟨_, ready, _⟩ := orderly.started_ready handled member
        exact ready
      · cases isSent
  | toQueryControl destination sent => cases isSent

theorem Orderly.attached_handler (orderly : Orderly cluster)
    (handled : cluster.handlerEffect config label = some handling)
    (attached : ((cluster.attend label).afterHandler handling).Attached socket queryId) :
    cluster.Attached socket queryId ∨ queryId ∈ cluster.master.readyQueue ∧
      queryId ∈ ((cluster.attend label).afterHandler handling).tokens socket := by
  have processEq : (cluster.attend label).process = cluster.process := by
    cases label <;> rfl
  have messagesEq : (cluster.attend label).toWorker = cluster.toWorker := by
    cases label <;> rfl
  rcases attached with token | ended
  · have here := token
    simp only [tokens, Cluster.afterHandler, processEq, messagesEq, startIds_append,
      List.mem_append] at here
    rcases here with evicted | active | assigned | started | started
    · obtain ⟨programCounter, report⟩ := mem_evictIds.mp evicted
      left
      exact Or.inl (List.mem_append_left _
        (mem_evictIds.mpr ⟨programCounter, mem_toMaster_attend report⟩))
    · exact Or.inl (Or.inl (by simp [tokens, active]))
    · exact Or.inl (Or.inl (by simp [tokens, assigned]))
    · exact Or.inl (Or.inl (by simp [tokens, started]))
    · exact Or.inr ⟨orderly.ready_of_startIds handled started, token⟩
  · left
    exact Or.inr (mem_endIds.mpr (mem_toMaster_attend (mem_endIds.mp ended)))

theorem AttachedOnce.handler (once : AttachedOnce cluster) (orderly : Orderly cluster)
    (handled : cluster.handlerEffect config label = some handling)
    (located : Located ((cluster.attend label).afterHandler handling)) :
    AttachedOnce ((cluster.attend label).afterHandler handling) := by
  intro socket other queryId first second
  rcases orderly.attached_handler handled first with before | ⟨ready, token⟩
  · rcases orderly.attached_handler handled second with otherBefore | ⟨ready, _⟩
    · exact once socket other queryId before otherBefore
    · exact absurd ready (orderly.located.attached_not_ready before)
  · rcases orderly.attached_handler handled second with otherBefore | ⟨_, otherToken⟩
    · exact absurd ready (orderly.located.attached_not_ready otherBefore)
    · exact located.disjoint socket other queryId token otherToken

/-- A handler adds no query to the tables but a new one, and makes no other query ready but one
that comes back. -/
theorem Orderly.queries_handler (orderly : Orderly cluster)
    (handled : cluster.handlerEffect config label = some handling) (queryId : Nat) :
    (queryId ∈ handling.1.readyQueue →
        cluster.Live queryId ∨ queryId = cluster.master.nextQueryId) ∧
      (handling.1.query queryId ≠ none →
        cluster.master.query queryId ≠ none ∨ queryId = cluster.master.nextQueryId) := by
  have sound := orderly.located.sound
  have stays : queryId ∈ cluster.master.readyQueue →
      cluster.Live queryId ∨ queryId = cluster.master.nextQueryId :=
    fun before => Or.inl (Or.inl before)
  have dropped : ∀ ended, (Function.update cluster.master.query ended none) queryId ≠ none →
      cluster.master.query queryId ≠ none ∨ queryId = cluster.master.nextQueryId := by
    intro ended held
    by_cases same : queryId = ended
    · simp [same] at held
    · exact Or.inl (by simpa [same] using held)
  by_cases moves : Moves label
  · cases label with
    | newQuery path priority client now =>
        obtain rfl := Option.some.inj handled
        have inserted : (cluster.master.createQuery config path priority client
            now).readyQueue.Perm (cluster.master.nextQueryId :: cluster.master.readyQueue) :=
          Master.enqueueReady_readyQueue config
        refine ⟨fun ready => ?_, fun held => ?_⟩
        · rcases List.mem_cons.mp (inserted.mem_iff.mp ready) with new | old
          · exact Or.inr new
          · exact stays old
        · obtain ⟨query, block⟩ := Option.ne_none_iff_exists'.mp held
          rcases Master.block_createQuery block with ⟨same, _⟩ | ⟨_, old⟩
          · exact Or.inr same
          · exact Or.inl (by simp [old])
    | receive socket now =>
        obtain ⟨report, head, rfl⟩ := Option.map_eq_some_iff.mp handled
        obtain ⟨rest, first⟩ := List.head?_eq_some_iff.mp head
        cases report with
        | endQuery ended =>
            rw [Master.handleReport]
            rcases (sound.manageWorkerEndQuery_cases socket ended).2 with
              ⟨_, same⟩ | ⟨_, _, same⟩ | ⟨_, _, same⟩
            all_goals rw [same]
            · exact ⟨stays, Or.inl⟩
            · exact ⟨stays, Or.inl⟩
            · exact ⟨fun ready => stays (List.mem_of_mem_erase ready), dropped ended⟩
        | evictRes evicted programCounter =>
            have travels : cluster.Travels socket
                ⟨cluster.submitted evicted, evicted, programCounter⟩ :=
              .evicted (by simp [first])
            rw [Master.handleReport]
            rcases sound.manageWorkerEvictResponse_cases programCounter now fun running _ =>
                ((orderly.located.held socket evicted travels.token).running
                  (sound.queries.running_listed running)).2 with
              ⟨_, same⟩ | ⟨_, running, same | same⟩
            all_goals rw [same]
            · exact ⟨stays, Or.inl⟩
            · exact ⟨fun ready => stays (List.mem_of_mem_erase ready), dropped evicted⟩
            · refine ⟨fun ready => ?_, fun held => ?_⟩
              · rcases Master.QueryTables.mem_readyQueue_requeueEvicted.mp ready with rfl | old
                · exact Or.inl (Or.inr ⟨socket, _, travels, rfl⟩)
                · exact stays old
              · left
                by_cases here : queryId = evicted
                · obtain ⟨query, block⟩ :=
                    sound.queries.exists_block (sound.queries.running_listed running)
                  simp [here, block]
                · intro missing
                  exact held ((Master.query_requeueEvicted_of_ne here).trans missing)
        | storageError other reason =>
            exact absurd (by simp [first]) (orderly.noError socket other reason)
    | dispatch sent =>
        obtain rfl := Option.some.inj handled
        rcases sound.tryDispatch_cases config sent with
          ⟨quiet, _⟩ | ⟨socket, _, started, _, worker, query, _, _, _, queryBlock, assigned⟩
        · refine ⟨fun ready => stays (quiet.readyQueue.mem_iff.mp ready), fun held => ?_⟩
          exact Or.inl fun missing => held (quiet.query_eq_none_iff.mpr missing)
        · rw [assigned]
          refine ⟨fun ready => stays (List.mem_of_mem_tail ready), fun held => Or.inl ?_⟩
          by_cases here : queryId = started
          · simp [here, queryBlock]
          · intro missing
            exact held ((Master.query_assignQuery_of_ne here).trans missing)
    | _ => exact absurd moves id
  · have silent := (orderly.located.silent_handler handled moves).2.1
    refine ⟨fun ready => stays (silent.mem_readyQueue ready), fun held => ?_⟩
    obtain ⟨query, block⟩ := Option.ne_none_iff_exists'.mp held
    obtain ⟨old, oldBlock, _⟩ := silent.block block
    exact Or.inl (by simp [oldBlock])

/-- A handler brings no query to life but a new one. -/
theorem Orderly.live_handler (orderly : Orderly cluster)
    (handled : cluster.handlerEffect config label = some handling)
    (live : ((cluster.attend label).afterHandler handling).Live queryId) :
    cluster.Live queryId ∨ queryId = cluster.master.nextQueryId := by
  have processEq : (cluster.attend label).process = cluster.process := by
    cases label <;> rfl
  have messagesEq : (cluster.attend label).toWorker = cluster.toWorker := by
    cases label <;> rfl
  rcases live with ready | ⟨found, context, travels, rfl⟩
  · exact (orderly.queries_handler handled _).1 ready
  · cases travels with
    | sent message =>
        rw [Cluster.afterHandler, messagesEq] at message
        rcases List.mem_append.mp message with old | new
        · exact Or.inl (Or.inr ⟨found, _, .sent old, rfl⟩)
        · exact Or.inl (Or.inl (orderly.ready_of_startIds handled
            (mem_startIds.mpr ⟨_, _, new⟩)))
    | held carries =>
        rw [Cluster.afterHandler, processEq] at carries
        exact Or.inl (Or.inr ⟨found, context, .held carries, rfl⟩)
    | evicted report =>
        exact Or.inl (Or.inr ⟨found, _, .evicted (mem_toMaster_attend report), rfl⟩)

end Handlers

section Runs

/-- Along every run that keeps the condition, a query that was sent out is in one place: one
START_QUERY or one EVICT_RES in flight, or one Worker that holds it.  It is not ready, and the
Master has it running at that Worker unless it is gone. -/
theorem query_in_one_place
    (reachable : ((system config scripts).guarded EndsOwn).Reachable cluster)
    (token : queryId ∈ cluster.tokens socket) :
    (cluster.tokens socket).count queryId = 1 ∧
      (∀ other, other ≠ socket → queryId ∉ cluster.tokens other) ∧
      queryId ∉ cluster.master.readyQueue ∧
      (queryId ∈ cluster.master.queryList →
        queryId ∈ cluster.master.runningList ∧
          cluster.master.current socket = some queryId) := by
  have located := located_of_reachable reachable
  refine ⟨List.count_eq_one_of_mem (located.nodup socket) token, fun other different found => ?_,
    located.attached_not_ready (Or.inl token), (located.held socket queryId token).running⟩
  exact different (located.disjoint other socket queryId found token)

def takenUp : List ClusterLabel :=
  [.newQuery "AGING_1" 4 8 1, .handshake 1 5, .dispatch true, .listen 5 none, proceeds 5,
    proceeds 5]

theorem taken_up_in_one_place :
    ∃ cluster : Cluster, ((system (.mergeSorting .priority 0) twoOperations).guarded
        EndsOwn).Reachable cluster ∧
      (cluster.process 5).activeIds = [0] ∧ cluster.master.current 5 = some 0 := by
  have ends : (TransitionSystem.runNext (next (.mergeSorting .priority 0) twoOperations)
      started takenUp).any (fun cluster =>
        decide ((cluster.process 5).activeIds = [0] ∧ 0 ∈ cluster.master.queryList)) = true := by
    decide +kernel
  obtain ⟨cluster, run, reached⟩ := (Option.any_eq_true _ _).mp ends
  obtain ⟨active, listed⟩ := of_decide_eq_true reached
  have free : (system (.mergeSorting .priority 0) twoOperations).Run started takenUp cluster :=
    TransitionSystem.run_of_runNext run
  have own : ∀ label ∈ takenUp, ∀ state : Cluster, state.EndsOwn label := by
    intro label member state
    simp only [takenUp, proceeds, List.mem_cons, List.not_mem_nil, or_false] at member
    rcases member with rfl | rfl | rfl | rfl | rfl | rfl <;> trivial
  have reachable : ((system (.mergeSorting .priority 0) twoOperations).guarded
      EndsOwn).Reachable cluster :=
    ⟨started, takenUp, rfl, free.guarded_of_labels own⟩
  have token : 0 ∈ cluster.tokens 5 := by
    simp [tokens, active]
  exact ⟨cluster, reachable, active, ((query_in_one_place reachable token).2.2.2 listed).2⟩

end Runs

end Cluster

end MasterOfFiles
