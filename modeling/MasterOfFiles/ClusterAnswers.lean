import MasterOfFiles.ClusterTokens

/-!
# The answers that are due

In the runs in which no Storage error is sent, a Worker owes the Master the answer
for one query at a time, the one that it is assigned to.  So the end of a query
never finds another one assigned to its Worker, and an idle worker owes nothing.
-/

namespace MasterOfFiles

namespace Cluster

variable {config : MasterConfig} {scripts : Scripts} {cluster after : Cluster}
variable {label : ClusterLabel} {socket : Nat}

section Due

/-- The queries that a Worker was sent and has not ended, and the ends that the Master
has not received. -/
def due (cluster : Cluster) (socket : Nat) : List Nat :=
  endIds (cluster.toMaster socket) ++ ((cluster.process socket).unfinishedIds ++
    ((cluster.process socket).assignedIds ++ startIds (cluster.toWorker socket)))

/-- The invariant of the answers that are due, in runs without Storage errors. -/
structure Orderly (cluster : Cluster) : Prop where
  located : Located cluster
  single : ∀ socket, (cluster.due socket).length ≤ 1
  own : ∀ socket ∈ cluster.master.workerList, ∀ queryId ∈ cluster.due socket,
    cluster.master.current socket = some queryId
  unused : ∀ socket, socket ∉ cluster.connected → cluster.due socket = []
  noError : ∀ socket queryId reason, .storageError queryId reason ∉ cluster.toMaster socket

def SendsNoError (scripts : Scripts) (cluster : Cluster) (label : ClusterLabel) : Prop :=
  ∀ socket effect, cluster.threadEffect scripts label = some (socket, effect) →
    ∀ queryId reason, .storageError queryId reason ∉ effect.sent

theorem orderly_started : Orderly started where
  located := located_started
  single socket := Nat.zero_le 1
  own socket listed := by simp [started, initMaster] at listed
  unused _ _ := rfl
  noError socket queryId reason member := by simp [started] at member

/-- Nobody is made to forget a query by the end of another one. -/
theorem Orderly.endsOwn (orderly : Orderly cluster) (label : ClusterLabel) :
    cluster.EndsOwn label := by
  cases label with
  | receive socket now =>
      intro ended head
      obtain ⟨rest, first⟩ := List.head?_eq_some_iff.mp head
      by_cases listed : socket ∈ cluster.master.workerList
      · right
        refine orderly.own socket listed ended (List.mem_append_left _ (mem_endIds.mpr ?_))
        rw [first]
        exact List.mem_cons_self
      · left
        rw [Master.current, orderly.located.sound.workers.worker_eq_none listed]
        rfl
  | _ => trivial

theorem Orderly.thread (orderly : Orderly cluster) {effect : ThreadEffect}
    (quiet : cluster.SendsNoError scripts label)
    (taken : cluster.threadEffect scripts label = some (socket, effect)) :
    Orderly ((cluster.takeMessage label).afterThread socket effect) := by
  have located := orderly.located
  have fewer : ∀ found, (((cluster.takeMessage label).afterThread socket effect).due
      found).Sublist (cluster.due found) := by
    intro found
    rcases threadEffect_cases taken with
      ⟨flush, message, rest, rfl, first, rfl⟩ | ⟨answers, rfl, execution⟩
    · have step := WorkerProcess.listen_step (cluster.process socket) message flush
      by_cases same : found = socket
      · have passed := (WorkerProcess.listen_due step).append
          (List.Sublist.refl (startIds rest))
        simp only [same, due, afterThread, takeMessage, Function.update_self, first,
          List.tail_cons, endIds_append, WorkerProcess.listen_ends step, List.append_nil]
        rw [startIds_cons]
        exact (List.Sublist.refl _).append (by simpa using passed)
      · simp [same, due, afterThread, takeMessage]
    · have step := WorkerProcess.execute_step execution
      by_cases same : found = socket
      · have passed := (WorkerProcess.execute_due (located.formed socket) step).append
          (List.Sublist.refl (startIds (cluster.toWorker socket)))
        simp only [same, due, afterThread, takeMessage, Function.update_self, endIds_append,
          List.append_assoc]
        exact (List.Sublist.refl _).append (by simpa using passed)
      · simp [same, due, afterThread, takeMessage]
  have masterEq : ((cluster.takeMessage label).afterThread socket effect).master =
      cluster.master := by
    cases label <;> rfl
  have connectedEq : ((cluster.takeMessage label).afterThread socket effect).connected =
      cluster.connected := by
    cases label <;> rfl
  refine ⟨located.thread_step taken, ?_, ?_, ?_, ?_⟩
  · exact fun found => Nat.le_trans (fewer found).length_le (orderly.single found)
  · rw [masterEq]
    exact fun found listed queryId member =>
      orderly.own found listed queryId ((fewer found).subset member)
  · rw [connectedEq]
    intro found fresh
    have empty := fewer found
    rw [orderly.unused found fresh] at empty
    exact List.sublist_nil.mp empty
  · intro found queryId reason member
    have old : (cluster.takeMessage label).toMaster = cluster.toMaster := by
      cases label <;> rfl
    by_cases same : found = socket
    · simp only [same, afterThread, Function.update_self, old] at member
      rcases List.mem_append.mp member with before | sent
      · exact orderly.noError socket queryId reason before
      · exact quiet socket effect taken queryId reason sent
    · simp only [afterThread, Function.update_of_ne same, old] at member
      exact orderly.noError found queryId reason member

theorem due_afterHandler {effect : Master × List Outgoing}
    (nothing : Master.StartsNothing effect.2) (socket : Nat) :
    (cluster.afterHandler effect).due socket = cluster.due socket := by
  simp [due, afterHandler, Master.startIds_messagesTo nothing]

theorem Orderly.afterHandler (orderly : Orderly cluster) {effect : Master × List Outgoing}
    (nothing : Master.StartsNothing effect.2) (located : Located (cluster.afterHandler effect))
    (own : ∀ socket ∈ effect.1.workerList, ∀ queryId ∈ cluster.due socket,
      effect.1.current socket = some queryId) : Orderly (cluster.afterHandler effect) where
  located := located
  single socket := by
    rw [due_afterHandler nothing]
    exact orderly.single socket
  own socket listed queryId := by
    rw [due_afterHandler nothing]
    exact own socket listed queryId
  unused socket fresh := by
    rw [due_afterHandler nothing]
    exact orderly.unused socket fresh
  noError := orderly.noError

theorem due_attend (rests : ¬ Moves label) (socket : Nat) :
    (cluster.attend label).due socket = cluster.due socket := by
  cases label with
  | newQuery path priority client now => exact absurd trivial rests
  | receive found now => exact absurd trivial rests
  | _ => rfl

theorem Orderly.attend (orderly : Orderly cluster) (rests : ¬ Moves label) :
    Orderly (cluster.attend label) := by
  obtain ⟨located, single, own, unused, noError⟩ := orderly
  have attended := located.attend rests
  cases label with
  | handshake workerId socket =>
      exact ⟨attended, single, own,
        fun found fresh => unused found fun old => fresh (List.mem_cons_of_mem _ old), noError⟩
  | newQuery path priority client now => exact absurd trivial rests
  | receive found now => exact absurd trivial rests
  | _ => exact ⟨attended, single, own, unused, noError⟩

/-- A handler that takes no report and creates or starts no query. -/
theorem Orderly.silent (orderly : Orderly cluster) {effect : Master × List Outgoing}
    (handled : cluster.handlerEffect config label = some effect) (rests : ¬ Moves label) :
    Orderly ((cluster.attend label).afterHandler effect) := by
  have located := orderly.located
  obtain ⟨nothing, silent, workers⟩ := located.silent_handler handled rests
  refine (orderly.attend rests).afterHandler nothing
    (located.handler_step handled (orderly.endsOwn label)) ?_
  intro socket listed queryId member
  rw [due_attend rests] at member
  rw [silent.current_eq located.sound listed]
  rcases workers socket listed with known | ⟨fresh, _⟩
  · exact orderly.own socket known queryId member
  · rw [orderly.unused socket fresh] at member
    cases member

theorem Orderly.newQuery (orderly : Orderly cluster) (config : MasterConfig) (path : String)
    (priority client now : Nat) :
    Orderly ((cluster.attend (.newQuery path priority client now)).afterHandler
      (cluster.master.createQuery config path priority client now, [])) := by
  have located := orderly.located.newQuery config path priority client now
  obtain ⟨_, single, own, unused, noError⟩ := orderly
  have empty : Master.StartsNothing [] := Master.startsNothing_nil
  refine ⟨located, ?_, ?_, ?_, noError⟩
  all_goals intro socket
  · rw [due_afterHandler empty]
    exact single socket
  · rw [due_afterHandler empty]
    intro listed
    have workersEq : (cluster.master.createQuery config path priority client now).worker =
        cluster.master.worker := by
      rw [Master.createQuery, Master.enqueueReady_eq]
      rfl
    have currentEq : (cluster.master.createQuery config path priority client now).current
        socket = cluster.master.current socket := by
      rw [Master.current, workersEq]
      rfl
    have known : socket ∈ cluster.master.workerList := by
      have unchanged : (cluster.master.createQuery config path priority client
          now).workerList = cluster.master.workerList := by
        rw [Master.createQuery, Master.enqueueReady_eq]
        rfl
      rw [← unchanged]
      exact listed
    intro queryId member
    exact currentEq.trans (own socket known queryId member)
  · rw [due_afterHandler empty]
    exact unused socket

theorem Orderly.take (orderly : Orderly cluster) {now : Nat} {report : WorkerReport}
    {rest : List WorkerReport} (first : cluster.toMaster socket = report :: rest) :
    Orderly (cluster.attend (.receive socket now)) := by
  have fewerReports : ∀ found, ((cluster.attend (.receive socket now)).toMaster found).Sublist
      (cluster.toMaster found) := by
    intro found
    by_cases same : found = socket
    · simp only [same, Cluster.attend, Function.update_self]
      exact List.tail_sublist _
    · simp [Cluster.attend, same]
  have fewer : ∀ found, ((cluster.attend (.receive socket now)).due found).Sublist
      (cluster.due found) :=
    fun found => ((fewerReports found).filterMap _).append (List.Sublist.refl _)
  refine ⟨orderly.located.take now first, ?_, ?_, ?_, ?_⟩
  · exact fun found => Nat.le_trans (fewer found).length_le (orderly.single found)
  · exact fun found listed queryId member =>
      orderly.own found listed queryId ((fewer found).subset member)
  · intro found fresh
    have empty := fewer found
    rw [orderly.unused found fresh] at empty
    exact List.sublist_nil.mp empty
  · exact fun found queryId reason member =>
      orderly.noError found queryId reason ((fewerReports found).subset member)

theorem Orderly.freed (orderly : Orderly cluster) {effect : Master × List Outgoing}
    (nothing : Master.StartsNothing effect.2) (located : Located (cluster.afterHandler effect))
    (workersEq : effect.1.workerList = cluster.master.workerList)
    (others : ∀ found, found ≠ socket →
      effect.1.current found = cluster.master.current found)
    (settled : cluster.due socket = []) : Orderly (cluster.afterHandler effect) := by
  refine orderly.afterHandler nothing located ?_
  intro found listed queryId member
  rw [workersEq] at listed
  by_cases same : found = socket
  · rw [same, settled] at member
    cases member
  · rw [others found same]
    exact orderly.own found listed queryId member

theorem Orderly.unchanged (orderly : Orderly cluster) {effect : Master × List Outgoing}
    (nothing : Master.StartsNothing effect.2) (same : effect.1 = cluster.master) :
    Orderly (cluster.afterHandler effect) := by
  refine orderly.afterHandler nothing (orderly.located.unchanged nothing same) ?_
  rw [same]
  exact orderly.own

theorem Orderly.endQuery (orderly : Orderly cluster) {now ended : Nat}
    {rest : List WorkerReport} (first : cluster.toMaster socket = .endQuery ended :: rest) :
    Orderly ((cluster.attend (.receive socket now)).afterHandler
      (cluster.master.manageWorkerEndQuery socket ended)) := by
  have head : (cluster.toMaster socket).head? = some (.endQuery ended) := by
    rw [first, List.head?_cons]
  have located := orderly.located.endQuery now first
    (orderly.endsOwn (.receive socket now) ended head)
  have taken : Orderly (cluster.attend (.receive socket now)) := orderly.take first
  have settled : (cluster.attend (.receive socket now)).due socket = [] := by
    have single := orderly.single socket
    have split : cluster.due socket =
        ended :: (cluster.attend (.receive socket now)).due socket := by
      simp only [due, Cluster.attend, Function.update_self, first, List.tail_cons]
      rfl
    rw [split, List.length_cons] at single
    exact List.eq_nil_of_length_eq_zero (by omega)
  obtain ⟨nothing, ⟨_, same⟩ | ⟨_, _, forgets⟩ | ⟨_, _, retires⟩⟩ :=
    orderly.located.sound.manageWorkerEndQuery_cases socket ended
  · exact taken.unchanged nothing same
  · refine taken.freed nothing located (by rw [forgets]; rfl) ?_ settled
    intro found different
    rw [forgets, Master.current_forgetQuery, if_neg different]
    rfl
  · refine taken.freed nothing located (by rw [retires]; rfl) ?_ settled
    intro found different
    rw [retires, Master.current_dropQuery, Master.current_releaseWorker, if_neg different]
    rfl

/-- A Worker that gives a running query back owes nothing else. -/
theorem Orderly.settled_of_evicted (orderly : Orderly cluster)
    {now evicted programCounter : Nat} {rest : List WorkerReport}
    (first : cluster.toMaster socket = .evictRes evicted programCounter :: rest)
    (running : evicted ∈ cluster.master.runningList)
    (runs : cluster.master.current socket = some evicted) :
    (cluster.attend (.receive socket now)).due socket = [] := by
  have located := orderly.located
  have taken : Orderly (cluster.attend (.receive socket now)) := orderly.take first
  refine List.eq_nil_iff_forall_not_mem.mpr fun queryId member => ?_
  have listed := located.sound.workers.listed_of_current runs
  have current : cluster.master.current socket = some queryId :=
    taken.own socket listed queryId member
  obtain rfl : evicted = queryId := Option.some.inj (runs.symm.trans current)
  rcases List.mem_append.mp member with ended | carried
  · exact located.not_ended now first (located.sound.queries.running_listed running) runs socket
      ended
  · refine located.evicted now first socket (List.mem_append_right _ ?_)
    rcases List.mem_append.mp carried with unfinished | waiting
    · exact List.mem_append_left _ (WorkerProcess.unfinishedIds_subset unfinished)
    · exact List.mem_append_right _ waiting

theorem Orderly.evictRes (orderly : Orderly cluster) {now evicted programCounter : Nat}
    {rest : List WorkerReport}
    (first : cluster.toMaster socket = .evictRes evicted programCounter :: rest) :
    Orderly ((cluster.attend (.receive socket now)).afterHandler
      (cluster.master.manageWorkerEvictResponse socket evicted programCounter now, [])) := by
  have located := orderly.located.evictRes now first
  have taken : Orderly (cluster.attend (.receive socket now)) := orderly.take first
  have nothing : Master.StartsNothing [] := Master.startsNothing_nil
  have token : evicted ∈ cluster.tokens socket :=
    List.mem_append_left _ (mem_evictIds.mpr ⟨programCounter, by simp [first]⟩)
  rcases orderly.located.sound.manageWorkerEvictResponse_cases programCounter now
      fun running _ => ((orderly.located.held socket evicted token).running
        (orderly.located.sound.queries.running_listed running)).2 with
    ⟨_, same⟩ | ⟨runs, running, retires | requeues⟩
  · exact taken.unchanged nothing same
  · refine taken.freed nothing located (by rw [retires]; rfl) ?_
      (orderly.settled_of_evicted first running runs)
    intro found different
    rw [retires, Master.current_dropQuery, Master.current_releaseWorker, if_neg different]
    rfl
  · refine taken.freed nothing located (by rw [requeues]; rfl) ?_
      (orderly.settled_of_evicted first running runs)
    intro found different
    rw [requeues, Master.current_releaseWorker, if_neg different]
    rfl

/-- An idle worker owes nothing, and owes the query that it is sent afterwards. -/
theorem Orderly.dispatch (orderly : Orderly cluster) (config : MasterConfig) (sent : Bool) :
    Orderly (cluster.afterHandler (cluster.master.tryDispatch config sent)) := by
  have located := orderly.located.dispatch config sent
  have sound := orderly.located.sound
  rcases sound.tryDispatch_cases config sent with
    ⟨quiet, nothing⟩ | ⟨socket, idleRest, queryId, readyRest, worker, query, idle, ready,
      workerBlock, queryBlock, assigned⟩
  · have startsNothing : Master.StartsNothing (cluster.master.tryDispatch config sent).2 := by
      rw [nothing]
      exact Master.startsNothing_nil
    refine orderly.afterHandler startsNothing located ?_
    rw [quiet.workerList]
    intro socket listed queryId member
    rw [quiet.current]
    exact orderly.own socket listed queryId member
  · rw [assigned] at located ⊢
    have isIdle : socket ∈ cluster.master.idleList := by simp [idle]
    have listed := (sound.workers.listed_iff socket).mpr (Or.inl isIdle)
    have settled : cluster.due socket = [] := by
      refine List.eq_nil_iff_forall_not_mem.mpr fun found member => ?_
      have runs := orderly.own socket listed found member
      rw [sound.workers.current_of_idle isIdle] at runs
      cases runs
    have dueEq : ∀ found, (cluster.afterHandler
        (cluster.master.assignQuery socket queryId worker.workerId,
          [.toWorker socket (.startQuery queryId query.programCounter
            query.queryFilePath)])).due found =
        cluster.due found ++ if found = socket then [queryId] else [] := by
      intro found
      by_cases same : found = socket
      · simp [same, due, Cluster.afterHandler, Master.messagesTo]
      · simp [same, Ne.symm same, due, Cluster.afterHandler, Master.messagesTo]
    refine ⟨located, ?_, ?_, ?_, orderly.noError⟩
    · intro found
      rw [dueEq]
      split
      · rename_i same
        simp [same, settled]
      · simpa using orderly.single found
    · intro found foundListed other member
      rw [dueEq] at member
      change (cluster.master.assignQuery socket queryId worker.workerId).current found = _
      rw [Master.current_assignQuery workerBlock]
      split
      · rename_i same
        simp only [same, settled, if_true, List.nil_append, List.mem_singleton] at member
        rw [member]
      · rename_i different
        simp only [different, if_false, List.append_nil] at member
        exact orderly.own found foundListed other member
    · intro found fresh
      have different : found ≠ socket := by
        rintro rfl
        exact fresh (orderly.located.connected found listed)
      rw [dueEq, if_neg different, List.append_nil]
      exact orderly.unused found fresh

theorem Orderly.handler (orderly : Orderly cluster) {effect : Master × List Outgoing}
    (handled : cluster.handlerEffect config label = some effect) :
    Orderly ((cluster.attend label).afterHandler effect) := by
  by_cases moves : Moves label
  · cases label with
    | newQuery path priority client now =>
        obtain rfl := Option.some.inj handled
        exact orderly.newQuery config path priority client now
    | receive socket now =>
        obtain ⟨report, head, rfl⟩ := Option.map_eq_some_iff.mp handled
        obtain ⟨rest, first⟩ := List.head?_eq_some_iff.mp head
        cases report with
        | endQuery ended => exact orderly.endQuery first
        | evictRes evicted programCounter => exact orderly.evictRes first
        | storageError queryId reason =>
            exact absurd (by simp [first]) (orderly.noError socket queryId reason)
    | dispatch sent =>
        obtain rfl := Option.some.inj handled
        exact orderly.dispatch config sent
    | _ => exact absurd moves id
  · exact orderly.silent handled moves

end Due

end Cluster

end MasterOfFiles
