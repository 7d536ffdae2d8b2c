import MasterOfFiles.ClusterTokens
import Mathlib.Data.List.Nodup

/-!
# The worker table and the running queries

A busy worker runs a query of `running_list` that is assigned to it.  A Worker
whose instruction fails on a Storage error reports the error and then the end of
the query.  The error already frees the worker, so a second query can be assigned
to it before the end of the first one arrives; the end then makes the worker
forget the second query.  The tables match in every run in which this does not
happen and no Query Control disconnects from a query that was canceled before.
-/

namespace MasterOfFiles

namespace Master

variable {master after : Master} {socket queryId : Nat}

/-- The worker table and the running queries match. -/
structure Matched (master : Master) : Prop where
  listed_once : ∀ socket ∈ master.workerList,
    master.idleList.count socket + master.busyList.count socket = 1
  busy_iff_state : ∀ socket ∈ master.workerList, ∀ worker,
    master.worker socket = some worker →
      (socket ∈ master.busyList ↔ worker.state = .busy)
  busy_iff_running : ∀ socket ∈ master.workerList, ∀ worker,
    master.worker socket = some worker →
      (socket ∈ master.busyList ↔ ∃ queryId ∈ master.runningList, ∃ query,
        worker.currentQueryId = some queryId ∧ master.query queryId = some query ∧
          query.assignedWorkerId = some worker.workerId)
  unique : ∀ socket ∈ master.workerList, ∀ other ∈ master.workerList, ∀ queryId,
    master.current socket = some queryId → master.current other = some queryId →
      socket = other

/-- Every busy worker is marked so and runs a query of `running_list`. -/
def BusyRun (master : Master) : Prop :=
  ∀ socket ∈ master.busyList, ∃ worker queryId, master.worker socket = some worker ∧
    worker.state = .busy ∧ worker.currentQueryId = some queryId ∧
    queryId ∈ master.runningList

theorem Sound.matched (sound : Sound master) (busyRun : BusyRun master) : Matched master where
  listed_once socket listed := by
    have once : (master.idleList ++ master.busyList).count socket = 1 :=
      List.count_eq_one_of_mem sound.workers.lists_nodup
        (List.mem_append.mpr ((sound.workers.listed_iff socket).mp listed))
    rw [← List.count_append]
    exact once
  busy_iff_state socket listed worker block := by
    constructor
    · intro busy
      obtain ⟨found, queryId, foundBlock, state, _⟩ := busyRun socket busy
      obtain rfl : worker = found := Option.some.inj (block.symm.trans foundBlock)
      exact state
    · intro state
      rcases (sound.workers.listed_iff socket).mp listed with idle | busy
      · rw [(sound.workers.idle socket idle worker block).2] at state
        cases state
      · exact busy
  busy_iff_running socket listed worker block := by
    constructor
    · intro busy
      obtain ⟨found, queryId, foundBlock, _, names, running⟩ := busyRun socket busy
      obtain rfl : worker = found := Option.some.inj (block.symm.trans foundBlock)
      obtain ⟨query, queryBlock⟩ :=
        sound.queries.exists_block (sound.queries.running_listed running)
      exact ⟨queryId, running, query, names, queryBlock,
        sound.assignments.assigned socket queryId worker query block names queryBlock⟩
    · rintro ⟨queryId, _, query, names, _, _⟩
      exact sound.workers.busy_of_current (current_eq_some_iff.mpr ⟨worker, block, names⟩)
  unique socket _ other _ queryId runs otherRuns := by
    have busy := sound.workers.busy_of_current runs
    obtain ⟨worker, found, block, _, names, running⟩ := busyRun socket busy
    obtain ⟨holder, holderBlock, holderNames⟩ := current_eq_some_iff.mp runs
    obtain rfl : worker = holder := Option.some.inj (block.symm.trans holderBlock)
    obtain rfl : found = queryId := Option.some.inj (names.symm.trans holderNames)
    exact sound.assignments.unique socket other found runs otherRuns
      (sound.queries.running_listed running)

section BusyRun

theorem BusyRun.keep (busyRun : BusyRun master)
    (stays : ∀ socket ∈ after.busyList, socket ∈ master.busyList ∧
      after.worker socket = master.worker socket)
    (running : ∀ socket ∈ after.busyList, ∀ queryId, master.current socket = some queryId →
      queryId ∈ master.runningList → queryId ∈ after.runningList) : BusyRun after := by
  intro socket busy
  obtain ⟨wasBusy, same⟩ := stays socket busy
  obtain ⟨worker, queryId, block, state, names, wasRunning⟩ := busyRun socket wasBusy
  exact ⟨worker, queryId, same.trans block, state, names,
    running socket busy queryId (current_eq_some_iff.mpr ⟨worker, block, names⟩) wasRunning⟩

theorem BusyRun.quiet (busyRun : BusyRun master) (quiet : Quiet master after) :
    BusyRun after := by
  refine busyRun.keep ?_ ?_
  · intro socket busy
    rw [quiet.busyList] at busy
    exact ⟨busy, by rw [quiet.worker]⟩
  · intro socket _ queryId _ running
    rw [quiet.runningList]
    exact running

theorem BusyRun.dropReady (busyRun : BusyRun master) (sound : Sound master)
    (ready : queryId ∈ master.readyQueue) : BusyRun (master.dropQuery queryId) := by
  refine busyRun.keep (fun socket busy => ⟨busy, rfl⟩) ?_
  intro socket _ other _ running
  rw [mem_runningList_dropQuery sound.queries]
  refine ⟨?_, running⟩
  rintro rfl
  exact sound.queries.not_running ready running

theorem BusyRun.cleanupWorkerResources (busyRun : BusyRun master) (sound : Sound master) :
    BusyRun (master.cleanupWorkerResources socket) := by
  have busyNodup := (List.nodup_append.mp sound.workers.lists_nodup).2.1
  refine busyRun.keep ?_ fun _ _ _ _ running => running
  intro other busy
  obtain ⟨different, wasBusy⟩ := busyNodup.mem_erase_iff.mp busy
  exact ⟨wasBusy, Function.update_of_ne different _ _⟩

/-- A worker other than the holder of a query runs another one. -/
theorem BusyRun.other (busyRun : BusyRun master) (sound : Sound master)
    (runs : master.current socket = some queryId) {other found : Nat}
    (different : other ≠ socket) (otherRuns : master.current other = some found) :
    found ≠ queryId := by
  rintro rfl
  obtain ⟨worker, held, block, _, names, running⟩ :=
    busyRun socket (sound.workers.busy_of_current runs)
  obtain rfl : held = found := Option.some.inj
    ((current_eq_some_iff.mpr ⟨worker, block, names⟩).symm.trans runs)
  exact different (sound.assignments.unique other socket held otherRuns runs
    (sound.queries.running_listed running))

/-- A busy worker that stops working takes only its own query along. -/
theorem BusyRun.unassign (busyRun : BusyRun master) (sound : Sound master)
    (runs : master.current socket = some queryId)
    (busy : after.busyList = master.busyList.erase socket)
    (workers : ∀ other, other ≠ socket → after.worker other = master.worker other)
    (running : ∀ other, other ≠ queryId → other ∈ master.runningList →
      other ∈ after.runningList) : BusyRun after := by
  have busyIff : ∀ other, other ∈ after.busyList ↔ other ≠ socket ∧ other ∈ master.busyList := by
    intro other
    rw [busy]
    exact (List.nodup_append.mp sound.workers.lists_nodup).2.1.mem_erase_iff
  apply busyRun.keep
  · intro other stays
    obtain ⟨different, wasBusy⟩ := (busyIff other).mp stays
    exact ⟨wasBusy, workers other different⟩
  · intro other stays found otherRuns
    obtain ⟨different, _⟩ := (busyIff other).mp stays
    exact running found (busyRun.other sound runs different otherRuns)

theorem BusyRun.abandon (busyRun : BusyRun master) (sound : Sound master)
    (runs : master.current socket = some queryId) :
    BusyRun ((master.dropQuery queryId).cleanupWorkerResources socket) := by
  apply busyRun.unassign sound runs rfl
  · exact fun other different => Function.update_of_ne different _ _
  · exact fun other different wasRunning =>
      (mem_runningList_dropQuery sound.queries).mpr ⟨different, wasRunning⟩

theorem BusyRun.retire (busyRun : BusyRun master) (sound : Sound master)
    (runs : master.current socket = some queryId) :
    BusyRun ((master.releaseWorker socket).dropQuery queryId) := by
  apply busyRun.unassign sound runs rfl
  · exact fun other different => worker_forgetQuery_of_ne different
  · exact fun other different wasRunning =>
      (mem_runningList_dropQuery sound.queries).mpr ⟨different, wasRunning⟩

theorem BusyRun.requeue (busyRun : BusyRun master) (sound : Sound master)
    {programCounter now : Nat} (runs : master.current socket = some queryId) :
    BusyRun ((master.requeueEvicted queryId programCounter now).releaseWorker socket) := by
  apply busyRun.unassign sound runs rfl
  · exact fun other different => worker_forgetQuery_of_ne different
  · exact fun other different wasRunning =>
      sound.queries.running_nodup.mem_erase_iff.mpr ⟨different, wasRunning⟩

theorem BusyRun.forgetQuery (busyRun : BusyRun master)
    (done : ∀ queryId, master.current socket = some queryId → queryId ∉ master.runningList) :
    BusyRun (master.forgetQuery socket) := by
  refine busyRun.keep ?_ fun _ _ _ _ running => running
  intro other busy
  refine ⟨busy, worker_forgetQuery_of_ne ?_⟩
  rintro rfl
  obtain ⟨worker, queryId, block, _, names, running⟩ := busyRun other busy
  exact done queryId (current_eq_some_iff.mpr ⟨worker, block, names⟩) running

theorem BusyRun.assignQuery (busyRun : BusyRun master) {worker : WorkerControlBlock}
    (block : master.worker socket = some worker) (workerId : Nat) :
    BusyRun (master.assignQuery socket queryId workerId) := by
  intro other busy
  by_cases same : other = socket
  · exact ⟨_, queryId, by rw [same, worker_assignQuery_self block], rfl, rfl,
      mem_runningList_assignQuery.mpr (Or.inr rfl)⟩
  · have wasBusy : other ∈ master.busyList :=
      (List.mem_append.mp busy).resolve_right fun new => same (List.mem_singleton.mp new)
    obtain ⟨holder, found, holderBlock, state, names, running⟩ := busyRun other wasBusy
    exact ⟨holder, found, (worker_assignQuery_of_ne same).trans holderBlock, state, names,
      mem_runningList_assignQuery.mpr (Or.inl running)⟩

theorem BusyRun.createWorker (busyRun : BusyRun master) (sound : Sound master) {workerId : Nat}
    (fresh : socket ∉ master.workerList) : BusyRun (master.createWorker workerId socket) := by
  refine busyRun.keep ?_ fun _ _ _ _ running => running
  intro other busy
  refine ⟨busy, Function.update_of_ne ?_ _ _⟩
  rintro rfl
  exact fresh ((sound.workers.listed_iff other).mpr (Or.inr busy))

end BusyRun

end Master

namespace Cluster

variable {config : MasterConfig} {scripts : Scripts} {cluster after : Cluster}
variable {label : ClusterLabel}

/-- No Query Control disconnects from a query that was canceled before. -/
def CancelsOnce (cluster : Cluster) : ClusterLabel → Prop
  | .disconnectQueryControl _ socket => ∀ queryId query,
      cluster.master.findQueryBySocket socket = some queryId →
        cluster.master.query queryId = some query → query.state ≠ .canceled
  | _ => True

theorem cancelsOnce_disconnect {sent : Bool} {socket : Nat} :
    (∀ queryId ∈ cluster.master.findQueryBySocket socket,
      ∀ query ∈ cluster.master.query queryId, query.state ≠ .canceled) ↔
      cluster.CancelsOnce (.disconnectQueryControl sent socket) :=
  ⟨fun once queryId query found held => once queryId found query held,
    fun once queryId found query held => once queryId query found held⟩

instance (cluster : Cluster) (label : ClusterLabel) : Decidable (cluster.CancelsOnce label) :=
  match label with
  | .disconnectQueryControl _ _ => decidable_of_iff _ cancelsOnce_disconnect
  | .aging _ | .checkPreemption _ | .dispatch _ | .handshake _ _ | .newQuery _ _ _ _
  | .receive _ _ | .disconnectWorker _ | .listen _ _ | .execute _ _ => isTrue trivial

/-- The condition under which a step keeps the tables matched. -/
def KeepsMatched (cluster : Cluster) (label : ClusterLabel) : Prop :=
  cluster.EndsOwn label ∧ cluster.CancelsOnce label

instance (cluster : Cluster) (label : ClusterLabel) : Decidable (cluster.KeepsMatched label) :=
  inferInstanceAs (Decidable (cluster.EndsOwn label ∧ cluster.CancelsOnce label))

theorem Located.busyRun_report (located : Located cluster) {socket now : Nat}
    {report : WorkerReport} (busyRun : cluster.master.BusyRun)
    (head : (cluster.toMaster socket).head? = some report)
    (own : cluster.EndsOwn (.receive socket now)) :
    (cluster.master.handleReport socket now report).1.BusyRun := by
  have sound := located.sound
  obtain ⟨rest, first⟩ := List.head?_eq_some_iff.mp head
  cases report with
  | endQuery ended =>
      have holds := located.endHeld socket ended (mem_endIds.mpr (by simp [first]))
      change (cluster.master.manageWorkerEndQuery socket ended).1.BusyRun
      obtain ⟨_, ⟨_, same⟩ | ⟨_, notRunning, forgets⟩ | ⟨_, running, retires⟩⟩ :=
        sound.manageWorkerEndQuery_cases socket ended
      · rw [same]
        exact busyRun
      · rw [forgets]
        refine busyRun.forgetQuery fun queryId runs => ?_
        rcases own ended head with idle | runsEnded
        · rw [idle] at runs
          cases runs
        · obtain rfl : ended = queryId := Option.some.inj (runsEnded.symm.trans runs)
          exact notRunning
      · rw [retires]
        exact busyRun.retire sound (holds.running (sound.queries.running_listed running)).2
  | evictRes evicted programCounter =>
      have token : evicted ∈ cluster.tokens socket :=
        List.mem_append_left _ (mem_evictIds.mpr ⟨programCounter, by simp [first]⟩)
      change (cluster.master.manageWorkerEvictResponse socket evicted programCounter
        now).BusyRun
      rcases sound.manageWorkerEvictResponse_cases programCounter now fun running _ =>
          ((located.held socket evicted token).running
            (sound.queries.running_listed running)).2 with
        ⟨_, same⟩ | ⟨runs, running, retires | requeues⟩
      · rw [same]
        exact busyRun
      · rw [retires]
        exact busyRun.retire sound runs
      · rw [requeues]
        exact busyRun.requeue sound runs
  | storageError messageId reason =>
      change (cluster.master.handleErrorFromStorage socket messageId reason).1.BusyRun
      obtain ⟨_, same | ⟨retired, _, runs, retires⟩⟩ :=
        sound.handleErrorFromStorage_cases socket messageId reason
      · rw [same]
        exact busyRun
      · rw [retires]
        exact busyRun.retire sound runs

theorem Located.busyRun_handler (located : Located cluster)
    {effect : Master × List Outgoing} (busyRun : cluster.master.BusyRun)
    (handled : cluster.handlerEffect config label = some effect)
    (keeps : cluster.KeepsMatched label) : effect.1.BusyRun := by
  have sound := located.sound
  cases label with
  | handshake workerId socket =>
      simp only [handlerEffect] at handled
      split at handled
      · rename_i usable
        obtain rfl := Option.some.inj handled
        simp only [Master.manageWorkerHandshake]
        split
        · exact busyRun
        · exact busyRun.createWorker sound
            fun listed => usable.2 (located.connected socket listed)
      · cases handled
  | newQuery path priority socket now =>
      obtain rfl := Option.some.inj handled
      simp only [Master.createQuery]
      rw [Master.enqueueReady_eq]
      exact busyRun
  | receive socket now =>
      obtain ⟨report, head, rfl⟩ := Option.map_eq_some_iff.mp handled
      exact located.busyRun_report busyRun head keeps.1
  | disconnectQueryControl sent socket =>
      obtain rfl := Option.some.inj handled
      obtain ⟨_, quiet | ⟨queryId, query, found, block, isReady, drops⟩⟩ :=
        sound.handleQueryControlDisconnection_cases sent socket
      · exact busyRun.quiet quiet
      · rw [drops]
        exact busyRun.dropReady sound (isReady (keeps.2 queryId query found block))
  | disconnectWorker socket =>
      obtain rfl := Option.some.inj handled
      obtain ⟨_, same | ⟨_, leaves⟩ | ⟨queryId, runs, abandons⟩⟩ :=
        sound.handleWorkerDisconnection_cases socket
      · rw [same]
        exact busyRun
      · rw [leaves]
        exact busyRun.cleanupWorkerResources sound
      · rw [abandons]
        exact busyRun.abandon sound runs
  | aging now =>
      obtain rfl := Option.some.inj handled
      exact busyRun.quiet (Master.quiet_agingPass config now)
  | checkPreemption sent =>
      obtain rfl := Option.some.inj handled
      exact busyRun.quiet (sound.checkPreemption sent).1
  | dispatch sent =>
      obtain rfl := Option.some.inj handled
      rcases sound.tryDispatch_cases config sent with
        ⟨quiet, _⟩ | ⟨socket, idleRest, queryId, readyRest, worker, query, _, _, workerBlock,
          _, assigned⟩
      · exact busyRun.quiet quiet
      · rw [assigned]
        exact busyRun.assignQuery workerBlock worker.workerId
  | listen socket flush => cases handled
  | execute socket answers => cases handled

theorem Located.busyRun_step (located : Located cluster) (busyRun : cluster.master.BusyRun)
    (keeps : cluster.KeepsMatched label)
    (step : cluster.next config scripts label = some after) : after.master.BusyRun := by
  rcases next_cases step with ⟨effect, handled, rfl⟩ | ⟨socket, effect, taken, rfl⟩
  · exact located.busyRun_handler busyRun handled keeps
  · have unchanged : ((cluster.takeMessage label).afterThread socket effect).master =
        cluster.master := by
      cases label <;> rfl
    rw [unchanged]
    exact busyRun

/-- The invariant of the runs whose steps meet the condition. -/
structure Consistent (cluster : Cluster) : Prop where
  located : Located cluster
  busyRun : cluster.master.BusyRun

/-- The tables match along every run whose steps meet the condition. -/
theorem matched_of_reachable
    (reachable : ((system config scripts).guarded KeepsMatched).Reachable cluster) :
    cluster.master.Matched := by
  have consistent : Consistent cluster := by
    refine reachable.invariant ?_ ?_
    · rintro first rfl
      refine ⟨located_started, ?_⟩
      intro socket busy
      simp [started, initMaster] at busy
    · rintro before label after ⟨located, busyRun⟩ step
      exact ⟨located.step step.1.1 step.2, located.busyRun_step busyRun step.1 step.2⟩
  exact consistent.located.sound.matched consistent.busyRun

section Runs

def oneOperation : Scripts where
  lines _ := ["TRUNCATE MATERIAS:BASE 16", "END"]
  decode line := if line = "END" then .finish else .operation

/-- Query 0 ends on Worker 5, which gets query 2; the Query Control of query 1 disconnects, and
Worker 6 gives it up. -/
def endedAndCanceled : List ClusterLabel :=
  [.newQuery "AGING_1" 4 8 1, .newQuery "AGING_2" 4 9 1, .newQuery "AGING_3" 4 10 1,
    .handshake 1 5, .handshake 2 6, .dispatch true, .dispatch true, .listen 5 none] ++
  List.replicate 8 (.execute 5 ⟨.succeeded, none⟩) ++
  [.receive 5 2, .dispatch true, .listen 6 none, .disconnectQueryControl true 9,
    .listen 6 none, .receive 6 3]

theorem matched_endedAndCanceled :
    ∃ cluster, ((system (.mergeSorting .fifo 0) oneOperation).guarded KeepsMatched).Reachable
        cluster ∧
      cluster.master.busyList = [5] ∧ cluster.master.idleList = [6] ∧
        cluster.master.runningList = [2] ∧ cluster.master.Matched := by
  have ends : (TransitionSystem.runNext (TransitionSystem.guardedNext
      (next (.mergeSorting .fifo 0) oneOperation) KeepsMatched) started
      endedAndCanceled).any (fun cluster => decide (cluster.master.busyList = [5] ∧
        cluster.master.idleList = [6] ∧ cluster.master.runningList = [2])) = true := by
    decide +kernel
  obtain ⟨cluster, run, lists⟩ := (Option.any_eq_true _ _).mp ends
  obtain ⟨busy, idle, running⟩ := of_decide_eq_true lists
  have reachable : ((system (.mergeSorting .fifo 0) oneOperation).guarded
      KeepsMatched).Reachable cluster :=
    ⟨started, endedAndCanceled, rfl, TransitionSystem.run_of_runGuarded run⟩
  exact ⟨cluster, reachable, busy, idle, running, matched_of_reachable reachable⟩

/-- The first query fails on a Storage error, and the second one is dispatched
between the error and the end of the first. -/
def errorThenEnd : List ClusterLabel :=
  [.newQuery "AGING_1" 4 8 1, .handshake 1 5, .dispatch true, .newQuery "AGING_2" 4 9 1,
    .listen 5 none,
    .execute 5 ⟨.succeeded, none⟩, .execute 5 ⟨.succeeded, none⟩,
    .execute 5 ⟨.succeeded, none⟩,
    .execute 5 ⟨.failedReporting false "FILE_NOT_FOUND", none⟩,
    .receive 5 2, .dispatch true,
    .execute 5 ⟨.succeeded, none⟩, .receive 5 3]

theorem busy_worker_marked_idle :
    ∃ cluster, (system (.mergeSorting .fifo 0) oneOperation).Reachable cluster ∧
      ¬ cluster.master.Matched := by
  have ends : (TransitionSystem.runNext (next (.mergeSorting .fifo 0) oneOperation) started
      errorThenEnd).any (fun cluster =>
        decide (5 ∈ cluster.master.workerList ∧ 5 ∈ cluster.master.busyList) &&
          decide ((cluster.master.worker 5).map WorkerControlBlock.state = some .idle)) =
      true := by
    decide +kernel
  obtain ⟨cluster, run, found⟩ := (Option.any_eq_true _ _).mp ends
  obtain ⟨lists, state⟩ := Bool.and_eq_true_iff.mp found
  obtain ⟨listed, busy⟩ := of_decide_eq_true lists
  obtain ⟨worker, block, idle⟩ := Option.map_eq_some_iff.mp (of_decide_eq_true state)
  refine ⟨cluster, ⟨started, errorThenEnd, rfl, TransitionSystem.run_of_runNext run⟩, ?_⟩
  intro matched
  rw [(matched.busy_iff_state 5 listed worker block).mp busy] at idle
  cases idle

end Runs

end Cluster

end MasterOfFiles
