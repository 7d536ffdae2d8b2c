import MasterOfFiles.MasterEffects
import MasterOfFiles.TransitionSystem

/-!
# Whole handlers of the Master, one after another

The handlers of the Master with the `try_dispatch` that some of them end with, each run to its
end before the next one starts, with every send succeeding.  `try_dispatch` hands out one query
at most and none while a preemption is pending; what that leaves undone depends on the handlers
that follow it.  Each connection is registered as a Worker at most once, and no accepted
connection has descriptor 0.
-/

namespace MasterOfFiles

namespace Master

/-- What makes a handler of the Master run. -/
inductive Event
  | workerHandshake (workerId socket : Nat)
  | newQuery (path : String) (priority socket now : Nat)
  | readMessage (queryId : Nat)
  | endQuery (socket queryId : Nat)
  | evictRes (socket queryId programCounter now : Nat)
  | storageError (socket queryId : Nat) (reason : String)
  | disconnectQueryControl (socket : Nat)
  | disconnectWorker (socket : Nat)
  | aging (now : Nat)
deriving DecidableEq

/-- A `try_dispatch` whose message, if it sends one, arrives. -/
def dispatch (config : MasterConfig) (master : Master) : Master :=
  (master.tryDispatch config true).1

/-- The part of `aging_thread_func` after its sleep. -/
def agingRound (config : MasterConfig) (now : Nat) (master : Master) : Master :=
  if config.schedulingAlgorithm = .fifo ∨ config.agingInterval = 0 ∨ master.readyQueue = [] then
    master
  else ((master.agingPass config now).checkPreemption true).1

def complete (config : MasterConfig) (master : Master) : Event → Option Master
  | .workerHandshake workerId socket =>
    if socket = 0 ∨ socket ∈ master.workerList then none
    else if workerId = 0 then some (master.manageWorkerHandshake workerId socket)
    else some ((master.manageWorkerHandshake workerId socket).dispatch config)
  | .newQuery path priority socket now =>
    some ((master.createQuery config path priority socket now).dispatch config)
  | .readMessage queryId =>
    some (if (master.findRunning queryId).isNone then master.dispatch config else master)
  | .endQuery socket queryId =>
    let handled := (master.manageWorkerEndQuery socket queryId).1
    some (if (master.findWorkerBySocket socket).isNone ∨ (master.findRunning queryId).isNone
      then handled else handled.dispatch config)
  | .evictRes socket queryId programCounter now =>
    some ((master.manageWorkerEvictResponse socket queryId programCounter now).dispatch config)
  | .storageError socket queryId reason =>
    some ((master.handleErrorFromStorage socket queryId reason).1.dispatch config)
  | .disconnectQueryControl socket =>
    some (master.handleQueryControlDisconnection true socket).1
  | .disconnectWorker socket => some (master.handleWorkerDisconnection socket).1
  | .aging now => some (master.agingRound config now)

def scheduling (config : MasterConfig) : TransitionSystem Master Event :=
  .ofNext (· = initMaster) (complete config)

def Preempting (master : Master) (queryId : Nat) : Prop :=
  ∃ query, master.query queryId = some query ∧ query.preemptionPending = true

/-- A request to preempt some running query is pending. -/
def AwaitsEviction (master : Master) : Prop :=
  ∃ queryId ∈ master.runningList, master.Preempting queryId

/-- No worker is idle beside a ready query, unless an eviction is awaited. -/
def LeavesNothingUndone (master : Master) : Prop :=
  master.idleList ≠ [] → master.readyQueue ≠ [] → master.AwaitsEviction

/-- The eviction of this running query is the only one that is awaited. -/
def AwaitsOnly (master : Master) (queryId : Nat) : Prop :=
  queryId ∈ master.runningList ∧ master.Preempting queryId ∧
    ∀ other ∈ master.runningList, master.Preempting other → other = queryId

/-- A handler that ends the only awaited eviction leaves at most one query for its
`try_dispatch` to hand out, or nothing to hand out where it has none.  The second part of the
clause for the disconnection of a Worker is about a worker that stands twice in `idle_list`
when it is freed. -/
def KeepsUp (master : Master) : Event → Prop
  | .endQuery socket queryId =>
    socket ∈ master.workerList → master.AwaitsOnly queryId →
      master.idleList = [] ∨ master.readyQueue.length ≤ 1
  | .storageError socket _ _ =>
    ∀ queryId, (master.findWorkerBySocket socket).bind WorkerControlBlock.currentQueryId =
        some queryId →
      master.AwaitsOnly queryId → master.idleList = [] ∨ master.readyQueue.length ≤ 1
  | .evictRes socket queryId _ _ =>
    socket ∈ master.workerList → master.AwaitsOnly queryId →
      (master.idleList.length + if socket ∈ master.busyList then 1 else 0) ≤ 1 ∨
        (master.readyQueue.length +
          if (master.query queryId).any fun query => decide (query.state = .canceled) then 0
          else 1) ≤ 1
  | .disconnectQueryControl socket =>
    ∀ queryId query, master.findQueryBySocket socket = some queryId →
      master.query queryId = some query → query.state ≠ .running →
        master.AwaitsOnly queryId → master.idleList = [] ∨ master.readyQueue = []
  | .disconnectWorker socket =>
    (∀ queryId, (master.findWorkerBySocket socket).bind WorkerControlBlock.currentQueryId =
        some queryId →
      master.AwaitsOnly queryId →
        master.idleList.erase socket = [] ∨ master.readyQueue = []) ∧
      socket ∉ master.idleList.erase socket
  | _ => True

/-- What a `try_dispatch` needs to succeed: the elements of the queues exist, once each, and so
do the idle workers. -/
structure Dispatchable (master : Master) : Prop where
  queues_nodup : (master.readyQueue ++ master.runningList).Nodup
  queued : ∀ queryId ∈ master.readyQueue ++ master.runningList,
    master.query queryId ≠ none ∧ queryId < master.nextQueryId
  not_cleanedUp : ∀ queryId query, master.query queryId = some query →
    query.cleanedUp = false
  idle : ∀ socket ∈ master.idleList, master.worker socket ≠ none
  socket_pos : ∀ socket, master.worker socket ≠ none → 0 < socket

variable {master after : Master} {socket queryId : Nat}

theorem dispatchable_initMaster : Dispatchable initMaster where
  queues_nodup := List.nodup_nil
  queued := by
    intro queryId member
    cases member
  not_cleanedUp := by
    intro queryId query block
    cases block
  idle := by
    intro socket member
    cases member
  socket_pos := by
    intro socket present
    exact absurd rfl present

section Primitives

theorem Dispatchable.modifyQuery (dispatchable : Dispatchable master) (queryId : Nat)
    (change : QueryControlBlock → QueryControlBlock)
    (keeps : ∀ query, (change query).cleanedUp = query.cleanedUp) :
    Dispatchable (master.modifyQuery queryId change) where
  queues_nodup := dispatchable.queues_nodup
  queued := by
    intro other member
    have before := dispatchable.queued other member
    refine ⟨?_, before.2⟩
    by_cases same : other = queryId
    · subst same
      simpa [Master.modifyQuery] using before.1
    · simpa [Master.modifyQuery, same] using before.1
  not_cleanedUp := by
    intro other query block
    by_cases same : other = queryId
    · subst same
      simp only [Master.modifyQuery, Function.update_self, Option.map_eq_some_iff] at block
      obtain ⟨old, oldBlock, rfl⟩ := block
      rw [keeps]
      exact dispatchable.not_cleanedUp other old oldBlock
    · simp only [Master.modifyQuery, Function.update_of_ne same] at block
      exact dispatchable.not_cleanedUp other query block
  idle := dispatchable.idle
  socket_pos := dispatchable.socket_pos

theorem Dispatchable.eraseRunning (dispatchable : Dispatchable master) (queryId : Nat) :
    Dispatchable { master with runningList := master.runningList.erase queryId } where
  queues_nodup := dispatchable.queues_nodup.sublist
    (List.Sublist.append_left List.erase_sublist _)
  queued := by
    intro other member
    apply dispatchable.queued
    rcases List.mem_append.mp member with ready | running
    · exact List.mem_append_left _ ready
    · exact List.mem_append_right _ (List.mem_of_mem_erase running)
  not_cleanedUp := dispatchable.not_cleanedUp
  idle := dispatchable.idle
  socket_pos := dispatchable.socket_pos

theorem Dispatchable.dropQuery (dispatchable : Dispatchable master) (queryId : Nat) :
    Dispatchable (master.dropQuery queryId) where
  queues_nodup := dispatchable.queues_nodup.sublist
    (List.Sublist.append List.erase_sublist List.erase_sublist)
  queued := by
    have nodup := List.nodup_append.mp dispatchable.queues_nodup
    have kept : ∀ other, other ∈ (master.dropQuery queryId).readyQueue ++
        (master.dropQuery queryId).runningList →
          other ≠ queryId ∧ other ∈ master.readyQueue ++ master.runningList := by
      intro other member
      rcases List.mem_append.mp member with ready | running
      · have erased := nodup.1.mem_erase_iff.mp ready
        exact ⟨erased.1, List.mem_append_left _ erased.2⟩
      · have erased := nodup.2.1.mem_erase_iff.mp running
        exact ⟨erased.1, List.mem_append_right _ erased.2⟩
    intro other member
    rw [query_dropQuery_of_ne (kept other member).1]
    exact dispatchable.queued other (kept other member).2
  not_cleanedUp := by
    intro other query block
    by_cases same : other = queryId
    · rw [same, query_dropQuery_self] at block
      cases block
    · rw [query_dropQuery_of_ne same] at block
      exact dispatchable.not_cleanedUp other query block
  idle := dispatchable.idle
  socket_pos := dispatchable.socket_pos

theorem worker_modifyWorker_ne_none (change : WorkerControlBlock → WorkerControlBlock)
    {other : Nat} :
    (master.modifyWorker socket change).worker other ≠ none ↔ master.worker other ≠ none := by
  by_cases same : other = socket
  · subst same
    simp [modifyWorker]
  · simp [modifyWorker, same]

theorem Dispatchable.forgetQuery (dispatchable : Dispatchable master) (socket : Nat) :
    Dispatchable (master.forgetQuery socket) where
  queues_nodup := dispatchable.queues_nodup
  queued := dispatchable.queued
  not_cleanedUp := dispatchable.not_cleanedUp
  idle := by
    intro other member
    exact (worker_modifyWorker_ne_none _).mpr (dispatchable.idle other member)
  socket_pos := by
    intro other present
    exact dispatchable.socket_pos other ((worker_modifyWorker_ne_none _).mp present)

theorem Dispatchable.releaseWorker (dispatchable : Dispatchable master)
    (present : master.worker socket ≠ none) : Dispatchable (master.releaseWorker socket) where
  queues_nodup := dispatchable.queues_nodup
  queued := dispatchable.queued
  not_cleanedUp := dispatchable.not_cleanedUp
  idle := by
    intro other member
    apply (worker_modifyWorker_ne_none _).mpr
    rcases List.mem_append.mp member with idle | released
    · exact dispatchable.idle other idle
    · rw [List.mem_singleton.mp released]
      exact present
  socket_pos := (dispatchable.forgetQuery socket).socket_pos

theorem Dispatchable.cleanupWorkerResources (dispatchable : Dispatchable master)
    (once : socket ∉ master.idleList.erase socket) :
    Dispatchable (master.cleanupWorkerResources socket) where
  queues_nodup := dispatchable.queues_nodup
  queued := dispatchable.queued
  not_cleanedUp := dispatchable.not_cleanedUp
  idle := by
    intro other member
    have different : other ≠ socket := by
      rintro rfl
      exact once member
    simp only [Master.cleanupWorkerResources, Function.update_of_ne different]
    exact dispatchable.idle other (List.mem_of_mem_erase member)
  socket_pos := by
    intro other present
    by_cases same : other = socket
    · simp [Master.cleanupWorkerResources, same] at present
    · simp only [Master.cleanupWorkerResources, Function.update_of_ne same] at present
      exact dispatchable.socket_pos other present

theorem Dispatchable.createWorker (dispatchable : Dispatchable master) (workerId : Nat)
    (positive : 0 < socket) : Dispatchable (master.createWorker workerId socket) where
  queues_nodup := dispatchable.queues_nodup
  queued := dispatchable.queued
  not_cleanedUp := dispatchable.not_cleanedUp
  idle := by
    intro other member
    by_cases same : other = socket
    · simp [Master.createWorker, same]
    · simp only [Master.createWorker, Function.update_of_ne same]
      rcases List.mem_append.mp member with idle | created
      · exact dispatchable.idle other idle
      · exact absurd (List.mem_singleton.mp created) same
  socket_pos := by
    intro other present
    by_cases same : other = socket
    · rw [same]
      exact positive
    · simp only [Master.createWorker, Function.update_of_ne same] at present
      exact dispatchable.socket_pos other present

/-- The queues keep their elements, in whatever order. -/
theorem Dispatchable.of_perm (dispatchable : Dispatchable master)
    (queues : (after.readyQueue ++ after.runningList).Perm
      (master.readyQueue ++ master.runningList))
    (blocks : ∀ queryId, master.query queryId ≠ none → after.query queryId ≠ none)
    (nextQueryId : after.nextQueryId = master.nextQueryId)
    (cleaned : ∀ queryId query, after.query queryId = some query → query.cleanedUp = false)
    (idle : ∀ socket ∈ after.idleList, after.worker socket ≠ none)
    (positive : ∀ socket, after.worker socket ≠ none → 0 < socket) : Dispatchable after where
  queues_nodup := queues.nodup_iff.mpr dispatchable.queues_nodup
  queued := by
    intro queryId member
    have before := dispatchable.queued queryId (queues.mem_iff.mp member)
    rw [nextQueryId]
    exact ⟨blocks queryId before.1, before.2⟩
  not_cleanedUp := cleaned
  idle := idle
  socket_pos := positive

theorem Dispatchable.of_quiet (dispatchable : Dispatchable master)
    (quiet : Quiet master after) : Dispatchable after := by
  apply dispatchable.of_perm
  · rw [quiet.runningList]
    exact quiet.readyQueue.append_right _
  · intro queryId present missing
    exact present (quiet.query_eq_none_iff.mp missing)
  · exact quiet.nextQueryId
  · intro queryId query block
    obtain ⟨old, oldBlock, cleaned, -⟩ := quiet.block block
    rw [cleaned]
    exact dispatchable.not_cleanedUp queryId old oldBlock
  · intro socket member
    rw [quiet.worker]
    exact dispatchable.idle socket (quiet.idleList.mem_iff.mp member)
  · rw [quiet.worker]
    exact dispatchable.socket_pos

theorem Dispatchable.createQuery (dispatchable : Dispatchable master) (config : MasterConfig)
    (path : String) (priority socket now : Nat) :
    Dispatchable (master.createQuery config path priority socket now) := by
  have queues : ((master.createQuery config path priority socket now).readyQueue ++
      master.runningList).Perm (master.nextQueryId :: (master.readyQueue ++ master.runningList)) :=
    (enqueueReady_readyQueue config).append_right _
  have fresh : master.nextQueryId ∉ master.readyQueue ++ master.runningList :=
    fun member => Nat.lt_irrefl _ (dispatchable.queued _ member).2
  have unchanged : (master.createQuery config path priority socket now).runningList =
      master.runningList ∧ (master.createQuery config path priority socket now).nextQueryId =
        master.nextQueryId + 1 ∧
      (master.createQuery config path priority socket now).idleList = master.idleList ∧
        (master.createQuery config path priority socket now).worker = master.worker := by
    rw [Master.createQuery, enqueueReady_eq]
    exact ⟨rfl, rfl, rfl, rfl⟩
  have blocks : (master.createQuery config path priority socket now).query =
      Function.update master.query master.nextQueryId
        (some (newQueryBlock path priority socket now)) := by
    rw [Master.createQuery, enqueueReady_eq]
    rfl
  constructor
  · rw [unchanged.1, queues.nodup_iff, List.nodup_cons]
    exact ⟨fresh, dispatchable.queues_nodup⟩
  · intro queryId member
    rw [unchanged.1, queues.mem_iff, List.mem_cons] at member
    rw [blocks, unchanged.2.1]
    rcases member with rfl | old
    · simp
    · have before := dispatchable.queued queryId old
      have different : queryId ≠ master.nextQueryId := Nat.ne_of_lt before.2
      rw [Function.update_of_ne different]
      exact ⟨before.1, Nat.lt_succ_of_lt before.2⟩
  · intro queryId query block
    rcases block_createQuery block with ⟨-, rfl⟩ | ⟨-, old⟩
    · rfl
    · exact dispatchable.not_cleanedUp queryId query old
  · rw [unchanged.2.2.1, unchanged.2.2.2]
    exact dispatchable.idle
  · rw [unchanged.2.2.2]
    exact dispatchable.socket_pos

theorem Dispatchable.requeueEvicted (dispatchable : Dispatchable master)
    (running : queryId ∈ master.runningList) (programCounter now : Nat) :
    Dispatchable (master.requeueEvicted queryId programCounter now) := by
  have updated := dispatchable.modifyQuery queryId
    (fun query =>
      { query with
        programCounter := programCounter
        state := .ready
        assignedWorkerId := none
        preemptionPending := false
        readyTimestamp := now }) (fun _ => rfl)
  apply updated.of_perm
  · exact requeueEvicted_perm running
  · exact fun _ present => present
  · rfl
  · exact updated.not_cleanedUp
  · exact updated.idle
  · exact updated.socket_pos

theorem Dispatchable.assignQuery (dispatchable : Dispatchable master) {readyRest : List Nat}
    (ready : master.readyQueue = queryId :: readyRest) (socket workerId : Nat) :
    Dispatchable (master.assignQuery socket queryId workerId) := by
  have updated := dispatchable.modifyQuery queryId
    (fun query =>
      { query with
        state := .running
        assignedWorkerId := some workerId
        preemptionPending := false }) (fun _ => rfl)
  apply updated.of_perm
  · change (master.readyQueue.tail ++ (master.runningList ++ [queryId])).Perm
      (master.readyQueue ++ master.runningList)
    rw [ready, List.tail_cons, ← List.append_assoc]
    exact List.perm_append_singleton _ _
  · exact fun _ present => present
  · rfl
  · exact updated.not_cleanedUp
  · intro other member
    exact (worker_modifyWorker_ne_none _).mpr
      (dispatchable.idle other (List.mem_of_mem_tail member))
  · intro other present
    exact dispatchable.socket_pos other ((worker_modifyWorker_ne_none _).mp present)

end Primitives

section Dispatch

theorem awaitsEviction_iff : master.AwaitsEviction ↔
    (master.runningList.any fun running =>
      (master.query running).any QueryControlBlock.preemptionPending) = true := by
  simp [AwaitsEviction, Preempting, Option.any_eq_true]

/-- A `try_dispatch` waits for an eviction, has nothing to do, or hands out one query. -/
theorem Dispatchable.dispatch_cases (dispatchable : Dispatchable master)
    (config : MasterConfig) :
    master.dispatch config = master ∧
        (master.AwaitsEviction ∨ master.idleList = [] ∨ master.readyQueue = []) ∨
      ∃ socket idleRest queryId readyRest workerId,
        master.idleList = socket :: idleRest ∧ master.readyQueue = queryId :: readyRest ∧
          ¬master.AwaitsEviction ∧
            master.dispatch config = master.assignQuery socket queryId workerId := by
  unfold dispatch tryDispatch
  cases idle : master.idleList with
  | nil => exact Or.inl ⟨rfl, Or.inr (Or.inl rfl)⟩
  | cons socket idleRest =>
      cases ready : master.readyQueue with
      | nil => exact Or.inl ⟨rfl, Or.inr (Or.inr rfl)⟩
      | cons queryId readyRest =>
          by_cases awaits : master.AwaitsEviction
          · left
            rw [awaitsEviction_iff] at awaits
            simp only [awaits, if_true, true_and]
            exact Or.inl (awaitsEviction_iff.mpr awaits)
          · right
            have none := awaits
            rw [awaitsEviction_iff] at none
            have present := dispatchable.idle socket (by simp [idle])
            obtain ⟨worker, workerBlock⟩ := Option.ne_none_iff_exists'.mp present
            obtain ⟨query, queryBlock⟩ := Option.ne_none_iff_exists'.mp
              (dispatchable.queued queryId (by simp [ready])).1
            refine ⟨socket, idleRest, queryId, readyRest, worker.workerId, rfl, rfl, awaits, ?_⟩
            simp only [if_neg none, workerBlock, queryBlock]
            rw [if_pos ⟨trivial, dispatchable.socket_pos socket present⟩]

/-- One `try_dispatch` is enough where there is one pair to hand out at most. -/
theorem Dispatchable.dispatch (dispatchable : Dispatchable master) (config : MasterConfig)
    (few : master.idleList.length ≤ 1 ∨ master.readyQueue.length ≤ 1 ∨ master.AwaitsEviction) :
    Dispatchable (master.dispatch config) ∧ (master.dispatch config).LeavesNothingUndone := by
  rcases dispatchable.dispatch_cases config with
    ⟨same, rest⟩ | ⟨socket, idleRest, queryId, readyRest, workerId, idle, ready, none, assigned⟩
  · rw [same]
    refine ⟨dispatchable, ?_⟩
    intro idle ready
    exact rest.resolve_right fun either => either.elim idle ready
  · rw [assigned]
    refine ⟨dispatchable.assignQuery ready socket workerId, ?_⟩
    intro idleLeft readyLeft
    change master.idleList.tail ≠ [] at idleLeft
    change master.readyQueue.tail ≠ [] at readyLeft
    rw [idle, List.tail_cons] at idleLeft
    rw [ready, List.tail_cons] at readyLeft
    rw [idle, ready, List.length_cons, List.length_cons] at few
    have idlePos := List.length_pos_iff.mpr idleLeft
    have readyPos := List.length_pos_iff.mpr readyLeft
    rcases few with fewIdle | fewReady | awaits
    · omega
    · omega
    · exact absurd awaits none

theorem LeavesNothingUndone.few (undone : master.LeavesNothingUndone) :
    master.idleList.length ≤ 1 ∨ master.readyQueue.length ≤ 1 ∨ master.AwaitsEviction := by
  by_cases idle : master.idleList = []
  · left
    rw [idle]
    exact Nat.zero_le 1
  · by_cases ready : master.readyQueue = []
    · right
      left
      rw [ready]
      exact Nat.zero_le 1
    · exact Or.inr (Or.inr (undone idle ready))

end Dispatch

section Retirement

/-- One query may have left `running_list` or changed; the others have not. -/
structure Retires (queryId : Nat) (master after : Master) : Prop where
  running : ∀ other, other ≠ queryId → other ∈ master.runningList → other ∈ after.runningList
  query : ∀ other, other ≠ queryId → after.query other = master.query other

theorem Retires.awaitsEviction (retires : Retires queryId master after)
    (awaits : master.AwaitsEviction) (others : ¬master.AwaitsOnly queryId) :
    after.AwaitsEviction := by
  have other : ∃ other ∈ master.runningList, master.Preempting other ∧ other ≠ queryId := by
    obtain ⟨pending, running, preempting⟩ := awaits
    by_cases same : pending = queryId
    · subst same
      by_contra none
      apply others
      refine ⟨running, preempting, ?_⟩
      intro other otherRunning otherPreempting
      by_contra different
      exact none ⟨other, otherRunning, otherPreempting, different⟩
    · exact ⟨pending, running, preempting, same⟩
  obtain ⟨other, running, preempting, different⟩ := other
  refine ⟨other, retires.running other different running, ?_⟩
  unfold Preempting
  rw [retires.query other different]
  exact preempting

/-- A handler that retires a query and gains at most one idle worker and one ready query
leaves at most one pair to hand out, if it does so when it ends the only awaited eviction. -/
theorem Retires.few (retires : Retires queryId master after)
    (undone : master.LeavesNothingUndone)
    (idle : after.idleList.length ≤ master.idleList.length + 1)
    (ready : after.readyQueue.length ≤ master.readyQueue.length + 1)
    (keepsUp : master.AwaitsOnly queryId →
      after.idleList.length ≤ 1 ∨ after.readyQueue.length ≤ 1) :
    after.idleList.length ≤ 1 ∨ after.readyQueue.length ≤ 1 ∨ after.AwaitsEviction := by
  by_cases noIdle : master.idleList = []
  · rw [noIdle] at idle
    exact Or.inl idle
  · by_cases noReady : master.readyQueue = []
    · rw [noReady] at ready
      exact Or.inr (Or.inl ready)
    · by_cases only : master.AwaitsOnly queryId
      · rcases keepsUp only with fewIdle | fewReady
        · exact Or.inl fewIdle
        · exact Or.inr (Or.inl fewReady)
      · exact Or.inr (Or.inr (retires.awaitsEviction (undone noIdle noReady) only))

theorem Retires.leavesNothingUndone (retires : Retires queryId master after)
    (undone : master.LeavesNothingUndone)
    (idle : master.idleList = [] → after.idleList = [])
    (ready : master.readyQueue = [] → after.readyQueue = [])
    (keepsUp : master.AwaitsOnly queryId → after.idleList = [] ∨ after.readyQueue = []) :
    after.LeavesNothingUndone := by
  intro idleLeft readyLeft
  by_cases only : master.AwaitsOnly queryId
  · exact absurd (keepsUp only) (not_or.mpr ⟨idleLeft, readyLeft⟩)
  · apply retires.awaitsEviction _ only
    apply undone
    · exact fun noIdle => idleLeft (idle noIdle)
    · exact fun noReady => readyLeft (ready noReady)

/-- The changes that a handler makes around one query it is done with: the others stay as they
are, and no query becomes ready. -/
structure Settles (queryId : Nat) (master after : Master) : Prop extends
    Retires queryId master after where
  dispatchable : Dispatchable after
  ready : after.readyQueue.Sublist master.readyQueue
  workers : ∀ socket, master.worker socket ≠ none → after.worker socket ≠ none

theorem Settles.nothingReady (settles : Settles queryId master after)
    (noReady : master.readyQueue = []) : after.readyQueue = [] := by
  have shorter := settles.ready
  rw [noReady] at shorter
  exact List.eq_nil_of_sublist_nil shorter

theorem Dispatchable.settles (dispatchable : Dispatchable master) (queryId : Nat) :
    Settles queryId master master where
  running _ _ running := running
  query _ _ := rfl
  dispatchable := dispatchable
  ready := List.Sublist.refl _
  workers _ present := present

theorem Settles.modifyQuery (settles : Settles queryId master after)
    (change : QueryControlBlock → QueryControlBlock)
    (keeps : ∀ query, (change query).cleanedUp = query.cleanedUp) :
    Settles queryId master (after.modifyQuery queryId change) where
  running := settles.running
  query other different := by
    simp only [Master.modifyQuery, Function.update_of_ne different]
    exact settles.query other different
  dispatchable := settles.dispatchable.modifyQuery queryId change keeps
  ready := settles.ready
  workers := settles.workers

theorem Settles.eraseRunning (settles : Settles queryId master after) :
    Settles queryId master { after with runningList := after.runningList.erase queryId } where
  running other different running :=
    (List.mem_erase_of_ne different).mpr (settles.running other different running)
  query := settles.query
  dispatchable := settles.dispatchable.eraseRunning queryId
  ready := settles.ready
  workers := settles.workers

theorem Settles.dropQuery (settles : Settles queryId master after) :
    Settles queryId master (after.dropQuery queryId) where
  running other different running :=
    (List.mem_erase_of_ne different).mpr (settles.running other different running)
  query other different := by
    rw [query_dropQuery_of_ne different]
    exact settles.query other different
  dispatchable := settles.dispatchable.dropQuery queryId
  ready := List.erase_sublist.trans settles.ready
  workers := settles.workers

theorem Settles.cleanupQueryResources (settles : Settles queryId master after) :
    Settles queryId master (after.cleanupQueryResources queryId) := by
  unfold Master.cleanupQueryResources
  split
  · exact settles
  · split
    · exact settles
    · exact settles.dropQuery

theorem Settles.finalizeQueryWithError (settles : Settles queryId master after)
    (reason : String) :
    Settles queryId master (after.finalizeQueryWithError queryId reason).1 := by
  unfold Master.finalizeQueryWithError
  split
  · exact settles
  · exact settles.modifyQuery _ fun _ => rfl

theorem Settles.releaseWorker (settles : Settles queryId master after)
    (present : master.worker socket ≠ none) :
    Settles queryId master (after.releaseWorker socket) where
  running := settles.running
  query := settles.query
  dispatchable := settles.dispatchable.releaseWorker (settles.workers socket present)
  ready := settles.ready
  workers other present :=
    (worker_modifyWorker_ne_none _).mpr (settles.workers other present)

theorem workers_cleanupQueryResources (master : Master) (queryId : Nat) :
    (master.cleanupQueryResources queryId).idleList = master.idleList ∧
      (master.cleanupQueryResources queryId).busyList = master.busyList ∧
        (master.cleanupQueryResources queryId).worker = master.worker := by
  unfold Master.cleanupQueryResources
  split
  · exact ⟨rfl, rfl, rfl⟩
  · split
    · exact ⟨rfl, rfl, rfl⟩
    · exact ⟨rfl, rfl, rfl⟩

theorem idleList_finalizeQueryWithError (master : Master) (queryId : Nat) (reason : String) :
    (master.finalizeQueryWithError queryId reason).1.idleList = master.idleList := by
  unfold Master.finalizeQueryWithError
  split
  · rfl
  · rfl

end Retirement

end Master

end MasterOfFiles
