import Mathlib.Data.List.TakeWhile
import MasterOfFiles.MasterHistory
import MasterOfFiles.MasterReadyOrder

/-!
# A dispatch that could not be sent

`try_dispatch` takes the first query of `ready_queue` and the first worker of `idle_list`, and puts
both back when the query cannot be sent.  It puts them back at the end of their lists, or behind
the queries of the same priority, so they keep their places only where there is nothing to be
overtaken by.
-/

namespace MasterOfFiles

namespace Master

variable {config : MasterConfig} {master : Master} {socket queryId : Nat}

section Lists

/-- Taking the first element of a list to its end changes nothing when all elements are equal. -/
theorem rotate_eq_iff {element : Nat} {rest : List Nat} :
    rest ++ [element] = element :: rest ↔ ∀ other ∈ rest, other = element := by
  induction rest with
  | nil => simp
  | cons first rest ih =>
      rw [List.cons_append, List.cons.injEq, List.forall_mem_cons]
      constructor
      · rintro ⟨rfl, same⟩
        exact ⟨rfl, ih.mp same⟩
      · rintro ⟨rfl, same⟩
        exact ⟨rfl, ih.mpr same⟩

/-- `list_add` followed by `list_remove_element`, which removes the first occurrence. -/
theorem erase_append_eq_iff {element : Nat} {list : List Nat} :
    (list ++ [element]).erase element = list ↔
      ∀ other ∈ list.dropWhile (fun other => other != element), other = element := by
  induction list with
  | nil => simp
  | cons first rest ih =>
      by_cases same : first = element
      · subst same
        simp [rotate_eq_iff]
      · have different : (first == element) = false := by simp [same]
        simp [different, bne, ih]

theorem insertQueryByPriority_eq_cons_iff {priority : Nat → Nat} {rest : List Nat}
    (sorted : (queryId :: rest).Pairwise fun first second => priority first ≤ priority second) :
    insertQueryByPriority priority queryId rest = queryId :: rest ↔
      ∀ other ∈ rest, other = queryId ∨ priority queryId < priority other := by
  induction rest with
  | nil => simp [insertQueryByPriority]
  | cons existing rest ih =>
      obtain ⟨least, restSorted⟩ := List.pairwise_cons.mp sorted
      obtain ⟨existingLeast, _⟩ := List.pairwise_cons.mp restSorted
      unfold insertQueryByPriority
      split
      · rename_i less
        simp only [true_iff]
        intro other member
        right
        rcases List.mem_cons.mp member with rfl | later
        · exact less
        · exact Nat.lt_of_lt_of_le less (existingLeast other later)
      · rename_i notLess
        rw [List.cons.injEq, List.forall_mem_cons]
        have shorter : (queryId :: rest).Sublist (queryId :: existing :: rest) :=
          (List.sublist_cons_self existing rest).cons_cons queryId
        have ordered : (queryId :: rest).Pairwise fun first second =>
            priority first ≤ priority second :=
          List.Pairwise.sublist shorter sorted
        constructor
        · rintro ⟨rfl, same⟩
          exact ⟨Or.inl rfl, (ih ordered).mp same⟩
        · rintro ⟨same | less, others⟩
          · subst same
            exact ⟨rfl, (ih ordered).mpr others⟩
          · exact absurd less notLess

end Lists

section Condition

/-- The lists of the two tables are the same, and so are the control blocks of a query and of a
worker. -/
structure Undone (before after : Master) (queryId socket : Nat) : Prop where
  readyQueue : after.readyQueue = before.readyQueue
  idleList : after.idleList = before.idleList
  runningList : after.runningList = before.runningList
  busyList : after.busyList = before.busyList
  query : after.query queryId = before.query queryId
  worker : after.worker socket = before.worker socket

/-- No other query would be dispatched before a query that is queued again. -/
def FirstInTurn (config : MasterConfig) (master : Master) (queryId : Nat) : Prop :=
  match config.schedulingAlgorithm with
  | .fifo => ∀ other ∈ master.readyQueue, other = queryId
  | .priority => ∀ other ∈ master.readyQueue, other = queryId ∨
      master.priorityOf queryId < master.priorityOf other

/-- The query is the only ready one, or the only one of its priority under PRIORITY, and the
worker is the only idle one.  The other fields hold wherever the lists and the control blocks
agree: the first elements of `ready_queue` and `idle_list` are a ready query and an idle worker,
and stand in no other list. -/
structure KeepsPlaces (config : MasterConfig) (master : Master) (queryId socket : Nat) :
    Prop where
  first : FirstInTurn config master queryId
  alone : ∀ other ∈ master.idleList, other = socket
  notRunning : ∀ other ∈ master.runningList.dropWhile (fun other => other != queryId),
    other = queryId
  notBusy : ∀ other ∈ master.busyList.dropWhile (fun other => other != socket), other = socket
  query : ∀ query, master.query queryId = some query →
    query.state = .ready ∧ query.assignedWorkerId = none ∧ query.preemptionPending = false
  worker : ∀ worker, master.worker socket = some worker →
    worker.state = .idle ∧ worker.currentQueryId = none

/-- `send_query_to_worker` fails. -/
def SendFails (sent : Bool) (socket : Nat) : Prop := ¬ (sent = true ∧ 0 < socket)

instance (sent : Bool) (socket : Nat) : Decidable (SendFails sent socket) :=
  inferInstanceAs (Decidable (¬ _))

end Condition

section Reversal

variable {idleRest readyRest : List Nat} {worker : WorkerControlBlock} {query : QueryControlBlock}

/-- What `try_dispatch` does when it takes a query and a worker and cannot send. -/
theorem tryDispatch_of_sendFails (idle : master.idleList = socket :: idleRest)
    (ready : master.readyQueue = queryId :: readyRest)
    (workerBlock : master.worker socket = some worker)
    (queryBlock : master.query queryId = some query)
    (noPending : ∀ running ∈ master.runningList, ∀ block, master.query running = some block →
      block.preemptionPending = false)
    {sent : Bool} (fails : SendFails sent socket) :
    master.tryDispatch config sent =
      ((master.assignQuery socket queryId worker.workerId).revertAssignment config socket
        queryId, []) := by
  have nonePending : (master.runningList.any fun running =>
      (master.query running).any QueryControlBlock.preemptionPending) = false := by
    rw [List.any_eq_false]
    intro running member
    cases block : master.query running with
    | none => simp
    | some held => simp [noPending running member held block]
  simp only [tryDispatch, idle, ready, nonePending, workerBlock, queryBlock, Bool.false_eq_true,
    if_false]
  rw [if_neg fails]

theorem worker_revertAssignment (workerBlock : master.worker socket = some worker)
    (workerId : Nat) :
    ((master.assignQuery socket queryId workerId).revertAssignment config socket
      queryId).worker socket = some { worker with currentQueryId := none, state := .idle } := by
  rw [revertAssignment, enqueueReady_eq]
  change ((master.assignQuery socket queryId workerId).forgetQuery socket).worker socket = _
  rw [worker_forgetQuery_self, worker_assignQuery_self workerBlock]
  rfl

theorem priorityOf_reverted (workerId other : Nat) :
    (((master.assignQuery socket queryId workerId).forgetQuery socket).modifyQuery queryId
      fun query => { query with state := .ready, assignedWorkerId := none }).priorityOf other =
        master.priorityOf other := by
  apply Eq.trans (priorityOf_modifyQuery _ other)
  · apply priorityOf_modifyQuery
    intro query
    rfl
  · intro query
    rfl

theorem readyQueue_revertAssignment (workerId : Nat) :
    ((master.assignQuery socket queryId workerId).revertAssignment config socket
      queryId).readyQueue =
        match config.schedulingAlgorithm with
        | .fifo => master.readyQueue.tail ++ [queryId]
        | .priority => insertQueryByPriority master.priorityOf queryId master.readyQueue.tail := by
  have same : (((master.assignQuery socket queryId workerId).forgetQuery socket).modifyQuery
      queryId fun query => { query with state := .ready, assignedWorkerId := none }).priorityOf =
        master.priorityOf := funext (priorityOf_reverted workerId)
  unfold revertAssignment enqueueReady
  cases config.schedulingAlgorithm with
  | fifo => rfl
  | priority =>
      change insertQueryByPriority _ queryId master.readyQueue.tail = _
      exact congrArg (insertQueryByPriority · queryId master.readyQueue.tail) same

theorem readyQueue_kept_iff (socket : Nat) (ready : master.readyQueue = queryId :: readyRest)
    (sorted : config.schedulingAlgorithm = .priority → master.readyQueue.Pairwise
      fun first second => master.priorityOf first ≤ master.priorityOf second) (workerId : Nat) :
    ((master.assignQuery socket queryId workerId).revertAssignment config socket
      queryId).readyQueue = master.readyQueue ↔ FirstInTurn config master queryId := by
  rw [readyQueue_revertAssignment, FirstInTurn]
  cases algorithm : config.schedulingAlgorithm with
  | fifo =>
      simp only [ready, List.tail_cons, List.forall_mem_cons, true_and]
      exact rotate_eq_iff
  | priority =>
      have queueSorted := sorted algorithm
      rw [ready] at queueSorted
      simp only [ready, List.tail_cons, List.forall_mem_cons, true_or, true_and]
      exact insertQueryByPriority_eq_cons_iff queueSorted

theorem query_kept_iff (config : MasterConfig) (socket : Nat)
    (queryBlock : master.query queryId = some query) (workerId : Nat) :
    ((master.assignQuery socket queryId workerId).revertAssignment config socket queryId).query
        queryId = master.query queryId ↔
      query.state = .ready ∧ query.assignedWorkerId = none ∧ query.preemptionPending = false := by
  rw [query_revertAssignment config queryBlock, query_modifyQuery_self queryBlock, queryBlock,
    Option.some.injEq]
  cases query
  simp only [QueryControlBlock.mk.injEq, true_and]
  constructor
  · rintro ⟨assigned, pending, state⟩
    exact ⟨state.symm, assigned.symm, pending.symm⟩
  · rintro ⟨state, assigned, pending⟩
    exact ⟨assigned.symm, pending.symm, state.symm⟩

theorem worker_kept_iff (config : MasterConfig) (queryId : Nat)
    (workerBlock : master.worker socket = some worker) (workerId : Nat) :
    ((master.assignQuery socket queryId workerId).revertAssignment config socket queryId).worker
        socket = master.worker socket ↔
      worker.state = .idle ∧ worker.currentQueryId = none := by
  rw [worker_revertAssignment workerBlock, workerBlock, Option.some.injEq]
  cases worker
  simp only [WorkerControlBlock.mk.injEq, true_and]
  constructor
  · rintro ⟨current, state⟩
    exact ⟨state.symm, current.symm⟩
  · rintro ⟨state, current⟩
    exact ⟨current.symm, state.symm⟩

theorem lists_reverted (config : MasterConfig) (queryId : Nat)
    (idle : master.idleList = socket :: idleRest) (workerId : Nat) :
    ((master.assignQuery socket queryId workerId).revertAssignment config socket
        queryId).idleList = idleRest ++ [socket] ∧
      ((master.assignQuery socket queryId workerId).revertAssignment config socket
        queryId).runningList = (master.runningList ++ [queryId]).erase queryId ∧
      ((master.assignQuery socket queryId workerId).revertAssignment config socket
        queryId).busyList = (master.busyList ++ [socket]).erase socket := by
  rw [revertAssignment, enqueueReady_eq]
  refine ⟨?_, rfl, rfl⟩
  change master.idleList.tail ++ [socket] = idleRest ++ [socket]
  rw [idle, List.tail_cons]

/-- In every state in which `try_dispatch` takes a query and a worker and the send fails, both
tables are as before exactly when the two keep their places. -/
theorem failedDispatch_undone_iff (config : MasterConfig) {sent : Bool}
    (idle : master.idleList = socket :: idleRest)
    (ready : master.readyQueue = queryId :: readyRest)
    (workerBlock : master.worker socket = some worker)
    (queryBlock : master.query queryId = some query)
    (noPending : ∀ running ∈ master.runningList, ∀ block, master.query running = some block →
      block.preemptionPending = false)
    (sorted : config.schedulingAlgorithm = .priority → master.readyQueue.Pairwise
      fun first second => master.priorityOf first ≤ master.priorityOf second)
    (fails : SendFails sent socket) :
    Undone master (master.tryDispatch config sent).1 queryId socket ↔
      KeepsPlaces config master queryId socket := by
  rw [tryDispatch_of_sendFails idle ready workerBlock queryBlock noPending fails]
  have readyIff := readyQueue_kept_iff socket ready sorted worker.workerId
  have queryIff := query_kept_iff config socket queryBlock worker.workerId
  have workerIff := worker_kept_iff config queryId workerBlock worker.workerId
  obtain ⟨idleEq, runningEq, busyEq⟩ := lists_reverted config queryId idle worker.workerId
  constructor
  · intro undone
    refine ⟨readyIff.mp undone.readyQueue, ?_, ?_, ?_, ?_, ?_⟩
    · have idleKept := undone.idleList
      rw [idleEq, idle] at idleKept
      rw [idle, List.forall_mem_cons]
      exact ⟨rfl, rotate_eq_iff.mp idleKept⟩
    · exact erase_append_eq_iff.mp (runningEq.symm.trans undone.runningList)
    · exact erase_append_eq_iff.mp (busyEq.symm.trans undone.busyList)
    · intro block held
      obtain rfl : query = block := Option.some.inj (queryBlock.symm.trans held)
      exact queryIff.mp undone.query
    · intro block held
      obtain rfl : worker = block := Option.some.inj (workerBlock.symm.trans held)
      exact workerIff.mp undone.worker
  · intro keeps
    refine ⟨readyIff.mpr keeps.first, ?_, ?_, ?_, ?_, ?_⟩
    · rw [idleEq, idle]
      have alone := keeps.alone
      rw [idle, List.forall_mem_cons] at alone
      exact rotate_eq_iff.mpr alone.2
    · exact runningEq.trans (erase_append_eq_iff.mpr keeps.notRunning)
    · exact busyEq.trans (erase_append_eq_iff.mpr keeps.notBusy)
    · exact queryIff.mpr (keeps.query query queryBlock)
    · exact workerIff.mpr (keeps.worker worker workerBlock)

end Reversal

section Reachable

/-- A ready query has no worker and no pending eviction. -/
def ReadyUnassigned (master : Master) : Prop :=
  ∀ queryId query, master.query queryId = some query → query.state = .ready →
    query.assignedWorkerId = none ∧ query.preemptionPending = false

theorem ReadyUnassigned.dropQuery (unassigned : ReadyUnassigned master) (gone : Nat) :
    ReadyUnassigned (master.dropQuery gone) := by
  intro queryId query held state
  by_cases same : queryId = gone
  · rw [same, query_dropQuery_self] at held
    cases held
  · rw [query_dropQuery_of_ne same] at held
    exact unassigned queryId query held state

theorem Change.readyUnassigned {after : Master} {handler : Handler} {sendings : List Sending}
    (change : Change config master handler sendings after) (tables : QueryTables master)
    (unassigned : ReadyUnassigned master) : ReadyUnassigned after := by
  cases change with
  | keep => exact unassigned
  | forward => exact unassigned
  | create path priority socket now =>
      intro queryId query held state
      rcases block_createQuery held with ⟨_, rfl⟩ | ⟨_, old⟩
      · exact ⟨rfl, rfl⟩
      · exact unassigned queryId query old state
  | finish gone => exact unassigned.dropQuery gone
  | unreported gone => exact unassigned.dropQuery gone
  | discard gone => exact unassigned.dropQuery gone
  | requeue evicted programCounter now running =>
      intro queryId query held state
      by_cases same : queryId = evicted
      · subst same
        obtain ⟨old, block⟩ := tables.exists_block (tables.running_listed running)
        rw [query_requeueEvicted_self block, Option.some.injEq] at held
        subst held
        exact ⟨rfl, rfl⟩
      · rw [query_requeueEvicted_of_ne same] at held
        exact unassigned queryId query held state
  | age now =>
      intro queryId query held state
      obtain ⟨old, priority, readyTimestamp, block, rfl⟩ := block_agingPass held
      exact unassigned queryId old block state
  | cancel canceled query block running gone =>
      intro queryId query held state
      rcases block_modifyQuery held with ⟨_, old, _, rfl⟩ | ⟨_, same⟩
      · cases state
      · exact unassigned queryId query same state
  | preempt preempted socket query canceled block running gone first =>
      intro queryId found held state
      rcases block_modifyQuery held with ⟨_, old, oldBlock, rfl⟩ | ⟨_, same⟩
      · cases canceled with
        | true => cases state
        | false =>
            have isReady : old.state = .ready := state
            rcases tables.running_state preempted running old oldBlock with other | other
            · rw [isReady] at other
              cases other
            · rw [isReady] at other
              cases other
      · exact unassigned queryId found same state
  | assign socket started workerId readyRest query ready block =>
      intro queryId found held state
      by_cases same : queryId = started
      · subst same
        rw [query_assignQuery_self block, Option.some.injEq] at held
        subst held
        cases state
      · rw [query_assignQuery_of_ne same] at held
        exact unassigned queryId found held state
  | revert socket reverted workerId readyRest ready =>
      intro queryId found held state
      have isReady : reverted ∈ master.readyQueue := by simp [ready]
      obtain ⟨query, block⟩ :=
        tables.exists_block ((tables.queued_iff reverted).mpr (Or.inl isReady))
      rw [query_revertAssignment config block] at held
      rcases block_modifyQuery held with ⟨_, old, _, rfl⟩ | ⟨_, same⟩
      · exact ⟨rfl, rfl⟩
      · exact unassigned queryId found same state

theorem readyUnassigned_of_reachable (reachable : (handlers config).Reachable master) :
    QueryTables master ∧ ReadyUnassigned master := by
  apply reachable_invariant _ _ _ reachable
  · intro queryId query held
    cases held
  · intro _ _ _ _ tables unassigned change
    exact change.readyUnassigned tables unassigned
  · intro _ _ same unassigned queryId query held
    rw [same.query] at held
    exact unassigned queryId query held

/-- In every reachable state whose lists of workers are in order too, only the order of the two
queues decides whether a failed dispatch is undone. -/
theorem keepsPlaces_iff_of_reachable (reachable : (handlers config).Reachable master)
    (workers : WorkerTables master) (ready : queryId ∈ master.readyQueue)
    (idle : socket ∈ master.idleList) :
    KeepsPlaces config master queryId socket ↔
      FirstInTurn config master queryId ∧ ∀ other ∈ master.idleList, other = socket := by
  obtain ⟨tables, unassigned⟩ := readyUnassigned_of_reachable reachable
  have absent : ∀ {element : Nat} {list : List Nat}, element ∉ list →
      ∀ other ∈ list.dropWhile (fun other => other != element), other = element := by
    intro element list missing other member
    have none : list.dropWhile (fun other => other != element) = [] := by
      rw [List.dropWhile_eq_nil_iff]
      intro found listed
      simp only [bne_iff_ne]
      rintro rfl
      exact missing listed
    rw [none] at member
    cases member
  constructor
  · intro keeps
    exact ⟨keeps.first, keeps.alone⟩
  · rintro ⟨first, alone⟩
    refine ⟨first, alone, absent (tables.not_running ready), absent ?_, ?_, ?_⟩
    · intro busy
      exact (List.nodup_append.mp workers.lists_nodup).2.2 _ idle _ busy rfl
    · intro query block
      have state := tables.ready_state queryId ready query block
      exact ⟨state, unassigned queryId query block state⟩
    · intro worker block
      exact (workers.idle socket idle worker block).symm

end Reachable

section Runs

/-- Two queries of different priorities wait for one worker. -/
def twoPriorities : List Handler :=
  [.newQuery "Q0" 4 6 1, .newQuery "Q1" 2 7 2, .workerHandshake 1 5]

/-- Query 1 is sent to worker 5 and the send fails: query 0 stays behind it. -/
theorem failedDispatch_undone_iff_of_twoPriorities :
    ∃ master, (handlers (.insertionSorting .priority 0)).Run initMaster twoPriorities master ∧
      master.readyQueue = [1, 0] ∧
        (master.tryDispatch (.insertionSorting .priority 0) false).1.readyQueue = [1, 0] ∧
          (Undone master (master.tryDispatch (.insertionSorting .priority 0) false).1 1 5 ↔
            KeepsPlaces (.insertionSorting .priority 0) master 1 5) := by
  have summary : (TransitionSystem.runNext (handle (.insertionSorting .priority 0)) initMaster
      twoPriorities).map (fun master => (master.idleList, master.readyQueue, master.runningList,
        master.worker 5, master.query 1,
          (master.tryDispatch (.insertionSorting .priority 0) false).1.readyQueue)) =
        some ([5], [1, 0], [], some ⟨1, none, .idle⟩, some (newQueryBlock "Q1" 2 7 2), [1, 0]) :=
    rfl
  obtain ⟨master, ends, facts⟩ := Option.map_eq_some_iff.mp summary
  simp only [Prod.mk.injEq] at facts
  obtain ⟨idle, ready, running, workerBlock, queryBlock, after⟩ := facts
  have run : (handlers (.insertionSorting .priority 0)).Run initMaster twoPriorities master :=
    TransitionSystem.run_of_runNext ends
  have order : InOrder master := inOrder_of_reachable rfl ⟨initMaster, _, rfl, run⟩
  refine ⟨master, run, ready, after, ?_⟩
  apply failedDispatch_undone_iff _ idle ready workerBlock queryBlock
  · simp [running]
  · exact fun _ => order.sorted
  · decide

/-- Two queries of the same priority wait for one worker. -/
def tiedQueries : List Handler :=
  [.newQuery "Q0" 4 6 1, .newQuery "Q1" 4 7 2, .workerHandshake 1 5]

/-- Query 0 is sent to worker 5 and the send fails: query 1 overtakes it. -/
theorem failedDispatch_loses_turn :
    ∃ master, (handlers (.insertionSorting .priority 0)).Run initMaster tiedQueries master ∧
      master.idleList = [5] ∧ master.readyQueue = [0, 1] ∧ master.runningList = [] ∧
      (master.readyQueue.Pairwise fun first second =>
        master.priorityOf first ≤ master.priorityOf second) ∧
      (master.tryDispatch (.insertionSorting .priority 0) false).1.readyQueue = [1, 0] ∧
      ¬ Undone master (master.tryDispatch (.insertionSorting .priority 0) false).1 0 5 := by
  have summary : (TransitionSystem.runNext (handle (.insertionSorting .priority 0)) initMaster
      tiedQueries).map (fun master => (master.idleList, master.readyQueue, master.runningList,
        (master.tryDispatch (.insertionSorting .priority 0) false).1.readyQueue)) =
          some ([5], [0, 1], [], [1, 0]) := by
    decide +kernel
  obtain ⟨master, ends, facts⟩ := Option.map_eq_some_iff.mp summary
  simp only [Prod.mk.injEq] at facts
  obtain ⟨idle, ready, running, after⟩ := facts
  have run : (handlers (.insertionSorting .priority 0)).Run initMaster tiedQueries master :=
    TransitionSystem.run_of_runNext ends
  have reachable : (handlers (.insertionSorting .priority 0)).Reachable master :=
    ⟨initMaster, _, rfl, run⟩
  have order : InOrder master := inOrder_of_reachable rfl reachable
  refine ⟨master, run, idle, ready, running, order.sorted, after, ?_⟩
  intro undone
  have kept := undone.readyQueue
  rw [after, ready] at kept
  exact absurd kept (by decide)

end Runs

end Master

end MasterOfFiles
