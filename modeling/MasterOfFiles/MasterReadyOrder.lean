import Mathlib.Data.List.Sort
import MasterOfFiles.MasterRuns

/-!
# The order of the ready queue

Aging lowers the priority numbers of queries that stand in `ready_queue`, and three other paths
insert by a linear scan that is right on a sorted list only.  Under the PRIORITY algorithm the
queue is sorted between any two handlers, so `try_dispatch` sends a query with the least priority
number of all that are ready.
-/

namespace MasterOfFiles

/-- A configuration whose `list_sort` is an insertion sort, which can be evaluated. -/
def MasterConfig.insertionSorting (algorithm : SchedulingAlgorithm) (agingInterval : Nat) :
    MasterConfig where
  schedulingAlgorithm := algorithm
  agingInterval := agingInterval
  listSort compare elements := elements.insertionSort fun first second => !compare second first
  listSort_perm _ elements := List.perm_insertionSort _ elements
  listSort_sorted priority elements := by
    have total : Std.Total fun first second =>
        (!decide (priority second < priority first)) = true := by
      constructor
      intro first second
      simp only [Bool.not_eq_true', decide_eq_false_iff_not, Nat.not_lt]
      omega
    have transitive : IsTrans Nat fun first second =>
        (!decide (priority second < priority first)) = true := by
      constructor
      intro first second third firstLe secondLe
      simp only [Bool.not_eq_true', decide_eq_false_iff_not, Nat.not_lt] at *
      omega
    apply (List.pairwise_insertionSort _ elements).imp
    intro first second
    simp

namespace Master

variable {config : MasterConfig} {master after : Master} {handler : Handler} {queryId : Nat}
  {sendings : List Sending}

/-- The ready queue is sorted by priority number, and no number exceeds the initial one.  The
numbers are natural: the code stops at zero where it subtracts. -/
structure InOrder (master : Master) : Prop where
  sorted : master.readyQueue.Pairwise fun first second =>
    master.priorityOf first ≤ master.priorityOf second
  bounded : ∀ queryId query, master.query queryId = some query →
    query.priority ≤ query.initialPriority

/-- The query that a `try_dispatch` sends has the least priority number of all ready ones. -/
def DispatchesLeast (config : MasterConfig) (master : Master) : Prop :=
  ∀ sent socket queryId programCounter path,
    Sending.report (.toWorker socket (.startQuery queryId programCounter path)) ∈
        (master.perform config (.dispatch sent)).2 →
      ∀ other query, master.query other = some query → query.state = .ready →
        master.priorityOf queryId ≤ query.priority

section Insertion

theorem pairwise_insertQueryByPriority {priority : Nat → Nat} {queue : List Nat}
    (sorted : queue.Pairwise fun first second => priority first ≤ priority second) :
    (insertQueryByPriority priority queryId queue).Pairwise fun first second =>
      priority first ≤ priority second := by
  induction queue with
  | nil => exact List.pairwise_singleton _ _
  | cons existing rest ih =>
      obtain ⟨least, restSorted⟩ := List.pairwise_cons.mp sorted
      unfold insertQueryByPriority
      split
      · rename_i less
        apply List.pairwise_cons.mpr
        refine ⟨?_, sorted⟩
        intro other member
        rcases List.mem_cons.mp member with rfl | later
        · exact Nat.le_of_lt less
        · exact Nat.le_trans (Nat.le_of_lt less) (least other later)
      · rename_i notLess
        apply List.pairwise_cons.mpr
        refine ⟨?_, ih restSorted⟩
        intro other member
        rcases List.mem_cons.mp (insertQueryByPriority_perm.mem_iff.mp member) with rfl | later
        · exact Nat.le_of_not_lt notLess
        · exact least other later

theorem pairwise_agree {queue : List Nat} {priority other : Nat → Nat}
    (sorted : queue.Pairwise fun first second => priority first ≤ priority second)
    (agree : ∀ queryId ∈ queue, other queryId = priority queryId) :
    queue.Pairwise fun first second => other first ≤ other second := by
  apply sorted.imp_of_mem
  intro first second firstMember secondMember ordered
  rw [agree first firstMember, agree second secondMember]
  exact ordered

theorem pairwise_enqueueReady (priority : config.schedulingAlgorithm = .priority)
    (sorted : master.readyQueue.Pairwise fun first second =>
      master.priorityOf first ≤ master.priorityOf second) :
    (master.enqueueReady config queryId).readyQueue.Pairwise fun first second =>
      (master.enqueueReady config queryId).priorityOf first ≤
        (master.enqueueReady config queryId).priorityOf second := by
  unfold enqueueReady
  rw [priority]
  exact pairwise_insertQueryByPriority sorted

end Insertion

section Priorities

theorem priorityOf_modifyQuery {change : QueryControlBlock → QueryControlBlock}
    (keeps : ∀ query, (change query).priority = query.priority) (other : Nat) :
    (master.modifyQuery queryId change).priorityOf other = master.priorityOf other := by
  by_cases same : other = queryId
  · subst same
    cases block : master.query other with
    | none => simp [priorityOf, modifyQuery, block]
    | some query => simp [priorityOf, modifyQuery, block, keeps]
  · simp [priorityOf, modifyQuery, same]

theorem priorityOf_eq {query : QueryControlBlock} (block : master.query queryId = some query) :
    master.priorityOf queryId = query.priority := by
  simp [priorityOf, block]

theorem priorityOf_agree (blocks : after.query = master.query) :
    after.priorityOf queryId = master.priorityOf queryId := by
  simp [priorityOf, blocks]

theorem InOrder.modifyQuery (order : InOrder master)
    {change : QueryControlBlock → QueryControlBlock}
    (keeps : ∀ query, (change query).priority = query.priority ∧
      (change query).initialPriority = query.initialPriority) (queryId : Nat) :
    InOrder (master.modifyQuery queryId change) where
  sorted := pairwise_agree order.sorted
    fun other _ => priorityOf_modifyQuery (fun query => (keeps query).1) other
  bounded := by
    intro other new held
    rcases block_modifyQuery held with ⟨_, old, block, rfl⟩ | ⟨_, same⟩
    · rw [(keeps old).1, (keeps old).2]
      exact order.bounded queryId old block
    · exact order.bounded other new same

theorem InOrder.mark (order : InOrder master) (queryId : Nat) (cancel pending : Bool) :
    InOrder (master.modifyQuery queryId (Master.mark cancel pending)) := by
  apply order.modifyQuery
  intro query
  exact ⟨rfl, rfl⟩

/-- Taking elements off the ready queue keeps the order. -/
theorem InOrder.sublist (order : InOrder master) (blocks : after.query = master.query)
    (shorter : after.readyQueue.Sublist master.readyQueue) : InOrder after where
  sorted := pairwise_agree (order.sorted.sublist shorter) fun _ _ => priorityOf_agree blocks
  bounded := by
    rw [blocks]
    exact order.bounded

theorem InOrder.dropQuery (order : InOrder master) (tables : QueryTables master)
    (queryId : Nat) : InOrder (master.dropQuery queryId) where
  sorted := by
    apply pairwise_agree (order.sorted.sublist List.erase_sublist)
    intro other member
    have different := (tables.ready_nodup.mem_erase_iff.mp member).1
    simp [priorityOf, query_dropQuery_of_ne different]
  bounded := by
    intro other query held
    by_cases same : other = queryId
    · rw [same, query_dropQuery_self] at held
      cases held
    · rw [query_dropQuery_of_ne same] at held
      exact order.bounded other query held

theorem InOrder.enqueueReady (order : InOrder master)
    (priority : config.schedulingAlgorithm = .priority) (queryId : Nat) :
    InOrder (master.enqueueReady config queryId) where
  sorted := pairwise_enqueueReady priority order.sorted
  bounded := by
    rw [enqueueReady_eq]
    exact order.bounded

theorem InOrder.createQuery (order : InOrder master) (tables : QueryTables master)
    (priority : config.schedulingAlgorithm = .priority) (path : String)
    (number socket now : Nat) :
    InOrder (master.createQuery config path number socket now) := by
  apply InOrder.enqueueReady _ priority
  constructor
  · apply pairwise_agree order.sorted
    intro other member
    have older := tables.id_lt other ((tables.queued_iff other).mpr (Or.inl member))
    simp [priorityOf, registerQuery, Nat.ne_of_lt older]
  · intro other query held
    by_cases same : other = master.nextQueryId
    · subst same
      simp only [registerQuery, Function.update_self, Option.some.injEq] at held
      rw [← held]
      exact Nat.le_refl number
    · simp only [registerQuery, Function.update_of_ne same] at held
      exact order.bounded other query held

theorem InOrder.requeueEvicted (order : InOrder master) (queryId programCounter now : Nat) :
    InOrder (master.requeueEvicted queryId programCounter now) := by
  have updated : InOrder (master.modifyQuery queryId fun query =>
      { query with
        programCounter := programCounter
        state := .ready
        assignedWorkerId := none
        preemptionPending := false
        readyTimestamp := now }) := by
    apply order.modifyQuery
    intro query
    exact ⟨rfl, rfl⟩
  exact ⟨pairwise_insertQueryByPriority updated.sorted, updated.bounded⟩

theorem InOrder.assignQuery (order : InOrder master) (socket queryId workerId : Nat) :
    InOrder (master.assignQuery socket queryId workerId) := by
  have updated : InOrder (master.modifyQuery queryId fun query =>
      { query with
        state := .running
        assignedWorkerId := some workerId
        preemptionPending := false }) := by
    apply order.modifyQuery
    intro query
    exact ⟨rfl, rfl⟩
  exact updated.sublist rfl (List.tail_sublist master.readyQueue)

theorem InOrder.revertAssignment (order : InOrder master)
    (priority : config.schedulingAlgorithm = .priority) (socket queryId : Nat) :
    InOrder (master.revertAssignment config socket queryId) := by
  have updated : InOrder (master.modifyQuery queryId fun query =>
      { query with state := .ready, assignedWorkerId := none }) := by
    apply order.modifyQuery
    intro query
    exact ⟨rfl, rfl⟩
  apply InOrder.enqueueReady _ priority
  exact updated.sublist rfl (List.Sublist.refl _)

end Priorities

section Aging

/-- Aging leaves the priority of a query, or lowers it and says so. -/
theorem ageQuery_cases (agingInterval now : Nat) (query : QueryControlBlock) :
    (∃ readyTimestamp, ageQuery agingInterval now query =
        ({ query with readyTimestamp := readyTimestamp }, false)) ∨
      ∃ decrements readyTimestamp, ageQuery agingInterval now query =
        ({ query with
            priority := query.priority - decrements, readyTimestamp := readyTimestamp },
          true) := by
  by_cases ready : query.state ≠ .ready
  · exact Or.inl ⟨query.readyTimestamp, by rw [ageQuery, if_pos ready]⟩
  · by_cases started : query.readyTimestamp = 0
    · exact Or.inl ⟨now, by rw [ageQuery, if_neg ready, if_pos started]⟩
    · simp only [ageQuery, if_neg ready, if_neg started]
      split_ifs
      · exact Or.inl ⟨query.readyTimestamp, rfl⟩
      · exact Or.inr ⟨_, _, rfl⟩
      · exact Or.inl ⟨query.readyTimestamp, rfl⟩

theorem ageQuery_priority (agingInterval now : Nat) (query : QueryControlBlock) :
    (ageQuery agingInterval now query).1.initialPriority = query.initialPriority ∧
      (ageQuery agingInterval now query).1.priority ≤ query.priority ∧
        ((ageQuery agingInterval now query).2 = false →
          (ageQuery agingInterval now query).1.priority = query.priority) := by
  rcases ageQuery_cases agingInterval now query with
    ⟨readyTimestamp, aged⟩ | ⟨decrements, readyTimestamp, aged⟩
  · rw [aged]
    exact ⟨rfl, Nat.le_refl _, fun _ => rfl⟩
  · rw [aged]
    exact ⟨rfl, Nat.sub_le _ _, fun impossible => by cases impossible⟩

/-- The tables with every ready query aged, before `list_sort`. -/
theorem InOrder.agingPass (order : InOrder master) (config : MasterConfig) (now : Nat) :
    InOrder (master.agingPass config now) := by
  unfold Master.agingPass
  split
  · exact order
  · have bounded : ∀ queryId query, (if queryId ∈ master.readyQueue then
          (master.query queryId).map fun query => (ageQuery config.agingInterval now query).1
        else master.query queryId) = some query → query.priority ≤ query.initialPriority := by
      intro queryId query held
      split at held
      · obtain ⟨old, block, rfl⟩ := Option.map_eq_some_iff.mp held
        obtain ⟨initial, lowered, _⟩ := ageQuery_priority config.agingInterval now old
        rw [initial]
        exact Nat.le_trans lowered (order.bounded queryId old block)
      · exact order.bounded queryId query held
    dsimp only
    split
    · exact ⟨config.listSort_sorted _ _, bounded⟩
    · rename_i unchanged
      refine ⟨?_, bounded⟩
      apply pairwise_agree order.sorted
      intro queryId member
      cases block : master.query queryId with
      | none => simp [priorityOf, block]
      | some query =>
          have unaltered : (ageQuery config.agingInterval now query).2 = false := by
            by_contra altered
            apply unchanged
            rw [List.any_eq_true]
            refine ⟨queryId, member, ?_⟩
            rw [block]
            simpa using altered
          have same := (ageQuery_priority config.agingInterval now query).2.2 unaltered
          simp [priorityOf, block, member, same]

end Aging

theorem Change.inOrder (priority : config.schedulingAlgorithm = .priority)
    (tables : QueryTables master) (order : InOrder master)
    (change : Change config master handler sendings after) : InOrder after := by
  cases change with
  | keep => exact order
  | forward => exact order
  | create path number socket now => exact order.createQuery tables priority path _ socket now
  | finish queryId => exact order.dropQuery tables queryId
  | unreported queryId => exact order.dropQuery tables queryId
  | discard queryId => exact order.dropQuery tables queryId
  | requeue queryId programCounter now => exact order.requeueEvicted queryId programCounter now
  | age now => exact order.agingPass config now
  | cancel queryId query => exact order.mark queryId true query.preemptionPending
  | preempt queryId socket query canceled => exact order.mark queryId canceled true
  | assign socket queryId workerId => exact order.assignQuery socket queryId workerId
  | revert socket queryId workerId =>
      exact (order.assignQuery socket queryId workerId).revertAssignment priority socket queryId

theorem inOrder_of_reachable (priority : config.schedulingAlgorithm = .priority)
    (reachable : (handlers config).Reachable master) : InOrder master := by
  have starts : InOrder initMaster := ⟨List.Pairwise.nil, by simp [initMaster]⟩
  apply (reachable_invariant starts (Change.inOrder priority) _ reachable).2
  intro before after same order
  apply order.sublist same.query
  rw [same.readyQueue]

theorem readyQueue_of_started {sent : Bool} {socket programCounter : Nat} {path : String}
    (started : Outgoing.toWorker socket (.startQuery queryId programCounter path) ∈
      (master.tryDispatch config sent).2) :
    ∃ readyRest, master.readyQueue = queryId :: readyRest := by
  unfold tryDispatch at started
  split at started
  · rename_i idle idleRest ready readyRest _ readyEq
    split at started
    · cases started
    · split at started
      · split at started
        · simp only [List.mem_singleton, Outgoing.toWorker.injEq,
            WorkerMessage.startQuery.injEq] at started
          rw [started.2.1]
          exact ⟨readyRest, readyEq⟩
        · cases started
      · cases started
  · cases started

theorem dispatchesLeast_of_inOrder (tables : QueryTables master) (order : InOrder master) :
    DispatchesLeast config master := by
  intro sent socket queryId programCounter path started other query block state
  have isReady : other ∈ master.readyQueue := by
    rcases tables.state_cases block with ready | running
    · exact ready.1
    · simp [state] at running
  have dispatched : Outgoing.toWorker socket (.startQuery queryId programCounter path) ∈
      (master.tryDispatch config sent).2 := by
    simpa [perform, reported] using started
  obtain ⟨readyRest, ready⟩ := readyQueue_of_started dispatched
  rw [← priorityOf_eq block]
  have sorted := order.sorted
  rw [ready, List.mem_cons] at isReady
  rw [ready, List.pairwise_cons] at sorted
  rcases isReady with rfl | later
  · exact Nat.le_refl _
  · exact sorted.1 other later

/-- Under the PRIORITY algorithm the ready queue is in order after every handler, and what is
dispatched next has the least priority number. -/
theorem readyQueue_in_order (config : MasterConfig)
    (priority : config.schedulingAlgorithm = .priority) {master : Master}
    (reachable : (handlers config).Reachable master) :
    InOrder master ∧ DispatchesLeast config master := by
  have order := inOrder_of_reachable priority reachable
  exact ⟨order, dispatchesLeast_of_inOrder (queryTables_of_reachable reachable) order⟩

/-- Query 0 waits longer and overtakes query 1. -/
def overtaking : List Handler :=
  [.newQuery "Q0" 5 6 1, .newQuery "Q1" 4 7 35, .aging 41, .workerHandshake 1 5]

theorem readyQueue_in_order_overtaking :
    ∃ master, (handlers (.insertionSorting .priority 10)).Run initMaster overtaking master ∧
      master.readyQueue = [0, 1] ∧
        InOrder master ∧ DispatchesLeast (.insertionSorting .priority 10) master := by
  have summary : (TransitionSystem.runNext (handle (.insertionSorting .priority 10)) initMaster
      overtaking).map Master.readyQueue = some [0, 1] := by
    decide +kernel
  obtain ⟨master, ends, ready⟩ := Option.map_eq_some_iff.mp summary
  have run : (handlers (.insertionSorting .priority 10)).Run initMaster overtaking master :=
    TransitionSystem.run_of_runNext ends
  exact ⟨master, run, ready,
    readyQueue_in_order (.insertionSorting .priority 10) rfl ⟨initMaster, _, rfl, run⟩⟩

end Master

end MasterOfFiles
