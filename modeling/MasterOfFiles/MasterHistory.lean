import MasterOfFiles.EventLog
import MasterOfFiles.MasterReadyOrder

/-!
# What the Master has sent

The tables with the messages that were sent so far.  A query that leaves `query_list` does so
with one terminal message, or because its Query Control went away while it was running; nothing
is sent for it afterwards.  Between two dispatches of a query at most one preemption of it is
requested, and the periodic check requests one only where it is justified.
-/

namespace MasterOfFiles

namespace Sending

def startsQuery (queryId : Nat) (sending : Sending) : Bool :=
  sending.starts && decide (sending.queryId = queryId)

def preemptsQuery (queryId : Nat) (sending : Sending) : Bool :=
  sending.preempts && decide (sending.queryId = queryId)

end Sending

namespace Master

/-- The tables, the messages about queries in the order in which they were sent, and the queries
whose Query Control was found gone while they were in `query_list`. -/
structure Journal where
  master : Master
  sendings : List Sending
  closed : List Nat

namespace Journal

def start : Journal where
  master := initMaster
  sendings := []
  closed := []

/-- Run a handler and write down what it sent. -/
def record (config : MasterConfig) (journal : Journal) (handler : Handler) : Option Journal :=
  let effect := journal.master.perform config handler
  some
    { master := effect.1
      sendings := journal.sendings ++ effect.2
      closed := journal.closed ++ journal.master.closedBy handler }

def history (config : MasterConfig) : TransitionSystem Journal Handler :=
  .ofNext (· = start) (record config)

/-- No connection is accepted under number 0, which stands for a file that was opened before. -/
def Accepts (_journal : Journal) : Handler → Prop
  | .newQuery _ _ socket _ => 0 < socket
  | _ => True

def about (journal : Journal) (queryId : Nat) : List Sending :=
  journal.sendings.filter fun sending => decide (sending.queryId = queryId)

/-- How often the end of a query was reported. -/
def ends (journal : Journal) (queryId : Nat) : Nat :=
  (journal.about queryId).countP Sending.terminal

end Journal

/-- A preemption of the query is justified: no running query has a larger priority number, and
the least number among the ready ones is smaller. -/
structure Justified (master : Master) (queryId : Nat) : Prop where
  running : queryId ∈ master.runningList
  largest : ∀ other ∈ master.runningList, master.priorityOf other ≤ master.priorityOf queryId
  better : ∃ best ∈ master.readyQueue,
    (∀ other ∈ master.readyQueue, master.priorityOf best ≤ master.priorityOf other) ∧
      master.priorityOf best < master.priorityOf queryId

variable {config : MasterConfig} {master after : Master} {handler : Handler} {queryId : Nat}
  {sendings : List Sending}

section Changes

theorem Change.sendings_cases (change : Change config master handler sendings after) :
    sendings = [] ∨ ∃ sending, sendings = [sending] := by
  cases change with
  | keep | create | unreported | discard | requeue | age | cancel | revert => exact Or.inl rfl
  | forward | finish | preempt | assign => exact Or.inr ⟨_, rfl⟩

theorem Change.queryId_mem (change : Change config master handler sendings after)
    (tables : QueryTables master) {sending : Sending} (sent : sending ∈ sendings) :
    sending.queryId ∈ master.queryList := by
  cases change with
  | keep | create | unreported | discard | requeue | age | cancel | revert => cases sent
  | forward socket queryId running =>
      rw [List.mem_singleton.mp sent]
      exact tables.running_listed running
  | finish queryId query message block about =>
      rw [List.mem_singleton.mp sent]
      change message.queryId ∈ master.queryList
      rw [about]
      exact tables.listed block
  | preempt queryId socket query canceled block =>
      rw [List.mem_singleton.mp sent]
      exact tables.listed block
  | assign socket queryId workerId readyRest query ready block =>
      rw [List.mem_singleton.mp sent]
      exact tables.listed block

theorem queryList_createQuery {path : String} {priority socket now : Nat} :
    (master.createQuery config path priority socket now).queryList =
        master.queryList ++ [master.nextQueryId] ∧
      (master.createQuery config path priority socket now).nextQueryId =
        master.nextQueryId + 1 := by
  rw [Master.createQuery, enqueueReady_eq]
  exact ⟨rfl, rfl⟩

theorem queryList_revertAssignment {socket workerId : Nat} :
    ((master.assignQuery socket queryId workerId).revertAssignment config socket
        queryId).queryList = master.queryList ∧
      ((master.assignQuery socket queryId workerId).revertAssignment config socket
        queryId).nextQueryId = master.nextQueryId := by
  rw [Master.revertAssignment, enqueueReady_eq]
  exact ⟨rfl, rfl⟩

/-- What a change does to `query_list`: nothing, or it adds the next id without a message, or it
takes a query off. -/
theorem Change.queryList_cases (change : Change config master handler sendings after) :
    (after.queryList = master.queryList ∧ after.nextQueryId = master.nextQueryId ∧
        ∀ sending ∈ sendings, sending.terminal = false) ∨
      (after.queryList = master.queryList ++ [master.nextQueryId] ∧
        after.nextQueryId = master.nextQueryId + 1 ∧ sendings = []) ∨
      ∃ queryId query, master.query queryId = some query ∧
        after.queryList = master.queryList.erase queryId ∧
          after.nextQueryId = master.nextQueryId ∧
            ((∃ sending, sendings = [sending] ∧ sending.terminal = true ∧
                sending.queryId = queryId) ∨
              (sendings = [] ∧ (query.state = .canceled ∨ query.socketFd = 0))) := by
  cases change with
  | keep => exact Or.inl ⟨rfl, rfl, by simp⟩
  | forward => exact Or.inl ⟨rfl, rfl, by simp [Sending.terminal]⟩
  | create => exact Or.inr (Or.inl ⟨queryList_createQuery.1, queryList_createQuery.2, rfl⟩)
  | finish queryId query message block about =>
      right
      right
      exact ⟨queryId, query, block, rfl, rfl, Or.inl ⟨_, rfl, rfl, about⟩⟩
  | unreported queryId query block socket =>
      right
      right
      exact ⟨queryId, query, block, rfl, rfl, Or.inr ⟨rfl, Or.inr socket⟩⟩
  | discard queryId query block canceled =>
      right
      right
      exact ⟨queryId, query, block, rfl, rfl, Or.inr ⟨rfl, Or.inl canceled⟩⟩
  | requeue => exact Or.inl ⟨rfl, rfl, by simp⟩
  | age now =>
      have quiet : Quiet master (master.agingPass config now) := quiet_agingPass config now
      exact Or.inl ⟨quiet.queryList, quiet.nextQueryId, by simp⟩
  | cancel => exact Or.inl ⟨rfl, rfl, by simp⟩
  | preempt => exact Or.inl ⟨rfl, rfl, by simp [Sending.terminal]⟩
  | assign => exact Or.inl ⟨rfl, rfl, by simp [Sending.terminal]⟩
  | revert =>
      exact Or.inl ⟨queryList_revertAssignment.1, queryList_revertAssignment.2, by simp⟩

/-- How the block of a query follows from its block before the handler. -/
structure Follows (master after : Master) (handler : Handler) (sendings : List Sending)
    (queryId : Nat) (old new : QueryControlBlock) : Prop where
  socketFd : new.socketFd = old.socketFd
  canceled : new.state = .canceled → old.state = .canceled ∨ queryId ∈ master.closedBy handler
  pending : queryId ∈ after.runningList → new.preemptionPending = false →
    (∃ sending ∈ sendings, sending.starts = true ∧ sending.queryId = queryId) ∨
      (queryId ∈ master.runningList ∧ old.preemptionPending = false ∧
        ∀ sending ∈ sendings, sending.preempts = true → sending.queryId ≠ queryId)

/-- A block that is left as it is, while nothing starts to run. -/
theorem Follows.unchanged {block : QueryControlBlock}
    (running : queryId ∈ after.runningList → queryId ∈ master.runningList)
    (silent : ∀ sending ∈ sendings, sending.preempts = true → sending.queryId ≠ queryId) :
    Follows master after handler sendings queryId block block where
  socketFd := rfl
  canceled state := Or.inl state
  pending isRunning notPending := Or.inr ⟨running isRunning, notPending, silent⟩

theorem block_agingPass {now : Nat} {new : QueryControlBlock}
    (held : (master.agingPass config now).query queryId = some new) :
    ∃ old priority readyTimestamp, master.query queryId = some old ∧
      new = { old with priority := priority, readyTimestamp := readyTimestamp } := by
  have aged : (if queryId ∈ master.readyQueue then
      (master.query queryId).map fun query => (ageQuery config.agingInterval now query).1
        else master.query queryId) = some new → ∃ old priority readyTimestamp,
      master.query queryId = some old ∧
        new = { old with priority := priority, readyTimestamp := readyTimestamp } := by
    intro found
    split at found
    · obtain ⟨old, block, agedEq⟩ := Option.map_eq_some_iff.mp found
      obtain ⟨priority, readyTimestamp, fields⟩ := ageQuery_eq config.agingInterval now old
      exact ⟨old, priority, readyTimestamp, block, agedEq.symm.trans fields⟩
    · exact ⟨new, new.priority, new.readyTimestamp, found, rfl⟩
  unfold Master.agingPass at held
  split at held
  · exact ⟨new, new.priority, new.readyTimestamp, held, rfl⟩
  · dsimp only at held
    split at held
    · exact aged held
    · exact aged held

theorem follows_dropQuery {gone : Nat} {new : QueryControlBlock}
    (silent : ∀ sending ∈ sendings, sending.preempts = false)
    (held : (master.dropQuery gone).query queryId = some new) :
    ∃ old, master.query queryId = some old ∧
      Follows master (master.dropQuery gone) handler sendings queryId old new := by
  have different : queryId ≠ gone := by
    rintro rfl
    rw [query_dropQuery_self] at held
    cases held
  rw [query_dropQuery_of_ne different] at held
  refine ⟨new, held, Follows.unchanged List.mem_of_mem_erase ?_⟩
  intro sending sent preempts
  rw [silent sending sent] at preempts
  cases preempts

/-- Every block is new or follows from the block before. -/
theorem Change.block (change : Change config master handler sendings after)
    (tables : QueryTables master) {new : QueryControlBlock}
    (held : after.query queryId = some new) :
    (∃ path priority socket now, handler = .newQuery path priority socket now ∧
        queryId ∉ after.runningList ∧ new = newQueryBlock path priority.toNat socket now) ∨
      ∃ old, master.query queryId = some old ∧
        Follows master after handler sendings queryId old new := by
  cases change with
  | keep => exact Or.inr ⟨new, held, Follows.unchanged id (by simp)⟩
  | forward => exact Or.inr ⟨new, held, Follows.unchanged id (by simp [Sending.preempts])⟩
  | create path priority socket now asked =>
      have runningEq : (master.createQuery config path priority.toNat socket now).runningList =
          master.runningList := by
        rw [Master.createQuery, enqueueReady_eq]
        rfl
      rcases block_createQuery held with ⟨rfl, newEq⟩ | ⟨_, old⟩
      · left
        refine ⟨path, priority, socket, now, asked, ?_, newEq⟩
        rw [runningEq]
        exact fun running => Nat.lt_irrefl _ (tables.id_lt _ (tables.running_listed running))
      · refine Or.inr ⟨new, old, Follows.unchanged ?_ (by simp)⟩
        rw [runningEq]
        exact id
  | finish gone => exact Or.inr (follows_dropQuery (by simp [Sending.preempts]) held)
  | unreported gone => exact Or.inr (follows_dropQuery (by simp) held)
  | discard gone => exact Or.inr (follows_dropQuery (by simp) held)
  | requeue evicted programCounter now running =>
      right
      by_cases same : queryId = evicted
      · subst same
        obtain ⟨old, block⟩ := tables.exists_block (tables.running_listed running)
        rw [query_requeueEvicted_self block, Option.some.injEq] at held
        subst held
        refine ⟨old, block, rfl, fun impossible => (by cases impossible), ?_⟩
        intro isRunning
        exact absurd isRunning (tables.not_mem_erase_running queryId)
      · rw [query_requeueEvicted_of_ne same] at held
        exact ⟨new, held, Follows.unchanged List.mem_of_mem_erase (by simp)⟩
  | age now =>
      obtain ⟨old, priority, readyTimestamp, block, rfl⟩ := block_agingPass held
      refine Or.inr ⟨old, block, rfl, Or.inl, ?_⟩
      have quiet : Quiet master (master.agingPass config now) := quiet_agingPass config now
      rw [quiet.runningList]
      exact fun running notPending => Or.inr ⟨running, notPending, by simp⟩
  | cancel canceled query block running gone =>
      right
      rcases block_modifyQuery held with ⟨rfl, old, oldBlock, rfl⟩ | ⟨_, same⟩
      · obtain rfl : query = old := Option.some.inj (block.symm.trans oldBlock)
        exact ⟨query, block, rfl, fun _ => Or.inr gone,
          fun isRunning notPending => Or.inr ⟨isRunning, notPending, by simp⟩⟩
      · exact ⟨new, same, Follows.unchanged id (by simp)⟩
  | preempt preempted socket query canceled block running gone first =>
      right
      rcases block_modifyQuery held with ⟨rfl, old, oldBlock, rfl⟩ | ⟨different, same⟩
      · refine ⟨old, oldBlock, rfl, ?_, fun _ impossible => by cases impossible⟩
        cases canceled with
        | true => exact fun _ => Or.inr (gone rfl).2
        | false => exact Or.inl
      · refine ⟨new, same, Follows.unchanged id ?_⟩
        intro sending sent _
        rw [List.mem_singleton.mp sent]
        exact different.symm
  | assign socket started workerId readyRest query ready block =>
      right
      by_cases same : queryId = started
      · subst same
        rw [query_assignQuery_self block, Option.some.injEq] at held
        subst held
        refine ⟨query, block, rfl, fun impossible => (by cases impossible), ?_⟩
        exact fun _ _ => Or.inl ⟨_, List.mem_singleton_self _, rfl, rfl⟩
      · rw [query_assignQuery_of_ne same] at held
        refine ⟨new, held, Follows.unchanged ?_ (by simp [Sending.preempts])⟩
        intro isRunning
        exact (mem_runningList_assignQuery.mp isRunning).resolve_right same
  | revert socket reverted workerId readyRest ready =>
      right
      have isReady : reverted ∈ master.readyQueue := by simp [ready]
      obtain ⟨query, block⟩ :=
        tables.exists_block ((tables.queued_iff reverted).mpr (Or.inl isReady))
      have runningEq := (lists_revertAssignment config ready (tables.not_running isReady) socket
        workerId).2
      rw [query_revertAssignment config block socket workerId] at held
      rcases block_modifyQuery held with ⟨rfl, old, oldBlock, rfl⟩ | ⟨_, same⟩
      · refine ⟨old, oldBlock, rfl, fun impossible => (by cases impossible), ?_⟩
        rw [runningEq]
        exact fun isRunning => absurd isRunning (tables.not_running isReady)
      · refine ⟨new, same, Follows.unchanged ?_ (by simp)⟩
        rw [runningEq]
        exact id

/-- A preemption is requested of a running query that has none pending. -/
theorem Change.preempts_cases (change : Change config master handler sendings after)
    {sending : Sending} (sent : sending ∈ sendings) (preempts : sending.preempts = true) :
    sending.queryId ∈ master.runningList ∧ ∃ query,
      master.query sending.queryId = some query ∧ query.preemptionPending = false := by
  cases change with
  | keep | create | unreported | discard | requeue | age | cancel | revert => cases sent
  | forward | finish | assign =>
      rw [List.mem_singleton.mp sent] at preempts
      cases preempts
  | preempt queryId socket query canceled block running gone first =>
      rw [List.mem_singleton.mp sent]
      exact ⟨running, query, block, first⟩

end Changes

namespace Journal

variable {journal next : Journal}

section Steps

/-- A handler makes a change and appends what it sends. -/
theorem record_cases (tables : QueryTables journal.master)
    (step : journal.record config handler = some next) : ∃ sendings image,
      Change config journal.master handler sendings image ∧ SameQueries image next.master ∧
        next.sendings = journal.sendings ++ sendings ∧
          next.closed = journal.closed ++ journal.master.closedBy handler := by
  obtain ⟨image, change, same⟩ : Changes config journal.master handler _ :=
    changes_perform tables handler
  obtain rfl := Option.some.inj step
  exact ⟨_, image, change, same, rfl, rfl⟩

theorem about_eq_of_append (queryId : Nat)
    (appended : next.sendings = journal.sendings ++ sendings) : next.about queryId =
      journal.about queryId ++
        sendings.filter fun sending => decide (sending.queryId = queryId) := by
  rw [about, appended, List.filter_append]
  rfl

theorem ends_eq_of_append (queryId : Nat)
    (appended : next.sendings = journal.sendings ++ sendings) : next.ends queryId =
      journal.ends queryId + (sendings.filter fun sending =>
        decide (sending.queryId = queryId)).countP Sending.terminal := by
  rw [ends, about_eq_of_append queryId appended, List.countP_append]
  rfl

theorem master_reachable (reachable : (history config).Reachable journal) :
    (handlers config).Reachable journal.master := by
  apply reachable.invariant
  · rintro first rfl
    exact TransitionSystem.Reachable.start rfl
  · intro before handler after beforeReachable step
    obtain rfl := Option.some.inj step
    have stepped : (handlers config).step before.master handler
        (before.master.perform config handler).1 := rfl
    exact beforeReachable.next stepped

end Steps

section Endings

/-- Only queries that are gone were ended, and once; those whose Query Control left while they
were running are known. -/
structure Reported (journal : Journal) : Prop where
  tables : QueryTables journal.master
  socket_pos : ∀ queryId query, journal.master.query queryId = some query → 0 < query.socketFd
  canceled : ∀ queryId query, journal.master.query queryId = some query →
    query.state = .canceled → queryId ∈ journal.closed
  unended : ∀ queryId, queryId ∈ journal.master.queryList ∨
    journal.master.nextQueryId ≤ queryId → journal.ends queryId = 0
  once : ∀ queryId, journal.ends queryId ≤ 1

theorem reported_start : Reported start where
  tables := queryTables_initMaster
  socket_pos := by simp [start, initMaster]
  canceled := by simp [start, initMaster]
  unended := by simp [start, ends, about]
  once := by simp [start, ends, about]

theorem ends_record (reported : Reported journal)
    (step : journal.record config handler = some next) (queryId : Nat) :
    (next.ends queryId = journal.ends queryId ∧
        (queryId ∈ next.master.queryList ∨ next.master.nextQueryId ≤ queryId →
          queryId ∈ journal.master.queryList ∨ journal.master.nextQueryId ≤ queryId) ∧
        (queryId ∈ journal.master.queryList → queryId ∉ next.master.queryList →
          queryId ∈ journal.closed)) ∨
      (next.ends queryId = 1 ∧ queryId ∉ next.master.queryList ∧
        queryId < next.master.nextQueryId) := by
  obtain ⟨sendings, image, change, same, appended, _⟩ := record_cases reported.tables step
  rw [ends_eq_of_append queryId appended, same.queryList, same.nextQueryId]
  rcases change.queryList_cases with ⟨listEq, nextEq, silent⟩ | ⟨listEq, nextEq, silent⟩ |
    ⟨gone, query, block, listEq, nextEq, ended⟩
  · left
    rw [listEq, nextEq]
    refine ⟨?_, id, fun listed absent => absurd listed absent⟩
    rw [List.countP_eq_zero.mpr, Nat.add_zero]
    intro sending member
    simp [silent sending (List.mem_of_mem_filter member)]
  · left
    rw [listEq, nextEq, silent]
    refine ⟨rfl, ?_, fun listed absent => absurd (List.mem_append_left _ listed) absent⟩
    rw [List.mem_append, List.mem_singleton]
    rintro ((listed | isNew) | later)
    · exact Or.inl listed
    · exact Or.inr (Nat.le_of_eq isNew.symm)
    · exact Or.inr (Nat.le_of_succ_le later)
  · have erased : ∀ other, other ∈ journal.master.queryList.erase gone ↔
        other ≠ gone ∧ other ∈ journal.master.queryList :=
      fun other => reported.tables.nodup.mem_erase_iff
    have listed := reported.tables.listed block
    rw [listEq, nextEq, erased]
    by_cases isGone : queryId = gone
    · subst isGone
      rcases ended with ⟨sending, rfl, terminal, aboutGone⟩ | ⟨rfl, canceled | closed⟩
      · right
        refine ⟨?_, fun kept => kept.1 rfl, reported.tables.id_lt queryId listed⟩
        rw [reported.unended queryId (Or.inl listed)]
        simp [aboutGone, terminal]
      · left
        refine ⟨rfl, ?_, fun _ _ => reported.canceled queryId query block canceled⟩
        exact Or.imp_left And.right
      · have positive := reported.socket_pos queryId query block
        omega
    · left
      refine ⟨?_, Or.imp_left And.right, fun kept absent => absurd ⟨isGone, kept⟩ absent⟩
      rcases ended with ⟨sending, rfl, _, aboutGone⟩ | ⟨rfl, _⟩
      · simp [aboutGone, Ne.symm isGone]
      · rfl

theorem Reported.record (reported : Reported journal) (accepts : journal.Accepts handler)
    (step : journal.record config handler = some next) : Reported next := by
  obtain ⟨sendings, image, change, same, _, closedEq⟩ := record_cases reported.tables step
  constructor
  · exact same.queryTables (change.queryTables reported.tables)
  · intro queryId query held
    rw [same.query] at held
    rcases change.block reported.tables held with
      ⟨path, priority, socket, now, rfl, _, rfl⟩ | ⟨old, block, follows⟩
    · exact accepts
    · rw [follows.socketFd]
      exact reported.socket_pos queryId old block
  · intro queryId query held state
    rw [same.query] at held
    rw [closedEq, List.mem_append]
    rcases change.block reported.tables held with
      ⟨path, priority, socket, now, _, _, rfl⟩ | ⟨old, block, follows⟩
    · cases state
    · exact (follows.canceled state).imp_left (reported.canceled queryId old block)
  · intro queryId present
    rcases ends_record reported step queryId with ⟨same, before, _⟩ | ⟨_, absent, older⟩
    · rw [same]
      exact reported.unended queryId (before present)
    · rcases present with listed | later
      · exact absurd listed absent
      · exact absurd later (Nat.not_le.mpr older)
  · intro queryId
    rcases ends_record reported step queryId with ⟨same, _⟩ | ⟨ended, _⟩
    · rw [same]
      exact reported.once queryId
    · exact Nat.le_of_eq ended

theorem reported_of_reachable
    (reachable : ((history config).guarded Accepts).Reachable journal) : Reported journal := by
  apply reachable.invariant
  · rintro first rfl
    exact reported_start
  · intro before handler after reported step
    exact reported.record step.1 step.2

/-- Nothing is sent any more for a query that is gone, and it does not come back. -/
theorem about_of_gone {condition : Journal → Handler → Prop} {labels : List Handler}
    (tables : QueryTables journal.master) (older : queryId < journal.master.nextQueryId)
    (gone : queryId ∉ journal.master.queryList)
    (run : ((history config).guarded condition).Run journal labels next) :
    next.about queryId = journal.about queryId := by
  have kept : QueryTables next.master ∧ queryId < next.master.nextQueryId ∧
      queryId ∉ next.master.queryList ∧ next.about queryId = journal.about queryId := by
    apply run.preserves
    · rintro before handler after ⟨beforeTables, beforeOlder, beforeGone, beforeEq⟩ step
      obtain ⟨sendings, image, change, same, appended, _⟩ := record_cases beforeTables step.2
      have silent : (sendings.filter fun sending => decide (sending.queryId = queryId)) = [] := by
        rw [List.filter_eq_nil_iff]
        intro sending sent
        have listed := change.queryId_mem beforeTables sent
        simp only [decide_eq_true_eq]
        rintro rfl
        exact beforeGone listed
      refine ⟨same.queryTables (change.queryTables beforeTables), ?_, ?_, ?_⟩
      · rw [same.nextQueryId]
        rcases change.queryList_cases with ⟨_, nextEq, _⟩ | ⟨_, nextEq, _⟩ |
          ⟨_, _, _, _, nextEq, _⟩
        · rwa [nextEq]
        · rw [nextEq]
          exact Nat.lt_succ_of_lt beforeOlder
        · rwa [nextEq]
      · rw [same.queryList]
        rcases change.queryList_cases with ⟨listEq, _⟩ | ⟨listEq, _⟩ | ⟨_, _, _, listEq, _⟩
        · rwa [listEq]
        · rw [listEq, List.mem_append, List.mem_singleton, not_or]
          exact ⟨beforeGone, Nat.ne_of_lt beforeOlder⟩
        · rw [listEq]
          exact fun listed => beforeGone (List.mem_of_mem_erase listed)
      · rw [about_eq_of_append queryId appended, silent, List.append_nil]
        exact beforeEq
    · exact ⟨tables, older, gone, rfl⟩
  exact kept.2.2.2

/-- No more than one terminal message is sent for a query, no message is sent for it once it has
left `query_list`, and it leaves with a terminal message unless its Query Control was found gone
before. -/
theorem end_reported_once (config : MasterConfig) {journal : Journal}
    (reachable : ((history config).guarded Accepts).Reachable journal) (queryId : Nat) :
    journal.ends queryId ≤ 1 ∧
      (queryId < journal.master.nextQueryId → queryId ∉ journal.master.queryList →
        ∀ labels later, ((history config).guarded Accepts).Run journal labels later →
          later.about queryId = journal.about queryId) ∧
      ∀ handler next, ((history config).guarded Accepts).step journal handler next →
        queryId ∈ journal.master.queryList → queryId ∉ next.master.queryList →
          next.ends queryId = 1 ∨ queryId ∈ journal.closed := by
  have reported := reported_of_reachable reachable
  refine ⟨reported.once queryId, ?_, ?_⟩
  · intro older gone labels later run
    exact about_of_gone reported.tables older gone run
  · intro handler next step listed absent
    rcases ends_record reported step.2 queryId with ⟨_, _, closed⟩ | ⟨ended, _⟩
    · exact Or.inr (closed listed absent)
    · exact Or.inl ended

end Endings

section Preemptions

/-- The preemptions of every query are spaced by its dispatches, and a running query of which
none is pending was not asked for since its last dispatch. -/
structure Paced (journal : Journal) : Prop where
  tables : QueryTables journal.master
  spaced : ∀ queryId, EventLog.Spaced (Sending.startsQuery queryId)
    (Sending.preemptsQuery queryId) journal.sendings
  fresh : ∀ queryId ∈ journal.master.runningList, ∀ query,
    journal.master.query queryId = some query → query.preemptionPending = false →
      EventLog.NoneSince (Sending.startsQuery queryId) (Sending.preemptsQuery queryId)
        journal.sendings

theorem paced_start : Paced start where
  tables := queryTables_initMaster
  spaced := fun _ => EventLog.spaced_nil
  fresh := by simp [start, initMaster]

theorem Paced.record (paced : Paced journal)
    (step : journal.record config handler = some next) : Paced next := by
  obtain ⟨sendings, image, change, same, appended, _⟩ := record_cases paced.tables step
  constructor
  · exact same.queryTables (change.queryTables paced.tables)
  · intro queryId
    rw [appended]
    rcases change.sendings_cases with rfl | ⟨sending, rfl⟩
    · rw [List.append_nil]
      exact paced.spaced queryId
    · apply (paced.spaced queryId).append
      intro preempts
      simp only [Sending.preemptsQuery, Bool.and_eq_true, decide_eq_true_eq] at preempts
      obtain ⟨running, query, block, notPending⟩ :=
        change.preempts_cases (List.mem_singleton_self sending) preempts.1
      rw [preempts.2] at running block
      exact paced.fresh queryId running query block notPending
  · intro queryId running query held notPending
    rw [same.query] at held
    rw [same.runningList] at running
    rw [appended]
    rcases change.block paced.tables held with
      ⟨path, priority, socket, now, _, notRunning, _⟩ | ⟨old, block, follows⟩
    · exact absurd running notRunning
    · rcases follows.pending running notPending with
        ⟨sending, sent, starts, isQuery⟩ | ⟨wasRunning, wasNotPending, silent⟩
      · rcases change.sendings_cases with rfl | ⟨only, rfl⟩
        · cases sent
        · rw [List.mem_singleton.mp sent] at starts isQuery
          apply EventLog.noneSince_reset
          simp [Sending.startsQuery, starts, isQuery]
      · have fresh := paced.fresh queryId wasRunning old block wasNotPending
        rcases change.sendings_cases with rfl | ⟨only, rfl⟩
        · rwa [List.append_nil]
        · apply fresh.append
          by_contra preempts
          simp only [Sending.preemptsQuery, Bool.and_eq_true, decide_eq_true_eq,
            Bool.not_eq_false] at preempts
          exact silent only (List.mem_singleton_self only) preempts.1 preempts.2

theorem paced_of_reachable (reachable : (history config).Reachable journal) :
    Paced journal := by
  apply reachable.invariant
  · rintro first rfl
    exact paced_start
  · intro before handler after paced step
    exact paced.record step

theorem eq_of_preemptQueryInExec {sent : Bool} {socket worst : Nat}
    (requested : Outgoing.toWorker socket (.preemptReq queryId) ∈
      (master.preemptQueryInExec sent worst).2) : queryId = worst := by
  unfold preemptQueryInExec at requested
  split at requested
  · cases requested
  · split at requested
    · cases requested
    · split at requested
      · simp only [finalizeQueryWithError] at requested
        split at requested
        · cases requested
        · simp at requested
      · split at requested
        · simp only [List.mem_singleton, Outgoing.toWorker.injEq,
            WorkerMessage.preemptReq.injEq] at requested
          exact requested.2
        · cases requested

theorem justified_of_checkPreemption (order : InOrder master) {sent : Bool} {socket : Nat}
    (requested : Outgoing.toWorker socket (.preemptReq queryId) ∈
      (master.checkPreemption sent).2) : Justified master queryId := by
  unfold checkPreemption at requested
  split at requested
  · cases requested
  · split at requested
    · rename_i best readyRest worst ready picked
      split at requested
      · cases requested
      · rename_i larger
        obtain rfl := eq_of_preemptQueryInExec requested
        refine ⟨worstRunning_mem picked, priorityOf_le_worstRunning picked, best, ?_, ?_, ?_⟩
        · simp [ready]
        · intro other member
          have sorted := order.sorted
          rw [ready, List.pairwise_cons] at sorted
          rw [ready, List.mem_cons] at member
          rcases member with rfl | later
          · exact Nat.le_refl _
          · exact sorted.1 other later
        · omega
    · cases requested

/-- Between two dispatches of a query at most one preemption of it is requested, and under the
PRIORITY algorithm `check_preemption` requests only those that are justified. -/
theorem preemptions_paced_and_justified (config : MasterConfig) {journal : Journal}
    (reachable : (history config).Reachable journal) (queryId : Nat) :
    EventLog.Spaced (Sending.startsQuery queryId) (Sending.preemptsQuery queryId)
        journal.sendings ∧
      (config.schedulingAlgorithm = .priority → ∀ sent socket,
        Sending.report (.toWorker socket (.preemptReq queryId)) ∈
            (journal.master.perform config (.checkPreemption sent)).2 →
          Justified journal.master queryId) := by
  refine ⟨(paced_of_reachable reachable).spaced queryId, ?_⟩
  intro priority sent socket requested
  have order := inOrder_of_reachable priority (master_reachable reachable)
  apply justified_of_checkPreemption order
  simpa [perform, reported] using requested

end Preemptions

section Examples

/-- Query 0 ends on its worker; the Query Control of query 1 goes away while that worker runs
it, and the eviction ends the query. -/
def endedAndEvicted : List Handler :=
  [.workerHandshake 1 5, .newQuery "Q0" 3 6 1, .dispatch true, .newQuery "Q1" 1 7 2,
    .endQuery 5 0, .dispatch true, .disconnectQueryControl 7 true, .evictRes 5 1 4 9]

theorem end_reported_once_endedAndEvicted :
    ∃ journal, ((history (.insertionSorting .priority 10)).guarded Accepts).Run start
        endedAndEvicted journal ∧ journal.ends 0 = 1 ∧ journal.ends 1 = 0 ∧
      journal.ends 1 ≤ 1 ∧
      (1 < journal.master.nextQueryId → 1 ∉ journal.master.queryList →
        ∀ labels later, ((history (.insertionSorting .priority 10)).guarded Accepts).Run journal
          labels later → later.about 1 = journal.about 1) ∧
      ∀ handler next, ((history (.insertionSorting .priority 10)).guarded Accepts).step journal
          handler next →
        1 ∈ journal.master.queryList → 1 ∉ next.master.queryList →
          next.ends 1 = 1 ∨ 1 ∈ journal.closed := by
  have summary : (TransitionSystem.runNext (record (.insertionSorting .priority 10)) start
      endedAndEvicted).map (fun journal => (journal.ends 0, journal.ends 1)) = some (1, 0) := by
    decide +kernel
  obtain ⟨journal, ends, facts⟩ := Option.map_eq_some_iff.mp summary
  simp only [Prod.mk.injEq] at facts
  have plain : (history (.insertionSorting .priority 10)).Run start endedAndEvicted journal :=
    TransitionSystem.run_of_runNext ends
  have run : ((history (.insertionSorting .priority 10)).guarded Accepts).Run start
      endedAndEvicted journal := by
    apply plain.guarded_of_labels
    simp [endedAndEvicted, Accepts]
  exact ⟨journal, run, facts.1, facts.2,
    end_reported_once (.insertionSorting .priority 10) ⟨start, _, rfl, run⟩ 1⟩

/-- Query 1 is better than the running query 0, which is preempted once for it, dispatched again
afterwards and preempted for query 2. -/
def preemptedTwice : List Handler :=
  [.workerHandshake 1 5, .newQuery "Q0" 9 6 1, .dispatch true, .newQuery "Q1" 1 7 2,
    .checkPreemption true, .checkPreemption true, .evictRes 5 0 4 3, .dispatch true,
    .endQuery 5 1, .dispatch true, .newQuery "Q2" 2 8 4]

theorem preemptions_paced_and_justified_preemptedTwice :
    ∃ journal, (history (.insertionSorting .priority 10)).Run start preemptedTwice journal ∧
      journal.sendings.countP (Sending.preemptsQuery 0) = 1 ∧
        (journal.master.perform (.insertionSorting .priority 10) (.checkPreemption true)).2 =
            [.report (.toWorker 5 (.preemptReq 0))] ∧
          EventLog.Spaced (Sending.startsQuery 0) (Sending.preemptsQuery 0) journal.sendings ∧
            Justified journal.master 0 := by
  have summary : (TransitionSystem.runNext (record (.insertionSorting .priority 10)) start
      preemptedTwice).map (fun journal => (journal.sendings.countP (Sending.preemptsQuery 0),
        (journal.master.perform (.insertionSorting .priority 10) (.checkPreemption true)).2)) =
          some (1, [.report (.toWorker 5 (.preemptReq 0))]) := by
    decide +kernel
  obtain ⟨journal, ends, facts⟩ := Option.map_eq_some_iff.mp summary
  simp only [Prod.mk.injEq] at facts
  have run : (history (.insertionSorting .priority 10)).Run start preemptedTwice journal :=
    TransitionSystem.run_of_runNext ends
  have both := preemptions_paced_and_justified (.insertionSorting .priority 10)
    ⟨start, _, rfl, run⟩ 0
  exact ⟨journal, run, facts.1, facts.2, both.1,
    both.2 rfl true 5 (by rw [facts.2]; exact List.mem_singleton_self _)⟩

end Examples

end Journal

end Master

end MasterOfFiles
