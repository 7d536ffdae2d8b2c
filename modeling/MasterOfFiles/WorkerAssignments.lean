import MasterOfFiles.TransitionSystem
import MasterOfFiles.WorkerThreads

/-!
# Assigned queries of a Worker

One Worker together with a Master that sends it a query only after an answer
for the one before.  A query is pending from the moment the listener has
assigned it until the executor takes it or the listener evicts it.  The
executor sends its answer before it enters the critical section that closes the
execution, and on the path of an eviction that section clears `has_query`
whichever query is assigned by then.
-/

namespace MasterOfFiles

/-- A Worker, its two connections, the query that the Master has sent and got no
answer for, and the queries that are pending. -/
structure AssignedWorker where
  process : WorkerProcess
  toWorker : List WorkerMessage
  toMaster : List WorkerReport
  outstanding : Option Nat
  pending : List Nat
deriving DecidableEq

/-- The steps of the Master, the listener and the executor. -/
inductive AssignmentLabel
  | send (message : WorkerMessage)
  | receive
  | listen (flush : Option String)
  | execute (answers : StorageAnswers)
deriving DecidableEq

namespace WorkerReport

def queryId : WorkerReport → Nat
  | .endQuery queryId => queryId
  | .evictRes queryId _ => queryId
  | .storageError queryId _ => queryId

def evicts (queryId : Nat) : WorkerReport → Bool
  | .evictRes evicted _ => decide (evicted = queryId)
  | _ => false

end WorkerReport

namespace AssignedWorker

def connected : AssignedWorker where
  process := .started
  toWorker := []
  toMaster := []
  outstanding := none
  pending := []

/-- Whether the Master may send a message, and what it waits for afterwards. -/
def sending (outstanding : Option Nat) : WorkerMessage → Option (Option Nat)
  | .startQuery queryId _ _ => if outstanding = none then some (some queryId) else none
  | .preemptReq _ => some outstanding

def pendingAfterListen (pending : List Nat) (sent : List WorkerReport) :
    WorkerMessage → List Nat
  | .startQuery queryId _ _ => if queryId ∈ pending then pending else queryId :: pending
  | .preemptReq queryId =>
    if sent.any (WorkerReport.evicts queryId) then
      pending.filter fun other => decide (other ≠ queryId)
    else pending

/-- The pending queries after a step of the executor: it takes the query whose
context it copies. -/
def pendingAfterExecute (worker : AssignedWorker) : List Nat :=
  if worker.process.executor = .fetched then
    worker.pending.filter fun other =>
      decide (other ≠ worker.process.state.currentQuery.queryId)
  else worker.pending

def next (scripts : Scripts) (worker : AssignedWorker) :
    AssignmentLabel → Option AssignedWorker
  | .send message =>
    (sending worker.outstanding message).map fun outstanding =>
      { worker with
        toWorker := worker.toWorker ++ [message]
        outstanding := outstanding }
  | .receive =>
    match worker.toMaster with
    | [] => none
    | report :: rest =>
      some
        { worker with
          toMaster := rest
          outstanding :=
            if worker.outstanding = some report.queryId then none else worker.outstanding }
  | .listen flush =>
    match worker.toWorker with
    | [] => none
    | message :: rest =>
      let effect := worker.process.listen message flush
      some
        { worker with
          process := effect.process
          toWorker := rest
          toMaster := worker.toMaster ++ effect.sent
          pending := pendingAfterListen worker.pending effect.sent message }
  | .execute answers =>
    (worker.process.execute scripts answers).map fun effect =>
      { worker with
        process := effect.process
        toMaster := worker.toMaster ++ effect.sent
        pending := worker.pendingAfterExecute }

/-- Every interleaving of the Master, the listener and the executor. -/
def system (scripts : Scripts) : TransitionSystem AssignedWorker AssignmentLabel :=
  .ofNext (· = connected) (next scripts)

/-- A pending query is the one that the executor will take. -/
def NoneDropped (worker : AssignedWorker) : Prop :=
  ∀ queryId ∈ worker.pending, worker.process.state.hasQuery = true ∧
    worker.process.state.currentQuery.queryId = queryId

/-- The condition under which a step drops nothing: the listener assigns a query
only when no other one is pending, and the closing section of the executor runs
when nothing is pending, or closes a query other than the assigned one without
evicting it. -/
def Keeps (worker : AssignedWorker) : AssignmentLabel → Prop
  | .send _ => True
  | .receive => True
  | .listen _ => ∀ queryId programCounter path,
      worker.toWorker.head? = some (.startQuery queryId programCounter path) →
        ∀ other ∈ worker.pending, other = queryId
  | .execute _ => ∀ context result, worker.process.executor = .closing context result →
      worker.pending = [] ∨
        (result ≠ .eject ∧ worker.process.state.currentQuery.queryId ≠ context.queryId)

variable {scripts : Scripts} {worker after : AssignedWorker}

theorem noneDropped_of_pending_eq_nil (empty : worker.pending = []) : NoneDropped worker := by
  intro queryId member
  simp [empty] at member

theorem noneDropped_listen_iff {flush : Option String} (kept : NoneDropped worker)
    (step : next scripts worker (.listen flush) = some after) :
    NoneDropped after ↔ Keeps worker (.listen flush) := by
  dsimp only [next] at step
  split at step
  · simp at step
  · rename_i message rest waiting
    obtain rfl := Option.some.inj step
    cases message with
    | startQuery queryId programCounter path =>
        constructor
        · intro dropped otherId otherCounter otherPath head other member
          rw [waiting] at head
          obtain ⟨rfl, rfl, rfl⟩ : queryId = otherId ∧ programCounter = otherCounter ∧
              path = otherPath := by simpa using head
          have stays : other ∈ pendingAfterListen worker.pending []
              (.startQuery queryId programCounter path) := by
            dsimp only [pendingAfterListen]
            split
            · exact member
            · exact List.mem_cons_of_mem _ member
          exact (dropped other stays).2.symm
        · intro keeps other member
          have same : other = queryId := by
            dsimp only [pendingAfterListen] at member
            split at member
            · exact keeps _ _ _ (by rw [waiting]; rfl) other member
            · rcases List.mem_cons.mp member with rfl | old
              · rfl
              · exact keeps _ _ _ (by rw [waiting]; rfl) other old
          exact ⟨rfl, same.symm⟩
    | preemptReq queryId =>
        have vacuous : Keeps worker (.listen flush) := by
          intro otherId otherCounter otherPath head
          simp [waiting] at head
        refine ⟨fun _ => vacuous, fun _ => ?_⟩
        intro other member
        unfold WorkerProcess.listen WorkerProcess.ejectQuery at member ⊢
        dsimp only at member ⊢
        split at member
        · rename_i assigned
          rw [if_pos assigned]
          split at member
          · rename_i running
            rw [if_pos running]
            exact kept other (by simpa [pendingAfterListen] using member)
          · rename_i notRunning
            have removed : other ∈ worker.pending ∧ other ≠ queryId := by
              simpa [pendingAfterListen, WorkerReport.evicts] using member
            have current := (kept other removed.1).2
            exact absurd (current.symm.trans assigned.2) removed.2
        · rename_i unassigned
          rw [if_neg unassigned]
          exact kept other (by simpa [pendingAfterListen] using member)

/-- Outside the closing section the executor leaves the assignment alone. -/
theorem execute_keeps_assignment {process : WorkerProcess} {answers : StorageAnswers}
    {effect : ThreadEffect} (step : process.execute scripts answers = some effect)
    (notClosing : ∀ context result, process.executor ≠ .closing context result) :
    effect.process.state.hasQuery = process.state.hasQuery ∧
      effect.process.state.currentQuery.queryId = process.state.currentQuery.queryId := by
  unfold WorkerProcess.execute at step
  split at step
  · split at step
    · obtain rfl := Option.some.inj step
      exact ⟨rfl, rfl⟩
    · simp at step
  · obtain rfl := Option.some.inj step
    exact ⟨rfl, rfl⟩
  · obtain rfl := Option.some.inj step
    exact ⟨rfl, rfl⟩
  · obtain rfl := Option.some.inj step
    unfold WorkerProcess.executeInstruction
    split
    · exact ⟨rfl, rfl⟩
    · split
      · exact ⟨rfl, rfl⟩
      · exact ⟨rfl, rfl⟩
      · split <;> exact ⟨rfl, rfl⟩
  · obtain rfl := Option.some.inj step
    exact ⟨rfl, rfl⟩
  · obtain rfl := Option.some.inj step
    exact ⟨rfl, rfl⟩
  · obtain rfl := Option.some.inj step
    exact ⟨rfl, rfl⟩
  · obtain rfl := Option.some.inj step
    exact ⟨rfl, rfl⟩
  · rename_i context result position
    exact absurd position (notClosing context result)

theorem noneDropped_execute_iff {answers : StorageAnswers} (kept : NoneDropped worker)
    (step : next scripts worker (.execute answers) = some after) :
    NoneDropped after ↔ Keeps worker (.execute answers) := by
  obtain ⟨effect, execution, rfl⟩ := Option.map_eq_some_iff.mp step
  by_cases closes : ∃ context result, worker.process.executor = .closing context result
  · obtain ⟨context, result, position⟩ := closes
    have pendingEq : worker.pendingAfterExecute = worker.pending := by
      simp [pendingAfterExecute, position]
    have keepsIff : Keeps worker (.execute answers) ↔ worker.pending = [] ∨
        (result ≠ .eject ∧ worker.process.state.currentQuery.queryId ≠ context.queryId) := by
      simp [Keeps, position]
    have closed : effect = worker.process.closeExecution context result answers.flush := by
      simpa [WorkerProcess.execute, position, eq_comm] using execution
    rw [keepsIff, NoneDropped, pendingEq, closed]
    constructor
    · intro dropped
      by_cases empty : worker.pending = []
      · exact Or.inl empty
      · obtain ⟨queryId, member⟩ := List.exists_mem_of_ne_nil _ empty
        have assigned := (dropped queryId member).1
        right
        cases result with
        | eject => simp [WorkerProcess.closeExecution] at assigned
        | ended => simpa [WorkerProcess.closeExecution, (kept queryId member).1] using assigned
        | error => simpa [WorkerProcess.closeExecution, (kept queryId member).1] using assigned
    · rintro (empty | ⟨notEject, different⟩) queryId member
      · simp [empty] at member
      · obtain ⟨assigned, current⟩ := kept queryId member
        cases result with
        | eject => exact absurd rfl notEject
        | ended => simpa [WorkerProcess.closeExecution, assigned, different] using current
        | error => simpa [WorkerProcess.closeExecution, assigned, different] using current
  · have keeps : Keeps worker (.execute answers) := by
      intro context result position
      exact absurd ⟨context, result, position⟩ closes
    refine ⟨fun _ => keeps, fun _ queryId member => ?_⟩
    obtain ⟨hasQueryEq, currentEq⟩ := execute_keeps_assignment execution
      (fun context result position => closes ⟨context, result, position⟩)
    have old : queryId ∈ worker.pending := by
      unfold pendingAfterExecute at member
      split at member
      · exact (List.mem_filter.mp member).1
      · exact member
    rw [hasQueryEq, currentEq]
    exact kept queryId old

/-- The condition is exact: a step from a state where nothing is dropped drops
nothing if and only if it meets the condition. -/
theorem noneDropped_step_iff {label : AssignmentLabel} (kept : NoneDropped worker)
    (step : next scripts worker label = some after) :
    NoneDropped after ↔ Keeps worker label := by
  cases label with
  | send message =>
      obtain ⟨outstanding, _, rfl⟩ := Option.map_eq_some_iff.mp step
      exact ⟨fun _ => trivial, fun _ => kept⟩
  | receive =>
      dsimp only [next] at step
      split at step
      · simp at step
      · obtain rfl := Option.some.inj step
        exact ⟨fun _ => trivial, fun _ => kept⟩
  | listen flush => exact noneDropped_listen_iff kept step
  | execute answers => exact noneDropped_execute_iff kept step

/-- Along every run whose steps meet the condition no assigned query is dropped,
and the first step that does not meet it drops one. -/
theorem noneDropped_of_reachable
    (reachable : ((system scripts).guarded Keeps).Reachable worker) :
    NoneDropped worker ∧ ∀ label after, (system scripts).step worker label after →
      (NoneDropped after ↔ Keeps worker label) := by
  have kept : NoneDropped worker := by
    refine reachable.invariant ?_ ?_
    · rintro state rfl
      exact noneDropped_of_pending_eq_nil rfl
    · rintro before label after kept ⟨keeps, step⟩
      exact (noneDropped_step_iff kept step).mpr keeps
  exact ⟨kept, fun label after step => noneDropped_step_iff kept step⟩

section Runs

instance (worker : AssignedWorker) : Decidable (NoneDropped worker) :=
  inferInstanceAs (Decidable (∀ queryId ∈ worker.pending,
    worker.process.state.hasQuery = true ∧
      worker.process.state.currentQuery.queryId = queryId))

def createAndEnd : Scripts where
  lines _ := ["CREATE MATERIAS:BASE", "END"]
  decode line := if line = "END" then .finish else .operation

def answering : StorageAnswers where
  outcome := .succeeded
  flush := none

def quicklyKeeps (worker : AssignedWorker) : AssignmentLabel → Bool
  | .listen _ =>
    match worker.toWorker.head? with
    | some (.startQuery queryId _ _) =>
      worker.pending.all fun other => decide (other = queryId)
    | _ => true
  | .execute _ =>
    match worker.process.executor with
    | .closing context result => worker.pending.isEmpty ||
        decide (result ≠ .eject ∧ worker.process.state.currentQuery.queryId ≠ context.queryId)
    | _ => true
  | _ => true

theorem keeps_of_quicklyKeeps (worker : AssignedWorker) (label : AssignmentLabel)
    (quick : worker.quicklyKeeps label = true) : worker.Keeps label := by
  cases label with
  | listen flush =>
      intro queryId programCounter path first other member
      simp only [quicklyKeeps, first, List.all_eq_true, decide_eq_true_eq] at quick
      exact quick other member
  | execute answers =>
      intro context result closes
      simp only [quicklyKeeps, closes, Bool.or_eq_true, List.isEmpty_iff,
        decide_eq_true_eq] at quick
      exact quick
  | _ => trivial

/-- Query 0 runs to its end, query 1 is evicted after its first instruction, and the executor has
closed each of them before the next one is assigned. -/
def endThenEvict : List AssignmentLabel :=
  [.send (.startQuery 0 0 "AGING_1"), .listen none] ++ List.replicate 10 (.execute answering) ++
    [.receive, .send (.startQuery 1 0 "AGING_2"), .listen none] ++
    List.replicate 3 (.execute answering) ++ [.send (.preemptReq 1), .listen none] ++
    List.replicate 5 (.execute answering) ++
    [.receive, .send (.startQuery 2 0 "AGING_3"), .listen none]

theorem noneDropped_endThenEvict :
    ∃ worker, ((system createAndEnd).guarded Keeps).Reachable worker ∧
      worker.pending = [2] ∧ NoneDropped worker := by
  have ends : (TransitionSystem.runNext (TransitionSystem.guardedNext (next createAndEnd)
      fun worker label => worker.quicklyKeeps label = true) connected endThenEvict).any
      (fun worker => decide (worker.pending = [2])) = true := by
    decide +kernel
  obtain ⟨worker, run, pending⟩ := (Option.any_eq_true _ _).mp ends
  have reachable : ((system createAndEnd).guarded Keeps).Reachable worker :=
    ⟨connected, endThenEvict, rfl,
      (TransitionSystem.run_of_runGuarded run).guarded_mono keeps_of_quicklyKeeps⟩
  exact ⟨worker, reachable, of_decide_eq_true pending, (noneDropped_of_reachable reachable).1⟩

/-- The first query is evicted, and the second one is assigned before the
executor closes the execution of the first. -/
def evictAndAssign : List AssignmentLabel :=
  [.send (.startQuery 0 0 "AGING_1"), .listen none,
    .execute answering, .execute answering, .execute answering,
    .send (.preemptReq 0), .listen none,
    .execute answering, .execute answering, .execute answering, .execute answering,
    .receive, .send (.startQuery 1 0 "AGING_2"), .listen none,
    .execute answering]

theorem assigned_query_dropped_after_eviction :
    ∃ worker, (system createAndEnd).Reachable worker ∧ ¬ NoneDropped worker := by
  have ends : (TransitionSystem.runNext (next createAndEnd) connected evictAndAssign).any
      (fun worker => decide (¬ NoneDropped worker)) = true := by
    decide +kernel
  obtain ⟨worker, run, dropped⟩ := (Option.any_eq_true _ _).mp ends
  exact ⟨worker, ⟨connected, evictAndAssign, rfl, TransitionSystem.run_of_runNext run⟩,
    of_decide_eq_true dropped⟩

end Runs

end AssignedWorker

end MasterOfFiles
