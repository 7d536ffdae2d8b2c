import MasterOfFiles.TransitionSystem
import MasterOfFiles.WorkerTokens

/-!
# Preemption requests of a Worker

A request is outstanding from the moment the listener handles it until the end or
the eviction of its query is sent.  The executor marks itself as executing in
`fetch_next_query` and clears `ejection_requested` in a critical section of its own
afterwards, so a request that comes in between is forgotten; so is one that comes
while the executor is still closing the query before.  A request that finds the
executor at work on its query is answered after one instruction at most.
-/

namespace MasterOfFiles

/-- A Worker and, for every query with an outstanding request, the number of
instructions of it executed since. -/
structure PreemptedWorker where
  process : WorkerProcess
  outstanding : Nat → Option Nat

/-- The critical sections of the two threads. -/
inductive PreemptionLabel
  | listen (message : WorkerMessage) (flush : Option String)
  | execute (answers : StorageAnswers)

namespace PreemptedWorker

def connected : PreemptedWorker where
  process := .started
  outstanding _ := none

/-- A request for the assigned query becomes outstanding. -/
def afterMessage (state : WorkerState) (outstanding : Nat → Option Nat) :
    WorkerMessage → Nat → Option Nat
  | .startQuery _ _ _ => outstanding
  | .preemptReq queryId =>
    if state.hasQuery ∧ state.currentQuery.queryId = queryId then
      Function.update outstanding queryId (some ((outstanding queryId).getD 0))
    else outstanding

/-- An instruction of a query with an outstanding request counts. -/
def afterInstruction (outstanding : Nat → Option Nat) :
    Option QueryContext → Nat → Option Nat
  | none => outstanding
  | some context =>
    Function.update outstanding context.queryId
      ((outstanding context.queryId).map (· + 1))

def answered (sent : List WorkerReport) (outstanding : Nat → Option Nat) :
    Nat → Option Nat :=
  fun queryId =>
    if queryId ∈ endIds sent ∨ queryId ∈ evictIds sent then none else outstanding queryId

def next (scripts : Scripts) (worker : PreemptedWorker) :
    PreemptionLabel → Option PreemptedWorker
  | .listen message flush =>
    let effect := worker.process.listen message flush
    some
      { process := effect.process
        outstanding :=
          answered effect.sent
            (afterMessage worker.process.state worker.outstanding message) }
  | .execute answers =>
    (worker.process.execute scripts answers).map fun effect =>
      { process := effect.process
        outstanding :=
          answered effect.sent
            (afterInstruction worker.outstanding effect.executedInstruction) }

/-- Every interleaving of the two threads, with any messages of the Master. -/
def system (scripts : Scripts) : TransitionSystem PreemptedWorker PreemptionLabel :=
  .ofNext (· = connected) (next scripts)

/-- No query with an outstanding request executes a second instruction. -/
def NoneLost (worker : PreemptedWorker) : Prop :=
  ∀ queryId count, worker.outstanding queryId = some count → count ≤ 1

/-- The condition under which a request is not lost: the query waits to be taken, or
the executor is at work on it. -/
def Heard (worker : PreemptedWorker) : PreemptionLabel → Prop
  | .listen (.preemptReq queryId) _ =>
    worker.process.state.hasQuery = true →
      worker.process.state.currentQuery.queryId = queryId →
        worker.process.state.isExecuting = true →
          worker.process.executor.active.map QueryContext.queryId = some queryId
  | _ => True

instance (worker : PreemptedWorker) (label : PreemptionLabel) :
    Decidable (worker.Heard label) :=
  match label with
  | .listen (.preemptReq _) _ => inferInstanceAs (Decidable (_ → _))
  | .listen (.startQuery _ _ _) _ => inferInstanceAs (Decidable True)
  | .execute _ => inferInstanceAs (Decidable True)

end PreemptedWorker

def Executor.fetches : Executor → Bool
  | .checking _ => true
  | .executing _ => true
  | .advancing _ => true
  | _ => false

namespace PreemptedWorker

variable {scripts : Scripts} {worker : PreemptedWorker}

/-- The invariant: an outstanding request is noted, the executor is at work on its
query, and after an instruction of it fetches no other. -/
structure Noted (worker : PreemptedWorker) : Prop where
  formed : worker.process.WellFormed
  requested : ∀ queryId count, worker.outstanding queryId = some count →
    worker.process.state.ejectionRequested = true ∧
      worker.process.executor.active.map QueryContext.queryId = some queryId ∧
      (count = 0 ∨ (count = 1 ∧ worker.process.executor.fetches = false))

theorem Noted.noneLost (noted : Noted worker) : NoneLost worker := by
  intro queryId count outstanding
  rcases (noted.requested queryId count outstanding).2.2 with none | ⟨one, _⟩
  · omega
  · omega

theorem noted_connected : Noted connected where
  formed := WorkerProcess.wellFormed_started
  requested queryId count outstanding := by simp [connected] at outstanding

theorem answered_eq_some {sent : List WorkerReport} {outstanding : Nat → Option Nat}
    {queryId count : Nat} (some : answered sent outstanding queryId = some count) :
    queryId ∉ endIds sent ∧ queryId ∉ evictIds sent ∧
      outstanding queryId = .some count := by
  unfold answered at some
  split at some
  · cases some
  · rename_i unanswered
    exact ⟨fun ended => unanswered (Or.inl ended), fun evicted => unanswered (Or.inr evicted),
      some⟩

theorem afterMessage_own {state : WorkerState} {outstanding : Nat → Option Nat}
    (assigned : state.hasQuery = true) :
    afterMessage state outstanding (.preemptReq state.currentQuery.queryId) =
      Function.update outstanding state.currentQuery.queryId
        (some ((outstanding state.currentQuery.queryId).getD 0)) :=
  if_pos ⟨assigned, rfl⟩

theorem Noted.listen (noted : Noted worker) {message : WorkerMessage} {flush : Option String}
    {effect : ThreadEffect}
    (heard : worker.Heard (.listen message flush))
    (step : WorkerProcess.ListenerStep worker.process.state worker.process.executor message
      effect) :
    Noted
      ⟨effect.process, answered effect.sent
        (afterMessage worker.process.state worker.outstanding message)⟩ := by
  refine ⟨noted.formed.listen step, ?_⟩
  intro queryId count outstanding
  obtain ⟨_, unevicted, counted⟩ := answered_eq_some outstanding
  obtain ⟨⟨state, executor⟩, requests⟩ := worker
  cases step with
  | assign => exact noted.requested queryId count counted
  | request assigned executing =>
      have active := heard assigned rfl executing
      change afterMessage state requests (.preemptReq state.currentQuery.queryId) queryId =
        some count at counted
      rw [afterMessage_own assigned] at counted
      by_cases same : queryId = state.currentQuery.queryId
      · rw [same, Function.update_self, Option.some.injEq] at counted
        rw [same]
        cases before : requests state.currentQuery.queryId with
        | none => exact ⟨rfl, active, Or.inl (by simp [← counted, before])⟩
        | some earlier =>
            have old := noted.requested _ earlier before
            rw [before, Option.getD_some] at counted
            rw [← counted]
            exact ⟨rfl, active, old.2.2⟩
      · rw [Function.update_of_ne same] at counted
        have old := noted.requested queryId count counted
        exact ⟨rfl, old.2⟩
  | evict assigned resting errors =>
      have different : queryId ≠ state.currentQuery.queryId := by
        rintro rfl
        simp [errors] at unevicted
      change afterMessage state requests (.preemptReq state.currentQuery.queryId) queryId =
        some count at counted
      rw [afterMessage_own assigned, Function.update_of_ne different] at counted
      exact noted.requested queryId count counted
  | ignore other =>
      simp only [afterMessage, other, if_false] at counted
      exact noted.requested queryId count counted

/-- The executed instruction is the first of its query since the request. -/
theorem Noted.instruction {state : WorkerState} {context : QueryContext}
    {requests : Nat → Option Nat}
    (noted : Noted ⟨⟨state, .executing context⟩, requests⟩) {queryId count : Nat}
    (counted : afterInstruction requests (some context) queryId = some count) :
    state.ejectionRequested = true ∧ context.queryId = queryId ∧ count = 1 := by
  by_cases same : queryId = context.queryId
  · rw [same] at counted ⊢
    simp only [afterInstruction, Function.update_self, Option.map_eq_some_iff] at counted
    obtain ⟨earlier, before, rfl⟩ := counted
    obtain ⟨requested, _, phase⟩ := noted.requested _ earlier before
    simp only [Executor.fetches, Bool.true_eq_false, and_false, or_false] at phase
    exact ⟨requested, rfl, by omega⟩
  · simp only [afterInstruction, Function.update_of_ne same] at counted
    obtain ⟨_, active, _⟩ := noted.requested queryId count counted
    exact absurd (Option.some.inj active).symm same

theorem Noted.execute (noted : Noted worker) {effect : ThreadEffect}
    (step : WorkerProcess.ExecutorStep scripts worker.process.state worker.process.executor
      effect) :
    Noted
      ⟨effect.process, answered effect.sent
        (afterInstruction worker.outstanding effect.executedInstruction)⟩ := by
  refine ⟨noted.formed.execute step, ?_⟩
  intro queryId count outstanding
  obtain ⟨unended, unevicted, counted⟩ := answered_eq_some outstanding
  obtain ⟨⟨state, executor⟩, requests⟩ := worker
  cases step with
  | finished present =>
      obtain ⟨_, rfl, _⟩ := noted.instruction counted
      simp at unended
  | succeeded present =>
      obtain ⟨requested, rfl, rfl⟩ := noted.instruction counted
      exact ⟨requested, rfl, Or.inr ⟨rfl, rfl⟩⟩
  | failed present errors =>
      obtain ⟨requested, rfl, rfl⟩ := noted.instruction counted
      exact ⟨requested, rfl, Or.inr ⟨rfl, rfl⟩⟩
  | fetch assigned =>
      obtain ⟨_, active, _⟩ := noted.requested queryId count counted
      cases active
  | copy =>
      obtain ⟨_, active, _⟩ := noted.requested queryId count counted
      cases active
  | proceed free =>
      obtain ⟨requested, _⟩ := noted.requested queryId count counted
      exact absurd (free.symm.trans requested) Bool.false_ne_true
  | finish free =>
      obtain ⟨requested, _⟩ := noted.requested queryId count counted
      exact absurd (free.symm.trans requested) Bool.false_ne_true
  | goOn free =>
      obtain ⟨requested, _⟩ := noted.requested queryId count counted
      exact absurd (free.symm.trans requested) Bool.false_ne_true
  | answer =>
      obtain ⟨_, active, _⟩ := noted.requested queryId count counted
      obtain rfl := Option.some.inj active
      simp at unevicted
  | closeEjected =>
      obtain ⟨_, active, _⟩ := noted.requested queryId count counted
      cases active
  | closeEnded =>
      obtain ⟨_, active, _⟩ := noted.requested queryId count counted
      cases active
  | closeFailed errors =>
      obtain ⟨_, active, _⟩ := noted.requested queryId count counted
      obtain rfl := Option.some.inj active
      simp [errors] at unended
  | ejectBefore requested =>
      obtain ⟨_, active, phase⟩ := noted.requested queryId count counted
      simp only [Executor.fetches, Bool.true_eq_false, and_false, or_false] at phase
      exact ⟨requested, active, Or.inl phase⟩
  | invalid =>
      obtain ⟨requested, active, phase⟩ := noted.requested queryId count counted
      simp only [Executor.fetches, Bool.true_eq_false, and_false, or_false] at phase
      exact ⟨requested, active, Or.inl phase⟩
  | advance =>
      obtain ⟨requested, active, phase⟩ := noted.requested queryId count counted
      simp only [Executor.fetches, Bool.true_eq_false, and_false, or_false] at phase
      exact ⟨requested, active, Or.inl phase⟩
  | ejectAfter requested => exact noted.requested queryId count counted
  | flush errors => exact noted.requested queryId count counted

/-- Along every run in which each request finds its query waiting or the executor at
work on it, no request is lost. -/
theorem noneLost_of_reachable
    (reachable : ((system scripts).guarded Heard).Reachable worker) : NoneLost worker := by
  have noted : Noted worker := by
    refine reachable.invariant ?_ ?_
    · rintro first rfl
      exact noted_connected
    · rintro before label after noted ⟨heard, step⟩
      cases label with
      | listen message flush =>
          obtain rfl := Option.some.inj step
          exact noted.listen heard (WorkerProcess.listen_step _ message flush)
      | execute answers =>
          obtain ⟨effect, execution, rfl⟩ := Option.map_eq_some_iff.mp step
          exact noted.execute (WorkerProcess.execute_step execution)
  exact noted.noneLost

section Runs

def twoWrites : Scripts where
  lines _ := ["WRITE MATERIAS:BASE 0 A", "WRITE MATERIAS:BASE 8 B", "END"]
  decode line := if line = "END" then .finish else .operation

/-- The executor takes a step without errors. -/
def works : PreemptionLabel :=
  .execute ⟨.succeeded, none⟩

def requestDuringInstruction : List PreemptionLabel :=
  [.listen (.startQuery 0 0 "AGING_1") none, works, works, works,
    .listen (.preemptReq 0) none, works]

theorem noneLost_requestDuringInstruction :
    ∃ worker, ((system twoWrites).guarded Heard).Reachable worker ∧
      worker.outstanding 0 = some 1 ∧ NoneLost worker := by
  have ends : (TransitionSystem.runNext
      (TransitionSystem.guardedNext (next twoWrites) Heard) connected
      requestDuringInstruction).any
        (fun worker => decide (worker.outstanding 0 = some 1)) = true := by
    decide +kernel
  obtain ⟨worker, run, once⟩ := (Option.any_eq_true _ _).mp ends
  have reachable : ((system twoWrites).guarded Heard).Reachable worker :=
    ⟨connected, requestDuringInstruction, rfl, TransitionSystem.run_of_runGuarded run⟩
  exact ⟨worker, reachable, of_decide_eq_true once, noneLost_of_reachable reachable⟩

/-- A request comes between the two critical sections in which the executor takes the
query, and both instructions are executed. -/
def requestBetweenSections : List PreemptionLabel :=
  [.listen (.startQuery 0 0 "AGING_1") none, works, .listen (.preemptReq 0) none,
    works, works, works, works, works, works, works]

theorem request_lost_between_sections :
    ∃ worker, (system twoWrites).Reachable worker ∧ ¬ NoneLost worker := by
  have ends : (TransitionSystem.runNext (next twoWrites) connected
      requestBetweenSections).any
        (fun worker => decide (worker.outstanding 0 = some 2)) = true := by
    decide +kernel
  obtain ⟨worker, run, twice⟩ := (Option.any_eq_true _ _).mp ends
  refine ⟨worker, ⟨connected, requestBetweenSections, rfl,
    TransitionSystem.run_of_runNext run⟩, ?_⟩
  intro noneLost
  have atMost := noneLost 0 2 (of_decide_eq_true twice)
  omega

end Runs

end PreemptedWorker

end MasterOfFiles
