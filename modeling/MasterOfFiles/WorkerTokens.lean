import MasterOfFiles.WorkerThreads

/-!
# The queries that a Worker can still answer for

A query that the Master has sent to a Worker is a token.  It is carried by
OP_WORKER_START_QUERY, by the assigned query, by the executor and finally by
OP_WORKER_EVICT_RES, one at a time; every step of a thread passes tokens on in
this order or loses them.  The same holds of the answers that are due: a query is
due until OP_WORKER_END_QUERY is sent for it, and the message then stands for it.
-/

namespace MasterOfFiles

def startIds (messages : List WorkerMessage) : List Nat :=
  messages.filterMap fun message =>
    match message with
    | .startQuery queryId _ _ => some queryId
    | .preemptReq _ => none

def evictIds (reports : List WorkerReport) : List Nat :=
  reports.filterMap fun report =>
    match report with
    | .evictRes queryId _ => some queryId
    | _ => none

/-- The queries that a list of reports ends. -/
def endIds (reports : List WorkerReport) : List Nat :=
  reports.filterMap fun report =>
    match report with
    | .endQuery queryId => some queryId
    | _ => none

section Messages

variable {message : WorkerMessage} {messages others : List WorkerMessage}
variable {report : WorkerReport} {reports later : List WorkerReport}

@[simp]
theorem startIds_append : startIds (messages ++ others) = startIds messages ++ startIds others :=
  List.filterMap_append

@[simp]
theorem evictIds_append : evictIds (reports ++ later) = evictIds reports ++ evictIds later :=
  List.filterMap_append

@[simp]
theorem endIds_append : endIds (reports ++ later) = endIds reports ++ endIds later :=
  List.filterMap_append

@[simp]
theorem startIds_startQuery {queryId programCounter : Nat} {path : String} :
    startIds [.startQuery queryId programCounter path] = [queryId] :=
  rfl

@[simp]
theorem startIds_preemptReq {queryId : Nat} : startIds [.preemptReq queryId] = [] :=
  rfl

@[simp]
theorem evictIds_nil : evictIds [] = [] :=
  rfl

@[simp]
theorem evictIds_evictRes {queryId programCounter : Nat} :
    evictIds [.evictRes queryId programCounter] = [queryId] :=
  rfl

@[simp]
theorem evictIds_endQuery {queryId : Nat} : evictIds [.endQuery queryId] = [] :=
  rfl

@[simp]
theorem endIds_nil : endIds [] = [] :=
  rfl

@[simp]
theorem endIds_evictRes {queryId programCounter : Nat} :
    endIds [.evictRes queryId programCounter] = [] :=
  rfl

@[simp]
theorem endIds_endQuery {queryId : Nat} : endIds [.endQuery queryId] = [queryId] :=
  rfl

theorem startIds_cons :
    startIds (message :: messages) = startIds [message] ++ startIds messages := by
  rw [← startIds_append, List.singleton_append]

theorem mem_evictIds {queryId : Nat} :
    queryId ∈ evictIds reports ↔ ∃ programCounter, .evictRes queryId programCounter ∈ reports := by
  unfold evictIds
  rw [List.mem_filterMap]
  constructor
  · rintro ⟨report, member, found⟩
    cases report with
    | evictRes evicted programCounter =>
        obtain rfl : evicted = queryId := Option.some.inj found
        exact ⟨programCounter, member⟩
    | endQuery _ => cases found
    | storageError _ _ => cases found
  · rintro ⟨programCounter, member⟩
    exact ⟨_, member, rfl⟩

theorem mem_endIds {queryId : Nat} : queryId ∈ endIds reports ↔ .endQuery queryId ∈ reports := by
  unfold endIds
  rw [List.mem_filterMap]
  constructor
  · rintro ⟨report, member, found⟩
    cases report with
    | endQuery ended =>
        obtain rfl : ended = queryId := Option.some.inj found
        exact member
    | evictRes _ _ => cases found
    | storageError _ _ => cases found
  · intro member
    exact ⟨_, member, rfl⟩

theorem mem_startIds {queryId : Nat} :
    queryId ∈ startIds messages ↔
      ∃ programCounter path, .startQuery queryId programCounter path ∈ messages := by
  unfold startIds
  rw [List.mem_filterMap]
  constructor
  · rintro ⟨message, member, found⟩
    cases message with
    | startQuery started programCounter path =>
        obtain rfl : started = queryId := Option.some.inj found
        exact ⟨programCounter, path, member⟩
    | preemptReq _ => cases found
  · rintro ⟨programCounter, path, member⟩
    exact ⟨_, member, rfl⟩

end Messages

namespace Executor

def context : Executor → Option QueryContext
  | .waiting => none
  | .fetched => none
  | .checking context => some context
  | .executing context => some context
  | .executed context _ => some context
  | .flushing context _ _ => some context
  | .answering context _ _ => some context
  | .advancing context => some context
  | .closing context _ => some context

/-- The context of a query that the executor can still report on. -/
def active : Executor → Option QueryContext
  | .closing context .error => some context
  | .closing _ _ => none
  | executor => executor.context

/-- The context of a query whose end the executor has not reported. -/
def unfinished : Executor → Option QueryContext
  | .executed _ true => none
  | .flushing _ _ true => none
  | .answering _ _ true => none
  | executor => executor.active

/-- The context of the query that the executor works on, with the number of
instructions that it has executed as the program counter. -/
def progress : Executor → Option QueryContext
  | .checking context => some context
  | .executing context => some context
  | .executed context _ =>
    some { context with programCounter := context.programCounter + 1 }
  | .flushing context programCounter _ => some { context with programCounter := programCounter }
  | .answering context programCounter _ =>
    some { context with programCounter := programCounter }
  | .advancing context =>
    some { context with programCounter := context.programCounter + 1 }
  | _ => none

/-- Whether the executor is about to clear `has_query` whatever it holds. -/
def ejects : Executor → Bool
  | .closing _ .eject => true
  | _ => false

end Executor

namespace WorkerProcess

/-- The query that the executor can still report on. -/
def activeIds (process : WorkerProcess) : List Nat :=
  (process.executor.active.map QueryContext.queryId).toList

/-- The query whose end the executor has not reported. -/
def unfinishedIds (process : WorkerProcess) : List Nat :=
  (process.executor.unfinished.map QueryContext.queryId).toList

/-- Whether the assigned query is still to be taken by the executor. -/
def Awaits (process : WorkerProcess) : Prop :=
  process.state.hasQuery = true ∧ process.executor.ejects = false ∧
    process.executor.context.map QueryContext.queryId ≠
      some process.state.currentQuery.queryId
deriving Decidable

/-- The assigned query, as long as it is to be taken by the executor. -/
def assignedIds (process : WorkerProcess) : List Nat :=
  if process.Awaits then [process.state.currentQuery.queryId] else []

/-- The flags of a Worker agree with the place of its executor. -/
structure WellFormed (process : WorkerProcess) : Prop where
  executing : process.state.isExecuting = true ↔ process.executor ≠ .waiting
  fetched : process.executor = .fetched → process.state.hasQuery = true

theorem wellFormed_started : started.WellFormed where
  executing := by simp [started]
  fetched := by simp [started]

section Steps

def AllErrors (sent : List WorkerReport) : Prop :=
  ∀ report ∈ sent, ∃ queryId reason, report = .storageError queryId reason

def Present (scripts : Scripts) (context : QueryContext) : Prop :=
  context.programCounter < (scripts.lines context.queryPath).length

inductive ExecutorStep (scripts : Scripts) :
    WorkerState → Executor → ThreadEffect → Prop
  | fetch {state} (assigned : state.hasQuery = true) :
      ExecutorStep scripts state .waiting
        ⟨⟨{ state with isExecuting := true }, .fetched⟩, [], none⟩
  | copy {state} :
      ExecutorStep scripts state .fetched
        ⟨⟨{ state with ejectionRequested := false }, .checking state.currentQuery⟩, [], none⟩
  | ejectBefore {state context} (requested : state.ejectionRequested = true) :
      ExecutorStep scripts state (.checking context)
        ⟨⟨state, .flushing context context.programCounter false⟩, [], none⟩
  | proceed {state context} (free : state.ejectionRequested = false) :
      ExecutorStep scripts state (.checking context) ⟨⟨state, .executing context⟩, [], none⟩
  | invalid {state context} :
      ExecutorStep scripts state (.executing context)
        ⟨⟨state, .closing context .error⟩, [], none⟩
  | finished {state context} (present : Present scripts context) :
      ExecutorStep scripts state (.executing context)
        ⟨⟨state, .executed context true⟩, [.endQuery context.queryId], some context⟩
  | succeeded {state context} (present : Present scripts context) :
      ExecutorStep scripts state (.executing context)
        ⟨⟨state, .executed context false⟩, [], some context⟩
  | failed {state context sent} (present : Present scripts context)
      (errors : AllErrors sent) :
      ExecutorStep scripts state (.executing context)
        ⟨⟨state, .closing context .error⟩, sent, some context⟩
  | ejectAfter {state context endDetected} (requested : state.ejectionRequested = true) :
      ExecutorStep scripts state (.executed context endDetected)
        ⟨⟨state, .flushing context (context.programCounter + 1) endDetected⟩, [], none⟩
  | finish {state context} (free : state.ejectionRequested = false) :
      ExecutorStep scripts state (.executed context true)
        ⟨⟨state, .closing context .ended⟩, [], none⟩
  | goOn {state context} (free : state.ejectionRequested = false) :
      ExecutorStep scripts state (.executed context false)
        ⟨⟨state, .advancing context⟩, [], none⟩
  | flush {state context programCounter endDetected sent} (errors : AllErrors sent) :
      ExecutorStep scripts state (.flushing context programCounter endDetected)
        ⟨⟨state, .answering context programCounter endDetected⟩, sent, none⟩
  | answer {state context programCounter endDetected} :
      ExecutorStep scripts state (.answering context programCounter endDetected)
        ⟨⟨state, .closing context .eject⟩, [.evictRes context.queryId programCounter], none⟩
  | advance {state context} :
      ExecutorStep scripts state (.advancing context)
        ⟨⟨{ state with
            currentQuery :=
              { state.currentQuery with programCounter := context.programCounter + 1 } },
            .checking { context with programCounter := context.programCounter + 1 }⟩,
          [], none⟩
  | closeEjected {state context} :
      ExecutorStep scripts state (.closing context .eject)
        ⟨⟨{ state with hasQuery := false, isExecuting := false }, .waiting⟩, [], none⟩
  | closeEnded {state context} :
      ExecutorStep scripts state (.closing context .ended)
        ⟨⟨{ state with
            hasQuery :=
              state.hasQuery && !decide (state.currentQuery.queryId = context.queryId)
            isExecuting := false }, .waiting⟩, [], none⟩
  | closeFailed {state context sent} (errors : AllErrors sent) :
      ExecutorStep scripts state (.closing context .error)
        ⟨⟨{ state with
            hasQuery :=
              state.hasQuery && !decide (state.currentQuery.queryId = context.queryId)
            isExecuting := false }, .waiting⟩, sent ++ [.endQuery context.queryId], none⟩

inductive ListenerStep : WorkerState → Executor → WorkerMessage → ThreadEffect → Prop
  | assign {state executor queryId programCounter path} :
      ListenerStep state executor (.startQuery queryId programCounter path)
        ⟨⟨{ state with hasQuery := true, currentQuery := ⟨path, queryId, programCounter⟩ },
          executor⟩, [], none⟩
  | request {state executor} (assigned : state.hasQuery = true)
      (executing : state.isExecuting = true) :
      ListenerStep state executor (.preemptReq state.currentQuery.queryId)
        ⟨⟨{ state with ejectionRequested := true }, executor⟩, [], none⟩
  | evict {state executor sent} (assigned : state.hasQuery = true)
      (resting : state.isExecuting = false) (errors : AllErrors sent) :
      ListenerStep state executor (.preemptReq state.currentQuery.queryId)
        ⟨⟨{ state with hasQuery := false }, executor⟩,
          sent ++ [.evictRes state.currentQuery.queryId state.currentQuery.programCounter],
          none⟩
  | ignore {state executor queryId}
      (other : ¬ (state.hasQuery = true ∧ state.currentQuery.queryId = queryId)) :
      ListenerStep state executor (.preemptReq queryId) ⟨⟨state, executor⟩, [], none⟩

variable {scripts : Scripts} {answers : StorageAnswers} {process : WorkerProcess}
variable {state : WorkerState} {effect : ThreadEffect} {context : QueryContext}
variable {message : WorkerMessage}

theorem allErrors_nil : AllErrors [] := by
  simp [AllErrors]

theorem allErrors_mmFlushAllDirty (process : WorkerProcess) (flush : Option String) :
    AllErrors (process.mmFlushAllDirty flush) := by
  cases flush with
  | none => exact allErrors_nil
  | some reason => simp [AllErrors, mmFlushAllDirty]

theorem executeInstruction_step :
    ExecutorStep scripts state (.executing context)
      (executeInstruction scripts answers ⟨state, .executing context⟩ context) := by
  unfold executeInstruction
  split
  · exact .invalid
  · rename_i line found
    obtain ⟨present, _⟩ := List.getElem?_eq_some_iff.mp found
    split
    · exact .invalid
    · exact .finished present
    · split
      · exact .succeeded present
      · exact .failed present allErrors_nil
      · exact .failed present (by simp [AllErrors])

theorem execute_step (step : process.execute scripts answers = some effect) :
    ExecutorStep scripts process.state process.executor effect := by
  obtain ⟨state, executor⟩ := process
  cases executor with
  | waiting =>
      unfold execute at step
      dsimp only at step
      split at step
      · rename_i assigned
        obtain rfl := Option.some.inj step
        exact .fetch assigned
      · cases step
  | fetched =>
      obtain rfl := Option.some.inj step
      exact .copy
  | checking context =>
      obtain rfl := Option.some.inj step
      dsimp only [goto]
      split
      · rename_i requested
        exact .ejectBefore requested
      · rename_i free
        exact .proceed (Bool.not_eq_true _ ▸ free)
  | executing context =>
      obtain rfl := Option.some.inj step
      exact executeInstruction_step
  | executed context endDetected =>
      obtain rfl := Option.some.inj step
      dsimp only [goto]
      split
      · rename_i requested
        exact .ejectAfter requested
      · rename_i free
        cases endDetected with
        | false => exact .goOn (Bool.not_eq_true _ ▸ free)
        | true => exact .finish (Bool.not_eq_true _ ▸ free)
  | flushing context programCounter endDetected =>
      obtain rfl := Option.some.inj step
      exact .flush (allErrors_mmFlushAllDirty _ _)
  | answering context programCounter endDetected =>
      obtain rfl := Option.some.inj step
      exact .answer
  | advancing context =>
      obtain rfl := Option.some.inj step
      exact .advance
  | closing context result =>
      obtain rfl := Option.some.inj step
      cases result with
      | ended => exact .closeEnded
      | eject => exact .closeEjected
      | error => exact .closeFailed (allErrors_mmFlushAllDirty _ _)

theorem listen_step (process : WorkerProcess) (message : WorkerMessage)
    (flush : Option String) :
    ListenerStep process.state process.executor message (process.listen message flush) := by
  cases message with
  | startQuery queryId programCounter path => exact .assign
  | preemptReq queryId =>
      unfold listen ejectQuery
      dsimp only
      split
      · rename_i held
        obtain ⟨assigned, rfl⟩ := held
        split
        · rename_i executing
          exact .request assigned executing
        · rename_i resting
          exact .evict assigned (Bool.not_eq_true _ ▸ resting)
            (allErrors_mmFlushAllDirty process flush)
      · rename_i other
        exact .ignore other

end Steps

section Flow

variable {scripts : Scripts} {process : WorkerProcess} {effect : ThreadEffect}
variable {message : WorkerMessage} {sent : List WorkerReport}

@[simp]
theorem AllErrors.evictIds (errors : AllErrors sent) : evictIds sent = [] := by
  refine List.eq_nil_iff_forall_not_mem.mpr fun queryId member => ?_
  obtain ⟨programCounter, evicted⟩ := mem_evictIds.mp member
  obtain ⟨_, _, isError⟩ := errors _ evicted
  cases isError

@[simp]
theorem AllErrors.endIds (errors : AllErrors sent) : endIds sent = [] := by
  refine List.eq_nil_iff_forall_not_mem.mpr fun queryId member => ?_
  obtain ⟨_, _, isError⟩ := errors _ (mem_endIds.mp member)
  cases isError

/-- No step of a thread leaves the flags of the Worker behind. -/
theorem WellFormed.execute (formed : process.WellFormed)
    (step : ExecutorStep scripts process.state process.executor effect) :
    effect.process.WellFormed := by
  obtain ⟨state, executor⟩ := process
  obtain ⟨executing, fetched⟩ := formed
  cases step
  all_goals
    refine ⟨?_, ?_⟩
    · simp_all
    · simp_all

theorem WellFormed.listen (formed : process.WellFormed)
    (step : ListenerStep process.state process.executor message effect) :
    effect.process.WellFormed := by
  obtain ⟨state, executor⟩ := process
  obtain ⟨executing, fetched⟩ := formed
  cases step with
  | assign => exact ⟨executing, fun _ => rfl⟩
  | request assigned running => exact ⟨executing, fetched⟩
  | evict assigned resting errors =>
      refine ⟨executing, fun isFetched => ?_⟩
      have running := executing.mpr (by simp_all)
      simp_all
  | ignore other => exact ⟨executing, fetched⟩

/-- The closing section leaves a query to be taken exactly if one awaited. -/
theorem awaits_close (state : WorkerState) (context : QueryContext) {result : QueryResult}
    (remains : result ≠ .eject) :
    Awaits
        ⟨{ state with
            hasQuery :=
              state.hasQuery && !decide (state.currentQuery.queryId = context.queryId)
            isExecuting := false }, .waiting⟩ ↔
      Awaits ⟨state, .closing context result⟩ := by
  cases result with
  | eject => exact absurd rfl remains
  | ended => simp [Awaits, Executor.context, Executor.ejects, @eq_comm _ context.queryId]
  | error => simp [Awaits, Executor.context, Executor.ejects, @eq_comm _ context.queryId]

theorem assignedIds_close (state : WorkerState) (context : QueryContext) {result : QueryResult}
    (remains : result ≠ .eject) :
    assignedIds
        ⟨{ state with
            hasQuery :=
              state.hasQuery && !decide (state.currentQuery.queryId = context.queryId)
            isExecuting := false }, .waiting⟩ =
      assignedIds ⟨state, .closing context result⟩ := by
  simp only [assignedIds, awaits_close state context remains]

theorem execute_tokens (formed : process.WellFormed)
    (step : ExecutorStep scripts process.state process.executor effect) :
    (evictIds effect.sent ++ (effect.process.activeIds ++ effect.process.assignedIds)).Sublist
      (process.activeIds ++ process.assignedIds) := by
  obtain ⟨state, executor⟩ := process
  obtain ⟨executing, fetched⟩ := formed
  cases step with
  | closeEnded =>
      rw [assignedIds_close state _ (by simp : QueryResult.ended ≠ .eject)]
      exact List.Sublist.refl _
  | closeFailed errors =>
      rw [assignedIds_close state _ (by simp : QueryResult.error ≠ .eject)]
      simp [errors, activeIds, Executor.active, Executor.context]
  | _ =>
      simp_all [activeIds, assignedIds, Awaits, Executor.active, Executor.context,
        Executor.ejects]

theorem execute_due (formed : process.WellFormed)
    (step : ExecutorStep scripts process.state process.executor effect) :
    (endIds effect.sent ++
        (effect.process.unfinishedIds ++ effect.process.assignedIds)).Sublist
      (process.unfinishedIds ++ process.assignedIds) := by
  obtain ⟨state, executor⟩ := process
  obtain ⟨executing, fetched⟩ := formed
  cases step with
  | closeEnded =>
      rw [assignedIds_close state _ (by simp : QueryResult.ended ≠ .eject)]
      exact List.Sublist.refl _
  | closeFailed errors =>
      rw [assignedIds_close state _ (by simp : QueryResult.error ≠ .eject)]
      simp [errors, unfinishedIds, Executor.unfinished, Executor.active, Executor.context]
  | ejectAfter requested =>
      rename_i endDetected
      cases endDetected <;>
        simp [unfinishedIds, assignedIds, Awaits, Executor.unfinished, Executor.active,
          Executor.context, Executor.ejects]
  | flush errors =>
      rename_i endDetected sent
      cases endDetected <;>
        simp [errors, unfinishedIds, assignedIds, Awaits, Executor.unfinished,
          Executor.active, Executor.context, Executor.ejects]
  | _ =>
      simp_all [unfinishedIds, assignedIds, Awaits, Executor.unfinished, Executor.active,
        Executor.context, Executor.ejects]

theorem execute_ends (step : ExecutorStep scripts process.state process.executor effect)
    {queryId : Nat} (ended : queryId ∈ endIds effect.sent) :
    queryId ∈ process.activeIds ∧ evictIds effect.sent = [] := by
  obtain ⟨state, executor⟩ := process
  cases step <;> simp_all [activeIds, Executor.active, Executor.context]

theorem listen_ends (step : ListenerStep process.state process.executor message effect) :
    endIds effect.sent = [] := by
  cases step <;> simp_all

theorem listen_executor (step : ListenerStep process.state process.executor message effect) :
    effect.process.executor = process.executor := by
  obtain ⟨state, executor⟩ := process
  cases step <;> rfl

theorem unfinishedIds_subset {queryId : Nat} (unfinished : queryId ∈ process.unfinishedIds) :
    queryId ∈ process.activeIds := by
  obtain ⟨state, executor⟩ := process
  unfold unfinishedIds Executor.unfinished at unfinished
  split at unfinished
  · cases unfinished
  · cases unfinished
  · cases unfinished
  · exact unfinished

theorem assignedIds_sublist (process : WorkerProcess) :
    process.assignedIds.Sublist [process.state.currentQuery.queryId] := by
  unfold assignedIds
  split
  · exact List.Sublist.refl _
  · exact List.nil_sublist _

theorem listen_assigned (step : ListenerStep process.state process.executor message effect) :
    effect.process.assignedIds.Sublist (process.assignedIds ++ startIds [message]) := by
  obtain ⟨state, executor⟩ := process
  cases step with
  | assign =>
      rw [startIds_startQuery]
      exact (assignedIds_sublist _).trans (List.sublist_append_right _ _)
  | request =>
      rw [startIds_preemptReq, List.append_nil]
      exact List.Sublist.refl _
  | evict assigned resting errors => simp [assignedIds, Awaits]
  | ignore => simp

theorem listen_tokens (formed : process.WellFormed)
    (step : ListenerStep process.state process.executor message effect) :
    (evictIds effect.sent ++ (effect.process.activeIds ++ effect.process.assignedIds)).Sublist
      (process.activeIds ++ (process.assignedIds ++ startIds [message])) := by
  have assignedStays := (List.Sublist.refl process.activeIds).append (listen_assigned step)
  obtain ⟨state, executor⟩ := process
  obtain ⟨executing, fetched⟩ := formed
  cases step with
  | evict assigned resting errors =>
      have waiting : executor = .waiting := by
        by_contra busy
        exact absurd (executing.mpr busy) (Bool.not_eq_true _ ▸ resting)
      dsimp only at assigned
      simp [waiting, errors, assigned, activeIds, assignedIds, Awaits, Executor.active,
        Executor.context, Executor.ejects]
  | assign => exact assignedStays
  | request => exact assignedStays
  | ignore => exact assignedStays

/-- The listener leaves what is due, takes the query of a message or loses one. -/
theorem listen_due (step : ListenerStep process.state process.executor message effect) :
    (effect.process.unfinishedIds ++ effect.process.assignedIds).Sublist
      (process.unfinishedIds ++ (process.assignedIds ++ startIds [message])) := by
  have unfinishedEq : effect.process.unfinishedIds = process.unfinishedIds := by
    unfold unfinishedIds
    rw [listen_executor step]
  rw [unfinishedEq]
  exact (List.Sublist.refl process.unfinishedIds).append (listen_assigned step)

end Flow

section Progress

variable {scripts : Scripts} {process : WorkerProcess} {effect : ThreadEffect}
variable {message : WorkerMessage} {context : QueryContext}

/-- A Worker holds a query of which as many instructions were executed as the program
counter says. -/
def Carries (process : WorkerProcess) (context : QueryContext) : Prop :=
  (process.Awaits ∧ context = process.state.currentQuery) ∨
    process.executor.progress = some context

theorem Carries.token (carries : process.Carries context) :
    context.queryId ∈ process.activeIds ∨ context.queryId ∈ process.assignedIds := by
  obtain ⟨state, executor⟩ := process
  rcases carries with ⟨awaits, rfl⟩ | progress
  · right
    simp [assignedIds, awaits]
  · left
    cases executor <;>
      simp_all [Executor.progress, activeIds, Executor.active, Executor.context]
    all_goals rw [← progress]

theorem execute_instruction (step : ExecutorStep scripts process.state process.executor effect)
    (executed : effect.executedInstruction = some context) :
    process.executor = .executing context ∧ Present scripts context := by
  obtain ⟨state, executor⟩ := process
  cases step with
  | finished present =>
      obtain rfl := Option.some.inj executed
      exact ⟨rfl, present⟩
  | succeeded present =>
      obtain rfl := Option.some.inj executed
      exact ⟨rfl, present⟩
  | failed present errors =>
      obtain rfl := Option.some.inj executed
      exact ⟨rfl, present⟩
  | _ => cases executed

/-- A query is evicted with the number of instructions that were executed of it. -/
theorem execute_evicts (step : ExecutorStep scripts process.state process.executor effect)
    {queryId programCounter : Nat}
    (evicted : .evictRes queryId programCounter ∈ effect.sent) :
    effect.executedInstruction = none ∧
      ∃ path, process.Carries ⟨path, queryId, programCounter⟩ := by
  obtain ⟨state, executor⟩ := process
  have noError : ∀ {sent : List WorkerReport}, AllErrors sent →
      .evictRes queryId programCounter ∉ sent := by
    intro sent errors member
    obtain ⟨_, _, isError⟩ := errors _ member
    cases isError
  cases step with
  | answer =>
      rename_i context counter endDetected
      simp only [List.mem_singleton, WorkerReport.evictRes.injEq] at evicted
      obtain ⟨rfl, rfl⟩ := evicted
      exact ⟨rfl, context.queryPath, Or.inr rfl⟩
  | failed present errors => exact absurd evicted (noError errors)
  | flush errors => exact absurd evicted (noError errors)
  | closeFailed errors =>
      rcases List.mem_append.mp evicted with error | ended
      · exact absurd error (noError errors)
      · simp at ended
  | _ => simp at evicted

theorem listen_evicts (formed : process.WellFormed)
    (step : ListenerStep process.state process.executor message effect)
    {queryId programCounter : Nat}
    (evicted : .evictRes queryId programCounter ∈ effect.sent) :
    ∃ path, process.Carries ⟨path, queryId, programCounter⟩ := by
  obtain ⟨state, executor⟩ := process
  cases step with
  | evict assigned resting errors =>
      have waiting : executor = .waiting := by
        by_contra busy
        exact absurd (formed.executing.mpr busy) (Bool.not_eq_true _ ▸ resting)
      rcases List.mem_append.mp evicted with error | answer
      · obtain ⟨_, _, isError⟩ := errors _ error
        cases isError
      · simp only [List.mem_singleton, WorkerReport.evictRes.injEq] at answer
        obtain ⟨rfl, rfl⟩ := answer
        refine ⟨state.currentQuery.queryPath, Or.inl ⟨⟨assigned, ?_, ?_⟩, rfl⟩⟩
        · simp [waiting, Executor.ejects]
        · simp [waiting, Executor.context]
  | _ => simp at evicted

theorem listen_instruction
    (step : ListenerStep process.state process.executor message effect) :
    effect.executedInstruction = none := by
  cases step <;> rfl

/-- What a Worker carries after a message it carried before or was just sent. -/
theorem listen_carries (step : ListenerStep process.state process.executor message effect)
    (carries : effect.process.Carries context) :
    process.Carries context ∨
      message = .startQuery context.queryId context.programCounter context.queryPath := by
  obtain ⟨state, executor⟩ := process
  cases step with
  | assign =>
      rcases carries with ⟨_, rfl⟩ | progress
      · exact Or.inr rfl
      · exact Or.inl (Or.inr progress)
  | request => exact Or.inl carries
  | evict assigned resting errors =>
      rcases carries with ⟨awaits, _⟩ | progress
      · exact absurd awaits.1 (by simp)
      · exact Or.inl (Or.inr progress)
  | ignore => exact Or.inl carries

/-- What a Worker carries after a step of its executor it carried before, unless an
instruction of it was executed. -/
theorem execute_carries (formed : process.WellFormed)
    (single : ∀ advanced, process.executor = .advancing advanced → ¬ process.Awaits)
    (step : ExecutorStep scripts process.state process.executor effect)
    (carries : effect.process.Carries context) :
    (effect.executedInstruction = none ∧ process.Carries context) ∨
      ∃ executed, effect.executedInstruction = some executed ∧
        (context = { executed with programCounter := executed.programCounter + 1 } ∨
          (process.Awaits ∧ context = process.state.currentQuery)) := by
  obtain ⟨state, executor⟩ := process
  rcases carries with ⟨awaits, rfl⟩ | progress
  · cases step with
    | advance =>
        rename_i advanced
        exact absurd awaits (single advanced rfl)
    | copy => simp [Awaits, Executor.context] at awaits
    | closeEjected => simp [Awaits] at awaits
    | closeEnded =>
        exact Or.inl ⟨rfl, Or.inl ⟨(awaits_close state _ (by simp)).mp awaits, rfl⟩⟩
    | closeFailed errors =>
        exact Or.inl ⟨rfl, Or.inl ⟨(awaits_close state _ (by simp)).mp awaits, rfl⟩⟩
    | fetch assigned => exact Or.inl ⟨rfl, Or.inl ⟨awaits, rfl⟩⟩
    | finished present => exact Or.inr ⟨_, rfl, Or.inr ⟨awaits, rfl⟩⟩
    | succeeded present => exact Or.inr ⟨_, rfl, Or.inr ⟨awaits, rfl⟩⟩
    | failed present errors => exact Or.inr ⟨_, rfl, Or.inr ⟨awaits, rfl⟩⟩
    | answer => simp [Awaits, Executor.ejects] at awaits
    | _ => exact Or.inl ⟨rfl, Or.inl ⟨awaits, rfl⟩⟩
  · cases step with
    | copy =>
        obtain rfl := Option.some.inj progress
        refine Or.inl ⟨rfl, Or.inl ⟨⟨formed.fetched rfl, rfl, ?_⟩, rfl⟩⟩
        simp [Executor.context]
    | finished present =>
        exact Or.inr ⟨_, rfl, Or.inl (Option.some.inj progress).symm⟩
    | succeeded present =>
        exact Or.inr ⟨_, rfl, Or.inl (Option.some.inj progress).symm⟩
    | fetch assigned => cases progress
    | invalid => cases progress
    | failed present errors => cases progress
    | finish => cases progress
    | answer => cases progress
    | closeEjected => cases progress
    | closeEnded => cases progress
    | closeFailed errors => cases progress
    | _ => exact Or.inl ⟨rfl, Or.inr progress⟩

end Progress

end WorkerProcess

end MasterOfFiles
