import MasterOfFiles.MasterHandlers

/-!
# The two threads of a Worker

The listener handles one message of the Master at a time.  The executor takes
the assigned query and runs its script; its positions are the places between
two of its critical sections or sends.  What Storage answers is a parameter of
every step that asks it.  The Master never sends OP_END_QUERY to a Worker, so
neither thread stops.
-/

namespace MasterOfFiles

/-- `query_context_t`. -/
structure QueryContext where
  queryPath : String
  queryId : Nat
  programCounter : Nat
deriving DecidableEq

/-- The part of `worker_state_t` that the threads share. -/
structure WorkerState where
  hasQuery : Bool
  ejectionRequested : Bool
  isExecuting : Bool
  currentQuery : QueryContext
deriving DecidableEq

/-- The results of `query_result_t` that end the execution of a query. -/
inductive QueryResult
  | ended
  | eject
  | error
deriving DecidableEq

inductive Executor
  /-- About to look for a query in `fetch_next_query`. -/
  | waiting
  /-- After `fetch_next_query`, about to copy the context. -/
  | fetched
  /-- About to look at the ejection request before the fetch. -/
  | checking (context : QueryContext)
  /-- About to fetch, decode and execute. -/
  | executing (context : QueryContext)
  /-- After an instruction, about to look at the ejection request again; the flag
  says whether the instruction was END. -/
  | executed (context : QueryContext) (endDetected : Bool)
  /-- About to flush for an eviction that will report `programCounter`. -/
  | flushing (context : QueryContext) (programCounter : Nat) (endDetected : Bool)
  /-- About to send OP_WORKER_EVICT_RES. -/
  | answering (context : QueryContext) (programCounter : Nat) (endDetected : Bool)
  /-- About to store the next program counter. -/
  | advancing (context : QueryContext)
  /-- About to enter the critical section that closes the execution. -/
  | closing (context : QueryContext) (result : QueryResult)
deriving DecidableEq

structure WorkerProcess where
  state : WorkerState
  executor : Executor
deriving DecidableEq

def WorkerProcess.started : WorkerProcess where
  state :=
    { hasQuery := false
      ejectionRequested := false
      isExecuting := false
      currentQuery := { queryPath := "", queryId := 0, programCounter := 0 } }
  executor := .waiting

/-- What `decode_instruction` makes of a line. -/
inductive LineKind
  | invalid
  | operation
  | finish
deriving DecidableEq

/-- The script files and the instruction decoder. -/
structure Scripts where
  lines : String → List String
  decode : String → LineKind

/-- How an instruction that is not END turns out.  A Storage error is reported
with the query id of the request or with that of the memory manager. -/
inductive InstructionOutcome
  | succeeded
  | failed
  | failedReporting (throughMemory : Bool) (reason : String)
deriving DecidableEq

/-- What Storage answers during a step; `flush` is the error that stops
`mm_flush_all_dirty`, if any. -/
structure StorageAnswers where
  outcome : InstructionOutcome
  flush : Option String
deriving DecidableEq

/-- What a step of a thread leaves: the Worker, the messages sent to the Master
and the context of the instruction executed, if any. -/
structure ThreadEffect where
  process : WorkerProcess
  sent : List WorkerReport
  executedInstruction : Option QueryContext
deriving DecidableEq

namespace WorkerProcess

/-- What `mm_flush_all_dirty` sends; the memory manager knows the query that was
assigned last. -/
def mmFlushAllDirty (process : WorkerProcess) (flush : Option String) : List WorkerReport :=
  match flush with
  | none => []
  | some reason => [.storageError process.state.currentQuery.queryId reason]

section Listener

def assignQuery (process : WorkerProcess) (context : QueryContext) : WorkerProcess :=
  { process with
    state := { process.state with hasQuery := true, currentQuery := context } }

def ejectQuery (process : WorkerProcess) (queryId : Nat) (flush : Option String) :
    ThreadEffect :=
  if process.state.hasQuery ∧ process.state.currentQuery.queryId = queryId then
    if process.state.isExecuting then
      { process :=
          { process with state := { process.state with ejectionRequested := true } }
        sent := []
        executedInstruction := none }
    else
      { process := { process with state := { process.state with hasQuery := false } }
        sent := process.mmFlushAllDirty flush ++
          [.evictRes queryId process.state.currentQuery.programCounter]
        executedInstruction := none }
  else { process := process, sent := [], executedInstruction := none }

/-- One message in `master_listener_thread`. -/
def listen (process : WorkerProcess) (message : WorkerMessage) (flush : Option String) :
    ThreadEffect :=
  match message with
  | .startQuery queryId programCounter path =>
    { process := process.assignQuery
        { queryPath := path, queryId := queryId, programCounter := programCounter }
      sent := []
      executedInstruction := none }
  | .preemptReq queryId => process.ejectQuery queryId flush

end Listener

section Executor

/-- Move the executor without touching anything else. -/
def goto (process : WorkerProcess) (executor : Executor) : ThreadEffect where
  process := { process with executor := executor }
  sent := []
  executedInstruction := none

/-- The fetch, decode and execute part of `execute_single_instruction`. -/
def executeInstruction (scripts : Scripts) (answers : StorageAnswers)
    (process : WorkerProcess) (context : QueryContext) : ThreadEffect :=
  match (scripts.lines context.queryPath)[context.programCounter]? with
  | none => process.goto (.closing context .error)
  | some line =>
    match scripts.decode line with
    | .invalid => process.goto (.closing context .error)
    | .finish =>
      { process := { process with executor := .executed context true }
        sent := [.endQuery context.queryId]
        executedInstruction := some context }
    | .operation =>
      match answers.outcome with
      | .succeeded =>
        { process := { process with executor := .executed context false }
          sent := []
          executedInstruction := some context }
      | .failed =>
        { process := { process with executor := .closing context .error }
          sent := []
          executedInstruction := some context }
      | .failedReporting throughMemory reason =>
        { process := { process with executor := .closing context .error }
          sent :=
            [.storageError
              (if throughMemory then process.state.currentQuery.queryId else context.queryId)
              reason]
          executedInstruction := some context }

def closeExecution (process : WorkerProcess) (context : QueryContext) (result : QueryResult)
    (flush : Option String) : ThreadEffect :=
  match result with
  | .eject =>
    { process :=
        { state := { process.state with hasQuery := false, isExecuting := false }
          executor := .waiting }
      sent := []
      executedInstruction := none }
  | result =>
    { process :=
        { state :=
            { process.state with
              hasQuery := process.state.hasQuery &&
                !decide (process.state.currentQuery.queryId = context.queryId)
              isExecuting := false }
          executor := .waiting }
      sent :=
        if result = .error then
          process.mmFlushAllDirty flush ++ [.endQuery context.queryId]
        else []
      executedInstruction := none }

/-- One step of `query_executor_thread`; `none` is a thread that waits for a query. -/
def execute (scripts : Scripts) (answers : StorageAnswers) (process : WorkerProcess) :
    Option ThreadEffect :=
  match process.executor with
  | .waiting =>
    if process.state.hasQuery then
      some
        { process :=
            { state := { process.state with isExecuting := true }, executor := .fetched }
          sent := []
          executedInstruction := none }
    else none
  | .fetched =>
    some
      { process :=
          { state := { process.state with ejectionRequested := false }
            executor := .checking process.state.currentQuery }
        sent := []
        executedInstruction := none }
  | .checking context =>
    some (process.goto
      (if process.state.ejectionRequested then
        .flushing context context.programCounter false
      else .executing context))
  | .executing context => some (process.executeInstruction scripts answers context)
  | .executed context endDetected =>
    some (process.goto
      (if process.state.ejectionRequested then
        .flushing context (context.programCounter + 1) endDetected
      else if endDetected then .closing context .ended
      else .advancing context))
  | .flushing context programCounter endDetected =>
    some
      { process := { process with executor := .answering context programCounter endDetected }
        sent := process.mmFlushAllDirty answers.flush
        executedInstruction := none }
  | .answering context programCounter _ =>
    some
      { process := { process with executor := .closing context .eject }
        sent := [.evictRes context.queryId programCounter]
        executedInstruction := none }
  | .advancing context =>
    let next := { context with programCounter := context.programCounter + 1 }
    some
      { process :=
          { state :=
              { process.state with
                currentQuery :=
                  { process.state.currentQuery with programCounter := next.programCounter } }
            executor := .checking next }
        sent := []
        executedInstruction := none }
  | .closing context result => some (process.closeExecution context result answers.flush)

end Executor

end WorkerProcess

end MasterOfFiles
