import MasterOfFiles.RequestMessages
import MasterOfFiles.SharedStorageRuns

/-!
# Workers and Storage at the two ends of their connections

Each Worker has a connection to Storage and a thread there, `handle_client`, that serves it.  A
request is a package on its way to Storage and the response one on its way back; the receivers get
the bytes in portions of any size, and between the moments in which a Worker sends, Storage
executes and the Worker receives anything may happen on the other connections.  As before Storage
is taken to execute one request at a time: what its thread does from a received request to the
response is one step.  The names that the programs send over these connections are those of the
tasks, and the whole still behaves as one flat store.

A request carries the `query_id` that the memory manager or the instruction has at that moment.
The listener may have overwritten the former with the id of the next query, so nothing is assumed
of these ids here: each request carries one of its own.
-/

namespace MasterOfFiles

open Serialization
open Formats (StorageCall StorageAnswer WorkerNotice)

namespace Worker

/-- How a program goes on with the answer to a request. -/
abbrev Resumption (config : MemoryConfig) (request : StorageRequest config) : Type :=
  request.Answer → Client config (InstructionOutcome config)

/-- A connection of a Worker to Storage: the bytes on their way in both directions, whether the
Worker waits for a response, and the query id that its last request carried. -/
structure Line where
  toStorage : Connection
  toWorker : Connection
  waiting : Bool
  queryId : UInt32

namespace Line

def asked (line : Line) (queryId : UInt32) (package : Package) : Line :=
  { line with
    toStorage := { line.toStorage with pending := line.toStorage.pending ++ package.send }
    waiting := true
    queryId := queryId }

/-- Storage has received a request and sent the response. -/
def answered (line : Line) (left : Connection) (reply : Package) : Line :=
  { line with
    toStorage := left
    toWorker := { line.toWorker with pending := line.toWorker.pending ++ reply.send } }

def settled (line : Line) (left : Connection) : Line :=
  { line with toWorker := left, waiting := false }

def Quiet (line : Line) : Prop :=
  line.waiting = false ∧ line.toStorage.pending = [] ∧ line.toWorker.pending = []

end Line

/-- The Workers and Storage, the connections, and what the Workers have told the Master of the
errors of Storage, each with the query id that the refused request carried. -/
structure WiredStorage (site : Site) (Hash : Type) where
  shared : SharedStorage site Hash
  lines : Nat → Line
  reports : List (UInt32 × WorkerNotice)

/-- A Worker starts a task, sends a request with a query id, receives the response, or ends its
task; Storage executes the request that it gets from a Worker. -/
inductive WiredLabel
  | start (worker : Nat) (task : Task) (allocated delivered : Bool)
  | send (worker : Nat) (queryId : UInt32)
  | handle (worker : Nat)
  | receive (worker : Nat)
  | finish (worker : Nat)

namespace WiredStorage

variable {site : Site} {Hash : Type}

def setLine (state : WiredStorage site Hash) (worker : Nat) (line : Line) :
    WiredStorage site Hash :=
  { state with lines := Function.update state.lines worker line }

def resume (state : WiredStorage site Hash) (worker : Nat)
    (execution : Execution (site.config worker)) : WiredStorage site Hash :=
  { state with shared := state.shared.resume worker execution }

def setDisk (state : WiredStorage site Hash) (disk : Storage.Disk site.storage Hash) :
    WiredStorage site Hash :=
  { state with shared := { state.shared with disk := disk } }

def report (state : WiredStorage site Hash) (worker : Nat) (notice : Option WorkerNotice) :
    WiredStorage site Hash :=
  { state with reports := state.reports ++
      notice.toList.map fun notice => ((state.lines worker).queryId, notice) }

/-- Replace Storage and the tasks of the Workers. -/
def setShared (state : WiredStorage site Hash) (shared : SharedStorage site Hash) :
    WiredStorage site Hash :=
  { state with shared := shared }

section Steps

variable [DecidableEq Hash] (md5 : Storage.Block site.storage.blockSize → Hash)
  (storageGets workerGets : Nat → Fragmentation)

/-- A Worker sends the request of its program; without a package it goes on at once. -/
def send (state : WiredStorage site Hash) (worker : Nat) (queryId : UInt32) :
    Option (WiredStorage site Hash) :=
  (state.shared.running worker).bind fun execution =>
    match execution.rest with
    | Asking.done _ => none
    | Asking.ask request resume =>
      if (state.lines worker).waiting then none
      else
        match (request.call queryId).bind fun call => call.message.build with
        | none =>
          some (state.resume worker { execution with rest := resume (request.taken none) })
        | some package => some (state.setLine worker ((state.lines worker).asked queryId package))

/-- A round of the loop of `handle_client`, from the request to the response. -/
def handle (state : WiredStorage site Hash) (worker : Nat) : Option (WiredStorage site Hash) :=
  ((state.lines worker).toStorage.packageReceive (storageGets worker)).bind fun (package, left) =>
    (byOperationCode Formats.storageHandleClient package).bind fun (request, _) =>
      (Storage.handleRequest md5 state.shared.disk request).bind fun (response, disk) =>
        response.package.map fun reply =>
          (state.setDisk disk).setLine worker ((state.lines worker).answered left reply)

/-- A Worker receives the response that it waits for, tells the Master of an error and goes on. -/
def receive (state : WiredStorage site Hash) (worker : Nat) : Option (WiredStorage site Hash) :=
  (state.shared.running worker).bind fun execution =>
    match execution.rest with
    | Asking.done _ => none
    | Asking.ask request resume =>
      if !(state.lines worker).waiting then none
      else
        (request.call (state.lines worker).queryId).bind fun call =>
          ((state.lines worker).toWorker.packageReceive (workerGets worker)).map
            fun (package, left) =>
              let answer := readAnswer call package
              ((state.report worker (answer.bind StorageAnswer.forwarded)).setLine worker
                ((state.lines worker).settled left)).resume worker
                  { execution with rest := resume (request.taken answer) }

def next (state : WiredStorage site Hash) : WiredLabel → Option (WiredStorage site Hash)
  | .start worker task allocated delivered =>
    (state.shared.next md5 (.start worker task allocated delivered)).map state.setShared
  | .send worker queryId => state.send worker queryId
  | .handle worker => state.handle md5 storageGets worker
  | .receive worker => state.receive workerGets worker
  | .finish worker => (state.shared.next md5 (.finish worker)).map state.setShared

/-- Storage and all Workers have just started, and are connected. -/
def Started (state : WiredStorage site Hash) : Prop :=
  SharedStorage.Started state.shared ∧ (∀ worker, (state.lines worker).Quiet) ∧ state.reports = []

/-- Every interleaving of these steps, with portions of any size. -/
def system : TransitionSystem (WiredStorage site Hash) WiredLabel :=
  .ofNext Started (next md5 storageGets workerGets)

/-- The condition: the names of a task may be sent, it is ready and names only File:Tags of its
Worker, and a request is harmless when it is executed. -/
def Proper (owner : FileTag → Nat) (state : WiredStorage site Hash) : WiredLabel → Prop
  | .start worker task allocated delivered =>
    SharedStorage.Proper md5 owner state.shared (.start worker task allocated delivered) ∧
      ∀ fileTag ∈ task.fileTags, StorageRequest.Sendable fileTag
  | .handle worker => SharedStorage.Proper md5 owner state.shared (.serve worker)
  | .send _ _ | .receive _ | .finish _ => True

end Steps

section Invariant

/-- However the stream that starts with a response is cut, the Worker takes the answer from it and
reports only errors with the query id of the request. -/
def Brings {config : MemoryConfig} (queryId : UInt32) (request : StorageRequest config)
    (call : StorageCall) (reply : Package) (answer : request.Answer) : Prop :=
  ∀ (fragmentation : Fragmentation) (rest : List UInt8) (calls : Nat), ∃ received later,
    Connection.packageReceive fragmentation ⟨reply.send ++ rest, calls⟩ =
        some (received, ⟨rest, later⟩) ∧
      request.taken (readAnswer call received) = answer ∧
        ∀ notice, (readAnswer call received).bind StorageAnswer.forwarded = some notice →
          ∃ text, notice = .errorFromStorage queryId text

/-- Where the request of a Worker is, with the program that is left and the one that will be left
when the response has arrived. -/
inductive Exchange {config : MemoryConfig} (line : Line)
    (running ahead : Option (Execution config)) : Prop
  | quiet (nothing : line.Quiet) (same : ahead = running)
  | asked {execution : Execution config} {request : StorageRequest config}
      {resume : Resumption config request} {call : StorageCall}
      {package : Package} (isRunning : running = some execution)
      (asks : execution.rest = Asking.ask request resume)
      (isCall : request.call line.queryId = some call) (builds : call.message.build = some package)
      (waiting : line.waiting = true) (sent : line.toStorage.pending = package.send)
      (unanswered : line.toWorker.pending = []) (same : ahead = running)
  | answered {execution : Execution config} {request : StorageRequest config}
      {resume : Resumption config request} {call : StorageCall}
      {reply : Package} {answer : request.Answer} (isRunning : running = some execution)
      (asks : execution.rest = Asking.ask request resume)
      (isCall : request.call line.queryId = some call) (waiting : line.waiting = true)
      (received : line.toStorage.pending = []) (sent : line.toWorker.pending = reply.send)
      (brings : Brings line.queryId request call reply answer)
      (later : ahead = some { execution with rest := resume answer })

def sendable : Set FileTag :=
  { fileTag | StorageRequest.Sendable fileTag }

/-- The shared Storage in which every answer under way has arrived. -/
def seenWith (state : WiredStorage site Hash)
    (ahead : (worker : Nat) → Option (Execution (site.config worker))) : SharedStorage site Hash :=
  { state.shared with running := ahead }

structure Agrees (state : WiredStorage site Hash)
    (ahead : (worker : Nat) → Option (Execution (site.config worker))) : Prop where
  exchanges : ∀ worker,
    Exchange (state.lines worker) (state.shared.running worker) (ahead worker)
  tables : ∀ worker, TablesWithin sendable (state.shared.memories worker)
  requests : ∀ worker execution, state.shared.running worker = some execution →
    execution.rest.Ensures (fun request => ∀ fileTag ∈ request.fileTags, fileTag ∈ sendable)
      fun outcome => TablesWithin sendable outcome.memory
  reports : ∀ report ∈ state.reports, ∃ text, report.2 = .errorFromStorage report.1 text

variable {state after : WiredStorage site Hash} {worker : Nat}
  {ahead : (worker : Nat) → Option (Execution (site.config worker))}
  {execution : Execution (site.config worker)}

theorem Exchange.of_idle {config : MemoryConfig} {line : Line}
    {ahead : Option (Execution config)} (exchange : Exchange line none ahead) :
    line.Quiet ∧ ahead = none := by
  cases exchange with
  | quiet nothing same => exact ⟨nothing, same⟩
  | asked isRunning => cases isRunning
  | answered isRunning => cases isRunning

/-- A step of one Worker leaves the exchanges of the others alone. -/
theorem Agrees.exchanges_update (agrees : Agrees state ahead) {lines : Nat → Line}
    {running later : (worker : Nat) → Option (Execution (site.config worker))}
    (others : ∀ other ≠ worker, lines other = state.lines other ∧
      running other = state.shared.running other ∧ later other = ahead other)
    (here : Exchange (lines worker) (running worker) (later worker)) (other : Nat) :
    Exchange (lines other) (running other) (later other) := by
  by_cases same : other = worker
  · rw [same]
    exact here
  · obtain ⟨lineEq, runningEq, laterEq⟩ := others other same
    rw [lineEq, runningEq, laterEq]
    exact agrees.exchanges other

theorem Agrees.requests_update (agrees : Agrees state ahead)
    {running : Option (Execution (site.config worker))}
    (here : ∀ execution, running = some execution →
      execution.rest.Ensures (fun request => ∀ fileTag ∈ request.fileTags, fileTag ∈ sendable)
        fun outcome => TablesWithin sendable outcome.memory)
    (other : Nat) (execution : Execution (site.config other))
    (isRunning : Function.update state.shared.running worker running other = some execution) :
    execution.rest.Ensures (fun request => ∀ fileTag ∈ request.fileTags, fileTag ∈ sendable)
      fun outcome => TablesWithin sendable outcome.memory := by
  by_cases same : other = worker
  · subst same
    rw [Function.update_self] at isRunning
    exact here execution isRunning
  · rw [Function.update_of_ne same] at isRunning
    exact agrees.requests other execution isRunning

end Invariant

section Run

variable [DecidableEq Hash] {md5 : Storage.Block site.storage.blockSize → Hash}
  {storageGets workerGets : Nat → Fragmentation} {owner : FileTag → Nat}
  {state after : WiredStorage site Hash} {worker : Nat}
  {ahead : (worker : Nat) → Option (Execution (site.config worker))}

/-- Runs of the shared Storage without connections under its condition. -/
abbrev ProperRun (md5 : Storage.Block site.storage.blockSize → Hash) (owner : FileTag → Nat)
    (first : SharedStorage site Hash) (labels : List SharedLabel)
    (last : SharedStorage site Hash) : Prop :=
  ((SharedStorage.system md5).guarded (SharedStorage.Proper md5 owner)).Run first labels last

theorem properRun_start {shared : SharedStorage site Hash} {task : Task}
    {allocated delivered : Bool} (idle : shared.running worker = none)
    (proper : SharedStorage.Proper md5 owner shared (.start worker task allocated delivered)) :
    ProperRun md5 owner shared [.start worker task allocated delivered]
      (shared.resume worker ⟨task, allocated, delivered, shared.contents,
        task.program allocated delivered (shared.memories worker)⟩) := by
  refine TransitionSystem.Run.single ⟨proper, ?_⟩
  change shared.next md5 _ = _
  simp only [SharedStorage.next, idle]

theorem properRun_serve {shared : SharedStorage site Hash}
    {execution : Execution (site.config worker)} {request : StorageRequest (site.config worker)}
    {resume : Resumption (site.config worker) request}
    (isRunning : shared.running worker = some execution)
    (asks : execution.rest = Asking.ask request resume)
    (harmless : HarmlessRequest md5 shared.disk request) :
    ProperRun md5 owner shared [.serve worker]
      (({ shared with disk := (respond md5 shared.disk request).2 } :
        SharedStorage site Hash).resume worker
          { execution with rest := resume (respond md5 shared.disk request).1 }) := by
  refine TransitionSystem.Run.single ⟨?_, ?_⟩
  · intro other otherRunning otherRequest otherResume otherAsks
    obtain rfl := Option.some.inj (isRunning.symm.trans otherRunning)
    obtain ⟨rfl, -⟩ := Asking.ask.inj (asks.symm.trans otherAsks)
    exact harmless
  · change shared.next md5 _ = _
    simp only [SharedStorage.next, isRunning, Option.bind_some, asks]

theorem properRun_finish {shared : SharedStorage site Hash}
    {execution : Execution (site.config worker)} {outcome : InstructionOutcome (site.config worker)}
    (isRunning : shared.running worker = some execution)
    (ends : execution.rest = Asking.done outcome) :
    ProperRun md5 owner shared [.finish worker]
      (shared.ended worker execution.task outcome) := by
  refine TransitionSystem.Run.single ⟨trivial, ?_⟩
  change shared.next md5 _ = _
  simp only [SharedStorage.next, isRunning, Option.bind_some, ends]

theorem Agrees.start {task : Task} {allocated delivered : Bool}
    {shared : SharedStorage site Hash} (agrees : Agrees state ahead)
    (proper : SharedStorage.Proper md5 owner state.shared (.start worker task allocated delivered))
    (named : ∀ fileTag ∈ task.fileTags, StorageRequest.Sendable fileTag)
    (step : state.shared.next md5 (.start worker task allocated delivered) = some shared) :
    ∃ served later, ProperRun md5 owner (state.seenWith ahead) served
      ((state.setShared shared).seenWith later) ∧ Agrees (state.setShared shared) later := by
  rw [SharedStorage.next] at step
  split at step
  · cases step
  · rename_i idle
    obtain rfl := Option.some.inj step
    have exchange := agrees.exchanges worker
    rw [idle] at exchange
    obtain ⟨quiet, idleAhead⟩ := exchange.of_idle
    refine ⟨_, _, @properRun_start site Hash _ md5 owner worker (state.seenWith ahead) task
      allocated delivered idleAhead proper, ?_, agrees.tables, ?_, agrees.reports⟩
    · refine @Agrees.exchanges_update site Hash state worker ahead agrees _ _ _
        (fun other different => ⟨rfl, Function.update_of_ne different _ _,
          Function.update_of_ne different _ _⟩)
        (.quiet quiet ?_)
      simp [setShared, SharedStorage.resume, seenWith, SharedStorage.contents]
    · refine agrees.requests_update ?_
      rintro execution ⟨⟩
      exact Task.program_within (agrees.tables worker) named

theorem Agrees.send {queryId : UInt32} (agrees : Agrees state ahead)
    (step : state.send worker queryId = some after) :
    ∃ served later, ProperRun md5 owner (state.seenWith ahead) served (after.seenWith later) ∧
      Agrees after later := by
  obtain ⟨execution, isRunning, step⟩ := Option.bind_eq_some_iff.mp step
  split at step
  · cases step
  · rename_i request resume asks
    split at step
    · cases step
    · rename_i notWaiting
      have ensured := agrees.requests worker execution isRunning
      rw [asks] at ensured
      have exchange := agrees.exchanges worker
      rw [isRunning] at exchange
      cases exchange with
      | asked _ _ _ _ waiting => exact absurd waiting notWaiting
      | answered _ _ _ waiting => exact absurd waiting notWaiting
      | quiet quiet same =>
          split at step
          · rename_i noPackage
            obtain rfl := Option.some.inj step
            have noCall : request.call queryId = none := by
              cases isCall : request.call queryId with
              | none => rfl
              | some call =>
                  obtain ⟨package, builds, _⟩ :=
                    call.delivers (StorageRequest.call_transmissible isCall ensured.1)
                  rw [isCall, Option.bind_some, builds] at noPackage
                  cases noPackage
            have refused := @respond_of_no_call site worker Hash _ md5 state.shared.disk _ _ noCall
            have served := @properRun_serve site Hash _ md5 owner worker (state.seenWith ahead)
              _ _ _ same asks fun operation behind => by
                rw [operation_of_no_call noCall] at behind
                cases behind
            change ProperRun md5 owner _ _ (({ state.seenWith ahead with
              disk := (respond md5 state.shared.disk request).2 } :
                SharedStorage site Hash).resume worker
                  { execution with rest := resume (respond md5 state.shared.disk request).1 })
              at served
            rw [refused] at served
            refine ⟨_, _, served, ?_, agrees.tables, ?_, agrees.reports⟩
            · refine @Agrees.exchanges_update site Hash state worker ahead agrees _ _ _
                (fun other different => ⟨rfl, Function.update_of_ne different _ _,
                  Function.update_of_ne different _ _⟩) (.quiet quiet ?_)
              simp [WiredStorage.resume, SharedStorage.resume]
            · refine agrees.requests_update ?_
              rintro later ⟨⟩
              exact ensured.2 _
          · rename_i package hasPackage
            obtain rfl := Option.some.inj step
            obtain ⟨call, isCall, builds⟩ := Option.bind_eq_some_iff.mp hasPackage
            refine ⟨[], ahead, TransitionSystem.Run.nil, ?_, agrees.tables, agrees.requests,
              agrees.reports⟩
            refine @Agrees.exchanges_update site Hash state worker ahead agrees _ _ _
              (fun other different => ⟨Function.update_of_ne different _ _, rfl, rfl⟩) ?_
            have line : ((state.setLine worker
                ((state.lines worker).asked queryId package)).lines worker) =
                  (state.lines worker).asked queryId package := Function.update_self _ _ _
            rw [line]
            refine .asked isRunning asks isCall builds rfl ?_ quiet.2.2 ?_
            · rw [Line.asked, quiet.2.1, List.nil_append]
            · rw [same, ← isRunning]
              rfl

theorem packageReceive_nothing {connection : Connection} (nothing : connection.pending = [])
    (fragmentation : Fragmentation) : connection.packageReceive fragmentation = none := by
  obtain ⟨pending, calls⟩ := connection
  obtain rfl : pending = [] := nothing
  exact Connection.packageReceive_done fragmentation calls

theorem handle_asked {request : StorageRequest (site.config worker)} {call : StorageCall}
    {package : Package}
    (isCall : request.call (state.lines worker).queryId = some call)
    (builds : call.message.build = some package)
    (sent : (state.lines worker).toStorage.pending = package.send)
    (named : ∀ fileTag ∈ request.fileTags, StorageRequest.Sendable fileTag) :
    ∃ left reply, left.pending = [] ∧
      state.handle md5 storageGets worker = some
        ((state.setDisk (respond md5 state.shared.disk request).2).setLine worker
          ((state.lines worker).answered left reply)) ∧
      Brings (state.lines worker).queryId request call reply
        (respond md5 state.shared.disk request).1 := by
  obtain ⟨built, buildsToo, arrives⟩ :=
    call.delivers (StorageRequest.call_transmissible isCall named)
  obtain rfl : built = package := Option.some.inj (buildsToo.symm.trans builds)
  obtain ⟨received, later, read, receives, reads⟩ :=
    arrives (storageGets worker) [] (state.lines worker).toStorage.calls
  rw [List.append_nil, ← sent] at receives
  obtain ⟨response, handles, reply, replies, brings⟩ := @exchange site worker Hash _ md5
    state.shared.disk request (state.lines worker).queryId call isCall named
  refine ⟨⟨[], later⟩, reply, rfl, ?_, brings⟩
  rw [handle, receives, Option.bind_some]
  dsimp only
  rw [reads, Option.bind_some]
  dsimp only
  rw [handles, Option.bind_some]
  dsimp only
  rw [replies]
  rfl

theorem Agrees.handle (agrees : Agrees state ahead)
    (proper : SharedStorage.Proper md5 owner state.shared (.serve worker))
    (step : state.handle md5 storageGets worker = some after) :
    ∃ served later, ProperRun md5 owner (state.seenWith ahead) served (after.seenWith later) ∧
      Agrees after later := by
  have nothing : (state.lines worker).toStorage.pending ≠ [] := by
    intro nothing
    rw [WiredStorage.handle, packageReceive_nothing nothing] at step
    cases step
  have exchange := agrees.exchanges worker
  cases exchange with
  | quiet quiet same => exact absurd quiet.2.1 nothing
  | answered _ _ _ _ received => exact absurd received nothing
  | @asked execution request resume call package isRunning asks isCall builds waiting sent
      unanswered same =>
      have ensured := agrees.requests worker execution isRunning
      rw [asks] at ensured
      obtain ⟨left, reply, empty, handles, brings⟩ := @handle_asked site Hash _ md5 storageGets
        state worker request call package isCall builds sent ensured.1
      obtain rfl := Option.some.inj (handles.symm.trans step)
      have served := @properRun_serve site Hash _ md5 owner worker (state.seenWith ahead) _ _ _
        (same.trans isRunning) asks (proper execution isRunning request resume asks)
      refine ⟨_, _, served, ?_, agrees.tables, agrees.requests, agrees.reports⟩
      refine @Agrees.exchanges_update site Hash state worker ahead agrees _ _ _
        (fun other different => ⟨Function.update_of_ne different _ _, rfl,
          Function.update_of_ne different _ _⟩) ?_
      have line : ((state.setDisk (respond md5 state.shared.disk request).2).setLine worker
          ((state.lines worker).answered left reply)).lines worker =
            (state.lines worker).answered left reply := Function.update_self _ _ _
      rw [line]
      refine .answered isRunning asks isCall waiting empty ?_ brings ?_
      · rw [Line.answered, unanswered, List.nil_append]
      · exact Function.update_self _ _ _

omit [DecidableEq Hash] in
theorem receive_answered {execution : Execution (site.config worker)}
    {request : StorageRequest (site.config worker)}
    {resume : Resumption (site.config worker) request}
    {call : StorageCall} {reply : Package} {answer : request.Answer}
    (isRunning : state.shared.running worker = some execution)
    (asks : execution.rest = Asking.ask request resume)
    (isCall : request.call (state.lines worker).queryId = some call)
    (waiting : (state.lines worker).waiting = true)
    (sent : (state.lines worker).toWorker.pending = reply.send)
    (brings : Brings (state.lines worker).queryId request call reply answer) :
    ∃ left notice, left.pending = [] ∧
      state.receive workerGets worker = some
        (((state.report worker notice).setLine worker ((state.lines worker).settled left)).resume
          worker { execution with rest := resume answer }) ∧
      ∀ told, notice = some told →
        ∃ text, told = .errorFromStorage (state.lines worker).queryId text := by
  obtain ⟨received, later, receives, takes, tells⟩ :=
    brings (workerGets worker) [] (state.lines worker).toWorker.calls
  rw [List.append_nil, ← sent] at receives
  refine ⟨⟨[], later⟩, (readAnswer call received).bind StorageAnswer.forwarded, rfl, ?_, tells⟩
  rw [receive, isRunning, Option.bind_some]
  dsimp only
  split
  · rename_i ends
    rw [asks] at ends
    cases ends
  · rename_i otherRequest otherResume otherAsks
    obtain ⟨rfl, resumeEq⟩ := Asking.ask.inj (asks.symm.trans otherAsks)
    obtain rfl := eq_of_heq resumeEq
    rw [waiting, isCall, Option.bind_some, receives, ← takes]
    rfl

omit [DecidableEq Hash] in
theorem receive_needs (step : state.receive workerGets worker = some after) :
    (state.lines worker).waiting = true ∧ (state.lines worker).toWorker.pending ≠ [] := by
  obtain ⟨execution, _, step⟩ := Option.bind_eq_some_iff.mp step
  split at step
  · cases step
  · split at step
    · cases step
    · rename_i waiting
      refine ⟨by simpa using waiting, fun nothing => ?_⟩
      obtain ⟨call, _, step⟩ := Option.bind_eq_some_iff.mp step
      rw [packageReceive_nothing nothing] at step
      cases step

omit [DecidableEq Hash] in
theorem Agrees.receive (agrees : Agrees state ahead)
    (step : state.receive workerGets worker = some after) :
    ∃ later, after.seenWith later = state.seenWith ahead ∧ Agrees after later := by
  obtain ⟨needsWaiting, needsBytes⟩ := receive_needs step
  have exchange := agrees.exchanges worker
  cases exchange with
  | quiet quiet same =>
      rw [quiet.1] at needsWaiting
      cases needsWaiting
  | asked _ _ _ _ _ _ unanswered => exact absurd unanswered needsBytes
  | @answered execution request resume call reply answer isRunning asks isCall waiting received sent
      brings later =>
      have ensured := agrees.requests worker execution isRunning
      rw [asks] at ensured
      obtain ⟨left, notice, empty, receives, tells⟩ := @receive_answered site Hash workerGets
        state worker execution request resume call reply answer isRunning asks isCall waiting sent
          brings
      obtain rfl := Option.some.inj (receives.symm.trans step)
      refine ⟨ahead, rfl, ?_, agrees.tables, ?_, ?_⟩
      · refine @Agrees.exchanges_update site Hash state worker ahead agrees _ _ _
          (fun other different => ⟨Function.update_of_ne different _ _,
            Function.update_of_ne different _ _, rfl⟩) (.quiet ?_ ?_)
        · have line : (((state.report worker notice).setLine worker
              ((state.lines worker).settled left)).resume worker
                { execution with rest := resume answer }).lines worker =
                  (state.lines worker).settled left := Function.update_self _ _ _
          rw [line]
          exact ⟨rfl, received, empty⟩
        · rw [later]
          exact (Function.update_self worker _ state.shared.running).symm
      · refine agrees.requests_update ?_
        rintro continued ⟨⟩
        exact ensured.2 answer
      · intro report member
        rcases List.mem_append.mp member with old | new
        · exact agrees.reports report old
        · obtain ⟨told, isTold, rfl⟩ := List.mem_map.mp new
          exact tells told (Option.mem_toList.mp isTold)

theorem Agrees.finish {shared : SharedStorage site Hash} (agrees : Agrees state ahead)
    (step : state.shared.next md5 (.finish worker) = some shared) :
    ∃ served later, ProperRun md5 owner (state.seenWith ahead) served
        ((state.setShared shared).seenWith later) ∧
      Agrees (state.setShared shared) later := by
  obtain ⟨execution, isRunning, step⟩ := Option.bind_eq_some_iff.mp step
  split at step
  · rename_i outcome ends
    obtain rfl := Option.some.inj step
    have ensured := agrees.requests worker execution isRunning
    rw [ends] at ensured
    have exchange := agrees.exchanges worker
    rw [isRunning] at exchange
    cases exchange with
    | asked isExecution asks =>
        obtain rfl := Option.some.inj isExecution
        rw [ends] at asks
        cases asks
    | answered isExecution asks =>
        obtain rfl := Option.some.inj isExecution
        rw [ends] at asks
        cases asks
    | quiet quiet same =>
        refine ⟨_, _, @properRun_finish site Hash _ md5 owner worker (state.seenWith ahead)
          execution outcome same ends, ?_, ?_, ?_, agrees.reports⟩
        · refine @Agrees.exchanges_update site Hash state worker ahead agrees _ _ _
            (fun other different => ⟨rfl, Function.update_of_ne different _ _,
              Function.update_of_ne different _ _⟩) (.quiet quiet ?_)
          simp [setShared, SharedStorage.ended, seenWith]
        · intro other
          by_cases same : other = worker
          · subst same
            have kept : TablesWithin sendable outcome.memory := ensured
            simpa only [setShared, SharedStorage.ended, Function.update_self] using kept
          · simpa only [setShared, SharedStorage.ended, Function.update_of_ne same] using
              agrees.tables other
        · refine agrees.requests_update ?_
          rintro later ⟨⟩
  · cases step

theorem Agrees.next {label : WiredLabel} (agrees : Agrees state ahead)
    (proper : Proper md5 owner state label)
    (step : state.next md5 storageGets workerGets label = some after) :
    ∃ served later, ProperRun md5 owner (state.seenWith ahead) served (after.seenWith later) ∧
      Agrees after later := by
  cases label with
  | start worker task allocated delivered =>
      obtain ⟨shared, isNext, rfl⟩ := Option.map_eq_some_iff.mp step
      exact agrees.start proper.1 proper.2 isNext
  | send worker queryId => exact agrees.send step
  | handle worker => exact agrees.handle proper step
  | receive worker =>
      obtain ⟨later, same, agreesAfter⟩ := agrees.receive step
      exact ⟨[], later, same ▸ TransitionSystem.Run.nil, agreesAfter⟩
  | finish worker =>
      obtain ⟨shared, isNext, rfl⟩ := Option.map_eq_some_iff.mp step
      exact agrees.finish isNext

omit [DecidableEq Hash] in
theorem Started.agrees (started : Started state) : Agrees state state.shared.running := by
  refine ⟨fun worker => .quiet (started.2.1 worker) rfl, ?_, ?_, ?_⟩
  · intro worker fileTag member
    rw [((started.1.2.1 worker).1).1] at member
    cases member
  · intro worker execution isRunning
    rw [(started.1.2.1 worker).2] at isRunning
    cases isRunning
  · rw [started.2.2]
    simp

/-- A run over connections is a run of the shared Storage, up to the responses under way. -/
theorem simulates
    (reachable : ((system md5 storageGets workerGets).guarded (Proper md5 owner)).Reachable state) :
    ∃ ahead, ((SharedStorage.system md5).guarded (SharedStorage.Proper md5 owner)).Reachable
      (state.seenWith ahead) ∧ Agrees state ahead := by
  have kept : ((system md5 storageGets workerGets).guarded (Proper md5 owner)).Preserves
      fun state => ∃ ahead,
        ((SharedStorage.system md5).guarded (SharedStorage.Proper md5 owner)).Reachable
          (state.seenWith ahead) ∧ Agrees state ahead := by
    rintro before label after ⟨ahead, ⟨start, labels, begins, run⟩, agrees⟩ ⟨proper, step⟩
    obtain ⟨served, later, continues, agreesAfter⟩ := agrees.next proper step
    exact ⟨later, ⟨start, labels ++ served, begins, run.append continues⟩, agreesAfter⟩
  exact reachable.invariant (fun first started =>
    ⟨_, TransitionSystem.Reachable.start started.1, Started.agrees started⟩) kept

/-- A Worker with a task under way never waits in vain: it can go on, or Storage can. -/
theorem Agrees.goes_on {execution : Execution (site.config worker)} (agrees : Agrees state ahead)
    (isRunning : state.shared.running worker = some execution) :
    (∀ queryId, (state.next md5 storageGets workerGets (.send worker queryId)).isSome = true) ∨
      ∃ label ∈ [WiredLabel.handle worker, .receive worker, .finish worker],
        (state.next md5 storageGets workerGets label).isSome = true := by
  have exchange := agrees.exchanges worker
  cases exchange with
  | quiet quiet same =>
      cases rest : execution.rest with
      | done outcome =>
          refine Or.inr ⟨.finish worker, by simp, ?_⟩
          simp [WiredStorage.next, SharedStorage.next, isRunning, rest]
      | ask request resume =>
          refine Or.inl fun queryId => ?_
          simp only [WiredStorage.next, WiredStorage.send, isRunning, Option.bind_some, rest,
            quiet.1]
          cases (request.call queryId).bind fun call => call.message.build with
          | none => rfl
          | some package => rfl
  | @asked asking request resume call package isAsking asks isCall builds waiting sent unanswered
      same =>
      have ensured := agrees.requests worker asking isAsking
      rw [asks] at ensured
      obtain ⟨left, reply, _, handles, _⟩ := @handle_asked site Hash _ md5 storageGets
        state worker request call package isCall builds sent ensured.1
      refine Or.inr ⟨.handle worker, by simp, ?_⟩
      rw [WiredStorage.next, handles]
      rfl
  | @answered asking request resume call reply answer isAsking asks isCall waiting received sent
      brings later =>
      obtain ⟨left, notice, _, receives, _⟩ := @receive_answered site Hash workerGets
        state worker asking request resume call reply answer isAsking asks isCall waiting sent
          brings
      refine Or.inr ⟨.receive worker, by simp, ?_⟩
      rw [WiredStorage.next, receives]
      rfl

end Run

section Example

open SharedStorage (smallSite smallOwner firstFile secondFile)

def quicklyProper (state : WiredStorage smallSite String) : WiredLabel → Bool
  | .start worker task allocated delivered =>
    state.shared.quicklyProper (.start worker task allocated delivered) &&
      task.fileTags.all fun fileTag => decide (StorageRequest.Sendable fileTag)
  | .handle worker => state.shared.quicklyProper (.serve worker)
  | .send _ _ | .receive _ | .finish _ => true

theorem proper_of_quicklyProper (state : WiredStorage smallSite String) (label : WiredLabel)
    (quick : state.quicklyProper label = true) :
    Proper Storage.oneByteMd5 smallOwner state label := by
  cases label with
  | start worker task allocated delivered =>
      obtain ⟨proper, named⟩ := Bool.and_eq_true_iff.mp quick
      exact ⟨SharedStorage.proper_of_quicklyProper _ _ proper, fun fileTag member =>
        of_decide_eq_true (List.all_eq_true.mp named fileTag member)⟩
  | handle worker =>
      exact SharedStorage.proper_of_quicklyProper state.shared (.serve worker) quick
  | _ => trivial

def connectedSite : WiredStorage smallSite String where
  shared := SharedStorage.startedSite
  lines _ := ⟨⟨[], 0⟩, ⟨[], 0⟩, false, 0⟩
  reports := []

/-- Two Workers create and grow their files over connections at the same time; the first one
creates its file again, which is an error, and reads what the other one has not written.  The
pages of the other one are written back under the id of its next query. -/
def overConnections : List WiredLabel :=
  [.start 0 (.execute (.create firstFile)) true true,
    .start 1 (.execute (.create secondFile)) true true, .send 1 8, .send 0 7, .handle 0, .handle 1,
    .receive 0, .receive 1, .finish 1, .finish 0,
    .start 0 (.execute (.create firstFile)) true true, .send 0 7, .handle 0, .receive 0, .finish 0,
    .start 0 (.execute (.truncate firstFile 1)) true true, .send 0 7,
    .start 1 (.execute (.truncate secondFile 1)) true true, .send 1 8, .handle 1, .handle 0,
    .receive 1, .receive 0, .finish 0, .finish 1,
    .start 1 (.execute (.write secondFile 0 [66])) true true, .send 1 8, .handle 1, .receive 1,
    .finish 1, .start 0 (.execute (.read firstFile 0 1)) true true, .send 0 7,
    .start 1 .evict true true, .send 1 9, .handle 1, .handle 0, .receive 0, .receive 1, .finish 0,
    .finish 1]

end Example

end WiredStorage

end Worker

end MasterOfFiles
