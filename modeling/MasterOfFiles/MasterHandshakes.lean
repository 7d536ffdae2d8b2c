import MasterOfFiles.MasterCommands
import MasterOfFiles.MasterRecipients
import MasterOfFiles.MasterRuns

/-!
# The answers to the handshakes

`manage_worker_handshake` puts a Worker into `idle_list` in one critical section and sends
OP_WORKER_ACK afterwards, without a mutex.  `manage_query_file_path` sends its answer before the
critical section of `create_query`.  Each of the two handlers takes two steps here, every other
handler is one critical section with its sends, and the packages that are sent on each connection
are written down.  `handshake_with_server` of the Worker fails when the first of them is not
OP_WORKER_ACK.
-/

namespace MasterOfFiles

/-- The number that a message about a query is sent on. -/
def Sending.socket : Sending → Nat
  | report (.toWorker socket _) => socket
  | report (.toQueryControl socket _) => socket
  | readData socket _ => socket

inductive MasterPackage
  | workerAck
  | queryHandshake
  | connectionOk
  | about (sending : Sending)
deriving DecidableEq

/-- OP_WORKER_START_QUERY and OP_WORKER_PREEMPT_REQ. -/
def MasterPackage.commands : MasterPackage → Bool
  | about (.report (.toWorker _ _)) => true
  | about (.report (.toQueryControl _ _)) | about (.readData _ _) => false
  | workerAck | queryHandshake | connectionOk => false

def ClientPackage.registers : ClientPackage → Bool
  | workerHandshake workerId => decide (workerId ≠ 0)
  | queryHandshake | queryFilePath _ _ | queryControlDisconnection | readMessage _ | endQuery _
  | evictRes _ _ | workerDisconnection | storageError _ _ | unknown => false

def ClientPhase.registers : ClientPhase → Bool
  | received _ package => package.registers
  | receiving | dispatching | closing | disconnected | closingLast | exiting | ended => false

theorem ClientPhase.registers_iff {phase : ClientPhase} : phase.registers = true ↔
    ∃ sender workerId, workerId ≠ 0 ∧ phase = .received sender (.workerHandshake workerId) := by
  cases phase with
  | received sender package => cases package <;> simp [registers, ClientPackage.registers]
  | _ => simp [registers]

/-- What the handler of a package sends about queries. -/
def Master.sendings (master : Master) (socket : Nat) (sent : Bool) :
    ClientPackage → List Sending
  | .queryControlDisconnection =>
    (master.handleQueryControlDisconnection sent socket).2.map Sending.report
  | .readMessage queryId => if sent then master.manageReadMessageFromWorker queryId else []
  | .endQuery queryId => (master.manageWorkerEndQuery socket queryId).2.map Sending.report
  | .workerDisconnection => (master.handleWorkerDisconnection socket).2.map Sending.report
  | .storageError queryId reason =>
    (master.handleErrorFromStorage socket queryId reason).2.map Sending.report
  | .queryHandshake | .queryFilePath _ _ | .workerHandshake _ | .evictRes _ _ | .unknown => []

namespace MasterProcess

/-- What a thread sends about queries in the next handler that it runs. -/
def threadSendings (master : Master) (thread : ClientThread) (sent : Bool) : List Sending :=
  match thread.phase with
  | .received _ package => master.sendings thread.clientSocket sent package
  | .disconnected =>
    if thread.isQueryControl then
      (master.handleQueryControlDisconnection sent thread.clientSocket).2.map Sending.report
    else if thread.isWorker then
      (master.handleWorkerDisconnection thread.clientSocket).2.map Sending.report
    else []
  | _ => []

def sendings (config : MasterConfig) (process : MasterProcess) : MasterStep → List Sending
  | .handle connection _ sent =>
    ((process.thread connection).map fun thread =>
      threadSendings process.master thread sent).getD []
  | .dispatch _ sent => (process.master.tryDispatch config sent).2.map Sending.report
  | .checkPreemption sent => (process.master.checkPreemption sent).2.map Sending.report
  | _ => []

end MasterProcess

/-- The process with the threads that have done the first of the two parts of their handler, the
first package that came from each connection, and the packages sent on it. -/
structure HandshakeProcess where
  process : MasterProcess
  halfway : Nat → Bool
  firstPackage : Nat → Option ClientPackage
  written : Nat → List MasterPackage

/-- `answer` is the send of a handler that answers its client outside the critical sections. -/
inductive HandshakeStep
  | step (step : MasterStep)
  | answer (connection : Nat) (sent : Bool)
deriving DecidableEq

namespace HandshakeProcess

/-- The packages of each connection, after some more were sent on the numbers of the list. -/
def record (state : HandshakeProcess) (packages : List (Nat × MasterPackage)) :
    Nat → List MasterPackage := fun connection =>
  state.written connection ++
    (packages.filter fun entry =>
      decide (state.process.descriptor entry.1 = some (.connection connection))).map Prod.snd

def noticed (state : HandshakeProcess) : MasterStep → Nat → Option ClientPackage
  | .receive connection (some package) =>
    match (state.process.thread connection).bind fun thread =>
      state.process.descriptor thread.clientSocket with
    | some (.connection sender) =>
      Function.update state.firstPackage sender (state.firstPackage sender <|> some package)
    | _ => state.firstPackage
  | _ => state.firstPackage

def follow (config : MasterConfig) (state : HandshakeProcess) (label : MasterStep) :
    Option HandshakeProcess :=
  (state.process.next config label).map fun process =>
    { process := process
      halfway := state.halfway
      firstPackage := state.noticed label
      written := state.record ((state.process.sendings config label).map fun sending =>
        (sending.socket, .about sending)) }

/-- `create_worker`, the first part of `manage_worker_handshake`. -/
def register (state : HandshakeProcess) (connection workerId socket : Nat) : HandshakeProcess :=
  { state with
    process := { state.process with master := state.process.master.createWorker workerId socket }
    halfway := Function.update state.halfway connection true }

def handle (config : MasterConfig) (state : HandshakeProcess) (connection now : Nat)
    (sent : Bool) : Option HandshakeProcess :=
  match state.process.thread connection with
  | none => none
  | some thread =>
    match thread.phase with
    | .received _ .queryHandshake => none
    | .received _ (.queryFilePath _ _) =>
      if state.halfway connection then
        (state.follow config (.handle connection now sent)).map fun after =>
          { after with halfway := Function.update after.halfway connection false }
      else none
    | .received _ (.workerHandshake workerId) =>
      if workerId = 0 then state.follow config (.handle connection now sent)
      else if state.halfway connection then none
      else some (state.register connection workerId thread.clientSocket)
    | _ => state.follow config (.handle connection now sent)

/-- The thread sends a package to its client and moves on. -/
def reply (state : HandshakeProcess) (connection : Nat) (sent : Bool) (package : MasterPackage)
    (moved : ClientThread) (halfway : Bool) : HandshakeProcess :=
  { state with
    process := state.process.setThread connection moved
    halfway := Function.update state.halfway connection halfway
    written := if sent then state.record [(moved.clientSocket, package)] else state.written }

/-- The send of `manage_query_handshake`, `manage_query_file_path` or
`manage_worker_handshake`. -/
def answer (state : HandshakeProcess) (connection : Nat) (sent : Bool) :
    Option HandshakeProcess :=
  match state.process.thread connection with
  | none => none
  | some thread =>
    match thread.phase with
    | .received _ .queryHandshake =>
      some (state.reply connection sent .queryHandshake
        { thread with isQueryControl := thread.isQueryControl || sent, phase := .receiving } false)
    | .received _ (.queryFilePath _ _) =>
      if state.halfway connection then none
      else some (state.reply connection sent .connectionOk thread true)
    | .received _ (.workerHandshake workerId) =>
      if workerId ≠ 0 ∧ state.halfway connection = true then
        some (state.reply connection sent .workerAck
          (if sent then { thread with isWorker := true, phase := .dispatching }
          else { thread with phase := .receiving }) false)
      else none
    | _ => none

def next (config : MasterConfig) (state : HandshakeProcess) :
    HandshakeStep → Option HandshakeProcess
  | .step (.handle connection now sent) => state.handle config connection now sent
  | .step label => state.follow config label
  | .answer connection sent => state.answer connection sent

structure Starts (state : HandshakeProcess) : Prop where
  process : state.process.Starts
  halfway : ∀ connection, state.halfway connection = false
  firstPackage : ∀ connection, state.firstPackage connection = none
  written : ∀ connection, state.written connection = []

/-- Every interleaving of the critical sections and sends. -/
def system (config : MasterConfig) : TransitionSystem HandshakeProcess HandshakeStep :=
  .ofNext Starts (next config)

/-- A thread has run `create_worker` for the number and not yet sent its OP_WORKER_ACK. -/
def Acknowledging (state : HandshakeProcess) (socket : Nat) : Prop :=
  ∃ connection < state.process.accepted, ∃ thread ∈ state.process.thread connection,
    state.halfway connection = true ∧ thread.phase.registers = true ∧
      thread.clientSocket = socket

/-- The thread is about to run `handle_query_control_disconnection`. -/
def leaves (thread : ClientThread) : Bool :=
  match thread.phase with
  | .received _ .queryControlDisconnection => true
  | .disconnected => thread.isQueryControl
  | _ => false

/-- The condition: `accept` returns a number that no query and no Worker in the tables and no
thread that still handles packages has, a Worker is sent neither a query nor a preemption while
its OP_WORKER_ACK is due, and the send of OP_WORKER_ACK succeeds. -/
def AnswersInTime (state : HandshakeProcess) : HandshakeStep → Prop
  | .step (.accept number) =>
    state.process.AcceptsFresh (.accept number) ∧ state.process.master.worker number = none
  | .step (.dispatch _ sent) => state.process.master.HandsOut → sent = true →
    ∀ socket ∈ state.process.master.idleList.head?, ¬state.Acknowledging socket
  | .step (.checkPreemption _) => ∀ queryId ∈ state.process.master.worstRunning,
    ∀ socket ∈ state.process.master.preemptionTarget queryId, ¬state.Acknowledging socket
  | .step (.handle connection _ _) => ∀ thread ∈ state.process.thread connection,
    leaves thread = true →
      ∀ queryId ∈ state.process.master.findQueryBySocket thread.clientSocket,
        ∀ socket ∈ state.process.master.preemptionTarget queryId, ¬state.Acknowledging socket
  | .answer connection sent => ∀ thread ∈ state.process.thread connection,
    thread.phase.registers = true →
      state.process.descriptor thread.clientSocket ≠ none → sent = true
  | _ => True

instance (state : HandshakeProcess) : DecidablePred state.Acknowledging :=
  fun _ => inferInstanceAs (Decidable (∃ connection < _, ∃ thread ∈ _, _ ∧ _ ∧ _))

instance (state : HandshakeProcess) : DecidablePred state.AnswersInTime
  | .step (.accept _) => inferInstanceAs (Decidable (_ ∧ _))
  | .step (.dispatch _ _) => inferInstanceAs (Decidable (_ → _ → ∀ socket ∈ _, _))
  | .step (.checkPreemption _) =>
    inferInstanceAs (Decidable (∀ queryId ∈ _, ∀ socket ∈ _, _))
  | .step (.handle _ _ _) =>
    inferInstanceAs (Decidable (∀ thread ∈ _, _ → ∀ queryId ∈ _, ∀ socket ∈ _, _))
  | .answer _ _ => inferInstanceAs (Decidable (∀ thread ∈ _, _ → _ → _))
  | .step (.spawn _) | .step (.receive _ _) | .step (.close _) | .step (.aging _) =>
    isTrue trivial

/-- The two parts of `manage_worker_handshake` make the one step of the coarser process. -/
theorem process_of_parts {config : MasterConfig} {state middle after : HandshakeProcess}
    {connection now : Nat} {sent : Bool} {thread : ClientThread}
    (runs : state.process.thread connection = some thread)
    (registers : thread.phase.registers = true)
    (first : state.handle config connection now sent = some middle)
    (second : middle.answer connection sent = some after) :
    state.process.next config (.handle connection now sent) = some after.process := by
  obtain ⟨sender, workerId, nonzero, phase⟩ := ClientPhase.registers_iff.mp registers
  simp only [handle, runs, phase, if_neg nonzero] at first
  split at first
  · cases first
  · obtain rfl := Option.some.inj first
    simp only [answer, register, runs, phase, nonzero, ne_eq, not_false_eq_true,
      Function.update_self, and_self, if_true, Option.some.injEq] at second
    subst second
    simp [MasterProcess.next, MasterProcess.handled, runs, phase, MasterProcess.handlePackage,
      nonzero, MasterProcess.submitting, reply, MasterProcess.setThread]

end HandshakeProcess

section Order

/-- OP_WORKER_ACK comes first: before anything else on the connection of a Worker, and before
every command on any connection. -/
structure AckFirst (firstPackage : Option ClientPackage) (written : List MasterPackage) :
    Prop where
  first : ∀ package ∈ firstPackage, package.registers = true →
    ∀ answer ∈ written.head?, answer = .workerAck
  commands : ∀ before command after, written = before ++ command :: after →
    command.commands = true → .workerAck ∈ before

/-- The first package is no handshake of a Worker, or it is answered. -/
def Greeted (firstPackage : Option ClientPackage) (written : List MasterPackage) : Prop :=
  ∀ package ∈ firstPackage, package.registers = true → .workerAck ∈ written

variable {firstPackage : Option ClientPackage} {written more : List MasterPackage}

theorem ackFirst_nil : AckFirst firstPackage [] where
  first package member registers answer head := by cases head
  commands before command after split := by simp at split

/-- Packages that are not commands may follow once the handshake is answered, and commands once
OP_WORKER_ACK is sent. -/
theorem AckFirst.append (ackFirst : AckFirst firstPackage written)
    (answers : ∀ package ∈ more, package = .workerAck ∨ Greeted firstPackage written)
    (commanded : ∀ package ∈ more, package.commands = true → .workerAck ∈ written) :
    AckFirst firstPackage (written ++ more) where
  first package member registers answer head := by
    cases written with
    | nil =>
        rw [List.nil_append] at head
        rcases answers answer (List.mem_of_mem_head? head) with ack | greeted
        · exact ack
        · cases greeted package member registers
    | cons sent rest => exact ackFirst.first package member registers answer head
  commands before command after split commands := by
    rcases List.append_eq_append_iff.mp split with ⟨start, beforeEq, moreEq⟩ |
      ⟨rest, writtenEq, restEq⟩
    · rw [beforeEq]
      exact List.mem_append_left _ (commanded command (by simp [moreEq]) commands)
    · cases rest with
      | nil =>
          rw [List.append_nil] at writtenEq
          rw [← writtenEq]
          apply commanded command _ commands
          rw [List.nil_append] at restEq
          simp [← restEq]
      | cons next others =>
          obtain ⟨rfl, -⟩ := List.cons.inj restEq
          exact ackFirst.commands before _ others writtenEq commands

end Order

end MasterOfFiles
