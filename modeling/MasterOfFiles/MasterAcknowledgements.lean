import MasterOfFiles.MasterHandshakes

/-!
# OP_WORKER_ACK comes first

A connection is greeted once the handshake of its Worker is answered.  Every number in the worker
table leads to a greeted connection or to one whose OP_WORKER_ACK is due, every number in the
query table to a greeted one, and a thread that handles anything but that first handshake has a
greeted client.
-/

namespace MasterOfFiles

namespace HandshakeProcess

variable {config : MasterConfig} {state : HandshakeProcess}

/-- What a connection must be for a query to be submitted on it. -/
def Ready (state : HandshakeProcess) (connection : Nat) : Prop :=
  state.firstPackage connection ≠ none ∧
    Greeted (state.firstPackage connection) (state.written connection)

structure Answered (state : HandshakeProcess) : Prop where
  attributed : state.process.Attributed
  workers : ∀ socket connection, state.process.master.worker socket ≠ none →
    state.process.descriptor socket = some (.connection connection) →
      state.Acknowledging socket ∨ .workerAck ∈ state.written connection
  queries : ∀ queryId query connection, state.process.master.query queryId = some query →
    state.process.descriptor query.socketFd = some (.connection connection) →
      state.Ready connection
  received : ∀ connection thread sender package,
    state.process.thread connection = some thread → thread.phase = .received sender package →
      state.firstPackage connection ≠ none
  threads : ∀ connection thread, state.process.thread connection = some thread →
    state.process.descriptor thread.clientSocket = some (.connection connection) →
      thread.phase.registers = false →
        Greeted (state.firstPackage connection) (state.written connection)
  known : ∀ connection, state.firstPackage connection ≠ none →
    connection < state.process.accepted
  silent : ∀ connection, state.firstPackage connection = none → state.written connection = []
  ackFirst : ∀ connection, AckFirst (state.firstPackage connection) (state.written connection)

theorem Answered.of_starts (starts : Starts state) : Answered state := by
  have noThread := starts.process.thread
  refine ⟨MasterProcess.Attributed.of_starts starts.process, ?_, ?_, ?_, ?_, ?_, ?_, ?_⟩
  · intro socket connection present
    rw [starts.process.master] at present
    exact absurd rfl present
  · intro queryId query connection block
    rw [starts.process.master] at block
    cases block
  · intro connection thread sender package runs
    rw [noThread] at runs
    cases runs
  · intro connection thread runs
    rw [noThread] at runs
    cases runs
  · intro connection noticed
    exact absurd (starts.firstPackage connection) noticed
  · intro connection _
    exact starts.written connection
  · intro connection
    rw [starts.written]
    exact ackFirst_nil

section Writing

/-- A package may be sent on the number now. -/
structure Allowed (state : HandshakeProcess) (socket : Nat) (package : MasterPackage) : Prop where
  ready : ∀ connection, state.process.descriptor socket = some (.connection connection) →
    state.firstPackage connection ≠ none ∧
      (package = .workerAck ∨
        Greeted (state.firstPackage connection) (state.written connection))
  commanded : ∀ connection, state.process.descriptor socket = some (.connection connection) →
    package.commands = true → .workerAck ∈ state.written connection

theorem mem_record {packages : List (Nat × MasterPackage)} {connection : Nat}
    {package : MasterPackage} (member : package ∈ state.written connection) :
    package ∈ state.record packages connection :=
  List.mem_append_left _ member

theorem greeted_record {packages : List (Nat × MasterPackage)} {connection : Nat}
    (greeted : Greeted (state.firstPackage connection) (state.written connection)) :
    Greeted (state.firstPackage connection) (state.record packages connection) :=
  fun package member registers => mem_record (greeted package member registers)

theorem Answered.write (answered : Answered state) {packages : List (Nat × MasterPackage)}
    (allowed : ∀ entry ∈ packages, state.Allowed entry.1 entry.2) :
    Answered { state with written := state.record packages } := by
  have sent : ∀ connection, ∀ package ∈ (packages.filter fun entry =>
      decide (state.process.descriptor entry.1 = some (.connection connection))).map Prod.snd,
      ∃ socket, state.Allowed socket package ∧
        state.process.descriptor socket = some (.connection connection) := by
    intro connection package member
    obtain ⟨entry, filtered, rfl⟩ := List.mem_map.mp member
    obtain ⟨listed, isOpen⟩ := List.mem_filter.mp filtered
    exact ⟨entry.1, allowed entry listed, by simpa using isOpen⟩
  refine ⟨answered.attributed, ?_, ?_, answered.received, ?_, answered.known, ?_, ?_⟩
  · intro socket connection present isOpen
    exact (answered.workers socket connection present isOpen).imp id mem_record
  · intro queryId query connection block isOpen
    obtain ⟨noticed, greeted⟩ := answered.queries queryId query connection block isOpen
    exact ⟨noticed, greeted_record greeted⟩
  · intro connection thread runs isOpen other
    exact greeted_record (answered.threads connection thread runs isOpen other)
  · intro connection unnoticed
    have nothing : (packages.filter fun entry =>
        decide (state.process.descriptor entry.1 = some (.connection connection))).map
          Prod.snd = [] := by
      apply List.eq_nil_iff_forall_not_mem.mpr
      intro package member
      obtain ⟨socket, may, isOpen⟩ := sent connection package member
      exact (may.ready connection isOpen).1 unnoticed
    change state.written connection ++ _ = []
    rw [nothing, answered.silent connection unnoticed, List.append_nil]
  · intro connection
    apply (answered.ackFirst connection).append
    · intro package member
      obtain ⟨socket, may, isOpen⟩ := sent connection package member
      exact (may.ready connection isOpen).2
    · intro package member commands
      obtain ⟨socket, may, isOpen⟩ := sent connection package member
      exact may.commanded connection isOpen commands

end Writing

section Process

/-- Work on the tables that registers no Worker and no query. -/
theorem Answered.keep (answered : Answered state) {effect : Master × List Outgoing}
    (sockets : state.process.master.KeepsSockets effect)
    (registered : ∀ socket, effect.1.worker socket ≠ none →
      state.process.master.worker socket ≠ none) :
    Answered { state with process := { state.process with master := effect.1 } } := by
  refine ⟨answered.attributed.keep sockets, ?_, ?_, answered.received, answered.threads,
    answered.known, answered.silent, answered.ackFirst⟩
  · intro socket connection present isOpen
    exact answered.workers socket connection (registered socket present) isOpen
  · intro queryId query connection block isOpen
    obtain ⟨old, oldBlock, same⟩ := sockets.sockets queryId query block
    apply answered.queries queryId old connection oldBlock
    rw [same]
    exact isOpen

theorem Answered.createQuery (answered : Answered state) {connection : Nat}
    {thread : ClientThread} (runs : state.process.thread connection = some thread)
    (handles : thread.phase.handles = true) (other : thread.phase.registers = false)
    (noticed : state.firstPackage connection ≠ none) (path : String) (priority now : Nat) :
    Answered { state with
      process := { state.process with
        master := state.process.master.createQuery config path priority thread.clientSocket now
        submitter := Function.update state.process.submitter state.process.master.nextQueryId
          (some connection) } } := by
  refine ⟨answered.attributed.createQuery runs handles path priority now, ?_, ?_,
    answered.received, answered.threads, answered.known, answered.silent, answered.ackFirst⟩
  · intro socket client present isOpen
    have kept : Master.Commands (fun _ => True) state.process.master
        (state.process.master.createQuery config path priority thread.clientSocket now, []) :=
      Master.commands_createQuery config path priority thread.clientSocket now
    exact answered.workers socket client (kept.registered socket present) isOpen
  · intro queryId query client block isOpen
    rcases Master.block_createQuery block with ⟨rfl, rfl⟩ | ⟨older, oldBlock⟩
    · have own := answered.attributed.numbers.threads connection thread runs handles
      have same : state.process.descriptor thread.clientSocket = some (.connection client) :=
        isOpen
      obtain rfl : client = connection := by
        simpa [MasterProcess.Own, same] using own
      exact ⟨noticed, answered.threads client thread runs same other⟩
    · exact answered.queries queryId query client oldBlock isOpen

theorem Answered.setThread (answered : Answered state) {connection : Nat}
    {thread : ClientThread} (moved : ClientThread)
    (runs : state.process.thread connection = some thread)
    (attributed : (state.process.setThread connection moved).Attributed)
    (socket : moved.clientSocket = thread.clientSocket)
    (received : ∀ sender package, moved.phase ≠ .received sender package)
    (greeted : state.process.descriptor thread.clientSocket = some (.connection connection) →
      Greeted (state.firstPackage connection) (state.written connection))
    (acknowledges : thread.phase.registers = true → ∀ client,
      state.process.descriptor thread.clientSocket = some (.connection client) →
        .workerAck ∈ state.written client) :
    Answered { state with process := state.process.setThread connection moved } := by
  refine ⟨attributed, ?_, answered.queries, ?_, ?_, answered.known, answered.silent,
    answered.ackFirst⟩
  · intro number client present isOpen
    rcases answered.workers number client present isOpen with
      ⟨runner, before, runnerThread, ran, first, registers, named⟩ | acked
    · by_cases same : runner = connection
      · subst same
        obtain rfl : runnerThread = thread := Option.some.inj (ran.symm.trans runs)
        right
        rw [← named] at isOpen
        exact acknowledges registers client isOpen
      · left
        exact ⟨runner, before, runnerThread, (Function.update_of_ne same ..).trans ran, first,
          registers, named⟩
    · exact Or.inr acked
  · intro other otherThread sender package otherRuns phase
    rcases MasterProcess.setThread_cases otherRuns with ⟨rfl, rfl⟩ | ⟨-, otherRuns⟩
    · exact absurd phase (received sender package)
    · exact answered.received other otherThread sender package otherRuns phase
  · intro other otherThread otherRuns isOpen registers
    rcases MasterProcess.setThread_cases otherRuns with ⟨rfl, rfl⟩ | ⟨-, otherRuns⟩
    · apply greeted
      rw [← socket]
      exact isOpen
    · exact answered.threads other otherThread otherRuns isOpen registers

/-- A thread that registers no Worker may start or end the first part of its handler. -/
theorem Answered.setHalfway (answered : Answered state) {connection : Nat} (halfway : Bool)
    (other : ∀ thread, state.process.thread connection = some thread →
      thread.phase.registers = false) :
    Answered { state with
      halfway := Function.update state.halfway connection halfway } := by
  refine ⟨answered.attributed, ?_, answered.queries, answered.received, answered.threads,
    answered.known, answered.silent, answered.ackFirst⟩
  intro socket client present isOpen
  rcases answered.workers socket client present isOpen with
    ⟨runner, before, thread, runs, first, registers, named⟩ | acked
  · left
    have different : runner ≠ connection := by
      rintro rfl
      rw [other thread runs] at registers
      cases registers
    exact ⟨runner, before, thread, runs, (Function.update_of_ne different ..).trans first,
      registers, named⟩
  · exact Or.inr acked

/-- A thread receives a package of its own client. -/
theorem Answered.notice (answered : Answered state) {connection : Nat} {thread : ClientThread}
    {package : ClientPackage} (runs : state.process.thread connection = some thread)
    (receiving : thread.phase = .receiving)
    (attributed : (state.process.setThread connection
      { thread with phase := .received connection package }).Attributed) :
    Answered { state with
      process := state.process.setThread connection
        { thread with phase := .received connection package }
      firstPackage := Function.update state.firstPackage connection
        (state.firstPackage connection <|> some package) } := by
  have kept : ∀ other, state.firstPackage other ≠ none →
      Function.update state.firstPackage connection
        (state.firstPackage connection <|> some package) other = state.firstPackage other := by
    intro other noticed
    by_cases same : other = connection
    · subst same
      rw [Function.update_self]
      cases first : state.firstPackage other with
      | none => exact absurd first noticed
      | some package => rfl
    · exact Function.update_of_ne same ..
  refine ⟨attributed, ?_, ?_, ?_, ?_, ?_, ?_, ?_⟩
  · intro socket client present isOpen
    rcases answered.workers socket client present isOpen with
      ⟨runner, before, runnerThread, ran, first, registers, named⟩ | acked
    · left
      have different : runner ≠ connection := by
        rintro rfl
        obtain rfl : runnerThread = thread := Option.some.inj (ran.symm.trans runs)
        rw [receiving] at registers
        cases registers
      exact ⟨runner, before, runnerThread, (Function.update_of_ne different ..).trans ran,
        first, registers, named⟩
    · exact Or.inr acked
  · intro queryId query client block isOpen
    obtain ⟨noticed, greeted⟩ := answered.queries queryId query client block isOpen
    unfold Ready
    dsimp only
    rw [kept client noticed]
    exact ⟨noticed, greeted⟩
  · intro other otherThread sender otherPackage otherRuns phase
    by_cases same : other = connection
    · subst same
      dsimp only
      rw [Function.update_self]
      cases state.firstPackage other <;> simp
    · simp only [MasterProcess.setThread, Function.update_of_ne same] at otherRuns
      dsimp only
      rw [Function.update_of_ne same]
      exact answered.received other otherThread sender otherPackage otherRuns phase
  · intro other otherThread otherRuns isOpen registers
    rcases MasterProcess.setThread_cases otherRuns with ⟨rfl, rfl⟩ | ⟨different, otherRuns⟩
    · have greeted := answered.threads other thread runs isOpen (by rw [receiving]; rfl)
      dsimp only
      rw [Function.update_self]
      cases first : state.firstPackage other with
      | none =>
          rintro _ ⟨⟩ registered
          rw [show package.registers = false from registers] at registered
          cases registered
      | some earlier =>
          rw [first] at greeted
          exact greeted
    · dsimp only
      rw [Function.update_of_ne different]
      exact answered.threads other otherThread otherRuns isOpen registers
  · intro other noticed
    by_cases same : other = connection
    · rw [same]
      exact answered.attributed.numbers.known connection thread runs
    · apply answered.known other
      dsimp only at noticed
      rwa [Function.update_of_ne same] at noticed
  · intro other unnoticed
    apply answered.silent
    by_contra noticed
    exact noticed ((kept other noticed).symm.trans unnoticed)
  · intro other
    by_cases noticed : state.firstPackage other = none
    · dsimp only
      rw [answered.silent other noticed]
      exact ackFirst_nil
    · dsimp only
      rw [kept other noticed]
      exact answered.ackFirst other

/-- Closing a number takes nothing away from what the numbers say. -/
theorem Answered.close (answered : Answered state) (number : Nat) :
    Answered { state with
      process := { state.process with
        descriptor := Function.update state.process.descriptor number none } } := by
  have earlier : ∀ socket connection,
      Function.update state.process.descriptor number none socket =
          some (.connection connection) →
        state.process.descriptor socket = some (.connection connection) := by
    intro socket connection isOpen
    by_cases same : socket = number
    · rw [same, Function.update_self] at isOpen
      cases isOpen
    · rwa [Function.update_of_ne same] at isOpen
  refine ⟨answered.attributed.close number, ?_, ?_, answered.received, ?_, answered.known,
    answered.silent, answered.ackFirst⟩
  · intro socket connection present isOpen
    exact answered.workers socket connection present (earlier socket connection isOpen)
  · intro queryId query connection block isOpen
    exact answered.queries queryId query connection block (earlier _ connection isOpen)
  · intro connection thread runs isOpen other
    exact answered.threads connection thread runs (earlier _ connection isOpen) other

theorem Answered.accept (answered : Answered state) {number : Nat}
    (fresh : state.process.AcceptsFresh (.accept number))
    (noWorker : state.process.master.worker number = none) :
    Answered { state with
      process := { state.process with
        descriptor := Function.update state.process.descriptor number
          (some (.connection state.process.accepted))
        starting := some number } } := by
  refine ⟨answered.attributed.accept fresh, ?_, ?_, answered.received, ?_, answered.known,
    answered.silent, answered.ackFirst⟩
  · intro socket connection present isOpen
    rcases update_eq_some_cases isOpen with ⟨rfl, -⟩ | ⟨-, isOpen⟩
    · exact absurd noWorker present
    · exact answered.workers socket connection present isOpen
  · intro queryId query connection block isOpen
    rcases update_eq_some_cases isOpen with ⟨same, -⟩ | ⟨-, isOpen⟩
    · exact absurd same
        (Master.socket_ne_of_findQueryBySocket answered.attributed.listed fresh.1 block)
    · exact answered.queries queryId query connection block isOpen
  · intro connection thread runs isOpen other
    rcases update_eq_some_cases isOpen with ⟨-, same⟩ | ⟨-, isOpen⟩
    · obtain rfl : connection = state.process.accepted := OpenFile.connection.inj same
      exact absurd (answered.attributed.numbers.known _ thread runs) (Nat.lt_irrefl _)
    · exact answered.threads connection thread runs isOpen other

theorem Answered.spawn (answered : Answered state) {number : Nat}
    (starting : state.process.starting = some number) :
    Answered { state with
      process := { state.process with
        accepted := state.process.accepted + 1
        starting := none
        thread := Function.update state.process.thread state.process.accepted
          (some ⟨number, false, false, .receiving⟩) } } := by
  have unnoticed : state.firstPackage state.process.accepted = none := by
    by_contra noticed
    exact Nat.lt_irrefl _ (answered.known _ noticed)
  refine ⟨answered.attributed.spawn starting, ?_, answered.queries, ?_, ?_, ?_,
    answered.silent, answered.ackFirst⟩
  · intro socket connection present isOpen
    rcases answered.workers socket connection present isOpen with
      ⟨runner, before, thread, runs, rest⟩ | acked
    · left
      refine ⟨runner, Nat.lt_succ_of_lt before, thread, ?_, rest⟩
      exact (Function.update_of_ne (Nat.ne_of_lt before) ..).trans runs
    · exact Or.inr acked
  · intro connection thread sender package runs phase
    rcases update_eq_some_cases runs with ⟨-, rfl⟩ | ⟨-, older⟩
    · cases phase
    · exact answered.received connection thread sender package older phase
  · intro connection thread runs isOpen other
    rcases update_eq_some_cases runs with ⟨rfl, -⟩ | ⟨-, older⟩
    · intro package member
      have noticed : state.firstPackage state.process.accepted = some package := member
      rw [unnoticed] at noticed
      cases noticed
    · exact answered.threads connection thread older isOpen other
  · intro connection noticed
    exact Nat.lt_succ_of_lt (answered.known connection noticed)

theorem Answered.skip (answered : Answered state) :
    Answered { state with
      process := { state.process with
        accepted := state.process.accepted + 1
        starting := none } } := by
  refine ⟨answered.attributed.skip, ?_, answered.queries, answered.received, answered.threads,
    ?_, answered.silent, answered.ackFirst⟩
  · intro socket connection present isOpen
    rcases answered.workers socket connection present isOpen with
      ⟨runner, before, rest⟩ | acked
    · exact Or.inl ⟨runner, Nat.lt_succ_of_lt before, rest⟩
    · exact Or.inr acked
  · intro connection noticed
    exact Nat.lt_succ_of_lt (answered.known connection noticed)

/-- `create_worker` for a thread that sends OP_WORKER_ACK next. -/
theorem Answered.register (answered : Answered state) {connection workerId : Nat}
    {thread : ClientThread} (runs : state.process.thread connection = some thread)
    (registers : thread.phase.registers = true) :
    Answered (state.register connection workerId thread.clientSocket) := by
  have kept : ∀ socket, state.Acknowledging socket →
      (state.register connection workerId thread.clientSocket).Acknowledging socket := by
    rintro socket ⟨runner, before, runnerThread, ran, first, rest⟩
    refine ⟨runner, before, runnerThread, ran, ?_, rest⟩
    by_cases same : runner = connection
    · subst same
      exact Function.update_self ..
    · exact (Function.update_of_ne same ..).trans first
  have tables : state.process.master.KeepsSockets
      (state.process.master.createWorker workerId thread.clientSocket, []) :=
    .of_eq rfl rfl
  refine ⟨answered.attributed.keep tables, ?_, answered.queries, answered.received,
    answered.threads, answered.known, answered.silent, answered.ackFirst⟩
  intro socket client present isOpen
  by_cases same : socket = thread.clientSocket
  · left
    have before := answered.attributed.numbers.known connection thread runs
    exact ⟨connection, before, thread, runs, Function.update_self .., registers, same.symm⟩
  · have registered : state.process.master.worker socket ≠ none := by
      have still : (state.process.master.createWorker workerId thread.clientSocket).worker socket ≠
        none := present
      simpa only [Master.createWorker, Function.update_of_ne same] using still
    exact (answered.workers socket client registered isOpen).imp (kept socket) id

end Process

section Sendings

/-- What is said to a Query Control may be sent on the number of its query. -/
theorem Answered.allowed_of_query (answered : Answered state) {queryId : Nat}
    {query : QueryControlBlock} {sending : Sending}
    (block : state.process.master.query queryId = some query)
    (socket : query.socketFd = sending.socket)
    (quiet : (MasterPackage.about sending).commands = false) :
    state.Allowed sending.socket (.about sending) where
  ready connection isOpen := by
    rw [← socket] at isOpen
    obtain ⟨noticed, greeted⟩ := answered.queries queryId query connection block isOpen
    exact ⟨noticed, Or.inr greeted⟩
  commanded connection isOpen commands := by
    rw [quiet] at commands
    cases commands

/-- A command may be sent to a registered Worker whose OP_WORKER_ACK is not due. -/
theorem Answered.allowed_of_worker (answered : Answered state) {sending : Sending}
    (registered : state.process.master.worker sending.socket ≠ none)
    (acknowledged : ¬state.Acknowledging sending.socket) :
    state.Allowed sending.socket (.about sending) := by
  have acked : ∀ connection,
      state.process.descriptor sending.socket = some (.connection connection) →
        .workerAck ∈ state.written connection := by
    intro connection isOpen
    exact (answered.workers _ connection registered isOpen).resolve_left acknowledged
  refine ⟨?_, fun connection isOpen _ => acked connection isOpen⟩
  intro connection isOpen
  refine ⟨?_, Or.inr fun _ _ _ => acked connection isOpen⟩
  intro unnoticed
  have sent := acked connection isOpen
  rw [answered.silent connection unnoticed] at sent
  cases sent

theorem Answered.allowed_reports (answered : Answered state)
    {effect : Master × List Outgoing} (sockets : state.process.master.KeepsSockets effect)
    (commands : Master.Commands (fun socket => ¬state.Acknowledging socket)
      state.process.master effect) :
    ∀ sending ∈ effect.2.map Sending.report,
      state.Allowed sending.socket (.about sending) := by
  intro sending member
  obtain ⟨outgoing, sent, rfl⟩ := List.mem_map.mp member
  cases outgoing with
  | toWorker socket message =>
      obtain ⟨acknowledged, registered⟩ := commands.commanded socket message sent
      exact answered.allowed_of_worker registered acknowledged
  | toQueryControl socket message =>
      obtain ⟨query, block, same⟩ := sockets.recipients socket message sent
      exact answered.allowed_of_query block same rfl

theorem Answered.allowed_sendings (answered : Answered state) (socket : Nat) (sent : Bool)
    {package : ClientPackage}
    (inTime : package = .queryControlDisconnection →
      ∀ queryId ∈ state.process.master.findQueryBySocket socket,
        ∀ target ∈ state.process.master.preemptionTarget queryId, ¬state.Acknowledging target) :
    ∀ sending ∈ state.process.master.sendings socket sent package,
      state.Allowed sending.socket (.about sending) := by
  cases package with
  | queryControlDisconnection =>
      apply answered.allowed_reports
      · exact Master.keepsSockets_handleQueryControlDisconnection sent socket
      · exact Master.commands_handleQueryControlDisconnection sent socket (inTime rfl)
  | readMessage queryId =>
      intro sending member
      simp only [Master.sendings, Master.manageReadMessageFromWorker] at member
      split at member
      · split at member
        · cases member
        · rename_i query found
          rw [List.mem_singleton] at member
          subst member
          exact answered.allowed_of_query (Master.query_of_findRunning found).2 rfl rfl
      · cases member
  | endQuery queryId =>
      apply answered.allowed_reports
      · exact Master.keepsSockets_manageWorkerEndQuery socket queryId
      · exact Master.commands_manageWorkerEndQuery socket queryId
  | workerDisconnection =>
      apply answered.allowed_reports
      · exact Master.keepsSockets_handleWorkerDisconnection socket
      · exact Master.commands_handleWorkerDisconnection socket
  | storageError queryId reason =>
      apply answered.allowed_reports
      · exact Master.keepsSockets_handleErrorFromStorage socket queryId reason
      · exact Master.commands_handleErrorFromStorage socket queryId reason
  | queryHandshake => intro sending member; cases member
  | queryFilePath path priority => intro sending member; cases member
  | workerHandshake workerId => intro sending member; cases member
  | evictRes queryId programCounter => intro sending member; cases member
  | unknown => intro sending member; cases member

theorem Answered.allowed_threadSendings (answered : Answered state) {thread : ClientThread}
    (sent : Bool)
    (inTime : leaves thread = true →
      ∀ queryId ∈ state.process.master.findQueryBySocket thread.clientSocket,
        ∀ target ∈ state.process.master.preemptionTarget queryId, ¬state.Acknowledging target) :
    ∀ sending ∈ MasterProcess.threadSendings state.process.master thread sent,
      state.Allowed sending.socket (.about sending) := by
  unfold MasterProcess.threadSendings
  split
  · rename_i sender package phase
    apply answered.allowed_sendings
    rintro rfl
    exact inTime (by simp [leaves, phase])
  · rename_i phase
    split
    · rename_i isQueryControl
      apply answered.allowed_reports
      · exact Master.keepsSockets_handleQueryControlDisconnection sent _
      · apply Master.commands_handleQueryControlDisconnection
        exact inTime (by simp [leaves, phase, isQueryControl])
    · split
      · apply answered.allowed_reports
        · exact Master.keepsSockets_handleWorkerDisconnection _
        · exact Master.commands_handleWorkerDisconnection _
      · intro sending member
        cases member
  · intro sending member
    cases member

/-- What a step says about queries may be sent, in time. -/
theorem Answered.allowed_step (answered : Answered state) {label : MasterStep}
    (inTime : state.AnswersInTime (.step label)) :
    ∀ sending ∈ state.process.sendings config label,
      state.Allowed sending.socket (.about sending) := by
  cases label with
  | handle connection now sent =>
      simp only [MasterProcess.sendings]
      cases runs : state.process.thread connection with
      | none =>
          intro sending member
          cases member
      | some thread => exact answered.allowed_threadSendings sent (inTime thread runs)
  | dispatch connection sent =>
      apply answered.allowed_reports
      · exact Master.keepsSockets_tryDispatch config sent
      · exact Master.commands_tryDispatch config sent inTime
  | checkPreemption sent =>
      apply answered.allowed_reports
      · exact Master.keepsSockets_checkPreemption sent
      · exact Master.commands_checkPreemption sent inTime
  | accept number => intro sending member; cases member
  | spawn created => intro sending member; cases member
  | receive connection package => intro sending member; cases member
  | close connection => intro sending member; cases member
  | aging now => intro sending member; cases member

end Sendings

section Steps

/-- Everything may be commanded: only the worker table counts. -/
def Anywhere (_socket : Nat) : Prop :=
  True

theorem registered_handlePackage {master : Master} (thread : ClientThread) (now : Nat)
    (sent : Bool) {package : ClientPackage} (other : package.registers = false) (socket : Nat)
    (present : (MasterProcess.handlePackage config master thread now sent package).master.worker
      socket ≠ none) : master.worker socket ≠ none := by
  cases package with
  | queryHandshake => exact present
  | queryFilePath path priority =>
      have kept : Master.Commands Anywhere master _ :=
        Master.commands_createQuery config path priority thread.clientSocket now
      exact kept.registered socket present
  | queryControlDisconnection =>
      have kept : Master.Commands Anywhere master _ :=
        Master.commands_handleQueryControlDisconnection sent thread.clientSocket
          fun _ _ _ _ => trivial
      exact kept.registered socket present
  | workerHandshake workerId =>
      have zero : workerId = 0 := by
        simpa [ClientPackage.registers] using other
      simp only [MasterProcess.handlePackage, if_pos zero] at present
      exact present
  | readMessage queryId =>
      simp only [MasterProcess.handlePackage] at present
      split at present
      · exact present
      · exact present
  | endQuery queryId =>
      have kept : Master.Commands Anywhere master _ :=
        Master.commands_manageWorkerEndQuery thread.clientSocket queryId
      exact kept.registered socket present
  | evictRes queryId programCounter =>
      have kept : Master.Commands Anywhere master _ :=
        Master.commands_manageWorkerEvictResponse thread.clientSocket queryId programCounter now
      exact kept.registered socket present
  | workerDisconnection =>
      have kept : Master.Commands Anywhere master _ :=
        Master.commands_handleWorkerDisconnection thread.clientSocket
      exact kept.registered socket present
  | storageError queryId reason =>
      have kept : Master.Commands Anywhere master _ :=
        Master.commands_handleErrorFromStorage thread.clientSocket queryId reason
      exact kept.registered socket present
  | unknown => exact present

theorem registered_handleDisconnection {master : Master} (thread : ClientThread) (sent : Bool)
    (socket : Nat)
    (present : (MasterProcess.handleDisconnection master thread sent).master.worker socket ≠
      none) : master.worker socket ≠ none := by
  unfold MasterProcess.handleDisconnection at present
  split at present
  · have kept : Master.Commands Anywhere master _ :=
      Master.commands_handleQueryControlDisconnection sent thread.clientSocket
        fun _ _ _ _ => trivial
    exact kept.registered socket present
  · split at present
    · have kept : Master.Commands Anywhere master _ :=
        Master.commands_handleWorkerDisconnection thread.clientSocket
      exact kept.registered socket present
    · exact present

theorem Answered.handled (answered : Answered state) {connection now : Nat} {sent : Bool}
    {handled : Handled}
    (effect : state.process.handled config connection now sent = some handled)
    (whole : ∀ thread, state.process.thread connection = some thread →
      thread.phase.registers = false) :
    Answered { state with
      process := { state.process with
        master := handled.master
        submitter := state.process.submitting connection } } := by
  obtain ⟨thread, runs, handles, -, -, done⟩ := MasterProcess.handled_cases effect
  have other := whole thread runs
  rcases done with ⟨sender, package, phase, rfl⟩ | ⟨phase, rfl⟩
  · by_cases creates : ∃ path priority, package = .queryFilePath path priority
    · obtain ⟨path, priority, rfl⟩ := creates
      obtain rfl := answered.attributed.senders connection thread sender _ runs phase
      have submitting : state.process.submitting sender =
          Function.update state.process.submitter state.process.master.nextQueryId
            (some sender) := by
        simp [MasterProcess.submitting, runs, phase]
      rw [submitting]
      exact answered.createQuery runs handles other
        (answered.received sender thread sender _ runs phase) path priority now
    · have notCreating : ∀ path priority, package ≠ .queryFilePath path priority := by
        intro path priority same
        exact creates ⟨path, priority, same⟩
      rw [MasterProcess.submitting_of_not_created]
      · apply answered.keep
          (MasterProcess.keeps_handlePackage thread now sent notCreating).tables
        rw [phase] at other
        exact registered_handlePackage thread now sent other
      · intro found earlier path priority foundRuns foundPhase
        obtain rfl := Option.some.inj (runs.symm.trans foundRuns)
        rw [phase] at foundPhase
        cases foundPhase
        exact notCreating path priority rfl
  · rw [MasterProcess.submitting_of_not_created]
    · apply answered.keep (MasterProcess.keeps_handleDisconnection thread sent).tables
      exact registered_handleDisconnection thread sent
    · intro found earlier path priority foundRuns foundPhase
      obtain rfl := Option.some.inj (runs.symm.trans foundRuns)
      rw [phase] at foundPhase
      cases foundPhase

theorem Answered.advance (answered : Answered state) {connection : Nat} {thread : ClientThread}
    (moved : ClientThread) (runs : state.process.thread connection = some thread)
    (other : thread.phase.registers = false)
    (attributed : (state.process.setThread connection moved).Attributed)
    (socket : moved.clientSocket = thread.clientSocket)
    (received : ∀ sender package, moved.phase ≠ .received sender package) :
    Answered { state with process := state.process.setThread connection moved } := by
  apply answered.setThread moved runs attributed socket received
  · intro isOpen
    exact answered.threads connection thread runs isOpen other
  · intro registers
    rw [other] at registers
    cases registers

theorem acceptsFresh_of_inTime {label : MasterStep}
    (inTime : state.AnswersInTime (.step label)) : state.process.AcceptsFresh label := by
  cases label with
  | accept number => exact inTime.1
  | _ => exact ⟨trivial, trivial⟩

/-- A step that is not cut into parts, and registers no Worker. -/
theorem Answered.follow (answered : Answered state) {label : MasterStep}
    {after : HandshakeProcess} (inTime : state.AnswersInTime (.step label))
    (whole : ∀ connection now sent, label = .handle connection now sent →
      ∀ thread, state.process.thread connection = some thread → thread.phase.registers = false)
    (step : state.follow config label = some after) : Answered after := by
  obtain ⟨process, base, rfl⟩ := Option.map_eq_some_iff.mp step
  have wrote : Answered { state with
      written := state.record ((state.process.sendings config label).map fun sending =>
        (sending.socket, .about sending)) } := by
    apply answered.write
    intro entry member
    obtain ⟨sending, sends, rfl⟩ := List.mem_map.mp member
    exact answered.allowed_step inTime sending sends
  have transition := MasterProcess.transition_of_next base
  have attributed := answered.attributed.step (acceptsFresh_of_inTime inTime) transition
  cases transition with
  | accept number lowest => exact wrote.accept inTime.1 inTime.2
  | spawn number starting => exact wrote.spawn starting
  | reject number starting => exact wrote.skip.close number
  | disconnect connection thread runs phase =>
      apply wrote.advance { thread with phase := .disconnected } runs _ attributed rfl
      · intro sender package received
        cases received
      · rw [phase]
        rfl
  | receive connection sender thread package runs phase isOpen =>
      have own := answered.attributed.numbers.threads connection thread runs
        (by rw [phase]; rfl)
      obtain rfl : sender = connection := by
        simpa [MasterProcess.Own, isOpen] using own
      have noticed : state.noticed (.receive sender (some package)) =
          Function.update state.firstPackage sender
            (state.firstPackage sender <|> some package) := by
        simp [HandshakeProcess.noticed, runs, isOpen]
      rw [noticed]
      exact wrote.notice runs phase attributed
  | handle connection now sent handled effect =>
      obtain ⟨thread, runs, handles, socket, phases, -⟩ := MasterProcess.handled_cases effect
      have other := whole connection now sent rfl thread runs
      have tables := wrote.handled effect (whole connection now sent rfl)
      exact tables.advance handled.thread runs other attributed socket phases
  | dispatch connection sent thread runs phase =>
      have kept : Master.Commands Anywhere state.process.master _ :=
        Master.commands_tryDispatch config sent fun _ _ _ _ => trivial
      have tables := wrote.keep (Master.keepsSockets_tryDispatch config sent) kept.registered
      apply tables.advance { thread with phase := .receiving } runs _ attributed rfl
      · intro sender package received
        cases received
      · rw [phase]
        rfl
  | close connection thread runs closes =>
      have closed := wrote.close thread.clientSocket
      apply closed.advance { thread with phase := MasterProcess.afterClose thread.phase } runs _
        attributed rfl
      · intro sender package received
        cases phase : thread.phase <;> simp [MasterProcess.afterClose, phase] at received
      · cases phase : thread.phase <;> rw [phase] at closes <;> first | rfl | cases closes
  | aging now =>
      have kept : Master.Commands Anywhere state.process.master _ :=
        Master.commands_agingPass config now
      exact wrote.keep (Master.keepsSockets_agingPass config now) kept.registered
  | checkPreemption sent =>
      have kept : Master.Commands Anywhere state.process.master _ :=
        Master.commands_checkPreemption sent fun _ _ _ _ => trivial
      exact wrote.keep (Master.keepsSockets_checkPreemption sent) kept.registered

theorem registers_of_not_received {phase : ClientPhase}
    (received : ∀ sender package, phase ≠ .received sender package) :
    phase.registers = false := by
  rw [← Bool.not_eq_true, ClientPhase.registers_iff]
  rintro ⟨sender, workerId, -, same⟩
  exact received sender _ same

theorem thread_setThread_self {process : MasterProcess} {connection : Nat}
    {moved thread : ClientThread}
    (runs : (process.setThread connection moved).thread connection = some thread) :
    thread = moved := by
  simpa [MasterProcess.setThread] using runs.symm

theorem setThread_self {process : MasterProcess} {connection : Nat} {thread : ClientThread}
    (runs : process.thread connection = some thread) :
    process.setThread connection thread = process := by
  unfold MasterProcess.setThread
  rw [← runs, Function.update_eq_self]

theorem Answered.handle (answered : Answered state) {connection now : Nat} {sent : Bool}
    {after : HandshakeProcess}
    (inTime : state.AnswersInTime (.step (.handle connection now sent)))
    (step : state.handle config connection now sent = some after) : Answered after := by
  unfold HandshakeProcess.handle at step
  split at step
  · cases step
  · rename_i thread runs
    have whole : thread.phase.registers = false → ∀ other otherNow otherSent,
        MasterStep.handle connection now sent = .handle other otherNow otherSent →
          ∀ found, state.process.thread other = some found →
            found.phase.registers = false := by
      rintro other _ _ _ ⟨⟩ found foundRuns
      obtain rfl := Option.some.inj (runs.symm.trans foundRuns)
      exact other
    split at step
    · cases step
    · rename_i sender path priority phase
      split at step
      · obtain ⟨followed, follows, rfl⟩ := Option.map_eq_some_iff.mp step
        have kept := answered.follow inTime (whole (by rw [phase]; rfl)) follows
        apply kept.setHalfway
        intro moved movedRuns
        obtain ⟨process, base, rfl⟩ := Option.map_eq_some_iff.mp follows
        cases MasterProcess.transition_of_next base with
        | handle _ _ _ handled effect =>
            obtain ⟨-, -, -, -, phases, -⟩ := MasterProcess.handled_cases effect
            rw [thread_setThread_self movedRuns]
            exact registers_of_not_received phases
      · cases step
    · rename_i sender workerId phase
      split at step
      · rename_i zero
        apply answered.follow inTime (whole _) step
        rw [phase, zero]
        rfl
      · rename_i nonzero
        split at step
        · cases step
        · obtain rfl := Option.some.inj step
          apply answered.register runs
          exact ClientPhase.registers_iff.mpr ⟨sender, workerId, nonzero, phase⟩
    · rename_i noHandshake _ noRegistration
      apply answered.follow inTime (whole _) step
      rw [← Bool.not_eq_true, ClientPhase.registers_iff]
      rintro ⟨sender, workerId, -, phase⟩
      exact noRegistration sender workerId phase

/-- The answer of a thread to its own client may be sent. -/
theorem Answered.allowed_answer (answered : Answered state) {connection sender : Nat}
    {thread : ClientThread} {received : ClientPackage} {package : MasterPackage}
    (runs : state.process.thread connection = some thread)
    (phase : thread.phase = .received sender received)
    (kind : package = .workerAck ∨ thread.phase.registers = false)
    (quiet : package.commands = false) : state.Allowed thread.clientSocket package where
  ready client isOpen := by
    have own := answered.attributed.numbers.threads connection thread runs
      (by rw [phase]; rfl)
    obtain rfl : client = connection := by
      simpa [MasterProcess.Own, isOpen] using own
    refine ⟨answered.received client thread sender received runs phase, ?_⟩
    exact kind.imp id (answered.threads client thread runs isOpen)
  commanded client isOpen commands := by
    rw [quiet] at commands
    cases commands

theorem Answered.sends (answered : Answered state) {sent : Bool}
    {thread : ClientThread} {package : MasterPackage}
    (allowed : state.Allowed thread.clientSocket package) :
    Answered { state with
      written :=
        if sent then state.record [(thread.clientSocket, package)] else state.written } := by
  cases sent with
  | false => exact answered
  | true =>
      apply answered.write
      intro entry member
      rw [List.mem_singleton] at member
      rw [member]
      exact allowed

theorem attributed_setThread (attributed : state.process.Attributed) {connection : Nat}
    {thread : ClientThread} (moved : ClientThread)
    (runs : state.process.thread connection = some thread)
    (handles : thread.phase.handles = true)
    (socket : moved.clientSocket = thread.clientSocket)
    (received : ∀ sender package, moved.phase ≠ .received sender package) :
    (state.process.setThread connection moved).Attributed := by
  apply attributed.setThread moved runs socket (fun _ => handles)
  intro sender package phase
  exact absurd phase (received sender package)

theorem Answered.acknowledge (answered : Answered state) {connection sender workerId : Nat}
    {sent : Bool} {thread : ClientThread} (moved : ClientThread)
    (runs : state.process.thread connection = some thread)
    (phase : thread.phase = .received sender (.workerHandshake workerId))
    (arrives : state.process.descriptor thread.clientSocket ≠ none → sent = true)
    (socket : moved.clientSocket = thread.clientSocket)
    (received : ∀ sender package, moved.phase ≠ .received sender package) :
    Answered (state.reply connection sent .workerAck moved false) := by
  have allowed : state.Allowed thread.clientSocket .workerAck :=
    answered.allowed_answer runs phase (Or.inl rfl) rfl
  have wrote : Answered { state with
      written := if sent then state.record [(thread.clientSocket, .workerAck)]
        else state.written } :=
    answered.sends allowed
  have acked : ∀ client,
      state.process.descriptor thread.clientSocket = some (.connection client) →
        .workerAck ∈ (if sent then state.record [(thread.clientSocket, .workerAck)]
          else state.written) client := by
    intro client isOpen
    rw [if_pos (arrives (by simp [isOpen]))]
    apply List.mem_append_right
    simp [isOpen]
  have attributed := attributed_setThread answered.attributed moved runs (by rw [phase]; rfl)
    socket received
  have advanced := wrote.setThread moved runs attributed socket received
    (fun isOpen _ _ _ => acked connection isOpen) (fun _ => acked)
  unfold HandshakeProcess.reply
  rw [socket]
  apply advanced.setHalfway
  intro found foundRuns
  rw [thread_setThread_self foundRuns]
  exact registers_of_not_received received

theorem Answered.answer (answered : Answered state) {connection : Nat} {sent : Bool}
    {after : HandshakeProcess} (inTime : state.AnswersInTime (.answer connection sent))
    (step : state.answer connection sent = some after) : Answered after := by
  unfold HandshakeProcess.answer at step
  split at step
  · cases step
  · rename_i thread runs
    split at step
    · rename_i sender phase
      obtain rfl := Option.some.inj step
      have other : thread.phase.registers = false := by
        rw [phase]
        rfl
      have wrote : Answered { state with
          written := if sent then state.record [(thread.clientSocket, .queryHandshake)]
            else state.written } :=
        answered.sends (answered.allowed_answer runs phase (Or.inr other) rfl)
      have moves := attributed_setThread answered.attributed
        { thread with isQueryControl := thread.isQueryControl || sent, phase := .receiving } runs
        (by rw [phase]; rfl) rfl (by simp)
      apply (wrote.advance _ runs other moves rfl (by simp)).setHalfway
      intro found foundRuns
      rw [thread_setThread_self foundRuns]
      rfl
    · rename_i sender path priority phase
      split at step
      · cases step
      · obtain rfl := Option.some.inj step
        have other : thread.phase.registers = false := by
          rw [phase]
          rfl
        have wrote : Answered { state with
            written := if sent then state.record [(thread.clientSocket, .connectionOk)]
              else state.written } :=
          answered.sends (answered.allowed_answer runs phase (Or.inr other) rfl)
        unfold HandshakeProcess.reply
        rw [setThread_self runs]
        apply wrote.setHalfway
        intro found foundRuns
        obtain rfl := Option.some.inj (runs.symm.trans foundRuns)
        exact other
    · rename_i sender workerId phase
      split at step
      · rename_i due
        obtain rfl := Option.some.inj step
        apply answered.acknowledge _ runs phase
        · exact inTime thread runs (ClientPhase.registers_iff.mpr ⟨sender, workerId, due.1, phase⟩)
        · cases sent <;> rfl
        · cases sent <;> simp
      · cases step
    · cases step

theorem Answered.next (answered : Answered state) {label : HandshakeStep}
    {after : HandshakeProcess} (inTime : state.AnswersInTime label)
    (step : next config state label = some after) : Answered after := by
  cases label with
  | answer connection sent => exact answered.answer inTime step
  | step label =>
      cases label with
      | handle connection now sent => exact answered.handle inTime step
      | _ => exact answered.follow inTime (fun _ _ _ same => by cases same) step

end Steps

section Runs

/-- In a run whose steps meet the condition, OP_WORKER_ACK is the first package that the Master
sends on the connection of a Worker, and precedes every OP_WORKER_START_QUERY and
OP_WORKER_PREEMPT_REQ on every connection. -/
theorem ackFirst_of_reachable
    (reachable : ((system config).guarded AnswersInTime).Reachable state) (connection : Nat) :
    AckFirst (state.firstPackage connection) (state.written connection) := by
  have answered : Answered state := by
    apply reachable.invariant
    · intro first starts
      exact Answered.of_starts starts
    · rintro before label after answered ⟨inTime, step⟩
      exact answered.next inTime step
  exact answered.ackFirst connection

/-- The numbers below 5 are open, and nothing has been sent. -/
def begun : HandshakeProcess :=
  ⟨MasterProcess.started, fun _ => false, fun _ => none, fun _ => []⟩

theorem starts_begun : Starts begun where
  process := MasterProcess.starts_started
  halfway _ := rfl
  firstPackage _ := rfl
  written _ := rfl

/-- A Query Control submits a query, and its thread is about to run `try_dispatch`. -/
def submitted : List HandshakeStep :=
  [.step (.accept 5), .step (.spawn true), .step (.receive 0 (some .queryHandshake)),
    .answer 0 true, .step (.receive 0 (some (.queryFilePath "Q0" 3))), .answer 0 true,
    .step (.handle 0 1 true)]

/-- A Worker connects next, and `create_worker` has put it into `idle_list`. -/
def registered : List HandshakeStep :=
  submitted ++ [.step (.accept 6), .step (.spawn true),
    .step (.receive 1 (some (.workerHandshake 1))), .step (.handle 1 2 true)]

/-- The thread of the Worker sends OP_WORKER_ACK before the other thread dispatches. -/
theorem ackFirst_registered :
    ∃ state, ((system (.mergeSorting .fifo 0)).guarded AnswersInTime).Reachable state ∧
      state.written 1 =
        [.workerAck, .about (.report (.toWorker 6 (.startQuery 0 0 "Q0")))] ∧
      AckFirst (state.firstPackage 1) (state.written 1) := by
  have summary : (TransitionSystem.runNext (TransitionSystem.guardedNext
      (next (.mergeSorting .fifo 0)) AnswersInTime) begun
      (registered ++ [.answer 1 true, .step (.dispatch 0 true)])).map
        (fun state => state.written 1) =
      some [.workerAck, .about (.report (.toWorker 6 (.startQuery 0 0 "Q0")))] := by
    decide +kernel
  obtain ⟨state, ends, written⟩ := Option.map_eq_some_iff.mp summary
  have reachable : ((system (.mergeSorting .fifo 0)).guarded AnswersInTime).Reachable state :=
    ⟨begun, _, starts_begun, TransitionSystem.run_of_runGuarded ends⟩
  exact ⟨state, reachable, written, ackFirst_of_reachable reachable 1⟩

/-- The other thread dispatches first, and the Worker gets OP_WORKER_START_QUERY as the answer to
its handshake. -/
theorem query_overtakes_ack :
    ∃ state, (system (.mergeSorting .fifo 0)).Reachable state ∧
      state.firstPackage 1 = some (.workerHandshake 1) ∧
      state.written 1 =
        [.about (.report (.toWorker 6 (.startQuery 0 0 "Q0"))), .workerAck] ∧
      ¬AckFirst (state.firstPackage 1) (state.written 1) := by
  have summary : (TransitionSystem.runNext (next (.mergeSorting .fifo 0)) begun
      (registered ++ [.step (.dispatch 0 true), .answer 1 true])).map
        (fun state => (state.firstPackage 1, state.written 1)) =
      some (some (.workerHandshake 1),
        [.about (.report (.toWorker 6 (.startQuery 0 0 "Q0"))), .workerAck]) := by
    decide +kernel
  obtain ⟨state, ends, facts⟩ := Option.map_eq_some_iff.mp summary
  simp only [Prod.mk.injEq] at facts
  refine ⟨state, ⟨begun, _, starts_begun, TransitionSystem.run_of_runNext ends⟩, facts.1,
    facts.2, ?_⟩
  intro ackFirst
  have noAck := ackFirst.commands [] _ [.workerAck] facts.2 rfl
  cases noAck

end Runs

end HandshakeProcess

end MasterOfFiles
