import MasterOfFiles.MasterConnections
import MasterOfFiles.MasterSockets

/-!
# Who receives what is said about a query

A query that was canceled while it ran stays in the tables after its number was closed, and so
does a query whose sender never completed the handshake.  What is said about such a query, and
the search for the query of a connection, go by the number; this file follows the numbers back
to the connections that submitted the queries.
-/

namespace MasterOfFiles

namespace MasterProcess

variable {config : MasterConfig} {process after : MasterProcess}

/-- The messages about queries that a step sends to Query Controls. -/
def delivered (config : MasterConfig) (process : MasterProcess) : MasterStep → List Delivery
  | .handle connection now sent =>
    ((process.handled config connection now sent).map Handled.sent).getD []
  | .dispatch _ sent => deliveries (process.master.tryDispatch config sent).2
  | .checkPreemption sent => deliveries (process.master.checkPreemption sent).2
  | _ => []

/-- The message is sent on the connection that submitted the query, or on a number that is not
open. -/
def RightRecipient (process : MasterProcess) (delivery : Delivery) : Prop :=
  process.descriptor delivery.socket = none ∨
    ∃ connection, process.submitter delivery.queryId = some connection ∧
      process.descriptor delivery.socket = some (.connection connection)

/-- The step runs `handle_query_control_disconnection` for a connection. -/
def Disconnects (process : MasterProcess) (connection : Nat) : MasterStep → Prop
  | .handle runner _ _ => runner = connection ∧
      ∃ thread, process.thread connection = some thread ∧
        ((∃ sender, thread.phase = .received sender .queryControlDisconnection) ∨
          (thread.phase = .disconnected ∧ thread.isQueryControl = true))
  | _ => False

/-- What a step says about a query goes to its submitter, and the disconnection of a connection
changes no query but its own. -/
structure ReachesRight (config : MasterConfig) (process : MasterProcess)
    (label : MasterStep) : Prop where
  messages : ∀ delivery ∈ process.delivered config label, process.RightRecipient delivery
  disconnections : ∀ connection, process.Disconnects connection label →
    ∀ after, next config process label = some after →
      ∀ queryId, after.master.query queryId ≠ process.master.query queryId →
        process.submitter queryId = some connection

/-- No query in the tables has the number that `accept` returns. -/
def AcceptsForgotten (process : MasterProcess) : MasterStep → Prop
  | .accept number => process.master.findQueryBySocket number = none
  | _ => True

instance (process : MasterProcess) : DecidablePred process.AcceptsForgotten
  | .accept number => inferInstanceAs (Decidable (process.master.findQueryBySocket number = none))
  | .spawn _ | .receive _ _ | .handle _ _ _ | .dispatch _ _ | .close _ | .aging _
  | .checkPreemption _ => isTrue trivial

/-- `accept` returns a number that neither a query in the tables nor a thread that still handles
packages has. -/
def AcceptsFresh (process : MasterProcess) (label : MasterStep) : Prop :=
  process.AcceptsForgotten label ∧ process.AcceptsUnused ClientPhase.handles label

instance (process : MasterProcess) : DecidablePred process.AcceptsFresh :=
  fun label => inferInstanceAs
    (Decidable (process.AcceptsForgotten label ∧
      AcceptsUnused ClientPhase.handles process label))

section Attribution

/-- The queries with the number were all submitted by the connection. -/
def SubmittedBy (process : MasterProcess) (connection number : Nat) : Prop :=
  ∀ queryId query, process.master.query queryId = some query → query.socketFd = number →
    process.submitter queryId = some connection

/-- The numbers in the tables lead back to the connections that the queries came from. -/
structure Attributed (process : MasterProcess) : Prop where
  numbers : OwnNumbers ClientPhase.handles process
  listed : process.master.Listed
  senders : ∀ connection thread sender package, process.thread connection = some thread →
    thread.phase = .received sender package → sender = connection
  queries : ∀ queryId query, process.master.query queryId = some query →
    ∃ connection, process.submitter queryId = some connection ∧
      process.Own connection query.socketFd
  threads : ∀ connection thread, process.thread connection = some thread →
    thread.phase.handles = true → process.SubmittedBy connection thread.clientSocket
  starting : ∀ number, process.starting = some number →
    process.SubmittedBy process.accepted number
  distinct : ∀ connection thread other otherThread, process.thread connection = some thread →
    process.thread other = some otherThread → thread.phase.handles = true →
      otherThread.phase.handles = true → thread.clientSocket = otherThread.clientSocket →
        connection = other
  reserved : ∀ number connection thread, process.starting = some number →
    process.thread connection = some thread → thread.phase.handles = true →
      thread.clientSocket ≠ number

theorem Attributed.of_starts (starts : Starts process) : Attributed process := by
  have noQuery : ∀ queryId, process.master.query queryId = none := by
    intro queryId
    rw [starts.master]
    rfl
  refine ⟨OwnNumbers.of_starts starts, ?_, ?_, ?_, ?_, ?_, ?_, ?_⟩
  · intro queryId block
    exact absurd (noQuery queryId) block
  · intro connection thread sender package runs
    rw [starts.thread] at runs
    cases runs
  · intro queryId query block
    rw [noQuery] at block
    cases block
  · intro connection thread runs
    rw [starts.thread] at runs
    cases runs
  · intro number starting
    rw [starts.starting] at starting
    cases starting
  · intro connection thread other otherThread runs
    rw [starts.thread] at runs
    cases runs
  · intro number connection thread starting
    rw [starts.starting] at starting
    cases starting

theorem Attributed.keep (attributed : Attributed process) {effect : Master × List Outgoing}
    (keeps : process.master.KeepsSockets effect) :
    Attributed { process with master := effect.1 } := by
  have submitted : ∀ connection number, process.SubmittedBy connection number →
      SubmittedBy { process with master := effect.1 } connection number := by
    intro connection number submitted queryId query block socket
    obtain ⟨old, oldBlock, same⟩ := keeps.sockets queryId query block
    exact submitted queryId old oldBlock (same.trans socket)
  refine ⟨attributed.numbers.of_eq rfl rfl rfl rfl, keeps.listed attributed.listed,
    attributed.senders, ?_, ?_, ?_, attributed.distinct, attributed.reserved⟩
  · intro queryId query block
    obtain ⟨old, oldBlock, same⟩ := keeps.sockets queryId query block
    obtain ⟨connection, submitter, own⟩ := attributed.queries queryId old oldBlock
    rw [same] at own
    exact ⟨connection, submitter, own⟩
  · intro connection thread runs handles
    exact submitted _ _ (attributed.threads connection thread runs handles)
  · intro number starting
    exact submitted _ _ (attributed.starting number starting)

theorem Attributed.createQuery (attributed : Attributed process) {connection : Nat}
    {thread : ClientThread} (runs : process.thread connection = some thread)
    (handles : thread.phase.handles = true) (path : String) (priority now : Nat) :
    Attributed { process with
      master := process.master.createQuery config path priority thread.clientSocket now
      submitter := Function.update process.submitter process.master.nextQueryId
        (some connection) } := by
  have submitted : ∀ other number, (number = thread.clientSocket → other = connection) →
      process.SubmittedBy other number →
      SubmittedBy { process with
        master := process.master.createQuery config path priority thread.clientSocket now
        submitter := Function.update process.submitter process.master.nextQueryId
          (some connection) } other number := by
    intro other number same submitted queryId query block socket
    rcases Master.block_createQuery block with ⟨rfl, rfl⟩ | ⟨older, oldBlock⟩
    · rw [same socket.symm]
      exact Function.update_self ..
    · exact (Function.update_of_ne older ..).trans (submitted queryId query oldBlock socket)
  refine ⟨attributed.numbers.of_eq rfl rfl rfl rfl,
    attributed.listed.createQuery config path priority _ now, attributed.senders, ?_, ?_, ?_,
    attributed.distinct, attributed.reserved⟩
  · intro queryId query block
    rcases Master.block_createQuery block with ⟨rfl, rfl⟩ | ⟨older, oldBlock⟩
    · exact ⟨connection, Function.update_self ..,
        attributed.numbers.threads connection thread runs handles⟩
    · obtain ⟨submitter, submits, own⟩ := attributed.queries queryId query oldBlock
      exact ⟨submitter, (Function.update_of_ne older ..).trans submits, own⟩
  · intro other otherThread otherRuns otherHandles
    apply submitted _ _ _ (attributed.threads other otherThread otherRuns otherHandles)
    intro same
    exact attributed.distinct other otherThread connection thread otherRuns runs otherHandles
      handles same
  · intro number starting
    apply submitted _ _ _ (attributed.starting number starting)
    intro same
    exact absurd same.symm (attributed.reserved number connection thread starting runs handles)

theorem Attributed.setThread (attributed : Attributed process) {connection : Nat}
    {thread : ClientThread} (moved : ClientThread)
    (runs : process.thread connection = some thread)
    (socket : moved.clientSocket = thread.clientSocket)
    (handles : moved.phase.handles = true → thread.phase.handles = true)
    (sent : ∀ sender package, moved.phase = .received sender package → sender = connection) :
    Attributed (process.setThread connection moved) := by
  have earlier : ∀ other otherThread,
      (process.setThread connection moved).thread other = some otherThread →
        otherThread.phase.handles = true →
          ∃ before, process.thread other = some before ∧ before.phase.handles = true ∧
            before.clientSocket = otherThread.clientSocket := by
    intro other otherThread otherRuns otherHandles
    rcases MasterProcess.setThread_cases otherRuns with ⟨rfl, rfl⟩ | ⟨-, otherRuns⟩
    · exact ⟨thread, runs, handles otherHandles, socket.symm⟩
    · exact ⟨otherThread, otherRuns, otherHandles, rfl⟩
  refine ⟨?_, attributed.listed, ?_, attributed.queries, ?_, attributed.starting, ?_, ?_⟩
  · exact attributed.numbers.setThread moved runs socket handles
  · intro other otherThread sender package otherRuns phase
    rcases MasterProcess.setThread_cases otherRuns with ⟨rfl, rfl⟩ | ⟨-, otherRuns⟩
    · exact sent sender package phase
    · exact attributed.senders other otherThread sender package otherRuns phase
  · intro other otherThread otherRuns otherHandles
    obtain ⟨before, beforeRuns, beforeHandles, sameSocket⟩ :=
      earlier other otherThread otherRuns otherHandles
    rw [← sameSocket]
    exact attributed.threads other before beforeRuns beforeHandles
  · intro first firstThread second secondThread firstRuns secondRuns firstHandles secondHandles
      same
    obtain ⟨firstBefore, firstRan, firstHandled, firstSocket⟩ :=
      earlier first firstThread firstRuns firstHandles
    obtain ⟨secondBefore, secondRan, secondHandled, secondSocket⟩ :=
      earlier second secondThread secondRuns secondHandles
    apply attributed.distinct first firstBefore second secondBefore firstRan secondRan
      firstHandled secondHandled
    rw [firstSocket, secondSocket, same]
  · intro number other otherThread starting otherRuns otherHandles
    obtain ⟨before, beforeRuns, beforeHandles, sameSocket⟩ :=
      earlier other otherThread otherRuns otherHandles
    rw [← sameSocket]
    exact attributed.reserved number other before starting beforeRuns beforeHandles

/-- Closing a number takes nothing away from what the numbers say. -/
theorem Attributed.close (attributed : Attributed process) (number : Nat) :
    Attributed { process with
      descriptor := Function.update process.descriptor number none } := by
  refine ⟨attributed.numbers.close number, attributed.listed, attributed.senders, ?_,
    attributed.threads, attributed.starting, attributed.distinct, attributed.reserved⟩
  intro queryId query block
  obtain ⟨connection, submitter, own⟩ := attributed.queries queryId query block
  exact ⟨connection, submitter, own.update_none number rfl⟩

theorem Attributed.accept (attributed : Attributed process) {number : Nat}
    (fresh : process.AcceptsFresh (.accept number)) :
    Attributed { process with
      descriptor := Function.update process.descriptor number (some (.connection process.accepted))
      starting := some number } := by
  have forgotten : ∀ queryId query, process.master.query queryId = some query →
      query.socketFd ≠ number := by
    intro queryId query block
    exact Master.socket_ne_of_findQueryBySocket attributed.listed fresh.1 block
  refine ⟨attributed.numbers.accept fresh.2, attributed.listed, attributed.senders, ?_,
    attributed.threads, ?_, attributed.distinct, ?_⟩
  · intro queryId query block
    obtain ⟨connection, submitter, own⟩ := attributed.queries queryId query block
    exact ⟨connection, submitter, own.update_of_ne (forgotten queryId query block) rfl⟩
  · rintro _ ⟨⟩ queryId query block socket
    exact absurd socket (forgotten queryId query block)
  · rintro _ connection thread ⟨⟩ runs handles
    exact fresh.2 connection (attributed.numbers.known connection thread runs) thread runs handles

theorem Attributed.spawn (attributed : Attributed process) {number : Nat}
    (starting : process.starting = some number) :
    Attributed { process with
      accepted := process.accepted + 1
      starting := none
      thread := Function.update process.thread process.accepted
        (some ⟨number, false, false, .receiving⟩) } := by
  refine ⟨attributed.numbers.spawn starting, attributed.listed, ?_, attributed.queries, ?_, ?_,
    ?_, ?_⟩
  · intro connection thread sender package runs phase
    rcases update_eq_some_cases runs with ⟨-, rfl⟩ | ⟨-, older⟩
    · cases phase
    · exact attributed.senders connection thread sender package older phase
  · intro connection thread runs handles
    rcases update_eq_some_cases runs with ⟨rfl, rfl⟩ | ⟨-, older⟩
    · exact attributed.starting number starting
    · exact attributed.threads connection thread older handles
  · rintro _ ⟨⟩
  · intro first firstThread second secondThread firstRuns secondRuns firstHandles secondHandles
      same
    rcases update_eq_some_cases firstRuns with ⟨rfl, rfl⟩ | ⟨-, firstOlder⟩
    · rcases update_eq_some_cases secondRuns with ⟨rfl, rfl⟩ | ⟨-, secondOlder⟩
      · rfl
      · exact absurd same.symm
          (attributed.reserved number second secondThread starting secondOlder secondHandles)
    · rcases update_eq_some_cases secondRuns with ⟨rfl, rfl⟩ | ⟨-, secondOlder⟩
      · exact absurd same
          (attributed.reserved number first firstThread starting firstOlder firstHandles)
      · exact attributed.distinct first firstThread second secondThread firstOlder secondOlder
          firstHandles secondHandles same
  · rintro _ connection thread ⟨⟩

theorem Attributed.skip (attributed : Attributed process) :
    Attributed { process with
      accepted := process.accepted + 1
      starting := none } := by
  refine ⟨attributed.numbers.skip, attributed.listed, attributed.senders, attributed.queries,
    attributed.threads, ?_, attributed.distinct, ?_⟩
  · rintro _ ⟨⟩
  · rintro _ connection thread ⟨⟩

/-- A handler keeps the numbers of the queries and sends what it has to say about a query on
the number of the query. -/
structure Handled.Keeps (master : Master) (handled : Handled) : Prop where
  tables : master.KeepsSockets (handled.master, [])
  recipients : ∀ delivery ∈ handled.sent, ∃ query,
    master.query delivery.queryId = some query ∧ query.socketFd = delivery.socket

theorem recipients_deliveries {master : Master} {effect : Master × List Outgoing}
    (keeps : master.KeepsSockets effect) {delivery : Delivery}
    (member : delivery ∈ deliveries effect.2) :
    ∃ query, master.query delivery.queryId = some query ∧ query.socketFd = delivery.socket := by
  obtain ⟨outgoing, sent, kind⟩ := List.mem_filterMap.mp member
  cases outgoing with
  | toWorker socket message => cases kind
  | toQueryControl socket message =>
      cases kind
      exact keeps.recipients socket message sent

theorem Handled.Keeps.of_effect {master : Master} {effect : Master × List Outgoing}
    (keeps : master.KeepsSockets effect) (thread : ClientThread) :
    Handled.Keeps master ⟨effect.1, deliveries effect.2, thread⟩ where
  tables := by
    refine ⟨keeps.sockets, ?_, keeps.listed⟩
    intro socket message member
    cases member
  recipients _ member := recipients_deliveries keeps member

theorem Handled.Keeps.silent {master : Master} {quiet : Master}
    (keeps : master.KeepsSockets (quiet, [])) (thread : ClientThread) :
    Handled.Keeps master ⟨quiet, [], thread⟩ where
  tables := keeps
  recipients _ member := by cases member

theorem keeps_handlePackage {master : Master} (thread : ClientThread) (now : Nat) (sent : Bool)
    {package : ClientPackage} (other : ∀ path priority, package ≠ .queryFilePath path priority) :
    Handled.Keeps master (handlePackage config master thread now sent package) := by
  cases package with
  | queryHandshake => exact .silent (.of_eq rfl rfl) _
  | queryFilePath path priority => exact absurd rfl (other path priority)
  | queryControlDisconnection =>
      exact .of_effect (Master.keepsSockets_handleQueryControlDisconnection sent _) _
  | workerHandshake workerId =>
      simp only [handlePackage]
      split
      · exact .silent (.of_eq rfl rfl) _
      · apply Handled.Keeps.silent
        exact .of_eq rfl rfl
  | readMessage queryId =>
      simp only [handlePackage]
      split
      · rename_i query found
        refine ⟨.of_eq rfl rfl, ?_⟩
        intro delivery member
        rw [List.mem_singleton] at member
        subst member
        exact ⟨query, (Master.query_of_findRunning found).2, rfl⟩
      · exact .silent (.of_eq rfl rfl) _
  | endQuery queryId => exact .of_effect (Master.keepsSockets_manageWorkerEndQuery _ queryId) _
  | evictRes queryId programCounter =>
      exact .silent (Master.keepsSockets_manageWorkerEvictResponse _ queryId programCounter now) _
  | workerDisconnection => exact .of_effect (Master.keepsSockets_handleWorkerDisconnection _) _
  | storageError queryId reason =>
      exact .of_effect (Master.keepsSockets_handleErrorFromStorage _ queryId reason) _
  | unknown => exact .silent (.of_eq rfl rfl) _

theorem keeps_handleDisconnection {master : Master} (thread : ClientThread) (sent : Bool) :
    Handled.Keeps master (handleDisconnection master thread sent) := by
  unfold handleDisconnection
  split
  · exact .of_effect (Master.keepsSockets_handleQueryControlDisconnection sent _) _
  · split
    · exact .of_effect (Master.keepsSockets_handleWorkerDisconnection _) _
    · exact .silent (.of_eq rfl rfl) _

theorem submitting_of_not_created {connection : Nat}
    (other : ∀ thread sender path priority, process.thread connection = some thread →
      thread.phase ≠ .received sender (.queryFilePath path priority)) :
    process.submitting connection = process.submitter := by
  unfold submitting
  split
  · rename_i sender path priority phase
    obtain ⟨thread, runs, phase⟩ := Option.map_eq_some_iff.mp phase
    exact absurd phase (other thread sender path priority runs)
  · rfl

theorem Attributed.handle (attributed : Attributed process) {connection now : Nat} {sent : Bool}
    {handled : Handled} (effect : process.handled config connection now sent = some handled) :
    Attributed { process.setThread connection handled.thread with
      master := handled.master
      submitter := process.submitting connection } := by
  obtain ⟨thread, runs, handles, socket, phases, done⟩ := handled_cases effect
  have moves : ∀ {master : Master} {submitter : Nat → Option Nat},
      Attributed { process with master := master, submitter := submitter } →
        Attributed { process.setThread connection handled.thread with
          master := master
          submitter := submitter } := by
    intro master submitter tables
    apply tables.setThread handled.thread runs socket (fun _ => handles)
    intro sender package phase
    exact absurd phase (phases sender package)
  apply moves
  rcases done with ⟨sender, package, phase, rfl⟩ | ⟨phase, rfl⟩
  · by_cases creates : ∃ path priority, package = .queryFilePath path priority
    · obtain ⟨path, priority, rfl⟩ := creates
      obtain rfl := attributed.senders connection thread sender _ runs phase
      have submitting : process.submitting sender = Function.update process.submitter
          process.master.nextQueryId (some sender) := by
        simp [MasterProcess.submitting, runs, phase]
      rw [submitting]
      exact attributed.createQuery runs handles path priority now
    · have other : ∀ path priority, package ≠ .queryFilePath path priority := by
        intro path priority same
        exact creates ⟨path, priority, same⟩
      rw [submitting_of_not_created]
      · exact attributed.keep (keeps_handlePackage thread now sent other).tables
      · intro found sender path priority foundRuns foundPhase
        rw [runs] at foundRuns
        obtain rfl := Option.some.inj foundRuns
        rw [phase] at foundPhase
        cases foundPhase
        exact other path priority rfl
  · rw [submitting_of_not_created]
    · exact attributed.keep (keeps_handleDisconnection thread sent).tables
    · intro found sender path priority foundRuns foundPhase
      rw [runs] at foundRuns
      obtain rfl := Option.some.inj foundRuns
      rw [phase] at foundPhase
      cases foundPhase

theorem Attributed.step (attributed : Attributed process) {label : MasterStep}
    (fresh : process.AcceptsFresh label)
    (transition : Transition config process label after) : Attributed after := by
  cases transition with
  | accept number lowest => exact attributed.accept fresh
  | spawn number starting => exact attributed.spawn starting
  | reject number starting => exact attributed.skip.close number
  | disconnect connection thread runs phase =>
      apply attributed.setThread { thread with phase := .disconnected } runs rfl
      · intro _
        rw [phase]
        rfl
      · intro sender package received
        cases received
  | receive connection sender thread package runs phase isOpen =>
      have handles : thread.phase.handles = true := by
        rw [phase]
        rfl
      apply attributed.setThread { thread with phase := .received sender package } runs rfl
      · intro _
        exact handles
      · rintro other otherPackage ⟨⟩
        have own := attributed.numbers.threads connection thread runs handles
        unfold Own at own
        rw [isOpen] at own
        simpa using own
  | handle connection now sent handled effect => exact attributed.handle effect
  | dispatch connection sent thread runs phase =>
      have tables := attributed.keep (Master.keepsSockets_tryDispatch config sent)
      apply tables.setThread { thread with phase := .receiving } runs rfl
      · intro _
        rw [phase]
        rfl
      · intro sender package received
        cases received
  | close connection thread runs closes =>
      have closed := attributed.close thread.clientSocket
      apply closed.setThread { thread with phase := afterClose thread.phase } runs rfl
      · cases phase : thread.phase <;> simp [afterClose, ClientPhase.handles]
      · intro sender package received
        cases phase : thread.phase <;> simp [afterClose, phase] at received
  | aging now => exact attributed.keep (Master.keepsSockets_agingPass config now)
  | checkPreemption sent => exact attributed.keep (Master.keepsSockets_checkPreemption sent)

/-- A message that goes to the number of its query goes to its submitter. -/
theorem Attributed.rightRecipient (attributed : Attributed process) {delivery : Delivery}
    (sent : ∃ query, process.master.query delivery.queryId = some query ∧
      query.socketFd = delivery.socket) : process.RightRecipient delivery := by
  obtain ⟨query, block, socket⟩ := sent
  obtain ⟨connection, submitter, own⟩ := attributed.queries delivery.queryId query block
  rw [socket] at own
  rcases own with closed | own
  · exact Or.inl closed
  · exact Or.inr ⟨connection, submitter, own⟩

theorem recipients_handled {connection now : Nat} {sent : Bool} {handled : Handled}
    (effect : process.handled config connection now sent = some handled) {delivery : Delivery}
    (member : delivery ∈ handled.sent) :
    ∃ query, process.master.query delivery.queryId = some query ∧
      query.socketFd = delivery.socket := by
  obtain ⟨thread, -, -, -, -, done⟩ := handled_cases effect
  rcases done with ⟨sender, package, -, rfl⟩ | ⟨-, rfl⟩
  · by_cases creates : ∃ path priority, package = .queryFilePath path priority
    · obtain ⟨path, priority, rfl⟩ := creates
      cases member
    · apply (keeps_handlePackage thread now sent _).recipients delivery member
      intro path priority same
      exact creates ⟨path, priority, same⟩
  · exact (keeps_handleDisconnection thread sent).recipients delivery member

theorem Attributed.messages (attributed : Attributed process) {label : MasterStep}
    {delivery : Delivery} (member : delivery ∈ process.delivered config label) :
    process.RightRecipient delivery := by
  apply attributed.rightRecipient
  cases label with
  | handle connection now sent =>
      simp only [delivered] at member
      cases effect : process.handled config connection now sent with
      | none =>
          rw [effect] at member
          cases member
      | some handled =>
          rw [effect] at member
          exact recipients_handled effect member
  | dispatch connection sent =>
      exact recipients_deliveries (Master.keepsSockets_tryDispatch config sent) member
  | checkPreemption sent =>
      exact recipients_deliveries (Master.keepsSockets_checkPreemption sent) member
  | accept number => cases member
  | spawn created => cases member
  | receive connection package => cases member
  | close connection => cases member
  | aging now => cases member

/-- The tables after a step that runs `handle_query_control_disconnection`. -/
theorem master_of_disconnects {connection : Nat} {label : MasterStep}
    (disconnects : process.Disconnects connection label)
    (step : next config process label = some after) :
    ∃ thread sent, process.thread connection = some thread ∧ thread.phase.handles = true ∧
      after.master =
        (process.master.handleQueryControlDisconnection sent thread.clientSocket).1 := by
  cases label with
  | handle runner now sent =>
      obtain ⟨rfl, thread, runs, phase⟩ := disconnects
      refine ⟨thread, sent, runs, ?_⟩
      simp only [next, handled, runs] at step
      rcases phase with ⟨sender, phase⟩ | ⟨phase, isQueryControl⟩
      · simp only [phase] at step
        cases step
        exact ⟨by rw [phase]; rfl, rfl⟩
      · simp only [phase] at step
        cases step
        refine ⟨by rw [phase]; rfl, ?_⟩
        simp [handleDisconnection, isQueryControl]
  | accept number => cases disconnects
  | spawn created => cases disconnects
  | receive connection package => cases disconnects
  | dispatch connection sent => cases disconnects
  | close connection => cases disconnects
  | aging now => cases disconnects
  | checkPreemption sent => cases disconnects

theorem Attributed.reachesRight (attributed : Attributed process) (label : MasterStep) :
    process.ReachesRight config label where
  messages _ member := attributed.messages member
  disconnections connection disconnects after step queryId changed := by
    obtain ⟨thread, sent, runs, handles, tables⟩ := master_of_disconnects disconnects step
    rw [tables] at changed
    obtain ⟨query, block, socket⟩ :=
      Master.block_of_findQueryBySocket (Master.found_of_changed changed)
    exact attributed.threads connection thread runs handles queryId query block socket

end Attribution

section Runs

/-- In a run in which no query in the tables and no thread that still handles packages has a
number that `accept` returns, everything reaches the right Query Control. -/
theorem reachesRight_of_reachable
    (reachable : ((system config).guarded AcceptsFresh).Reachable process)
    (label : MasterStep) : process.ReachesRight config label := by
  have attributed : Attributed process := by
    apply reachable.invariant
    · intro first starts
      exact Attributed.of_starts starts
    · intro before label after attributed step
      exact attributed.step step.1 (transition_of_next step.2)
  exact attributed.reachesRight label

/-- A Worker connects under number 5 and a Query Control under number 6.  The query of the
Query Control is running when it disconnects, and stays in the tables until the Worker answers
the preemption.  The next Query Control is accepted under number 6. -/
def reusedWhileCanceled : List MasterStep :=
  [.accept 5, .spawn true, .receive 0 (some (.workerHandshake 1)), .handle 0 0 true,
    .dispatch 0 true, .accept 6, .spawn true, .receive 1 (some .queryHandshake),
    .handle 1 0 true, .receive 1 (some (.queryFilePath "Q0" 3)), .handle 1 1 true,
    .dispatch 1 true, .receive 1 none, .handle 1 2 true, .close 1, .close 1, .accept 6,
    .spawn true, .receive 2 (some .queryHandshake), .handle 2 3 true,
    .receive 0 (some (.readMessage 0)), .receive 2 none]

/-- What the Worker reads for the first query is sent to the second Query Control, and the
disconnection of the second one drops the query of the first. -/
theorem leaks_to_later_connection :
    ∃ process, (system (.mergeSorting .fifo 0)).Reachable process ∧
      process.submitter 0 = some 1 ∧ process.descriptor 6 = some (.connection 2) ∧
      ¬process.ReachesRight (.mergeSorting .fifo 0) (.handle 0 4 true) ∧
      ¬process.ReachesRight (.mergeSorting .fifo 0) (.handle 2 4 true) := by
  have summary : (TransitionSystem.runNext (next (.mergeSorting .fifo 0)) started
      reusedWhileCanceled).map (fun process => ((process.submitter 0, process.descriptor 6),
        process.delivered (.mergeSorting .fifo 0) (.handle 0 4 true), process.thread 2,
        (process.master.query 0).isSome,
        (next (.mergeSorting .fifo 0) process (.handle 2 4 true)).map fun after =>
          (after.master.query 0).isSome)) =
        some ((some 1, some (.connection 2)), [⟨6, 0⟩], some ⟨6, true, false, .disconnected⟩,
          true, some false) := by
    decide +kernel
  obtain ⟨process, ends, facts⟩ := Option.map_eq_some_iff.mp summary
  simp only [Prod.mk.injEq] at facts
  obtain ⟨⟨submitter, later⟩, messages, thread, before, dropped⟩ := facts
  refine ⟨process, ⟨started, _, starts_started, TransitionSystem.run_of_runNext ends⟩, submitter,
    later, ?_, ?_⟩
  · intro right
    have misdirected := right.messages ⟨6, 0⟩ (by rw [messages]; simp)
    simp [RightRecipient, submitter, later] at misdirected
  · intro right
    obtain ⟨after, step, gone⟩ := Option.map_eq_some_iff.mp dropped
    have disconnects : process.Disconnects 2 (.handle 2 4 true) :=
      ⟨rfl, _, thread, Or.inr ⟨rfl, rfl⟩⟩
    have changed : after.master.query 0 ≠ process.master.query 0 := by
      intro same
      rw [same, before] at gone
      cases gone
    have own := right.disconnections 2 disconnects after step 0 changed
    rw [submitter] at own
    cases own

/-- The Worker answers the preemption before the next Query Control is accepted. -/
def reusedAfterEviction : List MasterStep :=
  [.accept 5, .spawn true, .receive 0 (some (.workerHandshake 1)), .handle 0 0 true,
    .dispatch 0 true, .accept 6, .spawn true, .receive 1 (some .queryHandshake),
    .handle 1 0 true, .receive 1 (some (.queryFilePath "Q0" 3)), .handle 1 1 true,
    .dispatch 1 true, .receive 1 none, .handle 1 2 true, .close 1, .close 1,
    .receive 0 (some (.evictRes 0 4)), .handle 0 3 true, .dispatch 0 true, .accept 6,
    .spawn true, .receive 2 (some (.queryFilePath "Q1" 3)), .handle 2 4 true, .dispatch 2 true,
    .receive 0 (some (.endQuery 1))]

theorem reachesRight_reusedAfterEviction :
    ∃ process, ((system (.mergeSorting .fifo 0)).guarded AcceptsFresh).Reachable process ∧
      process.delivered (.mergeSorting .fifo 0) (.handle 0 5 true) = [⟨6, 1⟩] ∧
      process.descriptor 6 = some (.connection 2) ∧
      process.ReachesRight (.mergeSorting .fifo 0) (.handle 0 5 true) := by
  have summary : (TransitionSystem.runNext (TransitionSystem.guardedNext
      (next (.mergeSorting .fifo 0)) AcceptsFresh) started
      reusedAfterEviction).map (fun process =>
        (process.delivered (.mergeSorting .fifo 0) (.handle 0 5 true), process.descriptor 6)) =
        some ([⟨6, 1⟩], some (.connection 2)) := by
    decide +kernel
  obtain ⟨process, ends, facts⟩ := Option.map_eq_some_iff.mp summary
  simp only [Prod.mk.injEq] at facts
  have reachable : ((system (.mergeSorting .fifo 0)).guarded AcceptsFresh).Reachable process :=
    ⟨started, _, starts_started, TransitionSystem.run_of_runGuarded ends⟩
  exact ⟨process, reachable, facts.1, facts.2, reachesRight_of_reachable reachable _⟩

end Runs

end MasterProcess

end MasterOfFiles
