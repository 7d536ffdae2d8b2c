import MasterOfFiles.MasterHandlers
import MasterOfFiles.TransitionSystem

/-!
# The connections of the Master

The accept loop of `main`, one `handle_client` thread for each accepted connection and the
aging thread, over the table of descriptor numbers.  A number that was closed is free again,
`accept` returns the lowest free one, and a `recv` on a number that is not open fails.  The
disconnection handlers close `client_socket`, and `handle_client` closes it once more after its
loop.  A connection is known by its place in the order of acceptance, and so is its thread.  A
number that is registered as a Worker a second time names the later registration.
-/

namespace MasterOfFiles

/-- What an open number stands for: a file that the Master opens at its start (the standard
streams, the log and the listening socket), or an accepted connection. -/
inductive OpenFile
  | startup
  | connection (connection : Nat)
deriving DecidableEq

/-- The packages that `handle_client` tells apart, as far as the handlers read them. -/
inductive ClientPackage
  | queryHandshake
  | queryFilePath (path : String) (priority : Nat)
  | queryControlDisconnection
  | workerHandshake (workerId : Nat)
  | readMessage (queryId : Nat)
  | endQuery (queryId : Nat)
  | evictRes (queryId programCounter : Nat)
  | workerDisconnection
  | storageError (queryId : Nat) (reason : String)
  | unknown
deriving DecidableEq

/-- Where a `handle_client` thread stands.  `closing` is the `close` of a disconnection handler
that a package asked for, `closingLast` the one that follows a failed `package_receive`, and
`exiting` the one after the loop. -/
inductive ClientPhase
  | receiving
  | received (sender : Nat) (package : ClientPackage)
  | dispatching
  | closing
  | disconnected
  | closingLast
  | exiting
  | ended
deriving DecidableEq

namespace ClientPhase

/-- The next step of the thread is `close(client_socket)`. -/
def closes : ClientPhase → Bool
  | closing | closingLast | exiting => true
  | receiving | received _ _ | dispatching | disconnected | ended => false

/-- The thread has not returned from `handle_client`. -/
def runs : ClientPhase → Bool
  | ended => false
  | receiving | received _ _ | dispatching | closing | disconnected | closingLast | exiting =>
    true

/-- The thread may still handle a package or a disconnection. -/
def handles : ClientPhase → Bool
  | receiving | received _ _ | dispatching | closing | disconnected => true
  | closingLast | exiting | ended => false

end ClientPhase

/-- The locals of `handle_client`. -/
structure ClientThread where
  clientSocket : Nat
  isQueryControl : Bool
  isWorker : Bool
  phase : ClientPhase
deriving DecidableEq

/-- A message about a query to a Query Control, with the number it is sent on. -/
structure Delivery where
  socket : Nat
  queryId : Nat
deriving DecidableEq

/-- The messages to Query Controls among those that a handler sends. -/
def deliveries (sent : List Outgoing) : List Delivery :=
  sent.filterMap fun outgoing =>
    match outgoing with
    | .toWorker _ _ => none
    | .toQueryControl socket message => some ⟨socket, message.queryId⟩

/-- The tables, the descriptor numbers, the number of accepted connections, the number that
`accept` has returned and that has no thread yet, the threads, and the connection that each
query came from. -/
structure MasterProcess where
  master : Master
  descriptor : Nat → Option OpenFile
  accepted : Nat
  starting : Option Nat
  thread : Nat → Option ClientThread
  submitter : Nat → Option Nat

/-- The steps of `main`, of the client threads and of the aging thread.  `sent` says whether
the sends of the step succeed. -/
inductive MasterStep
  | accept (number : Nat)
  | spawn (created : Bool)
  | receive (connection : Nat) (package : Option ClientPackage)
  | handle (connection now : Nat) (sent : Bool)
  | dispatch (connection : Nat) (sent : Bool)
  | close (connection : Nat)
  | aging (now : Nat)
  | checkPreemption (sent : Bool)
deriving DecidableEq

/-- What a handler leaves: the tables, the messages it sent to Query Controls and the locals of
the thread. -/
structure Handled where
  master : Master
  sent : List Delivery
  thread : ClientThread

namespace MasterProcess

/-- The number that `accept` returns. -/
def LowestFree (descriptor : Nat → Option OpenFile) (number : Nat) : Prop :=
  descriptor number = none ∧ ∀ lower < number, descriptor lower ≠ none

instance (descriptor : Nat → Option OpenFile) (number : Nat) :
    Decidable (LowestFree descriptor number) :=
  inferInstanceAs (Decidable (_ ∧ _))

/-- The switch of `handle_client`. -/
def handlePackage (config : MasterConfig) (master : Master) (thread : ClientThread) (now : Nat)
    (sent : Bool) : ClientPackage → Handled
  | .queryHandshake =>
    ⟨master, [], { thread with
      isQueryControl := thread.isQueryControl || sent, phase := .receiving }⟩
  | .queryFilePath path priority =>
    ⟨master.createQuery config path priority thread.clientSocket now, [],
      { thread with phase := .dispatching }⟩
  | .queryControlDisconnection =>
    let effect := master.handleQueryControlDisconnection sent thread.clientSocket
    ⟨effect.1, deliveries effect.2, { thread with phase := .closing }⟩
  | .workerHandshake workerId =>
    if workerId = 0 then ⟨master, [], { thread with phase := .receiving }⟩
    else
      ⟨master.createWorker workerId thread.clientSocket, [],
        if sent then { thread with isWorker := true, phase := .dispatching }
        else { thread with phase := .receiving }⟩
  | .readMessage queryId =>
    match master.findRunning queryId with
    | some query =>
      ⟨master, [⟨query.socketFd, queryId⟩], { thread with phase := .receiving }⟩
    | none => ⟨master, [], { thread with phase := .dispatching }⟩
  | .endQuery queryId =>
    let effect := master.manageWorkerEndQuery thread.clientSocket queryId
    ⟨effect.1, deliveries effect.2, { thread with
      phase :=
        if (master.findWorkerBySocket thread.clientSocket).isNone ∨
            (master.findRunning queryId).isNone
        then .receiving else .dispatching }⟩
  | .evictRes queryId programCounter =>
    ⟨master.manageWorkerEvictResponse thread.clientSocket queryId programCounter now, [],
      { thread with phase := .dispatching }⟩
  | .workerDisconnection =>
    let effect := master.handleWorkerDisconnection thread.clientSocket
    ⟨effect.1, deliveries effect.2, { thread with phase := .closing }⟩
  | .storageError queryId reason =>
    let effect := master.handleErrorFromStorage thread.clientSocket queryId reason
    ⟨effect.1, deliveries effect.2, { thread with phase := .dispatching }⟩
  | .unknown => ⟨master, [], { thread with phase := .receiving }⟩

/-- The branch of `handle_client` for a `package_receive` that failed. -/
def handleDisconnection (master : Master) (thread : ClientThread) (sent : Bool) : Handled :=
  let left := { thread with phase := .closingLast }
  if thread.isQueryControl then
    let effect := master.handleQueryControlDisconnection sent thread.clientSocket
    ⟨effect.1, deliveries effect.2, left⟩
  else if thread.isWorker then
    let effect := master.handleWorkerDisconnection thread.clientSocket
    ⟨effect.1, deliveries effect.2, left⟩
  else ⟨master, [], left⟩

/-- What the handler that a thread is about to run leaves. -/
def handled (config : MasterConfig) (process : MasterProcess) (connection now : Nat)
    (sent : Bool) : Option Handled :=
  match process.thread connection with
  | none => none
  | some thread =>
    match thread.phase with
    | .received _ package =>
      some (handlePackage config process.master thread now sent package)
    | .disconnected => some (handleDisconnection process.master thread sent)
    | _ => none

def setThread (process : MasterProcess) (connection : Nat) (thread : ClientThread) :
    MasterProcess :=
  { process with thread := Function.update process.thread connection (some thread) }

theorem setThread_cases {process : MasterProcess} {connection other : Nat}
    {thread otherThread : ClientThread}
    (runs : (process.setThread connection thread).thread other = some otherThread) :
    (other = connection ∧ otherThread = thread) ∨
      (other ≠ connection ∧ process.thread other = some otherThread) :=
  update_eq_some_cases runs

/-- Who submits the query that the handler of a thread creates, if it creates one. -/
def submitting (process : MasterProcess) (connection : Nat) : Nat → Option Nat :=
  match (process.thread connection).map ClientThread.phase with
  | some (.received sender (.queryFilePath _ _)) =>
    Function.update process.submitter process.master.nextQueryId (some sender)
  | _ => process.submitter

/-- `package_receive` of a thread: it fails, or it takes a package from the connection that is
open under the number. -/
def receive (process : MasterProcess) (connection : Nat) (thread : ClientThread) :
    Option ClientPackage → Option MasterProcess
  | none => some (process.setThread connection { thread with phase := .disconnected })
  | some package =>
    match process.descriptor thread.clientSocket with
    | some (.connection sender) =>
      some (process.setThread connection { thread with phase := .received sender package })
    | _ => none

def afterClose : ClientPhase → ClientPhase
  | .closing => .receiving
  | .closingLast => .exiting
  | _ => .ended

def next (config : MasterConfig) (process : MasterProcess) : MasterStep → Option MasterProcess
  | .accept number =>
    if process.starting = none ∧ LowestFree process.descriptor number then
      some { process with
        descriptor :=
          Function.update process.descriptor number (some (.connection process.accepted))
        starting := some number }
    else none
  | .spawn created =>
    match process.starting with
    | none => none
    | some number =>
      some { process with
        accepted := process.accepted + 1
        starting := none
        descriptor :=
          if created then process.descriptor
          else Function.update process.descriptor number none
        thread :=
          if created then
            Function.update process.thread process.accepted
              (some ⟨number, false, false, .receiving⟩)
          else process.thread }
  | .receive connection package =>
    match process.thread connection with
    | none => none
    | some thread =>
      if thread.phase = .receiving then process.receive connection thread package else none
  | .handle connection now sent =>
    match process.handled config connection now sent with
    | none => none
    | some handled =>
      some { process.setThread connection handled.thread with
        master := handled.master
        submitter := process.submitting connection }
  | .dispatch connection sent =>
    match process.thread connection with
    | none => none
    | some thread =>
      if thread.phase = .dispatching then
        some { process.setThread connection { thread with phase := .receiving } with
          master := (process.master.tryDispatch config sent).1 }
      else none
  | .close connection =>
    match process.thread connection with
    | none => none
    | some thread =>
      if thread.phase.closes then
        some { process.setThread connection { thread with phase := afterClose thread.phase } with
          descriptor := Function.update process.descriptor thread.clientSocket none }
      else none
  | .aging now => some { process with master := process.master.agingPass config now }
  | .checkPreemption sent =>
    some { process with master := (process.master.checkPreemption sent).1 }

structure Starts (process : MasterProcess) : Prop where
  master : process.master = initMaster
  descriptor : ∀ number connection, process.descriptor number ≠ some (.connection connection)
  accepted : process.accepted = 0
  starting : process.starting = none
  thread : ∀ connection, process.thread connection = none

def system (config : MasterConfig) : TransitionSystem MasterProcess MasterStep :=
  .ofNext Starts (next config)

section Steps

variable {config : MasterConfig} {process after : MasterProcess}

/-- What a step can do, with the circumstances in which it can be taken. -/
inductive Transition (config : MasterConfig) (process : MasterProcess) :
    MasterStep → MasterProcess → Prop
  | accept (number : Nat) (lowest : LowestFree process.descriptor number) :
      Transition config process (.accept number)
        { process with
          descriptor :=
            Function.update process.descriptor number (some (.connection process.accepted))
          starting := some number }
  | spawn (number : Nat) (starting : process.starting = some number) :
      Transition config process (.spawn true)
        { process with
          accepted := process.accepted + 1
          starting := none
          thread := Function.update process.thread process.accepted
            (some ⟨number, false, false, .receiving⟩) }
  | reject (number : Nat) (starting : process.starting = some number) :
      Transition config process (.spawn false)
        { process with
          accepted := process.accepted + 1
          starting := none
          descriptor := Function.update process.descriptor number none }
  | disconnect (connection : Nat) (thread : ClientThread)
      (runs : process.thread connection = some thread) (phase : thread.phase = .receiving) :
      Transition config process (.receive connection none)
        (process.setThread connection { thread with phase := .disconnected })
  | receive (connection sender : Nat) (thread : ClientThread) (package : ClientPackage)
      (runs : process.thread connection = some thread) (phase : thread.phase = .receiving)
      (isOpen : process.descriptor thread.clientSocket = some (.connection sender)) :
      Transition config process (.receive connection (some package))
        (process.setThread connection { thread with phase := .received sender package })
  | handle (connection now : Nat) (sent : Bool) (handled : Handled)
      (effect : process.handled config connection now sent = some handled) :
      Transition config process (.handle connection now sent)
        { process.setThread connection handled.thread with
          master := handled.master
          submitter := process.submitting connection }
  | dispatch (connection : Nat) (sent : Bool) (thread : ClientThread)
      (runs : process.thread connection = some thread) (phase : thread.phase = .dispatching) :
      Transition config process (.dispatch connection sent)
        { process.setThread connection { thread with phase := .receiving } with
          master := (process.master.tryDispatch config sent).1 }
  | close (connection : Nat) (thread : ClientThread)
      (runs : process.thread connection = some thread) (closes : thread.phase.closes = true) :
      Transition config process (.close connection)
        { process.setThread connection { thread with phase := afterClose thread.phase } with
          descriptor := Function.update process.descriptor thread.clientSocket none }
  | aging (now : Nat) :
      Transition config process (.aging now)
        { process with master := process.master.agingPass config now }
  | checkPreemption (sent : Bool) :
      Transition config process (.checkPreemption sent)
        { process with master := (process.master.checkPreemption sent).1 }

theorem transition_of_next {label : MasterStep} (step : next config process label = some after) :
    Transition config process label after := by
  cases label with
  | accept number =>
      simp only [next] at step
      split at step
      · rename_i possible
        cases step
        exact Transition.accept number possible.2
      · cases step
  | spawn created =>
      simp only [next] at step
      split at step
      · cases step
      · rename_i number starting
        cases step
        cases created with
        | true => exact Transition.spawn number starting
        | false => exact Transition.reject number starting
  | receive connection package =>
      simp only [next] at step
      split at step
      · cases step
      · rename_i thread runs
        split at step
        · rename_i phase
          unfold MasterProcess.receive at step
          split at step
          · cases step
            exact Transition.disconnect connection thread runs phase
          · split at step
            · rename_i package _ sender isOpen
              cases step
              exact Transition.receive connection sender thread package runs phase isOpen
            · cases step
        · cases step
  | handle connection now sent =>
      simp only [next] at step
      split at step
      · cases step
      · rename_i handled effect
        cases step
        exact Transition.handle connection now sent handled effect
  | dispatch connection sent =>
      simp only [next] at step
      split at step
      · cases step
      · rename_i thread runs
        split at step
        · rename_i phase
          cases step
          exact Transition.dispatch connection sent thread runs phase
        · cases step
  | close connection =>
      simp only [next] at step
      split at step
      · cases step
      · rename_i thread runs
        split at step
        · rename_i closes
          cases step
          exact Transition.close connection thread runs closes
        · cases step
  | aging now =>
      cases step
      exact Transition.aging now
  | checkPreemption sent =>
      cases step
      exact Transition.checkPreemption sent

theorem clientSocket_handlePackage (master : Master) (thread : ClientThread) (now : Nat)
    (sent : Bool) (package : ClientPackage) :
    (handlePackage config master thread now sent package).thread.clientSocket =
      thread.clientSocket := by
  unfold handlePackage
  split <;> try rfl
  all_goals split <;> try rfl
  split <;> rfl

theorem phase_handlePackage (master : Master) (thread : ClientThread) (now : Nat) (sent : Bool)
    (package received : ClientPackage) (sender : Nat) :
    (handlePackage config master thread now sent package).thread.phase ≠
      .received sender received := by
  unfold handlePackage
  split <;> try simp
  · split <;> try simp
    split <;> simp
  · split <;> simp
  · split <;> simp

theorem thread_handleDisconnection (master : Master) (thread : ClientThread) (sent : Bool) :
    (handleDisconnection master thread sent).thread = { thread with phase := .closingLast } := by
  unfold handleDisconnection
  split
  · rfl
  · split
    · rfl
    · rfl

theorem handled_cases {connection now : Nat} {sent : Bool} {handled : Handled}
    (effect : process.handled config connection now sent = some handled) :
    ∃ thread, process.thread connection = some thread ∧ thread.phase.handles = true ∧
      handled.thread.clientSocket = thread.clientSocket ∧
      (∀ sender package, handled.thread.phase ≠ .received sender package) ∧
      ((∃ sender package, thread.phase = .received sender package ∧
          handled = handlePackage config process.master thread now sent package) ∨
        (thread.phase = .disconnected ∧
          handled = handleDisconnection process.master thread sent)) := by
  unfold MasterProcess.handled at effect
  split at effect
  · cases effect
  · rename_i thread runs
    refine ⟨thread, runs, ?_⟩
    split at effect
    · rename_i sender package phase
      cases effect
      refine ⟨by rw [phase]; rfl, clientSocket_handlePackage _ _ _ _ _, ?_,
        Or.inl ⟨sender, package, phase, rfl⟩⟩
      intro other received
      exact phase_handlePackage _ _ _ _ _ _ _
    · rename_i phase
      cases effect
      refine ⟨by rw [phase]; rfl, ?_, ?_, Or.inr ⟨phase, rfl⟩⟩
      · rw [thread_handleDisconnection]
      · intro other received
        rw [thread_handleDisconnection]
        simp
    · cases effect

end Steps

section OwnNumbers

variable {config : MasterConfig} {process after : MasterProcess} {counts : ClientPhase → Bool}

/-- The number stands for the connection, or is not open. -/
def Own (process : MasterProcess) (connection number : Nat) : Prop :=
  process.descriptor number = none ∨
    process.descriptor number = some (.connection connection)

theorem Own.update_none {connection number : Nat} (own : process.Own connection number)
    (closed : Nat)
    (descriptors : after.descriptor = Function.update process.descriptor closed none) :
    after.Own connection number := by
  unfold Own
  rw [descriptors]
  by_cases same : number = closed
  · subst same
    exact Or.inl (Function.update_self ..)
  · rw [Function.update_of_ne same]
    exact own

theorem Own.update_of_ne {connection number other : Nat} {file : Option OpenFile}
    (own : process.Own connection number) (distinct : number ≠ other)
    (descriptors : after.descriptor = Function.update process.descriptor other file) :
    after.Own connection number := by
  unfold Own
  rw [descriptors, Function.update_of_ne distinct]
  exact own

/-- A step of `accept` does not return the number of a thread in a phase that counts. -/
def AcceptsUnused (counts : ClientPhase → Bool) (process : MasterProcess) : MasterStep → Prop
  | .accept number => ∀ connection < process.accepted, ∀ thread ∈ process.thread connection,
      counts thread.phase = true → thread.clientSocket ≠ number
  | _ => True

instance (counts : ClientPhase → Bool) (process : MasterProcess) :
    DecidablePred (AcceptsUnused counts process)
  | .accept number =>
    inferInstanceAs (Decidable (∀ connection < process.accepted,
      ∀ thread ∈ process.thread connection,
        counts thread.phase = true → thread.clientSocket ≠ number))
  | .spawn _ | .receive _ _ | .handle _ _ _ | .dispatch _ _ | .close _ | .aging _
  | .checkPreemption _ => isTrue trivial

/-- The number of each thread in a phase that counts stands for its own connection, if it is
open. -/
structure OwnNumbers (counts : ClientPhase → Bool) (process : MasterProcess) : Prop where
  threads : ∀ connection thread, process.thread connection = some thread →
    counts thread.phase = true → process.Own connection thread.clientSocket
  starting : ∀ number, process.starting = some number → process.Own process.accepted number
  known : ∀ connection thread, process.thread connection = some thread →
    connection < process.accepted

theorem OwnNumbers.of_starts (starts : Starts process) : OwnNumbers counts process where
  threads connection thread runs := by
    rw [starts.thread] at runs
    cases runs
  starting number starting := by
    rw [starts.starting] at starting
    cases starting
  known connection thread runs := by
    rw [starts.thread] at runs
    cases runs

theorem OwnNumbers.accept (own : OwnNumbers counts process) {number : Nat}
    (unused : AcceptsUnused counts process (.accept number)) :
    OwnNumbers counts { process with
      descriptor :=
        Function.update process.descriptor number (some (.connection process.accepted))
      starting := some number } where
  threads connection thread runs counted := by
    have known := own.known connection thread runs
    have distinct := unused connection known thread runs counted
    exact (own.threads connection thread runs counted).update_of_ne distinct rfl
  starting := by
    rintro _ ⟨⟩
    exact Or.inr (Function.update_self ..)
  known := own.known

theorem OwnNumbers.spawn (own : OwnNumbers counts process) {number : Nat}
    (starting : process.starting = some number) :
    OwnNumbers counts { process with
      accepted := process.accepted + 1
      starting := none
      thread := Function.update process.thread process.accepted
        (some ⟨number, false, false, .receiving⟩) } where
  threads connection thread runs counted := by
    rcases update_eq_some_cases runs with ⟨rfl, rfl⟩ | ⟨-, runs⟩
    · exact own.starting number starting
    · exact own.threads connection thread runs counted
  starting := by
    rintro _ ⟨⟩
  known connection thread runs := by
    rcases update_eq_some_cases runs with ⟨rfl, -⟩ | ⟨-, runs⟩
    · exact Nat.lt_succ_self _
    · exact Nat.lt_succ_of_lt (own.known connection thread runs)

/-- Another connection was accepted and got no thread. -/
theorem OwnNumbers.skip (own : OwnNumbers counts process) :
    OwnNumbers counts { process with
      accepted := process.accepted + 1
      starting := none } where
  threads := own.threads
  starting := by
    rintro _ ⟨⟩
  known connection thread runs := Nat.lt_succ_of_lt (own.known connection thread runs)

theorem OwnNumbers.close (own : OwnNumbers counts process) (number : Nat) :
    OwnNumbers counts { process with
      descriptor := Function.update process.descriptor number none } where
  threads connection thread runs counted :=
    (own.threads connection thread runs counted).update_none number rfl
  starting accepted starting := (own.starting accepted starting).update_none number rfl
  known := own.known

theorem OwnNumbers.setThread (own : OwnNumbers counts process) {connection : Nat}
    {thread : ClientThread} (moved : ClientThread)
    (runs : process.thread connection = some thread)
    (socket : moved.clientSocket = thread.clientSocket)
    (counted : counts moved.phase = true → counts thread.phase = true) :
    OwnNumbers counts (process.setThread connection moved) where
  threads other otherThread otherRuns otherCounted := by
    rcases MasterProcess.setThread_cases otherRuns with ⟨rfl, rfl⟩ | ⟨-, otherRuns⟩
    · rw [socket]
      exact own.threads other thread runs (counted otherCounted)
    · exact own.threads other otherThread otherRuns otherCounted
  starting := own.starting
  known other otherThread otherRuns := by
    rcases MasterProcess.setThread_cases otherRuns with ⟨rfl, -⟩ | ⟨-, otherRuns⟩
    · exact own.known other thread runs
    · exact own.known other otherThread otherRuns

theorem OwnNumbers.of_eq (own : OwnNumbers counts process)
    (descriptors : after.descriptor = process.descriptor)
    (accepted : after.accepted = process.accepted) (starting : after.starting = process.starting)
    (threads : after.thread = process.thread) : OwnNumbers counts after := by
  constructor
  · intro connection thread
    rw [threads]
    unfold Own
    rw [descriptors]
    exact own.threads connection thread
  · intro number
    rw [starting, accepted]
    unfold Own
    rw [descriptors]
    exact own.starting number
  · intro connection thread
    rw [threads, accepted]
    exact own.known connection thread

/-- Nothing but an `accept` puts a connection under a number, and it puts none under a number
that counts. -/
theorem OwnNumbers.step (own : OwnNumbers counts process)
    (handling : ∀ phase : ClientPhase, phase.handles = true → counts phase = true)
    (closing : ∀ phase : ClientPhase, phase.closes = true → counts (afterClose phase) = true →
      counts phase = true)
    {label : MasterStep} (unused : AcceptsUnused counts process label)
    (transition : Transition config process label after) : OwnNumbers counts after := by
  cases transition with
  | accept number lowest => exact own.accept unused
  | spawn number starting => exact own.spawn starting
  | reject number starting => exact own.skip.close number
  | disconnect connection thread runs phase =>
      apply own.setThread { thread with phase := .disconnected } runs rfl
      intro _
      exact handling _ (by rw [phase]; rfl)
  | receive connection sender thread package runs phase isOpen =>
      apply own.setThread { thread with phase := .received sender package } runs rfl
      intro _
      exact handling _ (by rw [phase]; rfl)
  | handle connection now sent handled effect =>
      obtain ⟨thread, runs, handles, socket, -⟩ := handled_cases effect
      have moved := own.setThread handled.thread runs socket fun _ => handling _ handles
      exact moved.of_eq rfl rfl rfl rfl
  | dispatch connection sent thread runs phase =>
      have moved := own.setThread { thread with phase := .receiving } runs rfl fun _ =>
        handling _ (by rw [phase]; rfl)
      exact moved.of_eq rfl rfl rfl rfl
  | close connection thread runs closes =>
      have moved := own.setThread { thread with phase := afterClose thread.phase } runs rfl
        (closing _ closes)
      exact moved.close thread.clientSocket
  | aging now => exact own.of_eq rfl rfl rfl rfl
  | checkPreemption sent => exact own.of_eq rfl rfl rfl rfl

end OwnNumbers

section Closes

variable {config : MasterConfig} {process : MasterProcess}

/-- Every `close(client_socket)` acts on the connection of its thread or on a number that is
not open, as long as `accept` returns no number that a running thread still has. -/
theorem closesOwn_of_reachable
    (reachable : ((system config).guarded (AcceptsUnused ClientPhase.runs)).Reachable process)
    {connection : Nat} {thread : ClientThread} (runs : process.thread connection = some thread)
    (closes : thread.phase.closes = true) : process.Own connection thread.clientSocket := by
  have own : OwnNumbers ClientPhase.runs process := by
    apply reachable.invariant
    · intro first starts
      exact OwnNumbers.of_starts starts
    · intro before label after own step
      apply own.step _ _ step.1 (transition_of_next step.2)
      · intro phase handles
        cases phase <;> first | rfl | cases handles
      · intro phase closes _
        cases phase <;> first | rfl | cases closes
  apply own.threads connection thread runs
  cases phase : thread.phase <;> rw [phase] at closes <;> first | rfl | cases closes

/-- The process with the numbers below 5 open. -/
def started : MasterProcess where
  master := initMaster
  descriptor number := if number < 5 then some .startup else none
  accepted := 0
  starting := none
  thread _ := none
  submitter _ := none

theorem starts_started : Starts started where
  master := rfl
  descriptor number connection := by
    unfold started
    dsimp only
    split <;> simp
  accepted := rfl
  starting := rfl
  thread _ := rfl

/-- A client disconnects before it says what it is.  Its thread closes number 5, the next
client is accepted under it, and the thread is about to close it again. -/
def reusedBetweenCloses : List MasterStep :=
  [.accept 5, .spawn true, .receive 0 none, .handle 0 0 true, .close 0, .accept 5, .spawn true]

/-- The thread of the first client is about to close the connection of the second one. -/
theorem closes_later_connection :
    ∃ process thread, (system (.mergeSorting .fifo 0)).Reachable process ∧
      process.thread 0 = some thread ∧ thread.phase.closes = true ∧
      process.descriptor thread.clientSocket = some (.connection 1) ∧
      ¬process.Own 0 thread.clientSocket := by
  have summary : (TransitionSystem.runNext (next (.mergeSorting .fifo 0)) started
      reusedBetweenCloses).map (fun process => (process.thread 0, process.descriptor 5)) =
        some (some ⟨5, false, false, .exiting⟩, some (.connection 1)) := by
    decide +kernel
  obtain ⟨process, ends, facts⟩ := Option.map_eq_some_iff.mp summary
  simp only [Prod.mk.injEq] at facts
  refine ⟨process, _, ⟨started, _, starts_started, TransitionSystem.run_of_runNext ends⟩,
    facts.1, rfl, facts.2, ?_⟩
  simp [Own, facts.2]

/-- The first thread ends before the next client is accepted. -/
def reusedAfterwards : List MasterStep :=
  [.accept 5, .spawn true, .receive 0 none, .handle 0 0 true, .close 0, .close 0, .accept 5,
    .spawn true, .receive 1 none, .handle 1 0 true]

theorem closesOwn_reusedAfterwards :
    ∃ process thread, ((system (.mergeSorting .fifo 0)).guarded
        (AcceptsUnused ClientPhase.runs)).Reachable process ∧
      process.thread 1 = some thread ∧ thread.phase.closes = true ∧
      process.Own 1 thread.clientSocket := by
  have summary : (TransitionSystem.runNext (TransitionSystem.guardedNext
      (next (.mergeSorting .fifo 0)) (AcceptsUnused ClientPhase.runs)) started
      reusedAfterwards).map (fun process => process.thread 1) =
        some (some ⟨5, false, false, .closingLast⟩) := by
    decide +kernel
  obtain ⟨process, ends, runs⟩ := Option.map_eq_some_iff.mp summary
  have reachable : ((system (.mergeSorting .fifo 0)).guarded
      (AcceptsUnused ClientPhase.runs)).Reachable process :=
    ⟨started, _, starts_started, TransitionSystem.run_of_runGuarded ends⟩
  exact ⟨process, _, reachable, runs, rfl, closesOwn_of_reachable reachable runs rfl⟩

end Closes

end MasterProcess

end MasterOfFiles
