import MasterOfFiles.ClusterWhereabouts
import MasterOfFiles.MasterFifo
import MasterOfFiles.TicketQueue

/-!
# The cluster under FIFO

Under FIFO a Worker is only asked for a query that was canceled, so an eviction takes its query
away and no query comes back to the ready queue.  The Master then starts the queries in the order
in which `create_query` entered them, whatever the Workers, the Query Controls and the
connections do.  The ids need not ascend in that order: `manage_query_file_path` draws them
before, without the lock.  Here a query only has to have a name of its own, and it gets the next
number when it is entered.
-/

namespace MasterOfFiles

namespace WorkerProcess

variable {scripts : Scripts} {process : WorkerProcess} {effect : ThreadEffect}
  {context : QueryContext} {message : WorkerMessage} {queryId : Nat}

/-- The query that the executor is to give up, or is giving up. -/
def recalled (process : WorkerProcess) : Option QueryContext :=
  match process.executor with
  | .flushing context _ _ => some context
  | .answering context _ _ => some context
  | executor => if process.state.ejectionRequested then executor.active else none

theorem recalled_active (recalls : process.recalled = some context) :
    process.executor.active = some context := by
  obtain ⟨state, executor⟩ := process
  cases executor with
  | flushing => exact recalls
  | answering => exact recalls
  | _ =>
      simp only [recalled] at recalls
      split at recalls
      · exact recalls
      · cases recalls

theorem execute_recalled (step : ExecutorStep scripts process.state process.executor effect)
    (recalls : effect.process.recalled = some context) :
    ∃ before, process.recalled = some before ∧ before.queryId = context.queryId := by
  obtain ⟨state, executor⟩ := process
  cases step with
  | advance =>
      rename_i worked
      simp only [recalled, Executor.active, Executor.context, Option.ite_none_right_eq_some,
        Option.some.injEq] at recalls
      obtain ⟨requested, rfl⟩ := recalls
      exact ⟨worked, by simp [recalled, requested, Executor.active, Executor.context], rfl⟩
  | _ => simp_all [recalled, Executor.active, Executor.context]

theorem execute_evictIds (step : ExecutorStep scripts process.state process.executor effect)
    (evicted : queryId ∈ evictIds effect.sent) :
    ∃ before, process.recalled = some before ∧ before.queryId = queryId := by
  obtain ⟨state, executor⟩ := process
  cases step <;> simp_all [recalled]

/-- A request makes the executor give up what it works on. -/
theorem listen_recalled (step : ListenerStep process.state process.executor message effect)
    (recalls : effect.process.recalled = some context) :
    process.recalled = some context ∨
      message = .preemptReq process.state.currentQuery.queryId := by
  obtain ⟨state, executor⟩ := process
  cases step with
  | assign => exact Or.inl recalls
  | request => exact Or.inr rfl
  | evict => exact Or.inr rfl
  | ignore => exact Or.inl recalls

theorem listen_evictIds (step : ListenerStep process.state process.executor message effect)
    (evicted : queryId ∈ evictIds effect.sent) : message = .preemptReq queryId := by
  obtain ⟨state, executor⟩ := process
  cases step <;> simp_all

theorem execute_currentQuery
    (step : ExecutorStep scripts process.state process.executor effect) :
    effect.process.state.currentQuery.queryId = process.state.currentQuery.queryId := by
  obtain ⟨state, executor⟩ := process
  cases step <;> rfl

end WorkerProcess

namespace Cluster

variable {config : MasterConfig} {scripts : Scripts} {cluster after : Cluster}
  {label : ClusterLabel} {socket queryId : Nat}

def lastSent (cluster : Cluster) (socket : Nat) : Nat :=
  (startIds (cluster.toWorker socket)).getLast?.getD
    (cluster.process socket).state.currentQuery.queryId

/-- The invariant of evictions under FIFO: whatever is evicted was canceled before. -/
structure Recalls (cluster : Cluster) : Prop where
  located : Located cluster
  last : ∀ socket queryId, cluster.master.current socket = some queryId →
    cluster.lastSent socket = queryId
  asked : ∀ socket queryId, .preemptReq queryId ∈ cluster.toWorker socket →
    cluster.master.Canceled queryId
  given : ∀ socket context, (cluster.process socket).recalled = some context →
    cluster.master.Canceled context.queryId
  evicted : ∀ socket, ∀ queryId ∈ evictIds (cluster.toMaster socket),
    cluster.master.Canceled queryId

theorem recalls_started : Recalls started where
  located := located_started
  last socket queryId runs := by simp [started, initMaster, Master.current] at runs
  asked socket queryId member := by simp [started] at member
  given socket context recalled := by
    simp [started, WorkerProcess.started, WorkerProcess.recalled] at recalled
  evicted socket queryId member := by simp [started] at member

section Threads

/-- What the executor of a Worker works on is what was assigned last, unless the query is gone. -/
theorem Recalls.assigned (recalls : Recalls cluster) {context : QueryContext}
    (active : (cluster.process socket).executor.active = some context)
    (other : context.queryId ≠ (cluster.process socket).state.currentQuery.queryId) :
    cluster.master.Canceled context.queryId := by
  have located := recalls.located
  have isActive : context.queryId ∈ (cluster.process socket).activeIds := by
    simp [WorkerProcess.activeIds, active]
  have token : context.queryId ∈ cluster.tokens socket :=
    List.mem_append_right _ (List.mem_append_left _ isActive)
  have holds := located.held socket context.queryId token
  refine ⟨holds.bounded, fun query block => ?_⟩
  have runs := (holds.running (located.sound.queries.listed block)).2
  have sentLast := recalls.last socket context.queryId runs
  unfold lastSent at sentLast
  cases ends : (startIds (cluster.toWorker socket)).getLast? with
  | none =>
      rw [ends] at sentLast
      exact absurd sentLast.symm other
  | some last =>
      rw [ends] at sentLast
      have started : context.queryId ∈ startIds (cluster.toWorker socket) :=
        sentLast ▸ List.mem_of_getLast? ends
      have nodup := (List.nodup_append.mp (located.nodup socket)).2.1
      exact absurd rfl ((List.nodup_append.mp nodup).2.2 _ isActive _
        (List.mem_append_right _ started))

theorem lastSent_listen {flush : Option String} {message : WorkerMessage}
    {rest : List WorkerMessage} (first : cluster.toWorker socket = message :: rest) (found : Nat) :
    ((cluster.takeMessage (.listen socket flush)).afterThread socket
      ((cluster.process socket).listen message flush)).lastSent found =
        cluster.lastSent found := by
  by_cases same : found = socket
  · subst same
    cases message with
    | startQuery started programCounter path =>
        rw [lastSent, lastSent, first, startIds_cons, startIds_startQuery, List.singleton_append,
          List.getLast?_cons, Option.getD_some]
        simp [afterThread, takeMessage, first, WorkerProcess.listen, WorkerProcess.assignQuery]
    | preemptReq asked =>
        have stays : ((cluster.process found).listen (.preemptReq asked)
            flush).process.state.currentQuery = (cluster.process found).state.currentQuery := by
          change ((cluster.process found).ejectQuery asked flush).process.state.currentQuery = _
          unfold WorkerProcess.ejectQuery
          split_ifs <;> rfl
        rw [lastSent, lastSent, first, startIds_cons, startIds_preemptReq, List.nil_append]
        simp [afterThread, takeMessage, first, stays]
  · simp [lastSent, afterThread, takeMessage, same]

theorem Recalls.listen (recalls : Recalls cluster) {flush : Option String}
    {message : WorkerMessage} {rest : List WorkerMessage}
    (first : cluster.toWorker socket = message :: rest) :
    Recalls ((cluster.takeMessage (.listen socket flush)).afterThread socket
      ((cluster.process socket).listen message flush)) := by
  have step := WorkerProcess.listen_step (cluster.process socket) message flush
  have isFirst : message ∈ cluster.toWorker socket := by simp [first]
  refine ⟨recalls.located.listen first, ?_, ?_, ?_, ?_⟩
  · intro found running runs
    rw [lastSent_listen first]
    exact recalls.last found running runs
  · intro found asked member
    refine recalls.asked found asked ?_
    by_cases same : found = socket
    · simp only [same, afterThread, takeMessage, Function.update_self] at member
      rw [same]
      exact List.mem_of_mem_tail member
    · simpa [afterThread, takeMessage, same] using member
  · intro found context recalled
    by_cases same : found = socket
    · simp only [same, afterThread, Function.update_self] at recalled
      rcases WorkerProcess.listen_recalled step recalled with before | requested
      · exact recalls.given socket context before
      · have active := WorkerProcess.recalled_active recalled
        rw [WorkerProcess.listen_executor step] at active
        by_cases current : context.queryId = (cluster.process socket).state.currentQuery.queryId
        · rw [← current] at requested
          exact recalls.asked socket context.queryId (requested ▸ isFirst)
        · exact recalls.assigned active current
    · simp only [afterThread, Function.update_of_ne same] at recalled
      exact recalls.given found context recalled
  · intro found evicted member
    by_cases same : found = socket
    · simp only [same, afterThread, Function.update_self, evictIds_append,
        List.mem_append] at member
      rcases member with old | new
      · exact recalls.evicted socket evicted old
      · exact recalls.asked socket evicted (WorkerProcess.listen_evictIds step new ▸ isFirst)
    · simp only [afterThread, Function.update_of_ne same] at member
      exact recalls.evicted found evicted member

theorem Recalls.execute (recalls : Recalls cluster) {answers : StorageAnswers}
    {effect : ThreadEffect}
    (execution : (cluster.process socket).execute scripts answers = some effect) :
    Recalls (cluster.afterThread socket effect) := by
  have step := WorkerProcess.execute_step execution
  refine ⟨recalls.located.execute execution, ?_, recalls.asked, ?_, ?_⟩
  · intro found running runs
    rw [← recalls.last found running runs]
    by_cases same : found = socket
    · simp [same, lastSent, afterThread, WorkerProcess.execute_currentQuery step]
    · simp [same, lastSent, afterThread]
  · intro found context recalled
    by_cases same : found = socket
    · simp only [same, afterThread, Function.update_self] at recalled
      obtain ⟨before, given, sameId⟩ := WorkerProcess.execute_recalled step recalled
      rw [← sameId]
      exact recalls.given socket before given
    · simp only [afterThread, Function.update_of_ne same] at recalled
      exact recalls.given found context recalled
  · intro found evicted member
    by_cases same : found = socket
    · simp only [same, afterThread, Function.update_self, evictIds_append,
        List.mem_append] at member
      rcases member with old | new
      · exact recalls.evicted socket evicted old
      · obtain ⟨before, given, rfl⟩ := WorkerProcess.execute_evictIds step new
        exact recalls.given socket before given
    · simp only [afterThread, Function.update_of_ne same] at member
      exact recalls.evicted found evicted member

end Threads

section Handlers

variable {effect : Master × List Outgoing} {created : List Nat}

/-- The handlers that can run under FIFO, where no aging thread is created, as long as every query
that is sent reaches its Worker. -/
def Unaged : ClusterLabel → Prop
  | .aging _ => False
  | .checkPreemption _ => False
  | .dispatch sent => sent = true
  | _ => True

/-- The queries that a handler enters into the tables. -/
def entered (cluster : Cluster) : ClusterLabel → List Nat
  | .newQuery _ _ _ _ => [cluster.master.nextQueryId]
  | _ => []

theorem Recalls.turn (recalls : Recalls cluster) (unaged : Unaged label)
    (handled : cluster.handlerEffect config label = some effect) :
    Master.Turn config cluster.master (cluster.entered label) effect := by
  have sound := recalls.located.sound
  cases label with
  | handshake workerId connecting =>
      simp only [handlerEffect] at handled
      split at handled
      · rename_i usable
        obtain rfl := Option.some.inj handled
        unfold Master.manageWorkerHandshake
        split
        · exact .of_silent (Master.Retains.refl _)
        · have missing : cluster.master.worker connecting = none :=
            sound.workers.worker_eq_none fun listed =>
              usable.2 (recalls.located.connected connecting listed)
          exact .of_silent (Master.retains_createWorker missing workerId)
      · cases handled
  | newQuery path priority client now =>
      obtain rfl := Option.some.inj handled
      exact .create path priority client now
  | receive sender now =>
      obtain ⟨report, head, rfl⟩ := Option.map_eq_some_iff.mp handled
      obtain ⟨rest, first⟩ := List.head?_eq_some_iff.mp head
      cases report with
      | endQuery ended => exact Master.turn_manageWorkerEndQuery _ sender ended
      | evictRes evicted programCounter =>
          have canceled : cluster.master.Canceled evicted :=
            recalls.evicted sender evicted (mem_evictIds.mpr ⟨programCounter, by simp [first]⟩)
          exact canceled.turn_manageWorkerEvictResponse sender programCounter now
      | storageError messageId reason =>
          exact Master.turn_handleErrorFromStorage _ sender messageId reason
  | disconnectQueryControl sent client =>
      obtain rfl := Option.some.inj handled
      exact sound.queries.turn_handleQueryControlDisconnection sent client
  | disconnectWorker left =>
      obtain rfl := Option.some.inj handled
      exact Master.turn_handleWorkerDisconnection _ left
  | aging now => exact unaged.elim
  | checkPreemption sent => exact unaged.elim
  | dispatch sent =>
      obtain rfl := Option.some.inj handled
      obtain rfl : sent = true := unaged
      exact sound.workers.turn_tryDispatch
  | listen listener flush => cases handled
  | execute executing answers => cases handled

theorem mem_messagesTo {sent : List Outgoing} {message : WorkerMessage} :
    message ∈ Master.messagesTo socket sent ↔ .toWorker socket message ∈ sent := by
  unfold Master.messagesTo
  rw [List.mem_filterMap]
  constructor
  · rintro ⟨outgoing, member, found⟩
    cases outgoing with
    | toWorker destination carried =>
        dsimp only at found
        split at found
        · rename_i same
          obtain rfl : carried = message := Option.some.inj found
          exact same ▸ member
        · cases found
    | toQueryControl destination carried => cases found
  · intro member
    exact ⟨_, member, if_pos rfl⟩

theorem lastSent_afterHandler (nothing : Master.StartsNothing effect.2) (socket : Nat) :
    ((cluster.attend label).afterHandler effect).lastSent socket = cluster.lastSent socket := by
  have messagesEq : (cluster.attend label).toWorker = cluster.toWorker := by
    cases label <;> rfl
  have processEq : (cluster.attend label).process = cluster.process := by
    cases label <;> rfl
  simp [lastSent, Cluster.afterHandler, Master.startIds_messagesTo nothing, messagesEq, processEq]

theorem current_createQuery {master : Master} (config : MasterConfig) (path : String)
    (priority client now : Nat) :
    (master.createQuery config path priority client now).current socket =
      master.current socket := by
  rw [Master.createQuery, Master.enqueueReady_eq]
  rfl

/-- A Worker runs the query that it was sent last, or none. -/
theorem Recalls.last_turn (recalls : Recalls cluster)
    (turn : Master.Turn config cluster.master created effect)
    (runs : effect.1.current socket = some queryId) :
    ((cluster.attend label).afterHandler effect).lastSent socket = queryId := by
  cases turn with
  | retain after sent retains nothing asks =>
      rw [lastSent_afterHandler nothing]
      exact recalls.last socket queryId (retains.current socket queryId runs)
  | create path priority client now =>
      rw [lastSent_afterHandler Master.startsNothing_nil]
      dsimp only at runs
      rw [current_createQuery] at runs
      exact recalls.last socket queryId runs
  | start started startedId readyRest worker query ready holder block =>
      have messagesEq : (cluster.attend label).toWorker = cluster.toWorker := by
        cases label <;> rfl
      have processEq : (cluster.attend label).process = cluster.process := by
        cases label <;> rfl
      dsimp only at runs
      rw [Master.current_assignQuery holder] at runs
      by_cases same : socket = started
      · rw [if_pos same] at runs
        obtain rfl : startedId = queryId := Option.some.inj runs
        simp [lastSent, Cluster.afterHandler, Master.messagesTo, same]
      · rw [if_neg same] at runs
        rw [← recalls.last socket queryId runs]
        simp [lastSent, Cluster.afterHandler, Master.messagesTo, Ne.symm same, messagesEq,
          processEq]

theorem Recalls.handler (recalls : Recalls cluster)
    (turn : Master.Turn config cluster.master created effect)
    (located : Located ((cluster.attend label).afterHandler effect)) :
    Recalls ((cluster.attend label).afterHandler effect) := by
  have messagesEq : (cluster.attend label).toWorker = cluster.toWorker := by
    cases label <;> rfl
  have processEq : (cluster.attend label).process = cluster.process := by
    cases label <;> rfl
  have tables := recalls.located.sound.queries
  refine ⟨located, ?_, ?_, ?_, ?_⟩
  · exact fun found running runs => recalls.last_turn turn runs
  · intro found asked member
    rw [Cluster.afterHandler, messagesEq] at member
    rcases List.mem_append.mp member with old | new
    · exact (recalls.asked found asked old).turn tables turn
    · have sent := mem_messagesTo.mp new
      cases turn with
      | retain after others retains nothing asks => exact asks found asked sent
      | create path priority client now => cases sent
      | start => simp at sent
  · intro found context recalled
    rw [Cluster.afterHandler, processEq] at recalled
    exact (recalls.given found context recalled).turn tables turn
  · intro found evicted member
    obtain ⟨programCounter, report⟩ := mem_evictIds.mp member
    have before := mem_evictIds.mpr ⟨programCounter, mem_toMaster_attend report⟩
    exact (recalls.evicted found evicted before).turn tables turn

end Handlers

section Arrivals

def ServesInTurn (cluster : Cluster) (label : ClusterLabel) : Prop :=
  Unaged label ∧ cluster.EndsOwn label

theorem Recalls.step (recalls : Recalls cluster) (condition : cluster.ServesInTurn label)
    (step : cluster.next config scripts label = some after) : Recalls after := by
  rcases next_cases step with ⟨effect, handled, rfl⟩ | ⟨socket, effect, taken, rfl⟩
  · exact recalls.handler (recalls.turn condition.1 handled)
      (recalls.located.handler_step handled condition.2)
  · rcases threadEffect_cases taken with
      ⟨flush, message, rest, rfl, first, rfl⟩ | ⟨answers, rfl, execution⟩
    · exact recalls.listen first
    · exact recalls.execute execution

instance (label : ClusterLabel) : Decidable (Unaged label) :=
  match label with
  | .aging _ | .checkPreemption _ => isFalse id
  | .dispatch sent => inferInstanceAs (Decidable (sent = true))
  | .handshake _ _ | .newQuery _ _ _ _ | .receive _ _ | .disconnectQueryControl _ _
  | .disconnectWorker _ | .listen _ _ | .execute _ _ => isTrue trivial

def startedBy (sent : List Outgoing) : List Nat :=
  sent.filterMap fun outgoing =>
    match outgoing with
    | .toWorker _ (.startQuery queryId _ _) => some queryId
    | _ => none

/-- The cluster, the queries in the order in which `create_query` entered them, and those that
were started, in the order of START_QUERY. -/
structure StartLog where
  cluster : Cluster
  entered : List Nat
  started : List Nat

namespace StartLog

def initial : StartLog where
  cluster := Cluster.started
  entered := []
  started := []

/-- A step of the cluster, with what it enters and starts. -/
def next (config : MasterConfig) (scripts : Scripts) (log : StartLog) (label : ClusterLabel) :
    Option StartLog :=
  (log.cluster.next config scripts label).map fun after =>
    { cluster := after
      entered := log.entered ++ log.cluster.entered label
      started := log.started ++
        (((log.cluster.handlerEffect config label).map fun effect =>
          startedBy effect.2).getD []) }

def system (config : MasterConfig) (scripts : Scripts) :
    TransitionSystem StartLog ClusterLabel :=
  .ofNext (· = initial) (next config scripts)

def line (log : StartLog) : TicketQueue Nat where
  drawn := log.entered
  served := log.started
  waiting := log.cluster.master.readyQueue

def ServesInTurn (log : StartLog) (label : ClusterLabel) : Prop :=
  log.cluster.ServesInTurn label

instance (log : StartLog) (label : ClusterLabel) : Decidable (log.ServesInTurn label) :=
  inferInstanceAs (Decidable (Unaged label ∧ log.cluster.EndsOwn label))

variable {log next : StartLog}

theorem startedBy_eq_nil {sent : List Outgoing} (nothing : Master.StartsNothing sent) :
    startedBy sent = [] := by
  refine List.eq_nil_iff_forall_not_mem.mpr fun queryId member => ?_
  obtain ⟨outgoing, sentMember, found⟩ := List.mem_filterMap.mp member
  split at found
  · exact nothing _ _ _ _ sentMember
  · cases found

/-- Only what was started runs, and what was entered has an old number. -/
structure Recorded (master : Master) (entered started : List Nat) : Prop where
  running : ∀ queryId ∈ master.runningList, queryId ∈ started
  old : ∀ queryId ∈ entered, queryId < master.nextQueryId

theorem Recorded.turn {master : Master} {entered started created : List Nat}
    {effect : Master × List Outgoing} (recorded : Recorded master entered started)
    (fifo : config.schedulingAlgorithm = .fifo) (turn : Master.Turn config master created effect) :
    TicketQueue.Step ⟨entered, started, master.readyQueue⟩
        ⟨entered ++ created, started ++ startedBy effect.2, effect.1.readyQueue⟩ ∧
      Recorded effect.1 (entered ++ created) (started ++ startedBy effect.2) := by
  obtain ⟨running, old⟩ := recorded
  cases turn with
  | retain after sent retains nothing asks =>
      dsimp only
      rw [startedBy_eq_nil nothing, List.append_nil, List.append_nil]
      refine ⟨.leave ⟨entered, started, master.readyQueue⟩ after.readyQueue retains.readyQueue,
        fun queryId runs => running queryId (retains.runningList.subset runs), ?_⟩
      rw [retains.nextQueryId]
      exact old
  | create path priority client now =>
      have afterwards : master.createQuery config path priority client now =
          { master.registerQuery (Master.newQueryBlock path priority client now) with
            readyQueue := master.readyQueue ++ [master.nextQueryId] } := by
        rw [Master.createQuery, Master.enqueueReady, fifo]
        rfl
      rw [afterwards]
      dsimp only [startedBy, List.filterMap_nil]
      rw [List.append_nil]
      refine ⟨.draw ⟨entered, started, master.readyQueue⟩ master.nextQueryId
        fun member => Nat.lt_irrefl _ (old _ member), running, fun queryId member => ?_⟩
      rcases List.mem_append.mp member with before | new
      · exact Nat.lt_succ_of_lt (old queryId before)
      · rw [List.mem_singleton.mp new]
        exact Nat.lt_succ_self master.nextQueryId
  | start socket queryId readyRest worker query ready holder block =>
      have restEq : (master.assignQuery socket queryId worker.workerId).readyQueue = readyRest := by
        change master.readyQueue.tail = readyRest
        rw [ready, List.tail_cons]
      dsimp only
      rw [restEq, ready, List.append_nil]
      refine ⟨.serve entered started readyRest queryId, fun found runs => ?_, old⟩
      rcases Master.mem_runningList_assignQuery.mp runs with before | rfl
      · exact List.mem_append_left _ (running found before)
      · exact List.mem_append_right _ List.mem_cons_self

/-- What a log has to do with a line of tickets. -/
structure Shows (log : StartLog) (queue : TicketQueue Nat) : Prop where
  line : queue = log.line
  recalls : Recalls log.cluster
  recorded : Recorded log.cluster.master log.entered log.started

theorem Shows.step (fifo : config.schedulingAlgorithm = .fifo) {queue : TicketQueue Nat}
    (shows : Shows log queue) (condition : log.ServesInTurn label)
    (step : log.next config scripts label = some next) :
    ∃ image, TicketQueue.Step queue image ∧ Shows next image := by
  obtain ⟨rfl, recalls, recorded⟩ := shows
  obtain ⟨after, stepped, rfl⟩ := Option.map_eq_some_iff.mp step
  have stays := recalls.step condition stepped
  rcases next_cases stepped with ⟨effect, handled, rfl⟩ | ⟨socket, effect, taken, rfl⟩
  · obtain ⟨served, records⟩ := recorded.turn fifo (recalls.turn condition.1 handled)
    refine ⟨_, served, ?_, stays, ?_⟩
    · rw [StartLog.line, handled]
      rfl
    · rw [handled]
      exact records
  · have idle : log.cluster.handlerEffect config label = none ∧
        log.cluster.entered label = [] := by
      cases label <;> first | exact ⟨rfl, rfl⟩ | cases taken
    have masterEq : ((log.cluster.takeMessage label).afterThread socket effect).master =
        log.cluster.master := by
      cases label <;> rfl
    refine ⟨log.line, .leave log.line log.line.waiting (List.Sublist.refl _), ?_, stays, ?_⟩
    · rw [StartLog.line, StartLog.line, idle.1, idle.2]
      simp [masterEq]
    · rw [idle.1, idle.2]
      simpa [masterEq] using recorded

/-- The cluster serves its queries as the line serves tickets. -/
theorem simulates (fifo : config.schedulingAlgorithm = .fifo) :
    TransitionSystem.Simulation ((system config scripts).guarded ServesInTurn)
      (TicketQueue.system Nat ClusterLabel) Shows where
  initial log begins := by
    obtain rfl := begins
    refine ⟨TicketQueue.opened, rfl, rfl, recalls_started, fun queryId runs => ?_,
      fun queryId member => ?_⟩
    · simp [initial, Cluster.started, initMaster] at runs
    · simp [initial] at member
  step log label after queue shows step := shows.step fifo step.1 step.2

/-- Along every run under FIFO in which every query that is sent reaches its Worker and no Worker
is made to forget a query by the end of another: the queries are started in the order in which
they were entered, each once, and none of them before one that was entered earlier and still
waits; every query of the Master was started or waits; and no Worker is asked for a query that
was not canceled. -/
theorem started_in_order_of_arrival (fifo : config.schedulingAlgorithm = .fifo) {log : StartLog}
    (reachable : ((system config scripts).guarded ServesInTurn).Reachable log) :
    (log.started ++ log.cluster.master.readyQueue).Sublist log.entered ∧ log.entered.Nodup ∧
      (∀ queryId ∈ log.cluster.master.queryList,
        queryId ∈ log.started ++ log.cluster.master.readyQueue) ∧
      ∀ socket queryId query, .preemptReq queryId ∈ log.cluster.toWorker socket →
        log.cluster.master.query queryId = some query → query.state = .canceled := by
  obtain ⟨first, labels, begins, run⟩ := reachable
  obtain ⟨queue, opened, shows⟩ := (@simulates config scripts fifo).initial first begins
  obtain ⟨ends, line, isShown⟩ := (simulates fifo).run run shows
  obtain rfl : queue = TicketQueue.opened := opened
  have inOrder := TicketQueue.inOrder_of_run line
  rw [isShown.line] at inOrder
  refine ⟨inOrder.inTurn, inOrder.distinct, fun queryId listed => ?_,
    fun socket queryId query asked => (isShown.recalls.asked socket queryId asked).state query⟩
  rcases (isShown.recalls.located.sound.queries.queued_iff queryId).mp listed with ready | runs
  · exact List.mem_append_right _ ready
  · exact List.mem_append_left _ (isShown.recorded.running queryId runs)

/-- Three queries arrive, and the first one is canceled while it runs. -/
def canceledWhileRunning : List ClusterLabel :=
  [.newQuery "AGING_1" 4 8 1, .newQuery "AGING_2" 2 9 1, .newQuery "AGING_3" 0 10 1,
    .handshake 1 5, .dispatch true, .listen 5 none, proceeds 5, proceeds 5,
    .disconnectQueryControl true 8, .listen 5 none] ++
  List.replicate 4 (proceeds 5) ++ [.receive 5 2, .dispatch true]

theorem started_in_order_canceledWhileRunning :
    ∃ log : StartLog, ((system (.mergeSorting .fifo 0) twoOperations).guarded
        ServesInTurn).Reachable log ∧
      log.entered = [0, 1, 2] ∧ log.started = [0, 1] ∧ log.cluster.master.readyQueue = [2] ∧
      (log.started ++ log.cluster.master.readyQueue).Sublist log.entered := by
  have ends : (TransitionSystem.runNext (TransitionSystem.guardedNext
      (next (.mergeSorting .fifo 0) twoOperations) ServesInTurn) initial
      canceledWhileRunning).any (fun log =>
        decide (log.entered = [0, 1, 2] ∧ log.started = [0, 1] ∧
          log.cluster.master.readyQueue = [2])) = true := by
    decide +kernel
  obtain ⟨log, run, reached⟩ := (Option.any_eq_true _ _).mp ends
  obtain ⟨entered, started, ready⟩ := of_decide_eq_true reached
  have reachable : ((system (.mergeSorting .fifo 0) twoOperations).guarded
      ServesInTurn).Reachable log :=
    ⟨initial, canceledWhileRunning, rfl, TransitionSystem.run_of_runGuarded run⟩
  exact ⟨log, reachable, entered, started, ready, (started_in_order_of_arrival rfl reachable).1⟩

end StartLog

end Arrivals

end Cluster

end MasterOfFiles
