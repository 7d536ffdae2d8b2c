import MasterOfFiles.Cluster
import MasterOfFiles.WorkerTokens

/-!
# Where the queries of a cluster are

A query that is known to the Master and has a token at a Worker is running, and
that Worker is the one it is assigned to.  This holds along every run in which no
Worker is made to forget one query by the end of another.
-/

namespace MasterOfFiles

namespace Master

variable {master after : Master} {socket queryId : Nat}

/-- A query that was sent to a Worker: it runs there unless it is gone. -/
structure Holds (master : Master) (socket queryId : Nat) : Prop where
  bounded : queryId < master.nextQueryId
  running : queryId ∈ master.queryList →
    queryId ∈ master.runningList ∧ master.current socket = some queryId

theorem Holds.quiet (holds : Holds master socket queryId) (quiet : Quiet master after) :
    Holds after socket queryId where
  bounded := by
    rw [quiet.nextQueryId]
    exact holds.bounded
  running listed := by
    rw [quiet.queryList] at listed
    rw [quiet.runningList, quiet.current]
    exact holds.running listed

theorem Holds.dropQuery (holds : Holds master socket queryId) (sound : Sound master)
    (dropped : Nat) : Holds (master.dropQuery dropped) socket queryId where
  bounded := holds.bounded
  running listed := by
    rw [mem_queryList_dropQuery sound.queries] at listed
    rw [mem_runningList_dropQuery sound.queries]
    obtain ⟨running, runs⟩ := holds.running listed.2
    exact ⟨⟨listed.1, running⟩, runs⟩

theorem Holds.cleanupWorkerResources (holds : Holds master socket queryId) {left : Nat}
    (done : ∀ queryId, master.current left = some queryId → queryId ∉ master.runningList) :
    Holds (master.cleanupWorkerResources left) socket queryId where
  bounded := holds.bounded
  running listed := by
    obtain ⟨running, runs⟩ := holds.running listed
    refine ⟨running, ?_⟩
    have different : socket ≠ left := by
      rintro rfl
      exact done queryId runs running
    rw [current_cleanupWorkerResources, if_neg different]
    exact runs

theorem Holds.forgetQuery (holds : Holds master socket queryId) {freed : Nat}
    (done : ∀ queryId, master.current freed = some queryId → queryId ∉ master.runningList) :
    Holds (master.forgetQuery freed) socket queryId where
  bounded := holds.bounded
  running listed := by
    obtain ⟨running, runs⟩ := holds.running listed
    refine ⟨running, ?_⟩
    have different : socket ≠ freed := by
      rintro rfl
      exact done queryId runs running
    rw [current_forgetQuery, if_neg different]
    exact runs

theorem Holds.retire (holds : Holds master socket queryId) (sound : Sound master)
    {freed retired : Nat} (runs : master.current freed = some retired) :
    Holds ((master.releaseWorker freed).dropQuery retired) socket queryId where
  bounded := holds.bounded
  running listed := by
    have stays := (mem_queryList_dropQuery sound.queries).mp listed
    obtain ⟨running, holderRuns⟩ := holds.running stays.2
    have different : socket ≠ freed := by
      rintro rfl
      exact stays.1 (Option.some.inj (holderRuns.symm.trans runs))
    refine ⟨(mem_runningList_dropQuery sound.queries).mpr ⟨stays.1, running⟩, ?_⟩
    rw [current_dropQuery, current_releaseWorker, if_neg different]
    exact holderRuns

/-- A query keeps its place when another one goes back to the ready queue. -/
theorem Holds.requeue (holds : Holds master socket queryId) (sound : Sound master)
    {freed requeued programCounter now : Nat} (runs : master.current freed = some requeued)
    (other : queryId ≠ requeued) :
    Holds ((master.requeueEvicted requeued programCounter now).releaseWorker freed) socket
      queryId where
  bounded := holds.bounded
  running listed := by
    obtain ⟨running, holderRuns⟩ := holds.running listed
    have different : socket ≠ freed := by
      rintro rfl
      exact other (Option.some.inj (holderRuns.symm.trans runs))
    refine ⟨sound.queries.running_nodup.mem_erase_iff.mpr ⟨other, running⟩, ?_⟩
    rw [current_releaseWorker, if_neg different]
    exact holderRuns

/-- A query keeps its place when an idle worker gets another one. -/
theorem Holds.assignQuery (holds : Holds master socket queryId) (sound : Sound master)
    {idle assigned : Nat} {worker : WorkerControlBlock}
    (isIdle : idle ∈ master.idleList) (block : master.worker idle = some worker)
    (workerId : Nat) : Holds (master.assignQuery idle assigned workerId) socket queryId where
  bounded := holds.bounded
  running listed := by
    obtain ⟨running, runs⟩ := holds.running listed
    have different : socket ≠ idle := by
      rintro rfl
      rw [sound.workers.current_of_idle isIdle] at runs
      cases runs
    refine ⟨mem_runningList_assignQuery.mpr (Or.inl running), ?_⟩
    rw [current_assignQuery block, if_neg different]
    exact runs

theorem holds_assignQuery (sound : Sound master) {worker : WorkerControlBlock}
    (ready : queryId ∈ master.readyQueue) (block : master.worker socket = some worker)
    (workerId : Nat) : Holds (master.assignQuery socket queryId workerId) socket queryId where
  bounded :=
    sound.queries.id_lt queryId ((sound.queries.queued_iff queryId).mpr (Or.inl ready))
  running _ := by
    refine ⟨mem_runningList_assignQuery.mpr (Or.inr rfl), ?_⟩
    rw [current_assignQuery block, if_pos rfl]

theorem Holds.silent (holds : Holds master socket queryId) (sound : Sound master)
    (silent : Silent master after) : Holds after socket queryId := by
  cases silent with
  | quiet quiet => exact holds.quiet quiet
  | connect workerId fresh absent positive =>
      refine ⟨holds.bounded, fun listed => ?_⟩
      rw [current_createWorker (sound.workers.worker_eq_none absent)]
      exact holds.running listed
  | drop dropped => exact holds.dropQuery sound dropped
  | leave left done => exact holds.cleanupWorkerResources done
  | abandon left dropped runs =>
      refine (holds.dropQuery sound dropped).cleanupWorkerResources fun other otherRuns => ?_
      obtain rfl : dropped = other := Option.some.inj (runs.symm.trans otherRuns)
      rw [mem_runningList_dropQuery sound.queries]
      exact fun running => running.1 rfl

theorem Holds.createQuery (holds : Holds master socket queryId) (config : MasterConfig)
    (path : String) (priority client now : Nat) :
    Holds (master.createQuery config path priority client now) socket queryId := by
  rw [Master.createQuery, enqueueReady_eq]
  refine ⟨Nat.lt_succ_of_lt holds.bounded, fun listed => ?_⟩
  rcases List.mem_append.mp listed with old | new
  · exact holds.running old
  · exact absurd holds.bounded (List.mem_singleton.mp new ▸ Nat.lt_irrefl _)

theorem startIds_messagesTo {sent : List Outgoing} (nothing : StartsNothing sent)
    (socket : Nat) : startIds (messagesTo socket sent) = [] := by
  refine List.eq_nil_iff_forall_not_mem.mpr fun queryId member => ?_
  obtain ⟨programCounter, path, started⟩ := mem_startIds.mp member
  obtain ⟨outgoing, sentMember, found⟩ := List.mem_filterMap.mp started
  cases outgoing with
  | toWorker destination message =>
      dsimp only at found
      split at found
      · obtain rfl : message = .startQuery queryId programCounter path := Option.some.inj found
        exact nothing _ _ _ _ sentMember
      · cases found
  | toQueryControl destination message => cases found

end Master

/-- No query is evicted before it is ended. -/
def EndsFirst (reports : List WorkerReport) : Prop :=
  reports.Pairwise fun earlier later => ∀ queryId programCounter,
    earlier = .evictRes queryId programCounter → later ≠ .endQuery queryId

namespace Cluster

variable {config : MasterConfig} {scripts : Scripts} {cluster after : Cluster}
variable {label : ClusterLabel}

/-- The queries that were sent to a Worker and can still come back. -/
def tokens (cluster : Cluster) (socket : Nat) : List Nat :=
  evictIds (cluster.toMaster socket) ++ ((cluster.process socket).activeIds ++
    ((cluster.process socket).assignedIds ++ startIds (cluster.toWorker socket)))

/-- The invariant of tokens: every one is where the Master says that its query
runs. -/
structure Located (cluster : Cluster) : Prop where
  sound : cluster.master.Sound
  formed : ∀ socket, (cluster.process socket).WellFormed
  nodup : ∀ socket, (cluster.tokens socket).Nodup
  disjoint : ∀ socket other queryId, queryId ∈ cluster.tokens socket →
    queryId ∈ cluster.tokens other → socket = other
  held : ∀ socket, ∀ queryId ∈ cluster.tokens socket, cluster.master.Holds socket queryId
  endHeld : ∀ socket, ∀ queryId ∈ endIds (cluster.toMaster socket),
    cluster.master.Holds socket queryId
  endsFirst : ∀ socket, EndsFirst (cluster.toMaster socket)
  connected : ∀ socket ∈ cluster.master.workerList, socket ∈ cluster.connected

theorem tokens_started (socket : Nat) : started.tokens socket = [] :=
  rfl

theorem located_started : Located started where
  sound :=
    { queries := by constructor <;> simp [started, initMaster]
      workers := by constructor <;> simp [started, initMaster]
      assignments := by constructor <;> simp [started, initMaster, Master.current] }
  formed _ := WorkerProcess.wellFormed_started
  nodup socket := by simp [tokens_started]
  disjoint socket other queryId member := by simp [tokens_started] at member
  held socket queryId member := by simp [tokens_started] at member
  endHeld socket queryId member := by simp [started] at member
  endsFirst _ := List.Pairwise.nil
  connected socket member := by simp [started, initMaster] at member

section Threads

/-- A step of a thread, or a report taken from its connection, loses tokens only. -/
theorem Located.shrink (located : Located cluster) (masterEq : after.master = cluster.master)
    (connectedEq : after.connected = cluster.connected)
    (formed : ∀ socket, (after.process socket).WellFormed)
    (fewer : ∀ socket, (after.tokens socket).Sublist (cluster.tokens socket))
    (ends : ∀ socket, ∀ queryId ∈ endIds (after.toMaster socket),
      queryId ∈ endIds (cluster.toMaster socket) ∨ queryId ∈ cluster.tokens socket)
    (endsFirst : ∀ socket, EndsFirst (after.toMaster socket)) : Located after where
  sound := masterEq ▸ located.sound
  formed := formed
  nodup socket := (located.nodup socket).sublist (fewer socket)
  disjoint socket other queryId member otherMember :=
    located.disjoint socket other queryId ((fewer socket).subset member)
      ((fewer other).subset otherMember)
  held socket queryId member := by
    rw [masterEq]
    exact located.held socket queryId ((fewer socket).subset member)
  endHeld socket queryId member := by
    rw [masterEq]
    rcases ends socket queryId member with old | token
    · exact located.endHeld socket queryId old
    · exact located.held socket queryId token
  endsFirst := endsFirst
  connected := by
    rw [masterEq, connectedEq]
    exact located.connected

theorem Located.thread (located : Located cluster) {socket : Nat} {effect : ThreadEffect}
    {rest : List WorkerMessage}
    (formed : effect.process.WellFormed)
    (fewer : (evictIds effect.sent ++ (effect.process.activeIds ++
        (effect.process.assignedIds ++ startIds rest))).Sublist
      ((cluster.process socket).activeIds ++ ((cluster.process socket).assignedIds ++
        startIds (cluster.toWorker socket))))
    (ends : ∀ queryId ∈ endIds effect.sent,
      queryId ∈ (cluster.process socket).activeIds ∧ evictIds effect.sent = []) :
    Located
      ({ cluster with toWorker := Function.update cluster.toWorker socket rest }.afterThread
        socket effect) := by
  refine located.shrink rfl rfl ?_ ?_ ?_ ?_
  · intro found
    by_cases same : found = socket
    · simpa [same, afterThread] using formed
    · simpa [same, afterThread] using located.formed found
  · intro found
    by_cases same : found = socket
    · simp only [same, tokens, afterThread, Function.update_self, evictIds_append,
        List.append_assoc]
      exact (List.Sublist.refl _).append fewer
    · simp [same, tokens, afterThread]
  · intro found queryId member
    by_cases same : found = socket
    · rw [same] at member ⊢
      simp only [afterThread, Function.update_self, endIds_append, List.mem_append] at member
      rcases member with old | new
      · exact Or.inl old
      · right
        simp [tokens, (ends queryId new).1]
    · left
      simpa [same, afterThread] using member
  · intro found
    by_cases same : found = socket
    · simp only [same, afterThread, Function.update_self]
      have unmixed : EndsFirst effect.sent := by
        refine List.pairwise_of_forall_mem_list ?_
        rintro earlier before later sent queryId programCounter rfl rfl
        have evicted := mem_evictIds.mpr ⟨programCounter, before⟩
        rw [(ends queryId (mem_endIds.mpr sent)).2] at evicted
        cases evicted
      refine List.pairwise_append.mpr ⟨located.endsFirst socket, unmixed, ?_⟩
      rintro earlier before later sent queryId programCounter rfl rfl
      have ended := ends queryId (mem_endIds.mpr sent)
      have evicted := mem_evictIds.mpr ⟨programCounter, before⟩
      have nodup := located.nodup socket
      exact (List.nodup_append.mp nodup).2.2 queryId evicted queryId (by simp [ended.1]) rfl
    · simpa [same, afterThread] using located.endsFirst found

theorem Located.listen (located : Located cluster) {socket : Nat} {flush : Option String}
    {message : WorkerMessage} {rest : List WorkerMessage}
    (first : cluster.toWorker socket = message :: rest) :
    Located ((cluster.takeMessage (.listen socket flush)).afterThread socket
      ((cluster.process socket).listen message flush)) := by
  have step := WorkerProcess.listen_step (cluster.process socket) message flush
  have restEq : (cluster.toWorker socket).tail = rest := by rw [first, List.tail_cons]
  rw [takeMessage, restEq]
  refine located.thread ((located.formed socket).listen step) ?_ ?_
  · have passed := (WorkerProcess.listen_tokens (located.formed socket) step).append
      (List.Sublist.refl (startIds rest))
    rw [first, startIds_cons]
    simpa using passed
  · intro queryId member
    rw [WorkerProcess.listen_ends step] at member
    cases member

theorem Located.execute (located : Located cluster) {socket : Nat} {answers : StorageAnswers}
    {effect : ThreadEffect}
    (taken : (cluster.process socket).execute scripts answers = some effect) :
    Located (cluster.afterThread socket effect) := by
  have step := WorkerProcess.execute_step taken
  have unread : cluster =
      { cluster with
        toWorker := Function.update cluster.toWorker socket (cluster.toWorker socket) } := by
    rw [Function.update_eq_self]
  rw [unread]
  refine located.thread ((located.formed socket).execute step) ?_ ?_
  · have passed := (WorkerProcess.execute_tokens (located.formed socket) step).append
      (List.Sublist.refl (startIds (cluster.toWorker socket)))
    simpa using passed
  · exact fun queryId member => WorkerProcess.execute_ends step member

theorem threadEffect_cases {socket : Nat} {effect : ThreadEffect}
    (taken : cluster.threadEffect scripts label = some (socket, effect)) :
    (∃ flush message rest, label = .listen socket flush ∧
        cluster.toWorker socket = message :: rest ∧
        effect = (cluster.process socket).listen message flush) ∨
      ∃ answers, label = .execute socket answers ∧
        (cluster.process socket).execute scripts answers = some effect := by
  cases label with
  | listen found flush =>
      left
      simp only [threadEffect, Option.map_eq_some_iff, Prod.mk.injEq] at taken
      obtain ⟨message, head, rfl, rfl⟩ := taken
      obtain ⟨rest, messages⟩ := List.head?_eq_some_iff.mp head
      exact ⟨flush, message, rest, rfl, messages, rfl⟩
  | execute found answers =>
      right
      simp only [threadEffect, Option.map_eq_some_iff, Prod.mk.injEq] at taken
      obtain ⟨found, execution, rfl, rfl⟩ := taken
      exact ⟨answers, rfl, execution⟩
  | _ => cases taken

end Threads

section Handlers

theorem tokens_afterHandler {effect : Master × List Outgoing}
    (nothing : Master.StartsNothing effect.2) (socket : Nat) :
    (cluster.afterHandler effect).tokens socket = cluster.tokens socket := by
  simp [tokens, afterHandler, Master.startIds_messagesTo nothing]

theorem Located.afterHandler (located : Located cluster) {effect : Master × List Outgoing}
    (nothing : Master.StartsNothing effect.2) (sound : effect.1.Sound)
    (held : ∀ socket, ∀ queryId ∈ cluster.tokens socket, effect.1.Holds socket queryId)
    (endHeld : ∀ socket, ∀ queryId ∈ endIds (cluster.toMaster socket),
      effect.1.Holds socket queryId)
    (connected : ∀ socket ∈ effect.1.workerList, socket ∈ cluster.connected) :
    Located (cluster.afterHandler effect) where
  sound := sound
  formed := located.formed
  nodup socket := by
    rw [tokens_afterHandler nothing]
    exact located.nodup socket
  disjoint socket other queryId := by
    rw [tokens_afterHandler nothing, tokens_afterHandler nothing]
    exact located.disjoint socket other queryId
  held socket queryId := by
    rw [tokens_afterHandler nothing]
    exact held socket queryId
  endHeld := endHeld
  endsFirst := located.endsFirst
  connected := connected

/-- A handler that takes no report and starts no query. -/
theorem Located.silent (located : Located cluster) {effect : Master × List Outgoing}
    (nothing : Master.StartsNothing effect.2) (silent : cluster.master.Silent effect.1)
    (connected : ∀ socket ∈ effect.1.workerList, socket ∈ cluster.connected) :
    Located (cluster.afterHandler effect) :=
  located.afterHandler nothing (silent.sound located.sound)
    (fun socket queryId member =>
      (located.held socket queryId member).silent located.sound silent)
    (fun socket queryId member =>
      (located.endHeld socket queryId member).silent located.sound silent)
    connected

theorem Located.unchanged (located : Located cluster) {effect : Master × List Outgoing}
    (nothing : Master.StartsNothing effect.2) (same : effect.1 = cluster.master) :
    Located (cluster.afterHandler effect) := by
  apply located.silent nothing
  all_goals rw [same]
  · exact Master.Silent.refl cluster.master
  · exact located.connected

theorem Located.retire (located : Located cluster) {effect : Master × List Outgoing}
    {socket retired : Nat} (nothing : Master.StartsNothing effect.2)
    (runs : cluster.master.current socket = some retired)
    (retires : effect.1 = (cluster.master.releaseWorker socket).dropQuery retired) :
    Located (cluster.afterHandler effect) := by
  apply located.afterHandler nothing
  all_goals rw [retires]
  · exact located.sound.retire runs
  · exact fun found queryId member =>
      (located.held found queryId member).retire located.sound runs
  · exact fun found queryId member =>
      (located.endHeld found queryId member).retire located.sound runs
  · exact located.connected

theorem Located.take (located : Located cluster) (now : Nat) {socket : Nat} {report : WorkerReport}
    {rest : List WorkerReport} (first : cluster.toMaster socket = report :: rest) :
    Located (cluster.attend (.receive socket now)) := by
  have restEq : (cluster.toMaster socket).tail = rest := by rw [first, List.tail_cons]
  refine located.shrink rfl rfl located.formed ?_ ?_ ?_
  · intro found
    by_cases same : found = socket
    · simp only [same, tokens, attend, Function.update_self, restEq]
      have split : evictIds (cluster.toMaster socket) = evictIds [report] ++ evictIds rest := by
        rw [first, ← evictIds_append, List.singleton_append]
      rw [split]
      exact (List.sublist_append_right _ _).append (List.Sublist.refl _)
    · simp [same, tokens, attend]
  · intro found queryId member
    left
    by_cases same : found = socket
    · simp only [same, attend, Function.update_self, restEq] at member
      rw [same, first]
      exact mem_endIds.mpr (List.mem_cons_of_mem _ (mem_endIds.mp member))
    · simpa [same, attend] using member
  · intro found
    by_cases same : found = socket
    · have ordered := located.endsFirst socket
      rw [first] at ordered
      have restOrdered : EndsFirst rest := (List.pairwise_cons.mp ordered).2
      simpa [same, attend, restEq] using restOrdered
    · simpa [same, attend] using located.endsFirst found

theorem Located.endQuery (located : Located cluster) (now : Nat) {socket ended : Nat}
    {rest : List WorkerReport} (first : cluster.toMaster socket = .endQuery ended :: rest)
    (own : cluster.master.current socket = none ∨
      cluster.master.current socket = some ended) :
    Located ((cluster.attend (.receive socket now)).afterHandler
      (cluster.master.manageWorkerEndQuery socket ended)) := by
  have taken : Located (cluster.attend (.receive socket now)) := located.take now first
  have holds := located.endHeld socket ended (mem_endIds.mpr (by simp [first]))
  obtain ⟨nothing, ⟨_, same⟩ | ⟨_, notRunning, forgets⟩ | ⟨_, running, retires⟩⟩ :=
    located.sound.manageWorkerEndQuery_cases socket ended
  · exact taken.unchanged nothing same
  · have done : ∀ queryId, cluster.master.current socket = some queryId →
        queryId ∉ cluster.master.runningList := by
      intro queryId runs
      rcases own with idle | runsEnded
      · rw [idle] at runs
        cases runs
      · obtain rfl : ended = queryId := Option.some.inj (runsEnded.symm.trans runs)
        exact notRunning
    apply taken.afterHandler nothing
    all_goals rw [forgets]
    · exact located.sound.forgetQuery done
    · exact fun found queryId member => (taken.held found queryId member).forgetQuery done
    · exact fun found queryId member => (taken.endHeld found queryId member).forgetQuery done
    · exact taken.connected
  · have runs := (holds.running (located.sound.queries.running_listed running)).2
    exact taken.retire nothing runs retires

theorem Located.storageError (located : Located cluster) (now : Nat)
    {socket messageId : Nat}
    {reason : String} {rest : List WorkerReport}
    (first : cluster.toMaster socket = .storageError messageId reason :: rest) :
    Located ((cluster.attend (.receive socket now)).afterHandler
      (cluster.master.handleErrorFromStorage socket messageId reason)) := by
  have taken : Located (cluster.attend (.receive socket now)) := located.take now first
  obtain ⟨nothing, same | ⟨retired, running, runs, retires⟩⟩ :=
    located.sound.handleErrorFromStorage_cases socket messageId reason
  · exact taken.unchanged nothing same
  · exact taken.retire nothing runs retires

/-- A query that comes back from its Worker has no token any more. -/
theorem Located.evicted (located : Located cluster) (now : Nat)
    {socket evicted programCounter : Nat}
    {rest : List WorkerReport}
    (first : cluster.toMaster socket = .evictRes evicted programCounter :: rest)
    (found : Nat) : evicted ∉ (cluster.attend (.receive socket now)).tokens found := by
  have restEq : (cluster.toMaster socket).tail = rest := by rw [first, List.tail_cons]
  have token : evicted ∈ cluster.tokens socket := by
    refine List.mem_append_left _ (mem_evictIds.mpr ⟨programCounter, ?_⟩)
    rw [first]
    exact List.mem_cons_self
  intro member
  by_cases same : found = socket
  · have nodup := located.nodup socket
    rw [tokens, first] at nodup
    change (evicted :: (evictIds rest ++ _)).Nodup at nodup
    simp only [same, tokens, attend, Function.update_self, restEq] at member
    exact (List.nodup_cons.mp nodup).1 member
  · have elsewhere : evicted ∈ cluster.tokens found := by
      simpa [tokens, attend, same] using member
    exact same (located.disjoint found socket evicted elsewhere token)

/-- No end is on its way for a query that comes back from its Worker. -/
theorem Located.not_ended (located : Located cluster) (now : Nat)
    {socket evicted programCounter : Nat} {rest : List WorkerReport}
    (first : cluster.toMaster socket = .evictRes evicted programCounter :: rest)
    (listed : evicted ∈ cluster.master.queryList)
    (runs : cluster.master.current socket = some evicted) (found : Nat) :
    evicted ∉ endIds ((cluster.attend (.receive socket now)).toMaster found) := by
  have restEq : (cluster.toMaster socket).tail = rest := by rw [first, List.tail_cons]
  intro member
  by_cases same : found = socket
  · simp only [same, attend, Function.update_self, restEq] at member
    have ordered := located.endsFirst socket
    rw [first] at ordered
    exact (List.pairwise_cons.mp ordered).1 _ (mem_endIds.mp member) evicted programCounter
      rfl rfl
  · have elsewhere : evicted ∈ endIds (cluster.toMaster found) := by
      simpa [attend, same] using member
    have foundRuns := ((located.endHeld found evicted elsewhere).running listed).2
    exact same (located.sound.assignments.unique found socket evicted foundRuns runs listed)

theorem Located.evictRes (located : Located cluster) (now : Nat)
    {socket evicted programCounter : Nat}
    {rest : List WorkerReport}
    (first : cluster.toMaster socket = .evictRes evicted programCounter :: rest) :
    Located ((cluster.attend (.receive socket now)).afterHandler
      (cluster.master.manageWorkerEvictResponse socket evicted programCounter now, [])) := by
  have taken : Located (cluster.attend (.receive socket now)) := located.take now first
  have token : evicted ∈ cluster.tokens socket := by
    refine List.mem_append_left _ (mem_evictIds.mpr ⟨programCounter, ?_⟩)
    rw [first]
    exact List.mem_cons_self
  have holder : evicted ∈ cluster.master.runningList → socket ∈ cluster.master.workerList →
      cluster.master.current socket = some evicted := fun running _ =>
    ((located.held socket evicted token).running
      (located.sound.queries.running_listed running)).2
  rcases located.sound.manageWorkerEvictResponse_cases programCounter now holder with
    ⟨_, same⟩ | ⟨runs, running, retires | requeues⟩
  · exact taken.unchanged Master.startsNothing_nil same
  · exact taken.retire Master.startsNothing_nil runs retires
  · apply taken.afterHandler Master.startsNothing_nil
    all_goals rw [requeues]
    · exact located.sound.requeue runs running
    · intro found queryId member
      refine (taken.held found queryId member).requeue located.sound runs ?_
      rintro rfl
      exact located.evicted now first found member
    · intro found queryId member
      refine (taken.endHeld found queryId member).requeue located.sound runs ?_
      rintro rfl
      exact located.not_ended now first (located.sound.queries.running_listed running) runs found
        member
    · exact taken.connected

theorem Located.dispatch (located : Located cluster) (config : MasterConfig) (sent : Bool) :
    Located (cluster.afterHandler (cluster.master.tryDispatch config sent)) := by
  rcases located.sound.tryDispatch_cases config sent with
    ⟨quiet, nothing⟩ | ⟨socket, idleRest, queryId, readyRest, worker, query, idle, ready,
      workerBlock, queryBlock, assigned⟩
  · apply located.silent
    · rw [nothing]
      exact Master.startsNothing_nil
    · exact .quiet quiet
    · rw [quiet.workerList]
      exact located.connected
  · rw [assigned]
    have isReady : queryId ∈ cluster.master.readyQueue := by simp [ready]
    have isIdle : socket ∈ cluster.master.idleList := by simp [idle]
    have listed := (located.sound.queries.queued_iff queryId).mpr (Or.inl isReady)
    have absent : ∀ found, queryId ∉ cluster.tokens found := by
      intro found member
      exact located.sound.queries.not_running isReady
        ((located.held found queryId member).running listed).1
    have tokensEq : ∀ found, (cluster.afterHandler
        (cluster.master.assignQuery socket queryId worker.workerId,
          [.toWorker socket (.startQuery queryId query.programCounter
            query.queryFilePath)])).tokens found =
        cluster.tokens found ++ if found = socket then [queryId] else [] := by
      intro found
      by_cases same : found = socket
      · simp [same, tokens, Cluster.afterHandler, Master.messagesTo]
      · simp [same, Ne.symm same, tokens, Cluster.afterHandler, Master.messagesTo]
    have memberIff : ∀ found token, token ∈ (cluster.afterHandler
        (cluster.master.assignQuery socket queryId worker.workerId,
          [.toWorker socket (.startQuery queryId query.programCounter
            query.queryFilePath)])).tokens found ↔
        token ∈ cluster.tokens found ∨ (found = socket ∧ token = queryId) := by
      intro found token
      rw [tokensEq, List.mem_append]
      split
      · rename_i same
        simp [same]
      · rename_i different
        simp [different]
    refine ⟨located.sound.assignQuery ready idle workerBlock, located.formed, ?_, ?_, ?_, ?_,
      located.endsFirst, located.connected⟩
    · intro found
      rw [tokensEq]
      split
      · exact (List.perm_append_singleton _ _).nodup_iff.mpr
          (List.nodup_cons.mpr ⟨absent found, located.nodup found⟩)
      · simpa using located.nodup found
    · intro first second token firstMember secondMember
      rcases (memberIff first token).mp firstMember with old | ⟨rfl, rfl⟩
      · rcases (memberIff second token).mp secondMember with otherOld | ⟨_, rfl⟩
        · exact located.disjoint first second token old otherOld
        · exact absurd old (absent first)
      · rcases (memberIff second token).mp secondMember with otherOld | ⟨same, _⟩
        · exact absurd otherOld (absent second)
        · exact same.symm
    · intro found token member
      rcases (memberIff found token).mp member with old | ⟨rfl, rfl⟩
      · exact (located.held found token old).assignQuery located.sound isIdle workerBlock _
      · exact Master.holds_assignQuery located.sound isReady workerBlock _
    · exact fun found token member =>
        (located.endHeld found token member).assignQuery located.sound isIdle workerBlock _

theorem Located.newQuery (located : Located cluster) (config : MasterConfig) (path : String)
    (priority client now : Nat) :
    Located ((cluster.attend (.newQuery path priority client now)).afterHandler
      (cluster.master.createQuery config path priority client now, [])) := by
  have attended : Located (cluster.attend (.newQuery path priority client now)) := by
    obtain ⟨sound, formed, nodup, disjoint, held, endHeld, endsFirst, connected⟩ := located
    exact ⟨sound, formed, nodup, disjoint, held, endHeld, endsFirst, connected⟩
  apply attended.afterHandler Master.startsNothing_nil
  · exact located.sound.createQuery config path priority now
  · exact fun found queryId member =>
      (located.held found queryId member).createQuery config path priority client now
  · exact fun found queryId member =>
      (located.endHeld found queryId member).createQuery config path priority client now
  · dsimp only
    rw [Master.createQuery, Master.enqueueReady_eq]
    exact located.connected

/-- The labels of the handlers that change what the Workers are to do. -/
def Moves : ClusterLabel → Prop
  | .newQuery _ _ _ _ => True
  | .receive _ _ => True
  | .dispatch _ => True
  | _ => False

/-- The other handlers are silent, and the workers they leave are known or have just
connected. -/
theorem Located.silent_handler (located : Located cluster) {effect : Master × List Outgoing}
    (handled : cluster.handlerEffect config label = some effect) (rests : ¬ Moves label) :
    Master.StartsNothing effect.2 ∧ cluster.master.Silent effect.1 ∧
      ∀ socket ∈ effect.1.workerList, socket ∈ cluster.master.workerList ∨
        (socket ∉ cluster.connected ∧ socket ∈ (cluster.attend label).connected) := by
  cases label with
  | handshake workerId socket =>
      simp only [handlerEffect] at handled
      split at handled
      · rename_i usable
        obtain rfl := Option.some.inj handled
        refine ⟨Master.startsNothing_nil, ?_⟩
        unfold Master.manageWorkerHandshake
        split
        · exact ⟨Master.Silent.refl cluster.master, fun found listed => Or.inl listed⟩
        · refine ⟨.connect workerId socket
            (fun listed => usable.2 (located.connected socket listed)) usable.1, ?_⟩
          intro found listed
          rcases List.mem_append.mp listed with old | new
          · exact Or.inl old
          · rw [List.mem_singleton.mp new]
            exact Or.inr ⟨usable.2, List.mem_cons_self⟩
      · cases handled
  | newQuery path priority socket now => exact absurd trivial rests
  | receive socket now => exact absurd trivial rests
  | disconnectQueryControl sent socket =>
      obtain rfl := Option.some.inj handled
      obtain ⟨nothing, quiet | ⟨queryId, query, _, _, _, drops⟩⟩ :=
        located.sound.handleQueryControlDisconnection_cases sent socket
      · refine ⟨nothing, .quiet quiet, ?_⟩
        rw [quiet.workerList]
        exact fun found listed => Or.inl listed
      · rw [drops]
        exact ⟨nothing, .drop queryId, fun found listed => Or.inl listed⟩
  | disconnectWorker socket =>
      obtain rfl := Option.some.inj handled
      obtain ⟨nothing, same | ⟨done, leaves⟩ | ⟨queryId, runs, abandons⟩⟩ :=
        located.sound.handleWorkerDisconnection_cases socket
      · rw [same]
        exact ⟨nothing, Master.Silent.refl cluster.master, fun found listed => Or.inl listed⟩
      · rw [leaves]
        exact ⟨nothing, .leave socket done, fun found listed =>
          Or.inl (List.mem_of_mem_erase listed)⟩
      · rw [abandons]
        exact ⟨nothing, .abandon socket queryId runs, fun found listed =>
          Or.inl (List.mem_of_mem_erase listed)⟩
  | aging now =>
      obtain rfl := Option.some.inj handled
      have quiet : Master.Quiet cluster.master (cluster.master.agingPass config now) :=
        Master.quiet_agingPass config now
      refine ⟨Master.startsNothing_nil, .quiet quiet, ?_⟩
      rw [quiet.workerList]
      exact fun found listed => Or.inl listed
  | checkPreemption sent =>
      obtain rfl := Option.some.inj handled
      obtain ⟨quiet, nothing⟩ := located.sound.checkPreemption sent
      refine ⟨nothing, .quiet quiet, ?_⟩
      rw [quiet.workerList]
      exact fun found listed => Or.inl listed
  | dispatch sent => exact absurd trivial rests
  | listen socket flush => cases handled
  | execute socket answers => cases handled

/-- What happens besides a silent handler does not matter for the tokens. -/
theorem Located.attend (located : Located cluster) (rests : ¬ Moves label) :
    Located (cluster.attend label) := by
  obtain ⟨sound, formed, nodup, disjoint, held, endHeld, endsFirst, connected⟩ := located
  cases label with
  | handshake workerId socket =>
      exact ⟨sound, formed, nodup, disjoint, held, endHeld, endsFirst,
        fun found listed => List.mem_cons_of_mem socket (connected found listed)⟩
  | receive socket now => exact absurd trivial rests
  | newQuery path priority socket now => exact absurd trivial rests
  | _ => exact ⟨sound, formed, nodup, disjoint, held, endHeld, endsFirst, connected⟩

theorem master_attend (cluster : Cluster) (label : ClusterLabel) :
    (cluster.attend label).master = cluster.master := by
  cases label <;> rfl

end Handlers

section Steps

/-- The condition under which no Worker is made to forget a query by the end of
another one. -/
def EndsOwn (cluster : Cluster) : ClusterLabel → Prop
  | .receive socket _ => ∀ ended, (cluster.toMaster socket).head? = some (.endQuery ended) →
      cluster.master.current socket = none ∨ cluster.master.current socket = some ended
  | _ => True

/-- The report that is taken ends what its Worker runs, if it ends a query. -/
def ownReport (cluster : Cluster) (socket : Nat) : WorkerReport → Prop
  | .endQuery ended =>
    cluster.master.current socket = none ∨ cluster.master.current socket = some ended
  | .evictRes _ _ | .storageError _ _ => True

instance (cluster : Cluster) (socket : Nat) (report : WorkerReport) :
    Decidable (cluster.ownReport socket report) :=
  match report with
  | .endQuery ended =>
    inferInstanceAs (Decidable
      (cluster.master.current socket = none ∨ cluster.master.current socket = some ended))
  | .evictRes _ _ | .storageError _ _ => isTrue trivial

theorem endsOwn_receive {now : Nat} : (∀ report ∈ (cluster.toMaster socket).head?,
    cluster.ownReport socket report) ↔ cluster.EndsOwn (.receive socket now) := by
  constructor
  · intro own ended first
    exact own (.endQuery ended) first
  · intro own report first
    cases report with
    | endQuery ended => exact own ended first
    | evictRes => trivial
    | storageError => trivial

instance (cluster : Cluster) (label : ClusterLabel) : Decidable (cluster.EndsOwn label) :=
  match label with
  | .receive _ _ => decidable_of_iff _ endsOwn_receive
  | .aging _ | .checkPreemption _ | .dispatch _ | .handshake _ _ | .newQuery _ _ _ _
  | .disconnectQueryControl _ _ | .disconnectWorker _ | .listen _ _ | .execute _ _ =>
    isTrue trivial

theorem next_cases (step : cluster.next config scripts label = some after) :
    (∃ effect, cluster.handlerEffect config label = some effect ∧
        after = (cluster.attend label).afterHandler effect) ∨
      ∃ socket effect, cluster.threadEffect scripts label = some (socket, effect) ∧
        after = (cluster.takeMessage label).afterThread socket effect := by
  unfold next at step
  cases handled : cluster.handlerEffect config label with
  | some effect =>
      rw [handled] at step
      exact Or.inl ⟨effect, rfl, (Option.some.inj step).symm⟩
  | none =>
      rw [handled] at step
      obtain ⟨⟨socket, effect⟩, taken, rfl⟩ := Option.map_eq_some_iff.mp step
      exact Or.inr ⟨socket, effect, taken, rfl⟩

theorem Located.thread_step (located : Located cluster) {socket : Nat} {effect : ThreadEffect}
    (taken : cluster.threadEffect scripts label = some (socket, effect)) :
    Located ((cluster.takeMessage label).afterThread socket effect) := by
  rcases threadEffect_cases taken with
    ⟨flush, message, rest, rfl, first, rfl⟩ | ⟨answers, rfl, execution⟩
  · exact located.listen first
  · exact located.execute execution

theorem Located.handler_step (located : Located cluster) {effect : Master × List Outgoing}
    (handled : cluster.handlerEffect config label = some effect)
    (own : cluster.EndsOwn label) : Located ((cluster.attend label).afterHandler effect) := by
  by_cases moves : Moves label
  · cases label with
    | newQuery path priority client now =>
        obtain rfl := Option.some.inj handled
        exact located.newQuery config path priority client now
    | receive socket now =>
        obtain ⟨report, head, rfl⟩ := Option.map_eq_some_iff.mp handled
        obtain ⟨rest, first⟩ := List.head?_eq_some_iff.mp head
        cases report with
        | endQuery ended => exact located.endQuery now first (own ended head)
        | evictRes evicted programCounter => exact located.evictRes now first
        | storageError messageId reason => exact located.storageError now first
    | dispatch sent =>
        obtain rfl := Option.some.inj handled
        exact located.dispatch config sent
    | _ => exact absurd moves id
  · obtain ⟨nothing, silent, workers⟩ := located.silent_handler handled moves
    have attended := located.attend moves
    apply attended.silent nothing
    · rw [master_attend]
      exact silent
    · intro socket listed
      rcases workers socket listed with known | ⟨_, connected⟩
      · rw [← master_attend cluster label] at known
        exact attended.connected socket known
      · exact connected

theorem Located.step (located : Located cluster) (own : cluster.EndsOwn label)
    (step : cluster.next config scripts label = some after) : Located after := by
  rcases next_cases step with ⟨effect, handled, rfl⟩ | ⟨socket, effect, taken, rfl⟩
  · exact located.handler_step handled own
  · exact located.thread_step taken

/-- Along every run that keeps the condition, every token is where the Master says
that its query runs. -/
theorem located_of_reachable
    (reachable : ((system config scripts).guarded EndsOwn).Reachable cluster) :
    Located cluster := by
  refine reachable.invariant ?_ ?_
  · rintro first rfl
    exact located_started
  · intro before label after located step
    exact located.step step.1 step.2

end Steps

end Cluster

end MasterOfFiles
