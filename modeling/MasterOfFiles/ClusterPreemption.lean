import MasterOfFiles.ClusterAnswers

/-!
# Preemption preserves the program of a query

The program counter that travels with a query counts the instructions of it that
were executed, wherever the query is: ready, on its way to a Worker, at a Worker, or
on its way back.  So the instructions of a query are executed once each and in
order, on however many Workers they are executed.
-/

namespace MasterOfFiles

namespace Cluster

variable {config : MasterConfig} {scripts : Scripts} {cluster after : Cluster}
variable {label : ClusterLabel} {socket : Nat}

/-- The instructions of the script of a query, in order. -/
def program (scripts : Scripts) (cluster : Cluster) (queryId : Nat) : List QueryContext :=
  (List.range (scripts.lines (cluster.submitted queryId)).length).map fun programCounter =>
    ⟨cluster.submitted queryId, queryId, programCounter⟩

/-- The first instructions of a query were executed, once each and in order, and no
other. -/
def Progress (cluster : Cluster) (queryId count : Nat) : Prop :=
  cluster.executed queryId = (List.range count).map fun programCounter =>
    ⟨cluster.submitted queryId, queryId, programCounter⟩

/-- A query on its way to a Worker, at a Worker or on its way back, with the program
counter that travels with it. -/
inductive Travels (cluster : Cluster) (socket : Nat) : QueryContext → Prop
  | sent {queryId programCounter : Nat} {path : String}
      (message : .startQuery queryId programCounter path ∈ cluster.toWorker socket) :
      Travels cluster socket ⟨path, queryId, programCounter⟩
  | held {context : QueryContext} (carries : (cluster.process socket).Carries context) :
      Travels cluster socket context
  | evicted {queryId programCounter : Nat}
      (report : .evictRes queryId programCounter ∈ cluster.toMaster socket) :
      Travels cluster socket ⟨cluster.submitted queryId, queryId, programCounter⟩

/-- The program counters count the executed instructions. -/
structure Faithful (scripts : Scripts) (cluster : Cluster) : Prop where
  travels : ∀ socket context, cluster.Travels socket context →
    context.queryPath = cluster.submitted context.queryId ∧
      cluster.Progress context.queryId context.programCounter
  ready : ∀ queryId ∈ cluster.master.readyQueue, ∀ query,
    cluster.master.query queryId = some query → cluster.Progress queryId query.programCounter
  path : ∀ queryId query, cluster.master.query queryId = some query →
    query.queryFilePath = cluster.submitted queryId
  bounded : ∀ queryId, ∃ count ≤ (scripts.lines (cluster.submitted queryId)).length,
    cluster.Progress queryId count
  fresh : ∀ queryId, cluster.master.nextQueryId ≤ queryId → cluster.executed queryId = []

theorem Travels.token {context : QueryContext} (travels : cluster.Travels socket context) :
    context.queryId ∈ cluster.tokens socket := by
  cases travels with
  | sent message =>
      refine List.mem_append_right _ (List.mem_append_right _ (List.mem_append_right _ ?_))
      exact mem_startIds.mpr ⟨_, _, message⟩
  | held carries =>
      refine List.mem_append_right _ ?_
      rcases carries.token with active | assigned
      · exact List.mem_append_left _ active
      · exact List.mem_append_right _ (List.mem_append_left _ assigned)
  | evicted report => exact List.mem_append_left _ (mem_evictIds.mpr ⟨_, report⟩)

theorem faithful_started (scripts : Scripts) : Faithful scripts started where
  travels socket context travels := by
    have token := travels.token
    rw [tokens_started] at token
    cases token
  ready queryId member := by simp [started, initMaster] at member
  path queryId query block := by simp [started, initMaster] at block
  bounded queryId := ⟨0, Nat.zero_le _, rfl⟩
  fresh _ _ := rfl

section Threads

/-- An assigned query waits for another one to be ended. -/
theorem Orderly.not_awaits (orderly : Orderly cluster) {advanced : QueryContext}
    (advancing : (cluster.process socket).executor = .advancing advanced) :
    ¬ (cluster.process socket).Awaits := by
  intro awaits
  have single := orderly.single socket
  simp only [due, List.length_append, WorkerProcess.unfinishedIds, advancing,
    WorkerProcess.assignedIds, awaits, if_true, Executor.unfinished, Executor.active,
    Executor.context, Option.map_some, Option.toList_some, List.length_cons,
    List.length_nil] at single
  omega

/-- The query of an instruction travels nowhere else. -/
theorem Located.active_unique (located : Located cluster) {executed : QueryContext}
    (executing : (cluster.process socket).executor = .executing executed) {found : Nat} :
    (executed.queryId ∈ cluster.tokens found → found = socket) ∧
      executed.queryId ∉ startIds (cluster.toWorker socket) ∧
      executed.queryId ∉ evictIds (cluster.toMaster socket) := by
  have active : executed.queryId ∈ (cluster.process socket).activeIds := by
    simp [WorkerProcess.activeIds, executing, Executor.active, Executor.context]
  have token : executed.queryId ∈ cluster.tokens socket :=
    List.mem_append_right _ (List.mem_append_left _ active)
  have nodup := List.nodup_append.mp (located.nodup socket)
  refine ⟨fun member => located.disjoint found socket _ member token, ?_, ?_⟩
  · intro started
    exact (List.nodup_append.mp nodup.2.1).2.2 _ active _ (List.mem_append_right _ started) rfl
  · intro evicted
    exact nodup.2.2 _ evicted _ (List.mem_append_left _ active) rfl

/-- What travels after a step of the executor travelled before, unless it is the query
whose instruction was executed. -/
theorem Orderly.travels_execute (orderly : Orderly cluster) {answers : StorageAnswers}
    {effect : ThreadEffect}
    (execution : (cluster.process socket).execute scripts answers = some effect)
    {found : Nat} {context : QueryContext}
    (travels : (cluster.afterThread socket effect).Travels found context) :
    (∃ path, cluster.Travels found ⟨path, context.queryId, context.programCounter⟩ ∧
        (path = cluster.submitted context.queryId →
          context.queryPath = cluster.submitted context.queryId) ∧
        ∀ executed, effect.executedInstruction = some executed →
          context.queryId ≠ executed.queryId) ∨
      ∃ executed, effect.executedInstruction = some executed ∧
        context = { executed with programCounter := executed.programCounter + 1 } := by
  have step := WorkerProcess.execute_step execution
  have unique : ∀ executed, effect.executedInstruction = some executed →
      (executed.queryId ∈ cluster.tokens found → found = socket) ∧
      executed.queryId ∉ startIds (cluster.toWorker socket) ∧
      executed.queryId ∉ evictIds (cluster.toMaster socket) := fun executed isExecuted =>
    orderly.located.active_unique (WorkerProcess.execute_instruction step isExecuted).1
  cases travels with
  | sent message =>
      rename_i queryId programCounter path
      have before : cluster.Travels found ⟨path, queryId, programCounter⟩ := .sent message
      refine Or.inl ⟨path, before, fun same => same, ?_⟩
      rintro executed isExecuted rfl
      obtain rfl := (unique executed isExecuted).1 before.token
      exact (unique executed isExecuted).2.1 (mem_startIds.mpr ⟨_, _, message⟩)
  | held carries =>
      by_cases same : found = socket
      · rw [same] at carries ⊢
        simp only [afterThread, Function.update_self] at carries
        rcases WorkerProcess.execute_carries (orderly.located.formed socket)
            (fun advanced advancing => orderly.not_awaits advancing) step carries with
          ⟨noInstruction, before⟩ | ⟨executed, isExecuted, advanced | ⟨awaits, rfl⟩⟩
        · refine Or.inl ⟨context.queryPath, .held before, fun same => same, ?_⟩
          intro executed isExecuted
          rw [noInstruction] at isExecuted
          cases isExecuted
        · exact Or.inr ⟨executed, isExecuted, advanced⟩
        · refine Or.inl ⟨_, .held (Or.inl ⟨awaits, rfl⟩), fun same => same, ?_⟩
          rintro other isOther sameId
          have executing := (WorkerProcess.execute_instruction step isOther).1
          refine awaits.2.2 ?_
          rw [executing, sameId]
          rfl
      · simp only [afterThread, Function.update_of_ne same] at carries
        have before : cluster.Travels found context := .held carries
        refine Or.inl ⟨context.queryPath, before, fun same => same, ?_⟩
        intro executed isExecuted sameId
        have token := before.token
        rw [sameId] at token
        exact same ((unique executed isExecuted).1 token)
  | evicted report =>
      rename_i queryId programCounter
      have old : ∀ {found}, .evictRes queryId programCounter ∈ cluster.toMaster found →
          cluster.Travels found ⟨cluster.submitted queryId, queryId, programCounter⟩ :=
        fun member => .evicted member
      by_cases same : found = socket
      · rw [same] at report ⊢
        simp only [afterThread, Function.update_self] at report
        rcases List.mem_append.mp report with before | now
        · refine Or.inl ⟨_, old before, fun _ => rfl, ?_⟩
          rintro executed isExecuted rfl
          exact (unique executed isExecuted).2.2 (mem_evictIds.mpr ⟨_, before⟩)
        · obtain ⟨noInstruction, path, carries⟩ := WorkerProcess.execute_evicts step now
          refine Or.inl ⟨path, .held carries, fun _ => rfl, ?_⟩
          intro executed isExecuted
          rw [noInstruction] at isExecuted
          cases isExecuted
      · simp only [afterThread, Function.update_of_ne same] at report
        refine Or.inl ⟨_, old report, fun _ => rfl, ?_⟩
        rintro executed isExecuted rfl
        exact same ((unique executed isExecuted).1 (old report).token)

theorem Orderly.travels_listen (orderly : Orderly cluster) {flush : Option String}
    {message : WorkerMessage} {rest : List WorkerMessage}
    (first : cluster.toWorker socket = message :: rest) {found : Nat} {context : QueryContext}
    (travels : ((cluster.takeMessage (.listen socket flush)).afterThread socket
      ((cluster.process socket).listen message flush)).Travels found context) :
    ∃ path, cluster.Travels found ⟨path, context.queryId, context.programCounter⟩ ∧
      (path = cluster.submitted context.queryId →
        context.queryPath = cluster.submitted context.queryId) := by
  have step := WorkerProcess.listen_step (cluster.process socket) message flush
  cases travels with
  | sent member =>
      rename_i queryId programCounter path
      refine ⟨path, .sent ?_, fun same => same⟩
      by_cases same : found = socket
      · simp only [same, afterThread, takeMessage, Function.update_self] at member
        rw [same]
        exact List.mem_of_mem_tail member
      · simpa [afterThread, takeMessage, same] using member
  | held carries =>
      refine ⟨context.queryPath, ?_, fun same => same⟩
      by_cases same : found = socket
      · rw [same] at carries ⊢
        simp only [afterThread, Function.update_self] at carries
        rcases WorkerProcess.listen_carries step carries with before | started
        · exact .held before
        · refine .sent ?_
          rw [first, started]
          exact List.mem_cons_self
      · simp only [afterThread, takeMessage, Function.update_of_ne same] at carries
        exact .held carries
  | evicted report =>
      rename_i queryId programCounter
      by_cases same : found = socket
      · rw [same] at report ⊢
        simp only [afterThread, takeMessage, Function.update_self] at report
        rcases List.mem_append.mp report with before | now
        · exact ⟨_, .evicted before, fun _ => rfl⟩
        · obtain ⟨path, carries⟩ :=
            WorkerProcess.listen_evicts (orderly.located.formed socket) step now
          exact ⟨path, .held carries, fun _ => rfl⟩
      · simp only [afterThread, takeMessage, Function.update_of_ne same] at report
        exact ⟨_, .evicted report, fun _ => rfl⟩

theorem progress_afterThread {effect : ThreadEffect} {queryId count : Nat}
    (other : ∀ executed, effect.executedInstruction = some executed →
      queryId ≠ executed.queryId) :
    (cluster.afterThread socket effect).Progress queryId count ↔
      cluster.Progress queryId count := by
  unfold Progress afterThread
  cases executed : effect.executedInstruction with
  | none => exact Iff.rfl
  | some context =>
      simp only [afterInstruction, Function.update_of_ne (other context executed)]

theorem Progress.instruction {effect : ThreadEffect} {executed : QueryContext}
    (isExecuted : effect.executedInstruction = some executed)
    (pathEq : executed.queryPath = cluster.submitted executed.queryId)
    (progress : cluster.Progress executed.queryId executed.programCounter) :
    (cluster.afterThread socket effect).Progress executed.queryId
      (executed.programCounter + 1) := by
  unfold Progress at *
  simp only [afterThread, isExecuted, afterInstruction, Function.update_self]
  rw [progress, List.range_succ, List.map_append, List.map_singleton, ← pathEq]

theorem Faithful.execute (faithful : Faithful scripts cluster) (orderly : Orderly cluster)
    {answers : StorageAnswers} {effect : ThreadEffect}
    (execution : (cluster.process socket).execute scripts answers = some effect) :
    Faithful scripts (cluster.afterThread socket effect) := by
  have step := WorkerProcess.execute_step execution
  have located := orderly.located
  have executedTravels : ∀ executed, effect.executedInstruction = some executed →
      cluster.Travels socket executed := fun executed isExecuted =>
    .held (Or.inr (by
      rw [(WorkerProcess.execute_instruction step isExecuted).1]
      rfl))
  refine ⟨?_, ?_, faithful.path, ?_, ?_⟩
  · intro found context travels
    rcases orderly.travels_execute execution travels with
      ⟨path, before, samePath, other⟩ | ⟨executed, isExecuted, rfl⟩
    · obtain ⟨pathEq, progress⟩ := faithful.travels found _ before
      exact ⟨samePath pathEq, (progress_afterThread other).mpr progress⟩
    · obtain ⟨pathEq, progress⟩ :=
        faithful.travels socket executed (executedTravels executed isExecuted)
      exact ⟨pathEq, progress.instruction isExecuted pathEq⟩
  · intro queryId ready query block
    refine (progress_afterThread ?_).mpr (faithful.ready queryId ready query block)
    rintro executed isExecuted rfl
    have holds := located.held socket _ (executedTravels executed isExecuted).token
    have listed := (located.sound.queries.queued_iff _).mpr (Or.inl ready)
    exact located.sound.queries.not_running ready (holds.running listed).1
  · intro queryId
    by_cases same : ∃ executed, effect.executedInstruction = some executed ∧
        queryId = executed.queryId
    · obtain ⟨executed, isExecuted, rfl⟩ := same
      obtain ⟨pathEq, progress⟩ :=
        faithful.travels socket executed (executedTravels executed isExecuted)
      have present := (WorkerProcess.execute_instruction step isExecuted).2
      unfold WorkerProcess.Present at present
      rw [pathEq] at present
      exact ⟨executed.programCounter + 1, present, progress.instruction isExecuted pathEq⟩
    · obtain ⟨count, bound, progress⟩ := faithful.bounded queryId
      refine ⟨count, bound, (progress_afterThread ?_).mpr progress⟩
      exact fun executed isExecuted sameId => same ⟨executed, isExecuted, sameId⟩
  · intro queryId unknown
    have old := faithful.fresh queryId unknown
    cases executed : effect.executedInstruction with
    | none => simpa [afterThread, executed, afterInstruction] using old
    | some context =>
        have holds := located.held socket _ (executedTravels context executed).token
        have different : queryId ≠ context.queryId := by
          rintro rfl
          exact absurd holds.bounded (Nat.not_lt.mpr unknown)
        simpa [afterThread, executed, afterInstruction, different] using old

theorem Faithful.listen (faithful : Faithful scripts cluster) (orderly : Orderly cluster)
    {flush : Option String} {message : WorkerMessage} {rest : List WorkerMessage}
    (first : cluster.toWorker socket = message :: rest) :
    Faithful scripts ((cluster.takeMessage (.listen socket flush)).afterThread socket
      ((cluster.process socket).listen message flush)) := by
  have step := WorkerProcess.listen_step (cluster.process socket) message flush
  have noInstruction := WorkerProcess.listen_instruction step
  have executedEq : ((cluster.takeMessage (.listen socket flush)).afterThread socket
      ((cluster.process socket).listen message flush)).executed = cluster.executed := by
    simp only [afterThread, noInstruction, afterInstruction]
    rfl
  have progressEq : ∀ queryId count, ((cluster.takeMessage (.listen socket flush)).afterThread
      socket ((cluster.process socket).listen message flush)).Progress queryId count ↔
        cluster.Progress queryId count := by
    intro queryId count
    unfold Progress
    rw [executedEq]
    rfl
  refine ⟨?_, ?_, faithful.path, ?_, ?_⟩
  · intro found context travels
    obtain ⟨path, before, samePath⟩ := orderly.travels_listen first travels
    obtain ⟨pathEq, progress⟩ := faithful.travels found _ before
    exact ⟨samePath pathEq, (progressEq _ _).mpr progress⟩
  · intro queryId ready query block
    exact (progressEq _ _).mpr (faithful.ready queryId ready query block)
  · intro queryId
    obtain ⟨count, bound, progress⟩ := faithful.bounded queryId
    exact ⟨count, bound, (progressEq _ _).mpr progress⟩
  · rw [executedEq]
    exact faithful.fresh

end Threads

section Handlers

theorem travels_afterHandler {effect : Master × List Outgoing}
    (nothing : Master.StartsNothing effect.2) {found : Nat} {context : QueryContext}
    (travels : (cluster.afterHandler effect).Travels found context) :
    cluster.Travels found context := by
  cases travels with
  | sent message =>
      rcases List.mem_append.mp message with old | new
      · exact .sent old
      · have started := mem_startIds.mpr ⟨_, _, new⟩
        rw [Master.startIds_messagesTo nothing] at started
        cases started
  | held carries => exact .held carries
  | evicted report => exact .evicted report

/-- A handler that starts no query keeps the counts if the blocks do. -/
theorem Faithful.afterHandler (faithful : Faithful scripts cluster)
    {effect : Master × List Outgoing} (nothing : Master.StartsNothing effect.2)
    (ready : ∀ queryId ∈ effect.1.readyQueue, ∀ query, effect.1.query queryId = some query →
      cluster.Progress queryId query.programCounter)
    (path : ∀ queryId query, effect.1.query queryId = some query →
      query.queryFilePath = cluster.submitted queryId)
    (nextEq : cluster.master.nextQueryId ≤ effect.1.nextQueryId) :
    Faithful scripts (cluster.afterHandler effect) where
  travels found context travels :=
    faithful.travels found context (travels_afterHandler nothing travels)
  ready := ready
  path := path
  bounded := faithful.bounded
  fresh queryId unknown := faithful.fresh queryId (Nat.le_trans nextEq unknown)

theorem Faithful.attend (faithful : Faithful scripts cluster) (rests : ¬ Moves label) :
    Faithful scripts (cluster.attend label) := by
  cases label with
  | handshake workerId socket =>
      obtain ⟨travels, ready, path, bounded, fresh⟩ := faithful
      refine ⟨?_, ready, path, bounded, fresh⟩
      intro found context after
      refine travels found context ?_
      cases after with
      | sent message => exact .sent message
      | held carries => exact .held carries
      | evicted report => exact .evicted report
  | newQuery path priority client now => exact absurd trivial rests
  | receive found now => exact absurd trivial rests
  | _ => exact faithful

theorem Faithful.silent (faithful : Faithful scripts cluster) (orderly : Orderly cluster)
    {effect : Master × List Outgoing}
    (handled : cluster.handlerEffect config label = some effect) (rests : ¬ Moves label) :
    Faithful scripts ((cluster.attend label).afterHandler effect) := by
  obtain ⟨nothing, silent, _⟩ := orderly.located.silent_handler handled rests
  have attended := faithful.attend rests
  rw [← master_attend cluster label] at silent
  refine attended.afterHandler nothing ?_ ?_ (Nat.le_of_eq silent.nextQueryId.symm)
  · intro queryId ready query block
    obtain ⟨old, oldBlock, counter, _, wasReady⟩ := silent.block block
    rw [counter]
    exact attended.ready queryId (wasReady ready) old oldBlock
  · intro queryId query block
    obtain ⟨old, oldBlock, _, path, _⟩ := silent.block block
    rw [path]
    exact attended.path queryId old oldBlock

theorem Faithful.newQuery (faithful : Faithful scripts cluster) (orderly : Orderly cluster)
    (config : MasterConfig) (path : String) (priority client now : Nat) :
    Faithful scripts ((cluster.attend (.newQuery path priority client now)).afterHandler
      (cluster.master.createQuery config path priority client now, [])) := by
  have sound := orderly.located.sound
  have submittedOther : ∀ queryId, queryId ≠ cluster.master.nextQueryId →
      (cluster.attend (.newQuery path priority client now)).submitted queryId =
        cluster.submitted queryId :=
    fun queryId different => Function.update_of_ne different _ _
  have submittedNew : (cluster.attend (.newQuery path priority client now)).submitted
      cluster.master.nextQueryId = path := Function.update_self _ _ _
  have progressOther : ∀ queryId count, queryId ≠ cluster.master.nextQueryId →
      cluster.Progress queryId count →
        (cluster.attend (.newQuery path priority client now)).Progress queryId count := by
    intro queryId count different progress
    unfold Progress at *
    rw [submittedOther queryId different]
    exact progress
  have progressNew : (cluster.attend (.newQuery path priority client now)).Progress
      cluster.master.nextQueryId 0 := faithful.fresh _ (Nat.le_refl _)
  refine ⟨?_, ?_, ?_, ?_, ?_⟩
  · intro found context travels
    have attended := travels_afterHandler Master.startsNothing_nil travels
    have token : context.queryId ∈ cluster.tokens found := attended.token
    have different : context.queryId ≠ cluster.master.nextQueryId := by
      intro same
      have bounded := (orderly.located.held found _ token).bounded
      rw [same] at bounded
      exact Nat.lt_irrefl _ bounded
    have before : ∃ path, cluster.Travels found
        ⟨path, context.queryId, context.programCounter⟩ ∧
          (path = cluster.submitted context.queryId →
            context.queryPath = cluster.submitted context.queryId) := by
      cases attended with
      | sent message => exact ⟨_, .sent message, fun same => same⟩
      | held carries => exact ⟨_, .held carries, fun same => same⟩
      | evicted report => exact ⟨_, .evicted report, fun _ => submittedOther _ different⟩
    obtain ⟨oldPath, old, samePath⟩ := before
    obtain ⟨pathEq, progress⟩ := faithful.travels found _ old
    refine ⟨?_, progressOther _ _ different progress⟩
    exact (samePath pathEq).trans (submittedOther _ different).symm
  · intro queryId ready query block
    rcases Master.block_createQuery block with ⟨rfl, rfl⟩ | ⟨different, old⟩
    · exact progressNew
    · have wasReady : queryId ∈ cluster.master.readyQueue := by
        have inserted : (cluster.master.createQuery config path priority client
            now).readyQueue.Perm
              (cluster.master.nextQueryId :: cluster.master.readyQueue) :=
          Master.enqueueReady_readyQueue config
        exact (List.mem_cons.mp (inserted.mem_iff.mp ready)).resolve_left different
      exact progressOther _ _ different (faithful.ready queryId wasReady query old)
  · intro queryId query block
    rcases Master.block_createQuery block with ⟨rfl, rfl⟩ | ⟨different, old⟩
    · exact submittedNew.symm
    · exact (faithful.path queryId query old).trans (submittedOther _ different).symm
  · intro queryId
    by_cases same : queryId = cluster.master.nextQueryId
    · rw [same]
      exact ⟨0, Nat.zero_le _, progressNew⟩
    · obtain ⟨count, bound, progress⟩ := faithful.bounded queryId
      refine ⟨count, ?_, progressOther _ _ same progress⟩
      change count ≤ (scripts.lines
        ((cluster.attend (.newQuery path priority client now)).submitted queryId)).length
      rw [submittedOther queryId same]
      exact bound
  · intro queryId unknown
    refine faithful.fresh queryId (Nat.le_of_lt (Nat.lt_of_lt_of_le ?_ unknown))
    change _ < (cluster.master.createQuery config path priority client now).nextQueryId
    rw [Master.createQuery, Master.enqueueReady_eq]
    exact Nat.lt_succ_self _

theorem Faithful.take (faithful : Faithful scripts cluster) (now : Nat) :
    Faithful scripts (cluster.attend (.receive socket now)) := by
  obtain ⟨travels, ready, path, bounded, fresh⟩ := faithful
  refine ⟨?_, ready, path, bounded, fresh⟩
  intro found context after
  refine travels found context ?_
  cases after with
  | sent message => exact .sent message
  | held carries => exact .held carries
  | evicted report =>
      refine .evicted ?_
      by_cases same : found = socket
      · simp only [same, Cluster.attend, Function.update_self] at report
        rw [same]
        exact List.mem_of_mem_tail report
      · simpa [Cluster.attend, same] using report

theorem Faithful.unchanged (faithful : Faithful scripts cluster)
    {effect : Master × List Outgoing} (nothing : Master.StartsNothing effect.2)
    (same : effect.1 = cluster.master) : Faithful scripts (cluster.afterHandler effect) := by
  apply faithful.afterHandler nothing
  · rw [same]
    exact faithful.ready
  · rw [same]
    exact faithful.path
  · exact Nat.le_of_eq (congrArg Master.nextQueryId same.symm)

theorem Faithful.retire (faithful : Faithful scripts cluster)
    {effect : Master × List Outgoing} {retired : Nat}
    (nothing : Master.StartsNothing effect.2)
    (retires : effect.1 = (cluster.master.releaseWorker socket).dropQuery retired) :
    Faithful scripts (cluster.afterHandler effect) := by
  have block : ∀ queryId query, effect.1.query queryId = some query →
      cluster.master.query queryId = some query := by
    intro queryId query held
    rw [retires] at held
    by_cases same : queryId = retired
    · rw [same, Master.query_dropQuery_self] at held
      cases held
    · exact (Master.query_dropQuery_of_ne same).symm.trans held
  refine faithful.afterHandler nothing ?_ ?_ (by rw [retires]; exact Nat.le_refl _)
  · intro queryId ready query held
    rw [retires] at ready
    exact faithful.ready queryId (List.mem_of_mem_erase ready) query (block queryId query held)
  · exact fun queryId query held => faithful.path queryId query (block queryId query held)

theorem Faithful.endQuery (faithful : Faithful scripts cluster) (orderly : Orderly cluster)
    (now ended : Nat) :
    Faithful scripts ((cluster.attend (.receive socket now)).afterHandler
      (cluster.master.manageWorkerEndQuery socket ended)) := by
  have taken : Faithful scripts (cluster.attend (.receive socket now)) := faithful.take now
  obtain ⟨nothing, ⟨_, same⟩ | ⟨_, _, forgets⟩ | ⟨_, _, retires⟩⟩ :=
    orderly.located.sound.manageWorkerEndQuery_cases socket ended
  · exact taken.unchanged nothing same
  · apply taken.afterHandler nothing
    all_goals rw [forgets]
    · exact taken.ready
    · exact taken.path
    · exact Nat.le_refl _
  · exact taken.retire nothing retires

/-- A query comes back with the number of instructions that were executed of it. -/
theorem Faithful.evictRes (faithful : Faithful scripts cluster) (orderly : Orderly cluster)
    (now : Nat) {evicted programCounter : Nat} {rest : List WorkerReport}
    (first : cluster.toMaster socket = .evictRes evicted programCounter :: rest) :
    Faithful scripts ((cluster.attend (.receive socket now)).afterHandler
      (cluster.master.manageWorkerEvictResponse socket evicted programCounter now, [])) := by
  have sound := orderly.located.sound
  have taken : Faithful scripts (cluster.attend (.receive socket now)) := faithful.take now
  have nothing : Master.StartsNothing [] := Master.startsNothing_nil
  have travels : cluster.Travels socket
      ⟨cluster.submitted evicted, evicted, programCounter⟩ := .evicted (by simp [first])
  rcases sound.manageWorkerEvictResponse_cases programCounter now fun running _ =>
      ((orderly.located.held socket evicted travels.token).running
        (sound.queries.running_listed running)).2 with
    ⟨_, same⟩ | ⟨_, running, retires | requeues⟩
  · exact taken.unchanged nothing same
  · exact taken.retire nothing retires
  · obtain ⟨query, block⟩ := sound.queries.exists_block (sound.queries.running_listed running)
    have requeued : ∀ queryId found,
        ((cluster.master.requeueEvicted evicted programCounter now).releaseWorker
          socket).query queryId = some found →
        (queryId = evicted ∧ found.programCounter = programCounter ∧
          found.queryFilePath = query.queryFilePath) ∨
        (queryId ≠ evicted ∧ cluster.master.query queryId = some found) := by
      intro queryId found held
      by_cases same : queryId = evicted
      · rw [same] at held
        have self := Option.some.inj ((Master.query_requeueEvicted_self block).symm.trans held)
        exact Or.inl ⟨same, by rw [← self], by rw [← self]⟩
      · exact Or.inr ⟨same, (Master.query_requeueEvicted_of_ne same).symm.trans held⟩
    apply taken.afterHandler nothing
    all_goals rw [requeues]
    · intro queryId ready found held
      rcases requeued queryId found held with ⟨rfl, counter, _⟩ | ⟨different, old⟩
      · rw [counter]
        exact (faithful.travels socket _ travels).2
      · have wasReady := (Master.QueryTables.mem_readyQueue_requeueEvicted.mp
          ready).resolve_left different
        exact faithful.ready queryId wasReady found old
    · intro queryId found held
      rcases requeued queryId found held with ⟨rfl, _, path⟩ | ⟨_, old⟩
      · exact path.trans (faithful.path queryId query block)
      · exact faithful.path queryId found old
    · exact Nat.le_refl _

/-- A query is sent with the number of instructions that were executed of it. -/
theorem Faithful.dispatch (faithful : Faithful scripts cluster) (orderly : Orderly cluster)
    (config : MasterConfig) (sent : Bool) :
    Faithful scripts (cluster.afterHandler (cluster.master.tryDispatch config sent)) := by
  have sound := orderly.located.sound
  rcases sound.tryDispatch_cases config sent with
    ⟨quiet, nothing⟩ | ⟨idleSocket, idleRest, queryId, readyRest, worker, query, idle, ready,
      workerBlock, queryBlock, assigned⟩
  · have silent : cluster.master.Silent (cluster.master.tryDispatch config sent).1 :=
      .quiet quiet
    have startsNothing : Master.StartsNothing (cluster.master.tryDispatch config sent).2 := by
      rw [nothing]
      exact Master.startsNothing_nil
    refine faithful.afterHandler startsNothing ?_ ?_ (Nat.le_of_eq silent.nextQueryId.symm)
    · intro found isReady new block
      obtain ⟨old, oldBlock, counter, _, wasReady⟩ := silent.block block
      rw [counter]
      exact faithful.ready found (wasReady isReady) old oldBlock
    · intro found new block
      obtain ⟨old, oldBlock, _, path, _⟩ := silent.block block
      rw [path]
      exact faithful.path found old oldBlock
  · rw [assigned]
    have isReady : queryId ∈ cluster.master.readyQueue := by simp [ready]
    have block : ∀ found new,
        (cluster.master.assignQuery idleSocket queryId worker.workerId).query found =
          some new → ∃ old, cluster.master.query found = some old ∧
            new.programCounter = old.programCounter ∧
            new.queryFilePath = old.queryFilePath := by
      intro found new held
      by_cases same : found = queryId
      · rw [same] at held ⊢
        have self := Option.some.inj
          ((Master.query_assignQuery_self queryBlock).symm.trans held)
        exact ⟨query, queryBlock, by rw [← self], by rw [← self]⟩
      · exact ⟨new, (Master.query_assignQuery_of_ne same).symm.trans held, rfl, rfl⟩
    refine ⟨?_, ?_, ?_, faithful.bounded, faithful.fresh⟩
    · intro found context travels
      cases travels with
      | sent message =>
          rcases List.mem_append.mp message with old | new
          · exact faithful.travels found _ (.sent old)
          · obtain ⟨outgoing, member, isSent⟩ := List.mem_filterMap.mp new
            rw [List.mem_singleton] at member
            subst member
            dsimp only at isSent
            split at isSent
            · obtain ⟨rfl, rfl, rfl⟩ :=
                WorkerMessage.startQuery.inj (Option.some.inj isSent)
              exact ⟨faithful.path queryId query queryBlock,
                faithful.ready queryId isReady query queryBlock⟩
            · cases isSent
      | held carries => exact faithful.travels found _ (.held carries)
      | evicted report => exact faithful.travels found _ (.evicted report)
    · intro found stillReady new held
      obtain ⟨old, oldBlock, counter, _⟩ := block found new held
      rw [counter]
      exact faithful.ready found (List.mem_of_mem_tail stillReady) old oldBlock
    · intro found new held
      obtain ⟨old, oldBlock, _, path⟩ := block found new held
      rw [path]
      exact faithful.path found old oldBlock

theorem Faithful.handler (faithful : Faithful scripts cluster) (orderly : Orderly cluster)
    {effect : Master × List Outgoing}
    (handled : cluster.handlerEffect config label = some effect) :
    Faithful scripts ((cluster.attend label).afterHandler effect) := by
  by_cases moves : Moves label
  · cases label with
    | newQuery path priority client now =>
        obtain rfl := Option.some.inj handled
        exact faithful.newQuery orderly config path priority client now
    | receive socket now =>
        obtain ⟨report, head, rfl⟩ := Option.map_eq_some_iff.mp handled
        obtain ⟨rest, first⟩ := List.head?_eq_some_iff.mp head
        cases report with
        | endQuery ended => exact faithful.endQuery orderly now ended
        | evictRes evicted programCounter => exact faithful.evictRes orderly now first
        | storageError queryId reason =>
            exact absurd (by simp [first]) (orderly.noError socket queryId reason)
    | dispatch sent =>
        obtain rfl := Option.some.inj handled
        exact faithful.dispatch orderly config sent
    | _ => exact absurd moves id
  · exact faithful.silent orderly handled moves

end Handlers

section Runs

/-- The invariant of the runs without Storage errors. -/
structure Preserves (scripts : Scripts) (cluster : Cluster) : Prop where
  orderly : Orderly cluster
  faithful : Faithful scripts cluster

theorem Preserves.step (preserves : Preserves scripts cluster)
    (quiet : cluster.SendsNoError scripts label)
    (step : cluster.next config scripts label = some after) : Preserves scripts after := by
  obtain ⟨orderly, faithful⟩ := preserves
  rcases next_cases step with ⟨effect, handled, rfl⟩ | ⟨socket, effect, taken, rfl⟩
  · exact ⟨orderly.handler handled, faithful.handler orderly handled⟩
  · refine ⟨orderly.thread quiet taken, ?_⟩
    rcases threadEffect_cases taken with
      ⟨flush, message, rest, rfl, first, rfl⟩ | ⟨answers, rfl, execution⟩
    · exact faithful.listen orderly first
    · exact faithful.execute orderly execution

theorem preserves_of_reachable
    (reachable : ((system config scripts).guarded (SendsNoError scripts)).Reachable cluster) :
    Preserves scripts cluster := by
  refine reachable.invariant ?_ ?_
  · rintro first rfl
    exact ⟨orderly_started, faithful_started scripts⟩
  · intro before label after preserves step
    exact preserves.step step.1 step.2

/-- A count of executed instructions names an initial part of the program. -/
theorem Progress.eq_take {queryId count : Nat} (progress : cluster.Progress queryId count)
    (bound : count ≤ (scripts.lines (cluster.submitted queryId)).length) :
    cluster.executed queryId = (cluster.program scripts queryId).take count := by
  rw [progress, program, ← List.map_take, List.take_range, Nat.min_eq_left bound]

/-- Only a dispatch starts a query, and it sends the program counter of its block. -/
theorem Orderly.started_ready (orderly : Orderly cluster) {effect : Master × List Outgoing}
    {destination queryId programCounter : Nat} {path : String}
    (handled : cluster.handlerEffect config label = some effect)
    (sent : .toWorker destination (.startQuery queryId programCounter path) ∈ effect.2) :
    ∃ query, queryId ∈ cluster.master.readyQueue ∧
      cluster.master.query queryId = some query ∧
      programCounter = query.programCounter := by
  have located := orderly.located
  by_cases moves : Moves label
  · cases label with
    | newQuery submitted priority client now =>
        obtain rfl := Option.some.inj handled
        cases sent
    | receive socket now =>
        obtain ⟨report, head, rfl⟩ := Option.map_eq_some_iff.mp handled
        cases report with
        | endQuery ended =>
            exact absurd sent ((located.sound.manageWorkerEndQuery_cases socket ended).1
              destination queryId programCounter path)
        | evictRes evicted counter => cases sent
        | storageError messageId reason =>
            exact absurd sent ((located.sound.handleErrorFromStorage_cases socket messageId
              reason).1 destination queryId programCounter path)
    | dispatch isSent =>
        obtain rfl := Option.some.inj handled
        rcases located.sound.tryDispatch_cases config isSent with
          ⟨_, nothing⟩ | ⟨socket, idleRest, assignedId, readyRest, worker, query, _, ready, _,
            block, assigned⟩
        · rw [nothing] at sent
          cases sent
        · rw [assigned, List.mem_singleton] at sent
          obtain ⟨_, message⟩ := Outgoing.toWorker.inj sent
          obtain ⟨rfl, rfl, _⟩ := WorkerMessage.startQuery.inj message
          exact ⟨query, by simp [ready], block, rfl⟩
    | _ => exact absurd moves id
  · exact absurd sent ((located.silent_handler handled moves).1 destination queryId
      programCounter path)

/-- Along every run without Storage errors, a query is started at a program counter
exactly after the instructions before it were executed, once each and in order, and
the executed instructions of a query are always an initial part of its program. -/
theorem preemption_preserves_program
    (reachable : ((system config scripts).guarded (SendsNoError scripts)).Reachable cluster) :
    (∀ label effect destination queryId programCounter path,
        cluster.handlerEffect config label = some effect →
        .toWorker destination (.startQuery queryId programCounter path) ∈ effect.2 →
          programCounter ≤ (cluster.program scripts queryId).length ∧
          cluster.executed queryId = (cluster.program scripts queryId).take programCounter) ∧
      ∀ queryId, cluster.executed queryId <+: cluster.program scripts queryId := by
  obtain ⟨orderly, faithful⟩ := preserves_of_reachable reachable
  refine ⟨?_, ?_⟩
  · intro label effect destination queryId programCounter path handled sent
    obtain ⟨query, ready, block, rfl⟩ := orderly.started_ready handled sent
    have progress := faithful.ready queryId ready query block
    obtain ⟨count, bound, executed⟩ := faithful.bounded queryId
    have same : query.programCounter = count := by
      have lengths := congrArg List.length (progress.symm.trans executed)
      simpa using lengths
    rw [← same] at bound
    refine ⟨?_, progress.eq_take bound⟩
    simpa [program] using bound
  · intro queryId
    obtain ⟨count, bound, progress⟩ := faithful.bounded queryId
    rw [progress.eq_take bound]
    exact List.take_prefix _ _

def twoOperations : Scripts where
  lines _ := ["CREATE MATERIAS:BASE", "TRUNCATE MATERIAS:BASE 16", "END"]
  decode line := if line = "END" then .finish else .operation

/-- The executor goes on without errors. -/
def proceeds (socket : Nat) : ClusterLabel :=
  .execute socket ⟨.succeeded, none⟩

/-- A query is evicted after its first instruction by one with a better priority, and
a second Worker connects. -/
def evictAfterFirst : List ClusterLabel :=
  [.newQuery "AGING_1" 4 8 1, .handshake 1 5, .dispatch true, .listen 5 none] ++
  List.replicate 4 (proceeds 5) ++
  [.newQuery "AGING_2" 0 9 1, .checkPreemption true, .listen 5 none] ++
  List.replicate 3 (proceeds 5) ++
  [.receive 5 2, .handshake 2 6, .dispatch true]

theorem noError_of_proceeds {process : WorkerProcess} {effect : ThreadEffect}
    (taken : process.execute scripts ⟨.succeeded, none⟩ = some effect) (queryId : Nat)
    (reason : String) : .storageError queryId reason ∉ effect.sent := by
  obtain ⟨state, executor⟩ := process
  cases executor with
  | waiting =>
      simp only [WorkerProcess.execute] at taken
      split at taken
      · obtain rfl := Option.some.inj taken
        simp
      · cases taken
  | executing context =>
      obtain rfl := Option.some.inj taken
      unfold WorkerProcess.executeInstruction
      split
      · simp [WorkerProcess.goto]
      · split <;> simp [WorkerProcess.goto]
  | closing context result =>
      obtain rfl := Option.some.inj taken
      cases result <;> simp [WorkerProcess.closeExecution, WorkerProcess.mmFlushAllDirty]
  | _ =>
      obtain rfl := Option.some.inj taken
      simp [WorkerProcess.goto, WorkerProcess.mmFlushAllDirty]

/-- The steps in which Storage answers no request with an error. -/
def Errorless : ClusterLabel → Bool
  | .listen _ flush => flush.isNone
  | .execute _ answers => decide (answers = ⟨.succeeded, none⟩)
  | _ => true

theorem sendsNoError_of_errorless (errorless : Errorless label = true) :
    SendsNoError scripts cluster label := by
  intro socket effect taken queryId reason
  rcases threadEffect_cases taken with
    ⟨flush, message, rest, rfl, _, rfl⟩ | ⟨answers, rfl, execution⟩
  · obtain rfl : flush = none := Option.isNone_iff_eq_none.mp errorless
    cases message with
    | startQuery started programCounter path => simp [WorkerProcess.listen]
    | preemptReq preempted =>
        unfold WorkerProcess.listen WorkerProcess.ejectQuery
        dsimp only
        split
        · split <;> simp [WorkerProcess.mmFlushAllDirty]
        · simp
  · obtain rfl : answers = ⟨.succeeded, none⟩ := of_decide_eq_true errorless
    exact noError_of_proceeds execution queryId reason

theorem resumed_after_first :
    ∃ cluster effect,
      ((system (.mergeSorting .priority 0) twoOperations).guarded
        (SendsNoError twoOperations)).Reachable cluster ∧
      cluster.handlerEffect (.mergeSorting .priority 0) (.dispatch true) = some effect ∧
      .toWorker 6 (.startQuery 0 1 "AGING_1") ∈ effect.2 ∧
      cluster.executed 0 = (cluster.program twoOperations 0).take 1 := by
  have ends : (TransitionSystem.runNext (next (.mergeSorting .priority 0) twoOperations)
      started evictAfterFirst).any (fun cluster =>
        (cluster.handlerEffect (.mergeSorting .priority 0) (.dispatch true)).any fun effect =>
          decide (.toWorker 6 (.startQuery 0 1 "AGING_1") ∈ effect.2)) = true := by
    decide +kernel
  obtain ⟨cluster, run, dispatches⟩ := (Option.any_eq_true _ _).mp ends
  obtain ⟨effect, handled, member⟩ := (Option.any_eq_true _ _).mp dispatches
  have sent := of_decide_eq_true member
  have free : (system (.mergeSorting .priority 0) twoOperations).Run started evictAfterFirst
      cluster := TransitionSystem.run_of_runNext run
  have errorless : ∀ label ∈ evictAfterFirst, Errorless label = true := by
    decide
  have reachable : ((system (.mergeSorting .priority 0) twoOperations).guarded
      (SendsNoError twoOperations)).Reachable cluster :=
    ⟨started, evictAfterFirst, rfl, free.guarded_of_labels fun label member state =>
      sendsNoError_of_errorless (errorless label member)⟩
  exact ⟨cluster, effect, reachable, handled, sent,
    ((preemption_preserves_program reachable).1 (.dispatch true) effect 6 0 1 "AGING_1" handled
      sent).2⟩

end Runs

end Cluster

end MasterOfFiles
