import MasterOfFiles.ClusterOutputs
import MasterOfFiles.ClusterWhereabouts

/-!
# The Query Control gets the results of READ in order

A query with results in flight is active at the Worker that sent them, or its end or its
eviction is behind them on the same connection.  So all results in flight of a query are on
one connection, in the order in which they were sent, and none of them is behind the report
that lets the query go elsewhere or ends it.
-/

namespace MasterOfFiles

namespace ReadingCluster

open Cluster (AttachedOnce Located Orderly)

variable {config : MasterConfig} {scripts : ReadScripts} {state after : ReadingCluster}
  {label : ClusterLabel} {bytes : List UInt8} {socket queryId : Nat}

def passedOn (state : ReadingCluster) (queryId : Nat) : List ReadMessage :=
  (state.forwarded queryId).map Prod.fst

/-- The READs of a query whose results were sent. -/
def answered (state : ReadingCluster) (queryId : Nat) : List QueryContext :=
  (state.produced queryId).map ReadMessage.context

structure Streams (scripts : ReadScripts) (state : ReadingCluster) : Prop where
  preserves : Cluster.Preserves scripts.toScripts state.cluster
  once : AttachedOnce state.cluster
  reports : ∀ socket, reportsOf (state.outputs socket) = state.cluster.toMaster socket
  behind : ∀ socket,
    Behind (state.cluster.process socket).unfinishedIds (state.outputs socket)
  last : ∀ socket, SettlesLast (state.outputs socket)
  passed : ∀ queryId, state.passedOn queryId <+: state.produced queryId
  flow : ∀ queryId, state.cluster.master.query queryId ≠ none → ∃ socket,
    state.produced queryId =
        state.passedOn queryId ++ readsOf queryId (state.outputs socket) ∧
      ∀ other, other ≠ socket → readsOf queryId (state.outputs other) = []
  results : ∀ queryId,
    state.answered queryId <+: scripts.readsAmong (state.cluster.executed queryId)
  complete : ∀ queryId, state.cluster.Live queryId →
    state.answered queryId = scripts.readsAmong (state.cluster.executed queryId)

theorem streams_started : Streams scripts started where
  preserves := ⟨Cluster.orderly_started, Cluster.faithful_started _⟩
  once socket other queryId attached := by
    rcases attached with token | ended
    · cases token
    · cases ended
  reports _ := rfl
  behind _ := trivial
  last _ := trivial
  passed _ := List.nil_prefix
  flow queryId held := absurd rfl held
  results _ := List.nil_prefix
  complete _ _ := rfl

/-- A query with a result in flight is attached to the Worker that sent it. -/
theorem Streams.attached (streams : Streams scripts state)
    (flying : readsOf queryId (state.outputs socket) ≠ []) :
    state.cluster.Attached socket queryId := by
  rcases (streams.behind socket).of_readsOf flying with active | settled
  · left
    simp [Cluster.tokens, WorkerProcess.unfinishedIds_subset active]
  · rw [streams.reports] at settled
    rcases settled with ended | evicted
    · exact Or.inr ended
    · exact Or.inl (List.mem_append_left _ evicted)

section Threads

variable {effect : ThreadEffect}

theorem toMaster_thread (cluster : Cluster) (found : Nat) :
    ((cluster.takeMessage label).afterThread socket effect).toMaster found =
      cluster.toMaster found ++ if found = socket then effect.sent else [] := by
  have kept : (cluster.takeMessage label).toMaster = cluster.toMaster := by
    cases label <;> rfl
  by_cases same : found = socket <;> simp [Cluster.afterThread, kept, same]

theorem process_thread (cluster : Cluster) (found : Nat) :
    ((cluster.takeMessage label).afterThread socket effect).process found =
      if found = socket then effect.process else cluster.process found := by
  have kept : (cluster.takeMessage label).process = cluster.process := by
    cases label <;> rfl
  by_cases same : found = socket <;> simp [Cluster.afterThread, kept, same]

theorem executed_thread (cluster : Cluster) (queryId : Nat) :
    ((cluster.takeMessage label).afterThread socket effect).executed queryId =
      Cluster.afterInstruction cluster.executed effect.executedInstruction queryId := by
  have kept : (cluster.takeMessage label).executed = cluster.executed := by
    cases label <;> rfl
  rw [Cluster.afterThread, kept]

theorem master_thread (cluster : Cluster) :
    ((cluster.takeMessage label).afterThread socket effect).master = cluster.master := by
  cases label <;> rfl

theorem outputs_thread
    (taken : state.cluster.threadEffect scripts.toScripts label = some (socket, effect))
    (cluster : Cluster) (found : Nat) :
    (state.advance scripts label bytes cluster).outputs found = state.outputs found ++
      if found = socket then
        (state.readSent scripts bytes label).toList.map .read ++ effect.sent.map .report
      else [] := by
  have kept : state.takeReport label = state.outputs := by
    cases label with
    | receive socket now => cases taken
    | _ => rfl
  simp only [advance, kept, sends, taken]

theorem thread_reading
    (taken : state.cluster.threadEffect scripts.toScripts label = some (socket, effect)) :
    (∃ message, state.readSent scripts bytes label = some message ∧
        (state.cluster.process socket).executor = .executing message.context ∧
        effect = ⟨⟨(state.cluster.process socket).state, .executed message.context false⟩, [],
          some message.context⟩ ∧
        (scripts.readBy message.context).isSome = true) ∨
      (state.readSent scripts bytes label = none ∧
        ∀ context, effect.executedInstruction = some context →
          (scripts.readBy context).isSome = false ∨
            effect.process.executor = .closing context .error) := by
  rcases Cluster.threadEffect_cases taken with
    ⟨flush, message, rest, rfl, first, rfl⟩ | ⟨answers, rfl, execution⟩
  · right
    refine ⟨rfl, fun context executed => ?_⟩
    rw [WorkerProcess.listen_instruction (WorkerProcess.listen_step _ message flush)]
      at executed
    cases executed
  · exact WorkerProcess.execute_reading execution

theorem thread_settles
    (taken : state.cluster.threadEffect scripts.toScripts label = some (socket, effect))
    (unfinished : queryId ∈ (state.cluster.process socket).unfinishedIds) :
    queryId ∈ effect.process.unfinishedIds ∨ SettledBy effect.sent queryId := by
  rcases Cluster.threadEffect_cases taken with
    ⟨flush, message, rest, rfl, first, rfl⟩ | ⟨answers, rfl, execution⟩
  · left
    have executorEq := WorkerProcess.listen_executor
      (WorkerProcess.listen_step (state.cluster.process socket) message flush)
    rw [WorkerProcess.unfinishedIds, executorEq]
    exact unfinished
  · exact WorkerProcess.execute_settles (WorkerProcess.execute_step execution) unfinished

theorem failed_not_live (orderly : Orderly state.cluster)
    (taken : state.cluster.threadEffect scripts.toScripts label = some (socket, effect))
    {context : QueryContext} (executed : effect.executedInstruction = some context)
    (failed : effect.process.executor = .closing context .error) :
    ¬ ((state.cluster.takeMessage label).afterThread socket effect).Live context.queryId := by
  rcases Cluster.threadEffect_cases taken with
    ⟨flush, message, rest, rfl, first, rfl⟩ | ⟨answers, rfl, execution⟩
  · rw [WorkerProcess.listen_instruction (WorkerProcess.listen_step _ message flush)]
      at executed
    cases executed
  · exact orderly.not_live_of_failed execution executed failed

theorem produced_of_none (nothing : state.readSent scripts bytes label = none)
    (cluster : Cluster) :
    (state.advance scripts label bytes cluster).produced = state.produced := by
  rw [advance, nothing]
  rfl

theorem produced_of_some {message : ReadMessage}
    (sent : state.readSent scripts bytes label = some message) (cluster : Cluster) :
    (state.advance scripts label bytes cluster).produced =
      Function.update state.produced message.context.queryId
        (state.produced message.context.queryId ++ [message]) := by
  rw [advance, sent]
  rfl

section Added

variable {added : List WorkerOutput}

theorem Streams.reports_thread (streams : Streams scripts state)
    (reportsEq : reportsOf added = effect.sent) (found : Nat) :
    reportsOf (state.outputs found ++ if found = socket then added else []) =
      ((state.cluster.takeMessage label).afterThread socket effect).toMaster found := by
  rw [toMaster_thread, reportsOf_append, streams.reports]
  by_cases same : found = socket <;> simp [same, reportsEq]

theorem Streams.behind_thread (streams : Streams scripts state)
    (taken : state.cluster.threadEffect scripts.toScripts label = some (socket, effect))
    (reportsEq : reportsOf added = effect.sent)
    (newBehind : Behind effect.process.unfinishedIds added) (found : Nat) :
    Behind (((state.cluster.takeMessage label).afterThread socket effect).process
      found).unfinishedIds (state.outputs found ++ if found = socket then added else []) := by
  rw [process_thread]
  by_cases same : found = socket
  · subst same
    rw [if_pos rfl, if_pos rfl]
    refine (streams.behind found).append (fun queryId unfinished => ?_) newBehind
    rw [reportsEq]
    exact thread_settles taken unfinished
  · rw [if_neg same, if_neg same, List.append_nil]
    exact streams.behind found

theorem Streams.last_thread (streams : Streams scripts state)
    (apart : ∀ queryId, SettledBy (state.cluster.toMaster socket) queryId →
      readsOf queryId added = [])
    (newLast : SettlesLast added) (found : Nat) :
    SettlesLast (state.outputs found ++ if found = socket then added else []) := by
  by_cases same : found = socket
  · subst same
    rw [if_pos rfl]
    refine (streams.last found).append (fun queryId settled => ?_) newLast
    rw [streams.reports] at settled
    exact apart queryId settled
  · rw [if_neg same, List.append_nil]
    exact streams.last found

end Added

section Silent

variable (nothing : state.readSent scripts bytes label = none)
  (ends : ∀ context, effect.executedInstruction = some context →
    (scripts.readBy context).isSome = false ∨ effect.process.executor = .closing context .error)

theorem Streams.results_silent (streams : Streams scripts state) (queryId : Nat) :
    state.answered queryId <+: scripts.readsAmong
      (((state.cluster.takeMessage label).afterThread socket effect).executed queryId) := by
  refine (streams.results queryId).trans (scripts.readsAmong_prefix ?_)
  rw [executed_thread]
  cases executed : effect.executedInstruction with
  | none => exact List.prefix_rfl
  | some context =>
      by_cases same : queryId = context.queryId
      · simp [Cluster.afterInstruction, same]
      · simp [Cluster.afterInstruction, same]

include ends in
/-- A READ without a result has failed, and its query does not go on. -/
theorem Streams.complete_silent (streams : Streams scripts state)
    (taken : state.cluster.threadEffect scripts.toScripts label = some (socket, effect))
    (live : ((state.cluster.takeMessage label).afterThread socket effect).Live queryId) :
    state.answered queryId = scripts.readsAmong
      (((state.cluster.takeMessage label).afterThread socket effect).executed queryId) := by
  have orderly := streams.preserves.orderly
  refine (streams.complete queryId (orderly.live_thread taken live)).trans ?_
  rw [executed_thread]
  cases executed : effect.executedInstruction with
  | none => rfl
  | some context =>
      by_cases same : queryId = context.queryId
      · subst same
        rcases ends context executed with notRead | failed
        · simp [Cluster.afterInstruction, scripts.readsAmong_snoc, notRead]
        · exact absurd live (failed_not_live orderly taken executed failed)
      · simp [Cluster.afterInstruction, same]

include nothing ends in
theorem Streams.thread_silent (streams : Streams scripts state)
    (taken : state.cluster.threadEffect scripts.toScripts label = some (socket, effect))
    (preserves : Cluster.Preserves scripts.toScripts
      ((state.cluster.takeMessage label).afterThread socket effect)) :
    Streams scripts (state.advance scripts label bytes
      ((state.cluster.takeMessage label).afterThread socket effect)) := by
  have orderly := streams.preserves.orderly
  have outputsEq := @outputs_thread scripts state label bytes socket effect taken
  simp only [nothing, Option.toList_none, List.map_nil, List.nil_append] at outputsEq
  have producedEq := @produced_of_none scripts state label bytes nothing
  have readsEq : ∀ cluster queryId found, readsOf queryId
      ((state.advance scripts label bytes cluster).outputs found) =
        readsOf queryId (state.outputs found) := by
    intro cluster queryId found
    rw [outputsEq]
    by_cases same : found = socket <;> simp [same]
  refine ⟨preserves, fun found other queryId first second => ?_, fun found => ?_,
    fun found => ?_, fun found => ?_, fun queryId => ?_, fun queryId held => ?_,
    fun queryId => ?_, fun queryId live => ?_⟩
  · exact streams.once found other queryId (orderly.located.attached_thread taken first)
      (orderly.located.attached_thread taken second)
  · rw [outputsEq]
    exact streams.reports_thread reportsOf_reports found
  · rw [outputsEq]
    exact streams.behind_thread taken reportsOf_reports (behind_reports effect.sent) found
  · rw [outputsEq]
    exact streams.last_thread (fun _ _ => readsOf_reports) (settlesLast_reports effect.sent)
      found
  · rw [producedEq]
    exact streams.passed queryId
  · simp only [readsEq, producedEq]
    refine streams.flow queryId ?_
    rwa [show (state.advance scripts label bytes ((state.cluster.takeMessage label).afterThread
      socket effect)).cluster.master = state.cluster.master from
        master_thread state.cluster] at held
  · rw [answered, producedEq]
    exact streams.results_silent queryId
  · rw [answered, producedEq]
    exact streams.complete_silent ends taken live

end Silent

section Reading

variable {message : ReadMessage} {context : QueryContext}

theorem unfinished_of_executing
    (executing : (state.cluster.process socket).executor = .executing context) :
    context.queryId ∈ (state.cluster.process socket).unfinishedIds := by
  simp [WorkerProcess.unfinishedIds, executing, Executor.unfinished, Executor.active,
    Executor.context]

/-- Only the Worker that executes a query has results of it in flight. -/
theorem Streams.readsOf_elsewhere (streams : Streams scripts state)
    (executing : (state.cluster.process socket).executor = .executing context) {found : Nat}
    (different : found ≠ socket) : readsOf context.queryId (state.outputs found) = [] := by
  have attached : state.cluster.Attached socket context.queryId :=
    Or.inl (by simp [Cluster.tokens,
      WorkerProcess.unfinishedIds_subset (unfinished_of_executing executing)])
  by_contra flying
  exact different (streams.once found socket _ (streams.attached flying) attached)

theorem not_settled_of_executing (orderly : Orderly state.cluster)
    (executing : (state.cluster.process socket).executor = .executing context) :
    ¬ SettledBy (state.cluster.toMaster socket) context.queryId := by
  rintro (ended | evicted)
  · have single := orderly.single socket
    have first := List.length_pos_of_mem ended
    have second := List.length_pos_of_mem (unfinished_of_executing executing)
    simp only [Cluster.due, List.length_append] at single
    omega
  · have unique := @Cluster.Located.active_unique state.cluster socket orderly.located
      context executing socket
    exact unique.2.2 evicted

theorem outputs_of_some
    (taken : state.cluster.threadEffect scripts.toScripts label = some (socket, effect))
    (sent : state.readSent scripts bytes label = some message) (silent : effect.sent = [])
    (cluster : Cluster) (found : Nat) :
    (state.advance scripts label bytes cluster).outputs found =
      state.outputs found ++ if found = socket then [.read message] else [] := by
  rw [outputs_thread taken, sent, silent]
  rfl

/-- The new result is the last one in flight of its query. -/
theorem Streams.flow_read (streams : Streams scripts state)
    (taken : state.cluster.threadEffect scripts.toScripts label = some (socket, effect))
    (sent : state.readSent scripts bytes label = some message) (silent : effect.sent = [])
    (executing : (state.cluster.process socket).executor = .executing message.context)
    (cluster : Cluster) (held : state.cluster.master.query queryId ≠ none) :
    ∃ holder, (state.advance scripts label bytes cluster).produced queryId =
        state.passedOn queryId ++
          readsOf queryId ((state.advance scripts label bytes cluster).outputs holder) ∧
      ∀ other, other ≠ holder →
        readsOf queryId ((state.advance scripts label bytes cluster).outputs other) = [] := by
  have outputsEq := outputs_of_some taken sent silent cluster
  rw [produced_of_some sent]
  obtain ⟨holder, here, elsewhere⟩ := streams.flow queryId held
  by_cases same : queryId = message.context.queryId
  · subst same
    have hereToo : state.produced message.context.queryId =
        state.passedOn message.context.queryId ++
          readsOf message.context.queryId (state.outputs socket) := by
      by_cases isHolder : holder = socket
      · rw [← isHolder]
        exact here
      · rw [here, streams.readsOf_elsewhere executing isHolder,
          elsewhere socket (Ne.symm isHolder)]
    refine ⟨socket, ?_, fun other different => ?_⟩
    · rw [Function.update_self, outputsEq, if_pos rfl, readsOf_append, readsOf_read_self,
        hereToo, List.append_assoc]
      rfl
    · rw [outputsEq, if_neg different, List.append_nil]
      exact streams.readsOf_elsewhere executing different
  · have readsEq : ∀ found, readsOf queryId
        ((state.advance scripts label bytes cluster).outputs found) =
          readsOf queryId (state.outputs found) := by
      intro found
      rw [outputsEq]
      by_cases here : found = socket
      · simp [here, readsOf_read_of_ne (Ne.symm same)]
      · simp [here]
    simp only [readsEq, Function.update_of_ne same]
    exact ⟨holder, here, elsewhere⟩

theorem Streams.answered_read (streams : Streams scripts state)
    (sent : state.readSent scripts bytes label = some message)
    (executing : (state.cluster.process socket).executor = .executing message.context)
    (executed : effect.executedInstruction = some message.context)
    (isRead : (scripts.readBy message.context).isSome = true) (cluster : Cluster) :
    (state.advance scripts label bytes cluster).answered message.context.queryId =
      scripts.readsAmong (((state.cluster.takeMessage label).afterThread socket
        effect).executed message.context.queryId) := by
  have live : state.cluster.Live message.context.queryId := by
    refine Or.inr ⟨socket, message.context, .held (Or.inr ?_), rfl⟩
    rw [executing]
    rfl
  have before := streams.complete _ live
  rw [answered] at before
  rw [answered, produced_of_some sent, Function.update_self, List.map_append, before,
    executed_thread, executed, Cluster.afterInstruction, Function.update_self,
    scripts.readsAmong_snoc, if_pos isRead]
  rfl

theorem Streams.thread_read (streams : Streams scripts state)
    (taken : state.cluster.threadEffect scripts.toScripts label = some (socket, effect))
    (sent : state.readSent scripts bytes label = some message)
    (executing : (state.cluster.process socket).executor = .executing message.context)
    (effectEq : effect = ⟨⟨(state.cluster.process socket).state,
      .executed message.context false⟩, [], some message.context⟩)
    (isRead : (scripts.readBy message.context).isSome = true)
    (preserves : Cluster.Preserves scripts.toScripts
      ((state.cluster.takeMessage label).afterThread socket effect)) :
    Streams scripts (state.advance scripts label bytes
      ((state.cluster.takeMessage label).afterThread socket effect)) := by
  have orderly := streams.preserves.orderly
  have silent : effect.sent = [] := by rw [effectEq]
  have executed : effect.executedInstruction = some message.context := by rw [effectEq]
  have noReport : reportsOf [WorkerOutput.read message] = effect.sent := silent.symm
  have newBehind : Behind effect.process.unfinishedIds [.read message] := by
    rw [effectEq]
    exact ⟨Or.inl (List.mem_singleton.mpr rfl), trivial⟩
  have newLast : SettlesLast [.read message] := trivial
  have outputsEq := @outputs_of_some _ _ _ bytes _ _ _ taken sent silent
  have answeredEq := streams.answered_read sent executing executed isRead
  have others : ∀ cluster queryId, queryId ≠ message.context.queryId →
      (state.advance scripts label bytes cluster).answered queryId = state.answered queryId ∧
        ((state.cluster.takeMessage label).afterThread socket effect).executed queryId =
          state.cluster.executed queryId := by
    intro cluster queryId different
    rw [answered, produced_of_some sent, Function.update_of_ne different, executed_thread,
      executed, Cluster.afterInstruction, Function.update_of_ne different]
    exact ⟨rfl, rfl⟩
  refine ⟨preserves, fun found other queryId first second => ?_, fun found => ?_,
    fun found => ?_, fun found => ?_, fun queryId => ?_, fun queryId held => ?_,
    fun queryId => ?_, fun queryId live => ?_⟩
  · exact streams.once found other queryId (orderly.located.attached_thread taken first)
      (orderly.located.attached_thread taken second)
  · rw [outputsEq]
    exact streams.reports_thread noReport found
  · rw [outputsEq]
    exact streams.behind_thread taken noReport newBehind found
  · rw [outputsEq]
    refine streams.last_thread (fun queryId settled => readsOf_read_of_ne ?_) newLast found
    rintro rfl
    exact not_settled_of_executing orderly executing settled
  · rw [produced_of_some sent]
    by_cases same : queryId = message.context.queryId
    · subst same
      rw [Function.update_self]
      exact (streams.passed _).trans (List.prefix_append _ _)
    · rw [Function.update_of_ne same]
      exact streams.passed queryId
  · refine streams.flow_read taken sent silent executing _ ?_
    rwa [show (state.advance scripts label bytes ((state.cluster.takeMessage
      label).afterThread socket effect)).cluster.master = state.cluster.master from
        master_thread state.cluster] at held
  · by_cases same : queryId = message.context.queryId
    · subst same
      rw [answeredEq]
      exact List.prefix_rfl
    · obtain ⟨answeredSame, executedSame⟩ := others _ queryId same
      rw [answeredSame]
      exact executedSame ▸ streams.results queryId
  · by_cases same : queryId = message.context.queryId
    · subst same
      exact answeredEq _
    · obtain ⟨answeredSame, executedSame⟩ := others _ queryId same
      rw [answeredSame]
      exact executedSame ▸ streams.complete queryId (orderly.live_thread taken live)

end Reading

end Threads

section Handlers

variable {handling : Master × List Outgoing}

/-- A handler sees a report taken from the front of a connection, or nothing. -/
theorem takeReport_cases (isNext : state.reportIsNext label = true) (found : Nat) :
    (state.takeReport label found = state.outputs found ∧
        (state.cluster.attend label).toMaster found = state.cluster.toMaster found) ∨
      ∃ report, state.outputs found = .report report :: state.takeReport label found ∧
        (state.cluster.attend label).toMaster found = (state.cluster.toMaster found).tail := by
  cases label with
  | receive socket now =>
      by_cases same : found = socket
      · subst same
        right
        simp only [reportIsNext] at isNext
        split at isNext
        · rename_i report rest first
          exact ⟨report, by simp [takeReport, first], by simp [Cluster.attend]⟩
        · cases isNext
      · left
        simp [takeReport, Cluster.attend, same]
  | _ => exact Or.inl ⟨rfl, rfl⟩

theorem readsOf_takeReport (isNext : state.reportIsNext label = true) (queryId found : Nat) :
    readsOf queryId (state.takeReport label found) = readsOf queryId (state.outputs found) := by
  rcases takeReport_cases isNext found with ⟨same, _⟩ | ⟨report, first, _⟩
  · rw [same]
  · rw [first, readsOf_report]

theorem outputs_handler
    (handled : state.cluster.handlerEffect config label = some handling) (cluster : Cluster)
    (found : Nat) : (state.advance scripts label bytes cluster).outputs found =
      state.takeReport label found := by
  have noThread : state.cluster.threadEffect scripts.toScripts label = none := by
    cases label with
    | listen socket flush => cases handled
    | execute socket answers => cases handled
    | _ => rfl
  simp [advance, sends, noThread]

theorem produced_handler
    (handled : state.cluster.handlerEffect config label = some handling) (cluster : Cluster) :
    (state.advance scripts label bytes cluster).produced = state.produced := by
  refine produced_of_none ?_ cluster
  cases label with
  | execute socket answers => cases handled
  | _ => rfl

/-- Nothing was executed, sent or passed on for a query that is still to come. -/
theorem Streams.fresh (streams : Streams scripts state)
    (isNext : queryId = state.cluster.master.nextQueryId) :
    state.cluster.executed queryId = [] ∧ state.produced queryId = [] ∧
      state.passedOn queryId = [] ∧ ∀ found, readsOf queryId (state.outputs found) = [] := by
  subst isNext
  have noneExecuted := streams.preserves.faithful.fresh _ (Nat.le_refl _)
  have noneProduced : state.produced state.cluster.master.nextQueryId = [] := by
    have results := streams.results state.cluster.master.nextQueryId
    rw [noneExecuted] at results
    exact List.map_eq_nil_iff.mp (List.prefix_nil.mp results)
  have nonePassed := streams.passed state.cluster.master.nextQueryId
  rw [noneProduced] at nonePassed
  refine ⟨noneExecuted, noneProduced, List.prefix_nil.mp nonePassed, fun found => ?_⟩
  by_contra flying
  exact Nat.lt_irrefl _
    (streams.preserves.orderly.located.attached_holds (streams.attached flying)).bounded

theorem Streams.reports_handler (streams : Streams scripts state)
    (isNext : state.reportIsNext label = true) (found : Nat) :
    reportsOf (state.takeReport label found) =
      (state.cluster.attend label).toMaster found := by
  rcases takeReport_cases isNext found with ⟨same, reportsEq⟩ | ⟨report, first, reportsEq⟩
  · rw [same, reportsEq, streams.reports]
  · rw [reportsEq, ← streams.reports, first, reportsOf_report, List.tail_cons]

theorem Streams.behind_handler (streams : Streams scripts state)
    (isNext : state.reportIsNext label = true) (found : Nat) :
    Behind (state.cluster.process found).unfinishedIds (state.takeReport label found) := by
  have before := streams.behind found
  rcases takeReport_cases isNext found with ⟨same, _⟩ | ⟨report, first, _⟩
  · rwa [same]
  · rwa [first] at before

theorem Streams.last_handler (streams : Streams scripts state)
    (isNext : state.reportIsNext label = true) (found : Nat) :
    SettlesLast (state.takeReport label found) := by
  have before := streams.last found
  rcases takeReport_cases isNext found with ⟨same, _⟩ | ⟨report, first, _⟩
  · rwa [same]
  · rw [first] at before
    exact before.2

theorem Streams.handler (streams : Streams scripts state)
    (isNext : state.reportIsNext label = true)
    (handled : state.cluster.handlerEffect config label = some handling)
    (preserves : Cluster.Preserves scripts.toScripts
      ((state.cluster.attend label).afterHandler handling)) :
    Streams scripts (state.advance scripts label bytes
      ((state.cluster.attend label).afterHandler handling)) := by
  have orderly := streams.preserves.orderly
  have outputsEq := @outputs_handler _ scripts _ _ bytes _ handled
  have producedEq := @produced_handler _ scripts _ _ bytes _ handled
  have processEq : (state.cluster.attend label).process = state.cluster.process := by
    cases label <;> rfl
  have executedEq : (state.cluster.attend label).executed = state.cluster.executed := by
    cases label <;> rfl
  refine ⟨preserves, streams.once.handler orderly handled preserves.orderly.located,
    fun found => ?_, fun found => ?_, fun found => ?_, fun queryId => ?_,
    fun queryId held => ?_, fun queryId => ?_, fun queryId live => ?_⟩
  · rw [outputsEq]
    exact streams.reports_handler isNext found
  · rw [outputsEq]
    change Behind ((state.cluster.attend label).process found).unfinishedIds _
    rw [processEq]
    exact streams.behind_handler isNext found
  · rw [outputsEq]
    exact streams.last_handler isNext found
  · rw [producedEq]
    exact streams.passed queryId
  · simp only [outputsEq, readsOf_takeReport isNext, producedEq]
    rcases (orderly.queries_handler handled queryId).2 held with before | isNew
    · exact streams.flow queryId before
    · obtain ⟨_, noneProduced, nonePassed, noneFlying⟩ := streams.fresh isNew
      refine ⟨0, ?_, fun other _ => noneFlying other⟩
      rw [noneProduced, noneFlying]
      change [] = state.passedOn queryId ++ []
      rw [nonePassed]
      rfl
  · rw [answered, producedEq]
    change _ <+: scripts.readsAmong ((state.cluster.attend label).executed queryId)
    rw [executedEq]
    exact streams.results queryId
  · rw [answered, producedEq]
    change _ = scripts.readsAmong ((state.cluster.attend label).executed queryId)
    rw [executedEq]
    rcases orderly.live_handler handled live with before | isNew
    · exact streams.complete queryId before
    · obtain ⟨noneExecuted, noneProduced, _⟩ := streams.fresh isNew
      rw [noneExecuted, noneProduced]
      rfl

/-- The Master passes on a result of a query as long as the query is in its tables. -/
theorem Streams.passes_iff (streams : Streams scripts state)
    (flying : readsOf queryId (state.outputs socket) ≠ []) :
    state.cluster.master.manageReadMessageFromWorker queryId = [] ↔
      state.cluster.master.query queryId = none := by
  have sound := streams.preserves.orderly.located.sound
  unfold Master.manageReadMessageFromWorker
  cases block : state.cluster.master.query queryId with
  | none =>
      have notRunning : queryId ∉ state.cluster.master.runningList := fun running =>
        (sound.queries.block_iff queryId).mpr (sound.queries.running_listed running) block
      simp [sound.queries.findRunning_none_iff.mpr notRunning]
  | some query =>
      have holds := streams.preserves.orderly.located.attached_holds (streams.attached flying)
      obtain ⟨found, isFound, _⟩ :=
        sound.findRunning (holds.running (sound.queries.listed block)).1
      simp [isFound]

section Forwarding

variable {sent : Bool} {message : ReadMessage} {rest : List WorkerOutput}

theorem outputs_forwardRead (first : state.outputs socket = .read message :: rest)
    (found : Nat) : (state.forwardRead socket sent message).outputs found =
      if found = socket then rest else state.outputs found := by
  by_cases same : found = socket <;> simp [forwardRead, first, same]

theorem readsOf_forwardRead_of_ne (first : state.outputs socket = .read message :: rest)
    (different : queryId ≠ message.context.queryId) (found : Nat) :
    readsOf queryId ((state.forwardRead socket sent message).outputs found) =
      readsOf queryId (state.outputs found) := by
  rw [outputs_forwardRead first]
  by_cases same : found = socket
  · rw [if_pos same, same, first, readsOf_read_of_ne (Ne.symm different)]
  · rw [if_neg same]

theorem passedOn_forwardRead_of_ne (different : queryId ≠ message.context.queryId) :
    (state.forwardRead socket sent message).passedOn queryId = state.passedOn queryId := by
  unfold passedOn forwardRead
  dsimp only
  split
  · rfl
  · rw [Function.update_of_ne different]

theorem readsOf_first_ne_nil (first : state.outputs socket = .read message :: rest) :
    readsOf message.context.queryId (state.outputs socket) ≠ [] := by
  rw [first, readsOf_read_self]
  exact List.cons_ne_nil _ _

/-- The result is passed on if its query is in the tables, and dropped otherwise. -/
theorem Streams.passedOn_forwardRead (streams : Streams scripts state)
    (first : state.outputs socket = .read message :: rest) :
    (state.forwardRead socket sent message).passedOn message.context.queryId =
      if state.cluster.master.query message.context.queryId = none then
        state.passedOn message.context.queryId
      else state.passedOn message.context.queryId ++ [message] := by
  have passes := streams.passes_iff (readsOf_first_ne_nil first)
  by_cases missing : state.cluster.master.query message.context.queryId = none
  · simp [passedOn, forwardRead, passes, missing]
  · simp [passedOn, forwardRead, passes, missing]

/-- The first result of a connection is the next one to be passed on of its query. -/
theorem Streams.flow_first (streams : Streams scripts state)
    (first : state.outputs socket = .read message :: rest)
    (held : state.cluster.master.query message.context.queryId ≠ none) :
    state.produced message.context.queryId =
        (state.passedOn message.context.queryId ++ [message]) ++
          readsOf message.context.queryId rest ∧
      ∀ other, other ≠ socket →
        readsOf message.context.queryId (state.outputs other) = [] := by
  obtain ⟨holder, here, elsewhere⟩ := streams.flow _ held
  obtain rfl : holder = socket := by
    by_contra different
    exact readsOf_first_ne_nil first (elsewhere socket (Ne.symm different))
  refine ⟨?_, elsewhere⟩
  rw [here, first, readsOf_read_self, List.append_assoc]
  rfl

/-- What holds of all connections, and of the rest of the one that the result is taken from, holds
afterwards. -/
theorem forwardRead_of_rest (holds : Nat → List WorkerOutput → Prop)
    (first : state.outputs socket = .read message :: rest)
    (before : ∀ found, holds found (state.outputs found))
    (taken : holds socket (.read message :: rest) → holds socket rest) (found : Nat) :
    holds found ((state.forwardRead socket sent message).outputs found) := by
  rw [outputs_forwardRead first]
  by_cases same : found = socket
  · rw [if_pos same, same]
    exact taken (first ▸ before socket)
  · rw [if_neg same]
    exact before found

theorem Streams.flow_forward (streams : Streams scripts state)
    (first : state.outputs socket = .read message :: rest)
    (held : state.cluster.master.query queryId ≠ none) :
    ∃ holder, state.produced queryId =
        (state.forwardRead socket sent message).passedOn queryId ++
          readsOf queryId ((state.forwardRead socket sent message).outputs holder) ∧
      ∀ other, other ≠ holder →
        readsOf queryId ((state.forwardRead socket sent message).outputs other) = [] := by
  by_cases same : queryId = message.context.queryId
  · subst same
    obtain ⟨here, elsewhere⟩ := streams.flow_first first held
    refine ⟨socket, ?_, fun other different => ?_⟩
    · rw [streams.passedOn_forwardRead first, if_neg held, outputs_forwardRead first, if_pos rfl]
      exact here
    · rw [outputs_forwardRead first, if_neg different]
      exact elsewhere other different
  · simp only [readsOf_forwardRead_of_ne first same, passedOn_forwardRead_of_ne same]
    exact streams.flow queryId held

theorem Streams.forward (streams : Streams scripts state) (sent : Bool)
    (first : state.outputs socket = .read message :: rest) :
    Streams scripts (state.forwardRead socket sent message) where
  preserves := streams.preserves
  once := streams.once
  reports := forwardRead_of_rest (fun found outputs =>
    reportsOf outputs = state.cluster.toMaster found) first streams.reports fun before => before
  behind := forwardRead_of_rest (fun found outputs =>
    Behind (state.cluster.process found).unfinishedIds outputs) first streams.behind
      fun before => before.2
  last := forwardRead_of_rest (fun _ outputs => SettlesLast outputs) first streams.last
    fun before => before
  passed queryId := by
    by_cases same : queryId = message.context.queryId
    · subst same
      rw [streams.passedOn_forwardRead first]
      split
      · exact streams.passed _
      · rename_i held
        exact ⟨_, (streams.flow_first first held).1.symm⟩
    · rw [passedOn_forwardRead_of_ne same]
      exact streams.passed queryId
  flow queryId held := streams.flow_forward first held
  results := streams.results
  complete := streams.complete

end Forwarding

end Handlers

section Runs

variable {readingLabel : ReadingLabel}

/-- A step of the system is a step of a handler or of a thread of the cluster, or takes a
result from a connection. -/
theorem next_cases (step : state.next config scripts readingLabel = some after) :
    (∃ label bytes cluster, readingLabel = .step label bytes ∧
        state.reportIsNext label = true ∧
        state.cluster.next config scripts.toScripts label = some cluster ∧
        after = state.advance scripts label bytes cluster) ∨
      ∃ socket sent message rest, readingLabel = .forward socket sent ∧
        state.outputs socket = .read message :: rest ∧
        after = state.forwardRead socket sent message := by
  cases readingLabel with
  | step label bytes =>
      simp only [next] at step
      split at step
      · rename_i isNext
        obtain ⟨cluster, stepped, rfl⟩ := Option.map_eq_some_iff.mp step
        exact Or.inl ⟨label, bytes, cluster, rfl, isNext, stepped, rfl⟩
      · cases step
  | forward socket sent =>
      simp only [next] at step
      split at step
      · rename_i message rest first
        exact Or.inr ⟨socket, sent, message, rest, rfl, first, (Option.some.inj step).symm⟩
      · cases step

theorem Streams.thread (streams : Streams scripts state) {effect : ThreadEffect}
    (taken : state.cluster.threadEffect scripts.toScripts label = some (socket, effect))
    (preserves : Cluster.Preserves scripts.toScripts
      ((state.cluster.takeMessage label).afterThread socket effect)) :
    Streams scripts (state.advance scripts label bytes
      ((state.cluster.takeMessage label).afterThread socket effect)) := by
  rcases thread_reading taken with
    ⟨message, sent, executing, effectEq, isRead⟩ | ⟨silent, ends⟩
  · exact streams.thread_read taken sent executing effectEq isRead preserves
  · exact streams.thread_silent silent ends taken preserves

theorem Streams.step (streams : Streams scripts state)
    (quiet : state.SendsNoError scripts readingLabel)
    (step : state.next config scripts readingLabel = some after) : Streams scripts after := by
  rcases next_cases step with
    ⟨label, bytes, cluster, rfl, isNext, stepped, rfl⟩ |
      ⟨socket, sent, message, rest, rfl, first, rfl⟩
  · have preserves := streams.preserves.step quiet stepped
    rcases Cluster.next_cases stepped with ⟨handling, handled, rfl⟩ | ⟨socket, effect, taken, rfl⟩
    · exact streams.handler isNext handled preserves
    · exact streams.thread taken preserves
  · exact streams.forward sent first

theorem streams_of_reachable
    (reachable : ((system config scripts).guarded (SendsNoError scripts)).Reachable state) :
    Streams scripts state := by
  refine reachable.invariant ?_ ?_
  · rintro first rfl
    exact streams_started
  · intro before label after streams step
    exact streams.step step.1 step.2

theorem Streams.reads_of_program (streams : Streams scripts state) (queryId : Nat) :
    state.answered queryId <+:
      scripts.readsAmong (state.cluster.program scripts.toScripts queryId) := by
  obtain ⟨count, bound, progress⟩ := streams.preserves.faithful.bounded queryId
  refine (streams.results queryId).trans (scripts.readsAmong_prefix ?_)
  rw [progress.eq_take bound]
  exact List.take_prefix _ _

/-- When the end of a query reaches the Master, none of its results is in flight. -/
theorem Streams.all_passed (streams : Streams scripts state)
    (held : state.cluster.master.query queryId ≠ none) {rest : List WorkerOutput}
    (first : state.outputs socket = .report (.endQuery queryId) :: rest) :
    state.passedOn queryId = state.produced queryId := by
  have ended : queryId ∈ endIds (state.cluster.toMaster socket) := by
    rw [← streams.reports, first]
    exact mem_endIds.mpr (List.mem_cons_self ..)
  have drained : ∀ found, readsOf queryId (state.outputs found) = [] := by
    intro found
    by_contra flying
    obtain rfl := streams.once found socket queryId (streams.attached flying) (Or.inr ended)
    have last := streams.last found
    rw [first] at last flying
    exact flying (last.1 queryId (Or.inl (by simp)))
  obtain ⟨holder, here, _⟩ := streams.flow queryId held
  rw [here, drained holder, List.append_nil]

/-- The steps in which Storage answers no request with an error. -/
def Errorless : ReadingLabel → Bool
  | .step label _ => Cluster.Errorless label
  | .forward _ _ => true

def twoReads : ReadScripts where
  lines _ := ["READ MATERIAS:BASE 0 4", "READ MATERIAS:BASE 4 4", "END"]
  decode line := if line = "END" then .finish else .operation
  reads line := if line = "END" then none else some ⟨"MATERIAS", "BASE"⟩
  operation_of_reads line fileTag reads := by
    by_cases ends : line = "END" <;> simp_all

def findingBytes (labels : List ClusterLabel) : List ReadingLabel :=
  labels.map fun label => .step label [77, 79, 70, 0]

/-- A query is evicted with the result of its first READ in flight, and a second Worker
executes the other. -/
def readAcrossEviction : List ReadingLabel :=
  findingBytes (Cluster.evictAfterFirst.take 14) ++ [.forward 5 true] ++
    findingBytes (Cluster.evictAfterFirst.drop 14 ++ [.dispatch true, .listen 6 none] ++
      List.replicate 8 (Cluster.proceeds 6)) ++ [.forward 6 false]

end Runs

end ReadingCluster

end MasterOfFiles
