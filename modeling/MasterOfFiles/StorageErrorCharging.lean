import MasterOfFiles.Cluster

/-!
# The query that a Storage error is charged to

`handle_error_from_storage` reads the query id of the message and then looks up
the query that the sender is assigned to.  The two agree as long as the worker
still runs the query that failed.  A failing query can report a second error when
its dirty pages are flushed; by then the first one has freed the worker, and the
second is charged to whatever was dispatched to it in between.
-/

namespace MasterOfFiles

namespace Master

variable {master : Master} {socket queryId : Nat} {reason : String}

/-- A handler leaves every query but one as it is, and reports on no other. -/
structure ChargesOnly (master : Master) (queryId : Nat) (effect : Master × List Outgoing) :
    Prop where
  block : ∀ other, other ≠ queryId → effect.1.query other = master.query other
  ready : ∀ other, other ≠ queryId →
    effect.1.readyQueue.count other = master.readyQueue.count other
  running : ∀ other, other ≠ queryId →
    effect.1.runningList.count other = master.runningList.count other
  listed : ∀ other, other ≠ queryId →
    effect.1.queryList.count other = master.queryList.count other
  reports : ∀ client message, .toQueryControl client message ∈ effect.2 →
    message.queryId = queryId

/-- The sender of an error runs the query that the error is about, or no running
query at all. -/
def ErrorIsCurrent (master : Master) (socket queryId : Nat) : Prop :=
  ∀ found, (master.findWorkerBySocket socket).bind WorkerControlBlock.currentQueryId =
    some found → master.findRunning found ≠ none → found = queryId

theorem chargesOnly_refl (master : Master) (queryId : Nat) :
    ChargesOnly master queryId (master, []) :=
  ⟨fun _ _ => rfl, fun _ _ => rfl, fun _ _ => rfl, fun _ _ => rfl, by simp⟩

/-- Freeing a worker and dropping its query touches no other query. -/
theorem chargesOnly_finalize (client : Nat) :
    ChargesOnly master queryId
      ((((master.releaseWorker socket).modifyQuery queryId fun query =>
          { query with state := .canceled }).cleanupQueryResources queryId),
        [.toQueryControl client (.finDesconexion queryId reason)]) := by
  have block : ∀ other, other ≠ queryId →
      ((master.releaseWorker socket).modifyQuery queryId fun query =>
        { query with state := .canceled }).query other = master.query other :=
    fun other different => Function.update_of_ne different _ _
  unfold cleanupQueryResources
  split
  · exact ⟨block, fun _ _ => rfl, fun _ _ => rfl, fun _ _ => rfl,
      by simp [QueryControlMessage.queryId]⟩
  · split
    · exact ⟨block, fun _ _ => rfl, fun _ _ => rfl, fun _ _ => rfl,
        by simp [QueryControlMessage.queryId]⟩
    · refine ⟨fun other different => ?_, fun other different => ?_, fun other different => ?_,
        fun other different => ?_, by simp [QueryControlMessage.queryId]⟩
      · exact (Function.update_of_ne different _ _).trans (block other different)
      · exact List.count_erase_of_ne different
      · exact List.count_erase_of_ne different
      · exact List.count_erase_of_ne different

/-- The handler charges an error to its own query exactly if the sender still runs
that query, or runs nothing. -/
theorem chargesOnly_handleErrorFromStorage_iff :
    ChargesOnly master queryId (master.handleErrorFromStorage socket queryId reason) ↔
      ErrorIsCurrent master socket queryId := by
  unfold handleErrorFromStorage ErrorIsCurrent
  cases search : (master.findWorkerBySocket socket).bind
      WorkerControlBlock.currentQueryId with
  | none => simp [chargesOnly_refl]
  | some found =>
      cases running : master.findRunning found with
      | none => simp [running, chargesOnly_refl]
      | some query =>
          have block : (master.releaseWorker socket).query found = some query :=
            (query_of_findRunning running).2
          simp only [running, finalizeQueryWithError, block]
          constructor
          · rintro charges other same _
            obtain rfl : found = other := Option.some.inj same
            exact charges.reports _ _ List.mem_cons_self
          · intro current
            obtain rfl := current found rfl (by simp [running])
            exact chargesOnly_finalize query.socketFd

end Master

namespace Cluster

variable {config : MasterConfig} {scripts : Scripts}

/-- A step that handles a Storage error charges it to the query it is about. -/
def ChargesOwn (cluster : Cluster) : ClusterLabel → Prop
  | .receive socket _ => ∀ queryId reason,
      (cluster.toMaster socket).head? = some (.storageError queryId reason) →
        cluster.master.ChargesOnly queryId
          (cluster.master.handleErrorFromStorage socket queryId reason)
  | _ => True

/-- A Storage error is handled while its sender runs the query it is about, or no
running query. -/
def ErrorsCurrent (cluster : Cluster) : ClusterLabel → Prop
  | .receive socket _ => ∀ queryId reason,
      (cluster.toMaster socket).head? = some (.storageError queryId reason) →
        cluster.master.ErrorIsCurrent socket queryId
  | _ => True

theorem chargesOwn_iff (cluster : Cluster) (label : ClusterLabel) :
    cluster.ChargesOwn label ↔ cluster.ErrorsCurrent label := by
  cases label with
  | receive socket now =>
      refine forall_congr' fun queryId => forall_congr' fun reason => forall_congr' fun _ => ?_
      exact Master.chargesOnly_handleErrorFromStorage_iff
  | _ => exact Iff.rfl

/-- Along every run, every Storage error is charged to its own query exactly if
each is handled while its sender runs that query, or no running query. -/
theorem errors_charged_iff (labels : List ClusterLabel) :
    TransitionSystem.Along (next config scripts) ChargesOwn started labels ↔
      TransitionSystem.Along (next config scripts) ErrorsCurrent started labels :=
  TransitionSystem.along_congr chargesOwn_iff

section Runs

/-- The script ESCRITURA_ARCHIVO_COMMITED, which writes to a committed tag. -/
def writeCommitted : Scripts where
  lines _ :=
    ["CREATE metroid:v1", "TRUNCATE metroid:v1 512", "WRITE metroid:v1 0 SAMUS",
      "COMMIT metroid:v1", "WRITE metroid:v1 10 Zeebes", "FLUSH metroid:v1", "END"]
  decode line := if line = "END" then .finish else .operation

/-- FLUSH fails on a Storage error, a second query is dispatched, and the flush of
all dirty pages after the failure reports the same error again. -/
def errorTwice : List ClusterLabel :=
  [.newQuery "ESCRITURA_ARCHIVO_COMMITED" 4 8 1, .newQuery "AGING_1" 4 9 1, .handshake 1 5,
    .dispatch true, .listen 5 none] ++
  List.replicate 23 (.execute 5 ⟨.succeeded, none⟩) ++
  [.execute 5 ⟨.failedReporting true "WRITE_NOT_PERMITTED", none⟩,
    .receive 5 2, .dispatch true,
    .execute 5 ⟨.succeeded, some "WRITE_NOT_PERMITTED"⟩]

theorem second_error_charged_to_other_query :
    ∃ cluster, (system (.mergeSorting .fifo 0) writeCommitted).Reachable cluster ∧
      ¬ cluster.ChargesOwn (.receive 5 3) := by
  have ends : (TransitionSystem.runNext (next (.mergeSorting .fifo 0) writeCommitted) started
      errorTwice).any (fun cluster =>
        decide ((cluster.toMaster 5).head? = some (.storageError 0 "WRITE_NOT_PERMITTED")) &&
          decide (((cluster.master.handleErrorFromStorage 5 0 "WRITE_NOT_PERMITTED").1.query
            1).isNone) && decide ((cluster.master.query 1).isSome)) = true := by
    decide +kernel
  obtain ⟨cluster, run, found⟩ := (Option.any_eq_true _ _).mp ends
  simp only [Bool.and_eq_true, decide_eq_true_eq] at found
  obtain ⟨⟨head, gone⟩, known⟩ := found
  refine ⟨cluster, ⟨started, errorTwice, rfl, TransitionSystem.run_of_runNext run⟩, ?_⟩
  intro charges
  have same := (charges 0 "WRITE_NOT_PERMITTED" head).block 1 (by decide)
  rw [← same, Option.isSome_iff_ne_none] at known
  exact known (Option.isNone_iff_eq_none.mp gone)

end Runs

end Cluster

end MasterOfFiles
