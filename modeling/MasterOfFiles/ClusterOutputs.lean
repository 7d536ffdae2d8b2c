import MasterOfFiles.ClusterReads

/-!
# Reports and results on one connection

What a Worker sends is a list of reports and results of READ.  A query is settled by the report
that ends or evicts it.
-/

namespace MasterOfFiles

section Outputs

variable {outputs new : List WorkerOutput} {unfinished later : List Nat} {queryId : Nat}

@[simp]
theorem reportsOf_nil : reportsOf [] = [] :=
  rfl

@[simp]
theorem readsOf_nil : readsOf queryId [] = [] :=
  rfl

@[simp]
theorem reportsOf_append : reportsOf (outputs ++ new) = reportsOf outputs ++ reportsOf new :=
  List.filterMap_append

@[simp]
theorem reportsOf_report {report : WorkerReport} :
    reportsOf (.report report :: outputs) = report :: reportsOf outputs :=
  rfl

@[simp]
theorem reportsOf_read {message : ReadMessage} :
    reportsOf (.read message :: outputs) = reportsOf outputs :=
  rfl

@[simp]
theorem readsOf_append : readsOf queryId (outputs ++ new) =
    readsOf queryId outputs ++ readsOf queryId new :=
  List.filterMap_append

@[simp]
theorem readsOf_report {report : WorkerReport} :
    readsOf queryId (.report report :: outputs) = readsOf queryId outputs :=
  rfl

theorem readsOf_read_self {message : ReadMessage} :
    readsOf message.context.queryId (.read message :: outputs) =
      message :: readsOf message.context.queryId outputs := by
  simp [readsOf]

theorem readsOf_read_of_ne {message : ReadMessage} (other : message.context.queryId ≠ queryId) :
    readsOf queryId (.read message :: outputs) = readsOf queryId outputs := by
  simp [readsOf, other]

theorem reportsOf_reports {reports : List WorkerReport} :
    reportsOf (reports.map .report) = reports := by
  induction reports with
  | nil => rfl
  | cons report rest ih => simpa using ih

@[simp]
theorem readsOf_reports {reports : List WorkerReport} :
    readsOf queryId (reports.map .report) = [] := by
  induction reports with
  | nil => rfl
  | cons report rest ih => simpa using ih

/-- A query is ended or evicted by one of the reports. -/
def SettledBy (reports : List WorkerReport) (queryId : Nat) : Prop :=
  queryId ∈ endIds reports ∨ queryId ∈ evictIds reports

theorem settledBy_append {reports others : List WorkerReport} :
    SettledBy (reports ++ others) queryId ↔
      SettledBy reports queryId ∨ SettledBy others queryId := by
  simp only [SettledBy, endIds_append, evictIds_append, List.mem_append]
  tauto

theorem SettledBy.cons {report : WorkerReport} {reports : List WorkerReport}
    (settled : SettledBy reports queryId) : SettledBy (report :: reports) queryId := by
  rw [← List.singleton_append]
  exact settledBy_append.mpr (Or.inr settled)

theorem SettledBy.head {report : WorkerReport} {reports : List WorkerReport}
    (settled : SettledBy [report] queryId) : SettledBy (report :: reports) queryId := by
  rw [← List.singleton_append]
  exact settledBy_append.mpr (Or.inl settled)

/-- Every result in flight is of a query that is unfinished or settled behind it. -/
def Behind (unfinished : List Nat) : List WorkerOutput → Prop
  | [] => True
  | .report _ :: rest => Behind unfinished rest
  | .read message :: rest =>
    (message.context.queryId ∈ unfinished ∨
      SettledBy (reportsOf rest) message.context.queryId) ∧ Behind unfinished rest

theorem Behind.append (behind : Behind unfinished outputs)
    (kept : ∀ queryId ∈ unfinished, queryId ∈ later ∨ SettledBy (reportsOf new) queryId)
    (newBehind : Behind later new) : Behind later (outputs ++ new) := by
  induction outputs with
  | nil => exact newBehind
  | cons output rest ih =>
      rw [List.cons_append]
      cases output with
      | report report => exact ih behind
      | read message =>
          refine ⟨?_, ih behind.2⟩
          rw [reportsOf_append, settledBy_append]
          rcases behind.1 with active | settled
          · exact (kept _ active).imp id Or.inr
          · exact Or.inr (Or.inl settled)

theorem behind_reports (reports : List WorkerReport) :
    Behind unfinished (reports.map .report) := by
  induction reports with
  | nil => trivial
  | cons report rest ih => exact ih

/-- A query with a result in flight is unfinished or settled by a report. -/
theorem Behind.of_readsOf (behind : Behind unfinished outputs)
    (flying : readsOf queryId outputs ≠ []) :
    queryId ∈ unfinished ∨ SettledBy (reportsOf outputs) queryId := by
  induction outputs with
  | nil => exact absurd rfl flying
  | cons output rest ih =>
      cases output with
      | report report => exact (ih behind flying).imp id SettledBy.cons
      | read message =>
          by_cases same : message.context.queryId = queryId
          · subst same
            exact behind.1
          · rw [readsOf_read_of_ne same] at flying
            exact ih behind.2 flying

/-- No result of a query is behind the report that settles it. -/
def SettlesLast : List WorkerOutput → Prop
  | [] => True
  | .report report :: rest =>
    (∀ queryId, SettledBy [report] queryId → readsOf queryId rest = []) ∧ SettlesLast rest
  | .read _ :: rest => SettlesLast rest

theorem SettlesLast.append (last : SettlesLast outputs)
    (apart : ∀ queryId, SettledBy (reportsOf outputs) queryId → readsOf queryId new = [])
    (newLast : SettlesLast new) : SettlesLast (outputs ++ new) := by
  induction outputs with
  | nil => exact newLast
  | cons output rest ih =>
      rw [List.cons_append]
      cases output with
      | report report =>
          refine ⟨fun queryId settles => ?_, ih last.2 fun queryId settled =>
            apart queryId settled.cons⟩
          rw [readsOf_append, last.1 queryId settles, List.nil_append]
          exact apart queryId settles.head
      | read message => exact ih last apart

theorem settlesLast_reports (reports : List WorkerReport) :
    SettlesLast (reports.map .report) := by
  induction reports with
  | nil => trivial
  | cons report rest ih => exact ⟨fun _ _ => readsOf_reports, ih⟩

end Outputs

namespace WorkerProcess

variable {process : WorkerProcess} {effect : ThreadEffect} {scripts : ReadScripts}
  {answers : StorageAnswers} {bytes : List UInt8} {queryId : Nat}

theorem execute_settles {scripts : Scripts}
    (step : ExecutorStep scripts process.state process.executor effect)
    (unfinished : queryId ∈ process.unfinishedIds) :
    queryId ∈ effect.process.unfinishedIds ∨ SettledBy effect.sent queryId := by
  obtain ⟨state, executor⟩ := process
  cases step with
  | ejectAfter requested =>
      rename_i endDetected
      cases endDetected <;>
        simp_all [unfinishedIds, Executor.unfinished, Executor.active, Executor.context]
  | flush errors =>
      rename_i endDetected sent
      cases endDetected <;>
        simp_all [unfinishedIds, Executor.unfinished, Executor.active, Executor.context]
  | answer =>
      rename_i endDetected
      cases endDetected <;>
        simp_all [unfinishedIds, Executor.unfinished, Executor.active, Executor.context,
          SettledBy]
  | _ =>
      simp_all [unfinishedIds, Executor.unfinished, Executor.active, Executor.context,
        SettledBy]

/-- An instruction that sends a result is a READ, and it sends nothing else; a READ that sends
none ends the execution of its query. -/
theorem execute_reading (execution : process.execute scripts.toScripts answers = some effect) :
    (∃ message, process.readMessage scripts answers bytes = some message ∧
        process.executor = .executing message.context ∧
        effect = ⟨⟨process.state, .executed message.context false⟩, [], some message.context⟩ ∧
        (scripts.readBy message.context).isSome = true) ∨
      (process.readMessage scripts answers bytes = none ∧
        ∀ context, effect.executedInstruction = some context →
          (scripts.readBy context).isSome = false ∨
            effect.process.executor = .closing context .error) := by
  obtain ⟨state, executor⟩ := process
  by_cases executing : ∃ context, executor = .executing context
  · obtain ⟨context, rfl⟩ := executing
    have step := execute_step execution
    obtain rfl := Option.some.inj execution
    cases line : (scripts.lines context.queryPath)[context.programCounter]? with
    | none =>
        right
        simp [readMessage, ReadScripts.readBy, executeInstruction, line, goto]
    | some text =>
        cases reads : scripts.reads text with
        | none =>
            right
            refine ⟨by simp [readMessage, ReadScripts.readBy, line, reads], ?_⟩
            intro other executed
            obtain rfl := Executor.executing.inj (execute_instruction step executed).1
            simp [ReadScripts.readBy, line, reads]
        | some fileTag =>
            have operation := scripts.operation_of_reads text fileTag reads
            cases outcome : answers.outcome with
            | succeeded =>
                left
                refine ⟨⟨context, fileTag, bytes⟩, ?_, rfl, ?_, ?_⟩
                · simp [readMessage, outcome, ReadScripts.readBy, line, reads]
                · simp [executeInstruction, line, operation, outcome]
                · simp [ReadScripts.readBy, line, reads]
            | failed =>
                right
                simp [readMessage, executeInstruction, line, operation, outcome]
            | failedReporting throughMemory reason =>
                right
                simp [readMessage, executeInstruction, line, operation, outcome]
  · right
    have silent : effect.executedInstruction = none := by
      cases executed : effect.executedInstruction with
      | none => rfl
      | some context =>
          exact absurd ⟨context, (execute_instruction (execute_step execution) executed).1⟩
            executing
    refine ⟨?_, by simp [silent]⟩
    unfold readMessage
    split
    · rename_i context isExecuting
      exact absurd ⟨context, isExecuting⟩ executing
    · rfl

end WorkerProcess

theorem ReadScripts.readsAmong_snoc (scripts : ReadScripts) (instructions : List QueryContext)
    (context : QueryContext) : scripts.readsAmong (instructions ++ [context]) =
      scripts.readsAmong instructions ++
        if (scripts.readBy context).isSome then [context] else [] := by
  rw [readsAmong, List.filter_append]
  by_cases reads : (scripts.readBy context).isSome = true <;> simp [readsAmong, reads]

theorem ReadScripts.readsAmong_prefix (scripts : ReadScripts)
    {instructions others : List QueryContext} (initial : instructions <+: others) :
    scripts.readsAmong instructions <+: scripts.readsAmong others := by
  obtain ⟨rest, rfl⟩ := initial
  rw [readsAmong, readsAmong, List.filter_append]
  exact List.prefix_append _ _

end MasterOfFiles
