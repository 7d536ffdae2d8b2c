import MasterOfFiles.ClusterPreemption
import MasterOfFiles.MasterRuns
import MasterOfFiles.WorkerMemoryManager

/-!
# The results of READ on their way to the Query Control

A Worker sends the bytes of every READ on the connection that carries its reports, and the
Master passes them on to the Query Control that it finds in `running_list`.  The cluster is
extended with these messages: each connection of a Worker is one FIFO of reports and results.

The Master walks `running_list` by index and holds no mutex meanwhile; when another thread takes a
query out of the list in between, the walk can step over the one that it looks for.  The walk is
one step here: `running_list` is taken not to change while a result is being passed on.
-/

namespace MasterOfFiles

/-- The scripts, and the File:Tag that a line reads. -/
structure ReadScripts extends Scripts where
  reads : String → Option Worker.FileTag
  operation_of_reads : ∀ line fileTag, reads line = some fileTag → decode line = .operation

def ReadScripts.readBy (scripts : ReadScripts) (context : QueryContext) :
    Option Worker.FileTag :=
  ((scripts.lines context.queryPath)[context.programCounter]?).bind scripts.reads

def ReadScripts.readsAmong (scripts : ReadScripts) (instructions : List QueryContext) :
    List QueryContext :=
  instructions.filter fun context => (scripts.readBy context).isSome

/-- OP_WORKER_READ_MESSAGE_REQ carries the query, the bytes and the File:Tag; the path and the
program counter say which READ they come from. -/
structure ReadMessage where
  context : QueryContext
  fileTag : Worker.FileTag
  bytes : List UInt8
deriving DecidableEq

inductive WorkerOutput
  | report (report : WorkerReport)
  | read (message : ReadMessage)
deriving DecidableEq

def reportsOf (outputs : List WorkerOutput) : List WorkerReport :=
  outputs.filterMap fun output =>
    match output with
    | .report report => some report
    | .read _ => none

def readsOf (queryId : Nat) (outputs : List WorkerOutput) : List ReadMessage :=
  outputs.filterMap fun output =>
    match output with
    | .report _ => none
    | .read message => if message.context.queryId = queryId then some message else none

/-- The result that the executor sends when it executes a READ: `execute_instruction`
returns 0 only if the bytes were read and sent. -/
def WorkerProcess.readMessage (process : WorkerProcess) (scripts : ReadScripts)
    (answers : StorageAnswers) (bytes : List UInt8) : Option ReadMessage :=
  match process.executor with
  | .executing context =>
    if answers.outcome = .succeeded then
      (scripts.readBy context).map fun fileTag => ⟨context, fileTag, bytes⟩
    else none
  | _ => none

/-- The cluster with the results in flight, and for every query the results that were sent for
it and those that the Master passed on; the flag says whether the send succeeded. -/
structure ReadingCluster where
  cluster : Cluster
  outputs : Nat → List WorkerOutput
  produced : Nat → List ReadMessage
  forwarded : Nat → List (ReadMessage × Bool)

/-- A step of the cluster, with the bytes that a READ finds in memory, or a result that the
Master passes on. -/
inductive ReadingLabel
  | step (label : ClusterLabel) (bytes : List UInt8)
  | forward (socket : Nat) (sent : Bool)
deriving DecidableEq

namespace ReadingCluster

/-- The first message of a connection that a handler takes a report from is a report. -/
def reportIsNext (state : ReadingCluster) : ClusterLabel → Bool
  | .receive socket _ =>
    match state.outputs socket with
    | .report _ :: _ => true
    | _ => false
  | _ => true

def takeReport (state : ReadingCluster) : ClusterLabel → Nat → List WorkerOutput
  | .receive socket _ => Function.update state.outputs socket (state.outputs socket).tail
  | _ => state.outputs

def readSent (state : ReadingCluster) (scripts : ReadScripts) (bytes : List UInt8) :
    ClusterLabel → Option ReadMessage
  | .execute socket answers =>
    (state.cluster.process socket).readMessage scripts answers bytes
  | _ => none

/-- What a step of a thread sends: a result, then its reports. -/
def sends (state : ReadingCluster) (scripts : ReadScripts) (bytes : List UInt8)
    (label : ClusterLabel) (found : Nat) : List WorkerOutput :=
  match state.cluster.threadEffect scripts.toScripts label with
  | none => []
  | some (socket, effect) =>
    if found = socket then
      (state.readSent scripts bytes label).toList.map .read ++ effect.sent.map .report
    else []

def afterRead (produced : Nat → List ReadMessage) :
    Option ReadMessage → Nat → List ReadMessage
  | none => produced
  | some message =>
    Function.update produced message.context.queryId
      (produced message.context.queryId ++ [message])

def advance (state : ReadingCluster) (scripts : ReadScripts) (label : ClusterLabel)
    (bytes : List UInt8) (after : Cluster) : ReadingCluster where
  cluster := after
  outputs found := state.takeReport label found ++ state.sends scripts bytes label found
  produced := afterRead state.produced (state.readSent scripts bytes label)
  forwarded := state.forwarded

/-- `manage_read_message_from_worker` up to its `try_dispatch`: nothing is passed on for a
query that is not in `running_list`, which does not change during the search. -/
def forwardRead (state : ReadingCluster) (socket : Nat) (sent : Bool) (message : ReadMessage) :
    ReadingCluster :=
  { state with
    outputs := Function.update state.outputs socket (state.outputs socket).tail
    forwarded :=
      if state.cluster.master.manageReadMessageFromWorker message.context.queryId = [] then
        state.forwarded
      else
        Function.update state.forwarded message.context.queryId
          (state.forwarded message.context.queryId ++ [(message, sent)]) }

def next (config : MasterConfig) (scripts : ReadScripts) (state : ReadingCluster) :
    ReadingLabel → Option ReadingCluster
  | .step label bytes =>
    if state.reportIsNext label then
      (state.cluster.next config scripts.toScripts label).map
        (state.advance scripts label bytes)
    else none
  | .forward socket sent =>
    match state.outputs socket with
    | .read message :: _ => some (state.forwardRead socket sent message)
    | _ => none

def started : ReadingCluster where
  cluster := .started
  outputs _ := []
  produced _ := []
  forwarded _ := []

/-- Every interleaving of the handlers of the Master, passing on a result in one step, and the
threads of the Workers. -/
def system (config : MasterConfig) (scripts : ReadScripts) :
    TransitionSystem ReadingCluster ReadingLabel :=
  .ofNext (· = started) (next config scripts)

def SendsNoError (scripts : ReadScripts) (state : ReadingCluster) : ReadingLabel → Prop
  | .step label _ => state.cluster.SendsNoError scripts.toScripts label
  | .forward _ _ => True

end ReadingCluster

end MasterOfFiles
