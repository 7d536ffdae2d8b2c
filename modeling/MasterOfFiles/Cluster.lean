import MasterOfFiles.MasterEffects
import MasterOfFiles.TransitionSystem
import MasterOfFiles.WorkerThreads

/-!
# The Master and its Workers

All parties together: the tables of the Master, the two threads of every Worker
and the messages in flight on their connections, which are FIFO.  A socket names
one connection for good, so no socket is used for a second Worker.  Any handler
of the Master may run next, and any thread of any Worker.  Two fields are a
history on which no step depends: the script that was submitted for every query
and the instructions of it that were executed so far.
-/

namespace MasterOfFiles

/-- The parties, the connections, and the history of every query. -/
structure Cluster where
  master : Master
  process : Nat → WorkerProcess
  toWorker : Nat → List WorkerMessage
  toMaster : Nat → List WorkerReport
  connected : List Nat
  submitted : Nat → String
  executed : Nat → List QueryContext

inductive ClusterLabel
  | handshake (workerId socket : Nat)
  | newQuery (path : String) (priority socket now : Nat)
  | receive (socket now : Nat)
  | disconnectQueryControl (sent : Bool) (socket : Nat)
  | disconnectWorker (socket : Nat)
  | aging (now : Nat)
  | checkPreemption (sent : Bool)
  | dispatch (sent : Bool)
  | listen (socket : Nat) (flush : Option String)
  | execute (socket : Nat) (answers : StorageAnswers)
deriving DecidableEq

namespace Master

def handleReport (master : Master) (socket now : Nat) :
    WorkerReport → Master × List Outgoing
  | .endQuery queryId => master.manageWorkerEndQuery socket queryId
  | .evictRes queryId programCounter =>
    (master.manageWorkerEvictResponse socket queryId programCounter now, [])
  | .storageError queryId reason => master.handleErrorFromStorage socket queryId reason

def messagesTo (socket : Nat) (sent : List Outgoing) : List WorkerMessage :=
  sent.filterMap fun outgoing =>
    match outgoing with
    | .toWorker destination message => if destination = socket then some message else none
    | .toQueryControl _ _ => none

end Master

namespace Cluster

def started : Cluster where
  master := initMaster
  process _ := .started
  toWorker _ := []
  toMaster _ := []
  connected := []
  submitted _ := ""
  executed _ := []

/-- What a handler of the Master returns, if it can run. -/
def handlerEffect (config : MasterConfig) (cluster : Cluster) :
    ClusterLabel → Option (Master × List Outgoing)
  | .handshake workerId socket =>
    if 0 < socket ∧ socket ∉ cluster.connected then
      some (cluster.master.manageWorkerHandshake workerId socket, [])
    else none
  | .newQuery path priority socket now =>
    some (cluster.master.createQuery config path priority socket now, [])
  | .receive socket now =>
    (cluster.toMaster socket).head?.map (cluster.master.handleReport socket now)
  | .disconnectQueryControl sent socket =>
    some (cluster.master.handleQueryControlDisconnection sent socket)
  | .disconnectWorker socket => some (cluster.master.handleWorkerDisconnection socket)
  | .aging now => some (cluster.master.agingPass config now, [])
  | .checkPreemption sent => some (cluster.master.checkPreemption sent)
  | .dispatch sent => some (cluster.master.tryDispatch config sent)
  | .listen _ _ => none
  | .execute _ _ => none

/-- What happens besides a handler: a socket is used, a script is submitted, or a
report is taken from its connection. -/
def attend (cluster : Cluster) : ClusterLabel → Cluster
  | .handshake _ socket => { cluster with connected := socket :: cluster.connected }
  | .newQuery path _ _ _ =>
    { cluster with
      submitted := Function.update cluster.submitted cluster.master.nextQueryId path }
  | .receive socket _ =>
    { cluster with
      toMaster := Function.update cluster.toMaster socket (cluster.toMaster socket).tail }
  | _ => cluster

/-- The tables that a handler leaves and the messages it sends. -/
def afterHandler (cluster : Cluster) (effect : Master × List Outgoing) : Cluster :=
  { cluster with
    master := effect.1
    toWorker := fun socket => cluster.toWorker socket ++ Master.messagesTo socket effect.2 }

/-- What a step of a thread can do, if it can be taken. -/
def threadEffect (scripts : Scripts) (cluster : Cluster) :
    ClusterLabel → Option (Nat × ThreadEffect)
  | .listen socket flush =>
    (cluster.toWorker socket).head?.map fun message =>
      (socket, (cluster.process socket).listen message flush)
  | .execute socket answers =>
    ((cluster.process socket).execute scripts answers).map fun effect => (socket, effect)
  | _ => none

/-- The listener takes the message that it handles from its connection. -/
def takeMessage (cluster : Cluster) : ClusterLabel → Cluster
  | .listen socket _ =>
    { cluster with
      toWorker := Function.update cluster.toWorker socket (cluster.toWorker socket).tail }
  | _ => cluster

def afterInstruction (executed : Nat → List QueryContext) :
    Option QueryContext → Nat → List QueryContext
  | none => executed
  | some context =>
    Function.update executed context.queryId (executed context.queryId ++ [context])

/-- The Worker that a step of a thread leaves and the messages it sends. -/
def afterThread (cluster : Cluster) (socket : Nat) (effect : ThreadEffect) : Cluster :=
  { cluster with
    process := Function.update cluster.process socket effect.process
    toMaster :=
      Function.update cluster.toMaster socket (cluster.toMaster socket ++ effect.sent)
    executed := afterInstruction cluster.executed effect.executedInstruction }

/-- The step function: a handler of the Master or a thread of a Worker. -/
def next (config : MasterConfig) (scripts : Scripts) (cluster : Cluster)
    (label : ClusterLabel) : Option Cluster :=
  match cluster.handlerEffect config label with
  | some effect => some ((cluster.attend label).afterHandler effect)
  | none =>
    (cluster.threadEffect scripts label).map fun (socket, effect) =>
      (cluster.takeMessage label).afterThread socket effect

/-- Every interleaving of the handlers of the Master and the threads of the
Workers. -/
def system (config : MasterConfig) (scripts : Scripts) :
    TransitionSystem Cluster ClusterLabel :=
  .ofNext (· = started) (next config scripts)

end Cluster

end MasterOfFiles
