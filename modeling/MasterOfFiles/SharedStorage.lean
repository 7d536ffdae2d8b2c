import MasterOfFiles.WorkerMigration
import MasterOfFiles.WorkerRequestScope
import MasterOfFiles.WorkerService

/-!
# Workers that share one Storage

Every Worker executes instructions and evictions through its own memory manager, and its
requests reach the one Storage in any order with those of the others.  Storage is taken to
execute one request at a time.  Its threads take no lock around a request (the calls of
`lock_file` are commented out), so runs in which the requests of two Workers overlap are not
among the runs here.  When every File:Tag is used by one Worker only, and the requests are
harmless, the whole behaves as one flat array of bytes for each File:Tag on which the
instructions act at once: frames, replacement, hard links, copy-on-write and deduplication
cannot be seen.
-/

namespace MasterOfFiles

namespace Worker

/-- What a Worker does with its memory: execute an instruction, or write the dirty pages
back when its query is evicted. -/
inductive Task
  | execute (instruction : Instruction)
  | evict
deriving DecidableEq

namespace Task

variable {config : MemoryConfig}

def fileTags : Task → List FileTag
  | .execute instruction => instruction.fileTags
  | .evict => []

def program (allocated delivered : Bool) (mm : MemoryManager config) :
    Task → Client config (InstructionOutcome config)
  | .execute instruction => Client.executeInstruction allocated delivered mm instruction
  | .evict => do
    let flushed ← Client.mmFlushAllDirty mm
    pure ⟨flushed.1, none, flushed.2⟩

/-- What a task that succeeds does to the bytes of the File:Tags. -/
def seenAfter (config : MemoryConfig) (seen : FileTag → Nat → UInt8) :
    Task → FileTag → Nat → UInt8
  | .execute instruction => MemoryManager.seenAfter config seen seen instruction
  | .evict => seen

/-- What a task that succeeds sends to the Master. -/
def contentOf (seen : FileTag → Nat → UInt8) : Task → Option (List UInt8)
  | .execute instruction => MemoryManager.contentOf seen instruction
  | .evict => none

/-- The condition under which a task starts: CREATE and TAG make a File:Tag that has no page
in memory, TAG copies one that has no dirty page, and a TRUNCATE drops every page that it
cuts off. -/
def Ready (allocated : Bool) (mm : MemoryManager config) : Task → Prop
  | .execute (.create fileTag) => mm.residentPages fileTag = []
  | .execute (.tag source target) => mm.residentPages target = [] ∧
    ∀ page ∈ mm.residentPages source, page.1.dirty = false
  | .execute (.truncate fileTag size) => 0 ≤ size.toInt ∧
    size.toInt ≤ 2 ^ 31 - 1 - config.pageSize ∧
      (mm.residentPages fileTag = [] ∨ allocated = true ∧ size.toInt ≠ 0)
  | _ => True

end Task

/-- A task on its way: what it started from and what is left of its program. -/
structure Execution (config : MemoryConfig) where
  task : Task
  allocated : Bool
  delivered : Bool
  found : Contents config
  rest : Client config (InstructionOutcome config)

structure Event where
  worker : Nat
  task : Task
  succeeded : Bool
  content : Option (List UInt8)

/-- The disk of Storage, the memories of the Workers as they were before the tasks under
way, these tasks, and the tasks that have ended. -/
structure SharedStorage (site : Site) (Hash : Type) where
  disk : Storage.Disk site.storage Hash
  memories : (worker : Nat) → MemoryManager (site.config worker)
  running : (worker : Nat) → Option (Execution (site.config worker))
  history : List Event

/-- A Worker starts a task, has one whole request served, or ends its task. -/
inductive SharedLabel
  | start (worker : Nat) (task : Task) (allocated delivered : Bool)
  | serve (worker : Nat)
  | finish (worker : Nat)

namespace SharedStorage

variable {site : Site} {Hash : Type}

/-- The blocks that the Workers can see. -/
def contents (state : SharedStorage site Hash) : FileTag → Nat → Page site.storage.blockSize :=
  seenBlocks state.disk.blockLists

def resume (state : SharedStorage site Hash) (worker : Nat)
    (execution : Execution (site.config worker)) : SharedStorage site Hash :=
  { state with running := Function.update state.running worker (some execution) }

def ended (state : SharedStorage site Hash) (worker : Nat) (task : Task)
    (outcome : InstructionOutcome (site.config worker)) : SharedStorage site Hash :=
  { state with
    memories := Function.update state.memories worker outcome.memory
    running := Function.update state.running worker none
    history := state.history ++ [⟨worker, task, outcome.succeeded, outcome.content⟩] }

variable [DecidableEq Hash]

/-- The step function.  Storage executes a request in one step, with none of another Worker in
between. -/
def next (md5 : Storage.Block site.storage.blockSize → Hash)
    (state : SharedStorage site Hash) : SharedLabel → Option (SharedStorage site Hash)
  | .start worker task allocated delivered =>
    match state.running worker with
    | some _ => none
    | none => some (state.resume worker ⟨task, allocated, delivered, state.contents,
        task.program allocated delivered (state.memories worker)⟩)
  | .serve worker =>
    (state.running worker).bind fun execution =>
      match execution.rest with
      | Asking.done _ => none
      | Asking.ask request resume =>
        some ({ state with disk := (respond md5 state.disk request).2 }.resume worker
          { execution with rest := resume (respond md5 state.disk request).1 })
  | .finish worker =>
    (state.running worker).bind fun execution =>
      match execution.rest with
      | Asking.done outcome => some (state.ended worker execution.task outcome)
      | Asking.ask _ _ => none

/-- Storage and all Workers have just started. -/
def Started (state : SharedStorage site Hash) : Prop :=
  state.disk = Storage.initStorage site.storage Hash ∧
    (∀ worker, (state.memories worker).Created ∧ state.running worker = none) ∧
    state.history = []

/-- Every order in which the requests of all Workers can be executed one at a time. -/
def system (md5 : Storage.Block site.storage.blockSize → Hash) :
    TransitionSystem (SharedStorage site Hash) SharedLabel :=
  .ofNext Started (next md5)

/-- The condition: a task is ready and names only File:Tags of its Worker, with names that are
components of paths, and a request is harmless. -/
def Proper (md5 : Storage.Block site.storage.blockSize → Hash) (owner : FileTag → Nat)
    (state : SharedStorage site Hash) : SharedLabel → Prop
  | .start worker task allocated _ =>
    (∀ fileTag ∈ task.fileTags, fileTag.onDisk.isSome = true ∧ owner fileTag = worker) ∧
      task.Ready allocated (state.memories worker)
  | .serve worker => ∀ execution, state.running worker = some execution →
    ∀ request resume, execution.rest = Asking.ask request resume →
      HarmlessRequest md5 state.disk request
  | .finish _ => True

/-- One array of bytes for each File:Tag, on which a task that succeeds acts at once; one
that fails changes at most the File:Tags that it names. -/
def flatStore (site : Site) : TransitionSystem (FileTag → Nat → UInt8) Event where
  initial seen := seen = fun _ _ => 0
  step before event after :=
    if event.succeeded then
      after = event.task.seenAfter (site.config event.worker) before ∧
        event.content = event.task.contentOf before
    else ∀ fileTag ∉ event.task.fileTags, after fileTag = before fileTag

end SharedStorage

end Worker

end MasterOfFiles
