import MasterOfFiles.MasterTables
import MasterOfFiles.MessageAgreement
import MasterOfFiles.StorageRequests
import MasterOfFiles.WorkerInterpreter

/-!
# Numbers that are cut on the way

Three numbers change their type between two modules: the block size of Storage, an `int` that
travels in 16 bits; the priority of a query, an `int` that travels in 8; and the size of a
truncation, a `size_t` that travels in 32 bits and is an `int` again in `truncate_file`.
Neither side checks that they fit.
-/

namespace MasterOfFiles

namespace Formats

open Serialization

section Numbers

/-- `send_block_size`, which passes its `int` to `package_add_uint16`. -/
def sendBlockSize (blockSize : Nat) : Message :=
  ⟨StorageOpCode.workerGetBlockSizeRes.code, [.uint16 (UInt16.ofNat blockSize)]⟩

def getBlockSize (code : UInt8) : PackageReader UInt16 :=
  if code ≠ StorageOpCode.workerGetBlockSizeRes.code then failure else packageReadUint16

/-- The page size of the memory that `mm_create` sets up. -/
def mmCreate (memorySize pageSize : Nat) : Option Nat :=
  if memorySize = 0 ∨ pageSize = 0 then none else some pageSize

/-- A Worker that asks for the block size and sets up its memory. -/
def startWorker (memorySize : Nat) : PackageReader Nat :=
  accepting (byOperationCode getBlockSize) fun blockSize =>
    mmCreate memorySize blockSize.toNat

/-- What the `main` of Query Control sends; it refuses a negative priority. -/
def queryControlMain (queryFilepath : List UInt8) (priority : Int32) : Option QueryControlCall :=
  if priority.toInt < 0 then none
  else some (.sendQuery queryFilepath (UInt8.ofNat priority.toInt.toNat))

/-- The priority of the control block that `manage_query_file_path` creates. -/
def createdPriority (config : MasterConfig) (master : Master) (pathText : List UInt8 → String)
    (socket now : Nat) : MasterRequest → Option Nat
  | .manageQueryFilePath queryPath queryPriority =>
    ((master.createQuery config (pathText queryPath) queryPriority.toNat socket now).query
      master.nextQueryId).map fun query => query.priority
  | _ => none

/-- What the Worker asks of Storage for a TRUNCATE whose size is a multiple of the page size. -/
def truncateCall (pageSize : Nat) (fileTag : Storage.FileTag) (size : Int32)
    (queryId : UInt32) : Option StorageCall :=
  if Worker.sizeOfInt size % pageSize ≠ 0 then none
  else
    some (.truncateFileInStorage (literal fileTag.file.text) (literal fileTag.tag.text)
      (UInt64.ofNat (Worker.sizeOfInt size)) queryId)

/-- The `int` that `handle_truncate_file_op_package` gives to `truncate_file`. -/
def StorageRequest.newSize : StorageRequest → Option Int32
  | .truncateFile _ _ _ newSizeBytes => some newSizeBytes.toInt32
  | _ => none

end Numbers

section BlockSize

theorem sendBlockSize_delivers (blockSize : Nat) :
    Delivers (sendBlockSize blockSize).build (byOperationCode getBlockSize)
      (UInt16.ofNat blockSize) := by
  have selects : getBlockSize (sendBlockSize blockSize).operationCode = packageReadUint16 := rfl
  apply Message.delivers (.inl selects)
  · rw [← bind_pure packageReadUint16]
    exact .uint16 yields_pure
  · simp [Message.Transmissible, sendBlockSize, Field.Transmissible]
  · simp [Message.Small, sendBlockSize, Field.kind, FieldKind.most, maxBufferSize]

/-- The Worker's page size is what is left of the block size in 16 bits. -/
theorem startWorker_iff {memorySize blockSize pageSize : Nat} (memory : 0 < memorySize) :
    Delivers (sendBlockSize blockSize).build (startWorker memorySize) pageSize ↔
      pageSize = blockSize % 2 ^ 16 ∧ pageSize ≠ 0 := by
  rw [startWorker, (sendBlockSize_delivers blockSize).accepting_iff, UInt16.toNat_ofNat',
    mmCreate]
  split
  · rename_i empty
    have multiple : blockSize % 2 ^ 16 = 0 := by omega
    rw [multiple]
    constructor
    · intro nothing
      cases nothing
    · intro zero
      exact absurd zero.1 zero.2
  · rename_i positive
    rw [not_or] at positive
    constructor
    · intro same
      have same : blockSize % 2 ^ 16 = pageSize := Option.some.inj same
      exact ⟨same.symm, same ▸ positive.2⟩
    · intro same
      rw [same.1]

theorem startWorker_blockSize_iff (config : Storage.StorageConfig) {memorySize : Nat}
    (memory : 0 < memorySize) :
    Delivers (sendBlockSize config.blockSize).build (startWorker memorySize)
        config.blockSize ↔ config.blockSize < 2 ^ 16 := by
  have positive := config.blockSize_pos
  rw [startWorker_iff memory]
  omega

end BlockSize

section Priority

theorem createdPriority_manageQueryFilePath (config : MasterConfig) (master : Master)
    (pathText : List UInt8 → String) (socket now : Nat) (queryPath : List UInt8)
    (queryPriority : UInt8) :
    createdPriority config master pathText socket now
      (.manageQueryFilePath queryPath queryPriority) = some queryPriority.toNat := by
  rw [createdPriority, Master.createQuery, Master.enqueueReady_eq]
  change Option.map _ (Function.update master.query master.nextQueryId _ master.nextQueryId) = _
  rw [Function.update_self]
  rfl

theorem queryControlMain_priority_iff (config : MasterConfig) (master : Master)
    (pathText : List UInt8 → String) (socket now : Nat) {queryFilepath : List UInt8}
    {priority : Int32} {call : QueryControlCall}
    (fits : (Field.string queryFilepath).Transmissible)
    (accepted : queryControlMain queryFilepath priority = some call) :
    Delivers call.message.build (accepting (byOperationCode masterHandleClient)
        (createdPriority config master pathText socket now)) priority.toInt.toNat ↔
      priority.toInt < 2 ^ 8 := by
  unfold queryControlMain at accepted
  split at accepted
  · cases accepted
  · rename_i nonnegative
    cases accepted
    have delivers := QueryControlCall.delivers
      (.sendQuery queryFilepath (UInt8.ofNat priority.toInt.toNat))
      (by simpa [Message.Transmissible, QueryControlCall.message, Field.Transmissible] using fits)
    rw [delivers.accepting_iff, QueryControlCall.request, createdPriority_manageQueryFilePath,
      UInt8.toNat_ofNat', Option.some_inj]
    omega

end Priority

end Formats

namespace Storage

variable {config : StorageConfig} {Hash : Type} {disk : Disk config Hash} {fileTag : FileTag}

theorem Disk.metadata_saveFileMetadata {host : Host}
    (saves : host (.saveMetadata fileTag) = false) (metadata : FileMetadata) :
    (disk.saveFileMetadata host fileTag metadata).metadata fileTag = some metadata := by
  rw [saveFileMetadata, saves, if_neg Bool.false_ne_true]
  exact Function.update_self ..

theorem Disk.truncateFile_saves {host : Host} {newSizeBytes : Int32}
    (saves : host (.saveMetadata fileTag) = false)
    (done : (disk.truncateFile host fileTag newSizeBytes).1 = 0) :
    ∃ metadata, (disk.truncateFile host fileTag newSizeBytes).2.metadata fileTag =
        some metadata ∧ metadata.size = newSizeBytes.toInt ∧
          (metadata.blocks.length : Int) = newBlockCount config newSizeBytes := by
  unfold truncateFile at done ⊢
  cases held : disk.readFileMetadata host fileTag with
  | none =>
      rw [held] at done
      cases done
  | some metadata =>
      rw [held] at done
      dsimp only at done ⊢
      by_cases same : newBlockCount config newSizeBytes = metadata.blocks.length
      · rw [if_pos same]
        exact ⟨_, metadata_saveFileMetadata saves _, rfl, same.symm⟩
      · rw [if_neg same] at done ⊢
        by_cases denied : newBlockCount config newSizeBytes < 0 ∨ host .allocateBlocks = true
        · rw [if_pos denied] at done
          cases done
        · rw [if_neg denied] at done ⊢
          rw [not_or] at denied
          by_cases shrinks : newBlockCount config newSizeBytes < metadata.blocks.length
          · rw [if_pos shrinks]
            refine ⟨_, metadata_saveFileMetadata saves _, rfl, ?_⟩
            rw [List.length_take]
            omega
          · rw [if_neg shrinks] at done ⊢
            split at done
            · cases done
            · rename_i grown links
              refine ⟨_, metadata_saveFileMetadata saves _, rfl, ?_⟩
              rw [List.length_append, List.length_replicate]
              omega

theorem roundedUp_eq_div_iff {size block : Nat} (positive : 0 < block) :
    (size + block - 1) / block = size / block ↔ block ∣ size := by
  have parts := Nat.div_add_mod size block
  have below := Nat.mod_lt size positive
  rw [Nat.div_eq_iff positive]
  constructor
  · intro same
    have rest : size % block = 0 := by
      rw [Nat.mul_comm] at parts
      omega
    exact Nat.dvd_of_mod_eq_zero rest
  · intro divides
    have rest := Nat.mod_eq_zero_of_dvd divides
    rw [Nat.mul_comm] at parts
    omega

/-- The rounded-up number of blocks is the exact quotient for multiples of the block size; where
the sum overflows, no block is left, as for a size smaller than a block. -/
theorem newBlockCount_eq_div_iff {newSizeBytes : Int32} (nonnegative : 0 ≤ newSizeBytes.toInt)
    {count : Nat} (counts : (count : Int) = newBlockCount config newSizeBytes) :
    (count : Int) = newSizeBytes.toInt / config.blockSize ↔
      if newSizeBytes.toInt + config.blockSize ≤ 2 ^ 31 then
        (config.blockSize : Int) ∣ newSizeBytes.toInt
      else newSizeBytes.toInt < config.blockSize := by
  have positive := config.blockSize_pos
  have small := config.blockSize_le
  have bounded := config.fsSize_lt
  have limit := newSizeBytes.toInt_lt
  obtain ⟨size, sizeEq⟩ := Int.eq_ofNat_of_zero_le nonnegative
  rw [newBlockCount, sizeEq] at counts
  rw [sizeEq] at limit ⊢
  split
  · rename_i inside
    have sumEq : (size : Int) + config.blockSize - 1 =
        ((size + config.blockSize - 1 : Nat) : Int) := by omega
    rw [Int.bmod_eq_of_le_mul_two (by omega) (by omega), sumEq] at counts
    have countEq : count = (size + config.blockSize - 1) / config.blockSize :=
      Int.ofNat.inj counts
    rw [countEq, Int.natCast_dvd_natCast, ← roundedUp_eq_div_iff positive]
    exact Int.ofNat_inj
  · rename_i outside
    have wrapped : ((size : Int) + config.blockSize - 1).bmod (2 ^ 32) =
        -((2 ^ 32 + 1 - size - config.blockSize : Nat) : Int) := by
      rw [Int.bmod_eq_iff (by decide)]
      omega
    rw [wrapped, Int.neg_tdiv] at counts
    have none : count = 0 := by
      have quotient := Int.natCast_nonneg
        ((2 ^ 32 + 1 - size - config.blockSize) / config.blockSize)
      have negated : (count : Int) =
        -(((2 ^ 32 + 1 - size - config.blockSize) / config.blockSize : Nat) : Int) := counts
      omega
    rw [none, Int.ofNat_lt, ← Nat.div_eq_zero_iff_lt positive, eq_comm]
    exact Int.ofNat_inj

end Storage

namespace Formats

open Serialization Storage

section TruncatedSize

variable {config : StorageConfig} {Hash : Type}

/-- The File:Tag holds the size, in as many blocks as it has. -/
def HoldsSize (disk : Disk config Hash) (fileTag : FileTag) (size : Nat) : Prop :=
  ∃ metadata, disk.metadata fileTag = some metadata ∧ metadata.size = size ∧
    metadata.blocks.length = size / config.blockSize

/-- The size is not negative, and rounding it up to blocks is exact; where the sum overflows, no
block is left, as for a size smaller than a block. -/
def RoundsExactly (config : StorageConfig) (size : Int32) : Prop :=
  0 ≤ size.toInt ∧
    if size.toInt + config.blockSize ≤ 2 ^ 31 then (config.blockSize : Int) ∣ size.toInt
    else size.toInt < config.blockSize

theorem toInt32_sizeOfInt (size : Int32) :
    (UInt64.ofNat (Worker.sizeOfInt size)).toUInt32.toInt32 = size := by
  apply Int32.toInt_inj.mp
  change (UInt64.ofNat (Worker.sizeOfInt size)).toUInt32.toBitVec.toInt = size.toInt
  rw [BitVec.toInt_eq_toNat_bmod]
  change Int.bmod ((UInt64.ofNat (Worker.sizeOfInt size)).toUInt32.toNat : Int) _ = size.toInt
  have lower := size.le_toInt
  have upper := size.toInt_lt
  rw [UInt64.toNat_toUInt32, UInt64.toNat_ofNat', Worker.sizeOfInt, Int.bmod_eq_iff (by decide)]
  omega

theorem sizeOfInt_eq_iff (size : Int32) :
    size.toInt = (Worker.sizeOfInt size : Int) ↔ 0 ≤ size.toInt := by
  have upper := size.toInt_lt
  rw [Worker.sizeOfInt]
  omega

theorem holdsSize_truncated_iff {host : Host} {disk : Disk config Hash} {fileTag : FileTag}
    {size : Int32} (saves : host (.saveMetadata fileTag) = false)
    (done : (disk.truncateFile host fileTag size).1 = 0) :
    HoldsSize (disk.truncateFile host fileTag size).2 fileTag (Worker.sizeOfInt size) ↔
      RoundsExactly config size := by
  obtain ⟨metadata, saved, savedSize, counts⟩ := Disk.truncateFile_saves saves done
  have holds : HoldsSize (disk.truncateFile host fileTag size).2 fileTag (Worker.sizeOfInt size) ↔
      metadata.size = (Worker.sizeOfInt size : Int) ∧
        metadata.blocks.length = Worker.sizeOfInt size / config.blockSize := by
    constructor
    · rintro ⟨other, held, holds⟩
      obtain rfl : metadata = other := Option.some.inj (saved.symm.trans held)
      exact holds
    · intro holds
      exact ⟨metadata, saved, holds⟩
  rw [holds, savedSize, sizeOfInt_eq_iff]
  apply and_congr_right
  intro nonnegative
  rw [← newBlockCount_eq_div_iff nonnegative counts, (sizeOfInt_eq_iff size).mpr nonnegative]
  exact Int.ofNat_inj.symm

theorem truncateCall_delivers {pageSize : Nat} {fileTag : FileTag} {size : Int32}
    {queryId : UInt32} {call : StorageCall}
    (accepted : truncateCall pageSize fileTag size queryId = some call)
    (fits : call.message.Transmissible) :
    Delivers call.message.build
      (accepting (byOperationCode storageHandleClient) StorageRequest.newSize) size := by
  rw [(call.delivers fits).accepting_iff]
  unfold truncateCall at accepted
  split at accepted
  · cases accepted
  · cases accepted
    exact congrArg some (toInt32_sizeOfInt size)

end TruncatedSize

/-- The page size of a Worker is the block size of Storage exactly when that fits in 16 bits, and
the priority of a new query is the given one exactly when that fits in 8.  When Storage reports a
truncation as done, the saved size and the number of blocks are those of the script exactly when
the size is not negative as an `int` and is rounded up exactly. -/
theorem values_cross_unchanged_iff (config : StorageConfig) :
    (∀ memorySize, 0 < memorySize →
      (Delivers (sendBlockSize config.blockSize).build (startWorker memorySize)
          config.blockSize ↔ config.blockSize < 2 ^ 16)) ∧
    (∀ masterConfig master pathText (socket now : Nat) queryFilepath (priority : Int32) call,
      (Field.string queryFilepath).Transmissible →
        queryControlMain queryFilepath priority = some call →
          (Delivers call.message.build (accepting (byOperationCode masterHandleClient)
              (createdPriority masterConfig master pathText socket now)) priority.toInt.toNat ↔
            priority.toInt < 2 ^ 8)) ∧
    ∀ (memorySize pageSize : Nat) (fileTag : FileTag) (size newSize : Int32) (queryId : UInt32)
      (call : StorageCall) (host : Host) (Hash : Type) (disk : Disk config Hash),
      0 < memorySize →
        Delivers (sendBlockSize config.blockSize).build (startWorker memorySize) pageSize →
          truncateCall pageSize fileTag size queryId = some call → call.message.Transmissible →
            Delivers call.message.build
              (accepting (byOperationCode storageHandleClient) StorageRequest.newSize) newSize →
              host (.saveMetadata fileTag) = false →
                (disk.truncateFile host fileTag newSize).1 = 0 →
                  (HoldsSize (disk.truncateFile host fileTag newSize).2 fileTag
                      (Worker.sizeOfInt size) ↔ RoundsExactly config size) := by
  refine ⟨?_, ?_, ?_⟩
  · intro memorySize memory
    exact startWorker_blockSize_iff config memory
  · intro masterConfig master pathText socket now queryFilepath priority call fits accepted
    exact queryControlMain_priority_iff masterConfig master pathText socket now fits accepted
  · intro memorySize pageSize fileTag size newSize queryId call host Hash disk _ _ accepted fits
      arrives saves done
    obtain rfl : size = newSize := (truncateCall_delivers accepted fits).unique arrives
    exact holdsSize_truncated_iff saves done

section Instances

/-- Blocks of 65537 bytes, one more than a multiple of 2 ^ 16. -/
def largeBlockConfig : StorageConfig := ⟨65537, 65537, by decide, by decide, by decide⟩

def sixteenByteConfig : StorageConfig := ⟨1024, 16, by decide, by decide, by decide⟩

def emptyFileA : Disk sixteenByteConfig String :=
  ((initStorage sixteenByteConfig String).createFile reliable fileA).2

/-- A page size of 16, a query of priority 3 and `TRUNCATE a:T 32`. -/
theorem values_cross_unchanged_sixteen :
    Delivers (sendBlockSize 16).build (startWorker 256) 16 ∧
      (∃ call, queryControlMain [113] 3 = some call ∧
        Delivers call.message.build (accepting (byOperationCode masterHandleClient)
          (createdPriority (.mergeSorting .fifo 0) initMaster (fun _ => "q") 5 0)) 3) ∧
        HoldsSize (emptyFileA.truncateFile reliable fileA 32).2 fileA 32 := by
  obtain ⟨blockSizes, priorities, sizes⟩ := values_cross_unchanged_iff sixteenByteConfig
  have pageSize : Delivers (sendBlockSize 16).build (startWorker 256) 16 :=
    (blockSizes 256 (by decide)).mpr (by decide)
  refine ⟨pageSize, ⟨.sendQuery [113] 3, rfl, ?_⟩, ?_⟩
  · apply (priorities _ _ _ _ _ [113] 3 (.sendQuery [113] 3) _ rfl).mpr (by decide)
    simp [Field.Transmissible, maxStringLength]
  · have accepted : truncateCall 16 fileA 32 1 =
        some (.truncateFileInStorage (literal "a") (literal "T") 32 1) := by
      unfold truncateCall
      rw [if_neg (by decide)]
      rfl
    have names : literal "a" = [97] ∧ literal "T" = [84] := by decide +kernel
    have fits : (StorageCall.truncateFileInStorage (literal "a") (literal "T") 32
        1).message.Transmissible := by
      rw [names.1, names.2]
      simp [Message.Transmissible, StorageCall.message, Field.Transmissible, maxStringLength]
    have arrives := truncateCall_delivers accepted fits
    apply (sizes 256 16 fileA 32 32 1 _ reliable String emptyFileA (by decide) pageSize accepted
      fits arrives rfl (by decide +kernel)).mpr
    exact ⟨by decide, by decide⟩

/-- A block size of 65537 leaves another page size; a query of priority 256 gets another
priority; and `TRUNCATE a:T -16`, whose size of 2 ^ 64 - 16 bytes is a multiple of the page size
16, is done and saves another size. -/
theorem values_change_on_the_way :
    ¬ Delivers (sendBlockSize largeBlockConfig.blockSize).build (startWorker 256)
        largeBlockConfig.blockSize ∧
      (∃ call, queryControlMain [113] 256 = some call ∧
        ¬ Delivers call.message.build (accepting (byOperationCode masterHandleClient)
          (createdPriority (.mergeSorting .fifo 0) initMaster (fun _ => "q") 5 0)) 256) ∧
        (truncateCall 16 fileA (-16) 1).isSome ∧
          (emptyFileA.truncateFile reliable fileA (-16)).1 = 0 ∧
            (emptyFileA.truncateFile reliable fileA (-16)).2.metadata fileA =
              some ⟨-16, [], .workInProgress⟩ ∧
              ¬ HoldsSize (emptyFileA.truncateFile reliable fileA (-16)).2 fileA
                (Worker.sizeOfInt (-16)) := by
  have done : (emptyFileA.truncateFile reliable fileA (-16)).1 = 0 := by decide +kernel
  refine ⟨?_, ⟨.sendQuery [113] 0, rfl, ?_⟩, by decide, done, by decide +kernel, ?_⟩
  · rw [startWorker_blockSize_iff largeBlockConfig (by decide)]
    decide
  · have fits : (Field.string [113]).Transmissible := by
      simp [Field.Transmissible, maxStringLength]
    intro delivers
    have small := (queryControlMain_priority_iff (.mergeSorting .fifo 0) initMaster
      (fun _ => "q") 5 0 fits (rfl : queryControlMain [113] 256 = _)).mp delivers
    exact absurd small (by decide)
  · rw [holdsSize_truncated_iff rfl done]
    intro rounds
    exact absurd rounds.1 (by decide)

end Instances

end Formats

end MasterOfFiles
