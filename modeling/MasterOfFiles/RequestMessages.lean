import MasterOfFiles.MessageAgreement
import MasterOfFiles.SharedStorage

/-!
# Requests and responses as packages

What the functions of `storage.c` send for a request of the Worker, what Storage executes and
answers for the package, and what the Worker takes from the answer.  The answer that comes out of
the two packages is the one that Storage would give to the request itself.
-/

namespace MasterOfFiles

open Serialization
open Formats (StorageCall StorageResponse StorageAnswer StorageOpCode WorkerNotice literal)

namespace Storage

def storageErrorMessage (code : Int) : String :=
  if code = 0 then "SUCCESS"
  else if code = fileTagMissing then "FILE_TAG_MISSING"
  else if code = fileTagAlreadyExists then "FILE_TAG_ALREADY_EXISTS"
  else if code = fileAlreadyCommitted then "FILE_ALREADY_COMMITTED"
  else if code = readOutOfBounds then "OUT_OF_BOUNDS"
  else if code = notEnoughSpace then "NOT_ENOUGH_SPACE"
  else "UNKNOWN_STORAGE_ERROR"

def pathNameOf (bytes : List UInt8) : Option PathName :=
  (String.fromUTF8? ⟨bytes.toArray⟩).bind Worker.pathName

def fileTagOf (name tag : List UInt8) : Option FileTag :=
  (pathNameOf name).bind fun name => (pathNameOf tag).map fun tag => ⟨name, tag⟩

variable {config : StorageConfig} {Hash : Type} [DecidableEq Hash]

section Handlers

def errorText (operation : String) (code : Int) : List UInt8 :=
  literal (operation ++ " error: " ++ storageErrorMessage code)

/-- The response to the result of an operation that is not a read. -/
def statusResponse (responseCode : StorageOpCode) (operation : String) (queryId : UInt32)
    (operationResult : Int) : StorageResponse :=
  if operationResult ≠ 0 then .error queryId (errorText operation operationResult)
  else .status responseCode (Int8.ofInt operationResult)

/-- Execute an operation that is not a read and answer with its result. -/
def executeAndAnswer (md5 : Block config.blockSize → Hash) (disk : Disk config Hash)
    (responseCode : StorageOpCode) (operation : String) (queryId : UInt32) (request : Request) :
    StorageResponse × Disk config Hash :=
  let executed := disk.execute reliable md5 request
  (statusResponse responseCode operation queryId executed.1, executed.2)

/-- The handler that `handle_client` calls for a request of an operation, after it has read the
package.  Names that are no component of a path are outside the model of the disk. -/
def handleRequest (md5 : Block config.blockSize → Hash) (disk : Disk config Hash) :
    Formats.StorageRequest → Option (StorageResponse × Disk config Hash)
  | .handleHandshake _ | .sendBlockSize => none
  | .createFile queryId name tag => (fileTagOf name tag).map fun fileTag =>
    executeAndAnswer md5 disk .fileCreateRes "CREATE_FILE" queryId (.createFile fileTag)
  | .truncateFile queryId name tag newSizeBytes => (fileTagOf name tag).map fun fileTag =>
    executeAndAnswer md5 disk .fileTruncateRes "TRUNCATE_FILE" queryId
      (.truncateFile fileTag newSizeBytes.toInt32)
  | .createTag queryId fileSrc tagSrc fileDst tagDst =>
    (fileTagOf fileSrc tagSrc).bind fun source => (fileTagOf fileDst tagDst).map fun target =>
      executeAndAnswer md5 disk .tagCreateRes "CREATE_TAG" queryId (.createTag source target)
  | .executeTagCommit queryId name tag => (fileTagOf name tag).map fun fileTag =>
    executeAndAnswer md5 disk .tagCommitRes "COMMIT_TAG" queryId (.executeTagCommit fileTag)
  | .executeBlockWrite queryId name tag blockNumber blockData =>
    (fileTagOf name tag).map fun fileTag =>
      executeAndAnswer md5 disk .blockWriteRes "WRITE_BLOCK" queryId
        (.executeBlockWrite fileTag blockNumber blockData)
  | .executeBlockRead queryId name tag blockNumber => (fileTagOf name tag).map fun fileTag =>
    match disk.executeBlockRead reliable fileTag blockNumber with
    | .ok block => (.blockRead block.toList, disk)
    | .error code => (.error queryId (errorText "READ_BLOCK" code), disk)
  | .deleteTag queryId name tag => (fileTagOf name tag).map fun fileTag =>
    executeAndAnswer md5 disk .tagDeleteRes "DELETE_TAG" queryId (.deleteTag fileTag)

end Handlers

section Texts

theorem toList_loop (bytes : ByteArray) (index : Nat) (collected : List UInt8) :
    ByteArray.toList.loop bytes index collected =
      collected.reverse ++ bytes.data.toList.drop index := by
  fun_induction ByteArray.toList.loop bytes index collected with
  | case1 index collected inside ih =>
      have within : index < bytes.data.toList.length := inside
      rw [ih, List.drop_eq_getElem_cons within]
      simp [ByteArray.get!, getElem!_pos, inside]
  | case2 index collected outside =>
      have beyond : bytes.data.toList.length ≤ index := Nat.not_lt.mp outside
      rw [List.drop_of_length_le beyond, List.append_nil]

theorem toList_byteArray (bytes : ByteArray) : bytes.toList = bytes.data.toList :=
  (toList_loop bytes 0 []).trans (by simp)

theorem literal_append (first second : String) :
    literal (first ++ second) = literal first ++ literal second := by
  simp [literal, toList_byteArray]

theorem pathNameOf_literal (text : String) : pathNameOf (literal text) = Worker.pathName text := by
  have bytes : (⟨(literal text).toArray⟩ : ByteArray) = text.toUTF8 := by
    rw [literal, toList_byteArray]
  rw [pathNameOf, bytes, String.toUTF8_eq_toByteArray, String.fromUTF8?,
    dif_pos text.isValidUTF8]
  rfl

theorem fileTagOf_literal (fileTag : Worker.FileTag) :
    fileTagOf (literal fileTag.file) (literal fileTag.tag) = fileTag.onDisk := by
  rw [fileTagOf, pathNameOf_literal, pathNameOf_literal]
  rfl

theorem storageErrorMessage_mem (code : Int) : storageErrorMessage code ∈
    ["SUCCESS", "FILE_TAG_MISSING", "FILE_TAG_ALREADY_EXISTS", "FILE_ALREADY_COMMITTED",
      "OUT_OF_BOUNDS", "NOT_ENOUGH_SPACE", "UNKNOWN_STORAGE_ERROR"] := by
  unfold storageErrorMessage
  repeat' split
  all_goals simp

/-- The text of an error may be sent when the name of its operation is short. -/
theorem errorText_transmissible {operation : String}
    (plain : 0 ∉ literal operation ∧ (literal operation).length ≤ 100) (code : Int) :
    (Field.string (errorText operation code)).Transmissible := by
  have messages : ∀ text ∈ ["SUCCESS", "FILE_TAG_MISSING", "FILE_TAG_ALREADY_EXISTS",
      "FILE_ALREADY_COMMITTED", "OUT_OF_BOUNDS", "NOT_ENOUGH_SPACE", "UNKNOWN_STORAGE_ERROR"],
      0 ∉ literal (" error: " ++ text) ∧ (literal (" error: " ++ text)).length ≤ 100 := by
    decide +kernel
  obtain ⟨noNul, short⟩ := messages _ (storageErrorMessage_mem code)
  rw [errorText, String.append_assoc, literal_append]
  refine ⟨?_, ?_⟩
  · rw [List.mem_append]
    exact not_or.mpr ⟨plain.1, noNul⟩
  · rw [List.length_append, maxStringLength]
    omega

end Texts

end Storage

namespace Worker

section Requests

variable {config : MemoryConfig}

namespace StorageRequest

/-- The call of a function of `storage.c` for a query.  A block number is a `uint32_t`. -/
def call (queryId : UInt32) : StorageRequest config → Option StorageCall
  | .readBlock fileTag number =>
    if number < 2 ^ 32 then
      some (.readBlockFromStorage (literal fileTag.file) (literal fileTag.tag)
        (UInt32.ofNat number) queryId)
    else none
  | .writeBlock fileTag number bytes =>
    if number < 2 ^ 32 then
      some (.writeBlockToStorage (literal fileTag.file) (literal fileTag.tag)
        (UInt32.ofNat number) bytes.toList queryId)
    else none
  | .createFile fileTag =>
    some (.createFileInStorage queryId (literal fileTag.file) (literal fileTag.tag))
  | .truncateFile fileTag size =>
    some (.truncateFileInStorage (literal fileTag.file) (literal fileTag.tag)
      (UInt64.ofNat (sizeOfInt size)) queryId)
  | .forkFile source target =>
    some (.forkFileInStorage (literal source.file) (literal source.tag) (literal target.file)
      (literal target.tag) queryId)
  | .commitFile fileTag =>
    some (.commitFileInStorage (literal fileTag.file) (literal fileTag.tag) queryId)
  | .deleteFile fileTag =>
    some (.deleteFileInStorage (literal fileTag.file) (literal fileTag.tag) queryId)

/-- The frame after `mm_handle_page_fault` has copied the bytes of a block into it: zeros behind
a block that is too short. -/
def pageOf (config : MemoryConfig) (data : List UInt8) : Page config.pageSize :=
  Vector.ofFn fun position => data.getD position 0

def accepted : Option StorageAnswer → Bool
  | some .acknowledged => true
  | _ => false

def blockOf (config : MemoryConfig) : Option StorageAnswer → Option (Page config.pageSize)
  | some (.block data _) => some (pageOf config data)
  | _ => none

/-- What the Worker takes from a response, or from none that it can read. -/
def taken : (request : StorageRequest config) → Option StorageAnswer → request.Answer
  | .readBlock _ _, answer => blockOf config answer
  | .writeBlock _ _ _, answer => accepted answer
  | .createFile _, answer => accepted answer
  | .truncateFile _ _, answer => accepted answer
  | .forkFile _ _, answer => accepted answer
  | .commitFile _, answer => accepted answer
  | .deleteFile _, answer => accepted answer

/-- The names of the File:Tags of a request may be sent, and are components of paths. -/
def Sendable (fileTag : FileTag) : Prop :=
  fileTag.onDisk.isSome = true ∧ (Field.string (literal fileTag.file)).Transmissible ∧
    (Field.string (literal fileTag.tag)).Transmissible

instance (fileTag : FileTag) : Decidable (Sendable fileTag) :=
  inferInstanceAs (Decidable (_ ∧ (_ ∧ _) ∧ (_ ∧ _)))

end StorageRequest

end Requests

section Responses

def readAnswer (call : StorageCall) (package : Package) : Option StorageAnswer :=
  (byOperationCode call.answer package).map Prod.fst

/-- The response is built, and however the stream that starts with it is cut, the call reads from
it what it should; an error that goes on to the Master is one of the query. -/
def Carries (queryId : UInt32) (call : StorageCall) (response : StorageResponse)
    (expected : Option StorageAnswer → Prop) : Prop :=
  ∃ package, response.package = some package ∧
    ∀ (fragmentation : Fragmentation) (rest : List UInt8) (calls : Nat), ∃ received later,
      Connection.packageReceive fragmentation ⟨package.send ++ rest, calls⟩ =
          some (received, ⟨rest, later⟩) ∧
        expected (readAnswer call received) ∧
          ∀ notice, (readAnswer call received).bind StorageAnswer.forwarded = some notice →
            ∃ text, notice = .errorFromStorage queryId text

variable {queryId : UInt32} {call : StorageCall} {response : StorageResponse}
  {expected : Option StorageAnswer → Prop}

theorem carries_of_delivers {answer : StorageAnswer}
    (delivers : Delivers response.package (byOperationCode call.answer) answer)
    (isExpected : expected (some answer))
    (forwards : ∀ notice, answer.forwarded = some notice →
      ∃ text, notice = .errorFromStorage queryId text) :
    Carries queryId call response expected := by
  obtain ⟨package, builds, arrives⟩ := delivers
  refine ⟨package, builds, fun fragmentation rest calls => ?_⟩
  obtain ⟨received, later, after, receives, reads⟩ := arrives fragmentation rest calls
  have answered : readAnswer call received = some answer := by
    rw [readAnswer, reads]
    rfl
  refine ⟨received, later, receives, ?_, ?_⟩
  · rwa [answered]
  · rwa [answered]

theorem carries_error {text : List UInt8} (reads : call.ReadsErrors)
    (transmissible : (Field.string text).Transmissible)
    (isExpected : expected (some (.failed queryId text))) :
    Carries queryId call (.error queryId text) expected := by
  refine carries_of_delivers (call.error_delivers reads transmissible) isExpected ?_
  rintro notice ⟨⟩
  exact ⟨text, rfl⟩

theorem sendRequestAndWaitAckWithErrorHandling_failed {awaited : StorageOpCode}
    {package after : Package} {text : List UInt8}
    (reads : byOperationCode (Formats.sendRequestAndWaitAckWithErrorHandling awaited) package =
      some (.failed queryId text, after)) :
    package.operationCode = StorageOpCode.error.code := by
  unfold byOperationCode Formats.sendRequestAndWaitAckWithErrorHandling at reads
  split at reads
  · cases reads
  · split at reads
    · assumption
    · cases reads

theorem carries_delete_error {file tag text : List UInt8}
    (transmissible : (Field.string text).Transmissible) (isExpected : expected none) :
    Carries queryId (.deleteFileInStorage file tag queryId) (.error queryId text) expected := by
  have delivers : Delivers (StorageResponse.error queryId text).package
      (byOperationCode (Formats.sendRequestAndWaitAckWithErrorHandling .tagDeleteRes))
      (.failed queryId text) := Formats.error_delivers rfl transmissible
  obtain ⟨package, builds, arrives⟩ := delivers
  refine ⟨package, builds, fun fragmentation rest calls => ?_⟩
  obtain ⟨received, later, after, receives, reads⟩ := arrives fragmentation rest calls
  have rejected : readAnswer (.deleteFileInStorage file tag queryId) received = none := by
    rw [readAnswer, StorageCall.delete_rejects_error
      (sendRequestAndWaitAckWithErrorHandling_failed reads)]
    rfl
  refine ⟨received, later, receives, ?_, ?_⟩
  · rwa [rejected]
  · rw [rejected]
    rintro notice ⟨⟩

/-- The response to an operation that is not a read tells the Worker whether its result is
zero. -/
theorem carries_status {responseCode : StorageOpCode} {operation : String}
    (responds : call.request.responseCode = some responseCode)
    (plain : 0 ∉ literal operation ∧ (literal operation).length ≤ 100) (operationResult : Int)
    (queried : call.ReadsErrors ∨ ∃ file tag, call = .deleteFileInStorage file tag queryId) :
    Carries queryId call
      (Storage.statusResponse responseCode operation queryId operationResult)
      fun answer => StorageRequest.accepted answer = decide (operationResult = 0) := by
  have transmissible := Storage.errorText_transmissible plain operationResult
  unfold Storage.statusResponse
  split
  · rename_i failed
    have refused : false = decide (operationResult = 0) := (decide_eq_false failed).symm
    rcases queried with reads | ⟨file, tag, rfl⟩
    · exact carries_error reads transmissible refused
    · exact carries_delete_error transmissible refused
  · rename_i succeeded
    refine carries_of_delivers (StorageCall.status_delivers responds _) ?_ ?_
    · exact (decide_eq_true (not_not.mp succeeded)).symm
    · rintro notice ⟨⟩

end Responses

section Exchanges

variable {site : Site} {worker : Nat} {Hash : Type} [DecidableEq Hash]
  {md5 : Storage.Block site.storage.blockSize → Hash} {disk : Storage.Disk site.storage Hash}
  {request : StorageRequest (site.config worker)} {queryId : UInt32} {call : StorageCall}

/-- A block is not too large for one field. -/
theorem block_transmissible (block : Storage.Block site.storage.blockSize) :
    (Field.data block.toList).Transmissible := by
  have positive := site.storage.blockSize_pos
  have small := site.blockSize_lt
  refine ⟨?_, ?_⟩
  · rw [Vector.length_toList]
    exact positive
  · rw [Vector.length_toList, maxDataSize]
    omega

theorem pageOf_toList (block : Page (site.config worker).pageSize) :
    StorageRequest.pageOf (site.config worker) block.toList = block := by
  ext position inside
  simp [StorageRequest.pageOf]

/-- The size of a TRUNCATE comes back from the four bytes that it is cut down to. -/
theorem toInt32_sizeOfInt (size : Int32) :
    (UInt64.ofNat (sizeOfInt size)).toUInt32.toInt32 = size := by
  have bytes : (UInt64.ofNat (sizeOfInt size)).toUInt32 = UInt32.ofNat (sizeOfInt size) := by
    simp
  have lower := size.le_toInt
  have upper := size.toInt_lt
  have value : ((sizeOfInt size % 2 ^ 32 : Nat) : Int) = size.toInt % 2 ^ 32 := by
    rw [sizeOfInt]
    omega
  rw [bytes, ← Int32.toInt_inj, UInt32.toInt32, Int32.toInt, Int32.toBitVec,
    BitVec.toInt_eq_toNat_bmod]
  change ((sizeOfInt size % 2 ^ 32 : Nat) : Int).bmod (2 ^ 32) = size.toInt
  rw [value, Int.bmod]
  omega

theorem StorageRequest.call_transmissible (isCall : request.call queryId = some call)
    (sendable : ∀ fileTag ∈ request.fileTags, StorageRequest.Sendable fileTag) :
    call.message.Transmissible := by
  cases request with
  | readBlock fileTag number =>
      obtain ⟨_, name, tag⟩ := sendable fileTag (List.mem_singleton_self _)
      obtain ⟨_, same⟩ := Option.ite_none_right_eq_some.mp isCall
      obtain rfl := Option.some.inj same
      simpa [Message.Transmissible, StorageCall.message, Field.Transmissible] using ⟨name, tag⟩
  | writeBlock fileTag number bytes =>
      obtain ⟨_, name, tag⟩ := sendable fileTag (List.mem_singleton_self _)
      obtain ⟨_, same⟩ := Option.ite_none_right_eq_some.mp isCall
      obtain rfl := Option.some.inj same
      have data : (Field.data bytes.toList).Transmissible := block_transmissible bytes
      intro field member
      simp only [StorageCall.message, List.mem_cons, List.not_mem_nil, or_false] at member
      rcases member with rfl | rfl | rfl | rfl | rfl
      · trivial
      · exact name
      · exact tag
      · trivial
      · exact data
  | createFile fileTag =>
      obtain ⟨_, name, tag⟩ := sendable fileTag (List.mem_singleton_self _)
      obtain rfl := Option.some.inj isCall
      simpa [Message.Transmissible, StorageCall.message, Field.Transmissible] using ⟨name, tag⟩
  | truncateFile fileTag size =>
      obtain ⟨_, name, tag⟩ := sendable fileTag (List.mem_singleton_self _)
      obtain rfl := Option.some.inj isCall
      simpa [Message.Transmissible, StorageCall.message, Field.Transmissible] using ⟨name, tag⟩
  | forkFile source target =>
      obtain ⟨_, sourceName, sourceTag⟩ := sendable source (by simp [fileTags])
      obtain ⟨_, targetName, targetTag⟩ := sendable target (by simp [fileTags])
      obtain rfl := Option.some.inj isCall
      simpa [Message.Transmissible, StorageCall.message, Field.Transmissible] using
        ⟨sourceName, sourceTag, targetName, targetTag⟩
  | commitFile fileTag =>
      obtain ⟨_, name, tag⟩ := sendable fileTag (List.mem_singleton_self _)
      obtain rfl := Option.some.inj isCall
      simpa [Message.Transmissible, StorageCall.message, Field.Transmissible] using ⟨name, tag⟩
  | deleteFile fileTag =>
      obtain ⟨_, name, tag⟩ := sendable fileTag (List.mem_singleton_self _)
      obtain rfl := Option.some.inj isCall
      simpa [Message.Transmissible, StorageCall.message, Field.Transmissible] using ⟨name, tag⟩

theorem operation_of_no_call (noCall : request.call queryId = none) : request.operation = none := by
  have large : ∀ {number : Nat} {made : StorageCall},
      (if number < 2 ^ 32 then some made else none) = none → ¬ number < 2 ^ 32 := by
    intro number made noCall small
    rw [if_pos small] at noCall
    cases noCall
  cases request with
  | readBlock fileTag number =>
      simp only [StorageRequest.operation, if_neg (large noCall), Option.bind_fun_none]
  | writeBlock fileTag number bytes =>
      simp only [StorageRequest.operation, if_neg (large noCall), Option.bind_fun_none]
  | _ => cases noCall

theorem respond_of_no_call (noCall : request.call queryId = none) :
    respond md5 disk request = (request.taken none, disk) := by
  have unbehind := operation_of_no_call noCall
  cases request with
  | readBlock fileTag number =>
      have unread : readBlock disk fileTag number = none := by
        cases isName : fileTag.onDisk with
        | none => rw [readBlock, isName, Option.bind_none]
        | some name =>
            rw [StorageRequest.operation, isName, Option.bind_some] at unbehind
            rw [readBlock, isName, Option.bind_some]
            split at unbehind
            · cases unbehind
            · rename_i large
              exact if_neg large
      exact congrArg (Prod.mk · disk) unread
  | writeBlock fileTag number bytes => exact congrArg (carryOut md5 disk) unbehind
  | _ => cases noCall

/-- Storage answers the package of a call as it answers the request. -/
def Exchanged (md5 : Storage.Block site.storage.blockSize → Hash)
    (disk : Storage.Disk site.storage Hash) (request : StorageRequest (site.config worker))
    (queryId : UInt32) (call : StorageCall) : Prop :=
  ∃ response, Storage.handleRequest md5 disk call.request =
      some (response, (respond md5 disk request).2) ∧
    Carries queryId call response fun answer =>
      request.taken answer = (respond md5 disk request).1

section Cases

variable {fileTag : FileTag} {name : Storage.FileTag}

theorem fileTagOf_of_onDisk (isName : fileTag.onDisk = some name) :
    Storage.fileTagOf (literal fileTag.file) (literal fileTag.tag) = some name :=
  (Storage.fileTagOf_literal fileTag).trans isName

theorem exchanged_readBlock {number : Nat}
    (isCall : @StorageRequest.call (site.config worker) queryId (.readBlock fileTag number) =
      some call)
    (isName : fileTag.onDisk = some name) :
    @Exchanged site worker Hash _ md5 disk (.readBlock fileTag number) queryId call := by
  obtain ⟨small, same⟩ := Option.ite_none_right_eq_some.mp isCall
  obtain rfl := Option.some.inj same
  have answers : @respond site worker Hash _ md5 disk (.readBlock fileTag number) =
      ((disk.executeBlockRead Storage.reliable name (UInt32.ofNat number)).toOption, disk) := by
    rw [respond, readBlock, isName, Option.bind_some, if_pos small]
  rw [Exchanged, answers]
  simp only [Storage.handleRequest, StorageCall.request, fileTagOf_of_onDisk isName,
    Option.map_some]
  cases read : disk.executeBlockRead Storage.reliable name (UInt32.ofNat number) with
  | ok block =>
      refine ⟨.blockRead block.toList, rfl, ?_⟩
      refine carries_of_delivers (Formats.blockRead_delivers (block_transmissible block)) ?_ ?_
      · exact congrArg some (pageOf_toList block)
      · rintro notice ⟨⟩
  | error code =>
      refine ⟨.error queryId (Storage.errorText "READ_BLOCK" code), rfl, ?_⟩
      exact carries_error trivial (Storage.errorText_transmissible (by decide +kernel) code) rfl

theorem exchanged_writeBlock {number : Nat} {bytes : Page (site.config worker).pageSize}
    (isCall : @StorageRequest.call (site.config worker) queryId (.writeBlock fileTag number bytes) =
      some call)
    (isName : fileTag.onDisk = some name) :
    @Exchanged site worker Hash _ md5 disk (.writeBlock fileTag number bytes) queryId call := by
  obtain ⟨small, same⟩ := Option.ite_none_right_eq_some.mp isCall
  obtain rfl := Option.some.inj same
  have behind : @StorageRequest.operation site worker (.writeBlock fileTag number bytes) =
      some (.executeBlockWrite name (UInt32.ofNat number) bytes.toList) := by
    rw [StorageRequest.operation, isName, Option.bind_some, if_pos small]
  have answers : @respond site worker Hash _ md5 disk (.writeBlock fileTag number bytes) =
      carryOut md5 disk (some (.executeBlockWrite name (UInt32.ofNat number) bytes.toList)) :=
    congrArg (carryOut md5 disk) behind
  rw [Exchanged, answers]
  simp only [Storage.handleRequest, StorageCall.request, fileTagOf_of_onDisk isName,
    Option.map_some]
  exact ⟨_, rfl, carries_status rfl (by decide +kernel) _ (Or.inl trivial)⟩

theorem exchanged_createFile
    (isCall : @StorageRequest.call (site.config worker) queryId (.createFile fileTag) = some call)
    (isName : fileTag.onDisk = some name) :
    @Exchanged site worker Hash _ md5 disk (.createFile fileTag) queryId call := by
  obtain rfl := Option.some.inj isCall
  have answers : @respond site worker Hash _ md5 disk (.createFile fileTag) =
      carryOut md5 disk (some (.createFile name)) :=
    congrArg (carryOut md5 disk) (congrArg (Option.map Storage.Request.createFile) isName)
  rw [Exchanged, answers]
  simp only [Storage.handleRequest, StorageCall.request, fileTagOf_of_onDisk isName,
    Option.map_some]
  exact ⟨_, rfl, carries_status rfl (by decide +kernel) _ (Or.inl trivial)⟩

theorem exchanged_truncateFile {size : Int32}
    (isCall : @StorageRequest.call (site.config worker) queryId (.truncateFile fileTag size) =
      some call)
    (isName : fileTag.onDisk = some name) :
    @Exchanged site worker Hash _ md5 disk (.truncateFile fileTag size) queryId call := by
  obtain rfl := Option.some.inj isCall
  have answers : @respond site worker Hash _ md5 disk (.truncateFile fileTag size) =
      carryOut md5 disk (some (.truncateFile name size)) :=
    congrArg (carryOut md5 disk)
      (congrArg (Option.map fun name => Storage.Request.truncateFile name size) isName)
  rw [Exchanged, answers]
  simp only [Storage.handleRequest, StorageCall.request, fileTagOf_of_onDisk isName,
    Option.map_some, toInt32_sizeOfInt]
  exact ⟨_, rfl, carries_status rfl (by decide +kernel) _ (Or.inl trivial)⟩

theorem exchanged_forkFile {target : FileTag} {targetName : Storage.FileTag}
    (isCall : @StorageRequest.call (site.config worker) queryId (.forkFile fileTag target) =
      some call)
    (isName : fileTag.onDisk = some name) (isTarget : target.onDisk = some targetName) :
    @Exchanged site worker Hash _ md5 disk (.forkFile fileTag target) queryId call := by
  obtain rfl := Option.some.inj isCall
  have behind : @StorageRequest.operation site worker (.forkFile fileTag target) =
      some (.createTag name targetName) := by
    rw [StorageRequest.operation, isName, isTarget]
    rfl
  have answers : @respond site worker Hash _ md5 disk (.forkFile fileTag target) =
      carryOut md5 disk (some (.createTag name targetName)) :=
    congrArg (carryOut md5 disk) behind
  rw [Exchanged, answers]
  simp only [Storage.handleRequest, StorageCall.request, fileTagOf_of_onDisk isName,
    fileTagOf_of_onDisk isTarget, Option.map_some, Option.bind_some]
  exact ⟨_, rfl, carries_status rfl (by decide +kernel) _ (Or.inl trivial)⟩

theorem exchanged_commitFile
    (isCall : @StorageRequest.call (site.config worker) queryId (.commitFile fileTag) = some call)
    (isName : fileTag.onDisk = some name) :
    @Exchanged site worker Hash _ md5 disk (.commitFile fileTag) queryId call := by
  obtain rfl := Option.some.inj isCall
  have answers : @respond site worker Hash _ md5 disk (.commitFile fileTag) =
      carryOut md5 disk (some (.executeTagCommit name)) :=
    congrArg (carryOut md5 disk)
      (congrArg (Option.map Storage.Request.executeTagCommit) isName)
  rw [Exchanged, answers]
  simp only [Storage.handleRequest, StorageCall.request, fileTagOf_of_onDisk isName,
    Option.map_some]
  exact ⟨_, rfl, carries_status rfl (by decide +kernel) _ (Or.inl trivial)⟩

theorem exchanged_deleteFile
    (isCall : @StorageRequest.call (site.config worker) queryId (.deleteFile fileTag) = some call)
    (isName : fileTag.onDisk = some name) :
    @Exchanged site worker Hash _ md5 disk (.deleteFile fileTag) queryId call := by
  obtain rfl := Option.some.inj isCall
  have answers : @respond site worker Hash _ md5 disk (.deleteFile fileTag) =
      carryOut md5 disk (some (.deleteTag name)) :=
    congrArg (carryOut md5 disk) (congrArg (Option.map Storage.Request.deleteTag) isName)
  rw [Exchanged, answers]
  simp only [Storage.handleRequest, StorageCall.request, fileTagOf_of_onDisk isName,
    Option.map_some]
  exact ⟨_, rfl, carries_status rfl (by decide +kernel) _ (Or.inr ⟨_, _, rfl⟩)⟩

end Cases

theorem exchange (isCall : request.call queryId = some call)
    (sendable : ∀ fileTag ∈ request.fileTags, StorageRequest.Sendable fileTag) :
    Exchanged md5 disk request queryId call := by
  have named : ∀ fileTag ∈ request.fileTags, ∃ name, fileTag.onDisk = some name :=
    fun fileTag member => Option.isSome_iff_exists.mp (sendable fileTag member).1
  cases request with
  | forkFile source target =>
      obtain ⟨sourceName, isSource⟩ := named source (by simp [StorageRequest.fileTags])
      obtain ⟨targetName, isTarget⟩ := named target (by simp [StorageRequest.fileTags])
      exact exchanged_forkFile isCall isSource isTarget
  | readBlock fileTag number =>
      obtain ⟨name, isName⟩ := named fileTag (List.mem_singleton_self _)
      exact exchanged_readBlock isCall isName
  | writeBlock fileTag number bytes =>
      obtain ⟨name, isName⟩ := named fileTag (List.mem_singleton_self _)
      exact exchanged_writeBlock isCall isName
  | createFile fileTag =>
      obtain ⟨name, isName⟩ := named fileTag (List.mem_singleton_self _)
      exact exchanged_createFile isCall isName
  | truncateFile fileTag size =>
      obtain ⟨name, isName⟩ := named fileTag (List.mem_singleton_self _)
      exact exchanged_truncateFile isCall isName
  | commitFile fileTag =>
      obtain ⟨name, isName⟩ := named fileTag (List.mem_singleton_self _)
      exact exchanged_commitFile isCall isName
  | deleteFile fileTag =>
      obtain ⟨name, isName⟩ := named fileTag (List.mem_singleton_self _)
      exact exchanged_deleteFile isCall isName

end Exchanges

end Worker

end MasterOfFiles
