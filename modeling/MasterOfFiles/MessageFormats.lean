import MasterOfFiles.PackageReading

/-!
# The messages between the modules

For every connection between two modules, the packages that one side builds and the calls with
which the other side reads them.  The values that a sender is given and the variables that a
receiver fills have types of their own; nothing is shared but the operation codes.  An `int`
that is sent as a `uint32_t` is a `UInt32` on both sides.
-/

namespace MasterOfFiles

namespace Formats

open Serialization

/-- `t_master_op_code`. -/
inductive MasterOpCode
  | workerHandshakeReq
  | workerHandshakeRes
  | queryHandshake
  | queryFilePath
  | readData
  | masterFinDesconexion
  | masterFinPrioridad
  | masterConnectionOk
  | workerAck
  | workerStartQuery
  | workerReadMessageReq
  | workerEndQuery
  | workerPreemptReq
  | workerEvictReq
  | workerEvictRes
  | queryControlDisconnection
  | workerDisconnection
  | assignQuery
  | ejectQuery
  | endQuery
  | masterQueryError
deriving DecidableEq

namespace MasterOpCode

/-- The operation codes in the order of the enumeration. -/
def all : List MasterOpCode :=
  [workerHandshakeReq, workerHandshakeRes, queryHandshake, queryFilePath, readData,
    masterFinDesconexion, masterFinPrioridad, masterConnectionOk, workerAck, workerStartQuery,
    workerReadMessageReq, workerEndQuery, workerPreemptReq, workerEvictReq, workerEvictRes,
    queryControlDisconnection, workerDisconnection, assignQuery, ejectQuery, endQuery,
    masterQueryError]

def code (operation : MasterOpCode) : UInt8 :=
  UInt8.ofNat (all.idxOf operation)

def ofCode (code : UInt8) : Option MasterOpCode :=
  all[code.toNat]?

end MasterOpCode

/-- `t_storage_op_code`. -/
inductive StorageOpCode
  | blockReadReq
  | blockReadRes
  | blockWriteReq
  | blockWriteRes
  | fileCreateReq
  | fileCreateRes
  | fileTruncateReq
  | fileTruncateRes
  | tagCommitReq
  | tagCommitRes
  | tagCreateReq
  | tagCreateRes
  | tagDeleteReq
  | tagDeleteRes
  | workerGetBlockSizeReq
  | workerGetBlockSizeRes
  | workerSendIdReq
  | workerSendIdRes
  | ack
  | error
deriving DecidableEq

namespace StorageOpCode

/-- The operation codes in the order of the enumeration. -/
def all : List StorageOpCode :=
  [blockReadReq, blockReadRes, blockWriteReq, blockWriteRes, fileCreateReq, fileCreateRes,
    fileTruncateReq, fileTruncateRes, tagCommitReq, tagCommitRes, tagCreateReq, tagCreateRes,
    tagDeleteReq, tagDeleteRes, workerGetBlockSizeReq, workerGetBlockSizeRes, workerSendIdReq,
    workerSendIdRes, ack, error]

def code (operation : StorageOpCode) : UInt8 :=
  UInt8.ofNat (all.idxOf operation)

def ofCode (code : UInt8) : Option StorageOpCode :=
  all[code.toNat]?

end StorageOpCode

section WorkerToStorage

/-- The calls of the functions of the Worker that ask Storage for an operation.  The callers
give the query id for each `worker_id`. -/
inductive StorageCall
  | readBlockFromStorage (file tag : List UInt8) (blockNumber queryId : UInt32)
  | createFileInStorage (workerId : UInt32) (file tag : List UInt8)
  | truncateFileInStorage (file tag : List UInt8) (size : UInt64) (queryId : UInt32)
  | forkFileInStorage (fileSrc tagSrc fileDst tagDst : List UInt8) (queryId : UInt32)
  | commitFileInStorage (file tag : List UInt8) (workerId : UInt32)
  | writeBlockToStorage (file tag : List UInt8) (blockNumber : UInt32) (data : List UInt8)
      (workerId : UInt32)
  | deleteFileInStorage (file tag : List UInt8) (workerId : UInt32)

/-- The request that a call puts together; the size of a truncation is cut to 32 bits. -/
def StorageCall.message : StorageCall → Message
  | .readBlockFromStorage file tag blockNumber queryId =>
    ⟨StorageOpCode.blockReadReq.code,
      [.uint32 queryId, .string file, .string tag, .uint32 blockNumber]⟩
  | .createFileInStorage workerId file tag =>
    ⟨StorageOpCode.fileCreateReq.code, [.uint32 workerId, .string file, .string tag]⟩
  | .truncateFileInStorage file tag size queryId =>
    ⟨StorageOpCode.fileTruncateReq.code,
      [.uint32 queryId, .string file, .string tag, .uint32 size.toUInt32]⟩
  | .forkFileInStorage fileSrc tagSrc fileDst tagDst queryId =>
    ⟨StorageOpCode.tagCreateReq.code,
      [.uint32 queryId, .string fileSrc, .string tagSrc, .string fileDst, .string tagDst]⟩
  | .commitFileInStorage file tag workerId =>
    ⟨StorageOpCode.tagCommitReq.code, [.uint32 workerId, .string file, .string tag]⟩
  | .writeBlockToStorage file tag blockNumber data workerId =>
    ⟨StorageOpCode.blockWriteReq.code,
      [.uint32 workerId, .string file, .string tag, .uint32 blockNumber, .data data]⟩
  | .deleteFileInStorage file tag workerId =>
    ⟨StorageOpCode.tagDeleteReq.code, [.uint32 workerId, .string file, .string tag]⟩

/-- The variables with which Storage starts an operation. -/
inductive StorageRequest
  | handleHandshake (workerId : UInt32)
  | sendBlockSize
  | createFile (queryId : UInt32) (name tag : List UInt8)
  | truncateFile (queryId : UInt32) (name tag : List UInt8) (newSizeBytes : UInt32)
  | createTag (queryId : UInt32) (fileSrc tagSrc fileDst tagDst : List UInt8)
  | executeTagCommit (queryId : UInt32) (name tag : List UInt8)
  | executeBlockWrite (queryId : UInt32) (name tag : List UInt8) (blockNumber : UInt32)
      (blockData : List UInt8)
  | executeBlockRead (queryId : UInt32) (name tag : List UInt8) (blockNumber : UInt32)
  | deleteTag (queryId : UInt32) (name tag : List UInt8)

def handleHandshake : PackageReader StorageRequest := do
  let workerId ← packageReadUint32
  return .handleHandshake workerId

def createFile : PackageReader StorageRequest := do
  let queryId ← packageReadUint32
  let name ← packageReadString
  let tag ← packageReadString
  return .createFile queryId name tag

def handleTruncateFileOpPackage : PackageReader StorageRequest := do
  let queryId ← packageReadUint32
  let name ← packageReadString
  let tag ← packageReadString
  let newSizeBytes ← packageReadUint32
  return .truncateFile queryId name tag newSizeBytes

def handleCreateTagOpPackage : PackageReader StorageRequest := do
  let queryId ← packageReadUint32
  let fileSrc ← packageReadString
  let tagSrc ← packageReadString
  let fileDst ← packageReadString
  let tagDst ← packageReadString
  return .createTag queryId fileSrc tagSrc fileDst tagDst

def deserializeTagCommitRequest : PackageReader StorageRequest := do
  let queryId ← packageReadUint32
  let name ← packageReadString
  let tag ← packageReadString
  return .executeTagCommit queryId name tag

def deserializeBlockWriteRequest : PackageReader StorageRequest := do
  let queryId ← packageReadUint32
  let name ← packageReadString
  let tag ← packageReadString
  let blockNumber ← packageReadUint32
  let blockData ← packageReadData
  return .executeBlockWrite queryId name tag blockNumber blockData

def deserializeBlockReadRequest : PackageReader StorageRequest := do
  let queryId ← packageReadUint32
  let name ← packageReadString
  let tag ← packageReadString
  let blockNumber ← packageReadUint32
  return .executeBlockRead queryId name tag blockNumber

def handleDeleteTagOpPackage : PackageReader StorageRequest := do
  let queryId ← packageReadUint32
  let name ← packageReadString
  let tag ← packageReadString
  return .deleteTag queryId name tag

/-- The `switch` of Storage's `handle_client`. -/
def storageHandleClient (code : UInt8) : PackageReader StorageRequest :=
  match StorageOpCode.ofCode code with
  | some .workerSendIdReq => handleHandshake
  | some .workerGetBlockSizeReq => pure .sendBlockSize
  | some .fileCreateReq => createFile
  | some .fileTruncateReq => handleTruncateFileOpPackage
  | some .tagCreateReq => handleCreateTagOpPackage
  | some .tagCommitReq => deserializeTagCommitRequest
  | some .blockWriteReq => deserializeBlockWriteRequest
  | some .blockReadReq => deserializeBlockReadRequest
  | some .tagDeleteReq => handleDeleteTagOpPackage
  | _ => failure

def StorageCall.request : StorageCall → StorageRequest
  | .readBlockFromStorage file tag blockNumber queryId =>
    .executeBlockRead queryId file tag blockNumber
  | .createFileInStorage workerId file tag => .createFile workerId file tag
  | .truncateFileInStorage file tag size queryId =>
    .truncateFile queryId file tag size.toUInt32
  | .forkFileInStorage fileSrc tagSrc fileDst tagDst queryId =>
    .createTag queryId fileSrc tagSrc fileDst tagDst
  | .commitFileInStorage file tag workerId => .executeTagCommit workerId file tag
  | .writeBlockToStorage file tag blockNumber data workerId =>
    .executeBlockWrite workerId file tag blockNumber data
  | .deleteFileInStorage file tag workerId => .deleteTag workerId file tag

end WorkerToStorage

section StorageToWorker

/-- What Storage answers: the status of an operation that is not a read, the buffer into which a
block was read, or an error. -/
inductive StorageResponse
  | status (responseCode : StorageOpCode) (operationResult : Int8)
  | blockRead (readBuffer : List UInt8)
  | error (queryId : UInt32) (errorMessage : List UInt8)

/-- The package of a response.  A buffer of a block size of 0 is not added; the fields of an
error are added unchecked. -/
def StorageResponse.package : StorageResponse → Option Package
  | .status responseCode operationResult =>
    Message.build ⟨responseCode.code, [.int8 operationResult]⟩
  | .blockRead readBuffer =>
    let dataSizeToSend := UInt32.ofNat readBuffer.length
    Message.build ⟨StorageOpCode.blockReadRes.code,
      .uint32 dataSizeToSend ::
        if 0 < dataSizeToSend then [.data (readBuffer.take dataSizeToSend.toNat)] else []⟩
  | .error queryId errorMessage =>
    some (Message.buildUnchecked
      ⟨StorageOpCode.error.code, [.uint32 queryId, .string errorMessage]⟩)

/-- What the Worker makes of a response.  An error goes on to the Master. -/
inductive StorageAnswer
  | acknowledged
  | block (data : List UInt8) (size : UInt32)
  | failed (queryId : UInt32) (errorMessage : List UInt8)

def handlerErrorFromStorage : PackageReader StorageAnswer := fromStart do
  let qidFromPackage ← packageReadUint32
  let errorMessage ← packageReadString
  return .failed qidFromPackage errorMessage

def sendRequestAndWaitAckWithErrorHandling (expected : StorageOpCode) (code : UInt8) :
    PackageReader StorageAnswer :=
  if code = expected.code then pure .acknowledged
  else if code = StorageOpCode.error.code then handlerErrorFromStorage
  else failure

/-- The response in `send_request_and_wait_ack`, which reads no error. -/
def sendRequestAndWaitAck (expected : StorageOpCode) (code : UInt8) :
    PackageReader StorageAnswer :=
  if code ≠ expected.code then failure else pure .acknowledged

/-- The reads of `read_block_from_storage`; both sizes have to be the same. -/
def blockFromResponse : PackageReader StorageAnswer := do
  let dataSize ← packageReadUint32
  let receivedData ← packageReadData
  if receivedData.length ≠ dataSize.toNat then failure
  else return .block (receivedData.take dataSize.toNat) dataSize

def readBlockFromStorage (code : UInt8) : PackageReader StorageAnswer :=
  if code = StorageOpCode.blockReadRes.code then blockFromResponse
  else if code = StorageOpCode.error.code then handlerErrorFromStorage
  else failure

def writeBlockToStorage (code : UInt8) : PackageReader StorageAnswer :=
  if code = StorageOpCode.error.code then handlerErrorFromStorage
  else if code ≠ StorageOpCode.blockWriteRes.code then failure
  else pure .acknowledged

def StorageCall.answer : StorageCall → UInt8 → PackageReader StorageAnswer
  | .readBlockFromStorage .. => Formats.readBlockFromStorage
  | .createFileInStorage .. => sendRequestAndWaitAckWithErrorHandling .fileCreateRes
  | .truncateFileInStorage .. => sendRequestAndWaitAckWithErrorHandling .fileTruncateRes
  | .forkFileInStorage .. => sendRequestAndWaitAckWithErrorHandling .tagCreateRes
  | .commitFileInStorage .. => sendRequestAndWaitAckWithErrorHandling .tagCommitRes
  | .writeBlockToStorage .. => Formats.writeBlockToStorage
  | .deleteFileInStorage .. => sendRequestAndWaitAck .tagDeleteRes

def StorageRequest.responseCode : StorageRequest → Option StorageOpCode
  | .createFile .. => some .fileCreateRes
  | .truncateFile .. => some .fileTruncateRes
  | .createTag .. => some .tagCreateRes
  | .executeTagCommit .. => some .tagCommitRes
  | .executeBlockWrite .. => some .blockWriteRes
  | .deleteTag .. => some .tagDeleteRes
  | _ => none

/-- The calls that read the error of a response; a delete gives up at its operation code. -/
def StorageCall.ReadsErrors : StorageCall → Prop
  | .deleteFileInStorage .. => False
  | _ => True

end StorageToWorker

section WorkerToMaster

/-- What a Worker tells the Master, with the values that its functions are given. -/
inductive WorkerNotice
  | sendReadContentToMaster (queryId : UInt32) (data file tag : List UInt8) (workerId : UInt32)
  | endQueryInMaster (workerId queryId : UInt32)
  | notifyMasterQueryError (workerId queryId : UInt32)
  | evicted (queryId programCounter : UInt32)
  | errorFromStorage (queryId : UInt32) (errorMessage : List UInt8)

def WorkerNotice.message : WorkerNotice → Message
  | .sendReadContentToMaster queryId data file tag workerId =>
    ⟨MasterOpCode.workerReadMessageReq.code,
      [.uint32 workerId, .uint32 queryId, .data data, .string file, .string tag]⟩
  | .endQueryInMaster workerId queryId =>
    ⟨MasterOpCode.workerEndQuery.code, [.uint32 workerId, .uint32 queryId]⟩
  | .notifyMasterQueryError workerId queryId =>
    ⟨MasterOpCode.workerEndQuery.code, [.uint32 workerId, .uint32 queryId]⟩
  | .evicted queryId programCounter =>
    ⟨MasterOpCode.workerEvictRes.code, [.uint32 queryId, .uint32 programCounter]⟩
  | .errorFromStorage queryId errorMessage =>
    ⟨StorageOpCode.error.code, [.uint32 queryId, .string errorMessage]⟩

/-- What the Worker tells the Master about a response: only an error. -/
def StorageAnswer.forwarded : StorageAnswer → Option WorkerNotice
  | .failed queryId errorMessage => some (.errorFromStorage queryId errorMessage)
  | _ => none

/-- The package of a notice; two of them are filled unchecked. -/
def WorkerNotice.package (notice : WorkerNotice) : Option Package :=
  match notice with
  | .notifyMasterQueryError .. => some notice.message.buildUnchecked
  | .evicted .. => some notice.message.buildUnchecked
  | _ => notice.message.build

inductive MasterRequest
  | manageQueryHandshake
  | manageQueryFilePath (queryPath : List UInt8) (queryPriority : UInt8)
  | handleQueryControlDisconnection
  | manageWorkerHandshake (workerId : UInt32)
  | manageReadMessageFromWorker (workerId queryId : UInt32) (data file tag : List UInt8)
  | manageWorkerEndQuery (workerId queryId : UInt32)
  | manageWorkerEvictResponse (queryId programCounter : UInt32)
  | handleWorkerDisconnection
  | handleErrorFromStorage (firstVal : UInt32) (errorMsg : List UInt8)

def manageQueryFilePath : PackageReader MasterRequest := do
  let queryPath ← packageReadString
  let queryPriority ← packageReadUint8
  return .manageQueryFilePath queryPath queryPriority

def manageWorkerHandshake : PackageReader MasterRequest := do
  let workerId ← packageReadUint32
  return .manageWorkerHandshake workerId

/-- The reads of `manage_read_message_from_worker`, which does not notice one that fails. -/
def manageReadMessageFromWorker : PackageReader MasterRequest := fromStart do
  let workerId ← packageReadUint32
  let queryId ← packageReadUint32
  let data ← packageReadData
  let file ← packageReadString
  let tag ← packageReadString
  return .manageReadMessageFromWorker workerId queryId data file tag

/-- The reads of `manage_worker_end_query`, which does not notice one that fails. -/
def manageWorkerEndQuery : PackageReader MasterRequest := fromStart do
  let workerId ← packageReadUint32
  let queryId ← packageReadUint32
  return .manageWorkerEndQuery workerId queryId

def manageWorkerEvictResponse : PackageReader MasterRequest := do
  let queryId ← packageReadUint32
  let programCounter ← packageReadUint32
  return .manageWorkerEvictResponse queryId programCounter

/-- The reads of `handle_error_from_storage`, which does not notice one that fails. -/
def handleErrorFromStorage : PackageReader MasterRequest := fromStart do
  let firstVal ← packageReadUint32
  let errorMsg ← packageReadString
  return .handleErrorFromStorage firstVal errorMsg

/-- The `switch` of the Master's `handle_client`.  The code of `STORAGE_OP_ERROR` comes from the
other enumeration. -/
def masterHandleClient (code : UInt8) : PackageReader MasterRequest :=
  match MasterOpCode.ofCode code with
  | some .queryHandshake => pure .manageQueryHandshake
  | some .queryFilePath => manageQueryFilePath
  | some .queryControlDisconnection => pure .handleQueryControlDisconnection
  | some .workerHandshakeReq => manageWorkerHandshake
  | some .workerReadMessageReq => manageReadMessageFromWorker
  | some .workerEndQuery => manageWorkerEndQuery
  | some .workerEvictRes => manageWorkerEvictResponse
  | some .workerDisconnection => pure .handleWorkerDisconnection
  | _ => if code = StorageOpCode.error.code then handleErrorFromStorage else failure

def WorkerNotice.request : WorkerNotice → MasterRequest
  | .sendReadContentToMaster queryId data file tag workerId =>
    .manageReadMessageFromWorker workerId queryId data file tag
  | .endQueryInMaster workerId queryId => .manageWorkerEndQuery workerId queryId
  | .notifyMasterQueryError workerId queryId => .manageWorkerEndQuery workerId queryId
  | .evicted queryId programCounter => .manageWorkerEvictResponse queryId programCounter
  | .errorFromStorage queryId errorMessage => .handleErrorFromStorage queryId errorMessage

end WorkerToMaster

def literal (text : String) : List UInt8 :=
  text.toUTF8.toList

section QueryControlToMaster

inductive QueryControlCall
  | handshake
  | sendQuery (queryFilepath : List UInt8) (priority : UInt8)

def QueryControlCall.message : QueryControlCall → Message
  | .handshake =>
    ⟨MasterOpCode.queryHandshake.code, [.string (literal "QUERY_CONTROL_HANDSHAKE")]⟩
  | .sendQuery queryFilepath priority =>
    ⟨MasterOpCode.queryFilePath.code, [.string queryFilepath, .uint8 priority]⟩

def QueryControlCall.request : QueryControlCall → MasterRequest
  | .handshake => .manageQueryHandshake
  | .sendQuery queryFilepath priority => .manageQueryFilePath queryFilepath priority

end QueryControlToMaster

section MasterToWorker

inductive WorkerOrder
  | sendQueryToWorker (queryId programCounter : UInt32) (queryFilePath : List UInt8)
  | preemptQueryInExec (queryId : UInt32)

def WorkerOrder.message : WorkerOrder → Message
  | .sendQueryToWorker queryId programCounter queryFilePath =>
    ⟨MasterOpCode.workerStartQuery.code,
      [.uint32 queryId, .uint32 programCounter, .string queryFilePath]⟩
  | .preemptQueryInExec queryId => ⟨MasterOpCode.workerPreemptReq.code, [.uint32 queryId]⟩

/-- The package of an order; a preemption is filled unchecked. -/
def WorkerOrder.package (order : WorkerOrder) : Option Package :=
  match order with
  | .sendQueryToWorker .. => order.message.build
  | .preemptQueryInExec .. => some order.message.buildUnchecked

inductive WorkerRequest
  | assignQuery (queryId programCounter : UInt32) (path : List UInt8)
  | ejectQuery (queryId : UInt32)
  | endQuery

def assignQuery : PackageReader WorkerRequest := do
  let queryId ← packageReadUint32
  let programCounter ← packageReadUint32
  let path ← packageReadString
  return .assignQuery queryId programCounter path

def ejectQuery : PackageReader WorkerRequest := do
  let queryId ← packageReadUint32
  return .ejectQuery queryId

def masterListenerThread (code : UInt8) : PackageReader WorkerRequest :=
  match MasterOpCode.ofCode code with
  | some .workerStartQuery => assignQuery
  | some .workerPreemptReq => ejectQuery
  | some .endQuery => pure .endQuery
  | _ => failure

def WorkerOrder.request : WorkerOrder → WorkerRequest
  | .sendQueryToWorker queryId programCounter queryFilePath =>
    .assignQuery queryId programCounter queryFilePath
  | .preemptQueryInExec queryId => .ejectQuery queryId

end MasterToWorker

section MasterToQueryControl

def fileTag (file tag : List UInt8) : List UInt8 :=
  file ++ 58 :: tag

/-- What the Master tells a Query Control.  A query may be finalized without a reason. -/
inductive QueryNotice
  | manageReadMessageFromWorker (data file tag : List UInt8)
  | finalizeQueryWithError (queryId : UInt32) (errorReason : Option (List UInt8))
  | manageWorkerEndQuery (queryId : UInt32)

def QueryNotice.message : QueryNotice → Message
  | .manageReadMessageFromWorker data file tag =>
    ⟨MasterOpCode.readData.code, [.data data, .string (fileTag file tag)]⟩
  | .finalizeQueryWithError queryId errorReason =>
    ⟨MasterOpCode.masterFinDesconexion.code,
      .uint32 queryId :: (errorReason.map Field.string).toList⟩
  | .manageWorkerEndQuery queryId => ⟨MasterOpCode.endQuery.code, [.uint32 queryId]⟩

/-- The package of a notice; the two that end a query are filled unchecked. -/
def QueryNotice.package (notice : QueryNotice) : Option Package :=
  match notice with
  | .manageReadMessageFromWorker .. => notice.message.build
  | .finalizeQueryWithError .. => some notice.message.buildUnchecked
  | .manageWorkerEndQuery .. => some notice.message.buildUnchecked

/-- What a Query Control reads: the contents of a file, or the end of its query with the id that
came with it and the reason that it logs. -/
inductive QueryEvent
  | readData (fileData fileTag : List UInt8)
  | finished (qid : Option UInt32) (reasonString : List UInt8)

def readData : PackageReader QueryEvent := do
  let fileData ← packageReadData
  let fileTag ← packageReadString
  return .readData fileData fileTag

/-- The reads for `QC_OP_MASTER_FIN_DESCONEXION`, with a text for each read that fails. -/
def finDesconexion : PackageReader QueryEvent := fromStart
  ((do
      let qid ← packageReadUint32
      (do
          let msg ← packageReadString
          return .finished (some qid) msg) <|>
        pure (.finished (some qid) (literal "Error desconocido en Storage (sin mensaje)"))) <|>
    pure (.finished none (literal "Finalización por error en Storage")))

def queryControlLoop (code : UInt8) : PackageReader QueryEvent :=
  match MasterOpCode.ofCode code with
  | some .readData => readData
  | some .masterFinDesconexion => finDesconexion
  | some .endQuery => pure (.finished none (literal "Finalización normal de la Query"))
  | _ => failure

end MasterToQueryControl

end Formats

end MasterOfFiles
