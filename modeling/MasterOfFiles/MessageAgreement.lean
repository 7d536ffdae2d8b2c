import MasterOfFiles.MessageFormats

/-!
# The modules agree on their messages

Each receiver reads the values that the sender was given, in the variables that they are for,
from the package that the sender built.  The proof follows both sides field by field, one case
for each kind of message.
-/

namespace MasterOfFiles

namespace Formats

open Serialization

attribute [local simp] Message.Small Field.kind FieldKind.most maxBufferSize maxStringLength
  maxDataSize

section Small

theorem StorageCall.small (call : StorageCall) : call.message.Small := by
  cases call <;> simp [message]

theorem WorkerNotice.small (notice : WorkerNotice) : notice.message.Small := by
  cases notice <;> simp [message]

theorem QueryControlCall.small (call : QueryControlCall) : call.message.Small := by
  cases call <;> simp [message]

theorem WorkerOrder.small (order : WorkerOrder) : order.message.Small := by
  cases order <;> simp [message]

end Small

theorem StorageCall.delivers (call : StorageCall) (transmissible : call.message.Transmissible) :
    Delivers call.message.build (byOperationCode storageHandleClient) call.request := by
  apply Message.delivers (.inl rfl) _ transmissible call.small
  cases call with
  | readBlockFromStorage file tag blockNumber queryId =>
      exact .uint32 (.string (.string (.uint32 yields_pure)))
  | createFileInStorage workerId file tag =>
      exact .uint32 (.string (.string yields_pure))
  | truncateFileInStorage file tag size queryId =>
      exact .uint32 (.string (.string (.uint32 yields_pure)))
  | forkFileInStorage fileSrc tagSrc fileDst tagDst queryId =>
      exact .uint32 (.string (.string (.string (.string yields_pure))))
  | commitFileInStorage file tag workerId =>
      exact .uint32 (.string (.string yields_pure))
  | writeBlockToStorage file tag blockNumber data workerId =>
      exact .uint32 (.string (.string (.uint32 (.data yields_pure))))
  | deleteFileInStorage file tag workerId =>
      exact .uint32 (.string (.string yields_pure))

section Responses

/-- The block that Storage has read comes with its size twice, and both agree. -/
theorem blockRead_delivers {readBuffer : List UInt8}
    (transmissible : (Field.data readBuffer).Transmissible) :
    Delivers (StorageResponse.blockRead readBuffer).package
      (byOperationCode readBlockFromStorage)
      (.block readBuffer (UInt32.ofNat readBuffer.length)) := by
  have size : (UInt32.ofNat readBuffer.length).toNat = readBuffer.length := by
    rw [UInt32.toNat_ofNat']
    exact Nat.mod_eq_of_lt (Nat.lt_of_le_of_lt transmissible.2 maxDataSize_lt)
  have nonempty : 0 < UInt32.ofNat readBuffer.length := by
    rw [UInt32.lt_iff_toNat_lt, size]
    exact transmissible.1
  let message : Message := ⟨StorageOpCode.blockReadRes.code,
    [.uint32 (UInt32.ofNat readBuffer.length), .data readBuffer]⟩
  have built : (StorageResponse.blockRead readBuffer).package = message.build := by
    simp only [StorageResponse.package, if_pos nonempty, size, List.take_length]
    rfl
  rw [built]
  have selects : readBlockFromStorage message.operationCode = blockFromResponse := rfl
  apply message.delivers (.inl selects)
  · apply Yields.uint32
    apply Yields.data
    rw [size, List.take_length]
    simpa using yields_pure
  · simpa [Message.Transmissible, message, Field.Transmissible] using transmissible
  · simp [message]

theorem error_delivers {select : UInt8 → PackageReader StorageAnswer} {queryId : UInt32}
    {errorMessage : List UInt8}
    (selects : select StorageOpCode.error.code = handlerErrorFromStorage)
    (transmissible : (Field.string errorMessage).Transmissible) :
    Delivers (StorageResponse.error queryId errorMessage).package (byOperationCode select)
      (.failed queryId errorMessage) := by
  apply Message.delivers_unchecked
  apply Message.delivers (.inr selects)
  · exact .uint32 (.string yields_pure)
  · simpa [Message.Transmissible, Field.Transmissible] using transmissible
  · simp

theorem StorageCall.status_delivers {call : StorageCall} {responseCode : StorageOpCode}
    (responds : call.request.responseCode = some responseCode) (operationResult : Int8) :
    Delivers (StorageResponse.status responseCode operationResult).package
      (byOperationCode call.answer) .acknowledged := by
  have selects : call.answer responseCode.code = pure .acknowledged := by
    cases call <;> cases responds <;> rfl
  apply Message.delivers (.inl selects) yields_pure
  · simp [Message.Transmissible, Field.Transmissible]
  · simp

theorem StorageCall.error_delivers {call : StorageCall} (reads : call.ReadsErrors)
    {queryId : UInt32} {errorMessage : List UInt8}
    (transmissible : (Field.string errorMessage).Transmissible) :
    Delivers (StorageResponse.error queryId errorMessage).package (byOperationCode call.answer)
      (.failed queryId errorMessage) := by
  apply Formats.error_delivers _ transmissible
  cases call with
  | deleteFileInStorage file tag workerId => exact reads.elim
  | _ => rfl

/-- A delete gives up at the operation code of an error: the Master is not told. -/
theorem StorageCall.delete_rejects_error {file tag : List UInt8} {workerId : UInt32}
    {package : Package} (failed : package.operationCode = StorageOpCode.error.code) :
    byOperationCode (deleteFileInStorage file tag workerId).answer package = none := by
  rw [byOperationCode, failed]
  rfl

end Responses

section Reports

theorem masterHandleClient_readMessage :
    masterHandleClient MasterOpCode.workerReadMessageReq.code = manageReadMessageFromWorker :=
  rfl

theorem masterHandleClient_endQuery :
    masterHandleClient MasterOpCode.workerEndQuery.code = manageWorkerEndQuery :=
  rfl

theorem masterHandleClient_error :
    masterHandleClient StorageOpCode.error.code = handleErrorFromStorage :=
  rfl

theorem WorkerNotice.delivers (notice : WorkerNotice)
    (transmissible : notice.message.Transmissible) :
    Delivers notice.package (byOperationCode masterHandleClient) notice.request := by
  cases notice with
  | sendReadContentToMaster queryId data file tag workerId =>
      apply Message.delivers (.inr masterHandleClient_readMessage) _ transmissible (small _)
      exact .uint32 (.uint32 (.data (.string (.string yields_pure))))
  | endQueryInMaster workerId queryId =>
      apply Message.delivers (.inr masterHandleClient_endQuery) _ transmissible (small _)
      exact .uint32 (.uint32 yields_pure)
  | notifyMasterQueryError workerId queryId =>
      apply Message.delivers_unchecked
      apply Message.delivers (.inr masterHandleClient_endQuery) _ transmissible (small _)
      exact .uint32 (.uint32 yields_pure)
  | evicted queryId programCounter =>
      apply Message.delivers_unchecked
      apply Message.delivers (.inl rfl) _ transmissible (small _)
      exact .uint32 (.uint32 yields_pure)
  | errorFromStorage queryId errorMessage =>
      apply Message.delivers (.inr masterHandleClient_error) _ transmissible (small _)
      exact .uint32 (.string yields_pure)

/-- An error of Storage reaches the Master through the Worker with the same query id and text. -/
theorem StorageCall.error_reaches_master {call : StorageCall} (reads : call.ReadsErrors)
    {queryId : UInt32} {errorMessage : List UInt8}
    (transmissible : (Field.string errorMessage).Transmissible) :
    ∃ answer notice,
      Delivers (StorageResponse.error queryId errorMessage).package (byOperationCode call.answer)
          answer ∧
        answer.forwarded = some notice ∧
          Delivers notice.package (byOperationCode masterHandleClient)
            (.handleErrorFromStorage queryId errorMessage) := by
  refine ⟨.failed queryId errorMessage, .errorFromStorage queryId errorMessage, ?_, rfl, ?_⟩
  · exact error_delivers reads transmissible
  · apply WorkerNotice.delivers
    simpa [Message.Transmissible, WorkerNotice.message, Field.Transmissible] using transmissible

theorem QueryControlCall.delivers (call : QueryControlCall)
    (transmissible : call.message.Transmissible) :
    Delivers call.message.build (byOperationCode masterHandleClient) call.request := by
  apply Message.delivers (.inl rfl) _ transmissible call.small
  cases call with
  | handshake => exact yields_pure
  | sendQuery queryFilepath priority => exact .string (.uint8 yields_pure)

end Reports

theorem WorkerOrder.delivers (order : WorkerOrder)
    (transmissible : order.message.Transmissible) :
    Delivers order.package (byOperationCode masterListenerThread) order.request := by
  cases order with
  | sendQueryToWorker queryId programCounter queryFilePath =>
      apply Message.delivers (.inl rfl) _ transmissible (small _)
      exact .uint32 (.uint32 (.string yields_pure))
  | preemptQueryInExec queryId =>
      apply Message.delivers_unchecked
      apply Message.delivers (.inl rfl) _ transmissible (small _)
      exact .uint32 yields_pure

section QueryControl

theorem readData_delivers {data file tag : List UInt8}
    (dataFits : (Field.data data).Transmissible)
    (fileTagFits : (Field.string (fileTag file tag)).Transmissible) :
    Delivers (QueryNotice.manageReadMessageFromWorker data file tag).package
      (byOperationCode queryControlLoop) (.readData data (fileTag file tag)) := by
  apply Message.delivers (.inl rfl)
  · exact .data (.string yields_pure)
  · simpa [Message.Transmissible, QueryNotice.message] using ⟨dataFits, fileTagFits⟩
  · simp [QueryNotice.message]

theorem queryControlLoop_finDesconexion :
    queryControlLoop MasterOpCode.masterFinDesconexion.code = finDesconexion :=
  rfl

theorem finDesconexion_delivers {queryId : UInt32} {errorReason : List UInt8}
    (transmissible : (Field.string errorReason).Transmissible) :
    Delivers (QueryNotice.finalizeQueryWithError queryId (some errorReason)).package
      (byOperationCode queryControlLoop) (.finished (some queryId) errorReason) := by
  apply Message.delivers_unchecked
  apply Message.delivers (.inr queryControlLoop_finDesconexion)
  · exact .orElse (.uint32 (.orElse (.string yields_pure)))
  · simpa [Message.Transmissible, QueryNotice.message, Field.Transmissible] using transmissible
  · simp [QueryNotice.message]

end QueryControl

/-- For every message between two modules with values that may be sent, the receiver's calls on
the package that the sender built return these values in the variables that they are for.  The
data and the strings may be as long as their limits: such a package is never too large. -/
theorem messages_agree :
    (∀ call : StorageCall, call.message.Transmissible →
      Delivers call.message.build (byOperationCode storageHandleClient) call.request) ∧
    (∀ readBuffer : List UInt8, (Field.data readBuffer).Transmissible →
      Delivers (StorageResponse.blockRead readBuffer).package
        (byOperationCode readBlockFromStorage)
        (.block readBuffer (UInt32.ofNat readBuffer.length))) ∧
    (∀ (queryId : UInt32) (errorMessage : List UInt8),
      (Field.string errorMessage).Transmissible →
        Delivers (StorageResponse.error queryId errorMessage).package handlerErrorFromStorage
            (.failed queryId errorMessage) ∧
          ∀ call : StorageCall, call.ReadsErrors →
            Delivers (StorageResponse.error queryId errorMessage).package
              (byOperationCode call.answer) (.failed queryId errorMessage)) ∧
    (∀ notice : WorkerNotice, notice.message.Transmissible →
      Delivers notice.package (byOperationCode masterHandleClient) notice.request) ∧
    (∀ order : WorkerOrder, order.message.Transmissible →
      Delivers order.package (byOperationCode masterListenerThread) order.request) ∧
    (∀ data file tag : List UInt8, (Field.data data).Transmissible →
      (Field.string (fileTag file tag)).Transmissible →
        Delivers (QueryNotice.manageReadMessageFromWorker data file tag).package
          (byOperationCode queryControlLoop) (.readData data (fileTag file tag))) ∧
    ∀ (queryId : UInt32) (errorReason : List UInt8), (Field.string errorReason).Transmissible →
      Delivers (QueryNotice.finalizeQueryWithError queryId (some errorReason)).package
        (byOperationCode queryControlLoop) (.finished (some queryId) errorReason) := by
  refine ⟨StorageCall.delivers, fun _ => blockRead_delivers, ?_, WorkerNotice.delivers,
    WorkerOrder.delivers, fun _ _ _ => readData_delivers, fun _ _ => finDesconexion_delivers⟩
  intro queryId errorMessage transmissible
  constructor
  · have delivers : Delivers (StorageResponse.error queryId errorMessage).package
        (byOperationCode fun _ => handlerErrorFromStorage) (.failed queryId errorMessage) :=
      error_delivers rfl transmissible
    exact delivers
  · exact fun call reads => StorageCall.error_delivers reads transmissible

/-- A write of two bytes, the error that it may be answered with, and the two bytes on their way to
a Query Control. -/
theorem messages_agree_twoBytes :
    Delivers (StorageCall.writeBlockToStorage [97] [84] 0 [1, 2] 7).message.build
        (byOperationCode storageHandleClient) (.executeBlockWrite 7 [97] [84] 0 [1, 2]) ∧
      Delivers (StorageResponse.error 7 [33]).package
          (byOperationCode (StorageCall.writeBlockToStorage [97] [84] 0 [1, 2] 7).answer)
          (.failed 7 [33]) ∧
        Delivers (QueryNotice.manageReadMessageFromWorker [1, 2] [97] [84]).package
          (byOperationCode queryControlLoop) (.readData [1, 2] [97, 58, 84]) := by
  obtain ⟨requests, blocks, errors, notices, orders, contents, reasons⟩ := messages_agree
  refine ⟨requests (.writeBlockToStorage [97] [84] 0 [1, 2] 7) ?_,
    (errors 7 [33] ?_).2 (.writeBlockToStorage [97] [84] 0 [1, 2] 7) trivial,
    contents [1, 2] [97] [84] ?_ ?_⟩
  · simp [Message.Transmissible, StorageCall.message, Field.Transmissible, maxStringLength,
      maxDataSize]
  · simp [Field.Transmissible, maxStringLength]
  · simp [Field.Transmissible, maxDataSize]
  · simp [Field.Transmissible, fileTag, maxStringLength]

end Formats

end MasterOfFiles
