import MasterOfFiles.MasterHandlers
import MasterOfFiles.MessageAgreement
import MasterOfFiles.WorkerDecoding
import MasterOfFiles.WorkerFetching
import MasterOfFiles.WorkerFrames

/-!
# The bytes of a READ on their way to the Query Control

The Worker sends the bytes of a READ to the Master, which reads them out of the package and packs
them again for the Query Control.  A package takes data of any size as long as it can grow; a
reader refuses more than `MAX_DATA_SIZE`.  So a READ that succeeds arrives whole exactly when it
asks for no more than that.
-/

namespace MasterOfFiles

namespace Worker

open ByteStrings Serialization

namespace MemoryManager

variable {config : MemoryConfig} {faults : StorageFaults} {fileTag : FileTag}

section Lengths

theorem length_accessLoop {steps number offset : Nat} {buffer : List UInt8}
    {mm : MemoryManager config} (inside : offset ≤ config.pageSize) :
    (accessLoop faults fileTag false steps number offset buffer mm).2.1.length =
      buffer.length := by
  induction steps generalizing number offset buffer mm with
  | zero => rfl
  | succ steps ih =>
      rw [accessLoop]
      simp only [Bool.false_eq_true, if_false]
      split
      · rfl
      · split
        · rfl
        · rename_i present access
          have others := @ih ((number + 1) % 2 ^ 32) 0
            (buffer.drop (min (config.pageSize - offset) buffer.length))
            (present.mmUpdatePageAccess fileTag number) (Nat.zero_le _)
          rw [List.length_append, others, pageChunk, List.length_take, List.length_drop,
            List.length_drop, Vector.length_toList]
          omega

/-- The bytes that a successful READ sends are as many as it asks for, and at least one. -/
theorem length_of_read {mm : MemoryManager config} {replies : Replies} {base : UInt32}
    {size : Int32} {data : List UInt8}
    (succeeded : (mm.executeInstruction replies (.read fileTag base size)).succeeded = true)
    (content : (mm.executeInstruction replies (.read fileTag base size)).content = some data) :
    data.length = sizeOfInt size ∧ 1 ≤ sizeOfInt size := by
  rw [executeInstruction] at succeeded content
  split at succeeded
  · cases succeeded
  · rename_i allocated
    rw [if_neg allocated] at content
    split at succeeded
    · cases succeeded
    · rename_i found after reads
      rw [reads] at content
      split at succeeded
      · cases succeeded
      · rename_i delivered
        simp only [if_neg delivered, Option.some.injEq] at content
        subst content
        rw [mmReadFromMemory, mmAccessMemory] at reads
        split at reads
        · cases reads
        · rename_i started
          have nonempty : ¬ sizeOfInt size = 0 := by
            simpa using fun empty => started (Or.inl empty)
          have inside := Nat.le_of_lt (Nat.mod_lt base.toNat config.pageSize_pos)
          have length := congrArg (fun outcome => outcome.2.1.length) reads
          dsimp only at length
          rw [length_accessLoop inside, List.length_replicate] at length
          exact ⟨length.symm, by omega⟩

end Lengths

section Loading

variable {mm after : MemoryManager config} {number : Nat}

/-- A File:Tag with a page table can load its pages from a number on, one frame each. -/
structure Roomy (mm : MemoryManager config) (fileTag : FileTag) (number : Nat) : Prop where
  connected : mm.connected = true
  table : (mm.findPageTable fileTag).isSome = true
  free : ∀ frame, number ≤ frame → mm.used frame = false

theorem Roomy.modifyTable (roomy : mm.Roomy fileTag number)
    (change : List PageEntry → List PageEntry) :
    (mm.modifyTable fileTag change).Roomy fileTag number where
  connected := roomy.connected
  table := by
    rw [findPageTable_modifyTable, if_pos rfl, Option.isSome_map]
    exact roomy.table
  free := roomy.free

theorem Roomy.growTable (roomy : mm.Roomy fileTag number) (small : number + 1 < 2 ^ 32) :
    ∃ grown, mm.growTable fileTag number = some grown ∧ grown.Roomy fileTag number := by
  obtain ⟨table, found⟩ := Option.isSome_iff_exists.mp roomy.table
  rw [MemoryManager.growTable, found]
  dsimp only
  split
  · exact ⟨mm, rfl, roomy⟩
  · rw [Nat.mod_eq_of_lt small, ptResize, if_neg (Nat.succ_ne_zero number), Option.map_some]
    exact ⟨_, rfl, roomy.modifyTable _⟩

theorem Roomy.mmUpdatePageAccess (roomy : mm.Roomy fileTag number) (page : Nat) :
    (mm.mmUpdatePageAccess fileTag page).Roomy fileTag number := by
  unfold MemoryManager.mmUpdatePageAccess
  split
  · split
    · exact roomy
    · have touched := roomy.modifyTable fun table => table.modify page fun entry =>
        { entry with lastAccessTime := (mm.globalTimestamp + 1) % 2 ^ 64 }
      exact ⟨touched.connected, touched.table, touched.free⟩
  · exact roomy.modifyTable _

theorem Roomy.mmAllocateFrame (roomy : mm.Roomy fileTag number)
    (inside : number < config.frameCount) :
    ∃ frame, mm.mmAllocateFrame faults = (some frame, mm.setUsed frame true) ∧ frame ≤ number := by
  have some : ((List.range config.frameCount).find? fun frame => !mm.used frame).isSome := by
    rw [List.find?_isSome]
    exact ⟨number, List.mem_range.mpr inside, by simp [roomy.free number (Nat.le_refl number)]⟩
  obtain ⟨frame, found⟩ := Option.isSome_iff_exists.mp some
  refine ⟨frame, by rw [MemoryManager.mmAllocateFrame, found], ?_⟩
  by_contra behind
  have first := (List.find?_range_eq_some.mp found).2.2 number (by omega)
  simp [roomy.free number (Nat.le_refl number)] at first

/-- The next page is loaded into the first free frame. -/
theorem Roomy.mmHandlePageFault (roomy : mm.Roomy fileTag number)
    (inside : number < config.frameCount) :
    ∃ present, mm.mmHandlePageFault (fun _ => false) fileTag number = (true, present) ∧
      present.Roomy fileTag (number + 1) := by
  have bound := config.frameCount_lt
  obtain ⟨grown, grows, roomyGrown⟩ := roomy.growTable (by omega)
  have held := (Unmoved.growTable (by omega) grows).2
  obtain ⟨frame, allocates, first⟩ := roomyGrown.mmAllocateFrame inside
  let loaded := ((grown.setUsed frame true).readBlockFromStorage (fun _ => false) fileTag
    number).2.loadFrame frame (grown.storage fileTag number)
  have roomyLoaded : loaded.Roomy fileTag (number + 1) := by
    refine ⟨roomyGrown.connected, roomyGrown.table, ?_⟩
    intro other above
    change Function.update grown.used frame true other = false
    rw [Function.update_of_ne (by omega)]
    exact roomyGrown.free other (by omega)
  have heldLoaded : (loaded.page fileTag number).isNone = false := by
    change (grown.page fileTag number).isNone = false
    rw [Option.isNone_eq_false_iff, Option.isSome_iff_ne_none]
    exact held
  rw [MemoryManager.mmHandlePageFault, grows]
  dsimp only
  rw [roomyGrown.connected, allocates]
  refine ⟨(loaded.ptMap fileTag number frame).mmUpdatePageAccess fileTag number, ?_,
    (roomyLoaded.modifyTable _).mmUpdatePageAccess number⟩
  simp only [Bool.not_true, Bool.false_eq_true, if_false]
  rw [if_neg (by omega)]
  change (if (loaded.page fileTag number).isNone = true then _ else _) = _
  rw [heldLoaded, if_neg Bool.false_ne_true]
  rfl

theorem Roomy.ensurePresent (roomy : mm.Roomy fileTag number)
    (inside : number < config.frameCount) :
    ∃ present, mm.ensurePresent (fun _ => false) fileTag number = (true, present) ∧
      present.Roomy fileTag (number + 1) := by
  have bound := config.frameCount_lt
  obtain ⟨grown, grows, roomyGrown⟩ := roomy.growTable (by omega)
  rw [MemoryManager.ensurePresent, grows]
  dsimp only
  split
  · exact ⟨grown, rfl, roomyGrown.connected, roomyGrown.table,
      fun frame above => roomyGrown.free frame (by omega)⟩
  · exact roomyGrown.mmHandlePageFault inside

/-- A read succeeds while there is a free frame for each of its pages. -/
theorem Roomy.accessLoop {steps offset : Nat} {buffer : List UInt8}
    (roomy : mm.Roomy fileTag number) (offsetLt : offset < config.pageSize)
    (inside : number * config.pageSize + offset + buffer.length ≤
      config.frameCount * config.pageSize) (enough : buffer.length ≤ steps) :
    (accessLoop (fun _ => false) fileTag false steps number offset buffer mm).1 = true := by
  induction steps generalizing number offset buffer mm with
  | zero =>
      obtain rfl : buffer = [] := List.eq_nil_of_length_eq_zero (by omega)
      rfl
  | succ steps ih =>
      rw [MemoryManager.accessLoop]
      simp only [Bool.false_eq_true, if_false]
      split
      · rfl
      · rename_i nonempty
        have positive : 0 < buffer.length := List.length_pos_iff.mpr (by simpa using nonempty)
        have numberLt : number < config.frameCount := by
          by_contra far
          have pages := Nat.mul_le_mul_right config.pageSize (Nat.le_of_not_lt far)
          omega
        obtain ⟨present, ensures, roomyNext⟩ := roomy.ensurePresent numberLt
        have bound := config.frameCount_lt
        rw [ensures]
        dsimp only
        rw [Nat.mod_eq_of_lt (by omega)]
        by_cases more : buffer.drop (min (config.pageSize - offset) buffer.length) = []
        · rw [more]
          cases steps <;> rfl
        · have start := next_start number offsetLt more
          rw [List.length_take] at start
          apply ih (roomyNext.mmUpdatePageAccess number) config.pageSize_pos
          · rw [List.length_drop, start]
            omega
          · rw [List.length_drop]
            have pageSize := config.pageSize_pos
            omega

/-- A new table can load its pages while no frame is used. -/
theorem Roomy.mmCreatePageTable (connected : mm.connected = true)
    (free : ∀ frame, mm.used frame = false) (number : Nat) :
    (mm.mmCreatePageTable fileTag).Roomy fileTag number := by
  unfold MemoryManager.mmCreatePageTable
  cases found : mm.findPageTable fileTag with
  | some table => exact ⟨connected, by rw [found]; rfl, fun frame _ => free frame⟩
  | none =>
      refine ⟨connected, ?_, fun frame _ => free frame⟩
      have missing := Option.map_eq_none_iff.mp found
      simp [findPageTable, List.find?_append, missing]

/-- A READ of a connected Worker without used frames succeeds when there are enough frames. -/
theorem read_succeeds {base : UInt32} {size : Int32} (connected : mm.connected = true)
    (free : ∀ frame, mm.used frame = false) (positive : 1 ≤ sizeOfInt size)
    (inside : base.toNat + sizeOfInt size ≤ config.frameCount * config.pageSize) :
    (mm.executeInstruction goodReplies (.read fileTag base size)).succeeded = true ∧
      ∃ data, (mm.executeInstruction goodReplies (.read fileTag base size)).content =
        some data := by
  have roomy : (mm.mmCreatePageTable fileTag).Roomy fileTag (base.toNat / config.pageSize) :=
    .mmCreatePageTable connected free _
  have address := Nat.div_add_mod' base.toNat config.pageSize
  have length : (List.replicate (sizeOfInt size) (0 : UInt8)).length = sizeOfInt size :=
    List.length_replicate
  have reads := roomy.accessLoop (Nat.mod_lt base.toNat config.pageSize_pos)
    (by rw [length, address]; exact inside) (Nat.le_refl _)
  have started : ¬((List.replicate (sizeOfInt size) (0 : UInt8)).isEmpty = true ∨
      ((mm.mmCreatePageTable fileTag).findPageTable fileTag).isNone = true) := by
    rintro (empty | missing)
    · simp at empty
      omega
    · rw [Option.isNone_iff_eq_none] at missing
      simpa [missing] using roomy.table
  have reading : ((mm.mmCreatePageTable fileTag).mmReadFromMemory goodReplies.faults fileTag base
      (sizeOfInt size)).1 = true := by
    rw [mmReadFromMemory, mmAccessMemory, if_neg started]
    exact reads
  obtain ⟨⟨done, data, after⟩, result⟩ : ∃ outcome,
      (mm.mmCreatePageTable fileTag).mmReadFromMemory goodReplies.faults fileTag base
        (sizeOfInt size) = outcome := ⟨_, rfl⟩
  rw [result] at reading
  dsimp only at reading
  subst reading
  have allocated : ¬(!goodReplies.allocated) = true := Bool.false_ne_true
  rw [executeInstruction, if_neg allocated, result]
  exact ⟨rfl, data, rfl⟩

end Loading

end MemoryManager

/-- The names of an instruction that was fetched and decoded may be sent, together as well. -/
theorem names_transmissible {split : StringSplit} (parts : SplitsParts split)
    {file : Option (List UInt8)} {programCounter : UInt32} {line : List UInt8}
    (fetches : fetchInstruction file programCounter = some line) {instruction : Instruction}
    (decodes : decodeInstruction split (bytesText line) = some instruction) {fileTag : FileTag}
    (named : fileTag ∈ instruction.fileTags) :
    (Field.string (stringBytes fileTag.file)).Transmissible ∧
      (Field.string (stringBytes fileTag.tag)).Transmissible ∧
        (Field.string (Formats.fileTag (stringBytes fileTag.file)
          (stringBytes fileTag.tag))).Transmissible := by
  obtain ⟨short, text⟩ := fetchInstruction_bounded fetches
  have inLine : ∀ {name : String}, name.toList <:+: (bytesText line).toList →
      (stringBytes name).length ≤ 255 ∧ 0 ∉ stringBytes name := by
    intro name part
    have bytes := part.map fun character => UInt8.ofNat character.toNat
    change stringBytes name <:+: stringBytes (bytesText line) at bytes
    rw [stringBytes_bytesText] at bytes
    exact ⟨Nat.le_trans bytes.length_le short, fun zero => text (bytes.subset zero)⟩
  obtain ⟨fileIn, tagIn⟩ := parts.names_infix decodes fileTag named
  obtain ⟨fileShort, fileText⟩ := inLine fileIn
  obtain ⟨tagShort, tagText⟩ := inLine tagIn
  have limit : 511 ≤ maxStringLength := by decide
  refine ⟨⟨fileText, by omega⟩, ⟨tagText, by omega⟩, ?_, ?_⟩
  · simpa [Formats.fileTag] using ⟨fileText, tagText⟩
  · rw [Formats.fileTag, List.length_append, List.length_cons]
    omega

end Worker

namespace Formats

open ByteStrings Serialization Worker
open MemoryManager (goodReplies)

section Definitions

/-- The request of `send_read_content_to_master`. -/
def readMessage (queryId workerId : UInt32) (fileTag : Worker.FileTag) (data : List UInt8) :
    Message :=
  (WorkerNotice.sendReadContentToMaster queryId data (stringBytes fileTag.file)
    (stringBytes fileTag.tag) workerId).message

/-- What `send_read_content_to_master` puts together; a size of 0 is refused. -/
def sendReadContentToMaster (queryId workerId : UInt32) (fileTag : Worker.FileTag)
    (data : List UInt8) : Option Package :=
  if data = [] then none else (readMessage queryId workerId fileTag data).build

/-- The rest of `manage_read_message_from_worker`: the package for the Query Control, if the
query is running. -/
def forwardReadMessage (master : Master) : MasterRequest → Option Package
  | .manageReadMessageFromWorker _ queryId data file tag =>
    (master.findRunning queryId.toNat).bind fun _ =>
      (QueryNotice.manageReadMessageFromWorker data file tag).package
  | _ => none

/-- A READ on which `execute_instruction` returns 0: it has read some bytes, and their package
could be put together. -/
structure ReadReturns {config : MemoryConfig} (mm : MemoryManager config) (replies : Replies)
    (queryId workerId : UInt32) (fileTag : Worker.FileTag) (base : UInt32) (size : Int32)
    (data : List UInt8) : Prop where
  succeeded : (mm.executeInstruction replies (.read fileTag base size)).succeeded = true
  content : (mm.executeInstruction replies (.read fileTag base size)).content = some data
  built : sendReadContentToMaster queryId workerId fileTag data ≠ none

/-- The Master decodes the data, the file and the tag that were sent, and the Query Control decodes
the data and `file:tag` from the package that the Master sends on. -/
def ReadArrives (master : Master) (queryId workerId : UInt32) (fileTag : Worker.FileTag)
    (data : List UInt8) : Prop :=
  ∃ request,
    Delivers (sendReadContentToMaster queryId workerId fileTag data)
        (byOperationCode masterHandleClient) request ∧
      request = .manageReadMessageFromWorker workerId queryId data (stringBytes fileTag.file)
          (stringBytes fileTag.tag) ∧
        Delivers (forwardReadMessage master request) (byOperationCode queryControlLoop)
          (.readData data (Formats.fileTag (stringBytes fileTag.file) (stringBytes fileTag.tag)))

end Definitions

section Results

variable {master : Master} {queryId workerId : UInt32} {fileTag : Worker.FileTag}
  {data : List UInt8}

theorem sendReadContentToMaster_eq (nonempty : 1 ≤ data.length) :
    sendReadContentToMaster queryId workerId fileTag data =
      (readMessage queryId workerId fileTag data).build :=
  if_neg (List.length_pos_iff.mp nonempty)

section Names

variable (file : (Field.string (stringBytes fileTag.file)).Transmissible)
  (tag : (Field.string (stringBytes fileTag.tag)).Transmissible)

include file tag

theorem writable_readMessage (nonempty : 1 ≤ data.length) :
    ∀ field ∈ (readMessage queryId workerId fileTag data).fields, field.Writable := by
  simpa [readMessage, WorkerNotice.message, Field.Writable] using
    ⟨nonempty, file.writable, tag.writable⟩

/-- The package may have four times the data that the Master reads. -/
theorem readMessage_builds (nonempty : 1 ≤ data.length) (fits : data.length ≤ 4 * maxDataSize) :
    sendReadContentToMaster queryId workerId fileTag data ≠ none := by
  rw [sendReadContentToMaster_eq nonempty, ← Option.isSome_iff_ne_none,
    Option.isSome_iff_exists]
  apply Package.addAll_of_fits Buffer.holds_createDynamic (writable_readMessage file tag nonempty)
  have fileShort := file.2
  have tagShort := tag.2
  simp [readMessage, WorkerNotice.message, Field.encode]
  simp only [maxStringLength, maxDataSize, maxBufferSize] at *
  omega

theorem length_le_of_readArrives (nonempty : 1 ≤ data.length)
    (arrives : ReadArrives master queryId workerId fileTag data) :
    data.length ≤ maxDataSize := by
  obtain ⟨request, delivers, -, -⟩ := arrives
  by_contra long
  rw [sendReadContentToMaster_eq nonempty] at delivers
  have writable := @writable_readMessage queryId workerId fileTag data file tag nonempty
  have counted : data.length < 2 ^ 32 := by
    obtain ⟨package, builds, -⟩ := delivers
    obtain ⟨-, holds⟩ := Message.holds_build writable builds
    have bounded := holds.bounded
    have inside := holds.offset_le
    have length := holds.offset_eq
    simp [readMessage, WorkerNotice.message, Field.encode] at length
    have limit := maxBufferSize_lt
    omega
  refine Message.not_delivers (.inr masterHandleClient_readMessage) ?_ writable delivers
  exact .uint32 (.uint32 (refuses_data (Nat.lt_of_not_le long) counted))

theorem readArrives_of_le (nonempty : 1 ≤ data.length) (small : data.length ≤ maxDataSize)
    (both : (Field.string (Formats.fileTag (stringBytes fileTag.file)
      (stringBytes fileTag.tag))).Transmissible)
    (running : (master.findRunning queryId.toNat).isSome = true) :
    ReadArrives master queryId workerId fileTag data := by
  obtain ⟨query, found⟩ := Option.isSome_iff_exists.mp running
  have fits : (Field.data data).Transmissible := ⟨nonempty, small⟩
  refine ⟨_, ?_, rfl, ?_⟩
  · rw [sendReadContentToMaster_eq nonempty]
    apply WorkerNotice.delivers (.sendReadContentToMaster queryId data
      (stringBytes fileTag.file) (stringBytes fileTag.tag) workerId)
    simpa [Message.Transmissible, WorkerNotice.message, Field.Transmissible] using
      ⟨fits, file, tag⟩
  · rw [forwardReadMessage, found, Option.bind_some]
    exact readData_delivers fits both

end Names

/-- A READ of a script that succeeds arrives whole at the Query Control exactly when it asks for no
more than `MAX_DATA_SIZE`. -/
theorem read_arrives_iff {split : StringSplit} (parts : SplitsParts split)
    {file : Option (List UInt8)} {programCounter : UInt32} {line : List UInt8}
    (fetches : fetchInstruction file programCounter = some line) {fileTag : Worker.FileTag}
    {base : UInt32} {size : Int32}
    (decodes : decodeInstruction split (bytesText line) = some (.read fileTag base size))
    {config : MemoryConfig} {mm : MemoryManager config} {replies : Replies}
    {queryId workerId : UInt32} {data : List UInt8}
    (returns : ReadReturns mm replies queryId workerId fileTag base size data)
    {master : Master} (running : (master.findRunning queryId.toNat).isSome = true) :
    ReadArrives master queryId workerId fileTag data ↔ sizeOfInt size ≤ maxDataSize := by
  obtain ⟨length, nonempty⟩ := MemoryManager.length_of_read returns.succeeded returns.content
  obtain ⟨file, tag, both⟩ := names_transmissible parts fetches decodes
    (List.mem_singleton_self fileTag)
  rw [← length] at nonempty ⊢
  constructor
  · exact length_le_of_readArrives file tag nonempty
  · exact fun small => readArrives_of_le file tag nonempty small both running

/-- The Worker of a block size of 32 KiB with memory for 321 pages. -/
def largeConfig : MemoryConfig where
  pageSize := 32768
  frameCount := 321
  policy := .clockM
  pageSize_pos := by decide
  pageSize_lt := by decide
  frameCount_lt := by decide

def freshMemory : MemoryManager largeConfig where
  entries := []
  used _ := false
  clockPointer := 0
  physicalMemory _ := Vector.replicate 32768 0
  globalTimestamp := 0
  connected := true
  storage _ _ := Vector.replicate 32768 0
  requests := 0

def truncatedMemory : MemoryManager largeConfig :=
  ((freshMemory.executeInstruction goodReplies (.create ⟨"a", "T"⟩)).memory.executeInstruction
    goodReplies (.truncate ⟨"a", "T"⟩ 10518528)).memory

/-- A Master whose only query has been sent to its only Worker. -/
def oneRunning : Master :=
  (Master.tryDispatch (.mergeSorting .fifo 0) true
    ((initMaster.createQuery (.mergeSorting .fifo 0) "Q0" 1 4 0).manageWorkerHandshake 1 5)).1

def readScript (size : String) : List UInt8 :=
  stringBytes ("CREATE a:T\nTRUNCATE a:T 10518528\nREAD a:T 0 " ++ size ++ "\nEND\n")

/-- A READ of the file from its start returns 0, whatever its size in the file is. -/
theorem truncatedMemory_reads {size : Int32} (positive : 1 ≤ sizeOfInt size)
    (inside : sizeOfInt size ≤ 10518528) :
    ∃ data, ReadReturns truncatedMemory goodReplies 0 1 ⟨"a", "T"⟩ 0 size data := by
  have connected : truncatedMemory.connected = true := by decide +kernel
  have pages : (0 : UInt32).toNat + sizeOfInt size ≤
      largeConfig.frameCount * largeConfig.pageSize := by
    change 0 + sizeOfInt size ≤ 321 * 32768
    omega
  obtain ⟨succeeded, data, content⟩ := @MemoryManager.read_succeeds largeConfig ⟨"a", "T"⟩
    truncatedMemory 0 size connected (fun _ => rfl) positive pages
  obtain ⟨length, nonempty⟩ := MemoryManager.length_of_read succeeded content
  have limit : 10518528 ≤ 4 * maxDataSize := by decide
  have file : (Field.string (stringBytes "a")).Transmissible := by
    constructor <;> decide
  have tag : (Field.string (stringBytes "T")).Transmissible := by
    constructor <;> decide
  exact ⟨data, succeeded, content, readMessage_builds file tag (by omega) (by omega)⟩

theorem read_arrives_iff_four :
    ∃ data, ReadReturns truncatedMemory goodReplies 0 1 ⟨"a", "T"⟩ 0 4 data ∧
      (ReadArrives oneRunning 0 1 ⟨"a", "T"⟩ data ↔ sizeOfInt 4 ≤ maxDataSize) := by
  obtain ⟨data, returns⟩ := @truncatedMemory_reads 4 (by decide) (by decide)
  have fetches : fetchInstruction (some (readScript "4")) 2 =
      some (stringBytes "READ a:T 0 4") := by
    decide +kernel
  have decodes : decodeInstruction splitAtEach (bytesText (stringBytes "READ a:T 0 4")) =
      some (.read ⟨"a", "T"⟩ 0 4) := by
    decide +kernel
  have running : (oneRunning.findRunning (0 : UInt32).toNat).isSome = true := by decide +kernel
  exact ⟨data, returns,
    read_arrives_iff splitsParts_splitAtEach fetches decodes returns running⟩

/-- A READ of a byte more than `MAX_DATA_SIZE` returns 0 and does not arrive. -/
theorem long_read_lost :
    fetchInstruction (some (readScript "10485761")) 2 = some (stringBytes "READ a:T 0 10485761") ∧
      decodeInstruction splitAtEach (bytesText (stringBytes "READ a:T 0 10485761")) =
        some (.read ⟨"a", "T"⟩ 0 10485761) ∧
      (oneRunning.findRunning (0 : UInt32).toNat).isSome = true ∧
      ∃ data,
        ReadReturns truncatedMemory goodReplies 0 1 ⟨"a", "T"⟩ 0 10485761 data ∧
          ¬ ReadArrives oneRunning 0 1 ⟨"a", "T"⟩ data := by
  refine ⟨by decide +kernel, by decide +kernel, by decide +kernel, ?_⟩
  obtain ⟨data, returns⟩ := @truncatedMemory_reads 10485761 (by decide) (by decide)
  refine ⟨data, returns, fun arrives => ?_⟩
  obtain ⟨length, nonempty⟩ := MemoryManager.length_of_read returns.succeeded returns.content
  have size : sizeOfInt 10485761 = 10485761 := by decide
  have small := length_le_of_readArrives (by constructor <;> decide) (by constructor <;> decide)
    (by omega) arrives
  rw [length, size, maxDataSize] at small
  omega

end Results

end Formats

end MasterOfFiles
