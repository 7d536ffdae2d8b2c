import Mathlib.Data.List.Forall2
import MasterOfFiles.Serialization

/-!
# What is sent is what is read

A package that was filled with `package_add_*` and sent is received and read back field by
field, however the network cuts the stream.  The buffer is followed while it grows; the
zeros behind its last field are sent and never read.
-/

namespace MasterOfFiles

namespace Serialization

open ByteStrings

def Field.encode : Field → List UInt8
  | .uint8 value => [value]
  | .int8 value => [value.toUInt8]
  | .uint16 value => bigEndian 2 value.toNat
  | .uint32 value => bigEndian 4 value.toNat
  | .string value => bigEndian 4 value.length ++ value
  | .data value => bigEndian 4 value.length ++ value

theorem le_doubled (steps size needed : Nat) : size ≤ doubled steps size needed := by
  induction steps generalizing size with
  | zero => exact Nat.le_refl size
  | succ steps ih =>
      rw [doubled]
      split
      · have further := ih (size * 2)
        omega
      · exact Nat.le_refl size

/-- Doubling a positive size gains at least a byte a round. -/
theorem needed_le_doubled {steps size needed : Nat} (positive : 0 < size)
    (enough : needed ≤ steps + size) : needed ≤ doubled steps size needed := by
  induction steps generalizing size with
  | zero =>
      rw [doubled]
      omega
  | succ steps ih =>
      rw [doubled]
      split
      · apply ih
        · omega
        · omega
      · omega

theorem cString_eq_self {value : List UInt8} (terminated : 0 ∉ value) :
    cString value = value := by
  induction value with
  | nil => rfl
  | cons byte value ih =>
      rw [List.mem_cons, not_or] at terminated
      have nonzero : (byte != 0) = true := by
        simpa using fun zero => terminated.1 zero.symm
      rw [cString, List.takeWhile_cons, nonzero]
      exact congrArg (byte :: ·) (ih terminated.2)

namespace Buffer

/-- A growing buffer in which exactly these bytes were written. -/
structure Holds (buffer : Buffer) (written : List UInt8) : Prop where
  dynamic : buffer.isDynamic = true
  positive : 0 < buffer.stream.length
  bounded : buffer.stream.length ≤ maxBufferSize
  offset_le : buffer.offset ≤ buffer.stream.length
  take : buffer.stream.take buffer.offset = written

theorem length_createDynamic : createDynamic.stream.length = 256 :=
  List.length_replicate

theorem holds_createDynamic : createDynamic.Holds [] where
  dynamic := rfl
  positive := by
    rw [length_createDynamic]
    decide
  bounded := by
    rw [length_createDynamic]
    decide
  offset_le := Nat.zero_le _
  take := rfl

theorem hasCapacity_of_room {buffer : Buffer} {requiredSize : Nat}
    (room : requiredSize ≤ buffer.stream.length - buffer.offset) :
    buffer.hasCapacity requiredSize = some buffer := by
  rw [hasCapacity, if_neg (by omega), if_pos room]

theorem Holds.expand {buffer roomy : Buffer} {written : List UInt8} {requiredSize : Nat}
    (holds : buffer.Holds written) (expanded : buffer.expand requiredSize = some roomy) :
    roomy.Holds written ∧ roomy.offset + requiredSize ≤ roomy.stream.length := by
  have reaches : buffer.offset + requiredSize ≤
      doubled (buffer.offset + requiredSize) buffer.stream.length
        (buffer.offset + requiredSize) :=
    needed_le_doubled holds.positive (by omega)
  have grows := le_doubled (buffer.offset + requiredSize) buffer.stream.length
    (buffer.offset + requiredSize)
  simp only [Buffer.expand, holds.dynamic, Bool.not_true, Bool.false_eq_true, if_false]
    at expanded
  split at expanded
  · cases expanded
  · rename_i small
    cases expanded
    have positive := holds.positive
    have inside := holds.offset_le
    constructor
    · constructor
      · rfl
      · simp
        omega
      · simp
        omega
      · simp
        omega
      · rw [List.take_append_of_le_length inside]
        exact holds.take
    · simp
      omega

theorem Holds.hasCapacity {buffer roomy : Buffer} {written : List UInt8} {requiredSize : Nat}
    (holds : buffer.Holds written) (has : buffer.hasCapacity requiredSize = some roomy) :
    roomy.Holds written ∧ roomy.offset + requiredSize ≤ roomy.stream.length := by
  rw [Buffer.hasCapacity] at has
  split at has
  · exact holds.expand has
  · split at has
    · rename_i room
      cases has
      have inside := holds.offset_le
      exact ⟨holds, by omega⟩
    · cases has

theorem Holds.put {buffer : Buffer} {written bytes : List UInt8}
    (holds : buffer.Holds written) (room : buffer.offset + bytes.length ≤ buffer.stream.length) :
    (buffer.put bytes).Holds (written ++ bytes) where
  dynamic := holds.dynamic
  positive := by
    rw [Buffer.put, length_patch room]
    exact holds.positive
  bounded := by
    rw [Buffer.put, length_patch room]
    exact holds.bounded
  offset_le := by
    rw [Buffer.put, length_patch room]
    exact room
  take := by
    rw [Buffer.put, take_patch room, holds.take]

theorem Holds.writeBytes {buffer after : Buffer} {written bytes : List UInt8}
    (holds : buffer.Holds written) (wrote : buffer.writeBytes bytes = some after) :
    after.Holds (written ++ bytes) := by
  rw [Buffer.writeBytes, Option.map_eq_some_iff] at wrote
  obtain ⟨roomy, has, rfl⟩ := wrote
  have capacity := holds.hasCapacity has
  exact capacity.1.put capacity.2

theorem Holds.writeCounted {buffer roomy after : Buffer} {written value : List UInt8}
    (holds : buffer.Holds written) (short : value.length < 2 ^ 32)
    (has : buffer.hasCapacity (4 + value.length) = some roomy)
    (wrote : (roomy.writeUint32 (UInt32.ofNat value.length)).map
      (fun prefixed => prefixed.put value) = some after) :
    after.Holds (written ++ (bigEndian 4 value.length ++ value)) := by
  have capacity := holds.hasCapacity has
  have count : (UInt32.ofNat value.length).toNat = value.length := by
    rw [UInt32.toNat_ofNat']
    exact Nat.mod_eq_of_lt short
  rw [writeUint32, count, Buffer.writeBytes, length_bigEndian,
    hasCapacity_of_room (by omega)] at wrote
  simp only [Option.map_some, Option.some.injEq] at wrote
  subst wrote
  have prefixed : (roomy.put (bigEndian 4 value.length)).Holds
      (written ++ bigEndian 4 value.length) := by
    apply capacity.1.put
    rw [length_bigEndian]
    omega
  rw [← List.append_assoc]
  apply prefixed.put
  rw [Buffer.put, length_patch]
  · simp only [length_bigEndian]
    omega
  · rw [length_bigEndian]
    omega

end Buffer

theorem maxStringLength_lt : maxStringLength < 2 ^ 32 := by
  decide

theorem maxDataSize_lt : maxDataSize < 2 ^ 32 := by
  decide

theorem maxBufferSize_lt : maxBufferSize < 2 ^ 32 := by
  decide

/-- The strings and data that a package takes as long as it has room. -/
def Field.Writable : Field → Prop
  | .string value => 0 ∉ value ∧ value.length < 2 ^ 32
  | .data value => 1 ≤ value.length
  | _ => True

theorem Field.Transmissible.writable {field : Field} (transmissible : field.Transmissible) :
    field.Writable := by
  cases field with
  | string value =>
      exact ⟨transmissible.1, Nat.lt_of_le_of_lt transmissible.2 maxStringLength_lt⟩
  | data value => exact transmissible.1
  | _ => trivial

namespace Package

/-- A field that was added stands behind the ones before it. -/
theorem holds_add {package added : Package} {field : Field} {written : List UInt8}
    (holds : package.buffer.Holds written) (writable : field.Writable)
    (adds : package.add field = some added) :
    added.operationCode = package.operationCode ∧
      added.buffer.Holds (written ++ field.encode) := by
  simp only [add, Option.map_eq_some_iff] at adds
  obtain ⟨buffer, wrote, rfl⟩ := adds
  constructor
  · rfl
  · cases field with
    | uint8 value => exact holds.writeBytes wrote
    | int8 value => exact holds.writeBytes wrote
    | uint16 value => exact holds.writeBytes wrote
    | uint32 value => exact holds.writeBytes wrote
    | string value =>
        have count : (UInt32.ofNat value.length).toNat = value.length := by
          rw [UInt32.toNat_ofNat']
          exact Nat.mod_eq_of_lt writable.2
        simp only [Buffer.writeString, cString_eq_self writable.1, count,
          List.take_length, Option.bind_eq_some_iff] at wrote
        obtain ⟨roomy, has, wrote⟩ := wrote
        exact holds.writeCounted writable.2 has wrote
    | data value =>
        have nonempty : ¬value.length = 0 := Nat.one_le_iff_ne_zero.mp writable
        simp only [Buffer.writeData, if_neg nonempty, Option.bind_eq_some_iff] at wrote
        obtain ⟨roomy, has, wrote⟩ := wrote
        have capacity := holds.hasCapacity has
        have bounded := Nat.lt_of_le_of_lt capacity.1.bounded maxBufferSize_lt
        exact holds.writeCounted (by omega) has wrote

theorem holds_addAll {fields : List Field} :
    ∀ {package filled : Package} {written : List UInt8}, package.buffer.Holds written →
      (∀ field ∈ fields, field.Writable) → package.addAll fields = some filled →
        filled.operationCode = package.operationCode ∧
          filled.buffer.Holds (written ++ fields.flatMap Field.encode) := by
  induction fields with
  | nil =>
      intro package filled written holds writable adds
      cases adds
      simpa using holds
  | cons field fields ih =>
      intro package filled written holds writable adds
      rw [addAll, Option.bind_eq_some_iff] at adds
      obtain ⟨added, addsFirst, addsRest⟩ := adds
      have first := holds_add holds (writable field (List.mem_cons_self ..)) addsFirst
      have rest := ih first.2
        (fun other member => writable other (List.mem_cons_of_mem field member)) addsRest
      constructor
      · exact rest.1.trans first.1
      · rw [List.flatMap_cons, ← List.append_assoc]
        exact rest.2

end Package

namespace Buffer

def ahead (buffer : Buffer) : List UInt8 :=
  buffer.stream.drop buffer.offset

/-- The buffer after `count` bytes were read. -/
def advance (buffer : Buffer) (count : Nat) : Buffer :=
  { buffer with offset := buffer.offset + count }

theorem ahead_advance {buffer : Buffer} {bytes rest : List UInt8}
    (next : buffer.ahead = bytes ++ rest) : (buffer.advance bytes.length).ahead = rest := by
  have dropped : (buffer.ahead).drop bytes.length = rest := by
    rw [next, List.drop_left]
  rw [ahead, List.drop_drop] at dropped
  exact dropped

theorem room_of_ahead {buffer : Buffer} {bytes rest : List UInt8}
    (next : buffer.ahead = bytes ++ rest) :
    bytes.length ≤ buffer.stream.length - buffer.offset := by
  have lengths := congrArg List.length next
  rw [ahead, List.length_drop, List.length_append] at lengths
  omega

theorem take_of_ahead {buffer : Buffer} {bytes rest : List UInt8}
    (next : buffer.ahead = bytes ++ rest) :
    buffer.take bytes.length = (bytes, buffer.advance bytes.length) := by
  rw [ahead] at next
  rw [Buffer.take, next, List.take_left, advance]

theorem readBytes_of_ahead {buffer : Buffer} {bytes rest : List UInt8}
    (next : buffer.ahead = bytes ++ rest) :
    buffer.readBytes bytes.length = some (bytes, buffer.advance bytes.length) := by
  have capacity : buffer.checkCapacity bytes.length = true := by
    simpa [checkCapacity] using room_of_ahead next
  rw [readBytes, if_pos capacity, take_of_ahead next]

theorem readUint32_of_ahead {buffer : Buffer} {value : Nat} {rest : List UInt8}
    (short : value < 2 ^ 32) (next : buffer.ahead = bigEndian 4 value ++ rest) :
    buffer.readUint32 = some (UInt32.ofNat value, buffer.advance 4) := by
  have reads := readBytes_of_ahead next
  rw [length_bigEndian] at reads
  rw [readUint32, reads]
  simp only [Option.map_some]
  rw [ofBigEndian_bigEndian (by simpa using short)]

/-- The length of a counted value is read first, and its bytes come next. -/
theorem readCount_of_ahead {buffer : Buffer} {value rest : List UInt8}
    (short : value.length < 2 ^ 32)
    (next : buffer.ahead = bigEndian 4 value.length ++ value ++ rest) :
    buffer.readUint32 = some (UInt32.ofNat value.length, buffer.advance 4) ∧
      (UInt32.ofNat value.length).toNat = value.length ∧
        (buffer.advance 4).ahead = value ++ rest := by
  rw [List.append_assoc] at next
  constructor
  · exact readUint32_of_ahead short next
  · constructor
    · rw [UInt32.toNat_ofNat']
      exact Nat.mod_eq_of_lt short
    · have after := ahead_advance next
      rwa [length_bigEndian] at after

theorem readString_of_ahead {buffer : Buffer} {value rest : List UInt8}
    (terminated : 0 ∉ value) (short : value.length ≤ maxStringLength)
    (next : buffer.ahead = bigEndian 4 value.length ++ value ++ rest) :
    buffer.readString = some (value, (buffer.advance 4).advance value.length) := by
  have counted := readCount_of_ahead (Nat.lt_of_le_of_lt short maxStringLength_lt) next
  have capacity : (buffer.advance 4).checkCapacity value.length = true := by
    simpa [checkCapacity] using room_of_ahead counted.2.2
  have accepted : ¬(maxStringLength < value.length ∨
      (!(buffer.advance 4).checkCapacity value.length) = true) := by
    rw [capacity]
    simpa using short
  rw [readString, counted.1]
  simp only [Option.bind_some, counted.2.1]
  rw [if_neg accepted, take_of_ahead counted.2.2, cString_eq_self terminated]

theorem readData_of_ahead {buffer : Buffer} {value rest : List UInt8}
    (short : value.length ≤ maxDataSize)
    (next : buffer.ahead = bigEndian 4 value.length ++ value ++ rest) :
    buffer.readData = some (value, (buffer.advance 4).advance value.length) := by
  have counted := readCount_of_ahead (Nat.lt_of_le_of_lt short maxDataSize_lt) next
  rw [readData, counted.1]
  simp only [Option.bind_some, counted.2.1]
  rw [if_neg (Nat.not_lt_of_le short), hasCapacity_of_room (room_of_ahead counted.2.2)]
  simp only [Option.map_some]
  rw [take_of_ahead counted.2.2]

end Buffer

namespace Package

/-- A field that stands next in the stream is read as it was added. -/
theorem read_of_ahead {package : Package} {field : Field} {rest : List UInt8}
    (transmissible : field.Transmissible)
    (next : package.buffer.ahead = field.encode ++ rest) :
    ∃ after, package.read field.kind = some (field, after) ∧ after.buffer.ahead = rest := by
  have passed := Buffer.ahead_advance next
  cases field with
  | uint8 value =>
      have reads := Buffer.readBytes_of_ahead next
      refine ⟨{ package with buffer := package.buffer.advance 1 }, ?_, passed⟩
      simp only [Field.encode, List.length_singleton] at reads
      simp [read, Field.kind, Buffer.readUint8, reads]
  | int8 value =>
      have reads := Buffer.readBytes_of_ahead next
      refine ⟨{ package with buffer := package.buffer.advance 1 }, ?_, passed⟩
      simp only [Field.encode, List.length_singleton] at reads
      simp [read, Field.kind, Buffer.readInt8, reads]
  | uint16 value =>
      have reads := Buffer.readBytes_of_ahead next
      refine ⟨{ package with buffer := package.buffer.advance 2 }, ?_, passed⟩
      simp only [Field.encode, length_bigEndian] at reads
      have fits : value.toNat < 256 ^ 2 := by
        simpa using value.toNat_lt
      simp [read, Field.kind, Buffer.readUint16, reads, ofBigEndian_bigEndian fits]
  | uint32 value =>
      refine ⟨{ package with buffer := package.buffer.advance 4 }, ?_, passed⟩
      simp [read, Field.kind, Buffer.readUint32_of_ahead value.toNat_lt next]
  | string value =>
      have reads := Buffer.readString_of_ahead transmissible.1 transmissible.2 next
      rw [Field.encode, List.length_append, length_bigEndian] at passed
      refine ⟨{ package with buffer := (package.buffer.advance 4).advance value.length }, ?_, ?_⟩
      · simp [read, Field.kind, reads]
      · rw [← passed, Buffer.advance, Buffer.advance, Buffer.advance, Nat.add_assoc]
  | data value =>
      have reads := Buffer.readData_of_ahead transmissible.2 next
      rw [Field.encode, List.length_append, length_bigEndian] at passed
      refine ⟨{ package with buffer := (package.buffer.advance 4).advance value.length }, ?_, ?_⟩
      · simp [read, Field.kind, reads]
      · rw [← passed, Buffer.advance, Buffer.advance, Buffer.advance, Nat.add_assoc]

theorem readAll_of_ahead {fields : List Field} :
    ∀ {package : Package} {padding : List UInt8}, (∀ field ∈ fields, field.Transmissible) →
      package.buffer.ahead = fields.flatMap Field.encode ++ padding →
        package.readAll (fields.map Field.kind) = some fields := by
  induction fields with
  | nil =>
      intro package padding transmissible next
      rfl
  | cons field fields ih =>
      intro package padding transmissible next
      rw [List.flatMap_cons, List.append_assoc] at next
      obtain ⟨after, reads, rest⟩ :=
        read_of_ahead (transmissible field (List.mem_cons_self ..)) next
      have later := ih
        (fun other member => transmissible other (List.mem_cons_of_mem field member)) rest
      rw [List.map_cons, readAll, reads]
      simp only [Option.bind_some, later, Option.map_some]

end Package

namespace Connection

variable (fragmentation : Fragmentation)

/-- The loop of `recv_all` collects the bytes that were asked for, in whatever portions they
come. -/
theorem recvLoop_eq {steps : Nat} :
    ∀ (bytes rest : List UInt8) (calls : Nat), bytes.length ≤ steps →
      ∃ later, recvLoop fragmentation steps bytes.length ⟨bytes ++ rest, calls⟩ =
        some (bytes, ⟨rest, later⟩) := by
  induction steps with
  | zero =>
      intro bytes rest calls enough
      have empty : bytes = [] := List.length_eq_zero_iff.mp (Nat.le_zero.mp enough)
      subst empty
      exact ⟨calls, rfl⟩
  | succ steps ih =>
      intro bytes rest calls enough
      cases bytes with
      | nil => exact ⟨calls, rfl⟩
      | cons byte bytes =>
          let portion := max 1 (min (fragmentation calls) (bytes.length + 1)) - 1
          have portionLe : portion ≤ bytes.length := by omega
          have count : max 1 (min (fragmentation calls) (bytes.length + 1)) = portion + 1 := by
            omega
          have received : recv fragmentation ⟨byte :: bytes ++ rest, calls⟩ (bytes.length + 1) =
              (byte :: bytes.take portion, ⟨bytes.drop portion ++ rest, calls + 1⟩) := by
            rw [recv]
            simp only [count, List.cons_append, List.take_succ_cons, List.drop_succ_cons]
            rw [List.take_append_of_le_length portionLe, List.drop_append_of_le_length portionLe]
          rw [List.length_cons] at enough
          have fewer : (bytes.drop portion).length ≤ steps := by
            rw [List.length_drop]
            omega
          obtain ⟨later, loops⟩ := ih (bytes.drop portion) rest (calls + 1) fewer
          refine ⟨later, ?_⟩
          rw [List.length_cons, recvLoop, received]
          have missing : bytes.length - (bytes.take portion).length =
              (bytes.drop portion).length := by
            rw [List.length_take, List.length_drop]
            omega
          simp only [missing, loops, Option.map_some]
          rw [List.cons_append, List.take_append_drop]

theorem recvAll_eq (bytes rest : List UInt8) (calls : Nat) :
    ∃ later, recvAll fragmentation bytes.length ⟨bytes ++ rest, calls⟩ =
      some (bytes, ⟨rest, later⟩) :=
  recvLoop_eq fragmentation bytes rest calls (Nat.le_refl _)

/-- A package that was sent is received whole, ready to be read from its start. -/
theorem packageReceive_send {package : Package} {written : List UInt8}
    (holds : package.buffer.Holds written) (rest : List UInt8) (calls : Nat) :
    ∃ later, packageReceive fragmentation ⟨package.send ++ rest, calls⟩ =
      some (⟨package.operationCode, ⟨package.buffer.stream, 0, false⟩⟩, ⟨rest, later⟩) := by
  have short := Nat.lt_of_le_of_lt holds.bounded maxBufferSize_lt
  have size : (UInt32.ofNat package.buffer.stream.length).toNat =
      package.buffer.stream.length := by
    rw [UInt32.toNat_ofNat']
    exact Nat.mod_eq_of_lt short
  have sends : package.send ++ rest = [package.operationCode] ++
      (bigEndian 4 package.buffer.stream.length ++ (package.buffer.stream ++ rest)) := by
    rw [Package.send]
    simp [size]
  obtain ⟨coded, code⟩ := recvAll_eq fragmentation [package.operationCode]
    (bigEndian 4 package.buffer.stream.length ++ (package.buffer.stream ++ rest)) calls
  obtain ⟨sized, count⟩ := recvAll_eq fragmentation
    (bigEndian 4 package.buffer.stream.length) (package.buffer.stream ++ rest) coded
  obtain ⟨later, stream⟩ := recvAll_eq fragmentation package.buffer.stream rest sized
  rw [length_bigEndian] at count
  rw [List.length_singleton] at code
  refine ⟨later, ?_⟩
  rw [sends, packageReceive, code]
  simp only [Option.bind_some, count]
  rw [ofBigEndian_bigEndian (by simpa using short), if_neg (Nat.not_lt_of_le holds.bounded),
    Buffer.create, if_neg (Nat.ne_of_gt holds.positive)]
  simp only [Option.bind_some, stream, Option.map_some, List.headD_cons]

theorem packageReceive_done (calls : Nat) :
    packageReceive fragmentation ⟨[], calls⟩ = none := by
  simp [packageReceive, recvAll, recvLoop, recv]

end Connection

/-- A message as its sender puts it together: an operation code and fields. -/
structure Message where
  operationCode : UInt8
  fields : List Field

namespace Message

/-- The calls of `package_create_empty` and `package_add_*` for a message. -/
def build (message : Message) : Option Package :=
  (Package.createEmpty message.operationCode).addAll message.fields

/-- The package has the operation code of the message, and reading it with the types of the
message returns the fields of the message. -/
def ReadsBack (message : Message) (package : Package) : Prop :=
  package.operationCode = message.operationCode ∧
    package.readAll (message.fields.map Field.kind) = some message.fields

/-- All fields may be sent. -/
def Transmissible (message : Message) : Prop :=
  ∀ field ∈ message.fields, field.Transmissible

theorem Transmissible.writable {message : Message} (transmissible : message.Transmissible) :
    ∀ field ∈ message.fields, field.Writable :=
  fun field member => (transmissible field member).writable

theorem holds_build {message : Message} {package : Package}
    (writable : ∀ field ∈ message.fields, field.Writable)
    (builds : message.build = some package) :
    package.operationCode = message.operationCode ∧
      package.buffer.Holds (message.fields.flatMap Field.encode) := by
  have filled := Package.holds_addAll Buffer.holds_createDynamic writable builds
  rw [List.nil_append] at filled
  exact filled

theorem readsBack_received {message : Message} {package : Package}
    (transmissible : message.Transmissible) (builds : message.build = some package) :
    message.ReadsBack ⟨package.operationCode, ⟨package.buffer.stream, 0, false⟩⟩ := by
  have filled := holds_build transmissible.writable builds
  constructor
  · exact filled.1
  · apply Package.readAll_of_ahead
    · exact transmissible
    · change package.buffer.stream.drop 0 = _ ++ package.buffer.stream.drop package.buffer.offset
      rw [← filled.2.take, List.take_append_drop]
      rfl

end Message

namespace Connection

variable (fragmentation : Fragmentation)

theorem receiveAll_send_from {sent : List Message} {packages : List Package}
    (built : List.Forall₂ (fun message package => message.build = some package) sent packages) :
    ∀ calls, (∀ message ∈ sent, message.Transmissible) →
      ∃ received later,
        receiveAll fragmentation sent.length ⟨packages.flatMap Package.send, calls⟩ =
          some (received, ⟨[], later⟩) ∧ List.Forall₂ Message.ReadsBack sent received := by
  induction built with
  | nil =>
      intro calls transmissible
      exact ⟨[], calls, rfl, List.Forall₂.nil⟩
  | @cons message package sent packages builds built ih =>
      intro calls transmissible
      have first := transmissible message (List.mem_cons_self ..)
      obtain ⟨after, receives⟩ := packageReceive_send fragmentation
        (Message.holds_build first.writable builds).2 (packages.flatMap Package.send) calls
      obtain ⟨received, later, receivesRest, readsRest⟩ := ih after
        (fun other member => transmissible other (List.mem_cons_of_mem message member))
      refine ⟨_ :: received, later, ?_,
        List.Forall₂.cons (Message.readsBack_received first builds) readsRest⟩
      rw [List.length_cons, List.flatMap_cons, receiveAll, receives]
      simp only [Option.bind_some, receivesRest, Option.map_some]

/-- Packages that were built without a refusal and sent one after another are received in
the same number and order, however `recv` cuts the stream; each has its operation code and
reads back to its fields, and nothing is left to receive. -/
theorem receiveAll_send {sent : List Message} {packages : List Package}
    (transmissible : ∀ message ∈ sent, message.Transmissible)
    (built : List.Forall₂ (fun message package => message.build = some package) sent packages) :
    ∃ received last,
      receiveAll fragmentation sent.length ⟨packages.flatMap Package.send, 0⟩ =
          some (received, last) ∧
        List.Forall₂ Message.ReadsBack sent received ∧
          packageReceive fragmentation last = none := by
  obtain ⟨received, later, receives, reads⟩ :=
    receiveAll_send_from fragmentation built 0 transmissible
  exact ⟨received, ⟨[], later⟩, receives, reads, packageReceive_done fragmentation later⟩

/-- Two packages, one of them with all six types, received a byte at a time. -/
theorem receiveAll_send_two :
    ∃ (packages received : List Package) (last : Connection),
      receiveAll (fun _ => 1) 2 ⟨packages.flatMap Package.send, 0⟩ = some (received, last) ∧
        List.Forall₂ Message.ReadsBack
          [⟨3, [.uint8 200, .int8 (-1), .uint16 513, .uint32 70000, .string [72, 105],
            .data [0, 255]]⟩, ⟨9, []⟩] received ∧
          packageReceive (fun _ => 1) last = none := by
  let full : Message := ⟨3, [.uint8 200, .int8 (-1), .uint16 513, .uint32 70000,
    .string [72, 105], .data [0, 255]]⟩
  let empty : Message := ⟨9, []⟩
  have fullBuilds : full.build.isSome := by decide +kernel
  have emptyBuilds : empty.build.isSome := by decide
  refine ⟨[full.build.get fullBuilds, empty.build.get emptyBuilds],
    @receiveAll_send (fun _ => 1) [full, empty] _ ?_ ?_⟩
  · intro message member
    simp only [List.mem_cons, List.not_mem_nil, or_false] at member
    rcases member with rfl | rfl
    · intro field member
      simp only [full, List.mem_cons, List.not_mem_nil, or_false] at member
      rcases member with rfl | rfl | rfl | rfl | rfl | rfl <;>
        simp [Field.Transmissible, maxStringLength, maxDataSize]
    · intro field member
      cases member
  · exact List.Forall₂.cons (Option.some_get _).symm
      (List.Forall₂.cons (Option.some_get _).symm List.Forall₂.nil)

end Connection

end Serialization

end MasterOfFiles
