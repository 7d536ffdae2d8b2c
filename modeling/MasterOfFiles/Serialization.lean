import MasterOfFiles.ByteStrings

/-!
# Packages on the wire

The buffers of `serialization.c`, the packages built from them, and the stream that
`package_send` produces and `package_receive` consumes.  A buffer that grows is sent
whole, with the zeros after its last field.  Memory for buffers is always there; how many
bytes each `recv` returns is left open.
-/

namespace MasterOfFiles

namespace Serialization

open ByteStrings

def maxStringLength : Nat := 1024 * 1024

def maxDataSize : Nat := 10 * 1024 * 1024

def maxBufferSize : Nat := 100 * 1024 * 1024

/-- A `t_buffer`; its `size` is the length of the stream. -/
structure Buffer where
  stream : List UInt8
  offset : Nat
  isDynamic : Bool
deriving DecidableEq

/-- A `t_package`. -/
structure Package where
  operationCode : UInt8
  buffer : Buffer
deriving DecidableEq

/-- A field of a package; a string is the bytes up to its terminator. -/
inductive Field
  | uint8 (value : UInt8)
  | int8 (value : Int8)
  | uint16 (value : UInt16)
  | uint32 (value : UInt32)
  | string (value : List UInt8)
  | data (value : List UInt8)
deriving DecidableEq

/-- The types for which there is a pair of `package_add_*` and `package_read_*`. -/
inductive FieldKind
  | uint8
  | int8
  | uint16
  | uint32
  | string
  | data
deriving DecidableEq

def Field.kind : Field → FieldKind
  | .uint8 _ => .uint8
  | .int8 _ => .int8
  | .uint16 _ => .uint16
  | .uint32 _ => .uint32
  | .string _ => .string
  | .data _ => .data

/-- The strings and data that may be sent. -/
def Field.Transmissible : Field → Prop
  | .string value => 0 ∉ value ∧ value.length ≤ maxStringLength
  | .data value => 1 ≤ value.length ∧ value.length ≤ maxDataSize
  | _ => True

/-- The bytes up to the first zero, as `strlen` counts them. -/
def cString (value : List UInt8) : List UInt8 :=
  value.takeWhile fun byte => byte != 0

/-- The loop of `buffer_expand`, for at most `steps` rounds. -/
def doubled : Nat → Nat → Nat → Nat
  | 0, size, _ => size
  | steps + 1, size, needed => if size < needed then doubled steps (size * 2) needed else size

namespace Buffer

/-- `buffer_create`; a size of 0 is refused. -/
def create (size : Nat) : Option Buffer :=
  if size = 0 then none else some ⟨List.replicate size 0, 0, false⟩

/-- `buffer_create_dynamic`. -/
def createDynamic : Buffer where
  stream := List.replicate 256 0
  offset := 0
  isDynamic := true

/-- `buffer_expand`; the new part is filled with zeros. -/
def expand (buffer : Buffer) (requiredSize : Nat) : Option Buffer :=
  if !buffer.isDynamic then none
  else
    let needed := buffer.offset + requiredSize
    let newSize := doubled needed buffer.stream.length needed
    if maxBufferSize < newSize then none
    else
      some { buffer with
        stream := buffer.stream ++ List.replicate (newSize - buffer.stream.length) 0 }

/-- `buffer_has_capacity`: the buffer with room for the bytes, grown if need be. -/
def hasCapacity (buffer : Buffer) (requiredSize : Nat) : Option Buffer :=
  if buffer.isDynamic ∧ buffer.stream.length - buffer.offset < requiredSize then
    buffer.expand requiredSize
  else if requiredSize ≤ buffer.stream.length - buffer.offset then some buffer
  else none

/-- `memcpy` to the offset, and the offset moved on. -/
def put (buffer : Buffer) (bytes : List UInt8) : Buffer :=
  { buffer with
    stream := patch buffer.stream buffer.offset bytes
    offset := buffer.offset + bytes.length }

/-- The `buffer_write_*` functions of a fixed width. -/
def writeBytes (buffer : Buffer) (bytes : List UInt8) : Option Buffer :=
  (buffer.hasCapacity bytes.length).map fun roomy => roomy.put bytes

/-- `buffer_write_uint8`. -/
def writeUint8 (buffer : Buffer) (value : UInt8) : Option Buffer :=
  buffer.writeBytes [value]

/-- `buffer_write_int8`. -/
def writeInt8 (buffer : Buffer) (value : Int8) : Option Buffer :=
  buffer.writeBytes [value.toUInt8]

/-- `buffer_write_uint16`. -/
def writeUint16 (buffer : Buffer) (value : UInt16) : Option Buffer :=
  buffer.writeBytes (bigEndian 2 value.toNat)

/-- `buffer_write_uint32`. -/
def writeUint32 (buffer : Buffer) (value : UInt32) : Option Buffer :=
  buffer.writeBytes (bigEndian 4 value.toNat)

/-- `buffer_write_string`: the length, a `uint32_t`, and the bytes without terminator. -/
def writeString (buffer : Buffer) (value : List UInt8) : Option Buffer :=
  let strLength := UInt32.ofNat (cString value).length
  (buffer.hasCapacity (4 + strLength.toNat)).bind fun roomy =>
    (roomy.writeUint32 strLength).map fun prefixed =>
      prefixed.put ((cString value).take strLength.toNat)

/-- `buffer_write_data`: the size, cut to a `uint32_t`, and the bytes. -/
def writeData (buffer : Buffer) (value : List UInt8) : Option Buffer :=
  if value.length = 0 then none
  else
    (buffer.hasCapacity (4 + value.length)).bind fun roomy =>
      (roomy.writeUint32 (UInt32.ofNat value.length)).map fun prefixed => prefixed.put value

/-- `buffer_check_capacity`. -/
def checkCapacity (buffer : Buffer) (requiredSize : Nat) : Bool :=
  decide (requiredSize ≤ buffer.stream.length - buffer.offset)

/-- The bytes at the offset, and the offset moved on. -/
def take (buffer : Buffer) (count : Nat) : List UInt8 × Buffer :=
  ((buffer.stream.drop buffer.offset).take count,
    { buffer with offset := buffer.offset + count })

/-- The `buffer_read_*` functions of a fixed width. -/
def readBytes (buffer : Buffer) (count : Nat) : Option (List UInt8 × Buffer) :=
  if buffer.checkCapacity count then some (buffer.take count) else none

/-- `buffer_read_uint8`. -/
def readUint8 (buffer : Buffer) : Option (UInt8 × Buffer) :=
  (buffer.readBytes 1).map fun (bytes, after) => (bytes.headD 0, after)

/-- `buffer_read_int8`. -/
def readInt8 (buffer : Buffer) : Option (Int8 × Buffer) :=
  (buffer.readBytes 1).map fun (bytes, after) => ((bytes.headD 0).toInt8, after)

/-- `buffer_read_uint16`. -/
def readUint16 (buffer : Buffer) : Option (UInt16 × Buffer) :=
  (buffer.readBytes 2).map fun (bytes, after) => (UInt16.ofNat (ofBigEndian bytes), after)

/-- `buffer_read_uint32`. -/
def readUint32 (buffer : Buffer) : Option (UInt32 × Buffer) :=
  (buffer.readBytes 4).map fun (bytes, after) => (UInt32.ofNat (ofBigEndian bytes), after)

/-- `buffer_read_string`. -/
def readString (buffer : Buffer) : Option (List UInt8 × Buffer) :=
  buffer.readUint32.bind fun (length, counted) =>
    if maxStringLength < length.toNat ∨ !counted.checkCapacity length.toNat then none
    else
      match counted.take length.toNat with
      | (bytes, after) => some (cString bytes, after)

/-- `buffer_read_data`. -/
def readData (buffer : Buffer) : Option (List UInt8 × Buffer) :=
  buffer.readUint32.bind fun (size, counted) =>
    if maxDataSize < size.toNat then none
    else (counted.hasCapacity size.toNat).map fun roomy => roomy.take size.toNat

end Buffer

namespace Package

/-- `package_create_empty`. -/
def createEmpty (operationCode : UInt8) : Package where
  operationCode := operationCode
  buffer := Buffer.createDynamic

/-- The `package_add_*` function for a field; `none` is a `false`. -/
def add (package : Package) (field : Field) : Option Package :=
  (match field with
    | .uint8 value => package.buffer.writeUint8 value
    | .int8 value => package.buffer.writeInt8 value
    | .uint16 value => package.buffer.writeUint16 value
    | .uint32 value => package.buffer.writeUint32 value
    | .string value => package.buffer.writeString value
    | .data value => package.buffer.writeData value).map fun buffer =>
      { package with buffer := buffer }

def addAll (package : Package) : List Field → Option Package
  | [] => some package
  | field :: fields => (package.add field).bind fun added => added.addAll fields

/-- The `package_read_*` function for a type; `none` is a `false` or a `NULL`. -/
def read (package : Package) (kind : FieldKind) : Option (Field × Package) :=
  (match kind with
    | .uint8 => package.buffer.readUint8.map (Prod.map Field.uint8 id)
    | .int8 => package.buffer.readInt8.map (Prod.map Field.int8 id)
    | .uint16 => package.buffer.readUint16.map (Prod.map Field.uint16 id)
    | .uint32 => package.buffer.readUint32.map (Prod.map Field.uint32 id)
    | .string => package.buffer.readString.map (Prod.map Field.string id)
    | .data => package.buffer.readData.map (Prod.map Field.data id)).map
      fun (field, buffer) => (field, { package with buffer := buffer })

/-- Read fields of the given types in turn. -/
def readAll (package : Package) : List FieldKind → Option (List Field)
  | [] => some []
  | kind :: kinds => (package.read kind).bind fun (field, rest) =>
    (rest.readAll kinds).map fun fields => field :: fields

/-- The bytes of `package_send`: the operation code, the size and the whole stream. -/
def send (package : Package) : List UInt8 :=
  let bufferSize := UInt32.ofNat package.buffer.stream.length
  package.operationCode :: bigEndian 4 bufferSize.toNat ++
    package.buffer.stream.take bufferSize.toNat

end Package

/-- The receiving end of a connection: the bytes that were sent and not yet received, and
the number of `recv` calls so far. -/
structure Connection where
  pending : List UInt8
  calls : Nat
deriving DecidableEq

/-- How many bytes the network has for each `recv` call. -/
abbrev Fragmentation : Type := Nat → Nat

namespace Connection

variable (fragmentation : Fragmentation)

/-- `recv`: at least one byte and at most as many as asked for; nothing when the sender is
done. -/
def recv (connection : Connection) (length : Nat) : List UInt8 × Connection :=
  let count := max 1 (min (fragmentation connection.calls) length)
  (connection.pending.take count,
    { pending := connection.pending.drop count, calls := connection.calls + 1 })

/-- The loop of `recv_all` with `missing` bytes to go, for at most `steps` rounds. -/
def recvLoop : Nat → Nat → Connection → Option (List UInt8 × Connection)
  | _, 0, connection => some ([], connection)
  | 0, _ + 1, _ => none
  | steps + 1, missing + 1, connection =>
    match connection.recv fragmentation (missing + 1) with
    | ([], _) => none
    | (byte :: bytes, after) =>
      (recvLoop steps (missing - bytes.length) after).map fun (rest, last) =>
        (byte :: bytes ++ rest, last)

/-- `recv_all`; each round receives a byte, so `length` rounds are enough. -/
def recvAll (length : Nat) (connection : Connection) : Option (List UInt8 × Connection) :=
  recvLoop fragmentation length length connection

/-- `package_receive`; `none` is a `NULL`. -/
def packageReceive (connection : Connection) : Option (Package × Connection) :=
  (connection.recvAll fragmentation 1).bind fun (code, coded) =>
    (coded.recvAll fragmentation 4).bind fun (size, sized) =>
      let bufferSize := ofBigEndian size
      if maxBufferSize < bufferSize then none
      else
        (Buffer.create bufferSize).bind fun buffer =>
          (sized.recvAll fragmentation bufferSize).map fun (stream, after) =>
            (⟨code.headD 0, { buffer with stream := stream }⟩, after)

/-- Successive calls of `package_receive`. -/
def receiveAll : Nat → Connection → Option (List Package × Connection)
  | 0, connection => some ([], connection)
  | count + 1, connection =>
    (connection.packageReceive fragmentation).bind fun (package, after) =>
      (receiveAll count after).map fun (packages, last) => (package :: packages, last)

end Connection

end Serialization

end MasterOfFiles
