import Mathlib.Data.List.Induction
import MasterOfFiles.BufferGrowth

/-!
# Reading an untrusted message

The lengths in a received package are chosen by the peer.  A `package_read_*` call is followed
here with the positions of the stream that it reads and the offset it leaves behind, in 64-bit
arithmetic: a failed call takes its offset back by hand, and a string and a data value are
checked by different functions.  Whatever is read in whatever order, the calls stay inside the
buffer.
-/

namespace MasterOfFiles

namespace Serialization

namespace Words

open ByteStrings

variable {Value : Type} {buffer start : Buffer} {package : Package}

section Definitions

/-- A `buffer_read_*` call: what it returns (`none` is a `false` or a `NULL`), the buffer after
it, and the positions of the stream that it has read. -/
structure Reading (Value : Type) where
  value : Option Value
  buffer : Buffer
  touched : List Nat

def bufferCheckCapacity (buffer : Buffer) (requiredSize : Nat) : Bool :=
  decide (requiredSize ≤ remaining buffer)

/-- The positions that a `memcpy` of `count` bytes from the offset reads. -/
def window (buffer : Buffer) (count : Nat) : List Nat :=
  List.range' buffer.offset count

def bytesAt (buffer : Buffer) (count : Nat) : List UInt8 :=
  (buffer.stream.drop buffer.offset).take count

def moveOn (buffer : Buffer) (count : Nat) : Buffer :=
  { buffer with offset := (buffer.offset + count) % 2 ^ 64 }

def moveBack (buffer : Buffer) (count : Nat) : Buffer :=
  { buffer with offset := (buffer.offset + 2 ^ 64 - count) % 2 ^ 64 }

def bufferReadFixed (count : Nat) (decode : List UInt8 → Value) (buffer : Buffer) :
    Reading Value :=
  if bufferCheckCapacity buffer count then
    ⟨some (decode (bytesAt buffer count)), moveOn buffer count, window buffer count⟩
  else ⟨none, buffer, []⟩

def bufferReadUint8 (buffer : Buffer) : Reading UInt8 :=
  bufferReadFixed 1 (fun bytes => bytes.headD 0) buffer

def bufferReadInt8 (buffer : Buffer) : Reading Int8 :=
  bufferReadFixed 1 (fun bytes => (bytes.headD 0).toInt8) buffer

def bufferReadUint16 (buffer : Buffer) : Reading UInt16 :=
  bufferReadFixed 2 (fun bytes => UInt16.ofNat (ofBigEndian bytes)) buffer

def bufferReadUint32 (buffer : Buffer) : Reading UInt32 :=
  bufferReadFixed 4 (fun bytes => UInt32.ofNat (ofBigEndian bytes)) buffer

/-- `buffer_read_string`; `allocates` says whether `malloc` succeeds. -/
def bufferReadString (allocates : Bool) (buffer : Buffer) : Reading (List UInt8) :=
  let counted := bufferReadUint32 buffer
  counted.value.elim ⟨none, counted.buffer, counted.touched⟩ fun length =>
    if maxStringLength < length.toNat ∨ !bufferCheckCapacity counted.buffer length.toNat then
      ⟨none, moveBack counted.buffer 4, counted.touched⟩
    else if !allocates then ⟨none, moveBack counted.buffer 4, counted.touched⟩
    else
      ⟨some (cString (bytesAt counted.buffer length.toNat)),
        moveOn counted.buffer length.toNat,
        counted.touched ++ window counted.buffer length.toNat⟩

/-- `buffer_read_data`; its capacity check may expand a dynamic buffer. -/
def bufferReadData (rounds : Nat) (reallocates allocates : Bool) (buffer : Buffer) :
    Option (Reading (List UInt8)) :=
  let counted := bufferReadUint32 buffer
  counted.value.elim (some ⟨none, counted.buffer, counted.touched⟩) fun size =>
    if maxDataSize < size.toNat then
      some ⟨none, moveBack counted.buffer 4, counted.touched⟩
    else
      (bufferHasCapacity rounds reallocates counted.buffer size.toNat).map fun (has, roomy) =>
        if !has then ⟨none, moveBack roomy 4, counted.touched⟩
        else if !allocates then ⟨none, moveBack roomy 4, counted.touched⟩
        else
          ⟨some (bytesAt roomy size.toNat), moveOn roomy size.toNat,
            counted.touched ++ window roomy size.toNat⟩

def Reading.map {Result : Type} (change : Value → Result) (reading : Reading Value) :
    Reading Result where
  value := reading.value.map change
  buffer := reading.buffer
  touched := reading.touched

/-- A `package_read_*` call: its type and which allocations succeed in it. -/
structure ReadCall where
  kind : FieldKind
  allocates : Bool
  reallocates : Bool

/-- Make a `package_read_*` call; `none` when it does not return. -/
def packageRead (rounds : Nat) (package : Package) (call : ReadCall) : Option (Reading Field) :=
  match call.kind with
  | .uint8 => some ((bufferReadUint8 package.buffer).map Field.uint8)
  | .int8 => some ((bufferReadInt8 package.buffer).map Field.int8)
  | .uint16 => some ((bufferReadUint16 package.buffer).map Field.uint16)
  | .uint32 => some ((bufferReadUint32 package.buffer).map Field.uint32)
  | .string => some ((bufferReadString call.allocates package.buffer).map Field.string)
  | .data =>
    (bufferReadData rounds call.reallocates call.allocates package.buffer).map
      (Reading.map Field.data)

def packageReads (package : Package) : TransitionSystem Package ReadCall where
  initial := (· = package)
  step before call after := ∃ rounds reading, packageRead rounds before call = some reading ∧
    after = { before with buffer := reading.buffer }

def declaredLength (buffer : Buffer) : Nat :=
  ofBigEndian (bytesAt buffer 4)

/-- The bytes that a value of a type takes at the offset. -/
def encodedLength (buffer : Buffer) : FieldKind → Nat
  | .uint8 => 1
  | .int8 => 1
  | .uint16 => 2
  | .uint32 => 4
  | .string => 4 + declaredLength buffer
  | .data => 4 + declaredLength buffer

end Definitions

section Calls

/-- A received buffer that some calls have read from. -/
structure Untrusted (buffer : Buffer) : Prop where
  fixed : buffer.isDynamic = false
  bounded : buffer.stream.length ≤ maxBufferSize
  offset_le : buffer.offset ≤ buffer.stream.length

/-- What a call on a buffer may do: it reads inside the stream and keeps it, and either fails and
keeps the offset too or moves it on by a length. -/
structure StaysInside (buffer : Buffer) (length : Nat) (reading : Reading Value) : Prop where
  touched : ∀ position ∈ reading.touched, position < buffer.stream.length
  stream : reading.buffer.stream = buffer.stream
  fixed : reading.buffer.isDynamic = buffer.isDynamic
  offset_le : reading.buffer.offset ≤ buffer.stream.length
  fails : reading.value = none → reading.buffer = buffer
  advances : reading.value ≠ none → reading.buffer.offset = buffer.offset + length

theorem StaysInside.untrusted {length : Nat} {reading : Reading Value}
    (untrusted : Untrusted buffer) (inside : StaysInside buffer length reading) :
    Untrusted reading.buffer where
  fixed := inside.fixed.trans untrusted.fixed
  bounded := by
    rw [inside.stream]
    exact untrusted.bounded
  offset_le := by
    rw [inside.stream]
    exact inside.offset_le

theorem StaysInside.map {Result : Type} {length : Nat} {reading : Reading Value}
    (inside : StaysInside buffer length reading) (change : Value → Result) :
    StaysInside buffer length (reading.map change) where
  touched := inside.touched
  stream := inside.stream
  fixed := inside.fixed
  offset_le := inside.offset_le
  fails failed := inside.fails (Option.map_eq_none_iff.mp failed)
  advances returned := inside.advances fun failed => returned (Option.map_eq_none_iff.mpr failed)

theorem Untrusted.remaining_eq (untrusted : Untrusted buffer) :
    remaining buffer = buffer.stream.length - buffer.offset := by
  have bounded := Nat.lt_of_le_of_lt untrusted.bounded maxBufferSize_lt
  have inside := untrusted.offset_le
  unfold remaining
  omega

theorem Untrusted.moveOn_eq {count : Nat} (untrusted : Untrusted buffer)
    (room : count ≤ remaining buffer) :
    moveOn buffer count = buffer.advance count ∧
      buffer.offset + count ≤ buffer.stream.length := by
  have bounded := Nat.lt_of_le_of_lt untrusted.bounded maxBufferSize_lt
  have inside := untrusted.offset_le
  rw [untrusted.remaining_eq] at room
  constructor
  · rw [moveOn, Buffer.advance, Nat.mod_eq_of_lt (by omega)]
  · omega

theorem moveBack_advance {count : Nat} (word : buffer.offset < 2 ^ 64) :
    moveBack (buffer.advance count) count = buffer := by
  have returned : (buffer.offset + count + 2 ^ 64 - count) % 2 ^ 64 = buffer.offset := by
    omega
  rw [moveBack, Buffer.advance, returned]

theorem capacity_of_check {requiredSize : Nat}
    (checked : bufferCheckCapacity buffer requiredSize = true) :
    requiredSize ≤ remaining buffer := by
  rw [bufferCheckCapacity, decide_eq_true_eq] at checked
  exact checked

theorem Untrusted.offset_lt (untrusted : Untrusted buffer) : buffer.offset < 2 ^ 64 := by
  have bounded := Nat.lt_of_le_of_lt untrusted.bounded maxBufferSize_lt
  have inside := untrusted.offset_le
  omega

theorem mem_window {count position : Nat} (member : position ∈ window buffer count) :
    position < buffer.offset + count := by
  obtain ⟨step, small, rfl⟩ := List.mem_range'.mp member
  omega

theorem Untrusted.bufferReadFixed (untrusted : Untrusted buffer) (count : Nat)
    (decode : List UInt8 → Value) :
    StaysInside buffer count (bufferReadFixed count decode buffer) := by
  unfold Words.bufferReadFixed
  split
  · rename_i capacity
    obtain ⟨moved, room⟩ := untrusted.moveOn_eq (of_decide_eq_true capacity)
    rw [moved]
    refine ⟨?_, rfl, rfl, room, fun impossible => (by cases impossible), fun _ => rfl⟩
    intro position member
    exact Nat.lt_of_lt_of_le (mem_window member) room
  · refine ⟨fun position member => (by cases member), rfl, rfl, untrusted.offset_le,
      fun _ => rfl, fun returned => absurd rfl returned⟩

theorem Untrusted.bufferReadUint32 (untrusted : Untrusted buffer) :
    bufferReadUint32 buffer = ⟨none, buffer, []⟩ ∨
      bufferReadUint32 buffer =
          ⟨some (UInt32.ofNat (declaredLength buffer)), buffer.advance 4, window buffer 4⟩ ∧
        buffer.offset + 4 ≤ buffer.stream.length := by
  unfold Words.bufferReadUint32 Words.bufferReadFixed
  split
  · rename_i capacity
    obtain ⟨moved, room⟩ := untrusted.moveOn_eq (of_decide_eq_true capacity)
    rw [moved]
    exact Or.inr ⟨rfl, room⟩
  · exact Or.inl rfl

theorem Untrusted.advance {count : Nat} (untrusted : Untrusted buffer)
    (room : buffer.offset + count ≤ buffer.stream.length) : Untrusted (buffer.advance count) :=
  ⟨untrusted.fixed, untrusted.bounded, room⟩

theorem ofBigEndian_lt (bytes : List UInt8) : ofBigEndian bytes < 256 ^ bytes.length := by
  induction bytes using List.reverseRecOn with
  | nil => simp [ofBigEndian]
  | append_singleton bytes byte ih =>
      have digit := byte.toNat_lt
      have appended : ofBigEndian (bytes ++ [byte]) = ofBigEndian bytes * 256 + byte.toNat := by
        simp [ofBigEndian]
      rw [appended, List.length_append, List.length_singleton, Nat.pow_succ]
      omega

theorem declaredLength_lt (buffer : Buffer) : declaredLength buffer < 2 ^ 32 := by
  have bound := ofBigEndian_lt (bytesAt buffer 4)
  have short : (bytesAt buffer 4).length ≤ 4 := List.length_take_le _ _
  calc declaredLength buffer < 256 ^ (bytesAt buffer 4).length := bound
    _ ≤ 256 ^ 4 := Nat.pow_le_pow_right (by decide) short
    _ = 2 ^ 32 := by decide

theorem toNat_declaredLength (buffer : Buffer) :
    (UInt32.ofNat (declaredLength buffer)).toNat = declaredLength buffer := by
  rw [UInt32.toNat_ofNat']
  exact Nat.mod_eq_of_lt (declaredLength_lt buffer)

/-- A counted read that fails after its length was read. -/
theorem Untrusted.refused (untrusted : Untrusted buffer)
    (room : buffer.offset + 4 ≤ buffer.stream.length) (length : Nat) :
    StaysInside buffer length
      (⟨none, moveBack (buffer.advance 4) 4, window buffer 4⟩ : Reading Value) := by
  rw [moveBack_advance untrusted.offset_lt]
  refine ⟨?_, rfl, rfl, untrusted.offset_le, fun _ => rfl, fun returned => absurd rfl returned⟩
  intro position member
  exact Nat.lt_of_lt_of_le (mem_window member) room

theorem Untrusted.counted {length : Nat} (untrusted : Untrusted buffer)
    (room : buffer.offset + 4 ≤ buffer.stream.length)
    (capacity : length ≤ remaining (buffer.advance 4)) (value : Value) :
    StaysInside buffer (4 + length)
      (⟨some value, moveOn (buffer.advance 4) length,
        window buffer 4 ++ window (buffer.advance 4) length⟩ : Reading Value) := by
  obtain ⟨moved, within⟩ := (untrusted.advance room).moveOn_eq capacity
  rw [moved]
  refine ⟨?_, rfl, rfl, within, fun impossible => (by cases impossible), ?_⟩
  · intro position member
    rcases List.mem_append.mp member with first | second
    · exact Nat.lt_of_lt_of_le (mem_window first) room
    · exact Nat.lt_of_lt_of_le (mem_window second) within
  · intro _
    exact Nat.add_assoc _ _ _

theorem Untrusted.bufferReadString (untrusted : Untrusted buffer) (allocates : Bool) :
    StaysInside buffer (4 + declaredLength buffer) (bufferReadString allocates buffer) := by
  unfold Words.bufferReadString
  rcases untrusted.bufferReadUint32 with short | ⟨counts, room⟩
  · rw [short]
    exact ⟨fun position member => (by cases member), rfl, rfl, untrusted.offset_le,
      fun _ => rfl, fun returned => absurd rfl returned⟩
  · rw [counts]
    dsimp only [Option.elim_some]
    rw [toNat_declaredLength]
    by_cases refused : maxStringLength < declaredLength buffer ∨
        (!bufferCheckCapacity (buffer.advance 4) (declaredLength buffer)) = true
    · rw [if_pos refused]
      exact untrusted.refused room _
    · rw [if_neg refused]
      rw [not_or, Bool.not_eq_true, Bool.not_eq_false'] at refused
      by_cases failed : (!allocates) = true
      · rw [if_pos failed]
        exact untrusted.refused room _
      · rw [if_neg failed]
        exact untrusted.counted room (capacity_of_check refused.2) _

theorem Untrusted.bufferHasCapacity (untrusted : Untrusted buffer) (rounds : Nat)
    (reallocates : Bool) (requiredSize : Nat) :
    bufferHasCapacity rounds reallocates buffer requiredSize =
      some (decide (requiredSize ≤ remaining buffer), buffer) := by
  have fixed : ¬ (buffer.isDynamic = true ∧ remaining buffer < requiredSize) := by
    rw [untrusted.fixed]
    simp
  rw [Words.bufferHasCapacity, if_neg fixed]

/-- Reading data never waits for an expansion: a received buffer does not grow. -/
theorem Untrusted.bufferReadData (untrusted : Untrusted buffer) (reallocates allocates : Bool) :
    ∃ reading, (∀ rounds, bufferReadData rounds reallocates allocates buffer = some reading) ∧
      StaysInside buffer (4 + declaredLength buffer) reading := by
  unfold Words.bufferReadData
  rcases untrusted.bufferReadUint32 with short | ⟨counts, room⟩
  · rw [short]
    exact ⟨_, fun _ => rfl, fun position member => (by cases member), rfl, rfl,
      untrusted.offset_le, fun _ => rfl, fun returned => absurd rfl returned⟩
  · rw [counts]
    dsimp only [Option.elim_some]
    simp only [(untrusted.advance room).bufferHasCapacity, toNat_declaredLength,
      Option.map_some]
    split
    · exact ⟨_, fun _ => rfl, untrusted.refused room _⟩
    · split
      · exact ⟨_, fun _ => rfl, untrusted.refused room _⟩
      · split
        · exact ⟨_, fun _ => rfl, untrusted.refused room _⟩
        · rename_i capacity _
          rw [Bool.not_eq_true, Bool.not_eq_false'] at capacity
          exact ⟨_, fun _ => rfl, untrusted.counted room (of_decide_eq_true capacity) _⟩

theorem Untrusted.packageRead (untrusted : Untrusted package.buffer) (call : ReadCall) :
    ∃ reading, (∀ rounds, packageRead rounds package call = some reading) ∧
      StaysInside package.buffer (encodedLength package.buffer call.kind) reading := by
  obtain ⟨kind, allocates, reallocates⟩ := call
  cases kind with
  | uint8 => exact ⟨_, fun _ => rfl, (untrusted.bufferReadFixed 1 _).map _⟩
  | int8 => exact ⟨_, fun _ => rfl, (untrusted.bufferReadFixed 1 _).map _⟩
  | uint16 => exact ⟨_, fun _ => rfl, (untrusted.bufferReadFixed 2 _).map _⟩
  | uint32 => exact ⟨_, fun _ => rfl, (untrusted.bufferReadFixed 4 _).map _⟩
  | string => exact ⟨_, fun _ => rfl, (untrusted.bufferReadString allocates).map _⟩
  | data =>
      obtain ⟨reading, returns, inside⟩ := untrusted.bufferReadData reallocates allocates
      refine ⟨reading.map Field.data, fun rounds => ?_, inside.map _⟩
      dsimp only [Words.packageRead]
      rw [returns rounds, Option.map_some]

end Calls

section Agreement

/-- The value with the buffer after the call, as the calls on natural numbers return them. -/
def Reading.pair (reading : Reading Value) : Option (Value × Buffer) :=
  reading.value.map fun value => (value, reading.buffer)

theorem pair_map {Result : Type} (change : Value → Result) (reading : Reading Value) :
    (reading.map change).pair = reading.pair.map (Prod.map change id) := by
  unfold Reading.pair Reading.map
  cases reading.value with
  | none => rfl
  | some value => rfl

theorem Untrusted.checkCapacity_eq (untrusted : Untrusted buffer) (count : Nat) :
    buffer.checkCapacity count = bufferCheckCapacity buffer count := by
  rw [Buffer.checkCapacity, bufferCheckCapacity, untrusted.remaining_eq]

theorem Untrusted.take_eq {count : Nat} (untrusted : Untrusted buffer)
    (capacity : count ≤ remaining buffer) :
    buffer.take count = (bytesAt buffer count, moveOn buffer count) := by
  rw [(untrusted.moveOn_eq capacity).1]
  rfl

theorem Untrusted.pair_bufferReadFixed (untrusted : Untrusted buffer) (count : Nat)
    (decode : List UInt8 → Value) :
    (Words.bufferReadFixed count decode buffer).pair =
      (buffer.readBytes count).map fun (bytes, after) => (decode bytes, after) := by
  rw [Buffer.readBytes, Words.bufferReadFixed, untrusted.checkCapacity_eq]
  by_cases checked : bufferCheckCapacity buffer count = true
  · rw [if_pos checked, if_pos checked, untrusted.take_eq (capacity_of_check checked)]
    rfl
  · rw [if_neg checked, if_neg checked]
    rfl

theorem Untrusted.pair_bufferReadUint32 (untrusted : Untrusted buffer) :
    (Words.bufferReadUint32 buffer).pair = buffer.readUint32 :=
  untrusted.pair_bufferReadFixed 4 _

theorem Untrusted.pair_bufferReadString (untrusted : Untrusted buffer) :
    (Words.bufferReadString true buffer).pair = buffer.readString := by
  have counted := untrusted.pair_bufferReadUint32
  rw [Buffer.readString, ← counted, Words.bufferReadString]
  rcases untrusted.bufferReadUint32 with short | ⟨counts, room⟩
  · rw [short]
    rfl
  · rw [counts]
    simp only [Reading.pair, Option.elim_some, Option.map_some, Option.bind_some,
      (untrusted.advance room).checkCapacity_eq, Bool.not_true, Bool.false_eq_true, if_false]
    by_cases refused : maxStringLength < (UInt32.ofNat (declaredLength buffer)).toNat ∨
        (!bufferCheckCapacity (buffer.advance 4)
          (UInt32.ofNat (declaredLength buffer)).toNat) = true
    · rw [if_pos refused, if_pos refused]
      rfl
    · rw [if_neg refused, if_neg refused]
      rw [not_or, Bool.not_eq_true, Bool.not_eq_false'] at refused
      rw [(untrusted.advance room).take_eq (capacity_of_check refused.2)]
      rfl

theorem Untrusted.pair_bufferReadData (untrusted : Untrusted buffer) (rounds : Nat)
    (reallocates : Bool) :
    (Words.bufferReadData rounds reallocates true buffer).map Reading.pair =
      some buffer.readData := by
  have counted := untrusted.pair_bufferReadUint32
  rw [Buffer.readData, ← counted, Words.bufferReadData]
  rcases untrusted.bufferReadUint32 with short | ⟨counts, room⟩
  · rw [short]
    rfl
  · rw [counts]
    have fixed : ∀ count, ¬ ((buffer.advance 4).isDynamic = true ∧
        (buffer.advance 4).stream.length - (buffer.advance 4).offset < count) := by
      intro count
      rw [(untrusted.advance room).fixed]
      simp
    simp only [Reading.pair, Option.elim_some, Option.map_some, Option.bind_some,
      (untrusted.advance room).bufferHasCapacity, Buffer.hasCapacity, if_neg (fixed _)]
    generalize (UInt32.ofNat (declaredLength buffer)).toNat = size
    by_cases large : maxDataSize < size
    · rw [if_pos large, if_pos large]
      rfl
    · rw [if_neg large, if_neg large]
      have rest := (untrusted.advance room).remaining_eq
      by_cases capacity : size ≤ remaining (buffer.advance 4)
      · rw [← rest, if_pos capacity, decide_eq_true capacity, Option.map_some, Option.map_some,
          (untrusted.advance room).take_eq capacity]
        rfl
      · rw [← rest, if_neg capacity, decide_eq_false capacity]
        rfl

/-- Where memory is there, a call in machine words on a received package returns what the call on
natural numbers returns. -/
theorem Untrusted.packageRead_eq_read (untrusted : Untrusted package.buffer) (rounds : Nat)
    (kind : FieldKind) (reallocates : Bool) :
    (Words.packageRead rounds package ⟨kind, true, reallocates⟩).map
        (fun reading => reading.pair.map fun (field, buffer) =>
          (field, ({ package with buffer := buffer } : Package))) =
      some (package.read kind) := by
  unfold Words.packageRead Package.read
  cases kind with
  | uint8 =>
      dsimp only
      rw [Option.map_some, pair_map, bufferReadUint8, untrusted.pair_bufferReadFixed]
      rfl
  | int8 =>
      dsimp only
      rw [Option.map_some, pair_map, bufferReadInt8, untrusted.pair_bufferReadFixed]
      rfl
  | uint16 =>
      dsimp only
      rw [Option.map_some, pair_map, bufferReadUint16, untrusted.pair_bufferReadFixed]
      rfl
  | uint32 =>
      dsimp only
      rw [Option.map_some, pair_map, untrusted.pair_bufferReadUint32]
  | string =>
      dsimp only
      rw [Option.map_some, pair_map, untrusted.pair_bufferReadString]
  | data =>
      have reads := untrusted.pair_bufferReadData rounds reallocates
      obtain ⟨reading, returns, pair⟩ := Option.map_eq_some_iff.mp reads
      dsimp only
      rw [returns, Option.map_some, Option.map_some, pair_map, pair]

end Agreement

section Runs

variable {fragmentation : Fragmentation} {connection after : Connection}

theorem length_recvLoop {steps : Nat} :
    ∀ {missing : Nat} {connection after : Connection} {bytes : List UInt8},
      Connection.recvLoop fragmentation steps missing connection = some (bytes, after) →
        bytes.length = missing := by
  induction steps with
  | zero =>
      intro missing connection after bytes received
      cases missing with
      | zero =>
          cases received
          rfl
      | succ missing => cases received
  | succ steps ih =>
      intro missing connection after bytes received
      cases missing with
      | zero =>
          cases received
          rfl
      | succ missing =>
          rw [Connection.recvLoop] at received
          cases portion : connection.recv fragmentation (missing + 1) with
          | mk part middle =>
              cases part with
              | nil =>
                  rw [portion] at received
                  cases received
              | cons byte part =>
                  have count : part.length ≤ missing := by
                    have taken := congrArg (fun pair => (Prod.fst pair).length) portion
                    dsimp only [Connection.recv] at taken
                    rw [List.length_take, List.length_cons] at taken
                    omega
                  rw [portion] at received
                  obtain ⟨⟨rest, last⟩, receives, result⟩ := Option.map_eq_some_iff.mp received
                  cases result
                  rw [List.cons_append, List.length_cons, List.length_append, ih receives]
                  omega

/-- A received package has a buffer of the declared size, which `package_receive` has checked. -/
theorem untrusted_of_received
    (received : connection.packageReceive fragmentation = some (package, after)) :
    Untrusted package.buffer := by
  obtain ⟨⟨code, coded⟩, _, received⟩ := Option.bind_eq_some_iff.mp received
  obtain ⟨⟨size, sized⟩, _, received⟩ := Option.bind_eq_some_iff.mp received
  dsimp only at received
  split at received
  · cases received
  · rename_i small
    obtain ⟨created, creates, received⟩ := Option.bind_eq_some_iff.mp received
    obtain ⟨⟨stream, last⟩, receives, result⟩ := Option.map_eq_some_iff.mp received
    unfold Buffer.create at creates
    split at creates
    · cases creates
    · cases creates
      cases result
      refine ⟨rfl, ?_, Nat.zero_le _⟩
      rw [length_recvLoop receives]
      omega

/-- The run lemma: the calls keep the bytes and the bounds. -/
theorem untrusted_of_run {calls : List ReadCall} {reached : Package}
    (untrusted : Untrusted package.buffer)
    (run : (packageReads package).Run package calls reached) :
    Untrusted reached.buffer ∧ reached.buffer.stream = package.buffer.stream := by
  induction run with
  | nil => exact ⟨untrusted, rfl⟩
  | snoc _ final ih =>
      obtain ⟨before, bytes⟩ := ih
      obtain ⟨rounds, reading, reads, rfl⟩ := final
      obtain ⟨expected, returns, inside⟩ := before.packageRead _
      rw [returns rounds] at reads
      cases reads
      exact ⟨inside.untrusted before, inside.stream.trans bytes⟩

/-- Every call in every sequence of calls on a received package returns, reads inside the bytes
that were received, keeps them, and moves the offset on by the encoded length or not at all. -/
theorem reads_stay_inside (fragmentation : Fragmentation) {connection after : Connection}
    {package : Package}
    (received : connection.packageReceive fragmentation = some (package, after))
    {calls : List ReadCall} {reached : Package}
    (run : (packageReads package).Run package calls reached) (call : ReadCall) :
    reached.buffer.stream = package.buffer.stream ∧
      reached.buffer.offset ≤ package.buffer.stream.length ∧
        ∃ reading, (∀ rounds, packageRead rounds reached call = some reading) ∧
          StaysInside reached.buffer (encodedLength reached.buffer call.kind) reading := by
  obtain ⟨untrusted, bytes⟩ := untrusted_of_run (untrusted_of_received received) run
  refine ⟨bytes, ?_, untrusted.packageRead call⟩
  rw [← bytes]
  exact untrusted.offset_le

/-- Eight bytes that declare a string of 2^32 - 1 bytes at first and, after a byte, one of
2^32 - 256: both reads fail, and the read between them moves on by its byte. -/
theorem reads_stay_inside_hostile :
    let package : Package := ⟨7, ⟨[255, 255, 255, 255, 0, 1, 2, 3], 0, false⟩⟩
    let reached : Package := ⟨7, ⟨[255, 255, 255, 255, 0, 1, 2, 3], 1, false⟩⟩
    reached.buffer.stream = package.buffer.stream ∧
      reached.buffer.offset ≤ package.buffer.stream.length ∧
        ∃ reading, (∀ rounds, packageRead rounds reached ⟨.string, true, true⟩ = some reading) ∧
          StaysInside reached.buffer (encodedLength reached.buffer .string) reading := by
  intro package reached
  have receives : (Connection.packageReceive (fun _ => 3)
      ⟨[7, 0, 0, 0, 8, 255, 255, 255, 255, 0, 1, 2, 3], 0⟩).map Prod.fst = some package := by
    decide +kernel
  obtain ⟨⟨_, after⟩, received, rfl⟩ := Option.map_eq_some_iff.mp receives
  have refuses : (packageRead 0 package ⟨.string, true, true⟩).map Reading.buffer =
      some package.buffer := by
    decide +kernel
  have passes : (packageRead 0 package ⟨.uint8, true, true⟩).map Reading.buffer =
      some reached.buffer := by
    decide +kernel
  obtain ⟨refused, reads, same⟩ := Option.map_eq_some_iff.mp refuses
  obtain ⟨passed, readsByte, moved⟩ := Option.map_eq_some_iff.mp passes
  have first : (packageReads package).Run package [⟨.string, true, true⟩] package :=
    TransitionSystem.Run.single ⟨0, refused, reads, by rw [same]⟩
  have second : (packageReads package).Run package [⟨.string, true, true⟩, ⟨.uint8, true, true⟩]
      reached := first.snoc ⟨0, passed, readsByte, by rw [moved]⟩
  exact reads_stay_inside (fun _ => 3) received second ⟨.string, true, true⟩

end Runs

end Words

end Serialization

end MasterOfFiles
