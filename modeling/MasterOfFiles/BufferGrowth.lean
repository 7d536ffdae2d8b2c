import Mathlib.Order.Bounds.Basic
import MasterOfFiles.SerializationRoundTrip
import MasterOfFiles.TransitionSystem

/-!
# The growth of a buffer in machine words

`buffer_expand` doubles a `size_t` until it covers another one, and nothing in the loop asks
whether the product or the sum wraps.  Here the buffers of `package_add_*` are followed in 64-bit
arithmetic, with every failing call and the buffer that it leaves behind.  A size is 256 times a
power of two, so the product wraps to zero, from where the loop would never end, only beyond
2^63.
-/

namespace MasterOfFiles

namespace Serialization

namespace Words

open ByteStrings

variable {buffer : Buffer} {package : Package} {rounds size needed requiredSize result : Nat}
  {reallocates : Bool}

section Definitions

/-- The loop of `buffer_expand`, for at most `rounds` tests of its condition; `none` when it goes
on. -/
def doubleSize : Nat → Nat → Nat → Option Nat
  | 0, _, _ => none
  | rounds + 1, newSize, needed =>
    if newSize < needed then doubleSize rounds (newSize * 2 % 2 ^ 64) needed else some newSize

def bufferExpand (rounds : Nat) (reallocates : Bool) (buffer : Buffer) (requiredSize : Nat) :
    Option (Bool × Buffer) :=
  if !buffer.isDynamic then some (false, buffer)
  else
    (doubleSize rounds buffer.stream.length ((buffer.offset + requiredSize) % 2 ^ 64)).map
      fun newSize =>
        if maxBufferSize < newSize ∨ !reallocates then (false, buffer)
        else
          (true, { buffer with
            stream := buffer.stream ++ List.replicate (newSize - buffer.stream.length) 0 })

/-- `buffer->size - buffer->offset`. -/
def remaining (buffer : Buffer) : Nat :=
  (buffer.stream.length + 2 ^ 64 - buffer.offset) % 2 ^ 64

def bufferHasCapacity (rounds : Nat) (reallocates : Bool) (buffer : Buffer)
    (requiredSize : Nat) : Option (Bool × Buffer) :=
  if buffer.isDynamic ∧ remaining buffer < requiredSize then
    bufferExpand rounds reallocates buffer requiredSize
  else some (decide (requiredSize ≤ remaining buffer), buffer)

def bufferWriteBytes (rounds : Nat) (reallocates : Bool) (buffer : Buffer) (bytes : List UInt8) :
    Option (Bool × Buffer) :=
  (bufferHasCapacity rounds reallocates buffer bytes.length).map fun (has, roomy) =>
    if has then (true, roomy.put bytes) else (false, roomy)

/-- The common end of `buffer_write_string` and `buffer_write_data`: room for a length and the
bytes, the length, and the bytes. -/
def bufferWriteCounted (rounds : Nat) (reallocates : Bool) (buffer : Buffer) (totalSize : Nat)
    (length : UInt32) (bytes : List UInt8) : Option (Bool × Buffer) :=
  (bufferHasCapacity rounds reallocates buffer totalSize).bind fun (has, roomy) =>
    if !has then some (false, roomy)
    else
      (bufferWriteBytes rounds reallocates roomy (bigEndian 4 length.toNat)).map
        fun (wrote, prefixed) => if wrote then (true, prefixed.put bytes) else (false, prefixed)

def bufferWriteString (rounds : Nat) (reallocates : Bool) (buffer : Buffer)
    (value : List UInt8) : Option (Bool × Buffer) :=
  let strLength := UInt32.ofNat (cString value).length
  bufferWriteCounted rounds reallocates buffer (4 + strLength.toNat) strLength
    ((cString value).take strLength.toNat)

def bufferWriteData (rounds : Nat) (reallocates : Bool) (buffer : Buffer) (value : List UInt8) :
    Option (Bool × Buffer) :=
  if value.length = 0 then some (false, buffer)
  else
    bufferWriteCounted rounds reallocates buffer ((4 + value.length) % 2 ^ 64)
      (UInt32.ofNat value.length) value

/-- The `package_add_*` function for a field: what it returns and the package after it. -/
def packageAdd (rounds : Nat) (reallocates : Bool) (package : Package) (field : Field) :
    Option (Bool × Package) :=
  (match field with
    | .uint8 value => bufferWriteBytes rounds reallocates package.buffer [value]
    | .int8 value => bufferWriteBytes rounds reallocates package.buffer [value.toUInt8]
    | .uint16 value => bufferWriteBytes rounds reallocates package.buffer (bigEndian 2 value.toNat)
    | .uint32 value => bufferWriteBytes rounds reallocates package.buffer (bigEndian 4 value.toNat)
    | .string value => bufferWriteString rounds reallocates package.buffer value
    | .data value => bufferWriteData rounds reallocates package.buffer value).map
      fun (added, after) => (added, { package with buffer := after })

/-- The bytes of a field form one object in memory, which has less than 2^63 bytes. -/
def InMemory : Field → Prop
  | .string value => value.length < 2 ^ 63
  | .data value => value.length < 2 ^ 63
  | _ => True

/-- The packages that `package_add_*` calls make of an empty one; each call adds a field or
fails, after some number of rounds. -/
def packageAdds : TransitionSystem Package (Field × Bool) where
  initial package := ∃ operationCode, package = Package.createEmpty operationCode
  step before call after := InMemory call.1 ∧
    ∃ rounds added, packageAdd rounds call.2 before call.1 = some (added, after)

end Definitions

section Doubling

def IsBlockSize (size : Nat) : Prop :=
  ∃ exponent, size = 256 * 2 ^ exponent

/-- The sizes that would hold what the buffer holds and the bytes to come. -/
def Covering (size needed : Nat) : Set Nat :=
  { newSize | IsBlockSize newSize ∧ size ≤ newSize ∧ needed ≤ newSize }

theorem IsBlockSize.double (block : IsBlockSize size) : IsBlockSize (size * 2) := by
  obtain ⟨exponent, rfl⟩ := block
  exact ⟨exponent + 1, by rw [Nat.pow_succ, Nat.mul_assoc]⟩

theorem IsBlockSize.double_le {other : Nat} (block : IsBlockSize size) (large : IsBlockSize other)
    (below : size < other) : size * 2 ≤ other := by
  obtain ⟨exponent, rfl⟩ := block
  obtain ⟨power, rfl⟩ := large
  have later : exponent < power := by
    by_contra earlier
    have shrinks : 2 ^ power ≤ 2 ^ exponent := Nat.pow_le_pow_right (by decide) (by omega)
    omega
  have grows : 2 ^ (exponent + 1) ≤ 2 ^ power := Nat.pow_le_pow_right (by decide) later
  rw [Nat.pow_succ] at grows
  omega

theorem isBlockSize_two_pow (exponent : Nat) : IsBlockSize (2 ^ (exponent + 8)) :=
  ⟨exponent, by rw [Nat.pow_add, Nat.mul_comm]⟩

theorem isBlockSize_positive (block : IsBlockSize size) : 0 < size := by
  obtain ⟨exponent, rfl⟩ := block
  exact Nat.mul_pos (by decide) (Nat.pow_pos (by decide))

theorem doubleSize_zero (positive : 0 < needed) (rounds : Nat) :
    doubleSize rounds 0 needed = none := by
  induction rounds with
  | zero => rfl
  | succ rounds ih =>
      rw [doubleSize, if_pos positive]
      exact ih

/-- While the size is too small, the sizes that cover are those from its double on. -/
theorem covering_double (block : IsBlockSize size) (small : size < needed) :
    Covering (size * 2) needed = Covering size needed := by
  ext newSize
  constructor
  · rintro ⟨newBlock, larger, covers⟩
    exact ⟨newBlock, by omega, covers⟩
  · rintro ⟨newBlock, larger, covers⟩
    exact ⟨newBlock, block.double_le newBlock (by omega), covers⟩

theorem doubleSize_isLeast (block : IsBlockSize size) (word : needed < 2 ^ 64)
    (ends : doubleSize rounds size needed = some result) :
    IsLeast (Covering size needed) result := by
  induction rounds generalizing size with
  | zero => cases ends
  | succ rounds ih =>
      rw [doubleSize] at ends
      split at ends
      · rename_i small
        have within := block.double_le (isBlockSize_two_pow 56) (by omega)
        by_cases wraps : size * 2 = 2 ^ 64
        · rw [wraps, Nat.mod_self, doubleSize_zero (by omega)] at ends
          cases ends
        · rw [Nat.mod_eq_of_lt (by omega)] at ends
          rw [← covering_double block small]
          exact ih block.double ends
      · rename_i enough
        cases ends
        constructor
        · exact ⟨block, Nat.le_refl _, by omega⟩
        · rintro newSize ⟨_, larger, _⟩
          exact larger

theorem doubleSize_ends {exponent : Nat} (fits : needed ≤ 2 ^ 63) (tested : 0 < rounds)
    (enough : 56 ≤ rounds + exponent) :
    ∃ result, doubleSize rounds (256 * 2 ^ exponent) needed = some result := by
  induction rounds generalizing exponent with
  | zero => omega
  | succ rounds ih =>
      rw [doubleSize]
      split
      · rename_i small
        have early : exponent < 55 := by
          by_contra late
          have grows : 2 ^ 55 ≤ 2 ^ exponent := Nat.pow_le_pow_right (by decide) (by omega)
          omega
        have within : 2 ^ (exponent + 1) ≤ 2 ^ 55 := Nat.pow_le_pow_right (by decide) early
        have doubled : 256 * 2 ^ exponent * 2 % 2 ^ 64 = 256 * 2 ^ (exponent + 1) := by
          rw [Nat.mul_assoc, ← Nat.pow_succ]
          omega
        rw [doubled]
        exact ih (by omega) (by omega)
      · exact ⟨_, rfl⟩

/-- However many rounds it is given, from 56 on the loop ends with the least size that covers. -/
theorem doubleSize_exact (block : IsBlockSize size) (fits : needed < 2 ^ 63) :
    ∃ newSize, IsLeast (Covering size needed) newSize ∧
      ∀ rounds, 56 ≤ rounds → doubleSize rounds size needed = some newSize := by
  have ends : ∀ rounds, 56 ≤ rounds → ∃ newSize, doubleSize rounds size needed = some newSize ∧
      IsLeast (Covering size needed) newSize := by
    intro rounds enough
    obtain ⟨exponent, rfl⟩ := block
    obtain ⟨newSize, ends⟩ := doubleSize_ends
      (Nat.le_of_lt fits) (by omega : 0 < rounds) (by omega)
    exact ⟨newSize, ends, doubleSize_isLeast ⟨exponent, rfl⟩ (by omega) ends⟩
  obtain ⟨newSize, _, least⟩ := ends 56 (Nat.le_refl 56)
  refine ⟨newSize, least, ?_⟩
  intro rounds enough
  obtain ⟨reached, reaches, reachedLeast⟩ := ends rounds enough
  rw [reaches, reachedLeast.unique least]

/-- Short of 2^63 the loop computes what it computes on natural numbers. -/
theorem doubled_of_doubleSize {steps : Nat} (fits : needed ≤ 2 ^ 63) (positive : 0 < size)
    (enough : needed ≤ steps + size) (ends : doubleSize rounds size needed = some result) :
    doubled steps size needed = result := by
  induction rounds generalizing size steps with
  | zero => cases ends
  | succ rounds ih =>
      rw [doubleSize] at ends
      cases steps with
      | zero =>
          rw [if_neg (by omega)] at ends
          exact Option.some.inj ends
      | succ steps =>
          rw [doubled]
          split at ends
          · rename_i small
            rw [Nat.mod_eq_of_lt (by omega)] at ends
            rw [if_pos small]
            exact ih (by omega) (by omega) ends
          · rename_i large
            rw [if_neg large]
            exact Option.some.inj ends

end Doubling

section Expanding

/-- A buffer as `package_add_*` leaves it. -/
structure Grown (buffer : Buffer) : Prop where
  dynamic : buffer.isDynamic = true
  blockSize : IsBlockSize buffer.stream.length
  bounded : buffer.stream.length ≤ maxBufferSize
  offset_le : buffer.offset ≤ buffer.stream.length

theorem grown_createDynamic : Grown Buffer.createDynamic where
  dynamic := rfl
  blockSize := ⟨0, Buffer.length_createDynamic⟩
  bounded := Buffer.holds_createDynamic.bounded
  offset_le := Nat.zero_le _

theorem Grown.holds (grown : Grown buffer) :
    buffer.Holds (buffer.stream.take buffer.offset) where
  dynamic := grown.dynamic
  positive := isBlockSize_positive grown.blockSize
  bounded := grown.bounded
  offset_le := grown.offset_le
  take := rfl

theorem bufferExpand_of_ends (dynamic : buffer.isDynamic = true)
    (ends : doubleSize rounds buffer.stream.length
      ((buffer.offset + requiredSize) % 2 ^ 64) = some size) :
    bufferExpand rounds reallocates buffer requiredSize =
      some (if maxBufferSize < size ∨ !reallocates then (false, buffer)
        else (true, { buffer with
          stream := buffer.stream ++ List.replicate (size - buffer.stream.length) 0 })) := by
  unfold bufferExpand
  rw [dynamic, ends]
  rfl

/-- An expansion that fails changes nothing, and one that succeeds makes room. -/
theorem Grown.bufferExpand {returned : Bool} {after : Buffer} (grown : Grown buffer)
    (room : buffer.offset + requiredSize < 2 ^ 64)
    (expands : bufferExpand rounds reallocates buffer requiredSize = some (returned, after)) :
    Grown after ∧ after.offset = buffer.offset ∧ (returned = false → after = buffer) ∧
      (returned = true → buffer.offset + requiredSize ≤ after.stream.length) := by
  have needed : (buffer.offset + requiredSize) % 2 ^ 64 = buffer.offset + requiredSize :=
    Nat.mod_eq_of_lt room
  unfold Words.bufferExpand at expands
  rw [grown.dynamic, needed] at expands
  obtain ⟨newSize, ends, result⟩ := Option.map_eq_some_iff.mp expands
  obtain ⟨newBlock, larger, covers⟩ :=
    (doubleSize_isLeast grown.blockSize room ends).1
  have inside := grown.offset_le
  split at result
  · cases result
    exact ⟨grown, rfl, fun _ => rfl, fun impossible => by cases impossible⟩
  · rename_i small
    rw [not_or] at small
    cases result
    have length : (buffer.stream ++
        List.replicate (newSize - buffer.stream.length) (0 : UInt8)).length = newSize := by
      rw [List.length_append, List.length_replicate]
      omega
    refine ⟨⟨rfl, ?_, ?_, ?_⟩, rfl, fun impossible => (by cases impossible), fun _ => ?_⟩
    · rw [length]
      exact newBlock
    · rw [length]
      omega
    · rw [length]
      exact Nat.le_trans inside larger
    · rw [length]
      exact covers

theorem remaining_eq (grown : Grown buffer) :
    remaining buffer = buffer.stream.length - buffer.offset := by
  have bounded := Nat.lt_of_le_of_lt grown.bounded maxBufferSize_lt
  have inside := grown.offset_le
  unfold remaining
  omega

theorem Grown.bufferHasCapacity {returned : Bool} {after : Buffer} (grown : Grown buffer)
    (room : buffer.offset + requiredSize < 2 ^ 64)
    (has : bufferHasCapacity rounds reallocates buffer requiredSize = some (returned, after)) :
    Grown after ∧ after.offset = buffer.offset ∧ (returned = false → after = buffer) ∧
      (returned = true → buffer.offset + requiredSize ≤ after.stream.length) := by
  have inside := grown.offset_le
  unfold Words.bufferHasCapacity at has
  split at has
  · exact grown.bufferExpand room has
  · cases has
    refine ⟨grown, rfl, fun _ => rfl, ?_⟩
    rw [remaining_eq grown, decide_eq_true_eq]
    omega

theorem Grown.put {bytes : List UInt8} (grown : Grown buffer)
    (room : buffer.offset + bytes.length ≤ buffer.stream.length) : Grown (buffer.put bytes) := by
  have length := length_patch room
  refine ⟨grown.dynamic, ?_, ?_, ?_⟩
  · rw [Buffer.put, length]
    exact grown.blockSize
  · rw [Buffer.put, length]
    exact grown.bounded
  · rw [Buffer.put, length]
    exact room

theorem Grown.offset_lt (grown : Grown buffer) : buffer.offset < 2 ^ 32 := by
  have inside := grown.offset_le
  have bounded := Nat.lt_of_le_of_lt grown.bounded maxBufferSize_lt
  omega

/-- A write that fails changes nothing, and one that succeeds moves the offset over its bytes. -/
theorem Grown.bufferWriteBytes {returned : Bool} {after : Buffer} {bytes : List UInt8}
    (grown : Grown buffer)
    (wrote : bufferWriteBytes rounds reallocates buffer bytes = some (returned, after))
    (short : bytes.length < 2 ^ 63) :
    Grown after ∧ (returned = false → after = buffer) := by
  have start := grown.offset_lt
  obtain ⟨⟨has, roomy⟩, capacity, result⟩ := Option.map_eq_some_iff.mp wrote
  obtain ⟨roomyGrown, offset, unchanged, room⟩ :=
    grown.bufferHasCapacity (by omega) capacity
  cases has with
  | false =>
      cases result
      exact ⟨roomyGrown, unchanged⟩
  | true =>
      cases result
      have enough := room rfl
      refine ⟨roomyGrown.put ?_, fun impossible => by cases impossible⟩
      rw [offset]
      exact enough

/-- A counted write that fails changes nothing; there is room for the length once there is room
for all of it. -/
theorem Grown.bufferWriteCounted {returned : Bool} {after : Buffer} {bytes : List UInt8}
    {totalSize : Nat} {length : UInt32} (grown : Grown buffer) (short : totalSize < 2 ^ 63 + 4)
    (total : 4 + bytes.length = totalSize)
    (wrote : bufferWriteCounted rounds reallocates buffer totalSize length bytes =
      some (returned, after)) : Grown after ∧ (returned = false → after = buffer) := by
  have start := grown.offset_lt
  obtain ⟨⟨has, roomy⟩, capacity, rest⟩ := Option.bind_eq_some_iff.mp wrote
  obtain ⟨roomyGrown, offset, unchanged, room⟩ :=
    grown.bufferHasCapacity (by omega) capacity
  cases has with
  | false =>
      cases rest
      exact ⟨roomyGrown, unchanged⟩
  | true =>
      have enough := room rfl
      have counts : ¬ (roomy.isDynamic = true ∧ remaining roomy < 4) := by
        rw [remaining_eq roomyGrown]
        omega
      have fits : decide (4 ≤ remaining roomy) = true := by
        rw [remaining_eq roomyGrown, decide_eq_true_eq]
        omega
      simp only [Bool.not_true, Bool.false_eq_true, if_false, Words.bufferWriteBytes,
        Words.bufferHasCapacity, length_bigEndian, if_neg counts, fits, Option.map_some,
        if_true, Option.some.injEq, Prod.mk.injEq] at rest
      obtain ⟨rfl, rfl⟩ := rest
      have prefixed : roomy.offset + (bigEndian 4 length.toNat).length ≤
          roomy.stream.length := by
        rw [length_bigEndian]
        omega
      refine ⟨(roomyGrown.put prefixed).put ?_, fun impossible => by cases impossible⟩
      simp only [Buffer.put, length_patch prefixed, length_bigEndian]
      omega

/-- The step lemma: a `package_add_*` call that returns leaves a grown buffer, and the old one
when it fails. -/
theorem Grown.packageAdd {returned : Bool} {after : Package} {field : Field}
    (grown : Grown package.buffer) (inMemory : InMemory field)
    (adds : packageAdd rounds reallocates package field = some (returned, after)) :
    Grown after.buffer ∧ (returned = false → after = package) := by
  obtain ⟨⟨added, changed⟩, wrote, result⟩ := Option.map_eq_some_iff.mp adds
  cases result
  suffices kept : Grown changed ∧ (returned = false → changed = package.buffer) by
    refine ⟨kept.1, fun failed => ?_⟩
    rw [kept.2 failed]
  cases field with
  | uint8 value => exact grown.bufferWriteBytes wrote (by simp)
  | int8 value => exact grown.bufferWriteBytes wrote (by simp)
  | uint16 value => exact grown.bufferWriteBytes wrote (by simp)
  | uint32 value => exact grown.bufferWriteBytes wrote (by simp)
  | string value =>
      have word := (UInt32.ofNat (cString value).length).toNat_lt
      have count : (UInt32.ofNat (cString value).length).toNat ≤ (cString value).length := by
        rw [UInt32.toNat_ofNat']
        exact Nat.mod_le _ _
      refine grown.bufferWriteCounted (by omega) ?_ wrote
      rw [List.length_take, Nat.min_eq_left count]
  | data value =>
      have short : value.length < 2 ^ 63 := inMemory
      have total : (4 + value.length) % 2 ^ 64 = 4 + value.length := Nat.mod_eq_of_lt (by omega)
      dsimp only [Words.bufferWriteData] at wrote
      split at wrote
      · cases wrote
        exact ⟨grown, fun _ => rfl⟩
      · rw [total] at wrote
        exact grown.bufferWriteCounted (by omega) rfl wrote

theorem grown_of_reachable (reachable : packageAdds.Reachable package) : Grown package.buffer := by
  apply reachable.invariant
  · rintro start ⟨operationCode, rfl⟩
    exact grown_createDynamic
  · rintro before ⟨field, reallocates⟩ after grown ⟨inMemory, rounds, added, adds⟩
    exact (grown.packageAdd inMemory adds).1

end Expanding

section Agreement

/-- A call on natural numbers as a call in machine words: it leaves the old value behind where it
fails. -/
def outcome {Value : Type} (before : Value) : Option Value → Bool × Value
  | some after => (true, after)
  | none => (false, before)

theorem bufferExpand_eq_expand (grown : Grown buffer) (fits : buffer.offset + requiredSize < 2 ^ 63)
    (enough : 56 ≤ rounds) : bufferExpand rounds true buffer requiredSize =
      some (outcome buffer (buffer.expand requiredSize)) := by
  have needed : (buffer.offset + requiredSize) % 2 ^ 64 = buffer.offset + requiredSize :=
    Nat.mod_eq_of_lt (by omega)
  obtain ⟨newSize, _, ends⟩ := doubleSize_exact grown.blockSize fits
  have computed := doubled_of_doubleSize (Nat.le_of_lt fits)
    (isBlockSize_positive grown.blockSize) (Nat.le_add_right _ _) (ends rounds enough)
  have loop := ends rounds enough
  rw [← needed] at loop
  rw [bufferExpand_of_ends grown.dynamic loop, Buffer.expand, grown.dynamic]
  simp only [Bool.not_true, Bool.false_eq_true, if_false, or_false, computed]
  by_cases large : maxBufferSize < newSize
  · rw [if_pos large, if_pos large]
    rfl
  · rw [if_neg large, if_neg large]
    rfl

theorem bufferHasCapacity_eq_hasCapacity (grown : Grown buffer)
    (fits : buffer.offset + requiredSize < 2 ^ 63) (enough : 56 ≤ rounds) :
    bufferHasCapacity rounds true buffer requiredSize =
      some (outcome buffer (buffer.hasCapacity requiredSize)) := by
  rw [bufferHasCapacity, Buffer.hasCapacity, remaining_eq grown]
  split
  · exact bufferExpand_eq_expand grown fits enough
  · by_cases room : requiredSize ≤ buffer.stream.length - buffer.offset
    · rw [if_pos room, decide_eq_true room]
      rfl
    · rw [if_neg room, decide_eq_false room]
      rfl

theorem bufferWriteBytes_eq_writeBytes {bytes : List UInt8} (grown : Grown buffer)
    (short : bytes.length < 2 ^ 62) (enough : 56 ≤ rounds) :
    bufferWriteBytes rounds true buffer bytes =
      some (outcome buffer (buffer.writeBytes bytes)) := by
  have start := grown.offset_lt
  rw [bufferWriteBytes, bufferHasCapacity_eq_hasCapacity grown (by omega) enough,
    Buffer.writeBytes]
  cases buffer.hasCapacity bytes.length with
  | none => rfl
  | some roomy => rfl

theorem bufferWriteCounted_eq {totalSize : Nat} {length : UInt32} {bytes : List UInt8}
    (grown : Grown buffer) (total : 4 + bytes.length = totalSize) (short : totalSize < 2 ^ 62)
    (enough : 56 ≤ rounds) :
    bufferWriteCounted rounds true buffer totalSize length bytes =
      some (outcome buffer ((buffer.hasCapacity totalSize).bind fun roomy =>
        (roomy.writeUint32 length).map fun prefixed => prefixed.put bytes)) := by
  have start := grown.offset_lt
  have capacity := bufferHasCapacity_eq_hasCapacity grown
    (by omega : buffer.offset + totalSize < 2 ^ 63) enough
  rw [bufferWriteCounted, capacity]
  cases has : buffer.hasCapacity totalSize with
  | none => rfl
  | some roomy =>
      rw [has] at capacity
      obtain ⟨roomyGrown, offset, _, room⟩ := grown.bufferHasCapacity (by omega) capacity
      have fits := room rfl
      have counts : (bigEndian 4 length.toNat).length < 2 ^ 62 := by
        rw [length_bigEndian]
        decide
      have written : roomy.hasCapacity (bigEndian 4 length.toNat).length = some roomy := by
        apply Buffer.hasCapacity_of_room
        rw [length_bigEndian]
        omega
      simp only [Option.bind_some, outcome, Bool.not_true, Bool.false_eq_true, if_false,
        bufferWriteBytes_eq_writeBytes roomyGrown counts enough, Buffer.writeUint32,
        Buffer.writeBytes, written, Option.map_some, if_true]

/-- On fields that fit in memory many times over, the calls in machine words and the calls on
natural numbers are the same. -/
theorem packageAdd_eq_add {field : Field} (grown : Grown package.buffer)
    (small : ∀ value, field = .string value ∨ field = .data value → value.length < 2 ^ 61)
    (enough : 56 ≤ rounds) :
    packageAdd rounds true package field = some (outcome package (package.add field)) := by
  have lifts : ∀ wrote : Option Buffer,
      (some (outcome package.buffer wrote)).map
          (fun (added, after) => (added, { package with buffer := after })) =
        some (outcome package (wrote.map fun after => { package with buffer := after })) := by
    intro wrote
    cases wrote with
    | none => rfl
    | some after => rfl
  unfold packageAdd Package.add
  rw [← lifts]
  congr 1
  cases field with
  | uint8 value => exact bufferWriteBytes_eq_writeBytes grown (by simp) enough
  | int8 value => exact bufferWriteBytes_eq_writeBytes grown (by simp) enough
  | uint16 value => exact bufferWriteBytes_eq_writeBytes grown (by simp) enough
  | uint32 value => exact bufferWriteBytes_eq_writeBytes grown (by simp) enough
  | string value =>
      have word := (UInt32.ofNat (cString value).length).toNat_lt
      have count : (UInt32.ofNat (cString value).length).toNat ≤ (cString value).length := by
        rw [UInt32.toNat_ofNat']
        exact Nat.mod_le _ _
      refine bufferWriteCounted_eq grown ?_ (by omega) enough
      rw [List.length_take, Nat.min_eq_left count]
  | data value =>
      have short := small value (Or.inr rfl)
      have total : (4 + value.length) % 2 ^ 64 = 4 + value.length := Nat.mod_eq_of_lt (by omega)
      dsimp only [bufferWriteData, Buffer.writeData]
      by_cases empty : value.length = 0
      · rw [if_pos empty, if_pos empty]
        rfl
      · rw [if_neg empty, if_neg empty, total]
        exact bufferWriteCounted_eq grown rfl (by omega) enough

end Agreement

section Results

/-- What `buffer_expand` does to a buffer of a block size: the new size is the least one that
covers, and the call fails exactly when that is larger than `MAX_BUFFER_SIZE`. -/
structure ExpandsExactly (buffer : Buffer) (requiredSize newSize : Nat) (returned : Bool)
    (after : Buffer) : Prop where
  least : IsLeast (Covering buffer.stream.length (buffer.offset + requiredSize)) newSize
  succeeds : returned = true ↔ newSize ≤ maxBufferSize
  grows : returned = true → after.stream.length = newSize
  keeps : returned = true → after.stream.take buffer.stream.length = buffer.stream
  zeros : returned = true → ∀ byte ∈ after.stream.drop buffer.stream.length, byte = 0
  same : returned = true → after.offset = buffer.offset ∧ after.isDynamic = buffer.isDynamic
  fails : returned = false → after = buffer

theorem bufferExpand_exactly (dynamic : buffer.isDynamic = true)
    (block : IsBlockSize buffer.stream.length)
    (fits : buffer.offset + requiredSize < 2 ^ 63) :
    ∃ newSize returned after, ExpandsExactly buffer requiredSize newSize returned after ∧
      ∀ rounds, 56 ≤ rounds →
        bufferExpand rounds true buffer requiredSize = some (returned, after) := by
  have needed : (buffer.offset + requiredSize) % 2 ^ 64 = buffer.offset + requiredSize :=
    Nat.mod_eq_of_lt (by omega)
  obtain ⟨newSize, least, ends⟩ := doubleSize_exact block fits
  rw [← needed] at ends
  have larger : buffer.stream.length ≤ newSize := least.1.2.1
  by_cases small : newSize ≤ maxBufferSize
  · refine ⟨newSize, true, { buffer with
      stream := buffer.stream ++ List.replicate (newSize - buffer.stream.length) 0 }, ?_, ?_⟩
    · constructor
      · exact least
      · simpa using small
      · intro _
        rw [List.length_append, List.length_replicate]
        omega
      · intro _
        exact List.take_left
      · intro _ byte member
        rw [List.drop_left] at member
        exact List.eq_of_mem_replicate member
      · intro _
        exact ⟨rfl, rfl⟩
      · intro impossible
        cases impossible
    · intro rounds enough
      have accepted : ¬ (maxBufferSize < newSize ∨ (!true) = true) := by
        rw [not_or]
        exact ⟨by omega, by decide⟩
      rw [bufferExpand_of_ends dynamic (ends rounds enough), if_neg accepted]
  · refine ⟨newSize, false, buffer, ?_, ?_⟩
    · constructor
      · exact least
      · simpa using small
      all_goals simp
    · intro rounds enough
      have refused : maxBufferSize < newSize ∨ (!true) = true := Or.inl (by omega)
      rw [bufferExpand_of_ends dynamic (ends rounds enough), if_pos refused]

/-- The buffer of a package that `package_add_*` made has a block size, and its package is
received. -/
structure Received (package : Package) : Prop where
  blockSize : IsBlockSize package.buffer.stream.length
  bounded : package.buffer.stream.length ≤ maxBufferSize
  accepted : ∀ fragmentation rest calls, ∃ later,
    Connection.packageReceive fragmentation ⟨package.send ++ rest, calls⟩ =
      some (⟨package.operationCode, ⟨package.buffer.stream, 0, false⟩⟩, ⟨rest, later⟩)

/-- `buffer_expand` always ends and is exact, and every package that `package_add_*` calls make
is one that `package_receive` accepts. -/
theorem buffers_grow_exactly :
    (∀ (buffer : Buffer) (requiredSize : Nat), buffer.isDynamic = true →
      IsBlockSize buffer.stream.length → buffer.offset ≤ buffer.stream.length →
        buffer.offset + requiredSize < 2 ^ 63 →
          ∃ newSize returned after, ExpandsExactly buffer requiredSize newSize returned after ∧
            ∀ rounds, 56 ≤ rounds →
              bufferExpand rounds true buffer requiredSize = some (returned, after)) ∧
      ∀ package, packageAdds.Reachable package → Received package := by
  constructor
  · intro buffer requiredSize dynamic block _ fits
    exact bufferExpand_exactly dynamic block fits
  · intro package reachable
    have grown := grown_of_reachable reachable
    refine ⟨grown.blockSize, grown.bounded, ?_⟩
    intro fragmentation rest calls
    exact Connection.packageReceive_send fragmentation grown.holds rest calls

end Results

end Words

end Serialization

end MasterOfFiles
