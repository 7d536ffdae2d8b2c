import Mathlib.Algebra.Ring.Nat
import MasterOfFiles.SerializationRoundTrip

/-!
# Reading a package with a sequence of calls

The `package_read_*` calls of a receiver are a reader that passes the package on from one call
to the next.  A reader yields a value from a list of fields when it returns the value on every
package in which these fields come next, and refuses the fields when it fails on all of these
packages.  A message whose fields may be sent, and that is not too large, is built, received, and
read by every reader that yields a value from its fields.
-/

namespace MasterOfFiles

namespace Serialization

open ByteStrings

/-- A sequence of `package_read_*` calls; `none` is a call that failed. -/
abbrev PackageReader : Type → Type := StateT Package Option

def packageReadUint8 : PackageReader UInt8 := fun package =>
  match package.read .uint8 with
  | some (.uint8 value, after) => some (value, after)
  | _ => none

def packageReadUint16 : PackageReader UInt16 := fun package =>
  match package.read .uint16 with
  | some (.uint16 value, after) => some (value, after)
  | _ => none

def packageReadUint32 : PackageReader UInt32 := fun package =>
  match package.read .uint32 with
  | some (.uint32 value, after) => some (value, after)
  | _ => none

def packageReadString : PackageReader (List UInt8) := fun package =>
  match package.read .string with
  | some (.string value, after) => some (value, after)
  | _ => none

/-- `package_read_data`, with the size as the length. -/
def packageReadData : PackageReader (List UInt8) := fun package =>
  match package.read .data with
  | some (.data value, after) => some (value, after)
  | _ => none

/-- `package_reset_read_offset` and `buffer_reset_offset`. -/
def Package.resetReadOffset (package : Package) : Package :=
  { package with buffer := { package.buffer with offset := 0 } }

/-- The reader returns the value on every package in which the fields come next, if all of them
may be sent. -/
def Yields {Value : Type} (reader : PackageReader Value) (fields : List Field)
    (value : Value) : Prop :=
  (∀ field ∈ fields, field.Transmissible) →
    ∀ package padding, package.buffer.ahead = fields.flatMap Field.encode ++ padding →
      ∃ after, reader package = some (value, after)

/-- The reader fails on every package in which the fields come next. -/
def Refuses {Value : Type} (reader : PackageReader Value) (fields : List Field) : Prop :=
  ∀ package padding, package.buffer.ahead = fields.flatMap Field.encode ++ padding →
    reader package = none

section Rules

variable {Value : Type} {fields : List Field} {value : Value}

theorem yields_pure : Yields (pure value) fields value :=
  fun _ package _ _ => ⟨package, rfl⟩

/-- The reader reads one field and goes on with the next ones. -/
theorem Yields.bind {Read : Type} {reader : PackageReader Read} {field : Field} {read : Read}
    {next : Read → PackageReader Value}
    (reads : ∀ package after, package.read field.kind = some (field, after) →
      reader package = some (read, after))
    (rest : Yields (next read) fields value) :
    Yields (reader >>= next) (field :: fields) value := by
  intro transmissible package padding ahead
  rw [List.flatMap_cons, List.append_assoc] at ahead
  obtain ⟨middle, readsFirst, aheadRest⟩ :=
    Package.read_of_ahead (transmissible field (List.mem_cons_self ..)) ahead
  obtain ⟨after, readsRest⟩ := rest
    (fun other member => transmissible other (List.mem_cons_of_mem field member))
    middle padding aheadRest
  refine ⟨after, ?_⟩
  change (reader package).bind (fun (read, middle) => next read middle) = some (value, after)
  rw [reads package middle readsFirst]
  exact readsRest

theorem Yields.uint8 {number : UInt8} {next : UInt8 → PackageReader Value}
    (rest : Yields (next number) fields value) :
    Yields (packageReadUint8 >>= next) (.uint8 number :: fields) value := by
  apply Yields.bind _ rest
  intro package after reads
  rw [Field.kind] at reads
  rw [packageReadUint8, reads]

theorem Yields.uint16 {number : UInt16} {next : UInt16 → PackageReader Value}
    (rest : Yields (next number) fields value) :
    Yields (packageReadUint16 >>= next) (.uint16 number :: fields) value := by
  apply Yields.bind _ rest
  intro package after reads
  rw [Field.kind] at reads
  rw [packageReadUint16, reads]

theorem Yields.uint32 {number : UInt32} {next : UInt32 → PackageReader Value}
    (rest : Yields (next number) fields value) :
    Yields (packageReadUint32 >>= next) (.uint32 number :: fields) value := by
  apply Yields.bind _ rest
  intro package after reads
  rw [Field.kind] at reads
  rw [packageReadUint32, reads]

theorem Yields.string {text : List UInt8} {next : List UInt8 → PackageReader Value}
    (rest : Yields (next text) fields value) :
    Yields (packageReadString >>= next) (.string text :: fields) value := by
  apply Yields.bind _ rest
  intro package after reads
  rw [Field.kind] at reads
  rw [packageReadString, reads]

theorem Yields.data {bytes : List UInt8} {next : List UInt8 → PackageReader Value}
    (rest : Yields (next bytes) fields value) :
    Yields (packageReadData >>= next) (.data bytes :: fields) value := by
  apply Yields.bind _ rest
  intro package after reads
  rw [Field.kind] at reads
  rw [packageReadData, reads]

/-- What is done when a call fails does not matter where none fails. -/
theorem Yields.orElse {reader other : PackageReader Value} (yields : Yields reader fields value) :
    Yields (reader <|> other) fields value := by
  intro transmissible package padding ahead
  obtain ⟨after, reads⟩ := yields transmissible package padding ahead
  refine ⟨after, ?_⟩
  change (reader package <|> other package) = some (value, after)
  rw [reads]
  rfl

/-- The reader reads a number and fails on the fields behind it. -/
theorem Refuses.uint32 {number : UInt32} {next : UInt32 → PackageReader Value}
    (rest : Refuses (next number) fields) :
    Refuses (packageReadUint32 >>= next) (.uint32 number :: fields) := by
  intro package padding ahead
  rw [List.flatMap_cons, List.append_assoc] at ahead
  have transmissible : (Field.uint32 number).Transmissible := trivial
  obtain ⟨middle, reads, aheadRest⟩ := Package.read_of_ahead transmissible ahead
  rw [Field.kind] at reads
  have first : packageReadUint32 package = some (number, middle) := by
    rw [packageReadUint32, reads]
  change (packageReadUint32 package).bind (fun both => next both.1 both.2) = none
  rw [first]
  exact rest middle padding aheadRest

theorem refuses_data {bytes : List UInt8} {next : List UInt8 → PackageReader Value}
    (long : maxDataSize < bytes.length) (counted : bytes.length < 2 ^ 32) :
    Refuses (packageReadData >>= next) (.data bytes :: fields) := by
  intro package padding ahead
  rw [List.flatMap_cons, List.append_assoc, Field.encode] at ahead
  obtain ⟨readsCount, count, -⟩ := Buffer.readCount_of_ahead counted ahead
  have refused : package.buffer.readData = none := by
    rw [Buffer.readData, readsCount]
    simp only [Option.bind_some, count]
    rw [if_pos long]
  have fails : packageReadData package = none := by
    simp [packageReadData, Package.read, refused]
  change (packageReadData package).bind (fun both => next both.1 both.2) = none
  rw [fails]
  rfl

end Rules

section Building

theorem doubled_le (steps size needed : Nat) :
    doubled steps size needed ≤ max size (2 * needed) := by
  induction steps generalizing size with
  | zero => exact Nat.le_max_left ..
  | succ steps ih =>
      rw [doubled]
      split
      · have further := ih (size * 2)
        omega
      · omega

theorem Buffer.Holds.hasRoom {buffer : Buffer} {written : List UInt8} {requiredSize : Nat}
    (holds : buffer.Holds written)
    (fits : 2 * (buffer.offset + requiredSize) ≤ maxBufferSize) :
    ∃ roomy, buffer.hasCapacity requiredSize = some roomy := by
  have bounded := holds.bounded
  have small := doubled_le (buffer.offset + requiredSize) buffer.stream.length
    (buffer.offset + requiredSize)
  unfold Buffer.hasCapacity
  split
  · simp only [Buffer.expand, holds.dynamic, Bool.not_true, Bool.false_eq_true, if_false]
    rw [if_neg (by omega)]
    exact ⟨_, rfl⟩
  · rename_i enough
    have room : requiredSize ≤ buffer.stream.length - buffer.offset := by
      simpa [holds.dynamic] using enough
    rw [if_pos room]
    exact ⟨buffer, rfl⟩

theorem Buffer.Holds.offset_eq {buffer : Buffer} {written : List UInt8}
    (holds : buffer.Holds written) : buffer.offset = written.length := by
  have inside := holds.offset_le
  rw [← holds.take, List.length_take]
  omega

theorem Buffer.Holds.writesBytes {buffer : Buffer} {written bytes : List UInt8}
    (holds : buffer.Holds written)
    (fits : 2 * (written.length + bytes.length) ≤ maxBufferSize) :
    ∃ after, buffer.writeBytes bytes = some after := by
  rw [← holds.offset_eq] at fits
  obtain ⟨roomy, has⟩ := holds.hasRoom fits
  exact ⟨roomy.put bytes, by rw [Buffer.writeBytes, has, Option.map_some]⟩

theorem Buffer.Holds.writesCounted {buffer : Buffer} {written value : List UInt8}
    (holds : buffer.Holds written)
    (fits : 2 * (written.length + (4 + value.length)) ≤ maxBufferSize) :
    ∃ after, ((buffer.hasCapacity (4 + value.length)).bind fun roomy =>
      (roomy.writeUint32 (UInt32.ofNat value.length)).map fun prefixed =>
        prefixed.put value) = some after := by
  rw [← holds.offset_eq] at fits
  obtain ⟨roomy, has⟩ := holds.hasRoom fits
  obtain ⟨-, room⟩ := holds.hasCapacity has
  have counted : roomy.writeUint32 (UInt32.ofNat value.length) =
      some (roomy.put (bigEndian 4 (UInt32.ofNat value.length).toNat)) := by
    rw [Buffer.writeUint32, Buffer.writeBytes, length_bigEndian,
      Buffer.hasCapacity_of_room (by omega), Option.map_some]
  rw [has, Option.bind_some, counted, Option.map_some]
  exact ⟨_, rfl⟩

/-- A field is added as long as the package is not too large. -/
theorem Package.add_of_fits {package : Package} {field : Field} {written : List UInt8}
    (holds : package.buffer.Holds written) (writable : field.Writable)
    (fits : 2 * (written.length + field.encode.length) ≤ maxBufferSize) :
    ∃ added, package.add field = some added := by
  have adds : ∀ {buffer : Option Buffer}, (∃ after, buffer = some after) →
      ∃ added, (buffer.map fun buffer => { package with buffer := buffer }) = some added := by
    rintro _ ⟨after, rfl⟩
    exact ⟨_, rfl⟩
  apply adds
  cases field with
  | uint8 value => exact holds.writesBytes fits
  | int8 value => exact holds.writesBytes fits
  | uint16 value => exact holds.writesBytes fits
  | uint32 value => exact holds.writesBytes fits
  | string value =>
      have count : (UInt32.ofNat value.length).toNat = value.length := by
        rw [UInt32.toNat_ofNat']
        exact Nat.mod_eq_of_lt writable.2
      rw [Field.encode, List.length_append, length_bigEndian] at fits
      simp only [Buffer.writeString, cString_eq_self writable.1, count, List.take_length]
      exact holds.writesCounted fits
  | data value =>
      have nonempty : ¬value.length = 0 := Nat.one_le_iff_ne_zero.mp writable
      rw [Field.encode, List.length_append, length_bigEndian] at fits
      simp only [Buffer.writeData, if_neg nonempty]
      exact holds.writesCounted fits

theorem Package.addAll_of_fits {fields : List Field} :
    ∀ {package : Package} {written : List UInt8}, package.buffer.Holds written →
      (∀ field ∈ fields, field.Writable) →
        2 * (written.length + (fields.flatMap Field.encode).length) ≤ maxBufferSize →
          ∃ filled, package.addAll fields = some filled := by
  induction fields with
  | nil =>
      intro package written holds writable fits
      exact ⟨package, rfl⟩
  | cons field fields ih =>
      intro package written holds writable fits
      rw [List.flatMap_cons, List.length_append] at fits
      have first := writable field (List.mem_cons_self ..)
      obtain ⟨added, adds⟩ := add_of_fits holds first (by omega)
      have after := (holds_add holds first adds).2
      obtain ⟨filled, addsRest⟩ := ih after
        (fun other member => writable other (List.mem_cons_of_mem field member))
        (by rw [List.length_append]; omega)
      exact ⟨filled, by rw [addAll, adds, Option.bind_some, addsRest]⟩

def FieldKind.most : FieldKind → Nat
  | .uint8 => 1
  | .int8 => 1
  | .uint16 => 2
  | .uint32 => 4
  | .string => 4 + maxStringLength
  | .data => 4 + maxDataSize

theorem Field.length_encode_le {field : Field} (transmissible : field.Transmissible) :
    field.encode.length ≤ field.kind.most := by
  cases field with
  | uint8 value => exact Nat.le_refl 1
  | int8 value => exact Nat.le_refl 1
  | uint16 value => exact Nat.le_of_eq (length_bigEndian ..)
  | uint32 value => exact Nat.le_of_eq (length_bigEndian ..)
  | string value =>
      rw [encode, List.length_append, length_bigEndian]
      exact Nat.add_le_add_left transmissible.2 4
  | data value =>
      rw [encode, List.length_append, length_bigEndian]
      exact Nat.add_le_add_left transmissible.2 4

theorem length_encode_le {fields : List Field}
    (transmissible : ∀ field ∈ fields, field.Transmissible) :
    (fields.flatMap Field.encode).length ≤ ((fields.map Field.kind).map FieldKind.most).sum := by
  induction fields with
  | nil => exact Nat.le_refl 0
  | cons field fields ih =>
      have first := Field.length_encode_le (transmissible field (List.mem_cons_self ..))
      have rest := ih fun other member => transmissible other (List.mem_cons_of_mem field member)
      rw [List.flatMap_cons, List.length_append, List.map_cons, List.map_cons, List.sum_cons]
      exact Nat.add_le_add first rest

/-- A buffer may still grow once it holds fields of these types, however long they are. -/
def Message.Small (message : Message) : Prop :=
  2 * ((message.fields.map Field.kind).map FieldKind.most).sum ≤ maxBufferSize

theorem Message.exists_build {message : Message} (transmissible : message.Transmissible)
    (small : message.Small) :
    ∃ package, message.build = some package := by
  apply Package.addAll_of_fits Buffer.holds_createDynamic transmissible.writable
  have short := length_encode_le transmissible
  rw [Small] at small
  rw [List.length_nil]
  omega

/-- The calls of a sender that does not look at what `package_add_*` returns. -/
def Package.addAllUnchecked (package : Package) (fields : List Field) : Package :=
  fields.foldl (fun package field => (package.add field).getD package) package

/-- `package_create_empty` and unchecked calls of `package_add_*`. -/
def Message.buildUnchecked (message : Message) : Package :=
  (Package.createEmpty message.operationCode).addAllUnchecked message.fields

theorem Package.addAllUnchecked_eq {fields : List Field} :
    ∀ {package filled : Package}, package.addAll fields = some filled →
      package.addAllUnchecked fields = filled := by
  induction fields with
  | nil =>
      intro package filled adds
      exact Option.some.inj adds
  | cons field fields ih =>
      intro package filled adds
      rw [addAll, Option.bind_eq_some_iff] at adds
      obtain ⟨added, addsFirst, addsRest⟩ := adds
      have rest := ih addsRest
      rwa [addAllUnchecked, List.foldl_cons, addsFirst]

theorem Message.buildUnchecked_eq {message : Message} {package : Package}
    (builds : message.build = some package) : message.buildUnchecked = package :=
  Package.addAllUnchecked_eq builds

end Building

section Delivering

variable {Value : Type} {message : Message} {value : Value}

/-- The package is built, and however `recv` cuts the stream that starts with it, the receiver
gets a package on which its calls return the value. -/
def Delivers (sent : Option Package) (receiver : PackageReader Value) (value : Value) : Prop :=
  ∃ package, sent = some package ∧
    ∀ (fragmentation : Fragmentation) (rest : List UInt8) (calls : Nat),
      ∃ received later after,
        Connection.packageReceive fragmentation ⟨package.send ++ rest, calls⟩ =
            some (received, ⟨rest, later⟩) ∧
          receiver received = some (value, after)

/-- A receiver that looks at the operation code first. -/
def byOperationCode (select : UInt8 → PackageReader Value) : PackageReader Value :=
  fun package => select package.operationCode package

def fromStart (reader : PackageReader Value) : PackageReader Value := fun package =>
  reader package.resetReadOffset

theorem fromStart_of_offset {reader : PackageReader Value} {package : Package}
    (fresh : package.buffer.offset = 0) : fromStart reader package = reader package := by
  have same : package.resetReadOffset = package := by
    rw [Package.resetReadOffset, ← fresh]
  rw [fromStart, same]

/-- The receiver of a message looks at its operation code and reads from the first field on. -/
theorem byOperationCode_eq {select : UInt8 → PackageReader Value} {reader : PackageReader Value}
    {received : Package} (code : received.operationCode = message.operationCode)
    (fresh : received.buffer.offset = 0)
    (selects : select message.operationCode = reader ∨
      select message.operationCode = fromStart reader) :
    byOperationCode select received = reader received := by
  rw [byOperationCode, code]
  cases selects with
  | inl plain => rw [plain]
  | inr resets =>
      rw [resets]
      exact fromStart_of_offset fresh

/-- What a receiver gets of a message that was built: its operation code, and its fields next to
be read. -/
theorem Message.receives {package : Package}
    (writable : ∀ field ∈ message.fields, field.Writable) (builds : message.build = some package)
    (fragmentation : Fragmentation) (rest : List UInt8) (calls : Nat) :
    ∃ received later padding,
      Connection.packageReceive fragmentation ⟨package.send ++ rest, calls⟩ =
          some (received, ⟨rest, later⟩) ∧
        received.operationCode = message.operationCode ∧ received.buffer.offset = 0 ∧
          received.buffer.ahead = message.fields.flatMap Field.encode ++ padding := by
  obtain ⟨code, holds⟩ := holds_build writable builds
  obtain ⟨later, receives⟩ := Connection.packageReceive_send fragmentation holds rest calls
  refine ⟨_, later, package.buffer.stream.drop package.buffer.offset, receives, code, rfl, ?_⟩
  rw [← holds.take, List.take_append_drop]
  rfl

/-- A message is delivered to a receiver whose calls for its operation code yield the value from
its fields, whether it starts over or not. -/
theorem Message.delivers {select : UInt8 → PackageReader Value} {reader : PackageReader Value}
    (selects : select message.operationCode = reader ∨
      select message.operationCode = fromStart reader)
    (yields : Yields reader message.fields value) (transmissible : message.Transmissible)
    (small : message.Small) :
    Delivers message.build (byOperationCode select) value := by
  obtain ⟨package, builds⟩ := exists_build transmissible small
  refine ⟨package, builds, ?_⟩
  intro fragmentation rest calls
  obtain ⟨received, later, padding, receives, code, fresh, ahead⟩ :=
    message.receives transmissible.writable builds fragmentation rest calls
  obtain ⟨after, reads⟩ := yields transmissible received padding ahead
  exact ⟨received, later, after, receives, (byOperationCode_eq code fresh selects).trans reads⟩

/-- A message is not delivered to a receiver whose calls for its operation code fail on its
fields. -/
theorem Message.not_delivers {select : UInt8 → PackageReader Value}
    {reader : PackageReader Value} (selects : select message.operationCode = reader ∨
      select message.operationCode = fromStart reader)
    (refuses : Refuses reader message.fields)
    (writable : ∀ field ∈ message.fields, field.Writable) :
    ¬ Delivers message.build (byOperationCode select) value := by
  rintro ⟨package, builds, arrives⟩
  obtain ⟨received, later, padding, receives, code, fresh, ahead⟩ :=
    message.receives writable builds (fun _ => 0) [] 0
  obtain ⟨other, laterOther, after, receivesOther, reads⟩ := arrives (fun _ => 0) [] 0
  obtain ⟨rfl, -⟩ := Prod.mk.inj (Option.some.inj (receives.symm.trans receivesOther))
  rw [byOperationCode_eq code fresh selects, refuses received padding ahead] at reads
  cases reads

theorem Message.delivers_unchecked {receiver : PackageReader Value}
    (delivers : Delivers message.build receiver value) :
    Delivers (some message.buildUnchecked) receiver value := by
  obtain ⟨package, builds, arrives⟩ := delivers
  exact ⟨package, congrArg some (buildUnchecked_eq builds), arrives⟩

/-- A receiver that goes on with what it has read unless a check refuses it. -/
def accepting {Read : Type} (reader : PackageReader Read) (check : Read → Option Value) :
    PackageReader Value := fun package =>
  (reader package).bind fun (read, after) => (check read).map fun value => (value, after)

theorem Delivers.unique {sent : Option Package} {receiver : PackageReader Value}
    {first second : Value} (delivers : Delivers sent receiver first)
    (again : Delivers sent receiver second) : first = second := by
  obtain ⟨package, sends, arrives⟩ := delivers
  obtain ⟨other, sendsOther, arrivesOther⟩ := again
  obtain rfl : package = other := Option.some.inj (sends.symm.trans sendsOther)
  obtain ⟨received, later, after, receives, reads⟩ := arrives (fun _ => 0) [] 0
  obtain ⟨receivedOther, laterOther, afterOther, receivesOther, readsOther⟩ :=
    arrivesOther (fun _ => 0) [] 0
  obtain ⟨rfl, -⟩ := Prod.mk.inj (Option.some.inj (receives.symm.trans receivesOther))
  exact (Prod.mk.inj (Option.some.inj (reads.symm.trans readsOther))).1

/-- What a receiver makes of a delivered value is what its check makes of it. -/
theorem Delivers.accepting_iff {Read : Type} {sent : Option Package}
    {reader : PackageReader Read} {read : Read} {check : Read → Option Value}
    (delivers : Delivers sent reader read) :
    Delivers sent (accepting reader check) value ↔ check read = some value := by
  obtain ⟨package, sends, arrives⟩ := delivers
  constructor
  · rintro ⟨other, sendsOther, accepts⟩
    obtain rfl : package = other := Option.some.inj (sends.symm.trans sendsOther)
    obtain ⟨received, later, after, receives, reads⟩ := arrives (fun _ => 0) [] 0
    obtain ⟨receivedOther, laterOther, afterOther, receivesOther, accepted⟩ :=
      accepts (fun _ => 0) [] 0
    obtain ⟨rfl, -⟩ := Prod.mk.inj (Option.some.inj (receives.symm.trans receivesOther))
    rw [accepting, reads, Option.bind_some, Option.map_eq_some_iff] at accepted
    obtain ⟨found, checks, same⟩ := accepted
    rw [checks, (Prod.mk.inj same).1]
  · intro checks
    refine ⟨package, sends, ?_⟩
    intro fragmentation rest calls
    obtain ⟨received, later, after, receives, reads⟩ := arrives fragmentation rest calls
    refine ⟨received, later, after, receives, ?_⟩
    rw [accepting, reads, Option.bind_some]
    change ((check read).map fun value => (value, after)) = some (value, after)
    rw [checks]
    rfl

end Delivering

end Serialization

end MasterOfFiles
