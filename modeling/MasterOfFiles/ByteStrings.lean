import Mathlib.Algebra.Group.Nat.Defs
import Mathlib.Data.List.Basic

/-!
# Byte strings

Network byte order for numbers of any width, overwriting a range of a byte string in place, and
strings whose characters are bytes.
-/

namespace MasterOfFiles

namespace ByteStrings

/-- The last `width` bytes of a number, the most significant first. -/
def bigEndian : Nat → Nat → List UInt8
  | 0, _ => []
  | width + 1, value => bigEndian width (value / 256) ++ [UInt8.ofNat value]

/-- The number that a byte string stands for. -/
def ofBigEndian (bytes : List UInt8) : Nat :=
  bytes.foldl (fun value byte => value * 256 + byte.toNat) 0

@[simp]
theorem length_bigEndian (width value : Nat) : (bigEndian width value).length = width := by
  induction width generalizing value with
  | zero => rfl
  | succ width ih => simp [bigEndian, ih]

theorem ofBigEndian_bigEndian {width value : Nat} (fits : value < 256 ^ width) :
    ofBigEndian (bigEndian width value) = value := by
  induction width generalizing value with
  | zero =>
      rw [Nat.pow_zero] at fits
      simp only [bigEndian, ofBigEndian, List.foldl_nil]
      omega
  | succ width ih =>
      have shorter : value / 256 < 256 ^ width := by
        rw [Nat.div_lt_iff_lt_mul (by decide)]
        exact fits
      have rest := ih shorter
      unfold ofBigEndian at rest ⊢
      rw [bigEndian, List.foldl_append, rest]
      simp only [List.foldl_cons, List.foldl_nil, UInt8.toNat_ofNat']
      omega

def patch (stream : List UInt8) (offset : Nat) (bytes : List UInt8) : List UInt8 :=
  stream.take offset ++ bytes ++ stream.drop (offset + bytes.length)

theorem length_patch {stream bytes : List UInt8} {offset : Nat}
    (fits : offset + bytes.length ≤ stream.length) :
    (patch stream offset bytes).length = stream.length := by
  simp [patch]
  omega

/-- Up to the end of what was written stand the bytes before and the bytes written. -/
theorem take_patch {stream bytes : List UInt8} {offset : Nat}
    (fits : offset + bytes.length ≤ stream.length) :
    (patch stream offset bytes).take (offset + bytes.length) = stream.take offset ++ bytes := by
  have ends : (stream.take offset ++ bytes).length = offset + bytes.length := by
    simp
    omega
  rw [patch, ← ends, List.take_left]

def stringBytes (text : String) : List UInt8 :=
  text.toList.map fun character => UInt8.ofNat character.toNat

def bytesText (data : List UInt8) : String :=
  String.ofList (data.map fun byte => Char.ofNat byte.toNat)

theorem toNat_ofNat_byte (byte : UInt8) : (Char.ofNat byte.toNat).toNat = byte.toNat := by
  have small : byte.toNat < 256 := byte.toNat_lt
  have valid : byte.toNat.isValidChar := Or.inl (by omega)
  rw [Char.ofNat, dif_pos valid]
  rfl

theorem stringBytes_bytesText (data : List UInt8) : stringBytes (bytesText data) = data := by
  have each : (fun byte : UInt8 => UInt8.ofNat (Char.ofNat byte.toNat).toNat) = id := by
    funext byte
    rw [toNat_ofNat_byte, UInt8.ofNat_toNat]
    rfl
  rw [stringBytes, bytesText, String.toList_ofList, List.map_map]
  exact (congrArg (fun change => data.map change) each).trans (List.map_id data)

end ByteStrings

end MasterOfFiles
