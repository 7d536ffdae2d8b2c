import Mathlib.Algebra.Group.Int.Defs
import Mathlib.Algebra.Group.Nat.Defs
import Mathlib.Data.List.TakeWhile

/-!
# Numbers as decimal text

The `%d` of `printf` and the `atoi` that reads it back, on every `int`.
-/

namespace MasterOfFiles

namespace DecimalText

def isSpace (character : Char) : Bool :=
  character = ' ' ∨ (9 ≤ character.toNat ∧ character.toNat ≤ 13)

def leadingDigits (text : List Char) : Nat :=
  Nat.ofDigitChars 10 (text.takeWhile Char.isDigit) 0

/-- `atoi`, which narrows a `long` that stops at its bounds. -/
def atoi (text : String) : Int32 :=
  match text.toList.dropWhile isSpace with
  | '-' :: digits => Int32.ofInt (max (-2 ^ 63) (-leadingDigits digits))
  | '+' :: digits => Int32.ofInt (min (2 ^ 63 - 1) (leadingDigits digits))
  | digits => Int32.ofInt (min (2 ^ 63 - 1) (leadingDigits digits))

def formatInt (value : Int32) : String :=
  if value.toInt < 0 then String.ofList ('-' :: Nat.toDigits 10 value.toInt.natAbs)
  else value.toInt.natAbs.repr

theorem isDigit_of_mem {number : Nat} {character : Char}
    (member : character ∈ Nat.toDigits 10 number) : character.isDigit = true :=
  Nat.isDigit_of_mem_toDigits (by decide) (by decide) member

theorem leadingDigits_toDigits (number : Nat) :
    leadingDigits (Nat.toDigits 10 number) = number := by
  have all : (Nat.toDigits 10 number).takeWhile Char.isDigit = Nat.toDigits 10 number :=
    List.takeWhile_eq_self_iff.mpr fun _ member => isDigit_of_mem member
  rw [leadingDigits, all, Nat.ofDigitChars_ten_toDigits]

theorem isSpace_of_isDigit {character : Char} (digit : character.isDigit = true) :
    isSpace character = false := by
  by_contra space
  have blank : isSpace character = true := by simpa using space
  have range : 48 ≤ character.toNat ∧ character.toNat ≤ 57 := by
    simpa [Char.isDigit, Char.le_def, UInt32.le_iff_toNat_le] using digit
  rcases of_decide_eq_true blank with rfl | control
  · revert range
    decide
  · omega

/-- A number without sign is read as it was printed. -/
theorem atoi_repr {number : Nat} (small : number < 2 ^ 31) :
    atoi number.repr = Int32.ofNat number := by
  obtain ⟨first, rest, split⟩ := List.exists_cons_of_ne_nil
    (Nat.toDigits_ne_nil : Nat.toDigits 10 number ≠ [])
  have firstDigit : first.isDigit = true := isDigit_of_mem (by rw [split]; simp)
  have trimmed : (first :: rest).dropWhile isSpace = first :: rest := by
    rw [List.dropWhile_cons, isSpace_of_isDigit firstDigit]
    rfl
  have value : leadingDigits (first :: rest) = number := by
    rw [← split, leadingDigits_toDigits]
  have narrow : min (2 ^ 63 - 1) (number : Int) = number := by omega
  unfold atoi
  rw [Nat.toList_repr, split, trimmed]
  split
  · rename_i same
    rw [(List.cons.inj same).1] at firstDigit
    exact absurd firstDigit (by decide)
  · rename_i same
    rw [(List.cons.inj same).1] at firstDigit
    exact absurd firstDigit (by decide)
  · rw [value, narrow]
    rfl

theorem atoi_formatInt (value : Int32) : atoi (formatInt value) = value := by
  have lower := value.le_toInt
  have upper := value.toInt_lt
  unfold formatInt
  split
  · have trimmed : ('-' :: Nat.toDigits 10 value.toInt.natAbs).dropWhile isSpace =
        '-' :: Nat.toDigits 10 value.toInt.natAbs := rfl
    have narrow : max (-2 ^ 63) (-(value.toInt.natAbs : Int)) = value.toInt := by omega
    unfold atoi
    rw [String.toList_ofList, trimmed]
    split
    · rename_i same
      rw [← (List.cons.inj same).2, leadingDigits_toDigits, narrow, Int32.ofInt_toInt]
    · rename_i same
      exact absurd (List.cons.inj same).1 (by decide)
    · rename_i other _
      exact absurd rfl (other _)
  · rw [atoi_repr (by omega)]
    apply Int32.toInt_inj.mp
    rw [Int32.toInt_ofNat_of_lt (by omega)]
    omega

theorem mem_repr {number : Nat} {character : Char} (member : character ∈ number.repr.toList) :
    character.isDigit = true := by
  rw [Nat.toList_repr] at member
  exact isDigit_of_mem member

theorem repr_ne_empty (number : Nat) : number.repr ≠ "" := by
  intro empty
  have digits := congrArg String.toList empty
  rw [Nat.toList_repr] at digits
  exact Nat.toDigits_ne_nil digits

theorem mem_formatInt {value : Int32} {character : Char}
    (member : character ∈ (formatInt value).toList) :
    character = '-' ∨ character.isDigit = true := by
  unfold formatInt at member
  split at member
  · rw [String.toList_ofList, List.mem_cons] at member
    exact member.imp id isDigit_of_mem
  · exact Or.inr (mem_repr member)

theorem formatInt_ne_empty (value : Int32) : formatInt value ≠ "" := by
  unfold formatInt
  split
  · intro empty
    have characters := congrArg String.toList empty
    rw [String.toList_ofList] at characters
    cases characters
  · exact repr_ne_empty _

end DecimalText

end MasterOfFiles
