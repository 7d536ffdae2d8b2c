import MasterOfFiles.StorageRequests
import Mathlib.Data.List.TakeWhile

/-!
# The names of the physical blocks

`blocks_hash_index.config` maps a hash to the name `block%04d` of a physical block.
`deduplicate_blocks` compares names as strings, links through the path that holds a name and
frees the number that `sscanf` reads in it.  Names and numbers determine each other, so the loop
does with names what `deduplicateBlock` does with numbers.
-/

namespace MasterOfFiles

namespace Storage

def fourDigits (number : Nat) : List Char :=
  List.replicate (4 - (Nat.toDigits 10 number).length) '0' ++ Nat.toDigits 10 number

def blockName (physical : Nat) : List Char :=
  ['b', 'l', 'o', 'c', 'k'] ++ fourDigits physical

/-- What `sscanf` reads with `%d` in front of a text without leading blanks; the numbers in use
are those of blocks, which are too small to overflow. -/
def scanDecimal (text : List Char) : Option Int :=
  let number (digits : List Char) : Option Int :=
    if digits.takeWhile Char.isDigit = [] then none
    else some (Nat.ofDigitChars 10 (digits.takeWhile Char.isDigit) 0)
  match text with
  | '-' :: digits => (number digits).map (- ·)
  | '+' :: digits => number digits
  | digits => number digits

def getPhysicalBlockNumber : List Char → Int
  | 'b' :: 'l' :: 'o' :: 'c' :: 'k' :: digits => (scanDecimal digits).getD (-1)
  | _ => -1

theorem isDigit_of_mem_fourDigits {number : Nat} {character : Char}
    (member : character ∈ fourDigits number) : character.isDigit = true := by
  rcases List.mem_append.mp member with padding | digit
  · rw [List.eq_of_mem_replicate padding]
    rfl
  · exact Nat.isDigit_of_mem_toDigits (by decide) (by decide) digit

theorem fourDigits_ne_nil (number : Nat) : fourDigits number ≠ [] := by
  simp [fourDigits, Nat.toDigits_ne_nil]

@[simp]
theorem ofDigitChars_fourDigits (number : Nat) :
    Nat.ofDigitChars 10 (fourDigits number) 0 = number := by
  simp [fourDigits, Nat.ofDigitChars_append, Nat.ofDigitChars_replicate_zero]

theorem scanDecimal_fourDigits (number : Nat) :
    scanDecimal (fourDigits number) = some (number : Int) := by
  have digits : (fourDigits number).takeWhile Char.isDigit = fourDigits number :=
    List.takeWhile_eq_self_iff.mpr fun _ member => isDigit_of_mem_fourDigits member
  obtain ⟨first, rest, split⟩ := List.exists_cons_of_ne_nil (fourDigits_ne_nil number)
  have firstDigit : first.isDigit = true :=
    @isDigit_of_mem_fourDigits number _ (by simp [split])
  have notMinus : first ≠ '-' := by
    rintro rfl
    exact absurd firstDigit (by decide)
  have notPlus : first ≠ '+' := by
    rintro rfl
    exact absurd firstDigit (by decide)
  have value := ofDigitChars_fourDigits number
  rw [split] at digits value ⊢
  unfold scanDecimal
  split
  · simp_all
  · simp_all
  · simp [digits, value]

/-- The number that is freed is the number of the block whose name was compared. -/
@[simp]
theorem getPhysicalBlockNumber_blockName (physical : Nat) :
    getPhysicalBlockNumber (blockName physical) = physical := by
  simp [getPhysicalBlockNumber, blockName, scanDecimal_fourDigits]

theorem blockName_inj {first second : Nat} :
    blockName first = blockName second ↔ first = second := by
  constructor
  · intro same
    have numbers := congrArg getPhysicalBlockNumber same
    simp only [getPhysicalBlockNumber_blockName] at numbers
    exact Int.ofNat_inj.mp numbers
  · exact congrArg blockName

namespace Disk

variable {config : StorageConfig} {Hash : Type}

/-- The physical block file with a name. -/
def physicalNamed (config : StorageConfig) (name : List Char) : Option Nat :=
  (List.range config.totalBlocks).find? fun physical => decide (blockName physical = name)

theorem physicalNamed_blockName (physical : Nat) :
    physicalNamed config (blockName physical) =
      if physical < config.totalBlocks then some physical else none := by
  have names : ∀ other, decide (blockName other = blockName physical) =
      decide (other = physical) := by
    intro other
    simp [blockName_inj]
  simp only [physicalNamed, names]
  split
  · rename_i inside
    rw [List.find?_range_eq_some]
    refine ⟨by simp, List.mem_range.mpr inside, ?_⟩
    intro other smaller
    have different : other ≠ physical := by omega
    simp [different]
  · rename_i outside
    rw [List.find?_eq_none]
    intro other member
    have otherLt := List.mem_range.mp member
    simp only [decide_eq_true_eq]
    omega

/-- `update_logical_block_link`, given the name of the physical block. -/
def updateLogicalBlockLinkNamed (host : Host) (disk : Disk config Hash) (fileTag : FileTag)
    (index : Nat) (name : List Char) : Int × Disk config Hash :=
  match disk.removeLogicalBlock host fileTag index with
  | none => (-1, disk)
  | some removed =>
    match (physicalNamed config name).bind
        (removed.linkLogicalBlock host fileTag index) with
    | none => (-2, removed)
    | some linked => (0, linked)

/-- `free_ph_block_if_unused`, given the name of the physical block. -/
def freePhBlockIfUnusedNamed (host : Host) (disk : Disk config Hash) (index : Nat)
    (name : List Char) : Int × Disk config Hash :=
  match (physicalNamed config name).bind (disk.statPhysicalBlock host index) with
  | none => (-1, disk)
  | some numbLinks =>
    if 1 < numbLinks then (0, disk)
    else if getPhysicalBlockNumber name < 0 then (-2, disk)
    else if host (.loadBitmap index) then (-3, disk)
    else if host (.storeBitmap index) then (-4, disk)
    else (0, disk.setBit (getPhysicalBlockNumber name).toNat false)

/-- The loop variables of `deduplicate_blocks` with the names that the hash index holds. -/
structure NamedDeduplication (config : StorageConfig) (Hash : Type) where
  disk : Disk config Hash
  hashIndex : Hash → Option (List Char)
  blocks : List Nat

/-- The same loop variables, with the entry of the hash index for every block number. -/
def Deduplication.named (state : Deduplication config Hash) : NamedDeduplication config Hash where
  disk := state.disk
  hashIndex hash := (state.hashIndex hash).map blockName
  blocks := state.blocks

variable [DecidableEq Hash]

/-- One iteration of the loop of `deduplicate_blocks`, on names. -/
def deduplicateBlockNamed (host : Host) (md5 : Block config.blockSize → Hash)
    (fileTag : FileTag) (logicalBlock : Nat) (state : NamedDeduplication config Hash) :
    Int × NamedDeduplication config Hash :=
  let physicalBlockFromLogical := blockName (state.blocks.getD logicalBlock 0)
  match state.disk.readBlockContent host fileTag logicalBlock with
  | none => (-3, state)
  | some content =>
    if host (.hashLogical logicalBlock) then (-3, state)
    else
      match state.hashIndex (md5 content) with
      | none =>
        (0, { state with
          hashIndex := Function.update state.hashIndex (md5 content)
            (some physicalBlockFromLogical) })
      | some physicalBlockFromHash =>
        if physicalBlockFromHash = physicalBlockFromLogical then (0, state)
        else
          match state.disk.updateLogicalBlockLinkNamed host fileTag logicalBlock
              physicalBlockFromHash with
          | (0, relinked) =>
            let newPhysicalId := getPhysicalBlockNumber physicalBlockFromHash
            if newPhysicalId < 0 then (-6, { state with disk := relinked })
            else
              let blocks := state.blocks.set logicalBlock newPhysicalId.toNat
              match relinked.freePhBlockIfUnusedNamed host logicalBlock
                  physicalBlockFromLogical with
              | (0, freed) => (0, { state with disk := freed, blocks := blocks })
              | (_, kept) => (-7, { state with disk := kept, blocks := blocks })
          | (_, failed) => (-5, { state with disk := failed })

omit [DecidableEq Hash] in
theorem updateLogicalBlockLinkNamed_blockName (host : Host) (disk : Disk config Hash)
    (fileTag : FileTag) (index physical : Nat) :
    disk.updateLogicalBlockLinkNamed host fileTag index (blockName physical) =
      disk.updateLogicalBlockLink host fileTag index physical := by
  simp only [updateLogicalBlockLinkNamed, updateLogicalBlockLink, physicalNamed_blockName]
  cases disk.removeLogicalBlock host fileTag index with
  | none => rfl
  | some removed =>
      by_cases inside : physical < config.totalBlocks
      · cases linking : removed.linkLogicalBlock host fileTag index physical <;>
          simp [inside, linking]
      · have outside : config.totalBlocks ≤ physical := by omega
        simp [inside, linkLogicalBlock, outside]

omit [DecidableEq Hash] in
theorem freePhBlockIfUnusedNamed_blockName (host : Host) (disk : Disk config Hash)
    (index physical : Nat) :
    disk.freePhBlockIfUnusedNamed host index (blockName physical) =
      disk.freePhBlockIfUnused host index physical := by
  simp only [freePhBlockIfUnusedNamed, freePhBlockIfUnused, physicalNamed_blockName,
    getPhysicalBlockNumber_blockName]
  by_cases inside : physical < config.totalBlocks
  · have notNegative : ¬ (physical : Int) < 0 := by omega
    cases counted : disk.statPhysicalBlock host index physical <;>
      simp [inside, counted, notNegative]
  · have outside : config.totalBlocks ≤ physical := by omega
    simp [inside, statPhysicalBlock, outside]

/-- Comparing the names and freeing the parsed numbers comes to comparing and freeing the
numbers, whatever calls of the host fail. -/
theorem deduplicateBlockNamed_named (host : Host) (md5 : Block config.blockSize → Hash)
    (fileTag : FileTag) (logicalBlock : Nat) (state : Deduplication config Hash) :
    deduplicateBlockNamed host md5 fileTag logicalBlock state.named =
      Prod.map id Deduplication.named
        (deduplicateBlock host md5 fileTag logicalBlock state) := by
  have registering : ∀ hash physical,
      Function.update (fun other => (state.hashIndex other).map blockName) hash
          (some (blockName physical)) =
        fun other => (Function.update state.hashIndex hash (some physical) other).map
          blockName := by
    intro hash physical
    funext other
    by_cases same : other = hash
    · simp [same]
    · simp [same]
  simp only [deduplicateBlockNamed, deduplicateBlock, Deduplication.named]
  cases state.disk.readBlockContent host fileTag logicalBlock with
  | none => rfl
  | some content =>
      by_cases unhashed : host (.hashLogical logicalBlock) = true
      · simp [unhashed, Deduplication.named]
      · simp only [unhashed, Bool.false_eq_true, if_false]
        cases found : state.hashIndex (md5 content) with
        | none => simp [registering, Deduplication.named]
        | some registered =>
            simp only [Option.map_some, blockName_inj]
            by_cases same : registered = state.blocks.getD logicalBlock 0
            · simp [same, Deduplication.named]
            · have notNegative : ¬ (registered : Int) < 0 := by omega
              simp only [same, if_false, updateLogicalBlockLinkNamed_blockName,
                getPhysicalBlockNumber_blockName, freePhBlockIfUnusedNamed_blockName,
                notNegative, Int.toNat_natCast]
              split
              · split <;> simp_all [Deduplication.named]
              · simp_all [Deduplication.named]

/-- The loop of `deduplicate_blocks`, on names. -/
def deduplicateLoopNamed (host : Host) (md5 : Block config.blockSize → Hash)
    (fileTag : FileTag) : Nat → Nat → NamedDeduplication config Hash →
      Int × NamedDeduplication config Hash
  | _, 0, state => (0, state)
  | logicalBlock, remaining + 1, state =>
    match deduplicateBlockNamed host md5 fileTag logicalBlock state with
    | (0, next) => deduplicateLoopNamed host md5 fileTag (logicalBlock + 1) remaining next
    | failed => failed

/-- The whole loop leaves the same disk, and the hash index that it leaves holds the names of
the numbers. -/
theorem deduplicateLoopNamed_named (host : Host) (md5 : Block config.blockSize → Hash)
    (fileTag : FileTag) (logicalBlock remaining : Nat) (state : Deduplication config Hash) :
    deduplicateLoopNamed host md5 fileTag logicalBlock remaining state.named =
      Prod.map id Deduplication.named
        (deduplicateLoop host md5 fileTag logicalBlock remaining state) := by
  induction remaining generalizing logicalBlock state with
  | zero => rfl
  | succ remaining ih =>
      simp only [deduplicateLoopNamed, deduplicateLoop, deduplicateBlockNamed_named]
      obtain ⟨code, next⟩ := deduplicateBlock host md5 fileTag logicalBlock state
      by_cases succeeds : code = 0
      · subst succeeds
        exact ih (logicalBlock + 1) next
      · simp [succeeds]

end Disk

end Storage

end MasterOfFiles
