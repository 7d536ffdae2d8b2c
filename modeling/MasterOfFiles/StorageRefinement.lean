import MasterOfFiles.StorageBitmap
import Mathlib.Algebra.Order.Floor.Div

/-!
# Copy-on-write refines independent block lists

The specification gives every File:Tag a list of blocks of its own.  Without
COMMIT, and with `initial_file:BASE` left alone, the hard links, the link-count
test and the bitmap implement exactly that: the refinement relation reads the
list off the metadata and the physical blocks, and each successful request
simulates the specification's step.
-/

namespace MasterOfFiles

namespace Storage

variable {config : StorageConfig} {Hash : Type}

/-- The specification state: a list of blocks for each File:Tag. -/
abbrev BlockLists (size : Nat) : Type := FileTag → Option (List (Block size))

/-- Keep a prefix or append zero blocks, up to `count` blocks. -/
def resizeBlocks {size : Nat} (blocks : List (Block size)) (count : Nat) :
    List (Block size) :=
  blocks.take count ++ List.replicate (count - blocks.length) (zeroBlock size)

namespace BlockLists

/-- At the start only `initial_file:BASE` exists, with one zero block. -/
def initial (size : Nat) : BlockLists size :=
  Function.update (fun _ => none) initialFileBase (some [zeroBlock size])

def apply {size : Nat} (lists : BlockLists size) : Request → BlockLists size
  | .createFile fileTag => Function.update lists fileTag (some [])
  | .truncateFile fileTag newSizeBytes =>
    Function.update lists fileTag ((lists fileTag).map
      fun blocks => resizeBlocks blocks (newSizeBytes.toInt.toNat ⌈/⌉ size))
  | .createTag source target => Function.update lists target (lists source)
  | .executeBlockWrite fileTag blockNumber blockData =>
    Function.update lists fileTag ((lists fileTag).map
      fun blocks => blocks.set blockNumber.toNat (paddedBlock size blockData))
  | .executeBlockRead _ _ => lists
  | .executeTagCommit _ => lists
  | .deleteTag fileTag => Function.update lists fileTag none

end BlockLists

def blockListSystem (size : Nat) : TransitionSystem (BlockLists size) Request where
  initial lists := lists = BlockLists.initial size
  step before request after := before.apply request = after

theorem eq_foldl_of_blockListRun {size : Nat} {first last : BlockLists size}
    {requests : List Request} (run : (blockListSystem size).Run first requests last) :
    last = requests.foldl BlockLists.apply first := by
  induction run with
  | nil => rfl
  | snoc _ final ih =>
      rw [List.foldl_append, ← ih]
      exact final.symm

/-- No COMMIT, no truncation or write of `initial_file:BASE`, and truncation
sizes between 0 and `INT_MAX - block_size`. -/
def Independent (config : StorageConfig) : Request → Prop
  | .truncateFile fileTag newSizeBytes =>
    fileTag ≠ initialFileBase ∧ 0 ≤ newSizeBytes.toInt ∧
      newSizeBytes.toInt ≤ 2 ^ 31 - 1 - config.blockSize
  | .executeBlockWrite fileTag _ _ => fileTag ≠ initialFileBase
  | .executeTagCommit _ => False
  | _ => True

instance (config : StorageConfig) (request : Request) :
    Decidable (Independent config request) :=
  match request with
  | .createFile _ => isTrue trivial
  | .truncateFile _ _ => inferInstanceAs (Decidable (_ ∧ _ ∧ _))
  | .createTag _ _ => isTrue trivial
  | .executeBlockWrite _ _ _ => inferInstanceAs (Decidable (_ ≠ _))
  | .executeBlockRead _ _ => isTrue trivial
  | .executeTagCommit _ => isFalse id
  | .deleteTag _ => isTrue trivial

theorem newBlockCount_eq_ceilDiv {newSizeBytes : Int32}
    (nonnegative : 0 ≤ newSizeBytes.toInt)
    (bounded : newSizeBytes.toInt ≤ 2 ^ 31 - 1 - config.blockSize) :
    newBlockCount config newSizeBytes =
      (newSizeBytes.toInt.toNat ⌈/⌉ config.blockSize : Nat) := by
  have positive := config.blockSize_pos
  obtain ⟨size, sizeEq⟩ := Int.eq_ofNat_of_zero_le nonnegative
  rw [sizeEq] at bounded
  rw [newBlockCount, sizeEq, Int.toNat_natCast, Nat.ceilDiv_eq_add_pred_div,
    Int.bmod_eq_of_le_mul_two (by omega) (by omega)]
  have sumEq : (size : Int) + config.blockSize - 1 =
      ((size + config.blockSize - 1 : Nat) : Int) := by omega
  rw [sumEq]
  rfl

section Lists

variable {Value : Type*}

/-- Writing a block that occurs once in a list replaces one entry. -/
theorem map_update_eq_set {blocks : List Nat} {content : Nat → Value}
    {index physical : Nat} (value : Value) (listed : blocks[index]? = some physical)
    (once : ∀ other, blocks[other]? = some physical → other = index) :
    blocks.map (Function.update content physical value) =
      (blocks.map content).set index value := by
  obtain ⟨indexLt, listedEq⟩ := List.getElem?_eq_some_iff.mp listed
  apply List.ext_getElem?
  intro other
  rw [List.getElem?_map, List.getElem?_set, List.getElem?_map]
  by_cases here : index = other
  · subst here
    simp [indexLt, listedEq]
  · rw [if_neg here]
    cases entry : blocks[other]? with
    | none => rfl
    | some found =>
        have different : found ≠ physical := by
          rintro rfl
          exact here (once other entry).symm
        simp [different]

end Lists

/-- The refinement relation: each File:Tag denotes the bytes behind its
`BLOCKS`, and block 0 is a zero block that `initial_file:BASE` holds on to. -/
structure Refines (disk : Disk config Hash) (lists : BlockLists config.blockSize) : Prop where
  consistent : disk.Consistent
  bitmapTrue : disk.BitmapTrue
  base : disk.blocksOf initialFileBase = [0]
  zero : disk.content 0 = zeroBlock config.blockSize
  lists : ∀ fileTag, lists fileTag =
    (disk.metadata fileTag).map fun metadata => metadata.blocks.map disk.content

namespace Refines

variable {disk after : Disk config Hash} {lists : BlockLists config.blockSize}
  {fileTag : FileTag}

theorem base_linked (refines : Refines disk lists) :
    disk.links.inode initialFileBase 0 = some 0 := by
  rw [refines.consistent.inode, refines.base]
  rfl

theorem bit_zero (refines : Refines disk lists) : disk.bitmap 0 = true :=
  (refines.bitmapTrue 0).mpr ⟨initialFileBase, 0, refines.base_linked⟩

/-- A physical block that is not linked is in no `BLOCKS` list. -/
theorem notMem_blocksOf (refines : Refines disk lists) {physical : Nat}
    (unlinked : ¬ disk.links.Linked physical) (fileTag : FileTag) :
    physical ∉ disk.blocksOf fileTag := by
  intro member
  obtain ⟨index, indexLt, entry⟩ := List.mem_iff_getElem.mp member
  refine unlinked ⟨fileTag, index, ?_⟩
  rw [refines.consistent.inode, List.getElem?_eq_getElem indexLt, entry]

/-- Reading block `i` returns entry `i` of the list. -/
theorem executeBlockRead (refines : Refines disk lists) (fileTag : FileTag)
    (blockNumber : UInt32) :
    (disk.executeBlockRead reliable fileTag blockNumber).toOption =
      (lists fileTag).bind fun blocks => blocks[blockNumber.toNat]? := by
  rw [refines.lists, Disk.executeBlockRead, Disk.fileDirExists_reliable,
    Disk.readFileMetadata_reliable]
  cases held : disk.metadata fileTag with
  | none =>
      simp only [Option.map_none, Option.bind_none]
      split <;> rfl
  | some metadata =>
      have present := refines.consistent.tagDirs fileTag (by simp [held])
      have contentEq : disk.logicalContent fileTag blockNumber.toNat =
          (metadata.blocks.map disk.content)[blockNumber.toNat]? := by
        rw [Disk.logicalContent, refines.consistent.inode,
          Disk.blocksOf_of_metadata held, List.getElem?_map]
      simp only [present, Bool.not_true, Bool.false_eq_true, if_false, reliable_apply,
        Option.map_some, Option.bind_some, contentEq]
      split
      · rename_i outside
        have numberEq := blockNumberAsInt_of_nonneg
          (le_trans (Int.natCast_nonneg _) outside)
        rw [List.getElem?_eq_none (by rw [List.length_map]; omega)]
        rfl
      · cases (metadata.blocks.map disk.content)[blockNumber.toNat]? <;> rfl

theorem base_metadata (refines : Refines disk lists) :
    disk.metadata initialFileBase ≠ none := by
  intro missing
  have base := refines.base
  simp [Disk.blocksOf_of_missing missing] at base

theorem lists_of_metadata (refines : Refines disk lists) {metadata : FileMetadata}
    (held : disk.metadata fileTag = some metadata) :
    lists fileTag = some (metadata.blocks.map disk.content) := by
  simp [refines.lists, held]

/-- Give one File:Tag new metadata while the blocks of the others keep their
bytes. -/
theorem update (refines : Refines disk lists) (consistent : after.Consistent)
    (bitmapTrue : after.BitmapTrue) {target : FileTag} {metadata : FileMetadata}
    (metadataEq : after.metadata = Function.update disk.metadata target (some metadata))
    (targetNe : target ≠ initialFileBase)
    (others : ∀ other, other ≠ target → ∀ physical ∈ disk.blocksOf other,
      after.content physical = disk.content physical)
    {blocks : List (Block config.blockSize)}
    (blocksEq : metadata.blocks.map after.content = blocks) :
    Refines after (Function.update lists target (some blocks)) where
  consistent := consistent
  bitmapTrue := bitmapTrue
  base := by
    rw [Disk.blocksOf_update metadataEq, if_neg (Ne.symm targetNe), refines.base]
  zero := by
    rw [others initialFileBase (Ne.symm targetNe) 0 (by simp [refines.base]), refines.zero]
  lists other := by
    by_cases same : other = target
    · simp [same, metadataEq, blocksEq]
    · rw [Function.update_of_ne same, refines.lists, metadataEq,
        Function.update_of_ne same]
      cases held : disk.metadata other with
      | none => rfl
      | some found =>
          simp only [Option.map_some, Option.some.injEq]
          refine (List.map_congr_left ?_).symm
          intro physical member
          exact others other same physical (by rwa [Disk.blocksOf_of_metadata held])

section Steps

variable [DecidableEq Hash] {md5 : Block config.blockSize → Hash}

theorem createFile (refines : Refines disk lists)
    (done : disk.execute reliable md5 (.createFile fileTag) = (0, after))
    (consistent : after.Consistent) (bitmapTrue : after.BitmapTrue) :
    Refines after (lists.apply (.createFile fileTag)) := by
  obtain ⟨absent, rfl⟩ := Disk.createFile_success done
  refine refines.update consistent bitmapTrue rfl ?_ (fun _ _ _ _ => rfl) rfl
  rintro rfl
  simp [refines.consistent.tagDirs _ refines.base_metadata] at absent

theorem truncateFile (refines : Refines disk lists) {newSizeBytes : Int32}
    (independent : Independent config (.truncateFile fileTag newSizeBytes))
    (done : disk.execute reliable md5 (.truncateFile fileTag newSizeBytes) = (0, after))
    (consistent : after.Consistent) (bitmapTrue : after.BitmapTrue) :
    Refines after (lists.apply (.truncateFile fileTag newSizeBytes)) := by
  obtain ⟨different, nonnegative, bounded⟩ := independent
  obtain ⟨metadata, held, outcome⟩ := Disk.truncateFile_success done
  rw [newBlockCount_eq_ceilDiv nonnegative bounded] at outcome
  rw [BlockLists.apply, refines.lists_of_metadata held, Option.map_some]
  rcases outcome with ⟨countEq, rfl⟩ | ⟨newCount, countEq, countLt, rfl⟩ |
    ⟨extra, grown, countEq, _, linking, rfl⟩
  · refine refines.update consistent bitmapTrue rfl different (fun _ _ _ _ => rfl) ?_
    rw [Int.natCast_inj.mp countEq]
    simp [resizeBlocks, Disk.setMetadata]
  · have only := Disk.deleteSurplusBlocks_linksOnly disk fileTag newCount
      (metadata.blocks.drop newCount)
    refine refines.update consistent bitmapTrue (by rw [Disk.setMetadata, only.metadata])
      different (fun _ _ _ _ => by rw [Disk.setMetadata, only.content]) ?_
    rw [Int.natCast_inj.mp countEq]
    simp [resizeBlocks, Disk.setMetadata, only.content, Nat.le_of_lt countLt]
  · have only := Disk.linkZeroBlocks_linksOnly disk fileTag metadata.blocks.length extra
    rw [linking] at only
    refine refines.update consistent bitmapTrue (by rw [Disk.setMetadata, only.metadata])
      different (fun _ _ _ _ => by rw [Disk.setMetadata, only.content]) ?_
    have contentEq : grown.content = disk.content := only.content
    rw [Int.natCast_inj.mp countEq, resizeBlocks, List.take_of_length_le (by simp)]
    simp [Disk.setMetadata, contentEq, refines.zero]

theorem createTag (refines : Refines disk lists) {source target : FileTag}
    (done : disk.execute reliable md5 (.createTag source target) = (0, after))
    (consistent : after.Consistent) (bitmapTrue : after.BitmapTrue) :
    Refines after (lists.apply (.createTag source target)) := by
  obtain ⟨metadata, held, missing, rfl⟩ := Disk.createTag_success done
  rw [BlockLists.apply, refines.lists_of_metadata held]
  refine refines.update consistent bitmapTrue rfl ?_ (fun _ _ _ _ => rfl) rfl
  rintro rfl
  exact refines.base_metadata missing

theorem executeBlockWrite (refines : Refines disk lists) {blockNumber : UInt32}
    {blockData : List UInt8} (different : fileTag ≠ initialFileBase)
    (done : disk.execute reliable md5 (.executeBlockWrite fileTag blockNumber blockData) =
      (0, after))
    (consistent : after.Consistent) (bitmapTrue : after.BitmapTrue) :
    Refines after (lists.apply (.executeBlockWrite fileTag blockNumber blockData)) := by
  obtain ⟨metadata, physical, held, _, linked, outcome⟩ :=
    Disk.executeBlockWrite_success done
  have blocksEq := Disk.blocksOf_of_metadata held
  have listed : metadata.blocks[blockNumber.toNat]? = some physical := by
    rw [← linked, refines.consistent.inode, blocksEq]
  rw [BlockLists.apply, refines.lists_of_metadata held, Option.map_some]
  rcases outcome with ⟨few, rfl⟩ | ⟨_, free, found, _, rfl⟩
  · have nameOf : ∀ other index, (disk.blocksOf other)[index]? = some physical →
        fileTag = other ∧ blockNumber.toNat = index := by
      intro other index entry
      rw [← refines.consistent.inode] at entry
      exact LinkTable.name_unique_of_linkCount_le_one few linked entry
    refine refines.update consistent bitmapTrue
      (by rw [← held, Function.update_eq_self]) different ?_ ?_
    · intro other otherNe block member
      obtain ⟨index, indexLt, entry⟩ := List.mem_iff_getElem.mp member
      refine Function.update_of_ne ?_ _ _
      rintro rfl
      exact otherNe (nameOf other index
        (by rw [List.getElem?_eq_getElem indexLt, entry])).1.symm
    · refine map_update_eq_set _ listed ?_
      intro index entry
      exact (nameOf fileTag index (by rw [blocksEq, entry])).2.symm
  · have unlinked : ¬ disk.links.Linked free := by
      rw [← refines.bitmapTrue free, Disk.bitmap_of_getFreeBitIndex found]
      simp
    have absent := refines.notMem_blocksOf unlinked
    obtain ⟨numberLt, _⟩ := List.getElem?_eq_some_iff.mp listed
    refine refines.update consistent bitmapTrue rfl different ?_ ?_
    · intro other _ block member
      refine Function.update_of_ne ?_ _ _
      rintro rfl
      exact absent other member
    · have onlyThere : ∀ index, (metadata.blocks.set blockNumber.toNat free)[index]? =
          some free → index = blockNumber.toNat := by
        intro index entry
        by_contra elsewhere
        rw [List.getElem?_set_ne (Ne.symm elsewhere)] at entry
        exact absent fileTag (by rw [blocksEq]; exact List.mem_of_getElem? entry)
      refine (map_update_eq_set _ (by simp [numberLt]) onlyThere).trans ?_
      simp [List.map_set]

theorem deleteTag (refines : Refines disk lists)
    (done : disk.execute reliable md5 (.deleteTag fileTag) = (0, after))
    (consistent : after.Consistent) (bitmapTrue : after.BitmapTrue) :
    Refines after (lists.apply (.deleteTag fileTag)) := by
  obtain ⟨metadata, held, different, rfl⟩ := Disk.deleteTag_success done
  have only := Disk.deleteSurplusBlocks_linksOnly disk fileTag 0 metadata.blocks
  have metadataEq : ((Disk.deleteSurplusBlocks reliable fileTag 0 metadata.blocks
      disk).removeDirectories fileTag).metadata =
        Function.update disk.metadata fileTag none := by
    rw [Disk.removeDirectories, only.metadata]
  refine ⟨consistent, bitmapTrue, ?_, ?_, ?_⟩
  · rw [Disk.blocksOf, metadataEq, Function.update_of_ne (Ne.symm different)]
    exact refines.base
  · rw [Disk.removeDirectories, only.content, refines.zero]
  · intro other
    rw [metadataEq, BlockLists.apply]
    by_cases same : other = fileTag
    · simp [same]
    · simp only [Function.update_of_ne same, refines.lists, Disk.removeDirectories,
        only.content]

theorem step (refines : Refines disk lists) {request : Request}
    (independent : Independent config request)
    (done : disk.execute reliable md5 request = (0, after)) :
    Refines after (lists.apply request) := by
  have keeps : KeepsBitmapTrue md5 disk request := by
    refine ⟨fun _ _ _ _ _ _ => refines.bit_zero, ?_⟩
    rintro fileTag metadata index rfl
    exact independent.elim
  have consistent := refines.consistent.execute done
  have bitmapTrue := refines.bitmapTrue.execute refines.consistent keeps done
  cases request with
  | createFile fileTag => exact refines.createFile done consistent bitmapTrue
  | truncateFile fileTag newSizeBytes =>
      exact refines.truncateFile independent done consistent bitmapTrue
  | createTag source target => exact refines.createTag done consistent bitmapTrue
  | executeBlockWrite fileTag blockNumber blockData =>
      exact refines.executeBlockWrite independent done consistent bitmapTrue
  | executeBlockRead fileTag blockNumber =>
      have unchanged := Disk.execute_executeBlockRead md5 disk reliable fileTag blockNumber
      rw [done] at unchanged
      obtain rfl : after = disk := unchanged
      exact refines
  | executeTagCommit fileTag => exact independent.elim
  | deleteTag fileTag => exact refines.deleteTag done consistent bitmapTrue

end Steps

theorem initial : Refines (initStorage config Hash) (BlockLists.initial config.blockSize) where
  consistent := Disk.consistent_initStorage
  bitmapTrue := Disk.bitmapTrue_initStorage
  base := by simp [initStorage, Disk.blocksOf]
  zero := rfl
  lists fileTag := by
    by_cases same : fileTag = initialFileBase
    · simp [BlockLists.initial, initStorage, same]
    · simp [BlockLists.initial, initStorage, same]

end Refines

section Runs

variable [DecidableEq Hash] {md5 : Block config.blockSize → Hash}

theorem storage_simulates_blockLists (md5 : Block config.blockSize → Hash) :
    TransitionSystem.Simulation
      ((storageSystem md5).guarded fun before request =>
        Succeeds md5 before request ∧ Independent config request)
      (blockListSystem config.blockSize) Refines where
  initial := by
    rintro _ rfl
    exact ⟨_, rfl, Refines.initial⟩
  step := by
    rintro before request _ lists refines ⟨⟨succeeds, independent⟩, rfl⟩
    exact ⟨_, rfl, refines.step independent (Disk.eq_of_code succeeds)⟩

/-- After any successful requests without COMMIT that leave
`initial_file:BASE` alone, every read returns the entry of the block list that
the requests denote, and a bit is set exactly when its block is linked. -/
theorem reads_are_block_lists {disk : Disk config Hash} {requests : List Request}
    (run : ((storageSystem md5).guarded fun before request =>
      Succeeds md5 before request ∧ Independent config request).Run
        (initStorage config Hash) requests disk) :
    (∀ fileTag blockNumber,
      (disk.executeBlockRead reliable fileTag blockNumber).toOption =
        (requests.foldl BlockLists.apply (BlockLists.initial config.blockSize)
          fileTag).bind fun blocks => blocks[blockNumber.toNat]?) ∧
      ∀ physical, disk.bitmap physical = true ↔
        ∃ fileTag index, disk.links.inode fileTag index = some physical := by
  obtain ⟨lists, specification, refines⟩ :=
    (storage_simulates_blockLists md5).run run Refines.initial
  rw [← eq_foldl_of_blockListRun specification]
  exact ⟨refines.executeBlockRead, refines.bitmapTrue⟩

theorem reads_are_block_lists_of_copied_tag :
    ((sampleDisk (writeOneByte fileA 65 ++ [.createFile fileB, .deleteTag fileB,
        .createTag fileA fileB])).executeBlockRead reliable fileB 0).toOption =
      some (paddedBlock fourByteConfig.blockSize [65]) := by
  have meet : Disk.AllMeet oneByteMd5 (fun before request =>
      Succeeds oneByteMd5 before request ∧ Independent fourByteConfig request)
        (initStorage fourByteConfig String) (writeOneByte fileA 65 ++
          [.createFile fileB, .deleteTag fileB, .createTag fileA fileB]) :=
    ⟨⟨by decide +kernel, trivial⟩, ⟨by decide +kernel, by decide +kernel⟩,
      ⟨by decide +kernel, by decide +kernel⟩, ⟨by decide +kernel, trivial⟩,
      ⟨by decide +kernel, trivial⟩, ⟨by decide +kernel, trivial⟩, trivial⟩
  rw [sampleDisk, (reads_are_block_lists (run_of_allMeet meet)).1]
  decide +kernel

end Runs

end Storage

end MasterOfFiles
