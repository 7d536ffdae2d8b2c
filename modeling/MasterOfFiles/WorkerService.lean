import MasterOfFiles.StorageRefusals
import MasterOfFiles.WorkerReplies

/-!
# Storage as it serves a Worker

Each request of the Worker is executed on the disk of Storage, and the response is what
the Worker takes from the answer.  On a disk that refines block lists a harmless request
is answered like a request for the blocks that the Worker can see in it.
-/

namespace MasterOfFiles

namespace Worker

def pathName (text : String) : Option Storage.PathName :=
  if plain : text ≠ "" ∧ text ≠ "." ∧ text ≠ ".." ∧ text.toList.all
      (fun c => !Storage.reservedCharacterCodes.contains c.toNat) = true then
    some ⟨text, plain⟩
  else none

/-- A File:Tag as Storage names it; other names are outside the model of the disk. -/
def FileTag.onDisk (fileTag : FileTag) : Option Storage.FileTag :=
  (pathName fileTag.file).bind fun file =>
    (pathName fileTag.tag).map fun tag => ⟨file, tag⟩

theorem text_of_pathName {text : String} {name : Storage.PathName}
    (found : pathName text = some name) : name.text = text := by
  unfold pathName at found
  split at found
  · rw [← Option.some.inj found]
  · cases found

theorem FileTag.onDisk_injective {fileTag other : FileTag} {name : Storage.FileTag}
    (first : fileTag.onDisk = some name) (second : other.onDisk = some name) :
    fileTag = other := by
  have texts : ∀ {found : FileTag}, found.onDisk = some name →
      found.file = name.file.text ∧ found.tag = name.tag.text := by
    intro found isName
    obtain ⟨file, fileFound, rest⟩ := Option.bind_eq_some_iff.mp isName
    obtain ⟨tag, tagFound, rfl⟩ := Option.map_eq_some_iff.mp rest
    exact ⟨(text_of_pathName fileFound).symm, (text_of_pathName tagFound).symm⟩
  obtain ⟨fileEq, tagEq⟩ := texts first
  obtain ⟨otherFileEq, otherTagEq⟩ := texts second
  cases fileTag
  cases other
  simp_all

/-- A Storage and the memories of the Workers that use it.  A Worker is told the size of
the blocks in a `uint16_t`. -/
structure Site where
  storage : Storage.StorageConfig
  frameCount : Nat → Nat
  policy : Nat → ReplacementPolicy
  blockSize_lt : storage.blockSize < 2 ^ 16
  frameCount_lt : ∀ worker, frameCount worker < 2 ^ 31

abbrev Site.config (site : Site) (worker : Nat) : MemoryConfig where
  pageSize := site.storage.blockSize
  frameCount := site.frameCount worker
  policy := site.policy worker
  pageSize_pos := site.storage.blockSize_pos
  pageSize_lt := site.blockSize_lt.trans (by decide)
  frameCount_lt := site.frameCount_lt worker

section Requests

variable {site : Site} {worker : Nat}

/-- The operation that Storage executes for a request.  Block numbers are `uint32_t`. -/
def StorageRequest.operation : StorageRequest (site.config worker) → Option Storage.Request
  | .readBlock fileTag number => fileTag.onDisk.bind fun name =>
    if number < 2 ^ 32 then some (.executeBlockRead name (UInt32.ofNat number)) else none
  | .writeBlock fileTag number bytes => fileTag.onDisk.bind fun name =>
    if number < 2 ^ 32 then
      some (.executeBlockWrite name (UInt32.ofNat number) bytes.toList)
    else none
  | .createFile fileTag => fileTag.onDisk.map .createFile
  | .truncateFile fileTag size => fileTag.onDisk.map fun name => .truncateFile name size
  | .forkFile source target => source.onDisk.bind fun sourceName =>
    target.onDisk.map fun targetName => .createTag sourceName targetName
  | .commitFile fileTag => fileTag.onDisk.map .executeTagCommit
  | .deleteFile fileTag => fileTag.onDisk.map .deleteTag

variable {Hash : Type} [DecidableEq Hash]

/-- Execute an operation; the flag says whether its result is zero. -/
def carryOut (md5 : Storage.Block site.storage.blockSize → Hash)
    (disk : Storage.Disk site.storage Hash) (operation : Option Storage.Request) :
    Bool × Storage.Disk site.storage Hash :=
  match operation with
  | none => (false, disk)
  | some request =>
    (decide ((disk.execute Storage.reliable md5 request).1 = 0),
      (disk.execute Storage.reliable md5 request).2)

/-- The bytes of a block that Storage reads for a Worker. -/
def readBlock (disk : Storage.Disk site.storage Hash) (fileTag : FileTag) (number : Nat) :
    Option (Page site.storage.blockSize) :=
  fileTag.onDisk.bind fun name =>
    if number < 2 ^ 32 then
      (disk.executeBlockRead Storage.reliable name (UInt32.ofNat number)).toOption
    else none

def respond (md5 : Storage.Block site.storage.blockSize → Hash) :
    Asking.Server (@StorageRequest.Answer (site.config worker))
      (Storage.Disk site.storage Hash)
  | disk, .readBlock fileTag number => (readBlock disk fileTag number, disk)
  | disk, .writeBlock fileTag number bytes =>
    carryOut md5 disk (StorageRequest.operation (.writeBlock fileTag number bytes))
  | disk, .createFile fileTag =>
    carryOut md5 disk (@StorageRequest.operation site worker (.createFile fileTag))
  | disk, .truncateFile fileTag size =>
    carryOut md5 disk (@StorageRequest.operation site worker (.truncateFile fileTag size))
  | disk, .forkFile source target =>
    carryOut md5 disk (@StorageRequest.operation site worker (.forkFile source target))
  | disk, .commitFile fileTag =>
    carryOut md5 disk (@StorageRequest.operation site worker (.commitFile fileTag))
  | disk, .deleteFile fileTag =>
    carryOut md5 disk (@StorageRequest.operation site worker (.deleteFile fileTag))

end Requests

section Contents

variable {site : Site} {worker : Nat}

/-- The blocks that a Worker can see in block lists, with zeros where there is none. -/
def seenBlocks (lists : Storage.BlockLists site.storage.blockSize) (fileTag : FileTag)
    (number : Nat) : Page site.storage.blockSize :=
  ((fileTag.onDisk.bind lists).bind fun blocks => blocks[number]?).getD
    (Storage.zeroBlock site.storage.blockSize)

variable {lists : Storage.BlockLists site.storage.blockSize} {fileTag : FileTag}
  {name : Storage.FileTag}

theorem seenBlocks_of_onDisk (isName : fileTag.onDisk = some name) (number : Nat) :
    seenBlocks lists fileTag number =
      ((lists name).bind fun blocks => blocks[number]?).getD
        (Storage.zeroBlock site.storage.blockSize) := by
  rw [seenBlocks, isName]
  rfl

/-- Replacing one block list replaces what is seen of one File:Tag. -/
theorem seenBlocks_update (isName : fileTag.onDisk = some name)
    {blocks : Option (List (Storage.Block site.storage.blockSize))}
    {pages : Nat → Page site.storage.blockSize}
    (pagesEq : ∀ number, (blocks.bind fun list => list[number]?).getD
      (Storage.zeroBlock site.storage.blockSize) = pages number) :
    seenBlocks (Function.update lists name blocks) =
      Function.update (seenBlocks lists) fileTag pages := by
  funext other number
  by_cases same : other = fileTag
  · subst same
    rw [seenBlocks_of_onDisk isName, Function.update_self, Function.update_self]
    exact pagesEq number
  · rw [Function.update_of_ne same, seenBlocks, seenBlocks]
    cases found : other.onDisk with
    | none => rfl
    | some otherName =>
        have different : otherName ≠ name := by
          rintro rfl
          exact same (FileTag.onDisk_injective found isName)
        simp [different]

theorem paddedBlock_toList {size : Nat} (bytes : Page size) :
    Storage.paddedBlock size bytes.toList = bytes := by
  ext position inside
  simp [Storage.paddedBlock]

theorem getElem?_resizeBlocks {size : Nat} (blocks : List (Storage.Block size))
    (count number : Nat) :
    ((Storage.resizeBlocks blocks count)[number]?).getD (Storage.zeroBlock size) =
      if number < count then (blocks[number]?).getD (Storage.zeroBlock size)
      else Storage.zeroBlock size := by
  unfold Storage.resizeBlocks
  by_cases kept : number < (blocks.take count).length
  · rw [List.getElem?_append_left kept, List.getElem?_take]
    rw [List.length_take] at kept
    split
    · rfl
    · omega
  · rw [List.getElem?_append_right (by omega), List.getElem?_replicate]
    rw [List.length_take] at kept
    by_cases inside : number < count
    · rw [if_pos inside, List.getElem?_eq_none (by omega)]
      split <;> rfl
    · rw [if_neg inside]
      split <;> rfl

/-- The number of blocks that a Worker expects after a TRUNCATE is the one that Storage
leaves. -/
theorem storedBlockCount_eq_ceilDiv {size : Int32} (nonnegative : 0 ≤ size.toInt)
    (bounded : size.toInt ≤ 2 ^ 31 - 1 - site.storage.blockSize) :
    storedBlockCount (site.config worker) size =
      size.toInt.toNat ⌈/⌉ site.storage.blockSize := by
  have count := Storage.newBlockCount_eq_ceilDiv nonnegative bounded
  exact Int.natCast_inj.mp ((Int.toNat_of_nonneg (by
    change 0 ≤ Storage.newBlockCount site.storage size
    omega)).trans count)

end Contents

section Responses

variable {site : Site} {worker : Nat} {Hash : Type} {disk : Storage.Disk site.storage Hash}
  {lists : Storage.BlockLists site.storage.blockSize}

/-- A block that Storage reads is the one that the Worker sees. -/
theorem readBlock_eq (refines : Storage.Refines disk lists) {fileTag : FileTag} {number : Nat}
    {bytes : Page site.storage.blockSize}
    (read : readBlock disk fileTag number = some bytes) :
    seenBlocks lists fileTag number = bytes := by
  unfold readBlock at read
  obtain ⟨name, isName, rest⟩ := Option.bind_eq_some_iff.mp read
  split at rest
  · rename_i small
    rw [refines.executeBlockRead, UInt32.toNat_ofNat_of_lt' small] at rest
    rw [seenBlocks_of_onDisk isName, rest, Option.getD_some]
  · cases rest

variable [DecidableEq Hash] {md5 : Storage.Block site.storage.blockSize → Hash}

/-- The operation behind a request, if there is one, is harmless. -/
def HarmlessRequest (md5 : Storage.Block site.storage.blockSize → Hash)
    (disk : Storage.Disk site.storage Hash) (request : StorageRequest (site.config worker)) :
    Prop :=
  ∀ operation, request.operation = some operation → Storage.Harmless md5 disk operation

/-- The block lists after an operation are what the Worker sees after its request. -/
theorem seenBlocks_apply (refines : Storage.Refines disk lists)
    {request : StorageRequest (site.config worker)} {operation : Storage.Request}
    (behind : request.operation = some operation)
    (harmless : Storage.Harmless md5 disk operation)
    (done : Storage.Succeeds md5 disk operation) :
    seenBlocks (lists.apply operation) = request.apply (seenBlocks lists) := by
  cases request with
  | readBlock fileTag number =>
      obtain ⟨name, isName, rest⟩ := Option.bind_eq_some_iff.mp behind
      split at rest
      · obtain rfl := Option.some.inj rest
        rfl
      · cases rest
  | writeBlock fileTag number bytes =>
      obtain ⟨name, isName, rest⟩ := Option.bind_eq_some_iff.mp behind
      split at rest
      · rename_i small
        obtain rfl := Option.some.inj rest
        obtain ⟨metadata, physical, held, _, linked, _⟩ :=
          Storage.Disk.executeBlockWrite_success (Storage.Disk.eq_of_code done)
        rw [UInt32.toNat_ofNat_of_lt' small, refines.consistent.inode,
          Storage.Disk.blocksOf_of_metadata held] at linked
        obtain ⟨inside, _⟩ := List.getElem?_eq_some_iff.mp linked
        refine seenBlocks_update isName fun index => ?_
        have listed := refines.lists_of_metadata held
        rw [listed, Option.map_some, Option.bind_some, UInt32.toNat_ofNat_of_lt' small,
          paddedBlock_toList]
        by_cases here : index = number
        · subst here
          simp [inside]
        · rw [Function.update_of_ne here, seenBlocks_of_onDisk isName, listed,
            Option.bind_some, List.getElem?_set_ne (Ne.symm here)]
      · cases rest
  | createFile fileTag =>
      obtain ⟨name, isName, rfl⟩ := Option.map_eq_some_iff.mp behind
      exact seenBlocks_update isName fun _ => rfl
  | truncateFile fileTag size =>
      obtain ⟨name, isName, rfl⟩ := Option.map_eq_some_iff.mp behind
      obtain ⟨_, nonnegative, bounded⟩ := harmless
      refine seenBlocks_update isName fun index => ?_
      rw [storedBlockCount_eq_ceilDiv nonnegative bounded, seenBlocks_of_onDisk isName]
      cases lists name with
      | none =>
          change Storage.zeroBlock site.storage.blockSize = if _ then
            Storage.zeroBlock site.storage.blockSize else Storage.zeroBlock site.storage.blockSize
          rw [ite_self]
      | some blocks => exact getElem?_resizeBlocks blocks _ index
  | forkFile source target =>
      obtain ⟨sourceName, isSource, rest⟩ := Option.bind_eq_some_iff.mp behind
      obtain ⟨targetName, isTarget, rfl⟩ := Option.map_eq_some_iff.mp rest
      refine seenBlocks_update isTarget fun index => ?_
      rw [seenBlocks_of_onDisk isSource]
  | commitFile fileTag =>
      obtain ⟨name, _, rfl⟩ := Option.map_eq_some_iff.mp behind
      rfl
  | deleteFile fileTag =>
      obtain ⟨name, isName, rfl⟩ := Option.map_eq_some_iff.mp behind
      exact seenBlocks_update isName fun _ => rfl

theorem carryOut_cases (refines : Storage.Refines disk lists)
    {request : StorageRequest (site.config worker)}
    (harmless : HarmlessRequest md5 disk request) :
    ∃ after, Storage.Refines (carryOut md5 disk request.operation).2 after ∧
      seenBlocks after = request.applyIf (seenBlocks lists)
        (carryOut md5 disk request.operation).1 := by
  cases behind : request.operation with
  | none => exact ⟨lists, refines, rfl⟩
  | some operation =>
      have served := refines.execute (harmless operation behind)
      refine ⟨_, served, ?_⟩
      by_cases done : (disk.execute Storage.reliable md5 operation).1 = 0
      · rw [if_pos done, seenBlocks_apply refines behind (harmless operation behind) done]
        simp [carryOut, done, StorageRequest.applyIf]
      · rw [if_neg done]
        simp [carryOut, done, StorageRequest.applyIf]

/-- Storage answers a harmless request as the blocks that the Worker sees would: it accepts
or refuses, and what the Worker sees then is what the request means. -/
theorem respond_cases (refines : Storage.Refines disk lists)
    {request : StorageRequest (site.config worker)}
    (harmless : HarmlessRequest md5 disk request) :
    ∃ accepted after, Storage.Refines (respond md5 disk request).2 after ∧
      (respond md5 disk request).1 = request.answer (seenBlocks lists) accepted ∧
      seenBlocks after = request.applyIf (seenBlocks lists) accepted := by
  have carried := carryOut_cases refines harmless
  cases request with
  | readBlock fileTag number =>
      cases read : readBlock disk fileTag number with
      | none => exact ⟨false, lists, refines, read, rfl⟩
      | some bytes =>
          refine ⟨true, lists, refines, ?_, rfl⟩
          change readBlock disk fileTag number = some (seenBlocks lists fileTag number)
          rw [read, readBlock_eq refines read]
  | writeBlock fileTag number bytes =>
      obtain ⟨after, afterRefines, seen⟩ := carried
      exact ⟨_, after, afterRefines, rfl, seen⟩
  | createFile fileTag =>
      obtain ⟨after, afterRefines, seen⟩ := carried
      exact ⟨_, after, afterRefines, rfl, seen⟩
  | truncateFile fileTag size =>
      obtain ⟨after, afterRefines, seen⟩ := carried
      exact ⟨_, after, afterRefines, rfl, seen⟩
  | forkFile source target =>
      obtain ⟨after, afterRefines, seen⟩ := carried
      exact ⟨_, after, afterRefines, rfl, seen⟩
  | commitFile fileTag =>
      obtain ⟨after, afterRefines, seen⟩ := carried
      exact ⟨_, after, afterRefines, rfl, seen⟩
  | deleteFile fileTag =>
      obtain ⟨after, afterRefines, seen⟩ := carried
      exact ⟨_, after, afterRefines, rfl, seen⟩

end Responses

end Worker

end MasterOfFiles
