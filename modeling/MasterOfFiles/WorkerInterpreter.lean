import MasterOfFiles.WorkerMemoryViews

/-!
# The query interpreter of the Worker

`execute_instruction` over the memory manager and the Storage blocks behind it.
Storage may refuse any request; what it does with the ones it accepts is given on the
contents of the blocks, with zeros where a File:Tag has no block.  Page tables can
lose pages here, when TRUNCATE shrinks a table and when DELETE removes it, and the
frames of those pages are not given back.
-/

namespace MasterOfFiles

namespace Worker

/-- A decoded `instruction_t`; the sizes are the `int` values of `atoi`. -/
inductive Instruction
  | create (fileTag : FileTag)
  | truncate (fileTag : FileTag) (size : Int32)
  | write (fileTag : FileTag) (base : UInt32) (data : List UInt8)
  | read (fileTag : FileTag) (base : UInt32) (size : Int32)
  | tag (source target : FileTag)
  | commit (fileTag : FileTag)
  | flush (fileTag : FileTag)
  | delete (fileTag : FileTag)
  | finish
deriving DecidableEq

def Instruction.fileTags : Instruction → List FileTag
  | .create fileTag => [fileTag]
  | .truncate fileTag _ => [fileTag]
  | .write fileTag _ _ => [fileTag]
  | .read fileTag _ _ => [fileTag]
  | .tag source target => [source, target]
  | .commit fileTag => [fileTag]
  | .flush fileTag => [fileTag]
  | .delete fileTag => [fileTag]
  | .finish => []

/-- How the outside answers during one instruction: which requests of the memory manager
fail, whether Storage accepts the instruction's own request, whether `malloc` and
`realloc` succeed, and whether the Master gets the bytes of a READ. -/
structure Replies where
  faults : StorageFaults
  accepted : Bool
  allocated : Bool
  delivered : Bool

/-- The result of `execute_instruction`: whether it returned 0, the bytes that a READ sent
to the Master, and the memory manager afterwards. -/
structure InstructionOutcome (config : MemoryConfig) where
  succeeded : Bool
  content : Option (List UInt8)
  memory : MemoryManager config

/-- The value of `(size_t)atoi(…)`. -/
def sizeOfInt (size : Int32) : Nat := (size.toInt % 2 ^ 64).toNat

/-- The `new_page_count` of a TRUNCATE, a `uint32_t`. -/
def newPageCount (config : MemoryConfig) (size : Int32) : Nat :=
  sizeOfInt size / config.pageSize % 2 ^ 32

/-- The number of blocks that `truncate_file` leaves in Storage, rounded up in `int`
arithmetic. -/
def storedBlockCount (config : MemoryConfig) (size : Int32) : Nat :=
  ((Int.bmod (size.toInt + config.pageSize - 1) (2 ^ 32)).tdiv config.pageSize).toNat

namespace MemoryManager

variable {config : MemoryConfig}

/-- `mm_remove_page_table`: the last entry takes the place of the removed one. -/
def mmRemovePageTable (mm : MemoryManager config) (fileTag : FileTag) :
    MemoryManager config :=
  match mm.entries.findIdx? (fun entry => decide (entry.1 = fileTag)),
      mm.entries.getLast? with
  | some index, some last => { mm with entries := (mm.entries.set index last).dropLast }
  | _, _ => mm

def mmResizePageTable (mm : MemoryManager config) (fileTag : FileTag)
    (newPageCount : Nat) : MemoryManager config :=
  match (mm.findPageTable fileTag).bind fun table => ptResize table newPageCount with
  | none => mm
  | some resized => mm.modifyTable fileTag fun _ => resized

/-- Replace the blocks of a File:Tag in Storage. -/
def setBlocks (mm : MemoryManager config) (fileTag : FileTag)
    (blocks : Nat → Page config.pageSize) : MemoryManager config :=
  { mm with storage := Function.update mm.storage fileTag blocks }

/-- The contents of a block that was never written. -/
def zeroPage (config : MemoryConfig) : Page config.pageSize :=
  Vector.replicate config.pageSize 0

/-- The blocks of a File:Tag of which Storage keeps the first `count`. -/
def keptBlocks (mm : MemoryManager config) (fileTag : FileTag) (count : Nat) :
    Nat → Page config.pageSize :=
  fun number => if number < count then mm.storage fileTag number else zeroPage config

def executeInstruction (replies : Replies) (mm : MemoryManager config) :
    Instruction → InstructionOutcome config
  | .create fileTag =>
    if !replies.accepted then ⟨false, none, mm⟩
    else ⟨true, none, mm.setBlocks fileTag fun _ => zeroPage config⟩
  | .truncate fileTag size =>
    if sizeOfInt size % config.pageSize ≠ 0 then ⟨false, none, mm⟩
    else if !replies.accepted then ⟨false, none, mm⟩
    else
      let truncated :=
        mm.setBlocks fileTag (mm.keptBlocks fileTag (storedBlockCount config size))
      if !replies.allocated then ⟨true, none, truncated⟩
      else ⟨true, none, truncated.mmResizePageTable fileTag (newPageCount config size)⟩
  | .write fileTag base data =>
    match (mm.mmCreatePageTable fileTag).mmWriteToMemory replies.faults fileTag base data with
    | (done, after) => ⟨done, none, after⟩
  | .read fileTag base size =>
    let created := mm.mmCreatePageTable fileTag
    if !replies.allocated then ⟨false, none, created⟩
    else
      match created.mmReadFromMemory replies.faults fileTag base (sizeOfInt size) with
      | (false, _, after) => ⟨false, none, after⟩
      | (true, content, after) =>
        if !replies.delivered then ⟨false, none, after⟩ else ⟨true, some content, after⟩
  | .tag source target =>
    if !replies.accepted then ⟨false, none, mm⟩
    else ⟨true, none, mm.setBlocks target (mm.storage source)⟩
  | .commit fileTag =>
    match mm.mmFlushQuery replies.faults fileTag with
    | (done, after) => ⟨done && replies.accepted, none, after⟩
  | .flush fileTag =>
    match mm.mmFlushQuery replies.faults fileTag with
    | (done, after) => ⟨done, none, after⟩
  | .delete fileTag =>
    let removed := mm.mmRemovePageTable fileTag
    if !replies.accepted then ⟨false, none, removed⟩
    else ⟨true, none, removed.setBlocks fileTag fun _ => zeroPage config⟩
  | .finish => ⟨true, none, mm⟩

section Tables

variable {mm : MemoryManager config} {fileTag : FileTag}

theorem findPageTable_eq_some_iff (keys : (mm.entries.map Prod.fst).Nodup)
    {table : List PageEntry} :
    mm.findPageTable fileTag = some table ↔ (fileTag, table) ∈ mm.entries :=
  ⟨mem_of_findPageTable, findPageTable_of_mem keys⟩

/-- Filling the gap with the last element removes one element. -/
theorem swapRemove_perm {Value : Type*} {values : List Value} {index : Nat} {last : Value}
    (inside : index < values.length) (ends : values.getLast? = some last) :
    values.Perm (values[index] :: (values.set index last).dropLast) := by
  obtain ⟨front, rfl⟩ := List.getLast?_eq_some_iff.mp ends
  refine (List.getElem_cons_eraseIdx_perm inside).symm.trans (List.Perm.cons _ ?_)
  by_cases early : index < front.length
  · rw [List.set_append_left _ _ early, List.dropLast_concat,
      List.eraseIdx_append_of_lt_length early]
    exact (List.perm_append_singleton last _).trans
      (List.set_perm_cons_eraseIdx early last).symm
  · obtain rfl : index = front.length := by simp at inside; omega
    simp [List.eraseIdx_append_of_length_le]

theorem mmRemovePageTable_entries (fileTag : FileTag) (mm : MemoryManager config) :
    (mm.findPageTable fileTag = none ∧ mm.mmRemovePageTable fileTag = mm) ∨
      ∃ table, mm.entries.Perm ((fileTag, table) :: (mm.mmRemovePageTable fileTag).entries) := by
  unfold mmRemovePageTable
  split
  · rename_i index last found ends
    obtain ⟨inside, here, _⟩ := List.findIdx?_eq_some_iff_getElem.mp found
    right
    refine ⟨mm.entries[index].2, ?_⟩
    have key : mm.entries[index].1 = fileTag := by simpa using here
    have perm := swapRemove_perm inside ends
    rw [← key]
    exact perm
  · rename_i missing
    left
    refine ⟨?_, rfl⟩
    cases found : mm.entries.findIdx? fun entry => decide (entry.1 = fileTag) with
    | none =>
        rw [List.findIdx?_eq_none_iff] at found
        simpa [findPageTable] using found
    | some index =>
        cases ends : mm.entries.getLast? with
        | none =>
            rw [List.getLast?_eq_none_iff] at ends
            simp [findPageTable, ends]
        | some last => exact absurd ends (missing index last found)

theorem keys_mmRemovePageTable (keys : (mm.entries.map Prod.fst).Nodup) :
    ((mm.mmRemovePageTable fileTag).entries.map Prod.fst).Nodup := by
  rcases mm.mmRemovePageTable_entries fileTag with ⟨_, same⟩ | ⟨table, perm⟩
  · rw [same]
    exact keys
  · have split := (perm.map Prod.fst).nodup_iff.mp keys
    rw [List.map_cons, List.nodup_cons] at split
    exact split.2

theorem findPageTable_mmRemovePageTable (keys : (mm.entries.map Prod.fst).Nodup)
    (other : FileTag) :
    (mm.mmRemovePageTable fileTag).findPageTable other =
      if other = fileTag then none else mm.findPageTable other := by
  rcases mm.mmRemovePageTable_entries fileTag with ⟨missing, same⟩ | ⟨table, perm⟩
  · rw [same]
    split
    · rename_i here
      rw [here, missing]
    · rfl
  · have split := (perm.map Prod.fst).nodup_iff.mp keys
    rw [List.map_cons, List.nodup_cons] at split
    ext found
    rw [findPageTable_eq_some_iff split.2]
    by_cases here : other = fileTag
    · rw [if_pos here, here]
      refine ⟨fun member => absurd ?_ split.1, by simp⟩
      exact List.mem_map.mpr ⟨_, member, rfl⟩
    · rw [if_neg here, findPageTable_eq_some_iff keys, perm.mem_iff, List.mem_cons]
      simp [here]

theorem page_mmRemovePageTable (keys : (mm.entries.map Prod.fst).Nodup)
    (other : FileTag) (number : Nat) :
    (mm.mmRemovePageTable fileTag).page other number =
      if other = fileTag then none else mm.page other number := by
  rw [page, findPageTable_mmRemovePageTable keys]
  split
  · rfl
  · rfl

theorem mmRemovePageTable_eq (mm : MemoryManager config) (fileTag : FileTag) :
    mm.mmRemovePageTable fileTag =
      { mm with entries := (mm.mmRemovePageTable fileTag).entries } := by
  unfold mmRemovePageTable
  split
  · rfl
  · rfl

/-- A resized table has its old pages below the new count and fresh ones up to it. -/
theorem page_mmResizePageTable (fileTag other : FileTag) (count number : Nat) :
    (mm.mmResizePageTable fileTag count).page other number =
      if other = fileTag ∧ count ≠ 0 ∧ (mm.findPageTable fileTag).isSome then
        if number < count then some ((mm.page fileTag number).getD (freshEntry number))
        else none
      else mm.page other number := by
  unfold mmResizePageTable
  cases found : mm.findPageTable fileTag with
  | none => simp
  | some table =>
      cases resizing : ptResize table count with
      | none =>
          obtain rfl : count = 0 := by
            by_contra positive
            simp [ptResize, positive] at resizing
          simp [resizing]
      | some resized =>
          have positive : count ≠ 0 := by
            rintro rfl
            simp [ptResize] at resizing
          by_cases same : other = fileTag
          · subst same
            simp [resizing, page, findPageTable_modifyTable, found, positive,
              getElem?_ptResize resizing]
          · simp [resizing, page, findPageTable_modifyTable, same]

end Tables

section Dropped

/-- Pages have only disappeared, or appeared without being present. -/
structure Dropped (before after : MemoryManager config) : Prop where
  keys : (before.entries.map Prod.fst).Nodup → (after.entries.map Prod.fst).Nodup
  page : (before.entries.map Prod.fst).Nodup → ∀ fileTag number,
    after.page fileTag number = before.page fileTag number ∨
      after.page fileTag number = none ∨
      (before.page fileTag number = none ∧ number + 1 < 2 ^ 32 ∧
        after.page fileTag number = some (freshEntry number))
  used : after.used = before.used
  physicalMemory : after.physicalMemory = before.physicalMemory
  clockPointer : after.clockPointer = before.clockPointer

def Scope.leak (scope : Scope) (frames : Set Nat) : Scope where
  coherent := scope.coherent
  spared := scope.spared
  leaked := scope.leaked ∪ frames

@[simp]
theorem Scope.leak_empty (scope : Scope) : scope.leak ∅ = scope := by
  simp [Scope.leak]

def lostFrames (before after : MemoryManager config) : Set Nat :=
  { frame | ∃ fileTag number entry, before.Present fileTag number entry ∧
    entry.frame = frame ∧ after.page fileTag number = none }

variable {before after : MemoryManager config} {scope : Scope} {fileTag : FileTag}
  {number : Nat} {entry : PageEntry}

theorem Dropped.present_before (dropped : Dropped before after)
    (keys : (before.entries.map Prod.fst).Nodup)
    (present : after.Present fileTag number entry) : before.Present fileTag number entry := by
  rcases dropped.page keys fileTag number with same | missing | ⟨_, _, fresh⟩
  · exact ⟨same ▸ present.held, present.present⟩
  · have held := present.held
    simp [missing] at held
  · have held := present.held
    rw [fresh, Option.some.injEq] at held
    have absent := present.present
    simp [← held, freshEntry] at absent

/-- The frames of lost pages are leaked; everything else of the invariant is kept when the
clean pages that are left agree with Storage. -/
theorem Sound.dropped (sound : Sound scope none before) (dropped : Dropped before after)
    (clean : ∀ fileTag ∈ scope.coherent, ∀ number entry, after.Present fileTag number entry →
      entry.dirty = false → before.physicalMemory entry.frame = after.storage fileTag number) :
    Sound (scope.leak (lostFrames before after)) none after := by
  have back : ∀ {fileTag number entry}, after.Present fileTag number entry →
      before.Present fileTag number entry :=
    fun present => dropped.present_before sound.keys present
  refine ⟨dropped.keys sound.keys, ?_, ?_, ?_, ?_, ?_, ?_, ?_, by simp, ?_, ?_⟩
  · intro fileTag number entry held
    rcases dropped.page sound.keys fileTag number with same | missing | ⟨_, bound, fresh⟩
    · exact sound.pageNumber fileTag number entry (same ▸ held)
    · simp [missing] at held
    · rw [fresh, Option.some.injEq] at held
      rw [← held]
      exact ⟨rfl, bound⟩
  · intro fileTag number entry held dirty
    rcases dropped.page sound.keys fileTag number with same | missing | ⟨_, _, fresh⟩
    · exact sound.dirty_present fileTag number entry (same ▸ held) dirty
    · simp [missing] at held
    · rw [fresh, Option.some.injEq] at held
      simp [← held, freshEntry] at dirty
  · intro fileTag tracked number entry present isClean
    rw [dropped.physicalMemory]
    exact clean fileTag tracked number entry present isClean
  · intro fileTag isSpared number entry held
    rcases dropped.page sound.keys fileTag number with same | missing | ⟨_, _, fresh⟩
    · exact sound.spared fileTag isSpared number entry (same ▸ held)
    · simp [missing] at held
    · rw [fresh, Option.some.injEq] at held
      rw [← held]
      rfl
  · exact fun fileTag number entry present =>
      sound.frame_lt fileTag number entry (back present)
  · exact fun _ _ _ _ _ _ first second =>
      sound.frame_unique _ _ _ _ _ _ (back first) (back second)
  · intro frame frameLt
    rw [dropped.used, sound.used_iff frame frameLt]
    constructor
    · rintro ((isReserved | isLeaked) | ⟨fileTag, number, entry, present, sameFrame⟩)
      · simp at isReserved
      · exact Or.inl (Or.inr (Or.inl isLeaked))
      · rcases dropped.page sound.keys fileTag number with same | missing | ⟨absent, _, _⟩
        · exact Or.inr ⟨fileTag, number, entry, ⟨same ▸ present.held, present.present⟩,
            sameFrame⟩
        · exact Or.inl (Or.inr (Or.inr ⟨fileTag, number, entry, present, sameFrame, missing⟩))
        · simp [present.held] at absent
    · rintro ((isReserved | isLeaked | ⟨fileTag, number, entry, present, sameFrame, _⟩) |
        ⟨fileTag, number, entry, present, sameFrame⟩)
      · simp at isReserved
      · exact Or.inl (Or.inr isLeaked)
      · exact Or.inr ⟨fileTag, number, entry, present, sameFrame⟩
      · exact Or.inr ⟨fileTag, number, entry, back present, sameFrame⟩
  · rintro frame (isReserved | isLeaked | ⟨lostTag, lostNumber, lost, wasPresent, rfl, missing⟩)
      fileTag number entry present sameFrame
    · simp at isReserved
    · exact sound.unmapped frame (Or.inr isLeaked) fileTag number entry (back present) sameFrame
    · obtain ⟨rfl, rfl⟩ := sound.frame_unique _ _ entry _ _ lost (back present) wasPresent
        sameFrame
      have held := present.held
      simp [missing] at held
  · rw [dropped.clockPointer]
    exact sound.clock_lt

theorem dropped_mmRemovePageTable (mm : MemoryManager config) (fileTag : FileTag) :
    Dropped mm (mm.mmRemovePageTable fileTag) := by
  refine ⟨keys_mmRemovePageTable, ?_, ?_, ?_, ?_⟩
  · intro keys other number
    rw [page_mmRemovePageTable keys]
    split
    · exact Or.inr (Or.inl rfl)
    · exact Or.inl rfl
  · rw [mmRemovePageTable_eq]
  · rw [mmRemovePageTable_eq]
  · rw [mmRemovePageTable_eq]

theorem mmResizePageTable_eq (mm : MemoryManager config) (fileTag : FileTag) (count : Nat) :
    mm.mmResizePageTable fileTag count =
      { mm with entries := (mm.mmResizePageTable fileTag count).entries } := by
  unfold mmResizePageTable
  split
  · rfl
  · rfl

theorem dropped_mmResizePageTable (mm : MemoryManager config) (fileTag : FileTag)
    {count : Nat} (countLt : count < 2 ^ 32) :
    Dropped mm (mm.mmResizePageTable fileTag count) := by
  refine ⟨?_, ?_, ?_, ?_, ?_⟩
  · intro keys
    unfold mmResizePageTable
    split
    · exact keys
    · rw [keys_modifyTable]
      exact keys
  · intro _ other number
    rw [page_mmResizePageTable]
    split
    · rename_i here
      rw [here.1]
      split
      · rename_i inside
        cases held : mm.page fileTag number with
        | none => exact Or.inr (Or.inr ⟨rfl, by omega, rfl⟩)
        | some entry => exact Or.inl rfl
      · exact Or.inr (Or.inl rfl)
    · exact Or.inl rfl
  · rw [mmResizePageTable_eq]
  · rw [mmResizePageTable_eq]
  · rw [mmResizePageTable_eq]

end Dropped

section Instructions

variable {scope : Scope} {mm : MemoryManager config} {replies : Replies}

def droppedPages (mm : MemoryManager config) (replies : Replies) :
    Instruction → List PageEntry
  | .truncate fileTag size =>
    if sizeOfInt size % config.pageSize = 0 ∧ replies.accepted ∧ replies.allocated ∧
        newPageCount config size ≠ 0 then
      ((mm.findPageTable fileTag).getD []).drop (newPageCount config size)
    else []
  | .delete fileTag => (mm.findPageTable fileTag).getD []
  | _ => []

def droppedFrames (mm : MemoryManager config) (replies : Replies)
    (instruction : Instruction) : Set Nat :=
  { frame | ∃ entry ∈ mm.droppedPages replies instruction,
    entry.present = true ∧ entry.frame = frame }

/-- The present pages of a File:Tag, with their numbers. -/
def residentPages (mm : MemoryManager config) (fileTag : FileTag) : List (PageEntry × Nat) :=
  ((mm.findPageTable fileTag).getD []).zipIdx.filter fun page => page.1.present

/-- The condition under which the clean pages of some File:Tags still agree with Storage
after an instruction: Storage has changed no block behind a page that stays present. -/
def KeepsCoherent (coherent : Set FileTag) (mm : MemoryManager config) (replies : Replies) :
    Instruction → Prop
  | .create fileTag => replies.accepted = true → fileTag ∈ coherent →
    mm.residentPages fileTag = []
  | .truncate fileTag size =>
    sizeOfInt size % config.pageSize = 0 → replies.accepted = true → fileTag ∈ coherent →
      ∀ page ∈ mm.residentPages fileTag, storedBlockCount config size ≤ page.2 →
        replies.allocated = true ∧ newPageCount config size ≠ 0 ∧
          newPageCount config size ≤ page.2
  | .tag _ target => replies.accepted = true → target ∈ coherent →
    mm.residentPages target = []
  | _ => True

instance (coherent : Set FileTag) [DecidablePred (· ∈ coherent)] (mm : MemoryManager config)
    (replies : Replies) (instruction : Instruction) :
    Decidable (KeepsCoherent coherent mm replies instruction) :=
  match instruction with
  | .create fileTag =>
    inferInstanceAs (Decidable (_ → fileTag ∈ coherent → mm.residentPages fileTag = []))
  | .truncate fileTag size =>
    inferInstanceAs (Decidable (_ → _ → fileTag ∈ coherent →
      ∀ page ∈ mm.residentPages fileTag, storedBlockCount config size ≤ page.2 → _))
  | .write _ _ _ => isTrue trivial
  | .read _ _ _ => isTrue trivial
  | .tag _ target =>
    inferInstanceAs (Decidable (_ → target ∈ coherent → mm.residentPages target = []))
  | .commit _ => isTrue trivial
  | .flush _ => isTrue trivial
  | .delete _ => isTrue trivial
  | .finish => isTrue trivial

theorem mem_residentPages {fileTag : FileTag} {number : Nat} {entry : PageEntry} :
    (entry, number) ∈ mm.residentPages fileTag ↔ mm.Present fileTag number entry := by
  rw [residentPages, List.mem_filter, List.mem_zipIdx_iff_getElem?, ← page_eq_getElem?]
  exact ⟨fun ⟨held, present⟩ => ⟨held, present⟩, fun ⟨held, present⟩ => ⟨held, present⟩⟩

theorem not_present_of_residentPages {fileTag : FileTag}
    (none : mm.residentPages fileTag = []) (number : Nat) (entry : PageEntry) :
    ¬ mm.Present fileTag number entry := by
  intro present
  have member := mem_residentPages.mpr present
  simp [none] at member

theorem findPageTable_isSome {fileTag : FileTag} {number : Nat} {entry : PageEntry}
    (held : mm.page fileTag number = some entry) :
    (mm.findPageTable fileTag).isSome = true := by
  obtain ⟨table, found, _⟩ := Option.bind_eq_some_iff.mp held
  simp [found]

theorem mem_drop_table_iff {fileTag : FileTag} {entry : PageEntry} {count : Nat} :
    entry ∈ ((mm.findPageTable fileTag).getD []).drop count ↔
      ∃ number, count ≤ number ∧ mm.page fileTag number = some entry := by
  simp only [List.mem_iff_getElem?, List.getElem?_drop, page_eq_getElem?]
  constructor
  · rintro ⟨offset, held⟩
    exact ⟨count + offset, by omega, held⟩
  · rintro ⟨number, above, held⟩
    refine ⟨number - count, ?_⟩
    rw [Nat.add_sub_cancel' above]
    exact held

theorem page_of_mem_droppedPages {instruction : Instruction} {entry : PageEntry}
    (member : entry ∈ mm.droppedPages replies instruction) :
    ∃ fileTag number, mm.page fileTag number = some entry := by
  cases instruction with
  | truncate fileTag size =>
      simp only [droppedPages] at member
      split at member
      · obtain ⟨number, _, held⟩ := mem_drop_table_iff.mp member
        exact ⟨fileTag, number, held⟩
      · simp at member
  | delete fileTag =>
      have inTable : entry ∈ ((mm.findPageTable fileTag).getD []).drop 0 := member
      obtain ⟨number, _, held⟩ := mem_drop_table_iff.mp inTable
      exact ⟨fileTag, number, held⟩
  | _ => simp [droppedPages] at member

/-- Storage may replace the blocks of a File:Tag none of whose pages is present. -/
theorem Sound.setBlocks (sound : Sound scope none mm) {fileTag : FileTag}
    {blocks : Nat → Page config.pageSize}
    (agrees : fileTag ∈ scope.coherent → ∀ number entry, mm.Present fileTag number entry →
      entry.dirty = false → blocks number = mm.storage fileTag number) :
    Sound scope none (mm.setBlocks fileTag blocks) := by
  refine sound.of_storage rfl rfl rfl rfl ?_
  intro other tracked number entry present clean
  rw [sound.clean other tracked number entry present clean]
  unfold MemoryManager.setBlocks
  by_cases same : other = fileTag
  · subst same
    simp [agrees tracked number entry present clean]
  · simp [same]

/-- The blocks of a File:Tag after a TRUNCATE that Storage accepts. -/
def truncated (mm : MemoryManager config) (fileTag : FileTag) (size : Int32) :
    MemoryManager config :=
  mm.setBlocks fileTag (mm.keptBlocks fileTag (storedBlockCount config size))

theorem truncate_cases (fileTag : FileTag) (size : Int32) :
    (mm.executeInstruction replies (.truncate fileTag size) = ⟨false, none, mm⟩ ∧
      ¬ (sizeOfInt size % config.pageSize = 0 ∧ replies.accepted = true)) ∨
    (sizeOfInt size % config.pageSize = 0 ∧ replies.accepted = true ∧
      mm.executeInstruction replies (.truncate fileTag size) =
        ⟨true, none, if replies.allocated then
          (mm.truncated fileTag size).mmResizePageTable fileTag (newPageCount config size)
          else mm.truncated fileTag size⟩) := by
  rw [MemoryManager.executeInstruction]
  by_cases aligned : sizeOfInt size % config.pageSize = 0
  · cases accepted : replies.accepted with
    | false => simp
    | true => cases replies.allocated <;> simp [aligned, truncated]
  · simp [aligned]

theorem droppedFrames_truncate_of_not {fileTag : FileTag} {size : Int32}
    (kept : ¬ (sizeOfInt size % config.pageSize = 0 ∧ replies.accepted = true ∧
      replies.allocated = true ∧ newPageCount config size ≠ 0)) :
    mm.droppedFrames replies (.truncate fileTag size) = ∅ := by
  simp [droppedFrames, droppedPages, if_neg kept]

theorem page_truncated_mmResizePageTable (fileTag other : FileTag) (size : Int32)
    (number : Nat) :
    ((mm.truncated fileTag size).mmResizePageTable fileTag (newPageCount config size)).page
        other number =
      if other = fileTag ∧ newPageCount config size ≠ 0 ∧
          (mm.findPageTable fileTag).isSome then
        if number < newPageCount config size then
          some ((mm.page fileTag number).getD (freshEntry number))
        else none
      else mm.page other number :=
  page_mmResizePageTable fileTag other _ number

theorem dropped_truncated (mm : MemoryManager config) (fileTag : FileTag) (size : Int32) :
    Dropped mm ((mm.truncated fileTag size).mmResizePageTable fileTag
      (newPageCount config size)) := by
  have resizing := dropped_mmResizePageTable (mm.truncated fileTag size) fileTag
    (Nat.mod_lt (sizeOfInt size / config.pageSize) (by decide) :
      newPageCount config size < 2 ^ 32)
  exact ⟨resizing.keys, resizing.page, resizing.used, resizing.physicalMemory,
    resizing.clockPointer⟩

theorem lostFrames_truncate {fileTag : FileTag} {size : Int32}
    (aligned : sizeOfInt size % config.pageSize = 0) (accepted : replies.accepted = true)
    (allocated : replies.allocated = true) :
    lostFrames mm ((mm.truncated fileTag size).mmResizePageTable fileTag
      (newPageCount config size)) = mm.droppedFrames replies (.truncate fileTag size) := by
  ext frame
  by_cases zero : newPageCount config size = 0
  · rw [droppedFrames_truncate_of_not fun all => all.2.2.2 zero]
    refine ⟨?_, by simp⟩
    rintro ⟨other, number, entry, present, _, missing⟩
    rw [page_truncated_mmResizePageTable, if_neg (by simp [zero]), present.held] at missing
    simp at missing
  · have pages : mm.droppedPages replies (.truncate fileTag size) =
        ((mm.findPageTable fileTag).getD []).drop (newPageCount config size) :=
      if_pos ⟨aligned, accepted, allocated, zero⟩
    constructor
    · rintro ⟨other, number, entry, present, rfl, missing⟩
      rw [page_truncated_mmResizePageTable] at missing
      split at missing
      · rename_i here
        obtain ⟨rfl, _⟩ := here
        split at missing
        · simp at missing
        · refine ⟨entry, ?_, present.present, rfl⟩
          rw [pages]
          exact mem_drop_table_iff.mpr ⟨number, by omega, present.held⟩
      · simp [present.held] at missing
    · rintro ⟨entry, member, present, rfl⟩
      rw [pages] at member
      obtain ⟨number, beyond, held⟩ := mem_drop_table_iff.mp member
      refine ⟨fileTag, number, entry, ⟨held, present⟩, rfl, ?_⟩
      rw [page_truncated_mmResizePageTable, if_pos ⟨rfl, zero, findPageTable_isSome held⟩,
        if_neg (by omega)]

theorem Sound.truncate (sound : Sound scope none mm) {fileTag : FileTag} {size : Int32}
    (keeps : KeepsCoherent scope.coherent mm replies (.truncate fileTag size)) :
    Sound (scope.leak (mm.droppedFrames replies (.truncate fileTag size))) none
      (mm.executeInstruction replies (.truncate fileTag size)).memory := by
  rcases @truncate_cases config mm replies fileTag size with
    ⟨outcome, refused⟩ | ⟨aligned, accepted, outcome⟩
  · rw [outcome, droppedFrames_truncate_of_not fun all => refused ⟨all.1, all.2.1⟩,
      Scope.leak_empty]
    exact sound
  · rw [outcome]
    have stored : ∀ number, number < storedBlockCount config size →
        (mm.truncated fileTag size).storage fileTag number = mm.storage fileTag number := by
      intro number below
      simp [truncated, MemoryManager.setBlocks, keptBlocks, below]
    cases allocated : replies.allocated with
    | false =>
        rw [droppedFrames_truncate_of_not fun all => by simp [allocated] at all,
          Scope.leak_empty]
        refine sound.setBlocks fun tracked number entry present _ => if_pos ?_
        by_contra beyond
        have resized := keeps aligned accepted tracked _ (mem_residentPages.mpr present) (by omega)
        simp [allocated] at resized
    | true =>
        rw [← lostFrames_truncate aligned accepted allocated, if_pos rfl]
        have dropped := mm.dropped_truncated fileTag size
        refine sound.dropped dropped fun other tracked number entry present clean => ?_
        have before := dropped.present_before sound.keys present
        rw [mmResizePageTable_eq, sound.clean other tracked number entry before clean]
        by_cases same : other = fileTag
        · subst same
          refine (stored number ?_).symm
          by_contra beyond
          obtain ⟨_, positive, dropsIt⟩ :=
            keeps aligned accepted tracked _ (mem_residentPages.mpr before) (by omega)
          have held := present.held
          rw [page_truncated_mmResizePageTable,
            if_pos ⟨rfl, positive, findPageTable_isSome before.held⟩,
            if_neg (by omega)] at held
          simp at held
        · simp [truncated, MemoryManager.setBlocks, same]

theorem Sound.delete (sound : Sound scope none mm) {fileTag : FileTag} :
    Sound (scope.leak (mm.droppedFrames replies (.delete fileTag))) none
      (mm.executeInstruction replies (.delete fileTag)).memory := by
  have pageOf := @page_mmRemovePageTable config mm fileTag sound.keys
  have lost : lostFrames mm (mm.mmRemovePageTable fileTag) =
      mm.droppedFrames replies (.delete fileTag) := by
    ext frame
    constructor
    · rintro ⟨other, number, entry, present, rfl, missing⟩
      rw [pageOf] at missing
      split at missing
      · rename_i here
        subst here
        refine ⟨entry, ?_, present.present, rfl⟩
        exact mem_drop_table_iff.mpr ⟨number, Nat.zero_le _, present.held⟩
      · simp [present.held] at missing
    · rintro ⟨entry, member, present, rfl⟩
      have inTable : entry ∈ ((mm.findPageTable fileTag).getD []).drop 0 := member
      obtain ⟨number, _, held⟩ := mem_drop_table_iff.mp inTable
      exact ⟨fileTag, number, entry, ⟨held, present⟩, rfl, by rw [pageOf, if_pos rfl]⟩
  have storageEq : (mm.mmRemovePageTable fileTag).storage = mm.storage := by
    rw [mmRemovePageTable_eq]
  have dropped := dropped_mmRemovePageTable mm fileTag
  have removed := sound.dropped dropped fun other tracked number entry present clean => by
    rw [storageEq]
    exact sound.clean other tracked number entry
      (dropped.present_before sound.keys present) clean
  rw [lost] at removed
  rw [MemoryManager.executeInstruction]
  split
  · exact removed
  · refine removed.setBlocks fun _ number entry present => ?_
    have held := present.held
    rw [pageOf, if_pos rfl] at held
    simp at held

theorem setBlocks_storage_of_ne {fileTag other : FileTag} {blocks : Nat → Page config.pageSize}
    (different : other ≠ fileTag) :
    (mm.setBlocks fileTag blocks).storage other = mm.storage other := by
  simp [MemoryManager.setBlocks, different]

/-- Storage may replace a File:Tag that has no page in memory. -/
theorem Sound.setAbsentBlocks (sound : Sound scope none mm) {fileTag : FileTag}
    {blocks : Nat → Page config.pageSize}
    (absent : fileTag ∈ scope.coherent → mm.residentPages fileTag = [])
    (apart : ∀ other ∈ scope.spared, other ≠ fileTag) :
    Sound scope none (mm.setBlocks fileTag blocks) ∧
      ∀ other ∈ scope.spared, (mm.setBlocks fileTag blocks).storage other = mm.storage other := by
  constructor
  · apply sound.setBlocks
    intro tracked number entry present
    exact absurd present (not_present_of_residentPages (absent tracked) number entry)
  · exact fun other isSpared => setBlocks_storage_of_ne (apart other isSpared)

/-- An instruction keeps the invariant, up to the frames of the pages that it drops, and
does not touch the blocks of a File:Tag that it does not name and that has no dirty page. -/
theorem Sound.executeInstruction (sound : Sound scope none mm) {instruction : Instruction}
    (keeps : KeepsCoherent scope.coherent mm replies instruction)
    (notSpared : ∀ fileTag ∈ instruction.fileTags, fileTag ∉ scope.spared) :
    Sound (scope.leak (mm.droppedFrames replies instruction)) none
        (mm.executeInstruction replies instruction).memory ∧
      ∀ fileTag ∈ scope.spared,
        (mm.executeInstruction replies instruction).memory.storage fileTag =
          mm.storage fileTag := by
  have nothing : (∀ entry, entry ∉ mm.droppedPages replies instruction) →
      scope.leak (mm.droppedFrames replies instruction) = scope := by
    intro none
    have empty : mm.droppedFrames replies instruction = ∅ := by
      simp [droppedFrames, none]
    rw [empty, Scope.leak_empty]
  have apart : ∀ named ∈ instruction.fileTags, ∀ fileTag ∈ scope.spared, fileTag ≠ named := by
    rintro named isNamed fileTag isSpared rfl
    exact notSpared fileTag isNamed isSpared
  cases instruction with
  | create fileTag =>
      rw [nothing (by simp [droppedPages]), MemoryManager.executeInstruction]
      split
      · exact ⟨sound, fun _ _ => rfl⟩
      · rename_i accepted
        exact sound.setAbsentBlocks (keeps (by simpa using accepted))
          (apart _ (by simp [Instruction.fileTags]))
  | truncate fileTag size =>
      refine ⟨sound.truncate keeps, fun other isSpared => ?_⟩
      have different := apart fileTag (by simp [Instruction.fileTags]) other isSpared
      rcases @truncate_cases config mm replies fileTag size with
        ⟨outcome, _⟩ | ⟨_, _, outcome⟩
      · rw [outcome]
      · rw [outcome]
        dsimp only
        split
        · rw [mmResizePageTable_eq]
          exact setBlocks_storage_of_ne different
        · exact setBlocks_storage_of_ne different
  | write fileTag base data =>
      rw [nothing (by simp [droppedPages])]
      have creating := Unmoved.mmCreatePageTable mm fileTag
      obtain ⟨after, stored, _⟩ := (creating.sound sound).mmWriteToMemory
        (notSpared fileTag (by simp [Instruction.fileTags])) rfl
      refine ⟨after, fun other isSpared => ?_⟩
      rw [← creating.storage]
      exact stored other isSpared
  | read fileTag base size =>
      have creating := Unmoved.mmCreatePageTable mm fileTag
      have created := Kept.of_unmoved sound creating
      rw [nothing (by simp [droppedPages]), MemoryManager.executeInstruction]
      split
      · exact ⟨created.sound, created.stored⟩
      · split
        · rename_i failed reading
          have kept := created.trans (created.sound.mmReadFromMemory reading).1
          exact ⟨kept.sound, kept.stored⟩
        · rename_i content after reading
          have kept := created.trans (created.sound.mmReadFromMemory reading).1
          split
          · exact ⟨kept.sound, kept.stored⟩
          · exact ⟨kept.sound, kept.stored⟩
  | tag source target =>
      rw [nothing (by simp [droppedPages]), MemoryManager.executeInstruction]
      split
      · exact ⟨sound, fun _ _ => rfl⟩
      · rename_i accepted
        exact sound.setAbsentBlocks (keeps (by simpa using accepted))
          (apart _ (by simp [Instruction.fileTags]))
  | commit fileTag =>
      rw [nothing (by simp [droppedPages])]
      obtain ⟨kept, _⟩ :=
        sound.mmFlushQuery (rfl : mm.mmFlushQuery replies.faults fileTag = (_, _))
      exact ⟨kept.sound, kept.stored⟩
  | flush fileTag =>
      rw [nothing (by simp [droppedPages])]
      obtain ⟨kept, _⟩ :=
        sound.mmFlushQuery (rfl : mm.mmFlushQuery replies.faults fileTag = (_, _))
      exact ⟨kept.sound, kept.stored⟩
  | delete fileTag =>
      refine ⟨sound.delete, fun other isSpared => ?_⟩
      have different := apart fileTag (by simp [Instruction.fileTags]) other isSpared
      rw [MemoryManager.executeInstruction]
      split
      · rw [mmRemovePageTable_eq]
      · rw [setBlocks_storage_of_ne different, mmRemovePageTable_eq]
  | finish =>
      rw [nothing (by simp [droppedPages])]
      exact ⟨sound, fun _ _ => rfl⟩

end Instructions

end MemoryManager

end Worker

end MasterOfFiles
