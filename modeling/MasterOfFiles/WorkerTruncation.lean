import MasterOfFiles.WorkerFlushes

/-!
# What TRUNCATE does to the cached pages

After Storage has accepted a TRUNCATE the page table is resized to the new page count, and the
result is ignored.  `pt_resize` refuses the count zero, and it fails when `realloc` does; both leave
every page where it was.
-/

namespace MasterOfFiles

namespace Worker

namespace MemoryManager

variable {config : MemoryConfig} {mm before after : MemoryManager config} {replies : Replies}
  {fileTag : FileTag} {size : Int32}

/-- The dirty flag and the frame of a page, if it is present. -/
def presentState (mm : MemoryManager config) (fileTag : FileTag) (number : Nat) :
    Option (Bool × Nat) :=
  ((mm.page fileTag number).filter PageEntry.present).map fun entry => (entry.dirty, entry.frame)

/-- The cache has followed a truncation to `count` pages: no page from `count` on is present, so an
access to one is a page fault; the pages below are present as before, with the same dirty flags,
frames and bytes. -/
structure SeesTruncation (fileTag : FileTag) (count : Nat)
    (before after : MemoryManager config) : Prop where
  gone : ∀ number, count ≤ number → ∀ entry, ¬ after.Present fileTag number entry
  faults : ∀ number, count ≤ number → ∀ faults,
    after.ensurePresent faults fileTag number =
      match after.growTable fileTag number with
      | none => (false, after)
      | some grown => grown.mmHandlePageFault faults fileTag number
  kept : ∀ number < count,
    after.presentState fileTag number = before.presentState fileTag number
  physicalMemory : after.physicalMemory = before.physicalMemory

/-- Whether the page table is resized: there is memory for it and the new count is not zero. -/
def Resizes (config : MemoryConfig) (replies : Replies) (size : Int32) : Prop :=
  replies.allocated = true ∧ newPageCount config size ≠ 0

instance (config : MemoryConfig) (replies : Replies) (size : Int32) :
    Decidable (Resizes config replies size) :=
  inferInstanceAs (Decidable (_ ∧ _))

/-- When the table is resized, no present page lies between the new count, a `uint32_t`, and the
quotient that was cut down to it; when it is not, no page from the quotient on is present. -/
def TruncatesCache (mm : MemoryManager config) (replies : Replies) (fileTag : FileTag)
    (size : Int32) : Prop :=
  ∀ number entry, mm.Present fileTag number entry →
    (Resizes config replies size → number < sizeOfInt size / config.pageSize →
      number < newPageCount config size) ∧
    (¬ Resizes config replies size → number < sizeOfInt size / config.pageSize)

theorem ensurePresent_of_absent {number : Nat}
    (absent : ∀ entry, ¬ mm.Present fileTag number entry) (faults : StorageFaults) :
    mm.ensurePresent faults fileTag number =
      match mm.growTable fileTag number with
      | none => (false, mm)
      | some grown => grown.mmHandlePageFault faults fileTag number := by
  unfold ensurePresent
  cases growing : mm.growTable fileTag number with
  | none => rfl
  | some grown =>
      have stillAbsent : (grown.page fileTag number).any PageEntry.present = false := by
        by_contra isPresent
        obtain ⟨entry, held, present⟩ := (Option.any_eq_true _ _).mp (by simpa using isPresent)
        have shown : grown.Present fileTag number entry := ⟨held, present⟩
        exact absent entry (shown.of_growTable growing)
      simp [stillAbsent]

theorem executeInstruction_truncate (aligned : sizeOfInt size % config.pageSize = 0)
    (accepted : replies.accepted = true) (mm : MemoryManager config) (fileTag : FileTag) :
    (mm.executeInstruction replies (.truncate fileTag size)).memory.physicalMemory =
        mm.physicalMemory ∧
      ∀ number, (mm.executeInstruction replies (.truncate fileTag size)).memory.page fileTag
          number =
        if Resizes config replies size ∧ (mm.findPageTable fileTag).isSome then
          if number < newPageCount config size then
            some ((mm.page fileTag number).getD (freshEntry number))
          else none
        else mm.page fileTag number := by
  have blocks : ∀ blocks : Nat → Page config.pageSize,
      (mm.setBlocks fileTag blocks).page = mm.page := fun _ => page_of_entries rfl
  have tables : ∀ blocks : Nat → Page config.pageSize,
      (mm.setBlocks fileTag blocks).findPageTable = mm.findPageTable := fun _ => rfl
  simp only [executeInstruction, aligned, accepted, ne_eq, not_true_eq_false, if_false,
    Bool.not_true, Bool.false_eq_true]
  by_cases allocated : replies.allocated = true
  · have resizes : Resizes config replies size ↔ newPageCount config size ≠ 0 :=
      and_iff_right allocated
    rw [if_neg (by simp [allocated])]
    constructor
    · rw [mmResizePageTable_eq]
      rfl
    · intro number
      rw [page_mmResizePageTable, blocks, tables]
      simp only [resizes, true_and]
  · have keepsTable : ¬ Resizes config replies size := fun resizes => allocated resizes.1
    rw [if_pos (by simpa using allocated)]
    exact ⟨rfl, fun number => by rw [blocks, if_neg fun resized => keepsTable resized.1]⟩

theorem Present.presentState {number : Nat} {entry : PageEntry}
    (present : mm.Present fileTag number entry) :
    mm.presentState fileTag number = some (entry.dirty, entry.frame) := by
  simp [MemoryManager.presentState, present.held, present.present]

/-- A cache that follows a TRUNCATE had no page that is neither kept nor dropped as it should. -/
theorem truncatesCache_of_seen (aligned : sizeOfInt size % config.pageSize = 0)
    (accepted : replies.accepted = true)
    (seen : SeesTruncation fileTag (sizeOfInt size / config.pageSize) mm
      (mm.executeInstruction replies (.truncate fileTag size)).memory) :
    mm.TruncatesCache replies fileTag size := by
  obtain ⟨_, pageEq⟩ := executeInstruction_truncate aligned accepted mm fileTag
  intro number entry present
  have table := findPageTable_isSome present.held
  constructor
  · intro resizes below
    have kept := seen.kept number below
    rw [present.presentState, presentState, pageEq, if_pos ⟨resizes, table⟩] at kept
    by_contra above
    simp [above] at kept
  · intro keepsTable
    by_contra above
    refine seen.gone number (by omega) entry ⟨?_, present.present⟩
    rw [pageEq, if_neg fun resizes => keepsTable resizes.1]
    exact present.held

theorem absent_of_truncatesCache (aligned : sizeOfInt size % config.pageSize = 0)
    (accepted : replies.accepted = true) (truncates : mm.TruncatesCache replies fileTag size)
    {number : Nat} (above : sizeOfInt size / config.pageSize ≤ number) (entry : PageEntry) :
    ¬ (mm.executeInstruction replies (.truncate fileTag size)).memory.Present fileTag number
      entry := by
  obtain ⟨_, pageEq⟩ := executeInstruction_truncate aligned accepted mm fileTag
  have cut : newPageCount config size ≤ sizeOfInt size / config.pageSize := Nat.mod_le _ _
  intro present
  have held := present.held
  rw [pageEq] at held
  split at held
  · rw [if_neg (by omega)] at held
    cases held
  · rename_i keepsTable
    have table := findPageTable_isSome held
    have below := (truncates number entry ⟨held, present.present⟩).2
      fun resizes => keepsTable ⟨resizes, table⟩
    omega

theorem presentState_of_truncatesCache (aligned : sizeOfInt size % config.pageSize = 0)
    (accepted : replies.accepted = true) (truncates : mm.TruncatesCache replies fileTag size)
    {number : Nat} (below : number < sizeOfInt size / config.pageSize) :
    (mm.executeInstruction replies (.truncate fileTag size)).memory.presentState fileTag number =
      mm.presentState fileTag number := by
  obtain ⟨_, pageEq⟩ := executeInstruction_truncate aligned accepted mm fileTag
  by_cases resized : Resizes config replies size ∧ (mm.findPageTable fileTag).isSome
  · by_cases inside : number < newPageCount config size
    · rw [presentState, pageEq, if_pos resized, if_pos inside, presentState]
      cases held : mm.page fileTag number with
      | none => rfl
      | some entry => rfl
    · rw [presentState, pageEq, if_pos resized, if_neg inside, presentState]
      cases held : mm.page fileTag number with
      | none => rfl
      | some entry =>
          cases isPresent : entry.present with
          | false => simp [isPresent]
          | true =>
              exact absurd ((truncates number entry ⟨held, isPresent⟩).1 resized.1 below) inside
  · rw [presentState, pageEq, if_neg resized, presentState]

/-- For every state of the memory, the cache follows a TRUNCATE that Storage accepts exactly when
the table is resized to the whole count or no page is left to be dropped. -/
theorem truncate_seen_iff (mm : MemoryManager config) (replies : Replies) (fileTag : FileTag)
    (size : Int32) (aligned : sizeOfInt size % config.pageSize = 0)
    (accepted : replies.accepted = true) :
    SeesTruncation fileTag (sizeOfInt size / config.pageSize) mm
        (mm.executeInstruction replies (.truncate fileTag size)).memory ↔
      mm.TruncatesCache replies fileTag size := by
  constructor
  · exact truncatesCache_of_seen aligned accepted
  · intro truncates
    have gone := fun number (above : sizeOfInt size / config.pageSize ≤ number) =>
      absent_of_truncatesCache aligned accepted truncates above
    exact ⟨gone, fun number above => ensurePresent_of_absent (gone number above),
      fun number below => presentState_of_truncatesCache aligned accepted truncates below,
      (executeInstruction_truncate aligned accepted mm fileTag).1⟩

/-- A file of one written page that is truncated to one page. -/
theorem truncate_seen_iff_of_onePage :
    SeesTruncation ⟨"MATERIAS", "BASE"⟩ (sizeOfInt 2 / twoFrameConfig.pageSize) twoFilesWritten
        (twoFilesWritten.executeInstruction noFailures
          (.truncate ⟨"MATERIAS", "BASE"⟩ 2)).memory ↔
      twoFilesWritten.TruncatesCache noFailures ⟨"MATERIAS", "BASE"⟩ 2 :=
  truncate_seen_iff twoFilesWritten noFailures ⟨"MATERIAS", "BASE"⟩ 2 (by decide) rfl

/-- Truncated to zero bytes, the same file keeps its page: Storage has no block left, and the
Worker still reads the byte. -/
theorem truncate_to_zero_keeps_page :
    ∃ after, (instructionSystem twoFrameConfig).Reachable twoFilesWritten ∧
      noFailures.accepted = true ∧
      twoFilesWritten.executeInstruction noFailures (.truncate ⟨"MATERIAS", "BASE"⟩ 0) =
        ⟨true, none, after⟩ ∧
      (after.page ⟨"MATERIAS", "BASE"⟩ 0).map PageEntry.present = some true ∧
      (after.executeInstruction noFailures (.read ⟨"MATERIAS", "BASE"⟩ 0 1)).content =
        some [65] ∧
      ¬ SeesTruncation ⟨"MATERIAS", "BASE"⟩ (sizeOfInt 0 / twoFrameConfig.pageSize)
        twoFilesWritten after := by
  have kept : ((twoFilesWritten.executeInstruction noFailures
      (.truncate ⟨"MATERIAS", "BASE"⟩ 0)).memory.page ⟨"MATERIAS", "BASE"⟩ 0).any
        PageEntry.present = true := by decide +kernel
  refine ⟨_, reachable_twoFilesWritten, rfl, rfl, by decide +kernel, by decide +kernel, ?_⟩
  intro seen
  obtain ⟨entry, held, present⟩ := (Option.any_eq_true _ _).mp kept
  exact seen.gone 0 (Nat.le_refl _) entry ⟨held, present⟩

/-- For the sizes that are not negative the quotient fits in a `uint32_t`, so only the new size zero
and a failed `realloc` matter. -/
theorem truncatesCache_iff_of_nonneg (mm : MemoryManager config) (replies : Replies)
    (fileTag : FileTag) (notNegative : 0 ≤ size.toInt) :
    mm.TruncatesCache replies fileTag size ↔ Resizes config replies size ∨
      ∀ number entry, mm.Present fileTag number entry →
        number < sizeOfInt size / config.pageSize := by
  have bound := size.toInt_lt
  have whole : newPageCount config size = sizeOfInt size / config.pageSize := by
    apply Nat.mod_eq_of_lt
    apply (Nat.div_le_self _ _).trans_lt
    unfold sizeOfInt
    omega
  constructor
  · intro truncates
    by_cases resizes : Resizes config replies size
    · exact Or.inl resizes
    · exact Or.inr fun number entry present => (truncates number entry present).2 resizes
  · intro condition number entry present
    refine ⟨fun _ below => by rw [whole]; exact below, fun keepsTable => ?_⟩
    rcases condition with resizes | below
    · exact absurd resizes keepsTable
    · exact below number entry present

end MemoryManager

end Worker

end MasterOfFiles
