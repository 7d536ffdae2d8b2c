import MasterOfFiles.WorkerMemoryViews
import MasterOfFiles.WorkerVictimSearches

/-!
# Runs that change the record

A run creates and removes page tables, serves or abandons page faults and touches pages.  Every
call keeps the invariant of the tables and the strings, and a page fault takes at most one page
out of its frame, which it puts on record.
-/

namespace MasterOfFiles

namespace Worker

inductive MemoryChange
  | setStorageConnection (connected : Bool)
  | createPageTable (fileTag : FileTag)
  | removePageTable (fileTag : FileTag)
  | pageFault (faults : StorageFaults) (fileTag : FileTag) (pageNumber : UInt32)
  | updatePageAccess (fileTag : FileTag) (pageNumber : UInt32)
  | setDirty (fileTag : FileTag) (pageNumber : UInt32) (dirty : Bool)

namespace RecordedMemory

open MemoryManager

variable {config : MemoryConfig}

/-- The replacement that a call reports and the state it leaves; the outer `none` says that its
search for a victim is not over after some number of rounds. -/
def perform (rounds : Nat) (state : RecordedMemory config) :
    MemoryChange → Option (Option Replacement × RecordedMemory config)
  | .setStorageConnection connected =>
    some (none, state.withMemory { state.memory with connected := connected })
  | .createPageTable fileTag => some (none, state.mmCreatePageTable fileTag)
  | .removePageTable fileTag => some (none, state.mmRemovePageTable fileTag)
  | .pageFault faults fileTag pageNumber =>
    (state.mmHandlePageFault faults rounds fileTag pageNumber.toNat).map Prod.snd
  | .updatePageAccess fileTag pageNumber =>
    some (none, state.withMemory (state.memory.mmUpdatePageAccess fileTag pageNumber.toNat))
  | .setDirty fileTag pageNumber dirty =>
    some (none, state.withMemory (state.memory.ptSetDirty fileTag pageNumber.toNat dirty))

def Returns (state : RecordedMemory config) (change : MemoryChange)
    (report : Option Replacement) (after : RecordedMemory config) : Prop :=
  ∃ rounds, state.perform rounds change = some (report, after)

/-- A memory manager as `mm_create` returns it. -/
structure Created (state : RecordedMemory config) : Prop where
  memory : MemoryManager.Created state.memory
  apart : state.memory.connected = false
  names : ∀ fileTag, state.names fileTag = none
  lastVictimFile : state.lastVictimFile = none
  lastVictimTag : state.lastVictimTag = none
  lastVictimPage : state.lastVictimPage = 0
  lastVictimValid : state.lastVictimValid = false

def recordSystem (config : MemoryConfig) :
    TransitionSystem (RecordedMemory config) MemoryChange where
  initial := Created
  step before change after := ∃ report, before.Returns change report after

/-- A page fault gets a frame. -/
def Allocates (faults : StorageFaults) (state : RecordedMemory config) (fileTag : FileTag)
    (pageNumber frame : Nat) (allocated : RecordedMemory config) : Prop :=
  ∃ grown rounds, state.memory.growTable fileTag pageNumber = some grown ∧
    grown.connected = true ∧
    (state.withMemory grown).mmAllocateFrame faults rounds = some (some frame, allocated)

/-- A page leaves its frame in a call. -/
def EvictedBy (state : RecordedMemory config) : MemoryChange → FileTag → Nat → Prop
  | .pageFault faults fileTag pageNumber, victimTag, victimPage =>
    ∃ frame allocated place, state.Allocates faults fileTag pageNumber.toNat frame allocated ∧
      state.memory.InFrame victimTag victimPage place ∧
      ¬ allocated.memory.InFrame victimTag victimPage place
  | _, _, _ => False

section Invariant

variable {state after : RecordedMemory config} {mm : MemoryManager config}

/-- The invariant stays when no entry comes or goes and every page stays in a frame that exists. -/
theorem Tidy.of_frames (tidy : Tidy state) (namesEq : after.names = state.names)
    (keysEq : after.memory.entries.map Prod.fst = state.memory.entries.map Prod.fst)
    (frame_lt : ∀ fileTag number frame, after.memory.InFrame fileTag number frame →
      frame < config.frameCount) : Tidy after where
  keys := by
    rw [keysEq]
    exact tidy.keys
  named fileTag := by
    rw [namesEq, isSome_findPageTable_of_keys keysEq]
    exact tidy.named fileTag
  text fileTag := by
    rw [namesEq]
    exact tidy.text fileTag
  frame_lt := frame_lt

theorem Tidy.of_samePlaces (tidy : Tidy state) (same : SamePlaces state.memory mm) :
    Tidy (state.withMemory mm) :=
  tidy.of_frames rfl same.keys fun fileTag number frame inFrame =>
    tidy.frame_lt fileTag number frame (same.inFrame_iff.mp inFrame)

theorem Tidy.growTable (tidy : Tidy state) {fileTag : FileTag} {pageNumber : Nat}
    (numberLt : pageNumber < 2 ^ 32)
    (growing : state.memory.growTable fileTag pageNumber = some mm) :
    Tidy (state.withMemory mm) := by
  obtain ⟨keys, frames, _⟩ := growTable_frames numberLt growing
  exact tidy.of_frames rfl keys fun other position place inFrame =>
    tidy.frame_lt other position place ((frames other position place).mp inFrame)

theorem Tidy.mmCreatePageTable (tidy : Tidy state) (fileTag : FileTag) :
    Tidy (state.mmCreatePageTable fileTag) := by
  unfold RecordedMemory.mmCreatePageTable
  split
  · exact tidy
  · rename_i missing
    have entriesEq : (state.memory.mmCreatePageTable fileTag).entries =
        state.memory.entries ++ [(fileTag, [freshEntry 0])] := by
      rw [MemoryManager.mmCreatePageTable, missing]
    refine ⟨(Unmoved.mmCreatePageTable state.memory fileTag).keys tidy.keys, ?_, ?_, ?_⟩
    · intro other
      have named := tidy.named other
      rw [Bool.eq_iff_iff, findPageTable_isSome_iff] at named ⊢
      rw [entriesEq, List.map_append, List.mem_append, ← named]
      by_cases same : other = fileTag
      · simp [same]
      · simp [same]
    · intro other names held
      dsimp only at held
      by_cases same : other = fileTag
      · subst same
        rw [Function.update_self] at held
        cases held
        exact ⟨rfl, rfl⟩
      · rw [Function.update_of_ne same] at held
        exact tidy.text other names held
    · rintro other number frame ⟨entry, present, rfl⟩
      exact tidy.frame_lt other number _ ⟨entry, present.of_mmCreatePageTable, rfl⟩

theorem Tidy.mmRemovePageTable (tidy : Tidy state) (fileTag : FileTag) :
    Tidy (state.mmRemovePageTable fileTag) := by
  unfold RecordedMemory.mmRemovePageTable
  split
  · exact tidy
  · refine ⟨keys_mmRemovePageTable tidy.keys, ?_, ?_, ?_⟩
    · intro other
      dsimp only
      rw [findPageTable_mmRemovePageTable tidy.keys]
      by_cases same : other = fileTag
      · simp [same]
      · rw [Function.update_of_ne same, if_neg same]
        exact tidy.named other
    · intro other names held
      dsimp only at held
      by_cases same : other = fileTag
      · subst same
        rw [Function.update_self] at held
        cases held
      · rw [Function.update_of_ne same] at held
        exact tidy.text other names held
    · rintro other number frame ⟨entry, ⟨held, present⟩, rfl⟩
      dsimp only at held
      rw [page_mmRemovePageTable tidy.keys] at held
      split at held
      · cases held
      · exact tidy.frame_lt other number _ ⟨entry, ⟨held, present⟩, rfl⟩

end Invariant

section Allocation

variable {faults : StorageFaults} {state allocated : RecordedMemory config} {fileTag : FileTag}
  {pageNumber frame : Nat}

theorem Allocates.unique {other : Nat} {different : RecordedMemory config}
    (first : state.Allocates faults fileTag pageNumber frame allocated)
    (second : state.Allocates faults fileTag pageNumber other different) :
    frame = other ∧ allocated = different := by
  obtain ⟨grown, rounds, growing, _, allocates⟩ := first
  obtain ⟨grownToo, roundsToo, growingToo, _, allocatesToo⟩ := second
  rw [growing] at growingToo
  cases growingToo
  cases mmAllocateFrame_unique allocates allocatesToo
  exact ⟨rfl, rfl⟩

/-- The frame of a page fault was free, or one page has left it and is on record. -/
inductive AllocatedFrom (state : RecordedMemory config) (frame : Nat) :
    RecordedMemory config → Prop
  | free {mm : MemoryManager config}
      (keys : mm.entries.map Prod.fst = state.memory.entries.map Prod.fst)
      (frames : ∀ other position place,
        mm.InFrame other position place ↔ state.memory.InFrame other position place) :
      AllocatedFrom state frame (state.withMemory mm)
  | evicted {mm : MemoryManager config} {victimTag : FileTag} {victimPage : Nat}
      (keys : mm.entries.map Prod.fst = state.memory.entries.map Prod.fst)
      (inFrame : state.memory.InFrame victimTag victimPage frame)
      (frames : ∀ other position place, mm.InFrame other position place ↔
        ¬ (other = victimTag ∧ position = victimPage) ∧
          state.memory.InFrame other position place) :
      AllocatedFrom state frame ((state.withMemory mm).recordVictim victimTag victimPage)

theorem Tidy.allocatedFrom (tidy : Tidy state) (numberLt : pageNumber < 2 ^ 32)
    (allocates : state.Allocates faults fileTag pageNumber frame allocated) :
    AllocatedFrom state frame allocated := by
  obtain ⟨grown, rounds, growing, _, allocation⟩ := allocates
  obtain ⟨grownKeys, grownFrames, _⟩ := growTable_frames numberLt growing
  cases tidy.allocationEnds numberLt growing allocation with
  | free _ _ =>
      have same : SamePlaces grown (grown.setUsed frame true) := SamePlaces.of_entries rfl
      exact .free grownKeys fun other position place =>
        same.inFrame_iff.trans (grownFrames other position place)
  | evicted _ evicts =>
      refine .evicted (evicts.keys.trans grownKeys) ((grownFrames _ _ _).mp evicts.evicted) ?_
      intro other position place
      rw [evicts.inFrame_iff]
      exact and_congr_right fun _ => grownFrames other position place

theorem AllocatedFrom.tidy (allocation : AllocatedFrom state frame allocated)
    (tidy : Tidy state) : Tidy allocated := by
  cases allocation with
  | free keys frames =>
      exact tidy.of_frames rfl keys fun other position place inFrame =>
        tidy.frame_lt other position place ((frames other position place).mp inFrame)
  | evicted keys _ frames =>
      exact tidy.of_frames rfl keys fun other position place inFrame =>
        tidy.frame_lt other position place ((frames other position place).mp inFrame).2

theorem evictedBy_iff {pageNumber : UInt32}
    (allocates : state.Allocates faults fileTag pageNumber.toNat frame allocated)
    {victimTag : FileTag} {victimPage : Nat} :
    state.EvictedBy (.pageFault faults fileTag pageNumber) victimTag victimPage ↔
      ∃ place, state.memory.InFrame victimTag victimPage place ∧
        ¬ allocated.memory.InFrame victimTag victimPage place := by
  constructor
  · rintro ⟨other, different, place, allocatesToo, before, gone⟩
    obtain ⟨rfl, rfl⟩ := allocates.unique allocatesToo
    exact ⟨place, before, gone⟩
  · rintro ⟨place, before, gone⟩
    exact ⟨frame, allocated, place, allocates, before, gone⟩

/-- A page fault that gets a frame gives it back when Storage refuses the block, and ends with a
report and a cleared record when Storage has it. -/
theorem Tidy.fault_of_allocates (tidy : Tidy state) (numberLt : pageNumber < 2 ^ 32)
    (allocates : state.Allocates faults fileTag pageNumber frame allocated) {rounds : Nat}
    {done : Bool} {report : Option Replacement} {after : RecordedMemory config}
    (returns : state.mmHandlePageFault faults rounds fileTag pageNumber =
      some (done, report, after)) :
    frame < config.frameCount ∧
      ((faults allocated.memory.requests = true ∧ report = none ∧
          ∃ mm : MemoryManager config, after = allocated.withMemory (mm.mmFreeFrame frame)) ∨
        (faults allocated.memory.requests = false ∧ report = allocated.replacement)) := by
  obtain ⟨grown, others, growing, connected, allocation⟩ := allocates
  cases tidy.faultEnds numberLt returns with
  | notGrown fails =>
      rw [growing] at fails
      cases fails
  | apart growingToo apart =>
      rw [growing] at growingToo
      cases growingToo
      rw [connected] at apart
      cases apart
  | noVictim growingToo allocationToo _ _ =>
      rw [growing] at growingToo
      cases growingToo
      cases mmAllocateFrame_unique allocation allocationToo
  | refused growingToo _ allocationToo frameLt refuses =>
      rw [growing] at growingToo
      cases growingToo
      cases mmAllocateFrame_unique allocation allocationToo
      exact ⟨frameLt, Or.inl ⟨refuses, rfl, _, rfl⟩⟩
  | served growingToo _ allocationToo frameLt accepts _ _ =>
      rw [growing] at growingToo
      cases growingToo
      cases mmAllocateFrame_unique allocation allocationToo
      exact ⟨frameLt, Or.inr ⟨accepts, rfl⟩⟩

theorem Tidy.names_of_inFrame (tidy : Tidy state) {number : Nat}
    (inFrame : state.memory.InFrame fileTag number frame) :
    ∃ names, state.names fileTag = some names := by
  obtain ⟨entry, present, _⟩ := inFrame
  rw [← Option.isSome_iff_exists, tidy.named]
  obtain ⟨table, found, _⟩ := Option.bind_eq_some_iff.mp present.held
  rw [found]
  rfl

theorem Tidy.pageFault (tidy : Tidy state) (numberLt : pageNumber < 2 ^ 32) {rounds : Nat}
    {done : Bool} {report : Option Replacement} {after : RecordedMemory config}
    (returns : state.mmHandlePageFault faults rounds fileTag pageNumber =
      some (done, report, after)) : Tidy after := by
  cases tidy.faultEnds numberLt returns with
  | notGrown _ => exact tidy
  | apart growing _ => exact tidy.growTable numberLt growing
  | noVictim growing _ _ same => exact (tidy.growTable numberLt growing).of_samePlaces same
  | refused growing connected allocates _ _ =>
      have allocated := (tidy.allocatedFrom numberLt
        ⟨_, rounds, growing, connected, allocates⟩).tidy tidy
      refine allocated.of_samePlaces (SamePlaces.of_entries ?_)
      rw [mmFreeFrame]
      split
      · rfl
      · rfl
  | served growing connected allocates frameLt _ keys frames =>
      have allocated := (tidy.allocatedFrom numberLt
        ⟨_, rounds, growing, connected, allocates⟩).tidy tidy
      refine allocated.of_frames rfl keys fun other position place inFrame => ?_
      rcases frames other position place inFrame with rfl | before
      · exact frameLt
      · exact allocated.frame_lt other position place before

end Allocation

section Runs

variable {first state after : RecordedMemory config} {changes : List MemoryChange}
  {change : MemoryChange} {report : Option Replacement}

theorem Returns.pageFault {faults : StorageFaults} {fileTag : FileTag} {pageNumber : UInt32}
    (returns : state.Returns (.pageFault faults fileTag pageNumber) report after) :
    ∃ rounds done, state.mmHandlePageFault faults rounds fileTag pageNumber.toNat =
      some (done, report, after) := by
  obtain ⟨rounds, ends⟩ := returns
  obtain ⟨⟨done, outcome⟩, fault, rfl⟩ := Option.map_eq_some_iff.mp ends
  exact ⟨rounds, done, fault⟩

theorem Tidy.returns (tidy : Tidy state) (returns : state.Returns change report after) :
    Tidy after := by
  cases change with
  | pageFault faults fileTag pageNumber =>
      obtain ⟨rounds, done, fault⟩ := returns.pageFault
      exact tidy.pageFault pageNumber.toNat_lt fault
  | setStorageConnection connected =>
      obtain ⟨rounds, ends⟩ := returns
      cases ends
      exact tidy.of_samePlaces (SamePlaces.of_entries rfl)
  | createPageTable fileTag =>
      obtain ⟨rounds, ends⟩ := returns
      cases ends
      exact tidy.mmCreatePageTable fileTag
  | removePageTable fileTag =>
      obtain ⟨rounds, ends⟩ := returns
      cases ends
      exact tidy.mmRemovePageTable fileTag
  | updatePageAccess fileTag pageNumber =>
      obtain ⟨rounds, ends⟩ := returns
      cases ends
      exact tidy.of_samePlaces (samePlaces_mmUpdatePageAccess _ _ _)
  | setDirty fileTag pageNumber dirty =>
      obtain ⟨rounds, ends⟩ := returns
      cases ends
      exact tidy.of_samePlaces (SamePlaces.modifyPage fun _ => rfl)

theorem Created.tidy (created : first.Created) : Tidy first := by
  have noEntries := created.memory.1
  refine ⟨?_, ?_, ?_, ?_⟩
  · rw [noEntries]
    exact List.nodup_nil
  · intro fileTag
    rw [created.names, findPageTable, noEntries]
    rfl
  · intro fileTag names held
    rw [created.names] at held
    cases held
  · rintro fileTag number frame ⟨entry, present, rfl⟩
    have held := present.held
    rw [page, findPageTable, noEntries] at held
    cases held

theorem Tidy.run (tidy : Tidy first) (run : (recordSystem config).Run first changes state) :
    Tidy state := by
  have kept : (recordSystem config).Preserves Tidy := by
    intro before change after stillTidy step
    obtain ⟨report, returns⟩ := step
    exact stillTidy.returns returns
  exact run.preserves kept tidy

end Runs

end RecordedMemory

end Worker

end MasterOfFiles
