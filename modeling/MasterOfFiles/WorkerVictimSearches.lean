import MasterOfFiles.WorkerClock
import MasterOfFiles.WorkerVictimRecord

/-!
# What a page fault leaves in the record

A search without a victim leaves the record alone; one with a victim takes one page out of its
frame and records that page.  The record is set before the block of the fault is read, so it is
still there when Storage refuses the block.
-/

namespace MasterOfFiles

namespace Worker

namespace MemoryManager

variable {config : MemoryConfig} {mm middle after : MemoryManager config}
  {fileTag other : FileTag} {number position frame place : Nat} {entry : PageEntry}

def InFrame (mm : MemoryManager config) (fileTag : FileTag) (number frame : Nat) : Prop :=
  ∃ entry, mm.Present fileTag number entry ∧ entry.frame = frame

def placed (entry : PageEntry) : Bool × Nat :=
  (entry.present, entry.frame)

theorem inFrame_iff : mm.InFrame fileTag number frame ↔
    (mm.page fileTag number).map placed = some (true, frame) := by
  rw [Option.map_eq_some_iff]
  constructor
  · rintro ⟨entry, ⟨held, present⟩, rfl⟩
    exact ⟨entry, held, Prod.ext present rfl⟩
  · rintro ⟨entry, held, same⟩
    exact ⟨entry, ⟨held, (Prod.mk.inj same).1⟩, (Prod.mk.inj same).2⟩

structure SamePlaces (mm after : MemoryManager config) : Prop where
  keys : after.entries.map Prod.fst = mm.entries.map Prod.fst
  places : ∀ fileTag number,
    (after.page fileTag number).map placed = (mm.page fileTag number).map placed

theorem SamePlaces.of_entries (entriesEq : after.entries = mm.entries) :
    SamePlaces mm after where
  keys := by rw [entriesEq]
  places fileTag number := by rw [page_of_entries entriesEq]

theorem SamePlaces.trans (first : SamePlaces mm middle) (second : SamePlaces middle after) :
    SamePlaces mm after where
  keys := second.keys.trans first.keys
  places fileTag number := (second.places fileTag number).trans (first.places fileTag number)

theorem SamePlaces.modifyPage {change : PageEntry → PageEntry}
    (keeps : ∀ entry, placed (change entry) = placed entry) :
    SamePlaces mm (mm.modifyPage fileTag number change) where
  keys := keys_modifyTable mm fileTag _
  places other position := by
    rw [page_modifyPage]
    split
    · rename_i here
      obtain ⟨rfl, rfl⟩ := here
      cases mm.page other position with
      | none => rfl
      | some entry => simp [keeps]
    · rfl

theorem SamePlaces.inFrame_iff (same : SamePlaces mm after) :
    after.InFrame fileTag number frame ↔ mm.InFrame fileTag number frame := by
  rw [MemoryManager.inFrame_iff, MemoryManager.inFrame_iff, same.places]

theorem SamePlaces.isSome_page (same : SamePlaces mm after) :
    (after.page fileTag number).isSome = (mm.page fileTag number).isSome := by
  rw [← Option.isSome_map (f := placed), same.places, Option.isSome_map]

/-- One page has left its frame and all others are where they were. -/
structure Evicts (mm after : MemoryManager config) (fileTag : FileTag) (number frame : Nat) :
    Prop where
  keys : after.entries.map Prod.fst = mm.entries.map Prod.fst
  evicted : mm.InFrame fileTag number frame
  inFrame_iff : ∀ other position place, after.InFrame other position place ↔
    ¬(other = fileTag ∧ position = number) ∧ mm.InFrame other position place
  isSome_page : ∀ other position,
    (after.page other position).isSome = (mm.page other position).isSome

theorem InFrame.evicts (inFrame : mm.InFrame fileTag number frame) :
    Evicts mm (mm.evict fileTag number frame) fileTag number frame where
  keys := keys_modifyTable mm fileTag _
  evicted := inFrame
  inFrame_iff other position place := by
    obtain ⟨entry, present, _⟩ := inFrame
    constructor
    · rintro ⟨found, foundPresent, rfl⟩
      obtain ⟨elsewhere, before⟩ := (present_evict present.held).mp foundPresent
      exact ⟨elsewhere, found, before, rfl⟩
    · rintro ⟨elsewhere, found, before, rfl⟩
      exact ⟨found, (present_evict present.held).mpr ⟨elsewhere, before⟩, rfl⟩
  isSome_page other position := by
    have pageEq : (mm.evict fileTag number frame).page other position =
        (mm.ptUnmap fileTag number).page other position := rfl
    rw [pageEq, ptUnmap, page_modifyPage]
    split
    · rename_i here
      rw [here.1, here.2, Option.isSome_map]
    · rfl

theorem SamePlaces.evicts (same : SamePlaces mm middle)
    (evicts : Evicts middle after fileTag number frame) :
    Evicts mm after fileTag number frame where
  keys := evicts.keys.trans same.keys
  evicted := same.inFrame_iff.mp evicts.evicted
  inFrame_iff other position place := by
    rw [evicts.inFrame_iff, same.inFrame_iff]
  isSome_page other position := (evicts.isSome_page other position).trans same.isSome_page

theorem Evicts.samePlaces (evicts : Evicts mm middle fileTag number frame)
    (same : SamePlaces middle after) : Evicts mm after fileTag number frame where
  keys := same.keys.trans evicts.keys
  evicted := evicts.evicted
  inFrame_iff other position place :=
    same.inFrame_iff.trans (evicts.inFrame_iff other position place)
  isSome_page other position := same.isSome_page.trans (evicts.isSome_page other position)

/-- The second pass moves no page, and what it remembers is a page in its frame. -/
theorem clockSecondPass_places (keys : (mm.entries.map Prod.fst).Nodup) {steps : Nat}
    {candidate chosen : Option (FileTag × Nat × PageEntry)}
    (known : ∀ page, candidate = some page → mm.InFrame page.1 page.2.1 page.2.2.frame)
    (pass : clockSecondPass steps candidate mm = (chosen, after)) :
    SamePlaces mm after ∧
      ∀ page, chosen = some page → mm.InFrame page.1 page.2.1 page.2.2.frame := by
  induction steps generalizing mm candidate with
  | zero =>
      cases pass
      exact ⟨SamePlaces.of_entries rfl, known⟩
  | succ steps ih =>
      rw [clockSecondPass] at pass
      split at pass
      · have advanced : SamePlaces mm mm.advanceClock := SamePlaces.of_entries rfl
        have still : ∀ page, candidate = some page →
            mm.advanceClock.InFrame page.1 page.2.1 page.2.2.frame :=
          fun page isKnown => advanced.inFrame_iff.mpr (known page isKnown)
        have turnedKeys : (mm.advanceClock.entries.map Prod.fst).Nodup := keys
        obtain ⟨rest, remembered⟩ := ih turnedKeys still pass
        exact ⟨advanced.trans rest,
          fun page isChosen => advanced.inFrame_iff.mp (remembered page isChosen)⟩
      · rename_i foundTag foundNumber found atClock
        have here := (pageAtClock_present keys atClock).1
        have cleared : SamePlaces mm (advanceClock (if found.useBit then
            mm.modifyPage foundTag foundNumber fun current => { current with useBit := false }
          else mm)) := by
          split
          · have clears : SamePlaces mm (mm.modifyPage foundTag foundNumber
                fun current => { current with useBit := false }) :=
              SamePlaces.modifyPage fun _ => rfl
            exact clears.trans (SamePlaces.of_entries rfl)
          · exact SamePlaces.of_entries rfl
        have next : ∀ page, (if found.useBit = false ∧ found.dirty = true ∧ candidate = none then
            some (foundTag, foundNumber, found) else candidate) = some page →
              mm.InFrame page.1 page.2.1 page.2.2.frame := by
          intro page isNext
          split at isNext
          · cases isNext
            exact ⟨found, here, rfl⟩
          · exact known page isNext
        obtain ⟨rest, remembered⟩ := ih (by rw [cleared.keys]; exact keys)
          (fun page isNext => cleared.inFrame_iff.mpr (next page isNext)) pass
        exact ⟨cleared.trans rest,
          fun page isChosen => cleared.inFrame_iff.mp (remembered page isChosen)⟩

theorem growTable_frames {grown : MemoryManager config} (numberLt : number < 2 ^ 32)
    (growing : mm.growTable fileTag number = some grown) :
    grown.entries.map Prod.fst = mm.entries.map Prod.fst ∧
      (∀ other position place,
        grown.InFrame other position place ↔ mm.InFrame other position place) ∧
      (grown.page fileTag number).isSome = true := by
  obtain ⟨unmoved, held⟩ := Unmoved.growTable numberLt growing
  refine ⟨?_, ?_, Option.isSome_iff_ne_none.mpr held⟩
  · rcases growTable_cases growing with rfl | ⟨table, resized, _, _, rfl⟩
    · rfl
    · exact keys_modifyTable mm fileTag _
  · intro other position place
    constructor
    · rintro ⟨entry, present, rfl⟩
      obtain ⟨old, oldPresent, same⟩ := unmoved.present_before present
      exact ⟨old, oldPresent, (core_eq_iff.mp same).2.1.symm⟩
    · rintro ⟨entry, present, rfl⟩
      obtain ⟨new, newPresent, same⟩ := unmoved.present_after present
      exact ⟨new, newPresent, (core_eq_iff.mp same).2.1⟩

theorem requests_growTable {grown : MemoryManager config}
    (growing : mm.growTable fileTag number = some grown) :
    grown.used = mm.used ∧ grown.connected = mm.connected ∧ grown.requests = mm.requests := by
  rcases growTable_cases growing with rfl | ⟨table, resized, _, _, rfl⟩
  · exact ⟨rfl, rfl, rfl⟩
  · exact ⟨rfl, rfl, rfl⟩

theorem samePlaces_mmUpdatePageAccess (mm : MemoryManager config) (fileTag : FileTag)
    (number : Nat) : SamePlaces mm (mm.mmUpdatePageAccess fileTag number) := by
  unfold mmUpdatePageAccess
  split
  · split
    · exact SamePlaces.of_entries rfl
    · have stamped : SamePlaces mm (mm.modifyPage fileTag number fun entry =>
          { entry with lastAccessTime := (mm.globalTimestamp + 1) % 2 ^ 64 }) :=
        SamePlaces.modifyPage fun _ => rfl
      exact stamped.trans (SamePlaces.of_entries rfl)
  · exact SamePlaces.modifyPage fun _ => rfl

theorem mapPage_frames : ((mm.ptMap fileTag number frame).mmUpdatePageAccess fileTag
      number).entries.map Prod.fst = mm.entries.map Prod.fst ∧
    ∀ other position place, ((mm.ptMap fileTag number frame).mmUpdatePageAccess fileTag
      number).InFrame other position place → place = frame ∨ mm.InFrame other position place := by
  have accessed := samePlaces_mmUpdatePageAccess (mm.ptMap fileTag number frame) fileTag number
  refine ⟨accessed.keys.trans (keys_modifyTable mm fileTag _), ?_⟩
  intro other position place mapped
  obtain ⟨entry, ⟨held, present⟩, rfl⟩ := accessed.inFrame_iff.mp mapped
  rw [ptMap, page_modifyPage] at held
  split at held
  · left
    obtain ⟨_, _, rfl⟩ := Option.map_eq_some_iff.mp held
    rfl
  · exact Or.inr ⟨entry, ⟨held, present⟩, rfl⟩

theorem findPageTable_isSome_iff :
    (mm.findPageTable fileTag).isSome = true ↔ fileTag ∈ mm.entries.map Prod.fst := by
  rw [findPageTable, Option.isSome_map, List.find?_isSome, List.mem_map]
  simp

theorem isSome_findPageTable_of_keys
    (keysEq : after.entries.map Prod.fst = mm.entries.map Prod.fst) :
    (after.findPageTable fileTag).isSome = (mm.findPageTable fileTag).isSome := by
  rw [Bool.eq_iff_iff, findPageTable_isSome_iff, findPageTable_isSome_iff, keysEq]

end MemoryManager

namespace RecordedMemory

variable {config : MemoryConfig}

section Searches

open MemoryManager

variable {faults : StorageFaults} {rounds : Nat} {state : RecordedMemory config}
  {mm : MemoryManager config} {outcome : Option Nat × RecordedMemory config}

/-- How a search for a victim ends: without a victim and without a trace in the record, or with
one page less in the frames and that page in the record. -/
inductive SearchEnds (state : RecordedMemory config) : Option Nat × RecordedMemory config → Prop
  | failed {mm : MemoryManager config} (same : SamePlaces state.memory mm) :
      SearchEnds state (none, state.withMemory mm)
  | found {mm : MemoryManager config} {fileTag : FileTag} {pageNumber frame : Nat}
      (evicts : Evicts state.memory mm fileTag pageNumber frame) :
      SearchEnds state (some frame, (state.withMemory mm).recordVictim fileTag pageNumber)

theorem SearchEnds.of_same (same : SamePlaces state.memory mm)
    (ends : SearchEnds (state.withMemory mm) outcome) : SearchEnds state outcome := by
  cases ends with
  | failed rest => exact .failed (same.trans rest)
  | found evicts => exact .found (same.evicts evicts)

/-- The end of a search that has chosen a page, after its block has been written. -/
theorem searchEnds_evict {written : MemoryManager config} {fileTag : FileTag}
    {pageNumber frame : Nat} (inFrame : state.memory.InFrame fileTag pageNumber frame)
    (entriesEq : written.entries = state.memory.entries) :
    SearchEnds state (some frame, (state.withMemory
      (written.evict fileTag pageNumber frame)).recordVictim fileTag pageNumber) := by
  have same : SamePlaces state.memory written := SamePlaces.of_entries entriesEq
  exact .found (same.evicts (same.inFrame_iff.mpr inFrame).evicts)

theorem searchEnds_mmFindLruVictim (keys : (state.memory.entries.map Prod.fst).Nodup) :
    SearchEnds state (state.mmFindLruVictim faults) := by
  unfold mmFindLruVictim
  split
  · exact .failed (SamePlaces.of_entries rfl)
  · rename_i fileTag pageNumber entry oldest
    have inFrame : state.memory.InFrame fileTag pageNumber entry.frame :=
      ⟨entry, present_of_oldest keys oldest, rfl⟩
    split
    · split
      · rename_i failed wrote
        exact .failed (SamePlaces.of_entries (entries_of_writeBlockToStorage wrote))
      · rename_i written wrote
        exact searchEnds_evict inFrame (entries_of_writeBlockToStorage wrote)
    · exact searchEnds_evict inFrame rfl

theorem searchEnds_clockFirstPass (keys : (state.memory.entries.map Prod.fst).Nodup)
    (steps : Nat) : SearchEnds state (clockFirstPass steps state) := by
  induction steps generalizing state with
  | zero => exact .failed (SamePlaces.of_entries rfl)
  | succ steps ih =>
      have advanced : SamePlaces state.memory state.memory.advanceClock :=
        SamePlaces.of_entries rfl
      have rest : SearchEnds (state.withMemory state.memory.advanceClock)
          (clockFirstPass steps (state.withMemory state.memory.advanceClock)) := ih keys
      rw [clockFirstPass]
      split
      · exact rest.of_same advanced
      · rename_i fileTag pageNumber entry atClock
        split
        · obtain ⟨present, sameFrame⟩ := pageAtClock_present keys atClock
          have inFrame : state.memory.InFrame fileTag pageNumber state.memory.clockPointer :=
            ⟨entry, present, sameFrame⟩
          exact .found (inFrame.evicts.samePlaces (SamePlaces.of_entries rfl))
        · exact rest.of_same advanced

theorem searchEnds_clockRounds (keys : (state.memory.entries.map Prod.fst).Nodup)
    (search : clockRounds faults rounds state = some outcome) : SearchEnds state outcome := by
  induction rounds generalizing state with
  | zero => cases search
  | succ rounds ih =>
      rw [clockRounds] at search
      have first := searchEnds_clockFirstPass keys config.frameCount
      split at search
      · rename_i frame evicted firstPass
        cases search
        rw [← firstPass]
        exact first
      · rename_i passed firstPass
        rw [firstPass] at first
        cases first with
        | failed same =>
            rename_i turned
            have turnedKeys : (turned.entries.map Prod.fst).Nodup := by
              rw [same.keys]
              exact keys
            split at search
            · rename_i second secondPass
              have swept := (clockSecondPass_places turnedKeys (by simp) secondPass).1
              have sweptKeys : (second.entries.map Prod.fst).Nodup := by
                rw [swept.keys]
                exact turnedKeys
              have rest : SearchEnds (state.withMemory second) outcome := ih sweptKeys search
              exact rest.of_same (same.trans swept)
            · rename_i fileTag pageNumber entry second secondPass
              obtain ⟨swept, remembered⟩ := clockSecondPass_places turnedKeys (by simp) secondPass
              have moved := same.trans swept
              have inFrame := swept.inFrame_iff.mpr (remembered _ rfl)
              split at search
              · rename_i failed wrote
                cases search
                exact .failed (moved.trans (SamePlaces.of_entries
                  (entries_of_writeBlockToStorage wrote)))
              · rename_i written wrote
                cases search
                have stored : SamePlaces second written :=
                  SamePlaces.of_entries (entries_of_writeBlockToStorage wrote)
                have evicts := (stored.inFrame_iff.mpr inFrame).evicts
                exact .found ((moved.trans stored).evicts
                  (evicts.samePlaces (SamePlaces.of_entries rfl)))

theorem searchEnds_findVictim (keys : (state.memory.entries.map Prod.fst).Nodup)
    (search : state.findVictim faults rounds = some outcome) : SearchEnds state outcome := by
  unfold findVictim at search
  split at search
  · cases search
    exact searchEnds_mmFindLruVictim keys
  · unfold mmFindClockmVictim at search
    split at search
    · cases search
      exact .failed (SamePlaces.of_entries rfl)
    · exact searchEnds_clockRounds keys search

theorem clockRounds_add (search : clockRounds faults rounds state = some outcome) (extra : Nat) :
    clockRounds faults (rounds + extra) state = some outcome := by
  induction rounds generalizing state with
  | zero => cases search
  | succ rounds ih =>
      rw [Nat.add_right_comm]
      rw [clockRounds] at search ⊢
      revert search
      cases clockFirstPass config.frameCount state with
      | mk result first =>
          cases result with
          | some frame => exact id
          | none =>
              dsimp only
              cases MemoryManager.clockSecondPass config.frameCount none first.memory with
              | mk candidate second =>
                  cases candidate with
                  | none => exact ih
                  | some page => exact id

theorem mmAllocateFrame_add (allocation : state.mmAllocateFrame faults rounds = some outcome)
    (extra : Nat) : state.mmAllocateFrame faults (rounds + extra) = some outcome := by
  unfold mmAllocateFrame at allocation ⊢
  cases free : (List.range config.frameCount).find? fun frame => !state.memory.used frame with
  | some frame =>
      rw [free] at allocation
      exact allocation
  | none =>
      rw [free] at allocation
      obtain ⟨search, found, ends⟩ := Option.map_eq_some_iff.mp allocation
      refine Option.map_eq_some_iff.mpr ⟨search, ?_, ends⟩
      unfold findVictim at found ⊢
      cases policy : config.policy with
      | lru =>
          rw [policy] at found
          exact found
      | clockM =>
          rw [policy] at found
          dsimp only at found ⊢
          unfold mmFindClockmVictim at found ⊢
          split at found
          · rename_i empty
            rw [if_pos empty]
            exact found
          · rename_i positive
            rw [if_neg positive]
            exact clockRounds_add found extra

theorem mmAllocateFrame_unique {others : Nat} {different : Option Nat × RecordedMemory config}
    (first : state.mmAllocateFrame faults rounds = some outcome)
    (second : state.mmAllocateFrame faults others = some different) : outcome = different := by
  have more := mmAllocateFrame_add first others
  rw [Nat.add_comm, mmAllocateFrame_add second rounds] at more
  exact (Option.some.inj more).symm

end Searches

section Faults

open MemoryManager

variable {faults : StorageFaults} {rounds : Nat} {state : RecordedMemory config}
  {fileTag : FileTag} {pageNumber : Nat}

/-- How the allocation of a frame ends: with a free frame, or, when there is none, with a search. -/
inductive AllocationEnds (state : RecordedMemory config) :
    Option Nat × RecordedMemory config → Prop
  | free {frame : Nat} (frameLt : frame < config.frameCount)
      (unused : state.memory.used frame = false) :
      AllocationEnds state (some frame, state.withMemory (state.memory.setUsed frame true))
  | noVictim {mm : MemoryManager config} (full : AllUsed state.memory)
      (same : SamePlaces state.memory mm) : AllocationEnds state (none, state.withMemory mm)
  | evicted {mm : MemoryManager config} {victimTag : FileTag} {victimPage frame : Nat}
      (full : AllUsed state.memory) (evicts : Evicts state.memory mm victimTag victimPage frame) :
      AllocationEnds state (some frame, (state.withMemory mm).recordVictim victimTag victimPage)

theorem allocationEnds_mmAllocateFrame (keys : (state.memory.entries.map Prod.fst).Nodup)
    {outcome : Option Nat × RecordedMemory config}
    (allocation : state.mmAllocateFrame faults rounds = some outcome) :
    AllocationEnds state outcome := by
  unfold mmAllocateFrame at allocation
  split at allocation
  · rename_i frame free
    cases allocation
    have unused := List.find?_some free
    exact .free (List.mem_range.mp (List.mem_of_find?_eq_some free)) (by simpa using unused)
  · rename_i noneFree
    have full : AllUsed state.memory := by
      intro frame frameLt
      simpa using List.find?_eq_none.mp noneFree frame (List.mem_range.mpr frameLt)
    obtain ⟨search, found, rfl⟩ := Option.map_eq_some_iff.mp allocation
    cases searchEnds_findVictim keys found with
    | failed same => exact .noVictim full same
    | found evicts => exact .evicted full (evicts.samePlaces (SamePlaces.of_entries rfl))

theorem mmAllocateFrame_of_free {frame : Nat} (frameLt : frame < config.frameCount)
    (unused : state.memory.used frame = false) (faults : StorageFaults) (rounds : Nat) :
    ∃ place < config.frameCount, state.memory.used place = false ∧
      state.mmAllocateFrame faults rounds =
        some (some place, state.withMemory (state.memory.setUsed place true)) := by
  unfold mmAllocateFrame
  cases free : (List.range config.frameCount).find? fun frame => !state.memory.used frame with
  | none =>
      have used := List.find?_eq_none.mp free frame (List.mem_range.mpr frameLt)
      simp [unused] at used
  | some place =>
      have isFree := List.find?_some free
      exact ⟨place, List.mem_range.mp (List.mem_of_find?_eq_some free), by simpa using isFree, rfl⟩

/-- The invariant of the tables and the strings: an entry for a File:Tag has strings with its
names, and the pages are in frames that exist. -/
structure Tidy (state : RecordedMemory config) : Prop where
  keys : (state.memory.entries.map Prod.fst).Nodup
  named : ∀ fileTag,
    (state.names fileTag).isSome = (state.memory.findPageTable fileTag).isSome
  text : ∀ fileTag names, state.names fileTag = some names →
    names.file.text = fileTag.file ∧ names.tag.text = fileTag.tag
  frame_lt : ∀ fileTag number frame, state.memory.InFrame fileTag number frame →
    frame < config.frameCount

/-- How a page fault ends: without a frame, with a block that Storage refuses, or with the page in
a frame. -/
inductive FaultEnds (faults : StorageFaults) (rounds : Nat) (state : RecordedMemory config)
    (fileTag : FileTag) (pageNumber : Nat) :
    Bool × Option Replacement × RecordedMemory config → Prop
  | notGrown (fails : state.memory.growTable fileTag pageNumber = none) :
      FaultEnds faults rounds state fileTag pageNumber (false, none, state)
  | apart {grown : MemoryManager config}
      (growing : state.memory.growTable fileTag pageNumber = some grown)
      (apart : grown.connected = false) :
      FaultEnds faults rounds state fileTag pageNumber (false, none, state.withMemory grown)
  | noVictim {grown mm : MemoryManager config}
      (growing : state.memory.growTable fileTag pageNumber = some grown)
      (allocates : (state.withMemory grown).mmAllocateFrame faults rounds =
        some (none, state.withMemory mm))
      (full : AllUsed grown) (same : SamePlaces grown mm) :
      FaultEnds faults rounds state fileTag pageNumber (false, none, state.withMemory mm)
  | refused {grown : MemoryManager config} {frame : Nat} {allocated : RecordedMemory config}
      (growing : state.memory.growTable fileTag pageNumber = some grown)
      (connected : grown.connected = true)
      (allocates : (state.withMemory grown).mmAllocateFrame faults rounds =
        some (some frame, allocated))
      (frameLt : frame < config.frameCount)
      (refuses : faults allocated.memory.requests = true) :
      FaultEnds faults rounds state fileTag pageNumber (false, none, allocated.withMemory
        ({ allocated.memory with requests := allocated.memory.requests + 1 }.mmFreeFrame frame))
  | served {grown mm : MemoryManager config} {frame : Nat} {allocated : RecordedMemory config}
      (growing : state.memory.growTable fileTag pageNumber = some grown)
      (connected : grown.connected = true)
      (allocates : (state.withMemory grown).mmAllocateFrame faults rounds =
        some (some frame, allocated))
      (frameLt : frame < config.frameCount)
      (accepts : faults allocated.memory.requests = false)
      (keys : mm.entries.map Prod.fst = allocated.memory.entries.map Prod.fst)
      (frames : ∀ other position place, mm.InFrame other position place →
        place = frame ∨ allocated.memory.InFrame other position place) :
      FaultEnds faults rounds state fileTag pageNumber (true, allocated.replacement,
        { allocated.withMemory mm with lastVictimValid := false })

theorem Tidy.allocationEnds (tidy : Tidy state) {grown : MemoryManager config}
    {outcome : Option Nat × RecordedMemory config} (numberLt : pageNumber < 2 ^ 32)
    (growing : state.memory.growTable fileTag pageNumber = some grown)
    (allocates : (state.withMemory grown).mmAllocateFrame faults rounds = some outcome) :
    AllocationEnds (state.withMemory grown) outcome := by
  apply allocationEnds_mmAllocateFrame _ allocates
  change (grown.entries.map Prod.fst).Nodup
  rw [(growTable_frames numberLt growing).1]
  exact tidy.keys

/-- A frame that was allocated exists, and the page of the fault is still in its table. -/
theorem Tidy.allocated (tidy : Tidy state) {grown : MemoryManager config} {frame : Nat}
    {allocated : RecordedMemory config} (numberLt : pageNumber < 2 ^ 32)
    (growing : state.memory.growTable fileTag pageNumber = some grown)
    (allocates : (state.withMemory grown).mmAllocateFrame faults rounds =
      some (some frame, allocated)) :
    frame < config.frameCount ∧ (allocated.memory.page fileTag pageNumber).isSome = true := by
  obtain ⟨_, inFrame_iff, held⟩ := growTable_frames numberLt growing
  cases tidy.allocationEnds numberLt growing allocates with
  | free frameLt _ => exact ⟨frameLt, held⟩
  | evicted _ evicts =>
      exact ⟨tidy.frame_lt _ _ _ ((inFrame_iff _ _ _).mp evicts.evicted),
        (evicts.isSome_page _ _).trans held⟩

theorem Tidy.faultEnds (tidy : Tidy state) (numberLt : pageNumber < 2 ^ 32)
    {outcome : Bool × Option Replacement × RecordedMemory config}
    (returns : state.mmHandlePageFault faults rounds fileTag pageNumber = some outcome) :
    FaultEnds faults rounds state fileTag pageNumber outcome := by
  unfold mmHandlePageFault at returns
  split at returns
  · rename_i fails
    cases returns
    exact .notGrown fails
  · rename_i grown growing
    split at returns
    · rename_i apart
      cases returns
      exact .apart growing (by simpa using apart)
    · rename_i connected
      obtain ⟨⟨result, allocated⟩, allocates, rfl⟩ := Option.map_eq_some_iff.mp returns
      cases result with
      | none =>
          cases tidy.allocationEnds numberLt growing allocates with
          | noVictim full same => exact .noVictim growing allocates full same
      | some frame =>
          obtain ⟨frameLt, held⟩ := tidy.allocated numberLt growing allocates
          dsimp only
          rw [useFrame, if_neg (Nat.not_le.mpr frameLt)]
          unfold readBlockFromStorage
          by_cases refuses : faults allocated.memory.requests = true
          · rw [if_pos refuses]
            exact .refused growing (by simpa using connected) allocates frameLt refuses
          · rw [if_neg refuses]
            dsimp only
            rw [if_neg]
            · refine .served growing (by simpa using connected) allocates frameLt
                (by simpa using refuses) mapPage_frames.1 ?_
              intro other position place mapped
              have loaded : SamePlaces allocated.memory
                  ({ allocated.memory with requests := allocated.memory.requests + 1 }.loadFrame
                    frame (allocated.memory.storage fileTag pageNumber)) :=
                SamePlaces.of_entries rfl
              rcases mapPage_frames.2 _ _ _ mapped with here | before
              · exact Or.inl here
              · exact Or.inr (loaded.inFrame_iff.mp before)
            · rw [Option.isNone_iff_eq_none]
              exact Option.isSome_iff_ne_none.mp held

end Faults

end RecordedMemory

end Worker

end MasterOfFiles
