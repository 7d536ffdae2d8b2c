import MasterOfFiles.WorkerPagingSteps

/-!
# Replacement and page faults

Both policies pick a present page, write it back when it is dirty and evict
it; a victim search that fails has changed nothing that can be seen.
-/

namespace MasterOfFiles

namespace Worker

namespace MemoryManager

variable {config : MemoryConfig} {mm after : MemoryManager config} {faults : StorageFaults}
  {fileTag : FileTag} {number : Nat} {entry : PageEntry} {scope : Scope}

def NoneAdded (before after : MemoryManager config) : Prop :=
  ∀ fileTag number entry, after.Present fileTag number entry →
    ∃ old, before.Present fileTag number old

theorem NoneAdded.trans {middle : MemoryManager config} (first : NoneAdded mm middle)
    (second : NoneAdded middle after) : NoneAdded mm after := by
  intro fileTag number entry present
  obtain ⟨middleEntry, middlePresent⟩ := second fileTag number entry present
  exact first fileTag number middleEntry middlePresent

theorem NoneAdded.of_unmoved (unmoved : Unmoved mm after) : NoneAdded mm after := by
  intro fileTag number entry present
  obtain ⟨old, oldPresent, _⟩ := unmoved.present_before present
  exact ⟨old, oldPresent⟩

theorem NoneAdded.of_entries (entriesEq : after.entries = mm.entries) : NoneAdded mm after :=
  fun _ _ entry present => ⟨entry, present.of_entries entriesEq.symm⟩

/-- What a victim search promises: nothing visible happened, no page became
present, and a frame it returns is free now. -/
structure VictimFound (scope : Scope) (mm : MemoryManager config) (result : Option Nat)
    (after : MemoryManager config) : Prop where
  kept : Kept scope none mm after
  noneAdded : NoneAdded mm after
  free : ∀ frame, result = some frame →
    frame < config.frameCount ∧ after.used frame = false

theorem VictimFound.of_unmoved (sound : Sound scope none mm) (unmoved : Unmoved mm after) :
    VictimFound scope mm none after :=
  ⟨Kept.of_unmoved sound unmoved, NoneAdded.of_unmoved unmoved, by simp⟩

/-- Evict a page whose Storage block is up to date. -/
theorem VictimFound.evict (sound : Sound scope none mm) (present : mm.Present fileTag number entry)
    (written : fileTag ∈ scope.coherent →
      mm.physicalMemory entry.frame = mm.storage fileTag number) :
    VictimFound scope mm (some entry.frame) (mm.evict fileTag number entry.frame) := by
  obtain ⟨kept, unused⟩ := sound.evict present written
  refine ⟨kept, ?_, ?_⟩
  · intro otherTag otherNumber other otherPresent
    exact ⟨other, ((present_evict present.held).mp otherPresent).2⟩
  intro frame isFrame
  obtain rfl : entry.frame = frame := Option.some.inj isFrame
  exact ⟨sound.frame_lt fileTag number entry present, unused⟩

theorem VictimFound.trans {middle : MemoryManager config} {result : Option Nat}
    (first : VictimFound scope mm none middle) (second : VictimFound scope middle result after) :
    VictimFound scope mm result after :=
  ⟨first.kept.trans second.kept, first.noneAdded.trans second.noneAdded, second.free⟩

/-- Moving the clock hand after the search changes nothing. -/
theorem VictimFound.rewind {middle : MemoryManager config} {result : Option Nat}
    (found : VictimFound scope mm result middle) (unmoved : Unmoved middle after) :
    VictimFound scope mm result after where
  kept := found.kept.trans (Kept.of_unmoved found.kept.sound unmoved)
  noneAdded := found.noneAdded.trans (NoneAdded.of_unmoved unmoved)
  free frame isFrame := by
    rw [unmoved.used]
    exact found.free frame isFrame

theorem entries_of_writeBlockToStorage {frame : Nat} {done : Bool}
    (wrote : mm.writeBlockToStorage faults fileTag number frame = (done, after)) :
    after.entries = mm.entries := by
  unfold writeBlockToStorage at wrote
  split at wrote
  · exact (Prod.mk.inj wrote).2 ▸ rfl
  · exact (Prod.mk.inj wrote).2 ▸ rfl

/-- Write a dirty page back and evict it, or stop when Storage refuses. -/
theorem victimFound_writeBack (sound : Sound scope none mm)
    (present : mm.Present fileTag number entry) (dirty : entry.dirty = true) {done : Bool}
    (wrote : mm.writeBlockToStorage faults fileTag number entry.frame = (done, after)) :
    if done then VictimFound scope mm (some entry.frame) (after.evict fileTag number entry.frame)
    else VictimFound scope mm none after := by
  cases done with
  | false => exact VictimFound.of_unmoved sound (writeBlockToStorage_failed wrote)
  | true =>
      have notSpared : fileTag ∉ scope.spared := by
        intro isSpared
        simp [sound.spared fileTag isSpared number entry present.held] at dirty
      obtain ⟨kept, presentAfter, written⟩ :=
        sound.writeBlockToStorage present notSpared wrote
      have stored : VictimFound scope mm none after :=
        ⟨kept, NoneAdded.of_entries (entries_of_writeBlockToStorage wrote), by simp⟩
      exact VictimFound.trans stored (VictimFound.evict kept.sound presentAfter fun _ => written)

section Lru

theorem foldl_olderPage (pages : List (FileTag × Nat × PageEntry))
    (best : Nat × Option (FileTag × Nat × PageEntry)) :
    (pages.foldl olderPage best).2 = best.2 ∨
      ∃ candidate ∈ pages, (pages.foldl olderPage best).2 = some candidate ∧
        candidate.2.2.present = true := by
  induction pages generalizing best with
  | nil => exact Or.inl rfl
  | cons candidate rest ih =>
      rw [List.foldl_cons]
      rcases ih (olderPage best candidate) with same | ⟨found, member, chosen, present⟩
      · rw [same]
        unfold olderPage
        split
        · rename_i older
          exact Or.inr ⟨candidate, by simp, rfl, older.1⟩
        · exact Or.inl rfl
      · exact Or.inr ⟨found, by simp [member], chosen, present⟩

/-- The page that the search of `mm_find_lru_victim` ends with is present. -/
theorem present_of_oldest (keys : (mm.entries.map Prod.fst).Nodup)
    (oldest : (mm.allPages.foldl olderPage (2 ^ 64 - 1, none)).2 =
      some (fileTag, number, entry)) : mm.Present fileTag number entry := by
  rcases foldl_olderPage mm.allPages (2 ^ 64 - 1, none) with same | ⟨found, member, eq, present⟩
  · rw [oldest] at same
    simp at same
  · rw [oldest] at eq
    obtain rfl := Option.some.inj eq
    exact ⟨(page_eq_some_iff_mem_allPages keys).mpr member, present⟩

theorem mmFindLruVictim_found (sound : Sound scope none mm) {result : Option Nat}
    (search : mm.mmFindLruVictim faults = (result, after)) : VictimFound scope mm result after := by
  unfold mmFindLruVictim at search
  split at search
  · obtain ⟨rfl, rfl⟩ := Prod.mk.inj search
    exact VictimFound.of_unmoved sound (Unmoved.refl mm)
  · rename_i chosenTag chosenNumber chosen oldest
    have present := present_of_oldest sound.keys oldest
    split at search
    · rename_i dirty
      split at search
      · rename_i failed wrote
        obtain ⟨rfl, rfl⟩ := Prod.mk.inj search
        simpa using victimFound_writeBack sound present dirty wrote
      · rename_i written wrote
        obtain ⟨rfl, rfl⟩ := Prod.mk.inj search
        simpa using victimFound_writeBack sound present dirty wrote
    · rename_i clean
      obtain ⟨rfl, rfl⟩ := Prod.mk.inj search
      exact VictimFound.evict sound present
        fun tracked => sound.clean _ tracked _ chosen present (by simpa using clean)

end Lru

section ClockM

theorem pageAtClock_present (keys : (mm.entries.map Prod.fst).Nodup)
    (found : mm.pageAtClock = some (fileTag, number, entry)) :
    mm.Present fileTag number entry ∧ entry.frame = mm.clockPointer := by
  unfold pageAtClock at found
  split at found
  · have member := List.mem_of_find?_eq_some found
    have matched := List.find?_some found
    simp only [Bool.and_eq_true, decide_eq_true_eq] at matched
    exact ⟨⟨(page_eq_some_iff_mem_allPages keys).mpr member, matched.1⟩, matched.2⟩
  · simp at found

theorem clockFirstPass_found (sound : Sound scope none mm) {steps : Nat} {result : Option Nat}
    (search : clockFirstPass steps mm = (result, after)) : VictimFound scope mm result after := by
  induction steps generalizing mm with
  | zero =>
      obtain ⟨rfl, rfl⟩ := Prod.mk.inj search
      exact VictimFound.of_unmoved sound (Unmoved.refl mm)
  | succ steps ih =>
      have advanced := VictimFound.of_unmoved sound (Unmoved.advanceClock mm)
      rw [clockFirstPass] at search
      split at search
      · exact VictimFound.trans advanced (ih advanced.kept.sound search)
      · rename_i chosenTag chosenNumber chosen found
        obtain ⟨present, frameEq⟩ := pageAtClock_present sound.keys found
        split at search
        · rename_i ideal
          obtain ⟨rfl, rfl⟩ := Prod.mk.inj search
          have evicted := VictimFound.evict sound present
            fun tracked => sound.clean _ tracked _ chosen present ideal.2
          rw [frameEq] at evicted
          exact evicted.rewind (Unmoved.advanceClock _)
        · exact VictimFound.trans advanced (ih advanced.kept.sound search)

/-- A remembered candidate is dirty and still present, with the same frame. -/
def StillPresent (mm : MemoryManager config)
    (candidate : Option (FileTag × Nat × PageEntry)) : Prop :=
  ∀ fileTag number entry, candidate = some (fileTag, number, entry) →
    entry.dirty = true ∧
      ∃ current, mm.Present fileTag number current ∧ core current = core entry

theorem StillPresent.unmoved {candidate : Option (FileTag × Nat × PageEntry)}
    (still : StillPresent mm candidate) (unmoved : Unmoved mm after) :
    StillPresent after candidate := by
  intro fileTag number entry chosen
  obtain ⟨dirty, current, present, coreEq⟩ := still fileTag number entry chosen
  obtain ⟨new, newPresent, newEq⟩ := unmoved.present_after present
  exact ⟨dirty, new, newPresent, newEq.trans coreEq⟩

theorem clockSecondPass_unmoved (sound : Sound scope none mm) {steps : Nat}
    {candidate chosen : Option (FileTag × Nat × PageEntry)}
    (still : StillPresent mm candidate)
    (pass : clockSecondPass steps candidate mm = (chosen, after)) :
    Unmoved mm after ∧ StillPresent after chosen := by
  induction steps generalizing mm candidate with
  | zero =>
      obtain ⟨rfl, rfl⟩ := Prod.mk.inj pass
      exact ⟨Unmoved.refl mm, still⟩
  | succ steps ih =>
      rw [clockSecondPass] at pass
      split at pass
      · have advanced := Unmoved.advanceClock mm
        obtain ⟨rest, restStill⟩ := ih (advanced.sound sound) (still.unmoved advanced) pass
        exact ⟨advanced.trans rest, restStill⟩
      · rename_i foundTag foundNumber found atClock
        obtain ⟨present, _⟩ := pageAtClock_present sound.keys atClock
        have cleared : Unmoved mm (advanceClock (if found.useBit then
            mm.modifyPage foundTag foundNumber fun current => { current with useBit := false }
          else mm)) := by
          split
          · have clears : Unmoved mm (mm.modifyPage foundTag foundNumber
                fun current => { current with useBit := false }) :=
              Unmoved.modifyPage mm foundTag foundNumber (fun _ => rfl)
            exact clears.trans (Unmoved.advanceClock _)
          · exact Unmoved.advanceClock mm
        have chosenStill : StillPresent mm (if found.useBit = false ∧ found.dirty = true ∧
            candidate = none then some (foundTag, foundNumber, found) else candidate) := by
          split
          · rename_i better
            intro otherTag otherNumber other isCandidate
            obtain ⟨rfl, rfl, rfl⟩ : foundTag = otherTag ∧ foundNumber = otherNumber ∧
                found = other := by simpa using isCandidate
            exact ⟨better.2.1, found, present, rfl⟩
          · exact still
        obtain ⟨rest, restStill⟩ :=
          ih (cleared.sound sound) (chosenStill.unmoved cleared) pass
        exact ⟨cleared.trans rest, restStill⟩

theorem clockRounds_found (sound : Sound scope none mm) {rounds : Nat} {result : Option Nat}
    (search : clockRounds faults rounds mm = some (result, after)) :
    VictimFound scope mm result after := by
  induction rounds generalizing mm with
  | zero => simp [clockRounds] at search
  | succ rounds ih =>
      rw [clockRounds] at search
      split at search
      · rename_i frame evicted first
        obtain ⟨rfl, rfl⟩ := Prod.mk.inj (Option.some.inj search)
        exact clockFirstPass_found sound first
      · rename_i first firstPass
        have firstFound := clockFirstPass_found sound firstPass
        split at search
        · rename_i second secondPass
          obtain ⟨unmoved, _⟩ :=
            clockSecondPass_unmoved firstFound.kept.sound (by simp [StillPresent]) secondPass
          have secondFound := firstFound.rewind unmoved
          exact VictimFound.trans secondFound (ih secondFound.kept.sound search)
        · rename_i chosenTag chosenNumber chosen second secondPass
          obtain ⟨unmoved, still⟩ :=
            clockSecondPass_unmoved firstFound.kept.sound (by simp [StillPresent]) secondPass
          have secondFound := firstFound.rewind unmoved
          obtain ⟨chosenDirty, current, present, coreEq⟩ := still _ _ _ rfl
          have frameEq : chosen.frame = current.frame := (core_eq_iff.mp coreEq).2.1.symm
          have dirty : current.dirty = true :=
            (core_eq_iff.mp coreEq).2.2.1.trans chosenDirty
          rw [frameEq] at search
          split at search
          · rename_i failed wrote
            obtain ⟨rfl, rfl⟩ := Prod.mk.inj (Option.some.inj search)
            have stopped := victimFound_writeBack secondFound.kept.sound present dirty wrote
            exact VictimFound.trans secondFound (by simpa using stopped)
          · rename_i written wrote
            obtain ⟨rfl, rfl⟩ := Prod.mk.inj (Option.some.inj search)
            have evicted := victimFound_writeBack secondFound.kept.sound present dirty wrote
            simp only [if_true] at evicted
            have rewound : Unmoved (written.evict chosenTag chosenNumber current.frame)
                { written.evict chosenTag chosenNumber current.frame with
                  clockPointer := (current.frame + 1) % config.frameCount } :=
              ⟨id, fun _ _ => Or.inl rfl, rfl, rfl, rfl,
                fun start => Nat.mod_lt _ (Nat.zero_lt_of_lt start)⟩
            exact VictimFound.trans secondFound (evicted.rewind rewound)

theorem mmFindClockmVictim_found (sound : Sound scope none mm) {result : Option Nat}
    (search : mm.mmFindClockmVictim faults = (result, after)) :
    VictimFound scope mm result after := by
  unfold mmFindClockmVictim at search
  split at search
  · obtain ⟨rfl, rfl⟩ := Prod.mk.inj search
    exact VictimFound.of_unmoved sound (Unmoved.refl mm)
  · cases rounds : clockRounds faults 2 mm with
    | none =>
        rw [rounds] at search
        obtain ⟨rfl, rfl⟩ := Prod.mk.inj search
        exact VictimFound.of_unmoved sound (Unmoved.refl mm)
    | some outcome =>
        rw [rounds, Option.getD_some] at search
        rw [search] at rounds
        exact clockRounds_found sound rounds

end ClockM

section Faults

theorem Sound.mmAllocateFrame (sound : Sound scope none mm) {result : Option Nat}
    (allocation : mm.mmAllocateFrame faults = (result, after)) :
    Kept scope result mm after ∧ NoneAdded mm after := by
  unfold MemoryManager.mmAllocateFrame at allocation
  split at allocation
  · rename_i frame free
    obtain ⟨rfl, rfl⟩ := Prod.mk.inj allocation
    have frameLt := List.mem_range.mp (List.mem_of_find?_eq_some free)
    have unused := List.find?_some free
    exact ⟨sound.reserve frameLt (by simpa using unused), NoneAdded.of_entries rfl⟩
  · split at allocation
    · rename_i frame evicted search
      obtain ⟨rfl, rfl⟩ := Prod.mk.inj allocation
      have found : VictimFound scope mm (some frame) evicted := by
        split at search
        · exact mmFindLruVictim_found sound search
        · exact mmFindClockmVictim_found sound search
      obtain ⟨frameLt, unused⟩ := found.free frame rfl
      exact ⟨found.kept.trans (found.kept.sound.reserve frameLt unused),
        found.noneAdded.trans (NoneAdded.of_entries rfl)⟩
    · rename_i failed search
      obtain ⟨rfl, rfl⟩ := Prod.mk.inj allocation
      have found : VictimFound scope mm none failed := by
        split at search
        · exact mmFindLruVictim_found sound search
        · exact mmFindClockmVictim_found sound search
      exact ⟨found.kept, found.noneAdded⟩

/-- The end of a page fault: the page is mapped to the loaded frame and accessed. -/
theorem Sound.mapPage {frame : Nat} (sound : Sound scope (some frame) mm)
    (held : mm.page fileTag number = some entry)
    (absent : ∀ found, ¬ mm.Present fileTag number found)
    (loaded : mm.physicalMemory frame = mm.storage fileTag number) :
    Kept scope none mm ((mm.ptMap fileTag number frame).mmUpdatePageAccess fileTag number) ∧
      ∃ found, ((mm.ptMap fileTag number frame).mmUpdatePageAccess fileTag number).Present
        fileTag number found := by
  have mapped := sound.ptMap held absent loaded
  have accessed := Unmoved.mmUpdatePageAccess (mm.ptMap fileTag number frame) fileTag number
  refine ⟨mapped.trans (Kept.of_unmoved mapped.sound accessed), ?_⟩
  obtain ⟨new, newPresent, _⟩ :=
    accessed.present_after ((present_ptMap held).mpr (Or.inl ⟨rfl, rfl, rfl⟩))
  exact ⟨new, newPresent⟩

/-- A page fault on a page that is not present changes no view, whether or not
it succeeds; when it succeeds the page is present. -/
theorem Sound.mmHandlePageFault (sound : Sound scope none mm) (numberLt : number < 2 ^ 32)
    (absent : ∀ found, ¬ mm.Present fileTag number found) {done : Bool}
    (fault : mm.mmHandlePageFault faults fileTag number = (done, after)) :
    Kept scope none mm after ∧ (done = true → ∃ found, after.Present fileTag number found) := by
  unfold MemoryManager.mmHandlePageFault at fault
  split at fault
  · obtain ⟨rfl, rfl⟩ := Prod.mk.inj fault
    exact ⟨Kept.of_unmoved sound (Unmoved.refl mm), by simp⟩
  · rename_i grown growing
    obtain ⟨unmoved, _⟩ := Unmoved.growTable numberLt growing
    have grownKept := Kept.of_unmoved sound unmoved
    split at fault
    · obtain ⟨rfl, rfl⟩ := Prod.mk.inj fault
      exact ⟨grownKept, by simp⟩
    · split at fault
      · rename_i failed allocation
        obtain ⟨rfl, rfl⟩ := Prod.mk.inj fault
        exact ⟨grownKept.trans (grownKept.sound.mmAllocateFrame allocation).1, by simp⟩
      · rename_i frame allocated allocation
        obtain ⟨allocatedKept, noneAdded⟩ := grownKept.sound.mmAllocateFrame allocation
        have allocatedKept := grownKept.trans allocatedKept
        have stillAbsent : ∀ found, ¬ allocated.Present fileTag number found := by
          intro found present
          obtain ⟨old, oldPresent⟩ :=
            (NoneAdded.of_unmoved unmoved).trans noneAdded fileTag number found present
          exact absent old oldPresent
        have asking := Unmoved.countRequest allocated
        have askedKept := allocatedKept.trans (Kept.of_unmoved allocatedKept.sound asking)
        split at fault
        · obtain ⟨rfl, rfl⟩ := Prod.mk.inj fault
          exact ⟨allocatedKept.trans allocatedKept.sound.mmFreeFrame, by simp⟩
        · unfold readBlockFromStorage at fault
          split at fault
          · rename_i failed reading
            obtain ⟨_, rfl⟩ := Prod.mk.inj reading
            obtain ⟨rfl, rfl⟩ := Prod.mk.inj fault
            exact ⟨askedKept.trans askedKept.sound.mmFreeFrame, by simp⟩
          · rename_i bytes asked reading
            obtain ⟨answer, rfl⟩ := Prod.mk.inj reading
            have bytesEq : bytes = allocated.storage fileTag number := by
              split at answer
              · simp at answer
              · exact (Option.some.inj answer).symm
            have loadedKept := askedKept.trans (askedKept.sound.loadFrame bytes)
            dsimp only at fault
            split at fault
            · obtain ⟨rfl, rfl⟩ := Prod.mk.inj fault
              exact ⟨loadedKept.trans loadedKept.sound.mmFreeFrame, by simp⟩
            · rename_i held
              obtain ⟨rfl, rfl⟩ := Prod.mk.inj fault
              rw [Option.isNone_iff_eq_none] at held
              obtain ⟨found, foundHeld⟩ := Option.ne_none_iff_exists'.mp held
              obtain ⟨mapped, found⟩ := loadedKept.sound.mapPage foundHeld
                (fun other present => stillAbsent other (present.of_entries rfl))
                (by rw [bytesEq]; simp [MemoryManager.loadFrame])
              exact ⟨loadedKept.trans mapped, fun _ => found⟩

theorem Sound.ensurePresent (sound : Sound scope none mm) (numberLt : number < 2 ^ 32)
    {done : Bool} (access : mm.ensurePresent faults fileTag number = (done, after)) :
    Kept scope none mm after ∧ (done = true → ∃ found, after.Present fileTag number found) := by
  unfold MemoryManager.ensurePresent at access
  split at access
  · obtain ⟨rfl, rfl⟩ := Prod.mk.inj access
    exact ⟨Kept.of_unmoved sound (Unmoved.refl mm), by simp⟩
  · rename_i grown growing
    have grownKept := Kept.of_unmoved sound (Unmoved.growTable numberLt growing).1
    split at access
    · rename_i isPresent
      obtain ⟨rfl, rfl⟩ := Prod.mk.inj access
      obtain ⟨found, held, present⟩ := (Option.any_eq_true _ _).mp isPresent
      exact ⟨grownKept, fun _ => ⟨found, held, present⟩⟩
    · rename_i notPresent
      have absent : ∀ found, ¬ grown.Present fileTag number found := by
        intro found present
        exact notPresent ((Option.any_eq_true _ _).mpr ⟨found, present.held, present.present⟩)
      obtain ⟨kept, found⟩ := grownKept.sound.mmHandlePageFault numberLt absent access
      exact ⟨grownKept.trans kept, found⟩

end Faults

end MemoryManager

end Worker

end MasterOfFiles
