import MasterOfFiles.CircularScan
import MasterOfFiles.WorkerReplacement

/-!
# The passes of CLOCK-M

Each pass turns the hand around the frames.  The first pass stops at the first page that is
neither used nor dirty; the second one remembers the first page that is dirty and not used and
clears the use bit behind every frame it passes.  A round of both either finds a page or leaves
the tables with all use bits cleared and the hand where it was.
-/

namespace MasterOfFiles

namespace Worker

namespace MemoryManager

open CircularScan

variable {config : MemoryConfig} {mm after : MemoryManager config} {faults : StorageFaults}
  {fileTag : FileTag} {number frame steps : Nat} {entry : PageEntry}
  {accept : PageEntry → Bool}

/-- The page that CLOCK-M sees behind a frame. -/
def pageAt (mm : MemoryManager config) (frame : Nat) : Option (FileTag × Nat × PageEntry) :=
  if mm.used frame then mm.mmFindPageForFrame frame else none

/-- The first page behind some frames that meets a condition. -/
def firstPage (mm : MemoryManager config) (accept : PageEntry → Bool) (frames : List Nat) :
    Option (FileTag × Nat × PageEntry) :=
  frames.findSome? fun frame => (mm.pageAt frame).filter fun page => accept page.2.2

/-- The frames in the order in which a round passes them. -/
def circle (mm : MemoryManager config) : List Nat :=
  arc config.frameCount mm.clockPointer config.frameCount

def setClock (mm : MemoryManager config) (position : Nat) : MemoryManager config :=
  { mm with clockPointer := position }

/-- Neither used nor dirty. -/
def ideal (entry : PageEntry) : Bool :=
  !entry.useBit && !entry.dirty

def modified (entry : PageEntry) : Bool :=
  !entry.useBit && entry.dirty

/-- Clear the use bit of an entry that is mapped to one of some frames. -/
def clearUse (frames : List Nat) (entry : PageEntry) : PageEntry :=
  if entry.present = true ∧ entry.frame ∈ frames then { entry with useBit := false } else entry

/-- Every frame is in use, as when a victim is looked for. -/
def AllUsed (mm : MemoryManager config) : Prop :=
  ∀ frame < config.frameCount, mm.used frame = true

/-- Every File:Tag has one table, every frame is used, and no two present pages share one. -/
structure Mapped (mm : MemoryManager config) : Prop where
  keys : (mm.entries.map Prod.fst).Nodup
  used : AllUsed mm
  unique : ∀ frame < config.frameCount, ∀ fileTag number entry otherTag otherNumber otherEntry,
    mm.Present fileTag number entry → mm.Present otherTag otherNumber otherEntry →
      entry.frame = frame → otherEntry.frame = frame →
        fileTag = otherTag ∧ number = otherNumber
  clock_lt : 0 < config.frameCount → mm.clockPointer < config.frameCount

/-- Only use bits have changed: those behind some frames are clear. -/
structure Swept (frames : List Nat) (mm after : MemoryManager config) : Prop where
  keys : after.entries.map Prod.fst = mm.entries.map Prod.fst
  page : ∀ fileTag number,
    after.page fileTag number = (mm.page fileTag number).map (clearUse frames)
  used : after.used = mm.used
  physicalMemory : after.physicalMemory = mm.physicalMemory
  storage : after.storage = mm.storage
  requests : after.requests = mm.requests

section Lookup

theorem Mapped.of_entries (mapped : Mapped mm) (entriesEq : after.entries = mm.entries)
    (usedEq : after.used = mm.used) (clockLt : after.clockPointer < config.frameCount) :
    Mapped after where
  keys := by
    rw [entriesEq]
    exact mapped.keys
  used frame frameLt := by
    rw [usedEq]
    exact mapped.used frame frameLt
  unique := by
    intro frame frameLt fileTag number entry otherTag otherNumber otherEntry first second
    exact mapped.unique frame frameLt _ _ _ _ _ _ (first.of_entries entriesEq.symm)
      (second.of_entries entriesEq.symm)
  clock_lt := fun _ => clockLt

theorem pageAt_eq_some_iff (mapped : Mapped mm) (frameLt : frame < config.frameCount) :
    mm.pageAt frame = some (fileTag, number, entry) ↔
      mm.Present fileTag number entry ∧ entry.frame = frame := by
  have member : ∀ otherTag otherNumber otherEntry,
      (otherTag, otherNumber, otherEntry) ∈ mm.allPages ↔
        mm.page otherTag otherNumber = some otherEntry :=
    fun _ _ _ => (page_eq_some_iff_mem_allPages mapped.keys).symm
  rw [pageAt, if_pos (mapped.used frame frameLt), mmFindPageForFrame]
  constructor
  · intro found
    have matched := List.find?_some found
    simp only [Bool.and_eq_true, decide_eq_true_eq] at matched
    have held := (member _ _ _).mp (List.mem_of_find?_eq_some found)
    exact ⟨⟨held, matched.1⟩, matched.2⟩
  · rintro ⟨present, sameFrame⟩
    cases found : mm.allPages.find? fun candidate =>
        candidate.2.2.present && decide (candidate.2.2.frame = frame) with
    | none =>
        have missed := List.find?_eq_none.mp found _ ((member _ _ _).mpr present.held)
        simp [present.present, sameFrame] at missed
    | some other =>
        obtain ⟨otherTag, otherNumber, otherEntry⟩ := other
        have matched := List.find?_some found
        simp only [Bool.and_eq_true, decide_eq_true_eq] at matched
        have held := (member _ _ _).mp (List.mem_of_find?_eq_some found)
        obtain ⟨rfl, rfl⟩ := mapped.unique frame frameLt _ _ _ _ _ _ present ⟨held, matched.1⟩
          sameFrame matched.2
        rw [Option.some.inj (held.symm.trans present.held)]

theorem firstPage_cons (frame : Nat) (frames : List Nat) :
    mm.firstPage accept (frame :: frames) =
      ((mm.pageAt frame).filter fun page => accept page.2.2).or (mm.firstPage accept frames) := by
  rw [firstPage, List.findSome?_cons]
  cases (mm.pageAt frame).filter fun page => accept page.2.2 with
  | none => rfl
  | some page => rfl

theorem firstPage_congr {frames : List Nat}
    (agree : ∀ frame ∈ frames, after.pageAt frame = mm.pageAt frame) :
    after.firstPage accept frames = mm.firstPage accept frames := by
  induction frames with
  | nil => rfl
  | cons frame frames ih =>
      rw [firstPage_cons, firstPage_cons, agree frame (by simp)]
      rw [ih fun other member => agree other (by simp [member])]

theorem firstPage_none_iff {frames : List Nat} : mm.firstPage accept frames = none ↔
    ∀ frame ∈ frames, ∀ page, mm.pageAt frame = some page → accept page.2.2 = false := by
  rw [firstPage, List.findSome?_eq_none_iff]
  apply forall_congr'
  intro frame
  apply imp_congr_right
  intro _
  cases mm.pageAt frame with
  | none => simp
  | some page => cases accepted : accept page.2.2 <;> simp [Option.filter, accepted]

end Lookup

section FirstPass

/-- The first pass finds the first page that is neither used nor dirty, or turns the hand. -/
theorem clockFirstPass_eq (mapped : Mapped mm) (positive : 0 < config.frameCount) (steps : Nat) :
    clockFirstPass steps mm =
      match mm.firstPage ideal (arc config.frameCount mm.clockPointer steps) with
      | none => (none, mm.setClock ((mm.clockPointer + steps) % config.frameCount))
      | some (fileTag, number, entry) =>
        (some entry.frame, (mm.evict fileTag number entry.frame).setClock
          ((entry.frame + 1) % config.frameCount)) := by
  induction steps generalizing mm with
  | zero =>
      have inside := mapped.clock_lt positive
      simp only [clockFirstPass, arc_zero, Nat.add_zero, Nat.mod_eq_of_lt inside]
      rfl
  | succ steps ih =>
      have inside := mapped.clock_lt positive
      have turned : Mapped mm.advanceClock :=
        mapped.of_entries rfl rfl (Nat.mod_lt _ positive)
      have rest : clockFirstPass steps mm.advanceClock =
          match mm.firstPage ideal
            (arc config.frameCount ((mm.clockPointer + 1) % config.frameCount) steps) with
          | none => (none, mm.setClock ((mm.clockPointer + (steps + 1)) % config.frameCount))
          | some (fileTag, number, entry) =>
            (some entry.frame, (mm.evict fileTag number entry.frame).setClock
              ((entry.frame + 1) % config.frameCount)) := by
        have arithmetic : (mm.clockPointer + (steps + 1)) % config.frameCount =
            ((mm.clockPointer + 1) % config.frameCount + steps) % config.frameCount := by
          rw [Nat.mod_add_mod]
          congr 1
          omega
        rw [ih turned, arithmetic]
        rfl
      rw [clockFirstPass, arc_succ inside, firstPage_cons]
      have atClock : mm.pageAtClock = mm.pageAt mm.clockPointer := rfl
      rw [atClock]
      cases found : mm.pageAt mm.clockPointer with
      | none => exact rest
      | some page =>
          obtain ⟨fileTag, number, entry⟩ := page
          have sameFrame := ((pageAt_eq_some_iff mapped inside).mp found).2
          by_cases accepted : ideal entry = true
          · have bits : entry.useBit = false ∧ entry.dirty = false := by
              simpa [ideal] using accepted
            simp only [if_pos bits, Option.filter, accepted, if_true, Option.some_or, sameFrame]
            rfl
          · have bits : ¬(entry.useBit = false ∧ entry.dirty = false) := by
              simpa [ideal] using accepted
            simp only [if_neg bits, Option.filter, accepted, Bool.false_eq_true, if_false,
              Option.none_or]
            exact rest

end FirstPass

section SecondPass

@[simp]
theorem frame_clearUse (frames : List Nat) (entry : PageEntry) :
    (clearUse frames entry).frame = entry.frame := by
  unfold clearUse
  split <;> rfl

@[simp]
theorem present_clearUse (frames : List Nat) (entry : PageEntry) :
    (clearUse frames entry).present = entry.present := by
  unfold clearUse
  split <;> rfl

theorem clearUse_of_not_mem {frames : List Nat} (away : entry.frame ∉ frames) :
    clearUse frames entry = entry := by
  rw [clearUse, if_neg fun inside => away inside.2]

theorem clearUse_clearUse (earlier later : List Nat) (entry : PageEntry) :
    clearUse later (clearUse earlier entry) = clearUse (earlier ++ later) entry := by
  by_cases passed : entry.present = true ∧ entry.frame ∈ earlier
  · rw [clearUse, clearUse, clearUse, if_pos passed]
    simp [passed]
  · rw [clearUse, clearUse, clearUse, if_neg passed]
    by_cases present : entry.present = true
    · simp [show entry.frame ∉ earlier from fun member => passed ⟨present, member⟩]
    · simp [present]

theorem Swept.present_iff {frames : List Nat} (swept : Swept frames mm after) :
    after.Present fileTag number entry ↔
      ∃ old, mm.Present fileTag number old ∧ entry = clearUse frames old := by
  constructor
  · rintro ⟨held, present⟩
    rw [swept.page] at held
    obtain ⟨old, oldHeld, rfl⟩ := Option.map_eq_some_iff.mp held
    exact ⟨old, ⟨oldHeld, by simpa using present⟩, rfl⟩
  · rintro ⟨old, present, rfl⟩
    refine ⟨?_, by simpa using present.present⟩
    rw [swept.page, present.held, Option.map_some]

theorem Swept.mapped {frames : List Nat} (swept : Swept frames mm after) (mapped : Mapped mm)
    (clockLt : after.clockPointer < config.frameCount) : Mapped after where
  keys := by
    rw [swept.keys]
    exact mapped.keys
  used frame frameLt := by
    rw [swept.used]
    exact mapped.used frame frameLt
  unique := by
    intro frame frameLt fileTag number entry otherTag otherNumber otherEntry first second here there
    obtain ⟨old, oldPresent, rfl⟩ := swept.present_iff.mp first
    obtain ⟨otherOld, otherPresent, rfl⟩ := swept.present_iff.mp second
    exact mapped.unique frame frameLt _ _ _ _ _ _ oldPresent otherPresent (by simpa using here)
      (by simpa using there)
  clock_lt := fun _ => clockLt

/-- A sweep changes no more than the use bits of the pages that CLOCK-M sees. -/
theorem Swept.pageAt {frames : List Nat} (swept : Swept frames mm after) (mapped : Mapped mm)
    (clockLt : after.clockPointer < config.frameCount) (frameLt : frame < config.frameCount) :
    after.pageAt frame =
      (mm.pageAt frame).map fun page => (page.1, page.2.1, clearUse frames page.2.2) := by
  have mappedAfter := swept.mapped mapped clockLt
  apply Option.ext
  rintro ⟨fileTag, number, entry⟩
  rw [pageAt_eq_some_iff mappedAfter frameLt, swept.present_iff, Option.map_eq_some_iff]
  constructor
  · rintro ⟨⟨old, present, rfl⟩, sameFrame⟩
    rw [frame_clearUse] at sameFrame
    exact ⟨(fileTag, number, old), (pageAt_eq_some_iff mapped frameLt).mpr ⟨present, sameFrame⟩,
      rfl⟩
  · rintro ⟨⟨oldTag, oldNumber, old⟩, found, same⟩
    obtain ⟨present, sameFrame⟩ := (pageAt_eq_some_iff mapped frameLt).mp found
    obtain ⟨rfl, rfl, rfl⟩ :
        oldTag = fileTag ∧ oldNumber = number ∧ clearUse frames old = entry := by
      simpa using same
    exact ⟨⟨old, present, rfl⟩, by simpa using sameFrame⟩

theorem Swept.pageAt_of_not_mem {frames : List Nat} (swept : Swept frames mm after)
    (mapped : Mapped mm) (clockLt : after.clockPointer < config.frameCount)
    (frameLt : frame < config.frameCount) (away : frame ∉ frames) :
    after.pageAt frame = mm.pageAt frame := by
  rw [swept.pageAt mapped clockLt frameLt]
  cases found : mm.pageAt frame with
  | none => rfl
  | some page =>
      obtain ⟨fileTag, number, entry⟩ := page
      have sameFrame := ((pageAt_eq_some_iff mapped frameLt).mp found).2
      rw [Option.map_some, clearUse_of_not_mem (by rw [sameFrame]; exact away)]

theorem Swept.trans {middle : MemoryManager config} {earlier later : List Nat}
    (first : Swept earlier mm middle) (second : Swept later middle after) :
    Swept (earlier ++ later) mm after where
  keys := second.keys.trans first.keys
  page fileTag number := by
    rw [second.page, first.page, Option.map_map]
    congr 1
    ext1 entry
    exact clearUse_clearUse earlier later entry
  used := second.used.trans first.used
  physicalMemory := second.physicalMemory.trans first.physicalMemory
  storage := second.storage.trans first.storage
  requests := second.requests.trans first.requests

/-- One step of the second pass, without its candidate. -/
def sweepClock (mm : MemoryManager config) : MemoryManager config :=
  match mm.pageAtClock with
  | none => mm.advanceClock
  | some (fileTag, number, entry) =>
    (if entry.useBit then
      mm.modifyPage fileTag number fun current => { current with useBit := false }
    else mm).advanceClock

theorem page_sweepClock (held : mm.page fileTag number = some entry)
    (found : mm.pageAtClock = some (fileTag, number, entry)) (other : FileTag) (position : Nat) :
    mm.sweepClock.page other position =
      if other = fileTag ∧ position = number then some { entry with useBit := false }
      else mm.page other position := by
  have entriesEq : mm.sweepClock.entries = (if entry.useBit then
      mm.modifyPage fileTag number fun current => { current with useBit := false }
    else mm).entries := by
    rw [sweepClock, found]
    rfl
  rw [page_of_entries entriesEq]
  cases inUse : entry.useBit with
  | true => rw [if_pos rfl, page_modifyPage, held, Option.map_some]
  | false =>
      have kept : { entry with useBit := false } = entry := by
        rw [← inUse]
      rw [if_neg Bool.false_ne_true, kept]
      split
      · rename_i here
        rw [here.1, here.2]
        exact held
      · rfl

theorem clearUse_of_away {position : Nat}
    (away : ∀ entry, mm.Present fileTag number entry → entry.frame ≠ position) :
    (mm.page fileTag number).map (clearUse [position]) = mm.page fileTag number := by
  cases held : mm.page fileTag number with
  | none => rfl
  | some entry =>
      rw [Option.map_some, clearUse, if_neg]
      rintro ⟨present, here⟩
      exact away entry ⟨held, present⟩ (by simpa using here)

theorem swept_sweepClock (mapped : Mapped mm) (inside : mm.clockPointer < config.frameCount) :
    Swept [mm.clockPointer] mm mm.sweepClock := by
  refine ⟨?_, ?_, ?_, ?_, ?_, ?_⟩
  · rw [sweepClock]
    split
    · rfl
    · split
      · exact keys_modifyTable _ _ _
      · rfl
  · intro fileTag number
    cases found : mm.pageAtClock with
    | none =>
        have turned : mm.sweepClock.page fileTag number = mm.page fileTag number := by
          rw [sweepClock, found]
          rfl
        rw [turned, clearUse_of_away]
        intro entry present sameFrame
        have seen := (pageAt_eq_some_iff mapped inside).mpr ⟨present, sameFrame⟩
        exact absurd (found.symm.trans seen) (by simp)
    | some foundPage =>
        obtain ⟨foundTag, foundNumber, foundEntry⟩ := foundPage
        obtain ⟨foundPresent, foundFrame⟩ := (pageAt_eq_some_iff mapped inside).mp found
        rw [page_sweepClock foundPresent.held found]
        by_cases here : fileTag = foundTag ∧ number = foundNumber
        · obtain ⟨rfl, rfl⟩ := here
          rw [if_pos ⟨rfl, rfl⟩, foundPresent.held, Option.map_some, clearUse,
            if_pos ⟨foundPresent.present, by simp [foundFrame]⟩]
        · rw [if_neg here, clearUse_of_away]
          intro entry present sameFrame
          exact here (mapped.unique _ inside _ _ _ _ _ _ present foundPresent sameFrame foundFrame)
  all_goals
    rw [sweepClock]
    split
    · rfl
    · split <;> rfl

@[simp]
theorem clockPointer_sweepClock :
    mm.sweepClock.clockPointer = (mm.clockPointer + 1) % config.frameCount := by
  rw [sweepClock]
  split
  · rfl
  · split <;> rfl

/-- The second pass finds the first page that is dirty and not used, and clears the use bits
behind all the frames that it passes. -/
theorem clockSecondPass_eq (mapped : Mapped mm) (inside : mm.clockPointer < config.frameCount)
    (short : steps ≤ config.frameCount) (candidate : Option (FileTag × Nat × PageEntry)) :
    ∃ after, clockSecondPass steps candidate mm =
        (candidate.or (mm.firstPage modified (arc config.frameCount mm.clockPointer steps)),
          after) ∧
      Swept (arc config.frameCount mm.clockPointer steps) mm after ∧
        after.clockPointer = (mm.clockPointer + steps) % config.frameCount := by
  have positive : 0 < config.frameCount := Nat.zero_lt_of_lt inside
  induction steps generalizing mm candidate with
  | zero =>
      have unswept : Swept [] mm mm := by
        refine ⟨rfl, ?_, rfl, rfl, rfl, rfl⟩
        intro fileTag number
        cases mm.page fileTag number with
        | none => rfl
        | some entry => rw [Option.map_some, clearUse_of_not_mem (by simp)]
      refine ⟨mm, ?_, unswept, ?_⟩
      · rw [clockSecondPass, arc_zero]
        cases candidate <;> rfl
      · rw [Nat.add_zero, Nat.mod_eq_of_lt inside]
  | succ steps ih =>
      have turned : mm.sweepClock.clockPointer < config.frameCount := by
        rw [clockPointer_sweepClock]
        exact Nat.mod_lt _ positive
      have first := swept_sweepClock mapped inside
      have step : clockSecondPass (steps + 1) candidate mm = clockSecondPass steps
          (candidate.or ((mm.pageAt mm.clockPointer).filter fun page => modified page.2.2))
            mm.sweepClock := by
        rw [clockSecondPass, sweepClock]
        have atClock : mm.pageAtClock = mm.pageAt mm.clockPointer := rfl
        rw [atClock]
        cases mm.pageAt mm.clockPointer with
        | none => simp
        | some page =>
            obtain ⟨fileTag, number, entry⟩ := page
            cases candidate with
            | some chosen => simp
            | none =>
                by_cases accepted : modified entry = true
                · have bits : entry.useBit = false ∧ entry.dirty = true := by
                    simpa [modified] using accepted
                  simp [Option.filter, modified, bits]
                · have bits : ¬(entry.useBit = false ∧ entry.dirty = true) := by
                    simpa [modified] using accepted
                  simp [Option.filter, accepted, bits]
      obtain ⟨after, pass, second, clockEq⟩ := ih (first.mapped mapped turned) turned (by omega)
        (candidate.or ((mm.pageAt mm.clockPointer).filter fun page => modified page.2.2))
      have onward : mm.clockPointer ∉
          arc config.frameCount ((mm.clockPointer + 1) % config.frameCount) steps := by
        have distinct : (arc config.frameCount mm.clockPointer (steps + 1)).Nodup :=
          nodup_arc short
        rw [arc_succ inside] at distinct
        exact (List.nodup_cons.mp distinct).1
      have ahead : mm.sweepClock.firstPage modified
          (arc config.frameCount ((mm.clockPointer + 1) % config.frameCount) steps) =
            mm.firstPage modified
              (arc config.frameCount ((mm.clockPointer + 1) % config.frameCount) steps) := by
        apply firstPage_congr
        intro frame member
        apply first.pageAt_of_not_mem mapped turned (lt_of_mem_arc positive member)
        rintro here
        rw [List.mem_singleton] at here
        exact onward (here ▸ member)
      rw [clockPointer_sweepClock] at pass second clockEq
      refine ⟨after, ?_, ?_, ?_⟩
      · rw [step, pass, ahead, arc_succ inside, firstPage_cons, Option.or_assoc]
      · rw [arc_succ inside]
        exact first.trans second
      · rw [clockEq, Nat.mod_add_mod]
        congr 1
        omega

end SecondPass

section Rounds

theorem clockPointer_circle (inside : mm.clockPointer < config.frameCount) :
    (mm.clockPointer + config.frameCount) % config.frameCount = mm.clockPointer := by
  rw [Nat.add_mod_right, Nat.mod_eq_of_lt inside]

theorem clockFirstPass_circle (mapped : Mapped mm) (positive : 0 < config.frameCount)
    (missing : mm.firstPage ideal mm.circle = none) :
    clockFirstPass config.frameCount mm = (none, mm) := by
  have none : mm.firstPage ideal (arc config.frameCount mm.clockPointer config.frameCount) =
      none := missing
  rw [clockFirstPass_eq mapped positive, none, clockPointer_circle (mapped.clock_lt positive)]
  rfl

/-- A round that finds a page that is neither used nor dirty changes no use bit. -/
theorem clockRounds_ideal (mapped : Mapped mm) (positive : 0 < config.frameCount)
    (found : mm.firstPage ideal mm.circle = some (fileTag, number, entry)) (rounds : Nat) :
    clockRounds faults (rounds + 1) mm = some (some entry.frame,
      (mm.evict fileTag number entry.frame).setClock
        ((entry.frame + 1) % config.frameCount)) := by
  have pass := clockFirstPass_eq mapped positive config.frameCount
  have foundHere : mm.firstPage ideal (arc config.frameCount mm.clockPointer config.frameCount) =
      some (fileTag, number, entry) := found
  rw [foundHere] at pass
  rw [clockRounds, pass]

theorem clockSecondPass_circle (mapped : Mapped mm) (positive : 0 < config.frameCount) :
    ∃ swept, clockSecondPass config.frameCount none mm =
        (mm.firstPage modified mm.circle, swept) ∧
      Swept mm.circle mm swept ∧ swept.clockPointer = mm.clockPointer := by
  have inside := mapped.clock_lt positive
  obtain ⟨swept, pass, isSwept, clockEq⟩ :=
    clockSecondPass_eq mapped inside (Nat.le_refl config.frameCount) none
  rw [Option.none_or] at pass
  exact ⟨swept, pass, isSwept, clockEq.trans (clockPointer_circle inside)⟩

/-- A round that finds no such page, and then one that is dirty and not used, writes it back. -/
theorem clockRounds_modified (faults : StorageFaults) (mapped : Mapped mm)
    (positive : 0 < config.frameCount)
    (missing : mm.firstPage ideal mm.circle = none)
    (found : mm.firstPage modified mm.circle = some (fileTag, number, entry)) :
    ∃ swept, Swept mm.circle mm swept ∧ swept.clockPointer = mm.clockPointer ∧
      ∀ rounds, clockRounds faults (rounds + 1) mm =
        match swept.writeBlockToStorage faults fileTag number entry.frame with
        | (false, failed) => some (none, failed)
        | (true, written) => some (some entry.frame, (written.evict fileTag number
            entry.frame).setClock ((entry.frame + 1) % config.frameCount)) := by
  obtain ⟨swept, pass, isSwept, clockEq⟩ := clockSecondPass_circle mapped positive
  refine ⟨swept, isSwept, clockEq, fun rounds => ?_⟩
  rw [clockRounds, clockFirstPass_circle mapped positive missing]
  dsimp only
  rw [pass, found]
  rfl

/-- A round that finds neither clears every use bit and leaves the hand where it was. -/
theorem clockRounds_retry (faults : StorageFaults) (mapped : Mapped mm)
    (positive : 0 < config.frameCount)
    (missing : mm.firstPage ideal mm.circle = none)
    (noneModified : mm.firstPage modified mm.circle = none) :
    ∃ swept, Swept mm.circle mm swept ∧ swept.clockPointer = mm.clockPointer ∧
      ∀ rounds, clockRounds faults (rounds + 1) mm = clockRounds faults rounds swept := by
  obtain ⟨swept, pass, isSwept, clockEq⟩ := clockSecondPass_circle mapped positive
  refine ⟨swept, isSwept, clockEq, fun rounds => ?_⟩
  rw [clockRounds, clockFirstPass_circle mapped positive missing]
  dsimp only
  rw [pass, noneModified]

theorem Swept.circle_eq (clockEq : after.clockPointer = mm.clockPointer) :
    after.circle = mm.circle := by
  rw [circle, circle, clockEq]

/-- What a page looks like once the hand has gone round. -/
def cleared (page : FileTag × Nat × PageEntry) : FileTag × Nat × PageEntry :=
  (page.1, page.2.1, { page.2.2 with useBit := false })

/-- After a full sweep every page on the circle is the same page without its use bit. -/
theorem Swept.pageAt_circle (swept : Swept mm.circle mm after) (mapped : Mapped mm)
    (inside : mm.clockPointer < config.frameCount)
    (clockEq : after.clockPointer = mm.clockPointer) (frameLt : frame < config.frameCount) :
    after.pageAt frame = (mm.pageAt frame).map cleared := by
  rw [swept.pageAt mapped (by rw [clockEq]; exact inside) frameLt]
  cases found : mm.pageAt frame with
  | none => rfl
  | some page =>
      obtain ⟨fileTag, number, entry⟩ := page
      obtain ⟨present, sameFrame⟩ := (pageAt_eq_some_iff mapped frameLt).mp found
      have onCircle : entry.frame ∈ mm.circle := by
        rw [sameFrame]
        exact (mem_circle inside).mpr frameLt
      rw [Option.map_some, Option.map_some, clearUse, if_pos ⟨present.present, onCircle⟩]
      rfl

theorem firstPage_cleared {frames : List Nat}
    (agree : ∀ frame ∈ frames, after.pageAt frame = (mm.pageAt frame).map cleared) :
    after.firstPage accept frames =
      (mm.firstPage (fun entry => accept { entry with useBit := false }) frames).map cleared := by
  induction frames with
  | nil => rfl
  | cons frame frames ih =>
      rw [firstPage_cons, firstPage_cons, agree frame (by simp)]
      rw [ih fun other member => agree other (by simp [member])]
      cases mm.pageAt frame with
      | none => rfl
      | some page =>
          cases accepted : accept { page.2.2 with useBit := false } with
          | true => simp [Option.filter, cleared, accepted]
          | false => simp [Option.filter, cleared, accepted]

/-- Hence a search after the sweep finds the page that it would have found ignoring use bits. -/
theorem Swept.firstPage_circle (swept : Swept mm.circle mm after) (mapped : Mapped mm)
    (inside : mm.clockPointer < config.frameCount)
    (clockEq : after.clockPointer = mm.clockPointer) (accept : PageEntry → Bool) :
    after.firstPage accept after.circle =
      (mm.firstPage (fun entry => accept { entry with useBit := false }) mm.circle).map
        cleared := by
  rw [Swept.circle_eq clockEq]
  apply firstPage_cleared
  intro frame member
  exact swept.pageAt_circle mapped inside clockEq ((mem_circle inside).mp member)

theorem firstPage_isSome {frames : List Nat} {page : FileTag × Nat × PageEntry}
    (member : frame ∈ frames) (found : mm.pageAt frame = some page)
    (accepted : accept page.2.2 = true) :
    ∃ fileTag number entry, mm.firstPage accept frames = some (fileTag, number, entry) := by
  cases first : mm.firstPage accept frames with
  | none =>
      have rejected := firstPage_none_iff.mp first frame member page found
      exact absurd (accepted.symm.trans rejected) (by simp)
  | some other => exact ⟨other.1, other.2.1, other.2.2, rfl⟩

theorem clockRounds_one (faults : StorageFaults) (mapped : Mapped mm)
    (frameLt : frame < config.frameCount)
    {page : FileTag × Nat × PageEntry} (found : mm.pageAt frame = some page)
    (notUsed : page.2.2.useBit = false) :
    ∃ outcome, ∀ rounds, clockRounds faults (rounds + 1) mm = some outcome := by
  have positive : 0 < config.frameCount := Nat.zero_lt_of_lt frameLt
  have onCircle : frame ∈ mm.circle := (mem_circle (mapped.clock_lt positive)).mpr frameLt
  cases first : mm.firstPage ideal mm.circle with
  | some chosen =>
      obtain ⟨fileTag, number, entry⟩ := chosen
      exact ⟨_, fun rounds => clockRounds_ideal mapped positive first rounds⟩
  | none =>
      have dirty : page.2.2.dirty = true := by
        have rejected := firstPage_none_iff.mp first frame onCircle page found
        simpa [ideal, notUsed] using rejected
      have accepted : modified page.2.2 = true := by
        simp [modified, notUsed, dirty]
      obtain ⟨fileTag, number, entry, second⟩ := firstPage_isSome onCircle found accepted
      obtain ⟨swept, _, _, ends⟩ :=
        clockRounds_modified faults mapped positive first second
      cases wrote : swept.writeBlockToStorage faults fileTag number entry.frame with
      | mk done written =>
          cases done with
          | false => exact ⟨(none, written), fun rounds => by rw [ends, wrote]⟩
          | true =>
              refine ⟨(some entry.frame, (written.evict fileTag number entry.frame).setClock
                ((entry.frame + 1) % config.frameCount)), fun rounds => ?_⟩
              rw [ends, wrote]

/-- Two rounds end the search when some frame has a page: the first one clears the use bits. -/
theorem clockRounds_two_of_page (faults : StorageFaults) (mapped : Mapped mm)
    (frameLt : frame < config.frameCount)
    {page : FileTag × Nat × PageEntry} (found : mm.pageAt frame = some page) :
    ∃ outcome, ∀ rounds, clockRounds faults (rounds + 2) mm = some outcome := by
  have positive : 0 < config.frameCount := Nat.zero_lt_of_lt frameLt
  have inside := mapped.clock_lt positive
  by_cases unused : ∃ position < config.frameCount, ∃ other,
      mm.pageAt position = some other ∧ other.2.2.useBit = false
  · obtain ⟨position, positionLt, other, otherFound, notUsed⟩ := unused
    obtain ⟨outcome, ends⟩ := clockRounds_one faults mapped positionLt otherFound notUsed
    exact ⟨outcome, fun rounds => ends (rounds + 1)⟩
  · have allInUse : ∀ position ∈ mm.circle, ∀ other, mm.pageAt position = some other →
        other.2.2.useBit = true := by
      intro position member other otherFound
      by_contra notUsed
      exact unused ⟨position, lt_of_mem_arc positive member, other, otherFound,
        by simpa using notUsed⟩
    have noIdeal : mm.firstPage ideal mm.circle = none := by
      rw [firstPage_none_iff]
      intro position member other otherFound
      simp [ideal, allInUse position member other otherFound]
    have noModified : mm.firstPage modified mm.circle = none := by
      rw [firstPage_none_iff]
      intro position member other otherFound
      simp [modified, allInUse position member other otherFound]
    obtain ⟨swept, isSwept, clockEq, retry⟩ :=
      clockRounds_retry faults mapped positive noIdeal noModified
    have foundSwept : swept.pageAt frame = some (cleared page) := by
      rw [isSwept.pageAt_circle mapped inside clockEq frameLt, found, Option.map_some]
    obtain ⟨outcome, ends⟩ := clockRounds_one faults
      (isSwept.mapped mapped (by rw [clockEq]; exact inside)) frameLt foundSwept rfl
    exact ⟨outcome, fun rounds => (retry (rounds + 1)).trans (ends rounds)⟩

theorem clockRounds_of_no_page (faults : StorageFaults) (mapped : Mapped mm)
    (positive : 0 < config.frameCount)
    (noPage : ∀ frame < config.frameCount, mm.pageAt frame = none) (rounds : Nat) :
    clockRounds faults rounds mm = none := by
  have missing : ∀ accept, mm.firstPage accept mm.circle = none := by
    intro accept
    rw [firstPage_none_iff]
    intro frame member page found
    rw [noPage frame (lt_of_mem_arc positive member)] at found
    simp at found
  induction rounds generalizing mm with
  | zero => rfl
  | succ rounds ih =>
      have inside := mapped.clock_lt positive
      obtain ⟨swept, isSwept, clockEq, retry⟩ :=
        clockRounds_retry faults mapped positive (missing ideal) (missing modified)
      rw [retry]
      apply ih (isSwept.mapped mapped (by rw [clockEq]; exact inside))
      · intro frame frameLt
        rw [isSwept.pageAt_circle mapped inside clockEq frameLt, noPage frame frameLt,
          Option.map_none]
      · intro accept
        rw [isSwept.firstPage_circle mapped inside clockEq, missing, Option.map_none]

theorem clockRounds_ends_iff (faults : StorageFaults) (mapped : Mapped mm)
    (positive : 0 < config.frameCount) :
    (∃ rounds outcome, clockRounds faults rounds mm = some outcome) ↔
      ∃ frame < config.frameCount, ∃ page, mm.pageAt frame = some page := by
  constructor
  · rintro ⟨rounds, outcome, ends⟩
    by_contra noPage
    have never : clockRounds faults rounds mm = none := by
      apply clockRounds_of_no_page faults mapped positive
      intro frame frameLt
      cases found : mm.pageAt frame with
      | none => rfl
      | some page => exact absurd ⟨frame, frameLt, page, found⟩ noPage
    exact absurd (never.symm.trans ends) (by simp)
  · rintro ⟨frame, frameLt, page, found⟩
    obtain ⟨outcome, ends⟩ := clockRounds_two_of_page faults mapped frameLt found
    exact ⟨2, outcome, ends 0⟩

theorem Mapped.of_sound {scope : Scope} {reserved : Option Nat} (sound : Sound scope reserved mm)
    (allUsed : AllUsed mm) : Mapped mm where
  keys := sound.keys
  used := allUsed
  unique := by
    intro frame _ fileTag number entry otherTag otherNumber otherEntry first second here there
    exact sound.frame_unique _ _ _ _ _ _ first second (here.trans there.symm)
  clock_lt := sound.clock_lt

/-- While no frame is leaked the CLOCK-M loop ends: two rounds find a victim or fail to write it
back, and allowing more rounds makes no difference. -/
theorem clockRounds_two (sound : Sound .whole none mm) (positive : 0 < config.frameCount)
    (allUsed : AllUsed mm) :
    ∃ outcome, ∀ rounds, clockRounds faults (rounds + 2) mm = some outcome := by
  have mapped := Mapped.of_sound sound allUsed
  rcases (sound.used_iff 0 positive).mp (allUsed 0 positive) with leaked | held
  · simp [Scope.whole] at leaked
  · obtain ⟨fileTag, number, entry, present, sameFrame⟩ := held
    exact clockRounds_two_of_page faults mapped positive
      ((pageAt_eq_some_iff mapped positive).mpr ⟨present, sameFrame⟩)

end Rounds

end MemoryManager

end Worker

end MasterOfFiles
