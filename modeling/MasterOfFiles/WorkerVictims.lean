import MasterOfFiles.WorkerClock

/-!
# The victim of CLOCK-M

When every frame holds one page the search always succeeds.  Going round from the clock hand,
the victim is the first page that is neither used nor dirty, else the first one that is dirty
and not used, else the first clean one, else the one under the hand.
-/

namespace MasterOfFiles

namespace Worker

namespace MemoryManager

open CircularScan

variable {config : MemoryConfig} {mm after : MemoryManager config} {faults : StorageFaults}
  {fileTag : FileTag} {number frame : Nat} {entry : PageEntry} {accept : PageEntry → Bool}

/-- The frame is mapped by a present page that meets a condition. -/
def Holds (mm : MemoryManager config) (accept : PageEntry → Bool) (frame : Nat) : Prop :=
  ∃ fileTag number entry, mm.Present fileTag number entry ∧ entry.frame = frame ∧
    accept entry = true

def NoneHolds (mm : MemoryManager config) (accept : PageEntry → Bool) : Prop :=
  ∀ frame < config.frameCount, ¬ mm.Holds accept frame

/-- Every frame is used and mapped by exactly one present page. -/
structure FullyMapped (mm : MemoryManager config) : Prop where
  keys : (mm.entries.map Prod.fst).Nodup
  used : AllUsed mm
  mappedOnce : ∀ frame < config.frameCount, ∃! page : FileTag × Nat × PageEntry,
    mm.Present page.1 page.2.1 page.2.2 ∧ page.2.2.frame = frame
  clock_lt : mm.clockPointer < config.frameCount

/-- The frame whose page is the right victim, going round from the clock hand. -/
inductive Victim (mm : MemoryManager config) : Nat → Prop
  | ideal {victim : Nat} :
      FirstMet config.frameCount mm.clockPointer (mm.Holds ideal) victim → Victim mm victim
  | modified {victim : Nat} : mm.NoneHolds ideal →
      FirstMet config.frameCount mm.clockPointer (mm.Holds modified) victim → Victim mm victim
  | clean {victim : Nat} : mm.NoneHolds ideal → mm.NoneHolds modified →
      FirstMet config.frameCount mm.clockPointer (mm.Holds fun entry => !entry.dirty) victim →
        Victim mm victim
  | underClock : mm.NoneHolds ideal → mm.NoneHolds modified →
      mm.NoneHolds (fun entry => !entry.dirty) → Victim mm mm.clockPointer

theorem FullyMapped.mapped (full : FullyMapped mm) : Mapped mm where
  keys := full.keys
  used := full.used
  unique := by
    intro frame frameLt fileTag number entry otherTag otherNumber otherEntry first second here there
    have same : (fileTag, number, entry) = (otherTag, otherNumber, otherEntry) :=
      (full.mappedOnce frame frameLt).unique ⟨first, here⟩ ⟨second, there⟩
    exact ⟨congrArg Prod.fst same, congrArg (fun page => page.2.1) same⟩
  clock_lt := fun _ => full.clock_lt

theorem FullyMapped.pageAt (full : FullyMapped mm) (frameLt : frame < config.frameCount) :
    ∃ page, mm.pageAt frame = some page := by
  obtain ⟨⟨fileTag, number, entry⟩, ⟨present, sameFrame⟩, _⟩ := full.mappedOnce frame frameLt
  exact ⟨_, (pageAt_eq_some_iff full.mapped frameLt).mpr ⟨present, sameFrame⟩⟩

theorem holds_iff (mapped : Mapped mm) (frameLt : frame < config.frameCount) :
    ((mm.pageAt frame).filter fun page => accept page.2.2).isSome = true ↔
      mm.Holds accept frame := by
  rw [Option.isSome_iff_exists]
  constructor
  · rintro ⟨⟨fileTag, number, entry⟩, filtered⟩
    obtain ⟨found, accepted⟩ := Option.filter_eq_some_iff.mp filtered
    obtain ⟨present, sameFrame⟩ := (pageAt_eq_some_iff mapped frameLt).mp found
    exact ⟨fileTag, number, entry, present, sameFrame, accepted⟩
  · rintro ⟨fileTag, number, entry, present, sameFrame, accepted⟩
    exact ⟨_, Option.filter_eq_some_iff.mpr
      ⟨(pageAt_eq_some_iff mapped frameLt).mpr ⟨present, sameFrame⟩, accepted⟩⟩

theorem firstMet_of_firstPage (mapped : Mapped mm) (positive : 0 < config.frameCount)
    (found : mm.firstPage accept mm.circle = some (fileTag, number, entry)) :
    mm.Present fileTag number entry ∧ accept entry = true ∧ entry.frame < config.frameCount ∧
      FirstMet config.frameCount mm.clockPointer (mm.Holds accept) entry.frame := by
  obtain ⟨position, first, filtered⟩ := firstMet_of_findSome? found
  have positionLt : position < config.frameCount := by
    obtain ⟨offset, _, positionEq, _⟩ := first
    rw [positionEq]
    exact Nat.mod_lt _ positive
  obtain ⟨seen, accepted⟩ := Option.filter_eq_some_iff.mp filtered
  obtain ⟨present, rfl⟩ := (pageAt_eq_some_iff mapped positionLt).mp seen
  exact ⟨present, accepted, positionLt, first.congr fun other otherLt => holds_iff mapped otherLt⟩

theorem noneHolds_iff (mapped : Mapped mm) (positive : 0 < config.frameCount) :
    mm.NoneHolds accept ↔ mm.firstPage accept mm.circle = none := by
  rw [firstPage_none_iff]
  constructor
  · rintro noneHolds frame member ⟨fileTag, number, entry⟩ found
    have frameLt := lt_of_mem_arc positive member
    obtain ⟨present, sameFrame⟩ := (pageAt_eq_some_iff mapped frameLt).mp found
    by_contra accepted
    exact noneHolds frame frameLt
      ⟨fileTag, number, entry, present, sameFrame, by simpa using accepted⟩
  · rintro rejected frame frameLt ⟨fileTag, number, entry, present, sameFrame, accepted⟩
    have onCircle : frame ∈ mm.circle := (mem_circle (mapped.clock_lt positive)).mpr frameLt
    have refused := rejected frame onCircle (fileTag, number, entry)
      ((pageAt_eq_some_iff mapped frameLt).mpr ⟨present, sameFrame⟩)
    exact absurd (accepted.symm.trans refused) (by simp)

/-- The end of a search: where the victim was, what it was, and which use bits were cleared. -/
structure Chosen (mm : MemoryManager config) (fileTag : FileTag) (number : Nat)
    (entry : PageEntry) (base : MemoryManager config) : Prop where
  present : mm.Present fileTag number entry
  victim : mm.Victim entry.frame
  stored : entry.dirty = true → base.storage fileTag number = mm.physicalMemory entry.frame
  swept : (¬ mm.NoneHolds ideal ∧ base.page = mm.page) ∨
    (mm.NoneHolds ideal ∧ ∀ fileTag number,
      base.page fileTag number = (mm.page fileTag number).map (clearUse mm.circle))

def evictVictim (base : MemoryManager config) (fileTag : FileTag) (number frame : Nat) :
    MemoryManager config :=
  (base.evict fileTag number frame).setClock ((frame + 1) % config.frameCount)

theorem ideal_cleared (entry : PageEntry) :
    ideal { entry with useBit := false } = !entry.dirty := by
  simp [ideal]

theorem modified_cleared (entry : PageEntry) :
    modified { entry with useBit := false } = entry.dirty := by
  simp [modified]

theorem writeBlockToStorage_accepted (accepts : faults mm.requests = false) :
    mm.writeBlockToStorage faults fileTag number frame =
      (true, mm.storeFrame fileTag number frame) := by
  rw [writeBlockToStorage, accepts]
  rfl

theorem clearUse_append_self (frames : List Nat) :
    clearUse (frames ++ frames) = clearUse frames := by
  ext1 entry
  simp [clearUse]

/-- When all use bits are set the first round clears them and the second one chooses. -/
theorem clockRounds_two_chosen (full : FullyMapped mm) (accepts : faults mm.requests = false)
    (noIdeal : mm.NoneHolds ideal) (noModified : mm.NoneHolds modified) :
    ∃ fileTag number entry base, Chosen mm fileTag number entry base ∧
      clockRounds faults 2 mm =
        some (some entry.frame, base.evictVictim fileTag number entry.frame) := by
  have mapped := full.mapped
  have inside := full.clock_lt
  have positive : 0 < config.frameCount := Nat.zero_lt_of_lt inside
  obtain ⟨swept, isSwept, clockEq, retry⟩ := clockRounds_retry faults mapped positive
    ((noneHolds_iff mapped positive).mp noIdeal) ((noneHolds_iff mapped positive).mp noModified)
  have mappedSwept := isSwept.mapped mapped (by rw [clockEq]; exact inside)
  have again := isSwept.firstPage_circle mapped inside clockEq ideal
  simp only [ideal_cleared] at again
  cases third : mm.firstPage (fun entry => !entry.dirty) mm.circle with
  | some page =>
      obtain ⟨fileTag, number, entry⟩ := page
      obtain ⟨present, isClean, _, met⟩ := firstMet_of_firstPage mapped positive third
      rw [third] at again
      refine ⟨fileTag, number, entry, swept, ⟨present, .clean noIdeal noModified met, ?_,
        Or.inr ⟨noIdeal, isSwept.page⟩⟩, ?_⟩
      · intro dirty
        simp [dirty] at isClean
      · rw [retry]
        exact clockRounds_ideal mappedSwept positive again 0
  | none =>
      have noClean := (noneHolds_iff mapped positive).mpr third
      rw [third, Option.map_none] at again
      obtain ⟨page, underClock⟩ := full.pageAt inside
      have onCircle : mm.clockPointer ∈ mm.circle := (mem_circle inside).mpr inside
      have dirty : page.2.2.dirty = true := by
        simpa using firstPage_none_iff.mp third _ onCircle page underClock
      have someDirty : ∃ fileTag number entry,
          mm.firstPage (fun entry => entry.dirty) mm.circle = some (fileTag, number, entry) :=
        firstPage_isSome onCircle underClock dirty
      obtain ⟨fileTag, number, entry, fourth⟩ := someDirty
      obtain ⟨present, _, _, met⟩ := firstMet_of_firstPage mapped positive fourth
      have here : mm.Holds (fun entry => entry.dirty) mm.clockPointer := by
        obtain ⟨seen, sameFrame⟩ := (pageAt_eq_some_iff mapped inside).mp underClock
        exact ⟨_, _, _, seen, sameFrame, dirty⟩
      have found := isSwept.firstPage_circle mapped inside clockEq modified
      simp only [modified_cleared] at found
      rw [fourth] at found
      obtain ⟨last, isLast, _, ends⟩ :=
        clockRounds_modified faults mappedSwept positive again found
      have both := isSwept.trans isLast
      rw [Swept.circle_eq clockEq] at both
      have accepted : faults last.requests = false := by
        rw [both.requests]
        exact accepts
      refine ⟨fileTag, number, entry, last.storeFrame fileTag number entry.frame,
        ⟨present, ?_, ?_, Or.inr ⟨noIdeal, ?_⟩⟩, ?_⟩
      · rw [met.eq_start inside here]
        exact .underClock noIdeal noModified noClean
      · intro _
        simp [storeFrame, both.physicalMemory]
      · intro otherTag position
        have pageEq := both.page otherTag position
        rw [clearUse_append_self] at pageEq
        exact pageEq
      · rw [retry, ends, writeBlockToStorage_accepted accepted]
        rfl

/-- Two rounds choose the right victim and leave it out. -/
theorem clockRounds_chosen (full : FullyMapped mm) (accepts : faults mm.requests = false) :
    ∃ fileTag number entry base, Chosen mm fileTag number entry base ∧
      clockRounds faults 2 mm =
        some (some entry.frame, base.evictVictim fileTag number entry.frame) := by
  have mapped := full.mapped
  have positive : 0 < config.frameCount := Nat.zero_lt_of_lt full.clock_lt
  cases first : mm.firstPage ideal mm.circle with
  | some page =>
      obtain ⟨fileTag, number, entry⟩ := page
      obtain ⟨present, isIdeal, _, met⟩ := firstMet_of_firstPage mapped positive first
      have clean : entry.dirty = false := by
        simp only [ideal, Bool.and_eq_true, Bool.not_eq_true'] at isIdeal
        exact isIdeal.2
      have someIdeal : ¬ mm.NoneHolds ideal := by
        rw [noneHolds_iff mapped positive, first]
        simp
      exact ⟨fileTag, number, entry, mm, ⟨present, .ideal met, by simp [clean],
        Or.inl ⟨someIdeal, rfl⟩⟩, clockRounds_ideal mapped positive first 1⟩
  | none =>
      have noIdeal := (noneHolds_iff mapped positive).mpr first
      cases second : mm.firstPage modified mm.circle with
      | some page =>
          obtain ⟨fileTag, number, entry⟩ := page
          obtain ⟨present, _, _, met⟩ := firstMet_of_firstPage mapped positive second
          obtain ⟨swept, isSwept, _, ends⟩ :=
            clockRounds_modified faults mapped positive first second
          have accepted : faults swept.requests = false := by
            rw [isSwept.requests]
            exact accepts
          refine ⟨fileTag, number, entry, swept.storeFrame fileTag number entry.frame,
            ⟨present, .modified noIdeal met, ?_, Or.inr ⟨noIdeal, isSwept.page⟩⟩, ?_⟩
          · intro _
            simp [storeFrame, isSwept.physicalMemory]
          · rw [ends, writeBlockToStorage_accepted accepted]
            rfl
      | none =>
          exact clockRounds_two_chosen full accepts noIdeal
            ((noneHolds_iff mapped positive).mpr second)

theorem mmFindClockmVictim_eq_chosen (full : FullyMapped mm)
    (accepts : faults mm.requests = false) :
    ∃ fileTag number entry base, Chosen mm fileTag number entry base ∧
      mm.mmFindClockmVictim faults =
        (some entry.frame, base.evictVictim fileTag number entry.frame) := by
  obtain ⟨fileTag, number, entry, base, chosen, ends⟩ := clockRounds_chosen full accepts
  refine ⟨fileTag, number, entry, base, chosen, ?_⟩
  rw [mmFindClockmVictim, if_neg (Nat.pos_iff_ne_zero.mp (Nat.zero_lt_of_lt full.clock_lt)), ends,
    Option.getD_some]

/-- The page of a base table: the old one, perhaps without its use bit. -/
theorem Chosen.base_page {base : MemoryManager config}
    (chosen : Chosen mm fileTag number entry base) (otherTag : FileTag) (position : Nat) :
    ∃ passed, base.page otherTag position =
      (mm.page otherTag position).map (clearUse passed) := by
  rcases chosen.swept with ⟨_, same⟩ | ⟨_, swept⟩
  · refine ⟨[], ?_⟩
    rw [same]
    cases mm.page otherTag position with
    | none => rfl
    | some other => rw [Option.map_some, clearUse_of_not_mem (by simp)]
  · exact ⟨mm.circle, swept otherTag position⟩

theorem Chosen.present_iff {base : MemoryManager config}
    (chosen : Chosen mm fileTag number entry base) (otherTag : FileTag) (position : Nat) :
    (∃ other, (base.evictVictim fileTag number entry.frame).Present otherTag position other) ↔
      ¬ (otherTag = fileTag ∧ position = number) ∧ ∃ other, mm.Present otherTag position other := by
  have heldBase : ∃ held, base.page fileTag number = some held := by
    obtain ⟨passed, pageEq⟩ := chosen.base_page fileTag number
    rw [pageEq, chosen.present.held]
    exact ⟨_, rfl⟩
  obtain ⟨held, heldEq⟩ := heldBase
  have sameBase : (∃ other, base.Present otherTag position other) ↔
      ∃ other, mm.Present otherTag position other := by
    obtain ⟨passed, pageEq⟩ := chosen.base_page otherTag position
    constructor
    · rintro ⟨other, otherHeld, present⟩
      rw [pageEq] at otherHeld
      obtain ⟨old, oldHeld, rfl⟩ := Option.map_eq_some_iff.mp otherHeld
      exact ⟨old, oldHeld, by simpa using present⟩
    · rintro ⟨old, oldHeld, present⟩
      refine ⟨clearUse passed old, ?_, by simpa using present⟩
      rw [pageEq, oldHeld, Option.map_some]
  rw [← sameBase]
  constructor
  · rintro ⟨other, present⟩
    have evicted : (base.evict fileTag number entry.frame).Present otherTag position other :=
      present.of_entries rfl
    obtain ⟨elsewhere, presentBase⟩ := (present_evict heldEq).mp evicted
    exact ⟨elsewhere, other, presentBase⟩
  · rintro ⟨elsewhere, other, presentBase⟩
    have evicted : (base.evict fileTag number entry.frame).Present otherTag position other :=
      (present_evict heldEq).mpr ⟨elsewhere, presentBase⟩
    exact ⟨other, evicted.of_entries rfl⟩

/-- When every frame holds one page and Storage takes what is written back, CLOCK-M evicts the
right victim and nothing else, and leaves the hand behind it. -/
theorem mmFindClockmVictim_victim (faults : StorageFaults) (full : FullyMapped mm)
    (accepts : faults mm.requests = false) :
    ∃ victim after, mm.mmFindClockmVictim faults = (some victim, after) ∧ mm.Victim victim ∧
      after.clockPointer = (victim + 1) % config.frameCount ∧
        ∃ fileTag number entry, mm.Present fileTag number entry ∧ entry.frame = victim ∧
          (entry.dirty = true → after.storage fileTag number = mm.physicalMemory victim) ∧
            ∀ otherTag position, (∃ other, after.Present otherTag position other) ↔
              ¬ (otherTag = fileTag ∧ position = number) ∧
                ∃ other, mm.Present otherTag position other := by
  obtain ⟨fileTag, number, entry, base, chosen, ends⟩ := mmFindClockmVictim_eq_chosen full accepts
  exact ⟨entry.frame, _, ends, chosen.victim, rfl, fileTag, number, entry, chosen.present, rfl,
    chosen.stored, chosen.present_iff⟩

theorem FullyMapped.clockFirstPass_isSome_iff (full : FullyMapped mm) :
    (clockFirstPass config.frameCount mm).1.isSome = true ↔ ¬ mm.NoneHolds ideal := by
  have positive : 0 < config.frameCount := Nat.zero_lt_of_lt full.clock_lt
  rw [noneHolds_iff full.mapped positive, clockFirstPass_eq full.mapped positive, circle]
  cases mm.firstPage ideal (arc config.frameCount mm.clockPointer config.frameCount) with
  | none => simp
  | some page => simp

theorem useBit_evictVictim (base : MemoryManager config) {otherTag : FileTag} {position : Nat}
    {old : PageEntry} (held : base.page otherTag position = some old) :
    ∃ new, (base.evictVictim fileTag number frame).page otherTag position = some new ∧
      new.useBit = old.useBit := by
  have pageEq : (base.evictVictim fileTag number frame).page otherTag position =
      (base.ptUnmap fileTag number).page otherTag position := by
    have entriesEq : (base.evictVictim fileTag number frame).entries =
        (base.ptUnmap fileTag number).entries := rfl
    rw [page_of_entries entriesEq]
  rw [pageEq, ptUnmap, page_modifyPage]
  by_cases here : otherTag = fileTag ∧ position = number
  · obtain ⟨rfl, rfl⟩ := here
    rw [if_pos ⟨rfl, rfl⟩, held, Option.map_some]
    exact ⟨_, rfl, rfl⟩
  · rw [if_neg here, held]
    exact ⟨old, rfl, rfl⟩

def twoFrameConfig : MemoryConfig where
  pageSize := 2
  frameCount := 2
  policy := .clockM
  pageSize_pos := Nat.two_pos
  pageSize_lt := MemoryConfig.two_bytes
  frameCount_lt := MemoryConfig.two_frames

def staleEntry : PageEntry where
  pageNumber := 0
  frame := 0
  dirty := true
  present := true
  lastAccessTime := 0
  useBit := false

def recentEntry : PageEntry where
  pageNumber := 1
  frame := 1
  dirty := false
  present := true
  lastAccessTime := 0
  useBit := true

/-- A dirty page under the hand that is not used, and a used one behind it. -/
def recentPages : MemoryManager twoFrameConfig where
  entries := [(⟨"MATERIAS", "BASE"⟩, [staleEntry, recentEntry])]
  used _ := true
  clockPointer := 0
  physicalMemory _ := Vector.replicate 2 65
  globalTimestamp := 0
  connected := true
  storage _ _ := Vector.replicate 2 0
  requests := 0

theorem recentPages_full : FullyMapped recentPages := by
  have keys : (recentPages.entries.map Prod.fst).Nodup := by decide
  have pages : ∀ fileTag number entry, recentPages.Present fileTag number entry ↔
      (fileTag, number, entry) ∈ recentPages.allPages := by
    intro fileTag number entry
    constructor
    · rintro ⟨held, _⟩
      exact (page_eq_some_iff_mem_allPages keys).mp held
    · intro member
      have allPresent : ∀ page ∈ recentPages.allPages, page.2.2.present = true := by decide
      exact ⟨(page_eq_some_iff_mem_allPages keys).mpr member, allPresent _ member⟩
  refine ⟨keys, fun _ _ => rfl, ?_, by decide⟩
  intro frame frameLt
  have once : ∀ frame < 2, ∃ page ∈ recentPages.allPages, page.2.2.frame = frame ∧
      ∀ other ∈ recentPages.allPages, other.2.2.frame = frame → other = page := by
    decide
  obtain ⟨page, member, sameFrame, unique⟩ := once frame frameLt
  refine ⟨page, ⟨(pages _ _ _).mpr member, sameFrame⟩, ?_⟩
  rintro other ⟨present, otherFrame⟩
  exact unique other ((pages _ _ _).mp present) otherFrame

theorem mmFindClockmVictim_victim_recentPages :
    recentPages.Victim 0 ∧
      (recentPages.mmFindClockmVictim fun _ => false).2.clockPointer = 1 := by
  obtain ⟨victim, after, search, right, clockEq, _⟩ :=
    mmFindClockmVictim_victim (fun _ => false) recentPages_full rfl
  have first : (recentPages.mmFindClockmVictim fun _ => false).1 = some 0 := by decide
  rw [search] at first ⊢
  obtain rfl := Option.some.inj first
  exact ⟨right, clockEq⟩

/-- A search that is over in its first pass changes no use bit; any other one clears all of
them, also those of the pages that come after the victim. -/
theorem useBits_of_mmFindClockmVictim (faults : StorageFaults) (full : FullyMapped mm)
    (accepts : faults mm.requests = false) :
    ∃ victim after, mm.mmFindClockmVictim faults = (some victim, after) ∧
      ∀ fileTag number entry, mm.Present fileTag number entry →
        entry.frame < config.frameCount → ∃ new, after.page fileTag number = some new ∧
          new.useBit = if (clockFirstPass config.frameCount mm).1.isSome then entry.useBit
            else false := by
  obtain ⟨fileTag, number, entry, base, chosen, ends⟩ := mmFindClockmVictim_eq_chosen full accepts
  refine ⟨_, _, ends, ?_⟩
  intro otherTag position other present frameLt
  have held : ∃ old, base.page otherTag position = some old ∧ old.useBit =
      if (clockFirstPass config.frameCount mm).1.isSome then other.useBit else false := by
    rcases chosen.swept with ⟨someIdeal, same⟩ | ⟨noIdeal, swept⟩
    · rw [if_pos (full.clockFirstPass_isSome_iff.mpr someIdeal), same]
      exact ⟨other, present.held, rfl⟩
    · have onCircle : other.frame ∈ mm.circle := (mem_circle full.clock_lt).mpr frameLt
      rw [if_neg fun passed => full.clockFirstPass_isSome_iff.mp passed noIdeal, swept,
        present.held, Option.map_some, clearUse, if_pos ⟨present.present, onCircle⟩]
      exact ⟨_, rfl, rfl⟩
  obtain ⟨old, oldHeld, useBitEq⟩ := held
  obtain ⟨new, newHeld, same⟩ := useBit_evictVictim base oldHeld
  exact ⟨new, newHeld, same.trans useBitEq⟩

theorem useBits_of_mmFindClockmVictim_recentPages :
    ∃ victim after, (recentPages.mmFindClockmVictim fun _ => false) = (some victim, after) ∧
      ∃ new, after.page ⟨"MATERIAS", "BASE"⟩ 1 = some new ∧ new.useBit = false := by
  obtain ⟨victim, after, search, bits⟩ :=
    useBits_of_mmFindClockmVictim (fun _ => false) recentPages_full rfl
  have present : recentPages.Present ⟨"MATERIAS", "BASE"⟩ 1 recentEntry := ⟨by decide, rfl⟩
  obtain ⟨new, held, useBitEq⟩ := bits _ _ _ present (by decide)
  have passed : (clockFirstPass twoFrameConfig.frameCount recentPages).1.isSome = false := by
    decide
  rw [passed] at useBitEq
  exact ⟨victim, after, search, new, held, useBitEq⟩

/-- The second pass goes on behind the victim: the search takes frame 0, where the hand stands,
and has cleared the use bit of the page in frame 1. -/
theorem use_bit_cleared_behind_victim :
    FullyMapped recentPages ∧
      (clockFirstPass twoFrameConfig.frameCount recentPages).1 = none ∧
      (∃ entry, recentPages.Present ⟨"MATERIAS", "BASE"⟩ 0 entry ∧ entry.useBit = false) ∧
      (recentPages.mmFindClockmVictim fun _ => false).1 = some 0 ∧
      recentPages.clockPointer = 0 ∧
      (recentPages.page ⟨"MATERIAS", "BASE"⟩ 1).map
        (fun entry => (entry.frame, entry.useBit)) = some (1, true) ∧
      ((recentPages.mmFindClockmVictim fun _ => false).2.page ⟨"MATERIAS", "BASE"⟩ 1).map
        (fun entry => (entry.frame, entry.useBit)) = some (1, false) :=
  ⟨recentPages_full, by decide, ⟨_, ⟨rfl, rfl⟩, rfl⟩, by decide, rfl, by decide, by decide⟩

end MemoryManager

end Worker

end MasterOfFiles
