import MasterOfFiles.WorkerMemoryManager
import Mathlib.Data.Set.Insert

/-!
# The paging invariant

`Sound` ties page tables, `used` flags, frames and Storage blocks together,
allowing for one frame that is reserved while a page fault is being served.
Every primitive step of the memory manager keeps it and leaves every page view
alone, except the byte transfer of a write.
-/

namespace MasterOfFiles

namespace Worker

namespace MemoryManager

variable {config : MemoryConfig}

section Lookup

variable (mm : MemoryManager config)

theorem findPageTable_modifyTable (fileTag other : FileTag)
    (change : List PageEntry → List PageEntry) :
    (mm.modifyTable fileTag change).findPageTable other =
      if other = fileTag then (mm.findPageTable fileTag).map change
      else mm.findPageTable other := by
  unfold findPageTable modifyTable
  induction mm.entries with
  | nil => simp
  | cons entry rest ih =>
      by_cases here : entry.1 = fileTag
      · by_cases same : other = fileTag
        · simp [here, same]
        · simpa [here, same, Ne.symm same] using ih
      · by_cases same : entry.1 = other
        · have different : other ≠ fileTag := by
            intro equal
            exact here (same.trans equal)
          simp [same, different]
        · by_cases target : other = fileTag
          · simpa [here, same, target] using ih
          · simpa [here, same, target] using ih

theorem keys_modifyTable (fileTag : FileTag) (change : List PageEntry → List PageEntry) :
    (mm.modifyTable fileTag change).entries.map Prod.fst = mm.entries.map Prod.fst := by
  simp only [modifyTable, List.map_map]
  apply List.map_congr_left
  intro entry _
  by_cases here : entry.1 = fileTag <;> simp [here]

theorem page_modifyPage (fileTag other : FileTag) (pageNumber position : Nat)
    (change : PageEntry → PageEntry) :
    (mm.modifyPage fileTag pageNumber change).page other position =
      if other = fileTag ∧ position = pageNumber then
        (mm.page fileTag pageNumber).map change
      else mm.page other position := by
  rw [page, modifyPage, findPageTable_modifyTable]
  by_cases same : other = fileTag
  · subst same
    cases table : mm.findPageTable other with
    | none => simp [page, table]
    | some entries =>
        by_cases here : position = pageNumber
        · simp [page, table, here]
        · simp [page, table, here, Ne.symm here]
  · simp [same, page]

theorem mem_allPages {fileTag : FileTag} {pageNumber : Nat} {entry : PageEntry} :
    (fileTag, pageNumber, entry) ∈ mm.allPages ↔
      ∃ table, (fileTag, table) ∈ mm.entries ∧ table[pageNumber]? = some entry := by
  simp only [allPages, List.mem_flatMap, List.mem_map, Prod.exists, Prod.mk.injEq,
    List.mem_zipIdx_iff_getElem?]
  constructor
  · rintro ⟨key, table, member, found, index, held, rfl, rfl, rfl⟩
    exact ⟨table, member, held⟩
  · rintro ⟨table, member, held⟩
    exact ⟨fileTag, table, member, entry, pageNumber, held, rfl, rfl, rfl⟩

variable {mm}

theorem findPageTable_of_mem (keys : (mm.entries.map Prod.fst).Nodup) {fileTag : FileTag}
    {table : List PageEntry} (member : (fileTag, table) ∈ mm.entries) :
    mm.findPageTable fileTag = some table := by
  unfold findPageTable
  generalize mm.entries = entries at keys member
  induction entries with
  | nil => simp at member
  | cons entry rest ih =>
      rw [List.map_cons, List.nodup_cons] at keys
      rcases List.mem_cons.mp member with rfl | later
      · simp
      · have different : entry.1 ≠ fileTag := by
          rintro rfl
          exact keys.1 (List.mem_map.mpr ⟨_, later, rfl⟩)
        simpa [different] using ih keys.2 later

theorem mem_of_findPageTable {fileTag : FileTag} {table : List PageEntry}
    (found : mm.findPageTable fileTag = some table) : (fileTag, table) ∈ mm.entries := by
  obtain ⟨entry, entryFound, rfl⟩ := Option.map_eq_some_iff.mp found
  have key : entry.1 = fileTag := by simpa using List.find?_some entryFound
  rw [← key]
  exact List.mem_of_find?_eq_some entryFound

theorem page_eq_some_iff_mem_allPages (keys : (mm.entries.map Prod.fst).Nodup)
    {fileTag : FileTag} {pageNumber : Nat} {entry : PageEntry} :
    mm.page fileTag pageNumber = some entry ↔
      (fileTag, pageNumber, entry) ∈ mm.allPages := by
  rw [mem_allPages, page, Option.bind_eq_some_iff]
  constructor
  · rintro ⟨table, found, held⟩
    exact ⟨table, mem_of_findPageTable found, held⟩
  · rintro ⟨table, member, held⟩
    exact ⟨table, findPageTable_of_mem keys member, held⟩

theorem page_eq_getElem? (fileTag : FileTag) (number : Nat) :
    mm.page fileTag number = ((mm.findPageTable fileTag).getD [])[number]? := by
  cases found : mm.findPageTable fileTag with
  | none => simp [page, found]
  | some table => simp [page, found]

theorem page_of_entries {after : MemoryManager config}
    (entriesEq : after.entries = mm.entries) : after.page = mm.page := by
  unfold page findPageTable
  rw [entriesEq]

end Lookup

/-- The entries of a resized table: the old ones, then fresh ones. -/
theorem getElem?_ptResize {table resized : List PageEntry} {newPageCount : Nat}
    (resizing : ptResize table newPageCount = some resized) (position : Nat) :
    resized[position]? =
      if position < newPageCount then some (table[position]?.getD (freshEntry position))
      else none := by
  unfold ptResize at resizing
  split at resizing
  · simp at resizing
  · rw [← Option.some.inj resizing]
    by_cases inside : position < newPageCount
    · rw [if_pos inside]
      by_cases old : position < table.length
      · rw [List.getElem?_append_left (by simp; omega), List.getElem?_take_of_lt inside]
        simp [old]
      · rw [List.getElem?_append_right (by simp; omega), List.getElem?_map,
          List.getElem?_range' (by simp; omega), List.getElem?_eq_none (by omega)]
        simp only [List.length_take, Option.map_some, Option.getD_none]
        congr 2
        omega
    · rw [if_neg inside]
      exact List.getElem?_eq_none (by simp; omega)

/-- What a File:Tag's page holds, wherever it is: the frame of a present page,
otherwise the Storage block. -/
def pageView (mm : MemoryManager config) (fileTag : FileTag) (pageNumber : Nat) :
    Page config.pageSize :=
  match mm.page fileTag pageNumber with
  | some entry =>
    if entry.present then mm.physicalMemory entry.frame else mm.storage fileTag pageNumber
  | none => mm.storage fileTag pageNumber

def view (mm : MemoryManager config) (fileTag : FileTag) (address : Nat) : UInt8 :=
  (mm.pageView fileTag (address / config.pageSize)).get
    ⟨address % config.pageSize, config.offset_lt address⟩

/-- No page view of these File:Tags has changed. -/
def Invisible (coherent : Set FileTag) (before after : MemoryManager config) : Prop :=
  ∀ fileTag ∈ coherent, ∀ pageNumber,
    after.pageView fileTag pageNumber = before.pageView fileTag pageNumber

theorem Invisible.trans {coherent : Set FileTag} {before middle after : MemoryManager config}
    (first : Invisible coherent before middle) (second : Invisible coherent middle after) :
    Invisible coherent before after :=
  fun fileTag tracked pageNumber =>
    (second fileTag tracked pageNumber).trans (first fileTag tracked pageNumber)

structure Present (mm : MemoryManager config) (fileTag : FileTag) (pageNumber : Nat)
    (entry : PageEntry) : Prop where
  held : mm.page fileTag pageNumber = some entry
  present : entry.present = true

theorem Present.pageView {mm : MemoryManager config} {fileTag : FileTag}
    {pageNumber : Nat} {entry : PageEntry} (present : mm.Present fileTag pageNumber entry) :
    mm.pageView fileTag pageNumber = mm.physicalMemory entry.frame := by
  simp [MemoryManager.pageView, present.held, present.present]

theorem Present.of_entries {before after : MemoryManager config} {fileTag : FileTag}
    {pageNumber : Nat} {entry : PageEntry}
    (present : before.Present fileTag pageNumber entry)
    (entriesEq : after.entries = before.entries) :
    after.Present fileTag pageNumber entry := by
  refine ⟨?_, present.present⟩
  rw [page_of_entries entriesEq]
  exact present.held

theorem pageView_of_not_present {mm : MemoryManager config} {fileTag : FileTag}
    {pageNumber : Nat} (absent : ∀ entry, ¬ mm.Present fileTag pageNumber entry) :
    mm.pageView fileTag pageNumber = mm.storage fileTag pageNumber := by
  unfold MemoryManager.pageView
  cases held : mm.page fileTag pageNumber with
  | none => rfl
  | some entry =>
      have out : entry.present = false := by
        by_contra inside
        exact absent entry ⟨held, by simpa using inside⟩
      simp [out]

section NewPages

variable {mm : MemoryManager config} {fileTag : FileTag} {number : Nat} {entry : PageEntry}

theorem Present.of_mmCreatePageTable {other : FileTag} {position : Nat}
    (present : (mm.mmCreatePageTable fileTag).Present other position entry) :
    mm.Present other position entry := by
  obtain ⟨held, isPresent⟩ := present
  unfold mmCreatePageTable at held
  split at held
  · exact ⟨held, isPresent⟩
  · rename_i missing
    by_cases same : other = fileTag
    · subst same
      have notFound := Option.map_eq_none_iff.mp missing
      have fresh : [freshEntry 0][position]? = some entry := by
        simpa [page, findPageTable, List.find?_append, notFound] using held
      obtain rfl : entry = freshEntry 0 := by
        simpa using List.mem_of_getElem? fresh
      simp [freshEntry] at isPresent
    · refine ⟨?_, isPresent⟩
      simpa [page, findPageTable, List.find?_append, Ne.symm same] using held

theorem growTable_cases {grown : MemoryManager config}
    (growing : mm.growTable fileTag number = some grown) :
    mm = grown ∨ ∃ table resized, mm.findPageTable fileTag = some table ∧
      ptResize table ((number + 1) % 2 ^ 32) = some resized ∧
      mm.modifyTable fileTag (fun _ => resized) = grown := by
  unfold growTable at growing
  split at growing
  · simp at growing
  · rename_i table found
    split at growing
    · exact Or.inl (by simpa using growing)
    · obtain ⟨resized, resizing, grownEq⟩ := Option.map_eq_some_iff.mp growing
      exact Or.inr ⟨table, resized, found, resizing, grownEq⟩

theorem Present.of_growTable {grown : MemoryManager config} {other : FileTag} {position : Nat}
    (growing : mm.growTable fileTag number = some grown)
    (present : grown.Present other position entry) : mm.Present other position entry := by
  obtain ⟨held, isPresent⟩ := present
  refine ⟨?_, isPresent⟩
  rcases growTable_cases growing with rfl | ⟨table, resized, found, resizing, rfl⟩
  · exact held
  · rw [page, findPageTable_modifyTable] at held
    split at held
    · rename_i same
      rw [found, Option.map_some, Option.bind_some, getElem?_ptResize resizing] at held
      split at held
      · rw [page, same, found, Option.bind_some]
        cases old : table[position]? with
        | none =>
            rw [old, Option.getD_none, Option.some.injEq] at held
            simp [← held, freshEntry] at isPresent
        | some oldEntry =>
            rw [old, Option.getD_some] at held
            exact held
      · simp at held
    · exact held

end NewPages

/-- What the invariant speaks of: the File:Tags whose clean pages agree with Storage, the
File:Tags without dirty pages, and the frames that are used although no page maps them
any more. -/
structure Scope where
  coherent : Set FileTag
  spared : Set FileTag
  leaked : Set Nat

/-- Every File:Tag agrees with Storage and no frame is leaked. -/
def Scope.whole : Scope where
  coherent := Set.univ
  spared := ∅
  leaked := ∅

theorem Scope.mem_whole (fileTag : FileTag) : fileTag ∈ Scope.whole.coherent :=
  Set.mem_univ fileTag

/-- The invariant.  `reserved` is a frame that a page fault has taken and not
yet mapped. -/
structure Sound (scope : Scope) (reserved : Option Nat) (mm : MemoryManager config) :
    Prop where
  keys : (mm.entries.map Prod.fst).Nodup
  pageNumber : ∀ fileTag number entry, mm.page fileTag number = some entry →
    entry.pageNumber = number ∧ number + 1 < 2 ^ 32
  dirty_present : ∀ fileTag number entry, mm.page fileTag number = some entry →
    entry.dirty = true → entry.present = true
  clean : ∀ fileTag ∈ scope.coherent, ∀ number entry, mm.Present fileTag number entry →
    entry.dirty = false → mm.physicalMemory entry.frame = mm.storage fileTag number
  spared : ∀ fileTag ∈ scope.spared, ∀ number entry, mm.page fileTag number = some entry →
    entry.dirty = false
  frame_lt : ∀ fileTag number entry, mm.Present fileTag number entry →
    entry.frame < config.frameCount
  frame_unique : ∀ fileTag number entry otherTag otherNumber otherEntry,
    mm.Present fileTag number entry → mm.Present otherTag otherNumber otherEntry →
      entry.frame = otherEntry.frame → fileTag = otherTag ∧ number = otherNumber
  used_iff : ∀ frame < config.frameCount, mm.used frame = true ↔
    (reserved = some frame ∨ frame ∈ scope.leaked) ∨
      ∃ fileTag number entry, mm.Present fileTag number entry ∧ entry.frame = frame
  reserved_lt : ∀ frame, reserved = some frame → frame < config.frameCount ∧ frame ∉ scope.leaked
  unmapped : ∀ frame, reserved = some frame ∨ frame ∈ scope.leaked →
    ∀ fileTag number entry, mm.Present fileTag number entry → entry.frame ≠ frame
  clock_lt : 0 < config.frameCount → mm.clockPointer < config.frameCount

/-- Fewer File:Tags need to agree with Storage. -/
theorem Sound.restrict {scope smaller : Scope} {reserved : Option Nat}
    {mm : MemoryManager config} (sound : Sound scope reserved mm)
    (fewer : smaller.coherent ⊆ scope.coherent) (sparing : smaller.spared ⊆ scope.spared)
    (leakedEq : smaller.leaked = scope.leaked) :
    Sound smaller reserved mm where
  keys := sound.keys
  pageNumber := sound.pageNumber
  dirty_present := sound.dirty_present
  clean fileTag tracked := sound.clean fileTag (fewer tracked)
  spared fileTag isSpared := sound.spared fileTag (sparing isSpared)
  frame_lt := sound.frame_lt
  frame_unique := sound.frame_unique
  used_iff := by
    rw [leakedEq]
    exact sound.used_iff
  reserved_lt := by
    rw [leakedEq]
    exact sound.reserved_lt
  unmapped := by
    rw [leakedEq]
    exact sound.unmapped
  clock_lt := sound.clock_lt

/-- The part of an entry that the mapping depends on. -/
def core (entry : PageEntry) : Nat × Nat × Bool × Bool :=
  (entry.pageNumber, entry.frame, entry.dirty, entry.present)

theorem core_eq_iff {first second : PageEntry} :
    core first = core second ↔
      first.pageNumber = second.pageNumber ∧ first.frame = second.frame ∧
        first.dirty = second.dirty ∧ first.present = second.present := by
  simp [core]

/-- Only access times, use bits, the clock hand and counters have changed, or
pages that are not present have been added. -/
structure Unmoved (before after : MemoryManager config) : Prop where
  keys : (before.entries.map Prod.fst).Nodup → (after.entries.map Prod.fst).Nodup
  page : ∀ fileTag number,
    (after.page fileTag number).map core = (before.page fileTag number).map core ∨
      (before.page fileTag number = none ∧ number + 1 < 2 ^ 32 ∧
        (after.page fileTag number).map core = some (core (freshEntry number)))
  used : after.used = before.used
  physicalMemory : after.physicalMemory = before.physicalMemory
  storage : after.storage = before.storage
  clock_lt : before.clockPointer < config.frameCount → after.clockPointer < config.frameCount

namespace Unmoved

variable {before middle after : MemoryManager config} {fileTag : FileTag} {number : Nat}
  {entry : PageEntry}

theorem refl (mm : MemoryManager config) : Unmoved mm mm :=
  ⟨id, fun _ _ => Or.inl rfl, rfl, rfl, rfl, id⟩

theorem trans (first : Unmoved before middle) (second : Unmoved middle after) :
    Unmoved before after where
  keys start := second.keys (first.keys start)
  page fileTag number := by
    rcases second.page fileTag number with same | ⟨missing, bound, fresh⟩
    · rcases first.page fileTag number with same' | ⟨missing, bound, fresh⟩
      · exact Or.inl (same.trans same')
      · exact Or.inr ⟨missing, bound, same.trans fresh⟩
    · rcases first.page fileTag number with same' | ⟨missing', _, fresh'⟩
      · refine Or.inr ⟨?_, bound, fresh⟩
        rw [missing, Option.map_none, eq_comm, Option.map_eq_none_iff] at same'
        exact same'
      · simp [missing] at fresh'
  used := second.used.trans first.used
  physicalMemory := second.physicalMemory.trans first.physicalMemory
  storage := second.storage.trans first.storage
  clock_lt start := second.clock_lt (first.clock_lt start)

theorem entry_cases (unmoved : Unmoved before after)
    (held : after.page fileTag number = some entry) :
    (∃ old, before.page fileTag number = some old ∧ core entry = core old) ∨
      (number + 1 < 2 ^ 32 ∧ core entry = core (freshEntry number)) := by
  rcases unmoved.page fileTag number with same | ⟨_, bound, fresh⟩
  · rw [held, Option.map_some, eq_comm, Option.map_eq_some_iff] at same
    obtain ⟨old, oldHeld, coreEq⟩ := same
    exact Or.inl ⟨old, oldHeld, coreEq.symm⟩
  · rw [held, Option.map_some, Option.some.injEq] at fresh
    exact Or.inr ⟨bound, fresh⟩

theorem present_before (unmoved : Unmoved before after)
    (present : after.Present fileTag number entry) :
    ∃ old, before.Present fileTag number old ∧ core entry = core old := by
  rcases unmoved.entry_cases present.held with ⟨old, held, coreEq⟩ | ⟨_, fresh⟩
  · exact ⟨old, ⟨held, (core_eq_iff.mp coreEq).2.2.2 ▸ present.present⟩, coreEq⟩
  · have absent : entry.present = false := (core_eq_iff.mp fresh).2.2.2
    rw [present.present] at absent
    simp at absent

theorem present_after (unmoved : Unmoved before after)
    (present : before.Present fileTag number entry) :
    ∃ new, after.Present fileTag number new ∧ core new = core entry := by
  rcases unmoved.page fileTag number with same | ⟨missing, _, _⟩
  · rw [present.held, Option.map_some, Option.map_eq_some_iff] at same
    obtain ⟨new, newHeld, coreEq⟩ := same
    exact ⟨new, ⟨newHeld, (core_eq_iff.mp coreEq).2.2.2.trans present.present⟩, coreEq⟩
  · simp [present.held] at missing

theorem invisible (unmoved : Unmoved before after) (coherent : Set FileTag) :
    Invisible coherent before after := by
  intro fileTag _ number
  by_cases inMemory : ∃ entry, after.Present fileTag number entry
  · obtain ⟨entry, present⟩ := inMemory
    obtain ⟨old, oldPresent, coreEq⟩ := unmoved.present_before present
    rw [present.pageView, oldPresent.pageView, unmoved.physicalMemory,
      (core_eq_iff.mp coreEq).2.1]
  · have absentBefore : ∀ entry, ¬ before.Present fileTag number entry := by
      intro entry present
      obtain ⟨new, newPresent, _⟩ := unmoved.present_after present
      exact inMemory ⟨new, newPresent⟩
    rw [pageView_of_not_present (fun entry present => inMemory ⟨entry, present⟩),
      pageView_of_not_present absentBefore, unmoved.storage]

theorem sound (unmoved : Unmoved before after) {scope : Scope} {reserved : Option Nat}
    (sound : Sound scope reserved before) : Sound scope reserved after where
  keys := unmoved.keys sound.keys
  pageNumber fileTag number entry held := by
    rcases unmoved.entry_cases held with ⟨old, oldHeld, coreEq⟩ | ⟨bound, fresh⟩
    · rw [(core_eq_iff.mp coreEq).1]
      exact sound.pageNumber fileTag number old oldHeld
    · exact ⟨(core_eq_iff.mp fresh).1, bound⟩
  dirty_present fileTag number entry held dirty := by
    rcases unmoved.entry_cases held with ⟨old, oldHeld, coreEq⟩ | ⟨_, fresh⟩
    · obtain ⟨_, _, dirtyEq, presentEq⟩ := core_eq_iff.mp coreEq
      rw [presentEq]
      exact sound.dirty_present fileTag number old oldHeld (dirtyEq ▸ dirty)
    · rw [(core_eq_iff.mp fresh).2.2.1] at dirty
      simp [freshEntry] at dirty
  clean fileTag tracked number entry present clean := by
    obtain ⟨old, oldPresent, coreEq⟩ := unmoved.present_before present
    obtain ⟨_, frameEq, dirtyEq, _⟩ := core_eq_iff.mp coreEq
    rw [unmoved.physicalMemory, unmoved.storage, frameEq]
    exact sound.clean fileTag tracked number old oldPresent (dirtyEq ▸ clean)
  spared fileTag isSpared number entry held := by
    rcases unmoved.entry_cases held with ⟨old, oldHeld, coreEq⟩ | ⟨_, fresh⟩
    · rw [(core_eq_iff.mp coreEq).2.2.1]
      exact sound.spared fileTag isSpared number old oldHeld
    · exact (core_eq_iff.mp fresh).2.2.1
  frame_lt fileTag number entry present := by
    obtain ⟨old, oldPresent, coreEq⟩ := unmoved.present_before present
    rw [(core_eq_iff.mp coreEq).2.1]
    exact sound.frame_lt fileTag number old oldPresent
  frame_unique fileTag number entry otherTag otherNumber otherEntry present otherPresent
      sameFrame := by
    obtain ⟨old, oldPresent, coreEq⟩ := unmoved.present_before present
    obtain ⟨otherOld, otherOldPresent, otherCoreEq⟩ := unmoved.present_before otherPresent
    refine sound.frame_unique fileTag number old otherTag otherNumber otherOld oldPresent
      otherOldPresent ?_
    rw [← (core_eq_iff.mp coreEq).2.1, ← (core_eq_iff.mp otherCoreEq).2.1, sameFrame]
  used_iff frame frameLt := by
    rw [unmoved.used, sound.used_iff frame frameLt]
    refine or_congr_right ⟨?_, ?_⟩
    · rintro ⟨fileTag, number, entry, present, rfl⟩
      obtain ⟨new, newPresent, coreEq⟩ := unmoved.present_after present
      exact ⟨fileTag, number, new, newPresent, (core_eq_iff.mp coreEq).2.1⟩
    · rintro ⟨fileTag, number, entry, present, rfl⟩
      obtain ⟨old, oldPresent, coreEq⟩ := unmoved.present_before present
      exact ⟨fileTag, number, old, oldPresent, (core_eq_iff.mp coreEq).2.1.symm⟩
  reserved_lt := sound.reserved_lt
  unmapped frame isHeld fileTag number entry present := by
    obtain ⟨old, oldPresent, coreEq⟩ := unmoved.present_before present
    rw [(core_eq_iff.mp coreEq).2.1]
    exact sound.unmapped frame isHeld fileTag number old oldPresent
  clock_lt positive := unmoved.clock_lt (sound.clock_lt positive)

theorem modifyPage (mm : MemoryManager config) (fileTag : FileTag) (number : Nat)
    {change : PageEntry → PageEntry} (keeps : ∀ entry, core (change entry) = core entry) :
    Unmoved mm (mm.modifyPage fileTag number change) where
  keys start := by
    rw [MemoryManager.modifyPage, keys_modifyTable]
    exact start
  page other position := by
    left
    rw [page_modifyPage]
    split
    · rename_i here
      obtain ⟨rfl, rfl⟩ := here
      cases mm.page other position with
      | none => rfl
      | some entry => simp [keeps]
    · rfl
  used := rfl
  physicalMemory := rfl
  storage := rfl
  clock_lt := id

theorem mmUpdatePageAccess (mm : MemoryManager config) (fileTag : FileTag) (number : Nat) :
    Unmoved mm (mm.mmUpdatePageAccess fileTag number) := by
  unfold MemoryManager.mmUpdatePageAccess
  split
  · split
    · exact refl mm
    · have stamped : Unmoved mm (mm.modifyPage fileTag number fun entry =>
          { entry with lastAccessTime := (mm.globalTimestamp + 1) % 2 ^ 64 }) :=
        modifyPage mm fileTag number (fun _ => rfl)
      exact ⟨stamped.keys, stamped.page, stamped.used, stamped.physicalMemory,
        stamped.storage, stamped.clock_lt⟩
  · exact modifyPage mm fileTag number (fun _ => rfl)

theorem advanceClock (mm : MemoryManager config) : Unmoved mm mm.advanceClock where
  keys := id
  page _ _ := Or.inl rfl
  used := rfl
  physicalMemory := rfl
  storage := rfl
  clock_lt start := Nat.mod_lt _ (Nat.zero_lt_of_lt start)

theorem countRequest (mm : MemoryManager config) :
    Unmoved mm { mm with requests := mm.requests + 1 } :=
  ⟨id, fun _ _ => Or.inl rfl, rfl, rfl, rfl, id⟩

theorem growTable {mm grown : MemoryManager config} {fileTag : FileTag} {number : Nat}
    (numberLt : number < 2 ^ 32)
    (done : mm.growTable fileTag number = some grown) :
    Unmoved mm grown ∧ grown.page fileTag number ≠ none := by
  unfold MemoryManager.growTable at done
  split at done
  · simp at done
  · rename_i table found
    split at done
    · rename_i inside
      obtain rfl : mm = grown := by simpa using done
      refine ⟨refl mm, ?_⟩
      simp [MemoryManager.page, found, inside]
    · rename_i outside
      obtain ⟨resized, resizing, rfl⟩ := Option.map_eq_some_iff.mp done
      have countEq : (number + 1) % 2 ^ 32 = number + 1 := by
        by_contra wrapped
        have last : (number + 1) % 2 ^ 32 = 0 := by omega
        rw [last, ptResize, if_pos rfl] at resizing
        simp at resizing
      rw [countEq] at resizing
      have pageOf : ∀ position, (mm.modifyTable fileTag fun _ => resized).page fileTag
          position = resized[position]? := by
        intro position
        simp [MemoryManager.page, findPageTable_modifyTable, found]
      refine ⟨⟨?_, ?_, rfl, rfl, rfl, id⟩, ?_⟩
      · intro keys
        rw [keys_modifyTable]
        exact keys
      · intro other position
        by_cases same : other = fileTag
        · subst same
          have before : mm.page other position = table[position]? := by
            simp [MemoryManager.page, found]
          rw [pageOf, before, getElem?_ptResize resizing]
          by_cases old : position < table.length
          · have inside : position < number + 1 := by omega
            simp [old, inside]
          · by_cases new : position < number + 1
            · exact Or.inr ⟨List.getElem?_eq_none (by omega), by omega, by simp [old, new]⟩
            · exact Or.inl (by simp [old, new])
        · left
          simp [MemoryManager.page, findPageTable_modifyTable, same]
      · rw [pageOf, getElem?_ptResize resizing, if_pos (Nat.lt_succ_self number)]
        simp

theorem mmCreatePageTable (mm : MemoryManager config) (fileTag : FileTag) :
    Unmoved mm (mm.mmCreatePageTable fileTag) := by
  unfold MemoryManager.mmCreatePageTable
  split
  · exact refl mm
  · rename_i missing
    have absentKey : fileTag ∉ mm.entries.map Prod.fst := by
      intro member
      obtain ⟨entry, entryMem, rfl⟩ := List.mem_map.mp member
      have notFound := Option.map_eq_none_iff.mp missing
      simpa using List.find?_eq_none.mp notFound entry entryMem
    refine ⟨?_, ?_, rfl, rfl, rfl, id⟩
    · intro keys
      rw [List.map_append]
      refine List.Nodup.append keys (by simp) ?_
      simpa using absentKey
    · intro other number
      by_cases same : other = fileTag
      · subst same
        have before : mm.page other number = none := by simp [MemoryManager.page, missing]
        have after : ({ mm with entries := mm.entries ++ [(other, [freshEntry 0])] } :
            MemoryManager config).page other number = [freshEntry 0][number]? := by
          have notFound := Option.map_eq_none_iff.mp missing
          simp [MemoryManager.page, findPageTable, List.find?_append, notFound]
        rw [after, before]
        cases number with
        | zero => exact Or.inr ⟨rfl, by omega, rfl⟩
        | succ number => exact Or.inl rfl
      · left
        congr 1
        simp [MemoryManager.page, findPageTable, List.find?_append, Ne.symm same]

end Unmoved

end MemoryManager

end Worker

end MasterOfFiles
