import MasterOfFiles.WorkerLru
import Mathlib.Data.Finset.Card

/-!
# The pages in memory under LRU

When Storage accepts every request, an access to a page always succeeds: the page is in memory
already, or a frame is free, or the page used least recently makes room.  These are the three ways
in which the set of pages in memory changes.
-/

namespace MasterOfFiles

namespace Worker

namespace MemoryManager

variable {config : MemoryConfig} {mm middle after : MemoryManager config} {fileTag : FileTag}
  {number frame : Nat} {entry : PageEntry} {history : List PageName}

def accepting : StorageFaults := fun _ => false

def isPresent (mm : MemoryManager config) (page : PageName) : Bool :=
  (mm.page page.1 page.2).any PageEntry.present

def presentPages (mm : MemoryManager config) : Finset PageName :=
  ((mm.allPages.filter fun found => found.2.2.present).map fun found =>
    (found.1, found.2.1)).toFinset

theorem isPresent_iff {page : PageName} :
    mm.isPresent page = true ↔ ∃ entry, mm.Present page.1 page.2 entry := by
  unfold isPresent
  rw [Option.any_eq_true]
  exact ⟨fun ⟨entry, held, present⟩ => ⟨entry, held, present⟩,
    fun ⟨entry, present⟩ => ⟨entry, present.held, present.present⟩⟩

theorem Present.isPresent (present : mm.Present fileTag number entry) :
    mm.isPresent (fileTag, number) = true :=
  isPresent_iff.mpr ⟨entry, present⟩

theorem mem_presentPages (keys : (mm.entries.map Prod.fst).Nodup) {page : PageName} :
    page ∈ mm.presentPages ↔ mm.isPresent page = true := by
  obtain ⟨fileTag, number⟩ := page
  rw [isPresent_iff, presentPages, List.mem_toFinset, List.mem_map]
  constructor
  · rintro ⟨⟨foundTag, position, entry⟩, member, named⟩
    obtain ⟨listed, present⟩ := List.mem_filter.mp member
    obtain ⟨rfl, rfl⟩ := Prod.mk.inj named
    exact ⟨entry, (page_eq_some_iff_mem_allPages keys).mpr listed, present⟩
  · rintro ⟨entry, present⟩
    refine ⟨(fileTag, number, entry), List.mem_filter.mpr ⟨?_, present.present⟩, rfl⟩
    exact (page_eq_some_iff_mem_allPages keys).mp present.held

section Frames

def frameOf (mm : MemoryManager config) (page : PageName) : Nat :=
  ((mm.page page.1 page.2).map PageEntry.frame).getD 0

theorem Present.frameOf (present : mm.Present fileTag number entry) :
    mm.frameOf (fileTag, number) = entry.frame := by
  simp [MemoryManager.frameOf, present.held]

def usedFrames (mm : MemoryManager config) : Finset Nat :=
  (Finset.range config.frameCount).filter fun frame => mm.used frame = true

variable (sound : Sound .whole none mm)

include sound

theorem Sound.image_frameOf : mm.presentPages.image mm.frameOf = mm.usedFrames := by
  ext frame
  simp only [Finset.mem_image, usedFrames, Finset.mem_filter, Finset.mem_range]
  constructor
  · rintro ⟨page, member, rfl⟩
    obtain ⟨entry, present⟩ := isPresent_iff.mp ((mem_presentPages sound.keys).mp member)
    have inside := sound.frame_lt _ _ entry present
    rw [present.frameOf]
    exact ⟨inside, (sound.used_iff entry.frame inside).mpr
      (Or.inr ⟨page.1, page.2, entry, present, rfl⟩)⟩
  · rintro ⟨inside, isUsed⟩
    rcases (sound.used_iff frame inside).mp isUsed with
      (reserved | leaked) | ⟨fileTag, number, entry, present, rfl⟩
    · cases reserved
    · cases leaked
    · exact ⟨(fileTag, number), (mem_presentPages sound.keys).mpr present.isPresent,
        present.frameOf⟩

theorem Sound.card_presentPages : mm.presentPages.card = mm.usedFrames.card := by
  rw [← sound.image_frameOf, Finset.card_image_of_injOn]
  intro first firstMember second secondMember same
  obtain ⟨firstEntry, firstPresent⟩ :=
    isPresent_iff.mp ((mem_presentPages sound.keys).mp firstMember)
  obtain ⟨secondEntry, secondPresent⟩ :=
    isPresent_iff.mp ((mem_presentPages sound.keys).mp secondMember)
  rw [firstPresent.frameOf, secondPresent.frameOf] at same
  obtain ⟨tagEq, numberEq⟩ := sound.frame_unique _ _ firstEntry _ _ secondEntry firstPresent
    secondPresent same
  exact Prod.ext tagEq numberEq

theorem Sound.card_presentPages_le : mm.presentPages.card ≤ config.frameCount := by
  rw [sound.card_presentPages]
  exact (Finset.card_filter_le _ _).trans (Finset.card_range _).le

/-- A frame is free exactly while fewer pages are in memory than there are frames. -/
theorem Sound.free_iff :
    (∃ frame, (List.range config.frameCount).find? (fun frame => !mm.used frame) =
        some frame) ↔ mm.presentPages.card < config.frameCount := by
  rw [sound.card_presentPages]
  constructor
  · rintro ⟨frame, free⟩
    have inside := List.mem_range.mp (List.mem_of_find?_eq_some free)
    have unused : mm.used frame = false := by
      simpa using List.find?_some free
    calc mm.usedFrames.card < (Finset.range config.frameCount).card :=
          Finset.card_lt_card (Finset.filter_ssubset.mpr
            ⟨frame, Finset.mem_range.mpr inside, by simp [unused]⟩)
      _ = config.frameCount := Finset.card_range _
  · intro room
    by_contra none
    have allUsed : mm.usedFrames = Finset.range config.frameCount := by
      refine Finset.filter_true_of_mem fun frame member => ?_
      have notFree : (List.range config.frameCount).find? (fun frame => !mm.used frame) =
          Option.none := by
        rw [← Option.not_isSome_iff_eq_none, Option.isSome_iff_exists]
        exact none
      simpa using List.find?_eq_none.mp notFree frame
        (List.mem_range.mpr (Finset.mem_range.mp member))
    rw [allUsed, Finset.card_range] at room
    exact Nat.lt_irrefl _ room

end Frames

section Still

theorem Unmoved.isPresent (unmoved : Unmoved mm after) (page : PageName) :
    after.isPresent page = mm.isPresent page := by
  rw [Bool.eq_iff_iff, isPresent_iff, isPresent_iff]
  constructor
  · rintro ⟨entry, present⟩
    obtain ⟨old, oldPresent, _⟩ := unmoved.present_before present
    exact ⟨old, oldPresent⟩
  · rintro ⟨entry, present⟩
    obtain ⟨new, newPresent, _⟩ := unmoved.present_after present
    exact ⟨new, newPresent⟩

theorem Unmoved.presentPages (unmoved : Unmoved mm after)
    (keys : (mm.entries.map Prod.fst).Nodup) : after.presentPages = mm.presentPages := by
  ext page
  rw [mem_presentPages keys, mem_presentPages (unmoved.keys keys), unmoved.isPresent]

/-- The same tables, connection and pages in memory. -/
structure Still (before after : MemoryManager config) : Prop where
  tables : after.entries.map Prod.fst = before.entries.map Prod.fst
  connected : after.connected = before.connected
  isPresent : ∀ page, after.isPresent page = before.isPresent page

namespace Still

theorem refl (mm : MemoryManager config) : Still mm mm :=
  ⟨rfl, rfl, fun _ => rfl⟩

theorem trans (first : Still mm middle) (second : Still middle after) : Still mm after where
  tables := second.tables.trans first.tables
  connected := second.connected.trans first.connected
  isPresent page := (second.isPresent page).trans (first.isPresent page)

theorem of_entries (entriesEq : after.entries = mm.entries)
    (connectedEq : after.connected = mm.connected) : Still mm after where
  tables := by rw [entriesEq]
  connected := connectedEq
  isPresent page := by rw [MemoryManager.isPresent, page_of_entries entriesEq]; rfl

theorem modifyPage (mm : MemoryManager config) (fileTag : FileTag) (number : Nat)
    {change : PageEntry → PageEntry} (keeps : ∀ entry, (change entry).present = entry.present) :
    Still mm (mm.modifyPage fileTag number change) where
  tables := keys_modifyTable mm fileTag _
  connected := rfl
  isPresent page := by
    unfold MemoryManager.isPresent
    rw [page_modifyPage]
    split
    · rename_i here
      rw [here.1, here.2]
      cases mm.page fileTag number with
      | none => rfl
      | some entry => exact keeps entry
    · rfl

theorem growTable {grown : MemoryManager config} (numberLt : number < 2 ^ 32)
    (growing : mm.growTable fileTag number = some grown) : Still mm grown where
  tables := by
    rcases growTable_cases growing with rfl | ⟨_, _, _, _, rfl⟩
    · rfl
    · exact keys_modifyTable _ _ _
  connected := by
    rcases growTable_cases growing with rfl | ⟨_, _, _, _, rfl⟩ <;> rfl
  isPresent := (Unmoved.growTable numberLt growing).1.isPresent

theorem mmUpdatePageAccess (mm : MemoryManager config) (fileTag : FileTag) (number : Nat) :
    Still mm (mm.mmUpdatePageAccess fileTag number) := by
  unfold MemoryManager.mmUpdatePageAccess
  split
  · split
    · exact refl mm
    · have stamped : Still mm (mm.modifyPage fileTag number fun entry =>
          { entry with lastAccessTime := (mm.globalTimestamp + 1) % 2 ^ 64 }) :=
        modifyPage mm fileTag number fun _ => rfl
      exact stamped.trans (of_entries rfl rfl)
  · exact modifyPage mm fileTag number fun _ => rfl

theorem ptSetDirty (mm : MemoryManager config) (fileTag : FileTag) (number : Nat)
    (dirty : Bool) : Still mm (mm.ptSetDirty fileTag number dirty) :=
  modifyPage mm fileTag number fun _ => rfl

theorem transferPage (mm : MemoryManager config) (fileTag : FileTag) (write : Bool)
    (number offset : Nat) (buffer : List UInt8) :
    Still mm (mm.transferPage fileTag write number offset buffer) := by
  have accessed := mmUpdatePageAccess mm fileTag number
  unfold MemoryManager.transferPage
  dsimp only
  split
  · refine accessed.trans (trans ?_ (ptSetDirty _ _ _ _))
    exact of_entries rfl rfl
  · exact accessed

theorem writeBlockToStorage {faults : StorageFaults} {done : Bool}
    (wrote : mm.writeBlockToStorage faults fileTag number frame = (done, after)) :
    Still mm after := by
  refine of_entries (entries_of_writeBlockToStorage wrote) ?_
  unfold MemoryManager.writeBlockToStorage at wrote
  split at wrote
  · exact (Prod.mk.inj wrote).2 ▸ rfl
  · exact (Prod.mk.inj wrote).2 ▸ rfl

theorem flushPages {faults : StorageFaults} {entries : List PageEntry} {done : Bool}
    (flush : flushPages faults fileTag entries mm = (done, after)) : Still mm after := by
  induction entries generalizing mm with
  | nil =>
      obtain ⟨_, rfl⟩ := Prod.mk.inj flush
      exact refl mm
  | cons listed rest ih =>
      rw [MemoryManager.flushPages] at flush
      split at flush
      · exact ih flush
      · split at flush
        · obtain ⟨_, rfl⟩ := Prod.mk.inj flush
          exact refl mm
        · split at flush
          · rename_i failed wrote
            obtain ⟨_, rfl⟩ := Prod.mk.inj flush
            exact writeBlockToStorage wrote
          · rename_i written wrote
            exact ((writeBlockToStorage wrote).trans (ptSetDirty _ _ _ _)).trans (ih flush)

theorem flushTables {faults : StorageFaults} {fileTags : List FileTag} {done : Bool}
    (flush : flushTables faults fileTags mm = (done, after)) : Still mm after := by
  induction fileTags generalizing mm with
  | nil =>
      obtain ⟨_, rfl⟩ := Prod.mk.inj flush
      exact refl mm
  | cons fileTag rest ih =>
      rw [MemoryManager.flushTables] at flush
      split at flush
      · rename_i failed pages
        obtain ⟨_, rfl⟩ := Prod.mk.inj flush
        exact flushPages pages
      · rename_i flushed pages
        exact (flushPages pages).trans (ih flush)

theorem mmFlushQuery (faults : StorageFaults) (mm : MemoryManager config) (fileTag : FileTag) :
    Still mm (mm.mmFlushQuery faults fileTag).2 := by
  unfold MemoryManager.mmFlushQuery
  split
  · exact refl mm
  · split
    · exact refl mm
    · exact flushPages rfl

theorem mmFlushAllDirty (faults : StorageFaults) (mm : MemoryManager config) :
    Still mm (mm.mmFlushAllDirty faults).2 := by
  unfold MemoryManager.mmFlushAllDirty
  split
  · exact refl mm
  · exact flushTables rfl

theorem presentPages (still : Still mm after) (keys : (mm.entries.map Prod.fst).Nodup) :
    after.presentPages = mm.presentPages := by
  ext page
  rw [mem_presentPages keys, mem_presentPages (by rwa [still.tables]), still.isPresent]

end Still

end Still

section Allocation

theorem writeBlockToStorage_accepting (mm : MemoryManager config) :
    mm.writeBlockToStorage accepting fileTag number frame =
      (true, mm.storeFrame fileTag number frame) := by
  simp [writeBlockToStorage, accepting]

/-- A search that ends without a page has found none on the way. -/
theorem foldl_olderPage_none (pages : List (FileTag × Nat × PageEntry))
    (best : Nat × Option (FileTag × Nat × PageEntry))
    (missing : (pages.foldl olderPage best).2 = none) : pages.foldl olderPage best = best := by
  induction pages generalizing best with
  | nil => rfl
  | cons page rest ih =>
      rw [List.foldl_cons] at missing ⊢
      have same := ih (olderPage best page) missing
      rw [same] at missing ⊢
      unfold olderPage at missing ⊢
      split
      · rename_i older
        rw [if_pos older] at missing
        cases missing
      · rfl

/-- The search finds a page when one in memory has a timestamp below the first bound. -/
theorem foldl_olderPage_finds (pages : List (FileTag × Nat × PageEntry)) (bound : Nat)
    {candidate : FileTag × Nat × PageEntry} (member : candidate ∈ pages)
    (present : candidate.2.2.present = true) (older : candidate.2.2.lastAccessTime < bound) :
    ∃ found, (pages.foldl olderPage (bound, none)).2 = some found := by
  refine Option.ne_none_iff_exists'.mp fun missing => ?_
  have least := (foldl_olderPage_least pages (bound, none)).2.1 candidate member present
  rw [foldl_olderPage_none pages _ missing] at least
  omega

theorem mmFindLruVictim_accepting (keys : (mm.entries.map Prod.fst).Nodup)
    (present : mm.Present fileTag number entry) (older : entry.lastAccessTime < 2 ^ 64 - 1) :
    ∃ frame after, mm.mmFindLruVictim accepting = (some frame, after) := by
  obtain ⟨⟨victimTag, victimNumber, victim⟩, oldest⟩ :=
    foldl_olderPage_finds mm.allPages (2 ^ 64 - 1) ((page_eq_some_iff_mem_allPages keys).mp
      present.held) present.present older
  unfold mmFindLruVictim
  rw [oldest]
  dsimp only
  split
  · rw [writeBlockToStorage_accepting]
    exact ⟨_, _, rfl⟩
  · exact ⟨_, _, rfl⟩

/-- The same tables with the same entries, apart from what the entries say. -/
structure SameEntries (before after : MemoryManager config) : Prop where
  tables : after.entries.map Prod.fst = before.entries.map Prod.fst
  connected : after.connected = before.connected
  held : ∀ fileTag number, before.page fileTag number ≠ none → after.page fileTag number ≠ none

namespace SameEntries

theorem of_entries (entriesEq : after.entries = mm.entries)
    (connectedEq : after.connected = mm.connected) : SameEntries mm after :=
  ⟨by rw [entriesEq], connectedEq, fun _ _ held => by rwa [page_of_entries entriesEq]⟩

theorem trans (first : SameEntries mm middle) (second : SameEntries middle after) :
    SameEntries mm after :=
  ⟨second.tables.trans first.tables, second.connected.trans first.connected,
    fun fileTag number held => second.held fileTag number (first.held fileTag number held)⟩

theorem evict (mm : MemoryManager config) (fileTag : FileTag) (number frame : Nat) :
    SameEntries mm (mm.evict fileTag number frame) := by
  have unmapped : SameEntries mm (mm.ptUnmap fileTag number) := by
    refine ⟨keys_modifyTable _ _ _, rfl, fun other position held => ?_⟩
    rw [ptUnmap, page_modifyPage]
    split
    · rename_i here
      rw [here.1, here.2] at held
      simpa using held
    · exact held
  exact unmapped.trans (of_entries rfl rfl)

theorem mmFindLruVictim {result : Option Nat}
    (search : mm.mmFindLruVictim accepting = (result, after)) : SameEntries mm after := by
  unfold MemoryManager.mmFindLruVictim at search
  split at search
  · obtain ⟨_, rfl⟩ := Prod.mk.inj search
    exact of_entries rfl rfl
  · rw [writeBlockToStorage_accepting] at search
    split at search
    · obtain ⟨_, rfl⟩ := Prod.mk.inj search
      refine trans ?_ (evict _ _ _ _)
      exact of_entries rfl rfl
    · obtain ⟨_, rfl⟩ := Prod.mk.inj search
      exact evict _ _ _ _

end SameEntries

/-- How a frame is found: one is free, or the page used least recently is evicted. -/
inductive Room (history : List PageName) (before after : MemoryManager config) : Prop
  | free (room : before.presentPages.card < config.frameCount)
      (same : ∀ page, after.isPresent page = before.isPresent page)
  | evicted (isFull : before.presentPages.card = config.frameCount) (victim : PageName)
      (held : victim ∈ before.presentPages)
      (oldest : ∀ other ∈ before.presentPages, other ≠ victim →
        lastAccess history victim < lastAccess history other)
      (others : ∀ page, after.isPresent page = true ↔
        page ≠ victim ∧ before.isPresent page = true)

theorem AccessOrder.older (ordered : AccessOrder history mm) (few : history.length < 2 ^ 62)
    (present : mm.Present fileTag number entry) : entry.lastAccessTime < 2 ^ 64 - 1 := by
  have given := ordered.given fileTag number entry present
  have bound := ordered.timestamp_le
  omega

theorem AccessOrder.evicted {frame : Nat} (ordered : AccessOrder history mm)
    (isFull : mm.presentPages.card = config.frameCount)
    (search : mm.mmFindLruVictim accepting = (some frame, after)) : Room history mm after := by
  obtain ⟨fileTag, number, entry, present, _, _, _, others, oldest⟩ :=
    ordered.evictsLeastRecent accepting frame after search
  have othersIff : ∀ page, after.isPresent page = true ↔
      page ≠ (fileTag, number) ∧ mm.isPresent page = true := by
    intro page
    rw [isPresent_iff, isPresent_iff]
    constructor
    · rintro ⟨found, foundPresent⟩
      obtain ⟨elsewhere, before⟩ := (others _ _ found).mp foundPresent
      exact ⟨fun same => elsewhere (by simp [same]), found, before⟩
    · rintro ⟨different, found, before⟩
      exact ⟨found, (others _ _ found).mpr ⟨fun same => different (Prod.ext same.1 same.2),
        before⟩⟩
  refine .evicted isFull (fileTag, number)
    ((mem_presentPages ordered.keys).mpr present.isPresent) ?_ othersIff
  intro other member different
  obtain ⟨found, foundPresent⟩ := isPresent_iff.mp ((othersIff other).mpr
    ⟨different, (mem_presentPages ordered.keys).mp member⟩)
  exact oldest _ _ found foundPresent

theorem mmAllocateFrame_lru (lru : config.policy = .lru) (positive : 0 < config.frameCount)
    (sound : Sound .whole none mm) (ordered : AccessOrder history mm)
    (few : history.length < 2 ^ 62) :
    ∃ frame after, mm.mmAllocateFrame accepting = (some frame, after) ∧
      SameEntries mm after ∧ Room history mm after := by
  unfold mmAllocateFrame
  cases search : (List.range config.frameCount).find? fun frame => !mm.used frame with
  | some frame =>
      exact ⟨frame, mm.setUsed frame true, rfl, SameEntries.of_entries rfl rfl,
        .free (sound.free_iff.mp ⟨frame, search⟩) fun _ => rfl⟩
  | none =>
      have noRoom : ¬ mm.presentPages.card < config.frameCount := by
        rw [← sound.free_iff, search]
        simp
      have isFull : mm.presentPages.card = config.frameCount :=
        Nat.le_antisymm sound.card_presentPages_le (Nat.not_lt.mp noRoom)
      obtain ⟨page, member⟩ := Finset.card_pos.mp (isFull ▸ positive)
      obtain ⟨entry, present⟩ := isPresent_iff.mp ((mem_presentPages sound.keys).mp member)
      obtain ⟨frame, evicted, found⟩ :=
        mmFindLruVictim_accepting ordered.keys present (ordered.older few present)
      simp only [lru, found]
      refine ⟨frame, evicted.setUsed frame true, rfl,
        (SameEntries.mmFindLruVictim found).trans (SameEntries.of_entries rfl rfl), ?_⟩
      cases ordered.evicted isFull found with
      | free room same => exact .free room same
      | evicted isFull victim held oldest others => exact .evicted isFull victim held oldest others

end Allocation

section Faults

inductive Access (history : List PageName) (page : PageName) (before after : Finset PageName)
    (frameCount : Nat) : Prop
  | hit (held : page ∈ before) (same : after = before)
  | added (absent : page ∉ before) (room : before.card < frameCount)
      (added : after = insert page before)
  | replaced (absent : page ∉ before) (isFull : before.card = frameCount) (victim : PageName)
      (held : victim ∈ before)
      (oldest : ∀ other ∈ before, other ≠ victim →
        lastAccess history victim < lastAccess history other)
      (replaced : after = insert page (before.erase victim))

theorem Room.access {mapped : MemoryManager config} {page : PageName}
    (room : Room history mm after) (keys : (mm.entries.map Prod.fst).Nodup)
    (mappedKeys : (mapped.entries.map Prod.fst).Nodup) (absent : page ∉ mm.presentPages)
    (maps : ∀ other, mapped.isPresent other = true ↔ other = page ∨ after.isPresent other = true) :
    Access history page mm.presentPages mapped.presentPages config.frameCount := by
  cases room with
  | free room same =>
      refine .added absent room ?_
      ext other
      rw [mem_presentPages mappedKeys, maps, same, Finset.mem_insert, mem_presentPages keys]
  | evicted isFull victim held oldest others =>
      refine .replaced absent isFull victim held oldest ?_
      ext other
      rw [mem_presentPages mappedKeys, maps, others, Finset.mem_insert, Finset.mem_erase,
        mem_presentPages keys]

theorem isPresent_ptMap (held : mm.page fileTag number = some entry) (other : PageName) :
    (mm.ptMap fileTag number frame).isPresent other = true ↔
      other = (fileTag, number) ∨ mm.isPresent other = true := by
  rw [isPresent_iff, isPresent_iff]
  constructor
  · rintro ⟨found, present⟩
    rcases (present_ptMap held).mp present with ⟨tagEq, numberEq, _⟩ | ⟨_, before⟩
    · exact Or.inl (Prod.ext tagEq numberEq)
    · exact Or.inr ⟨found, before⟩
  · rintro (rfl | ⟨found, present⟩)
    · exact ⟨_, (present_ptMap held).mpr (Or.inl ⟨rfl, rfl, rfl⟩)⟩
    · by_cases here : other.1 = fileTag ∧ other.2 = number
      · exact ⟨_, (present_ptMap held).mpr (Or.inl ⟨here.1, here.2, rfl⟩)⟩
      · exact ⟨found, (present_ptMap held).mpr (Or.inr ⟨here, present⟩)⟩

theorem growTable_exists (table : (mm.findPageTable fileTag).isSome = true)
    (numberLt : number + 1 < 2 ^ 32) : ∃ grown, mm.growTable fileTag number = some grown := by
  obtain ⟨entries, found⟩ := Option.isSome_iff_exists.mp table
  unfold growTable
  rw [found]
  dsimp only
  split
  · exact ⟨_, rfl⟩
  · rw [Nat.mod_eq_of_lt numberLt, ptResize, if_neg (Nat.succ_ne_zero number)]
    exact ⟨_, rfl⟩

/-- A frame with the block that Storage has answered. -/
def loadBlock (mm : MemoryManager config) (fileTag : FileTag) (number frame : Nat) :
    MemoryManager config :=
  ({ mm with requests := mm.requests + 1 } : MemoryManager config).loadFrame frame
    (mm.storage fileTag number)

theorem mmHandlePageFault_lru (lru : config.policy = .lru) (positive : 0 < config.frameCount)
    (sound : Sound .whole none mm) (ordered : AccessOrder history mm)
    (few : history.length < 2 ^ 62) (connected : mm.connected = true)
    (table : (mm.findPageTable fileTag).isSome = true) (numberLt : number + 1 < 2 ^ 32)
    (absent : (fileTag, number) ∉ mm.presentPages) :
    ∃ after, mm.mmHandlePageFault accepting fileTag number = (true, after) ∧
      after.entries.map Prod.fst = mm.entries.map Prod.fst ∧ after.connected = true ∧
      Access history (fileTag, number) mm.presentPages after.presentPages config.frameCount := by
  obtain ⟨grown, growing⟩ := growTable_exists table numberLt
  have small : number < 2 ^ 32 := by omega
  obtain ⟨unmoved, pageHeld⟩ := Unmoved.growTable small growing
  have grows := Still.growTable small growing
  have grownSound := unmoved.sound sound
  obtain ⟨frame, allocated, allocation, sameEntries, room⟩ := mmAllocateFrame_lru lru positive
    grownSound (ordered.keepsTimes (KeepsTimes.growTable growing)) few
  have reserved := (grownSound.mmAllocateFrame allocation).1.sound
  have inside := (reserved.reserved_lt frame rfl).1
  obtain ⟨entry, entryHeld⟩ :=
    Option.ne_none_iff_exists'.mp (sameEntries.held fileTag number pageHeld)
  have isConnected : grown.connected = true := grows.connected.trans connected
  have pages := grows.presentPages sound.keys
  have loadedHeld : (allocated.loadBlock fileTag number frame).page fileTag number =
      some entry := entryHeld
  have updated := Still.mmUpdatePageAccess
    ((allocated.loadBlock fileTag number frame).ptMap fileTag number frame) fileTag number
  have tables : (((allocated.loadBlock fileTag number frame).ptMap fileTag number
      frame).mmUpdatePageAccess fileTag number).entries.map Prod.fst =
        mm.entries.map Prod.fst := by
    rw [updated.tables, ptMap, modifyPage, keys_modifyTable]
    exact sameEntries.tables.trans grows.tables
  refine ⟨((allocated.loadBlock fileTag number frame).ptMap fileTag number
    frame).mmUpdatePageAccess fileTag number, ?_, tables, ?_, ?_⟩
  · rw [loadBlock] at loadedHeld ⊢
    simp [mmHandlePageFault, growing, isConnected, allocation, Nat.not_le.mpr inside,
      readBlockFromStorage, accepting, loadedHeld]
  · exact updated.connected.trans (sameEntries.connected.trans isConnected)
  · rw [← pages] at absent ⊢
    refine room.access grownSound.keys (by rw [tables]; exact sound.keys) absent fun other => ?_
    rw [updated.isPresent, isPresent_ptMap loadedHeld]
    exact Iff.rfl

theorem ensurePresent_lru (lru : config.policy = .lru) (positive : 0 < config.frameCount)
    (sound : Sound .whole none mm) (ordered : AccessOrder history mm)
    (few : history.length < 2 ^ 62) (connected : mm.connected = true)
    (table : (mm.findPageTable fileTag).isSome = true) (numberLt : number + 1 < 2 ^ 32) :
    ∃ after, mm.ensurePresent accepting fileTag number = (true, after) ∧
      after.entries.map Prod.fst = mm.entries.map Prod.fst ∧ after.connected = true ∧
      Access history (fileTag, number) mm.presentPages after.presentPages config.frameCount := by
  obtain ⟨grown, growing⟩ := growTable_exists table numberLt
  have small : number < 2 ^ 32 := by omega
  have grows := Still.growTable small growing
  have pages := grows.presentPages sound.keys
  have grownSound := (Unmoved.growTable small growing).1.sound sound
  unfold ensurePresent
  rw [growing]
  dsimp only
  by_cases held : grown.isPresent (fileTag, number) = true
  · refine ⟨grown, if_pos held, grows.tables, grows.connected.trans connected, .hit ?_ pages⟩
    rw [← pages]
    exact (mem_presentPages grownSound.keys).mpr held
  · have absent : (fileTag, number) ∉ grown.presentPages :=
      fun member => held ((mem_presentPages grownSound.keys).mp member)
    have grownTable : (grown.findPageTable fileTag).isSome = true := by
      rcases growTable_cases growing with rfl | ⟨_, _, _, _, rfl⟩
      · exact table
      · rw [findPageTable_modifyTable, if_pos rfl, Option.isSome_map]
        exact table
    obtain ⟨after, fault, tables, afterConnected, access⟩ := mmHandlePageFault_lru lru positive
      grownSound (ordered.keepsTimes (KeepsTimes.growTable growing)) few
      (grows.connected.trans connected) grownTable numberLt absent
    refine ⟨after, (if_neg held).trans fault, tables.trans grows.tables, afterConnected, ?_⟩
    rwa [← pages]

end Faults

end MemoryManager

end Worker

end MasterOfFiles
