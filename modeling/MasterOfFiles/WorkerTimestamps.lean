import MasterOfFiles.WorkerMemoryViews
import Mathlib.Data.List.Induction

/-!
# Timestamps and the order of accesses

The timestamps of the present pages are ordered as their last accesses are: an access gives its page
a timestamp above all others, and nothing else makes a page present or changes a timestamp.  A page
fault advances the counter twice for one access, which leaves gaps but keeps the order.
-/

namespace MasterOfFiles

namespace Worker

namespace MemoryManager

variable {config : MemoryConfig} {mm middle after : MemoryManager config}
  {faults : StorageFaults} {fileTag : FileTag} {number : Nat} {entry : PageEntry}

section History

abbrev PageName : Type := FileTag × Nat

/-- When a page was accessed last, counting the accesses from one; zero when it never was. -/
def lastAccess (history : List PageName) (page : PageName) : Nat :=
  history.length - history.reverse.idxOf page

theorem lastAccess_le (history : List PageName) (page : PageName) :
    lastAccess history page ≤ history.length :=
  Nat.sub_le _ _

@[simp]
theorem lastAccess_snoc_self (history : List PageName) (page : PageName) :
    lastAccess (history ++ [page]) page = history.length + 1 := by
  simp [lastAccess]

theorem lastAccess_snoc_of_ne (history : List PageName) {page other : PageName}
    (different : other ≠ page) :
    lastAccess (history ++ [page]) other = lastAccess history other := by
  simp only [lastAccess, List.reverse_append, List.reverse_singleton, List.singleton_append,
    List.length_append, List.length_singleton, List.idxOf_cons_ne _ (Ne.symm different)]
  omega

theorem eq_of_lastAccess_eq {history : List PageName} {first second : PageName}
    (firstMem : first ∈ history) (secondMem : second ∈ history)
    (same : lastAccess history first = lastAccess history second) : first = second := by
  induction history using List.reverseRecOn with
  | nil => simp at firstMem
  | append_singleton earlier page ih =>
      by_cases firstNewest : first = page <;> by_cases secondNewest : second = page
      · rw [firstNewest, secondNewest]
      · rw [firstNewest, lastAccess_snoc_self, lastAccess_snoc_of_ne _ secondNewest] at same
        have bound := lastAccess_le earlier second
        omega
      · rw [secondNewest, lastAccess_snoc_self, lastAccess_snoc_of_ne _ firstNewest] at same
        have bound := lastAccess_le earlier first
        omega
      · rw [lastAccess_snoc_of_ne _ firstNewest, lastAccess_snoc_of_ne _ secondNewest] at same
        exact ih (by simpa [firstNewest] using firstMem) (by simpa [secondNewest] using secondMem)
          same

end History

section Timestamps

/-- No page has become present and no present page has a new timestamp. -/
structure KeepsTimes (before after : MemoryManager config) : Prop where
  keys : (before.entries.map Prod.fst).Nodup → (after.entries.map Prod.fst).Nodup
  timestamp : after.globalTimestamp = before.globalTimestamp
  present : ∀ fileTag number entry, after.Present fileTag number entry →
    ∃ old, before.Present fileTag number old ∧ old.lastAccessTime = entry.lastAccessTime

namespace KeepsTimes

theorem refl (mm : MemoryManager config) : KeepsTimes mm mm :=
  ⟨id, rfl, fun _ _ entry present => ⟨entry, present, rfl⟩⟩

theorem trans (first : KeepsTimes mm middle) (second : KeepsTimes middle after) :
    KeepsTimes mm after where
  keys nodup := second.keys (first.keys nodup)
  timestamp := second.timestamp.trans first.timestamp
  present fileTag number entry isPresent := by
    obtain ⟨between, betweenPresent, betweenTime⟩ := second.present _ _ entry isPresent
    obtain ⟨old, oldPresent, oldTime⟩ := first.present _ _ between betweenPresent
    exact ⟨old, oldPresent, oldTime.trans betweenTime⟩

theorem of_entries (entriesEq : after.entries = mm.entries)
    (timestampEq : after.globalTimestamp = mm.globalTimestamp) : KeepsTimes mm after where
  keys nodup := by
    rw [entriesEq]
    exact nodup
  timestamp := timestampEq
  present _ _ entry isPresent := ⟨entry, isPresent.of_entries entriesEq.symm, rfl⟩

theorem modifyPage (mm : MemoryManager config) (fileTag : FileTag) (number : Nat)
    {change : PageEntry → PageEntry}
    (keeps : ∀ entry, (change entry).present = true →
      entry.present = true ∧ (change entry).lastAccessTime = entry.lastAccessTime) :
    KeepsTimes mm (mm.modifyPage fileTag number change) where
  keys nodup := by
    rw [MemoryManager.modifyPage, keys_modifyTable]
    exact nodup
  timestamp := rfl
  present other position entry isPresent := by
    have held := isPresent.held
    rw [page_modifyPage] at held
    split at held
    · rename_i here
      obtain ⟨old, oldHeld, rfl⟩ := Option.map_eq_some_iff.mp held
      obtain ⟨oldPresent, time⟩ := keeps old isPresent.present
      rw [here.1, here.2]
      exact ⟨old, ⟨oldHeld, oldPresent⟩, time.symm⟩
    · exact ⟨entry, ⟨held, isPresent.present⟩, rfl⟩

theorem ptSetDirty (mm : MemoryManager config) (fileTag : FileTag) (number : Nat)
    (dirty : Bool) : KeepsTimes mm (mm.ptSetDirty fileTag number dirty) :=
  modifyPage mm fileTag number fun _ present => ⟨present, rfl⟩

theorem evict (mm : MemoryManager config) (fileTag : FileTag) (number frame : Nat) :
    KeepsTimes mm (mm.evict fileTag number frame) := by
  have unmapped : KeepsTimes mm (mm.ptUnmap fileTag number) :=
    modifyPage mm fileTag number fun _ present => by simp at present
  exact unmapped.trans (of_entries rfl rfl)

theorem mmFreeFrame (mm : MemoryManager config) (frame : Nat) :
    KeepsTimes mm (mm.mmFreeFrame frame) := by
  unfold MemoryManager.mmFreeFrame
  split
  · exact refl mm
  · exact of_entries rfl rfl

theorem writeBlockToStorage {frame : Nat} {done : Bool}
    (wrote : mm.writeBlockToStorage faults fileTag number frame = (done, after)) :
    KeepsTimes mm after := by
  apply of_entries (entries_of_writeBlockToStorage wrote)
  unfold MemoryManager.writeBlockToStorage at wrote
  split at wrote
  · exact (Prod.mk.inj wrote).2 ▸ rfl
  · exact (Prod.mk.inj wrote).2 ▸ rfl

theorem mmCreatePageTable (mm : MemoryManager config) (fileTag : FileTag) :
    KeepsTimes mm (mm.mmCreatePageTable fileTag) where
  keys := (Unmoved.mmCreatePageTable mm fileTag).keys
  timestamp := by
    unfold MemoryManager.mmCreatePageTable
    split <;> rfl
  present _ _ entry isPresent := ⟨entry, isPresent.of_mmCreatePageTable, rfl⟩

theorem growTable {grown : MemoryManager config}
    (growing : mm.growTable fileTag number = some grown) : KeepsTimes mm grown where
  keys nodup := by
    rcases growTable_cases growing with rfl | ⟨_, _, _, _, rfl⟩
    · exact nodup
    · rw [keys_modifyTable]
      exact nodup
  timestamp := by
    rcases growTable_cases growing with rfl | ⟨_, _, _, _, rfl⟩ <;> rfl
  present _ _ entry isPresent := ⟨entry, isPresent.of_growTable growing, rfl⟩

theorem mmFindLruVictim {result : Option Nat}
    (search : mm.mmFindLruVictim faults = (result, after)) : KeepsTimes mm after := by
  unfold MemoryManager.mmFindLruVictim at search
  split at search
  · obtain ⟨_, rfl⟩ := Prod.mk.inj search
    exact refl mm
  · split at search
    · split at search
      · rename_i failed wrote
        obtain ⟨_, rfl⟩ := Prod.mk.inj search
        exact writeBlockToStorage wrote
      · rename_i written wrote
        obtain ⟨_, rfl⟩ := Prod.mk.inj search
        exact (writeBlockToStorage wrote).trans (evict _ _ _ _)
    · obtain ⟨_, rfl⟩ := Prod.mk.inj search
      exact evict _ _ _ _

theorem mmAllocateFrame (lru : config.policy = .lru) {result : Option Nat}
    (allocation : mm.mmAllocateFrame faults = (result, after)) : KeepsTimes mm after := by
  unfold MemoryManager.mmAllocateFrame at allocation
  split at allocation
  · obtain ⟨_, rfl⟩ := Prod.mk.inj allocation
    exact of_entries rfl rfl
  · simp only [lru] at allocation
    split at allocation
    · rename_i frame evicted search
      obtain ⟨_, rfl⟩ := Prod.mk.inj allocation
      exact (mmFindLruVictim search).trans (of_entries rfl rfl)
    · rename_i failed search
      obtain ⟨_, rfl⟩ := Prod.mk.inj allocation
      exact mmFindLruVictim search

theorem flushPages {entries : List PageEntry} {done : Bool}
    (flush : flushPages faults fileTag entries mm = (done, after)) : KeepsTimes mm after := by
  induction entries generalizing mm with
  | nil =>
      obtain ⟨_, rfl⟩ := Prod.mk.inj flush
      exact refl mm
  | cons listed rest ih =>
      rw [MemoryManager.flushPages] at flush
      split at flush
      · exact ih flush
      · split at flush
        · obtain ⟨_, rfl⟩ := Prod.mk.inj flush
          exact refl mm
        · split at flush
          · rename_i failed wrote
            obtain ⟨_, rfl⟩ := Prod.mk.inj flush
            exact writeBlockToStorage wrote
          · rename_i written wrote
            exact ((writeBlockToStorage wrote).trans (ptSetDirty _ _ _ _)).trans (ih flush)

theorem flushTables {fileTags : List FileTag} {done : Bool}
    (flush : flushTables faults fileTags mm = (done, after)) : KeepsTimes mm after := by
  induction fileTags generalizing mm with
  | nil =>
      obtain ⟨_, rfl⟩ := Prod.mk.inj flush
      exact refl mm
  | cons fileTag rest ih =>
      rw [MemoryManager.flushTables] at flush
      split at flush
      · rename_i failed pages
        obtain ⟨_, rfl⟩ := Prod.mk.inj flush
        exact flushPages pages
      · rename_i flushed pages
        exact (flushPages pages).trans (ih flush)

theorem mmFlushQuery (faults : StorageFaults) (mm : MemoryManager config) (fileTag : FileTag) :
    KeepsTimes mm (mm.mmFlushQuery faults fileTag).2 := by
  unfold MemoryManager.mmFlushQuery
  split
  · exact refl mm
  · split
    · exact refl mm
    · exact flushPages rfl

theorem mmFlushAllDirty (faults : StorageFaults) (mm : MemoryManager config) :
    KeepsTimes mm (mm.mmFlushAllDirty faults).2 := by
  unfold MemoryManager.mmFlushAllDirty
  split
  · exact refl mm
  · exact flushTables rfl

end KeepsTimes

/-- At most `bumps` new timestamps were given out, all of them to one page. -/
structure Touches (bumps : Nat) (page : PageName) (before after : MemoryManager config) :
    Prop where
  keys : (before.entries.map Prod.fst).Nodup → (after.entries.map Prod.fst).Nodup
  timestamp_ge : before.globalTimestamp ≤ after.globalTimestamp
  timestamp_le : after.globalTimestamp ≤ before.globalTimestamp + bumps
  newest : ∀ entry, after.Present page.1 page.2 entry →
    before.globalTimestamp < entry.lastAccessTime ∧
      entry.lastAccessTime ≤ after.globalTimestamp
  others : ∀ fileTag number entry, (fileTag, number) ≠ page →
    after.Present fileTag number entry →
      ∃ old, before.Present fileTag number old ∧ old.lastAccessTime = entry.lastAccessTime

namespace Touches

variable {bumps later : Nat} {page : PageName}

theorem after_keepsTimes (keeps : KeepsTimes mm middle)
    (touches : Touches bumps page middle after) : Touches bumps page mm after where
  keys nodup := touches.keys (keeps.keys nodup)
  timestamp_ge := keeps.timestamp ▸ touches.timestamp_ge
  timestamp_le := keeps.timestamp ▸ touches.timestamp_le
  newest := keeps.timestamp ▸ touches.newest
  others fileTag number entry different isPresent := by
    obtain ⟨between, betweenPresent, betweenTime⟩ := touches.others _ _ entry different isPresent
    obtain ⟨old, oldPresent, oldTime⟩ := keeps.present _ _ between betweenPresent
    exact ⟨old, oldPresent, oldTime.trans betweenTime⟩

theorem keepsTimes (touches : Touches bumps page mm middle) (keeps : KeepsTimes middle after) :
    Touches bumps page mm after where
  keys nodup := keeps.keys (touches.keys nodup)
  timestamp_ge := keeps.timestamp ▸ touches.timestamp_ge
  timestamp_le := keeps.timestamp ▸ touches.timestamp_le
  newest entry isPresent := by
    obtain ⟨old, oldPresent, oldTime⟩ := keeps.present _ _ entry isPresent
    rw [← oldTime, keeps.timestamp]
    exact touches.newest old oldPresent
  others fileTag number entry different isPresent := by
    obtain ⟨between, betweenPresent, betweenTime⟩ := keeps.present _ _ entry isPresent
    obtain ⟨old, oldPresent, oldTime⟩ := touches.others _ _ between different betweenPresent
    exact ⟨old, oldPresent, oldTime.trans betweenTime⟩

theorem trans (first : Touches bumps page mm middle) (second : Touches later page middle after) :
    Touches (bumps + later) page mm after where
  keys nodup := second.keys (first.keys nodup)
  timestamp_ge := first.timestamp_ge.trans second.timestamp_ge
  timestamp_le := by
    have early := first.timestamp_le
    have late := second.timestamp_le
    omega
  newest entry isPresent := by
    obtain ⟨newer, bound⟩ := second.newest entry isPresent
    exact ⟨first.timestamp_ge.trans_lt newer, bound⟩
  others fileTag number entry different isPresent := by
    obtain ⟨between, betweenPresent, betweenTime⟩ := second.others _ _ entry different isPresent
    obtain ⟨old, oldPresent, oldTime⟩ := first.others _ _ between different betweenPresent
    exact ⟨old, oldPresent, oldTime.trans betweenTime⟩

/-- `mm_update_page_access` gives the next timestamp to a page that may just have been mapped. -/
theorem mmUpdatePageAccess (lru : config.policy = .lru)
    (small : mm.globalTimestamp + 1 < 2 ^ 64)
    (keys : (mm.entries.map Prod.fst).Nodup → (middle.entries.map Prod.fst).Nodup)
    (timestampEq : middle.globalTimestamp = mm.globalTimestamp)
    (others : ∀ other position entry, (other, position) ≠ (fileTag, number) →
      middle.Present other position entry → mm.Present other position entry) :
    Touches 1 (fileTag, number) mm (middle.mmUpdatePageAccess fileTag number) := by
  unfold MemoryManager.mmUpdatePageAccess
  simp only [lru, timestampEq, Nat.mod_eq_of_lt small]
  split
  · rename_i missing
    refine ⟨keys, timestampEq.ge, timestampEq.le.trans (Nat.le_succ _), ?_, ?_⟩
    · intro entry isPresent
      rw [isPresent.held] at missing
      simp at missing
    · intro other position entry different isPresent
      exact ⟨entry, others other position entry different isPresent, rfl⟩
  · refine ⟨?_, Nat.le_succ _, Nat.le_refl _, ?_, ?_⟩
    · intro nodup
      change ((middle.modifyPage fileTag number _).entries.map Prod.fst).Nodup
      rw [modifyPage, keys_modifyTable]
      exact keys nodup
    · intro entry isPresent
      have held : (middle.modifyPage fileTag number fun entry =>
          { entry with lastAccessTime := mm.globalTimestamp + 1 }).page fileTag number =
            some entry := isPresent.held
      rw [page_modifyPage, if_pos ⟨rfl, rfl⟩] at held
      obtain ⟨old, _, rfl⟩ := Option.map_eq_some_iff.mp held
      exact ⟨Nat.lt_succ_self _, Nat.le_refl _⟩
    · intro other position entry different isPresent
      have elsewhere : ¬ (other = fileTag ∧ position = number) := by simpa using different
      have kept : (middle.modifyPage fileTag number fun entry =>
          { entry with lastAccessTime := mm.globalTimestamp + 1 }).Present other position entry :=
        isPresent.of_entries rfl
      rw [present_modifyPage_of_ne elsewhere] at kept
      exact ⟨entry, others other position entry different kept, rfl⟩

end Touches

theorem mmHandlePageFault_times (lru : config.policy = .lru)
    (small : mm.globalTimestamp + 1 < 2 ^ 64) {done : Bool}
    (fault : mm.mmHandlePageFault faults fileTag number = (done, after)) :
    KeepsTimes mm after ∨ done = true ∧ Touches 1 (fileTag, number) mm after := by
  unfold mmHandlePageFault at fault
  split at fault
  · obtain ⟨rfl, rfl⟩ := Prod.mk.inj fault
    exact Or.inl (KeepsTimes.refl mm)
  · rename_i grown growing
    have grew := KeepsTimes.growTable growing
    split at fault
    · obtain ⟨rfl, rfl⟩ := Prod.mk.inj fault
      exact Or.inl grew
    · split at fault
      · rename_i failed allocation
        obtain ⟨rfl, rfl⟩ := Prod.mk.inj fault
        exact Or.inl (grew.trans (KeepsTimes.mmAllocateFrame lru allocation))
      · rename_i frame allocated allocation
        have allocates := grew.trans (KeepsTimes.mmAllocateFrame lru allocation)
        split at fault
        · obtain ⟨rfl, rfl⟩ := Prod.mk.inj fault
          exact Or.inl (allocates.trans (KeepsTimes.mmFreeFrame _ _))
        · unfold readBlockFromStorage at fault
          split at fault
          · rename_i failed reading
            obtain ⟨_, rfl⟩ := Prod.mk.inj reading
            obtain ⟨rfl, rfl⟩ := Prod.mk.inj fault
            have asked : KeepsTimes allocated
                { allocated with requests := allocated.requests + 1 } :=
              KeepsTimes.of_entries rfl rfl
            exact Or.inl ((allocates.trans asked).trans (KeepsTimes.mmFreeFrame _ _))
          · rename_i bytes asked reading
            obtain ⟨_, rfl⟩ := Prod.mk.inj reading
            have loads : KeepsTimes allocated
                (({ allocated with requests := allocated.requests + 1 } :
                  MemoryManager config).loadFrame frame bytes) :=
              KeepsTimes.of_entries rfl rfl
            have loaded := allocates.trans loads
            dsimp only at fault
            split at fault
            · obtain ⟨rfl, rfl⟩ := Prod.mk.inj fault
              exact Or.inl (loaded.trans (KeepsTimes.mmFreeFrame _ _))
            · obtain ⟨rfl, rfl⟩ := Prod.mk.inj fault
              refine Or.inr ⟨rfl, Touches.after_keepsTimes loaded ?_⟩
              refine Touches.mmUpdatePageAccess lru (loaded.timestamp ▸ small) ?_ rfl ?_
              · intro nodup
                rw [ptMap, modifyPage, keys_modifyTable]
                exact nodup
              · intro other position entry different isPresent
                have elsewhere : ¬ (other = fileTag ∧ position = number) := by
                  simpa using different
                exact (present_modifyPage_of_ne elsewhere).mp isPresent

theorem ensurePresent_times (lru : config.policy = .lru)
    (small : mm.globalTimestamp + 1 < 2 ^ 64) {done : Bool}
    (access : mm.ensurePresent faults fileTag number = (done, after)) :
    KeepsTimes mm after ∨ done = true ∧ Touches 1 (fileTag, number) mm after := by
  unfold ensurePresent at access
  split at access
  · obtain ⟨rfl, rfl⟩ := Prod.mk.inj access
    exact Or.inl (KeepsTimes.refl mm)
  · rename_i grown growing
    have grew := KeepsTimes.growTable growing
    split at access
    · obtain ⟨rfl, rfl⟩ := Prod.mk.inj access
      exact Or.inl grew
    · rcases mmHandlePageFault_times lru (grew.timestamp ▸ small) access with
        keeps | ⟨ended, touches⟩
      · exact Or.inl (grew.trans keeps)
      · exact Or.inr ⟨ended, touches.after_keepsTimes grew⟩

end Timestamps

section Order

/-- The timestamps of the present pages are ordered as their last accesses are. -/
structure AccessOrder (history : List PageName) (mm : MemoryManager config) : Prop where
  keys : (mm.entries.map Prod.fst).Nodup
  timestamp_le : mm.globalTimestamp ≤ 2 * history.length
  accessed : ∀ fileTag number entry, mm.Present fileTag number entry →
    (fileTag, number) ∈ history
  given : ∀ fileTag number entry, mm.Present fileTag number entry →
    entry.lastAccessTime ≤ mm.globalTimestamp
  order : ∀ firstTag firstNumber first secondTag secondNumber second,
    mm.Present firstTag firstNumber first → mm.Present secondTag secondNumber second →
      (first.lastAccessTime < second.lastAccessTime ↔
        lastAccess history (firstTag, firstNumber) < lastAccess history (secondTag, secondNumber))

namespace AccessOrder

variable {history : List PageName}

theorem keepsTimes (ordered : AccessOrder history mm) (keeps : KeepsTimes mm after) :
    AccessOrder history after where
  keys := keeps.keys ordered.keys
  timestamp_le := keeps.timestamp ▸ ordered.timestamp_le
  accessed fileTag number entry isPresent := by
    obtain ⟨old, oldPresent, _⟩ := keeps.present _ _ entry isPresent
    exact ordered.accessed _ _ old oldPresent
  given fileTag number entry isPresent := by
    obtain ⟨old, oldPresent, oldTime⟩ := keeps.present _ _ entry isPresent
    rw [← oldTime, keeps.timestamp]
    exact ordered.given _ _ old oldPresent
  order firstTag firstNumber first secondTag secondNumber second firstPresent secondPresent := by
    obtain ⟨oldFirst, oldFirstPresent, firstTime⟩ := keeps.present _ _ first firstPresent
    obtain ⟨oldSecond, oldSecondPresent, secondTime⟩ := keeps.present _ _ second secondPresent
    rw [← firstTime, ← secondTime]
    exact ordered.order _ _ oldFirst _ _ oldSecond oldFirstPresent oldSecondPresent

/-- An access puts its page last in both orders. -/
theorem touches {page : PageName} (ordered : AccessOrder history mm)
    (touched : Touches 2 page mm after) : AccessOrder (history ++ [page]) after where
  keys := touched.keys ordered.keys
  timestamp_le := by
    have early := ordered.timestamp_le
    have late := touched.timestamp_le
    simp only [List.length_append, List.length_singleton]
    omega
  accessed fileTag number entry isPresent := by
    by_cases same : (fileTag, number) = page
    · simp [same]
    · obtain ⟨old, oldPresent, _⟩ := touched.others _ _ entry same isPresent
      exact List.mem_append_left _ (ordered.accessed _ _ old oldPresent)
  given fileTag number entry isPresent := by
    by_cases same : (fileTag, number) = page
    · subst same
      exact (touched.newest entry isPresent).2
    · obtain ⟨old, oldPresent, oldTime⟩ := touched.others _ _ entry same isPresent
      rw [← oldTime]
      exact (ordered.given _ _ old oldPresent).trans touched.timestamp_ge
  order firstTag firstNumber first secondTag secondNumber second firstPresent secondPresent := by
    by_cases firstSame : (firstTag, firstNumber) = page <;>
      by_cases secondSame : (secondTag, secondNumber) = page
    · obtain ⟨rfl, rfl⟩ := Prod.mk.inj (firstSame.trans secondSame.symm)
      obtain rfl : first = second :=
        Option.some.inj (firstPresent.held.symm.trans secondPresent.held)
      simp
    · obtain ⟨old, oldPresent, oldTime⟩ := touched.others _ _ second secondSame secondPresent
      have oldGiven := ordered.given _ _ old oldPresent
      have bound := lastAccess_le history (secondTag, secondNumber)
      rw [lastAccess_snoc_of_ne _ secondSame, firstSame, lastAccess_snoc_self]
      subst firstSame
      have newer := (touched.newest first firstPresent).1
      omega
    · obtain ⟨old, oldPresent, oldTime⟩ := touched.others _ _ first firstSame firstPresent
      have oldGiven := ordered.given _ _ old oldPresent
      have bound := lastAccess_le history (firstTag, firstNumber)
      rw [lastAccess_snoc_of_ne _ firstSame, secondSame, lastAccess_snoc_self]
      subst secondSame
      have newer := (touched.newest second secondPresent).1
      omega
    · obtain ⟨oldFirst, oldFirstPresent, firstTime⟩ :=
        touched.others _ _ first firstSame firstPresent
      obtain ⟨oldSecond, oldSecondPresent, secondTime⟩ :=
        touched.others _ _ second secondSame secondPresent
      rw [lastAccess_snoc_of_ne _ firstSame, lastAccess_snoc_of_ne _ secondSame, ← firstTime,
        ← secondTime]
      exact ordered.order _ _ oldFirst _ _ oldSecond oldFirstPresent oldSecondPresent

theorem page_eq_of_lastAccessTime_eq (ordered : AccessOrder history mm) {otherTag : FileTag}
    {otherNumber : Nat} {other : PageEntry} (present : mm.Present fileTag number entry)
    (otherPresent : mm.Present otherTag otherNumber other)
    (same : entry.lastAccessTime = other.lastAccessTime) :
    (fileTag, number) = (otherTag, otherNumber) := by
  have notBefore := ordered.order _ _ entry _ _ other present otherPresent
  have notAfter := ordered.order _ _ other _ _ entry otherPresent present
  apply eq_of_lastAccess_eq (ordered.accessed _ _ entry present)
    (ordered.accessed _ _ other otherPresent)
  omega

end AccessOrder

end Order

end MemoryManager

end Worker

end MasterOfFiles
