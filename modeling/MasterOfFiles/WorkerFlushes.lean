import MasterOfFiles.WorkerSearches
import MasterOfFiles.WorkerVictims

/-!
# What a flush saves

Both flush functions write the dirty pages one after another and stop at the first write that
fails.  What they leave behind is therefore given by how many pages they wrote: those are clean and
in Storage, and everything else is as it was.
-/

namespace MasterOfFiles

namespace Worker

namespace MemoryManager

variable {config : MemoryConfig} {mm middle after : MemoryManager config}
  {faults : StorageFaults} {fileTag : FileTag} {number : Nat} {entry : PageEntry}

section Saved

/-- The entry of a page after its write-back. -/
def markClean (entry : PageEntry) : PageEntry :=
  { entry with dirty := false }

/-- The pages of some blocks were written to Storage and marked clean; nothing else changed but
the number of requests. -/
structure Saved (blocks : List (FileTag × Nat)) (before after : MemoryManager config) : Prop where
  keys : after.entries.map Prod.fst = before.entries.map Prod.fst
  physicalMemory : after.physicalMemory = before.physicalMemory
  page : ∀ fileTag number, after.page fileTag number =
    if (fileTag, number) ∈ blocks then (before.page fileTag number).map markClean
    else before.page fileTag number
  stored : ∀ fileTag number, (fileTag, number) ∈ blocks → ∃ entry,
    before.Present fileTag number entry ∧
      after.storage fileTag number = before.physicalMemory entry.frame
  untouched : ∀ fileTag number, (fileTag, number) ∉ blocks →
    after.storage fileTag number = before.storage fileTag number

namespace Saved

variable {early late blocks : List (FileTag × Nat)}

theorem countRequest (mm : MemoryManager config) :
    Saved [] mm { mm with requests := mm.requests + 1 } :=
  ⟨rfl, rfl, fun _ _ => by simp [MemoryManager.page, findPageTable], by simp, fun _ _ _ => rfl⟩

theorem refl (mm : MemoryManager config) : Saved [] mm mm :=
  ⟨rfl, rfl, fun _ _ => by simp, by simp, fun _ _ _ => rfl⟩

theorem present_before (saved : Saved blocks mm after)
    (present : after.Present fileTag number entry) :
    ∃ old, mm.Present fileTag number old ∧ old.frame = entry.frame := by
  have held := present.held
  rw [saved.page] at held
  split at held
  · obtain ⟨old, oldHeld, rfl⟩ := Option.map_eq_some_iff.mp held
    exact ⟨old, ⟨oldHeld, present.present⟩, rfl⟩
  · exact ⟨entry, ⟨held, present.present⟩, rfl⟩

theorem present_after (saved : Saved blocks mm after)
    (present : mm.Present fileTag number entry) :
    ∃ found, after.Present fileTag number found ∧ found.frame = entry.frame := by
  by_cases written : (fileTag, number) ∈ blocks
  · refine ⟨markClean entry, ⟨?_, present.present⟩, rfl⟩
    rw [saved.page, if_pos written, present.held]
    rfl
  · refine ⟨entry, ⟨?_, present.present⟩, rfl⟩
    rw [saved.page, if_neg written, present.held]

theorem trans (first : Saved early mm middle) (second : Saved late middle after) :
    Saved (early ++ late) mm after where
  keys := second.keys.trans first.keys
  physicalMemory := second.physicalMemory.trans first.physicalMemory
  page fileTag number := by
    have idempotent : markClean ∘ markClean = markClean := rfl
    rw [second.page, first.page]
    by_cases inEarly : (fileTag, number) ∈ early <;> by_cases inLate : (fileTag, number) ∈ late <;>
      simp [inEarly, inLate, idempotent]
  stored fileTag number member := by
    by_cases inLate : (fileTag, number) ∈ late
    · obtain ⟨found, present, storedEq⟩ := second.stored fileTag number inLate
      obtain ⟨old, oldPresent, frameEq⟩ := first.present_before present
      refine ⟨old, oldPresent, ?_⟩
      rw [storedEq, first.physicalMemory, frameEq]
    · have inEarly : (fileTag, number) ∈ early := by simpa [inLate] using member
      obtain ⟨found, present, storedEq⟩ := first.stored fileTag number inEarly
      exact ⟨found, present, (second.untouched fileTag number inLate).trans storedEq⟩
  untouched fileTag number outside := by
    rw [List.mem_append, not_or] at outside
    exact (second.untouched _ _ outside.2).trans (first.untouched _ _ outside.1)

theorem storePage (present : mm.Present fileTag number entry) :
    Saved [(fileTag, number)] mm
      ((mm.storeFrame fileTag number entry.frame).ptSetDirty fileTag number false) where
  keys := by
    rw [ptSetDirty, modifyPage, keys_modifyTable]
    rfl
  physicalMemory := rfl
  page other position := by
    have storedPage : (mm.storeFrame fileTag number entry.frame).page = mm.page :=
      page_of_entries rfl
    rw [ptSetDirty, page_modifyPage, storedPage]
    by_cases here : other = fileTag ∧ position = number
    · obtain ⟨rfl, rfl⟩ := here
      simp
      rfl
    · have outside : ¬ (other, position) ∈ [(fileTag, number)] := by simpa using here
      rw [if_neg here, if_neg outside]
  stored other position member := by
    obtain ⟨rfl, rfl⟩ : other = fileTag ∧ position = number := by simpa using member
    exact ⟨entry, present, by simp [ptSetDirty, modifyPage, modifyTable, storeFrame]⟩
  untouched other position outside := by
    have elsewhere : ¬ (other = fileTag ∧ position = number) := by simpa using outside
    exact storage_storeFrame_of_ne elsewhere

/-- No byte that a query can see has changed. -/
theorem pageView (saved : Saved blocks mm after) (fileTag : FileTag) (number : Nat) :
    after.pageView fileTag number = mm.pageView fileTag number := by
  by_cases inMemory : ∃ entry, mm.Present fileTag number entry
  · obtain ⟨entry, present⟩ := inMemory
    obtain ⟨found, foundPresent, frameEq⟩ := saved.present_after present
    rw [foundPresent.pageView, present.pageView, saved.physicalMemory, frameEq]
  · have absent : ∀ found, ¬ after.Present fileTag number found := by
      intro found present
      obtain ⟨old, oldPresent, _⟩ := saved.present_before present
      exact inMemory ⟨old, oldPresent⟩
    have outside : (fileTag, number) ∉ blocks := by
      intro member
      obtain ⟨entry, present, _⟩ := saved.stored fileTag number member
      exact inMemory ⟨entry, present⟩
    rw [pageView_of_not_present absent,
      pageView_of_not_present fun entry present => inMemory ⟨entry, present⟩,
      saved.untouched fileTag number outside]

end Saved

end Saved

section Lists

/-- The write-back loop over pages of any File:Tags. -/
def flushList (faults : StorageFaults) :
    List (FileTag × PageEntry) → MemoryManager config → Bool × MemoryManager config
  | [], mm => (true, mm)
  | (fileTag, entry) :: rest, mm =>
    match flushPages faults fileTag [entry] mm with
    | (false, failed) => (false, failed)
    | (true, written) => flushList faults rest written

theorem flushList_append (early late : List (FileTag × PageEntry)) :
    flushList faults (early ++ late) mm =
      match flushList faults early mm with
      | (false, failed) => (false, failed)
      | (true, written) => flushList faults late written := by
  induction early generalizing mm with
  | nil => rfl
  | cons page rest ih =>
      obtain ⟨fileTag, entry⟩ := page
      simp only [List.cons_append, flushList]
      split
      · rfl
      · exact ih

theorem flushPages_eq_flushList (fileTag : FileTag) (entries : List PageEntry)
    (mm : MemoryManager config) :
    flushPages faults fileTag entries mm =
      flushList faults (entries.map fun entry => (fileTag, entry)) mm := by
  induction entries generalizing mm with
  | nil => rfl
  | cons entry rest ih =>
      simp only [List.map_cons, flushList, flushPages, ← ih]
      split
      · rfl
      · split
        · rfl
        · split <;> rfl

/-- The dirty pages of some File:Tags, in the order in which they are visited. -/
def dirtyPagesOf (mm : MemoryManager config) (fileTags : List FileTag) :
    List (FileTag × PageEntry) :=
  fileTags.flatMap fun fileTag =>
    (dirtyEntries ((mm.findPageTable fileTag).getD [])).map fun entry => (fileTag, entry)

/-- A write-back leaves the tables of the other File:Tags alone. -/
theorem findPageTable_flushPages {entries : List PageEntry} {done : Bool}
    (flush : flushPages faults fileTag entries mm = (done, after)) {other : FileTag}
    (different : other ≠ fileTag) : after.findPageTable other = mm.findPageTable other := by
  induction entries generalizing mm with
  | nil => rw [← (Prod.mk.inj flush).2]
  | cons listed rest ih =>
      rw [flushPages] at flush
      split at flush
      · exact ih flush
      · split at flush
        · rw [← (Prod.mk.inj flush).2]
        · split at flush
          · rename_i failed wrote
            rw [← (Prod.mk.inj flush).2]
            unfold findPageTable
            rw [entries_of_writeBlockToStorage wrote]
          · rename_i written wrote
            rw [ih flush, ptSetDirty, modifyPage, findPageTable_modifyTable, if_neg different]
            unfold findPageTable
            rw [entries_of_writeBlockToStorage wrote]

theorem flushTables_eq_flushList {fileTags : List FileTag} (nodup : fileTags.Nodup)
    (mm : MemoryManager config) :
    flushTables faults fileTags mm = flushList faults (mm.dirtyPagesOf fileTags) mm := by
  induction fileTags generalizing mm with
  | nil => rfl
  | cons fileTag rest ih =>
      rw [List.nodup_cons] at nodup
      have split : mm.dirtyPagesOf (fileTag :: rest) =
          (dirtyEntries ((mm.findPageTable fileTag).getD [])).map (fun entry => (fileTag, entry)) ++
            mm.dirtyPagesOf rest := List.flatMap_cons
      rw [split, flushList_append, flushTables, ← flushPages_eq_flushList]
      cases flush : flushPages faults fileTag (dirtyEntries ((mm.findPageTable fileTag).getD []))
          mm with
      | mk done written =>
          cases done with
          | false => rfl
          | true =>
              have others : written.dirtyPagesOf rest = mm.dirtyPagesOf rest := by
                apply List.flatMap_congr
                intro other member
                have different : other ≠ fileTag := by
                  rintro rfl
                  exact nodup.1 member
                rw [findPageTable_flushPages flush different]
              simp only [ih nodup.2, others]

def blocksBehind (pages : List (FileTag × PageEntry)) : List (FileTag × Nat) :=
  pages.map fun page => (page.1, page.2.pageNumber)

/-- The listed pages are present in the frames listed. -/
def Listed (mm : MemoryManager config) (pages : List (FileTag × PageEntry)) : Prop :=
  ∀ page ∈ pages, page.2.present = true ∧ page.2.frame < config.frameCount ∧
    ∃ current, mm.Present page.1 page.2.pageNumber current ∧ current.frame = page.2.frame

theorem Saved.listed {blocks : List (FileTag × Nat)} {pages : List (FileTag × PageEntry)}
    (saved : Saved blocks mm after) (listed : mm.Listed pages) : after.Listed pages := by
  intro page member
  obtain ⟨isPresent, frameLt, current, present, frameEq⟩ := listed page member
  obtain ⟨found, foundPresent, foundFrame⟩ := saved.present_after present
  exact ⟨isPresent, frameLt, found, foundPresent, foundFrame.trans frameEq⟩

/-- A write-back of one listed page saves it or, when Storage refuses, nothing. -/
theorem flushPages_single {page : FileTag × PageEntry} (listed : mm.Listed [page]) :
    flushPages faults page.1 [page.2] mm =
      if faults mm.requests then (false, { mm with requests := mm.requests + 1 })
      else (true, (mm.storeFrame page.1 page.2.pageNumber page.2.frame).ptSetDirty page.1
        page.2.pageNumber false) := by
  obtain ⟨isPresent, frameLt, _⟩ := listed page (by simp)
  have inside : ¬ config.frameCount ≤ page.2.frame := by omega
  simp only [flushPages, isPresent, Bool.not_true, Bool.false_eq_true, if_false, inside,
    writeBlockToStorage]
  cases faults mm.requests with
  | true => rfl
  | false => rfl

/-- The loop saves the pages before the first one that Storage refuses. -/
theorem flushList_prefix {pages : List (FileTag × PageEntry)} (listed : mm.Listed pages)
    {done : Bool} (flush : flushList faults pages mm = (done, after)) :
    ∃ count ≤ pages.length, Saved (blocksBehind (pages.take count)) mm after ∧
      (∀ position < count, faults (mm.requests + position) = false) ∧
      (done = true → count = pages.length) ∧
      (done = false → count < pages.length ∧ faults (mm.requests + count) = true) := by
  induction pages generalizing mm with
  | nil =>
      obtain ⟨rfl, rfl⟩ := Prod.mk.inj flush
      exact ⟨0, Nat.le_refl _, Saved.refl mm, by simp, by simp, by simp⟩
  | cons page rest ih =>
      have first : mm.Listed [page] := by
        intro other member
        exact listed other (by simp_all)
      simp only [flushList, flushPages_single first] at flush
      by_cases refused : faults mm.requests = true
      · simp only [refused, if_true] at flush
        obtain ⟨rfl, rfl⟩ := Prod.mk.inj flush
        exact ⟨0, Nat.zero_le _, Saved.countRequest mm, by simp, by simp, by simp [refused]⟩
      · simp only [refused] at flush
        obtain ⟨_, _, current, present, frameEq⟩ := first page (by simp)
        have saves := Saved.storePage present
        rw [frameEq] at saves
        obtain ⟨count, countLe, saved, accepted, whole, stopped⟩ :=
          ih (saves.listed fun other member => listed other (by simp [member])) flush
        refine ⟨count + 1, by simpa using countLe, ?_, ?_, ?_, ?_⟩
        · simpa [blocksBehind] using saves.trans saved
        · intro position positionLt
          cases position with
          | zero => simpa using refused
          | succ position =>
              have later := accepted position (by omega)
              rw [Nat.add_comm position 1, ← Nat.add_assoc]
              exact later
        · intro ended
          simp [whole ended]
        · intro failed
          obtain ⟨countLt, refusal⟩ := stopped failed
          refine ⟨by simpa using countLt, ?_⟩
          rw [Nat.add_comm count 1, ← Nat.add_assoc]
          exact refusal

end Lists

section Calls

variable {scope : Scope} {fileTags : List FileTag}

theorem Sound.mem_dirtyPagesOf (sound : Sound scope none mm) {page : FileTag × PageEntry} :
    page ∈ mm.dirtyPagesOf fileTags ↔ page.1 ∈ fileTags ∧
      mm.page page.1 page.2.pageNumber = some page.2 ∧ page.2.dirty = true := by
  obtain ⟨fileTag, entry⟩ := page
  simp only [dirtyPagesOf, dirtyEntries, List.mem_flatMap, List.mem_map, List.mem_filter,
    Prod.mk.injEq]
  constructor
  · rintro ⟨other, isFlushed, found, ⟨member, dirty⟩, rfl, rfl⟩
    obtain ⟨number, held⟩ := List.mem_iff_getElem?.mp member
    rw [← page_eq_getElem?] at held
    obtain ⟨rfl, _⟩ := sound.pageNumber other number found held
    exact ⟨isFlushed, held, dirty⟩
  · rintro ⟨isFlushed, held, dirty⟩
    rw [page_eq_getElem?] at held
    exact ⟨fileTag, isFlushed, entry, ⟨List.mem_of_getElem? held, dirty⟩, rfl, rfl⟩

theorem Sound.listed (sound : Sound scope none mm) (fileTags : List FileTag) :
    mm.Listed (mm.dirtyPagesOf fileTags) := by
  intro page member
  obtain ⟨_, held, dirty⟩ := sound.mem_dirtyPagesOf.mp member
  have isPresent := sound.dirty_present _ _ page.2 held dirty
  have present : mm.Present page.1 page.2.pageNumber page.2 := ⟨held, isPresent⟩
  exact ⟨isPresent, sound.frame_lt _ _ page.2 present, page.2, present, rfl⟩

theorem mmFlushQuery_eq (connected : mm.connected = true) (fileTag : FileTag) :
    mm.mmFlushQuery faults fileTag = flushList faults (mm.dirtyPagesOf [fileTag]) mm := by
  rw [← flushTables_eq_flushList (by simp)]
  simp only [mmFlushQuery, connected, Bool.not_true, Bool.false_eq_true, if_false, flushTables]
  cases mm.findPageTable fileTag with
  | none => rfl
  | some table =>
      simp only [Option.getD_some]
      split
      · rename_i failed flush
        exact flush
      · rename_i flushed flush
        exact flush

theorem mmFlushAllDirty_eq (connected : mm.connected = true)
    (keys : (mm.entries.map Prod.fst).Nodup) :
    mm.mmFlushAllDirty faults =
      flushList faults (mm.dirtyPagesOf (mm.entries.map Prod.fst)) mm := by
  rw [← flushTables_eq_flushList keys]
  simp [mmFlushAllDirty, connected]

/-- A flush of one File:Tag saves some of its dirty pages, all of them when it succeeds. -/
theorem Sound.mmFlushQuery_saves (sound : Sound scope none mm) (faults : StorageFaults)
    (fileTag : FileTag) : ∃ blocks, Saved blocks mm (mm.mmFlushQuery faults fileTag).2 := by
  by_cases connected : mm.connected = true
  · rw [mmFlushQuery_eq connected]
    obtain ⟨count, _, saved, _⟩ := flushList_prefix (sound.listed [fileTag]) rfl
    exact ⟨_, saved⟩
  · have unchanged : mm.mmFlushQuery faults fileTag = (false, mm) := by
      simp [MemoryManager.mmFlushQuery, connected]
    rw [unchanged]
    exact ⟨[], Saved.refl mm⟩

theorem Sound.nodup_dirtyPagesOf (sound : Sound scope none mm) (nodup : fileTags.Nodup) :
    (mm.dirtyPagesOf fileTags).Nodup := by
  have tables : ∀ fileTag, ((mm.findPageTable fileTag).getD []).Nodup := by
    intro fileTag
    rw [List.nodup_iff_getElem?_ne_getElem?]
    intro first second firstLt secondLt same
    rw [List.getElem?_eq_getElem secondLt] at same
    have secondHeld := List.getElem?_eq_getElem secondLt
    rw [← page_eq_getElem?] at same secondHeld
    have firstNumber := (sound.pageNumber fileTag first _ same).1
    have secondNumber := (sound.pageNumber fileTag second _ secondHeld).1
    omega
  rw [dirtyPagesOf, List.nodup_flatMap]
  constructor
  · intro fileTag _
    exact ((tables fileTag).filter _).map fun first second same => (Prod.mk.inj same).2
  · refine nodup.imp ?_
    intro first second different page inFirst inSecond
    obtain ⟨_, _, rfl⟩ := List.mem_map.mp inFirst
    obtain ⟨_, _, same⟩ := List.mem_map.mp inSecond
    exact different (Prod.mk.inj same).1.symm

end Calls

section Refusals

/-- The dirty pages in the order in which `mm_flush_all_dirty` visits them. -/
def dirtyPages (mm : MemoryManager config) : List (FileTag × PageEntry) :=
  mm.dirtyPagesOf (mm.entries.map Prod.fst)

/-- The answers of a Storage that refuses the writes of some blocks while `mm_flush_all_dirty`
asks it to write the dirty pages in order. -/
def refusalsOf (refused : FileTag → Nat → Bool) (mm : MemoryManager config) : StorageFaults :=
  fun request => (mm.dirtyPages[request - mm.requests]?).any fun page =>
    refused page.1 page.2.pageNumber

/-- Every dirty page whose block Storage accepts is in Storage and clean, and every other one is
still present and dirty with the same bytes. -/
structure SavesAcceptable (refused : FileTag → Nat → Bool)
    (before after : MemoryManager config) : Prop where
  accepted : ∀ fileTag number entry, before.page fileTag number = some entry →
    entry.dirty = true → refused fileTag number = false →
      after.storage fileTag number = before.physicalMemory entry.frame ∧
        ∃ found, after.page fileTag number = some found ∧ found.dirty = false
  refusedKept : ∀ fileTag number entry, before.page fileTag number = some entry →
    entry.dirty = true → refused fileTag number = true →
      ∃ found, after.Present fileTag number found ∧ found.dirty = true ∧
        after.physicalMemory found.frame = before.physicalMemory entry.frame

/-- No dirty page that Storage accepts is visited after one that it refuses, and there is no such
page at all when Storage is not connected. -/
def AcceptedFirst (refused : FileTag → Nat → Bool) (mm : MemoryManager config) : Prop :=
  (mm.connected = false → ∀ page ∈ mm.dirtyPages, refused page.1 page.2.pageNumber = true) ∧
    mm.dirtyPages.Pairwise fun earlier later =>
      refused earlier.1 earlier.2.pageNumber = true → refused later.1 later.2.pageNumber = true

variable {refused : FileTag → Nat → Bool} {scope : Scope}

theorem refusalsOf_position {position : Nat} (inside : position < mm.dirtyPages.length) :
    mm.refusalsOf refused (mm.requests + position) =
      refused mm.dirtyPages[position].1 mm.dirtyPages[position].2.pageNumber := by
  simp [refusalsOf, List.getElem?_eq_getElem inside]

/-- Every dirty page has its place among the pages to be written. -/
theorem Sound.exists_position (sound : Sound scope none mm)
    (held : mm.page fileTag number = some entry) (dirty : entry.dirty = true) :
    ∃ position, ∃ inside : position < mm.dirtyPages.length,
      mm.dirtyPages[position] = (fileTag, entry) ∧ entry.pageNumber = number := by
  obtain ⟨numberEq, _⟩ := sound.pageNumber fileTag number entry held
  obtain ⟨table, found, _⟩ := Option.bind_eq_some_iff.mp held
  have listed : fileTag ∈ mm.entries.map Prod.fst :=
    List.mem_map.mpr ⟨_, mem_of_findPageTable found, rfl⟩
  have member : (fileTag, entry) ∈ mm.dirtyPages :=
    sound.mem_dirtyPagesOf.mpr ⟨listed, by rw [numberEq]; exact held, dirty⟩
  obtain ⟨position, inside, pageEq⟩ := List.mem_iff_getElem.mp member
  exact ⟨position, inside, pageEq, numberEq⟩

theorem Sound.mem_blocksBehind_take (sound : Sound scope none mm) {count position : Nat}
    (inside : position < mm.dirtyPages.length) :
    (mm.dirtyPages[position].1, mm.dirtyPages[position].2.pageNumber) ∈
        blocksBehind (mm.dirtyPages.take count) ↔ position < count := by
  have nodup : mm.dirtyPages.Nodup := sound.nodup_dirtyPagesOf sound.keys
  constructor
  · intro member
    obtain ⟨page, taken, same⟩ := List.mem_map.mp member
    obtain ⟨other, otherLt, otherEq⟩ := List.mem_take_iff_getElem.mp taken
    have otherInside : other < mm.dirtyPages.length := by omega
    obtain ⟨_, held, _⟩ := sound.mem_dirtyPagesOf.mp (List.getElem_mem inside)
    obtain ⟨_, otherHeld, _⟩ := sound.mem_dirtyPagesOf.mp (List.getElem_mem otherInside)
    obtain ⟨tagEq, numberEq⟩ := Prod.mk.inj same
    rw [← otherEq] at tagEq numberEq
    rw [tagEq, numberEq, held] at otherHeld
    have samePage : mm.dirtyPages[other] = mm.dirtyPages[position] :=
      Prod.ext tagEq (Option.some.inj otherHeld).symm
    have samePosition := (nodup.getElem_inj_iff).mp samePage
    omega
  · intro early
    refine List.mem_map.mpr ⟨mm.dirtyPages[position], ?_, rfl⟩
    exact List.mem_take_iff_getElem.mpr ⟨position, by omega, rfl⟩

theorem Sound.flushDisconnected_saves_iff (sound : Sound scope none mm)
    (disconnected : mm.connected = false) (refused : FileTag → Nat → Bool) :
    SavesAcceptable refused mm (mm.mmFlushAllDirty (mm.refusalsOf refused)).2 ↔
      mm.AcceptedFirst refused := by
  have unchanged : mm.mmFlushAllDirty (mm.refusalsOf refused) = (false, mm) := by
    simp [MemoryManager.mmFlushAllDirty, disconnected]
  rw [unchanged]
  constructor
  · intro saves
    have allRefused : ∀ page ∈ mm.dirtyPages, refused page.1 page.2.pageNumber = true := by
      intro page member
      obtain ⟨_, held, dirty⟩ := sound.mem_dirtyPagesOf.mp member
      by_contra accepts
      obtain ⟨_, found, foundHeld, clean⟩ :=
        saves.accepted _ _ page.2 held dirty (by simpa using accepts)
      rw [held, Option.some.injEq] at foundHeld
      rw [← foundHeld, dirty] at clean
      cases clean
    refine ⟨fun _ => allRefused, ?_⟩
    rw [List.pairwise_iff_getElem]
    exact fun _ _ _ inside _ _ => allRefused _ (List.getElem_mem inside)
  · intro condition
    refine ⟨?_, ?_⟩
    · intro fileTag number entry held dirty accepts
      obtain ⟨position, inside, pageEq, rfl⟩ := sound.exists_position held dirty
      have refuses := condition.1 disconnected _ (List.getElem_mem inside)
      rw [pageEq, accepts] at refuses
      cases refuses
    · intro fileTag number entry held dirty _
      exact ⟨entry, ⟨held, sound.dirty_present _ _ entry held dirty⟩, dirty, rfl⟩

/-- When the first `count` dirty pages, all of them accepted, are what had to be saved, no accepted
page comes after a refused one. -/
theorem Sound.acceptedFirst_of_saves (sound : Sound scope none mm)
    (isConnected : mm.connected = true) {count : Nat}
    (saved : Saved (blocksBehind (mm.dirtyPages.take count)) mm after)
    (accepted : ∀ position, ∀ inside : position < mm.dirtyPages.length, position < count →
      refused mm.dirtyPages[position].1 mm.dirtyPages[position].2.pageNumber = false)
    (saves : SavesAcceptable refused mm after) : mm.AcceptedFirst refused := by
  refine ⟨by simp [isConnected], ?_⟩
  rw [List.pairwise_iff_getElem]
  intro first second firstLt secondLt earlier refuses
  by_contra accepts
  have late : count ≤ first := by
    by_contra early
    rw [accepted first firstLt (by omega)] at refuses
    cases refuses
  obtain ⟨_, held, dirty⟩ := sound.mem_dirtyPagesOf.mp (List.getElem_mem secondLt)
  obtain ⟨_, found, foundHeld, clean⟩ :=
    saves.accepted _ _ _ held dirty (by simpa using accepts)
  have unwritten : ¬ second < count := by omega
  rw [saved.page, if_neg (by rw [sound.mem_blocksBehind_take secondLt]; exact unwritten), held,
    Option.some.injEq] at foundHeld
  rw [← foundHeld, dirty] at clean
  cases clean

theorem AcceptedFirst.refused_from {count : Nat} (condition : mm.AcceptedFirst refused)
    (stopped : ∀ inside : count < mm.dirtyPages.length,
      refused mm.dirtyPages[count].1 mm.dirtyPages[count].2.pageNumber = true)
    {position : Nat} (inside : position < mm.dirtyPages.length) (late : count ≤ position) :
    refused mm.dirtyPages[position].1 mm.dirtyPages[position].2.pageNumber = true := by
  have countLt : count < mm.dirtyPages.length := by omega
  rcases Nat.eq_or_lt_of_le late with rfl | later
  · exact stopped inside
  · exact List.pairwise_iff_getElem.mp condition.2 count position countLt inside later
      (stopped countLt)

/-- A loop that has saved the first `count` dirty pages has saved what it should when these are
the accepted ones. -/
theorem Sound.saves_of_prefix (sound : Sound scope none mm) {count : Nat}
    (saved : Saved (blocksBehind (mm.dirtyPages.take count)) mm after)
    (accepted : ∀ position, ∀ inside : position < mm.dirtyPages.length, position < count →
      refused mm.dirtyPages[position].1 mm.dirtyPages[position].2.pageNumber = false)
    (refusedLate : ∀ position, ∀ inside : position < mm.dirtyPages.length, count ≤ position →
      refused mm.dirtyPages[position].1 mm.dirtyPages[position].2.pageNumber = true) :
    SavesAcceptable refused mm after := by
  refine ⟨?_, ?_⟩
  · intro fileTag number entry held dirty accepts
    obtain ⟨position, inside, pageEq, rfl⟩ := sound.exists_position held dirty
    have early : position < count := by
      by_contra late
      have refuses := refusedLate position inside (by omega)
      rw [pageEq, accepts] at refuses
      cases refuses
    have written := (sound.mem_blocksBehind_take inside).mpr early
    rw [pageEq] at written
    obtain ⟨found, present, storedEq⟩ := saved.stored _ _ written
    have foundEq := present.held
    rw [held, Option.some.injEq] at foundEq
    refine ⟨by rw [storedEq, foundEq], markClean entry, ?_, rfl⟩
    rw [saved.page, if_pos written, held]
    rfl
  · intro fileTag number entry held dirty refuses
    obtain ⟨position, inside, pageEq, rfl⟩ := sound.exists_position held dirty
    have late : ¬ position < count := by
      intro early
      have accepts := accepted position inside early
      rw [pageEq, refuses] at accepts
      cases accepts
    have unwritten : (fileTag, entry.pageNumber) ∉ blocksBehind (mm.dirtyPages.take count) := by
      have outside := mt (sound.mem_blocksBehind_take inside).mp late
      rw [pageEq] at outside
      exact outside
    refine ⟨entry, ⟨?_, sound.dirty_present _ _ entry held dirty⟩, dirty, ?_⟩
    · rw [saved.page, if_neg unwritten, held]
    · rw [saved.physicalMemory]

/-- After the loop has saved the first `count` dirty pages, the first page left being refused. -/
theorem Sound.saved_saves_iff (sound : Sound scope none mm) (isConnected : mm.connected = true)
    {count : Nat} (saved : Saved (blocksBehind (mm.dirtyPages.take count)) mm after)
    (accepted : ∀ position, ∀ inside : position < mm.dirtyPages.length, position < count →
      refused mm.dirtyPages[position].1 mm.dirtyPages[position].2.pageNumber = false)
    (stopped : ∀ inside : count < mm.dirtyPages.length,
      refused mm.dirtyPages[count].1 mm.dirtyPages[count].2.pageNumber = true) :
    SavesAcceptable refused mm after ↔ mm.AcceptedFirst refused := by
  constructor
  · exact sound.acceptedFirst_of_saves isConnected saved accepted
  · intro condition
    exact sound.saves_of_prefix saved accepted
      fun position inside late => condition.refused_from stopped inside late

/-- A flush of everything saves all that Storage will take exactly when no page that it accepts
comes after one that it refuses. -/
theorem Sound.flushAllDirty_saves_iff (sound : Sound scope none mm)
    (refused : FileTag → Nat → Bool) :
    SavesAcceptable refused mm (mm.mmFlushAllDirty (mm.refusalsOf refused)).2 ↔
      mm.AcceptedFirst refused := by
  cases connected : mm.connected with
  | false => exact sound.flushDisconnected_saves_iff connected refused
  | true =>
      rw [mmFlushAllDirty_eq connected sound.keys]
      change SavesAcceptable refused mm (flushList _ mm.dirtyPages mm).2 ↔ _
      have listed : mm.Listed mm.dirtyPages := sound.listed _
      cases flush : flushList (mm.refusalsOf refused) mm.dirtyPages mm with
      | mk done after =>
          obtain ⟨count, _, saved, accepted, whole, stopped⟩ := flushList_prefix listed flush
          apply sound.saved_saves_iff connected saved
          · intro position inside early
            exact (refusalsOf_position inside).symm.trans (accepted position early)
          · intro inside
            cases done with
            | true => exact absurd (whole rfl) (Nat.ne_of_lt inside)
            | false =>
                exact (refusalsOf_position inside).symm.trans (stopped rfl).2

/-- In every reachable state, and whichever blocks Storage refuses, `mm_flush_all_dirty` saves the
pages that Storage accepts and keeps the others exactly when no accepted one is visited after a
refused one. -/
theorem mmFlushAllDirty_saves_iff (reachable : (instructionSystem config).Reachable mm)
    (refused : FileTag → Nat → Bool) :
    SavesAcceptable refused mm (mm.mmFlushAllDirty (mm.refusalsOf refused)).2 ↔
      mm.AcceptedFirst refused := by
  obtain ⟨_, sound⟩ := soundButFor_of_reachable reachable
  exact Sound.flushAllDirty_saves_iff sound refused

/-- Every request is accepted and every allocation succeeds. -/
def noFailures : Replies where
  faults _ := false
  accepted := true
  allocated := true
  delivered := true

def freshWorker : MemoryManager twoFrameConfig where
  entries := []
  used _ := false
  clockPointer := 0
  physicalMemory _ := Vector.replicate 2 0
  globalTimestamp := 0
  connected := true
  storage _ _ := Vector.replicate 2 0
  requests := 0

def twoFilesWritten : MemoryManager twoFrameConfig :=
  ((freshWorker.executeInstruction noFailures
    (.write ⟨"MATERIAS", "BASE"⟩ 0 [65])).memory.executeInstruction noFailures
      (.write ⟨"ESTUDIANTES", "BASE"⟩ 0 [66])).memory

theorem reachable_executeInstruction (reachable : (instructionSystem config).Reachable mm)
    (replies : Replies) (instruction : Instruction) :
    (instructionSystem config).Reachable (mm.executeInstruction replies instruction).memory := by
  have step : (instructionSystem config).step mm (instruction, replies)
      (mm.executeInstruction replies instruction).memory := rfl
  exact reachable.next step

theorem reachable_twoFilesWritten :
    (instructionSystem twoFrameConfig).Reachable twoFilesWritten := by
  have started : (instructionSystem twoFrameConfig).Reachable freshWorker :=
    TransitionSystem.Reachable.start ⟨rfl, fun _ => rfl, rfl⟩
  exact reachable_executeInstruction (reachable_executeInstruction started _ _) _ _

/-- The blocks of `ESTUDIANTES:BASE` are refused. -/
theorem mmFlushAllDirty_saves_iff_of_twoFiles :
    SavesAcceptable (fun fileTag _ => decide (fileTag.file = "ESTUDIANTES")) twoFilesWritten
        (twoFilesWritten.mmFlushAllDirty (twoFilesWritten.refusalsOf fun fileTag _ =>
          decide (fileTag.file = "ESTUDIANTES"))).2 ↔
      twoFilesWritten.AcceptedFirst fun fileTag _ => decide (fileTag.file = "ESTUDIANTES") :=
  mmFlushAllDirty_saves_iff reachable_twoFilesWritten _

/-- The blocks of `MATERIAS:BASE`, which comes first, are refused: the page of `ESTUDIANTES:BASE`
stays dirty and its byte does not reach Storage. -/
theorem mmFlushAllDirty_skips_accepted_page :
    ∃ after, (instructionSystem twoFrameConfig).Reachable twoFilesWritten ∧
      twoFilesWritten.mmFlushAllDirty (twoFilesWritten.refusalsOf fun fileTag _ =>
        decide (fileTag.file = "MATERIAS")) = (false, after) ∧
      (after.page ⟨"ESTUDIANTES", "BASE"⟩ 0).map PageEntry.dirty = some true ∧
      (after.storage ⟨"ESTUDIANTES", "BASE"⟩ 0).toList = [0, 0] ∧
      twoFilesWritten.view ⟨"ESTUDIANTES", "BASE"⟩ 0 = 66 ∧
      ¬ SavesAcceptable (fun fileTag _ => decide (fileTag.file = "MATERIAS")) twoFilesWritten
        after := by
  have code : (twoFilesWritten.mmFlushAllDirty (twoFilesWritten.refusalsOf fun fileTag _ =>
      decide (fileTag.file = "MATERIAS"))).1 = false := by decide +kernel
  have stillDirty : ((twoFilesWritten.mmFlushAllDirty (twoFilesWritten.refusalsOf
      fun fileTag _ => decide (fileTag.file = "MATERIAS"))).2.page ⟨"ESTUDIANTES", "BASE"⟩
        0).map PageEntry.dirty = some true := by decide +kernel
  refine ⟨(twoFilesWritten.mmFlushAllDirty (twoFilesWritten.refusalsOf fun fileTag _ =>
    decide (fileTag.file = "MATERIAS"))).2, reachable_twoFilesWritten, Prod.ext code rfl,
    stillDirty, by decide +kernel, by decide +kernel, ?_⟩
  intro saves
  have dirty : (twoFilesWritten.page ⟨"ESTUDIANTES", "BASE"⟩ 0).any PageEntry.dirty = true := by
    decide +kernel
  obtain ⟨entry, held, isDirty⟩ := (Option.any_eq_true _ _).mp dirty
  obtain ⟨_, found, foundHeld, clean⟩ := saves.accepted _ _ entry held isDirty rfl
  rw [foundHeld, Option.map_some, clean] at stillDirty
  cases stillDirty

end Refusals

end MemoryManager

end Worker

end MasterOfFiles
