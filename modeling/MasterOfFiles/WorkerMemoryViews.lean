import MasterOfFiles.FlatStore
import MasterOfFiles.TransitionSystem
import MasterOfFiles.WorkerReplacement

/-!
# Queries see a flat store

The views of a memory manager form a flat store of bytes.  Reads, flushes and
page faults leave it alone, a write replaces the bytes of its range, page by
page, and a successful flush of a File:Tag brings its Storage blocks up to
date.  This holds along every run of calls, whichever Storage requests fail.
-/

namespace MasterOfFiles

namespace Worker

namespace MemoryManager

variable {config : MemoryConfig} {mm after : MemoryManager config} {faults : StorageFaults}
  {fileTag : FileTag} {number : Nat} {entry : PageEntry} {scope : Scope}

theorem Invisible.view {coherent : Set FileTag} (invisible : Invisible coherent mm after)
    (tracked : fileTag ∈ coherent) : after.view fileTag = mm.view fileTag := by
  funext address
  simp only [MemoryManager.view, invisible fileTag tracked]

theorem Invisible.wholeView (invisible : Invisible Scope.whole.coherent mm after) :
    after.view = mm.view :=
  funext fun fileTag => invisible.view (Scope.mem_whole fileTag)

section Transfer

theorem present_ptSetDirty {dirty : Bool} (present : mm.Present fileTag number entry)
    {other : FileTag} {position : Nat} {found : PageEntry} :
    (mm.ptSetDirty fileTag number dirty).Present other position found ↔
      (other = fileTag ∧ position = number ∧ found = { entry with dirty := dirty }) ∨
      (¬ (other = fileTag ∧ position = number) ∧ mm.Present other position found) := by
  by_cases here : other = fileTag ∧ position = number
  · obtain ⟨rfl, rfl⟩ := here
    have marked : (mm.ptSetDirty other position dirty).page other position =
        some { entry with dirty := dirty } := page_modifyPage_self present.held
    constructor
    · rintro ⟨foundHeld, _⟩
      exact Or.inl ⟨rfl, rfl, Option.some.inj (foundHeld.symm.trans marked)⟩
    · rintro (⟨_, _, rfl⟩ | ⟨elsewhere, _⟩)
      · exact ⟨marked, present.present⟩
      · exact absurd ⟨rfl, rfl⟩ elsewhere
  · rw [ptSetDirty, present_modifyPage_of_ne here]
    constructor
    · exact fun found => Or.inr ⟨here, found⟩
    · rintro (⟨same, samePosition, _⟩ | ⟨_, found⟩)
      · exact absurd ⟨same, samePosition⟩ here
      · exact found

/-- Put bytes into the frame of a present page and set its dirty flag. -/
def setPage (mm : MemoryManager config) (fileTag : FileTag) (number : Nat)
    (entry : PageEntry) (bytes : Page config.pageSize) (dirty : Bool) :
    MemoryManager config :=
  (mm.loadFrame entry.frame bytes).ptSetDirty fileTag number dirty

theorem present_setPage {dirty : Bool} {bytes : Page config.pageSize}
    (present : mm.Present fileTag number entry)
    {other : FileTag} {position : Nat} {found : PageEntry} :
    (mm.setPage fileTag number entry bytes dirty).Present other position found ↔
      (other = fileTag ∧ position = number ∧ found = { entry with dirty := dirty }) ∨
      (¬ (other = fileTag ∧ position = number) ∧ mm.Present other position found) := by
  have loaded : (mm.loadFrame entry.frame bytes).Present fileTag number entry :=
    present.of_entries rfl
  rw [setPage, present_ptSetDirty loaded]
  constructor
  · rintro (here | ⟨elsewhere, found⟩)
    · exact Or.inl here
    · exact Or.inr ⟨elsewhere, found.of_entries rfl⟩
  · rintro (here | ⟨elsewhere, found⟩)
    · exact Or.inl here
    · exact Or.inr ⟨elsewhere, found.of_entries rfl⟩

theorem Sound.physicalMemory_setPage (sound : Sound scope none mm)
    (present : mm.Present fileTag number entry) {dirty : Bool} {bytes : Page config.pageSize}
    {other : FileTag} {position : Nat} {found : PageEntry}
    (elsewhere : ¬ (other = fileTag ∧ position = number))
    (foundPresent : mm.Present other position found) :
    (mm.setPage fileTag number entry bytes dirty).physicalMemory found.frame =
      mm.physicalMemory found.frame := by
  refine Function.update_of_ne (fun sameFrame => elsewhere ?_) _ _
  exact sound.frame_unique other position found fileTag number entry foundPresent present
    sameFrame

/-- The transfer of a write and the end of a write-back: a clean page has to
hold the bytes of its Storage block. -/
theorem Sound.setPage (sound : Sound scope none mm) (present : mm.Present fileTag number entry)
    {dirty : Bool} {bytes : Page config.pageSize}
    (written : fileTag ∈ scope.coherent → dirty = false → bytes = mm.storage fileTag number)
    (allowed : dirty = true → fileTag ∉ scope.spared) :
    Sound scope none (mm.setPage fileTag number entry bytes dirty) := by
  have presentIff := @present_setPage config mm fileTag number entry dirty bytes present
  have pageCases : ∀ {other position found},
      (mm.setPage fileTag number entry bytes dirty).page other position = some found →
        (other = fileTag ∧ position = number ∧ found = { entry with dirty := dirty }) ∨
        mm.page other position = some found := by
    intro other position found foundHeld
    change ((mm.loadFrame entry.frame bytes).modifyPage fileTag number
      fun entry => { entry with dirty := dirty }).page other position = some found at foundHeld
    rw [page_modifyPage] at foundHeld
    split at foundHeld
    · rename_i here
      have held : (mm.loadFrame entry.frame bytes).page fileTag number = some entry :=
        present.held
      rw [held, Option.map_some, Option.some.injEq] at foundHeld
      exact Or.inl ⟨here.1, here.2, foundHeld.symm⟩
    · exact Or.inr foundHeld
  refine ⟨?_, ?_, ?_, ?_, ?_, ?_, ?_, ?_, by simp, ?_, sound.clock_lt⟩
  · rw [MemoryManager.setPage, ptSetDirty, MemoryManager.modifyPage, keys_modifyTable]
    exact sound.keys
  · intro other position found foundHeld
    rcases pageCases foundHeld with ⟨rfl, rfl, rfl⟩ | old
    · exact sound.pageNumber _ _ entry present.held
    · exact sound.pageNumber other position found old
  · intro other position found foundHeld foundDirty
    rcases pageCases foundHeld with ⟨rfl, rfl, rfl⟩ | old
    · exact present.present
    · exact sound.dirty_present other position found old foundDirty
  · intro other tracked position found foundPresent clean
    rcases presentIff.mp foundPresent with ⟨rfl, rfl, rfl⟩ | ⟨elsewhere, old⟩
    · exact (Function.update_self _ _ _).trans (written tracked clean)
    · rw [sound.physicalMemory_setPage present elsewhere old]
      exact sound.clean other tracked position found old clean
  · intro other isSpared position found foundHeld
    rcases pageCases foundHeld with ⟨rfl, rfl, rfl⟩ | old
    · by_contra isDirty
      exact allowed (by simpa using isDirty) isSpared
    · exact sound.spared other isSpared position found old
  · intro other position found foundPresent
    rcases presentIff.mp foundPresent with ⟨rfl, rfl, rfl⟩ | ⟨_, old⟩
    · exact sound.frame_lt _ _ entry present
    · exact sound.frame_lt other position found old
  · intro firstTag firstNumber first secondTag secondNumber second firstPresent secondPresent
      sameFrame
    rcases presentIff.mp firstPresent with ⟨rfl, rfl, rfl⟩ | ⟨_, firstOld⟩
    · rcases presentIff.mp secondPresent with ⟨rfl, rfl, rfl⟩ | ⟨_, secondOld⟩
      · exact ⟨rfl, rfl⟩
      · exact sound.frame_unique _ _ entry _ _ second present secondOld sameFrame
    · rcases presentIff.mp secondPresent with ⟨rfl, rfl, rfl⟩ | ⟨_, secondOld⟩
      · exact sound.frame_unique _ _ first _ _ entry firstOld present sameFrame
      · exact sound.frame_unique _ _ first _ _ second firstOld secondOld sameFrame
  · intro frame frameLt
    have usedEq : (mm.setPage fileTag number entry bytes dirty).used frame = mm.used frame :=
      rfl
    rw [usedEq, sound.used_iff frame frameLt]
    refine or_congr_right ⟨?_, ?_⟩
    · rintro ⟨other, position, found, foundPresent, rfl⟩
      by_cases here : other = fileTag ∧ position = number
      · obtain ⟨rfl, rfl⟩ := here
        obtain rfl : found = entry :=
          Option.some.inj (foundPresent.held.symm.trans present.held)
        exact ⟨other, position, _, presentIff.mpr (Or.inl ⟨rfl, rfl, rfl⟩), rfl⟩
      · exact ⟨other, position, found, presentIff.mpr (Or.inr ⟨here, foundPresent⟩), rfl⟩
    · rintro ⟨other, position, found, foundPresent, rfl⟩
      rcases presentIff.mp foundPresent with ⟨rfl, rfl, rfl⟩ | ⟨_, old⟩
      · exact ⟨other, position, entry, present, rfl⟩
      · exact ⟨other, position, found, old, rfl⟩
  · intro frame isHeld other position found foundPresent
    rcases presentIff.mp foundPresent with ⟨rfl, rfl, rfl⟩ | ⟨_, old⟩
    · exact sound.unmapped frame isHeld _ _ entry present
    · exact sound.unmapped frame isHeld other position found old

theorem pageView_setPage (present : mm.Present fileTag number entry) {dirty : Bool}
    {bytes : Page config.pageSize} :
    (mm.setPage fileTag number entry bytes dirty).pageView fileTag number = bytes := by
  rw [((present_setPage present).mpr (Or.inl ⟨rfl, rfl, rfl⟩)).pageView]
  exact Function.update_self _ _ _

theorem Sound.pageView_setPage_of_ne (sound : Sound scope none mm)
    (present : mm.Present fileTag number entry) {dirty : Bool} {bytes : Page config.pageSize}
    {other : FileTag} {position : Nat} (elsewhere : ¬ (other = fileTag ∧ position = number)) :
    (mm.setPage fileTag number entry bytes dirty).pageView other position =
      mm.pageView other position := by
  have presentIff : ∀ found, (mm.setPage fileTag number entry bytes dirty).Present other
      position found ↔ mm.Present other position found := by
    intro found
    rw [present_setPage present]
    constructor
    · rintro (⟨same, samePosition, _⟩ | ⟨_, old⟩)
      · exact absurd ⟨same, samePosition⟩ elsewhere
      · exact old
    · exact fun old => Or.inr ⟨elsewhere, old⟩
  by_cases inMemory : ∃ found, mm.Present other position found
  · obtain ⟨found, foundPresent⟩ := inMemory
    rw [((presentIff found).mpr foundPresent).pageView, foundPresent.pageView,
      sound.physicalMemory_setPage present elsewhere foundPresent]
  · rw [pageView_of_not_present (fun found foundPresent =>
        inMemory ⟨found, (presentIff found).mp foundPresent⟩),
      pageView_of_not_present (fun found foundPresent => inMemory ⟨found, foundPresent⟩)]
    rfl

end Transfer

section Access

/-- Overwriting a range of one page overwrites the same range of the flat store. -/
theorem Sound.view_setPage (sound : Sound scope none mm) (present : mm.Present fileTag number entry)
    {offset : Nat} {data : List UInt8} (fits : offset + data.length ≤ config.pageSize) :
    (mm.setPage fileTag number entry
      (patchPage (mm.pageView fileTag number) offset data) true).view =
        FlatStore.overwrite mm.view fileTag (number * config.pageSize + offset) data := by
  funext other address
  have split := Nat.div_add_mod' address config.pageSize
  have below := Nat.mod_lt address config.pageSize_pos
  by_cases here : other = fileTag ∧ address / config.pageSize = number
  · obtain ⟨rfl, rfl⟩ := here
    unfold view FlatStore.overwrite
    rw [pageView_setPage present]
    have startLe : address / config.pageSize * config.pageSize + offset ≤ address ↔
        offset ≤ address % config.pageSize := by omega
    have index : address - (address / config.pageSize * config.pageSize + offset) =
        address % config.pageSize - offset := by omega
    simp only [patchPage, Vector.get, Vector.toArray_ofFn, Array.getElem_ofFn, startLe,
      index, true_and]
    rfl
  · have unchanged : FlatStore.overwrite mm.view fileTag (number * config.pageSize + offset)
        data other address = mm.view other address := by
      unfold FlatStore.overwrite
      split
      · rename_i inside
        have apart : number < address / config.pageSize := by
          have notHere : address / config.pageSize ≠ number := fun same => here ⟨inside.1, same⟩
          have notBefore : number ≤ address / config.pageSize := by
            rw [Nat.le_div_iff_mul_le config.pageSize_pos]
            omega
          omega
        have next : (number + 1) * config.pageSize ≤ address / config.pageSize * config.pageSize :=
          Nat.mul_le_mul_right _ apart
        rw [Nat.succ_mul] at next
        rw [List.getD_eq_getElem?_getD, List.getElem?_eq_none (by omega), Option.getD_none]
      · rfl
    rw [unchanged]
    unfold view
    rw [sound.pageView_setPage_of_ne present here]

theorem pageChunk_eq_range {offset count : Nat} (fits : offset + count ≤ config.pageSize) :
    pageChunk (mm.pageView fileTag number) offset count =
      FlatStore.range mm.view fileTag (number * config.pageSize + offset) count := by
  apply List.ext_getElem
  · simp [pageChunk, FlatStore.range]
    omega
  · intro index inChunk inRange
    have indexLt : index < count := by simpa [FlatStore.range] using inRange
    have page : (number * config.pageSize + offset + index) / config.pageSize = number := by
      rw [Nat.add_assoc, Nat.mul_comm, Nat.mul_add_div config.pageSize_pos,
        Nat.div_eq_of_lt (by omega), Nat.add_zero]
    have position : (number * config.pageSize + offset + index) % config.pageSize =
        offset + index := by
      rw [Nat.add_assoc, Nat.mul_add_mod_self_right, Nat.mod_eq_of_lt (by omega)]
    simp [pageChunk, FlatStore.range, view, page, position, Vector.get]

theorem Sound.accessPage (sound : Sound scope none mm) (numberLt : number < 2 ^ 32)
    (access : mm.ensurePresent faults fileTag number = (true, after)) :
    Kept scope none mm (after.mmUpdatePageAccess fileTag number) ∧ number + 1 < 2 ^ 32 ∧
      ∃ found, (after.mmUpdatePageAccess fileTag number).Present fileTag number found ∧
        ((after.page fileTag number).map PageEntry.frame).getD 0 = found.frame := by
  obtain ⟨kept, isPresent⟩ := sound.ensurePresent numberLt access
  obtain ⟨old, oldPresent⟩ := isPresent rfl
  have accessed := Unmoved.mmUpdatePageAccess after fileTag number
  obtain ⟨found, present, coreEq⟩ := accessed.present_after oldPresent
  refine ⟨kept.trans (Kept.of_unmoved kept.sound accessed),
    (kept.sound.pageNumber _ _ old oldPresent.held).2, found, present, ?_⟩
  rw [oldPresent.held, Option.map_some, Option.getD_some]
  exact (core_eq_iff.mp coreEq).2.1.symm

theorem next_start (number : Nat) {offset : Nat} {buffer : List UInt8}
    (offsetLt : offset < config.pageSize)
    (more : buffer.drop (min (config.pageSize - offset) buffer.length) ≠ []) :
    (number + 1) * config.pageSize + 0 =
      number * config.pageSize + offset +
        (buffer.take (min (config.pageSize - offset) buffer.length)).length := by
  have longer : config.pageSize - offset < buffer.length := by
    by_contra short
    exact more (List.drop_eq_nil_of_le (by omega))
  rw [List.length_take, Nat.min_eq_left (Nat.le_of_lt longer), Nat.min_eq_left (by omega),
    Nat.succ_mul]
  omega

/-- A write overwrites its whole range or, when it fails, the beginning of it. -/
theorem Sound.accessLoop_write (sound : Sound scope none mm) {steps offset : Nat}
    {buffer rest : List UInt8} (notSpared : fileTag ∉ scope.spared) (numberLt : number < 2 ^ 32)
    (offsetLt : offset < config.pageSize) (enough : buffer.length ≤ steps) {done : Bool}
    (loop : accessLoop faults fileTag true steps number offset buffer mm =
      (done, rest, after)) :
    Sound scope none after ∧
      (∀ other ∈ scope.spared, after.storage other = mm.storage other) ∧
      ∃ written, (done = true → written = buffer.length) ∧ ∀ other ∈ scope.coherent,
        after.view other = FlatStore.overwrite mm.view fileTag
          (number * config.pageSize + offset) (buffer.take written) other := by
  induction steps generalizing mm number offset buffer rest with
  | zero =>
      obtain rfl : buffer = [] := List.eq_nil_of_length_eq_zero (by omega)
      obtain ⟨_, _, rfl⟩ : _ ∧ _ ∧ mm = after := by simpa [accessLoop] using loop
      exact ⟨sound, fun _ _ => rfl, 0, by simp, by simp⟩
  | succ steps ih =>
      rw [accessLoop] at loop
      split at loop
      · rename_i empty
        obtain rfl := List.isEmpty_iff.mp empty
        obtain ⟨_, _, rfl⟩ : _ ∧ _ ∧ mm = after := by simpa using loop
        exact ⟨sound, fun _ _ => rfl, 0, by simp, by simp⟩
      · rename_i nonempty
        split at loop
        · rename_i failed access
          obtain ⟨rfl, _, rfl⟩ : _ ∧ _ ∧ failed = after := by simpa using loop
          obtain ⟨kept, _⟩ := sound.ensurePresent numberLt access
          exact ⟨kept.sound, kept.stored, 0, by simp, fun other tracked => by
            simpa using kept.invisible.view tracked⟩
        · rename_i ready access
          obtain ⟨kept, nextLt, found, present, frameEq⟩ := sound.accessPage numberLt access
          have positive : 0 < buffer.length :=
            List.length_pos_iff.mpr (by simpa using nonempty)
          simp only [frameEq, if_true, Nat.mod_eq_of_lt nextLt] at loop
          rw [← present.pageView] at loop
          set count := min (config.pageSize - offset) buffer.length with countEq
          set accessed := ready.mmUpdatePageAccess fileTag number
          have fits : offset + (buffer.take count).length ≤ config.pageSize := by
            rw [List.length_take]
            omega
          have stored : Sound scope none (accessed.setPage fileTag number found
              (patchPage (accessed.pageView fileTag number) offset (buffer.take count)) true) :=
            kept.sound.setPage present (by simp) fun _ => notSpared
          have storedView := kept.sound.view_setPage present fits
          obtain ⟨⟨laterDone, laterRest, last⟩, later⟩ :
              ∃ outcome, accessLoop faults fileTag true steps (number + 1) 0
                (buffer.drop count) (accessed.setPage fileTag number found
                  (patchPage (accessed.pageView fileTag number) offset (buffer.take count))
                  true) = outcome := ⟨_, rfl⟩
          change (fun rest : _ × _ × _ => (rest.1, buffer.take count ++ rest.2.1, rest.2.2))
            (accessLoop faults fileTag true steps (number + 1) 0 (buffer.drop count)
              (accessed.setPage fileTag number found
                (patchPage (accessed.pageView fileTag number) offset (buffer.take count))
                true)) = _ at loop
          rw [later] at loop
          obtain ⟨rfl, _, rfl⟩ : laterDone = done ∧ _ ∧ last = after := by simpa using loop
          obtain ⟨lastSound, lastStored, written, whole, lastView⟩ :=
            ih stored nextLt config.pageSize_pos (by simp; omega) later
          refine ⟨lastSound, ?_, count + written, ?_, ?_⟩
          · exact fun other isSpared =>
              (lastStored other isSpared).trans (kept.stored other isSpared)
          · intro ended
            rw [whole ended, List.length_drop]
            omega
          · intro other tracked
            have storedHere := (congrFun storedView other).trans
              (FlatStore.overwrite_congr (kept.invisible.view tracked))
            rw [lastView other tracked, FlatStore.overwrite_congr storedHere, List.take_add]
            by_cases more : buffer.drop count = []
            · simp [more]
            · rw [next_start number offsetLt more, FlatStore.overwrite_append]

/-- A read changes no view and, when it succeeds, returns the view of its range. -/
theorem Sound.accessLoop_read (sound : Sound scope none mm) {steps offset : Nat}
    {buffer result : List UInt8} (numberLt : number < 2 ^ 32)
    (offsetLt : offset < config.pageSize) (enough : buffer.length ≤ steps) {done : Bool}
    (loop : accessLoop faults fileTag false steps number offset buffer mm =
      (done, result, after)) :
    Kept scope none mm after ∧ (fileTag ∈ scope.coherent → done = true → result =
      FlatStore.range mm.view fileTag (number * config.pageSize + offset) buffer.length) := by
  induction steps generalizing mm number offset buffer result with
  | zero =>
      obtain rfl : buffer = [] := List.eq_nil_of_length_eq_zero (by omega)
      obtain ⟨_, rfl, rfl⟩ : _ ∧ [] = result ∧ mm = after := by simpa [accessLoop] using loop
      exact ⟨Kept.of_unmoved sound (Unmoved.refl mm), fun _ _ => rfl⟩
  | succ steps ih =>
      rw [accessLoop] at loop
      split at loop
      · rename_i empty
        obtain rfl := List.isEmpty_iff.mp empty
        obtain ⟨_, rfl, rfl⟩ : _ ∧ [] = result ∧ mm = after := by simpa using loop
        exact ⟨Kept.of_unmoved sound (Unmoved.refl mm), fun _ _ => rfl⟩
      · rename_i nonempty
        split at loop
        · rename_i failed access
          obtain ⟨rfl, _, rfl⟩ : _ ∧ _ ∧ failed = after := by simpa using loop
          exact ⟨(sound.ensurePresent numberLt access).1, by simp⟩
        · rename_i ready access
          obtain ⟨kept, nextLt, found, present, frameEq⟩ := sound.accessPage numberLt access
          have positive : 0 < buffer.length :=
            List.length_pos_iff.mpr (by simpa using nonempty)
          simp only [frameEq, Bool.false_eq_true, if_false, Nat.mod_eq_of_lt nextLt] at loop
          rw [← present.pageView] at loop
          set count := min (config.pageSize - offset) buffer.length with countEq
          set accessed := ready.mmUpdatePageAccess fileTag number
          obtain ⟨⟨laterDone, laterResult, last⟩, later⟩ :
              ∃ outcome, accessLoop faults fileTag false steps (number + 1) 0
                (buffer.drop count) accessed = outcome := ⟨_, rfl⟩
          rw [later] at loop
          obtain ⟨rfl, rfl, rfl⟩ : laterDone = done ∧
              pageChunk (accessed.pageView fileTag number) offset count ++ laterResult = result ∧
              last = after := by simpa using loop
          obtain ⟨lastKept, whole⟩ :=
            ih kept.sound nextLt config.pageSize_pos (by simp; omega) later
          refine ⟨kept.trans lastKept, fun tracked ended => ?_⟩
          have sameView := kept.invisible.view tracked
          rw [whole tracked ended, pageChunk_eq_range (by omega),
            FlatStore.range_congr sameView, FlatStore.range_congr sameView]
          by_cases more : buffer.drop count = []
          · have short : buffer.length ≤ count := List.drop_eq_nil_iff.mp more
            rw [more, show count = buffer.length by omega]
            simp [FlatStore.range]
          · have start := next_start number offsetLt more
            rw [List.length_take] at start
            rw [start, List.length_drop, show min count buffer.length = count by omega,
              FlatStore.range_append, show count + (buffer.length - count) = buffer.length by omega]

end Access

section Flush

/-- The pages listed as present are still mapped to the frames listed. -/
def StillMapped (mm : MemoryManager config) (fileTag : FileTag)
    (entries : List PageEntry) : Prop :=
  ∀ listed ∈ entries, listed.present = true →
    ∃ current, mm.Present fileTag listed.pageNumber current ∧ current.frame = listed.frame

theorem Sound.stillMapped_dirtyEntries (sound : Sound scope none mm) {table : List PageEntry}
    (found : mm.findPageTable fileTag = some table) :
    StillMapped mm fileTag (dirtyEntries table) := by
  intro listed member isPresent
  obtain ⟨number, held⟩ := List.mem_iff_getElem?.mp (List.mem_filter.mp member).1
  have page : mm.page fileTag number = some listed := by
    simpa [MemoryManager.page, found] using held
  rw [(sound.pageNumber fileTag number listed page).1]
  exact ⟨listed, ⟨page, isPresent⟩, rfl⟩

theorem Sound.cleanPage (sound : Sound scope none mm) (present : mm.Present fileTag number entry)
    (written : mm.physicalMemory entry.frame = mm.storage fileTag number) :
    Kept scope none mm (mm.ptSetDirty fileTag number false) := by
  have same : mm.ptSetDirty fileTag number false =
      mm.setPage fileTag number entry (mm.physicalMemory entry.frame) false := by
    simp [MemoryManager.setPage, MemoryManager.loadFrame]
  rw [same]
  refine ⟨sound.setPage present (fun _ _ => written) (by simp), ?_, fun _ _ => rfl⟩
  intro other _ position
  by_cases here : other = fileTag ∧ position = number
  · obtain ⟨rfl, rfl⟩ := here
    rw [pageView_setPage present, present.pageView]
  · exact sound.pageView_setPage_of_ne present here

theorem StillMapped.ptSetDirty {entries : List PageEntry} {dirty : Bool}
    (mapped : StillMapped mm fileTag entries) (present : mm.Present fileTag number entry) :
    StillMapped (mm.ptSetDirty fileTag number dirty) fileTag entries := by
  intro listed member isPresent
  obtain ⟨current, currentPresent, frameEq⟩ := mapped listed member isPresent
  by_cases here : listed.pageNumber = number
  · obtain rfl := here
    obtain rfl : current = entry :=
      Option.some.inj (currentPresent.held.symm.trans present.held)
    exact ⟨_, (present_ptSetDirty present).mpr (Or.inl ⟨rfl, rfl, rfl⟩), frameEq⟩
  · exact ⟨current, (present_ptSetDirty present).mpr
      (Or.inr ⟨fun same => here same.2, currentPresent⟩), frameEq⟩

/-- What the write-back loop leaves dirty was dirty before and, when the loop
ends, was not listed. -/
def OnlyCleans (mm : MemoryManager config) (fileTag : FileTag) (entries : List PageEntry)
    (done : Bool) (after : MemoryManager config) : Prop :=
  ∀ other position found, after.page other position = some found → found.dirty = true →
    (∃ old, mm.page other position = some old ∧ old.dirty = true) ∧
      (done = true → other = fileTag → ∀ listed ∈ entries, listed.present = true →
        listed.pageNumber ≠ position)

theorem Sound.flushPages (sound : Sound scope none mm) {entries : List PageEntry}
    (notSpared : fileTag ∉ scope.spared) (mapped : StillMapped mm fileTag entries) {done : Bool}
    (flush : flushPages faults fileTag entries mm = (done, after)) :
    Kept scope none mm after ∧ OnlyCleans mm fileTag entries done after := by
  induction entries generalizing mm with
  | nil =>
      obtain ⟨rfl, rfl⟩ := Prod.mk.inj flush
      refine ⟨Kept.of_unmoved sound (Unmoved.refl mm), ?_⟩
      exact fun other position found held dirty => ⟨⟨found, held, dirty⟩, by simp⟩
  | cons listed rest ih =>
      have restMapped : StillMapped mm fileTag rest :=
        fun other member => mapped other (List.mem_cons_of_mem _ member)
      have stopped : OnlyCleans mm fileTag (listed :: rest) false mm :=
        fun other position found held dirty => ⟨⟨found, held, dirty⟩, by simp⟩
      rw [MemoryManager.flushPages] at flush
      split at flush
      · rename_i notPresent
        obtain ⟨kept, cleans⟩ := ih sound restMapped flush
        refine ⟨kept, fun other position found held dirty => ?_⟩
        obtain ⟨old, unlisted⟩ := cleans other position found held dirty
        refine ⟨old, fun ended same entry member isPresent => ?_⟩
        rcases List.mem_cons.mp member with rfl | later
        · simp [isPresent] at notPresent
        · exact unlisted ended same entry later isPresent
      · rename_i isPresent
        obtain ⟨current, present, frameEq⟩ :=
          mapped listed (by simp) (by simpa using isPresent)
        rw [← frameEq] at flush
        split at flush
        · obtain ⟨rfl, rfl⟩ := Prod.mk.inj flush
          exact ⟨Kept.of_unmoved sound (Unmoved.refl mm), stopped⟩
        · split at flush
          · rename_i failed wrote
            obtain ⟨rfl, rfl⟩ := Prod.mk.inj flush
            refine ⟨Kept.of_unmoved sound (writeBlockToStorage_failed wrote), ?_⟩
            intro other position found held
            rw [page_of_entries (entries_of_writeBlockToStorage wrote)] at held
            exact stopped other position found held
          · rename_i written wrote
            obtain ⟨kept, presentAfter, stored⟩ := sound.writeBlockToStorage present notSpared wrote
            have cleaned := kept.sound.cleanPage presentAfter stored
            have pageEq := page_of_entries (entries_of_writeBlockToStorage wrote)
            have writtenMapped : StillMapped written fileTag rest := by
              intro entry member entryPresent
              obtain ⟨old, oldPresent, oldFrame⟩ := restMapped entry member entryPresent
              exact ⟨old, oldPresent.of_entries (entries_of_writeBlockToStorage wrote), oldFrame⟩
            obtain ⟨restKept, cleans⟩ :=
              ih cleaned.sound (writtenMapped.ptSetDirty presentAfter) flush
            refine ⟨(kept.trans cleaned).trans restKept, ?_⟩
            intro other position found held dirty
            obtain ⟨⟨old, oldHeld, oldDirty⟩, unlisted⟩ :=
              cleans other position found held dirty
            rw [ptSetDirty, page_modifyPage, pageEq] at oldHeld
            split at oldHeld
            · obtain ⟨unmarked, _, rfl⟩ := Option.map_eq_some_iff.mp oldHeld
              simp at oldDirty
            · rename_i elsewhere
              refine ⟨⟨old, oldHeld, oldDirty⟩, fun ended same entry member entryPresent => ?_⟩
              rcases List.mem_cons.mp member with rfl | later
              · exact fun samePage => elsewhere ⟨same, samePage.symm⟩
              · exact unlisted ended same entry later entryPresent

/-- The loop over one table leaves no page of it dirty when it ends, and makes none
dirty. -/
theorem Sound.flushTable (sound : Sound scope none mm) {done : Bool}
    (flush : MemoryManager.flushPages faults fileTag
      (dirtyEntries ((mm.findPageTable fileTag).getD [])) mm = (done, after)) :
    Kept scope none mm after ∧ ∀ other position found,
      after.page other position = some found → found.dirty = true →
        (∃ old, mm.page other position = some old ∧ old.dirty = true) ∧
          (done = true → other ≠ fileTag) := by
  by_cases isSpared : fileTag ∈ scope.spared
  · have nothing : dirtyEntries ((mm.findPageTable fileTag).getD []) = [] := by
      refine List.filter_eq_nil_iff.mpr fun entry member => ?_
      obtain ⟨number, held⟩ := List.mem_iff_getElem?.mp member
      rw [← page_eq_getElem?] at held
      simp [sound.spared fileTag isSpared number entry held]
    rw [nothing] at flush
    obtain ⟨rfl, rfl⟩ := Prod.mk.inj flush
    refine ⟨Kept.of_unmoved sound (Unmoved.refl mm), ?_⟩
    intro other position found held dirty
    refine ⟨⟨found, held, dirty⟩, fun _ same => ?_⟩
    rw [same] at held
    simp [sound.spared fileTag isSpared position found held] at dirty
  · have mapped : StillMapped mm fileTag
        (dirtyEntries ((mm.findPageTable fileTag).getD [])) := by
      cases found : mm.findPageTable fileTag with
      | none => simp [StillMapped, dirtyEntries]
      | some table => exact sound.stillMapped_dirtyEntries found
    obtain ⟨kept, cleans⟩ := sound.flushPages isSpared mapped flush
    refine ⟨kept, fun other position found held dirty => ?_⟩
    obtain ⟨⟨old, oldHeld, oldDirty⟩, unlisted⟩ := cleans other position found held dirty
    refine ⟨⟨old, oldHeld, oldDirty⟩, fun ended same => ?_⟩
    subst same
    have inTable := oldHeld
    rw [page_eq_getElem?] at inTable
    have listed : old ∈ dirtyEntries ((mm.findPageTable other).getD []) :=
      List.mem_filter.mpr ⟨List.mem_of_getElem? inTable, oldDirty⟩
    exact unlisted ended rfl old listed
      (sound.dirty_present other position old oldHeld oldDirty)
      (sound.pageNumber other position old oldHeld).1

/-- Storage has what a File:Tag without dirty pages looked like before. -/
theorem Kept.storage_eq (kept : Kept scope none mm after) (tracked : fileTag ∈ scope.coherent)
    (clean : ∀ number entry, after.page fileTag number = some entry → entry.dirty = false)
    (number : Nat) : after.storage fileTag number = mm.pageView fileTag number := by
  rw [← kept.invisible fileTag tracked number]
  by_cases inMemory : ∃ entry, after.Present fileTag number entry
  · obtain ⟨entry, present⟩ := inMemory
    rw [present.pageView]
    exact (kept.sound.clean fileTag tracked number entry present
      (clean number entry present.held)).symm
  · exact (pageView_of_not_present fun entry present => inMemory ⟨entry, present⟩).symm

/-- A flush changes no view, and a successful one leaves the whole File:Tag in
Storage. -/
theorem Sound.mmFlushQuery (sound : Sound scope none mm) {done : Bool}
    (flush : mm.mmFlushQuery faults fileTag = (done, after)) :
    Kept scope none mm after ∧ (fileTag ∈ scope.coherent → done = true →
      ∀ number, after.storage fileTag number = mm.pageView fileTag number) := by
  unfold MemoryManager.mmFlushQuery at flush
  split at flush
  · obtain ⟨rfl, rfl⟩ := Prod.mk.inj flush
    exact ⟨Kept.of_unmoved sound (Unmoved.refl mm), by simp⟩
  · split at flush
    · rename_i missing
      obtain ⟨rfl, rfl⟩ := Prod.mk.inj flush
      have kept := Kept.of_unmoved sound (Unmoved.refl mm)
      refine ⟨kept, fun tracked _ => kept.storage_eq tracked fun number entry held => ?_⟩
      simp [page, missing] at held
    · rename_i table found
      have asTable : dirtyEntries table =
          dirtyEntries ((mm.findPageTable fileTag).getD []) := by simp [found]
      rw [asTable] at flush
      obtain ⟨kept, cleans⟩ := sound.flushTable flush
      refine ⟨kept, fun tracked ended => kept.storage_eq tracked fun number entry held => ?_⟩
      by_contra stillDirty
      exact (cleans fileTag number entry held (by simpa using stillDirty)).2 ended rfl

/-- The loop over the tables makes no page dirty and, when it ends, leaves none of
theirs dirty. -/
theorem Sound.flushTables (sound : Sound scope none mm) {fileTags : List FileTag} {done : Bool}
    (flush : flushTables faults fileTags mm = (done, after)) :
    Kept scope none mm after ∧ ∀ other position found,
      after.page other position = some found → found.dirty = true →
        (∃ old, mm.page other position = some old ∧ old.dirty = true) ∧
          (done = true → other ∉ fileTags) := by
  induction fileTags generalizing mm with
  | nil =>
      obtain ⟨rfl, rfl⟩ := Prod.mk.inj flush
      refine ⟨Kept.of_unmoved sound (Unmoved.refl mm), ?_⟩
      exact fun other position found held dirty => ⟨⟨found, held, dirty⟩, by simp⟩
  | cons fileTag rest ih =>
      rw [MemoryManager.flushTables] at flush
      split at flush
      · rename_i failed pages
        obtain ⟨rfl, rfl⟩ := Prod.mk.inj flush
        obtain ⟨kept, cleans⟩ := sound.flushTable pages
        refine ⟨kept, fun other position found held dirty => ?_⟩
        exact ⟨(cleans other position found held dirty).1, by simp⟩
      · rename_i flushed pages
        obtain ⟨kept, cleans⟩ := sound.flushTable pages
        obtain ⟨restKept, restCleans⟩ := ih kept.sound flush
        refine ⟨kept.trans restKept, fun other position found held dirty => ?_⟩
        obtain ⟨⟨old, oldHeld, oldDirty⟩, unlisted⟩ :=
          restCleans other position found held dirty
        obtain ⟨oldest, notFirst⟩ := cleans other position old oldHeld oldDirty
        refine ⟨oldest, fun ended member => ?_⟩
        rcases List.mem_cons.mp member with same | later
        · exact notFirst rfl same
        · exact unlisted ended later

end Flush

section Calls

theorem Sound.mmReadFromMemory (sound : Sound scope none mm) {baseAddress : UInt32} {size : Nat}
    {done : Bool} {result : List UInt8}
    (access : mm.mmReadFromMemory faults fileTag baseAddress size = (done, result, after)) :
    Kept scope none mm after ∧ (fileTag ∈ scope.coherent → done = true →
      result = FlatStore.range mm.view fileTag baseAddress.toNat size) := by
  unfold MemoryManager.mmReadFromMemory mmAccessMemory at access
  split at access
  · obtain ⟨rfl, _, rfl⟩ : _ ∧ _ ∧ mm = after := by simpa using access
    exact ⟨Kept.of_unmoved sound (Unmoved.refl mm), by simp⟩
  · have pageLt : baseAddress.toNat / config.pageSize < 2 ^ 32 :=
      (Nat.div_le_self _ _).trans_lt baseAddress.toNat_lt
    have loop := sound.accessLoop_read pageLt (Nat.mod_lt _ config.pageSize_pos)
      (Nat.le_refl _) access
    rw [Nat.div_add_mod', List.length_replicate] at loop
    exact loop

theorem Sound.mmWriteToMemory (sound : Sound scope none mm) {baseAddress : UInt32}
    {data : List UInt8} {done : Bool} (notSpared : fileTag ∉ scope.spared)
    (access : mm.mmWriteToMemory faults fileTag baseAddress data = (done, after)) :
    Sound scope none after ∧
      (∀ other ∈ scope.spared, after.storage other = mm.storage other) ∧
      ∃ written, (done = true → written = data.length) ∧
      ∀ other ∈ scope.coherent, after.view other =
        FlatStore.overwrite mm.view fileTag baseAddress.toNat (data.take written) other := by
  unfold MemoryManager.mmWriteToMemory at access
  split at access
  rename_i reached result final memory
  obtain ⟨rfl, rfl⟩ := Prod.mk.inj access
  unfold mmAccessMemory at memory
  split at memory
  · obtain ⟨rfl, _, rfl⟩ : _ ∧ _ ∧ mm = final := by simpa using memory
    exact ⟨sound, fun _ _ => rfl, 0, by simp, by simp⟩
  · have pageLt : baseAddress.toNat / config.pageSize < 2 ^ 32 :=
      (Nat.div_le_self _ _).trans_lt baseAddress.toNat_lt
    have loop := sound.accessLoop_write notSpared pageLt (Nat.mod_lt _ config.pageSize_pos)
      (Nat.le_refl _) memory
    rw [Nat.div_add_mod'] at loop
    exact loop

/-- A flush of everything changes no view and makes no page dirty; a successful one
leaves no page dirty. -/
theorem Sound.mmFlushAllDirty (sound : Sound scope none mm) {done : Bool}
    (flush : mm.mmFlushAllDirty faults = (done, after)) :
    Kept scope none mm after ∧ (done = true → ∀ fileTag number entry,
      after.page fileTag number = some entry → entry.dirty = false) := by
  unfold MemoryManager.mmFlushAllDirty at flush
  split at flush
  · obtain ⟨rfl, rfl⟩ := Prod.mk.inj flush
    exact ⟨Kept.of_unmoved sound (Unmoved.refl mm), by simp⟩
  · obtain ⟨kept, cleans⟩ := sound.flushTables flush
    refine ⟨kept, fun ended fileTag number entry held => ?_⟩
    by_contra stillDirty
    obtain ⟨⟨old, oldHeld, _⟩, unlisted⟩ :=
      cleans fileTag number entry held (by simpa using stillDirty)
    obtain ⟨table, found, _⟩ := Option.bind_eq_some_iff.mp oldHeld
    exact unlisted ended (List.mem_map.mpr ⟨_, mem_of_findPageTable found, rfl⟩)

end Calls

section Runs

/-- The calls that make a page table, access bytes, and write dirty pages back.  Those that drop
pages, for DELETE and TRUNCATE, are not among them. -/
inductive MemoryCall
  | createPageTable (fileTag : FileTag)
  | read (fileTag : FileTag) (baseAddress : UInt32) (size : Nat)
  | write (fileTag : FileTag) (baseAddress : UInt32) (data : List UInt8)
  | flushQuery (fileTag : FileTag)
  | flushAllDirty

def perform (faults : StorageFaults) (mm : MemoryManager config) :
    MemoryCall → MemoryManager config
  | .createPageTable fileTag => mm.mmCreatePageTable fileTag
  | .read fileTag baseAddress size => (mm.mmReadFromMemory faults fileTag baseAddress size).2.2
  | .write fileTag baseAddress data => (mm.mmWriteToMemory faults fileTag baseAddress data).2
  | .flushQuery fileTag => (mm.mmFlushQuery faults fileTag).2
  | .flushAllDirty => (mm.mmFlushAllDirty faults).2

/-- A memory manager as `mm_create` returns it, over any Storage blocks. -/
def Created (mm : MemoryManager config) : Prop :=
  mm.entries = [] ∧ (∀ frame, mm.used frame = false) ∧ mm.clockPointer = 0

/-- Runs of calls, with any pattern of failing Storage requests. -/
def memorySystem (config : MemoryConfig) :
    TransitionSystem (MemoryManager config) MemoryCall where
  initial := Created
  step before call after := ∃ faults, after = before.perform faults call

theorem Created.sound (created : Created mm) : Sound .whole none mm := by
  obtain ⟨noEntries, unused, clock⟩ := created
  have absent : ∀ fileTag number, mm.page fileTag number = none := by
    simp [page, findPageTable, noEntries]
  refine ⟨?_, ?_, ?_, ?_, by simp [Scope.whole], ?_, ?_, ?_, by simp,
    by simp [Scope.whole], ?_⟩
  · simp [noEntries]
  · simp [absent]
  · simp [absent]
  · exact fun fileTag _ number entry present => by simpa [absent] using present.held
  · exact fun fileTag number entry present => by simpa [absent] using present.held
  · exact fun fileTag number entry _ _ _ present => by simpa [absent] using present.held
  · intro frame _
    simp only [unused, Bool.false_eq_true, reduceCtorEq, Scope.whole, Set.mem_empty_iff_false,
      false_or, false_iff]
    rintro ⟨fileTag, number, entry, present, _⟩
    simpa [absent] using present.held
  · rw [clock]
    exact id

theorem Sound.perform (sound : Sound .whole none mm) (faults : StorageFaults)
    (call : MemoryCall) : Sound .whole none (mm.perform faults call) := by
  cases call with
  | createPageTable fileTag => exact (Unmoved.mmCreatePageTable mm fileTag).sound sound
  | read fileTag baseAddress size => exact (sound.mmReadFromMemory rfl).1.sound
  | write fileTag baseAddress data =>
      exact (sound.mmWriteToMemory (by simp [Scope.whole]) rfl).1
  | flushQuery fileTag => exact (sound.mmFlushQuery rfl).1.sound
  | flushAllDirty => exact (sound.mmFlushAllDirty rfl).1.sound

theorem sound_of_reachable (reachable : (memorySystem config).Reachable mm) :
    Sound .whole none mm := by
  refine reachable.invariant (fun _ => Created.sound) ?_
  rintro before call after sound ⟨faults, rfl⟩
  exact sound.perform faults call

/-- What a query can see of a memory manager: a flat store that only successful
and interrupted writes change. -/
structure SeesFlatStore (mm : MemoryManager config) (faults : StorageFaults)
    (fileTag : FileTag) : Prop where
  clean : ∀ number entry, mm.page fileTag number = some entry → entry.present = true →
    entry.dirty = false → mm.physicalMemory entry.frame = mm.storage fileTag number
  createPageTable : (mm.mmCreatePageTable fileTag).view = mm.view
  allocateFrame : (mm.mmAllocateFrame faults).2.view = mm.view
  pageFault : ∀ number < 2 ^ 32, (mm.page fileTag number).any PageEntry.present = false →
    (mm.mmHandlePageFault faults fileTag number).2.view = mm.view
  read : ∀ baseAddress size,
    (mm.mmReadFromMemory faults fileTag baseAddress size).2.2.view = mm.view ∧
      ((mm.mmReadFromMemory faults fileTag baseAddress size).1 = true →
        (mm.mmReadFromMemory faults fileTag baseAddress size).2.1 =
          FlatStore.range mm.view fileTag baseAddress.toNat size)
  write : ∀ baseAddress data,
    (mm.mmWriteToMemory faults fileTag baseAddress data).1 = true →
      (mm.mmWriteToMemory faults fileTag baseAddress data).2.view =
        FlatStore.overwrite mm.view fileTag baseAddress.toNat data
  failedWrite : ∀ baseAddress data,
    (mm.mmWriteToMemory faults fileTag baseAddress data).1 = false →
      ∃ written, (mm.mmWriteToMemory faults fileTag baseAddress data).2.view =
        FlatStore.overwrite mm.view fileTag baseAddress.toNat (data.take written)
  flushQuery : (mm.mmFlushQuery faults fileTag).2.view = mm.view ∧
    ((mm.mmFlushQuery faults fileTag).1 = true → ∀ number,
      (mm.mmFlushQuery faults fileTag).2.storage fileTag number = mm.pageView fileTag number)
  flushAllDirty : (mm.mmFlushAllDirty faults).2.view = mm.view

/-- Paging is invisible to queries: after any calls, and whichever Storage
requests have failed or will fail, a File:Tag behaves as a flat store. -/
theorem reachable_seesFlatStore (reachable : (memorySystem config).Reachable mm)
    (faults : StorageFaults) (fileTag : FileTag) : SeesFlatStore mm faults fileTag := by
  have sound := sound_of_reachable reachable
  refine ⟨?_, ?_, ?_, ?_, ?_, ?_, ?_, ?_, ?_⟩
  · exact fun number entry held present =>
      sound.clean fileTag (Scope.mem_whole fileTag) number entry ⟨held, present⟩
  · exact ((Unmoved.mmCreatePageTable mm fileTag).invisible _).wholeView
  · exact (sound.mmAllocateFrame rfl).1.invisible.wholeView
  · intro number numberLt absent
    refine (sound.mmHandlePageFault numberLt ?_ rfl).1.invisible.wholeView
    intro found present
    simp [present.held, present.present] at absent
  · intro baseAddress size
    obtain ⟨kept, result⟩ := sound.mmReadFromMemory rfl
    exact ⟨kept.invisible.wholeView, result (Scope.mem_whole fileTag)⟩
  · intro baseAddress data done
    cases access : mm.mmWriteToMemory faults fileTag baseAddress data with
    | mk reached final =>
        rw [access] at done
        obtain ⟨_, _, written, whole, view⟩ :=
          sound.mmWriteToMemory (by simp [Scope.whole]) access
        rw [whole done, List.take_length] at view
        exact funext fun other => view other (Scope.mem_whole other)
  · intro baseAddress data _
    cases access : mm.mmWriteToMemory faults fileTag baseAddress data with
    | mk reached final =>
        obtain ⟨_, _, written, _, view⟩ :=
          sound.mmWriteToMemory (by simp [Scope.whole]) access
        exact ⟨written, funext fun other => view other (Scope.mem_whole other)⟩
  · obtain ⟨kept, stored⟩ := sound.mmFlushQuery rfl
    exact ⟨kept.invisible.wholeView, stored (Scope.mem_whole fileTag)⟩
  · exact (sound.mmFlushAllDirty rfl).1.invisible.wholeView

/-- Two bytes a page and a single frame. -/
def oneFrameConfig : MemoryConfig where
  pageSize := 2
  frameCount := 1
  policy := .clockM
  pageSize_pos := Nat.two_pos
  pageSize_lt := MemoryConfig.two_bytes
  frameCount_lt := by decide

def emptyMemory : MemoryManager oneFrameConfig where
  entries := []
  used _ := false
  clockPointer := 0
  physicalMemory _ := Vector.replicate 2 0
  globalTimestamp := 0
  connected := true
  storage _ _ := Vector.replicate 2 0
  requests := 0

/-- A write over two pages, the second of which evicts the first. -/
def crossingWrite : MemoryManager oneFrameConfig :=
  (emptyMemory.perform (fun _ => false) (.createPageTable ⟨"MATERIAS", "BASE"⟩)).perform
    (fun _ => false) (.write ⟨"MATERIAS", "BASE"⟩ 1 [65, 66])

theorem read_after_crossingWrite :
    (crossingWrite.mmReadFromMemory (fun _ => false) ⟨"MATERIAS", "BASE"⟩ 0 4).2.1 =
      [0, 65, 66, 0] := by
  have created : (memorySystem oneFrameConfig).Reachable emptyMemory :=
    TransitionSystem.Reachable.start ⟨rfl, fun _ => rfl, rfl⟩
  have reachable : (memorySystem oneFrameConfig).Reachable crossingWrite :=
    (created.next ⟨fun _ => false, rfl⟩).next ⟨fun _ => false, rfl⟩
  have sees := reachable_seesFlatStore reachable (fun _ => false) ⟨"MATERIAS", "BASE"⟩
  rw [(sees.read 0 4).2 (by decide +kernel)]
  decide +kernel

end Runs

end MemoryManager

end Worker

end MasterOfFiles
