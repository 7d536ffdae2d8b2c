import MasterOfFiles.WorkerPaging

/-!
# Steps of the paging machinery

Write-back, eviction, allocation, loading and mapping, first one by one and
then as the replacement policies and the page fault put them together.  None of
them changes a page view, whether or not Storage answers.
-/

namespace MasterOfFiles

namespace Worker

namespace MemoryManager

variable {config : MemoryConfig} {mm after : MemoryManager config} {faults : StorageFaults}
  {fileTag : FileTag} {number : Nat} {entry : PageEntry} {scope : Scope}
  {reserved : Option Nat}

/-- A step that keeps the invariant, the page views of the coherent File:Tags and the
Storage blocks of the File:Tags without dirty pages. -/
structure Kept (scope : Scope) (reserved : Option Nat)
    (before after : MemoryManager config) : Prop where
  sound : Sound scope reserved after
  invisible : Invisible scope.coherent before after
  stored : ∀ fileTag ∈ scope.spared, after.storage fileTag = before.storage fileTag

theorem Kept.of_unmoved (sound : Sound scope reserved mm) (unmoved : Unmoved mm after) :
    Kept scope reserved mm after :=
  ⟨unmoved.sound sound, unmoved.invisible scope.coherent, fun _ _ => by rw [unmoved.storage]⟩

theorem Kept.trans {middle : MemoryManager config} {earlier : Option Nat}
    (first : Kept scope earlier mm middle) (second : Kept scope reserved middle after) :
    Kept scope reserved mm after :=
  ⟨second.sound, first.invisible.trans second.invisible, fun fileTag isSpared =>
    (second.stored fileTag isSpared).trans (first.stored fileTag isSpared)⟩

theorem present_modifyPage_of_ne {other : FileTag} {position : Nat} {found : PageEntry}
    {change : PageEntry → PageEntry} (elsewhere : ¬ (other = fileTag ∧ position = number)) :
    (mm.modifyPage fileTag number change).Present other position found ↔
      mm.Present other position found := by
  constructor
  · rintro ⟨held, present⟩
    rw [page_modifyPage, if_neg elsewhere] at held
    exact ⟨held, present⟩
  · rintro ⟨held, present⟩
    refine ⟨?_, present⟩
    rw [page_modifyPage, if_neg elsewhere]
    exact held

theorem page_modifyPage_self {change : PageEntry → PageEntry}
    (held : mm.page fileTag number = some entry) :
    (mm.modifyPage fileTag number change).page fileTag number = some (change entry) := by
  rw [page_modifyPage, if_pos ⟨rfl, rfl⟩, held, Option.map_some]

theorem pageView_modifyPage_of_ne {other : FileTag} {position : Nat}
    {change : PageEntry → PageEntry} (elsewhere : ¬ (other = fileTag ∧ position = number)) :
    (mm.modifyPage fileTag number change).pageView other position =
      mm.pageView other position := by
  unfold pageView
  rw [page_modifyPage, if_neg elsewhere]
  rfl

section WriteBack

theorem Sound.of_storage (sound : Sound scope reserved mm) (entriesEq : after.entries = mm.entries)
    (usedEq : after.used = mm.used) (memoryEq : after.physicalMemory = mm.physicalMemory)
    (clockEq : after.clockPointer = mm.clockPointer)
    (clean : ∀ other ∈ scope.coherent, ∀ position found, mm.Present other position found →
      found.dirty = false → mm.physicalMemory found.frame = after.storage other position) :
    Sound scope reserved after := by
  have back : ∀ {other position found}, after.Present other position found →
      mm.Present other position found :=
    fun present => present.of_entries entriesEq.symm
  have pageEq := page_of_entries entriesEq
  refine ⟨?_, ?_, ?_, ?_, ?_, ?_, ?_, ?_, sound.reserved_lt, ?_, ?_⟩
  · rw [entriesEq]
    exact sound.keys
  · rw [pageEq]
    exact sound.pageNumber
  · rw [pageEq]
    exact sound.dirty_present
  · intro other tracked position found present
    rw [memoryEq]
    exact clean other tracked position found (back present)
  · rw [pageEq]
    exact sound.spared
  · exact fun other position found present =>
      sound.frame_lt other position found (back present)
  · exact fun _ _ _ _ _ _ first second =>
      sound.frame_unique _ _ _ _ _ _ (back first) (back second)
  · intro frame frameLt
    rw [usedEq, sound.used_iff frame frameLt]
    refine or_congr_right ⟨?_, ?_⟩
    · rintro ⟨other, position, found, present, sameFrame⟩
      exact ⟨other, position, found, present.of_entries entriesEq, sameFrame⟩
    · rintro ⟨other, position, found, present, sameFrame⟩
      exact ⟨other, position, found, back present, sameFrame⟩
  · exact fun frame isHeld other position found present =>
      sound.unmapped frame isHeld other position found (back present)
  · rw [clockEq]
    exact sound.clock_lt

theorem writeBlockToStorage_failed
    (failed : mm.writeBlockToStorage faults fileTag number entry.frame = (false, after)) :
    Unmoved mm after := by
  unfold writeBlockToStorage at failed
  split at failed
  · obtain rfl := (Prod.mk.inj failed).2
    exact Unmoved.countRequest mm
  · simp at failed

theorem storage_storeFrame_of_ne {frame : Nat} {other : FileTag} {position : Nat}
    (elsewhere : ¬ (other = fileTag ∧ position = number)) :
    (mm.storeFrame fileTag number frame).storage other position =
      mm.storage other position := by
  unfold storeFrame
  by_cases same : other = fileTag
  · subst same
    have different : position ≠ number := fun equal => elsewhere ⟨rfl, equal⟩
    simp [different]
  · simp [same]

/-- Writing a present page back brings its Storage block up to date. -/
theorem Sound.writeBlockToStorage (sound : Sound scope reserved mm)
    (present : mm.Present fileTag number entry) (notSpared : fileTag ∉ scope.spared)
    (done : mm.writeBlockToStorage faults fileTag number entry.frame = (true, after)) :
    Kept scope reserved mm after ∧ after.Present fileTag number entry ∧
      after.physicalMemory entry.frame = after.storage fileTag number := by
  unfold MemoryManager.writeBlockToStorage at done
  split at done
  · simp at done
  · obtain rfl := (Prod.mk.inj done).2
    have presentAfter : (mm.storeFrame fileTag number entry.frame).Present fileTag number
        entry := present.of_entries rfl
    have stored : mm.physicalMemory entry.frame =
        (mm.storeFrame fileTag number entry.frame).storage fileTag number := by
      simp [storeFrame]
    refine ⟨⟨sound.of_storage rfl rfl rfl rfl ?_, ?_, ?_⟩, presentAfter, stored⟩
    · intro other tracked position found otherPresent clean
      by_cases here : other = fileTag ∧ position = number
      · obtain ⟨rfl, rfl⟩ := here
        obtain rfl : found = entry :=
          Option.some.inj (otherPresent.held.symm.trans present.held)
        exact stored
      · exact (sound.clean other tracked position found otherPresent clean).trans
          (storage_storeFrame_of_ne here).symm
    · intro other _ position
      by_cases here : other = fileTag ∧ position = number
      · obtain ⟨rfl, rfl⟩ := here
        rw [present.pageView, presentAfter.pageView]
        rfl
      · unfold pageView
        rw [storage_storeFrame_of_ne here]
        rfl
    · intro other isSpared
      have different : other ≠ fileTag := by
        rintro rfl
        exact notSpared isSpared
      simp [storeFrame, different]

end WriteBack

section Evict

theorem present_evict {frame : Nat} (held : mm.page fileTag number = some entry)
    {other : FileTag} {position : Nat} {found : PageEntry} :
    (mm.evict fileTag number frame).Present other position found ↔
      ¬ (other = fileTag ∧ position = number) ∧ mm.Present other position found := by
  by_cases here : other = fileTag ∧ position = number
  · obtain ⟨rfl, rfl⟩ := here
    constructor
    · rintro ⟨foundHeld, present⟩
      have foundEq := (page_modifyPage_self held).symm.trans foundHeld
      rw [← Option.some.inj foundEq] at present
      simp at present
    · rintro ⟨elsewhere, _⟩
      exact absurd ⟨rfl, rfl⟩ elsewhere
  · constructor
    · rintro ⟨foundHeld, present⟩
      exact ⟨here, (present_modifyPage_of_ne here).mp ⟨foundHeld, present⟩⟩
    · rintro ⟨_, present⟩
      obtain ⟨foundHeld, isPresent⟩ := (present_modifyPage_of_ne here).mpr present
      exact ⟨foundHeld, isPresent⟩

/-- A page whose Storage block is up to date can be evicted unseen. -/
theorem Sound.evict (sound : Sound scope none mm) (present : mm.Present fileTag number entry)
    (written : fileTag ∈ scope.coherent →
      mm.physicalMemory entry.frame = mm.storage fileTag number) :
    Kept scope none mm (mm.evict fileTag number entry.frame) ∧
      (mm.evict fileTag number entry.frame).used entry.frame = false := by
  have presentIff := @present_evict config mm fileTag number entry entry.frame present.held
  refine ⟨⟨⟨?_, ?_, ?_, ?_, ?_, ?_, ?_, ?_, ?_, ?_, sound.clock_lt⟩, ?_, fun _ _ => rfl⟩,
    by simp [MemoryManager.evict, setUsed]⟩
  · rw [MemoryManager.evict, setUsed, ptUnmap, MemoryManager.modifyPage, keys_modifyTable]
    exact sound.keys
  · intro other position found held
    change (mm.ptUnmap fileTag number).page other position = some found at held
    rw [ptUnmap, page_modifyPage] at held
    split at held
    · rename_i here
      obtain ⟨rfl, rfl⟩ := here
      rw [present.held, Option.map_some, Option.some.injEq] at held
      rw [← held]
      exact sound.pageNumber other position entry present.held
    · exact sound.pageNumber other position found held
  · intro other position found held dirty
    change (mm.ptUnmap fileTag number).page other position = some found at held
    rw [ptUnmap, page_modifyPage] at held
    split at held
    · rename_i here
      obtain ⟨rfl, rfl⟩ := here
      rw [present.held, Option.map_some, Option.some.injEq] at held
      rw [← held] at dirty
      simp at dirty
    · exact sound.dirty_present other position found held dirty
  · intro other tracked position found foundPresent
    exact sound.clean other tracked position found (presentIff.mp foundPresent).2
  · intro other isSpared position found held
    change (mm.ptUnmap fileTag number).page other position = some found at held
    rw [ptUnmap, page_modifyPage] at held
    split at held
    · obtain ⟨_, _, rfl⟩ := Option.map_eq_some_iff.mp held
      rfl
    · exact sound.spared other isSpared position found held
  · intro other position found foundPresent
    exact sound.frame_lt other position found (presentIff.mp foundPresent).2
  · intro firstTag firstNumber first secondTag secondNumber second firstPresent secondPresent
    exact sound.frame_unique firstTag firstNumber first secondTag secondNumber second
      (presentIff.mp firstPresent).2 (presentIff.mp secondPresent).2
  · intro frame frameLt
    by_cases same : frame = entry.frame
    · subst same
      have unmapped : ¬ ∃ other position found,
          (mm.evict fileTag number entry.frame).Present other position found ∧
            found.frame = entry.frame := by
        rintro ⟨other, position, found, foundPresent, sameFrame⟩
        obtain ⟨elsewhere, oldPresent⟩ := presentIff.mp foundPresent
        exact elsewhere (sound.frame_unique other position found fileTag number entry
          oldPresent present sameFrame)
      have notUsed : (mm.evict fileTag number entry.frame).used entry.frame = false := by
        simp [MemoryManager.evict, setUsed]
      have notLeaked : entry.frame ∉ scope.leaked := fun isLeaked =>
        sound.unmapped entry.frame (Or.inr isLeaked) fileTag number entry present rfl
      simp [notUsed, unmapped, notLeaked]
    · have usedEq : (mm.evict fileTag number entry.frame).used frame = mm.used frame := by
        simp [MemoryManager.evict, setUsed, ptUnmap, MemoryManager.modifyPage, modifyTable,
          same]
      rw [usedEq, sound.used_iff frame frameLt]
      refine or_congr_right ⟨?_, ?_⟩
      · rintro ⟨other, position, found, foundPresent, sameFrame⟩
        refine ⟨other, position, found, presentIff.mpr ⟨?_, foundPresent⟩, sameFrame⟩
        rintro ⟨rfl, rfl⟩
        obtain rfl : found = entry :=
          Option.some.inj (foundPresent.held.symm.trans present.held)
        exact same sameFrame.symm
      · rintro ⟨other, position, found, foundPresent, sameFrame⟩
        exact ⟨other, position, found, (presentIff.mp foundPresent).2, sameFrame⟩
  · simp
  · exact fun frame isHeld other position found foundPresent =>
      sound.unmapped frame isHeld other position found (presentIff.mp foundPresent).2
  · intro other tracked position
    by_cases here : other = fileTag ∧ position = number
    · obtain ⟨rfl, rfl⟩ := here
      have absent : ∀ found,
          ¬ (mm.evict other position entry.frame).Present other position found :=
        fun found foundPresent => (presentIff.mp foundPresent).1 ⟨rfl, rfl⟩
      rw [pageView_of_not_present absent, present.pageView, written tracked]
      rfl
    · exact pageView_modifyPage_of_ne here

end Evict

section Reserve

variable {frame : Nat}

theorem present_setUsed {value : Bool} {other : FileTag} {position : Nat}
    {found : PageEntry} :
    (mm.setUsed frame value).Present other position found ↔
      mm.Present other position found :=
  ⟨fun present => present.of_entries rfl, fun present => present.of_entries rfl⟩

theorem Sound.setUsed {value : Bool} {target : Option Nat} (sound : Sound scope reserved mm)
    (usedIff : ∀ other < config.frameCount, (mm.setUsed frame value).used other = true ↔
      (target = some other ∨ other ∈ scope.leaked) ∨
        ∃ fileTag number entry, mm.Present fileTag number entry ∧ entry.frame = other)
    (targetFree : ∀ other, target = some other →
      (other < config.frameCount ∧ other ∉ scope.leaked) ∧
      ∀ fileTag number entry, mm.Present fileTag number entry → entry.frame ≠ other) :
    Kept scope target mm (mm.setUsed frame value) where
  sound :=
    { keys := sound.keys
      pageNumber := sound.pageNumber
      dirty_present := sound.dirty_present
      clean := fun other tracked position found present =>
        sound.clean other tracked position found (present_setUsed.mp present)
      spared := sound.spared
      frame_lt := fun other position found present =>
        sound.frame_lt other position found (present_setUsed.mp present)
      frame_unique := fun _ _ _ _ _ _ first second =>
        sound.frame_unique _ _ _ _ _ _ (present_setUsed.mp first)
          (present_setUsed.mp second)
      used_iff := by simpa only [present_setUsed] using usedIff
      reserved_lt := fun other isTarget => (targetFree other isTarget).1
      unmapped := by
        rintro other (isTarget | isLeaked) fileTag number entry present
        · exact (targetFree other isTarget).2 fileTag number entry (present_setUsed.mp present)
        · exact sound.unmapped other (Or.inr isLeaked) fileTag number entry
            (present_setUsed.mp present)
      clock_lt := sound.clock_lt }
  invisible := fun _ _ _ => rfl
  stored := fun _ _ => rfl

theorem Sound.reserve (sound : Sound scope none mm) (frameLt : frame < config.frameCount)
    (unused : mm.used frame = false) : Kept scope (some frame) mm (mm.setUsed frame true) := by
  refine sound.setUsed ?_ ?_
  · intro other otherLt
    by_cases same : other = frame
    · subst same
      simp [MemoryManager.setUsed]
    · simp [MemoryManager.setUsed, same, Ne.symm same, sound.used_iff other otherLt]
  · intro other isTarget
    obtain rfl : frame = other := Option.some.inj isTarget
    refine ⟨⟨frameLt, ?_⟩, ?_⟩
    · intro isLeaked
      have used := (sound.used_iff frame frameLt).mpr (Or.inl (Or.inr isLeaked))
      simp [unused] at used
    · rintro fileTag number entry present rfl
      have used := (sound.used_iff entry.frame frameLt).mpr
        (Or.inr ⟨fileTag, number, entry, present, rfl⟩)
      simp [unused] at used

theorem Sound.mmFreeFrame (sound : Sound scope (some frame) mm) :
    Kept scope none mm (mm.mmFreeFrame frame) := by
  obtain ⟨frameLt, notLeaked⟩ := sound.reserved_lt frame rfl
  have unmapped := sound.unmapped frame (Or.inl rfl)
  rw [MemoryManager.mmFreeFrame, if_neg (by omega)]
  refine sound.setUsed ?_ (by simp)
  intro other otherLt
  by_cases same : other = frame
  · subst same
    simp only [MemoryManager.setUsed, Function.update_self, Bool.false_eq_true,
      reduceCtorEq, false_or, false_iff, notLeaked]
    rintro ⟨fileTag, number, entry, present, sameFrame⟩
    exact unmapped fileTag number entry present sameFrame
  · simp [MemoryManager.setUsed, same, Ne.symm same, sound.used_iff other otherLt]

theorem Sound.loadFrame (sound : Sound scope (some frame) mm) (bytes : Page config.pageSize) :
    Kept scope (some frame) mm (mm.loadFrame frame bytes) := by
  have presentIff : ∀ {other position found},
      (mm.loadFrame frame bytes).Present other position found ↔
        mm.Present other position found :=
    ⟨fun present => present.of_entries rfl, fun present => present.of_entries rfl⟩
  have memoryEq : ∀ other position found, mm.Present other position found →
      (mm.loadFrame frame bytes).physicalMemory found.frame =
        mm.physicalMemory found.frame := by
    intro other position found present
    exact Function.update_of_ne
      (sound.unmapped frame (Or.inl rfl) other position found present) _ _
  refine ⟨⟨sound.keys, sound.pageNumber, sound.dirty_present, ?_, sound.spared, ?_, ?_, ?_,
    sound.reserved_lt, ?_, sound.clock_lt⟩, ?_, fun _ _ => rfl⟩
  · intro other tracked position found present clean
    have old := presentIff.mp present
    rw [memoryEq other position found old]
    exact sound.clean other tracked position found old clean
  · exact fun other position found present =>
      sound.frame_lt other position found (presentIff.mp present)
  · exact fun _ _ _ _ _ _ first second =>
      sound.frame_unique _ _ _ _ _ _ (presentIff.mp first) (presentIff.mp second)
  · simp only [presentIff]
    exact sound.used_iff
  · simp only [presentIff]
    exact sound.unmapped
  · intro other _ position
    by_cases inMemory : ∃ found, mm.Present other position found
    · obtain ⟨found, present⟩ := inMemory
      rw [(presentIff.mpr present).pageView, present.pageView,
        memoryEq other position found present]
    · rw [pageView_of_not_present (fun found present =>
          inMemory ⟨found, presentIff.mp present⟩),
        pageView_of_not_present (fun found present => inMemory ⟨found, present⟩)]
      rfl

theorem present_ptMap (held : mm.page fileTag number = some entry) {other : FileTag}
    {position : Nat} {found : PageEntry} :
    (mm.ptMap fileTag number frame).Present other position found ↔
      (other = fileTag ∧ position = number ∧
        found = { entry with frame := frame, present := true, dirty := false }) ∨
      (¬ (other = fileTag ∧ position = number) ∧ mm.Present other position found) := by
  by_cases here : other = fileTag ∧ position = number
  · obtain ⟨rfl, rfl⟩ := here
    have mapped : (mm.ptMap other position frame).page other position =
        some { entry with frame := frame, present := true, dirty := false } :=
      page_modifyPage_self held
    constructor
    · rintro ⟨foundHeld, _⟩
      exact Or.inl ⟨rfl, rfl, Option.some.inj (foundHeld.symm.trans mapped)⟩
    · rintro (⟨_, _, rfl⟩ | ⟨elsewhere, _⟩)
      · exact ⟨mapped, rfl⟩
      · exact absurd ⟨rfl, rfl⟩ elsewhere
  · rw [ptMap, present_modifyPage_of_ne here]
    constructor
    · exact fun present => Or.inr ⟨here, present⟩
    · rintro (⟨same, samePosition, _⟩ | ⟨_, present⟩)
      · exact absurd ⟨same, samePosition⟩ here
      · exact present

/-- Mapping a page to a reserved frame that holds its Storage block. -/
theorem Sound.ptMap (sound : Sound scope (some frame) mm)
    (held : mm.page fileTag number = some entry)
    (absent : ∀ found, ¬ mm.Present fileTag number found)
    (loaded : mm.physicalMemory frame = mm.storage fileTag number) :
    Kept scope none mm (mm.ptMap fileTag number frame) := by
  obtain ⟨frameLt, notLeaked⟩ := sound.reserved_lt frame rfl
  have unmapped := sound.unmapped frame (Or.inl rfl)
  have presentIff := @present_ptMap config mm fileTag number entry frame held
  have pageCases : ∀ {other position found},
      (mm.ptMap fileTag number frame).page other position = some found →
        (other = fileTag ∧ position = number ∧
          found = { entry with frame := frame, present := true, dirty := false }) ∨
        mm.page other position = some found := by
    intro other position found foundHeld
    rw [MemoryManager.ptMap, page_modifyPage] at foundHeld
    split at foundHeld
    · rename_i here
      rw [held, Option.map_some, Option.some.injEq] at foundHeld
      exact Or.inl ⟨here.1, here.2, foundHeld.symm⟩
    · exact Or.inr foundHeld
  refine ⟨⟨?_, ?_, ?_, ?_, ?_, ?_, ?_, ?_, by simp, ?_, sound.clock_lt⟩, ?_, fun _ _ => rfl⟩
  · rw [MemoryManager.ptMap, MemoryManager.modifyPage, keys_modifyTable]
    exact sound.keys
  · intro other position found foundHeld
    rcases pageCases foundHeld with ⟨rfl, rfl, rfl⟩ | old
    · exact sound.pageNumber _ _ entry held
    · exact sound.pageNumber other position found old
  · intro other position found foundHeld dirty
    rcases pageCases foundHeld with ⟨rfl, rfl, rfl⟩ | old
    · rfl
    · exact sound.dirty_present other position found old dirty
  · intro other tracked position found present clean
    rcases presentIff.mp present with ⟨rfl, rfl, rfl⟩ | ⟨_, old⟩
    · exact loaded
    · exact sound.clean other tracked position found old clean
  · intro other isSpared position found foundHeld
    rcases pageCases foundHeld with ⟨rfl, rfl, rfl⟩ | old
    · rfl
    · exact sound.spared other isSpared position found old
  · intro other position found present
    rcases presentIff.mp present with ⟨rfl, rfl, rfl⟩ | ⟨_, old⟩
    · exact frameLt
    · exact sound.frame_lt other position found old
  · intro firstTag firstNumber first secondTag secondNumber second firstPresent secondPresent
      sameFrame
    rcases presentIff.mp firstPresent with ⟨rfl, rfl, rfl⟩ | ⟨_, firstOld⟩
    · rcases presentIff.mp secondPresent with ⟨rfl, rfl, rfl⟩ | ⟨_, secondOld⟩
      · exact ⟨rfl, rfl⟩
      · exact absurd sameFrame.symm (unmapped _ _ second secondOld)
    · rcases presentIff.mp secondPresent with ⟨rfl, rfl, rfl⟩ | ⟨_, secondOld⟩
      · exact absurd sameFrame (unmapped _ _ first firstOld)
      · exact sound.frame_unique _ _ first _ _ second firstOld secondOld sameFrame
  · intro other otherLt
    have usedEq : (mm.ptMap fileTag number frame).used other = mm.used other := rfl
    rw [usedEq, sound.used_iff other otherLt]
    simp only [Option.some.injEq, reduceCtorEq, false_or]
    constructor
    · rintro ((rfl | isLeaked) | ⟨otherTag, position, found, present, rfl⟩)
      · exact Or.inr
          ⟨fileTag, number, _, presentIff.mpr (Or.inl ⟨rfl, rfl, rfl⟩), rfl⟩
      · exact Or.inl isLeaked
      · refine Or.inr
          ⟨otherTag, position, found, presentIff.mpr (Or.inr ⟨?_, present⟩), rfl⟩
        rintro ⟨rfl, rfl⟩
        exact absent found present
    · rintro (isLeaked | ⟨otherTag, position, found, present, rfl⟩)
      · exact Or.inl (Or.inr isLeaked)
      · rcases presentIff.mp present with ⟨rfl, rfl, rfl⟩ | ⟨_, old⟩
        · exact Or.inl (Or.inl rfl)
        · exact Or.inr ⟨otherTag, position, found, old, rfl⟩
  · rintro other (isReserved | isLeaked) otherTag position found present
    · simp at isReserved
    · rcases presentIff.mp present with ⟨rfl, rfl, rfl⟩ | ⟨_, old⟩
      · rintro rfl
        exact notLeaked isLeaked
      · exact sound.unmapped other (Or.inr isLeaked) otherTag position found old
  · intro other _ position
    by_cases here : other = fileTag ∧ position = number
    · obtain ⟨rfl, rfl⟩ := here
      have mapped := presentIff.mpr (Or.inl ⟨rfl, rfl, rfl⟩)
      rw [mapped.pageView, pageView_of_not_present absent, ← loaded]
      rfl
    · exact pageView_modifyPage_of_ne here

end Reserve

end MemoryManager

end Worker

end MasterOfFiles
