import MasterOfFiles.WorkerFlushes

/-!
# Instructions that fail

An instruction about whole files that fails leaves memory and Storage alone, or has written some
dirty pages back, which nobody can see.  DELETE is the exception: it drops the page table before it
asks Storage, so a refused DELETE forgets what was not in Storage yet.
-/

namespace MasterOfFiles

namespace Worker

def Instruction.IsFileRequest : Instruction → Prop
  | .create _ | .truncate _ _ | .tag _ _ | .commit _ | .flush _ | .delete _ => True
  | .write _ _ _ | .read _ _ _ | .finish => False

namespace MemoryManager

variable {config : MemoryConfig} {mm before after : MemoryManager config} {replies : Replies}
  {scope : Scope} {fileTag : FileTag}

/-- Every byte that a query can see is as before, and every dirty page is still present and dirty
or its bytes are in Storage. -/
structure LosesNothing (before after : MemoryManager config) : Prop where
  view : after.view = before.view
  dirty : ∀ fileTag number entry, before.page fileTag number = some entry →
    entry.dirty = true →
      (∃ found, after.Present fileTag number found ∧ found.dirty = true ∧
        after.physicalMemory found.frame = before.physicalMemory entry.frame) ∨
      after.storage fileTag number = before.physicalMemory entry.frame

/-- A DELETE that Storage refuses finds every present page of its File:Tag in Storage. -/
def DeletesOnlyStored (mm : MemoryManager config) (replies : Replies) : Instruction → Prop
  | .delete fileTag => replies.accepted = false → ∀ number entry,
    mm.Present fileTag number entry →
      mm.physicalMemory entry.frame = mm.storage fileTag number
  | _ => True

/-- The bytes that a query can see determine the pages. -/
theorem pageView_of_view (same : after.view = before.view) (fileTag : FileTag) (number : Nat) :
    after.pageView fileTag number = before.pageView fileTag number := by
  apply Vector.ext
  intro position positionLt
  have byte := congrFun (congrFun same fileTag) (number * config.pageSize + position)
  have page : (number * config.pageSize + position) / config.pageSize = number := by
    rw [Nat.mul_comm, Nat.mul_add_div config.pageSize_pos, Nat.div_eq_of_lt positionLt,
      Nat.add_zero]
  have offset : (number * config.pageSize + position) % config.pageSize = position := by
    rw [Nat.mul_add_mod_self_right, Nat.mod_eq_of_lt positionLt]
  simpa [view, page, offset, Vector.get] using byte

theorem view_of_pageView (same : ∀ fileTag number,
    after.pageView fileTag number = before.pageView fileTag number) :
    after.view = before.view := by
  funext fileTag address
  simp only [view, same]

namespace LosesNothing

theorem refl (sound : Sound scope none mm) : LosesNothing mm mm where
  view := rfl
  dirty fileTag number entry held isDirty :=
    Or.inl ⟨entry, ⟨held, sound.dirty_present fileTag number entry held isDirty⟩, isDirty, rfl⟩

/-- Writing dirty pages back loses nothing, however many of them Storage accepted. -/
theorem of_saved {blocks : List (FileTag × Nat)} (sound : Sound scope none mm)
    (saved : Saved blocks mm after) : LosesNothing mm after where
  view := view_of_pageView saved.pageView
  dirty fileTag number entry held isDirty := by
    have isPresent := sound.dirty_present fileTag number entry held isDirty
    by_cases written : (fileTag, number) ∈ blocks
    · obtain ⟨found, present, stored⟩ := saved.stored fileTag number written
      have foundEq := present.held
      rw [held, Option.some.injEq] at foundEq
      rw [foundEq]
      exact Or.inr stored
    · refine Or.inl ⟨entry, ⟨?_, isPresent⟩, isDirty, by rw [saved.physicalMemory]⟩
      rw [saved.page, if_neg written, held]

/-- Dropping a page table loses nothing exactly when its present pages are in Storage. -/
theorem mmRemovePageTable_iff (sound : Sound scope none mm) :
    LosesNothing mm (mm.mmRemovePageTable fileTag) ↔ ∀ number entry,
      mm.Present fileTag number entry →
        mm.physicalMemory entry.frame = mm.storage fileTag number := by
  have storageEq : (mm.mmRemovePageTable fileTag).storage = mm.storage := by
    rw [mmRemovePageTable_eq]
  have memoryEq : (mm.mmRemovePageTable fileTag).physicalMemory = mm.physicalMemory := by
    rw [mmRemovePageTable_eq]
  have own : ∀ number entry, ¬ (mm.mmRemovePageTable fileTag).Present fileTag number entry := by
    intro number entry present
    have held := present.held
    rw [page_mmRemovePageTable sound.keys, if_pos rfl] at held
    cases held
  constructor
  · intro nothing number entry present
    have same := pageView_of_view nothing.view fileTag number
    rw [pageView_of_not_present (own number), present.pageView, storageEq] at same
    exact same.symm
  · intro stored
    constructor
    · apply view_of_pageView
      intro other number
      by_cases here : other = fileTag
      · subst here
        rw [pageView_of_not_present (own number), storageEq]
        by_cases inMemory : ∃ entry, mm.Present other number entry
        · obtain ⟨entry, present⟩ := inMemory
          rw [present.pageView, stored number entry present]
        · rw [pageView_of_not_present fun entry present => inMemory ⟨entry, present⟩]
      · simp only [pageView, page_mmRemovePageTable sound.keys, if_neg here, storageEq, memoryEq]
    · intro other number entry held isDirty
      have isPresent := sound.dirty_present other number entry held isDirty
      by_cases here : other = fileTag
      · subst here
        right
        rw [storageEq, stored number entry ⟨held, isPresent⟩]
      · refine Or.inl ⟨entry, ⟨?_, isPresent⟩, isDirty, by rw [memoryEq]⟩
        rw [page_mmRemovePageTable sound.keys, if_neg here, held]

end LosesNothing

/-- A file instruction that fails loses nothing exactly when it is not a refused DELETE of a
File:Tag with a present page that is not in Storage. -/
theorem Sound.failure_losesNothing_iff (sound : Sound scope none mm) (replies : Replies)
    {instruction : Instruction} (isFileRequest : instruction.IsFileRequest) :
    ((mm.executeInstruction replies instruction).succeeded = false →
        LosesNothing mm (mm.executeInstruction replies instruction).memory) ↔
      mm.DeletesOnlyStored replies instruction := by
  have unchanged := LosesNothing.refl sound
  cases instruction with
  | create fileTag =>
      apply iff_of_true _ trivial
      cases accepted : replies.accepted <;>
        simp [MemoryManager.executeInstruction, accepted, unchanged]
  | truncate fileTag size =>
      apply iff_of_true _ trivial
      intro failed
      simp only [MemoryManager.executeInstruction] at failed ⊢
      split
      · exact unchanged
      · split
        · exact unchanged
        · rename_i aligned accepted
          rw [if_neg aligned, if_neg accepted] at failed
          split at failed <;> cases failed
  | tag source target =>
      apply iff_of_true _ trivial
      cases accepted : replies.accepted <;>
        simp [MemoryManager.executeInstruction, accepted, unchanged]
  | commit fileTag =>
      apply iff_of_true _ trivial
      intro _
      obtain ⟨blocks, saved⟩ := sound.mmFlushQuery_saves replies.faults fileTag
      exact LosesNothing.of_saved sound saved
  | flush fileTag =>
      apply iff_of_true _ trivial
      intro _
      obtain ⟨blocks, saved⟩ := sound.mmFlushQuery_saves replies.faults fileTag
      exact LosesNothing.of_saved sound saved
  | delete fileTag =>
      cases accepted : replies.accepted with
      | true => simp [MemoryManager.executeInstruction, DeletesOnlyStored, accepted]
      | false =>
          simp only [MemoryManager.executeInstruction, DeletesOnlyStored, accepted, Bool.not_false,
            if_true, forall_const]
          exact LosesNothing.mmRemovePageTable_iff sound
  | write fileTag base data => exact isFileRequest.elim
  | read fileTag base size => exact isFileRequest.elim
  | finish => exact isFileRequest.elim

/-- In every reachable state, whichever requests Storage refuses, a file instruction that returns
-1 loses nothing exactly when it is not a refused DELETE of a File:Tag with a present page that is
not in Storage. -/
theorem failedInstruction_losesNothing_iff (reachable : (instructionSystem config).Reachable mm)
    (replies : Replies) {instruction : Instruction}
    (isFileRequest : instruction.IsFileRequest) :
    ((mm.executeInstruction replies instruction).succeeded = false →
        LosesNothing mm (mm.executeInstruction replies instruction).memory) ↔
      mm.DeletesOnlyStored replies instruction := by
  obtain ⟨_, sound⟩ := soundButFor_of_reachable reachable
  exact Sound.failure_losesNothing_iff sound replies isFileRequest

def refusing : Replies :=
  { noFailures with accepted := false }

theorem failedInstruction_losesNothing_iff_of_commit :
    ((twoFilesWritten.executeInstruction refusing (.commit ⟨"MATERIAS", "BASE"⟩)).succeeded =
          false →
        LosesNothing twoFilesWritten
          (twoFilesWritten.executeInstruction refusing (.commit ⟨"MATERIAS", "BASE"⟩)).memory) ↔
      twoFilesWritten.DeletesOnlyStored refusing (.commit ⟨"MATERIAS", "BASE"⟩) :=
  failedInstruction_losesNothing_iff reachable_twoFilesWritten refusing trivial

/-- The DELETE of a written file is refused: its byte is neither in memory nor in Storage. -/
theorem refused_delete_loses_page :
    (instructionSystem twoFrameConfig).Reachable twoFilesWritten ∧
      (twoFilesWritten.executeInstruction refusing (.delete ⟨"MATERIAS", "BASE"⟩)).succeeded =
        false ∧
      twoFilesWritten.view ⟨"MATERIAS", "BASE"⟩ 0 = 65 ∧
      (twoFilesWritten.executeInstruction refusing
        (.delete ⟨"MATERIAS", "BASE"⟩)).memory.view ⟨"MATERIAS", "BASE"⟩ 0 = 0 ∧
      ¬ LosesNothing twoFilesWritten
        (twoFilesWritten.executeInstruction refusing (.delete ⟨"MATERIAS", "BASE"⟩)).memory := by
  have before : twoFilesWritten.view ⟨"MATERIAS", "BASE"⟩ 0 = 65 := by decide +kernel
  have after : (twoFilesWritten.executeInstruction refusing
      (.delete ⟨"MATERIAS", "BASE"⟩)).memory.view ⟨"MATERIAS", "BASE"⟩ 0 = 0 := by decide +kernel
  refine ⟨reachable_twoFilesWritten, by decide +kernel, before, after, ?_⟩
  intro nothing
  rw [nothing.view, before] at after
  cases after

end MemoryManager

end Worker

end MasterOfFiles
