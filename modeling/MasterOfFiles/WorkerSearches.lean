import MasterOfFiles.WorkerClock
import MasterOfFiles.WorkerFrames

/-!
# Searches that never end

CLOCK-M needs a page to choose.  A TRUNCATE or a DELETE forgets the frames of the pages that it
drops, and these frames stay in use for ever.  The search ends as long as one frame has not been
lost in this way; once all of them are lost it turns without end.
-/

namespace MasterOfFiles

namespace Worker

namespace MemoryManager

open CircularScan

variable {config : MemoryConfig} {mm : MemoryManager config} {scope : Scope} {frame : Nat}

/-- Every page fault that finds no free frame gets an answer from CLOCK-M: at once when the
memory has no frames, and in two rounds otherwise. -/
def SearchesEnd (mm : MemoryManager config) : Prop :=
  ∀ (faults : StorageFaults) (fileTag : FileTag), ∀ number < 2 ^ 32, ∀ grown,
    (mm.mmCreatePageTable fileTag).growTable fileTag number = some grown → AllUsed grown →
      config.frameCount = 0 ∨ ∃ outcome, clockRounds faults 2 grown = some outcome

/-- The condition: some frame is free or holds a page, and the instruction does not drop it. -/
def LeavesFrame (mm : MemoryManager config) (call : Instruction × Replies) : Prop :=
  config.frameCount = 0 ∨ ∃ frame < config.frameCount,
    (∀ entry ∈ mm.droppedPages call.2 call.1, entry.present = true → entry.frame ≠ frame) ∧
      (mm.used frame = false ∨ mm.mappings frame ≠ [])

instance (mm : MemoryManager config) (call : Instruction × Replies) :
    Decidable (mm.LeavesFrame call) :=
  inferInstanceAs (Decidable (config.frameCount = 0 ∨ ∃ frame < config.frameCount,
    (∀ entry ∈ mm.droppedPages call.2 call.1, entry.present = true → entry.frame ≠ frame) ∧
      (mm.used frame = false ∨ mm.mappings frame ≠ [])))

def FrameLeft (config : MemoryConfig) (scope : Scope) : Prop :=
  config.frameCount = 0 ∨ ∃ frame < config.frameCount, frame ∉ scope.leaked

/-- The frames that are not lost are those that are free or hold a page. -/
theorem Sound.not_leaked_iff (sound : Sound scope none mm) (frameLt : frame < config.frameCount) :
    frame ∉ scope.leaked ↔ mm.used frame = false ∨ mm.mappings frame ≠ [] := by
  constructor
  · intro notLeaked
    cases used : mm.used frame with
    | false => exact Or.inl rfl
    | true =>
        right
        rcases (sound.used_iff frame frameLt).mp used with leaked | held
        · simp [notLeaked] at leaked
        · obtain ⟨fileTag, number, entry, present, sameFrame⟩ := held
          exact List.ne_nil_of_mem ((mem_mappings sound.keys).mpr ⟨present, sameFrame⟩)
  · rintro (free | mapped) leaked
    · have used := (sound.used_iff frame frameLt).mpr (Or.inl (Or.inr leaked))
      simp [free] at used
    · obtain ⟨⟨fileTag, number, entry⟩, member⟩ := List.exists_mem_of_ne_nil _ mapped
      obtain ⟨present, sameFrame⟩ := (mem_mappings sound.keys).mp member
      exact sound.unmapped frame (Or.inr leaked) fileTag number entry present sameFrame

theorem exists_growTable (mm : MemoryManager config) (fileTag : FileTag) :
    ∃ grown, (mm.mmCreatePageTable fileTag).growTable fileTag 0 = some grown := by
  have created : ∃ table, (mm.mmCreatePageTable fileTag).findPageTable fileTag = some table := by
    unfold mmCreatePageTable
    split
    · rename_i table found
      exact ⟨table, found⟩
    · rename_i missing
      have notFound := Option.map_eq_none_iff.mp missing
      exact ⟨[freshEntry 0], by simp [findPageTable, List.find?_append, notFound]⟩
  obtain ⟨table, found⟩ := created
  simp only [growTable, found]
  split
  · exact ⟨_, rfl⟩
  · rw [ptResize, if_neg (by decide)]
    exact ⟨_, rfl⟩

/-- Once every frame has been lost a search goes on for ever. -/
theorem Sound.search_never_ends (sound : Sound scope none mm) (positive : 0 < config.frameCount)
    (lost : ∀ frame < config.frameCount, frame ∈ scope.leaked) (faults : StorageFaults)
    (rounds : Nat) : AllUsed mm ∧ clockRounds faults rounds mm = none := by
  have allUsed : AllUsed mm := fun frame frameLt =>
    (sound.used_iff frame frameLt).mpr (Or.inl (Or.inr (lost frame frameLt)))
  have mapped := Mapped.of_sound sound allUsed
  refine ⟨allUsed, clockRounds_of_no_page faults mapped positive (fun frame frameLt => ?_) rounds⟩
  cases found : mm.pageAt frame with
  | none => rfl
  | some page =>
      obtain ⟨fileTag, number, entry⟩ := page
      obtain ⟨present, sameFrame⟩ := (pageAt_eq_some_iff mapped frameLt).mp found
      exact absurd sameFrame
        (sound.unmapped frame (Or.inr (lost frame frameLt)) fileTag number entry present)

/-- The tables that a page fault searches differ only in pages that are not present. -/
theorem Sound.growTable {fileTag : FileTag} {number : Nat} {grown : MemoryManager config}
    (sound : Sound scope none mm) (numberLt : number < 2 ^ 32)
    (growing : (mm.mmCreatePageTable fileTag).growTable fileTag number = some grown) :
    Sound scope none grown :=
  ((Unmoved.mmCreatePageTable mm fileTag).trans (Unmoved.growTable numberLt growing).1).sound sound

theorem Sound.searchesEnd_iff (sound : Sound scope none mm) :
    mm.SearchesEnd ↔ FrameLeft config scope := by
  constructor
  · intro ends
    by_contra noneLeft
    rw [FrameLeft, not_or] at noneLeft
    obtain ⟨positive, allLost⟩ := noneLeft
    have lost : ∀ frame < config.frameCount, frame ∈ scope.leaked := by
      intro frame frameLt
      by_contra notLeaked
      exact allLost ⟨frame, frameLt, notLeaked⟩
    obtain ⟨grown, growing⟩ := exists_growTable mm ⟨"", ""⟩
    obtain ⟨allUsed, never⟩ := (sound.growTable (Nat.two_pow_pos 32) growing).search_never_ends
      (Nat.pos_of_ne_zero positive) lost (fun _ => false) 2
    rcases ends (fun _ => false) _ 0 (Nat.two_pow_pos 32) grown growing allUsed with empty | search
    · exact positive empty
    · obtain ⟨outcome, search⟩ := search
      exact absurd (never.symm.trans search) (by simp)
  · rintro left faults fileTag number numberLt grown growing allUsed
    rcases left with empty | ⟨frame, frameLt, notLeaked⟩
    · exact Or.inl empty
    · right
      have grownSound := sound.growTable numberLt growing
      have mapped := Mapped.of_sound grownSound allUsed
      rcases (grownSound.used_iff frame frameLt).mp (allUsed frame frameLt) with lost | held
      · simp [notLeaked] at lost
      · obtain ⟨otherTag, position, entry, present, sameFrame⟩ := held
        obtain ⟨outcome, ends⟩ := clockRounds_two_of_page faults mapped frameLt
          ((pageAt_eq_some_iff mapped frameLt).mpr ⟨present, sameFrame⟩)
        exact ⟨outcome, ends 0⟩

/-- An instruction loses no more than the frames of the present pages that it drops. -/
theorem Sound.frameLeft_leak_iff (sound : Sound scope none mm) (call : Instruction × Replies) :
    FrameLeft config (scope.leak (mm.droppedFrames call.2 call.1)) ↔ mm.LeavesFrame call := by
  have same : ∀ frame < config.frameCount,
      frame ∉ (scope.leak (mm.droppedFrames call.2 call.1)).leaked ↔
        (∀ entry ∈ mm.droppedPages call.2 call.1, entry.present = true → entry.frame ≠ frame) ∧
          (mm.used frame = false ∨ mm.mappings frame ≠ []) := by
    intro frame frameLt
    rw [← sound.not_leaked_iff frameLt]
    constructor
    · intro left
      refine ⟨?_, fun leaked => left (Or.inl leaked)⟩
      intro entry member present sameFrame
      exact left (Or.inr ⟨entry, member, present, sameFrame⟩)
    · rintro ⟨kept, notLeaked⟩ (leaked | ⟨entry, member, present, sameFrame⟩)
      · exact notLeaked leaked
      · exact kept entry member present sameFrame
  rw [FrameLeft, LeavesFrame]
  apply or_congr_right
  constructor
  · rintro ⟨frame, frameLt, left⟩
    exact ⟨frame, frameLt, (same frame frameLt).mp left⟩
  · rintro ⟨frame, frameLt, left⟩
    exact ⟨frame, frameLt, (same frame frameLt).mpr left⟩

/-- What holds whatever the instructions lose: Storage plays no part in it. -/
def SoundButFor (mm : MemoryManager config) (leaked : Set Nat) : Prop :=
  Sound ⟨∅, ∅, leaked⟩ none mm

theorem Created.soundButFor (created : Created mm) : SoundButFor mm ∅ :=
  (Created.sound created).restrict (by simp) (by simp) rfl

theorem SoundButFor.execute {leaked : Set Nat} (sound : SoundButFor mm leaked)
    (call : Instruction × Replies) :
    SoundButFor (mm.executeInstruction call.2 call.1).memory
      (leaked ∪ mm.droppedFrames call.2 call.1) :=
  (Sound.executeInstruction sound (keepsCoherent_empty call.2 call.1) (by simp)).1

theorem soundButFor_of_reachable (reachable : (instructionSystem config).Reachable mm) :
    ∃ leaked, SoundButFor mm leaked := by
  apply reachable.invariant
  · exact fun first created => ⟨∅, Created.soundButFor created⟩
  · rintro before call after ⟨leaked, sound⟩ step
    obtain rfl := Option.some.inj step
    exact ⟨_, sound.execute call⟩

/-- In every run in which each instruction leaves a frame CLOCK-M always ends; the first step
that leaves none makes the next search go on for ever. -/
theorem searchesEnd_of_reachable
    (reachable : ((instructionSystem config).guarded LeavesFrame).Reachable mm) :
    mm.SearchesEnd ∧ ∀ call, (mm.executeInstruction call.2 call.1).memory.SearchesEnd ↔
      mm.LeavesFrame call := by
  have keeps : ∃ leaked, SoundButFor mm leaked ∧ FrameLeft config ⟨∅, ∅, leaked⟩ := by
    apply reachable.invariant
    · intro first created
      refine ⟨∅, Created.soundButFor created, ?_⟩
      rcases Nat.eq_zero_or_pos config.frameCount with empty | positive
      · exact Or.inl empty
      · exact Or.inr ⟨0, positive, by simp⟩
    · rintro before call after ⟨leaked, sound, _⟩ ⟨leaves, step⟩
      obtain rfl := Option.some.inj step
      exact ⟨_, sound.execute call, (Sound.frameLeft_leak_iff sound call).mpr leaves⟩
  obtain ⟨leaked, sound, left⟩ := keeps
  refine ⟨(Sound.searchesEnd_iff sound).mpr left, fun call => ?_⟩
  rw [Sound.searchesEnd_iff (sound.execute call), ← Sound.frameLeft_leak_iff sound call]
  rfl

section Runs

theorem searchesEnd_writtenFile :
    ∃ mm : MemoryManager oneFrameConfig,
      ((instructionSystem oneFrameConfig).guarded LeavesFrame).Reachable mm ∧
        mm.used 0 = true ∧ mm.SearchesEnd := by
  have ends : (TransitionSystem.runNext
      (TransitionSystem.guardedNext
        (fun (mm : MemoryManager oneFrameConfig) (call : Instruction × Replies) =>
          some (mm.executeInstruction call.2 call.1).memory) LeavesFrame)
      emptyMemory writtenFile).any (fun mm => mm.used 0) = true := by
    decide +kernel
  obtain ⟨mm, run, used⟩ := (Option.any_eq_true _ _).mp ends
  have reachable : ((instructionSystem oneFrameConfig).guarded LeavesFrame).Reachable mm :=
    ⟨emptyMemory, writtenFile, ⟨rfl, fun _ => rfl, rfl⟩,
      TransitionSystem.run_of_runGuarded run⟩
  exact ⟨mm, reachable, used, (searchesEnd_of_reachable reachable).1⟩

/-- Once the file behind the only frame has been deleted, the page fault of any other file turns
the clock hand for ever. -/
theorem deleted_file_stops_clock :
    ∃ mm : MemoryManager oneFrameConfig, (instructionSystem oneFrameConfig).Reachable mm ∧
      ∃ grown, (mm.mmCreatePageTable ⟨"ESTUDIANTES", "BASE"⟩).growTable
          ⟨"ESTUDIANTES", "BASE"⟩ 0 = some grown ∧
        AllUsed grown ∧ ∀ faults rounds, clockRounds faults rounds grown = none := by
  have ends : (TransitionSystem.runNext
      (fun (mm : MemoryManager oneFrameConfig) (call : Instruction × Replies) =>
        some (mm.executeInstruction call.2 call.1).memory) emptyMemory deletedFile).any
      (fun mm => mm.used 0 && decide (mm.mappings 0 = [])) = true := by
    decide +kernel
  obtain ⟨mm, run, lost⟩ := (Option.any_eq_true _ _).mp ends
  obtain ⟨used, unmapped⟩ : mm.used 0 = true ∧ mm.mappings 0 = [] := by
    simpa using lost
  have reachable : (instructionSystem oneFrameConfig).Reachable mm :=
    ⟨emptyMemory, deletedFile, ⟨rfl, fun _ => rfl, rfl⟩, TransitionSystem.run_of_runNext run⟩
  obtain ⟨leaked, sound⟩ := soundButFor_of_reachable reachable
  have allLost : ∀ frame < oneFrameConfig.frameCount, frame ∈ leaked := by
    intro frame frameLt
    obtain rfl : frame = 0 := Nat.lt_one_iff.mp frameLt
    by_contra notLeaked
    have left := (Sound.not_leaked_iff sound frameLt).mp notLeaked
    simp [used, unmapped] at left
  obtain ⟨grown, growing⟩ := exists_growTable mm ⟨"ESTUDIANTES", "BASE"⟩
  have never := Sound.search_never_ends (Sound.growTable sound (Nat.two_pow_pos 32) growing)
    (by decide) allLost
  exact ⟨mm, reachable, grown, growing, (never (fun _ => false) 0).1,
    fun faults rounds => (never faults rounds).2⟩

end Runs

end MemoryManager

end Worker

end MasterOfFiles
