import MasterOfFiles.WorkerInterpreter

/-!
# Frame accounting of the Worker

A frame is marked as used when it is handed to a page fault and marked as free when its
page is evicted.  TRUNCATE and DELETE drop page table entries without looking at their
frames, so a page that is present when its entry is dropped leaves its frame used for
good.  As long as only entries that are not present are dropped, the used frames are
exactly the ones that a present page maps.
-/

namespace MasterOfFiles

namespace Worker

namespace MemoryManager

variable {config : MemoryConfig} {mm : MemoryManager config} {scope : Scope} {frame : Nat}

/-- The present pages of all tables that map a frame. -/
def mappings (mm : MemoryManager config) (frame : Nat) : List (FileTag × Nat × PageEntry) :=
  mm.allPages.filter fun candidate =>
    candidate.2.2.present && decide (candidate.2.2.frame = frame)

/-- A frame is used exactly when one present page of one table maps it, and no frame is
mapped twice. -/
structure Accounted (mm : MemoryManager config) : Prop where
  used_iff : ∀ frame < config.frameCount,
    mm.used frame = true ↔ (mm.mappings frame).length = 1
  unique : ∀ frame, (mm.mappings frame).length ≤ 1

theorem mem_mappings (keys : (mm.entries.map Prod.fst).Nodup) {fileTag : FileTag}
    {number : Nat} {entry : PageEntry} :
    (fileTag, number, entry) ∈ mm.mappings frame ↔
      mm.Present fileTag number entry ∧ entry.frame = frame := by
  rw [mappings, List.mem_filter, ← page_eq_some_iff_mem_allPages keys]
  constructor
  · rintro ⟨held, mapped⟩
    obtain ⟨present, sameFrame⟩ : entry.present = true ∧ entry.frame = frame := by
      simpa using mapped
    exact ⟨⟨held, present⟩, sameFrame⟩
  · rintro ⟨present, sameFrame⟩
    exact ⟨present.held, by simp [present.present, sameFrame]⟩

theorem allPages_nodup (keys : (mm.entries.map Prod.fst).Nodup) : mm.allPages.Nodup := by
  unfold allPages
  rw [List.nodup_flatMap]
  refine ⟨fun entry _ => ?_, ?_⟩
  · refine List.Nodup.of_map (fun page => page.2.1) ?_
    rw [List.map_map]
    have indices : ((fun page : FileTag × Nat × PageEntry => page.2.1) ∘
        fun indexed : PageEntry × Nat => (entry.1, indexed.2, indexed.1)) = Prod.snd := rfl
    rw [indices, List.zipIdx_map_snd]
    exact List.nodup_range'
  · refine (List.pairwise_map.mp keys).imp ?_
    intro first second different page inFirst inSecond
    obtain ⟨_, _, rfl⟩ := List.mem_map.mp inFirst
    obtain ⟨_, _, same⟩ := List.mem_map.mp inSecond
    exact different (congrArg Prod.fst same).symm

theorem Sound.length_mappings (sound : Sound scope none mm) (frame : Nat) :
    (mm.mappings frame).length ≤ 1 := by
  have distinct : (mm.mappings frame).Nodup := (allPages_nodup sound.keys).filter _
  have member := @mem_mappings config mm frame sound.keys
  cases listed : mm.mappings frame with
  | nil => simp
  | cons first rest =>
      cases rest with
      | nil => simp
      | cons second rest =>
          rw [listed] at distinct
          obtain ⟨firstTag, firstNumber, firstEntry⟩ := first
          obtain ⟨secondTag, secondNumber, secondEntry⟩ := second
          obtain ⟨firstPresent, firstFrame⟩ :=
            (@member firstTag firstNumber firstEntry).mp (by rw [listed]; simp)
          obtain ⟨secondPresent, secondFrame⟩ :=
            (@member secondTag secondNumber secondEntry).mp (by rw [listed]; simp)
          obtain ⟨rfl, rfl⟩ := sound.frame_unique _ _ firstEntry _ _ secondEntry firstPresent
            secondPresent (firstFrame.trans secondFrame.symm)
          obtain rfl : firstEntry = secondEntry :=
            Option.some.inj (firstPresent.held.symm.trans secondPresent.held)
          simp at distinct

theorem Sound.accounted_iff (sound : Sound scope none mm) :
    mm.Accounted ↔ ∀ frame < config.frameCount, frame ∉ scope.leaked := by
  have mapped : ∀ frame, (mm.mappings frame).length = 1 ↔
      ∃ fileTag number entry, mm.Present fileTag number entry ∧ entry.frame = frame := by
    intro frame
    have atMost := sound.length_mappings frame
    constructor
    · intro one
      obtain ⟨⟨fileTag, number, entry⟩, listed⟩ := List.length_eq_one_iff.mp one
      exact ⟨fileTag, number, entry, (mem_mappings sound.keys).mp (by simp [listed])⟩
    · rintro ⟨fileTag, number, entry, mapping⟩
      have positive := List.length_pos_of_mem ((mem_mappings sound.keys).mpr mapping)
      omega
  constructor
  · intro accounted frame frameLt isLeaked
    have used := (sound.used_iff frame frameLt).mpr (Or.inl (Or.inr isLeaked))
    obtain ⟨fileTag, number, entry, present, sameFrame⟩ :=
      (mapped frame).mp ((accounted.used_iff frame frameLt).mp used)
    exact sound.unmapped frame (Or.inr isLeaked) fileTag number entry present sameFrame
  · intro noLeak
    refine ⟨fun frame frameLt => ?_, sound.length_mappings⟩
    rw [mapped, sound.used_iff frame frameLt]
    simp [noLeak frame frameLt]

/-- The calls of `execute_instruction`, with any answers from outside. -/
def instructionSystem (config : MemoryConfig) :
    TransitionSystem (MemoryManager config) (Instruction × Replies) :=
  .ofNext Created fun mm call => some (mm.executeInstruction call.2 call.1).memory

/-- The condition: the entries that the instruction drops are not present. -/
def KeepsFrames (mm : MemoryManager config) (call : Instruction × Replies) : Prop :=
  ∀ entry ∈ mm.droppedPages call.2 call.1, entry.present = false

instance (mm : MemoryManager config) (call : Instruction × Replies) :
    Decidable (mm.KeepsFrames call) :=
  inferInstanceAs (Decidable (∀ entry ∈ mm.droppedPages call.2 call.1, entry.present = false))

/-- The scope of the accounting: Storage plays no part, and no frame is leaked. -/
def Scope.frames : Scope where
  coherent := ∅
  spared := ∅
  leaked := ∅

theorem keepsCoherent_empty (replies : Replies) (instruction : Instruction) :
    KeepsCoherent ∅ mm replies instruction := by
  cases instruction <;> simp [KeepsCoherent]

/-- A step leaks the frames of the present pages that it drops and no others. -/
theorem Sound.accounted_execute_iff (sound : Sound .frames none mm)
    (call : Instruction × Replies) :
    (mm.executeInstruction call.2 call.1).memory.Accounted ↔ mm.KeepsFrames call := by
  have after :=
    (sound.executeInstruction (keepsCoherent_empty call.2 call.1) (by simp [Scope.frames])).1
  rw [after.accounted_iff]
  constructor
  · intro noLeak entry member
    by_contra present
    have present : entry.present = true := by simpa using present
    obtain ⟨fileTag, number, held⟩ : ∃ fileTag number, mm.page fileTag number = some entry :=
      page_of_mem_droppedPages member
    have frameLt := sound.frame_lt fileTag number entry ⟨held, present⟩
    exact noLeak entry.frame frameLt (Or.inr ⟨entry, member, present, rfl⟩)
  · rintro keeps frame _ (isLeaked | ⟨entry, member, present, _⟩)
    · exact isLeaked
    · simp [keeps entry member] at present

theorem Sound.of_keepsFrames (sound : Sound .frames none mm) {call : Instruction × Replies}
    (keeps : mm.KeepsFrames call) :
    Sound .frames none (mm.executeInstruction call.2 call.1).memory := by
  have nothing : mm.droppedFrames call.2 call.1 = ∅ := by
    ext frame
    refine ⟨?_, by simp⟩
    rintro ⟨entry, member, present, _⟩
    simp [keeps entry member] at present
  have after :=
    (sound.executeInstruction (keepsCoherent_empty call.2 call.1) (by simp [Scope.frames])).1
  rw [nothing, Scope.leak_empty] at after
  exact after

/-- In every run in which TRUNCATE and DELETE only drop entries that are not present the
frames are accounted for; the first step that drops a present page breaks it. -/
theorem accounted_of_reachable
    (reachable : ((instructionSystem config).guarded KeepsFrames).Reachable mm) :
    mm.Accounted ∧ ∀ call, (mm.executeInstruction call.2 call.1).memory.Accounted ↔
      mm.KeepsFrames call := by
  have sound : Sound .frames none mm := by
    refine reachable.invariant ?_ ?_
    · exact fun first created => (Created.sound created).restrict (by simp [Scope.frames])
        (by simp [Scope.frames]) rfl
    · rintro before call after sound ⟨keeps, step⟩
      obtain rfl := Option.some.inj step
      exact sound.of_keepsFrames keeps
  refine ⟨sound.accounted_iff.mpr (by simp [Scope.frames]), sound.accounted_execute_iff⟩

section Runs

/-- Everything outside answers well. -/
def goodReplies : Replies where
  faults _ := false
  accepted := true
  allocated := true
  delivered := true

/-- A file of one block, with its page present and dirty. -/
def writtenFile : List (Instruction × Replies) :=
  [(.create ⟨"MATERIAS", "BASE"⟩, goodReplies),
    (.truncate ⟨"MATERIAS", "BASE"⟩ 2, goodReplies),
    (.write ⟨"MATERIAS", "BASE"⟩ 0 [65], goodReplies)]

theorem accounted_writtenFile :
    ∃ mm : MemoryManager oneFrameConfig,
      ((instructionSystem oneFrameConfig).guarded KeepsFrames).Reachable mm ∧
        mm.used 0 = true ∧ mm.Accounted := by
  have ends : (TransitionSystem.runNext
      (TransitionSystem.guardedNext
        (fun (mm : MemoryManager oneFrameConfig) (call : Instruction × Replies) =>
          some (mm.executeInstruction call.2 call.1).memory) KeepsFrames)
      emptyMemory writtenFile).any (fun mm => mm.used 0) = true := by
    decide +kernel
  obtain ⟨mm, run, used⟩ := (Option.any_eq_true _ _).mp ends
  have reachable : ((instructionSystem oneFrameConfig).guarded KeepsFrames).Reachable mm :=
    ⟨emptyMemory, writtenFile, ⟨rfl, fun _ => rfl, rfl⟩,
      TransitionSystem.run_of_runGuarded run⟩
  exact ⟨mm, reachable, used, (accounted_of_reachable reachable).1⟩

def deletedFile : List (Instruction × Replies) :=
  writtenFile ++ [(.delete ⟨"MATERIAS", "BASE"⟩, goodReplies)]

theorem deleted_file_keeps_frame :
    ∃ mm : MemoryManager oneFrameConfig,
      (instructionSystem oneFrameConfig).Reachable mm ∧ ¬ mm.Accounted := by
  have ends : (TransitionSystem.runNext
      (fun (mm : MemoryManager oneFrameConfig) (call : Instruction × Replies) =>
        some (mm.executeInstruction call.2 call.1).memory) emptyMemory deletedFile).any
      (fun mm => mm.used 0 && decide ((mm.mappings 0).length = 0)) = true := by
    decide +kernel
  obtain ⟨mm, run, leaked⟩ := (Option.any_eq_true _ _).mp ends
  obtain ⟨used, unmapped⟩ : mm.used 0 = true ∧ mm.mappings 0 = [] := by simpa using leaked
  refine ⟨mm, ⟨emptyMemory, deletedFile, ⟨rfl, fun _ => rfl, rfl⟩,
    TransitionSystem.run_of_runNext run⟩, fun accounted => ?_⟩
  have once := (accounted.used_iff 0 (by decide)).mp used
  simp [unmapped] at once

end Runs

end MemoryManager

end Worker

end MasterOfFiles
