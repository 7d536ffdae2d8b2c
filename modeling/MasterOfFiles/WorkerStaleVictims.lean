import MasterOfFiles.WorkerVictimChanges

/-!
# Stale victims

Nothing but the end of a served page fault clears the record of the last victim.  When Storage
refuses the block of a page fault that has evicted a page, the record waits: some frame is free
from then on, so the next page fault that is served finds the record of an eviction that is not
its own, and the strings of the record are freed when the page table of the victim is removed.
-/

namespace MasterOfFiles

namespace Worker

namespace RecordedMemory

open MemoryManager

variable {config : MemoryConfig}

/-- A record that has to be reported names an entry by its own strings. -/
def VictimNamed (state : RecordedMemory config) : Prop :=
  state.lastVictimValid = true → ∃ entry ∈ state.memory.entries, ∃ names,
    state.names entry.1 = some names ∧ state.lastVictimFile = some names.file ∧
      state.lastVictimTag = some names.tag

/-- The replacement that a call reports is the one page that leaves its frame in the call. -/
def ReportTrue (state : RecordedMemory config) (change : MemoryChange)
    (replacement : Replacement) : Prop :=
  ∃ victimTag victimPage names, state.names victimTag = some names ∧
    replacement = ⟨some names.file, some names.tag, victimPage⟩ ∧
    ∀ other position, state.EvictedBy change other position ↔
      other = victimTag ∧ position = victimPage

/-- Along a run the record names an entry and the reports are true. -/
structure NeverStale (first : RecordedMemory config) (changes : List MemoryChange) : Prop where
  named : ∀ early late state, changes = early ++ late →
    (recordSystem config).Run first early state → state.VictimNamed
  reported : ∀ early change late state replacement after, changes = early ++ change :: late →
    (recordSystem config).Run first early state →
    state.Returns change (some replacement) after → state.ReportTrue change replacement

/-- A page fault that takes a page of a File:Tag out of its frame and whose own block Storage
refuses. -/
def Abandons (state : RecordedMemory config) : MemoryChange → FileTag → Prop
  | .pageFault faults fileTag pageNumber, victimTag =>
    ∃ frame allocated victimPage place,
      state.Allocates faults fileTag pageNumber.toNat frame allocated ∧
      state.memory.InFrame victimTag victimPage place ∧
      ¬ allocated.memory.InFrame victimTag victimPage place ∧
      faults allocated.memory.requests = true
  | _, _ => False

/-- A call that removes the page table of a File:Tag, or a page fault whose block is the next thing
asked of Storage, and Storage has it. -/
def Exposes (state : RecordedMemory config) (victimTag : FileTag) : MemoryChange → Prop
  | .removePageTable fileTag => fileTag = victimTag
  | .pageFault faults fileTag pageNumber =>
    (state.memory.growTable fileTag pageNumber.toNat).isSome = true ∧
      state.memory.connected = true ∧ faults state.memory.requests = false
  | _ => False

/-- A run contains a page fault that was abandoned after it evicted a page of a File:Tag. -/
def Abandoned (first : RecordedMemory config) (changes : List MemoryChange)
    (state : RecordedMemory config) (victimTag : FileTag) : Prop :=
  ∃ early fault middle before abandoned, changes = early ++ fault :: middle ∧
    (recordSystem config).Run first early before ∧ before.Abandons fault victimTag ∧
    (recordSystem config).step before fault abandoned ∧
    (recordSystem config).Run abandoned middle state

/-- After an abandoned page fault the record comes to light. -/
def Exposed (first : RecordedMemory config) (changes : List MemoryChange) : Prop :=
  ∃ early change late state victimTag, changes = early ++ change :: late ∧
    Abandoned first early state victimTag ∧ state.Exposes victimTag change

section Steps

variable {state after : RecordedMemory config} {change : MemoryChange}
  {report : Option Replacement} {victimTag : FileTag}

def Quiet : MemoryChange → Prop
  | .pageFault _ _ _ => False
  | _ => True

/-- The record, the frames in use and the strings that a call leaves as they were. -/
structure RecordKept (state : RecordedMemory config) (change : MemoryChange)
    (after : RecordedMemory config) : Prop where
  lastVictimValid : after.lastVictimValid = state.lastVictimValid
  lastVictimFile : after.lastVictimFile = state.lastVictimFile
  lastVictimTag : after.lastVictimTag = state.lastVictimTag
  used : after.memory.used = state.memory.used
  names : ∀ fileTag names, state.names fileTag = some names →
    ¬ state.Exposes fileTag change → after.names fileTag = some names

theorem Tidy.recordKept (tidy : Tidy state) (quiet : Quiet change)
    (returns : state.Returns change report after) :
    report = none ∧ RecordKept state change after := by
  obtain ⟨rounds, ends⟩ := returns
  cases change with
  | pageFault _ _ _ => cases quiet
  | setStorageConnection connected =>
      cases ends
      exact ⟨rfl, rfl, rfl, rfl, rfl, fun _ _ held _ => held⟩
  | createPageTable fileTag =>
      cases ends
      unfold RecordedMemory.mmCreatePageTable
      split
      · exact ⟨rfl, rfl, rfl, rfl, rfl, fun _ _ held _ => held⟩
      · rename_i missing
        have sameUsed : (state.memory.mmCreatePageTable fileTag).used = state.memory.used :=
          (Unmoved.mmCreatePageTable state.memory fileTag).used
        refine ⟨rfl, rfl, rfl, rfl, sameUsed, fun other names held _ => ?_⟩
        have different : other ≠ fileTag := by
          rintro rfl
          have named := tidy.named other
          rw [held, missing] at named
          cases named
        exact (Function.update_of_ne different _ _).trans held
  | removePageTable fileTag =>
      cases ends
      unfold RecordedMemory.mmRemovePageTable
      split
      · exact ⟨rfl, rfl, rfl, rfl, rfl, fun _ _ held _ => held⟩
      · have sameUsed : (state.memory.mmRemovePageTable fileTag).used = state.memory.used := by
          rw [mmRemovePageTable_eq]
        refine ⟨rfl, rfl, rfl, rfl, sameUsed, fun other names held hidden => ?_⟩
        exact (Function.update_of_ne (fun same => hidden same.symm) _ _).trans held
  | updatePageAccess fileTag pageNumber =>
      cases ends
      have sameUsed := (Unmoved.mmUpdatePageAccess state.memory fileTag pageNumber.toNat).used
      exact ⟨rfl, rfl, rfl, rfl, sameUsed, fun _ _ held _ => held⟩
  | setDirty fileTag pageNumber dirty =>
      cases ends
      exact ⟨rfl, rfl, rfl, rfl, rfl, fun _ _ held _ => held⟩

/-- The record waits to be reported: its strings are those of an entry, and some frame is free. -/
structure Pending (state : RecordedMemory config) (victimTag : FileTag) : Prop where
  valid : state.lastVictimValid = true
  recorded : ∃ names, state.names victimTag = some names ∧
    state.lastVictimFile = some names.file ∧ state.lastVictimTag = some names.tag
  free : ∃ frame < config.frameCount, state.memory.used frame = false

theorem Pending.victimNamed (pending : Pending state victimTag) (tidy : Tidy state) :
    state.VictimNamed := by
  intro _
  obtain ⟨names, held, file, tag⟩ := pending.recorded
  have named := tidy.named victimTag
  rw [held] at named
  obtain ⟨entry, member, same⟩ := List.mem_map.mp (findPageTable_isSome_iff.mp named.symm)
  refine ⟨entry, member, names, ?_, file, tag⟩
  rw [same]
  exact held

theorem RecordKept.pending (kept : RecordKept state change after)
    (pending : Pending state victimTag) (hidden : ¬ state.Exposes victimTag change) :
    Pending after victimTag := by
  obtain ⟨names, held, file, tag⟩ := pending.recorded
  refine ⟨kept.lastVictimValid.trans pending.valid, ⟨names, kept.names victimTag names held hidden,
    kept.lastVictimFile.trans file, kept.lastVictimTag.trans tag⟩, ?_⟩
  rw [kept.used]
  exact pending.free

theorem AllocatedFrom.settled_or_evicted {allocated : RecordedMemory config} {frame : Nat}
    (allocation : AllocatedFrom state frame allocated)
    (settled : state.lastVictimValid = false) :
    allocated.lastVictimValid = false ∨ ∃ victimTag victimPage,
      state.memory.InFrame victimTag victimPage frame ∧
        ¬ allocated.memory.InFrame victimTag victimPage frame := by
  cases allocation with
  | free _ _ => exact Or.inl settled
  | evicted _ inFrame frames =>
      exact Or.inr ⟨_, _, inFrame, fun still => ((frames _ _ _).mp still).1 ⟨rfl, rfl⟩⟩

/-- A page fault whose block is refused after an eviction leaves the record waiting. -/
theorem AllocatedFrom.pending_of_refused {allocated : RecordedMemory config} {frame place : Nat}
    {victimPage : Nat} (allocation : AllocatedFrom state frame allocated) (tidy : Tidy state)
    (frameLt : frame < config.frameCount)
    (before : state.memory.InFrame victimTag victimPage place)
    (gone : ¬ allocated.memory.InFrame victimTag victimPage place) {mm : MemoryManager config} :
    Pending (allocated.withMemory (mm.mmFreeFrame frame)) victimTag := by
  cases allocation with
  | free _ frames => exact absurd ((frames _ _ _).mpr before) gone
  | evicted _ inFrame frames =>
      rename_i recordedTag recordedPage _
      have same : victimTag = recordedTag := by
        by_contra different
        exact gone ((frames _ _ _).mpr ⟨fun both => different both.1, before⟩)
      subst same
      obtain ⟨names, held⟩ := tidy.names_of_inFrame inFrame
      refine ⟨rfl, ⟨names, held, ?_, ?_⟩, frame, frameLt, ?_⟩
      · exact congrArg (Option.map EntryNames.file) held
      · exact congrArg (Option.map EntryNames.tag) held
      · change (mm.mmFreeFrame frame).used frame = false
        rw [mmFreeFrame, if_neg (Nat.not_le.mpr frameLt)]
        exact Function.update_self _ _ _

theorem AllocatedFrom.reportTrue {faults : StorageFaults} {fileTag : FileTag}
    {pageNumber : UInt32} {frame : Nat} {allocated : RecordedMemory config}
    {replacement : Replacement} (allocation : AllocatedFrom state frame allocated)
    (tidy : Tidy state) (settled : state.lastVictimValid = false)
    (allocates : state.Allocates faults fileTag pageNumber.toNat frame allocated)
    (reports : allocated.replacement = some replacement) :
    state.ReportTrue (.pageFault faults fileTag pageNumber) replacement := by
  cases allocation with
  | free _ _ =>
      unfold RecordedMemory.replacement at reports
      rw [if_neg (by simpa [withMemory] using settled)] at reports
      cases reports
  | evicted _ inFrame frames =>
      rename_i victimTag victimPage _
      obtain ⟨names, held⟩ := tidy.names_of_inFrame inFrame
      refine ⟨victimTag, victimPage, names, held, ?_, ?_⟩
      · cases reports
        simp [recordVictim, withMemory, held]
      · intro other position
        rw [evictedBy_iff allocates]
        constructor
        · rintro ⟨place, before, gone⟩
          by_contra different
          exact gone ((frames other position place).mpr ⟨different, before⟩)
        · rintro ⟨rfl, rfl⟩
          exact ⟨frame, inFrame, fun still => ((frames _ _ _).mp still).1 ⟨rfl, rfl⟩⟩

/-- While there is nothing to report a call reports truly, or it abandons a page fault. -/
theorem Tidy.step_of_settled (tidy : Tidy state) (settled : state.lastVictimValid = false)
    (returns : state.Returns change report after) :
    (after.lastVictimValid = false ∧
      ∀ replacement, report = some replacement → state.ReportTrue change replacement) ∨
    (report = none ∧ ∃ victimTag, state.Abandons change victimTag ∧ Pending after victimTag) := by
  have quietly : Quiet change → after.lastVictimValid = false ∧
      ∀ replacement, report = some replacement → state.ReportTrue change replacement := by
    intro quiet
    obtain ⟨rfl, kept⟩ := tidy.recordKept quiet returns
    exact ⟨kept.lastVictimValid.trans settled, by simp⟩
  cases change with
  | pageFault faults fileTag pageNumber =>
      obtain ⟨rounds, done, fault⟩ := returns.pageFault
      cases tidy.faultEnds pageNumber.toNat_lt fault with
      | notGrown _ => exact Or.inl ⟨settled, by simp⟩
      | apart _ _ => exact Or.inl ⟨settled, by simp⟩
      | noVictim _ _ _ _ => exact Or.inl ⟨settled, by simp⟩
      | refused growing connected allocation frameLt refuses =>
          have allocates : state.Allocates faults fileTag pageNumber.toNat _ _ :=
            ⟨_, rounds, growing, connected, allocation⟩
          have source := tidy.allocatedFrom pageNumber.toNat_lt allocates
          rcases source.settled_or_evicted settled with still | ⟨victimTag, page, before, gone⟩
          · exact Or.inl ⟨still, by simp⟩
          · exact Or.inr ⟨rfl, victimTag,
              ⟨_, _, page, _, allocates, before, gone, refuses⟩,
              source.pending_of_refused tidy frameLt before gone⟩
      | served growing connected allocation frameLt accepts keys frames =>
          have allocates : state.Allocates faults fileTag pageNumber.toNat _ _ :=
            ⟨_, rounds, growing, connected, allocation⟩
          have source := tidy.allocatedFrom pageNumber.toNat_lt allocates
          exact Or.inl ⟨rfl, fun replacement reports =>
            source.reportTrue tidy settled allocates reports⟩
  | _ => exact Or.inl (quietly trivial)

/-- While the record waits, a page fault takes a free frame and asks Storage for nothing before
its block. -/
theorem Pending.allocates (pending : Pending state victimTag) {fileTag : FileTag}
    {pageNumber : Nat} {grown : MemoryManager config}
    (growing : state.memory.growTable fileTag pageNumber = some grown) (faults : StorageFaults)
    (rounds : Nat) :
    ∃ place < config.frameCount, (state.withMemory grown).mmAllocateFrame faults rounds =
      some (some place, state.withMemory (grown.setUsed place true)) := by
  obtain ⟨frame, frameLt, unused⟩ := pending.free
  rw [← (requests_growTable growing).1] at unused
  have stillUnused : (state.withMemory grown).memory.used frame = false := unused
  obtain ⟨place, placeLt, _, allocation⟩ :=
    mmAllocateFrame_of_free frameLt stillUnused faults rounds
  exact ⟨place, placeLt, allocation⟩

theorem Tidy.step_of_pending (tidy : Tidy state) (pending : Pending state victimTag)
    (hidden : ¬ state.Exposes victimTag change)
    (returns : state.Returns change report after) : report = none ∧ Pending after victimTag := by
  have quietly : Quiet change → report = none ∧ Pending after victimTag := by
    intro quiet
    obtain ⟨noReport, kept⟩ := tidy.recordKept quiet returns
    exact ⟨noReport, kept.pending pending hidden⟩
  cases change with
  | pageFault faults fileTag pageNumber =>
      obtain ⟨rounds, done, fault⟩ := returns.pageFault
      cases tidy.faultEnds pageNumber.toNat_lt fault with
      | notGrown _ => exact ⟨rfl, pending⟩
      | apart growing _ =>
          refine ⟨rfl, pending.valid, pending.recorded, ?_⟩
          obtain ⟨frame, frameLt, unused⟩ := pending.free
          refine ⟨frame, frameLt, ?_⟩
          rw [← (requests_growTable growing).1] at unused
          exact unused
      | noVictim growing allocation _ _ =>
          obtain ⟨place, _, taken⟩ := pending.allocates growing faults rounds
          rw [taken] at allocation
          cases allocation
      | refused growing _ allocation frameLt _ =>
          obtain ⟨place, _, taken⟩ := pending.allocates growing faults rounds
          rw [taken] at allocation
          cases allocation
          refine ⟨rfl, pending.valid, pending.recorded, _, frameLt, ?_⟩
          change (mmFreeFrame _ _).used _ = false
          rw [mmFreeFrame, if_neg (Nat.not_le.mpr frameLt)]
          exact Function.update_self _ _ _
      | served growing connected allocation _ accepts _ _ =>
          obtain ⟨place, _, taken⟩ := pending.allocates growing faults rounds
          rw [taken] at allocation
          cases allocation
          obtain ⟨_, sameConnection, sameRequests⟩ := requests_growTable growing
          refine absurd ⟨?_, ?_, ?_⟩ hidden
          · rw [growing]
            rfl
          · rw [← sameConnection]
            exact connected
          · rw [← sameRequests]
            exact accepts
  | _ => exact quietly trivial

/-- A page fault that is abandoned leaves the record waiting, whatever was recorded before. -/
theorem Tidy.pending_of_abandons (tidy : Tidy state) (abandons : state.Abandons change victimTag)
    (returns : state.Returns change report after) : Pending after victimTag := by
  cases change with
  | pageFault faults fileTag pageNumber =>
      obtain ⟨frame, allocated, victimPage, place, allocates, before, gone, refuses⟩ := abandons
      have source := tidy.allocatedFrom pageNumber.toNat_lt allocates
      obtain ⟨rounds, done, fault⟩ := returns.pageFault
      obtain ⟨frameLt, ends⟩ := tidy.fault_of_allocates pageNumber.toNat_lt allocates fault
      rcases ends with ⟨_, _, mm, rfl⟩ | ⟨accepts, _⟩
      · exact source.pending_of_refused tidy frameLt before gone
      · rw [refuses] at accepts
        cases accepts
  | _ => cases abandons

theorem eq_of_text {fileTag other : FileTag} (sameFile : fileTag.file = other.file)
    (sameTag : fileTag.tag = other.tag) : fileTag = other := by
  cases fileTag
  cases other
  simp_all

theorem Pending.not_victimNamed_mmRemovePageTable (pending : Pending state victimTag)
    (tidy : Tidy state) : ¬ (state.mmRemovePageTable victimTag).VictimNamed := by
  intro named
  obtain ⟨names, held, file, tag⟩ := pending.recorded
  have isTable := tidy.named victimTag
  rw [held] at isTable
  obtain ⟨table, found⟩ := Option.isSome_iff_exists.mp isTable.symm
  rw [RecordedMemory.mmRemovePageTable, found] at named
  obtain ⟨entry, _, others, othersHeld, sameFile, sameTag⟩ := named pending.valid
  dsimp only at othersHeld sameFile sameTag
  by_cases same : entry.1 = victimTag
  · rw [same, Function.update_self] at othersHeld
    cases othersHeld
  · rw [Function.update_of_ne same] at othersHeld
    rw [file, Option.some.injEq] at sameFile
    rw [tag, Option.some.injEq] at sameTag
    obtain ⟨fileText, tagText⟩ := tidy.text entry.1 others othersHeld
    obtain ⟨victimFile, victimText⟩ := tidy.text victimTag names held
    rw [← sameFile, victimFile] at fileText
    rw [← sameTag, victimText] at tagText
    exact same (eq_of_text fileText.symm tagText.symm)

/-- A page fault that is served while the record waits reports a page that left its frame
earlier. -/
theorem Pending.false_report (pending : Pending state victimTag) (tidy : Tidy state)
    {faults : StorageFaults} {fileTag : FileTag} {pageNumber : UInt32}
    (exposes : state.Exposes victimTag (.pageFault faults fileTag pageNumber)) :
    ∃ replacement after,
      state.Returns (.pageFault faults fileTag pageNumber) (some replacement) after ∧
        ¬ state.ReportTrue (.pageFault faults fileTag pageNumber) replacement := by
  obtain ⟨grows, connection, accepts⟩ := exposes
  obtain ⟨grown, growing⟩ := Option.isSome_iff_exists.mp grows
  obtain ⟨_, sameConnection, sameRequests⟩ := requests_growTable growing
  obtain ⟨place, _, taken⟩ := pending.allocates growing faults 0
  have connected : grown.connected = true := sameConnection.trans connection
  have allocates : state.Allocates faults fileTag pageNumber.toNat place _ :=
    ⟨grown, 0, growing, connected, taken⟩
  have returns : ∃ outcome,
      state.mmHandlePageFault faults 0 fileTag pageNumber.toNat = some outcome := by
    unfold mmHandlePageFault
    rw [growing]
    dsimp only
    rw [connected, taken]
    exact ⟨_, rfl⟩
  obtain ⟨⟨done, report, after⟩, fault⟩ := returns
  rcases (tidy.fault_of_allocates pageNumber.toNat_lt allocates fault).2 with
      ⟨refuses, _⟩ | ⟨_, reports⟩
  · have asked : faults grown.requests = true := refuses
    rw [sameRequests, accepts] at asked
    cases asked
  · have waiting : (state.withMemory (grown.setUsed place true)).replacement =
        some ⟨state.lastVictimFile, state.lastVictimTag, state.lastVictimPage⟩ :=
      if_pos pending.valid
    rw [reports, waiting] at fault
    refine ⟨_, after, ⟨0, congrArg (Option.map Prod.snd) fault⟩, ?_⟩
    rintro ⟨victim, page, names, _, _, evicted⟩
    obtain ⟨_, before, gone⟩ :=
      (evictedBy_iff allocates).mp ((evicted victim page).mpr ⟨rfl, rfl⟩)
    have same : SamePlaces grown (grown.setUsed place true) := SamePlaces.of_entries rfl
    obtain ⟨_, frames, _⟩ := growTable_frames pageNumber.toNat_lt growing
    exact gone (same.inFrame_iff.mpr ((frames _ _ _).mpr before))

end Steps

section Runs

variable {first state abandoned : RecordedMemory config} {changes early middle : List MemoryChange}
  {change : MemoryChange} {victimTag : FileTag}

theorem Abandoned.snoc {after : RecordedMemory config}
    (waits : Abandoned first early state victimTag)
    (step : (recordSystem config).step state change after) :
    Abandoned first (early ++ [change]) after victimTag := by
  obtain ⟨start, fault, rest, before, abandoned, rfl, run, abandons, leaves, later⟩ := waits
  exact ⟨start, fault, rest ++ [change], before, abandoned, by simp, run, abandons, leaves,
    later.snoc step⟩

theorem Exposed.append (exposed : Exposed first early) (late : List MemoryChange) :
    Exposed first (early ++ late) := by
  obtain ⟨start, exposing, rest, state, victimTag, rfl, waits, exposes⟩ := exposed
  exact ⟨start, exposing, rest ++ late, state, victimTag, by simp, waits, exposes⟩

/-- Until something exposes it, the record is cleared or waits after an abandoned page fault. -/
theorem settled_or_pending (created : first.Created)
    (run : (recordSystem config).Run first changes state) :
    Exposed first changes ∨ state.lastVictimValid = false ∨
      ∃ victimTag, Abandoned first changes state victimTag ∧ Pending state victimTag := by
  induction run with
  | nil => exact Or.inr (Or.inl created.lastVictimValid)
  | snoc before step ih =>
      rename_i middle after labels change
      have tidy := created.tidy.run before
      obtain ⟨report, returns⟩ := step
      rcases ih with exposed | settled | ⟨victimTag, waits, pending⟩
      · exact Or.inl (exposed.append [change])
      · rcases tidy.step_of_settled settled returns with
          ⟨still, _⟩ | ⟨_, victimTag, abandons, waits⟩
        · exact Or.inr (Or.inl still)
        · have abandoned : Abandoned first (labels ++ [change]) after victimTag :=
            ⟨labels, change, [], middle, after, rfl, before, abandons, ⟨report, returns⟩, .nil⟩
          exact Or.inr (Or.inr ⟨victimTag, abandoned, waits⟩)
      · by_cases exposes : middle.Exposes victimTag change
        · exact Or.inl ⟨labels, change, [], middle, victimTag, rfl, waits, exposes⟩
        · obtain ⟨_, still⟩ := tidy.step_of_pending pending exposes returns
          exact Or.inr (Or.inr ⟨victimTag, waits.snoc ⟨report, returns⟩, still⟩)

theorem neverStale_of_not_exposed (created : first.Created) (hidden : ¬ Exposed first changes) :
    NeverStale first changes where
  named early late state split run := by
    rcases settled_or_pending created run with exposed | settled | ⟨victimTag, _, pending⟩
    · rw [split] at hidden
      exact absurd (exposed.append late) hidden
    · intro valid
      rw [settled] at valid
      cases valid
    · exact pending.victimNamed (created.tidy.run run)
  reported early change late state replacement after split run returns := by
    have tidy := created.tidy.run run
    rcases settled_or_pending created run with exposed | settled | ⟨victimTag, waits, pending⟩
    · rw [split] at hidden
      exact absurd (exposed.append (change :: late)) hidden
    · rcases tidy.step_of_settled settled returns with ⟨_, isTrue⟩ | ⟨noReport, _⟩
      · exact isTrue replacement rfl
      · cases noReport
    · have hides : ¬ state.Exposes victimTag change := fun exposes =>
        hidden ⟨early, change, late, state, victimTag, split, waits, exposes⟩
      cases (tidy.step_of_pending pending hides returns).1

/-- What exposes a waiting record leaves it without strings or makes a false report. -/
theorem NeverStale.not_exposes {late : List MemoryChange}
    (never : NeverStale first (early ++ change :: late)) (tidy : Tidy state)
    (run : (recordSystem config).Run first early state) (pending : Pending state victimTag) :
    ¬ state.Exposes victimTag change := by
  intro exposes
  cases change with
  | removePageTable fileTag =>
      obtain rfl : fileTag = victimTag := exposes
      have removal : (recordSystem config).step state (.removePageTable fileTag)
          (state.mmRemovePageTable fileTag) := ⟨none, 0, rfl⟩
      exact pending.not_victimNamed_mmRemovePageTable tidy
        (never.named _ late _ (by simp) (run.snoc removal))
  | pageFault faults fileTag pageNumber =>
      obtain ⟨replacement, after, returns, isFalse⟩ := pending.false_report tidy exposes
      exact isFalse (never.reported early _ late state replacement after rfl run returns)
  | _ => cases exposes

/-- The record still waits at the end of what follows an abandoned page fault. -/
theorem NeverStale.pending_run {late : List MemoryChange}
    (never : NeverStale first (early ++ (middle ++ late))) (tidy : Tidy abandoned)
    (before : (recordSystem config).Run first early abandoned)
    (run : (recordSystem config).Run abandoned middle state)
    (pending : Pending abandoned victimTag) : Pending state victimTag := by
  induction run generalizing late with
  | nil => exact pending
  | snoc rest step ih =>
      rename_i reached after labels change
      rw [List.append_assoc] at never
      have still := ih never
      obtain ⟨report, returns⟩ := step
      have reachedTidy := tidy.run rest
      rw [← List.append_assoc] at never
      have hides := never.not_exposes reachedTidy (before.append rest) still
      exact (reachedTidy.step_of_pending still hides returns).2

/-- The record is never stale exactly when nothing exposes it after a page fault that evicted a
page and was abandoned because Storage refused its block. -/
theorem neverStale_iff (created : first.Created) :
    NeverStale first changes ↔ ¬ Exposed first changes := by
  constructor
  · rintro never ⟨early, exposing, late, state, victimTag, rfl, waits, exposes⟩
    obtain ⟨start, fault, middle, before, abandoned, rfl, run, abandons, step, later⟩ := waits
    obtain ⟨report, returns⟩ := step
    have tidy := created.tidy.run run
    have leaves : (recordSystem config).Run first (start ++ [fault]) abandoned :=
      run.snoc ⟨report, returns⟩
    have abandonedTidy := tidy.returns returns
    have pending := tidy.pending_of_abandons abandons returns
    have split : start ++ fault :: middle ++ exposing :: late =
        (start ++ [fault]) ++ (middle ++ exposing :: late) := by simp
    rw [split] at never
    have still := never.pending_run abandonedTidy leaves later pending
    rw [← List.append_assoc] at never
    exact never.not_exposes (abandonedTidy.run later) (leaves.append later) still exposes
  · exact neverStale_of_not_exposed created

/-- While Storage has every block that is asked for, nothing is abandoned. -/
theorem not_exposed_of_accepted (accepted : ∀ faults fileTag pageNumber,
    MemoryChange.pageFault faults fileTag pageNumber ∈ changes →
      ∀ request, faults request = false) : ¬ Exposed first changes := by
  rintro ⟨early, exposing, late, state, victimTag, rfl, waits, _⟩
  obtain ⟨start, fault, middle, before, abandoned, rfl, _, abandons, _, _⟩ := waits
  cases fault with
  | pageFault faults fileTag pageNumber =>
      obtain ⟨_, _, _, _, _, _, _, refuses⟩ := abandons
      rw [accepted faults fileTag pageNumber (by simp)] at refuses
      cases refuses
  | _ => cases abandons

end Runs

section Examples

def bounded (rounds : Nat) (state : RecordedMemory config) (change : MemoryChange) :
    Option (RecordedMemory config) :=
  (state.perform rounds change).map Prod.snd

/-- What a bounded search finds an unbounded one finds too. -/
theorem simulation_bounded (rounds : Nat) :
    (TransitionSystem.ofNext Created (bounded rounds)).Simulation (recordSystem config) Eq where
  initial state created := ⟨state, created, rfl⟩
  step before change after image same performs := by
    subst same
    obtain ⟨⟨report, left⟩, ends, rfl⟩ := Option.map_eq_some_iff.mp performs
    exact ⟨left, ⟨report, rounds, ends⟩, rfl⟩

theorem run_of_bounded {rounds : Nat} {first last : RecordedMemory config}
    {changes : List MemoryChange}
    (ends : TransitionSystem.runNext (bounded rounds) first changes = some last) :
    (recordSystem config).Run first changes last := by
  have run : (TransitionSystem.ofNext Created (bounded rounds)).Run first changes last :=
    TransitionSystem.run_of_runNext ends
  obtain ⟨_, simulated, rfl⟩ := (simulation_bounded rounds).run run rfl
  exact simulated

def createdMemory : RecordedMemory oneFrameConfig where
  memory := { emptyMemory with connected := false }
  names _ := none
  nextBlock := 0
  lastVictimFile := none
  lastVictimTag := none
  lastVictimPage := 0
  lastVictimValid := false

theorem created_createdMemory : createdMemory.Created :=
  ⟨⟨rfl, fun _ => rfl, rfl⟩, rfl, fun _ => rfl, rfl, rfl, rfl, rfl⟩

/-- Page 0 of a file is in the only frame, and another file has a page table. -/
def filledFrame : List MemoryChange :=
  [.setStorageConnection true, .createPageTable ⟨"MATERIAS", "BASE"⟩,
    .pageFault (fun _ => false) ⟨"MATERIAS", "BASE"⟩ 0,
    .createPageTable ⟨"ESTUDIANTES", "BASE"⟩]

/-- With a Storage that has every block the report of the eviction is the true one. -/
theorem neverStale_filledFrame :
    (∃ state after replacement, (recordSystem oneFrameConfig).Run createdMemory filledFrame state ∧
      state.Returns (.pageFault (fun _ => false) ⟨"ESTUDIANTES", "BASE"⟩ 0) (some replacement)
        after) ∧
    NeverStale createdMemory
      (filledFrame ++ [.pageFault (fun _ => false) ⟨"ESTUDIANTES", "BASE"⟩ 0]) := by
  constructor
  · have reports : (TransitionSystem.runNext (bounded 2) createdMemory filledFrame).any
        (fun state => (state.perform 2
          (.pageFault (fun _ => false) ⟨"ESTUDIANTES", "BASE"⟩ 0)).any
            fun outcome => outcome.1.isSome) = true := by
      decide +kernel
    obtain ⟨state, ends, fault⟩ := (Option.any_eq_true _ _).mp reports
    obtain ⟨⟨report, after⟩, returns, isSome⟩ := (Option.any_eq_true _ _).mp fault
    obtain ⟨replacement, rfl⟩ := Option.isSome_iff_exists.mp isSome
    exact ⟨state, after, replacement, run_of_bounded ends, 2, returns⟩
  · apply (neverStale_iff created_createdMemory).mpr
    apply not_exposed_of_accepted
    intro faults fileTag pageNumber member request
    have accepts : faults = fun _ => false := by
      simp only [filledFrame, List.cons_append, List.nil_append, List.mem_cons, reduceCtorEq,
        MemoryChange.pageFault.injEq, List.not_mem_nil, false_or, or_false] at member
      rcases member with ⟨same, _⟩ | ⟨same, _⟩
      · exact same
      · exact same
    rw [accepts]

/-- Storage refuses the block for which the frame was cleared. -/
def abandonedFault : List MemoryChange :=
  filledFrame ++ [.pageFault (fun request => decide (request = 1)) ⟨"ESTUDIANTES", "BASE"⟩ 0]

/-- The record points to freed strings once the first file is removed, and a second attempt for the
block reports the eviction of the first. -/
theorem stale_abandonedFault :
    (∃ state, (recordSystem oneFrameConfig).Run createdMemory
      (abandonedFault ++ [.removePageTable ⟨"MATERIAS", "BASE"⟩]) state ∧ ¬ state.VictimNamed) ∧
    ∃ state replacement after,
      (recordSystem oneFrameConfig).Run createdMemory abandonedFault state ∧
        state.Returns (.pageFault (fun _ => false) ⟨"ESTUDIANTES", "BASE"⟩ 0) (some replacement)
          after ∧
        ¬ state.ReportTrue (.pageFault (fun _ => false) ⟨"ESTUDIANTES", "BASE"⟩ 0)
          replacement := by
  have summary : (TransitionSystem.runNext (bounded 2) createdMemory abandonedFault).any
      (fun state => state.lastVictimValid && !state.memory.used 0 && state.memory.connected &&
        (state.memory.growTable ⟨"ESTUDIANTES", "BASE"⟩ 0).isSome &&
        (state.names ⟨"MATERIAS", "BASE"⟩).any fun names =>
          decide (state.lastVictimFile = some names.file) &&
            decide (state.lastVictimTag = some names.tag)) = true := by
    decide +kernel
  obtain ⟨state, ends, facts⟩ := (Option.any_eq_true _ _).mp summary
  simp only [Bool.and_eq_true, Bool.not_eq_true', Option.any_eq_true, decide_eq_true_eq] at facts
  obtain ⟨⟨⟨⟨valid, unused⟩, connected⟩, grows⟩, recorded⟩ := facts
  have pending : Pending state ⟨"MATERIAS", "BASE"⟩ :=
    ⟨valid, recorded, 0, Nat.one_pos, unused⟩
  have run := run_of_bounded ends
  have tidy := created_createdMemory.tidy.run run
  constructor
  · exact ⟨state.mmRemovePageTable ⟨"MATERIAS", "BASE"⟩, run.snoc ⟨none, 0, rfl⟩,
      pending.not_victimNamed_mmRemovePageTable tidy⟩
  · have exposes : state.Exposes ⟨"MATERIAS", "BASE"⟩
        (.pageFault (fun _ => false) ⟨"ESTUDIANTES", "BASE"⟩ 0) := ⟨grows, connected, rfl⟩
    obtain ⟨replacement, after, returns, isFalse⟩ := pending.false_report tidy exposes
    exact ⟨state, replacement, after, run, returns, isFalse⟩

theorem not_neverStale_abandonedFault : createdMemory.Created ∧
    ¬ NeverStale createdMemory (abandonedFault ++ [.removePageTable ⟨"MATERIAS", "BASE"⟩]) ∧
    ¬ NeverStale createdMemory
      (abandonedFault ++ [.pageFault (fun _ => false) ⟨"ESTUDIANTES", "BASE"⟩ 0]) := by
  obtain ⟨⟨dangling, removal, unnamed⟩, state, replacement, after, run, returns, isFalse⟩ :=
    stale_abandonedFault
  refine ⟨created_createdMemory, fun never => ?_, fun never => ?_⟩
  · exact unnamed (never.named _ [] dangling (by simp) removal)
  · exact isFalse (never.reported abandonedFault _ [] state replacement after rfl run returns)

end Examples

end RecordedMemory

end Worker

end MasterOfFiles
