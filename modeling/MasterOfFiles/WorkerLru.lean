import MasterOfFiles.WorkerTimestamps

/-!
# The victim of LRU

A run is recorded as the pages that its accesses touch and the states in which it looks for a
victim.  In each of these states the timestamps are in the order of the accesses, so the page with
the smallest timestamp is the one whose last access is the oldest.
-/

namespace MasterOfFiles

namespace Worker

namespace MemoryManager

variable {config : MemoryConfig} {mm middle after : MemoryManager config}
  {faults : StorageFaults} {fileTag : FileTag} {number : Nat} {entry : PageEntry}

section Victim

/-- The search keeps the present page with the smallest timestamp. -/
theorem foldl_olderPage_least (pages : List (FileTag × Nat × PageEntry))
    (best : Nat × Option (FileTag × Nat × PageEntry)) :
    (pages.foldl olderPage best).1 ≤ best.1 ∧
      (∀ candidate ∈ pages, candidate.2.2.present = true →
        (pages.foldl olderPage best).1 ≤ candidate.2.2.lastAccessTime) ∧
      ((∀ candidate, best.2 = some candidate → candidate.2.2.lastAccessTime = best.1) →
        ∀ candidate, (pages.foldl olderPage best).2 = some candidate →
          candidate.2.2.lastAccessTime = (pages.foldl olderPage best).1) := by
  induction pages generalizing best with
  | nil => simp
  | cons page rest ih =>
      rw [List.foldl_cons]
      obtain ⟨smaller, least, chosen⟩ := ih (olderPage best page)
      have step : (olderPage best page).1 ≤ best.1 ∧ (page.2.2.present = true →
          (olderPage best page).1 ≤ page.2.2.lastAccessTime) := by
        unfold olderPage
        split
        · rename_i older
          exact ⟨Nat.le_of_lt older.2, fun _ => Nat.le_refl _⟩
        · rename_i notOlder
          rw [not_and, Nat.not_lt] at notOlder
          exact ⟨Nat.le_refl _, notOlder⟩
      refine ⟨smaller.trans step.1, ?_, ?_⟩
      · intro candidate member isPresent
        rcases List.mem_cons.mp member with rfl | later
        · exact smaller.trans (step.2 isPresent)
        · exact least candidate later isPresent
      · intro starts
        apply chosen
        intro candidate best
        unfold olderPage at best ⊢
        split
        · rename_i older
          rw [if_pos older] at best
          rw [← Option.some.inj best]
        · rename_i notOlder
          rw [if_neg notOlder] at best
          exact starts candidate best

/-- A search that succeeds evicts the one page whose last access is the oldest, after a
write-back that Storage accepted when the page was dirty. -/
def EvictsLeastRecent (history : List PageName) (faults : StorageFaults)
    (mm : MemoryManager config) : Prop :=
  ∀ frame after, mm.mmFindLruVictim faults = (some frame, after) →
    ∃ fileTag number entry, mm.Present fileTag number entry ∧ entry.frame = frame ∧
      (fileTag, number) ∈ history ∧ (entry.dirty = true → faults mm.requests = false) ∧
      (∀ other position found, after.Present other position found ↔
        ¬ (other = fileTag ∧ position = number) ∧ mm.Present other position found) ∧
      ∀ other position found, after.Present other position found →
        lastAccess history (fileTag, number) < lastAccess history (other, position)

/-- A search that fails changes no page table and no frame. -/
def FailureEvictsNothing (faults : StorageFaults) (mm : MemoryManager config) : Prop :=
  ∀ after, mm.mmFindLruVictim faults = (none, after) →
    after.entries = mm.entries ∧ after.used = mm.used ∧
      after.physicalMemory = mm.physicalMemory

theorem failureEvictsNothing (faults : StorageFaults) (mm : MemoryManager config) :
    FailureEvictsNothing faults mm := by
  intro after search
  unfold mmFindLruVictim at search
  split at search
  · obtain ⟨_, rfl⟩ := Prod.mk.inj search
    exact ⟨rfl, rfl, rfl⟩
  · split at search
    · split at search
      · rename_i failed wrote
        obtain ⟨_, rfl⟩ := Prod.mk.inj search
        unfold writeBlockToStorage at wrote
        split at wrote
        · obtain ⟨_, rfl⟩ := Prod.mk.inj wrote
          exact ⟨rfl, rfl, rfl⟩
        · simp at wrote
      · simp at search
    · simp at search

/-- What a successful search has done: the chosen page is present with the smallest timestamp, and
it is the one page that is evicted. -/
theorem mmFindLruVictim_chosen (keys : (mm.entries.map Prod.fst).Nodup) {frame : Nat}
    (search : mm.mmFindLruVictim faults = (some frame, after)) :
    ∃ fileTag number entry, mm.Present fileTag number entry ∧ entry.frame = frame ∧
      (entry.dirty = true → faults mm.requests = false) ∧
      (∀ other position found, after.Present other position found ↔
        ¬ (other = fileTag ∧ position = number) ∧ mm.Present other position found) ∧
      ∀ other position found, mm.Present other position found →
        entry.lastAccessTime ≤ found.lastAccessTime := by
  unfold mmFindLruVictim at search
  split at search
  · simp at search
  · rename_i fileTag number entry oldest
    have present := present_of_oldest keys oldest
    have least : ∀ other position found, mm.Present other position found →
        entry.lastAccessTime ≤ found.lastAccessTime := by
      obtain ⟨_, smallest, chosen⟩ := foldl_olderPage_least mm.allPages (2 ^ 64 - 1, none)
      have timeEq := chosen (by simp) _ oldest
      intro other position found isPresent
      rw [timeEq]
      exact smallest (other, position, found)
        ((page_eq_some_iff_mem_allPages keys).mp isPresent.held) isPresent.present
    split at search
    · split at search
      · simp at search
      · rename_i written wrote
        obtain ⟨frameEq, rfl⟩ := Prod.mk.inj search
        have entriesEq := entries_of_writeBlockToStorage wrote
        have accepted : faults mm.requests = false := by
          unfold writeBlockToStorage at wrote
          split at wrote
          · simp at wrote
          · rename_i accepts
            simpa using accepts
        refine ⟨fileTag, number, entry, present, Option.some.inj frameEq, fun _ => accepted, ?_,
          least⟩
        intro other position found
        rw [present_evict (present.of_entries entriesEq).held]
        refine and_congr_right fun _ => ?_
        exact ⟨fun kept => kept.of_entries entriesEq.symm, fun kept => kept.of_entries entriesEq⟩
    · rename_i clean
      obtain ⟨frameEq, rfl⟩ := Prod.mk.inj search
      refine ⟨fileTag, number, entry, present, Option.some.inj frameEq, fun dirty => ?_, ?_, least⟩
      · exact absurd dirty clean
      · intro other position found
        exact present_evict present.held

theorem AccessOrder.evictsLeastRecent {history : List PageName}
    (ordered : AccessOrder history mm) (faults : StorageFaults) :
    EvictsLeastRecent history faults mm := by
  intro frame after search
  obtain ⟨fileTag, number, entry, present, frameEq, accepted, presentIff, least⟩ :=
    mmFindLruVictim_chosen ordered.keys search
  refine ⟨fileTag, number, entry, present, frameEq, ordered.accessed _ _ entry present, accepted,
    presentIff, ?_⟩
  intro other position found isPresent
  obtain ⟨elsewhere, foundPresent⟩ := (presentIff other position found).mp isPresent
  rw [← ordered.order _ _ entry _ _ found present foundPresent]
  apply lt_of_le_of_ne (least other position found foundPresent)
  intro same
  have samePage := ordered.page_eq_of_lastAccessTime_eq present foundPresent same
  exact elsewhere (by simpa [eq_comm] using samePage)

end Victim

section Recording

/-- What a run does that matters to LRU: an access to a page, and a search for a victim in a
state. -/
inductive MemoryEvent (config : MemoryConfig)
  | access (page : PageName)
  | victimSearch (mm : MemoryManager config)

def accesses (events : List (MemoryEvent config)) : List PageName :=
  events.filterMap fun
    | .access page => some page
    | .victimSearch _ => none

/-- The searches of `mm_allocate_frame`: one when no frame is free. -/
def allocationEvents (mm : MemoryManager config) : List (MemoryEvent config) :=
  match (List.range config.frameCount).find? fun frame => !mm.used frame with
  | some _ => []
  | none =>
    match config.policy with
    | .lru => [.victimSearch mm]
    | .clockM => []

/-- The searches of `mm_handle_page_fault`. -/
def faultEvents (mm : MemoryManager config) (fileTag : FileTag) (pageNumber : Nat) :
    List (MemoryEvent config) :=
  match mm.growTable fileTag pageNumber with
  | none => []
  | some grown => if !grown.connected then [] else grown.allocationEvents

def presenceEvents (mm : MemoryManager config) (fileTag : FileTag) (pageNumber : Nat) :
    List (MemoryEvent config) :=
  match mm.growTable fileTag pageNumber with
  | none => []
  | some grown =>
    if (grown.page fileTag pageNumber).any PageEntry.present then []
    else grown.faultEvents fileTag pageNumber

/-- The transfer of the bytes of one page in the loop of `mm_access_memory`. -/
def transferPage (mm : MemoryManager config) (fileTag : FileTag) (write : Bool)
    (pageNumber offset : Nat) (buffer : List UInt8) : MemoryManager config :=
  let frame := ((mm.page fileTag pageNumber).map PageEntry.frame).getD 0
  let count := min (config.pageSize - offset) buffer.length
  let accessed := mm.mmUpdatePageAccess fileTag pageNumber
  if write then
    (accessed.loadFrame frame (patchPage (accessed.physicalMemory frame) offset
      (buffer.take count))).ptSetDirty fileTag pageNumber true
  else accessed

/-- The events of the loop of `mm_access_memory`, whose accesses are the pages it transfers. -/
def accessEvents (faults : StorageFaults) (fileTag : FileTag) (write : Bool) :
    Nat → Nat → Nat → List UInt8 → MemoryManager config → List (MemoryEvent config)
  | 0, _, _, _, _ => []
  | steps + 1, pageNumber, offset, buffer, mm =>
    if buffer.isEmpty then []
    else
      mm.presenceEvents fileTag pageNumber ++
        match mm.ensurePresent faults fileTag pageNumber with
        | (false, _) => []
        | (true, present) =>
          .access (fileTag, pageNumber) ::
            accessEvents faults fileTag write steps ((pageNumber + 1) % 2 ^ 32) 0
              (buffer.drop (min (config.pageSize - offset) buffer.length))
              (present.transferPage fileTag write pageNumber offset buffer)

/-- The events of `mm_access_memory`. -/
def memoryEvents (faults : StorageFaults) (mm : MemoryManager config)
    (fileTag : FileTag) (baseAddress : UInt32) (buffer : List UInt8) (write : Bool) :
    List (MemoryEvent config) :=
  if buffer.isEmpty ∨ (mm.findPageTable fileTag).isNone then []
  else
    accessEvents faults fileTag write buffer.length (baseAddress.toNat / config.pageSize)
      (baseAddress.toNat % config.pageSize) buffer mm

/-- The events of a call; flushing and creating tables neither access a page nor need a frame. -/
def callEvents (faults : StorageFaults) (mm : MemoryManager config) :
    MemoryCall → List (MemoryEvent config)
  | .read fileTag baseAddress size =>
    mm.memoryEvents faults fileTag baseAddress (List.replicate size 0) false
  | .write fileTag baseAddress data => mm.memoryEvents faults fileTag baseAddress data true
  | .createPageTable _ | .flushQuery _ | .flushAllDirty => []

/-- Runs of calls with the events so far, from a memory manager as `mm_create` returns it when
the Worker has started. -/
def recordedSystem (config : MemoryConfig) :
    TransitionSystem (MemoryManager config × List (MemoryEvent config)) MemoryCall where
  initial state := Created state.1 ∧ state.1.globalTimestamp = 0 ∧ state.2 = []
  step before call after := ∃ faults, after.1 = before.1.perform faults call ∧
    after.2 = before.2 ++ before.1.callEvents faults call

@[simp]
theorem accesses_append (first second : List (MemoryEvent config)) :
    accesses (first ++ second) = accesses first ++ accesses second :=
  List.filterMap_append

theorem accessLoop_succ (faults : StorageFaults) (fileTag : FileTag) (write : Bool)
    (steps pageNumber offset : Nat) (buffer : List UInt8) (mm : MemoryManager config) :
    (accessLoop faults fileTag write (steps + 1) pageNumber offset buffer mm).2.2 =
      if buffer.isEmpty then mm
      else
        match mm.ensurePresent faults fileTag pageNumber with
        | (false, failed) => failed
        | (true, present) =>
          (accessLoop faults fileTag write steps ((pageNumber + 1) % 2 ^ 32) 0
            (buffer.drop (min (config.pageSize - offset) buffer.length))
            (present.transferPage fileTag write pageNumber offset buffer)).2.2 := by
  rw [accessLoop]
  split
  · rfl
  · cases mm.ensurePresent faults fileTag pageNumber with
    | mk done present => cases done <;> rfl

end Recording

section Runs

/-- In every state in which a victim is looked for, the timestamps are in the order of the accesses
up to then. -/
def SearchesOrdered : List PageName → List (MemoryEvent config) → Prop
  | _, [] => True
  | history, .access page :: rest => SearchesOrdered (history ++ [page]) rest
  | history, .victimSearch searched :: rest =>
    AccessOrder history searched ∧ SearchesOrdered history rest

variable {history : List PageName}

theorem append_accesses_cons (history : List PageName) (page : PageName)
    (events : List (MemoryEvent config)) :
    history ++ accesses (.access page :: events) = (history ++ [page]) ++ accesses events := by
  simp [accesses]

theorem searchesOrdered_append {first second : List (MemoryEvent config)} :
    SearchesOrdered history (first ++ second) ↔
      SearchesOrdered history first ∧ SearchesOrdered (history ++ accesses first) second := by
  induction first generalizing history with
  | nil => simp [SearchesOrdered, accesses]
  | cons event rest ih =>
      cases event with
      | access page => simp [SearchesOrdered, accesses, ih]
      | victimSearch searched => simp [SearchesOrdered, accesses, ih, and_assoc]

theorem accesses_presenceEvents (mm : MemoryManager config) (fileTag : FileTag) (number : Nat) :
    accesses (mm.presenceEvents fileTag number) = [] := by
  unfold presenceEvents faultEvents allocationEvents
  repeat' split
  all_goals rfl

/-- A search happens in a state whose present pages are those before the call. -/
theorem AccessOrder.presenceEvents (ordered : AccessOrder history mm) (fileTag : FileTag)
    (number : Nat) : SearchesOrdered history (mm.presenceEvents fileTag number) := by
  have allocation : ∀ {searched : MemoryManager config}, AccessOrder history searched →
      SearchesOrdered history searched.allocationEvents := by
    intro searched searchedOrdered
    unfold allocationEvents
    split
    · trivial
    · split
      · exact ⟨searchedOrdered, trivial⟩
      · trivial
  unfold MemoryManager.presenceEvents
  split
  · trivial
  · rename_i grown growing
    split
    · trivial
    · unfold faultEvents
      split
      · trivial
      · rename_i again growingAgain
        split
        · trivial
        · exact allocation ((ordered.keepsTimes (KeepsTimes.growTable growing)).keepsTimes
            (KeepsTimes.growTable growingAgain))

/-- One round of the loop of `mm_access_memory` accesses its page. -/
theorem transferPage_touches (lru : config.policy = .lru)
    (small : mm.globalTimestamp + 2 < 2 ^ 64)
    (access : mm.ensurePresent faults fileTag number = (true, middle)) (write : Bool)
    (offset : Nat) (buffer : List UInt8) :
    Touches 2 (fileTag, number) mm (middle.transferPage fileTag write number offset buffer) := by
  have present := ensurePresent_times lru (by omega) access
  have room : middle.globalTimestamp + 1 < 2 ^ 64 := by
    rcases present with keeps | ⟨_, touches⟩
    · rw [keeps.timestamp]
      omega
    · have bound := touches.timestamp_le
      omega
  have update : Touches 1 (fileTag, number) middle (middle.mmUpdatePageAccess fileTag number) :=
    Touches.mmUpdatePageAccess lru room id rfl fun _ _ _ _ isPresent => isPresent
  have accessed : Touches 2 (fileTag, number) mm (middle.mmUpdatePageAccess fileTag number) := by
    rcases present with keeps | ⟨_, touches⟩
    · have once := update.after_keepsTimes keeps
      exact ⟨once.keys, once.timestamp_ge, by have bound := once.timestamp_le; omega, once.newest,
        once.others⟩
    · exact touches.trans update
  unfold transferPage
  dsimp only
  split
  · refine accessed.keepsTimes (KeepsTimes.trans ?_ (KeepsTimes.ptSetDirty _ _ _ _))
    exact KeepsTimes.of_entries rfl rfl
  · exact accessed

theorem AccessOrder.accessLoop (lru : config.policy = .lru) {write : Bool} {steps offset : Nat}
    {buffer : List UInt8} (ordered : AccessOrder history mm)
    (few : (history ++ accesses (accessEvents faults fileTag write steps number offset buffer
      mm)).length < 2 ^ 62) :
    AccessOrder (history ++ accesses (accessEvents faults fileTag write steps number offset buffer
        mm)) (accessLoop faults fileTag write steps number offset buffer mm).2.2 ∧
      SearchesOrdered history
        (accessEvents faults fileTag write steps number offset buffer mm) := by
  induction steps generalizing mm number offset buffer history with
  | zero => simpa [accessEvents, MemoryManager.accessLoop, accesses, SearchesOrdered] using ordered
  | succ steps ih =>
      rw [accessLoop_succ]
      rw [accessEvents] at few ⊢
      split
      · simpa [accesses, SearchesOrdered] using ordered
      · rename_i nonempty
        simp only [nonempty, if_false, Bool.false_eq_true] at few
        have searches := ordered.presenceEvents fileTag number
        have small : mm.globalTimestamp + 2 < 2 ^ 64 := by
          have bound := ordered.timestamp_le
          simp only [List.length_append] at few
          omega
        rw [searchesOrdered_append, accesses_append, accesses_presenceEvents, List.nil_append,
          List.append_nil]
        rw [accesses_append, accesses_presenceEvents, List.nil_append] at few
        cases access : mm.ensurePresent faults fileTag number with
        | mk done present =>
            cases done with
            | false =>
                rcases ensurePresent_times lru (by omega) access with keeps | ⟨ended, _⟩
                · simpa [accesses, SearchesOrdered, searches] using ordered.keepsTimes keeps
                · cases ended
            | true =>
                rw [access] at few
                have touched := transferPage_touches lru small access write offset buffer
                simp only [append_accesses_cons] at few ⊢
                obtain ⟨last, rest⟩ := ih (ordered.touches touched) few
                exact ⟨last, searches, rest⟩

theorem AccessOrder.mmAccessMemory (lru : config.policy = .lru) {baseAddress : UInt32}
    {buffer : List UInt8} {write : Bool} (ordered : AccessOrder history mm)
    (few : (history ++ accesses (mm.memoryEvents faults fileTag baseAddress buffer
      write)).length < 2 ^ 62) :
    AccessOrder (history ++ accesses (mm.memoryEvents faults fileTag baseAddress buffer write))
        (mm.mmAccessMemory faults fileTag baseAddress buffer write).2.2 ∧
      SearchesOrdered history (mm.memoryEvents faults fileTag baseAddress buffer write) := by
  unfold memoryEvents at few ⊢
  unfold MemoryManager.mmAccessMemory
  split
  · simpa [accesses, SearchesOrdered] using ordered
  · rename_i enters
    rw [if_neg enters] at few
    exact ordered.accessLoop lru few

theorem AccessOrder.perform (lru : config.policy = .lru) (ordered : AccessOrder history mm)
    (call : MemoryCall)
    (few : (history ++ accesses (mm.callEvents faults call)).length < 2 ^ 62) :
    AccessOrder (history ++ accesses (mm.callEvents faults call)) (mm.perform faults call) ∧
      SearchesOrdered history (mm.callEvents faults call) := by
  have quiet : ∀ {after : MemoryManager config}, KeepsTimes mm after →
      AccessOrder (history ++ accesses ([] : List (MemoryEvent config))) after ∧
        SearchesOrdered history ([] : List (MemoryEvent config)) := by
    intro after keeps
    simpa [accesses, SearchesOrdered] using ordered.keepsTimes keeps
  cases call with
  | createPageTable fileTag => exact quiet (KeepsTimes.mmCreatePageTable mm fileTag)
  | read fileTag baseAddress size => exact ordered.mmAccessMemory lru few
  | write fileTag baseAddress data => exact ordered.mmAccessMemory lru few
  | flushQuery fileTag => exact quiet (KeepsTimes.mmFlushQuery faults mm fileTag)
  | flushAllDirty => exact quiet (KeepsTimes.mmFlushAllDirty faults mm)

theorem Created.accessOrder (created : Created mm) (unused : mm.globalTimestamp = 0) :
    AccessOrder [] mm := by
  have absent : ∀ fileTag number entry, ¬ mm.Present fileTag number entry := by
    intro fileTag number entry present
    simpa [page, findPageTable, created.1] using present.held
  refine ⟨by simp [created.1], by simp [unused], ?_, ?_, ?_⟩
  · intro fileTag number entry present
    exact absurd present (absent _ _ entry)
  · intro fileTag number entry present
    exact absurd present (absent _ _ entry)
  · intro firstTag firstNumber first _ _ _ present
    exact absurd present (absent _ _ first)

/-- In every state of a run with fewer than 2^62 accesses the timestamps are in the order of the
accesses. -/
theorem accessOrder_of_reachable (lru : config.policy = .lru)
    {state : MemoryManager config × List (MemoryEvent config)}
    (reachable : (recordedSystem config).Reachable state)
    (few : (accesses state.2).length < 2 ^ 62) :
    AccessOrder (accesses state.2) state.1 ∧ SearchesOrdered [] state.2 := by
  have kept : (recordedSystem config).Preserves fun state =>
      (accesses state.2).length < 2 ^ 62 →
        AccessOrder (accesses state.2) state.1 ∧ SearchesOrdered [] state.2 := by
    rintro ⟨before, earlier⟩ call ⟨after, events⟩ invariant ⟨faults, rfl, rfl⟩ few
    simp only [accesses_append] at few ⊢
    have fewEarlier : (accesses earlier).length < 2 ^ 62 := by
      rw [List.length_append] at few
      omega
    obtain ⟨ordered, searches⟩ := invariant fewEarlier
    obtain ⟨last, callSearches⟩ := ordered.perform lru call few
    exact ⟨last, searchesOrdered_append.mpr ⟨searches, callSearches⟩⟩
  refine reachable.invariant ?_ kept few
  rintro ⟨first, events⟩ ⟨created, unused, rfl⟩ _
  exact ⟨created.accessOrder unused, trivial⟩

/-- The present pages have different timestamps. -/
def DistinctTimes (mm : MemoryManager config) : Prop :=
  ∀ firstTag firstNumber first secondTag secondNumber second,
    mm.Present firstTag firstNumber first → mm.Present secondTag secondNumber second →
      first.lastAccessTime = second.lastAccessTime →
        (firstTag, firstNumber) = (secondTag, secondNumber)

theorem AccessOrder.distinctTimes (ordered : AccessOrder history mm) : DistinctTimes mm :=
  fun _ _ _ _ _ _ firstPresent secondPresent same =>
    ordered.page_eq_of_lastAccessTime_eq firstPresent secondPresent same

/-- In every run with fewer than 2^62 accesses the present pages have different timestamps, and
every search evicts the page whose last access is the oldest or, when it fails, nothing. -/
theorem mmFindLruVictim_evicts_least_recent (lru : config.policy = .lru)
    {events : List (MemoryEvent config)}
    (reachable : (recordedSystem config).Reachable (mm, events))
    (few : (accesses events).length < 2 ^ 62) :
    DistinctTimes mm ∧ ∀ earlier searched later,
      events = earlier ++ .victimSearch searched :: later →
        DistinctTimes searched ∧ ∀ faults,
          EvictsLeastRecent (accesses earlier) faults searched ∧
            FailureEvictsNothing faults searched := by
  obtain ⟨ordered, searches⟩ := accessOrder_of_reachable lru reachable few
  refine ⟨ordered.distinctTimes, ?_⟩
  rintro earlier searched later rfl
  obtain ⟨_, searchedOrdered, _⟩ := searchesOrdered_append.mp searches
  rw [List.nil_append] at searchedOrdered
  exact ⟨searchedOrdered.distinctTimes, fun faults =>
    ⟨searchedOrdered.evictsLeastRecent faults, failureEvictsNothing faults searched⟩⟩

/-- Two frames of two bytes under LRU. -/
def lruConfig : MemoryConfig where
  pageSize := 2
  frameCount := 2
  policy := .lru
  pageSize_pos := Nat.two_pos
  pageSize_lt := MemoryConfig.two_bytes
  frameCount_lt := MemoryConfig.two_frames

def recordCalls (faults : StorageFaults) :
    MemoryManager config × List (MemoryEvent config) → List MemoryCall →
      MemoryManager config × List (MemoryEvent config)
  | state, [] => state
  | (mm, events), call :: calls =>
    recordCalls faults (mm.perform faults call, events ++ mm.callEvents faults call) calls

theorem reachable_recordCalls {state : MemoryManager config × List (MemoryEvent config)}
    (reachable : (recordedSystem config).Reachable state) (faults : StorageFaults)
    (calls : List MemoryCall) :
    (recordedSystem config).Reachable (recordCalls faults state calls) := by
  induction calls generalizing state with
  | nil => exact reachable
  | cons call calls ih => exact ih (reachable.next ⟨faults, rfl, rfl⟩)

/-- Pages 0, 1 and 0 again are read, then page 2, for which page 1 has to go. -/
def fourReads : MemoryManager lruConfig × List (MemoryEvent lruConfig) :=
  recordCalls (fun _ => false)
    ({ entries := []
       used := fun _ => false
       clockPointer := 0
       physicalMemory := fun _ => Vector.replicate 2 0
       globalTimestamp := 0
       connected := true
       storage := fun _ _ => Vector.replicate 2 0
       requests := 0 }, [])
    [.createPageTable ⟨"MATERIAS", "BASE"⟩, .read ⟨"MATERIAS", "BASE"⟩ 0 4,
      .read ⟨"MATERIAS", "BASE"⟩ 1 1, .read ⟨"MATERIAS", "BASE"⟩ 4 1]

theorem mmFindLruVictim_evicts_least_recent_of_fourReads :
    (accesses fourReads.2).map Prod.snd = [0, 1, 0, 2] ∧
      (fourReads.1.page ⟨"MATERIAS", "BASE"⟩ 1).map PageEntry.present = some false ∧
      DistinctTimes fourReads.1 ∧ ∀ earlier searched later,
        fourReads.2 = earlier ++ .victimSearch searched :: later →
          DistinctTimes searched ∧ ∀ faults,
            EvictsLeastRecent (accesses earlier) faults searched ∧
              FailureEvictsNothing faults searched := by
  have reachable : (recordedSystem lruConfig).Reachable fourReads :=
    reachable_recordCalls (TransitionSystem.Reachable.start ⟨⟨rfl, fun _ => rfl, rfl⟩, rfl, rfl⟩)
      _ _
  have accessed : (accesses fourReads.2).map Prod.snd = [0, 1, 0, 2] := by decide +kernel
  have few : (accesses fourReads.2).length < 2 ^ 62 := by
    have count := congrArg List.length accessed
    rw [List.length_map] at count
    rw [count]
    decide
  exact ⟨accessed, by decide +kernel, mmFindLruVictim_evicts_least_recent rfl reachable few⟩

end Runs

end MemoryManager

end Worker

end MasterOfFiles
