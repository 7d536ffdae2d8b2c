import MasterOfFiles.NewestHeld
import MasterOfFiles.WorkerResidency
import MasterOfFiles.WorkerVictimSearches

/-!
# More frames never cause more page faults

Under LRU the pages in memory are those with a short stack distance: fewer other pages than there
are frames were accessed since.  The pages that a run accesses do not depend on the number of
frames, so a larger memory holds every page that a smaller one holds and faults where the smaller
one faults, if at all.
-/

namespace MasterOfFiles

namespace Worker

open NewestHeld (HoldsNewest Renews newer)
open MemoryManager (PageName MemoryCall lastAccess)

section Distances

/-- How many other pages were accessed since the last access to a page. -/
def stackDistance (history : List PageName) (page : PageName) : Nat :=
  (newer (lastAccess history) history.toFinset page).card

/-- The accesses of a run, with a flag for the pages whose distance is below a bound. -/
def stackTrace (frames : Nat) : List PageName → List PageName → List (PageName × Bool)
  | _, [] => []
  | earlier, page :: rest =>
    (page, decide (page ∈ earlier ∧ stackDistance earlier page < frames)) ::
      stackTrace frames (earlier ++ [page]) rest

/-- The accesses that find their page missing. -/
def pageFaults (trace : List (PageName × Bool)) : Nat :=
  trace.countP fun access => !access.2

theorem pageFaults_cons (page : PageName) (found : Bool) (rest : List (PageName × Bool)) :
    pageFaults ((page, found) :: rest) = pageFaults rest + if found then 0 else 1 := by
  cases found <;> simp [pageFaults]

theorem stackTrace_append (frames : Nat) (earlier first second : List PageName) :
    stackTrace frames earlier (first ++ second) =
      stackTrace frames earlier first ++ stackTrace frames (earlier ++ first) second := by
  induction first generalizing earlier with
  | nil => simp [stackTrace]
  | cons page rest ih => simp [stackTrace, ih]

/-- A larger bound marks no fewer accesses. -/
theorem pageFaults_stackTrace_le {frames larger : Nat} (le : frames ≤ larger)
    (earlier accesses : List PageName) :
    pageFaults (stackTrace larger earlier accesses) ≤
      pageFaults (stackTrace frames earlier accesses) := by
  induction accesses generalizing earlier with
  | nil => exact Nat.le_refl _
  | cons page rest ih =>
      have later := ih (earlier ++ [page])
      rw [stackTrace, stackTrace, pageFaults_cons, pageFaults_cons]
      by_cases near : page ∈ earlier ∧ stackDistance earlier page < frames
      · have nearToo : page ∈ earlier ∧ stackDistance earlier page < larger :=
          ⟨near.1, near.2.trans_le le⟩
        simpa [near, nearToo] using later
      · rw [decide_eq_false near]
        split <;> simp <;> omega

/-- The pages that an access to a range goes through. -/
def touchedPages (pageSize : Nat) (fileTag : FileTag) :
    Nat → Nat → Nat → Nat → List PageName
  | 0, _, _, _ => []
  | steps + 1, pageNumber, offset, size =>
    if size = 0 ∨ 2 ^ 32 ≤ pageNumber + 1 then []
    else
      (fileTag, pageNumber) ::
        touchedPages pageSize fileTag steps (pageNumber + 1) 0
          (size - min (pageSize - offset) size)

/-- The pages of an access to a File:Tag, when it has a page table. -/
def touchedBy (pageSize : Nat) (tables : List FileTag) (fileTag : FileTag)
    (baseAddress : UInt32) (size : Nat) : List PageName :=
  if size = 0 ∨ fileTag ∉ tables then []
  else
    touchedPages pageSize fileTag size (baseAddress.toNat / pageSize)
      (baseAddress.toNat % pageSize) size

def touchedByCall (pageSize : Nat) (tables : List FileTag) :
    MemoryCall → List PageName
  | .read fileTag baseAddress size => touchedBy pageSize tables fileTag baseAddress size
  | .write fileTag baseAddress data => touchedBy pageSize tables fileTag baseAddress data.length
  | .createPageTable _ | .flushQuery _ | .flushAllDirty => []

def tablesAfter (tables : List FileTag) : MemoryCall → List FileTag
  | .createPageTable fileTag => if fileTag ∈ tables then tables else tables ++ [fileTag]
  | .read _ _ _ | .write _ _ _ | .flushQuery _ | .flushAllDirty => tables

def touchedByAll (pageSize : Nat) :
    List FileTag → List MemoryCall → List PageName
  | _, [] => []
  | tables, call :: calls =>
    touchedByCall pageSize tables call ++ touchedByAll pageSize (tablesAfter tables call) calls

end Distances

namespace MemoryManager

variable {config : MemoryConfig} {mm after : MemoryManager config} {fileTag : FileTag}
  {number : Nat} {history : List PageName}

section Traces

/-- The accesses of the loop of `mm_access_memory`, with a flag for the pages that are in memory
already. -/
def pageTrace (fileTag : FileTag) (write : Bool) :
    Nat → Nat → Nat → List UInt8 → MemoryManager config → List (PageName × Bool)
  | 0, _, _, _, _ => []
  | steps + 1, pageNumber, offset, buffer, mm =>
    if buffer.isEmpty then []
    else
      match mm.ensurePresent accepting fileTag pageNumber with
      | (false, _) => []
      | (true, present) =>
        ((fileTag, pageNumber), mm.isPresent (fileTag, pageNumber)) ::
          pageTrace fileTag write steps ((pageNumber + 1) % 2 ^ 32) 0
            (buffer.drop (min (config.pageSize - offset) buffer.length))
            (present.transferPage fileTag write pageNumber offset buffer)

/-- The accesses of `mm_access_memory`. -/
def memoryTrace (mm : MemoryManager config) (fileTag : FileTag) (baseAddress : UInt32)
    (buffer : List UInt8) (write : Bool) : List (PageName × Bool) :=
  if buffer.isEmpty ∨ (mm.findPageTable fileTag).isNone then []
  else
    pageTrace fileTag write buffer.length (baseAddress.toNat / config.pageSize)
      (baseAddress.toNat % config.pageSize) buffer mm

def callTrace (mm : MemoryManager config) : MemoryCall → List (PageName × Bool)
  | .read fileTag baseAddress size =>
    mm.memoryTrace fileTag baseAddress (List.replicate size 0) false
  | .write fileTag baseAddress data => mm.memoryTrace fileTag baseAddress data true
  | .createPageTable _ | .flushQuery _ | .flushAllDirty => []

/-- The accesses of a run in which Storage accepts every request. -/
def runTrace (mm : MemoryManager config) : List MemoryCall → List (PageName × Bool)
  | [] => []
  | call :: calls => mm.callTrace call ++ (mm.perform accepting call).runTrace calls

def performAll (mm : MemoryManager config) (calls : List MemoryCall) : MemoryManager config :=
  calls.foldl (fun current call => current.perform accepting call) mm

end Traces

/-- The invariant: the pages in memory are those accessed last. -/
structure Resident (history : List PageName) (mm : MemoryManager config) : Prop where
  sound : Sound .whole none mm
  ordered : AccessOrder history mm
  connected : mm.connected = true
  holds : HoldsNewest (lastAccess history) history.toFinset mm.presentPages config.frameCount

theorem injOn_lastAccess (history : List PageName) :
    Set.InjOn (lastAccess history) history.toFinset := by
  intro first firstMem second secondMem same
  exact eq_of_lastAccess_eq (List.mem_toFinset.mp firstMem) (List.mem_toFinset.mp secondMem) same

theorem renews_lastAccess (history : List PageName) (page : PageName) :
    Renews (lastAccess history) (lastAccess (history ++ [page])) history.toFinset page where
  others _ _ different := lastAccess_snoc_of_ne history different
  newest other _ different := by
    rw [lastAccess_snoc_of_ne history different, lastAccess_snoc_self]
    exact Nat.lt_succ_of_le (lastAccess_le history other)

/-- Replacing the page used least recently keeps the pages accessed last. -/
theorem Access.holds {page : PageName} {before pages : Finset PageName} {frames : Nat}
    (access : Access history page before pages frames)
    (holds : HoldsNewest (lastAccess history) history.toFinset before frames) :
    HoldsNewest (lastAccess (history ++ [page])) (history ++ [page]).toFinset pages frames := by
  have seenEq : (history ++ [page]).toFinset = insert page history.toFinset := by
    ext other
    simp
  have renews := renews_lastAccess history page
  rw [seenEq]
  cases access with
  | hit held same =>
      rw [Finset.insert_eq_of_mem (holds.subset held), same]
      exact holds.use renews held
  | added absent room added =>
      rw [added]
      exact holds.add absent room
  | replaced absent isFull victim held oldest replaced =>
      rw [replaced]
      exact holds.replace renews absent isFull held oldest

theorem Resident.mem_iff (resident : Resident history mm) (page : PageName) :
    page ∈ mm.presentPages ↔ page ∈ history ∧ stackDistance history page < config.frameCount := by
  constructor
  · intro held
    have seen := resident.holds.subset held
    exact ⟨List.mem_toFinset.mp seen,
      (resident.holds.mem_iff (injOn_lastAccess history) seen).mp held⟩
  · rintro ⟨accessed, near⟩
    exact (resident.holds.mem_iff (injOn_lastAccess history)
      (List.mem_toFinset.mpr accessed)).mpr near

theorem Resident.still (resident : Resident history mm) (still : Still mm after)
    (sound : Sound .whole none after) (keeps : KeepsTimes mm after) : Resident history after where
  sound := sound
  ordered := resident.ordered.keepsTimes keeps
  connected := still.connected.trans resident.connected
  holds := by
    rw [still.presentPages resident.sound.keys]
    exact resident.holds

theorem Sound.transferPage (sound : Sound .whole none mm) (numberLt : number < 2 ^ 32)
    (access : mm.ensurePresent accepting fileTag number = (true, after)) (write : Bool)
    (offset : Nat) (buffer : List UInt8) :
    Sound .whole none (after.transferPage fileTag write number offset buffer) := by
  obtain ⟨kept, _, found, present, frameEq⟩ := sound.accessPage numberLt access
  unfold MemoryManager.transferPage
  dsimp only
  rw [frameEq]
  split
  · exact kept.sound.setPage present (by simp) (by simp [Scope.whole])
  · exact kept.sound

theorem Resident.isPresent_eq (resident : Resident history mm) (page : PageName) :
    mm.isPresent page =
      decide (page ∈ history ∧ stackDistance history page < config.frameCount) := by
  rw [Bool.eq_iff_iff, decide_eq_true_iff, ← resident.mem_iff,
    mem_presentPages resident.sound.keys]

/-- The table of a File:Tag never gets an entry for the last page number. -/
theorem Sound.ensurePresent_last (sound : Sound .whole none mm) (last : number + 1 = 2 ^ 32) :
    mm.ensurePresent accepting fileTag number = (false, mm) := by
  have fails : mm.growTable fileTag number = none := by
    unfold MemoryManager.growTable
    split
    · rfl
    · rename_i table found
      have outside : ¬ number < table.length := by
        intro inside
        have held : mm.page fileTag number = some table[number] := by
          simp [page, found, inside]
        have bound := (sound.pageNumber fileTag number _ held).2
        omega
      rw [if_neg outside, last, Nat.mod_self, ptResize, if_pos rfl]
      rfl
  simp only [MemoryManager.ensurePresent, fails]

theorem Resident.round (resident : Resident history mm) (lru : config.policy = .lru)
    (positive : 0 < config.frameCount) (few : history.length < 2 ^ 62)
    (table : (mm.findPageTable fileTag).isSome = true) (numberLt : number + 1 < 2 ^ 32)
    (write : Bool) (offset : Nat) (buffer : List UInt8) :
    ∃ present, mm.ensurePresent accepting fileTag number = (true, present) ∧
      (present.transferPage fileTag write number offset buffer).entries.map Prod.fst =
        mm.entries.map Prod.fst ∧
      Resident (history ++ [(fileTag, number)])
        (present.transferPage fileTag write number offset buffer) := by
  obtain ⟨present, access, tables, connected, changes⟩ := ensurePresent_lru lru positive
    resident.sound resident.ordered few resident.connected table numberLt
  have still := Still.transferPage present fileTag write number offset buffer
  have keys : (present.entries.map Prod.fst).Nodup := by
    rw [tables]
    exact resident.sound.keys
  have small : mm.globalTimestamp + 2 < 2 ^ 64 := by
    have bound := resident.ordered.timestamp_le
    omega
  refine ⟨present, access, still.tables.trans tables, ?_⟩
  refine ⟨resident.sound.transferPage (by omega) access write offset buffer,
    resident.ordered.touches (transferPage_touches lru small access write offset buffer),
    still.connected.trans connected, ?_⟩
  rw [still.presentPages keys]
  exact changes.holds resident.holds

/-- The loop accesses the pages of its range and finds those that are near. -/
theorem Resident.accessLoop (lru : config.policy = .lru) (positive : 0 < config.frameCount)
    {write : Bool} {steps offset : Nat} {buffer : List UInt8} (resident : Resident history mm)
    (table : fileTag ∈ mm.entries.map Prod.fst) (numberLt : number < 2 ^ 32)
    (few : (history ++ touchedPages config.pageSize fileTag steps number offset
      buffer.length).length < 2 ^ 62) :
    pageTrace fileTag write steps number offset buffer mm =
        stackTrace config.frameCount history
          (touchedPages config.pageSize fileTag steps number offset buffer.length) ∧
      Resident (history ++ touchedPages config.pageSize fileTag steps number offset buffer.length)
        (accessLoop accepting fileTag write steps number offset buffer mm).2.2 ∧
      (accessLoop accepting fileTag write steps number offset buffer mm).2.2.entries.map Prod.fst =
        mm.entries.map Prod.fst := by
  induction steps generalizing mm number offset buffer history with
  | zero => simpa [pageTrace, touchedPages, stackTrace, MemoryManager.accessLoop] using resident
  | succ steps ih =>
      rw [accessLoop_succ, pageTrace]
      rw [touchedPages] at few ⊢
      by_cases empty : buffer.length = 0
      · have isEmpty : buffer.isEmpty = true := by
          simpa using empty
        simpa [empty, isEmpty, stackTrace] using resident
      · have notEmpty : buffer.isEmpty = false := by
          simpa using empty
        by_cases isLast : 2 ^ 32 ≤ number + 1
        · rw [if_pos (Or.inr isLast), resident.sound.ensurePresent_last (by omega)]
          simpa [notEmpty, stackTrace] using resident
        · rw [if_neg (not_or.mpr ⟨empty, isLast⟩)] at few ⊢
          have fewNow : history.length < 2 ^ 62 := by
            rw [List.length_append] at few
            omega
          obtain ⟨present, access, tables, next⟩ := resident.round lru positive fewNow
            (findPageTable_isSome_iff.mpr table) (by omega : number + 1 < 2 ^ 32) write offset
              buffer
          have regrouped : history ++ (fileTag, number) ::
              touchedPages config.pageSize fileTag steps (number + 1) 0
                (buffer.length - min (config.pageSize - offset) buffer.length) =
              (history ++ [(fileTag, number)]) ++
                touchedPages config.pageSize fileTag steps (number + 1) 0
                  (buffer.drop (min (config.pageSize - offset) buffer.length)).length := by
            simp
          rw [regrouped] at few ⊢
          obtain ⟨traceEq, resides, keys⟩ := ih next (tables ▸ table) (by omega) few
          rw [access, stackTrace, ← resident.isPresent_eq]
          simp only [notEmpty, Bool.false_eq_true, if_false, Nat.mod_eq_of_lt
            (by omega : number + 1 < 2 ^ 32)]
          refine ⟨?_, resides, keys.trans tables⟩
          rw [traceEq, List.length_drop]

section Runs

theorem Resident.mmAccessMemory (lru : config.policy = .lru) (positive : 0 < config.frameCount)
    (resident : Resident history mm) (baseAddress : UInt32) (buffer : List UInt8) (write : Bool)
    (few : (history ++ touchedBy config.pageSize (mm.entries.map Prod.fst) fileTag baseAddress
      buffer.length).length < 2 ^ 62) :
    mm.memoryTrace fileTag baseAddress buffer write =
        stackTrace config.frameCount history
          (touchedBy config.pageSize (mm.entries.map Prod.fst) fileTag baseAddress
            buffer.length) ∧
      Resident (history ++ touchedBy config.pageSize (mm.entries.map Prod.fst) fileTag baseAddress
        buffer.length) (mm.mmAccessMemory accepting fileTag baseAddress buffer write).2.2 ∧
      (mm.mmAccessMemory accepting fileTag baseAddress buffer write).2.2.entries.map Prod.fst =
        mm.entries.map Prod.fst := by
  have refused : (buffer.isEmpty ∨ (mm.findPageTable fileTag).isNone) ↔
      (buffer.length = 0 ∨ fileTag ∉ mm.entries.map Prod.fst) := by
    rw [← findPageTable_isSome_iff, List.isEmpty_iff, List.length_eq_zero_iff,
      Option.isNone_iff_eq_none, Option.not_isSome_iff_eq_none]
  unfold touchedBy at few ⊢
  unfold memoryTrace MemoryManager.mmAccessMemory
  by_cases enters : buffer.length = 0 ∨ fileTag ∉ mm.entries.map Prod.fst
  · rw [if_pos (refused.mpr enters), if_pos (refused.mpr enters), if_pos enters]
    simpa [stackTrace] using resident
  · rw [if_neg enters] at few ⊢
    rw [if_neg (refused.not.mpr enters), if_neg (refused.not.mpr enters)]
    obtain ⟨_, table⟩ := not_or.mp enters
    exact resident.accessLoop lru positive (not_not.mp table)
      ((Nat.div_le_self _ _).trans_lt baseAddress.toNat_lt) few

theorem Resident.perform (lru : config.policy = .lru) (positive : 0 < config.frameCount)
    (resident : Resident history mm) (call : MemoryCall)
    (few : (history ++ touchedByCall config.pageSize (mm.entries.map Prod.fst) call).length <
      2 ^ 62) :
    mm.callTrace call =
        stackTrace config.frameCount history
          (touchedByCall config.pageSize (mm.entries.map Prod.fst) call) ∧
      Resident (history ++ touchedByCall config.pageSize (mm.entries.map Prod.fst) call)
        (mm.perform accepting call) ∧
      (mm.perform accepting call).entries.map Prod.fst =
        tablesAfter (mm.entries.map Prod.fst) call := by
  have sound := resident.sound.perform accepting call
  cases call with
  | createPageTable fileTag =>
      have unmoved := Unmoved.mmCreatePageTable mm fileTag
      have kept : Resident history (mm.mmCreatePageTable fileTag) := by
        refine ⟨sound, resident.ordered.keepsTimes (KeepsTimes.mmCreatePageTable mm fileTag),
          ?_, ?_⟩
        · unfold mmCreatePageTable
          split <;> exact resident.connected
        · rw [unmoved.presentPages resident.sound.keys]
          exact resident.holds
      refine ⟨rfl, ?_, ?_⟩
      · rw [touchedByCall, List.append_nil]
        exact kept
      · change (mm.mmCreatePageTable fileTag).entries.map Prod.fst =
          if fileTag ∈ mm.entries.map Prod.fst then mm.entries.map Prod.fst
          else mm.entries.map Prod.fst ++ [fileTag]
        unfold mmCreatePageTable
        cases found : mm.findPageTable fileTag with
        | some table =>
            have known := findPageTable_isSome_iff.mp (Option.isSome_of_eq_some found)
            rw [if_pos known]
        | none =>
            have unknown : fileTag ∉ mm.entries.map Prod.fst := by
              rw [← findPageTable_isSome_iff, found]
              simp
            rw [if_neg unknown, List.map_append]
            rfl
  | read fileTag baseAddress size =>
      have length : (List.replicate size (0 : UInt8)).length = size := List.length_replicate
      have access := @Resident.mmAccessMemory config mm fileTag history lru positive resident
        baseAddress (List.replicate size 0) false
      rw [length] at access
      exact access few
  | write fileTag baseAddress data =>
      exact resident.mmAccessMemory lru positive baseAddress data true few
  | flushQuery fileTag =>
      have still := Still.mmFlushQuery accepting mm fileTag
      refine ⟨rfl, ?_, still.tables⟩
      rw [touchedByCall, List.append_nil]
      exact resident.still still sound (KeepsTimes.mmFlushQuery accepting mm fileTag)
  | flushAllDirty =>
      have still := Still.mmFlushAllDirty accepting mm
      refine ⟨rfl, ?_, still.tables⟩
      rw [touchedByCall, List.append_nil]
      exact resident.still still sound (KeepsTimes.mmFlushAllDirty accepting mm)

/-- A run finds exactly the pages that are near, and leaves the near pages in memory. -/
theorem Resident.performAll (lru : config.policy = .lru) (positive : 0 < config.frameCount)
    (resident : Resident history mm) (calls : List MemoryCall)
    (few : (history ++ touchedByAll config.pageSize (mm.entries.map Prod.fst) calls).length <
      2 ^ 62) :
    mm.runTrace calls =
        stackTrace config.frameCount history
          (touchedByAll config.pageSize (mm.entries.map Prod.fst) calls) ∧
      Resident (history ++ touchedByAll config.pageSize (mm.entries.map Prod.fst) calls)
        (mm.performAll calls) := by
  induction calls generalizing mm history with
  | nil => simpa [runTrace, touchedByAll, stackTrace, MemoryManager.performAll] using resident
  | cons call calls ih =>
      rw [touchedByAll, ← List.append_assoc] at few
      have fewNow : (history ++ touchedByCall config.pageSize (mm.entries.map Prod.fst)
          call).length < 2 ^ 62 := by
        rw [List.length_append] at few
        omega
      obtain ⟨traceEq, next, tables⟩ := resident.perform lru positive call fewNow
      rw [← tables] at few
      obtain ⟨laterTrace, last⟩ := ih next few
      rw [touchedByAll, ← tables, ← List.append_assoc, stackTrace_append]
      exact ⟨by rw [runTrace, traceEq, laterTrace], last⟩

/-- A memory manager as it is when the Worker has started. -/
def Started (mm : MemoryManager config) : Prop :=
  Created mm ∧ mm.globalTimestamp = 0 ∧ mm.connected = true

theorem Started.resident (started : Started mm) : Resident [] mm := by
  obtain ⟨created, unused, connected⟩ := started
  have empty : mm.presentPages = ∅ := by
    simp [presentPages, allPages, created.1]
  refine ⟨created.sound, created.accessOrder unused, connected, ?_⟩
  rw [empty]
  exact NewestHeld.holdsNewest_empty _ _

theorem map_fst_stackTrace (frames : Nat) (earlier accesses : List PageName) :
    (stackTrace frames earlier accesses).map Prod.fst = accesses := by
  induction accesses generalizing earlier with
  | nil => rfl
  | cons page rest ih => simp [stackTrace, ih]

def roomyConfig : MemoryConfig :=
  { lruConfig with frameCount := 3, frameCount_lt := by decide }

/-- The memory that `mm_create` gives to a Worker. -/
def justStarted (config : MemoryConfig) : MemoryManager config where
  entries := []
  used _ := false
  clockPointer := 0
  physicalMemory _ := Vector.replicate config.pageSize 0
  globalTimestamp := 0
  connected := true
  storage _ _ := Vector.replicate config.pageSize 0
  requests := 0

theorem justStarted_started (config : MemoryConfig) : (justStarted config).Started :=
  ⟨⟨rfl, fun _ => rfl, rfl⟩, rfl, rfl⟩

def fourPages : List MemoryCall :=
  [.createPageTable ⟨"MATERIAS", "BASE"⟩, .read ⟨"MATERIAS", "BASE"⟩ 0 6,
    .read ⟨"MATERIAS", "BASE"⟩ 0 1]

/-- Two memories of different sizes under LRU and any calls that drop no page by themselves (make a
page table, read, write, flush one File:Tag or all), while Storage accepts every request:
both access the same pages, the larger one holds every page that the smaller one holds and has no
more page faults.  A page is in memory exactly when it was accessed and since then fewer other
pages than there are frames. -/
theorem more_frames_fewer_page_faults {small large : MemoryConfig} (smallLru : small.policy = .lru)
    (largeLru : large.policy = .lru) (samePages : small.pageSize = large.pageSize)
    (positive : 0 < small.frameCount) (le : small.frameCount ≤ large.frameCount)
    {first : MemoryManager small} {second : MemoryManager large} (firstStarted : first.Started)
    (secondStarted : second.Started) (calls : List MemoryCall)
    (few : (touchedByAll small.pageSize [] calls).length < 2 ^ 62) :
    (first.runTrace calls).map Prod.fst = (second.runTrace calls).map Prod.fst ∧
      (first.performAll calls).presentPages ⊆ (second.performAll calls).presentPages ∧
      pageFaults (second.runTrace calls) ≤ pageFaults (first.runTrace calls) ∧
      ∀ page, page ∈ (first.performAll calls).presentPages ↔
        page ∈ (first.runTrace calls).map Prod.fst ∧
          stackDistance ((first.runTrace calls).map Prod.fst) page < small.frameCount := by
  have firstTables : first.entries.map Prod.fst = [] := by
    rw [firstStarted.1.1]
    rfl
  have secondTables : second.entries.map Prod.fst = [] := by
    rw [secondStarted.1.1]
    rfl
  obtain ⟨firstTrace, firstResident⟩ := firstStarted.resident.performAll smallLru positive calls
    (by rwa [firstTables])
  obtain ⟨secondTrace, secondResident⟩ := secondStarted.resident.performAll largeLru
    (positive.trans_le le) calls (by rwa [secondTables, ← samePages])
  rw [firstTables, List.nil_append] at firstResident
  rw [secondTables, ← samePages, List.nil_append] at secondResident
  rw [firstTables] at firstTrace
  rw [secondTables, ← samePages] at secondTrace
  rw [firstTrace, secondTrace, map_fst_stackTrace, map_fst_stackTrace]
  refine ⟨rfl, fun page held => ?_, pageFaults_stackTrace_le le _ _, firstResident.mem_iff⟩
  obtain ⟨accessed, near⟩ := (firstResident.mem_iff page).mp held
  exact (secondResident.mem_iff page).mpr ⟨accessed, near.trans_le le⟩

/-- With three frames instead of two the first page is still in memory. -/
theorem three_frames_fewer_page_faults :
    pageFaults ((justStarted lruConfig).runTrace fourPages) = 4 ∧
      pageFaults ((justStarted roomyConfig).runTrace fourPages) = 3 ∧
      pageFaults ((justStarted roomyConfig).runTrace fourPages) ≤
        pageFaults ((justStarted lruConfig).runTrace fourPages) := by
  have fewer := @more_frames_fewer_page_faults lruConfig roomyConfig rfl rfl rfl (by decide)
    (by decide) _ _ (justStarted_started lruConfig) (justStarted_started roomyConfig) fourPages
    (by decide +kernel)
  exact ⟨by decide +kernel, by decide +kernel, fewer.2.2.1⟩

end Runs

end MemoryManager

end Worker

end MasterOfFiles
