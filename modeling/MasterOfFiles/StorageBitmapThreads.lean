import MasterOfFiles.StorageRequests

/-!
# Concurrent updates of the bitmap

Each client of the Storage module has a thread of its own, and three of its operations
rewrite `bitmap.bin`: the reservation in `execute_block_write`, `free_ph_block_if_unused`
and the `modify_bitmap_bits` of `delete_logical_block`.  The threads are followed from one
call on the mutex or on the file to the next.  What `fwrite` puts into a stream reaches the
file at `fclose`; of a bitmap that does not fit in the buffer of the stream some part may
reach it at once.  A failed `fopen`, `calloc` or `fread` may happen at any of these calls;
a full disk is left out.
-/

namespace MasterOfFiles

namespace Storage

abbrev Bitmap : Type := Nat → Bool

/-- The bits that one request sets or clears. -/
structure BitmapChange where
  start : Nat
  count : Nat
  value : Bool
deriving DecidableEq

namespace BitmapChange

/-- The loop over `bitarray_set_bit` or `bitarray_clean_bit`. -/
def apply (change : BitmapChange) (bitmap : Bitmap) : Bitmap :=
  (List.range change.count).foldl
    (fun bits index => Function.update bits (change.start + index) change.value) bitmap

/-- The bit is one of those that the request writes. -/
def Covers (change : BitmapChange) (bit : Nat) : Prop :=
  change.start ≤ bit ∧ bit < change.start + change.count

/-- The request frees the physical block. -/
def Clears (change : BitmapChange) (physical : Nat) : Prop :=
  change.value = false ∧ change.Covers physical

instance (change : BitmapChange) (physical : Nat) : Decidable (change.Clears physical) :=
  inferInstanceAs (Decidable (_ ∧ _ ∧ _))

theorem apply_apply (change : BitmapChange) (bitmap : Bitmap) (bit : Nat) :
    change.apply bitmap bit =
      if change.start ≤ bit ∧ bit < change.start + change.count then change.value
      else bitmap bit := by
  obtain ⟨start, count, value⟩ := change
  induction count with
  | zero =>
      rw [if_neg]
      · rfl
      · rw [Nat.add_zero]
        omega
  | succ count ih =>
      simp only [apply] at ih ⊢
      rw [List.range_succ, List.foldl_append, List.foldl_cons, List.foldl_nil]
      by_cases last : bit = start + count
      · subst last
        rw [Function.update_self, if_pos (by omega)]
      · rw [Function.update_of_ne last, ih]
        congr 1
        apply propext
        omega

theorem apply_of_not_clears {change : BitmapChange} {bitmap : Bitmap} {bit : Nat}
    (keeps : ¬change.Clears bit) (marked : bitmap bit = true) :
    change.apply bitmap bit = true := by
  rw [apply_apply]
  split
  · rename_i covers
    cases sets : change.value with
    | false => exact absurd ⟨sets, covers⟩ keeps
    | true => rfl
  · exact marked

end BitmapChange

/-- What a client thread asks of the bitmap: the reservation in `execute_block_write`, the
release in `free_ph_block_if_unused`, or a call of `modify_bitmap_bits`, which
`delete_logical_block` makes to clear one bit. -/
inductive BitmapRequest
  | reserve
  | release (physical : Nat)
  | modify (change : BitmapChange)
deriving DecidableEq

/-- The `modify_bitmap_bits` call of `delete_logical_block`. -/
def BitmapRequest.deleteLogicalBlock (physical : Nat) : BitmapRequest :=
  .modify ⟨physical, 1, false⟩

/-- Where a thread stands.  A thread with a `buffer` has read the bitmap; `through` is the
number of bits of its stream that are in the file already. -/
inductive BitmapPhase
  | idle
  | starting (request : BitmapRequest)
  | opened (request : BitmapRequest)
  | locked (request : BitmapRequest)
  | loaded (request : BitmapRequest) (buffer : Bitmap)
  | changed (request : BitmapRequest) (change : BitmapChange) (buffer : Bitmap)
  | writing (request : BitmapRequest) (change : BitmapChange) (buffer : Bitmap)
  | written (request : BitmapRequest) (change : BitmapChange) (buffer : Bitmap) (through : Nat)
  | unlocked (request : BitmapRequest) (change : BitmapChange) (buffer : Bitmap) (through : Nat)
  | releasing

namespace BitmapPhase

/-- The thread holds `g_storage_bitmap_mutex`. -/
def holds : BitmapPhase → Bool
  | idle | starting _ | opened _ | unlocked .. => false
  | locked _ | loaded .. | changed .. | writing .. | written .. | releasing => true

/-- The thread has read the bitmap and its change is not in the file yet. -/
def engaged : BitmapPhase → Bool
  | loaded .. | changed .. | writing .. | written .. | unlocked .. => true
  | idle | starting _ | opened _ | locked _ | releasing => false

end BitmapPhase

structure CompletedChange where
  thread : Nat
  request : BitmapRequest
  change : BitmapChange
deriving DecidableEq

/-- `bitmap.bin`, the owner of its mutex, the client threads, and the changes carried out so
far in the order of their completion. -/
structure BitmapServer where
  file : Bitmap
  owner : Option Nat
  phase : Nat → BitmapPhase
  log : List CompletedChange

/-- A step of a thread.  `fails` says whether the host call of the step fails, `through` how
many bits of a long stream reach the file at once. -/
inductive BitmapStep
  | begin (thread : Nat) (request : BitmapRequest)
  | advance (thread : Nat) (fails : Bool) (through : Nat)
deriving DecidableEq

/-- The first bits of one bitmap and the others of another. -/
def splice (through : Nat) (first second : Bitmap) : Bitmap :=
  fun bit => if bit < through then first bit else second bit

def applyChanges (bitmap : Bitmap) (changes : List CompletedChange) : Bitmap :=
  changes.foldl (fun bits completed => completed.change.apply bits) bitmap

namespace BitmapServer

variable (config : StorageConfig) (streamBuffer : Nat)

def getFreeBitIndex (buffer : Bitmap) : Option Nat :=
  (List.range (8 * config.bitmapSizeBytes)).find? fun bit => !buffer bit

def setPhase (server : BitmapServer) (thread : Nat) (phase : BitmapPhase) : BitmapServer :=
  { server with phase := Function.update server.phase thread phase }

/-- The work on the buffer between reading and writing the bitmap.  `modify_bitmap_bits`
still has its stream open; the other two open one in `bitmap_persist`. -/
def changeBuffer (request : BitmapRequest) (buffer : Bitmap) : BitmapPhase :=
  match request with
  | .reserve =>
    match getFreeBitIndex config buffer with
    | none => .releasing
    | some physical =>
      let change : BitmapChange := ⟨physical, 1, true⟩
      .changed request change (change.apply buffer)
  | .release physical =>
    let change : BitmapChange := ⟨physical, 1, false⟩
    .changed request change (change.apply buffer)
  | .modify change => .writing request change (change.apply buffer)

/-- `fclose` of a written stream, which carries the change out. -/
def closeStream (server : BitmapServer) (completed : CompletedChange) (buffer : Bitmap)
    (through : Nat) : BitmapServer :=
  { server with
    file := splice through server.file buffer
    log := server.log ++ [completed] }

/-- The next call of a thread on the mutex or on the file.  `bitmap_persist` closes its
stream before it unlocks the mutex, `modify_bitmap_bits` after. -/
def advance (server : BitmapServer) (thread : Nat) (fails : Bool) (through : Nat) :
    Option BitmapServer :=
  match server.phase thread with
  | .idle => none
  | .starting request =>
    some (server.setPhase thread (if fails then .idle else .opened request))
  | .opened request =>
    if server.owner = none then
      some { server.setPhase thread (.locked request) with owner := some thread }
    else none
  | .locked request =>
    some (server.setPhase thread (if fails then .releasing else .loaded request server.file))
  | .loaded request buffer =>
    some (server.setPhase thread (changeBuffer config request buffer))
  | .changed request change buffer =>
    some (server.setPhase thread (if fails then .releasing else .writing request change buffer))
  | .writing request change buffer =>
    let direct := if config.bitmapSizeBytes < streamBuffer then 0 else through
    some { server.setPhase thread (.written request change buffer direct) with
      file := splice direct buffer server.file }
  | .written request change buffer direct =>
    match request with
    | .modify _ =>
      some { server.setPhase thread (.unlocked request change buffer direct) with owner := none }
    | _ =>
      some ((server.closeStream ⟨thread, request, change⟩ buffer direct).setPhase thread
        .releasing)
  | .unlocked request change buffer direct =>
    some ((server.closeStream ⟨thread, request, change⟩ buffer direct).setPhase thread .idle)
  | .releasing => some { server.setPhase thread .idle with owner := none }

/-- A step of the server; a thread takes a request when it has no other. -/
def next (server : BitmapServer) : BitmapStep → Option BitmapServer
  | .begin thread request =>
    match server.phase thread with
    | .idle => some (server.setPhase thread (.starting request))
    | _ => none
  | .advance thread fails through => server.advance config streamBuffer thread fails through

def Quiet (server : BitmapServer) : Prop :=
  ∀ thread, server.phase thread = .idle

def Begins (server : BitmapServer) : Prop :=
  server.owner = none ∧ server.Quiet ∧ server.log = []

def system : TransitionSystem BitmapServer BitmapStep :=
  TransitionSystem.ofNext Begins (next config streamBuffer)

/-- Between two reservations of one physical block the block was freed. -/
def HandedOutOnce (log : List CompletedChange) : Prop :=
  ∀ early first between second late, log = early ++ first :: (between ++ second :: late) →
    first.request = .reserve → second.request = .reserve →
      second.change.start = first.change.start →
        ∃ completed ∈ between, completed.change.Clears first.change.start

/-- When no request is under way, the file is the result of all completed changes in some
serial order; and no physical block was handed out twice without being freed in between. -/
def NoUpdateLost (initial : Bitmap) (server : BitmapServer) : Prop :=
  (server.Quiet →
    ∃ order : List CompletedChange, order.Perm server.log ∧
      server.file = applyChanges initial order) ∧
    HandedOutOnce server.log

/-- A thread about to read the bitmap finds no stream that is written and not closed. -/
def ReadsSettled (server : BitmapServer) : BitmapStep → Prop
  | .begin _ _ => True
  | .advance thread _ _ =>
    ∀ request, server.phase thread = .locked request →
      ∀ other otherRequest change buffer through,
        server.phase other ≠ .unlocked otherRequest change buffer through

end BitmapServer

theorem splice_splice (through : Nat) (first second : Bitmap) :
    splice through (splice through first second) first = first := by
  funext bit
  unfold splice
  split
  · rfl
  · rfl

/-- A reservation sets one bit that is clear in the bitmap. -/
def Grants (request : BitmapRequest) (change : BitmapChange) (current : Bitmap) : Prop :=
  request = .reserve →
    change.count = 1 ∧ change.value = true ∧ current change.start = false

/-- What a thread has in its buffer and in the file, when the completed changes amount to
the bitmap `current`. -/
def BitmapPhase.Follows (current file : Bitmap) : BitmapPhase → Prop
  | .loaded _ buffer => buffer = current ∧ file = current
  | .changed request change buffer | .writing request change buffer =>
    buffer = change.apply current ∧ file = current ∧ Grants request change current
  | .written request change buffer through | .unlocked request change buffer through =>
    buffer = change.apply current ∧ file = splice through buffer current ∧
      Grants request change current
  | _ => True

theorem BitmapPhase.follows_of_not_engaged {phase : BitmapPhase} {current file : Bitmap}
    (free : phase.engaged = false) : phase.Follows current file := by
  cases phase <;> trivial

/-- Every reservation found its bit clear after the changes before it. -/
def ReservesClear (initial : Bitmap) (log : List CompletedChange) : Prop :=
  ∀ early completed late, log = early ++ completed :: late →
    Grants completed.request completed.change (applyChanges initial early)

theorem applyChanges_append (bitmap : Bitmap) (early late : List CompletedChange) :
    applyChanges bitmap (early ++ late) = applyChanges (applyChanges bitmap early) late :=
  List.foldl_append

theorem ReservesClear.append {initial : Bitmap} {log : List CompletedChange}
    {completed : CompletedChange} (reserves : ReservesClear initial log)
    (grants : Grants completed.request completed.change (applyChanges initial log)) :
    ReservesClear initial (log ++ [completed]) := by
  intro early other late splits
  rcases List.eq_nil_or_concat late with rfl | ⟨front, last, rfl⟩
  · obtain ⟨rfl, same⟩ := List.append_inj' splits rfl
    obtain rfl : completed = other := by simpa using same
    exact grants
  · rw [List.concat_eq_append, ← List.cons_append, ← List.append_assoc] at splits
    obtain ⟨rfl, same⟩ := List.append_inj' splits rfl
    exact reserves early other front rfl

theorem applyChanges_of_not_clears {changes : List CompletedChange} {physical : Nat} :
    ∀ {bitmap : Bitmap}, bitmap physical = true →
      (∀ completed ∈ changes, ¬completed.change.Clears physical) →
        applyChanges bitmap changes physical = true := by
  induction changes with
  | nil =>
      intro bitmap marked keeps
      exact marked
  | cons completed changes ih =>
      intro bitmap marked keeps
      apply ih
      · apply BitmapChange.apply_of_not_clears _ marked
        exact keeps completed (List.mem_cons_self ..)
      · intro other member
        exact keeps other (List.mem_cons_of_mem completed member)

/-- A bit that some change sets and none clears ends up set. -/
theorem applyChanges_of_mem {changes : List CompletedChange} {bitmap : Bitmap}
    {completed : CompletedChange} {physical : Nat} (member : completed ∈ changes)
    (sets : completed.change.value = true) (covers : completed.change.Covers physical)
    (keeps : ∀ other ∈ changes, ¬other.change.Clears physical) :
    applyChanges bitmap changes physical = true := by
  obtain ⟨early, late, rfl⟩ := List.append_of_mem member
  rw [applyChanges_append, applyChanges, List.foldl_cons]
  apply applyChanges_of_not_clears
  · rw [BitmapChange.apply_apply]
    exact (if_pos covers).trans sets
  · intro other later
    exact keeps other (List.mem_append_right early (List.mem_cons_of_mem completed later))

theorem BitmapServer.handedOutOnce_of_reservesClear {initial : Bitmap}
    {log : List CompletedChange} (reserves : ReservesClear initial log) :
    HandedOutOnce log := by
  intro early first between second late splits firstReserves secondReserves same
  by_contra kept
  have firstGrants := reserves early first (between ++ second :: late) splits firstReserves
  have secondGrants := reserves (early ++ first :: between) second late
    (by rw [splits, List.append_assoc, List.cons_append]) secondReserves
  have marked : first.change.apply (applyChanges initial early) first.change.start = true := by
    rw [BitmapChange.apply_apply, if_pos (by omega)]
    exact firstGrants.2.1
  have still : applyChanges (first.change.apply (applyChanges initial early)) between
      first.change.start = true := by
    apply applyChanges_of_not_clears marked
    intro completed member clears
    exact kept ⟨completed, member, clears⟩
  rw [applyChanges_append, same] at secondGrants
  exact Bool.false_ne_true (secondGrants.2.2.symm.trans still)

namespace BitmapServer

@[simp]
theorem phase_setPhase_self (server : BitmapServer) (thread : Nat) (phase : BitmapPhase) :
    (server.setPhase thread phase).phase thread = phase :=
  Function.update_self ..

theorem phase_setPhase_of_ne (server : BitmapServer) {thread other : Nat} (phase : BitmapPhase)
    (different : other ≠ thread) :
    (server.setPhase thread phase).phase other = server.phase other :=
  Function.update_of_ne different ..

/-- The bitmap that the completed changes amount to. -/
def current (initial : Bitmap) (server : BitmapServer) : Bitmap :=
  applyChanges initial server.log

/-- The threads behave as if each of them rewrote the bitmap at once: at most one has read
it and not finished, and otherwise the file is what the completed changes amount to. -/
structure Serial (initial : Bitmap) (server : BitmapServer) : Prop where
  owner : ∀ thread, (server.phase thread).holds = true ↔ server.owner = some thread
  single : ∀ first second, (server.phase first).engaged = true →
    (server.phase second).engaged = true → first = second
  follows : ∀ thread, (server.phase thread).Follows (server.current initial) server.file
  settled : (∀ thread, (server.phase thread).engaged = false) →
    server.file = server.current initial
  reserves : ReservesClear initial server.log

theorem serial_of_begins {server : BitmapServer} (begins : server.Begins) :
    Serial server.file server where
  owner thread := by
    rw [begins.2.1 thread, begins.1]
    simp [BitmapPhase.holds]
  single first second engaged := by
    rw [begins.2.1 first] at engaged
    cases engaged
  follows thread := by
    rw [begins.2.1 thread]
    trivial
  settled _ := by
    rw [current, begins.2.2]
    rfl
  reserves early completed late splits := by
    rw [begins.2.2] at splits
    simp at splits

variable {initial : Bitmap} {server after : BitmapServer} {thread : Nat}

/-- What one thread has to respect for the threads to stay serial: it touches the file only
while it is the one that has read the bitmap, and reads only when no other has. -/
theorem Serial.step (serial : Serial initial server) (thread : Nat)
    (others : ∀ other, other ≠ thread → after.phase other = server.phase other)
    (owner : (after.phase thread).holds = true ↔ after.owner = some thread)
    (ownerOthers : ∀ other, other ≠ thread →
      (server.owner = some other ↔ after.owner = some other))
    (unchanged : (server.phase thread).engaged = true ∨
      after.file = server.file ∧ after.log = server.log)
    (alone : (after.phase thread).engaged = true →
      ∀ other, other ≠ thread → (server.phase other).engaged = false)
    (follows : (after.phase thread).Follows (after.current initial) after.file)
    (settled : (server.phase thread).engaged = true → (after.phase thread).engaged = false →
      after.file = after.current initial)
    (reserves : ReservesClear initial after.log) : Serial initial after where
  owner other := by
    by_cases same : other = thread
    · rw [same]
      exact owner
    · rw [others other same, serial.owner other]
      exact ownerOthers other same
  single first second firstEngaged secondEngaged := by
    by_cases firstSame : first = thread
    · by_cases secondSame : second = thread
      · rw [firstSame, secondSame]
      · rw [firstSame] at firstEngaged
        rw [others second secondSame, alone firstEngaged second secondSame] at secondEngaged
        cases secondEngaged
    · by_cases secondSame : second = thread
      · rw [secondSame] at secondEngaged
        rw [others first firstSame, alone secondEngaged first firstSame] at firstEngaged
        cases firstEngaged
      · rw [others first firstSame] at firstEngaged
        rw [others second secondSame] at secondEngaged
        exact serial.single first second firstEngaged secondEngaged
  follows other := by
    by_cases same : other = thread
    · rw [same]
      exact follows
    · rw [others other same]
      rcases unchanged with engaged | ⟨file, log⟩
      · apply BitmapPhase.follows_of_not_engaged
        apply Bool.eq_false_of_not_eq_true
        intro otherEngaged
        exact same (serial.single other thread otherEngaged engaged)
      · rw [current, log, file]
        exact serial.follows other
  settled free := by
    by_cases engaged : (server.phase thread).engaged = true
    · exact settled engaged (free thread)
    · rcases unchanged with changed | ⟨file, log⟩
      · exact absurd changed engaged
      · rw [current, log, file]
        apply serial.settled
        intro other
        by_cases same : other = thread
        · rw [same]
          exact Bool.eq_false_of_not_eq_true engaged
        · rw [← others other same]
          exact free other
  reserves := reserves

/-- A thread that moves on without touching the mutex, the file or the log. -/
theorem Serial.setPhase (serial : Serial initial server) {before phase : BitmapPhase}
    (here : server.phase thread = before) (holds : phase.holds = before.holds)
    (alone : phase.engaged = true →
      ∀ other, other ≠ thread → (server.phase other).engaged = false)
    (follows : phase.Follows (server.current initial) server.file)
    (settled : before.engaged = true → server.file = server.current initial) :
    Serial initial (server.setPhase thread phase) := by
  subst here
  apply serial.step thread
  · intro other different
    exact phase_setPhase_of_ne _ _ different
  · rw [phase_setPhase_self, holds]
    exact serial.owner thread
  · intro other different
    exact Iff.rfl
  · exact Or.inr ⟨rfl, rfl⟩
  · rw [phase_setPhase_self]
    exact alone
  · rw [phase_setPhase_self]
    exact follows
  · intro engaged free
    exact settled engaged
  · exact serial.reserves

theorem Serial.follows_of_phase (serial : Serial initial server) {phase : BitmapPhase}
    (here : server.phase thread = phase) :
    phase.Follows (server.current initial) server.file := by
  have follows := serial.follows thread
  rwa [here] at follows

theorem Serial.alone (serial : Serial initial server)
    (engaged : (server.phase thread).engaged = true) (other : Nat) (different : other ≠ thread) :
    (server.phase other).engaged = false := by
  apply Bool.eq_false_of_not_eq_true
  intro otherEngaged
  exact different (serial.single other thread otherEngaged engaged)

theorem Serial.lock (serial : Serial initial server) {request : BitmapRequest}
    (opened : server.phase thread = .opened request) (free : server.owner = none) :
    Serial initial { server.setPhase thread (.locked request) with owner := some thread } := by
  apply serial.step thread
  · intro other different
    exact phase_setPhase_of_ne _ _ different
  · simp [BitmapPhase.holds]
  · intro other different
    rw [free]
    simp only [reduceCtorEq, Option.some.injEq, false_iff]
    exact fun same => different same.symm
  · exact Or.inr ⟨rfl, rfl⟩
  · simp [BitmapPhase.engaged]
  · simp only [phase_setPhase_self]
    trivial
  · intro engaged
    rw [opened] at engaged
    cases engaged
  · exact serial.reserves

/-- A thread that unlocks the mutex goes on without it. -/
theorem Serial.unlock (serial : Serial initial server) {before phase : BitmapPhase}
    (here : server.phase thread = before) (held : before.holds = true)
    (lets : phase.holds = false) (engaged : phase.engaged = before.engaged)
    (follows : phase.Follows (server.current initial) server.file) :
    Serial initial { server.setPhase thread phase with owner := none } := by
  subst here
  have owns := (serial.owner thread).mp held
  apply serial.step thread
  · intro other different
    exact phase_setPhase_of_ne _ _ different
  · simp [lets]
  · intro other different
    rw [owns]
    simp only [reduceCtorEq, Option.some.injEq, iff_false]
    exact fun same => different same.symm
  · exact Or.inr ⟨rfl, rfl⟩
  · simp only [phase_setPhase_self]
    rw [engaged]
    exact serial.alone
  · simp only [phase_setPhase_self]
    exact follows
  · simp only [phase_setPhase_self]
    rw [engaged]
    intro was is
    rw [was] at is
    cases is
  · exact serial.reserves

/-- `fwrite`: the part that does not fit in the stream reaches the file. -/
theorem Serial.write (serial : Serial initial server) {request : BitmapRequest}
    {change : BitmapChange} {buffer : Bitmap} {through : Nat}
    (writing : server.phase thread = .writing request change buffer) :
    Serial initial { server.setPhase thread (.written request change buffer through) with
      file := splice through buffer server.file } := by
  have engaged : (server.phase thread).engaged = true := by
    rw [writing]
    rfl
  have holds : (server.phase thread).holds = true := by
    rw [writing]
    rfl
  obtain ⟨changes, clean, grants⟩ := serial.follows_of_phase writing
  apply serial.step thread
  · intro other different
    exact phase_setPhase_of_ne _ _ different
  · simp only [phase_setPhase_self]
    exact iff_of_true rfl ((serial.owner thread).mp holds)
  · intro other different
    exact Iff.rfl
  · exact Or.inl engaged
  · intro written
    exact serial.alone engaged
  · simp only [phase_setPhase_self]
    refine ⟨changes, ?_, grants⟩
    rw [clean]
    rfl
  · simp [BitmapPhase.engaged]
  · exact serial.reserves

theorem Serial.close (serial : Serial initial server) {request : BitmapRequest}
    {change : BitmapChange} {buffer : Bitmap} {through : Nat} {before phase : BitmapPhase}
    (here : server.phase thread = before) (engaged : before.engaged = true)
    (follows : buffer = change.apply (server.current initial) ∧
      server.file = splice through buffer (server.current initial) ∧
        Grants request change (server.current initial))
    (holds : phase.holds = before.holds) (done : phase.engaged = false) :
    Serial initial
      ((server.closeStream ⟨thread, request, change⟩ buffer through).setPhase thread phase) := by
  subst here
  obtain ⟨changes, dirty, grants⟩ := follows
  apply serial.step thread
  · intro other different
    exact phase_setPhase_of_ne _ _ different
  · simp only [phase_setPhase_self]
    rw [holds]
    exact serial.owner thread
  · intro other different
    exact Iff.rfl
  · exact Or.inl engaged
  · simp [done]
  · simp only [phase_setPhase_self]
    exact BitmapPhase.follows_of_not_engaged done
  · intro was is
    change splice through server.file buffer =
      applyChanges initial (server.log ++ [⟨thread, request, change⟩])
    rw [dirty, splice_splice, applyChanges_append]
    exact changes
  · exact serial.reserves.append grants

theorem grants_reserve {config : StorageConfig} {bitmap : Bitmap} {physical : Nat}
    (found : getFreeBitIndex config bitmap = some physical) :
    Grants .reserve ⟨physical, 1, true⟩ bitmap := by
  intro _
  have clear := List.find?_some found
  exact ⟨rfl, rfl, by simpa using clear⟩

/-- Between reading and writing, the buffer is the bitmap with the change of the request. -/
theorem follows_changeBuffer (config : StorageConfig) (request : BitmapRequest)
    (bitmap : Bitmap) : (changeBuffer config request bitmap).Follows bitmap bitmap := by
  cases request with
  | reserve =>
      simp only [changeBuffer]
      split
      · trivial
      · rename_i found
        exact ⟨rfl, rfl, grants_reserve found⟩
  | release physical =>
      refine ⟨rfl, rfl, ?_⟩
      intro reserves
      cases reserves
  | modify change =>
      refine ⟨rfl, rfl, ?_⟩
      intro reserves
      cases reserves

theorem holds_changeBuffer (config : StorageConfig) (request : BitmapRequest)
    (bitmap : Bitmap) : (changeBuffer config request bitmap).holds = true := by
  cases request with
  | reserve =>
      simp only [changeBuffer]
      split <;> rfl
  | release physical => rfl
  | modify change => rfl

/-- A thread that holds the mutex has no other reader beside it, if no written stream is
open. -/
theorem Serial.unread (serial : Serial initial server) {request : BitmapRequest}
    (locked : server.phase thread = .locked request)
    (closed : ∀ other otherRequest change buffer through,
      server.phase other ≠ .unlocked otherRequest change buffer through) (other : Nat) :
    (server.phase other).engaged = false := by
  have owns : server.owner = some thread := by
    rw [← serial.owner thread, locked]
    rfl
  have notHolds : other ≠ thread → (server.phase other).holds = false := by
    intro different
    apply Bool.eq_false_of_not_eq_true
    rw [serial.owner other, owns, Option.some.injEq]
    exact fun same => different same.symm
  by_cases same : other = thread
  · rw [same, locked]
    rfl
  · have free := notHolds same
    cases phase : server.phase other with
    | idle => rfl
    | starting _ => rfl
    | opened _ => rfl
    | releasing => rfl
    | locked _ => rfl
    | unlocked otherRequest change buffer through =>
        exact absurd phase (closed other otherRequest change buffer through)
    | loaded _ _ =>
        rw [phase] at free
        cases free
    | changed _ _ _ =>
        rw [phase] at free
        cases free
    | writing _ _ _ =>
        rw [phase] at free
        cases free
    | written _ _ _ _ =>
        rw [phase] at free
        cases free

variable {config : StorageConfig} {streamBuffer : Nat}

/-- A thread about to read that finds all written streams closed keeps the threads serial,
and so does every other step. -/
theorem Serial.advance (serial : Serial initial server) {fails : Bool} {through : Nat}
    (settledReads : server.ReadsSettled (.advance thread fails through))
    (steps : server.advance config streamBuffer thread fails through = some after) :
    Serial initial after := by
  unfold BitmapServer.advance at steps
  cases phase : server.phase thread with
  | idle =>
      rw [phase] at steps
      cases steps
  | starting request =>
      rw [phase] at steps
      cases steps
      apply serial.setPhase phase
      · cases fails <;> rfl
      · cases fails <;> exact fun engaged => nomatch engaged
      · cases fails <;> trivial
      · exact fun engaged => nomatch engaged
  | opened request =>
      rw [phase] at steps
      simp only at steps
      split at steps
      · rename_i free
        cases steps
        exact serial.lock phase free
      · cases steps
  | locked request =>
      rw [phase] at steps
      cases steps
      have unread := serial.unread phase (settledReads request phase)
      have clean := serial.settled unread
      apply serial.setPhase phase
      · cases fails <;> rfl
      · exact fun _ other _ => unread other
      · cases fails with
        | true => trivial
        | false => exact ⟨clean, clean⟩
      · exact fun _ => clean
  | loaded request buffer =>
      have engaged : (server.phase thread).engaged = true := by
        rw [phase]
        rfl
      obtain ⟨rfl, clean⟩ := serial.follows_of_phase phase
      rw [phase] at steps
      cases steps
      apply serial.setPhase phase
      · exact holds_changeBuffer ..
      · exact fun _ => serial.alone engaged
      · rw [clean]
        exact follows_changeBuffer config request _
      · exact fun _ => clean
  | changed request change buffer =>
      have engaged : (server.phase thread).engaged = true := by
        rw [phase]
        rfl
      have follows := serial.follows_of_phase phase
      rw [phase] at steps
      cases steps
      apply serial.setPhase phase
      · cases fails <;> rfl
      · exact fun _ => serial.alone engaged
      · cases fails with
        | true => trivial
        | false => exact follows
      · exact fun _ => follows.2.1
  | writing request change buffer =>
      rw [phase] at steps
      cases steps
      exact serial.write phase
  | written request change buffer direct =>
      have follows := serial.follows_of_phase phase
      rw [phase] at steps
      cases request with
      | modify whole =>
          cases steps
          exact serial.unlock phase rfl rfl rfl follows
      | reserve =>
          cases steps
          exact serial.close phase rfl follows rfl rfl
      | release physical =>
          cases steps
          exact serial.close phase rfl follows rfl rfl
  | unlocked request change buffer direct =>
      have follows := serial.follows_of_phase phase
      rw [phase] at steps
      cases steps
      exact serial.close phase rfl follows rfl rfl
  | releasing =>
      rw [phase] at steps
      cases steps
      exact serial.unlock phase rfl rfl rfl trivial

theorem Serial.next {label : BitmapStep} (serial : Serial initial server)
    (settledReads : server.ReadsSettled label)
    (steps : server.next config streamBuffer label = some after) : Serial initial after := by
  cases label with
  | advance thread fails through => exact serial.advance settledReads steps
  | begin thread request =>
      cases phase : server.phase thread with
      | idle =>
          rw [BitmapServer.next, phase] at steps
          cases steps
          apply serial.setPhase phase
          · rfl
          · exact fun engaged => nomatch engaged
          · trivial
          · exact fun engaged => nomatch engaged
      | _ =>
          rw [BitmapServer.next, phase] at steps
          cases steps

theorem Serial.noUpdateLost (serial : Serial initial server) : server.NoUpdateLost initial := by
  constructor
  · intro quiet
    refine ⟨server.log, List.Perm.refl _, ?_⟩
    apply serial.settled
    intro thread
    rw [quiet thread]
    rfl
  · exact handedOutOnce_of_reservesClear serial.reserves

/-- No update of the bitmap is lost along a run in which every thread that reads the bitmap
finds no stream that is written and not closed. -/
theorem noUpdateLost_of_run {first last : BitmapServer} {labels : List BitmapStep}
    (begins : first.Begins)
    (run : ((system config streamBuffer).guarded ReadsSettled).Run first labels last) :
    last.NoUpdateLost first.file := by
  apply Serial.noUpdateLost
  apply run.preserves
  · intro before label after serial step
    exact serial.next step.1 step.2
  · exact serial_of_begins begins

section Instances

def twoInUse : BitmapServer where
  file := fun bit => decide (bit < 2)
  owner := none
  phase := fun _ => .idle
  log := []

/-- A whole request of a thread, with every host call succeeding. -/
def wholeRequest (thread : Nat) (request : BitmapRequest) (calls : Nat) : List BitmapStep :=
  .begin thread request :: List.replicate calls (.advance thread false 0)

/-- Thread 1 reserves a block while thread 0 has unlocked the mutex and not yet closed the
stream in which it clears block 1. -/
def reserveBeforeClose : List BitmapStep :=
  wholeRequest 0 (.deleteLogicalBlock 1) 6 ++ wholeRequest 1 .reserve 8 ++ [.advance 0 false 0]

def reservedThenCleared : List CompletedChange :=
  [⟨1, .reserve, ⟨2, 1, true⟩⟩, ⟨0, .deleteLogicalBlock 1, ⟨1, 1, false⟩⟩]

/-- The stale bitmap of thread 0 overwrites the reservation of block 2, which no serial order
explains. -/
theorem reservation_lost :
    ∃ last, (system fourByteConfig 4096).Run twoInUse reserveBeforeClose last ∧
      twoInUse.Begins ∧ ¬last.NoUpdateLost twoInUse.file := by
  refine ⟨_, TransitionSystem.run_of_runNext rfl, ⟨rfl, fun _ => rfl, rfl⟩, ?_⟩
  rintro ⟨serial, -⟩
  obtain ⟨order, permuted, file⟩ := serial fun thread => by
    rcases thread with _ | _ | thread
    · rfl
    · rfl
    · rfl
  have changes : order.Perm reservedThenCleared := permuted
  have marked : applyChanges twoInUse.file order 2 = true := by
    apply applyChanges_of_mem (changes.mem_iff.mpr (List.mem_cons_self ..))
    · rfl
    · exact ⟨by decide, by decide⟩
    · intro other member
      rw [changes.mem_iff] at member
      revert other
      decide
  rw [← file] at marked
  cases marked

/-- Thread 0 clears block 1 and thread 1 reserves it afterwards. -/
def reserveAfterClose : List BitmapStep :=
  wholeRequest 0 (.deleteLogicalBlock 1) 7 ++ wholeRequest 1 .reserve 8

theorem noUpdateLost_reserveAfterClose :
    ∃ last,
      ((system fourByteConfig 4096).guarded ReadsSettled).Run twoInUse reserveAfterClose last ∧
      last.log = [⟨0, .deleteLogicalBlock 1, ⟨1, 1, false⟩⟩, ⟨1, .reserve, ⟨1, 1, true⟩⟩] ∧
        last.NoUpdateLost twoInUse.file := by
  have along : TransitionSystem.Along (next fourByteConfig 4096) ReadsSettled twoInUse
      reserveAfterClose := by
    refine ⟨trivial, fun middle step => ?_⟩
    cases step
    iterate 7
      refine ⟨?_, fun middle step => ?_⟩
      · intro request locked other otherRequest change buffer through
        rcases other with _ | other <;> simp_all [twoInUse, setPhase]
      cases step
    refine ⟨trivial, fun middle step => ?_⟩
    cases step
    iterate 8
      refine ⟨?_, fun middle step => ?_⟩
      · intro request locked other otherRequest change buffer through
        rcases other with _ | _ | other <;> simp_all [twoInUse, setPhase, closeStream]
      cases step
    trivial
  have run : ((system fourByteConfig 4096).guarded ReadsSettled).Run twoInUse reserveAfterClose _ :=
    TransitionSystem.run_guarded_of_along rfl along
  exact ⟨_, run, rfl, noUpdateLost_of_run ⟨rfl, fun _ => rfl, rfl⟩ run⟩

end Instances

end BitmapServer

end Storage

end MasterOfFiles
