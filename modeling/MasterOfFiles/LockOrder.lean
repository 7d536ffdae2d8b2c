import Mathlib.Data.Set.Finite.Lattice
import MasterOfFiles.TransitionSystem

/-!
# Lock orders

Threads that take and release mutexes around their work on a shared store.  A
thread that has nothing to do may begin any task, and the program of a task may
choose how it goes on by looking at the store.  When every program takes the
mutexes by increasing rank, no set of threads can wait for one another.  A task
may name the stores at which its choices would break the order; the rule then
covers the runs in which no choice meets such a store.
-/

namespace MasterOfFiles

inductive LockProgram (Mutex Store : Type*)
  | done
  | lock (mutex : Mutex) (next : LockProgram Mutex Store)
  | unlock (mutex : Mutex) (next : LockProgram Mutex Store)
  | perform (change : Store → Store) (next : LockProgram Mutex Store)
  | branch (choose : Store → LockProgram Mutex Store)

namespace LockProgram

variable {Mutex Store : Type*}

/-- The program begins by looking at the store. -/
def Chooses : LockProgram Mutex Store → Prop
  | branch _ => True
  | done | lock _ _ | unlock _ _ | perform _ _ => False

instance : DecidablePred (Chooses : LockProgram Mutex Store → Prop)
  | branch _ => isTrue trivial
  | done | lock _ _ | unlock _ _ | perform _ _ => isFalse id

/-- The program waits for the mutex, or is about to take it. -/
def Wants (mutex : Mutex) : LockProgram Mutex Store → Prop
  | lock wanted _ => wanted = mutex
  | done | unlock _ _ | perform _ _ | branch _ => False

instance [DecidableEq Mutex] (mutex : Mutex) :
    DecidablePred (Wants mutex : LockProgram Mutex Store → Prop)
  | lock wanted _ => inferInstanceAs (Decidable (wanted = mutex))
  | done | unlock _ _ | perform _ _ | branch _ => isFalse id

/-- What the program makes of a store that nobody else changes. -/
def effect : LockProgram Mutex Store → Store → Store
  | done, store => store
  | lock _ next, store => next.effect store
  | unlock _ next, store => next.effect store
  | perform change next, store => next.effect (change store)
  | branch choose, store => (choose store).effect store

/-- From the held mutexes on, the program takes mutexes by increasing rank,
releases what it holds and ends with nothing held, as long as no choice meets
an excluded store. -/
def Ordered (rank : Mutex → Nat) (excluded : Store → Prop) :
    Set Mutex → LockProgram Mutex Store → Prop
  | held, done => held = ∅
  | held, lock mutex next =>
    (∀ other ∈ held, rank other < rank mutex) ∧ Ordered rank excluded (insert mutex held) next
  | held, unlock mutex next =>
    mutex ∈ held ∧ Ordered rank excluded (held \ {mutex}) next
  | held, perform _ next => Ordered rank excluded held next
  | held, branch choose =>
    ∀ store, ¬excluded store → Ordered rank excluded held (choose store)

theorem Wants.unique {program : LockProgram Mutex Store} {mutex other : Mutex}
    (wants : program.Wants mutex) (wantsOther : program.Wants other) : mutex = other := by
  cases program with
  | lock wanted rest =>
      change wanted = mutex at wants
      rw [← wants]
      exact wantsOther
  | done | unlock wanted rest | perform change rest | branch choose => cases wants

theorem Ordered.lt_of_wants {rank : Mutex → Nat} {excluded : Store → Prop} {held : Set Mutex}
    {program : LockProgram Mutex Store} (ordered : program.Ordered rank excluded held)
    {wanted mutex : Mutex} (wants : program.Wants wanted) (holds : mutex ∈ held) :
    rank mutex < rank wanted := by
  cases program with
  | lock first rest =>
      obtain rfl : first = wanted := wants
      exact ordered.1 mutex holds
  | done | unlock first rest | perform change rest | branch choose => cases wants

theorem Ordered.mono {rank : Mutex → Nat} {excluded larger : Store → Prop} {held : Set Mutex}
    {program : LockProgram Mutex Store} (ordered : program.Ordered rank excluded held)
    (implies : ∀ store, excluded store → larger store) : program.Ordered rank larger held := by
  induction program generalizing held with
  | done => exact ordered
  | lock mutex rest ih => exact ⟨ordered.1, ih ordered.2⟩
  | unlock mutex rest ih => exact ⟨ordered.1, ih ordered.2⟩
  | perform change rest ih =>
      apply ih
      exact ordered
  | branch choose ih =>
      intro store allowed
      apply ih store
      exact ordered store fun here => allowed (implies store here)

end LockProgram

/-- The store, the holder of each mutex, and what each thread has begun and has
still to do. -/
structure LockMachine (Task Mutex Store : Type*) where
  store : Store
  holder : Mutex → Option Nat
  task : Nat → Option Task
  program : Nat → LockProgram Mutex Store

/-- A thread begins a task or takes the next step of its program. -/
inductive LockStep (Task : Type*)
  | begin (thread : Nat) (task : Task)
  | advance (thread : Nat)
deriving DecidableEq

namespace LockMachine

variable {Task Mutex Store : Type*} [DecidableEq Mutex]

/-- No mutex is held and no thread has begun anything. -/
def fresh (store : Store) : LockMachine Task Mutex Store where
  store := store
  holder _ := none
  task _ := none
  program _ := .done

def setProgram (machine : LockMachine Task Mutex Store) (thread : Nat)
    (program : LockProgram Mutex Store) : LockMachine Task Mutex Store :=
  { machine with program := Function.update machine.program thread program }

/-- One step; a thread cannot take a mutex that is held. -/
def next (body : Task → LockProgram Mutex Store) (machine : LockMachine Task Mutex Store) :
    LockStep Task → Option (LockMachine Task Mutex Store)
  | .begin thread task =>
    match machine.program thread with
    | .done =>
      some { machine.setProgram thread (body task) with
        task := Function.update machine.task thread (some task) }
    | _ => none
  | .advance thread =>
    match machine.program thread with
    | .done => none
    | .lock mutex rest =>
      if machine.holder mutex = none then
        some { machine.setProgram thread rest with
          holder := Function.update machine.holder mutex (some thread) }
      else none
    | .unlock mutex rest =>
      if machine.holder mutex = some thread then
        some { machine.setProgram thread rest with
          holder := Function.update machine.holder mutex none }
      else none
    | .perform change rest =>
      some { machine.setProgram thread rest with store := change machine.store }
    | .branch choose => some (machine.setProgram thread (choose machine.store))

/-- The threads over a store that meets a condition at the start. -/
def system (initial : Store → Prop) (body : Task → LockProgram Mutex Store) :
    TransitionSystem (LockMachine Task Mutex Store) (LockStep Task) :=
  .ofNext (fun machine => ∃ store, initial store ∧ machine = fresh store) (next body)

/-- The mutexes that a thread holds. -/
def held (machine : LockMachine Task Mutex Store) (thread : Nat) : Set Mutex :=
  {mutex | machine.holder mutex = some thread}

/-- Every thread of the set holds a mutex and waits for one that a thread of the
set holds. -/
def Deadlocked (machine : LockMachine Task Mutex Store) (threads : Set Nat) : Prop :=
  threads.Nonempty ∧ ∀ thread ∈ threads, (machine.held thread).Nonempty ∧
    ∃ mutex, (machine.program thread).Wants mutex ∧
      ∃ other ∈ threads, mutex ∈ machine.held other

/-- The step makes no choice at a store that its task excludes. -/
def Avoids (excluded : Task → Store → Prop) (machine : LockMachine Task Mutex Store) :
    LockStep Task → Prop
  | .begin _ _ => True
  | .advance thread =>
    (machine.program thread).Chooses → ∀ task ∈ machine.task thread, ¬excluded task machine.store

instance (excluded : Task → Store → Prop) [∀ task store, Decidable (excluded task store)]
    (machine : LockMachine Task Mutex Store) :
    DecidablePred (machine.Avoids excluded)
  | .begin _ _ => isTrue trivial
  | .advance thread =>
    inferInstanceAs (Decidable ((machine.program thread).Chooses →
      ∀ task ∈ machine.task thread, ¬excluded task machine.store))

section Steps

variable {body : Task → LockProgram Mutex Store} {rank : Mutex → Nat}
  {excluded : Task → Store → Prop} {machine after : LockMachine Task Mutex Store}
  {thread : Nat}

def excludes (excluded : Task → Store → Prop) (machine : LockMachine Task Mutex Store)
    (thread : Nat) (store : Store) : Prop :=
  ∃ task, machine.task thread = some task ∧ excluded task store

/-- Every thread takes its mutexes in order from what it holds. -/
def InOrder (rank : Mutex → Nat) (excluded : Task → Store → Prop)
    (machine : LockMachine Task Mutex Store) : Prop :=
  ∀ thread, (machine.program thread).Ordered rank (machine.excludes excluded thread)
    (machine.held thread)

omit [DecidableEq Mutex] in
theorem inOrder_fresh (store : Store) :
    InOrder rank excluded (fresh store : LockMachine Task Mutex Store) := by
  intro thread
  change {mutex : Mutex | (none : Option Nat) = some thread} = ∅
  simp

omit [DecidableEq Mutex] in
/-- The program of the thread that moves has to be in order; the others keep
theirs when they hold what they held. -/
theorem InOrder.of_moved (inOrder : InOrder rank excluded machine)
    {program : LockProgram Mutex Store}
    (programs : after.program = Function.update machine.program thread program)
    (tasks : ∀ other, other ≠ thread → after.task other = machine.task other)
    (others : ∀ other, other ≠ thread → after.held other = machine.held other)
    (moved : program.Ordered rank (after.excludes excluded thread) (after.held thread)) :
    InOrder rank excluded after := by
  intro other
  by_cases same : other = thread
  · subst same
    rw [programs, Function.update_self]
    exact moved
  · have kept := inOrder other
    unfold excludes at kept ⊢
    rw [programs, Function.update_of_ne same, others other same, tasks other same]
    exact kept

theorem held_update_of_ne {mutex : Mutex} {owner : Option Nat} {other : Nat}
    (before : machine.holder mutex ≠ some other) (now : owner ≠ some other) :
    {wanted | Function.update machine.holder mutex owner wanted = some other} =
      machine.held other := by
  ext wanted
  change Function.update machine.holder mutex owner wanted = some other ↔
    machine.holder wanted = some other
  by_cases same : wanted = mutex
  · subst same
    rw [Function.update_self]
    exact iff_of_false now before
  · rw [Function.update_of_ne same]

theorem held_update_some (mutex : Mutex) :
    {wanted | Function.update machine.holder mutex (some thread) wanted = some thread} =
      insert mutex (machine.held thread) := by
  ext wanted
  change Function.update machine.holder mutex (some thread) wanted = some thread ↔
    wanted = mutex ∨ machine.holder wanted = some thread
  by_cases same : wanted = mutex
  · subst same
    simp
  · rw [Function.update_of_ne same]
    simp [same]

theorem held_update_none (mutex : Mutex) :
    {wanted | Function.update machine.holder mutex none wanted = some thread} =
      machine.held thread \ {mutex} := by
  ext wanted
  change Function.update machine.holder mutex none wanted = some thread ↔
    machine.holder wanted = some thread ∧ wanted ≠ mutex
  by_cases same : wanted = mutex
  · subst same
    simp
  · rw [Function.update_of_ne same]
    simp [same]

theorem InOrder.begin (ordered : ∀ task, (body task).Ordered rank (excluded task) ∅)
    (inOrder : InOrder rank excluded machine) {task : Task}
    (step : next body machine (.begin thread task) = some after) :
    InOrder rank excluded after := by
  simp only [next] at step
  split at step
  · rename_i finished
    cases step
    apply inOrder.of_moved rfl
    · intro other distinct
      exact Function.update_of_ne distinct ..
    · intro other distinct
      rfl
    · have nothing := inOrder thread
      rw [finished] at nothing
      change machine.held thread = ∅ at nothing
      change (body task).Ordered rank _ (machine.held thread)
      rw [nothing]
      convert ordered task
      unfold excludes
      funext store
      simp [Function.update_self]
  · cases step

theorem InOrder.advance (inOrder : InOrder rank excluded machine)
    (avoids : machine.Avoids excluded (.advance thread))
    (step : next body machine (.advance thread) = some after) :
    InOrder rank excluded after := by
  have own := inOrder thread
  simp only [next] at step
  cases program : machine.program thread with
  | done =>
      rw [program] at step
      cases step
  | lock mutex rest =>
      simp only [program] at step
      rw [program] at own
      split at step
      · rename_i free
        cases step
        apply inOrder.of_moved rfl
        · intro other distinct
          rfl
        · intro other distinct
          apply held_update_of_ne
          · rw [free]
            simp
          · simpa using Ne.symm distinct
        · change rest.Ordered rank _ {wanted | Function.update machine.holder mutex
            (some thread) wanted = some thread}
          rw [held_update_some]
          exact own.2
      · cases step
  | unlock mutex rest =>
      simp only [program] at step
      rw [program] at own
      split at step
      · rename_i holds
        cases step
        apply inOrder.of_moved rfl
        · intro other distinct
          rfl
        · intro other distinct
          apply held_update_of_ne
          · rw [holds]
            simpa using Ne.symm distinct
          · simp
        · change rest.Ordered rank _ {wanted | Function.update machine.holder mutex
            none wanted = some thread}
          rw [held_update_none]
          exact own.2
      · cases step
  | perform change rest =>
      simp only [program] at step
      rw [program] at own
      cases step
      apply inOrder.of_moved rfl
      · intro other distinct
        rfl
      · intro other distinct
        rfl
      · exact own
  | branch choose =>
      simp only [program] at step
      rw [program] at own
      cases step
      apply inOrder.of_moved rfl
      · intro other distinct
        rfl
      · intro other distinct
        rfl
      · apply own
        rintro ⟨task, begun, excludedHere⟩
        simp only [Avoids, program] at avoids
        exact avoids trivial task begun excludedHere

omit [DecidableEq Mutex] in
/-- The thread that holds the wanted mutex waits for one of a higher rank. -/
theorem InOrder.climbs (inOrder : InOrder rank excluded machine) {threads : Set Nat}
    (deadlocked : machine.Deadlocked threads) {mutex : Mutex} (member : thread ∈ threads)
    (wants : (machine.program thread).Wants mutex) :
    ∃ other ∈ threads, ∃ higher, (machine.program other).Wants higher ∧
      rank mutex < rank higher := by
  obtain ⟨-, wanted, wantsWanted, other, otherMember, holds⟩ := deadlocked.2 thread member
  obtain rfl : wanted = mutex := LockProgram.Wants.unique wantsWanted wants
  obtain ⟨-, higher, wantsHigher, -⟩ := deadlocked.2 other otherMember
  exact ⟨other, otherMember, higher, wantsHigher, (inOrder other).lt_of_wants wantsHigher holds⟩

omit [DecidableEq Mutex] in
/-- Ranks would rise without end along a set of threads that wait for one another. -/
theorem InOrder.not_deadlocked [Finite Mutex] (inOrder : InOrder rank excluded machine)
    (threads : Set Nat) : ¬machine.Deadlocked threads := by
  intro deadlocked
  have rises : ∀ height, ∃ thread ∈ threads, ∃ mutex,
      (machine.program thread).Wants mutex ∧ height ≤ rank mutex := by
    intro height
    induction height with
    | zero =>
        obtain ⟨thread, member⟩ := deadlocked.1
        obtain ⟨-, mutex, wants, -⟩ := deadlocked.2 thread member
        exact ⟨thread, member, mutex, wants, Nat.zero_le _⟩
    | succ height ih =>
        obtain ⟨thread, member, mutex, wants, reached⟩ := ih
        obtain ⟨other, otherMember, higher, wantsHigher, above⟩ :=
          inOrder.climbs deadlocked member wants
        exact ⟨other, otherMember, higher, wantsHigher, by omega⟩
  obtain ⟨bound, bounds⟩ := (Set.finite_range rank).bddAbove
  obtain ⟨-, -, mutex, -, reached⟩ := rises (bound + 1)
  have below : rank mutex ≤ bound := bounds (Set.mem_range_self mutex)
  omega

/-- Threads whose tasks take their mutexes by increasing rank never wait for one
another in a run that avoids the excluded stores. -/
theorem not_deadlocked_of_ordered [Finite Mutex] {initial : Store → Prop}
    (ordered : ∀ task, (body task).Ordered rank (excluded task) ∅)
    (reachable : ((system initial body).guarded (Avoids excluded)).Reachable machine)
    (threads : Set Nat) : ¬machine.Deadlocked threads := by
  have inOrder : InOrder rank excluded machine := by
    apply reachable.invariant
    · rintro state ⟨store, -, rfl⟩
      exact inOrder_fresh store
    · intro before label after inOrder step
      cases label with
      | begin thread task => exact inOrder.begin ordered step.2
      | advance thread => exact inOrder.advance step.1 step.2
  exact inOrder.not_deadlocked threads

omit [DecidableEq Mutex] in
theorem InOrder.unfinished (inOrder : InOrder rank excluded machine)
    (holds : (machine.held thread).Nonempty) : machine.program thread ≠ .done := by
  intro finished
  have own := inOrder thread
  rw [finished] at own
  obtain ⟨mutex, member⟩ := holds
  rw [show machine.held thread = ∅ from own] at member
  exact member

/-- A thread that cannot go on has finished or waits for a mutex that is held. -/
theorem InOrder.waits (inOrder : InOrder rank excluded machine)
    (stuck : next body machine (.advance thread) = none)
    (unfinished : machine.program thread ≠ .done) :
    ∃ mutex other, (machine.program thread).Wants mutex ∧ mutex ∈ machine.held other := by
  have own := inOrder thread
  simp only [next] at stuck
  cases program : machine.program thread with
  | done => exact absurd program unfinished
  | lock mutex rest =>
      simp only [program] at stuck
      split at stuck
      · cases stuck
      · rename_i taken
        obtain ⟨other, holds⟩ := Option.ne_none_iff_exists'.mp taken
        exact ⟨mutex, other, rfl, holds⟩
  | unlock mutex rest =>
      simp only [program] at stuck
      rw [program] at own
      have holds : machine.holder mutex = some thread := own.1
      rw [if_pos holds] at stuck
      cases stuck
  | perform change rest =>
      simp only [program] at stuck
      cases stuck
  | branch choose =>
      simp only [program] at stuck
      cases stuck

/-- As long as some thread has not finished, some thread can go on. -/
theorem InOrder.exists_advance [Finite Mutex] (inOrder : InOrder rank excluded machine)
    (unfinished : machine.program thread ≠ .done) :
    ∃ other after, next body machine (.advance other) = some after := by
  by_contra stuck
  simp only [not_exists] at stuck
  have halted (other : Nat) : next body machine (.advance other) = none :=
    Option.eq_none_iff_forall_ne_some.mpr (stuck other)
  apply inOrder.not_deadlocked {other | (machine.held other).Nonempty}
  constructor
  · obtain ⟨mutex, other, -, holds⟩ := inOrder.waits (halted thread) unfinished
    exact ⟨other, mutex, holds⟩
  · intro other holds
    obtain ⟨mutex, holder, wants, held⟩ :=
      inOrder.waits (halted other) (inOrder.unfinished holds)
    exact ⟨holds, mutex, wants, holder, ⟨mutex, held⟩, held⟩

/-- Tasks that keep the order whatever they find keep it in every run. -/
theorem inOrder_of_reachable {initial : Store → Prop}
    (ordered : ∀ task, (body task).Ordered rank (fun _ => False) ∅)
    (reachable : (system initial body).Reachable machine) :
    InOrder rank (fun _ _ => False) machine := by
  apply reachable.invariant
  · rintro state ⟨store, -, rfl⟩
    exact inOrder_fresh store
  · intro before label after inOrder step
    cases label with
    | begin thread task => exact inOrder.begin ordered step
    | advance thread => exact inOrder.advance (fun _ _ _ => id) step

end Steps

section Alone

variable {body : Task → LockProgram Mutex Store} {rank : Mutex → Nat}
  {machine : LockMachine Task Mutex Store} {thread : Nat}

def Alone (machine : LockMachine Task Mutex Store) (thread : Nat) : Prop :=
  ∀ mutex other, machine.holder mutex = some other → other = thread

theorem Alone.update (alone : machine.Alone thread) (mutex : Mutex) {owner : Option Nat}
    (own : ∀ other, owner = some other → other = thread) (wanted : Mutex) (other : Nat)
    (holds : Function.update machine.holder mutex owner wanted = some other) :
    other = thread := by
  by_cases same : wanted = mutex
  · subst same
    rw [Function.update_self] at holds
    exact own other holds
  · rw [Function.update_of_ne same] at holds
    exact alone wanted other holds

/-- The thread can run to its end and leave this store behind. -/
def Finishes (initial : Store → Prop) (body : Task → LockProgram Mutex Store)
    (machine : LockMachine Task Mutex Store) (thread : Nat) (store : Store) : Prop :=
  ∃ labels last, (system initial body).Run machine labels last ∧
    last.program thread = .done ∧ last.store = store

theorem Finishes.of_step {initial : Store → Prop} {after : LockMachine Task Mutex Store}
    {store : Store} (step : next body machine (.advance thread) = some after)
    (finishes : Finishes initial body after thread store) :
    Finishes initial body machine thread store := by
  obtain ⟨labels, last, run, ends⟩ := finishes
  exact ⟨_, last, (TransitionSystem.Run.single step).append run, ends⟩

/-- A thread that takes its mutexes by increasing rank and is alone in holding any runs to its
end, with the effect of its program. -/
theorem finishes_effect {initial : Store → Prop} {program : LockProgram Mutex Store}
    (ordered : program.Ordered rank (fun _ => False) (machine.held thread))
    (here : machine.program thread = program) (alone : machine.Alone thread) :
    Finishes initial body machine thread (program.effect machine.store) := by
  induction program generalizing machine with
  | done => exact ⟨[], machine, .nil, here, rfl⟩
  | lock mutex rest ih =>
      have free : machine.holder mutex = none := by
        cases holder : machine.holder mutex with
        | none => rfl
        | some other =>
            rw [alone mutex other holder] at holder
            exact absurd (ordered.1 mutex holder) (Nat.lt_irrefl _)
      have step : next body machine (.advance thread) =
          some { machine.setProgram thread rest with
            holder := Function.update machine.holder mutex (some thread) } := by
        simp only [next, here]
        rw [if_pos free]
      apply Finishes.of_step step
      apply ih
      · have orderedRest := ordered.2
        rw [← held_update_some] at orderedRest
        exact orderedRest
      · exact Function.update_self ..
      · apply alone.update mutex
        intro other same
        exact (Option.some.inj same).symm
  | unlock mutex rest ih =>
      have step : next body machine (.advance thread) =
          some { machine.setProgram thread rest with
            holder := Function.update machine.holder mutex none } := by
        simp only [next, here]
        exact if_pos ordered.1
      apply Finishes.of_step step
      apply ih
      · have orderedRest := ordered.2
        rw [← held_update_none] at orderedRest
        exact orderedRest
      · exact Function.update_self ..
      · apply alone.update mutex
        intro other same
        cases same
  | perform change rest ih =>
      have step : next body machine (.advance thread) =
          some { machine.setProgram thread rest with store := change machine.store } := by
        simp only [next, here]
      apply Finishes.of_step step
      apply ih
      · exact ordered
      · exact Function.update_self ..
      · exact alone
  | branch choose ih =>
      have step : next body machine (.advance thread) =
          some (machine.setProgram thread (choose machine.store)) := by
        simp only [next, here]
      apply Finishes.of_step step
      apply ih machine.store
      · exact ordered machine.store id
      · exact Function.update_self ..
      · exact alone

end Alone

end LockMachine

end MasterOfFiles
