import Mathlib.Logic.Relation

/-!
# Labelled transition systems

Every party of the development is a labelled transition system: a predicate on
initial states and a step relation indexed by labels.  This file collects the
run-level rules the later files use by name: an invariant kept by every step
holds along every run, a guarded system only takes the steps that meet a
condition, and a forward simulation carries whole runs.
-/

namespace MasterOfFiles

/-- A labelled transition system over arbitrary states and labels. -/
structure TransitionSystem (State Label : Type*) where
  initial : State → Prop
  step : State → Label → State → Prop

namespace TransitionSystem

variable {State Label : Type*}

/-- A finite run, extended one step at a time at its end. -/
inductive Run (system : TransitionSystem State Label) (first : State) :
    List Label → State → Prop
  | nil : Run system first [] first
  | snoc {middle last : State} {labels : List Label} {label : Label}
      (before : Run system first labels middle)
      (final : system.step middle label last) :
      Run system first (labels ++ [label]) last

/-- A state at the end of some run from an initial state. -/
def Reachable (system : TransitionSystem State Label) (state : State) : Prop :=
  ∃ first labels, system.initial first ∧ system.Run first labels state

/-- The same system, allowed to take only the steps that meet a condition on
the state before the step and the label. -/
def guarded (system : TransitionSystem State Label)
    (condition : State → Label → Prop) : TransitionSystem State Label where
  initial := system.initial
  step before label after := condition before label ∧ system.step before label after

def Preserves (system : TransitionSystem State Label)
    (property : State → Prop) : Prop :=
  ∀ ⦃before label after⦄, property before →
    system.step before label after → property after

variable {system : TransitionSystem State Label}

theorem Run.single {first last : State} {label : Label}
    (step : system.step first label last) :
    system.Run first [label] last := by
  simpa using Run.snoc Run.nil step

theorem Run.append {first middle last : State} {early late : List Label}
    (before : system.Run first early middle)
    (after : system.Run middle late last) :
    system.Run first (early ++ late) last := by
  induction after with
  | nil => simpa using before
  | snoc _ final ih =>
      rw [← List.append_assoc]
      exact Run.snoc ih final

theorem Run.preserves {property : State → Prop}
    (kept : system.Preserves property) {first last : State}
    {labels : List Label} (run : system.Run first labels last)
    (start : property first) : property last := by
  induction run with
  | nil => exact start
  | snoc _ final ih => exact kept ih final

/-- The invariant rule: initial states satisfy the property and every step
keeps it, so every reachable state satisfies it. -/
theorem Reachable.invariant {property : State → Prop}
    (starts : ∀ state, system.initial state → property state)
    (kept : system.Preserves property) {state : State}
    (reachable : system.Reachable state) : property state := by
  obtain ⟨first, labels, begins, run⟩ := reachable
  exact run.preserves kept (starts first begins)

theorem Reachable.start {state : State} (begins : system.initial state) :
    system.Reachable state :=
  ⟨state, [], begins, Run.nil⟩

theorem Reachable.next {before after : State} {label : Label}
    (reachable : system.Reachable before)
    (step : system.step before label after) : system.Reachable after := by
  obtain ⟨first, labels, begins, run⟩ := reachable
  exact ⟨first, labels ++ [label], begins, Run.snoc run step⟩

theorem Run.guarded_mono {condition weaker : State → Label → Prop}
    (implies : ∀ state label, condition state label → weaker state label)
    {first last : State} {labels : List Label}
    (run : (system.guarded condition).Run first labels last) :
    (system.guarded weaker).Run first labels last := by
  induction run with
  | nil => exact Run.nil
  | snoc _ final ih => exact Run.snoc ih ⟨implies _ _ final.1, final.2⟩

theorem Run.guarded_of_labels {condition : State → Label → Prop} {first last : State}
    {labels : List Label} (run : system.Run first labels last)
    (meets : ∀ label ∈ labels, ∀ state, condition state label) :
    (system.guarded condition).Run first labels last := by
  induction run with
  | nil => exact Run.nil
  | snoc _ final ih =>
      refine Run.snoc (ih fun label member => meets label (by simp [member])) ?_
      exact ⟨meets _ (by simp) _, final⟩

/-- The system of a step function that is undefined where no step is possible. -/
def ofNext (initial : State → Prop) (next : State → Label → Option State) :
    TransitionSystem State Label where
  initial := initial
  step before label after := next before label = some after

/-- Take the steps of a list of labels in turn. -/
def runNext (next : State → Label → Option State) (first : State) :
    List Label → Option State
  | [] => some first
  | label :: labels => (next first label).bind fun middle => runNext next middle labels

theorem run_of_runNext {initial : State → Prop} {next : State → Label → Option State}
    {first last : State} {labels : List Label} (ends : runNext next first labels = some last) :
    (ofNext initial next).Run first labels last := by
  induction labels generalizing first with
  | nil =>
      obtain rfl : first = last := Option.some.inj ends
      exact Run.nil
  | cons label labels ih =>
      obtain ⟨middle, step, rest⟩ := Option.bind_eq_some_iff.mp ends
      have single : (ofNext initial next).Run first [label] middle := Run.single step
      exact single.append (ih rest)

/-- A step function that refuses the steps that do not meet a condition. -/
def guardedNext (next : State → Label → Option State) (condition : State → Label → Prop)
    [∀ state label, Decidable (condition state label)] (state : State) (label : Label) :
    Option State :=
  if condition state label then next state label else none

theorem run_of_runGuarded {initial : State → Prop} {next : State → Label → Option State}
    {condition : State → Label → Prop} [∀ state label, Decidable (condition state label)]
    {first last : State} {labels : List Label}
    (ends : runNext (guardedNext next condition) first labels = some last) :
    ((ofNext initial next).guarded condition).Run first labels last := by
  induction labels generalizing first with
  | nil =>
      obtain rfl : first = last := Option.some.inj ends
      exact Run.nil
  | cons label labels ih =>
      obtain ⟨middle, step, rest⟩ := Option.bind_eq_some_iff.mp ends
      unfold guardedNext at step
      split at step
      · rename_i meets
        have single : ((ofNext initial next).guarded condition).Run first [label] middle :=
          Run.single ⟨meets, step⟩
        exact single.append (ih rest)
      · cases step

/-- A property of every step that a list of labels takes. -/
def Along (next : State → Label → Option State) (property : State → Label → Prop)
    (first : State) : List Label → Prop
  | [] => True
  | label :: labels => property first label ∧
      ∀ middle, next first label = some middle → Along next property middle labels

theorem along_congr {next : State → Label → Option State} {property other : State → Label → Prop}
    (same : ∀ state label, property state label ↔ other state label) {first : State}
    {labels : List Label} : Along next property first labels ↔ Along next other first labels := by
  induction labels generalizing first with
  | nil => exact Iff.rfl
  | cons label labels ih =>
      unfold Along
      rw [same first label]
      refine and_congr_right fun _ => forall_congr' fun middle => ?_
      rw [ih]

theorem run_guarded_of_along {initial : State → Prop} {next : State → Label → Option State}
    {condition : State → Label → Prop} {first last : State} {labels : List Label}
    (ends : runNext next first labels = some last) (along : Along next condition first labels) :
    ((ofNext initial next).guarded condition).Run first labels last := by
  induction labels generalizing first with
  | nil =>
      obtain rfl : first = last := Option.some.inj ends
      exact Run.nil
  | cons label labels ih =>
      obtain ⟨middle, step, rest⟩ := Option.bind_eq_some_iff.mp ends
      have single : ((ofNext initial next).guarded condition).Run first [label] middle :=
        Run.single ⟨along.1, step⟩
      exact single.append (ih rest (along.2 middle step))

/-- A forward simulation from a concrete system to an abstract one over the
same labels. -/
structure Simulation {Abstract : Type*}
    (concrete : TransitionSystem State Label)
    (abstract : TransitionSystem Abstract Label)
    (related : State → Abstract → Prop) : Prop where
  initial : ∀ state, concrete.initial state →
    ∃ image, abstract.initial image ∧ related state image
  step : ∀ ⦃before label after image⦄, related before image →
    concrete.step before label after →
      ∃ next, abstract.step image label next ∧ related after next

/-- A forward simulation maps every concrete run to an abstract run over the
same labels, ending in related states. -/
theorem Simulation.run {Abstract : Type*}
    {abstract : TransitionSystem Abstract Label}
    {related : State → Abstract → Prop}
    (simulation : Simulation system abstract related)
    {first last : State} {labels : List Label} {image : Abstract}
    (run : system.Run first labels last) (start : related first image) :
    ∃ next, abstract.Run image labels next ∧ related last next := by
  induction run with
  | nil => exact ⟨image, Run.nil, start⟩
  | snoc _ final ih =>
      obtain ⟨middle, abstractRun, middleRelated⟩ := ih
      obtain ⟨next, abstractStep, nextRelated⟩ :=
        simulation.step middleRelated final
      exact ⟨next, Run.snoc abstractRun abstractStep, nextRelated⟩

end TransitionSystem

end MasterOfFiles
