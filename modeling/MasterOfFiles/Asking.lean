import Mathlib.Control.Basic

/-!
# Programs that ask a server

A program ends with a result or asks a server and goes on with the answer.  The tree of
all answers says what the program does whatever it is told; a server that keeps a state
picks one path through it.  The rules say how a program is composed of parts: what it
asks, what it ends with, and that a request of one kind ends it.
-/

namespace MasterOfFiles

/-- A program whose requests are answered from outside. -/
inductive Asking {Request : Type} (Answer : Request → Type) (Result : Type) : Type
  | done (result : Result)
  | ask (request : Request) (resume : Answer request → Asking Answer Result)

namespace Asking

variable {Request : Type} {Answer : Request → Type} {Result Final State : Type}

protected def bind : Asking Answer Result → (Result → Asking Answer Final) →
    Asking Answer Final
  | .done result, next => next result
  | .ask request resume, next => .ask request fun answer => (resume answer).bind next

instance : Monad (Asking Answer) where
  pure := .done
  bind := .bind

@[simp]
theorem pure_eq (result : Result) : (pure result : Asking Answer Result) = .done result :=
  rfl

@[simp]
theorem done_bind (result : Result) (next : Result → Asking Answer Final) :
    (Asking.done result >>= next) = next result :=
  rfl

@[simp]
theorem ask_bind (request : Request) (resume : Answer request → Asking Answer Result)
    (next : Result → Asking Answer Final) :
    (Asking.ask request resume >>= next) =
      .ask request fun answer => resume answer >>= next :=
  rfl

def request (request : Request) : Asking Answer (Answer request) :=
  .ask request .done

abbrev Server (Answer : Request → Type) (State : Type) : Type :=
  State → (request : Request) → Answer request × State

/-- The result of a program that a server answers, and the state of the server then. -/
def run (serve : Server Answer State) : Asking Answer Result → State → Result × State
  | .done result, state => (result, state)
  | .ask request resume, state =>
    (resume (serve state request).1).run serve (serve state request).2

@[simp]
theorem run_done (serve : Server Answer State) (result : Result) (state : State) :
    (Asking.done result : Asking Answer Result).run serve state = (result, state) :=
  rfl

@[simp]
theorem run_ask (serve : Server Answer State) (request : Request)
    (resume : Answer request → Asking Answer Result) (state : State) :
    (Asking.ask request resume).run serve state =
      (resume (serve state request).1).run serve (serve state request).2 :=
  rfl

theorem run_bind (serve : Server Answer State) (program : Asking Answer Result)
    (next : Result → Asking Answer Final) (state : State) :
    (program >>= next).run serve state =
      (next (program.run serve state).1).run serve (program.run serve state).2 := by
  induction program generalizing state with
  | done result => rfl
  | ask request resume ih => exact ih _ _

/-- Whatever it is told, a program asks only certain requests and ends with certain
results. -/
def Ensures (asks : Request → Prop) (ends : Result → Prop) : Asking Answer Result → Prop
  | .done result => ends result
  | .ask request resume => asks request ∧ ∀ answer, (resume answer).Ensures asks ends

variable {asks other : Request → Prop} {ends : Result → Prop} {reaches : Final → Prop}

@[simp]
theorem ensures_done {result : Result} :
    (Asking.done result : Asking Answer Result).Ensures asks ends ↔ ends result :=
  Iff.rfl

@[simp]
theorem ensures_ask {request : Request} {resume : Answer request → Asking Answer Result} :
    (Asking.ask request resume).Ensures asks ends ↔
      asks request ∧ ∀ answer, (resume answer).Ensures asks ends :=
  Iff.rfl

theorem Ensures.bind {program : Asking Answer Result} {next : Result → Asking Answer Final}
    (first : program.Ensures asks ends)
    (later : ∀ result, ends result → (next result).Ensures asks reaches) :
    (program >>= next).Ensures asks reaches := by
  induction program with
  | done result => exact later result first
  | ask request resume ih => exact ⟨first.1, fun answer => ih answer (first.2 answer)⟩

theorem Ensures.mono {program : Asking Answer Result} {weaker : Result → Prop}
    (first : program.Ensures asks ends) (asksLess : ∀ request, asks request → other request)
    (endsLess : ∀ result, ends result → weaker result) : program.Ensures other weaker := by
  induction program with
  | done result => exact endsLess result first
  | ask request resume ih =>
      exact ⟨asksLess request first.1, fun answer => ih answer (first.2 answer)⟩

/-- A request of a certain kind is the last one of a program. -/
def EndsWith (kind : Request → Prop) : Asking Answer Result → Prop
  | .done _ => True
  | .ask request resume =>
    (kind request → ∀ answer, ∃ result, resume answer = .done result) ∧
      ∀ answer, (resume answer).EndsWith kind

variable {kind : Request → Prop}

theorem EndsWith.bind {program : Asking Answer Result} {next : Result → Asking Answer Final}
    (first : program.Ensures (fun request => ¬ kind request) ends)
    (later : ∀ result, ends result → (next result).EndsWith kind) :
    (program >>= next).EndsWith kind := by
  induction program with
  | done result => exact later result first
  | ask request resume ih =>
      exact ⟨fun special => absurd special first.1, fun answer => ih answer (first.2 answer)⟩

end Asking

end MasterOfFiles
