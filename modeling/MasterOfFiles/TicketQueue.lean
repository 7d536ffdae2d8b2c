import MasterOfFiles.TransitionSystem
import Mathlib.Data.List.Nodup

/-!
# Tickets that are served in turn

Customers draw tickets, wait, and are served from the front of the line; anybody may leave
while they wait.  Whatever happens, tickets are served in the order in which they were drawn,
and nobody who waits drew before somebody who was served.
-/

namespace MasterOfFiles

structure TicketQueue (Ticket : Type*) where
  drawn : List Ticket
  served : List Ticket
  waiting : List Ticket

namespace TicketQueue

variable {Ticket : Type*}

def opened : TicketQueue Ticket where
  drawn := []
  served := []
  waiting := []

/-- A ticket is drawn, the first one in the line is served, or some leave. -/
inductive Step : TicketQueue Ticket → TicketQueue Ticket → Prop
  | draw (queue : TicketQueue Ticket) (ticket : Ticket) (fresh : ticket ∉ queue.drawn) :
      Step queue
        { queue with drawn := queue.drawn ++ [ticket], waiting := queue.waiting ++ [ticket] }
  | serve (drawn served waiting : List Ticket) (ticket : Ticket) :
      Step ⟨drawn, served, ticket :: waiting⟩ ⟨drawn, served ++ [ticket], waiting⟩
  | leave (queue : TicketQueue Ticket) (stay : List Ticket)
      (fewer : stay.Sublist queue.waiting) : Step queue { queue with waiting := stay }

def system (Ticket Label : Type*) : TransitionSystem (TicketQueue Ticket) Label where
  initial queue := queue = opened
  step before _ after := Step before after

/-- Those that were served and then those that wait stand in the order of drawing. -/
structure InOrder (queue : TicketQueue Ticket) : Prop where
  inTurn : (queue.served ++ queue.waiting).Sublist queue.drawn
  distinct : queue.drawn.Nodup

variable {queue after : TicketQueue Ticket}

theorem inOrder_opened : InOrder (opened : TicketQueue Ticket) where
  inTurn := List.Sublist.slnil
  distinct := List.nodup_nil

theorem InOrder.draw (inOrder : InOrder queue) {ticket : Ticket}
    (fresh : ticket ∉ queue.drawn) :
    InOrder
      { queue with drawn := queue.drawn ++ [ticket], waiting := queue.waiting ++ [ticket] } := by
  constructor
  · rw [← List.append_assoc]
    exact inOrder.inTurn.append (List.Sublist.refl [ticket])
  · exact List.nodup_append.mpr ⟨inOrder.distinct, List.nodup_singleton ticket, by
      rintro other member last isLast rfl
      rw [List.mem_singleton.mp isLast] at member
      exact fresh member⟩

theorem InOrder.leave (inOrder : InOrder queue) {stay : List Ticket}
    (fewer : stay.Sublist queue.waiting) : InOrder { queue with waiting := stay } := by
  have remain : (queue.served ++ stay).Sublist (queue.served ++ queue.waiting) :=
    (List.Sublist.refl queue.served).append fewer
  exact ⟨remain.trans inOrder.inTurn, inOrder.distinct⟩

theorem InOrder.step (inOrder : InOrder queue) (step : Step queue after) : InOrder after := by
  cases step with
  | draw _ ticket fresh => exact inOrder.draw fresh
  | serve drawn served waiting ticket =>
      refine ⟨?_, inOrder.distinct⟩
      have sameLine : served ++ [ticket] ++ waiting = served ++ ticket :: waiting :=
        (List.append_cons served ticket waiting).symm
      dsimp only
      rw [sameLine]
      exact inOrder.inTurn
  | leave _ stay fewer => exact inOrder.leave fewer

theorem inOrder_of_run {Label : Type*} {labels : List Label}
    (run : (system Ticket Label).Run opened labels queue) : InOrder queue :=
  run.preserves (fun _ _ _ inOrder step => inOrder.step step) inOrder_opened

end TicketQueue

end MasterOfFiles
