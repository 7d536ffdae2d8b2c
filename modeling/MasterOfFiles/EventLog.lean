import Mathlib.Data.List.Basic

/-!
# Events between two resets

A log is a list of events in the order in which they happened.  Some events reset the log and
some are counted; the log is spaced when no stretch of it without a reset has two counted events.
A log stays spaced when a counted event is only added while none has happened since the last
reset.
-/

namespace MasterOfFiles

namespace EventLog

variable {Event : Type*} {resets counted : Event → Bool} {log : List Event} {event : Event}

/-- A stretch of the log without a reset has at most one counted event. -/
def Spaced (resets counted : Event → Bool) (log : List Event) : Prop :=
  ∀ before between later, log = before ++ between ++ later →
    (∀ event ∈ between, resets event = false) → between.countP counted ≤ 1

/-- No counted event has happened since the last reset. -/
def NoneSince (resets counted : Event → Bool) (log : List Event) : Prop :=
  ∀ before between, log = before ++ between → (∀ event ∈ between, resets event = false) →
    between.countP counted = 0

theorem spaced_nil : Spaced resets counted [] := by
  intro before between later split _
  have empty : between = [] := by
    simp only [List.nil_eq, List.append_eq_nil_iff] at split
    exact split.1.2
  simp [empty]

/-- The end of a log with one more event is empty or ends with that event. -/
theorem append_singleton_cases {before between : List Event}
    (split : log ++ [event] = before ++ between) :
    between = [] ∨ ∃ start, between = start ++ [event] ∧ log = before ++ start := by
  rcases List.eq_nil_or_concat between with empty | ⟨start, last, ends⟩
  · exact Or.inl empty
  · right
    rw [List.concat_eq_append] at ends
    rw [ends, ← List.append_assoc] at split
    obtain ⟨logEq, lastEq⟩ := List.append_inj' split rfl
    obtain rfl : event = last := List.singleton_injective lastEq
    exact ⟨start, ends, logEq⟩

theorem noneSince_reset (reset : resets event = true) :
    NoneSince resets counted (log ++ [event]) := by
  intro before between split noReset
  rcases append_singleton_cases split with empty | ⟨start, ends, _⟩
  · simp [empty]
  · have impossible := noReset event (by simp [ends])
    rw [reset] at impossible
    cases impossible

theorem NoneSince.append (none : NoneSince resets counted log)
    (notCounted : counted event = false) : NoneSince resets counted (log ++ [event]) := by
  intro before between split noReset
  rcases append_singleton_cases split with empty | ⟨start, ends, logEq⟩
  · simp [empty]
  · have quiet := none before start logEq fun other member => noReset other (by simp [ends, member])
    rw [ends, List.countP_append, quiet]
    simp [notCounted]

/-- A counted event may follow when none has happened since the last reset. -/
theorem Spaced.append (spaced : Spaced resets counted log)
    (allowed : counted event = true → NoneSince resets counted log) :
    Spaced resets counted (log ++ [event]) := by
  intro before between later split noReset
  rcases append_singleton_cases split with empty | ⟨rest, ends, logEq⟩
  · rw [empty, List.append_nil] at split
    rcases append_singleton_cases split with nothing | ⟨start, ends, logEq⟩
    · simp [nothing]
    · have quiet : ∀ other ∈ start, resets other = false :=
        fun other member => noReset other (by simp [ends, member])
      rw [ends, List.countP_append]
      by_cases counts : counted event = true
      · rw [allowed counts before start logEq quiet]
        simp [counts]
      · have before : (start ++ []).countP counted ≤ 1 := by
          rw [List.append_nil]
          exact spaced before start [] (by rw [logEq, List.append_nil]) quiet
        simpa [counts] using before
  · exact spaced before between rest logEq noReset

end EventLog

end MasterOfFiles
