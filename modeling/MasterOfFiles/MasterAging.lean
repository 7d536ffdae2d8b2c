import MasterOfFiles.MasterRuns

/-!
# The passes of the aging thread

A pass takes whole intervals off the priority number of a query and moves its timestamp by as many
intervals, until the number is zero.  The first part proves that the truncated divisions never add
up to an error: the priority after any passes is that of a single pass at the last time.  The
second part lets the pass wait for the mutex with the clock it has read while other handlers write
newer timestamps, and says which passes then lower a priority that has not waited.
-/

namespace MasterOfFiles

namespace Master

variable {config : MasterConfig} {master : Master} {queryId : Nat} {query : QueryControlBlock}
  {start now later priority : Nat}

section Passes

/-- A query that waits in `ready_queue`. -/
structure IsReady (master : Master) (queryId : Nat) (query : QueryControlBlock) : Prop where
  queued : queryId ∈ master.readyQueue
  held : master.query queryId = some query
  ready : query.state = .ready

/-- In the tables of a reachable Master every READY query waits in the queue. -/
theorem QueryTables.isReady (tables : QueryTables master)
    (held : master.query queryId = some query) (ready : query.state = .ready) :
    IsReady master queryId query := by
  refine ⟨?_, held, ready⟩
  rcases tables.state_cases held with queued | running
  · exact queued.1
  · simp [ready] at running

def agingPasses (config : MasterConfig) (master : Master) (times : List UInt64) : Master :=
  times.foldl (fun reached time => reached.agingPass config time.toNat) master

theorem readyQueue_agingPass_perm (config : MasterConfig) (now : Nat) (master : Master) :
    (master.agingPass config now).readyQueue.Perm master.readyQueue := by
  unfold agingPass
  split
  · exact List.Perm.refl _
  · dsimp only
    split
    · exact config.listSort_perm _ _
    · exact List.Perm.refl _

theorem query_agingPass (interval : 0 < config.agingInterval)
    (queued : queryId ∈ master.readyQueue) (now : Nat) :
    (master.agingPass config now).query queryId =
      (master.query queryId).map fun query => (ageQuery config.agingInterval now query).1 := by
  have enters : ¬ (config.agingInterval = 0 ∨ master.readyQueue = []) := by
    rintro (zero | empty)
    · omega
    · rw [empty] at queued
      exact List.not_mem_nil queued
  unfold agingPass
  rw [if_neg enters]
  dsimp only
  split
  · exact if_pos queued
  · exact if_pos queued

theorem query_agingPass_of_not_mem (waiting : queryId ∉ master.readyQueue) (now : Nat) :
    (master.agingPass config now).query queryId = master.query queryId := by
  unfold agingPass
  split
  · rfl
  · dsimp only
    split
    · exact if_neg waiting
    · exact if_neg waiting

/-- The elapsed time of the code for a timestamp that the clock has reached. -/
theorem elapsed_of_le (reached : query.readyTimestamp ≤ now) (word : now < 2 ^ 64) :
    (now + 2 ^ 64 - query.readyTimestamp) % 2 ^ 64 = now - query.readyTimestamp := by
  omega

/-- The elapsed time of the code for a timestamp that the clock has not reached yet. -/
theorem elapsed_of_lt (ahead : now < query.readyTimestamp) :
    (now + 2 ^ 64 - query.readyTimestamp) % 2 ^ 64 =
      2 ^ 64 - (query.readyTimestamp - now) := by
  omega

theorem bmod_of_small {intervals : Nat} (small : intervals < 2 ^ 31) :
    Int.bmod intervals (2 ^ 32) = intervals := by
  rw [Int.bmod_def]
  omega

theorem ageQuery_early {interval elapsed : Nat} (ready : query.state = .ready)
    (started : 0 < query.readyTimestamp)
    (since : (now + 2 ^ 64 - query.readyTimestamp) % 2 ^ 64 = elapsed)
    (early : elapsed < interval) : ageQuery interval now query = (query, false) := by
  have isReady : ¬ query.state ≠ .ready := by simpa using ready
  have isStarted : ¬ query.readyTimestamp = 0 := by omega
  rw [ageQuery, if_neg isReady, if_neg isStarted, since]
  exact if_pos early

/-- A pass that comes later, with the number of intervals as an int. -/
theorem ageQuery_late {interval elapsed : Nat} {intervals : Int} (ready : query.state = .ready)
    (started : 0 < query.readyTimestamp)
    (since : (now + 2 ^ 64 - query.readyTimestamp) % 2 ^ 64 = elapsed)
    (late : interval ≤ elapsed)
    (narrowed : Int.bmod (elapsed / interval) (2 ^ 32) = intervals) :
    ageQuery interval now query =
      if 0 < intervals ∧ 0 < query.priority then
        ({ query with
            priority := query.priority - intervals.toNat
            readyTimestamp :=
              (query.readyTimestamp + intervals.toNat * interval) % 2 ^ 64 },
          true)
      else (query, false) := by
  have isReady : ¬ query.state ≠ .ready := by simpa using ready
  have isStarted : ¬ query.readyTimestamp = 0 := by omega
  have isLate : ¬ elapsed < interval := by omega
  rw [ageQuery, if_neg isReady, if_neg isStarted, since]
  dsimp only
  rw [if_neg isLate, narrowed]

/-- What a pass does to a query with points left whose waiting time fits in an int of
intervals. -/
theorem ageQuery_of_le {interval : Nat} (positive : 0 < interval) (ready : query.state = .ready)
    (started : 0 < query.readyTimestamp) (points : 0 < query.priority)
    (reached : query.readyTimestamp ≤ now) (word : now < 2 ^ 64)
    (small : (now - query.readyTimestamp) / interval < 2 ^ 31) :
    (ageQuery interval now query).1 =
      { query with
          priority := query.priority - (now - query.readyTimestamp) / interval
          readyTimestamp :=
            query.readyTimestamp + (now - query.readyTimestamp) / interval * interval } := by
  have since := elapsed_of_le reached word
  by_cases early : now - query.readyTimestamp < interval
  · have none : (now - query.readyTimestamp) / interval = 0 := Nat.div_eq_of_lt early
    rw [ageQuery_early ready started since early, none]
    simp
  · have late : interval ≤ now - query.readyTimestamp := by omega
    have some : 0 < (now - query.readyTimestamp) / interval := Nat.div_pos late positive
    have within : (now - query.readyTimestamp) / interval * interval ≤
        now - query.readyTimestamp := Nat.div_mul_le_self _ _
    have stays : query.readyTimestamp + (now - query.readyTimestamp) / interval * interval <
        2 ^ 64 := by omega
    have lowers : 0 < (((now - query.readyTimestamp) / interval : Nat) : Int) ∧
        0 < query.priority := ⟨by exact_mod_cast some, points⟩
    rw [ageQuery_late ready started since late (bmod_of_small small), if_pos lowers,
      Int.toNat_natCast, Nat.mod_eq_of_lt stays]

/-- The state of a query at some time: it has lost one point for every whole interval since it
started to wait, and as long as points are left its timestamp stands at the last whole interval. -/
structure Aged (interval start priority now : Nat) (query : QueryControlBlock) : Prop where
  ready : query.state = .ready
  started : 0 < query.readyTimestamp
  reached : query.readyTimestamp ≤ now
  lowered : query.priority = priority - (now - start) / interval
  aligned : query.priority = 0 ∨
    query.readyTimestamp = start + (now - start) / interval * interval

theorem aged_start {interval : Nat} (ready : query.state = .ready)
    (started : 0 < query.readyTimestamp) :
    Aged interval query.readyTimestamp query.priority query.readyTimestamp query where
  ready := ready
  started := started
  reached := Nat.le_refl _
  lowered := by simp
  aligned := by simp

theorem intervals_add (interval : Nat) (since : start ≤ now)
    (ordered : now ≤ later) :
    (now - start) / interval +
        (later - (start + (now - start) / interval * interval)) / interval =
      (later - start) / interval := by
  have whole : (now - start) / interval * interval ≤ later - start :=
    Nat.le_trans (Nat.div_mul_le_self _ _) (by omega)
  have remaining : later - (start + (now - start) / interval * interval) =
      later - start - interval * ((now - start) / interval) := by
    rw [Nat.mul_comm]
    omega
  have before : (now - start) / interval ≤ (later - start) / interval :=
    Nat.div_le_div_right (by omega)
  rw [remaining, Nat.sub_mul_div, Nat.add_sub_cancel' before]

/-- A query without points keeps none, whatever the pass computes. -/
theorem ageQuery_of_bottom {interval : Nat} (started : 0 < query.readyTimestamp)
    (bottom : query.priority = 0) : (ageQuery interval now query).1 = query := by
  unfold ageQuery
  split_ifs with waiting unset
  · rfl
  · omega
  · simp [bottom]

theorem Aged.ageQuery {interval : Nat} (positive : 0 < interval)
    (aged : Aged interval start priority now query) (since : start ≤ now)
    (ordered : now ≤ later) (word : later < 2 ^ 64)
    (small : (later - start) / interval < 2 ^ 31) :
    Aged interval start priority later (ageQuery interval later query).1 := by
  have grows : (now - start) / interval ≤ (later - start) / interval :=
    Nat.div_le_div_right (by omega)
  have lowered := aged.lowered
  by_cases bottom : query.priority = 0
  · rw [ageQuery_of_bottom aged.started bottom]
    refine ⟨aged.ready, aged.started, Nat.le_trans aged.reached ordered, ?_, Or.inl bottom⟩
    omega
  · have aligned := aged.aligned.resolve_left bottom
    have added := intervals_add interval since ordered
    rw [← aligned] at added
    have whole : (later - query.readyTimestamp) / interval * interval ≤
        later - query.readyTimestamp := Nat.div_mul_le_self _ _
    have reached := Nat.le_trans aged.reached ordered
    have fits : (later - query.readyTimestamp) / interval < 2 ^ 31 := by
      apply Nat.lt_of_le_of_lt _ small
      rw [← added]
      exact Nat.le_add_left _ _
    rw [ageQuery_of_le positive aged.ready aged.started (by omega) reached word fits]
    refine ⟨aged.ready, ?_, ?_, ?_, Or.inr ?_⟩
    · exact Nat.lt_of_lt_of_le aged.started (Nat.le_add_right _ _)
    · dsimp only
      omega
    · dsimp only
      rw [lowered, Nat.sub_sub, added]
    · calc query.readyTimestamp + (later - query.readyTimestamp) / interval * interval
          = start + ((now - start) / interval +
              (later - query.readyTimestamp) / interval) * interval := by
            rw [Nat.add_mul, ← Nat.add_assoc, ← aligned]
        _ = start + (later - start) / interval * interval := by rw [added]

/-- The run of passes keeps the query in the queue and its age exact. -/
theorem aged_agingPasses (interval : 0 < config.agingInterval) {times : List UInt64}
    {last : UInt64} (queued : queryId ∈ master.readyQueue)
    (held : master.query queryId = some query)
    (aged : Aged config.agingInterval start priority now query) (since : start ≤ now)
    (ordered : (times ++ [last]).Pairwise (· ≤ ·))
    (after : ∀ time ∈ times ++ [last], now ≤ time.toNat)
    (small : (last.toNat - start) / config.agingInterval < 2 ^ 31) :
    ∃ block, (master.agingPasses config (times ++ [last])).query queryId = some block ∧
      Aged config.agingInterval start priority last.toNat block := by
  induction times generalizing master query now with
  | nil =>
      have final := after last (by simp)
      refine ⟨_, ?_, aged.ageQuery interval since final last.toNat_lt small⟩
      change (master.agingPass config last.toNat).query queryId = _
      rw [query_agingPass interval queued, held, Option.map_some]
  | cons time times ih =>
      have first := after time (by simp)
      rw [List.cons_append, List.pairwise_cons] at ordered
      have bound : time.toNat ≤ last.toNat := ordered.1 last (by simp)
      have fits : (time.toNat - start) / config.agingInterval < 2 ^ 31 :=
        Nat.lt_of_le_of_lt (Nat.div_le_div_right (by omega)) small
      have kept : queryId ∈ (master.agingPass config time.toNat).readyQueue :=
        (readyQueue_agingPass_perm config time.toNat master).mem_iff.mpr queued
      have block : (master.agingPass config time.toNat).query queryId =
          some (ageQuery config.agingInterval time.toNat query).1 := by
        rw [query_agingPass interval queued, held, Option.map_some]
      refine ih kept block (aged.ageQuery interval since first time.toNat_lt fits)
        (by omega) ordered.2 ?_
      intro other member
      exact ordered.1 other member

/-- After any passes the priority of a ready query is what one pass at the last time gives. -/
theorem priority_agingPasses (config : MasterConfig) (interval : 0 < config.agingInterval)
    {master : Master} {queryId : Nat} {query : QueryControlBlock}
    (ready : IsReady master queryId query) (started : 0 < query.readyTimestamp)
    {earlier : List UInt64} {last : UInt64} (ordered : (earlier ++ [last]).Pairwise (· ≤ ·))
    (after : ∀ time ∈ earlier ++ [last], query.readyTimestamp ≤ time.toNat)
    (small : (last.toNat - query.readyTimestamp) / config.agingInterval < 2 ^ 31) :
    ∃ aged, (master.agingPasses config (earlier ++ [last])).query queryId = some aged ∧
      aged.priority =
        query.priority - (last.toNat - query.readyTimestamp) / config.agingInterval := by
  obtain ⟨aged, held, exact⟩ := aged_agingPasses interval ready.queued ready.held
    (aged_start ready.ready started) (Nat.le_refl _) ordered after small
  exact ⟨aged, held, exact.lowered⟩

/-- Two passes, at 25 and at 47 units after the query became ready, with an interval of 10. -/
theorem priority_agingPasses_twice :
    ∃ aged, ((initMaster.createQuery (.mergeSorting .priority 10) "Q0" 9 6 1).agingPasses
        (.mergeSorting .priority 10) ([26] ++ [48])).query 0 = some aged ∧
      aged.priority = 9 - (48 - 1) / 10 := by
  have ready : IsReady (initMaster.createQuery (.mergeSorting .priority 10) "Q0" 9 6 1) 0
      (newQueryBlock "Q0" 9 6 1) := ⟨by decide, rfl, rfl⟩
  have after : ∀ time ∈ ([26] ++ [48] : List UInt64), 1 ≤ time.toNat := by
    intro time member
    rw [List.singleton_append, List.mem_pair] at member
    rcases member with rfl | rfl
    · decide
    · decide
  exact priority_agingPasses (.mergeSorting .priority 10) (by decide) ready (by decide)
    (by decide) after (by decide)

end Passes

section Interleaving

/-- The Master with the clock of the machine and the value that the aging thread has read from it
while it waits for `query_table_mutex`. -/
structure AgingRun where
  clock : UInt64
  captured : Option UInt64
  master : Master

/-- What can happen between the moment the aging thread reads the clock and its pass. -/
inductive AgingEvent
  | tick (later : UInt64)
  | readClock
  | pass
  | createQuery (path : String) (priority : UInt8) (socket : Nat)
  | evictResponse (socket queryId programCounter : Nat)
  | other (handler : Handler)

def Handler.timeless : Handler → Bool
  | .newQuery .. => false
  | .evictRes .. => false
  | .aging _ => false
  | _ => true

/-- Each event runs with the mutex held, but for the clock and the reading of it. -/
def AgingRun.next (config : MasterConfig) (run : AgingRun) : AgingEvent → Option AgingRun
  | .tick later => if run.clock ≤ later then some { run with clock := later } else none
  | .readClock =>
    if run.captured = none then some { run with captured := some run.clock } else none
  | .pass =>
    run.captured.map fun now =>
      { run with captured := none, master := run.master.agingPass config now.toNat }
  | .createQuery path priority socket =>
    some { run with
      master := run.master.createQuery config path priority.toNat socket run.clock.toNat }
  | .evictResponse socket queryId programCounter =>
    some { run with
      master :=
        run.master.manageWorkerEvictResponse socket queryId programCounter run.clock.toNat }
  | .other handler =>
    if handler.timeless then some { run with master := (run.master.perform config handler).1 }
    else none

/-- The most that a pass may take off the priority number of a query. -/
def waitedIntervals (config : MasterConfig) (now : Nat) (query : QueryControlBlock) : Nat :=
  if now < query.readyTimestamp then 0 else (now - query.readyTimestamp) / config.agingInterval

/-- A pass takes off no more than the intervals that each query has waited. -/
def AgingRun.PromotesOnlyWaiting (config : MasterConfig) (run : AgingRun) (event : AgingEvent) :
    Prop :=
  event = .pass → ∀ now, run.captured = some now → ∀ queryId query aged,
    run.master.query queryId = some query → query.state = .ready →
      (run.master.agingPass config now.toNat).query queryId = some aged →
        query.priority ≤ aged.priority + waitedIntervals config now.toNat query

/-- The negative elapsed time of a query with a newer timestamp, wrapped to 64 bits, divided and
narrowed to an int, is not positive. -/
def AgingRun.NarrowsToNothing (config : MasterConfig) (run : AgingRun) (event : AgingEvent) :
    Prop :=
  event = .pass → ∀ now, run.captured = some now → ∀ queryId query,
    IsReady run.master queryId query → 0 < query.priority → now.toNat < query.readyTimestamp →
      Int.bmod (((2 ^ 64 - (query.readyTimestamp - now.toNat)) / config.agingInterval : Nat) : Int)
        (2 ^ 32) ≤ 0

theorem bmod_le_self (intervals : Nat) : Int.bmod intervals (2 ^ 32) ≤ intervals := by
  rw [Int.bmod_def]
  split
  · omega
  · omega

/-- A pass at a time that the timestamp has reached takes off what the query has waited, or
less when the number of intervals does not fit in an int. -/
theorem lowered_of_le {interval : Nat} (reached : query.readyTimestamp ≤ now)
    (word : now < 2 ^ 64) (ready : query.state = .ready) :
    query.priority ≤
      (ageQuery interval now query).1.priority + (now - query.readyTimestamp) / interval := by
  have since := elapsed_of_le reached word
  by_cases started : query.readyTimestamp = 0
  · have isReady : ¬ query.state ≠ .ready := by simpa using ready
    rw [ageQuery, if_neg isReady, if_pos started]
    exact Nat.le_add_right _ _
  · by_cases early : now - query.readyTimestamp < interval
    · rw [ageQuery_early ready (by omega) since early]
      exact Nat.le_add_right _ _
    · obtain ⟨intervals, narrowed⟩ : ∃ intervals : Int,
          Int.bmod ((now - query.readyTimestamp : Nat) / interval) (2 ^ 32) = intervals :=
        ⟨_, rfl⟩
      have narrow : intervals ≤ ((now - query.readyTimestamp) / interval : Nat) := by
        rw [← narrowed, ← Int.natCast_ediv]
        exact bmod_le_self _
      rw [ageQuery_late ready (by omega) since (by omega) narrowed]
      split
      · dsimp only
        omega
      · exact Nat.le_add_right _ _

/-- A pass with an older clock keeps the priority number unless the wrapped time narrows to a
positive int. -/
theorem lowered_iff_of_lt {interval : Nat} (ahead : now < query.readyTimestamp)
    (ready : query.state = .ready) :
    query.priority ≤ (ageQuery interval now query).1.priority ↔
      (0 < query.priority →
        Int.bmod (((2 ^ 64 - (query.readyTimestamp - now)) / interval : Nat) : Int)
          (2 ^ 32) ≤ 0) := by
  have since := elapsed_of_lt ahead
  by_cases early : 2 ^ 64 - (query.readyTimestamp - now) < interval
  · rw [ageQuery_early ready (by omega) since early, Nat.div_eq_of_lt early]
    simp
  · rw [ageQuery_late ready (by omega) since (by omega) rfl, Int.natCast_ediv]
    generalize Int.bmod _ _ = intervals
    by_cases lowers : 0 < intervals ∧ 0 < query.priority
    · rw [if_pos lowers]
      dsimp only
      omega
    · rw [if_neg lowers]
      dsimp only
      omega

/-- One pass meets the bound exactly when no ready query falls into the narrowed range. -/
theorem promotesOnlyWaiting_iff (config : MasterConfig) (run : AgingRun) (event : AgingEvent) :
    run.PromotesOnlyWaiting config event ↔ run.NarrowsToNothing config event := by
  constructor
  · intro bounded isPass now captured queryId query ready points ahead
    by_cases interval : 0 < config.agingInterval
    · have held := query_agingPass interval ready.queued now.toNat
      rw [ready.held, Option.map_some] at held
      have within := bounded isPass now captured queryId query _ ready.held ready.ready held
      rw [waitedIntervals, if_pos ahead, Nat.add_zero] at within
      exact (lowered_iff_of_lt ahead ready.ready).mp within points
    · have zero : config.agingInterval = 0 := by omega
      rw [zero, Nat.div_zero]
      decide
  · intro narrows isPass now captured queryId query aged held ready after
    by_cases changed : 0 < config.agingInterval ∧ queryId ∈ run.master.readyQueue
    · rw [query_agingPass changed.1 changed.2, held, Option.map_some, Option.some.injEq] at after
      rw [← after, waitedIntervals]
      split
      · rename_i ahead
        apply (lowered_iff_of_lt ahead ready).mpr
        intro points
        exact narrows isPass now captured queryId query ⟨changed.2, held, ready⟩ points ahead
      · exact lowered_of_le (by omega) now.toNat_lt ready
    · have same : aged = query := by
        by_cases queued : queryId ∈ run.master.readyQueue
        · have idle : config.agingInterval = 0 := by
            by_contra positive
            exact changed ⟨by omega, queued⟩
          rw [agingPass, if_pos (Or.inl idle), held] at after
          exact (Option.some.inj after).symm
        · rw [query_agingPass_of_not_mem queued, held] at after
          exact (Option.some.inj after).symm
      rw [same]
      exact Nat.le_add_right _ _

/-- Every pass of a run promotes only what has waited exactly when none of them meets a newer
timestamp whose wrapped time narrows to a positive int. -/
theorem aging_promotes_only_waiting_iff (config : MasterConfig) (first : AgingRun)
    (events : List AgingEvent) :
    TransitionSystem.Along (AgingRun.next config) (AgingRun.PromotesOnlyWaiting config) first
        events ↔
      TransitionSystem.Along (AgingRun.next config) (AgingRun.NarrowsToNothing config) first
        events :=
  TransitionSystem.along_congr (promotesOnlyWaiting_iff config)

/-- The aging thread reads the clock, and a query arrives one millisecond later, before the
pass. -/
def newerQuery : List AgingEvent :=
  [.tick 5000, .readClock, .tick 5001, .createQuery "Q0" 9 6, .pass]

theorem aging_promotes_new_query :
    ¬ TransitionSystem.Along (AgingRun.next (.mergeSorting .priority 1000))
      (AgingRun.PromotesOnlyWaiting (.mergeSorting .priority 1000)) ⟨0, none, initMaster⟩
      newerQuery := by
  intro along
  have passes := ((((along.2 _ rfl).2 _ rfl).2 _ rfl).2 _ rfl).1 rfl 5000 rfl
  have lowered := passes 0 _ _ rfl rfl rfl
  revert lowered
  decide +kernel

end Interleaving

end Master

end MasterOfFiles
