import DiscoveryClient.Proofs.Schedule.Duration

/-!
# What a loop does

A loop alternates strictly between waits, runs of the task and requests for the next
delay, whatever the task and the delays come to.  The stop signal ends it at its next
wait, and nothing else does.
-/

namespace DiscoveryClient.Schedule

open Log

/-! ## The world of a loop -/

/-- The world after some answers and some runs, and with some events. -/
structure Follows (name : Value) (plan : Plan) (answers done : Nat) (events : List Event)
    (world : World Plan) : Prop where
  answers : ∀ index, world.state.interval.answer index = plan.answer (answers + index)
  tasks : ∀ index, world.state.task.answer index = plan.task.answer (done + index)
  runs : world.state.runs = plan.runs + done
  context : world.journal.context = .empty
  events : world.journal.events = events

theorem foldl_log {journal : Journal} (calm : journal.context = .empty) (events : List Event) :
    events.foldl Journal.log journal = { journal with events := journal.events ++ events } := by
  induction events generalizing journal with
  | nil => simp
  | cons event events induction =>
      have logged : journal.log event = { journal with events := journal.events ++ [event] } := by
        simp [Journal.log, calm, Mapping.empty]
      rw [List.foldl_cons, induction (by simp [logged, calm]), logged]
      simp

theorem record_calm {α : Type} {logged : Logged α} {world : World Plan}
    (calm : world.journal.context = .empty) :
    Act.record logged world =
      (logged.value,
        { world with
          journal := { world.journal with events := world.journal.events ++ logged.events } }) := by
  rw [Act.record_apply, foldl_log calm]

theorem enter_context (name : Value) :
    Context.enter (context name) .empty = context name := by
  rfl

theorem leave_context (name : Value) :
    Context.leave (context name) .empty (context name) = .empty := by
  rfl

/-- What a run leaves behind. -/
theorem run_calm {name : Value} {world : World Plan}
    (calm : world.journal.context = .empty) :
    (Plan.run name world).2 =
      { state :=
          { world.state with
            task := world.state.task.next.2
            runs := world.state.runs + 1 }
        journal :=
          { world.journal with
            events := world.journal.events ++
              match world.state.task.next.1 with
              | .ok _ => []
              | .error failure => [(taskFailed name failure).within (context name).entries] } } := by
  obtain ⟨⟨interval, initial, task, runs⟩, ⟨_, events, counts, lastChange⟩⟩ := world
  subst calm
  simp only [Plan.run, runOnce, Act.bind_apply, Act.withFields_apply, Act.modifyState_apply,
    Act.state_apply, Act.pure_apply, enter_context]
  cases task.next.1 with
  | ok value => simp only [Act.pure_apply, leave_context, List.append_nil]
  | error failure => simp only [Act.log_apply, Journal.log, leave_context]

/-! ## Steps of a loop -/

section

variable {longest : Nat} {name : Value} {plan : Plan} {answers done : Nat}
  {moments : List Moment} {events : List Event} {world : World Plan} {signalled : Bool}

theorem step_waiting {seconds : Double} (allowed : isBeyond longest seconds = false) :
    Loop.step longest name false ⟨.waiting seconds, moments⟩ world =
      (⟨.due, moments ++ [.wait seconds false]⟩, world) := by
  simp only [Loop.step, Bool.false_eq_true, if_false, allowed]
  rfl

theorem step_signalled {seconds : Double} :
    Loop.step longest name true ⟨.waiting seconds, moments⟩ world =
      (⟨.stopped, moments ++ [.wait seconds true]⟩, world) := rfl

theorem steps_stopped (count : Nat) :
    Loop.steps longest name signalled count ⟨.stopped, moments⟩ world =
      (⟨.stopped, moments⟩, world) := by
  induction count with
  | zero => rfl
  | succ count induction => exact induction

theorem steps_add (first second : Nat) (loop : Loop) :
    Loop.steps longest name signalled (first + second) loop world =
      Loop.steps longest name signalled second
        (Loop.steps longest name signalled first loop world).1
        (Loop.steps longest name signalled first loop world).2 := by
  induction first generalizing loop world with
  | zero => simp only [Nat.zero_add]; rfl
  | succ first induction =>
      rw [Nat.succ_add]
      exact induction _

theorem ask_calm {request : Request} {loop : Loop} {answer : Except Failure Value}
    {asked : World Plan} (ask : Plan.ask request world = (answer, asked))
    (calm : asked.journal.context = .empty) :
    loop.ask name request world =
      (loop.moved (.waiting (delay name answer).value) (.ask request answer),
        { asked with
          journal :=
            { asked.journal with
              events := asked.journal.events ++ (delay name answer).events } }) := by
  rw [Loop.ask, Act.bind_apply, ask, Act.bind_apply, record_calm calm]
  rfl

/-- The first request of a loop. -/
theorem step_starting :
    ∃ world, Loop.step longest name signalled {} { state := plan } =
        (⟨.waiting (plan.delayOf name 0).value, plan.trace name 0⟩, world) ∧
      Follows name plan 1 0 (plan.events name 0) world := by
  obtain ⟨interval, initial, task, runs⟩ := plan
  cases initial with
  | none =>
      let asked : Plan := { interval := interval.next.2, task, runs }
      have ask : Plan.ask .interval { state := { interval, task, runs } } =
          (interval.next.1, { state := asked }) := rfl
      refine ⟨_, ask_calm ask rfl, ?_, ?_, rfl, rfl, ?_⟩
      · intro index
        rw [Nat.add_comm]
        rfl
      · intro index
        rw [Nat.zero_add]
      · simp [Plan.events, Plan.delayOf, Plan.answer, Script.answer]
  | some initial =>
      let asked : Plan := { interval, initial := some initial.next.2, task, runs }
      have ask : Plan.ask .initialDelay
          { state := { interval, initial := some initial, task, runs } } =
          (initial.next.1, { state := asked }) := rfl
      refine ⟨_, ask_calm ask rfl, ?_, ?_, rfl, rfl, ?_⟩
      · intro index
        rw [Nat.add_comm]
        rfl
      · intro index
        rw [Nat.zero_add]
      · simp [Plan.events, Plan.delayOf, Plan.answer, Script.answer]

theorem Follows.step_due (follows : Follows name plan answers done events world) :
    ∃ after, Loop.step longest name signalled ⟨.due, moments⟩ world =
        (⟨.asking, moments ++ [.run]⟩, after) ∧
      Follows name plan answers (done + 1) (events ++ (plan.failureOf? name done).toList)
        after := by
  refine ⟨_, rfl, ?_⟩
  change Follows name plan answers (done + 1) _ (Plan.run name world).2
  rw [run_calm follows.context]
  have outcome : world.state.task.next.1 = plan.task.answer done := follows.tasks 0
  constructor
  · exact follows.answers
  · intro index
    rw [Nat.add_assoc, Nat.add_comm 1]
    exact follows.tasks (index + 1)
  · rw [← Nat.add_assoc, ← follows.runs]
  · exact follows.context
  · simp only [follows.events, outcome, Plan.failureOf?]
    cases plan.task.answer done with
    | ok value => rfl
    | error failure => rfl

theorem Follows.step_asking (follows : Follows name plan answers done events world) :
    ∃ after, Loop.step longest name signalled ⟨.asking, moments⟩ world =
        (⟨.waiting (plan.delayOf name answers).value,
          moments ++ [.ask .interval (plan.answer answers)]⟩, after) ∧
      Follows name plan (answers + 1) done (events ++ (plan.delayOf name answers).events)
        after := by
  have answer : world.state.interval.next.1 = plan.answer answers := follows.answers 0
  have ask : Plan.ask .interval world =
      (plan.answer answers,
        { world with
          state := { world.state with interval := world.state.interval.next.2 } }) := by
    rw [← answer]
    rfl
  refine ⟨_, ask_calm ask follows.context, ?_, follows.tasks, follows.runs, follows.context, ?_⟩
  · intro index
    rw [Nat.add_assoc, Nat.add_comm 1]
    exact follows.answers (index + 1)
  · simp only [follows.events, Plan.delayOf]

theorem steps_of_step {loop next : Loop} {after : World Plan}
    (step : loop.step longest name signalled world = (next, after)) (count : Nat) :
    Loop.steps longest name signalled (count + 1) loop world =
      Loop.steps longest name signalled count next after := by
  change Loop.steps longest name signalled count (loop.step longest name signalled world).1
    (loop.step longest name signalled world).2 = _
  rw [step]

theorem steps_snoc {count : Nat} {loop reached next : Loop} {middle after : World Plan}
    (steps : Loop.steps longest name signalled count loop world = (reached, middle))
    (step : reached.step longest name signalled middle = (next, after)) :
    Loop.steps longest name signalled (count + 1) loop world = (next, after) := by
  rw [steps_add, steps, steps_of_step step]
  rfl

/-! ## Without the stop signal -/

section

variable (name) (secondAllowed : 1 ≤ longest)
  (bearable : ∀ index, IsBearable longest (plan.answer index))
include secondAllowed bearable

theorem not_isBeyond_delayOf (index : Nat) :
    isBeyond longest (plan.delayOf name index).value = false :=
  not_isBeyond_delay secondAllowed (bearable index)

/-- Without the stop signal, three steps make a round whatever comes of them. -/
theorem loop_waits (rounds : Nat) :
    ∃ world,
      Loop.steps longest name false (3 * rounds + 1) {} { state := plan } =
        (⟨.waiting (plan.delayOf name rounds).value, plan.trace name rounds⟩, world) ∧
      Follows name plan (rounds + 1) rounds (plan.events name rounds) world := by
  induction rounds with
  | zero =>
      obtain ⟨world, starts, follows⟩ :=
        @step_starting longest name plan false
      exact ⟨world, starts, follows⟩
  | succ rounds induction =>
      obtain ⟨world, waits, follows⟩ := induction
      have waited := steps_snoc waits
        (step_waiting (not_isBeyond_delayOf name secondAllowed bearable rounds))
      obtain ⟨ran, runs, follows⟩ := follows.step_due
      obtain ⟨asked, asks, follows⟩ := follows.step_asking
      refine ⟨asked, ?_, by simpa using follows⟩
      have round := steps_snoc (steps_snoc waited runs) asks
      simpa [Plan.round, Nat.mul_succ] using round

theorem loop_due (rounds : Nat) :
    ∃ world,
      Loop.steps longest name false (3 * rounds + 2) {} { state := plan } =
        (⟨.due, plan.trace name rounds ++ [.wait (plan.delayOf name rounds).value false]⟩,
          world) ∧
      Follows name plan (rounds + 1) rounds (plan.events name rounds) world := by
  obtain ⟨world, waits, follows⟩ := loop_waits name secondAllowed bearable rounds
  exact ⟨world, steps_snoc waits
    (step_waiting (not_isBeyond_delayOf name secondAllowed bearable rounds)), follows⟩

theorem loop_asks (rounds : Nat) :
    ∃ world,
      Loop.steps longest name false (3 * rounds + 3) {} { state := plan } =
        (⟨.asking, plan.trace name rounds ++
          [.wait (plan.delayOf name rounds).value false, .run]⟩, world) ∧
      Follows name plan (rounds + 1) (rounds + 1)
        (plan.events name rounds ++ (plan.failureOf? name rounds).toList) world := by
  obtain ⟨world, waited, follows⟩ := loop_due name secondAllowed bearable rounds
  obtain ⟨ran, runs, follows⟩ := follows.step_due
  refine ⟨ran, ?_, follows⟩
  simpa using steps_snoc waited runs

/-- Without the stop signal a loop goes on, and does one thing with each step. -/
theorem loop_goes_on (steps : Nat) :
    ∃ place world,
      Loop.steps longest name false steps {} { state := plan } =
        (⟨place, (plan.trace name steps).take steps⟩, world) ∧
      place ≠ .stopped ∧ place ≠ .broken := by
  rcases steps_cases steps with rfl | ⟨rounds, rfl | rfl | rfl⟩
  · exact ⟨.starting, { state := plan }, rfl, nofun, nofun⟩
  · obtain ⟨world, waits, _⟩ := loop_waits name secondAllowed bearable rounds
    have taken : (plan.trace name (3 * rounds + 1)).take (3 * rounds + 1) =
        plan.trace name rounds :=
      plan.take_trace name rounds List.prefix_rfl (by omega) (plan.length_trace name rounds)
    exact ⟨.waiting _, world, taken.symm ▸ waits, nofun, nofun⟩
  · obtain ⟨world, due, _⟩ := loop_due name secondAllowed bearable rounds
    have taken : (plan.trace name (3 * rounds + 2)).take (3 * rounds + 2) =
        plan.trace name rounds ++ [.wait (plan.delayOf name rounds).value false] := by
      refine plan.take_trace name (rounds + 1) ?_ (by omega) ?_
      · rw [Plan.trace_succ]
        exact (List.prefix_append_right_inj _).mpr (List.prefix_append [_] [_, _])
      · simp [plan.length_trace]
    exact ⟨.due, world, taken.symm ▸ due, nofun, nofun⟩
  · obtain ⟨world, asks, _⟩ := loop_asks name secondAllowed bearable rounds
    have taken : (plan.trace name (3 * rounds + 3)).take (3 * rounds + 3) =
        plan.trace name rounds ++ [.wait (plan.delayOf name rounds).value false, .run] := by
      refine plan.take_trace name (rounds + 1) ?_ (by omega) ?_
      · rw [Plan.trace_succ]
        exact (List.prefix_append_right_inj _).mpr (List.prefix_append [_, _] [_])
      · simp [plan.length_trace]
    exact ⟨.asking, world, taken.symm ▸ asks, nofun, nofun⟩

end

/-! ## With the stop signal -/

section

variable (longest)

theorem Follows.stops_waiting {rounds : Nat}
    (follows : Follows name plan answers rounds (plan.events name rounds) world) (count : Nat) :
    ∃ after,
      Loop.steps longest name true (count + 1)
          ⟨.waiting (plan.delayOf name rounds).value, plan.trace name rounds⟩ world =
        (⟨.stopped, plan.trace name rounds ++ [.wait (plan.delayOf name rounds).value true]⟩,
          after) ∧
      Follows name plan answers rounds (plan.events name rounds) after := by
  refine ⟨world, ?_, follows⟩
  rw [steps_of_step step_signalled, steps_stopped]

theorem Follows.stops_asking {rounds : Nat}
    (follows : Follows name plan (rounds + 1) (rounds + 1)
      (plan.events name rounds ++ (plan.failureOf? name rounds).toList) world) (count : Nat) :
    ∃ after,
      Loop.steps longest name true (count + 2)
          ⟨.asking, plan.trace name rounds ++
            [.wait (plan.delayOf name rounds).value false, .run]⟩ world =
        (⟨.stopped, plan.trace name (rounds + 1) ++
          [.wait (plan.delayOf name (rounds + 1)).value true]⟩, after) ∧
      Follows name plan (rounds + 2) (rounds + 1) (plan.events name (rounds + 1)) after := by
  obtain ⟨asked, asks, follows⟩ := follows.step_asking
  rw [List.append_assoc, ← Plan.events_succ] at follows
  obtain ⟨after, stops, follows⟩ := follows.stops_waiting longest count
  refine ⟨after, ?_, follows⟩
  rw [steps_of_step asks, List.append_assoc]
  rw [Plan.trace_succ] at stops ⊢
  exact stops

theorem Follows.stops_due {rounds : Nat}
    (follows : Follows name plan (rounds + 1) rounds (plan.events name rounds) world)
    (count : Nat) :
    ∃ after,
      Loop.steps longest name true (count + 3)
          ⟨.due, plan.trace name rounds ++ [.wait (plan.delayOf name rounds).value false]⟩
          world =
        (⟨.stopped, plan.trace name (rounds + 1) ++
          [.wait (plan.delayOf name (rounds + 1)).value true]⟩, after) ∧
      Follows name plan (rounds + 2) (rounds + 1) (plan.events name (rounds + 1)) after := by
  obtain ⟨ran, runs, follows⟩ := follows.step_due
  obtain ⟨after, stops, follows⟩ := follows.stops_asking longest count
  refine ⟨after, ?_, follows⟩
  rw [steps_of_step runs, List.append_assoc]
  exact stops

end

/-- A loop that is told to stop ends behind the round it is in, after three steps at
most. -/
theorem loop_stops (name : Value) (secondAllowed : 1 ≤ longest)
    (bearable : ∀ index, IsBearable longest (plan.answer index)) (before count : Nat) :
    ∃ answers world,
      Loop.run longest name before (count + 3) { state := plan } =
        (⟨.stopped, plan.trace name (roundsOf before) ++
          [.wait (plan.delayOf name (roundsOf before)).value true]⟩, world) ∧
      Follows name plan answers (roundsOf before) (plan.events name (roundsOf before)) world := by
  rcases steps_cases before with rfl | ⟨rounds, rfl | rfl | rfl⟩
  · obtain ⟨world, starts, follows⟩ := @step_starting longest name plan true
    obtain ⟨after, stops, follows⟩ := follows.stops_waiting longest (count + 1)
    refine ⟨_, after, ?_, follows⟩
    exact (steps_of_step starts _).trans stops
  · obtain ⟨world, waits, follows⟩ := loop_waits name secondAllowed bearable rounds
    obtain ⟨after, stops, follows⟩ := follows.stops_waiting longest (count + 2)
    have made : roundsOf (3 * rounds + 1) = rounds := by
      unfold roundsOf
      omega
    rw [made, Loop.run, Act.bind_apply, waits]
    exact ⟨_, after, stops, follows⟩
  · obtain ⟨world, due, follows⟩ := loop_due name secondAllowed bearable rounds
    obtain ⟨after, stops, follows⟩ := follows.stops_due longest count
    have made : roundsOf (3 * rounds + 2) = rounds + 1 := by
      unfold roundsOf
      omega
    rw [made, Loop.run, Act.bind_apply, due]
    exact ⟨_, after, stops, follows⟩
  · obtain ⟨world, asks, follows⟩ := loop_asks name secondAllowed bearable rounds
    obtain ⟨after, stops, follows⟩ := follows.stops_asking longest (count + 1)
    have made : roundsOf (3 * rounds + 3) = rounds + 1 := by
      unfold roundsOf
      omega
    rw [made, Loop.run, Act.bind_apply, asks]
    exact ⟨_, after, stops, follows⟩

end

/-! ## The whole loop -/

/-- A loop asks for its first delay, and then goes round and round as long as there is
no stop signal, whatever the task and the delays come to.  Each of its waits is the one that
the answer before it calls for.  Told to stop after any number of steps, it ends with the
wait behind the round that it is in, and does nothing more.  It has run its task once
in each round, and has logged each failure of the task once. -/
theorem loop_alternates_until_stopped {longest : Nat} (secondAllowed : 1 ≤ longest)
    (name : Value) (plan : Plan) (bearable : ∀ index, IsBearable longest (plan.answer index))
    (before : Nat) :
    (∀ index, ¬ Slips (plan.answer index) →
      CallsFor (plan.answer index) (plan.delayOf name index).value) ∧
    (∃ place world,
      Loop.steps longest name false before {} { state := plan } =
        (⟨place, (plan.trace name before).take before⟩, world) ∧
      place ≠ .stopped ∧ place ≠ .broken) ∧
    ∀ after, 3 ≤ after →
      ∃ moments world,
        Loop.run longest name before after { state := plan } = (⟨.stopped, moments⟩, world) ∧
        moments = plan.trace name (roundsOf before) ++
          [.wait (plan.delayOf name (roundsOf before)).value true] ∧
        runs moments = roundsOf before ∧
        world.state.runs = plan.runs + roundsOf before ∧
        world.journal.events = plan.events name (roundsOf before) ∧
        world.journal.events.filter isTaskFailure =
          (List.range (roundsOf before)).filterMap (plan.failureOf? name) := by
  refine ⟨fun index straight => delay_callsFor straight,
    loop_goes_on name secondAllowed bearable before, ?_⟩
  intro after enough
  obtain ⟨count, rfl⟩ := Nat.exists_eq_add_of_le' enough
  obtain ⟨_, world, stops, follows⟩ := loop_stops name secondAllowed bearable before count
  refine ⟨_, world, stops, rfl, ?_, follows.runs, follows.events, ?_⟩
  · rw [runs, List.countP_append, ← runs, plan.runs_trace]
    rfl
  · rw [follows.events, taskFailures_events]

/-! ## A loop with failures of every kind -/

def wholeSeconds (number : Nat) : Double :=
  .ofRatio false number 1

/-- The first run fails, and after it there is no delay to be had, then a long one, and then
one of zero. -/
def stumblingPlan : Plan where
  interval := [.error .wrongType, .ok (.int 30), .ok (.float .zero)]
  initial := some [.ok (.int 5)]
  task := [.error .wrongType, .ok .null]

theorem stumblingPlan_bearable (index : Nat) :
    IsBearable longestWait (stumblingPlan.answer index) := by
  have answers : stumblingPlan.answer index ∈
      [.ok (.int 5), .error .wrongType, .ok (.int 30), .ok (.float .zero)] := by
    cases index with
    | zero => simp [stumblingPlan, Plan.answer, Script.answer]
    | succ index =>
        exact List.mem_cons_of_mem _
          (@Script.answer_mem stumblingPlan.interval (by simp [stumblingPlan]) index)
  simp only [List.mem_cons, List.not_mem_nil, or_false] at answers
  intro other isAnswer positive
  rcases answers with first | failed | thirty | zero
  · rw [first] at isAnswer
    obtain rfl := Except.ok.inj isAnswer
    decide
  · simp [failed, Except.bind] at isAnswer
  · rw [thirty] at isAnswer
    obtain rfl := Except.ok.inj isAnswer
    decide
  · rw [zero] at isAnswer
    obtain rfl := Except.ok.inj isAnswer
    exact absurd positive (by decide)

/-- The stop signal comes after the third wait, so the third run is still made. -/
theorem stumbling_loop_keeps_turns :
    1 ≤ longestWait ∧
    (∀ index, IsBearable longestWait (stumblingPlan.answer index)) ∧
    CallsFor (.ok (.int 30)) (wholeSeconds 30) ∧
    ∃ moments world,
      Loop.run longestWait defaultName 8 3 { state := stumblingPlan } =
        (⟨.stopped, moments⟩, world) ∧
      moments =
        [ .ask .initialDelay (.ok (.int 5)),
          .wait (wholeSeconds 5) false, .run, .ask .interval (.error .wrongType),
          .wait .one false, .run, .ask .interval (.ok (.int 30)),
          .wait (wholeSeconds 30) false, .run, .ask .interval (.ok (.float .zero)),
          .wait .one true ] ∧
      world.state.runs = 3 ∧
      (world.journal.events.filter isTaskFailure).length = 1 := by
  have allowed : 1 ≤ longestWait := by decide
  obtain ⟨calls, _, stops⟩ :=
    loop_alternates_until_stopped allowed defaultName stumblingPlan stumblingPlan_bearable 8
  obtain ⟨moments, world, ended, done, _, counted, _, failures⟩ := stops 3 (by decide)
  have straight : ¬ Slips (.ok (.int 30)) := by
    rintro ⟨other, comes, slippery⟩
    obtain rfl := Except.ok.inj comes
    exact absurd slippery.1 (by decide)
  refine ⟨allowed, stumblingPlan_bearable, calls 2 straight, moments, world, ended, done,
    counted, ?_⟩
  rw [failures]
  rfl

end DiscoveryClient.Schedule
