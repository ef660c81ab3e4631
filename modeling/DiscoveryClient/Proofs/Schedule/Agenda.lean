import DiscoveryClient.Schedule.Loop
import Mathlib.Data.List.Basic

/-!
# The agenda of a loop

What a loop is to do follows from its scripts: a first request, and then rounds of a
wait, a run of the task and a request for the next delay.  What it is to log follows
likewise.
-/

namespace DiscoveryClient.Schedule

open Log

/-- The answer of a number, counted from zero. -/
def Script.answer (script : Script) : Nat → Except Failure Value
  | 0 => script.next.1
  | index + 1 => Script.answer script.next.2 index

theorem Script.answer_mem {script : Script} (notEmpty : script ≠ []) (index : Nat) :
    script.answer index ∈ script := by
  induction index generalizing script with
  | zero =>
      match script with
      | [last] => exact List.mem_cons_self
      | first :: second :: rest => exact List.mem_cons_self
  | succ index induction =>
      match script with
      | [last] => exact induction notEmpty
      | first :: second :: rest => exact List.mem_cons_of_mem _ (induction (by simp))

/-- The wait that an answer leads to is not too long.  A failure and a number that is
not positive lead to the usual wait, so this is about positive numbers. -/
def IsBearable (longest : Nat) (answer : Except Failure Value) : Prop :=
  ∀ seconds, answer.bind Quantity.ofValue = .ok seconds → seconds.isPositive = true →
    isBeyond longest seconds = false

/-! ## What is to be done -/

namespace Plan

variable (plan : Plan) (name : Value)

/-- The answer to the request of a number, of which the first is for the initial delay. -/
def answer (index : Nat) : Except Failure Value :=
  match plan.initial, index with
  | none, index => plan.interval.answer index
  | some initial, 0 => initial.answer 0
  | some _, index + 1 => plan.interval.answer index

/-- The delay that comes of an answer. -/
def delayOf (index : Nat) : Logged Double :=
  delay name (plan.answer index)

/-- A wait that runs out, a run, and a request. -/
def round (index : Nat) : List Moment :=
  [.wait (plan.delayOf name index).value false, .run, .ask .interval (plan.answer (index + 1))]

/-- The first request, and some rounds. -/
def trace (rounds : Nat) : List Moment :=
  .ask plan.firstRequest (plan.answer 0) :: (List.range rounds).flatMap (plan.round name)

/-- The event of a run, if the task fails. -/
def failureOf? (index : Nat) : Option Event :=
  match plan.task.answer index with
  | .ok _ => none
  | .error failure => some ((taskFailed name failure).within (context name).entries)

/-- The events of the first request, and of some rounds. -/
def events (rounds : Nat) : List Event :=
  (plan.delayOf name 0).events ++
    (List.range rounds).flatMap fun index =>
      (plan.failureOf? name index).toList ++ (plan.delayOf name (index + 1)).events

@[simp] theorem trace_succ (rounds : Nat) :
    plan.trace name (rounds + 1) = plan.trace name rounds ++ plan.round name rounds := by
  simp [trace, List.range_succ]

@[simp] theorem events_succ (rounds : Nat) :
    plan.events name (rounds + 1) = plan.events name rounds ++
      ((plan.failureOf? name rounds).toList ++ (plan.delayOf name (rounds + 1)).events) := by
  simp [events, List.range_succ]

theorem length_trace (rounds : Nat) : (plan.trace name rounds).length = 3 * rounds + 1 := by
  induction rounds with
  | zero => rfl
  | succ rounds induction =>
      rw [trace_succ, List.length_append, induction]
      simp only [round, List.length_cons, List.length_nil]
      omega

theorem trace_prefix {fewer more : Nat} (le : fewer ≤ more) :
    plan.trace name fewer <+: plan.trace name more := by
  induction le with
  | refl => exact List.prefix_rfl
  | step _ induction =>
      rw [trace_succ]
      exact induction.trans (List.prefix_append _ _)

/-- What has been done is what comes first of all that is to be done. -/
theorem take_trace (fewer : Nat) {steps : Nat} {moments : List Moment}
    (isPrefix : moments <+: plan.trace name fewer) (le : fewer ≤ steps)
    (length : moments.length = steps) : (plan.trace name steps).take steps = moments := by
  have whole := isPrefix.trans (plan.trace_prefix name le)
  rw [← length]
  exact (List.prefix_iff_eq_take.mp (length ▸ whole)).symm

theorem runs_trace (rounds : Nat) : Schedule.runs (plan.trace name rounds) = rounds := by
  induction rounds with
  | zero => rfl
  | succ rounds induction =>
      rw [Schedule.runs] at induction
      rw [trace_succ, Schedule.runs, List.countP_append, induction]
      rfl

end Plan

/-! ## Failures of the task -/

/-- Is the event that of a task that has failed? -/
def isTaskFailure (event : Event) : Bool :=
  match event.name with
  | .text name => name == "scheduler.task.failed"
  | _ => false

theorem isTaskFailure_of_failed {plan : Plan} {name : Value} {index : Nat} {event : Event}
    (failed : plan.failureOf? name index = some event) : isTaskFailure event = true := by
  unfold Plan.failureOf? at failed
  split at failed
  · simp at failed
  · obtain rfl := Option.some.inj failed
    rfl

theorem not_isTaskFailure_of_delay {name : Value} {answer : Except Failure Value}
    {event : Event} (member : event ∈ (delay name answer).events) :
    isTaskFailure event = false := by
  unfold delay at member
  split at member
  · obtain rfl : event = intervalFailed name _ := by simpa using member
    rfl
  · split at member
    · simp at member
    · obtain rfl : event = intervalInvalid name _ := by simpa using member
      rfl

/-- Each task that fails leaves one event of its own, and nothing else does. -/
theorem taskFailures_events (plan : Plan) (name : Value) (rounds : Nat) :
    (plan.events name rounds).filter isTaskFailure =
      (List.range rounds).filterMap (plan.failureOf? name) := by
  have noneOfDelay (index : Nat) : (plan.delayOf name index).events.filter isTaskFailure = [] :=
    List.filter_eq_nil_iff.mpr fun event member => by simp [not_isTaskFailure_of_delay member]
  induction rounds with
  | zero => simp [Plan.events, noneOfDelay]
  | succ rounds induction =>
      rw [Plan.events_succ, List.filter_append, induction, List.filter_append, noneOfDelay,
        List.append_nil, List.range_succ, List.filterMap_append]
      cases failed : plan.failureOf? name rounds with
      | none => simp [failed]
      | some event => simp [failed, isTaskFailure_of_failed failed]

/-! ## Rounds -/

/-- How many rounds a loop makes that is told to stop after some steps: those that it
has begun, a wait that is still going on apart. -/
def roundsOf (steps : Nat) : Nat :=
  (steps + 1) / 3

/-- A loop that has begun is in a wait, has its wait behind it, or has run its task. -/
theorem steps_cases (steps : Nat) :
    steps = 0 ∨ ∃ rounds,
      steps = 3 * rounds + 1 ∨ steps = 3 * rounds + 2 ∨ steps = 3 * rounds + 3 := by
  by_cases none : steps = 0
  · exact .inl none
  · exact .inr ⟨(steps - 1) / 3, by omega⟩

/-! ## Waits -/

theorem rank_fallback :
    fallbackSeconds.rank? = some (.exact 4503599627370496 4503599627370496) := by
  decide

theorem not_isBeyond_fallback {longest : Nat} (secondAllowed : 1 ≤ longest) :
    isBeyond longest fallbackSeconds = false := by
  rw [isBeyond, rank_fallback, Option.any_some, Double.Rank.isBelow, decide_eq_false_iff_not]
  omega

theorem not_isBeyond_delay {longest : Nat} (secondAllowed : 1 ≤ longest) {name : Value}
    {answer : Except Failure Value} (bearable : IsBearable longest answer) :
    isBeyond longest (delay name answer).value = false := by
  unfold delay
  split
  · exact not_isBeyond_fallback secondAllowed
  · next seconds isAnswer =>
      split
      · next usable =>
          cases seconds with
          | nan payload => rfl
          | infinite negative => exact bearable _ isAnswer (by simpa [Double.isNaN] using usable)
          | finite negative mantissa exponent =>
              exact bearable _ isAnswer (by simpa [Double.isNaN] using usable)
      · exact not_isBeyond_fallback secondAllowed

end DiscoveryClient.Schedule
