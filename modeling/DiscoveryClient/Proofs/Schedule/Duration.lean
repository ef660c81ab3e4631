import DiscoveryClient.Proofs.Schedule.Agenda
import DiscoveryClient.Proofs.Schedule.Waits

/-!
# Delays as durations

A loop waits for as long as an answer says.  An answer that is no number is replaced, and
so is a number that is not above zero, each time with one event in the log.  Two
kinds of number slip through: what is not a number stands in no order to zero, and the
infinite number is above it.  A wait for the first does not last at all, and at a wait
for the second the loop breaks off.

All other waits of a loop are for durations, since a loop waits for nothing but what its
answers come to.
-/

namespace DiscoveryClient.Schedule

open Log

/-- A number of seconds that time can take. -/
def IsDuration (seconds : Double) : Prop :=
  seconds.isFinite = true ∧ seconds.isPositive = true

/-- A number that is no duration and is not refused either. -/
def IsSlippery (seconds : Double) : Prop :=
  seconds.isFinite = false ∧ seconds.isNegative = false

/-- The answer comes to a number that slips through. -/
def Slips (answer : Except Failure Value) : Prop :=
  ∃ seconds, answer.bind Quantity.ofValue = .ok seconds ∧ IsSlippery seconds

/-- The wait that an answer calls for.  A duration is waited for as it is, and a second in
place of an answer that cannot be had and of a number that is not above zero. -/
inductive CallsFor (answer : Except Failure Value) : Double → Prop where
  | duration {seconds : Double} :
      answer.bind Quantity.ofValue = .ok seconds →
      IsDuration seconds →
      CallsFor answer seconds
  | failure {failure : Failure} :
      answer.bind Quantity.ofValue = .error failure →
      CallsFor answer .one
  | notAboveZero {seconds : Double} :
      answer.bind Quantity.ofValue = .ok seconds →
      seconds.isPositive = false →
      seconds.isNaN = false →
      CallsFor answer .one

theorem isDuration_fallback : IsDuration fallbackSeconds := by
  constructor <;> decide

section

variable {seconds : Double} {name : Value} {answer : Except Failure Value}

theorem not_isDuration_of_isSlippery (slippery : IsSlippery seconds) : ¬ IsDuration seconds := by
  rintro ⟨finite, _⟩
  simp [slippery.1] at finite

/-- A number is waited for as it is if it is a duration or slips through. -/
theorem isWaitedFor_iff :
    (seconds.isPositive || seconds.isNaN) = true ↔ IsDuration seconds ∨ IsSlippery seconds := by
  cases seconds with
  | nan payload => simp [IsSlippery, Double.isNaN, Double.isFinite, Double.isNegative]
  | infinite negative =>
      cases negative <;>
        simp [IsDuration, IsSlippery, Double.isPositive, Double.isNaN, Double.isFinite,
          Double.isNegative]
  | finite negative mantissa exponent =>
      simp [IsDuration, IsSlippery, Double.isNaN, Double.isFinite]

theorem delay_of_failure {failure : Failure}
    (failed : answer.bind Quantity.ofValue = .error failure) :
    delay name answer =
      { value := fallbackSeconds, events := [intervalFailed name failure] } := by
  unfold delay
  rw [failed]
  rfl

theorem delay_of_taken (comes : answer.bind Quantity.ofValue = .ok seconds)
    (taken : IsDuration seconds ∨ IsSlippery seconds) :
    delay name answer = { value := seconds } := by
  unfold delay
  rw [comes]
  exact if_pos (isWaitedFor_iff.mpr taken)

theorem delay_of_refused (comes : answer.bind Quantity.ofValue = .ok seconds)
    (noDuration : ¬ IsDuration seconds) (notSlippery : ¬ IsSlippery seconds) :
    delay name answer =
      { value := fallbackSeconds, events := [intervalInvalid name seconds] } := by
  have refused : ¬ (seconds.isPositive || seconds.isNaN) = true := by
    rw [isWaitedFor_iff]
    exact not_or.mpr ⟨noDuration, notSlippery⟩
  unfold delay
  rw [comes]
  exact if_neg refused

/-- A loop waits for what an answer calls for, unless that slips through. -/
theorem delay_callsFor (straight : ¬ Slips answer) : CallsFor answer (delay name answer).value := by
  cases comes : answer.bind Quantity.ofValue with
  | error failure =>
      rw [delay_of_failure comes]
      exact .failure comes
  | ok seconds =>
      have notSlippery : ¬ IsSlippery seconds := fun slippery => straight ⟨seconds, comes, slippery⟩
      by_cases duration : IsDuration seconds
      · rw [delay_of_taken comes (.inl duration)]
        exact .duration comes duration
      · have refused : ¬ (seconds.isPositive || seconds.isNaN) = true := by
          rw [isWaitedFor_iff]
          exact not_or.mpr ⟨duration, notSlippery⟩
        obtain ⟨notPositive, isNumber⟩ : seconds.isPositive = false ∧ seconds.isNaN = false := by
          simpa using refused
        rw [delay_of_refused comes duration notSlippery]
        exact .notAboveZero comes notPositive isNumber

/-- An answer that comes to a duration, or else to a number that slips through, is what is
waited for.  Any other is replaced, with one event. -/
theorem delay_cases (name : Value) (answer : Except Failure Value) :
    (∃ seconds, answer.bind Quantity.ofValue = .ok seconds ∧
      (IsDuration seconds ∨ IsSlippery seconds) ∧ delay name answer = { value := seconds }) ∨
    (¬ Slips answer ∧
      (∀ seconds, answer.bind Quantity.ofValue = .ok seconds → ¬ IsDuration seconds) ∧
      ∃ event, delay name answer = { value := fallbackSeconds, events := [event] }) := by
  cases comes : answer.bind Quantity.ofValue with
  | error failure =>
      refine .inr ⟨?_, by simp, _, delay_of_failure comes⟩
      rintro ⟨seconds, comesToSame, _⟩
      simp [comes] at comesToSame
  | ok seconds =>
      by_cases taken : IsDuration seconds ∨ IsSlippery seconds
      · exact .inl ⟨seconds, rfl, taken, delay_of_taken comes taken⟩
      · obtain ⟨noDuration, notSlippery⟩ := not_or.mp taken
        refine .inr ⟨?_, ?_, _, delay_of_refused comes noDuration notSlippery⟩
        · rintro ⟨same, comesToSame, slippery⟩
          obtain rfl := Except.ok.inj (comes.symm.trans comesToSame)
          exact notSlippery slippery
        · intro same isSame
          obtain rfl := Except.ok.inj isSame
          exact noDuration

theorem isDuration_delay_iff : IsDuration (delay name answer).value ↔ ¬ Slips answer := by
  rcases delay_cases name answer with ⟨seconds, comes, taken, delayed⟩ | ⟨straight, _, _, delayed⟩
  · rw [delayed]
    constructor
    · rintro duration ⟨same, comesToSame, slippery⟩
      obtain rfl := Except.ok.inj (comes.symm.trans comesToSame)
      exact not_isDuration_of_isSlippery slippery duration
    · intro straight
      rcases taken with duration | slippery
      · exact duration
      · exact (straight ⟨seconds, comes, slippery⟩).elim
  · rw [delayed]
    exact ⟨fun _ => straight, fun _ => isDuration_fallback⟩

end

/-! ## Loops -/

section

variable {name : Value} {plan : Plan} {longest : Nat}

theorem delays_of_straight_answers (name : Value)
    (straight : ∀ answer ∈ plan.answers, ¬ Slips answer) : plan.Delays IsDuration name := by
  rintro answer (given | rfl)
  · exact isDuration_delay_iff.mpr (straight answer given)
  · exact isDuration_fallback

/-- Without answers that slip through, whatever a loop waits for is a duration. -/
theorem loop_waits_for_durations (name : Value) (longest before after : Nat)
    (straight : ∀ answer ∈ plan.answers, ¬ Slips answer) :
    (Loop.run longest name before after { state := plan }).1.Waits IsDuration := by
  have all : ({ state := plan } : World Plan).state.Delays IsDuration name :=
    delays_of_straight_answers name straight
  obtain ⟨waits, delays⟩ := Loop.Waits.starting.steps all longest false before
  exact (waits.steps delays longest true after).1

/-- Without answers that slip through, a loop breaks off at most at a duration that is
too long for the platform. -/
theorem loop_breaks_at_long_duration (secondAllowed : 1 ≤ longest)
    (straight : ∀ answer ∈ plan.answers, ¬ Slips answer) {before after : Nat}
    (broken : (Loop.run longest name before after { state := plan }).1.place = .broken) :
    ∃ answer ∈ plan.answers, ∃ seconds, answer.bind Quantity.ofValue = .ok seconds ∧
      IsDuration seconds ∧ isBeyond longest seconds = true := by
  apply Classical.byContradiction
  intro allShort
  have allowed : ({ state := plan } : World Plan).state.Delays
      (fun seconds => isBeyond longest seconds = false) name := by
    rintro answer (given | rfl)
    · rcases delay_cases name answer with ⟨seconds, comes, taken, delayed⟩ | ⟨_, _, _, delayed⟩
      · rw [delayed]
        have duration : IsDuration seconds :=
          taken.resolve_right fun slippery => straight answer given ⟨seconds, comes, slippery⟩
        apply Bool.eq_false_iff.mpr
        intro beyond
        exact allShort ⟨answer, given, seconds, comes, duration, beyond⟩
      · rw [delayed]
        exact not_isBeyond_fallback secondAllowed
    · exact not_isBeyond_fallback secondAllowed
  obtain ⟨waits, delays⟩ := Loop.Waits.starting.steps allowed longest false before
  have going := Loop.steps_not_broken Loop.Waits.starting allowed (by decide) false before
  exact Loop.steps_not_broken waits delays going true after broken

end

/-- A delay is a duration unless its answer slips through.  A duration is taken as it is and
without a word; what is no duration is replaced by one second and leaves one event.  What
slips through is taken as it is as well.  So a loop whose answers do not slip
through waits for durations only, and breaks off at none but too long a one. -/
theorem delays_are_durations_unless_slipped (name : Value) :
    (∀ answer,
      (IsDuration (delay name answer).value ↔ ¬ Slips answer) ∧
      (∀ seconds, answer.bind Quantity.ofValue = .ok seconds →
        IsDuration seconds ∨ IsSlippery seconds → delay name answer = { value := seconds }) ∧
      (¬ Slips answer →
        (∀ seconds, answer.bind Quantity.ofValue = .ok seconds → ¬ IsDuration seconds) →
          ∃ event, delay name answer = { value := .one, events := [event] })) ∧
    ∀ plan : Plan, (∀ answer ∈ plan.answers, ¬ Slips answer) →
      ∀ longest before after, 1 ≤ longest →
        ∃ loop world, Loop.run longest name before after { state := plan } = (loop, world) ∧
          (∀ seconds stopped, .wait seconds stopped ∈ loop.moments → IsDuration seconds) ∧
          (loop.place = .broken →
            ∃ answer ∈ plan.answers, ∃ seconds, answer.bind Quantity.ofValue = .ok seconds ∧
              IsDuration seconds ∧ isBeyond longest seconds = true) := by
  constructor
  · intro answer
    refine ⟨isDuration_delay_iff, fun seconds comes taken => delay_of_taken comes taken, ?_⟩
    intro straight noDuration
    rcases delay_cases name answer with ⟨seconds, comes, taken, _⟩ | ⟨_, _, replaced⟩
    · rcases taken with duration | slippery
      · exact (noDuration seconds comes duration).elim
      · exact (straight ⟨seconds, comes, slippery⟩).elim
    · exact replaced
  · intro plan straight longest before after secondAllowed
    refine ⟨_, _, rfl, ?_, ?_⟩
    · exact (loop_waits_for_durations name longest before after straight).before
    · exact loop_breaks_at_long_duration secondAllowed straight

/-- Answers of which none slips through, and all but the first are of no use. -/
def patchyPlan : Plan where
  interval := [.ok (.int 30), .error .wrongType, .ok (.text "soon"),
    .ok (.float (.infinite true))]
  task := []

theorem patchyPlan_straight : ∀ answer ∈ patchyPlan.answers, ¬ Slips answer := by
  have answers : patchyPlan.answers = patchyPlan.interval := rfl
  rw [answers]
  rintro answer member ⟨seconds, comes, slippery⟩
  simp only [patchyPlan, List.mem_cons, List.not_mem_nil, or_false] at member
  rcases member with rfl | rfl | rfl | rfl
  · obtain rfl := Except.ok.inj comes
    exact absurd slippery.1 (by decide)
  · cases comes
  · cases comes
  · obtain rfl := Except.ok.inj comes
    exact absurd slippery.2 (by decide)

/-- Of the negative infinite number there is one event, and the loop goes on with a second. -/
theorem patchy_answers_give_durations :
    (∀ answer ∈ patchyPlan.answers, ¬ Slips answer) ∧ 1 ≤ longestWait ∧
    (∃ event, delay defaultName (.ok (.float (.infinite true))) =
      { value := .one, events := [event] }) ∧
    ∃ loop world,
      Loop.run longestWait defaultName 12 3 { state := patchyPlan } = (loop, world) ∧
      (∀ seconds stopped, .wait seconds stopped ∈ loop.moments → IsDuration seconds) ∧
      runs loop.moments = 4 := by
  obtain ⟨single, loops⟩ := delays_are_durations_unless_slipped defaultName
  obtain ⟨_, _, replaced⟩ := single (.ok (.float (.infinite true)))
  have straight : ¬ Slips (.ok (.float (.infinite true))) :=
    patchyPlan_straight _ (by simp [patchyPlan, Plan.answers])
  have noDuration : ∀ seconds,
      (Except.ok (.float (.infinite true)) : Except Failure Value).bind Quantity.ofValue =
        .ok seconds → ¬ IsDuration seconds := by
    rintro _ ⟨⟩ ⟨finite, _⟩
    cases finite
  obtain ⟨loop, world, ran, durations, _⟩ :=
    loops patchyPlan patchyPlan_straight longestWait 12 3 (by decide)
  refine ⟨patchyPlan_straight, by decide, replaced straight noDuration, loop, world, ran,
    durations, ?_⟩
  have moments := congrArg (fun reached => runs reached.1.moments) ran
  exact moments.symm

/-- What is not a number and the infinite number are waited for without a word, and the
infinite one breaks the loop off. -/
theorem endless_answers_slip_through :
    delay defaultName (.ok (.float (.nan 0))) = { value := .nan 0 } ∧
    ¬ IsDuration (.nan 0) ∧
    delay defaultName (.ok (.float (.infinite false))) = { value := .infinite false } ∧
    ¬ IsDuration (.infinite false) ∧
    (Loop.run longestWait defaultName 2 0
      { state := { interval := [.ok (.float (.infinite false))], task := [] } }).1.place =
        .broken := by
  refine ⟨rfl, ?_, rfl, ?_, rfl⟩
  · rintro ⟨finite, _⟩
    cases finite
  · rintro ⟨finite, _⟩
    cases finite

end DiscoveryClient.Schedule
