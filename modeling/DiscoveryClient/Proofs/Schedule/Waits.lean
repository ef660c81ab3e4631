import DiscoveryClient.Schedule.Loop
import Mathlib.Data.List.Basic

/-!
# What a loop waits for

Every wait of a loop is for the delay that comes of one of its answers.  So whatever holds of
the delays of all answers holds of all its waits, when the loop is in them and in what it
remembers of them.  Scripts only ever get shorter, and a loop that asks an empty one is
answered with nothing.
-/

namespace DiscoveryClient.Schedule

open Log

/-- The answers that a plan has left. -/
def Plan.answers (plan : Plan) : List (Except Failure Value) :=
  plan.interval ++ plan.initial.getD []

/-- A property of the delays that can still come of a plan. -/
def Plan.Delays (property : Double → Prop) (name : Value) (plan : Plan) : Prop :=
  ∀ answer, answer ∈ plan.answers ∨ answer = .ok .null → property (delay name answer).value

/-- A property of the wait that a loop is in, and of those that it has behind it. -/
structure Loop.Waits (property : Double → Prop) (loop : Loop) : Prop where
  now : ∀ seconds, loop.place = .waiting seconds → property seconds
  before : ∀ seconds stopped, .wait seconds stopped ∈ loop.moments → property seconds

section

variable {property : Double → Prop} {name : Value} {plan other : Plan} {loop : Loop}
  {world : World Plan}

theorem Script.next_mem (script : Script) :
    script.next.1 ∈ script ∨ script.next.1 = .ok .null := by
  match script with
  | [] => exact .inr rfl
  | [last] => exact .inl List.mem_cons_self
  | first :: second :: rest => exact .inl List.mem_cons_self

theorem Script.next_subset (script : Script) : script.next.2 ⊆ script := by
  match script with
  | [] => exact List.Subset.refl _
  | [last] => exact List.Subset.refl _
  | first :: second :: rest => exact List.subset_cons_self _ _

theorem Plan.Delays.mono (delays : plan.Delays property name)
    (subset : other.answers ⊆ plan.answers) : other.Delays property name := by
  intro answer given
  exact delays answer (given.imp_left fun member => subset member)

/-- A plan that is asked gives one of its answers, if it has any, and keeps others. -/
theorem Plan.ask_spec (request : Request) (world : World Plan) :
    ((Plan.ask request world).1 ∈ world.state.answers ∨
      (Plan.ask request world).1 = .ok .null) ∧
    (Plan.ask request world).2.state.answers ⊆ world.state.answers := by
  obtain ⟨⟨interval, initial, task, runs⟩, journal⟩ := world
  have ofInterval :
      (interval.next.1 ∈ Plan.answers ⟨interval, initial, task, runs⟩ ∨
        interval.next.1 = .ok .null) ∧
      Plan.answers ⟨interval.next.2, initial, task, runs⟩ ⊆
        Plan.answers ⟨interval, initial, task, runs⟩ := by
    refine ⟨interval.next_mem.imp_left (List.mem_append_left _), ?_⟩
    exact List.append_subset.mpr
      ⟨List.Subset.trans interval.next_subset (List.subset_append_left _ _),
        List.subset_append_right _ _⟩
  cases request with
  | interval => exact ofInterval
  | initialDelay =>
      cases initial with
      | none => exact ofInterval
      | some initial =>
          refine ⟨initial.next_mem.imp_left (List.mem_append_right _), ?_⟩
          exact List.append_subset.mpr
            ⟨List.subset_append_left _ _,
              List.Subset.trans initial.next_subset (List.subset_append_right _ _)⟩

theorem Plan.run_answers (name : Value) (world : World Plan) :
    (Plan.run name world).2.state.answers = world.state.answers := by
  obtain ⟨⟨interval, initial, task, runs⟩, journal⟩ := world
  simp only [Plan.run, runOnce, Act.bind_apply, Act.withFields_apply, Act.modifyState_apply,
    Act.state_apply, Act.pure_apply]
  cases task.next.1 with
  | ok value => rfl
  | error failure => rfl

namespace Loop.Waits

theorem starting : Loop.Waits property {} := by
  constructor
  · intro seconds waiting
    cases waiting
  · intro seconds stopped member
    cases member

/-- A loop that moves on remembers the wait that it was in, and no other. -/
theorem moved (waits : loop.Waits property) (place : Place) (moment : Moment)
    (next : ∀ seconds, place = .waiting seconds → property seconds)
    (last : ∀ seconds stopped, moment = .wait seconds stopped → property seconds) :
    (loop.moved place moment).Waits property := by
  constructor
  · exact next
  · intro seconds stopped member
    rcases List.mem_append.mp member with earlier | isLast
    · exact waits.before seconds stopped earlier
    · exact last seconds stopped (List.mem_singleton.mp isLast).symm

theorem ask (waits : loop.Waits property) (delays : world.state.Delays property name)
    (request : Request) :
    (loop.ask name request world).1.Waits property ∧
      (loop.ask name request world).2.state.Delays property name := by
  obtain ⟨given, subset⟩ := Plan.ask_spec request world
  constructor
  · refine waits.moved _ _ ?_ (by simp)
    rintro _ ⟨⟩
    exact delays _ given
  · exact delays.mono subset

/-- What holds of all delays holds of all waits, whatever a loop does next. -/
theorem step (waits : loop.Waits property) (delays : world.state.Delays property name)
    (longest : Nat) (signalled : Bool) :
    (loop.step longest name signalled world).1.Waits property ∧
      (loop.step longest name signalled world).2.state.Delays property name := by
  obtain ⟨place, moments⟩ := loop
  cases place with
  | starting => exact waits.ask delays _
  | asking => exact waits.ask delays _
  | stopped => exact ⟨waits, delays⟩
  | broken => exact ⟨waits, delays⟩
  | due =>
      refine ⟨waits.moved _ _ (by simp) (by simp), ?_⟩
      rw [Plan.Delays, ← Plan.run_answers name world] at delays
      exact delays
  | waiting seconds =>
      have own : property seconds := waits.now seconds rfl
      cases signalled with
      | true =>
          refine ⟨waits.moved _ _ (by simp) ?_, delays⟩
          rintro _ _ ⟨⟩
          exact own
      | false =>
          cases beyond : isBeyond longest seconds with
          | true =>
              simp only [Loop.step, beyond]
              exact ⟨⟨by rintro _ ⟨⟩, waits.before⟩, delays⟩
          | false =>
              simp only [Loop.step, beyond]
              refine ⟨waits.moved _ _ (by simp) ?_, delays⟩
              rintro _ _ ⟨⟩
              exact own

theorem steps (waits : loop.Waits property) (delays : world.state.Delays property name)
    (longest : Nat) (signalled : Bool) (count : Nat) :
    (Loop.steps longest name signalled count loop world).1.Waits property ∧
      (Loop.steps longest name signalled count loop world).2.state.Delays property name := by
  induction count generalizing loop world with
  | zero => exact ⟨waits, delays⟩
  | succ count induction =>
      obtain ⟨waits, delays⟩ := waits.step delays longest signalled
      exact induction waits delays

end Loop.Waits

/-- A loop breaks off at a wait and nowhere else. -/
theorem Loop.breaks_at_wait {longest : Nat} {signalled : Bool}
    (broken : (loop.step longest name signalled world).1.place = .broken) :
    loop.place = .broken ∨
      ∃ seconds, loop.place = .waiting seconds ∧ isBeyond longest seconds = true := by
  obtain ⟨place, moments⟩ := loop
  cases place with
  | starting => cases broken
  | asking => cases broken
  | due => cases broken
  | stopped => cases broken
  | broken => exact .inl rfl
  | waiting seconds =>
      cases signalled with
      | true => cases broken
      | false =>
          cases beyond : isBeyond longest seconds with
          | true => exact .inr ⟨seconds, rfl, beyond⟩
          | false =>
              simp only [Loop.step, beyond] at broken
              cases broken

/-- A loop all of whose delays the platform allows does not break off. -/
theorem Loop.steps_not_broken {longest : Nat}
    (waits : loop.Waits fun seconds => isBeyond longest seconds = false)
    (delays : world.state.Delays (fun seconds => isBeyond longest seconds = false) name)
    (intact : loop.place ≠ .broken) (signalled : Bool) (count : Nat) :
    (Loop.steps longest name signalled count loop world).1.place ≠ .broken := by
  induction count generalizing loop world with
  | zero => exact intact
  | succ count induction =>
      obtain ⟨waitsNext, delaysNext⟩ := waits.step delays longest signalled
      refine induction waitsNext delaysNext ?_
      intro broken
      rcases Loop.breaks_at_wait broken with already | ⟨seconds, waiting, beyond⟩
      · exact intact already
      · simp [waits.now seconds waiting] at beyond

end

end DiscoveryClient.Schedule
