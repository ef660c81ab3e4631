import DiscoveryClient.Proofs.Schedule.Waits
import DiscoveryClient.Schedule.Control

/-!
# Steps of workers

A worker is a loop that sleeps in its waits.  A step of it puts it to sleep or is a step of
its loop, and a run begins only at the end of a sleep.  So a worker that the signal has woken
begins no run, nor does one that is over, and the others are unaware: without the signal they
come nearer to a run with every step.

Among the workers of a refresher an action changes one at most, apart from the signal, which
wakes them all.
-/

namespace DiscoveryClient.Schedule

/-! ## One worker -/

/-- How often a wait has run out, so that a run of the task began. -/
def Loop.begun (loop : Loop) : Nat :=
  loop.moments.countP fun
    | .wait _ false => true
    | _ => false

/-- The signal has woken the loop from its wait. -/
def Worker.IsWoken (worker : Worker) : Prop :=
  worker.rest = .woken ∧ ∃ seconds, worker.loop.place = .waiting seconds

def Worker.IsUnaware (worker : Worker) : Prop :=
  worker.isAlive = true ∧ ¬ worker.IsWoken

/-- How many steps an unaware loop is from the end of its next wait. -/
def Worker.distance (worker : Worker) : Nat :=
  match worker.loop.place with
  | .waiting _ => if worker.rest = .asleep then 0 else 1
  | .starting | .asking => 2
  | .due => 3
  | .stopped | .broken => 0

/-- Does the next wait of a worker see a signal? -/
def Worker.hears (signalled : Bool) (worker : Worker) : Bool :=
  match worker.rest with
  | .awake => signalled
  | .asleep => false
  | .woken => true

section

variable {longest : Nat} {name : Value} {signalled : Bool} {loop : Loop} {worker : Worker}
  {world : World Plan}

theorem Loop.begun_moved (loop : Loop) (place : Place) {moment : Moment}
    (noRun : ∀ seconds, moment ≠ .wait seconds false) :
    (loop.moved place moment).begun = loop.begun := by
  unfold Loop.moved Loop.begun
  rw [List.countP_append, List.countP_singleton]
  split
  · next seconds => exact absurd rfl (noRun seconds)
  · rfl

theorem Loop.begun_moved_wait (loop : Loop) (place : Place) (seconds : Double) :
    (loop.moved place (.wait seconds false)).begun = loop.begun + 1 := by
  unfold Loop.moved Loop.begun
  rw [List.countP_append]
  rfl

theorem Loop.step_over (ended : loop.place.isOver = true) :
    loop.step longest name signalled world = (loop, world) := by
  obtain ⟨place, moments⟩ := loop
  cases place with
  | stopped | broken => rfl
  | starting | waiting | due | asking => cases ended

/-- A run begins only where a wait sees no signal. -/
theorem Loop.begun_step (heard : signalled = true ∨ ∀ seconds, loop.place ≠ .waiting seconds) :
    (loop.step longest name signalled world).1.begun = loop.begun := by
  obtain ⟨place, moments⟩ := loop
  cases place with
  | starting | asking | due => exact Loop.begun_moved _ _ (by simp)
  | stopped | broken => rfl
  | waiting seconds =>
      obtain rfl := heard.resolve_right fun elsewhere => elsewhere seconds rfl
      exact Loop.begun_moved _ _ (by simp)

/-- A worker falls asleep in its wait, or its loop makes a step.  A run begins only at the
end of a sleep. -/
theorem Worker.step_cases (longest : Nat) (name : Value) (signalled : Bool) (worker : Worker)
    (world : World Plan) :
    (∃ seconds, worker.loop.place = .waiting seconds ∧ worker.rest = .awake ∧
      signalled = false ∧
      worker.step longest name signalled world = ({ worker with rest := .asleep }, world)) ∨
    worker.step longest name signalled world =
        ({ loop := (worker.loop.step longest name (worker.hears signalled) world).1 },
          (worker.loop.step longest name (worker.hears signalled) world).2) ∧
      (worker.rest ≠ .asleep →
        (worker.loop.step longest name (worker.hears signalled) world).1.begun =
          worker.loop.begun) := by
  obtain ⟨loop, rest⟩ := worker
  cases rest with
  | asleep => exact .inr ⟨rfl, by simp⟩
  | woken => exact .inr ⟨rfl, fun _ => Loop.begun_step (.inl rfl)⟩
  | awake =>
      obtain ⟨place, moments⟩ := loop
      cases place with
      | starting | due | asking | stopped | broken =>
          exact .inr ⟨rfl, fun _ => Loop.begun_step (.inr (by simp))⟩
      | waiting seconds =>
          cases signalled with
          | true => exact .inr ⟨rfl, fun _ => Loop.begun_step (.inl rfl)⟩
          | false =>
              cases beyond : isBeyond longest seconds with
              | false => exact .inl ⟨seconds, rfl, rfl, rfl, by simp [step, beyond]; rfl⟩
              | true =>
                  refine .inr ⟨by simp [step, hears, beyond]; rfl, fun _ => ?_⟩
                  simp only [Loop.step, hears, beyond]
                  rfl

theorem Worker.alive_of_step
    (alive : (worker.step longest name signalled world).1.isAlive = true) :
    worker.isAlive = true := by
  rcases Worker.step_cases longest name signalled worker world with
    ⟨seconds, _, _, _, sleeps⟩ | ⟨goes, _⟩
  · rw [sleeps] at alive
    exact alive
  · rw [goes] at alive
    by_contra ended
    have ended : worker.loop.place.isOver = true := by simpa [isAlive] using ended
    rw [Loop.step_over ended] at alive
    simp [isAlive, ended] at alive

/-- A loop never becomes unaware. -/
theorem Worker.unaware_of_step
    (unaware : (worker.step longest name signalled world).1.IsUnaware) : worker.IsUnaware := by
  refine ⟨Worker.alive_of_step unaware.1, ?_⟩
  rintro ⟨woken, seconds, waiting⟩
  have alive := unaware.1
  obtain ⟨⟨place, moments⟩, rest⟩ := worker
  obtain rfl : rest = .woken := woken
  obtain rfl : place = .waiting seconds := waiting
  cases alive

theorem Worker.begun_of_not_unaware (aware : ¬ worker.IsUnaware) :
    (worker.step longest name signalled world).1.loop.begun = worker.loop.begun := by
  rcases Worker.step_cases longest name signalled worker world with
    ⟨seconds, _, _, _, sleeps⟩ | ⟨goes, same⟩
  · rw [sleeps]
  · rw [goes]
    by_cases ended : worker.loop.place.isOver = true
    · rw [Loop.step_over ended]
    · refine same fun asleep => aware ⟨by simpa [isAlive] using ended, ?_⟩
      rintro ⟨woken, _⟩
      rw [asleep] at woken
      cases woken

theorem Worker.begun_of_not_asleep (notAsleep : worker.rest ≠ .asleep) :
    (worker.step longest name signalled world).1.loop.begun = worker.loop.begun := by
  rcases Worker.step_cases longest name signalled worker world with
    ⟨seconds, _, _, _, sleeps⟩ | ⟨goes, same⟩
  · rw [sleeps]
  · rw [goes]
    exact same notAsleep

theorem Worker.unaware_of_wake (unaware : worker.wake.IsUnaware) : worker.IsUnaware := by
  unfold Worker.wake at unaware
  split at unaware
  · next asleep =>
      refine ⟨unaware.1, ?_⟩
      rintro ⟨woken, _⟩
      rw [asleep] at woken
      cases woken
  · exact unaware

theorem Worker.alive_of_wake (alive : worker.wake.isAlive = true) : worker.isAlive = true := by
  rw [isAlive, loop_wake] at alive
  exact alive

theorem Worker.awake_of_signalled :
    (worker.step longest name true world).1.rest ≠ .asleep := by
  rcases Worker.step_cases longest name true worker world with
    ⟨_, _, _, contrary, _⟩ | ⟨goes, _⟩
  · cases contrary
  · rw [goes]
    simp

/-- Without a signal an unaware loop comes nearer to its next run with every step. -/
theorem Worker.progress (unaware : worker.IsUnaware)
    (bearable : ∀ seconds, worker.loop.place = .waiting seconds → isBeyond longest seconds = false)
    (world : World Plan) :
    let next := (worker.step longest name false world).1
    worker.loop.begun < next.loop.begun ∨
      worker.loop.begun = next.loop.begun ∧ next.IsUnaware ∧ next.distance < worker.distance := by
  obtain ⟨alive, unwoken⟩ := unaware
  obtain ⟨⟨place, moments⟩, rest⟩ := worker
  have awake (loop : Loop) : ¬ Worker.IsWoken { loop } := by
    rintro ⟨woken, _⟩
    cases woken
  cases place with
  | stopped | broken => cases alive
  | starting | asking =>
      refine .inr ?_
      cases rest <;>
        exact ⟨(Loop.begun_moved _ _ (by simp)).symm, ⟨rfl, awake _⟩, Nat.lt_succ_self 1⟩
  | due =>
      refine .inr ?_
      cases rest <;>
        exact ⟨(Loop.begun_moved _ _ (by simp)).symm, ⟨rfl, awake _⟩, Nat.lt_succ_self 2⟩
  | waiting seconds =>
      have short := bearable seconds rfl
      cases rest with
      | woken => exact absurd ⟨rfl, seconds, rfl⟩ unwoken
      | awake =>
          refine .inr ?_
          simp only [step, short]
          refine ⟨rfl, ⟨rfl, ?_⟩, Nat.lt_succ_self 0⟩
          rintro ⟨woken, _⟩
          cases woken
      | asleep =>
          refine .inl ?_
          simp only [step, Loop.step, short]
          exact Nat.lt_of_lt_of_eq (Nat.lt_succ_self _) (Loop.begun_moved_wait _ _ _).symm

theorem Worker.waits_step {property : Double → Prop} (waits : worker.loop.Waits property)
    (delays : world.state.Delays property name) (longest : Nat) (signalled : Bool) :
    (worker.step longest name signalled world).1.loop.Waits property ∧
      (worker.step longest name signalled world).2.state.Delays property name := by
  rcases Worker.step_cases longest name signalled worker world with
    ⟨seconds, _, _, _, sleeps⟩ | ⟨goes, _⟩
  · rw [sleeps]
    exact ⟨waits, delays⟩
  · rw [goes]
    exact waits.step delays longest _

end

/-! ## Workers of a refresher -/

namespace Refresher

variable {longest : Nat} {name : Value} {refresher : Refresher} {number other : Nat}
  {worker : Worker}

theorem go_some (known : refresher.workers[number]? = some worker) :
    refresher.go longest name number =
      { refresher with
        world := (worker.step longest name refresher.signalled refresher.world).2
        workers := refresher.workers.set number
          (worker.step longest name refresher.signalled refresher.world).1 } := by
  unfold go
  rw [known]
  rfl

theorem go_none (unknown : refresher.workers[number]? = none) :
    refresher.go longest name number = refresher := by
  unfold go
  rw [unknown]

theorem signalled_go : (refresher.go longest name number).signalled = refresher.signalled := by
  cases known : refresher.workers[number]? with
  | none => rw [go_none known]
  | some worker => rw [go_some known]

/-- A step leaves a worker as it was or is its own. -/
theorem worker_go (known : (refresher.go longest name number).workers[other]? = some worker) :
    refresher.workers[other]? = some worker ∨
      ∃ before, refresher.workers[other]? = some before ∧
        worker = (before.step longest name refresher.signalled refresher.world).1 := by
  cases own : refresher.workers[number]? with
  | none =>
      rw [go_none own] at known
      exact .inl known
  | some before =>
      rw [go_some own, List.getElem?_set] at known
      split at known
      · next same =>
          subst same
          split at known
          · exact .inr ⟨before, own, (Option.some.inj known).symm⟩
          · cases known
      · exact .inl known

/-- The worker of a number after an action: as before, after a step or the signal, or new. -/
theorem worker_act {action : Action}
    (known : (refresher.act longest name action).workers[number]? = some worker) :
    (∃ before, refresher.workers[number]? = some before ∧
      (worker = before ∨ worker = before.wake ∨
        worker = (before.step longest name refresher.signalled refresher.world).1)) ∨
    (∃ caller, action = .start caller) ∧ refresher.isRunning = false ∧
      number = refresher.workers.length ∧ worker = {} := by
  cases action with
  | go stepping =>
      rcases worker_go known with same | ⟨before, present, steps⟩
      · exact .inl ⟨worker, same, .inl rfl⟩
      · exact .inl ⟨before, present, .inr (.inr steps)⟩
  | signal =>
      simp only [act, signal, List.getElem?_map, Option.map_eq_some_iff] at known
      obtain ⟨before, present, woken⟩ := known
      exact .inl ⟨before, present, .inr (.inl woken.symm)⟩
  | forget caller =>
      refine .inl ⟨worker, ?_, .inl rfl⟩
      simp only [act, forget] at known
      split at known <;> exact known
  | leave caller ended timedOut =>
      refine .inl ⟨worker, ?_, .inl rfl⟩
      simp only [act, leave] at known
      split at known <;> exact known
  | start caller =>
      simp only [act, start] at known
      split at known
      · exact .inl ⟨worker, known, .inl rfl⟩
      · next idle =>
          rw [workers_log, List.getElem?_append] at known
          split at known
          · exact .inl ⟨worker, known, .inl rfl⟩
          · next beyond =>
              rw [List.getElem?_singleton] at known
              split at known
              · exact .inr ⟨⟨caller, rfl⟩, by simpa using idle, by omega,
                  (Option.some.inj known).symm⟩
              · cases known

/-- What neither a step nor the signal brings about held of the worker before, unless the
worker is new. -/
theorem before_of_act {holds : Worker → Prop}
    (step : ∀ (worker : Worker) signalled world,
      holds (worker.step longest name signalled world).1 → holds worker)
    (wake : ∀ worker : Worker, holds worker.wake → holds worker) (action : Action)
    (known : (refresher.act longest name action).workers[number]? = some worker)
    (now : holds worker) :
    (∃ before, refresher.workers[number]? = some before ∧ holds before) ∨
      (∃ caller, action = .start caller) ∧ refresher.isRunning = false ∧
        number = refresher.workers.length := by
  rcases worker_act known with ⟨before, present, rfl | rfl | rfl⟩ | ⟨starts, idle, new, _⟩
  · exact .inl ⟨_, present, now⟩
  · exact .inl ⟨before, present, wake before now⟩
  · exact .inl ⟨before, present, step before _ _ now⟩
  · exact .inr ⟨starts, idle, new⟩

end Refresher

end DiscoveryClient.Schedule
