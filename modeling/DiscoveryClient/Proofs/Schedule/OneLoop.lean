import DiscoveryClient.Proofs.Schedule.Agenda
import DiscoveryClient.Proofs.Schedule.Worker

/-!
# One loop at a time

Only unaware loops can ever run again, and they cannot while the signal stays.  A loop never
becomes unaware, so there is at most one such loop unless a start takes effect while there is
one.  That can happen: to stop forgets a loop whether or not it has seen the signal, and to
start takes the signal back.  Then two loops go on side by side.

It does not happen to callers that are patient.  What holds for them is that every loop which
is not over is known or awaited, so none is left where a start takes effect.
-/

namespace DiscoveryClient.Schedule

namespace Refresher

/-- How often the loop of a number has begun a run. -/
def begun (refresher : Refresher) (number : Nat) : Nat :=
  (refresher.loop number).begun

/-- The loop of a number can go on to a further run. -/
def CanRunAgain (longest : Nat) (name : Value) (refresher : Refresher) (number : Nat) : Prop :=
  ∃ steps : List Nat,
    refresher.begun number < (refresher.acts longest name (steps.map .go)).begun number

def HasUnaware (refresher : Refresher) (number : Nat) : Prop :=
  ∃ worker, refresher.workers[number]? = some worker ∧ worker.IsUnaware

/-- A start takes effect while a loop is unaware. -/
def Overlaps (refresher : Refresher) (action : Action) : Prop :=
  (∃ caller, action = .start caller) ∧ refresher.isRunning = false ∧
    ∃ number, refresher.HasUnaware number

/-- All actions of a list are such as are allowed where they come. -/
def Allows (longest : Nat) (name : Value) (allowed : Refresher → Action → Prop) :
    Refresher → List Action → Prop
  | _, [] => True
  | refresher, action :: rest =>
      allowed refresher action ∧ Allows longest name allowed (refresher.act longest name action) rest

variable {longest : Nat} {name : Value} {refresher : Refresher} {number other : Nat}
  {worker : Worker}

/-- What every allowed action keeps is kept by all of them. -/
theorem Allows.acts {allowed : Refresher → Action → Prop} {kept : Refresher → Prop}
    (step : ∀ refresher action, kept refresher → allowed refresher action →
      kept (refresher.act longest name action))
    {actions : List Action} (all : Allows longest name allowed refresher actions)
    (first : kept refresher) : kept (refresher.acts longest name actions) := by
  induction actions generalizing refresher with
  | nil => exact first
  | cons action rest induction => exact induction all.2 (step refresher action first all.1)

/-! ## Loops that cannot run again -/

theorem loop_eq (known : refresher.workers[number]? = some worker) :
    refresher.loop number = worker.loop := by
  rw [loop, known]
  rfl

/-- A step begins a run at most in the loop that makes it. -/
theorem begun_go
    (still : ∀ worker, refresher.workers[number]? = some worker →
      (worker.step longest name refresher.signalled refresher.world).1.loop.begun =
        worker.loop.begun) :
    (refresher.go longest name other).begun number = refresher.begun number := by
  cases own : refresher.workers[other]? with
  | none => rw [go_none own]
  | some before =>
      rw [go_some own]
      unfold begun loop
      rw [List.getElem?_set]
      split
      · next same =>
          subst same
          rw [own, if_pos (List.getElem?_eq_some_iff.mp own).1]
          exact still before own
      · rfl

/-- Loops that stay as they are however loops go on cannot run again. -/
theorem not_canRunAgain (kept : Refresher → Prop)
    (step : ∀ refresher other, kept refresher → kept (refresher.go longest name other) ∧
      (refresher.go longest name other).begun number = refresher.begun number)
    (first : kept refresher) : ¬ refresher.CanRunAgain longest name number := by
  rintro ⟨steps, more⟩
  suffices same : (refresher.acts longest name (steps.map .go)).begun number =
      refresher.begun number by
    omega
  clear more
  induction steps generalizing refresher with
  | nil => rfl
  | cons other rest induction =>
      obtain ⟨next, same⟩ := step refresher other first
      exact (induction next).trans same

theorem hasUnaware_of_act (action : Action)
    (unaware : (refresher.act longest name action).HasUnaware number) :
    refresher.HasUnaware number ∨
      (∃ caller, action = .start caller) ∧ refresher.isRunning = false ∧
        number = refresher.workers.length := by
  obtain ⟨worker, known, unaware⟩ := unaware
  exact before_of_act (fun _ _ _ => Worker.unaware_of_step) (fun _ => Worker.unaware_of_wake)
    action known unaware

/-- Only unaware loops can run again. -/
theorem CanRunAgain.hasUnaware (again : refresher.CanRunAgain longest name number) :
    refresher.HasUnaware number := by
  by_contra aware
  refine not_canRunAgain (fun refresher => ¬ refresher.HasUnaware number) ?_ aware again
  intro refresher other aware
  constructor
  · intro unaware
    rcases hasUnaware_of_act (.go other) unaware with before | ⟨⟨_, contrary⟩, _⟩
    · exact aware before
    · cases contrary
  · refine begun_go fun worker known => Worker.begun_of_not_unaware ?_
    exact fun unaware => aware ⟨worker, known, unaware⟩

/-- The signal is given, and whoever waits has seen it or will. -/
def IsCalledOff (refresher : Refresher) : Prop :=
  refresher.signalled = true ∧
    ∀ (number : Nat) (worker : Worker),
      refresher.workers[number]? = some worker → worker.rest ≠ .asleep

theorem IsCalledOff.signal : refresher.signal.IsCalledOff := by
  refine ⟨rfl, fun number worker known => ?_⟩
  simp only [Refresher.signal, List.getElem?_map, Option.map_eq_some_iff] at known
  obtain ⟨before, _, rfl⟩ := known
  exact before.rest_wake_ne

/-- The signal stays until the next start. -/
theorem IsCalledOff.act (off : refresher.IsCalledOff) (action : Action)
    (noStart : ∀ caller, action ≠ .start caller) :
    (refresher.act longest name action).IsCalledOff := by
  constructor
  · cases action with
    | start caller => exact absurd rfl (noStart caller)
    | signal => rfl
    | go number => exact signalled_go.trans off.1
    | forget caller =>
        simp only [Refresher.act, forget]
        split <;> exact off.1
    | leave caller number timedOut =>
        simp only [Refresher.act, leave]
        split <;> exact off.1
  · intro number worker known
    rcases worker_act known with ⟨before, present, rfl | rfl | rfl⟩ | ⟨⟨caller, starts⟩, _⟩
    · exact off.2 number _ present
    · exact before.rest_wake_ne
    · rw [off.1]
      exact Worker.awake_of_signalled
    · exact absurd starts (noStart caller)

theorem IsCalledOff.not_canRunAgain (off : refresher.IsCalledOff) (number : Nat) :
    ¬ refresher.CanRunAgain longest name number := by
  refine Refresher.not_canRunAgain IsCalledOff ?_ off
  intro refresher other off
  refine ⟨off.act (.go other) (by simp), begun_go fun worker known => ?_⟩
  exact Worker.begun_of_not_asleep (off.2 number worker known)

/-! ## Loops that can run again -/

/-- No loop is in a wait that is too long for the platform, or will be. -/
structure Bears (longest : Nat) (name : Value) (refresher : Refresher) : Prop where
  waits : ∀ (number : Nat) (worker : Worker), refresher.workers[number]? = some worker →
    worker.loop.Waits fun seconds => isBeyond longest seconds = false
  delays : refresher.world.state.Delays (fun seconds => isBeyond longest seconds = false) name

theorem Bears.act (bears : refresher.Bears longest name) (action : Action) :
    (refresher.act longest name action).Bears longest name := by
  constructor
  · intro number worker known
    rcases worker_act known with ⟨before, present, rfl | rfl | rfl⟩ | ⟨_, _, _, rfl⟩
    · exact bears.waits number _ present
    · rw [Worker.loop_wake]
      exact bears.waits number before present
    · exact (Worker.waits_step (bears.waits number before present) bears.delays _ _).1
    · exact Loop.Waits.starting
  · cases action with
    | signal => exact bears.delays
    | start caller =>
        simp only [Refresher.act, start]
        split
        · exact bears.delays
        · rw [state_log]
          exact bears.delays
    | forget caller =>
        simp only [Refresher.act, forget]
        split <;> exact bears.delays
    | leave caller number timedOut =>
        simp only [Refresher.act, leave]
        split
        · rw [state_log]
          exact bears.delays
        · exact bears.delays
    | go number =>
        simp only [Refresher.act]
        cases own : refresher.workers[number]? with
        | none =>
            rw [go_none own]
            exact bears.delays
        | some worker =>
            rw [go_some own]
            exact (Worker.waits_step (bears.waits number worker own) bears.delays _ _).2

/-- Without the signal, unaware loops can run again. -/
theorem HasUnaware.canRunAgain (unaware : refresher.HasUnaware number)
    (quiet : refresher.signalled = false) (bears : refresher.Bears longest name) :
    refresher.CanRunAgain longest name number := by
  obtain ⟨worker, known, unaware⟩ := unaware
  -- on the number of steps up to the end of the loop's next wait
  induction distance : worker.distance using Nat.strongRecOn generalizing refresher worker with
  | ind distance nearer =>
      have present : number < refresher.workers.length := (List.getElem?_eq_some_iff.mp known).1
      have next : (refresher.go longest name number).workers[number]? =
          some (worker.step longest name false refresher.world).1 := by
        rw [go_some known, quiet]
        exact List.getElem?_set_self present
      have begunNow : refresher.begun number = worker.loop.begun := by
        rw [begun, loop_eq known]
      have begunNext : (refresher.go longest name number).begun number =
          (worker.step longest name false refresher.world).1.loop.begun := by
        rw [begun, loop_eq next]
      rcases Worker.progress unaware (bears.waits number worker known).now refresher.world with
        more | ⟨same, unawareNext, less⟩
      · refine ⟨[number], ?_⟩
        change refresher.begun number < (refresher.go longest name number).begun number
        rw [begunNow, begunNext]
        exact more
      · obtain ⟨steps, more⟩ := nearer _ (distance ▸ less) (signalled_go.trans quiet)
          (bears.act (.go number)) _ next unawareNext rfl
        refine ⟨number :: steps, ?_⟩
        rw [begunNow, same, ← begunNext]
        exact more

/-! ## One unaware loop and two -/

def AtMostOneUnaware (refresher : Refresher) : Prop :=
  ∀ first second, refresher.HasUnaware first → refresher.HasUnaware second → first = second

theorem AtMostOneUnaware.act (single : refresher.AtMostOneUnaware) {action : Action}
    (apart : ¬ refresher.Overlaps action) :
    (refresher.act longest name action).AtMostOneUnaware := by
  intro first second isFirst isSecond
  rcases hasUnaware_of_act action isFirst with oldFirst | ⟨starts, idle, newFirst⟩
  · rcases hasUnaware_of_act action isSecond with oldSecond | ⟨starts, idle, _⟩
    · exact single first second oldFirst oldSecond
    · exact absurd ⟨starts, idle, first, oldFirst⟩ apart
  · rcases hasUnaware_of_act action isSecond with oldSecond | ⟨_, _, newSecond⟩
    · exact absurd ⟨starts, idle, second, oldSecond⟩ apart
    · exact newFirst.trans newSecond.symm

theorem AtMostOneUnaware.canRunAgain (single : refresher.AtMostOneUnaware) {first second : Nat}
    (isFirst : refresher.CanRunAgain longest name first)
    (isSecond : refresher.CanRunAgain longest name second) : first = second :=
  single first second isFirst.hasUnaware isSecond.hasUnaware

/-- A start that overlaps leaves two loops that can run again. -/
theorem Overlaps.canRunAgain {action : Action} (overlaps : refresher.Overlaps action)
    (bears : refresher.Bears longest name) :
    ∃ first second, first ≠ second ∧
      (refresher.act longest name action).CanRunAgain longest name first ∧
      (refresher.act longest name action).CanRunAgain longest name second := by
  obtain ⟨⟨caller, rfl⟩, idle, number, worker, known, unaware⟩ := overlaps
  have present : number < refresher.workers.length := (List.getElem?_eq_some_iff.mp known).1
  have started : (refresher.act longest name (.start caller)).signalled = false ∧
      (refresher.act longest name (.start caller)).workers =
        refresher.workers ++ [({} : Worker)] := by
    simp [Refresher.act, start, idle]
  have old : (refresher.act longest name (.start caller)).HasUnaware number := by
    refine ⟨worker, ?_, unaware⟩
    rw [started.2, List.getElem?_append_left present, known]
  have new : (refresher.act longest name (.start caller)).HasUnaware refresher.workers.length := by
    refine ⟨{}, ?_, rfl, ?_⟩
    · rw [started.2, List.getElem?_concat_length]
    · rintro ⟨woken, _⟩
      cases woken
  exact ⟨number, refresher.workers.length, by omega,
    old.canRunAgain started.1 (bears.act _), new.canRunAgain started.1 (bears.act _)⟩

/-! ## Patience -/

/-- Nobody starts a loop while the end of another is awaited, nor gives up waiting for an
end, nor does the task of the known loop stop it. -/
def IsPatient (refresher : Refresher) : Action → Prop
  | .start _ => refresher.awaited = []
  | .forget caller => ∀ number, refresher.known = some number → caller ≠ some number
  | .leave _ _ timedOut => timedOut = false
  | .signal | .go _ => True

/-- Every loop that is not over is known, or its end is awaited. -/
def IsAccounted (refresher : Refresher) : Prop :=
  ∀ number, refresher.isAlive number = true →
    refresher.known = some number ∨ ∃ caller, (caller, number) ∈ refresher.awaited

theorem isAlive_iff :
    refresher.isAlive number = true ↔
      ∃ worker, refresher.workers[number]? = some worker ∧ worker.isAlive = true := by
  rw [isAlive, Option.any_eq_true]

theorem isAlive_of_act (action : Action)
    (alive : (refresher.act longest name action).isAlive number = true) :
    refresher.isAlive number = true ∨
      (∃ caller, action = .start caller) ∧ refresher.isRunning = false ∧
        number = refresher.workers.length := by
  obtain ⟨worker, known, alive⟩ := isAlive_iff.mp alive
  rw [isAlive_iff]
  exact before_of_act (fun _ _ _ => Worker.alive_of_step) (fun _ => Worker.alive_of_wake)
    action known alive

theorem IsAccounted.all_over (accounted : refresher.IsAccounted)
    (idle : refresher.isRunning = false) (settled : refresher.awaited = []) :
    refresher.isAlive number = false := by
  by_contra alive
  rw [Bool.not_eq_false] at alive
  rcases accounted number alive with known | ⟨caller, awaited⟩
  · rw [isRunning, known, Option.any_some, alive] at idle
    cases idle
  · rw [settled] at awaited
    cases awaited

theorem IsAccounted.act (accounted : refresher.IsAccounted) {action : Action}
    (patient : refresher.IsPatient action) :
    (refresher.act longest name action).IsAccounted := by
  intro number alive
  rcases isAlive_of_act action alive with before | ⟨⟨caller, rfl⟩, idle, rfl⟩
  · have kept := accounted number before
    cases action with
    | signal => exact kept
    | go other =>
        simp only [Refresher.act]
        cases own : refresher.workers[other]? with
        | none => rwa [go_none own]
        | some worker => rwa [go_some own]
    | start caller =>
        simp only [Refresher.act, start]
        split
        · exact kept
        · next idle =>
            rw [accounted.all_over (by simpa using idle) patient] at before
            cases before
    | forget caller =>
        simp only [Refresher.act, forget]
        split
        · exact kept
        · next other known =>
            rw [if_neg (patient other known)]
            refine .inr ?_
            rcases kept with same | ⟨waiting, awaited⟩
            · obtain rfl : other = number := Option.some.inj (known.symm.trans same)
              exact ⟨caller, List.mem_append_right _ List.mem_cons_self⟩
            · exact ⟨waiting, List.mem_append_left _ awaited⟩
    | leave caller other timedOut =>
        obtain rfl : timedOut = false := patient
        simp only [Refresher.act, leave]
        split
        · next ended =>
            refine kept.imp_right ?_
            rintro ⟨waiting, awaited⟩
            refine ⟨waiting, (List.mem_erase_of_ne ?_).mpr awaited⟩
            rintro ⟨⟩
            simp [before] at ended
        · exact kept
  · refine .inl ?_
    simp [Refresher.act, start, idle]

theorem IsAccounted.not_overlaps (accounted : refresher.IsAccounted) {action : Action}
    (patient : refresher.IsPatient action) : ¬ refresher.Overlaps action := by
  rintro ⟨⟨caller, rfl⟩, idle, number, worker, known, unaware⟩
  have alive := isAlive_iff.mpr ⟨worker, known, unaware.1⟩
  rw [accounted.all_over idle patient] at alive
  cases alive

/-! ## Results -/

theorem fresh_atMostOneUnaware (world : World Plan) : AtMostOneUnaware { world } := by
  rintro first second ⟨worker, known, _⟩
  cases known

theorem fresh_isAccounted (world : World Plan) : IsAccounted { world } := by
  intro number alive
  obtain ⟨worker, known, _⟩ := isAlive_iff.mp alive
  cases known

theorem fresh_bears (secondAllowed : 1 ≤ longest) {plan : Plan}
    (bearable : ∀ answer ∈ plan.answers, IsBearable longest answer) :
    Bears longest name { world := { state := plan } } := by
  constructor
  · intro number worker known
    cases known
  · rintro answer (given | rfl)
    · exact not_isBeyond_delay secondAllowed (bearable answer given)
    · exact not_isBeyond_fallback secondAllowed

theorem Bears.acts (bears : refresher.Bears longest name) (actions : List Action) :
    (refresher.acts longest name actions).Bears longest name := by
  induction actions generalizing refresher with
  | nil => exact bears
  | cons action rest induction => exact induction (bears.act action)

theorem IsCalledOff.acts (off : refresher.IsCalledOff) {actions : List Action}
    (noStart : ∀ action ∈ actions, ∀ caller, action ≠ .start caller) :
    (refresher.acts longest name actions).IsCalledOff := by
  induction actions generalizing refresher with
  | nil => exact off
  | cons action rest induction =>
      exact induction (off.act action (noStart action List.mem_cons_self))
        fun later member => noStart later (List.mem_cons_of_mem _ member)

/-- At most one loop can run again unless a start overlaps, and none after a stop.  A start
that does overlap leaves two.  None does if callers are patient. -/
theorem one_loop_at_a_time_unless_overlapping (longest : Nat) (name : Value) (plan : Plan) :
    let fresh : Refresher := { world := { state := plan } }
    (∀ actions, Allows longest name (fun refresher action => ¬ refresher.Overlaps action) fresh
        actions ∨ Allows longest name IsPatient fresh actions →
      ∀ first second, (fresh.acts longest name actions).CanRunAgain longest name first →
        (fresh.acts longest name actions).CanRunAgain longest name second → first = second) ∧
    (∀ actions caller, (fresh.acts longest name actions).Overlaps (.start caller) →
      1 ≤ longest → (∀ answer ∈ plan.answers, IsBearable longest answer) →
        ∃ first second, first ≠ second ∧
          (fresh.acts longest name (actions ++ [.start caller])).CanRunAgain longest name first ∧
          (fresh.acts longest name (actions ++ [.start caller])).CanRunAgain longest name second) ∧
    ∀ before after, (∀ action ∈ after, ∀ caller, action ≠ .start caller) →
      ∀ number, ¬ (fresh.acts longest name (before ++ .signal :: after)).CanRunAgain
        longest name number := by
  intro fresh
  refine ⟨?_, ?_, ?_⟩
  · intro actions allowed first second
    refine AtMostOneUnaware.canRunAgain ?_
    rcases allowed with apart | patient
    · exact apart.acts (fun _ _ single apart => single.act apart) (fresh_atMostOneUnaware _)
    · -- patience excludes overlaps only while every live loop is accounted for
      have both := patient.acts
        (fun refresher action (kept : refresher.IsAccounted ∧ refresher.AtMostOneUnaware) patient =>
          ⟨kept.1.act patient, kept.2.act (kept.1.not_overlaps patient)⟩)
        ⟨fresh_isAccounted _, fresh_atMostOneUnaware _⟩
      exact both.2
  · intro actions caller overlaps secondAllowed bearable
    have bears : (fresh.acts longest name actions).Bears longest name :=
      (fresh_bears secondAllowed bearable).acts actions
    have doubled := overlaps.canRunAgain bears
    unfold acts at doubled ⊢
    rw [List.foldl_append]
    exact doubled
  · intro before after noStart number
    have off : ((fresh.acts longest name before).act longest name .signal).IsCalledOff :=
      IsCalledOff.signal
    rw [acts, List.foldl_append]
    exact (off.acts noStart).not_canRunAgain number

/-- Half a minute between runs. -/
def halfMinutes : Refresher where
  world := { state := { interval := [.ok (.int 30)], task := [.ok .null] } }

/-- A start, a run, a stop that waits for the end of the loop, and a start again. -/
def politeActions : List Action :=
  .start none :: Action.rounds 0 1 ++ Action.stop 0 ++ [.start none]

/-- After a stop that saw the loop end, the loop of the second start is the only one. -/
theorem polite_restart_has_one_loop :
    Allows longestWait defaultName IsPatient halfMinutes politeActions ∧
      ∀ number, (halfMinutes.acts longestWait defaultName politeActions).CanRunAgain
        longestWait defaultName number ↔ number = 1 := by
  have patient : Allows longestWait defaultName IsPatient halfMinutes politeActions :=
    ⟨rfl, trivial, trivial, trivial, trivial, trivial, trivial, fun _ _ => by simp, trivial, rfl,
      rfl, trivial⟩
  have second : (halfMinutes.acts longestWait defaultName politeActions).CanRunAgain
      longestWait defaultName 1 :=
    ⟨[1, 1, 1], by decide⟩
  refine ⟨patient, fun number => ⟨fun again => ?_, by rintro rfl; exact second⟩⟩
  exact (one_loop_at_a_time_unless_overlapping longestWait defaultName _).1 politeActions
    (.inr patient) number 1 again second

/-- A task that stops its loop and starts one again goes on in two loops. -/
theorem task_that_restarts_has_two_loops :
    let running := halfMinutes.acts longestWait defaultName [.start none, .go 0, .go 0, .go 0]
    let restarted := running.acts longestWait defaultName
      [.signal, .forget (some 0), .start (some 0)]
    (running.loop 0).place = .due ∧
      restarted.CanRunAgain longestWait defaultName 0 ∧
      restarted.CanRunAgain longestWait defaultName 1 := by
  refine ⟨?_, ⟨[0, 0, 0, 0, 0], ?_⟩, ⟨[1, 1, 1], ?_⟩⟩
  · decide
  · decide
  · decide

end Refresher

end DiscoveryClient.Schedule
