import DiscoveryClient.Proofs.Identity.AllOrNothing

/-!
# Telling the listeners

The listeners of a change are those registered when the telling starts.  Each is
called once for each of its registrations, in their order, in the world that the
call before it has left.  What a listener does there is its own, a further
refresh and an edit of the registrations included: the list that is gone through
is a copy.

A refresh that does not return has told nobody, though it may have changed the
identity.
-/

namespace DiscoveryClient.Identity

open Log

variable {σ : Type}

/-- One call of a listener, with the worlds before and after it. -/
structure Delivery (σ : Type) where
  listener : ListenerId
  before : World (Site σ)
  answer : Except Failure Unit
  after : World (Site σ)

/-- A failure is logged, in one event. -/
def Delivery.settled (delivery : Delivery σ) : World (Site σ) :=
  match delivery.answer with
  | .ok () => delivery.after
  | .error failure => noting (·.log (listenerFailed delivery.listener failure)) delivery.after

/-- Calls with one change, each in the world that the one before it has left. -/
inductive Delivers (surroundings : Surroundings σ) (change : Change) :
    World (Site σ) → List (Delivery σ) → World (Site σ) → Prop where
  | done {world} : Delivers surroundings change world [] world
  | deliver {delivery rest last} :
      surroundings.notify delivery.listener change delivery.before =
        (delivery.answer, delivery.after) →
      Delivers surroundings change delivery.settled rest last →
      Delivers surroundings change delivery.before (delivery :: rest) last

/-- The first of some listeners is called, and then the others are. -/
theorem notifyEach_cons {surroundings : Surroundings σ} {change : Change}
    {listener : ListenerId} {world after : World (Site σ)} {answer : Except Failure Unit}
    (called : surroundings.notify listener change world = (answer, after))
    (rest : List ListenerId) :
    notifyEach surroundings change (listener :: rest) world =
      notifyEach surroundings change rest
        (Delivery.settled ⟨listener, world, answer, after⟩) := by
  rw [notifyEach, bind_apply, called]
  cases answer with
  | ok _ => rfl
  | error failure => rfl

/-- Every listener of a list is called, whatever the calls before it came to. -/
theorem notifyEach_delivers (surroundings : Surroundings σ) (change : Change)
    (listeners : List ListenerId) (world : World (Site σ)) :
    ∃ deliveries, deliveries.map Delivery.listener = listeners ∧
      Delivers surroundings change world deliveries
        (notifyEach surroundings change listeners world).2 := by
  induction listeners generalizing world with
  | nil => exact ⟨[], rfl, .done⟩
  | cons listener rest induction =>
      rcases called : surroundings.notify listener change world with ⟨answer, after⟩
      let delivery : Delivery σ := ⟨listener, world, answer, after⟩
      obtain ⟨deliveries, listed, delivers⟩ := induction delivery.settled
      rw [notifyEach_cons called]
      exact ⟨delivery :: deliveries, by rw [List.map_cons, listed], .deliver called delivers⟩

/-! ## A refresh that tells nobody -/

theorem Proposal.tellingOthers {surroundings : Surroundings σ} {sequence : Nat}
    {world searched clocked : World (Site σ)} {found : Candidates}
    {now : Except Failure Value}
    (proposal : Proposal surroundings sequence world found searched now clocked)
    (notify : ListenerId → Change → Act (Site σ) (Except Failure Unit)) :
    Proposal { surroundings with notify } sequence world found searched now clocked :=
  ⟨proposal.search, proposal.changes, proposal.read⟩

/-- Only a refresh that ends as updated has asked for its listeners. -/
theorem refreshAs_untold {surroundings : Surroundings σ}
    (clock : Within Guarded surroundings.now) {sequence : Nat} {world : World (Site σ)}
    (quiet : (refreshAs surroundings sequence world).1 ≠ .ok .updated)
    (notify : ListenerId → Change → Act (Site σ) (Except Failure Unit)) :
    refreshAs { surroundings with notify } sequence world =
      refreshAs surroundings sequence world := by
  have ending := refreshAs_ending clock sequence world
  generalize refreshAs surroundings sequence world = result at ending quiet ⊢
  cases ending with
  | @failed failure searched search =>
      have others : resolveCandidates { surroundings with notify } world =
          (.error failure, searched) := search
      exact refreshAs_failed others
  | @unchanged found searched search same =>
      have others : resolveCandidates { surroundings with notify } world =
          (.ok found, searched) := search
      exact refreshAs_unchanged others same
  | untimed proposal untimed =>
      exact refreshAs_untimed (proposal.tellingOthers notify) clock untimed
  | unrecorded proposal timed refused =>
      exact refreshAs_unrecorded (proposal.tellingOthers notify) clock timed refused
  | updated => exact (quiet rfl).elim

theorem refresh_untold {surroundings : Surroundings σ}
    (clock : Within Guarded surroundings.now) {world : World (Site σ)}
    (quiet : (refresh surroundings world).1 ≠ .ok .updated)
    (notify : ListenerId → Change → Act (Site σ) (Except Failure Unit)) :
    refresh { surroundings with notify } world = refresh surroundings world := by
  rcases capability : surroundings.hasMetadata world with ⟨capable, asked⟩
  cases capable with
  | false =>
      have others : { surroundings with notify }.hasMetadata world = (false, asked) := capability
      rw [refresh_skipped capability, refresh_skipped others]
  | true =>
      have others : { surroundings with notify }.hasMetadata world = (true, asked) := capability
      rcases ends : refreshAs surroundings asked.state.coordinator.start.1
        (begun surroundings.dataCenter asked) with ⟨answer, ended⟩
      have whole := refresh_capable capability ends
      have quietInside : (refreshAs surroundings asked.state.coordinator.start.1
          (begun surroundings.dataCenter asked)).1 ≠ .ok .updated := by
        rw [ends]
        rw [whole] at quiet
        exact quiet
      have endsSo := (refreshAs_untold clock quietInside notify).trans ends
      rw [whole]
      exact refresh_capable others endsSo

/-! ## A refresh that tells its listeners -/

theorem Proposes.told {surroundings : Surroundings σ} {world searched clocked : World (Site σ)}
    {found : Candidates} {now : Except Failure Value}
    (proposes : Proposes surroundings world found searched now clocked)
    (clock : Within Guarded surroundings.now) (smooth : ¬Stumbles surroundings world) :
    ∃ time told deliveries last context,
      searched.state.coordinator.timeOfChange now = .ok time ∧
      told.state.coordinator.snapshot = found.changedAt time ∧
      told.state.coordinator.listeners = clocked.state.coordinator.listeners ∧
      deliveries.map Delivery.listener = told.state.coordinator.listeners ∧
      Delivers surroundings ⟨searched.state.coordinator.snapshot, found.changedAt time⟩ told
        deliveries last ∧
      refresh surroundings world =
        (.ok .updated,
          placing (last.state.coordinator.closed (.ok .updated))
            (noting (leaving (refreshContext surroundings.dataCenter) context) last)) := by
  rw [proposes.stumbles_iff] at smooth
  obtain ⟨asked, capable, proposal⟩ := proposes
  cases timed : searched.state.coordinator.timeOfChange now with
  | error failure => exact (smooth ⟨failure, by rw [timed]; rfl⟩).elim
  | ok time =>
      cases fits : Quantity.ofValue time with
      | error failure => exact (smooth ⟨failure, by rw [timed]; exact fits⟩).elim
      | ok gauge =>
          let change : Change :=
            ⟨searched.state.coordinator.snapshot, found.changedAt time⟩
          let told : World (Site σ) := noting (recorded change gauge)
            (placing (clocked.state.coordinator.changed asked.state.coordinator.start.1 found
              time) clocked)
          obtain ⟨deliveries, listed, delivers⟩ :=
            notifyEach_delivers surroundings change told.state.coordinator.listeners told
          have ends := refreshAs_timed proposal clock timed
          rw [andThen_ok (recordChange_fits _ fits)] at ends
          exact ⟨time, told, deliveries, _, asked.journal.context, rfl, rfl, rfl, listed,
            delivers, refresh_capable capable ends⟩

/-- A refresh returns as updated only if it has a change, and nothing came between. -/
theorem proposes_of_updated {surroundings : Surroundings σ}
    (clock : Within Guarded surroundings.now) {world : World (Site σ)}
    (updated : (refresh surroundings world).1 = .ok .updated) :
    (∃ found searched now clocked, Proposes surroundings world found searched now clocked) ∧
      ¬Stumbles surroundings world := by
  constructor
  · rcases refresh_cases clock world with stumbles | ⟨unchanged, _⟩ | ⟨_, replaces⟩
    · obtain ⟨found, searched, now, clocked, _, proposes, _⟩ := stumbles
      exact ⟨found, searched, now, clocked, proposes⟩
    · simp [unchanged] at updated
    · obtain ⟨found, searched, now, clocked, _, _, _, proposes, _⟩ := replaces
      exact ⟨found, searched, now, clocked, proposes⟩
  · intro stumbles
    obtain ⟨failure, raised⟩ := stumbles.error clock
    simp [raised] at updated

/-! ## What a scenario notices -/

/-- The call of a listener that a notice tells of. -/
def Notice.call? : Notice → Option (String × Change)
  | .listener name change _ => some (name, change)
  | _ => none

namespace Scenario

/-- Steps put the notices around them back. -/
theorem runSteps_notices (depth : Nat) (steps : List Step) (world : World (Site Stage)) :
    (runSteps depth steps world).2.state.outside.notices = world.state.outside.notices := by
  cases depth with
  | zero => rfl
  | succ depth =>
      change (steps.mapM (report (runSteps depth)) world).2.state.outside.notices = _
      induction steps generalizing world with
      | nil => rfl
      | cons step rest induction =>
          rw [List.mapM_cons, bind_apply, bind_apply]
          exact induction (report (runSteps depth) step world).2

theorem callListener_noticed (depth : Nat) (listener : ListenerId) (change : Change)
    (world : World (Site Stage)) :
    ∃ reports,
      (callListener (runSteps depth) listener change world).2.state.outside.notices =
        world.state.outside.notices ++ [.listener listener.name change reports] := by
  unfold callListener
  rw [stage_bind]
  rcases Stage.takeSteps listener world.state.outside.listeners with ⟨steps, failure, listeners⟩
  dsimp only
  rw [bind_apply]
  split
  · exact ⟨none, rfl⟩
  · rw [bind_apply]
    let taken := (modifyStage (fun stage => { stage with listeners }) world).2
    have kept := runSteps_notices depth steps taken
    exact ⟨some (runSteps depth steps taken).1, congrArg (· ++ [_]) kept⟩

/-- Each call leaves one notice, in the order of the calls. -/
theorem notifyEach_noticed (depth : Nat) (center : DataCenterKind) (change : Change)
    (listeners : List ListenerId) (world : World (Site Stage)) :
    ∃ told,
      (notifyEach (surroundings (runSteps depth) center) change listeners world
        ).2.state.outside.notices = world.state.outside.notices ++ told ∧
      told.map Notice.call? = listeners.map fun listener => some (listener.name, change) := by
  induction listeners generalizing world with
  | nil => exact ⟨[], (List.append_nil _).symm, rfl⟩
  | cons listener rest induction =>
      obtain ⟨reports, noticed⟩ := callListener_noticed depth listener change world
      rcases called : callListener (runSteps depth) listener change world with ⟨answer, after⟩
      rw [called] at noticed
      let delivery : Delivery Stage := ⟨listener, world, answer, after⟩
      obtain ⟨told, more, calls⟩ := induction delivery.settled
      have settled : delivery.settled.state.outside.notices = after.state.outside.notices := by
        cases answer with
        | ok _ => rfl
        | error failure => rfl
      refine ⟨.listener listener.name change reports :: told, ?_, ?_⟩
      · rw [notifyEach_cons called, more, settled, noticed, List.append_assoc]
        rfl
      · rw [List.map_cons, List.map_cons, calls]
        rfl

end Scenario

/-! ## Registrations -/

/-- What goes is the first registration, and only that. -/
theorem Coordinator.removeListener_cases (coordinator : Coordinator) (listener : ListenerId) :
    (listener ∉ coordinator.listeners ∧ coordinator.removeListener listener = coordinator) ∨
    ∃ before after, coordinator.listeners = before ++ listener :: after ∧
      listener ∉ before ∧
      coordinator.removeListener listener =
        { coordinator with listeners := before ++ after } := by
  by_cases registered : listener ∈ coordinator.listeners
  · obtain ⟨before, after, first, whole, rest⟩ := List.exists_erase_eq registered
    refine .inr ⟨before, after, whole, first, ?_⟩
    rw [removeListener, rest]
  · refine .inl ⟨registered, ?_⟩
    rw [removeListener, List.erase_of_not_mem registered]

/-- If a refresh has a change, the time for it and a place to record that, then it
puts the change in place, calls every listener that is registered there, once for
each registration and in their order, and returns as updated.  The calls follow one
another, so neither their failures nor what they do to the registrations keeps any
of them from being made, and each failure makes for one event.  In all other cases
nobody is told.  A scenario has a notice of each call, and of no other. -/
theorem listeners_told_in_order {surroundings : Surroundings σ}
    (clock : Within Guarded surroundings.now) (world : World (Site σ)) :
    (∀ found searched now clocked, Proposes surroundings world found searched now clocked →
      ¬Stumbles surroundings world →
      ∃ time told deliveries last context,
        searched.state.coordinator.timeOfChange now = .ok time ∧
        told.state.coordinator.snapshot = found.changedAt time ∧
        told.state.coordinator.listeners = clocked.state.coordinator.listeners ∧
        deliveries.map Delivery.listener = told.state.coordinator.listeners ∧
        Delivers surroundings ⟨searched.state.coordinator.snapshot, found.changedAt time⟩ told
          deliveries last ∧
        refresh surroundings world =
          (.ok .updated,
            placing (last.state.coordinator.closed (.ok .updated))
              (noting (leaving (refreshContext surroundings.dataCenter) context) last))) ∧
    ((refresh surroundings world).1 = .ok .updated →
      (∃ found searched now clocked,
        Proposes surroundings world found searched now clocked) ∧
      ¬Stumbles surroundings world) ∧
    ((refresh surroundings world).1 ≠ .ok .updated →
      ∀ notify, refresh { surroundings with notify } world = refresh surroundings world) ∧
    (∀ depth center change listeners world, ∃ told,
      (notifyEach (Scenario.surroundings (Scenario.runSteps depth) center) change listeners world
        ).2.state.outside.notices = world.state.outside.notices ++ told ∧
      told.map Notice.call? = listeners.map fun listener => some (listener.name, change)) ∧
    (∀ (coordinator : Coordinator) listener,
      (listener ∉ coordinator.listeners ∧
        coordinator.removeListener listener = coordinator) ∨
      ∃ before after, coordinator.listeners = before ++ listener :: after ∧
        listener ∉ before ∧
        coordinator.removeListener listener =
          { coordinator with listeners := before ++ after }) := by
  refine ⟨?_, proposes_of_updated clock, refresh_untold clock, Scenario.notifyEach_noticed,
    Coordinator.removeListener_cases⟩
  intro found searched now clocked proposes smooth
  exact proposes.told clock smooth

/-! ## Listeners that edit the list, and listeners that hear nothing -/

def firstListener : ListenerId := ⟨"first", 0⟩

def secondListener : ListenerId := ⟨"second", 1⟩

/-- The first listener is registered twice.  When called, it takes the second from the
list, starts a refresh, and fails. -/
def editedWorld (clock : Clock) : World (Site Stage) where
  state :=
    { coordinator :=
        { snapshot := firstIdentity
          listeners := [firstListener, secondListener, firstListener] }
      outside :=
        { (changingWorld clock).state.outside with
          listeners :=
            [ ⟨firstListener, some .wrongType, [.removeListener "second", .refresh]⟩,
              ⟨secondListener, none, []⟩ ] } }

theorem lively_clock : Within Guarded lively.now := fun _ => ⟨rfl, rfl⟩

theorem editedWorld_proposes (reading : Int) :
    Proposes lively (editedWorld (.frozen (.int reading))) newPair
      (sought lively (editedWorld (.frozen (.int reading)))) (.ok (.int reading))
      (lively.now (sought lively (editedWorld (.frozen (.int reading))))).2 :=
  ⟨_, rfl, rfl, rfl, rfl⟩

/-- All three registrations are served, though the second is gone by then. -/
theorem edited_list_is_told_in_full :
    Within Guarded lively.now ∧
    ¬Stumbles lively (editedWorld (.frozen (.int 5))) ∧
    (∃ told deliveries last,
      deliveries.map Delivery.listener = [firstListener, secondListener, firstListener] ∧
      Delivers lively ⟨firstIdentity, newPair.changedAt (.int 5)⟩ told deliveries last ∧
      (refresh lively (editedWorld (.frozen (.int 5)))).1 = .ok .updated) ∧
    (refresh lively (editedWorld (.frozen (.int 5)))).2.state.coordinator.listeners =
      [firstListener, firstListener] := by
  have proposes := editedWorld_proposes 5
  have smooth : ¬Stumbles lively (editedWorld (.frozen (.int 5))) := by
    rw [proposes.stumbles_iff]
    rintro ⟨failure, fails⟩
    cases fails
  obtain ⟨tells, _⟩ := listeners_told_in_order lively_clock (editedWorld (.frozen (.int 5)))
  obtain ⟨time, told, deliveries, last, _, timed, _, registered, listed, delivers, whole⟩ :=
    tells _ _ _ _ proposes smooth
  obtain rfl : .int 5 = time := Except.ok.inj timed
  rw [registered] at listed
  refine ⟨lively_clock, smooth, ⟨told, deliveries, last, listed, delivers, by rw [whole]⟩, ?_⟩
  decide +kernel

/-- The new pair is in place, but no listener takes part in what the refresh does. -/
theorem change_beyond_doubles_is_told_nobody :
    (editedWorld (.frozen (.int beyondDoubles))).state.coordinator.listeners =
      [firstListener, secondListener, firstListener] ∧
    Proposes lively (editedWorld (.frozen (.int beyondDoubles))) newPair
      (sought lively (editedWorld (.frozen (.int beyondDoubles)))) (.ok (.int beyondDoubles))
      (lively.now (sought lively (editedWorld (.frozen (.int beyondDoubles))))).2 ∧
    (refresh lively (editedWorld (.frozen (.int beyondDoubles)))).2.state.coordinator.snapshot =
      newPair.changedAt (.int beyondDoubles) ∧
    (refresh lively (editedWorld (.frozen (.int beyondDoubles)))).1 ≠ .ok .updated ∧
    ∀ notify, refresh { lively with notify } (editedWorld (.frozen (.int beyondDoubles))) =
      refresh lively (editedWorld (.frozen (.int beyondDoubles))) := by
  have proposes := editedWorld_proposes beyondDoubles
  obtain ⟨raised, inPlace⟩ := refresh_unrecorded proposes lively_clock
    (timeOfChange_beyondDoubles rfl) beyondDoubles_refused
  have quiet : (refresh lively (editedWorld (.frozen (.int beyondDoubles)))).1 ≠ .ok .updated := by
    rw [raised]
    simp
  exact ⟨rfl, proposes, inPlace, quiet, refresh_untold lively_clock quiet⟩

end DiscoveryClient.Identity
