import DiscoveryClient.Proofs.Identity.Ending
import DiscoveryClient.Proofs.Identity.Run

/-!
# All or nothing

A refresh that returns has replaced all of the identity or left it as its
surroundings did.  It does not return exactly if it has a change to make and
finds no time for it, or a time that cannot be recorded.  The change is in
place all the same; without a time, under that of the change before.
-/

namespace DiscoveryClient.Identity

variable {σ : Type}

/-- The world in which a refresh has ended its search, or has learned that there
is no metadata to search. -/
def sought (surroundings : Surroundings σ) (world : World (Site σ)) : World (Site σ) :=
  let (capable, asked) := surroundings.hasMetadata world
  if capable then (resolveCandidates surroundings (begun surroundings.dataCenter asked)).2
  else asked

/-- The refresh has candidates that change the identity, and a reading of the clock. -/
def Proposes (surroundings : Surroundings σ) (world : World (Site σ)) (found : Candidates)
    (searched : World (Site σ)) (now : Except Failure Value) (clocked : World (Site σ)) : Prop :=
  ∃ asked, surroundings.hasMetadata world = (true, asked) ∧
    Proposal surroundings asked.state.coordinator.start.1 (begun surroundings.dataCenter asked)
      found searched now clocked

/-- The time of the change is missing, or does not fit where it is recorded. -/
def Stumbles (surroundings : Surroundings σ) (world : World (Site σ)) : Prop :=
  ∃ found searched now clocked failure,
    Proposes surroundings world found searched now clocked ∧
      (searched.state.coordinator.timeOfChange now >>= Quantity.ofValue) = .error failure

/-- The refresh returns, and the identity is that at the end of its search. -/
def LeavesIdentity (surroundings : Surroundings σ) (world : World (Site σ)) : Prop :=
  (refresh surroundings world).1 = .ok .unchanged ∧
    SameIdentity (sought surroundings world).state.coordinator
      (refresh surroundings world).2.state.coordinator

/-- The refresh returns, and the listeners have been told in a world with all of the
identity replaced. -/
def ReplacesIdentity (surroundings : Surroundings σ) (world : World (Site σ)) : Prop :=
  (refresh surroundings world).1 = .ok .updated ∧
    ∃ found searched now clocked time change told,
      Proposes surroundings world found searched now clocked ∧
      searched.state.coordinator.timeOfChange now = .ok time ∧
      change = ⟨searched.state.coordinator.snapshot, found.changedAt time⟩ ∧
      told.state.coordinator.snapshot = found.changedAt time ∧
      SameIdentity (notifyAll surroundings change told).2.state.coordinator
        (refresh surroundings world).2.state.coordinator

section

variable {surroundings : Surroundings σ} {world asked searched clocked : World (Site σ)}
  {found : Candidates} {now : Except Failure Value} {failure : Failure} {time : Value}

theorem sought_skipped (incapable : surroundings.hasMetadata world = (false, asked)) :
    sought surroundings world = asked := by
  simp [sought, incapable]

theorem sought_capable (capable : surroundings.hasMetadata world = (true, asked)) :
    sought surroundings world =
      (resolveCandidates surroundings (begun surroundings.dataCenter asked)).2 := by
  simp [sought, capable]

/-- Surroundings that keep their hands off the identity do so up to the end of the
search. -/
theorem sought_sameIdentity (asks : surroundings.AskWithin SameIdentity)
    (world : World (Site σ)) :
    SameIdentity world.state.coordinator (sought surroundings world).state.coordinator := by
  have asking := asks.hasMetadata world
  rcases capability : surroundings.hasMetadata world with ⟨capable, asked⟩
  rw [capability] at asking
  cases capable with
  | false =>
      rw [sought_skipped capability]
      exact asking
  | true =>
      rw [sought_capable capability]
      have searching := Within.resolveCandidates asks (begun surroundings.dataCenter asked)
      exact trans_of SameIdentity asking searching

/-! ## A refresh that does not return -/

theorem refresh_untimed (proposes : Proposes surroundings world found searched now clocked)
    (clock : Within Guarded surroundings.now)
    (untimed : searched.state.coordinator.timeOfChange now = .error failure) :
    (refresh surroundings world).1 = .error failure ∧
      (refresh surroundings world).2.state.coordinator.snapshot =
        found.changedAt searched.state.coordinator.snapshot.lastUpdatedAt := by
  obtain ⟨asked, capable, proposal⟩ := proposes
  rw [refresh_capable capable (refreshAs_untimed proposal clock untimed)]
  exact ⟨rfl, rfl⟩

theorem refresh_unrecorded (proposes : Proposes surroundings world found searched now clocked)
    (clock : Within Guarded surroundings.now)
    (timed : searched.state.coordinator.timeOfChange now = .ok time)
    (refused : Quantity.ofValue time = .error failure) :
    (refresh surroundings world).1 = .error failure ∧
      (refresh surroundings world).2.state.coordinator.snapshot = found.changedAt time := by
  obtain ⟨asked, capable, proposal⟩ := proposes
  rw [refresh_capable capable (refreshAs_unrecorded proposal clock timed refused)]
  exact ⟨rfl, rfl⟩

theorem Stumbles.error (stumbles : Stumbles surroundings world)
    (clock : Within Guarded surroundings.now) :
    ∃ failure, (refresh surroundings world).1 = .error failure := by
  obtain ⟨found, searched, now, clocked, failure, proposes, fails⟩ := stumbles
  cases timed : searched.state.coordinator.timeOfChange now with
  | error untimed => exact ⟨untimed, (refresh_untimed proposes clock timed).1⟩
  | ok time =>
      rw [timed] at fails
      exact ⟨failure, (refresh_unrecorded proposes clock timed fails).1⟩

/-- There is one proposal at most, so it decides whether the refresh stumbles. -/
theorem Proposes.stumbles_iff (proposes : Proposes surroundings world found searched now clocked) :
    Stumbles surroundings world ↔
      ∃ failure,
        (searched.state.coordinator.timeOfChange now >>= Quantity.ofValue) = .error failure := by
  constructor
  · rintro ⟨_, _, _, _, failure, ⟨asked, capable, proposal⟩, fails⟩
    obtain ⟨sameAsked, sameCapable, sameProposal⟩ := proposes
    rw [capable] at sameCapable
    cases sameCapable
    have sameSearch := sameProposal.search
    rw [proposal.search] at sameSearch
    cases sameSearch
    have sameRead := sameProposal.read
    rw [proposal.read] at sameRead
    cases sameRead
    exact ⟨failure, fails⟩
  · rintro ⟨failure, fails⟩
    exact ⟨found, searched, now, clocked, failure, proposes, fails⟩

/-! ## A refresh that returns -/

/-- The ending of a refresh among all that it does. -/
theorem Ending.returns
    (capable : surroundings.hasMetadata world = (true, asked))
    {answer : Except Failure Outcome} {ended : World (Site σ)}
    (ends : refreshAs surroundings asked.state.coordinator.start.1
      (begun surroundings.dataCenter asked) = (answer, ended))
    (ending : Ending surroundings asked.state.coordinator.start.1
      (begun surroundings.dataCenter asked) (answer, ended)) :
    Stumbles surroundings world ∨ LeavesIdentity surroundings world ∨
      ReplacesIdentity surroundings world := by
  have whole := refresh_capable capable ends
  have searchEnds := sought_capable capable
  cases ending with
  | failed search =>
      rw [search] at searchEnds
      refine .inr (.inl ⟨by rw [whole], ?_⟩)
      rw [whole, searchEnds]
      rfl
  | unchanged search same =>
      rw [search] at searchEnds
      refine .inr (.inl ⟨by rw [whole], ?_⟩)
      rw [whole, searchEnds]
      rfl
  | @untimed found searched clocked now failure proposal untimed =>
      exact .inl ⟨found, searched, now, clocked, failure, ⟨asked, capable, proposal⟩,
        by rw [untimed]; rfl⟩
  | @unrecorded found searched clocked now time failure proposal timed refused =>
      exact .inl ⟨found, searched, now, clocked, failure, ⟨asked, capable, proposal⟩,
        by rw [timed]; exact refused⟩
  | @updated found searched clocked now time _ change told proposal timed _ changeEq toldEq =>
      refine .inr (.inr ⟨by rw [whole], found, searched, now, clocked, time, change, told,
        ⟨asked, capable, proposal⟩, timed, changeEq, ?_, ?_⟩)
      · rw [toldEq]
        rfl
      · rw [whole]
        rfl

theorem refresh_cases (clock : Within Guarded surroundings.now) (world : World (Site σ)) :
    Stumbles surroundings world ∨ LeavesIdentity surroundings world ∨
      ReplacesIdentity surroundings world := by
  rcases capability : surroundings.hasMetadata world with ⟨capable, asked⟩
  cases capable with
  | false =>
      have whole := refresh_skipped capability
      refine .inr (.inl ⟨by rw [whole], ?_⟩)
      rw [whole, sought_skipped capability]
      rfl
  | true =>
      have ending := refreshAs_ending clock asked.state.coordinator.start.1
        (begun surroundings.dataCenter asked)
      rcases ends : refreshAs surroundings asked.state.coordinator.start.1
        (begun surroundings.dataCenter asked) with ⟨answer, ended⟩
      rw [ends] at ending
      exact ending.returns capability ends

end

/-- No steps are run while a refresh asks its questions. -/
def calm : Surroundings Stage :=
  Scenario.surroundings (fun _ => pure []) .amazon

/-- Hooks and listeners run their steps, but no others within them. -/
def lively : Surroundings Stage :=
  Scenario.surroundings (Scenario.runSteps 1) .amazon

/-- The provider has another pair than the identity. -/
def changingWorld (clock : Clock) : World (Site Stage) where
  state :=
    { coordinator := { snapshot := firstIdentity }
      outside := {
        center := .amazon none
        provider := ⟨newPair.hostName, newPair.ipAddress⟩
        clock } }

theorem calm_asks : calm.AskWithin SameIdentity :=
  Scenario.surroundings_askWithin (fun _ => .pure []) .amazon

theorem changingWorld_proposes (reading : Int) :
    Proposes calm (changingWorld (.frozen (.int reading))) newPair
      (sought calm (changingWorld (.frozen (.int reading)))) (.ok (.int reading))
      (calm.now (sought calm (changingWorld (.frozen (.int reading))))).2 :=
  ⟨_, rfl, rfl, rfl, rfl⟩

/-- The least power of two that is no double. -/
def beyondDoubles : Int := Nat.pow 2 1024

theorem beyondDoubles_refused :
    Quantity.ofValue (.int beyondDoubles) = .error .outOfRange := by
  have beyond : Double.ofInt? beyondDoubles = none := by decide +kernel
  simp only [Quantity.ofValue, Quantity.ofNumber, beyond, Option.elim_none]

theorem timeOfChange_beyondDoubles {coordinator : Coordinator}
    (lastUpdated : coordinator.snapshot.lastUpdatedAt = firstIdentity.lastUpdatedAt) :
    coordinator.timeOfChange (.ok (.int beyondDoubles)) = .ok (.int beyondDoubles) := by
  have later : max beyondDoubles 0 = beyondDoubles := by decide +kernel
  rw [Coordinator.timeOfChange_int lastUpdated, later]

/-- The clock answers, but with a time that cannot be recorded. -/
theorem changingWorld_beyondDoubles :
    (refresh calm (changingWorld (.frozen (.int beyondDoubles)))).1 = .error .outOfRange ∧
    (refresh calm (changingWorld (.frozen (.int beyondDoubles)))).2.state.coordinator.snapshot =
      newPair.changedAt (.int beyondDoubles) := by
  exact refresh_unrecorded (changingWorld_proposes beyondDoubles) (fun _ => ⟨rfl, rfl⟩)
    (timeOfChange_beyondDoubles rfl) beyondDoubles_refused

end DiscoveryClient.Identity
