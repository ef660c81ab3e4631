import DiscoveryClient.Proofs.Identity.Steps
import DiscoveryClient.Proofs.Identity.Within

/-!
# How a refresh ends

A refresh that has its number ends in one of five ways: without candidates,
without a change, without a time for its change, with a time that cannot be
recorded, or with a change that its listeners have been told of.  What its
surroundings do on the way is theirs; all else that happens is said here.
-/

namespace DiscoveryClient.Identity

open Log

variable {σ α β : Type}

/-- The world with its coordinator in another state. -/
def placing (coordinator : Coordinator) (world : World (Site σ)) : World (Site σ) :=
  { world with state := { world.state with coordinator } }

/-- The world with more in its journal. -/
def noting (write : Journal → Journal) (world : World (Site σ)) : World (Site σ) :=
  { world with journal := write world.journal }

/-- The journal with fields bound to what follows. -/
def entering (fields : Context) (journal : Journal) : Journal :=
  { journal with context := Context.enter fields journal.context }

/-- The journal with the fields of a block taken back. -/
def leaving (fields before : Context) (journal : Journal) : Journal :=
  { journal with context := Context.leave fields before journal.context }

/-! ## Actions in a world -/

theorem bind_apply (first : Act (Site σ) α) (next : α → Act (Site σ) β)
    (world : World (Site σ)) :
    (first >>= next) world = next (first world).1 (first world).2 := rfl

theorem coordinator_bind (next : Coordinator → Act (Site σ) α) (world : World (Site σ)) :
    (coordinator >>= next) world = next world.state.coordinator world := rfl

theorem Scenario.stage_bind (next : Stage → Play α) (world : World (Site Stage)) :
    (stage >>= next) world = next world.state.outside world := rfl

theorem withFields_apply {fields : Context} {block : Act (Site σ) α}
    {world after : World (Site σ)} {result : α}
    (ran : block (noting (entering fields) world) = (result, after)) :
    Act.withFields fields block world =
      (result, noting (leaving fields world.journal.context) after) := by
  change ((block (noting (entering fields) world)).1,
    noting (leaving fields world.journal.context)
      (block (noting (entering fields) world)).2) = _
  rw [ran]

theorem andThen_error {first : Act (Site σ) (Except Failure α)}
    {next : α → Act (Site σ) (Except Failure β)} {world after : World (Site σ)}
    {failure : Failure} (failed : first world = (.error failure, after)) :
    andThen first next world = (.error failure, after) := by
  unfold andThen
  rw [bind_apply, failed]
  rfl

theorem andThen_ok {first : Act (Site σ) (Except Failure α)}
    {next : α → Act (Site σ) (Except Failure β)} {world after : World (Site σ)}
    {value : α} (succeeded : first world = (.ok value, after)) :
    andThen first next world = next value after := by
  unfold andThen
  rw [bind_apply, succeeded]

theorem applyCandidates_same {surroundings : Surroundings σ} {sequence : Nat}
    {found : Candidates} {world : World (Site σ)}
    (same : world.state.coordinator.wouldChange sequence found = false) :
    applyCandidates surroundings sequence found world =
      (.ok none, placing (world.state.coordinator.advance sequence) world) := by
  unfold applyCandidates
  rw [coordinator_bind]
  simp only [same, Bool.false_eq_true, if_false]
  have unread : world.state.coordinator.apply sequence found (.ok (.int 0)) =
      (.ok none, world.state.coordinator.advance sequence) :=
    Coordinator.apply_unchanged same
  change ((world.state.coordinator.apply sequence found (.ok (.int 0))).1,
    placing (world.state.coordinator.apply sequence found (.ok (.int 0))).2 world) = _
  rw [unread]

/-- A refresh has found candidates that change the identity, and has asked the clock
for the time of the change. -/
structure Proposal (surroundings : Surroundings σ) (sequence : Nat) (world : World (Site σ))
    (found : Candidates) (searched : World (Site σ)) (now : Except Failure Value)
    (clocked : World (Site σ)) : Prop where
  search : resolveCandidates surroundings world = (.ok found, searched)
  changes : searched.state.coordinator.wouldChange sequence found = true
  read : surroundings.now searched = (now, clocked)

namespace Proposal

variable {surroundings : Surroundings σ} {sequence : Nat}
  {world searched clocked : World (Site σ)} {found : Candidates} {now : Except Failure Value}

/-- The clock is read under the lock, so what it guards is as it was. -/
theorem guarded (proposal : Proposal surroundings sequence world found searched now clocked)
    (clock : Within Guarded surroundings.now) :
    Guarded searched.state.coordinator clocked.state.coordinator := by
  simpa only [proposal.read] using clock searched

theorem applied (proposal : Proposal surroundings sequence world found searched now clocked) :
    applyCandidates surroundings sequence found searched =
      ((clocked.state.coordinator.apply sequence found now).1,
        placing (clocked.state.coordinator.apply sequence found now).2 clocked) := by
  unfold applyCandidates
  rw [coordinator_bind]
  simp only [proposal.changes, if_true]
  rw [bind_apply, proposal.read]
  rfl

theorem apply_timed (proposal : Proposal surroundings sequence world found searched now clocked)
    (clock : Within Guarded surroundings.now) {time : Value}
    (timed : searched.state.coordinator.timeOfChange now = .ok time) :
    clocked.state.coordinator.apply sequence found now =
      (.ok (some ⟨searched.state.coordinator.snapshot, found.changedAt time⟩),
        clocked.state.coordinator.changed sequence found time) := by
  have guarded := proposal.guarded clock
  have changes := proposal.changes
  rw [← guarded.wouldChange] at changes
  rw [← guarded.timeOfChange] at timed
  rw [Coordinator.apply_changed changes timed, guarded.1]

theorem apply_untimed (proposal : Proposal surroundings sequence world found searched now clocked)
    (clock : Within Guarded surroundings.now) {failure : Failure}
    (untimed : searched.state.coordinator.timeOfChange now = .error failure) :
    clocked.state.coordinator.apply sequence found now =
      (.error failure,
        clocked.state.coordinator.changed sequence found
          searched.state.coordinator.snapshot.lastUpdatedAt) := by
  have guarded := proposal.guarded clock
  have changes := proposal.changes
  rw [← guarded.wouldChange] at changes
  rw [← guarded.timeOfChange] at untimed
  rw [Coordinator.apply_untimed changes untimed, guarded.1]

end Proposal

theorem recordChange_refused {change : Change} {failure : Failure} (world : World (Site σ))
    (refused : Quantity.ofValue change.current.lastUpdatedAt = .error failure) :
    recordChange change world =
      (.error failure, noting (·.count (.identity .updated)) world) := by
  unfold recordChange
  simp only [refused]
  rfl

/-- The journal once a change is recorded under its time. -/
def recorded (change : Change) (lastChange : Double) (journal : Journal) : Journal :=
  { journal.count (.identity .updated) with lastChange }.log (refreshUpdated change)

theorem recordChange_fits {change : Change} {lastChange : Double} (world : World (Site σ))
    (fits : Quantity.ofValue change.current.lastUpdatedAt = .ok lastChange) :
    recordChange change world = (.ok (), noting (recorded change lastChange) world) := by
  unfold recordChange
  simp only [fits]
  rfl

/-! ## The five ways to end -/

section

variable {surroundings : Surroundings σ} {sequence : Nat}
  {world searched clocked : World (Site σ)} {found : Candidates} {now : Except Failure Value}
  {time : Value} {failure : Failure}

theorem refreshAs_failed
    (search : resolveCandidates surroundings world = (.error failure, searched)) :
    refreshAs surroundings sequence world =
      (.ok .unchanged,
        noting (fun journal =>
          (journal.count (.identity .failed)).log (refreshFailed failure)) searched) := by
  unfold refreshAs
  rw [bind_apply, search]
  rfl

theorem refreshAs_unchanged
    (search : resolveCandidates surroundings world = (.ok found, searched))
    (same : searched.state.coordinator.wouldChange sequence found = false) :
    refreshAs surroundings sequence world =
      (.ok .unchanged,
        noting (fun journal =>
            (journal.count (.identity .unchanged)).log (refreshUnchanged found))
          (placing (searched.state.coordinator.advance sequence) searched)) := by
  unfold refreshAs
  rw [bind_apply, search]
  dsimp only
  rw [andThen_ok (applyCandidates_same same)]
  rfl

theorem refreshAs_untimed
    (proposal : Proposal surroundings sequence world found searched now clocked)
    (clock : Within Guarded surroundings.now)
    (untimed : searched.state.coordinator.timeOfChange now = .error failure) :
    refreshAs surroundings sequence world =
      (.error failure,
        placing
          (clocked.state.coordinator.changed sequence found
            searched.state.coordinator.snapshot.lastUpdatedAt)
          clocked) := by
  have applied := proposal.applied
  rw [proposal.apply_untimed clock untimed] at applied
  unfold refreshAs
  rw [bind_apply, proposal.search]
  dsimp only
  rw [andThen_error applied]

theorem refreshAs_timed
    (proposal : Proposal surroundings sequence world found searched now clocked)
    (clock : Within Guarded surroundings.now)
    (timed : searched.state.coordinator.timeOfChange now = .ok time) :
    refreshAs surroundings sequence world =
      andThen (recordChange ⟨searched.state.coordinator.snapshot, found.changedAt time⟩)
        (fun _ => do
          notifyAll surroundings ⟨searched.state.coordinator.snapshot, found.changedAt time⟩
          return .ok .updated)
        (placing (clocked.state.coordinator.changed sequence found time) clocked) := by
  have applied := proposal.applied
  rw [proposal.apply_timed clock timed] at applied
  unfold refreshAs
  rw [bind_apply, proposal.search]
  dsimp only
  rw [andThen_ok applied]

theorem refreshAs_unrecorded
    (proposal : Proposal surroundings sequence world found searched now clocked)
    (clock : Within Guarded surroundings.now)
    (timed : searched.state.coordinator.timeOfChange now = .ok time)
    (refused : Quantity.ofValue time = .error failure) :
    refreshAs surroundings sequence world =
      (.error failure,
        noting (·.count (.identity .updated))
          (placing (clocked.state.coordinator.changed sequence found time) clocked)) := by
  rw [refreshAs_timed proposal clock timed, andThen_error (recordChange_refused _ refused)]

end

inductive Ending (surroundings : Surroundings σ) (sequence : Nat) (world : World (Site σ)) :
    Except Failure Outcome × World (Site σ) → Prop where
  | failed {failure : Failure} {searched : World (Site σ)} :
      resolveCandidates surroundings world = (.error failure, searched) →
      Ending surroundings sequence world
        (.ok .unchanged,
          noting (fun journal =>
            (journal.count (.identity .failed)).log (refreshFailed failure)) searched)
  | unchanged {found : Candidates} {searched : World (Site σ)} :
      resolveCandidates surroundings world = (.ok found, searched) →
      searched.state.coordinator.wouldChange sequence found = false →
      Ending surroundings sequence world
        (.ok .unchanged,
          noting (fun journal =>
              (journal.count (.identity .unchanged)).log (refreshUnchanged found))
            (placing (searched.state.coordinator.advance sequence) searched))
  | untimed {found : Candidates} {searched clocked : World (Site σ)}
      {now : Except Failure Value} {failure : Failure} :
      Proposal surroundings sequence world found searched now clocked →
      searched.state.coordinator.timeOfChange now = .error failure →
      Ending surroundings sequence world
        (.error failure,
          placing
            (clocked.state.coordinator.changed sequence found
              searched.state.coordinator.snapshot.lastUpdatedAt)
            clocked)
  | unrecorded {found : Candidates} {searched clocked : World (Site σ)}
      {now : Except Failure Value} {time : Value} {failure : Failure} :
      Proposal surroundings sequence world found searched now clocked →
      searched.state.coordinator.timeOfChange now = .ok time →
      Quantity.ofValue time = .error failure →
      Ending surroundings sequence world
        (.error failure,
          noting (·.count (.identity .updated))
            (placing (clocked.state.coordinator.changed sequence found time) clocked))
  | updated {found : Candidates} {searched clocked : World (Site σ)}
      {now : Except Failure Value} {time : Value} {lastChange : Double} {change : Change}
      {told : World (Site σ)} :
      Proposal surroundings sequence world found searched now clocked →
      searched.state.coordinator.timeOfChange now = .ok time →
      Quantity.ofValue time = .ok lastChange →
      change = ⟨searched.state.coordinator.snapshot, found.changedAt time⟩ →
      told = noting (recorded change lastChange)
        (placing (clocked.state.coordinator.changed sequence found time) clocked) →
      Ending surroundings sequence world
        (.ok .updated, (notifyAll surroundings change told).2)

theorem refreshAs_ending {surroundings : Surroundings σ}
    (clock : Within Guarded surroundings.now) (sequence : Nat) (world : World (Site σ)) :
    Ending surroundings sequence world (refreshAs surroundings sequence world) := by
  rcases search : resolveCandidates surroundings world with ⟨answer, searched⟩
  cases answer with
  | error failure =>
      rw [refreshAs_failed search]
      exact .failed search
  | ok found =>
      cases changes : searched.state.coordinator.wouldChange sequence found with
      | false =>
          rw [refreshAs_unchanged search changes]
          exact .unchanged search changes
      | true =>
          rcases read : surroundings.now searched with ⟨now, clocked⟩
          have proposal : Proposal surroundings sequence world found searched now clocked :=
            ⟨search, changes, read⟩
          cases timed : searched.state.coordinator.timeOfChange now with
          | error failure =>
              rw [refreshAs_untimed proposal clock timed]
              exact .untimed proposal timed
          | ok time =>
              cases fits : Quantity.ofValue time with
              | error failure =>
                  rw [refreshAs_unrecorded proposal clock timed fits]
                  exact .unrecorded proposal timed fits
              | ok lastChange =>
                  rw [refreshAs_timed proposal clock timed,
                    andThen_ok (recordChange_fits _ fits)]
                  exact .updated proposal timed fits rfl rfl

/-! ## The whole refresh -/

/-- The world in which a refresh begins its search. -/
def begun (center : DataCenterKind) (world : World (Site σ)) : World (Site σ) :=
  noting (entering (refreshContext center)) (placing world.state.coordinator.start.2 world)

/-- The coordinator once a refresh has left, with its outcome if there is one. -/
def Coordinator.closed (coordinator : Coordinator) : Except Failure Outcome → Coordinator
  | .ok outcome => coordinator.leave.finish outcome
  | .error _ => coordinator.leave

theorem refresh_skipped {surroundings : Surroundings σ} {world asked : World (Site σ)}
    (incapable : surroundings.hasMetadata world = (false, asked)) :
    refresh surroundings world =
      (.ok .unchanged,
        placing (asked.state.coordinator.finish .unchanged)
          (noting (·.count (.identity .skipped)) asked)) := by
  unfold refresh
  rw [bind_apply, incapable]
  rfl

theorem refresh_capable {surroundings : Surroundings σ} {world asked : World (Site σ)}
    (capable : surroundings.hasMetadata world = (true, asked))
    {answer : Except Failure Outcome} {ended : World (Site σ)}
    (ends : refreshAs surroundings asked.state.coordinator.start.1
      (begun surroundings.dataCenter asked) = (answer, ended)) :
    refresh surroundings world =
      (answer,
        placing (ended.state.coordinator.closed answer)
          (noting (leaving (refreshContext surroundings.dataCenter) asked.journal.context)
            ended)) := by
  have block : Act.withFields (refreshContext surroundings.dataCenter)
      (refreshAs surroundings (atomically Coordinator.start asked).1)
      (atomically Coordinator.start asked).2 =
        (answer, noting (leaving (refreshContext surroundings.dataCenter)
          asked.journal.context) ended) :=
    withFields_apply ends
  unfold refresh
  rw [bind_apply, capable]
  simp only [if_true]
  rw [bind_apply, bind_apply, block]
  cases answer with
  | error failure => rfl
  | ok outcome => rfl

end DiscoveryClient.Identity
