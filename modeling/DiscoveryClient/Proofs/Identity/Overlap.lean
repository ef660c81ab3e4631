import DiscoveryClient.Proofs.Identity.Ending
import DiscoveryClient.Proofs.Identity.Run

/-!
# Refreshes within refreshes

A refresh asks its surroundings, and they may take steps of the same coordinator
before they answer.  Whatever they do is a run, so the refresh as a whole is one
too: its own steps, with those of its surroundings between them.  This holds
again for surroundings that start refreshes, at any depth.
-/

namespace DiscoveryClient.Identity

open Log

variable {σ : Type}

/-- The second coordinator is reached from the first by a run that leaves the
refreshes under way where they are. -/
def Continues (before after : Coordinator) : Prop :=
  ∀ flights, ∃ moves, Runs ⟨before, flights⟩ moves ⟨after, flights⟩

instance : IsPreorder Coordinator Continues where
  refl _ _ := ⟨[], .stay⟩
  trans _ _ _ first second flights := by
    obtain ⟨earlier, before⟩ := first flights
    obtain ⟨later, after⟩ := second flights
    exact ⟨earlier ++ later, before.append after⟩

/-! ## Steps that no refresh takes part in -/

theorem continues_clearDirty (asOf : Option Value) (coordinator : Coordinator) :
    Continues coordinator (coordinator.clearDirty asOf).2 :=
  fun _ => ⟨_, .single (.clearDirty asOf)⟩

theorem continues_addListener (coordinator : Coordinator) (listener : ListenerId) :
    Continues coordinator (coordinator.addListener listener) :=
  fun _ => ⟨_, .single (.addListener listener)⟩

theorem continues_removeListener (coordinator : Coordinator) (listener : ListenerId) :
    Continues coordinator (coordinator.removeListener listener) :=
  fun _ => ⟨_, .single (.removeListener listener)⟩

/-! ## The moves of a refresh -/

/-- The moves of a refresh between its entry and its leave, by what its search comes to: it
fails, or resolves and applies.  Around its own there are moves of its surroundings. -/
inductive Settles (sequence : Nat) : Except Failure Candidates → List Move → Prop where
  | failed (failure : Failure) (searching : List Move) :
      Settles sequence (.error failure) (searching ++ [.fail sequence])
  | applied (found : Candidates) (now : Except Failure Value)
      (answer : Except Failure (Option Change)) (searching clocking telling : List Move) :
      Settles sequence (.ok found)
        (searching ++ .resolve sequence found ::
          (clocking ++ .apply sequence found now answer :: telling))

/-- What a refresh still does once it has left. -/
def closing : Except Failure Outcome → List Move
  | .ok outcome => [.finish outcome]
  | .error _ => []

/-- The moves of a refresh.  One that is skipped does nothing but remember that; any other
enters, settles and leaves. -/
inductive Makes (surroundings : Surroundings σ) (world : World (Site σ)) : List Move → Prop where
  | skipped {asked : World (Site σ)} (asking : List Move) :
      surroundings.hasMetadata world = (false, asked) →
      Makes surroundings world (asking ++ [.finish .unchanged])
  | settled {asked : World (Site σ)} {sequence : Nat} {inside : List Move} (asking : List Move) :
      surroundings.hasMetadata world = (true, asked) →
      asked.state.coordinator.start.1 = sequence →
      Settles sequence (resolveCandidates surroundings (begun surroundings.dataCenter asked)).1
        inside →
      Makes surroundings world
        (asking ++ .enter sequence ::
          (inside ++ .leave sequence :: closing (refresh surroundings world).1))

/-! ## A refresh as a run -/

/-- The surroundings of a refresh do nothing to its coordinator but take its steps. -/
structure Surroundings.Interleave (surroundings : Surroundings σ) : Prop where
  asks : surroundings.AskWithin Continues
  /-- The clock is read under the lock of the coordinator. -/
  clock : Within Guarded surroundings.now
  notify : ∀ listener change, Within Continues (surroundings.notify listener change)

section

variable {surroundings : Surroundings σ} (interleave : surroundings.Interleave)
  {sequence : Nat} {world : World (Site σ)}
include interleave

theorem search_runs {answer : Except Failure Candidates} {searched : World (Site σ)}
    (search : resolveCandidates surroundings world = (answer, searched))
    (flights : List Flight) :
    ∃ searching, Runs ⟨world.state.coordinator, flights⟩ searching
      ⟨searched.state.coordinator, flights⟩ := by
  have whole : Within Continues (resolveCandidates surroundings) :=
    Within.resolveCandidates interleave.asks
  obtain ⟨searching, run⟩ := whole world flights
  rw [search] at run
  exact ⟨searching, run⟩

/-- The application of a refresh, whatever is asked and told around it. -/
theorem Proposal.runs {found : Candidates} {searched clocked : World (Site σ)}
    {now : Except Failure Value}
    (proposal : Proposal surroundings sequence world found searched now clocked)
    (flights : List Flight) :
    ∃ searching clocking,
      Runs ⟨world.state.coordinator, flights ++ [⟨sequence, .resolving⟩]⟩
        (searching ++ .resolve sequence found ::
          (clocking ++
            [.apply sequence found now (clocked.state.coordinator.apply sequence found now).1]))
        ⟨(clocked.state.coordinator.apply sequence found now).2,
          flights ++ [⟨sequence, .settled⟩]⟩ := by
  obtain ⟨searching, searches⟩ :=
    search_runs interleave proposal.search (flights ++ [⟨sequence, .resolving⟩])
  obtain ⟨clocking, clocked⟩ :=
    interleave.asks.now _ (flights ++ [⟨sequence, .resolved found⟩])
  rw [proposal.read] at clocked
  have applied := (searches.append (.single (.resolve found))).append
    (clocked.append (.single (.apply now)))
  exact ⟨searching, clocking, by simpa using applied⟩

/-- From the number of a refresh to its end, whatever its candidates come to. -/
theorem Ending.runs {ended : World (Site σ)} {answer : Except Failure Outcome}
    (ending : Ending surroundings sequence world (answer, ended)) (flights : List Flight) :
    ∃ moves, Settles sequence (resolveCandidates surroundings world).1 moves ∧
      Runs ⟨world.state.coordinator, flights ++ [⟨sequence, .resolving⟩]⟩ moves
        ⟨ended.state.coordinator, flights ++ [⟨sequence, .settled⟩]⟩ := by
  cases ending with
  | failed search =>
      obtain ⟨searching, run⟩ :=
        search_runs interleave search (flights ++ [⟨sequence, .resolving⟩])
      rw [search]
      exact ⟨_, .failed _ _, run.append (.single .fail)⟩
  | @unchanged found _ search same =>
      obtain ⟨searching, run⟩ :=
        search_runs interleave search (flights ++ [⟨sequence, .resolving⟩])
      have applied := (run.append (.single (.resolve found))).append
        (.single (.apply (.ok (.int 0))))
      rw [Coordinator.apply_unchanged same, List.append_assoc] at applied
      rw [search]
      exact ⟨_, .applied _ (.ok (.int 0)) (.ok none) searching [] [], applied⟩
  | untimed proposal untimed =>
      obtain ⟨searching, clocking, run⟩ := proposal.runs interleave flights
      rw [proposal.apply_untimed interleave.clock untimed] at run
      rw [proposal.search]
      exact ⟨_, .applied _ _ _ searching clocking [], run⟩
  | unrecorded proposal timed _ =>
      obtain ⟨searching, clocking, run⟩ := proposal.runs interleave flights
      rw [proposal.apply_timed interleave.clock timed] at run
      rw [proposal.search]
      exact ⟨_, .applied _ _ _ searching clocking [], run⟩
  | @updated found _ clocked _ time _ change told proposal timed _ _ toldEq =>
      obtain ⟨searching, clocking, run⟩ := proposal.runs interleave flights
      rw [proposal.apply_timed interleave.clock timed] at run
      have tells : Within Continues (notifyAll surroundings change) :=
        Within.notifyAll fun listener => interleave.notify listener change
      obtain ⟨telling, toldRun⟩ := tells told (flights ++ [⟨sequence, .settled⟩])
      have inPlace : told.state.coordinator =
          clocked.state.coordinator.changed sequence found time := by
        rw [toldEq]
        rfl
      rw [inPlace] at toldRun
      rw [proposal.search]
      exact ⟨_, .applied _ _ _ searching clocking telling, by simpa using run.append toldRun⟩

/-- A refresh is a run, in which it makes its own moves. -/
theorem refresh_runs (world : World (Site σ)) (flights : List Flight) :
    ∃ moves, Makes surroundings world moves ∧
      Runs ⟨world.state.coordinator, flights⟩ moves
        ⟨(refresh surroundings world).2.state.coordinator, flights⟩ := by
  obtain ⟨asking, reached⟩ := interleave.asks.hasMetadata world flights
  rcases capability : surroundings.hasMetadata world with ⟨capable, asked⟩
  rw [capability] at reached
  cases capable with
  | false =>
      refine ⟨_, .skipped asking capability, ?_⟩
      rw [refresh_skipped capability]
      exact reached.append (.single (.finish .unchanged))
  | true =>
      let sequence := asked.state.coordinator.start.1
      have ending :=
        refreshAs_ending interleave.clock sequence (begun surroundings.dataCenter asked)
      rcases ends : refreshAs surroundings sequence (begun surroundings.dataCenter asked)
        with ⟨answer, ended⟩
      rw [ends] at ending
      obtain ⟨inside, settles, run⟩ := ending.runs interleave flights
      refine ⟨_, .settled asking capability rfl settles, ?_⟩
      have leaves := @Advances.leave ended.state.coordinator flights [] sequence .settled
      rw [List.append_nil] at leaves
      have left := (reached.append (.single .enter)).append (run.append (.single leaves))
      rw [refresh_capable capability ends]
      cases answer with
      | error failure =>
          rw [List.append_assoc] at left
          exact left
      | ok outcome =>
          have finished := left.append (.single (.finish outcome))
          simp only [List.append_assoc, List.cons_append, List.nil_append] at finished
          exact finished

end

theorem refresh_continues {surroundings : Surroundings σ}
    (interleave : surroundings.Interleave) : Within Continues (refresh surroundings) := by
  intro world flights
  obtain ⟨moves, _, run⟩ := refresh_runs interleave world flights
  exact ⟨moves, run⟩

/-! ## Scenarios -/

namespace Scenario

theorem surroundings_interleave {run : Runner}
    (nested : ∀ steps, Within Continues (run steps)) (center : DataCenterKind) :
    (surroundings run center).Interleave where
  asks := surroundings_askWithin nested center
  clock := fun _ => ⟨rfl, rfl⟩
  notify := callListener_within nested

theorem continues_covers : Covers (Within.OnPages Continues) where
  refresh nested center := refresh_continues (surroundings_interleave nested center)
  clearDirty page asOf := continues_clearDirty asOf page.coordinator
  addListener page := continues_addListener page.coordinator
  removeListener page := continues_removeListener page.coordinator

/-- However deep the steps of hooks and listeners are nested, they make one run. -/
theorem runSteps_continues (depth : Nat) (steps : List Step) :
    Within Continues (runSteps depth steps) :=
  within_iff_turns.mpr (runSteps_turns continues_covers depth steps)

end Scenario

end DiscoveryClient.Identity
