import DiscoveryClient.Proofs.Identity.Page

/-!
# What an action does to the coordinator

An action works within a relation if the coordinator before it and the one
after it are always related.  The coordinator is on the page, so for a reflexive
and transitive relation this carries over from the questions of a refresh to
everything made from them.
-/

namespace DiscoveryClient.Identity

variable {σ α : Type} {relation : Coordinator → Coordinator → Prop}

def Within (relation : Coordinator → Coordinator → Prop) (act : Act (Site σ) α) : Prop :=
  ∀ world, relation world.state.coordinator (act world).2.state.coordinator

/-- The identity stays as it is. -/
def SameIdentity (before after : Coordinator) : Prop :=
  after.snapshot = before.snapshot

instance : IsPreorder Coordinator SameIdentity where
  refl _ := rfl
  trans _ _ _ first second := Eq.trans second first

/-- What the lock of a coordinator guards stays as it is. -/
def Guarded (before after : Coordinator) : Prop :=
  after.snapshot = before.snapshot ∧ after.appliedSequence = before.appliedSequence

namespace Guarded

variable {before after : Coordinator}

theorem wouldChange (guarded : Guarded before after) (sequence : Nat) (found : Candidates) :
    after.wouldChange sequence found = before.wouldChange sequence found := by
  obtain ⟨sameIdentity, sameSequence⟩ := guarded
  rw [Coordinator.wouldChange, sameIdentity, sameSequence]
  rfl

theorem timeOfChange (guarded : Guarded before after) (now : Except Failure Value) :
    after.timeOfChange now = before.timeOfChange now := by
  obtain ⟨sameIdentity, _⟩ := guarded
  rw [Coordinator.timeOfChange, sameIdentity]
  rfl

end Guarded

/-- All that a refresh asks works within a relation. -/
structure Surroundings.AskWithin (relation : Coordinator → Coordinator → Prop)
    (surroundings : Surroundings σ) : Prop where
  hasMetadata : Within relation surroundings.hasMetadata
  hostOrder : Within relation surroundings.hostOrder
  ipOrder : Within relation surroundings.ipOrder
  read : ∀ field, Within relation (surroundings.read field)
  hostName : Within relation surroundings.hostName
  ipAddress : Within relation surroundings.ipAddress
  now : Within relation surroundings.now

/-- The relation between the coordinators of two pages. -/
def Within.OnPages (relation : Coordinator → Coordinator → Prop) (before after : Page) : Prop :=
  relation before.coordinator after.coordinator

instance [IsPreorder Coordinator relation] : IsPreorder Page (Within.OnPages relation) where
  refl page := refl_of relation page.coordinator
  trans _ _ _ first second := trans_of relation first second

theorem within_iff_turns {act : Act (Site σ) α} :
    Within relation act ↔ Turns (Within.OnPages relation) act := Iff.rfl

theorem Surroundings.AskWithin.turning {surroundings : Surroundings σ}
    (asks : surroundings.AskWithin relation) :
    surroundings.AskTurning (Within.OnPages relation) :=
  ⟨asks.hasMetadata, asks.hostOrder, asks.ipOrder, asks.read, asks.hostName, asks.ipAddress,
    asks.now⟩

theorem Surroundings.AskWithin.of_turning {surroundings : Surroundings σ}
    (asks : surroundings.AskTurning (Within.OnPages relation)) :
    surroundings.AskWithin relation :=
  ⟨asks.hasMetadata, asks.hostOrder, asks.ipOrder, asks.read, asks.hostName, asks.ipAddress,
    asks.now⟩

section

variable [IsPreorder Coordinator relation]

theorem Within.pure (value : α) : Within relation (Pure.pure value : Act (Site σ) α) :=
  within_iff_turns.mpr (.pure value)

theorem Within.resolveCandidates {surroundings : Surroundings σ}
    (asks : surroundings.AskWithin relation) :
    Within relation (resolveCandidates surroundings) :=
  within_iff_turns.mpr (.resolveCandidates asks.turning)

theorem Within.notifyAll {surroundings : Surroundings σ} {change : Change}
    (notify : ∀ listener, Within relation (surroundings.notify listener change)) :
    Within relation (notifyAll surroundings change) :=
  within_iff_turns.mpr (.notifyAll notify)

/-! ## Scenarios -/

namespace Scenario

variable {run : Runner} (nested : ∀ steps, Within relation (run steps))
include nested

theorem callListener_within (listener : ListenerId) (change : Change) :
    Within relation (callListener run listener change) :=
  within_iff_turns.mpr
    (callListener_turns (fun steps => within_iff_turns.mp (nested steps)) listener change)

theorem surroundings_askWithin (center : DataCenterKind) :
    (surroundings run center).AskWithin relation :=
  .of_turning (surroundings_askTurning (fun steps => within_iff_turns.mp (nested steps)) center)

end Scenario

end

end DiscoveryClient.Identity
