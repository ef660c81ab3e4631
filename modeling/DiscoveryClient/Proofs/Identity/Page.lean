import DiscoveryClient.Identity.Scenario
import DiscoveryClient.Proofs.Identity.Closed
import Mathlib.Order.Defs.Unbundled

/-!
# What an action does to a page

A page shows the coordinator of a world and what is counted and gauged there,
but not the log, nor anything outside.  If all that a refresh asks leads from
one page to a related one, so does everything made from those questions, given
that the relation is reflexive and transitive.

A scenario takes steps of the coordinator in between.  A relation that also
holds for them, and for a refresh whenever it holds for its surroundings, holds
for scenarios of any depth.
-/

namespace DiscoveryClient.Identity

open Log

variable {σ α β : Type}

structure Page where
  coordinator : Coordinator
  counts : List Count
  lastChange : Double
  deriving Inhabited

def pageOf (world : World (Site σ)) : Page where
  coordinator := world.state.coordinator
  counts := world.journal.counts
  lastChange := world.journal.lastChange

/-- The page before an action and the one after it are always related. -/
def Turns (relation : Page → Page → Prop) (act : Act (Site σ) α) : Prop :=
  ∀ world, relation (pageOf world) (pageOf (act world).2)

/-- Nothing of what an action does is on the page. -/
def Unseen (act : Act (Site σ) α) : Prop :=
  ∀ world, pageOf (act world).2 = pageOf world

/-- All that a refresh asks turns the page by a relation. -/
structure Surroundings.AskTurning (relation : Page → Page → Prop)
    (surroundings : Surroundings σ) : Prop where
  hasMetadata : Turns relation surroundings.hasMetadata
  hostOrder : Turns relation surroundings.hostOrder
  ipOrder : Turns relation surroundings.ipOrder
  read : ∀ field, Turns relation (surroundings.read field)
  hostName : Turns relation surroundings.hostName
  ipAddress : Turns relation surroundings.ipAddress
  now : Turns relation surroundings.now

namespace Turns

variable {relation : Page → Page → Prop}

theorem atomically {step : Coordinator → α × Coordinator}
    (related : ∀ page : Page,
      relation page { page with coordinator := (step page.coordinator).2 }) :
    Turns relation (atomically step : Act (Site σ) α) :=
  fun world => related (pageOf world)

variable [IsPreorder Page relation]

theorem of_unseen {act : Act (Site σ) α} (unseen : Unseen act) : Turns relation act := by
  intro world
  rw [unseen world]
  exact refl_of relation _

theorem pure (value : α) : Turns relation (Pure.pure value : Act (Site σ) α) :=
  of_unseen fun _ => rfl

theorem log (event : Event) : Turns relation (Act.log event : Act (Site σ) Unit) :=
  of_unseen fun _ => rfl

theorem bind {first : Act (Site σ) α} {next : α → Act (Site σ) β}
    (firstTurns : Turns relation first) (nextTurns : ∀ value, Turns relation (next value)) :
    Turns relation (first >>= next) := by
  intro world
  exact trans_of relation (firstTurns world) (nextTurns (first world).1 (first world).2)

theorem withFields {block : Act (Site σ) α} (fields : Context)
    (blockTurns : Turns relation block) : Turns relation (Act.withFields fields block) :=
  bind (of_unseen fun _ => rfl) fun _ =>
    bind (of_unseen fun _ => rfl) fun _ =>
      bind blockTurns fun _ => bind (of_unseen fun _ => rfl) fun _ => pure _

theorem closed : Closed fun {_} (act : Act (Site σ) _) => Turns relation act where
  pure := pure
  bind := bind
  log := log
  coordinator := of_unseen fun _ => rfl

theorem andThen {first : Act (Site σ) (Except Failure α)}
    {next : α → Act (Site σ) (Except Failure β)}
    (firstTurns : Turns relation first) (nextTurns : ∀ value, Turns relation (next value)) :
    Turns relation (andThen first next) :=
  closed.andThen firstTurns nextTurns

theorem resolveCandidates {surroundings : Surroundings σ}
    (asks : surroundings.AskTurning relation) :
    Turns relation (resolveCandidates surroundings) :=
  closed.resolveCandidates
    ⟨asks.hasMetadata, asks.hostOrder, asks.ipOrder, asks.read, asks.hostName, asks.ipAddress⟩

theorem notifyAll {surroundings : Surroundings σ} {change : Change}
    (notify : ∀ listener, Turns relation (surroundings.notify listener change)) :
    Turns relation (notifyAll surroundings change) :=
  closed.notifyAll notify

theorem mapM {action : α → Act (Site σ) β}
    (each : ∀ item, Turns relation (action item)) (items : List α) :
    Turns relation (items.mapM action) := by
  induction items with
  | nil => exact pure []
  | cons item rest induction =>
      rw [List.mapM_cons]
      exact bind (each item) fun _ => bind induction fun _ => pure _

end Turns

/-! ## Scenarios -/

namespace Scenario

theorem stage_unseen : Unseen stage := fun _ => rfl

theorem modifyStage_unseen (change : Stage → Stage) : Unseen (modifyStage change) :=
  fun _ => rfl

theorem notice_unseen (told : Notice) : Unseen (notice told) := fun _ => rfl

variable {relation : Page → Page → Prop} [IsPreorder Page relation] {run : Runner}

section

variable (nested : ∀ steps, Turns relation (run steps))
include nested

theorem runHook_turns (occasion : Occasion) (side : Side) :
    Turns relation (runHook run occasion side) := by
  refine .bind (.of_unseen stage_unseen) ?_
  intro current
  refine .bind (.of_unseen (modifyStage_unseen _)) ?_
  intro _
  cases (Stage.takeHook occasion side current.hooks).1 with
  | none => exact .pure ()
  | some hook => exact .bind (nested hook.steps) fun _ => .of_unseen (notice_unseen _)

theorem answering_turns (occasion : Occasion) (failure? : Stage → Option Failure)
    {answer : Play α} (answerTurns : Turns relation answer) :
    Turns relation (answering run occasion failure? answer) := by
  refine .bind (runHook_turns nested occasion .before) ?_
  intro _
  refine .bind (.of_unseen stage_unseen) ?_
  intro current
  cases failure? current with
  | some failure => exact .pure _
  | none =>
      exact .bind answerTurns fun _ =>
        .bind (runHook_turns nested occasion .after) fun _ => .pure _

theorem callProvider_turns (occasion : Occasion) (failure? : Stage → Option Failure)
    (value : HostName.Fixed → Value) :
    Turns relation (callProvider run occasion failure? value) := by
  refine .bind (.of_unseen (notice_unseen _)) ?_
  intro _
  apply answering_turns nested
  exact .bind (.of_unseen (modifyStage_unseen _)) fun _ =>
    .bind (.of_unseen stage_unseen) fun _ => .pure _

theorem readMetadata_turns (key : MetadataField) : Turns relation (readMetadata run key) := by
  refine .bind (.of_unseen stage_unseen) ?_
  intro current
  split
  · apply answering_turns nested
    exact .bind (.of_unseen stage_unseen) fun _ => .pure _
  · exact .bind (.of_unseen stage_unseen) fun _ => .pure _

theorem callListener_turns (listener : ListenerId) (change : Change) :
    Turns relation (callListener run listener change) := by
  refine .bind (.of_unseen stage_unseen) ?_
  intro current
  refine .bind (.of_unseen (modifyStage_unseen _)) ?_
  intro _
  split
  · exact .bind (.of_unseen (notice_unseen _)) fun _ => .pure _
  · exact .bind (nested _) fun _ => .bind (.of_unseen (notice_unseen _)) fun _ => .pure _

theorem surroundings_askTurning (center : DataCenterKind) :
    (surroundings run center).AskTurning relation where
  hasMetadata := .of_unseen fun _ => rfl
  hostOrder := .of_unseen fun _ => rfl
  ipOrder := .of_unseen fun _ => rfl
  read := readMetadata_turns nested
  hostName := callProvider_turns nested _ _ _
  ipAddress := callProvider_turns nested _ _ _
  now := .of_unseen fun _ => rfl

end

/-! ### Steps of a scenario -/

/-- The relation holds for the steps of a coordinator that no refresh takes part in, and
for a refresh in a scenario if it holds for what is nested there. -/
structure Covers (relation : Page → Page → Prop) : Prop where
  refresh : ∀ {run : Runner}, (∀ steps, Turns relation (run steps)) →
    ∀ center, Turns relation (refresh (surroundings run center))
  clearDirty : ∀ (page : Page) asOf,
    relation page { page with coordinator := (page.coordinator.clearDirty asOf).2 }
  addListener : ∀ (page : Page) listener,
    relation page { page with coordinator := page.coordinator.addListener listener }
  removeListener : ∀ (page : Page) listener,
    relation page { page with coordinator := page.coordinator.removeListener listener }

theorem withFeed_turns (answer : MetadataFeed → Answer)
    (change : MetadataFeed → Except Failure MetadataFeed) :
    Turns relation (withFeed answer change) := by
  refine .bind (.of_unseen stage_unseen) ?_
  intro current
  cases current.feed with
  | none => exact .pure _
  | some feed =>
      cases outcome : change feed with
      | error failure => simpa only [outcome] using .pure _
      | ok changed =>
          simp only [outcome]
          exact .bind (.of_unseen (modifyStage_unseen _)) fun _ => .pure _

theorem changeProperties_turns (change : PropertyStore → Except Failure PropertyStore) :
    Turns relation (changeProperties change) := by
  refine .bind (.of_unseen stage_unseen) ?_
  intro current
  cases change current.properties with
  | error failure => exact .pure _
  | ok properties => exact .bind (.of_unseen (modifyStage_unseen _)) fun _ => .pure _

theorem withListener_turns {change : Coordinator → ListenerId → Coordinator}
    (related : ∀ (page : Page) listener,
      relation page { page with coordinator := change page.coordinator listener })
    (name : String) : Turns relation (withListener change name) := by
  refine .bind (.of_unseen stage_unseen) ?_
  intro current
  cases current.listener? name with
  | none => exact .pure _
  | some listener =>
      exact .bind (.atomically fun page => related page listener.id) fun _ => .pure _

section

variable (covers : Covers relation) (nested : ∀ steps, Turns relation (run steps))
include covers nested

theorem refreshChanges_turns (center : DataCenterKind) :
    Turns relation (refreshChanges (surroundings run center)) :=
  .andThen (covers.refresh nested center) fun _ => .pure _

theorem runOnce_turns (name : Value) (center : DataCenterKind) :
    Turns relation (Schedule.runOnce name (refreshChanges (surroundings run center))) := by
  refine .withFields _ (.bind (refreshChanges_turns covers nested center) ?_)
  intro result
  cases result with
  | ok changed => exact .pure ()
  | error failure => exact .of_unseen fun _ => rfl

theorem perform_turns (step : Step) : Turns relation (perform run step) := by
  refine .bind (.of_unseen stage_unseen) ?_
  intro current
  cases step with
  | refresh => exact .bind (covers.refresh nested _) fun _ => .pure _
  | refreshChanges => exact .bind (refreshChanges_turns covers nested _) fun _ => .pure _
  | runOnce => exact .bind (runOnce_turns covers nested _ _) fun _ => .pure _
  | clearDirty asOf =>
      exact .bind (.atomically fun page => covers.clearDirty page asOf) fun _ => .pure _
  | addListener name => exact withListener_turns covers.addListener name
  | removeListener name => exact withListener_turns covers.removeListener name
  | setMetadata values => exact withFeed_turns _ _
  | deleteMetadata field => exact withFeed_turns _ _
  | failMetadata failures => exact withFeed_turns _ _
  | setProperties values => exact changeProperties_turns _
  | removeProperty key => exact changeProperties_turns _
  | setProvider hostName ipAddress => exact .of_unseen fun _ => rfl
  | failProvider hostName ipAddress => exact .of_unseen fun _ => rfl
  | activity => exact .of_unseen fun _ => rfl
  | snapshot => exact .pure _
  | defineListener name failure steps => exact .of_unseen fun _ => rfl
  | hook occasion side steps => exact .of_unseen fun _ => rfl
  | unknown operation => exact .pure _

theorem report_turns (step : Step) : Turns relation (report run step) :=
  .bind (.of_unseen stage_unseen) fun _ =>
    .bind (.of_unseen (modifyStage_unseen _)) fun _ =>
      .bind (perform_turns covers nested step) fun _ =>
        .bind (.of_unseen stage_unseen) fun _ =>
          .bind (.of_unseen (modifyStage_unseen _)) fun _ =>
            .bind (.of_unseen fun _ => rfl) fun _ => .pure _

end

/-- However deep the steps of hooks and listeners are nested. -/
theorem runSteps_turns (covers : Covers relation) (depth : Nat) (steps : List Step) :
    Turns relation (runSteps depth steps) := by
  induction depth generalizing steps with
  | zero => exact .pure []
  | succ depth induction => exact .mapM (report_turns covers induction) steps

end Scenario

end DiscoveryClient.Identity
