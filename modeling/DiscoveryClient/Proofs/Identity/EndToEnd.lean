import DiscoveryClient.Proofs.Identity.AllOrNothing
import DiscoveryClient.Proofs.Identity.ChangeChain
import DiscoveryClient.Proofs.Identity.Environment
import DiscoveryClient.Proofs.Identity.NewestRefresh

/-!
# A refresh from end to end

In an environment that stands still, a refresh that no other overlaps is a
function of the environment and of the identity in place.  It puts the
candidates of the environment there if they differ, and if not, nothing has
happened to the identity, nor has anybody been asked for the time or told.

One thing can still come between.  A time that is too large for the gauge leaves
the candidates in place, but the refresh does not return.
-/

namespace DiscoveryClient.Identity

variable {σ : Type}

/-- Some run whose clock answers integers leads to the coordinator. -/
def Coordinator.Reached (coordinator : Coordinator) : Prop :=
  ∃ initial trace flights,
    (∃ first : Int, initial.lastUpdatedAt = .int first) ∧ Timely trace ∧
    Runs (.beginning initial) trace ⟨coordinator, flights⟩

namespace Coordinator.Reached

variable {coordinator : Coordinator} (reached : coordinator.Reached)
include reached

theorem timed : ∃ last : Int, coordinator.snapshot.lastUpdatedAt = .int last := by
  obtain ⟨_, _, _, start, timely, run⟩ := reached
  exact (run.chained start timely).timed

/-- The next refresh is not late, as long as no other begins. -/
theorem appliedSequence_le : coordinator.appliedSequence ≤ coordinator.lastSequence := by
  obtain ⟨_, _, _, _, _, run⟩ := reached
  rcases run.decided.inPlace with ⟨_, none, _⟩ | ⟨_, inForce, _⟩
  · rw [none]
    exact Nat.zero_le _
  · exact run.numbered.appliedStarted _ inForce

end Coordinator.Reached

/-! ## Refreshes that change nothing, and refreshes that do -/

/-- The refresh leaves the identity alone, without asking the clock or telling any
listener. -/
structure Unaffected (surroundings : Surroundings σ) (world : World (Site σ)) : Prop where
  leaves : LeavesIdentity surroundings world
  unasked : ∀ now notify,
    refresh { surroundings with now, notify } world = refresh surroundings world

/-- The refresh puts an identity in place of that at the end of its search, tells the
listeners of it, and returns. -/
def Tells (surroundings : Surroundings σ) (world : World (Site σ)) (current : Snapshot) :
    Prop :=
  (refresh surroundings world).1 = .ok .updated ∧
    ∃ told : World (Site σ),
      told.state.coordinator.snapshot = current ∧
      SameIdentity
        (notifyAll surroundings
          ⟨(sought surroundings world).state.coordinator.snapshot, current⟩ told
          ).2.state.coordinator
        (refresh surroundings world).2.state.coordinator

/-- The pair stays as it is. -/
def SamePair (before after : Coordinator) : Prop :=
  after.snapshot.candidates = before.snapshot.candidates

instance : IsPreorder Coordinator SamePair where
  refl _ := rfl
  trans _ _ _ first second := Eq.trans second first

/-- A refresh that has its number has asked an environment for candidates, while
nothing but the mark and the listeners changed beside it. -/
structure Search (surroundings : Surroundings σ) (environment : Environment)
    (world asked searched : World (Site σ)) : Prop where
  capable : surroundings.hasMetadata world = (true, asked)
  search : resolveCandidates surroundings (begun surroundings.dataCenter asked) =
    (environment.candidates, searched)
  kept : Beside world.state.coordinator asked.state.coordinator
  keptOn : Beside asked.state.coordinator.start.2 searched.state.coordinator

namespace Search

variable {surroundings : Surroundings σ} {environment : Environment}
  {world asked searched : World (Site σ)} {found : Candidates}
  (search : Search surroundings environment world asked searched)
include search

theorem sought_eq : sought surroundings world = searched := by
  rw [sought_capable search.capable, search.search]

theorem snapshot :
    ∃ dirty, searched.state.coordinator.snapshot =
      { world.state.coordinator.snapshot with dirty } := by
  obtain ⟨_, _, asked⟩ := search.kept
  obtain ⟨dirty, _, searched⟩ := search.keptOn
  refine ⟨dirty, ?_⟩
  rw [searched, asked]
  rfl

theorem candidates :
    searched.state.coordinator.snapshot.candidates =
      world.state.coordinator.snapshot.candidates :=
  search.keptOn.candidates.trans search.kept.candidates

theorem lastUpdatedAt :
    searched.state.coordinator.snapshot.lastUpdatedAt =
      world.state.coordinator.snapshot.lastUpdatedAt :=
  search.keptOn.lastUpdatedAt.trans search.kept.lastUpdatedAt

/-- The refresh is not late, so only the pair decides whether it changes anything. -/
theorem wouldChange (reached : world.state.coordinator.Reached) :
    searched.state.coordinator.wouldChange asked.state.coordinator.start.1 found =
      !found.agree world.state.coordinator.snapshot.candidates := by
  have inTime : searched.state.coordinator.appliedSequence ≤
      asked.state.coordinator.start.1 := by
    calc searched.state.coordinator.appliedSequence
      _ = world.state.coordinator.appliedSequence :=
        search.keptOn.appliedSequence.trans search.kept.appliedSequence
      _ ≤ world.state.coordinator.lastSequence := reached.appliedSequence_le
      _ = asked.state.coordinator.lastSequence := search.kept.lastSequence.symm
      _ ≤ asked.state.coordinator.start.1 := Nat.le_succ _
  simp [Coordinator.wouldChange, inTime, search.candidates]

/-- Neither the clock nor the listeners take part in the search. -/
theorem askingOthers (now : Act (Site σ) (Except Failure Value))
    (notify : ListenerId → Change → Act (Site σ) (Except Failure Unit)) :
    Search { surroundings with now, notify } environment world asked searched :=
  ⟨search.capable, search.search, search.kept, search.keptOn⟩

theorem ends_failed {failure : Failure} (failed : environment.candidates = .error failure) :
    refresh surroundings world =
      (.ok .unchanged,
        placing (searched.state.coordinator.leave.finish .unchanged)
          (noting (leaving (refreshContext surroundings.dataCenter) asked.journal.context)
            (noting (fun journal =>
              (journal.count (.identity .failed)).log (refreshFailed failure)) searched))) := by
  have searching := search.search
  rw [failed] at searching
  exact refresh_capable search.capable (refreshAs_failed searching)

theorem ends_unchanged (reached : world.state.coordinator.Reached)
    (finds : environment.candidates = .ok found)
    (agrees : found.agree world.state.coordinator.snapshot.candidates = true) :
    refresh surroundings world =
      (.ok .unchanged,
        placing
          ((searched.state.coordinator.advance asked.state.coordinator.start.1
            ).leave.finish .unchanged)
          (noting (leaving (refreshContext surroundings.dataCenter) asked.journal.context)
            (noting (fun journal =>
                (journal.count (.identity .unchanged)).log (refreshUnchanged found))
              searched))) := by
  have searching := search.search
  rw [finds] at searching
  have same : searched.state.coordinator.wouldChange asked.state.coordinator.start.1 found =
      false := by
    rw [search.wouldChange reached, agrees]
    rfl
  exact refresh_capable search.capable (refreshAs_unchanged searching same)

theorem unaffected_of_failed {failure : Failure}
    (failed : environment.candidates = .error failure) : Unaffected surroundings world := by
  have whole := search.ends_failed failed
  constructor
  · refine ⟨by rw [whole], ?_⟩
    rw [search.sought_eq, whole]
    rfl
  · intro now notify
    exact ((search.askingOthers now notify).ends_failed failed).trans whole.symm

theorem unaffected_of_agree (reached : world.state.coordinator.Reached)
    (finds : environment.candidates = .ok found)
    (agrees : found.agree world.state.coordinator.snapshot.candidates = true) :
    Unaffected surroundings world := by
  have whole := search.ends_unchanged reached finds agrees
  constructor
  · refine ⟨by rw [whole], ?_⟩
    rw [search.sought_eq, whole]
    rfl
  · intro now notify
    exact ((search.askingOthers now notify).ends_unchanged reached finds agrees).trans whole.symm

/-! ### A change -/

theorem proposal {now : Except Failure Value} {clocked : World (Site σ)}
    (reached : world.state.coordinator.Reached)
    (finds : environment.candidates = .ok found)
    (differs : found.agree world.state.coordinator.snapshot.candidates = false)
    (read : surroundings.now searched = (now, clocked)) :
    Proposal surroundings asked.state.coordinator.start.1
      (begun surroundings.dataCenter asked) found searched now clocked := by
  have searching := search.search
  rw [finds] at searching
  refine ⟨searching, ?_, read⟩
  rw [search.wouldChange reached, differs]
  rfl

theorem timeOfChange (reading : Int) {last : Int}
    (lastUpdated : world.state.coordinator.snapshot.lastUpdatedAt = .int last) :
    searched.state.coordinator.timeOfChange (.ok (.int reading)) =
      .ok (.int (max reading last)) :=
  Coordinator.timeOfChange_int (search.lastUpdatedAt.trans lastUpdated)

variable {reading last : Int} {clocked : World (Site σ)}

theorem tells (reached : world.state.coordinator.Reached)
    (finds : environment.candidates = .ok found)
    (differs : found.agree world.state.coordinator.snapshot.candidates = false)
    (clock : Within Guarded surroundings.now)
    (read : surroundings.now searched = (.ok (.int reading), clocked))
    (lastUpdated : world.state.coordinator.snapshot.lastUpdatedAt = .int last)
    {gauge : Double} (fits : Double.ofInt? (max reading last) = some gauge) :
    Tells surroundings world (found.changedAt (.int (max reading last))) := by
  have proposal := search.proposal reached finds differs read
  have timed := search.timeOfChange reading lastUpdated
  let change : Change :=
    ⟨searched.state.coordinator.snapshot, found.changedAt (.int (max reading last))⟩
  let told : World (Site σ) := noting (recorded change gauge)
    (placing (clocked.state.coordinator.changed asked.state.coordinator.start.1 found
      (.int (max reading last))) clocked)
  have recordable : Quantity.ofValue change.current.lastUpdatedAt = .ok gauge := by
    simp [change, Candidates.changedAt, Quantity.ofValue, Quantity.ofNumber, fits]
  have ends := refreshAs_timed proposal clock timed
  rw [andThen_ok (recordChange_fits _ recordable)] at ends
  have whole := refresh_capable search.capable ends
  refine ⟨by rw [whole], told, rfl, ?_⟩
  rw [search.sought_eq, whole]
  rfl

theorem too_late_to_record (reached : world.state.coordinator.Reached)
    (finds : environment.candidates = .ok found)
    (differs : found.agree world.state.coordinator.snapshot.candidates = false)
    (clock : Within Guarded surroundings.now)
    (read : surroundings.now searched = (.ok (.int reading), clocked))
    (lastUpdated : world.state.coordinator.snapshot.lastUpdatedAt = .int last)
    (beyond : Double.ofInt? (max reading last) = none) :
    (refresh surroundings world).1 = .error .outOfRange ∧
      (refresh surroundings world).2.state.coordinator.snapshot =
        found.changedAt (.int (max reading last)) := by
  have proposal := search.proposal reached finds differs read
  have timed := search.timeOfChange reading lastUpdated
  have refused : Quantity.ofValue (.int (max reading last)) = .error .outOfRange := by
    simp [Quantity.ofValue, Quantity.ofNumber, beyond]
  exact refresh_unrecorded ⟨asked, search.capable, proposal⟩ clock timed refused

end Search

/-! ## In an environment -/

namespace Surroundings.Shows

variable {surroundings : Surroundings σ} {environment : Environment} {inPlace : σ → Prop}
  (shows : surroundings.Shows environment inPlace) {world : World (Site σ)}
  (there : inPlace world.state.outside)
include shows there

/-- Without metadata nothing but its absence has been learned. -/
theorem skipped (incapable : environment.hasMetadata = false) :
    LeavesIdentity surroundings world ∧
      Beside world.state.coordinator (sought surroundings world).state.coordinator ∧
      ∀ other : Surroundings σ, other.hasMetadata = surroundings.hasMetadata →
        refresh other world = refresh surroundings world := by
  obtain ⟨answer, kept, _⟩ := shows.hasMetadata world there
  rcases capability : surroundings.hasMetadata world with ⟨capable, asked⟩
  rw [capability] at answer kept
  obtain rfl : capable = false := answer.trans incapable
  have whole := refresh_skipped capability
  have ends := sought_skipped capability
  refine ⟨⟨by rw [whole], ?_⟩, ?_, ?_⟩
  · rw [whole, ends]
    rfl
  · rw [ends]
    exact kept
  · intro other same
    rw [whole]
    exact refresh_skipped (by rw [same]; exact capability)

/-- With metadata, the search finds what there is, and an integer is to be read from
the clock after it. -/
theorem search (capable : environment.hasMetadata = true) :
    ∃ asked searched,
      Search surroundings environment world asked searched ∧
      ∃ reading : Int, (surroundings.now searched).1 = .ok (.int reading) := by
  obtain ⟨answer, kept, thereStill⟩ := shows.hasMetadata world there
  rcases capability : surroundings.hasMetadata world with ⟨hasMetadata, asked⟩
  rw [capability] at answer kept thereStill
  obtain rfl : hasMetadata = true := answer.trans capable
  obtain ⟨found, keptOn, thereAtEnd⟩ :=
    shows.resolveCandidates (begun surroundings.dataCenter asked) thereStill
  rcases searching : Identity.resolveCandidates surroundings (begun surroundings.dataCenter asked)
    with ⟨candidates, searched⟩
  rw [searching] at found keptOn thereAtEnd
  obtain rfl : candidates = environment.candidates := found
  exact ⟨asked, searched, ⟨capability, searching, kept, keptOn⟩,
    (shows.now searched thereAtEnd).1⟩

/-- After a refresh whose listeners keep the pair, the pair in place agrees with what
it found. -/
theorem agrees_afterwards (reached : world.state.coordinator.Reached)
    (capable : environment.hasMetadata = true) {found : Candidates}
    (finds : environment.candidates = .ok found) (comparable : found.agree found = true)
    (notify : ∀ listener change, Within SamePair (surroundings.notify listener change)) :
    found.agree (refresh surroundings world).2.state.coordinator.snapshot.candidates = true := by
  obtain ⟨asked, searched, search, reading, answer⟩ := shows.search there capable
  obtain ⟨last, lastUpdated⟩ := reached.timed
  rcases read : surroundings.now searched with ⟨now, clocked⟩
  rw [read] at answer
  obtain rfl : now = .ok (.int reading) := answer
  cases agrees : found.agree world.state.coordinator.snapshot.candidates with
  | true =>
      obtain ⟨_, same⟩ := (search.unaffected_of_agree reached finds agrees).leaves
      rw [search.sought_eq] at same
      rw [same, search.candidates]
      exact agrees
  | false =>
      cases fits : Double.ofInt? (max reading last) with
      | none =>
          rw [(search.too_late_to_record reached finds agrees shows.clock read lastUpdated
            fits).2]
          exact comparable
      | some gauge =>
          obtain ⟨_, told, inPlaceThen, same⟩ :=
            search.tells reached finds agrees shows.clock read lastUpdated fits
          have telling : ∀ change, Within SamePair (notifyAll surroundings change) :=
            fun change => Within.notifyAll fun listener => notify listener change
          have kept : SamePair told.state.coordinator
              (refresh surroundings world).2.state.coordinator :=
            (congrArg Snapshot.candidates same).trans (telling _ told)
          rw [kept, inPlaceThen]
          exact comparable

end Surroundings.Shows

/-- The surroundings of the worlds with another pair to find. -/
def newPairEnvironment : Environment :=
  (changingWorld (.frozen (.int 5))).state.outside.environment

theorem changingWorld_stands {clock : Clock} (counts : clock.CountsIntegers) :
    (changingWorld clock).state.outside.Stands newPairEnvironment :=
  ⟨rfl, rfl, counts⟩

theorem changingWorld_reached (clock : Clock) :
    (changingWorld clock).state.coordinator.Reached :=
  ⟨firstIdentity, [], [], ⟨0, rfl⟩, by simp [Timely], .stay⟩

/-- The coordinator once the new pair is in place. -/
theorem changed_reached :
    (refresh calm (changingWorld (.frozen (.int 5)))).2.state.coordinator.Reached := by
  let one : Coordinator := { snapshot := firstIdentity, lastSequence := 1, inFlight := 1 }
  have entered : Runs (.beginning firstIdentity) [.enter 1] ⟨one, [⟨1, .resolving⟩]⟩ :=
    .single .enter
  have resolved := entered.step (@Advances.resolve one [] [] 1 newPair)
  have applied := resolved.step (@Advances.apply one [] [] 1 newPair (.ok (.int 5)))
  have left := applied.step (@Advances.leave _ [] [] 1 .settled)
  exact ⟨firstIdentity, _, [], ⟨0, rfl⟩, by simp [Timely, Move.IsTimely],
    left.step (.finish .updated)⟩

end DiscoveryClient.Identity
