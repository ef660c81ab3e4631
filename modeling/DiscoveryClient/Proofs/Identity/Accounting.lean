import DiscoveryClient.Proofs.Identity.AllOrNothing
import DiscoveryClient.Proofs.Identity.Books
import DiscoveryClient.Proofs.Identity.NewestRefresh
import DiscoveryClient.Proofs.Number.ExactInteger

/-!
# Refreshes are accounted for

A refresh that returns has counted itself once.  All else that is counted while
it is under way is counted by its surroundings, in which further refreshes may
be nested.  The gauge shows the last change that could be recorded, rounded to a
double, and a coordinator is refreshing as long as a refresh has entered and not
left.
-/

namespace DiscoveryClient.Identity

variable {σ : Type}

/-! ## How many refreshes are under way -/

/-- The coordinator counts the refreshes under way. -/
def State.IsCounted (state : State) : Prop :=
  state.coordinator.inFlight = state.flights.length

theorem Advances.isCounted {state next : State} {move : Move} (advance : Advances state move next)
    (counted : state.IsCounted) : next.IsCounted := by
  unfold State.IsCounted at counted ⊢
  cases advance with
  | enter => simpa [Coordinator.start] using counted
  | resolve found => simpa using counted
  | fail => simpa using counted
  | apply now => simpa using counted
  | leave =>
      simp only [List.length_append, List.length_cons, Coordinator.leave] at counted ⊢
      omega
  | finish outcome => exact counted
  | clearDirty asOf =>
      rcases Coordinator.clearDirty_cases _ asOf with ⟨_, _, ended⟩ | ended <;> rw [ended] <;>
        exact counted
  | look => exact counted
  | addListener listener => exact counted
  | removeListener listener => exact counted

theorem Runs.isCounted {start state : State} {trace : List Move} (run : Runs start trace state)
    (counted : start.IsCounted) : state.IsCounted := by
  induction run with
  | stay => exact counted
  | step _ advance induction => exact advance.isCounted induction

/-- What is booked leaves as many refreshes under way as there were. -/
theorem Booked.inFlight {before after : Page} (booked : Booked before after) :
    after.coordinator.inFlight = before.coordinator.inFlight := by
  obtain ⟨entries, accounts⟩ :=
    booked (List.replicate before.coordinator.inFlight ⟨0, .settled⟩)
  have counted : after.coordinator.inFlight = _ :=
    accounts.run.isCounted List.length_replicate.symm
  rw [counted]
  exact List.length_replicate

/-! ## Refreshes under way -/

/-- The refreshes under way are those that have entered and not left. -/
structure UnderWay (trace : List Move) (state : State) : Prop where
  entered : ∀ sequence, .enter sequence ∈ trace → sequence ≤ state.coordinator.lastSequence
  left : ∀ sequence, .leave sequence ∈ trace → .enter sequence ∈ trace
  members : ∀ sequence, sequence ∈ state.flights.map Flight.sequence ↔
    .enter sequence ∈ trace ∧ .leave sequence ∉ trace

namespace UnderWay

variable {trace : List Move} {coordinator next : Coordinator} {flights : List Flight}

theorem enter (underWay : UnderWay trace ⟨coordinator, flights⟩) :
    UnderWay (trace ++ [.enter coordinator.start.1])
      ⟨coordinator.start.2, flights ++ [⟨coordinator.start.1, .resolving⟩]⟩ := by
  obtain ⟨entered, left, members⟩ := underWay
  -- The number of the new refresh has never been used, so it has not left either.
  have fresh : .leave (coordinator.lastSequence + 1) ∉ trace := by
    intro member
    have started := entered _ (left _ member)
    exact Nat.not_succ_le_self _ started
  constructor
  · intro sequence member
    rcases List.mem_append.mp member with before | isNew
    · exact Nat.le_succ_of_le (entered sequence before)
    · obtain rfl : sequence = coordinator.start.1 := by simpa using isNew
      exact Nat.le_refl _
  · intro sequence member
    have before : .leave sequence ∈ trace := by simpa using member
    exact List.mem_append_left _ (left sequence before)
  · intro sequence
    rw [List.map_append, List.mem_append, members sequence]
    by_cases isNew : sequence = coordinator.lastSequence + 1
    · subst isNew
      simp [Coordinator.start, fresh]
    · simp [Coordinator.start, isNew]

theorem leave {older younger : List Flight} {sequence : Nat} {progress : Progress}
    (underWay : UnderWay trace ⟨coordinator, older ++ ⟨sequence, progress⟩ :: younger⟩)
    (numbered : Numbered trace ⟨coordinator, older ++ ⟨sequence, progress⟩ :: younger⟩) :
    UnderWay (trace ++ [.leave sequence]) ⟨coordinator.leave, older ++ younger⟩ := by
  obtain ⟨entered, left, members⟩ := underWay
  have ascending := numbered.ascending
  rw [List.map_append, List.map_cons, List.pairwise_append, List.pairwise_cons] at ascending
  obtain ⟨_, ⟨above, _⟩, below⟩ := ascending
  have notOlder : sequence ∉ older.map Flight.sequence := fun member =>
    Nat.lt_irrefl _ (below sequence member sequence List.mem_cons_self)
  have notYounger : sequence ∉ younger.map Flight.sequence := fun member =>
    Nat.lt_irrefl _ (above sequence member)
  have here : .enter sequence ∈ trace ∧ .leave sequence ∉ trace :=
    (members sequence).mp (by simp)
  constructor
  · intro other member
    exact entered other (by simpa using member)
  · intro other member
    rcases List.mem_append.mp member with before | isOwn
    · exact List.mem_append_left _ (left other before)
    · obtain rfl : other = sequence := by simpa using isOwn
      exact List.mem_append_left _ here.1
  · intro other
    by_cases isOwn : other = sequence
    · subst isOwn
      rw [List.map_append, List.mem_append]
      simp [notOlder, notYounger]
    · have before := members other
      rw [List.map_append, List.map_cons, List.mem_append, List.mem_cons] at before
      rw [List.map_append, List.mem_append]
      simpa [isOwn] using before

/-- Steps with which no refresh enters or leaves. -/
theorem aside {nextFlights : List Flight} {move : Move}
    (underWay : UnderWay trace ⟨coordinator, flights⟩)
    (noEntry : ∀ sequence, .enter sequence ≠ move)
    (noLeave : ∀ sequence, .leave sequence ≠ move)
    (sameFlights : nextFlights.map Flight.sequence = flights.map Flight.sequence)
    (sameNumbers : next.lastSequence = coordinator.lastSequence) :
    UnderWay (trace ++ [move]) ⟨next, nextFlights⟩ := by
  obtain ⟨entered, left, members⟩ := underWay
  have sameEntries : ∀ sequence, .enter sequence ∈ trace ++ [move] ↔ .enter sequence ∈ trace := by
    simp [noEntry]
  have sameLeaves : ∀ sequence, .leave sequence ∈ trace ++ [move] ↔ .leave sequence ∈ trace := by
    simp [noLeave]
  constructor
  · intro sequence member
    rw [sameNumbers]
    exact entered sequence ((sameEntries sequence).mp member)
  · intro sequence member
    rw [sameEntries]
    exact left sequence ((sameLeaves sequence).mp member)
  · intro sequence
    rw [sameFlights, sameEntries, sameLeaves]
    exact members sequence

theorem step {state after : State} {move : Move} (underWay : UnderWay trace state)
    (numbered : Numbered trace state) (advance : Advances state move after) :
    UnderWay (trace ++ [move]) after := by
  cases advance with
  | enter => exact underWay.enter
  | leave => exact underWay.leave numbered
  | resolve found => exact underWay.aside (by simp) (by simp) (by simp) rfl
  | fail => exact underWay.aside (by simp) (by simp) (by simp) rfl
  | apply now =>
      exact underWay.aside (by simp) (by simp) (by simp) Coordinator.apply_lastSequence
  | finish outcome => exact underWay.aside (by simp) (by simp) rfl rfl
  | clearDirty asOf =>
      rcases Coordinator.clearDirty_cases _ asOf with ⟨_, _, ended⟩ | ended
      · rw [ended]
        exact underWay.aside (by simp) (by simp) rfl rfl
      · rw [ended]
        exact underWay.aside (by simp) (by simp) rfl rfl
  | look => exact underWay.aside (by simp) (by simp) rfl rfl
  | addListener listener => exact underWay.aside (by simp) (by simp) rfl rfl
  | removeListener listener => exact underWay.aside (by simp) (by simp) rfl rfl

end UnderWay

theorem Runs.underWay {initial : Snapshot} {trace : List Move} {state : State}
    (run : Runs (.beginning initial) trace state) : UnderWay trace state := by
  induction run with
  | stay => constructor <;> simp [State.beginning]
  | step run advance induction => exact induction.step run.numbered advance

/-- The coordinator is refreshing exactly while a refresh has entered and not left. -/
theorem UnderWay.activity_iff {trace : List Move} {state : State}
    (underWay : UnderWay trace state) (counted : state.IsCounted) :
    state.coordinator.activity = .refreshing ↔
      ∃ sequence, .enter sequence ∈ trace ∧ .leave sequence ∉ trace := by
  have refreshing : state.coordinator.activity = .refreshing ↔
      state.flights.map Flight.sequence ≠ [] := by
    rw [Coordinator.activity, counted]
    cases state.flights <;> simp
  constructor
  · intro active
    obtain ⟨sequence, member⟩ := List.exists_mem_of_ne_nil _ (refreshing.mp active)
    exact ⟨sequence, (underWay.members sequence).mp member⟩
  · rintro ⟨sequence, entered⟩
    exact refreshing.mpr (List.ne_nil_of_mem ((underWay.members sequence).mpr entered))

/-! ## What a refresh counts itself as -/

/-- The counter that a refresh is due to increase. -/
def resultOf (surroundings : Surroundings σ) (world : World (Site σ)) : RefreshResult :=
  let (capable, asked) := surroundings.hasMetadata world
  if capable then
    match resolveCandidates surroundings (begun surroundings.dataCenter asked) with
    | (.error _, _) => .failed
    | (.ok found, searched) =>
        if searched.state.coordinator.wouldChange asked.state.coordinator.start.1 found then
          .updated
        else .unchanged
  else .skipped

/-- What is counted during a refresh is counted in its search and by its listeners, but
for one increment, which is its own. -/
def CountsItself (surroundings : Surroundings σ) (world : World (Site σ)) : Prop :=
  (resultOf surroundings world ≠ .updated →
    (refresh surroundings world).2.journal.counts =
      (sought surroundings world).journal.counts ++ [.identity (resultOf surroundings world)]) ∧
  (resultOf surroundings world = .updated →
    ∃ change told,
      told.journal.counts =
        (surroundings.now (sought surroundings world)).2.journal.counts ++
          [.identity .updated] ∧
      (refresh surroundings world).2.journal.counts =
        (notifyAll surroundings change told).2.journal.counts)

section

variable {surroundings : Surroundings σ} {world asked searched : World (Site σ)}
  {found : Candidates} {failure : Failure}

theorem resultOf_skipped (incapable : surroundings.hasMetadata world = (false, asked)) :
    resultOf surroundings world = .skipped := by
  simp [resultOf, incapable]

theorem resultOf_failed (capable : surroundings.hasMetadata world = (true, asked))
    (search : resolveCandidates surroundings (begun surroundings.dataCenter asked) =
      (.error failure, searched)) : resultOf surroundings world = .failed := by
  simp [resultOf, capable, search]

theorem resultOf_found (capable : surroundings.hasMetadata world = (true, asked))
    (search : resolveCandidates surroundings (begun surroundings.dataCenter asked) =
      (.ok found, searched)) :
    resultOf surroundings world =
      if searched.state.coordinator.wouldChange asked.state.coordinator.start.1 found then
        .updated
      else .unchanged := by
  simp [resultOf, capable, search]

end

/-- A refresh that returns has counted itself, and answers what it has counted. -/
theorem counts_itself {surroundings : Surroundings σ}
    (clock : Within Guarded surroundings.now) {world : World (Site σ)} {outcome : Outcome}
    (returns : (refresh surroundings world).1 = .ok outcome) :
    CountsItself surroundings world ∧
      (resultOf surroundings world = .updated ↔ outcome = .updated) := by
  rcases capability : surroundings.hasMetadata world with ⟨capable, asked⟩
  cases capable with
  | false =>
      have result := resultOf_skipped capability
      have whole := refresh_skipped capability
      rw [whole] at returns
      obtain rfl := Except.ok.inj returns
      refine ⟨⟨?_, ?_⟩, by simp [result]⟩
      · intro _
        rw [result, whole, sought_skipped capability]
        rfl
      · simp [result]
  | true =>
      have ending := refreshAs_ending clock asked.state.coordinator.start.1
        (begun surroundings.dataCenter asked)
      rcases ends : refreshAs surroundings asked.state.coordinator.start.1
        (begun surroundings.dataCenter asked) with ⟨answer, ended⟩
      rw [ends] at ending
      have whole := refresh_capable capability ends
      rw [whole] at returns
      have searchEnds := sought_capable capability
      cases ending with
      | failed search =>
          have result := resultOf_failed capability search
          obtain rfl := Except.ok.inj returns
          rw [search] at searchEnds
          refine ⟨⟨?_, ?_⟩, by simp [result]⟩
          · intro _
            rw [result, whole, searchEnds]
            rfl
          · simp [result]
      | unchanged search same =>
          have result := resultOf_found capability search
          rw [same] at result
          obtain rfl := Except.ok.inj returns
          rw [search] at searchEnds
          refine ⟨⟨?_, ?_⟩, by simp [result]⟩
          · intro _
            rw [result, whole, searchEnds]
            rfl
          · simp [result]
      | untimed => cases returns
      | unrecorded => cases returns
      | @updated found searched clocked now time _ change told proposal timed _ _ toldEq =>
          have result := resultOf_found capability proposal.search
          rw [proposal.changes] at result
          obtain rfl := Except.ok.inj returns
          rw [proposal.search] at searchEnds
          refine ⟨⟨?_, ?_⟩, by simp [result]⟩
          · simp [result]
          · intro _
            refine ⟨change, told, ?_, ?_⟩
            · rw [searchEnds, proposal.read, toldEq]
              rfl
            · rw [whole]
              rfl

theorem returns_cases {surroundings : Surroundings σ}
    (clock : Within Guarded surroundings.now) {world : World (Site σ)} {outcome : Outcome}
    (returns : (refresh surroundings world).1 = .ok outcome) :
    (outcome = .updated ∧ ReplacesIdentity surroundings world) ∨
      (outcome = .unchanged ∧ LeavesIdentity surroundings world) := by
  rcases refresh_cases clock world with stumbles | leaves | replaces
  · obtain ⟨failure, raised⟩ := stumbles.error clock
    rw [raised] at returns
    cases returns
  · have answer := leaves.1
    rw [returns] at answer
    exact .inr ⟨Except.ok.inj answer, leaves⟩
  · have answer := replaces.1
    rw [returns] at answer
    exact .inl ⟨Except.ok.inj answer, replaces⟩

/-- A refresh that has counted an update has replaced the identity, and any other that
returns has left it alone. -/
theorem returns_as_counted {surroundings : Surroundings σ}
    (clock : Within Guarded surroundings.now) {world : World (Site σ)} {outcome : Outcome}
    (returns : (refresh surroundings world).1 = .ok outcome) :
    (resultOf surroundings world = .updated → ReplacesIdentity surroundings world) ∧
      (resultOf surroundings world ≠ .updated → LeavesIdentity surroundings world) := by
  have updated := (counts_itself clock returns).2
  rcases returns_cases clock returns with ⟨isUpdated, replaces⟩ | ⟨unchanged, leaves⟩
  · exact ⟨fun _ => replaces, fun other => absurd (updated.mpr isUpdated) other⟩
  · refine ⟨fun result => ?_, fun _ => leaves⟩
    simp [updated.mp result] at unchanged

theorem refreshChanges_iff {surroundings : Surroundings σ} {world : World (Site σ)}
    {changed : Bool} :
    (refreshChanges surroundings world).1 = .ok changed ↔
      ∃ outcome, (refresh surroundings world).1 = .ok outcome ∧
        changed = decide (outcome = .updated) := by
  rcases ends : refresh surroundings world with ⟨answer, ended⟩
  unfold refreshChanges
  cases answer with
  | error failure =>
      rw [andThen_error ends]
      simp
  | ok outcome =>
      rw [andThen_ok ends]
      change Except.ok (decide (outcome = .updated)) = .ok changed ↔ _
      simp [eq_comm]

/-! ## What the gauge shows -/

theorem gauges_of_entries (entries : List Entry) :
    entries.filterMap Entry.gauge? = (changes (moves entries)).filterMap Change.gauge? := by
  rw [changes, moves, List.filterMap_filterMap, List.filterMap_filterMap]
  refine List.filterMap_congr fun entry _ => ?_
  cases entry with
  | step move => cases move.change? <;> rfl
  | skip => rfl

/-- The gauge shows the time of the latest change, if that is a small enough integer. -/
theorem gauged_exact {entries : List Entry} {change : Change} {time : Int}
    (latest : (changes (moves entries)).getLast? = some change)
    (timed : change.current.lastUpdatedAt = .int time)
    (bounded : time.natAbs ≤ Nat.pow 2 Double.precision) (before : Double) :
    Value.equals (.float (gauged before entries)) (.int time) = true := by
  obtain ⟨shown, exact, equal⟩ := Double.ofInt?_exact bounded
  have recorded : change.gauge? = some shown := by
    simp [Change.gauge?, timed, Quantity.ofValue, Quantity.ofNumber, exact, Except.toOption]
  obtain ⟨earlier, whole⟩ := List.getLast?_eq_some_iff.mp latest
  have shows : gauged before entries = shown := by
    rw [gauged, gauges_of_entries, whole, List.filterMap_append]
    simp [recorded]
  rw [shows]
  exact equal

/-! ## While a refresh is under way -/

/-- Whenever an action asks its surroundings, the coordinator is refreshing, with so many
refreshes under way. -/
def AsksRefreshing (surroundings : Surroundings σ) (underWay : Nat) {α : Type}
    (act : Act (Site σ) α) (world : World (Site σ)) : Prop :=
  (∃ beats, Course surroundings act world beats) ∧
  ∀ beats, Course surroundings act world beats →
    ∀ beat ∈ beats, ∀ reached, beat.world? = some reached →
      reached.state.coordinator.activity = .refreshing ∧
      reached.state.coordinator.inFlight = underWay

section

variable {surroundings : Surroundings σ} (keeps : surroundings.KeepBooks)
  {world asked : World (Site σ)} (capable : surroundings.hasMetadata world = (true, asked))
include keeps capable

theorem begun_inFlight :
    (begun surroundings.dataCenter asked).state.coordinator.inFlight =
      world.state.coordinator.inFlight + 1 := by
  have booked := (keeps.asks.hasMetadata world).inFlight
  rw [capable] at booked
  exact congrArg (· + 1) booked

/-- Whatever a refresh asks between its start and its end, listeners included, it is then
under way itself beside those that were so before. -/
theorem refreshAs_asksRefreshing :
    AsksRefreshing surroundings (world.state.coordinator.inFlight + 1)
      (refreshAs surroundings asked.state.coordinator.start.1)
      (begun surroundings.dataCenter asked) := by
  refine ⟨refreshAs_hasCourse surroundings _ _, ?_⟩
  intro beats course beat member reached asks
  have underWay : reached.state.coordinator.inFlight = world.state.coordinator.inFlight + 1 := by
    refine (@Course.throughout _ _ _ _ _ _
      (fun coordinator => coordinator.inFlight = world.state.coordinator.inFlight + 1)
      course ?_ ?_ ?_ (begun_inFlight keeps capable)).1 beat member reached asks
    · intro before same
      exact (keeps.asks.hasMetadata before).inFlight.trans same
    · intro question before same
      exact (keeps.ask question before).inFlight.trans same
    · intro coordinator sequence found now same
      exact Coordinator.apply_inFlight.trans same
  refine ⟨?_, underWay⟩
  rw [Coordinator.activity, underWay]
  rfl

end

/-! ## All that is on the books -/

/-- The ledger of a coordinator that begins with an identity. -/
def Ledger.opening (initial : Snapshot) (counts : List Count) (gauge : Double) : Ledger where
  page := ⟨{ snapshot := initial }, counts, gauge⟩

/-- A refresh that returns has increased the one counter that it was due to, answers
updated if that is the one for updates, and has then replaced the identity; else it
has left it alone.  On the books of any run, counted is what the entries come to, and
the gauge shows the latest change that was recorded, exactly for integers up to the
largest mantissa.  The coordinator is refreshing while a refresh has entered and not
left.  A refresh has entered before it asks for orders, metadata or the time, and leaves
when its listeners have been told, so all of them find the coordinator refreshing; once
it has ended, however it does, the coordinator is as active as before.  Books are kept
on scenarios, however deep their refreshes are nested. -/
theorem refreshes_are_accounted_for {surroundings : Surroundings σ}
    (keeps : surroundings.KeepBooks) {initial : Snapshot} {counts : List Count}
    {gauge : Double} {entries : List Entry} {flights : List Flight} {world : World (Site σ)}
    (accounts : Accounts (.opening initial counts gauge) entries ⟨pageOf world, flights⟩) :
    (∀ outcome, (refresh surroundings world).1 = .ok outcome →
      CountsItself surroundings world ∧
      (resultOf surroundings world = .updated ↔ outcome = .updated) ∧
      (resultOf surroundings world = .updated → ReplacesIdentity surroundings world) ∧
      (resultOf surroundings world ≠ .updated → LeavesIdentity surroundings world)) ∧
    (∀ changed, (refreshChanges surroundings world).1 = .ok changed →
      (changed = true ↔ resultOf surroundings world = .updated)) ∧
    (∃ more, Makes surroundings world (moves more) ∧
      Accounts (.opening initial counts gauge) (entries ++ more)
        ⟨pageOf (refresh surroundings world).2, flights⟩) ∧
    refreshCounts world.journal.counts = refreshCounts counts ++ results entries ∧
    world.journal.lastChange =
      ((changes (moves entries)).filterMap Change.gauge?).getLast?.getD gauge ∧
    (∀ change time, (changes (moves entries)).getLast? = some change →
      change.current.lastUpdatedAt = .int time → time.natAbs ≤ Nat.pow 2 Double.precision →
      Value.equals (.float world.journal.lastChange) (.int time) = true) ∧
    (world.state.coordinator.activity = .refreshing ↔
      ∃ sequence, .enter sequence ∈ moves entries ∧ .leave sequence ∉ moves entries) ∧
    (∀ asked, surroundings.hasMetadata world = (true, asked) →
      ∃ sequence answer ended before,
        sequence = asked.state.coordinator.start.1 ∧
        refreshAs surroundings sequence (begun surroundings.dataCenter asked) =
          (answer, ended) ∧
        AsksRefreshing surroundings (flights.length + 1) (refreshAs surroundings sequence)
          (begun surroundings.dataCenter asked) ∧
        Accounts (.opening initial counts gauge) (entries ++ before)
          ⟨pageOf ended, flights ++ [⟨sequence, .settled⟩]⟩ ∧
        .enter sequence ∈ moves before ∧ .leave sequence ∉ moves (entries ++ before) ∧
        (refresh surroundings world).2.state.coordinator =
          ended.state.coordinator.closed answer) ∧
    (refresh surroundings world).2.state.coordinator.activity =
      world.state.coordinator.activity ∧
    (∀ depth center, (Scenario.surroundings (Scenario.runSteps depth) center).KeepBooks) := by
  obtain ⟨more, makes, booked⟩ := refresh_accounts keeps world flights
  have counted : State.IsCounted ⟨world.state.coordinator, flights⟩ := accounts.run.isCounted rfl
  refine ⟨?_, ?_, ⟨more, makes, accounts.append booked⟩, accounts.counts, ?_, ?_, ?_, ?_, ?_, ?_⟩
  · intro outcome returns
    obtain ⟨counted, updated⟩ := counts_itself keeps.clock returns
    obtain ⟨replaces, leaves⟩ := returns_as_counted keeps.clock returns
    exact ⟨counted, updated, replaces, leaves⟩
  · intro changed returns
    obtain ⟨outcome, returned, rfl⟩ := refreshChanges_iff.mp returns
    rw [(counts_itself keeps.clock returned).2]
    simp
  · rw [← gauges_of_entries]
    exact accounts.gauge
  · intro change time latest timed bounded
    have shown : world.journal.lastChange = gauged gauge entries := accounts.gauge
    rw [shown]
    exact gauged_exact latest timed bounded gauge
  · exact accounts.run.underWay.activity_iff counted
  · intro asked capable
    let sequence := asked.state.coordinator.start.1
    rcases ends : refreshAs surroundings sequence (begun surroundings.dataCenter asked)
      with ⟨answer, ended⟩
    obtain ⟨asking, inside, _, inFlight⟩ := refreshAs_accounts keeps capable flights
    rw [ends] at inFlight
    have reached := accounts.append inFlight
    have among : flights.length + 1 = world.state.coordinator.inFlight + 1 :=
      congrArg (· + 1) counted.symm
    have away : .leave sequence ∉ moves (entries ++ _) :=
      ((reached.run.underWay.members sequence).mp (by simp [Ledger.state, sequence])).2
    refine ⟨sequence, answer, ended, _, rfl, ends, ?_, reached, ?_, away, ?_⟩
    · rw [among]
      exact refreshAs_asksRefreshing keeps capable
    · simp [sequence]
    · rw [refresh_capable capable ends]
      rfl
  · have same : (refresh surroundings world).2.state.coordinator.inFlight =
        world.state.coordinator.inFlight := (refresh_booked keeps world).inFlight
    rw [Coordinator.activity, Coordinator.activity, same]
  · intro depth center
    exact Scenario.surroundings_keepBooks (Scenario.runSteps_booked depth) center

/-! ## A refresh within a refresh, and a time between two doubles -/

/-- When the provider is asked for the host name, another refresh comes by. -/
def nestingWorld : World (Site Stage) where
  state :=
    { coordinator := { snapshot := firstIdentity }
      outside :=
        { (changingWorld (.frozen (.int 5))).state.outside with
          hooks := [⟨"host_name", "before", [.refresh]⟩] } }

/-- The inner refresh began later and applies first, so the outer one is discarded. -/
theorem nested_refreshes_are_both_counted :
    lively.KeepBooks ∧
    Accounts (.opening firstIdentity [] .zero) [] ⟨pageOf nestingWorld, []⟩ ∧
    (refresh lively nestingWorld).1 = .ok .unchanged ∧
    CountsItself lively nestingWorld ∧
    resultOf lively nestingWorld = .unchanged ∧
    LeavesIdentity lively nestingWorld ∧
    (refresh lively nestingWorld).2.journal.counts =
      [.identity .updated, .identity .unchanged] ∧
    AsksRefreshing lively 1 (refreshAs lively 1) (begun .amazon nestingWorld) ∧
    (refresh lively nestingWorld).2.state.coordinator.activity = .idle := by
  have keeps : lively.KeepBooks :=
    Scenario.surroundings_keepBooks (Scenario.runSteps_booked 1) .amazon
  have opening : Accounts (.opening firstIdentity [] .zero) [] ⟨pageOf nestingWorld, []⟩ :=
    .stay
  have answer : (refresh lively nestingWorld).1.toOption = some .unchanged := by
    decide +kernel
  have returns : (refresh lively nestingWorld).1 = .ok .unchanged := by
    cases ends : (refresh lively nestingWorld).1 with
    | error failure => simp [ends, Except.toOption] at answer
    | ok outcome => simpa [ends, Except.toOption] using answer
  have result : resultOf lively nestingWorld = .unchanged := by decide +kernel
  obtain ⟨counted, _, _, _, _, _, _, underWay, idle, _⟩ :=
    refreshes_are_accounted_for keeps opening
  obtain ⟨itself, _, _, leaves⟩ := counted .unchanged returns
  obtain ⟨_, _, _, _, rfl, _, refreshing, _⟩ := underWay nestingWorld rfl
  exact ⟨keeps, opening, returns, itself, result, leaves (by rw [result]; simp),
    by decide +kernel, refreshing, idle⟩

/-- The least positive integer that is no double is rounded down for the gauge. -/
theorem gauge_misses_odd_time :
    (refresh calm (changingWorld (.frozen (.int 9007199254740993)))).1 = .ok .updated ∧
    (refresh calm (changingWorld (.frozen (.int 9007199254740993)))).2.state.coordinator.snapshot =
      newPair.changedAt (.int 9007199254740993) ∧
    Value.equals
      (.float (refresh calm (changingWorld (.frozen (.int 9007199254740993)))).2.journal.lastChange)
      (.int 9007199254740993) = false :=
  ⟨rfl, rfl, by decide +kernel⟩

end DiscoveryClient.Identity
