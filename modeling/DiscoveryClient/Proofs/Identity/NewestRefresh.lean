import DiscoveryClient.Proofs.Identity.Overlap
import Mathlib.Data.List.Nodup

/-!
# The newest refresh decides

Among the refreshes that have applied, the one that began last decides on the
identity, in whatever order they ended.  A refresh that is overtaken changes
nothing, so the changes follow the order in which their refreshes began.

The numbers of the refreshes carry the argument.  No two refreshes share one,
and the coordinator keeps the largest that has applied.
-/

namespace DiscoveryClient.Identity

@[simp] theorem applications_append (first second : List Move) :
    applications (first ++ second) = applications first ++ applications second :=
  List.filterMap_append

@[simp] theorem changers_append (first second : List Move) :
    changers (first ++ second) = changers first ++ changers second :=
  List.filterMap_append

theorem applications_apply (sequence : Nat) (found : Candidates) (now : Except Failure Value)
    (answer : Except Failure (Option Change)) :
    applications [.apply sequence found now answer] = [(sequence, found)] := rfl

/-- A change is answered by everything but `none`. -/
theorem changers_apply (sequence : Nat) (found : Candidates) (now : Except Failure Value)
    (coordinator : Coordinator) :
    changers [.apply sequence found now (coordinator.apply sequence found now).1] =
      if coordinator.wouldChange sequence found then [sequence] else [] := by
  rcases coordinator.apply_cases sequence found now with
    ⟨changes, ended⟩ | ⟨changes, _, _, ended⟩ | ⟨changes, _, _, ended⟩ <;>
    simp [ended, changes, changers, Move.changer?]

theorem mem_changers_apply {trace : List Move} {coordinator : Coordinator} {sequence : Nat}
    {found : Candidates} {now : Except Failure Value} {changer : Nat} :
    changer ∈ changers
        (trace ++ [.apply sequence found now (coordinator.apply sequence found now).1]) ↔
      changer ∈ changers trace ∨
        coordinator.wouldChange sequence found = true ∧ changer = sequence := by
  rw [changers_append, changers_apply, List.mem_append]
  cases changes : coordinator.wouldChange sequence found <;> simp

/-! ## Numbers of refreshes -/

/-- Every refresh has a number of its own, under which it applies at most once. -/
structure Numbered (trace : List Move) (state : State) : Prop where
  ascending : (state.flights.map Flight.sequence).Pairwise (· < ·)
  started : ∀ flight ∈ state.flights, flight.sequence ≤ state.coordinator.lastSequence
  appliedStarted : ∀ applied ∈ applications trace,
    applied.1 ≤ state.coordinator.lastSequence
  unapplied : ∀ flight ∈ state.flights, flight.progress ≠ .settled →
    ∀ applied ∈ applications trace, applied.1 ≠ flight.sequence
  distinct : ((applications trace).map Prod.fst).Nodup

namespace Numbered

variable {trace : List Move} {coordinator : Coordinator} {older younger : List Flight}
  {sequence : Nat} {progress : Progress}

/-- A refresh that has not settled may go on to any other progress. -/
theorem proceed
    (numbered : Numbered trace ⟨coordinator, older ++ ⟨sequence, progress⟩ :: younger⟩)
    (unsettled : progress ≠ .settled) (next : Progress) :
    Numbered trace ⟨coordinator, older ++ ⟨sequence, next⟩ :: younger⟩ := by
  obtain ⟨ascending, started, appliedStarted, unapplied, distinct⟩ := numbered
  refine ⟨by simpa using ascending, ?_, appliedStarted, ?_, distinct⟩
  · intro flight member
    rcases List.mem_append.mp member with inOlder | inRest
    · exact started flight (by simp [inOlder])
    · rcases List.mem_cons.mp inRest with rfl | inYounger
      · exact started ⟨sequence, progress⟩ (by simp)
      · exact started flight (by simp [inYounger])
  · intro flight member flightUnsettled
    rcases List.mem_append.mp member with inOlder | inRest
    · exact unapplied flight (by simp [inOlder]) flightUnsettled
    · rcases List.mem_cons.mp inRest with rfl | inYounger
      · exact unapplied ⟨sequence, progress⟩ (by simp) unsettled
      · exact unapplied flight (by simp [inYounger]) flightUnsettled

theorem enter {flights : List Flight} (numbered : Numbered trace ⟨coordinator, flights⟩) :
    Numbered trace ⟨coordinator.start.2, flights ++ [⟨coordinator.start.1, .resolving⟩]⟩ := by
  obtain ⟨ascending, started, appliedStarted, unapplied, distinct⟩ := numbered
  refine ⟨?_, ?_, fun applied member => Nat.le_succ_of_le (appliedStarted applied member),
    ?_, distinct⟩
  · rw [List.map_append, List.pairwise_append]
    refine ⟨ascending, by simp, ?_⟩
    intro earlier member new newMember
    obtain ⟨flight, flightMember, rfl⟩ := List.mem_map.mp member
    obtain rfl : new = coordinator.start.1 := by simpa using newMember
    exact Nat.lt_succ_of_le (started flight flightMember)
  · intro flight member
    rcases List.mem_append.mp member with inFlights | isNew
    · exact Nat.le_succ_of_le (started flight inFlights)
    · obtain rfl := List.mem_singleton.mp isNew
      exact Nat.le_refl _
  · intro flight member unsettled applied appliedMember
    rcases List.mem_append.mp member with inFlights | isNew
    · exact unapplied flight inFlights unsettled applied appliedMember
    · obtain rfl := List.mem_singleton.mp isNew
      exact Nat.ne_of_lt (Nat.lt_succ_of_le (appliedStarted applied appliedMember))

/-- The number of a refresh that applies is in no other hands and is used up. -/
theorem apply {found : Candidates} {now : Except Failure Value}
    {answer : Except Failure (Option Change)}
    (numbered :
      Numbered trace ⟨coordinator, older ++ ⟨sequence, .resolved found⟩ :: younger⟩) :
    Numbered (trace ++ [.apply sequence found now answer])
      ⟨(coordinator.apply sequence found now).2, older ++ ⟨sequence, .settled⟩ :: younger⟩ := by
  obtain ⟨ascending, started, appliedStarted, unapplied, distinct⟩ :=
    numbered.proceed (by simp) .settled
  have own : sequence ≤ coordinator.lastSequence :=
    started ⟨sequence, .settled⟩ (by simp)
  have fresh : ∀ applied ∈ applications trace, applied.1 ≠ sequence :=
    numbered.unapplied ⟨sequence, .resolved found⟩ (by simp) (by simp)
  refine ⟨ascending, by simpa using started, ?_, ?_, ?_⟩
  · intro applied member
    rw [applications_append, applications_apply, List.mem_append] at member
    rw [Coordinator.apply_lastSequence]
    rcases member with before | isNew
    · exact appliedStarted applied before
    · obtain rfl := List.mem_singleton.mp isNew
      exact own
  · intro flight member unsettled applied appliedMember
    rw [applications_append, applications_apply, List.mem_append] at appliedMember
    rcases appliedMember with before | isNew
    · exact unapplied flight member unsettled applied before
    · obtain rfl := List.mem_singleton.mp isNew
      rw [List.map_append, List.map_cons, List.pairwise_append, List.pairwise_cons] at ascending
      obtain ⟨_, ⟨aboveOwn, _⟩, belowOwn⟩ := ascending
      rcases List.mem_append.mp member with inOlder | inRest
      · exact Nat.ne_of_gt (belowOwn _ (List.mem_map_of_mem inOlder) _ List.mem_cons_self)
      · rcases List.mem_cons.mp inRest with rfl | inYounger
        · exact (unsettled rfl).elim
        · exact Nat.ne_of_lt (aboveOwn _ (List.mem_map_of_mem inYounger))
  · rw [applications_append, applications_apply, List.map_append, List.nodup_append]
    refine ⟨distinct, by simp, ?_⟩
    intro before member new newMember
    obtain ⟨applied, appliedMember, rfl⟩ := List.mem_map.mp member
    obtain rfl : new = sequence := by simpa using newMember
    exact fresh applied appliedMember

theorem leave
    (numbered : Numbered trace ⟨coordinator, older ++ ⟨sequence, progress⟩ :: younger⟩) :
    Numbered trace ⟨coordinator.leave, older ++ younger⟩ := by
  have fewer : (older ++ younger).Sublist (older ++ ⟨sequence, progress⟩ :: younger) :=
    (List.Sublist.refl older).append (List.sublist_cons_self _ _)
  obtain ⟨ascending, started, appliedStarted, unapplied, distinct⟩ := numbered
  exact ⟨ascending.sublist (fewer.map _),
    fun flight member => started flight (fewer.subset member), appliedStarted,
    fun flight member => unapplied flight (fewer.subset member), distinct⟩

/-- Steps that are no application and leave the numbers alone. -/
theorem aside {flights : List Flight} {next : Coordinator} {move : Move}
    (numbered : Numbered trace ⟨coordinator, flights⟩)
    (noApplication : move.application? = none)
    (sameNumbers : next.lastSequence = coordinator.lastSequence) :
    Numbered (trace ++ [move]) ⟨next, flights⟩ := by
  have sameApplications : applications (trace ++ [move]) = applications trace := by
    simp [applications, noApplication]
  obtain ⟨ascending, started, appliedStarted, unapplied, distinct⟩ := numbered
  constructor
  · exact ascending
  · simpa [sameNumbers] using started
  · simpa [sameApplications, sameNumbers] using appliedStarted
  · simpa [sameApplications] using unapplied
  · simpa [sameApplications] using distinct

theorem step {state next : State} {move : Move} (numbered : Numbered trace state)
    (advance : Advances state move next) : Numbered (trace ++ [move]) next := by
  cases advance with
  | enter => exact numbered.enter.aside rfl rfl
  | resolve found => exact (numbered.proceed (by simp) _).aside rfl rfl
  | fail => exact (numbered.proceed (by simp) _).aside rfl rfl
  | apply now => exact numbered.apply
  | leave => exact numbered.leave.aside rfl rfl
  | finish outcome => exact numbered.aside rfl rfl
  | clearDirty asOf =>
      refine numbered.aside rfl ?_
      rcases Coordinator.clearDirty_cases _ asOf with ⟨answer, _, ended⟩ | ended <;> rw [ended]
  | look => exact numbered.aside rfl rfl
  | addListener listener => exact numbered.aside rfl rfl
  | removeListener listener => exact numbered.aside rfl rfl

end Numbered

theorem Runs.numbered {initial : Snapshot} {trace : List Move} {state : State}
    (run : Runs (.beginning initial) trace state) : Numbered trace state := by
  induction run with
  | stay =>
      constructor <;> simp [State.beginning, applications]
  | step _ advance induction => exact induction.step advance

/-! ## What is in place -/

/-- The coordinator holds the candidates of the newest refresh that has applied, or
the first identity, and the changes came in the order of their refreshes. -/
structure Decided (initial : Snapshot) (trace : List Move) (coordinator : Coordinator) :
    Prop where
  bounded : ∀ applied ∈ applications trace, applied.1 ≤ coordinator.appliedSequence
  inPlace :
    (applications trace = [] ∧ coordinator.appliedSequence = 0 ∧
      coordinator.snapshot.candidates = initial.candidates) ∨
    ∃ found, (coordinator.appliedSequence, found) ∈ applications trace ∧
      found.HoldIn coordinator.snapshot.candidates
  changersApplied : ∀ changer ∈ changers trace, ∃ found, (changer, found) ∈ applications trace
  rising : (changers trace).Pairwise (· < ·)

namespace Decided

variable {initial : Snapshot} {trace : List Move} {coordinator next : Coordinator}
  {sequence : Nat} {found : Candidates} {now : Except Failure Value}

theorem aside {move : Move} (decided : Decided initial trace coordinator)
    (noApplication : move.application? = none) (noChanger : move.changer? = none)
    (samePair : next.snapshot.candidates = coordinator.snapshot.candidates)
    (sameApplied : next.appliedSequence = coordinator.appliedSequence) :
    Decided initial (trace ++ [move]) next := by
  have sameApplications : applications (trace ++ [move]) = applications trace := by
    simp [applications, noApplication]
  have sameChangers : changers (trace ++ [move]) = changers trace := by
    simp [changers, noChanger]
  obtain ⟨bounded, inPlace, changersApplied, rising⟩ := decided
  constructor
  · simpa only [sameApplications, sameApplied] using bounded
  · simpa only [sameApplications, sameApplied, samePair] using inPlace
  · simpa only [sameApplications, sameChangers] using changersApplied
  · simpa only [sameChangers] using rising

/-- Nothing can be applied late before anything has been applied. -/
theorem inPlace_of_late (decided : Decided initial trace coordinator)
    (late : sequence < coordinator.appliedSequence) :
    ∃ inForce, (coordinator.appliedSequence, inForce) ∈ applications trace ∧
      inForce.HoldIn coordinator.snapshot.candidates := by
  rcases decided.inPlace with ⟨_, none, _⟩ | inForce
  · omega
  · exact inForce

/-- After an application, the pair of the newer one of two refreshes is in place. -/
theorem inPlace_apply (decided : Decided initial trace coordinator) :
    ∃ inForce,
      (max coordinator.appliedSequence sequence, inForce) ∈
        applications trace ++ [(sequence, found)] ∧
      inForce.HoldIn (coordinator.apply sequence found now).2.snapshot.candidates := by
  by_cases late : sequence < coordinator.appliedSequence
  · obtain ⟨inForce, member, holds⟩ := decided.inPlace_of_late late
    rw [Coordinator.apply_snapshot_of_same (Coordinator.wouldChange_of_late late),
      Nat.max_eq_left (Nat.le_of_lt late)]
    exact ⟨inForce, List.mem_append_left _ member, holds⟩
  · rw [Nat.max_eq_right (Nat.le_of_not_gt late)]
    refine ⟨found, List.mem_append_right _ List.mem_cons_self, ?_⟩
    cases changes : coordinator.wouldChange sequence found with
    | true => exact .inl (Coordinator.apply_candidates_of_changes changes)
    | false =>
        rw [Coordinator.apply_snapshot_of_same changes]
        refine .inr ?_
        simpa [Coordinator.wouldChange, Nat.le_of_not_gt late] using changes

/-- A change is not late, and the number of its refresh is not used up. -/
theorem lt_of_changes (decided : Decided initial trace coordinator)
    (fresh : ∀ applied ∈ applications trace, applied.1 ≠ sequence)
    (changes : coordinator.wouldChange sequence found = true) {changer : Nat}
    (member : changer ∈ changers trace) : changer < sequence := by
  obtain ⟨inForce, appliedMember⟩ := decided.changersApplied changer member
  have notLater : changer ≤ sequence :=
    Nat.le_trans (decided.bounded _ appliedMember) (Coordinator.wouldChange_iff.mp changes).1
  exact Nat.lt_of_le_of_ne notLater (fresh _ appliedMember)

theorem apply (decided : Decided initial trace coordinator)
    (fresh : ∀ applied ∈ applications trace, applied.1 ≠ sequence) :
    Decided initial
      (trace ++ [.apply sequence found now (coordinator.apply sequence found now).1])
      (coordinator.apply sequence found now).2 := by
  have applied : applications
      (trace ++ [.apply sequence found now (coordinator.apply sequence found now).1]) =
        applications trace ++ [(sequence, found)] := by
    rw [applications_append, applications_apply]
  constructor
  · intro earlier member
    rw [applied, List.mem_append] at member
    rw [Coordinator.apply_appliedSequence]
    rcases member with before | isNew
    · exact Nat.le_trans (decided.bounded earlier before) (Nat.le_max_left _ _)
    · obtain rfl := List.mem_singleton.mp isNew
      exact Nat.le_max_right _ _
  · rw [applied, Coordinator.apply_appliedSequence]
    exact .inr decided.inPlace_apply
  · intro changer member
    rw [applied]
    rcases mem_changers_apply.mp member with before | ⟨_, rfl⟩
    · obtain ⟨inForce, appliedMember⟩ := decided.changersApplied changer before
      exact ⟨inForce, List.mem_append_left _ appliedMember⟩
    · exact ⟨found, List.mem_append_right _ List.mem_cons_self⟩
  · rw [changers_append, List.pairwise_append]
    refine ⟨decided.rising, ?_, ?_⟩
    · rw [changers_apply]
      split <;> simp
    · intro earlier before changer isNew
      have changes : coordinator.wouldChange sequence found = true ∧ changer = sequence := by
        simpa [changers_apply, and_comm] using isNew
      obtain ⟨changes, rfl⟩ := changes
      exact decided.lt_of_changes fresh changes before

theorem step {state after : State} {move : Move}
    (decided : Decided initial trace state.coordinator) (numbered : Numbered trace state)
    (advance : Advances state move after) :
    Decided initial (trace ++ [move]) after.coordinator := by
  cases advance.touches with
  | @applied sequence found now _ member result =>
      rw [result]
      exact decided.apply (numbered.unapplied ⟨sequence, .resolved found⟩ member (by simp))
  | cleared result =>
      rw [result]
      exact decided.aside rfl rfl rfl rfl
  | aside isAside sameSnapshot sameApplied =>
      exact decided.aside isAside.application? isAside.changer? (by rw [sameSnapshot])
        sameApplied

end Decided

theorem Runs.decided {initial : Snapshot} {trace : List Move} {state : State}
    (run : Runs (.beginning initial) trace state) :
    Decided initial trace state.coordinator := by
  induction run with
  | stay =>
      constructor <;> simp [State.beginning, applications, changers]
  | step run advance induction => exact induction.step run.numbered advance

/-- Of two applications under one number there is one. -/
theorem Numbered.application_eq {trace : List Move} {state : State}
    (numbered : Numbered trace state) {left right : Nat × Candidates}
    (leftMember : left ∈ applications trace) (rightMember : right ∈ applications trace)
    (sameNumber : left.1 = right.1) : left = right :=
  List.inj_on_of_nodup_map numbered.distinct leftMember rightMember sameNumber

/-- The candidates of the newest refresh that has applied are in place. -/
theorem Runs.newest_holds {initial : Snapshot} {trace : List Move} {state : State}
    (run : Runs (.beginning initial) trace state) {newest : Nat × Candidates}
    (member : newest ∈ applications trace)
    (isNewest : ∀ other ∈ applications trace, other.1 ≤ newest.1) :
    newest.2.HoldIn state.coordinator.snapshot.candidates := by
  rcases run.decided.inPlace with ⟨none, _⟩ | ⟨found, inForce, holds⟩
  · simp [none] at member
  · have sameNumber : newest.1 = state.coordinator.appliedSequence :=
      Nat.le_antisymm (run.decided.bounded newest member) (isNewest _ inForce)
    obtain rfl := run.numbered.application_eq member inForce sameNumber
    exact holds

/-- An overtaken refresh leaves the identity as it is. -/
theorem Runs.overtaken {initial : Snapshot} {trace : List Move} {state next : State}
    (run : Runs (.beginning initial) trace state)
    {sequence : Nat} {found : Candidates} {now : Except Failure Value}
    {answer : Except Failure (Option Change)}
    (advance : Advances state (.apply sequence found now answer) next)
    (newer : ∃ other ∈ applications trace, sequence < other.1) :
    next.coordinator.snapshot = state.coordinator.snapshot := by
  obtain ⟨other, member, above⟩ := newer
  have late : sequence < state.coordinator.appliedSequence :=
    Nat.lt_of_lt_of_le above (run.decided.bounded other member)
  cases advance with
  | apply =>
      exact Coordinator.apply_snapshot_of_same (Coordinator.wouldChange_of_late late)

/-- In every run, the candidates of the newest refresh that has applied are in place,
the first pair if none has.  An overtaken refresh changes nothing at all, and the
changes come in the order of their refreshes.  A refresh goes on with a run also
when its surroundings take further steps of the coordinator, and makes its own moves
in it. -/
theorem newest_refresh_decides {initial : Snapshot} {trace : List Move} {state : State}
    (run : Runs (.beginning initial) trace state) :
    (applications trace = [] → state.coordinator.snapshot.candidates = initial.candidates) ∧
    (∀ newest ∈ applications trace, (∀ other ∈ applications trace, other.1 ≤ newest.1) →
      newest.2.HoldIn state.coordinator.snapshot.candidates ∧
        (newest.2.AreTexts → state.coordinator.snapshot.candidates = newest.2)) ∧
    (∀ sequence found now answer next,
      Advances state (.apply sequence found now answer) next →
      (∃ other ∈ applications trace, sequence < other.1) →
      next.coordinator.snapshot = state.coordinator.snapshot) ∧
    (changers trace).Pairwise (· < ·) ∧
    (∀ {σ : Type} (surroundings : Surroundings σ), surroundings.Interleave →
      ∀ world, world.state.coordinator = state.coordinator →
        ∃ more, Makes surroundings world more ∧
          Runs (.beginning initial) (trace ++ more)
            ⟨(refresh surroundings world).2.state.coordinator, state.flights⟩) := by
  refine ⟨?_, ?_, ?_, run.decided.rising, ?_⟩
  · intro none
    rcases run.decided.inPlace with ⟨_, _, same⟩ | ⟨found, inForce, _⟩
    · exact same
    · simp [none] at inForce
  · intro newest member isNewest
    have holds := run.newest_holds member isNewest
    exact ⟨holds, holds.eq⟩
  · intro sequence found now answer next advance newer
    exact run.overtaken advance newer
  · intro σ surroundings interleave world same
    obtain ⟨more, makes, later⟩ := refresh_runs interleave world state.flights
    rw [same] at later
    exact ⟨more, makes, run.append later⟩

/-! ## A refresh that is overtaken -/

/-- The first refresh has found its candidates when the second begins, which then
applies before it. -/
def overtaking : List Move :=
  [ .enter 1, .resolve 1 oldPair, .enter 2, .resolve 2 newPair,
    .apply 2 newPair (.ok (.int 5)) (.ok (some ⟨firstIdentity, newPair.changedAt (.int 5)⟩)),
    .leave 2 ]

def overtaken : State where
  coordinator :=
    { snapshot := newPair.changedAt (.int 5)
      appliedSequence := 2
      lastSequence := 2
      inFlight := 1 }
  flights := [⟨1, .resolved oldPair⟩]

theorem overtaking_runs : Runs (.beginning firstIdentity) overtaking overtaken := by
  let one : Coordinator := { snapshot := firstIdentity, lastSequence := 1, inFlight := 1 }
  let two : Coordinator := { snapshot := firstIdentity, lastSequence := 2, inFlight := 2 }
  have entered : Runs (.beginning firstIdentity) [.enter 1] ⟨one, [⟨1, .resolving⟩]⟩ :=
    .single .enter
  have resolved := entered.step (@Advances.resolve one [] [] 1 oldPair)
  have enteredBoth := resolved.step .enter
  have resolvedBoth :=
    enteredBoth.step (@Advances.resolve two [⟨1, .resolved oldPair⟩] [] 2 newPair)
  have applied := resolvedBoth.step
    (@Advances.apply two [⟨1, .resolved oldPair⟩] [] 2 newPair (.ok (.int 5)))
  exact applied.step (@Advances.leave _ [⟨1, .resolved oldPair⟩] [] 2 .settled)

def providedPair : Candidates := ⟨.text "fallback", .text "10.0.0.9"⟩

/-- The surroundings of a third refresh, whose metadata reads may run further steps. -/
def thirdWorld : World (Site Stage) where
  state :=
    { coordinator := overtaken.coordinator
      outside := {
        center := .amazon none
        provider := ⟨providedPair.hostName, providedPair.ipAddress⟩ } }

theorem newer_pair_survives_late_application :
    Runs (.beginning firstIdentity) overtaking overtaken ∧
      applications overtaking = [(2, newPair)] ∧ newPair.AreTexts ∧
      overtaken.coordinator.snapshot.candidates = newPair ∧
      (∃ late, Advances overtaken (.apply 1 oldPair (.ok (.int 9)) (.ok none)) late ∧
        late.coordinator.snapshot = overtaken.coordinator.snapshot) ∧
      (Scenario.surroundings (Scenario.runSteps 1) .amazon).Interleave ∧
      ∃ more, Makes (Scenario.surroundings (Scenario.runSteps 1) .amazon) thirdWorld more ∧
        .enter 3 ∈ more ∧ (∃ now answer, .apply 3 providedPair now answer ∈ more) ∧
        .leave 3 ∈ more ∧
        Runs (.beginning firstIdentity) (overtaking ++ more)
          ⟨(refresh (Scenario.surroundings (Scenario.runSteps 1) .amazon)
            thirdWorld).2.state.coordinator, overtaken.flights⟩ := by
  have only : applications overtaking = [(2, newPair)] := rfl
  have texts : newPair.AreTexts := ⟨_, _, rfl⟩
  have late : Advances overtaken (.apply 1 oldPair (.ok (.int 9)) (.ok none))
      ⟨overtaken.coordinator, [⟨1, .settled⟩]⟩ :=
    @Advances.apply overtaken.coordinator [] [] 1 oldPair (.ok (.int 9))
  have interleave : (Scenario.surroundings (Scenario.runSteps 1) .amazon).Interleave :=
    Scenario.surroundings_interleave (Scenario.runSteps_continues 1) .amazon
  obtain ⟨_, newest, keeps, _, goesOn⟩ := newest_refresh_decides overtaking_runs
  refine ⟨overtaking_runs, only, texts, ?_, ⟨_, late, ?_⟩, interleave, ?_⟩
  · exact (newest (2, newPair) (by simp [only]) (by simp [only])).2 texts
  · exact keeps 1 oldPair _ _ _ late ⟨(2, newPair), by simp [only], by decide⟩
  · obtain ⟨more, makes, runs⟩ := goesOn _ interleave thirdWorld rfl
    refine ⟨more, makes, ?_⟩
    cases makes with
    | skipped _ incapable => cases incapable
    | @settled asked sequence inside _ capable numbered settles =>
        obtain ⟨_, rfl⟩ := Prod.mk.inj capable
        obtain rfl : 3 = sequence := numbered
        have search : Settles 3 (.ok providedPair) inside := settles
        cases search with
        | applied _ now answer => exact ⟨by simp, ⟨now, answer, by simp⟩, by simp, runs⟩

end DiscoveryClient.Identity
