import DiscoveryClient.Proofs.Identity.Run

/-!
# Changes form a chain

Each change starts from the identity that the change before it produced, and
whoever looks sees the identity of the latest change.  Between two changes
nothing happens to an identity but that its mark is taken away.

This holds for clocks that answer, for a change without a time is seen and
makes part of no answer.
-/

namespace DiscoveryClient.Identity

@[simp] theorem changes_append (first second : List Move) :
    changes (first ++ second) = changes first ++ changes second :=
  List.filterMap_append

/-- What the latest change of a run produced, at first the identity it began with. -/
def latest (initial : Snapshot) (trace : List Move) : Snapshot :=
  ((changes trace).getLast?.map Change.current).getD initial

/-- An acknowledgement has taken the mark away since the latest change. -/
def AcknowledgedSince (trace : List Move) : Prop :=
  ∃ before asOf after,
    trace = before ++ .clearDirty asOf (.ok true) :: after ∧ changes after = []

/-- A snapshot shows an identity, with the mark as it was or taken away. -/
structure Snapshot.Shows (base : Snapshot) (acknowledged : Prop) (seen : Snapshot) : Prop where
  hostName : seen.hostName = base.hostName
  ipAddress : seen.ipAddress = base.ipAddress
  lastUpdatedAt : seen.lastUpdatedAt = base.lastUpdatedAt
  cleared : acknowledged → seen.dirty = .bool false
  kept : ¬acknowledged → seen.dirty = base.dirty

theorem latest_of_no_change {initial : Snapshot} {trace : List Move} {move : Move}
    (noChange : move.change? = none) : latest initial (trace ++ [move]) = latest initial trace := by
  simp [latest, changes, noChange]

theorem latest_of_change {initial : Snapshot} {trace : List Move} {move : Move}
    {change : Change} (isChange : move.change? = some change) :
    latest initial (trace ++ [move]) = change.current := by
  simp [latest, changes, isChange]

theorem acknowledgedSince_snoc {trace : List Move} {move : Move} :
    AcknowledgedSince (trace ++ [move]) ↔
      (∃ asOf, move = .clearDirty asOf (.ok true)) ∨
        move.change? = none ∧ AcknowledgedSince trace := by
  constructor
  · rintro ⟨before, asOf, after, whole, noChanges⟩
    rcases List.eq_nil_or_concat after with rfl | ⟨front, last, rfl⟩
    · obtain ⟨_, lastEq⟩ := List.append_inj' whole rfl
      exact .inl ⟨asOf, by simpa using lastEq⟩
    · rw [List.concat_eq_append, ← List.cons_append, ← List.append_assoc] at whole
      obtain ⟨frontEq, lastEq⟩ := List.append_inj' whole rfl
      obtain rfl : move = last := by simpa using lastEq
      rw [List.concat_eq_append, changes_append, List.append_eq_nil_iff] at noChanges
      refine .inr ⟨?_, before, asOf, front, frontEq, noChanges.1⟩
      simpa [changes] using noChanges.2
  · rintro (⟨asOf, rfl⟩ | ⟨noChange, before, asOf, after, rfl, noChanges⟩)
    · exact ⟨trace, asOf, [], rfl, rfl⟩
    · refine ⟨before, asOf, after ++ [move], by simp, ?_⟩
      rw [changes_append, noChanges]
      simp [changes, noChange]

/-! ## What is shown -/

/-- The coordinator shows the latest change, under an integer time. -/
structure Chained (initial : Snapshot) (trace : List Move) (coordinator : Coordinator) :
    Prop where
  shows : (latest initial trace).Shows (AcknowledgedSince trace) coordinator.snapshot
  timed : ∃ last : Int, coordinator.snapshot.lastUpdatedAt = .int last

namespace Chained

variable {initial : Snapshot} {trace : List Move} {coordinator next : Coordinator}
  {sequence : Nat} {found : Candidates}

theorem aside {move : Move} (chained : Chained initial trace coordinator)
    (noChange : move.change? = none) (noClearing : ∀ asOf, move ≠ .clearDirty asOf (.ok true))
    (same : next.snapshot = coordinator.snapshot) :
    Chained initial (trace ++ [move]) next := by
  have sameAcknowledged : AcknowledgedSince (trace ++ [move]) ↔ AcknowledgedSince trace := by
    rw [acknowledgedSince_snoc]
    constructor
    · rintro (⟨asOf, clearing⟩ | ⟨_, before⟩)
      · exact (noClearing asOf clearing).elim
      · exact before
    · intro before
      exact .inr ⟨noChange, before⟩
  constructor
  · rw [latest_of_no_change noChange, sameAcknowledged, same]
    exact chained.shows
  · rw [same]
    exact chained.timed

theorem published (chained : Chained initial trace coordinator) (asOf : Option Value) :
    Chained initial (trace ++ [.clearDirty asOf (.ok true)])
      { coordinator with snapshot := coordinator.snapshot.published } := by
  have acknowledged : AcknowledgedSince (trace ++ [.clearDirty asOf (.ok true)]) :=
    acknowledgedSince_snoc.mpr (.inl ⟨asOf, rfl⟩)
  obtain ⟨⟨hostName, ipAddress, lastUpdatedAt, _, _⟩, timed⟩ := chained
  refine ⟨?_, timed⟩
  rw [latest_of_no_change rfl]
  exact ⟨hostName, ipAddress, lastUpdatedAt, fun _ => rfl, fun none => (none acknowledged).elim⟩

theorem apply (chained : Chained initial trace coordinator) (reading : Int) :
    Chained initial
      (trace ++ [.apply sequence found (.ok (.int reading))
        (coordinator.apply sequence found (.ok (.int reading))).1])
      (coordinator.apply sequence found (.ok (.int reading))).2 := by
  obtain ⟨last, lastUpdated⟩ := chained.timed
  cases changes : coordinator.wouldChange sequence found with
  | false =>
      rw [Coordinator.apply_unchanged changes]
      exact chained.aside rfl (by simp) rfl
  | true =>
      rw [Coordinator.apply_changed changes (Coordinator.timeOfChange_int lastUpdated)]
      refine ⟨?_, max reading last, rfl⟩
      rw [latest_of_change rfl]
      refine ⟨rfl, rfl, rfl, ?_, fun _ => rfl⟩
      intro acknowledged
      -- The change is the last step, so nothing has come after it.
      rw [acknowledgedSince_snoc] at acknowledged
      simp [Move.change?] at acknowledged

theorem step {state after : State} {move : Move}
    (chained : Chained initial trace state.coordinator) (timely : move.IsTimely)
    (advance : Advances state move after) :
    Chained initial (trace ++ [move]) after.coordinator := by
  cases advance.touches with
  | applied now _ result =>
      obtain ⟨reading, rfl⟩ := timely
      rw [result]
      exact chained.apply reading
  | cleared result =>
      rw [result]
      exact chained.published _
  | aside isAside same _ => exact chained.aside isAside.change? isAside.ne_clearDirty same

end Chained

theorem Runs.chained {initial : Snapshot} {trace : List Move} {state : State}
    (run : Runs (.beginning initial) trace state)
    (start : ∃ first : Int, initial.lastUpdatedAt = .int first) (timely : Timely trace) :
    Chained initial trace state.coordinator := by
  induction run with
  | stay =>
      refine ⟨⟨rfl, rfl, rfl, ?_, fun _ => rfl⟩, start⟩
      rintro ⟨before, asOf, after, whole, _⟩
      simp at whole
  | step _ advance induction =>
      rw [timely_append] at timely
      exact (induction timely.1).step (timely.2 _ List.mem_cons_self) advance

/-- What a refresh is about to apply, it has found. -/
theorem Runs.found {initial : Snapshot} {trace : List Move} {state : State}
    (run : Runs (.beginning initial) trace state) :
    ∀ sequence found, ⟨sequence, .resolved found⟩ ∈ state.flights →
      .resolve sequence found ∈ trace := by
  induction run with
  | stay => simp [State.beginning]
  | step _ advance induction =>
      intro sequence found member
      cases advance with
      | @resolve _ older younger own new =>
          by_cases isOwn : sequence = own ∧ found = new
          · obtain ⟨rfl, rfl⟩ := isOwn
            simp
          · refine List.mem_append_left _ (induction sequence found ?_)
            grind
      | enter => exact List.mem_append_left _ (induction sequence found (by simpa using member))
      | fail => exact List.mem_append_left _ (induction sequence found (by simpa using member))
      | apply => exact List.mem_append_left _ (induction sequence found (by grind))
      | leave => exact List.mem_append_left _ (induction sequence found (by grind))
      | finish => exact List.mem_append_left _ (induction sequence found member)
      | clearDirty => exact List.mem_append_left _ (induction sequence found member)
      | look => exact List.mem_append_left _ (induction sequence found member)
      | addListener => exact List.mem_append_left _ (induction sequence found member)
      | removeListener => exact List.mem_append_left _ (induction sequence found member)

/-- In every run whose clock answers integers, each change starts from what the change
before it produced, with the mark taken away if that was acknowledged; it puts the
candidates of one refresh in place at a time that never goes back.  Whoever looks
sees what the latest change produced. -/
theorem changes_form_chain {initial : Snapshot} {trace : List Move} {state : State}
    (run : Runs (.beginning initial) trace state)
    (start : ∃ first : Int, initial.lastUpdatedAt = .int first) (timely : Timely trace) :
    (∀ before sequence found now change after,
      trace = before ++ .apply sequence found now (.ok (some change)) :: after →
      (latest initial before).Shows (AcknowledgedSince before) change.previous ∧
      .resolve sequence found ∈ before ∧
      change.current.candidates = found ∧
      change.current.dirty = .bool true ∧
      found.agree change.previous.candidates = false ∧
      (found.AreTexts → change.current.candidates ≠ change.previous.candidates) ∧
      ∃ reading last : Int, now = .ok (.int reading) ∧
        change.previous.lastUpdatedAt = .int last ∧
        change.current.lastUpdatedAt = .int (max reading last)) ∧
    (∀ before seen after, trace = before ++ .look seen :: after →
      (latest initial before).Shows (AcknowledgedSince before) seen) := by
  constructor
  · intro before sequence found now change after whole
    subst whole
    obtain ⟨reached, next, earlier, advance, _⟩ := run.around
    rw [timely_append] at timely
    obtain ⟨shows, last, lastUpdated⟩ := earlier.chained start timely.1
    obtain ⟨reading, rfl⟩ : ∃ reading : Int, now = .ok (.int reading) :=
      timely.2 _ List.mem_cons_self
    obtain ⟨resolved, changes, time, timed, rfl, _⟩ := advance.change
    rw [Coordinator.timeOfChange_int lastUpdated] at timed
    obtain rfl := Except.ok.inj timed
    have differ := (Coordinator.wouldChange_iff.mp changes).2
    refine ⟨shows, earlier.found sequence found resolved, rfl, rfl, differ, ?_, reading, last,
      rfl, lastUpdated, rfl⟩
    intro texts same
    have agreed : found.agree reached.coordinator.snapshot.candidates = true :=
      (Candidates.agree_iff texts).mpr same.symm
    simp [agreed] at differ
  · intro before seen after whole
    subst whole
    obtain ⟨reached, next, earlier, advance, _⟩ := run.around
    rw [timely_append] at timely
    cases advance with
    | look => exact (earlier.chained start timely.1).shows

/-! ## Two changes under a clock that goes back -/

/-- The identity after a first change, which may have been acknowledged. -/
def oldIdentity (marked : Bool) : Snapshot :=
  { oldPair.changedAt (.int 5) with dirty := .bool marked }

/-- A refresh changes the first identity and someone looks at the result. -/
def firstLook : List Move :=
  [ .enter 1, .resolve 1 oldPair,
    .apply 1 oldPair (.ok (.int 5)) (.ok (some ⟨firstIdentity, oldIdentity true⟩)),
    .leave 1, .look (oldIdentity true) ]

/-- Another refresh changes it again, with the clock at a reading. -/
def secondChange (marked : Bool) (reading : Int) : List Move :=
  [ .enter 2, .resolve 2 newPair,
    .apply 2 newPair (.ok (.int reading))
      (.ok (some ⟨oldIdentity marked, newPair.changedAt (.int (max reading 5))⟩)),
    .leave 2 ]

def afterFirst (marked : Bool) : State where
  coordinator :=
    { snapshot := oldIdentity marked
      appliedSequence := 1
      lastSequence := 1 }

def afterSecond (reading : Int) : State where
  coordinator :=
    { snapshot := newPair.changedAt (.int (max reading 5))
      appliedSequence := 2
      lastSequence := 2 }

theorem firstLook_runs : Runs (.beginning firstIdentity) firstLook (afterFirst true) := by
  let one : Coordinator := { snapshot := firstIdentity, lastSequence := 1, inFlight := 1 }
  have entered : Runs (.beginning firstIdentity) [.enter 1] ⟨one, [⟨1, .resolving⟩]⟩ :=
    .single .enter
  have resolved := entered.step (@Advances.resolve one [] [] 1 oldPair)
  have applied := resolved.step (@Advances.apply one [] [] 1 oldPair (.ok (.int 5)))
  exact (applied.step (@Advances.leave _ [] [] 1 .settled)).step .look

theorem secondChange_runs (marked : Bool) (reading : Int) :
    Runs (afterFirst marked) (secondChange marked reading) (afterSecond reading) := by
  let two : Coordinator :=
    { snapshot := oldIdentity marked, appliedSequence := 1, lastSequence := 2, inFlight := 1 }
  have ended : two.apply 2 newPair (.ok (.int reading)) =
      (.ok (some ⟨oldIdentity marked, newPair.changedAt (.int (max reading 5))⟩),
        two.changed 2 newPair (.int (max reading 5))) :=
    Coordinator.apply_changed rfl (Coordinator.timeOfChange_int rfl)
  have entered : Runs (afterFirst marked) [.enter 2] ⟨two, [⟨2, .resolving⟩]⟩ :=
    .single .enter
  have resolved := entered.step (@Advances.resolve two [] [] 2 newPair)
  have applied := resolved.step (@Advances.apply two [] [] 2 newPair (.ok (.int reading)))
  rw [ended] at applied
  exact applied.step (@Advances.leave _ [] [] 2 .settled)

/-- The mark of the first change is taken away before the second. -/
theorem acknowledged_change_continues_chain :
    Runs (.beginning firstIdentity)
      ((firstLook ++ [.clearDirty none (.ok true)]) ++ secondChange false 3) (afterSecond 3) ∧
    (∃ first : Int, firstIdentity.lastUpdatedAt = .int first) ∧
    Timely ((firstLook ++ [.clearDirty none (.ok true)]) ++ secondChange false 3) ∧
    (oldIdentity true).Shows True (oldIdentity false) ∧
    newPair ≠ (oldIdentity false).candidates ∧
    (newPair.changedAt (.int 5)).lastUpdatedAt = .int (max 3 5) := by
  have cleared : Advances (afterFirst true) (.clearDirty none (.ok true)) (afterFirst false) :=
    .clearDirty none
  have run := (firstLook_runs.step cleared).append (secondChange_runs false 3)
  have start : ∃ first : Int, firstIdentity.lastUpdatedAt = .int first := ⟨0, rfl⟩
  have timely :
      Timely ((firstLook ++ [.clearDirty none (.ok true)]) ++ secondChange false 3) := by
    simp [Timely, firstLook, secondChange, Move.IsTimely]
  have chain := (changes_form_chain run start timely).1
    (firstLook ++ [.clearDirty none (.ok true), .enter 2, .resolve 2 newPair]) 2 newPair
    (.ok (.int 3)) ⟨oldIdentity false, newPair.changedAt (.int 5)⟩ [.leave 2] rfl
  obtain ⟨shows, _, _, _, _, differ, reading, last, readingEq, lastEq, timeEq⟩ := chain
  have acknowledged : AcknowledgedSince
      (firstLook ++ [.clearDirty none (.ok true), .enter 2, .resolve 2 newPair]) :=
    ⟨firstLook, none, [.enter 2, .resolve 2 newPair], rfl, rfl⟩
  obtain rfl : reading = 3 := by simpa using readingEq.symm
  obtain rfl : last = 5 := by simpa [oldIdentity, Candidates.changedAt] using lastEq.symm
  refine ⟨run, start, timely, ?_, differ ⟨_, _, rfl⟩, timeEq⟩
  exact ⟨shows.hostName, shows.ipAddress, shows.lastUpdatedAt,
    fun _ => shows.cleared acknowledged, fun never => (never trivial).elim⟩

end DiscoveryClient.Identity
