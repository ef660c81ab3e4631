import DiscoveryClient.Proofs.Identity.ChangeChain

/-!
# Acknowledged publications

An identity that has been looked at and published is acknowledged under its
time.  A change that came in between keeps its mark exactly if the clock of
some change since then read later than that time.  Times are milliseconds and
need not grow, so a change may also come under the very time that was
published; its mark is then taken away with the rest.
-/

namespace DiscoveryClient.Identity

/-- What the clock read for a change. -/
def Move.reading? : Move → Option Int
  | .apply _ _ (.ok (.int reading)) (.ok (some _)) => some reading
  | _ => none

/-- The readings of the clock for the changes of a run, in order. -/
def readings (trace : List Move) : List Int :=
  trace.filterMap Move.reading?

/-- The clock is read for changes alone. -/
theorem Move.reading?_of_change? {move : Move} (noChange : move.change? = none) :
    move.reading? = none := by
  unfold Move.reading?
  split
  · simp [Move.change?] at noChange
  · rfl

theorem readings_of_no_changes {trace : List Move} (none : changes trace = []) :
    readings trace = [] := by
  rw [changes, List.filterMap_eq_nil_iff] at none
  rw [readings, List.filterMap_eq_nil_iff]
  exact fun move member => Move.reading?_of_change? (none move member)

/-- A change has been applied and its mark not been taken away since. -/
def Unpublished (trace : List Move) : Prop :=
  ∃ before sequence found now change after,
    trace = before ++ .apply sequence found now (.ok (some change)) :: after ∧
      ∀ asOf, .clearDirty asOf (.ok true) ∉ after

/-! ## The mark -/

theorem Coordinator.apply_dirty {coordinator : Coordinator} (sequence : Nat)
    (found : Candidates) (now : Except Failure Value)
    (marked : coordinator.snapshot.dirty = .bool true) :
    (coordinator.apply sequence found now).2.snapshot.dirty = .bool true := by
  rcases coordinator.apply_cases sequence found now with
    ⟨_, ended⟩ | ⟨_, _, _, ended⟩ | ⟨_, _, _, ended⟩
  · rw [ended]
    exact marked
  · rw [ended]
    rfl
  · rw [ended]
    rfl

/-- Only an acknowledgement takes the mark away. -/
theorem Runs.stays_marked {start state : State} {trace : List Move}
    (run : Runs start trace state)
    (noClearing : ∀ asOf, .clearDirty asOf (.ok true) ∉ trace)
    (marked : start.coordinator.snapshot.dirty = .bool true) :
    state.coordinator.snapshot.dirty = .bool true := by
  induction run with
  | stay => exact marked
  | step _ advance induction =>
      have before := induction fun asOf member => noClearing asOf (List.mem_append_left _ member)
      cases advance.touches with
      | @applied sequence found now _ _ result =>
          rw [result]
          exact Coordinator.apply_dirty sequence found now before
      | @cleared asOf _ _ => exact (noClearing asOf (by simp)).elim
      | aside _ same _ =>
          rw [same]
          exact before

theorem Unpublished.marked {start state : State} {trace : List Move}
    (unpublished : Unpublished trace) (run : Runs start trace state) :
    state.coordinator.snapshot.dirty = .bool true := by
  obtain ⟨before, sequence, found, now, change, after, rfl, noClearing⟩ := unpublished
  obtain ⟨reached, next, _, advance, later⟩ := run.around
  apply later.stays_marked noClearing
  obtain ⟨_, _, _, _, _, changed⟩ := advance.change
  rw [changed]
  rfl

/-! ## The time -/

/-- The time has grown past an earlier one exactly if the clock read later for some
change. -/
def TimedSince (taken : Int) (trace : List Move) (coordinator : Coordinator) : Prop :=
  ∃ last : Int, coordinator.snapshot.lastUpdatedAt = .int last ∧ taken ≤ last ∧
    (taken < last ↔ ∃ reading ∈ readings trace, taken < reading)

theorem TimedSince.aside {taken : Int} {trace : List Move} {coordinator next : Coordinator}
    {move : Move} (timed : TimedSince taken trace coordinator)
    (noReading : move.reading? = none)
    (sameTime : next.snapshot.lastUpdatedAt = coordinator.snapshot.lastUpdatedAt) :
    TimedSince taken (trace ++ [move]) next := by
  have sameReadings : readings (trace ++ [move]) = readings trace := by
    simp [readings, noReading]
  obtain ⟨last, lastUpdated, notBefore, grown⟩ := timed
  exact ⟨last, sameTime.trans lastUpdated, notBefore, by rw [sameReadings, grown]⟩

theorem TimedSince.apply {taken : Int} {trace : List Move} {coordinator : Coordinator}
    (timed : TimedSince taken trace coordinator) (sequence : Nat) (found : Candidates)
    (reading : Int) :
    TimedSince taken
      (trace ++ [.apply sequence found (.ok (.int reading))
        (coordinator.apply sequence found (.ok (.int reading))).1])
      (coordinator.apply sequence found (.ok (.int reading))).2 := by
  cases changes : coordinator.wouldChange sequence found with
  | false =>
      rw [Coordinator.apply_unchanged changes]
      exact timed.aside rfl rfl
  | true =>
      obtain ⟨last, lastUpdated, notBefore, grown⟩ := timed
      rw [Coordinator.apply_changed changes (Coordinator.timeOfChange_int lastUpdated)]
      refine ⟨max reading last, rfl, by omega, ?_⟩
      simp only [readings, List.filterMap_append, List.mem_append, or_and_right, exists_or]
      rw [← readings, ← grown]
      simp only [List.filterMap_cons, Move.reading?, List.filterMap_nil, List.mem_singleton,
        exists_eq_left]
      omega

theorem Runs.timedSince {start state : State} {trace : List Move}
    (run : Runs start trace state) {taken : Int}
    (begun : start.coordinator.snapshot.lastUpdatedAt = .int taken) (timely : Timely trace) :
    TimedSince taken trace state.coordinator := by
  induction run with
  | stay => exact ⟨taken, begun, Int.le_refl _, by simp [readings]⟩
  | step _ advance induction =>
      rw [timely_append] at timely
      have before := induction timely.1
      cases advance.touches with
      | @applied sequence found now _ _ result =>
          obtain ⟨reading, rfl⟩ : ∃ reading : Int, now = .ok (.int reading) :=
            timely.2 _ List.mem_cons_self
          rw [result]
          exact before.apply sequence found reading
      | cleared result =>
          rw [result]
          exact before.aside rfl rfl
      | aside isAside same _ =>
          exact before.aside (Move.reading?_of_change? isAside.change?) (by rw [same])

/-- Whoever has looked and acknowledges what was seen is refused, with a mark that
is still there, exactly if the clock of some change since then read later than the
time that was seen; under any other readings the mark goes, though it is that of
the change.  Without a change since then, a mark that is there always goes. -/
theorem acknowledgement_after_look {initial seen : Snapshot} {past since : List Move}
    {state : State}
    (run : Runs (.beginning initial) (past ++ .look seen :: since) state)
    (start : ∃ first : Int, initial.lastUpdatedAt = .int first)
    (timely : Timely (past ++ .look seen :: since)) :
    ∃ taken : Int, seen.lastUpdatedAt = .int taken ∧
      (Unpublished since →
        state.coordinator.snapshot.dirty = .bool true ∧
        (state.coordinator.clearDirty (some seen.lastUpdatedAt) =
            (.ok false, state.coordinator) ↔
          ∃ reading ∈ readings since, taken < reading) ∧
        (state.coordinator.clearDirty (some seen.lastUpdatedAt) =
            (.ok true,
              { state.coordinator with snapshot := state.coordinator.snapshot.published }) ↔
          ∀ reading ∈ readings since, reading ≤ taken)) ∧
      (changes since = [] → state.coordinator.snapshot.dirty.isFilled = true →
        state.coordinator.clearDirty (some seen.lastUpdatedAt) =
          (.ok true,
            { state.coordinator with snapshot := state.coordinator.snapshot.published })) := by
  obtain ⟨reached, next, earlier, advance, later⟩ := run.around
  rw [timely_append] at timely
  obtain ⟨_, taken, seenAt⟩ := earlier.chained start timely.1
  have timelySince : Timely since := fun move member =>
    timely.2 move (List.mem_cons_of_mem _ member)
  cases advance with
  | look =>
      obtain ⟨last, lastUpdated, _, grown⟩ := later.timedSince seenAt timelySince
      refine ⟨taken, seenAt, ?_, ?_⟩
      · intro unpublished
        have marked := unpublished.marked later
        have filled : state.coordinator.snapshot.dirty.isFilled = true := by
          rw [marked]
          rfl
        rw [seenAt, Coordinator.clearDirty_int filled lastUpdated, ← grown]
        have notLater : (∀ reading ∈ readings since, reading ≤ taken) ↔ ¬taken < last := by
          rw [grown]
          simp
        rw [notLater]
        by_cases isLater : taken < last <;> simp [isLater, marked]
      · intro noChanges filled
        have notLater : ¬taken < last := by
          rw [grown, readings_of_no_changes noChanges]
          simp
        rw [seenAt, Coordinator.clearDirty_int filled lastUpdated, if_neg notLater]

/-! ## A change after the look -/

theorem firstLook_continues (reading : Int) :
    Runs (.beginning firstIdentity) (firstLook ++ secondChange true reading)
      (afterSecond reading) :=
  firstLook_runs.append (secondChange_runs true reading)

theorem firstLook_timely (reading : Int) :
    Timely (firstLook ++ secondChange true reading) := by
  simp [Timely, firstLook, secondChange, Move.IsTimely]

theorem secondChange_unpublished (reading : Int) : Unpublished (secondChange true reading) :=
  ⟨[.enter 2, .resolve 2 newPair], 2, newPair, .ok (.int reading),
    ⟨oldIdentity true, newPair.changedAt (.int (max reading 5))⟩, [.leave 2], rfl,
    fun asOf => by simp⟩

/-- The clock has moved on, so the change keeps its mark. -/
theorem later_change_keeps_mark :
    Runs (.beginning firstIdentity) (firstLook ++ secondChange true 6) (afterSecond 6) ∧
    (∃ first : Int, firstIdentity.lastUpdatedAt = .int first) ∧
    Timely (firstLook ++ secondChange true 6) ∧
    Unpublished (secondChange true 6) ∧
    (afterSecond 6).coordinator.snapshot.dirty = .bool true ∧
    (afterSecond 6).coordinator.clearDirty (some (.int 5)) =
      (.ok false, (afterSecond 6).coordinator) ∧
    (afterFirst true).coordinator.clearDirty (some (.int 5)) =
      (.ok true, (afterFirst false).coordinator) := by
  have start : ∃ first : Int, firstIdentity.lastUpdatedAt = .int first := ⟨0, rfl⟩
  have timely := firstLook_timely 6
  have quiet : Timely firstLook := (timely_append.mp timely).1
  have unpublished := secondChange_unpublished 6
  obtain ⟨taken, seenAt, changed, _⟩ :=
    @acknowledgement_after_look firstIdentity (oldIdentity true) (firstLook.take 4)
      (secondChange true 6) (afterSecond 6) (firstLook_continues 6) start timely
  obtain ⟨_, _, _, unchanged⟩ :=
    @acknowledgement_after_look firstIdentity (oldIdentity true) (firstLook.take 4)
      [] (afterFirst true) firstLook_runs start quiet
  obtain rfl : taken = 5 := by simpa [oldIdentity, Candidates.changedAt] using seenAt.symm
  obtain ⟨marked, refused, _⟩ := changed unpublished
  refine ⟨firstLook_continues 6, start, timely, unpublished, marked, refused.mpr ?_, ?_⟩
  · exact ⟨6, by simp [readings, secondChange, Move.reading?], by decide⟩
  · exact unchanged rfl rfl

/-- The clock has stood still, so the change loses its mark with what was seen. -/
theorem change_under_seen_time_loses_mark :
    Runs (.beginning firstIdentity) (firstLook ++ secondChange true 5) (afterSecond 5) ∧
    Timely (firstLook ++ secondChange true 5) ∧
    Unpublished (secondChange true 5) ∧
    (afterSecond 5).coordinator.snapshot.dirty = .bool true ∧
    (afterSecond 5).coordinator.clearDirty (some (oldIdentity true).lastUpdatedAt) =
      (.ok true,
        { (afterSecond 5).coordinator with
          snapshot := (afterSecond 5).coordinator.snapshot.published }) :=
  ⟨firstLook_continues 5, firstLook_timely 5, secondChange_unpublished 5, rfl, rfl⟩

end DiscoveryClient.Identity
