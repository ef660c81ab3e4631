import DiscoveryClient.Proofs.Identity.Publication

/-!
# Time and mark over a run

The time of an identity never goes back, whatever the clock does.  Its mark
tells its past: it is there if a change has come since the last acknowledgement
that took it away, or if it was there from the start and none has.
-/

namespace DiscoveryClient.Identity

/-- The mark is still to be taken away: that of a change, or the one at the start. -/
def Outstanding (initial : Snapshot) (trace : List Move) : Prop :=
  Unpublished trace ∨
    initial.dirty.isFilled = true ∧ ∀ asOf, .clearDirty asOf (.ok true) ∉ trace

/-! ## The time -/

/-- The clock of a change that has been applied was not read later than the time
that is in place. -/
theorem Runs.reading_le {start state : State} {trace : List Move}
    (run : Runs start trace state) {first : Int}
    (begun : start.coordinator.snapshot.lastUpdatedAt = .int first) (timely : Timely trace)
    {reading : Int} (read : reading ∈ readings trace) :
    ∃ last : Int, state.coordinator.snapshot.lastUpdatedAt = .int last ∧ reading ≤ last := by
  obtain ⟨move, member, moveReads⟩ := List.mem_filterMap.mp read
  obtain ⟨before, after, rfl⟩ := List.append_of_mem member
  obtain ⟨reached, next, earlier, advance, later⟩ := run.around
  rw [timely_append] at timely
  obtain ⟨taken, takenAt, _, _⟩ := earlier.timedSince begun timely.1
  have timelyAfter : Timely after := fun move member =>
    timely.2 move (List.mem_cons_of_mem _ member)
  unfold Move.reading? at moveReads
  split at moveReads
  next sequence found now change =>
    obtain rfl : now = reading := Option.some.inj moveReads
    obtain ⟨_, _, time, timed, _, changed⟩ := advance.change
    rw [Coordinator.timeOfChange_int takenAt] at timed
    obtain rfl := Except.ok.inj timed
    have stamped : next.coordinator.snapshot.lastUpdatedAt = .int (max now taken) := by
      rw [changed]
      rfl
    obtain ⟨last, lastUpdated, grown, _⟩ := later.timedSince stamped timelyAfter
    exact ⟨last, lastUpdated, by omega⟩
  next => simp at moveReads

/-! ## The mark -/

/-- Where a step stands in a trace with one step more. -/
theorem snoc_eq_around {trace before after : List Move} {last move : Move}
    (whole : trace ++ [last] = before ++ move :: after) :
    (trace = before ∧ last = move ∧ after = []) ∨
      ∃ front, after = front ++ [last] ∧ trace = before ++ move :: front := by
  rcases List.eq_nil_or_concat after with rfl | ⟨front, other, rfl⟩
  · obtain ⟨same, lastEq⟩ := List.append_inj' whole rfl
    exact .inl ⟨same, by simpa using lastEq, rfl⟩
  · rw [List.concat_eq_append, ← List.cons_append, ← List.append_assoc] at whole
    obtain ⟨frontEq, lastEq⟩ := List.append_inj' whole rfl
    obtain rfl : last = other := by simpa using lastEq
    exact .inr ⟨front, List.concat_eq_append, frontEq⟩

theorem unpublished_snoc {trace : List Move} {move : Move} :
    Unpublished (trace ++ [move]) ↔
      (∃ change, move.change? = some change) ∨
        (∀ asOf, move ≠ .clearDirty asOf (.ok true)) ∧ Unpublished trace := by
  constructor
  · rintro ⟨before, sequence, found, now, change, after, whole, noClearing⟩
    rcases snoc_eq_around whole with ⟨_, rfl, _⟩ | ⟨front, rfl, rfl⟩
    · exact .inl ⟨change, rfl⟩
    · refine .inr ⟨?_, before, sequence, found, now, change, front, rfl, ?_⟩
      · rintro asOf rfl
        exact noClearing asOf (by simp)
      · exact fun asOf member => noClearing asOf (List.mem_append_left _ member)
  · rintro (⟨change, isChange⟩ | ⟨noClearing, before, sequence, found, now, change, after, rfl,
      noneAfter⟩)
    · unfold Move.change? at isChange
      split at isChange
      next sequence found now answer =>
        subst isChange
        exact ⟨trace, sequence, found, now, change, [], rfl, by simp⟩
      next => simp at isChange
    · refine ⟨before, sequence, found, now, change, after ++ [move], by simp, ?_⟩
      intro asOf member
      rcases List.mem_append.mp member with earlier | last
      · exact noneAfter asOf earlier
      · exact noClearing asOf (List.mem_singleton.mp last).symm

/-- A change makes a mark outstanding, an acknowledgement that takes it away leaves
none, and no other step matters. -/
theorem outstanding_snoc {initial : Snapshot} {trace : List Move} {move : Move} :
    Outstanding initial (trace ++ [move]) ↔
      (∃ change, move.change? = some change) ∨
        (∀ asOf, move ≠ .clearDirty asOf (.ok true)) ∧ Outstanding initial trace := by
  have noClearings : (∀ asOf, .clearDirty asOf (.ok true) ∉ trace ++ [move]) ↔
      (∀ asOf, move ≠ .clearDirty asOf (.ok true)) ∧
        ∀ asOf, .clearDirty asOf (.ok true) ∉ trace := by
    simp only [List.mem_append, List.mem_singleton, not_or, forall_and, ne_comm (a := move)]
    exact and_comm
  rw [Outstanding, unpublished_snoc, noClearings, or_assoc, and_left_comm, ← and_or_left,
    Outstanding]

theorem Runs.marked_iff {initial : Snapshot} {trace : List Move} {state : State}
    (run : Runs (.beginning initial) trace state)
    (start : ∃ first : Int, initial.lastUpdatedAt = .int first) (timely : Timely trace) :
    state.coordinator.snapshot.dirty.isFilled = true ↔ Outstanding initial trace := by
  induction run with
  | stay =>
      have unchanged : ¬Unpublished [] := by
        rintro ⟨before, _, _, _, _, after, whole, _⟩
        simp at whole
      simp [Outstanding, unchanged, State.beginning]
  | @step trace state move next run advance induction =>
      rw [timely_append] at timely
      have before := induction timely.1
      obtain ⟨_, last, lastUpdated⟩ := run.chained start timely.1
      cases advance.touches with
      | @applied sequence found now _ _ result =>
          obtain ⟨reading, rfl⟩ : ∃ reading : Int, now = .ok (.int reading) :=
            timely.2 _ List.mem_cons_self
          rw [result]
          cases changes : state.coordinator.wouldChange sequence found with
          | false =>
              rw [Coordinator.apply_unchanged changes, outstanding_snoc, ← before]
              simp [Move.change?, Coordinator.advance]
          | true =>
              rw [Coordinator.apply_changed changes (Coordinator.timeOfChange_int lastUpdated)]
              exact ⟨fun _ => outstanding_snoc.mpr (.inl ⟨_, rfl⟩), fun _ => rfl⟩
      | cleared result =>
          rw [result, outstanding_snoc]
          simp [Move.change?, Snapshot.published, Value.isFilled]
      | aside isAside same _ =>
          rw [same, before, outstanding_snoc]
          simp [isAside.change?, isAside.ne_clearDirty]

/-- A mark that is a truth value stays one. -/
theorem Runs.mark_isBool {initial : Snapshot} {trace : List Move} {state : State}
    (run : Runs (.beginning initial) trace state) :
    state.coordinator.snapshot.dirty = initial.dirty ∨
      ∃ marked, state.coordinator.snapshot.dirty = .bool marked := by
  induction run with
  | stay => exact .inl rfl
  | @step trace state move next _ advance induction =>
      cases advance.touches with
      | @applied sequence found now _ _ result =>
          rw [result]
          rcases state.coordinator.apply_cases sequence found now with
            ⟨_, ended⟩ | ⟨_, _, _, ended⟩ | ⟨_, _, _, ended⟩
          · rw [ended]
            exact induction
          · rw [ended]
            exact .inr ⟨true, rfl⟩
          · rw [ended]
            exact .inr ⟨true, rfl⟩
      | cleared result =>
          rw [result]
          exact .inr ⟨false, rfl⟩
      | aside _ same _ =>
          rw [same]
          exact induction

/-! ## Acknowledgements -/

/-- An acknowledgement answers yes exactly when it takes the mark away, and does
nothing else. -/
theorem Advances.clearing {state next : State} {asOf : Option Value}
    {answer : Except Failure Bool} (advance : Advances state (.clearDirty asOf answer) next) :
    (answer = .ok true ↔
      state.coordinator.snapshot.dirty.isFilled = true ∧
        next.coordinator.snapshot.dirty.isFilled = false) ∧
    next.coordinator.snapshot.hostName = state.coordinator.snapshot.hostName ∧
    next.coordinator.snapshot.ipAddress = state.coordinator.snapshot.ipAddress ∧
    next.coordinator.snapshot.lastUpdatedAt = state.coordinator.snapshot.lastUpdatedAt := by
  cases advance with
  | @clearDirty coordinator _ _ =>
      rcases coordinator.clearDirty_cases asOf with ⟨answer, refused, ended⟩ | ended
      · rw [ended]
        simp [refused]
      · have marked : coordinator.snapshot.dirty.isFilled = true := by
          cases filled : coordinator.snapshot.dirty.isFilled with
          | true => rfl
          | false => simp [Coordinator.clearDirty, filled] at ended
        rw [ended]
        exact ⟨⟨fun _ => ⟨marked, rfl⟩, fun _ => rfl⟩, rfl, rfl, rfl⟩

/-- Only an application gives the identity another host name or address. -/
theorem Advances.keeps_candidates {state next : State} {move : Move}
    (advance : Advances state move next) (notApplied : move.application? = none) :
    next.coordinator.snapshot.hostName = state.coordinator.snapshot.hostName ∧
      next.coordinator.snapshot.ipAddress = state.coordinator.snapshot.ipAddress := by
  cases advance.touches with
  | applied => simp [Move.application?] at notApplied
  | cleared result =>
      rw [result]
      exact ⟨rfl, rfl⟩
  | aside _ same _ =>
      rw [same]
      exact ⟨rfl, rfl⟩

/-- In every run whose clock answers integers, the time never goes back and is never
before what the clock read for a change; a mark is there exactly if it is
outstanding.  An acknowledgement answers yes exactly when it takes the mark away
and touches nothing else, and only refreshes, by applying their candidates, change
the host name and the address. -/
theorem time_and_mark_follow_history {initial : Snapshot} {trace : List Move} {state : State}
    (run : Runs (.beginning initial) trace state)
    (start : ∃ first : Int, initial.lastUpdatedAt = .int first) (timely : Timely trace) :
    (∀ before after middle, trace = before ++ after →
      Runs (.beginning initial) before middle → Runs middle after state →
      ∃ earlier last : Int,
        middle.coordinator.snapshot.lastUpdatedAt = .int earlier ∧
        state.coordinator.snapshot.lastUpdatedAt = .int last ∧
        earlier ≤ last ∧ ∀ reading ∈ readings after, reading ≤ last) ∧
    (state.coordinator.snapshot.dirty.isFilled = true ↔ Outstanding initial trace) ∧
    ((∃ marked, initial.dirty = .bool marked) →
      ∃ marked, state.coordinator.snapshot.dirty = .bool marked) ∧
    (∀ asOf answer next, Advances state (.clearDirty asOf answer) next →
      (answer = .ok true ↔
        state.coordinator.snapshot.dirty.isFilled = true ∧
          next.coordinator.snapshot.dirty.isFilled = false) ∧
      next.coordinator.snapshot.hostName = state.coordinator.snapshot.hostName ∧
      next.coordinator.snapshot.ipAddress = state.coordinator.snapshot.ipAddress ∧
      next.coordinator.snapshot.lastUpdatedAt = state.coordinator.snapshot.lastUpdatedAt) ∧
    (∀ move next, Advances state move next → move.application? = none →
      next.coordinator.snapshot.hostName = state.coordinator.snapshot.hostName ∧
      next.coordinator.snapshot.ipAddress = state.coordinator.snapshot.ipAddress) := by
  refine ⟨?_, run.marked_iff start timely, ?_, fun _ _ _ advance => advance.clearing,
    fun _ _ advance => advance.keeps_candidates⟩
  · intro before after middle whole earlier later
    subst whole
    rw [timely_append] at timely
    obtain ⟨_, taken, takenAt⟩ := earlier.chained start timely.1
    obtain ⟨last, lastUpdated, grown, _⟩ := later.timedSince takenAt timely.2
    refine ⟨taken, last, takenAt, lastUpdated, grown, ?_⟩
    intro reading read
    obtain ⟨_, sameTime, notLater⟩ := later.reading_le takenAt timely.2 read
    rw [lastUpdated, Value.int.injEq] at sameTime
    rwa [sameTime]
  · rintro ⟨marked, begun⟩
    rcases run.mark_isBool with same | isBool
    · exact ⟨marked, same.trans begun⟩
    · exact isBool

/-! ## An acknowledged change, and another under a clock that goes back -/

theorem goingBack_runs :
    Runs (.beginning firstIdentity)
      ((firstLook ++ [.clearDirty none (.ok true)]) ++ secondChange false 3) (afterSecond 3) :=
  (firstLook_runs.step (.clearDirty none)).append (secondChange_runs false 3)

/-- The clock has gone back from 5 to 3: the time stays, and the second change brings
the mark back. -/
theorem backward_clock_keeps_time :
    Runs (.beginning firstIdentity)
      ((firstLook ++ [.clearDirty none (.ok true)]) ++ secondChange false 3) (afterSecond 3) ∧
    (∃ first : Int, firstIdentity.lastUpdatedAt = .int first) ∧
    Timely ((firstLook ++ [.clearDirty none (.ok true)]) ++ secondChange false 3) ∧
    (∃ last : Int, (afterSecond 3).coordinator.snapshot.lastUpdatedAt = .int last ∧
      5 ≤ last ∧ 3 ≤ last) ∧
    Outstanding firstIdentity
      ((firstLook ++ [.clearDirty none (.ok true)]) ++ secondChange false 3) ∧
    ¬Outstanding firstIdentity (firstLook ++ [.clearDirty none (.ok true)]) := by
  have start : ∃ first : Int, firstIdentity.lastUpdatedAt = .int first := ⟨0, rfl⟩
  have timely :
      Timely ((firstLook ++ [.clearDirty none (.ok true)]) ++ secondChange false 3) := by
    simp [Timely, firstLook, secondChange, Move.IsTimely]
  have cleared := firstLook_runs.step (.clearDirty none)
  obtain ⟨times, marked, _⟩ := time_and_mark_follow_history goingBack_runs start timely
  obtain ⟨_, unmarked, _⟩ :=
    time_and_mark_follow_history cleared start (timely_append.mp timely).1
  obtain ⟨earlier, last, earlierEq, lastEq, grown, read⟩ :=
    times _ _ _ rfl cleared (secondChange_runs false 3)
  obtain rfl : 5 = earlier := Value.int.inj earlierEq
  refine ⟨goingBack_runs, start, timely, ⟨last, lastEq, grown, read 3 ?_⟩, marked.mp rfl, ?_⟩
  · simp [readings, secondChange, Move.reading?]
  · exact fun outstanding => Bool.false_ne_true (unmarked.mpr outstanding)

end DiscoveryClient.Identity
