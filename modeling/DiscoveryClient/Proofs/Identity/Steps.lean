import DiscoveryClient.Identity.Coordinator

/-!
# The steps of a coordinator

An application ends in one of three ways.  It leaves the identity alone, it
replaces all of it, or it finds no time for the change and ends half-way.  An
acknowledgement either changes nothing or takes the mark away.
-/

namespace DiscoveryClient

namespace Value

theorem equals_text_iff {content : String} {value : Value} :
    equals (.text content) value = true ↔ value = .text content := by
  cases value with
  | text other =>
      rw [equals_text, beq_iff_eq, Value.text.injEq]
      exact eq_comm
  | null => simp [equals, equalsNumber, rank?, integer?]
  | bool other => simp [equals, equalsNumber, rank?, integer?]
  | int other => simp [equals, equalsNumber, rank?, integer?]
  | float other => simp [equals, equalsNumber, rank?, integer?]
  | list items => simp [equals, equalsNumber, rank?, integer?]
  | tuple items => simp [equals, equalsNumber, rank?, integer?]
  | dict entries => simp [equals, equalsNumber, rank?, integer?]

end Value

namespace Identity

/-! ## Candidates -/

/-- Host name and address are texts, which all sources of addresses promise. -/
def Candidates.AreTexts (found : Candidates) : Prop :=
  ∃ hostName ipAddress, found = ⟨.text hostName, .text ipAddress⟩

/-- For texts, to name the same host and address is to be the same. -/
theorem Candidates.agree_iff
    {found other : Candidates} (texts : found.AreTexts) :
    found.agree other = true ↔ other = found := by
  obtain ⟨hostName, ipAddress, rfl⟩ := texts
  obtain ⟨otherHost, otherAddress⟩ := other
  simp only [Candidates.agree, Bool.and_eq_true, Value.equals_text_iff, Candidates.mk.injEq]

/-- The pair in place is that of the candidates, or one that names the same. -/
def Candidates.HoldIn (found inPlace : Candidates) : Prop :=
  inPlace = found ∨ found.agree inPlace = true

theorem Candidates.HoldIn.eq
    {found inPlace : Candidates} (holds : found.HoldIn inPlace) (texts : found.AreTexts) :
    inPlace = found := by
  rcases holds with same | agreed
  · exact same
  · exact (Candidates.agree_iff texts).mp agreed

/-- The identity that candidates make at a time, which is still to be published. -/
def Candidates.changedAt (found : Candidates) (time : Value) : Snapshot where
  hostName := found.hostName
  ipAddress := found.ipAddress
  lastUpdatedAt := time
  dirty := .bool true

/-- The identity with the mark taken away. -/
def Snapshot.published (snapshot : Snapshot) : Snapshot :=
  { snapshot with dirty := .bool false }

namespace Coordinator

variable {coordinator : Coordinator} {sequence : Nat} {found : Candidates}
  {now : Except Failure Value}

/-! ## Applications -/

/-- The coordinator with candidates in place of its identity, changed at a time. -/
def changed (coordinator : Coordinator) (sequence : Nat) (found : Candidates) (time : Value) :
    Coordinator :=
  { coordinator.advance sequence with snapshot := found.changedAt time }

theorem wouldChange_iff :
    coordinator.wouldChange sequence found = true ↔
      coordinator.appliedSequence ≤ sequence ∧
        found.agree coordinator.snapshot.candidates = false := by
  simp [wouldChange]

theorem wouldChange_of_late (late : sequence < coordinator.appliedSequence) :
    coordinator.wouldChange sequence found = false := by
  simp [wouldChange, Nat.not_le_of_gt late]

/-- The application is late, or the identity has the candidates already. -/
theorem apply_unchanged (same : coordinator.wouldChange sequence found = false) :
    coordinator.apply sequence found now = (.ok none, coordinator.advance sequence) := by
  simp [apply, same]

theorem apply_changed
    (changes : coordinator.wouldChange sequence found = true)
    {time : Value} (timed : coordinator.timeOfChange now = .ok time) :
    coordinator.apply sequence found now =
      (.ok (some ⟨coordinator.snapshot, found.changedAt time⟩),
        coordinator.changed sequence found time) := by
  simp only [apply, changes, if_true, timed]
  rfl

/-- Without a time, everything but the time is in place. -/
theorem apply_untimed
    (changes : coordinator.wouldChange sequence found = true)
    {failure : Failure} (untimed : coordinator.timeOfChange now = .error failure) :
    coordinator.apply sequence found now =
      (.error failure,
        coordinator.changed sequence found coordinator.snapshot.lastUpdatedAt) := by
  simp only [apply, changes, if_true, untimed]
  rfl

/-- The three ways in which an application ends. -/
theorem apply_cases (coordinator : Coordinator) (sequence : Nat) (found : Candidates)
    (now : Except Failure Value) :
    (coordinator.wouldChange sequence found = false ∧
      coordinator.apply sequence found now = (.ok none, coordinator.advance sequence)) ∨
    (coordinator.wouldChange sequence found = true ∧
      ∃ time, coordinator.timeOfChange now = .ok time ∧
        coordinator.apply sequence found now =
          (.ok (some ⟨coordinator.snapshot, found.changedAt time⟩),
            coordinator.changed sequence found time)) ∨
    (coordinator.wouldChange sequence found = true ∧
      ∃ failure, coordinator.timeOfChange now = .error failure ∧
        coordinator.apply sequence found now =
          (.error failure,
            coordinator.changed sequence found coordinator.snapshot.lastUpdatedAt)) := by
  cases changes : coordinator.wouldChange sequence found with
  | false => exact .inl ⟨rfl, apply_unchanged changes⟩
  | true =>
      cases timed : coordinator.timeOfChange now with
      | ok time => exact .inr (.inl ⟨rfl, time, rfl, apply_changed changes timed⟩)
      | error failure => exact .inr (.inr ⟨rfl, failure, rfl, apply_untimed changes timed⟩)

@[simp] theorem apply_appliedSequence :
    (coordinator.apply sequence found now).2.appliedSequence =
      max coordinator.appliedSequence sequence := by
  rcases apply_cases coordinator sequence found now with
    ⟨_, ended⟩ | ⟨_, _, _, ended⟩ | ⟨_, _, _, ended⟩ <;> rw [ended] <;> rfl

@[simp] theorem apply_lastSequence :
    (coordinator.apply sequence found now).2.lastSequence = coordinator.lastSequence := by
  rcases apply_cases coordinator sequence found now with
    ⟨_, ended⟩ | ⟨_, _, _, ended⟩ | ⟨_, _, _, ended⟩ <;> rw [ended] <;> rfl

@[simp] theorem apply_inFlight :
    (coordinator.apply sequence found now).2.inFlight = coordinator.inFlight := by
  rcases apply_cases coordinator sequence found now with
    ⟨_, ended⟩ | ⟨_, _, _, ended⟩ | ⟨_, _, _, ended⟩ <;> rw [ended] <;> rfl

theorem apply_snapshot_of_same (same : coordinator.wouldChange sequence found = false) :
    (coordinator.apply sequence found now).2.snapshot = coordinator.snapshot := by
  rw [apply_unchanged same]
  rfl

theorem apply_candidates_of_changes
    (changes : coordinator.wouldChange sequence found = true) :
    (coordinator.apply sequence found now).2.snapshot.candidates = found := by
  cases timed : coordinator.timeOfChange now with
  | ok time => rw [apply_changed changes timed]; rfl
  | error failure => rw [apply_untimed changes timed]; rfl

/-- With integer times, a change happens at the later of now and the last change. -/
theorem timeOfChange_int {last time : Int}
    (lastUpdated : coordinator.snapshot.lastUpdatedAt = .int last) :
    coordinator.timeOfChange (.ok (.int time)) = .ok (.int (max time last)) := by
  simp only [timeOfChange, lastUpdated]
  exact Value.orHigher_int time last

/-! ## Acknowledgements -/

theorem clearDirty_cases (coordinator : Coordinator) (asOf : Option Value) :
    (∃ answer, answer ≠ .ok true ∧ coordinator.clearDirty asOf = (answer, coordinator)) ∨
      coordinator.clearDirty asOf =
        (.ok true, { coordinator with snapshot := coordinator.snapshot.published }) := by
  unfold clearDirty
  cases marked : coordinator.snapshot.dirty.isFilled with
  | false => exact .inl ⟨.ok false, by simp, by simp [marked]⟩
  | true =>
      cases later : asOf.elim (.ok false) coordinator.snapshot.lastUpdatedAt.exceeds with
      | error failure => exact .inl ⟨.error failure, by simp, by simp [marked, later]⟩
      | ok changed =>
          cases changed with
          | true => exact .inl ⟨.ok false, by simp, by simp [marked, later]⟩
          | false => exact .inr (by simp [marked, later, Snapshot.published])

/-- With integer times, a set mark is taken away unless the last change is later. -/
theorem clearDirty_int {last taken : Int}
    (marked : coordinator.snapshot.dirty.isFilled = true)
    (lastUpdated : coordinator.snapshot.lastUpdatedAt = .int last) :
    coordinator.clearDirty (some (.int taken)) =
      if taken < last then (.ok false, coordinator)
      else (.ok true, { coordinator with snapshot := coordinator.snapshot.published }) := by
  simp only [clearDirty, marked, lastUpdated, Option.elim, Value.exceeds_int]
  by_cases later : taken < last <;> simp [later, lastUpdated, Snapshot.published]

end Coordinator

end Identity

end DiscoveryClient
