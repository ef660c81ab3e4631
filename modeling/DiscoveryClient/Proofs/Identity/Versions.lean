import DiscoveryClient.Proofs.Identity.Environment
import DiscoveryClient.Proofs.Identity.NewestRefresh
import Mathlib.Logic.Function.Basic

/-!
# Readings over versions

While refreshes overlap, what they read passes through versions.  A refresh
takes its number, then reads a host name, then an address, each from whatever
version is there at that moment.

A run is watched with the version that is there and with the versions at which
every refresh began and read.  Readings are never taken back, so the candidates
of a refresh remain those of its versions.
-/

namespace DiscoveryClient.Identity

/-! ## Readings -/

/-- What a refresh reads, in this order. -/
inductive Part where
  | hostName
  | ipAddress
  deriving DecidableEq

def Candidates.part (found : Candidates) : Part → Value
  | .hostName => found.hostName
  | .ipAddress => found.ipAddress

namespace Environment

def part (environment : Environment) : Part → Except Failure Value
  | .hostName => do environment.address (← environment.hostOrder) environment.hostName
  | .ipAddress => do environment.address (← environment.ipOrder) environment.ipAddress

theorem candidates_of_parts {environment : Environment} {found : Candidates}
    (parts : ∀ part, environment.part part = .ok (found.part part)) :
    environment.candidates = .ok found := by
  have hostName := parts .hostName
  have ipAddress := parts .ipAddress
  cases ofHost : environment.hostOrder with
  | error failure => simp [part, ofHost, bind, Except.bind] at hostName
  | ok hostOrder =>
      cases ofIp : environment.ipOrder with
      | error failure => simp [part, ofIp, bind, Except.bind] at ipAddress
      | ok ipOrder =>
          simp only [part, ofHost, ofIp, bind, Except.bind] at hostName ipAddress
          simp only [candidates, ofHost, ofIp, hostName, ipAddress, bind, Except.bind]
          rfl

end Environment

/-- The versions at which a refresh began and read. -/
structure Readings where
  entered : Nat := 0
  version? : Part → Option Nat := fun _ => none

namespace Readings

variable {readings : Readings} {versions : Nat → Environment} {found : Candidates}

def next? (readings : Readings) : Option Part :=
  if readings.version? .hostName = none then some .hostName
  else if readings.version? .ipAddress = none then some .ipAddress
  else none

def note (readings : Readings) (part : Part) (version : Nat) : Readings :=
  { readings with version? := Function.update readings.version? part (some version) }

/-- Both parts were read from one version. -/
def Wholly (readings : Readings) (version : Nat) : Prop :=
  ∀ part, readings.version? part = some version

/-- The candidates are what was read, each part at its version. -/
def Give (versions : Nat → Environment) (readings : Readings) (found : Candidates) : Prop :=
  ∀ part, ∃ version, readings.version? part = some version ∧
    (versions version).part part = .ok (found.part part)

theorem version?_of_next? {part : Part} (next : readings.next? = some part) :
    readings.version? part = none := by
  unfold next? at next
  split at next
  next unread =>
    obtain rfl := Option.some.inj next
    exact unread
  next =>
    split at next
    next unread =>
      obtain rfl := Option.some.inj next
      exact unread
    next => simp at next

theorem Give.complete (given : readings.Give versions found) : readings.next? = none := by
  cases next : readings.next? with
  | none => rfl
  | some part =>
      obtain ⟨version, read, _⟩ := given part
      simp [version?_of_next? next] at read

theorem Give.candidates (given : readings.Give versions found) {version : Nat}
    (wholly : readings.Wholly version) : (versions version).candidates = .ok found := by
  apply Environment.candidates_of_parts
  intro part
  obtain ⟨readAt, read, answer⟩ := given part
  obtain rfl : readAt = version := Option.some.inj (read.symm.trans (wholly part))
  exact answer

end Readings

/-! ## Runs over versions -/

/-- A state of a run, with the version that is there now and all readings by the number
of their refresh. -/
structure Watch where
  state : State
  version : Nat := 0
  readings : Nat → Readings := fun _ => {}

namespace Watch

def beginning (initial : Snapshot) : Watch where
  state := .beginning initial

def turn (watch : Watch) : Watch :=
  { watch with version := watch.version + 1 }

def read (watch : Watch) (sequence : Nat) (part : Part) : Watch :=
  { watch with
    readings := Function.update watch.readings sequence
      ((watch.readings sequence).note part watch.version) }

def enter (watch : Watch) (sequence : Nat) (state : State) : Watch :=
  { watch with
    state
    readings := Function.update watch.readings sequence { entered := watch.version } }

end Watch

inductive Sight where
  /-- The next version comes. -/
  | turn
  | read (sequence : Nat) (part : Part)
  | step (move : Move)

def Sight.move? : Sight → Option Move
  | .step move => some move
  | _ => none

def stepsOf (sights : List Sight) : List Move :=
  sights.filterMap Sight.move?

/-- One step, between those of other refreshes.  Only what has been read can be found;
a reading that fails is not seen, but its refresh may fail at any time. -/
inductive Observes (versions : Nat → Environment) : Watch → Sight → Watch → Prop where
  | turn {watch} : Observes versions watch .turn watch.turn
  | read {watch sequence part value} :
      ⟨sequence, .resolving⟩ ∈ watch.state.flights →
      (watch.readings sequence).next? = some part →
      (versions watch.version).part part = .ok value →
      Observes versions watch (.read sequence part) (watch.read sequence part)
  | enter {watch sequence next} :
      Advances watch.state (.enter sequence) next →
      Observes versions watch (.step (.enter sequence)) (watch.enter sequence next)
  | resolve {watch sequence found next} :
      (watch.readings sequence).Give versions found →
      Advances watch.state (.resolve sequence found) next →
      Observes versions watch (.step (.resolve sequence found)) { watch with state := next }
  | other {watch move next} :
      (∀ sequence, move ≠ .enter sequence) →
      (∀ sequence found, move ≠ .resolve sequence found) →
      Advances watch.state move next →
      Observes versions watch (.step move) { watch with state := next }

/-- Steps one after another, each of them allowed where it is taken. -/
inductive Sees (versions : Nat → Environment) (allowed : Watch → Sight → Prop)
    (start : Watch) : List Sight → Watch → Prop where
  | stay : Sees versions allowed start [] start
  | step {sights watch sight next} :
      Sees versions allowed start sights watch →
      allowed watch sight →
      Observes versions watch sight next →
      Sees versions allowed start (sights ++ [sight]) next

/-! ## Steps of the coordinator -/

theorem Advances.entered {state next : State} {sequence : Nat}
    (advance : Advances state (.enter sequence) next) :
    sequence = state.coordinator.lastSequence + 1 ∧
    next.coordinator.lastSequence = sequence ∧
    next.flights = state.flights ++ [⟨sequence, .resolving⟩] := by
  cases advance with
  | enter => exact ⟨rfl, rfl, rfl⟩

/-- A number that has been given is not given again. -/
theorem Advances.ne_of_started {state next : State} {number sequence : Nat}
    (advance : Advances state (.enter number) next)
    (started : sequence ≤ state.coordinator.lastSequence) : sequence ≠ number := by
  obtain ⟨isNext, _⟩ := advance.entered
  omega

theorem Advances.lastSequence {state next : State} {move : Move}
    (advance : Advances state move next) (entersNone : ∀ sequence, move ≠ .enter sequence) :
    next.coordinator.lastSequence = state.coordinator.lastSequence := by
  cases advance with
  | enter => exact (entersNone _ rfl).elim
  | apply now => exact Coordinator.apply_lastSequence
  | @clearDirty coordinator _ asOf =>
      rcases coordinator.clearDirty_cases asOf with ⟨_, _, ended⟩ | ended <;> rw [ended]
  | _ => rfl

/-- A refresh that goes on takes no place but its own. -/
theorem mem_of_proceeded {older younger : List Flight} {sequence : Nat} {next : Progress}
    {flight : Flight} (progress : Progress)
    (member : flight ∈ older ++ ⟨sequence, next⟩ :: younger) :
    flight = ⟨sequence, next⟩ ∨ flight ∈ older ++ ⟨sequence, progress⟩ :: younger := by
  rcases List.mem_append.mp member with inOlder | inRest
  · exact .inr (by simp [inOlder])
  · rcases List.mem_cons.mp inRest with same | inYounger
    · exact .inl same
    · exact .inr (by simp [inYounger])

/-- Once begun, refreshes only go on or leave. -/
theorem Advances.flights {state next : State} {move : Move}
    (advance : Advances state move next) (entersNone : ∀ sequence, move ≠ .enter sequence)
    {flight : Flight} (member : flight ∈ next.flights) :
    ∃ before ∈ state.flights, before.sequence = flight.sequence ∧
      ∀ found, flight.progress = .resolved found →
        before.progress = .resolved found ∨ move = .resolve flight.sequence found := by
  cases advance with
  | enter => exact (entersNone _ rfl).elim
  | resolve found =>
      rcases mem_of_proceeded .resolving member with rfl | same
      · refine ⟨⟨_, .resolving⟩, by simp, rfl, ?_⟩
        intro other is
        obtain rfl : found = other := by simpa using is
        exact .inr rfl
      · exact ⟨flight, same, rfl, fun _ => .inl⟩
  | fail =>
      rcases mem_of_proceeded .resolving member with rfl | same
      · exact ⟨⟨_, .resolving⟩, by simp, rfl, by simp⟩
      · exact ⟨flight, same, rfl, fun _ => .inl⟩
  | @apply _ _ _ sequence found now =>
      rcases mem_of_proceeded (.resolved found) member with rfl | same
      · exact ⟨⟨sequence, .resolved found⟩, by simp, rfl, by simp⟩
      · exact ⟨flight, same, rfl, fun _ => .inl⟩
  | leave =>
      rcases List.mem_append.mp member with inOlder | inYounger
      · exact ⟨flight, by simp [inOlder], rfl, fun _ => .inl⟩
      · exact ⟨flight, by simp [inYounger], rfl, fun _ => .inl⟩
  | _ => exact ⟨flight, member, rfl, fun _ => .inl⟩

@[simp] theorem stepsOf_append (first second : List Sight) :
    stepsOf (first ++ second) = stepsOf first ++ stepsOf second :=
  List.filterMap_append

theorem Sees.runs {versions : Nat → Environment} {allowed : Watch → Sight → Prop}
    {initial : Snapshot} {sights : List Sight} {watch : Watch}
    (sees : Sees versions allowed (.beginning initial) sights watch) :
    Runs (.beginning initial) (stepsOf sights) watch.state := by
  induction sees with
  | stay => exact .stay
  | step _ _ observes induction =>
      rw [stepsOf_append]
      cases observes with
      | turn =>
          have noMove : stepsOf [.turn] = [] := rfl
          rwa [noMove, List.append_nil]
      | @read sequence part =>
          have noMove : stepsOf [.read sequence part] = [] := rfl
          rwa [noMove, List.append_nil]
      | enter advance => exact induction.step advance
      | resolve _ advance => exact induction.step advance
      | other _ _ advance => exact induction.step advance

/-! ## Readings and versions -/

namespace Watch

variable {watch : Watch} {sequence other : Nat} {part asked : Part} {version : Nat}

@[simp] theorem read_entered :
    ((watch.read sequence part).readings other).entered = (watch.readings other).entered := by
  by_cases same : other = sequence
  · subst same
    simp [read, Readings.note]
  · simp [read, Function.update_of_ne same]

theorem version?_read
    (readAt : ((watch.read sequence part).readings other).version? asked = some version) :
    (watch.readings other).version? asked = some version ∨
      other = sequence ∧ version = watch.version := by
  by_cases sameRefresh : other = sequence
  · subst sameRefresh
    by_cases samePart : asked = part
    · subst samePart
      have newest : watch.version = version := by simpa [read, Readings.note] using readAt
      exact .inr ⟨rfl, newest.symm⟩
    · exact .inl (by simpa [read, Readings.note, Function.update_of_ne samePart] using readAt)
  · exact .inl (by simpa [read, Function.update_of_ne sameRefresh] using readAt)

end Watch

/-- What has been read lies between the beginning of its refresh and now, and refreshes
began in the order of their numbers. -/
structure Dated (watch : Watch) : Prop where
  begun : ∀ sequence, (watch.readings sequence).entered ≤ watch.version
  between : ∀ sequence part version,
    (watch.readings sequence).version? part = some version →
      (watch.readings sequence).entered ≤ version ∧ version ≤ watch.version
  inOrder : ∀ earlier later, earlier ≤ later →
    later ≤ watch.state.coordinator.lastSequence →
      (watch.readings earlier).entered ≤ (watch.readings later).entered

namespace Dated

variable {watch : Watch}

theorem turn (dated : Dated watch) : Dated watch.turn := by
  constructor
  · intro sequence
    exact Nat.le_succ_of_le (dated.begun sequence)
  · intro sequence part version readAt
    obtain ⟨after, before⟩ := dated.between sequence part version readAt
    exact ⟨after, Nat.le_succ_of_le before⟩
  · exact dated.inOrder

theorem read (dated : Dated watch) (sequence : Nat) (part : Part) :
    Dated (watch.read sequence part) := by
  constructor
  · intro other
    rw [Watch.read_entered]
    exact dated.begun other
  · intro other asked version readAt
    rw [Watch.read_entered]
    rcases Watch.version?_read readAt with before | ⟨_, rfl⟩
    · exact dated.between other asked version before
    · exact ⟨dated.begun other, Nat.le_refl _⟩
  · intro earlier later ordered started
    rw [Watch.read_entered, Watch.read_entered]
    exact dated.inOrder earlier later ordered started

theorem enter {next : State} (dated : Dated watch)
    (number : next.coordinator.lastSequence = watch.state.coordinator.lastSequence + 1) :
    Dated (watch.enter next.coordinator.lastSequence next) := by
  constructor
  · intro sequence
    by_cases new : sequence = next.coordinator.lastSequence
    · simp [Watch.enter, new]
    · simpa [Watch.enter, Function.update_of_ne new] using dated.begun sequence
  · intro sequence part version readAt
    by_cases new : sequence = next.coordinator.lastSequence
    · simp [Watch.enter, new] at readAt
    · simp only [Watch.enter, Function.update_of_ne new] at readAt ⊢
      exact dated.between sequence part version readAt
  · intro earlier later ordered started
    simp only [Watch.enter] at started ⊢
    by_cases new : later = next.coordinator.lastSequence
    · subst new
      by_cases same : earlier = next.coordinator.lastSequence
      · exact Nat.le_of_eq (by rw [same])
      · rw [Function.update_self, Function.update_of_ne same]
        exact dated.begun earlier
    · rw [Function.update_of_ne new, Function.update_of_ne (by omega)]
      exact dated.inOrder earlier later ordered (by omega)

theorem step {versions : Nat → Environment} {sight : Sight} {next : Watch}
    (dated : Dated watch) (observes : Observes versions watch sight next) : Dated next := by
  cases observes with
  | turn => exact dated.turn
  | read => exact dated.read _ _
  | enter advance =>
      obtain ⟨number, rfl, _⟩ := advance.entered
      exact dated.enter number
  | resolve _ advance =>
      refine ⟨dated.begun, dated.between, ?_⟩
      rw [advance.lastSequence (by simp)]
      exact dated.inOrder
  | other entersNone _ advance =>
      refine ⟨dated.begun, dated.between, ?_⟩
      rw [advance.lastSequence entersNone]
      exact dated.inOrder

end Dated

/-- Candidates, and what has been applied, are what was read. -/
structure Given (versions : Nat → Environment) (trace : List Move) (watch : Watch) : Prop where
  resolved : ∀ flight ∈ watch.state.flights, ∀ found, flight.progress = .resolved found →
    (watch.readings flight.sequence).Give versions found
  applied : ∀ applied ∈ applications trace,
    (watch.readings applied.1).Give versions applied.2

/-- A refresh that has read both parts has no other readings later. -/
theorem Observes.keepsReadings {versions : Nat → Environment} {watch next : Watch}
    {sight : Sight} (observes : Observes versions watch sight next) {sequence : Nat}
    (started : sequence ≤ watch.state.coordinator.lastSequence) {found : Candidates}
    (given : (watch.readings sequence).Give versions found) :
    next.readings sequence = watch.readings sequence := by
  cases observes with
  | @read reader _ _ _ unread _ =>
      have other : sequence ≠ reader := by
        rintro rfl
        simp [given.complete] at unread
      simp [Watch.read, Function.update_of_ne other]
  | enter advance =>
      simp [Watch.enter, Function.update_of_ne (advance.ne_of_started started)]
  | turn => rfl
  | resolve => rfl
  | other => rfl

/-- What is applied has been found before. -/
theorem Observes.applies {versions : Nat → Environment} {watch next : Watch} {sight : Sight}
    (observes : Observes versions watch sight next) {applied : Nat × Candidates}
    (member : applied ∈ applications (stepsOf [sight])) :
    ⟨applied.1, .resolved applied.2⟩ ∈ watch.state.flights := by
  cases observes with
  | other _ _ advance =>
      cases advance.touches with
      | applied now found =>
          obtain rfl := List.mem_singleton.mp member
          exact found
      | cleared => cases member
      | aside isAside =>
          simp [stepsOf, Sight.move?, applications, isAside.application?] at member
  | turn => cases member
  | read => cases member
  | enter => cases member
  | resolve => cases member

namespace Given

variable {versions : Nat → Environment} {trace : List Move} {watch next : Watch}
  {sight : Sight}

theorem step (given : Given versions trace watch) (numbered : Numbered trace watch.state)
    (observes : Observes versions watch sight next) :
    Given versions (trace ++ stepsOf [sight]) next := by
  have keeps : ∀ flight ∈ watch.state.flights, ∀ found, flight.progress = .resolved found →
      (next.readings flight.sequence).Give versions found := by
    intro flight member found is
    have readBefore := given.resolved flight member found is
    rwa [observes.keepsReadings (numbered.started flight member) readBefore]
  have keepsApplied : ∀ applied ∈ applications trace,
      (next.readings applied.1).Give versions applied.2 := by
    intro applied member
    have readBefore := given.applied applied member
    rwa [observes.keepsReadings (numbered.appliedStarted applied member) readBefore]
  constructor
  · intro flight member found is
    cases observes with
    | turn => exact keeps flight member found is
    | read => exact keeps flight member found is
    | enter advance =>
        obtain ⟨_, _, flights⟩ := advance.entered
        simp only [Watch.enter, flights, List.mem_append, List.mem_singleton] at member
        rcases member with before | rfl
        · exact keeps flight before found is
        · simp at is
    | resolve given advance =>
        obtain ⟨before, memberBefore, same, foundBefore⟩ :=
          advance.flights (by simp) member
        rcases foundBefore found is with wasFound | resolves
        · rw [← same]
          exact keeps before memberBefore found wasFound
        · obtain ⟨rfl, rfl⟩ := Move.resolve.inj resolves
          exact given
    | other entersNone resolvesNone advance =>
        obtain ⟨before, memberBefore, same, foundBefore⟩ :=
          advance.flights entersNone member
        rcases foundBefore found is with wasFound | resolves
        · rw [← same]
          exact keeps before memberBefore found wasFound
        · exact (resolvesNone _ _ resolves).elim
  · intro applied member
    rw [applications_append, List.mem_append] at member
    rcases member with before | isNew
    · exact keepsApplied applied before
    · exact keeps _ (observes.applies isNew) _ rfl

end Given

section

variable {versions : Nat → Environment} {allowed : Watch → Sight → Prop} {initial : Snapshot}
  {sights : List Sight} {watch : Watch}
  (sees : Sees versions allowed (.beginning initial) sights watch)
include sees

theorem Sees.dated : Dated watch := by
  induction sees with
  | stay => constructor <;> simp [Watch.beginning]
  | step _ _ observes induction => exact induction.step observes

theorem Sees.given : Given versions (stepsOf sights) watch := by
  induction sees with
  | stay => constructor <;> simp [Watch.beginning, State.beginning, stepsOf, applications]
  | step sees _ observes induction =>
      rw [stepsOf_append]
      exact induction.step sees.runs.numbered observes

end

end DiscoveryClient.Identity
