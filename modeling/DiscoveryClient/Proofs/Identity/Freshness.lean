import DiscoveryClient.Proofs.Identity.Versions

/-!
# Freshness

The numbers of refreshes need not follow the versions that they read, for a
number is taken before the readings.  An older version can be put back, though
only by a refresh that began before the newer one came, and after the refresh
that had found it.

Such refreshes cross each other.  Where they are nested instead, as on a single
thread, a refresh that begins within another leaves before the other goes on,
and what is in place never gets older.
-/

namespace DiscoveryClient.Identity

/-- The refresh whose own step it is, if it has begun before. -/
def Sight.actor? : Sight → Option Nat
  | .read sequence _ => some sequence
  | .step (.resolve sequence _) => some sequence
  | .step (.fail sequence) => some sequence
  | .step (.apply sequence ..) => some sequence
  | .step (.leave sequence) => some sequence
  | _ => none

/-- No refresh takes a step while one that began after it is under way. -/
def Innermost (watch : Watch) (sight : Sight) : Prop :=
  ∀ sequence, sight.actor? = some sequence →
    ∀ flight ∈ watch.state.flights, flight.sequence ≤ sequence

/-- Of all that was read from one version and put in place, nothing is older than what
was put in place before it. -/
def Watch.NeverBack (watch : Watch) (trace : List Move) : Prop :=
  (changers trace).Pairwise fun earlier later => ∀ before after,
    (watch.readings earlier).Wholly before → (watch.readings later).Wholly after →
      before ≤ after

/-! ## Nested refreshes -/

section

variable {versions : Nat → Environment} {watch next : Watch} {sight : Sight}
  (observes : Observes versions watch sight next)
include observes

theorem Observes.entered_eq {sequence : Nat}
    (started : sequence ≤ watch.state.coordinator.lastSequence) :
    (next.readings sequence).entered = (watch.readings sequence).entered := by
  cases observes with
  | read => exact Watch.read_entered
  | enter advance =>
      simp [Watch.enter, Function.update_of_ne (advance.ne_of_started started)]
  | turn => rfl
  | resolve => rfl
  | other => rfl

/-- A refresh under way was so before, or begins now. -/
theorem Observes.flights {flight : Flight} (member : flight ∈ next.state.flights) :
    (∃ before ∈ watch.state.flights, before.sequence = flight.sequence) ∨
      (next.readings flight.sequence).entered = watch.version := by
  cases observes with
  | turn => exact .inl ⟨flight, member, rfl⟩
  | read => exact .inl ⟨flight, member, rfl⟩
  | enter advance =>
      obtain ⟨_, _, flights⟩ := advance.entered
      simp only [Watch.enter, flights, List.mem_append, List.mem_singleton] at member
      rcases member with before | rfl
      · exact .inl ⟨flight, before, rfl⟩
      · exact .inr (by simp [Watch.enter])
  | resolve _ advance =>
      obtain ⟨before, memberBefore, same, _⟩ := advance.flights (by simp) member
      exact .inl ⟨before, memberBefore, same⟩
  | other entersNone _ advance =>
      obtain ⟨before, memberBefore, same, _⟩ := advance.flights entersNone member
      exact .inl ⟨before, memberBefore, same⟩

theorem Observes.changes {changer : Nat} (member : changer ∈ changers (stepsOf [sight])) :
    sight.actor? = some changer ∧ next.readings = watch.readings ∧
      ∃ flight ∈ watch.state.flights, flight.sequence = changer := by
  cases observes with
  | other _ _ advance =>
      cases advance.touches with
      | @applied sequence _ now _ found =>
          obtain ⟨_, rfl⟩ : _ ∧ changer = sequence := by
            simpa [stepsOf, Sight.move?, changers_apply] using member
          exact ⟨rfl, rfl, _, found, rfl⟩
      | cleared => cases member
      | aside isAside =>
          simp [stepsOf, Sight.move?, changers, isAside.changer?] at member
  | turn => cases member
  | read => cases member
  | enter => cases member
  | resolve => cases member

end

/-- Where refreshes are nested, those that are under way and began after a change began
when the version it put in place was there. -/
structure Sheltered (trace : List Move) (watch : Watch) : Prop where
  ahead : ∀ changer ∈ changers trace, ∀ version, (watch.readings changer).Wholly version →
    ∀ flight ∈ watch.state.flights, changer < flight.sequence →
      version ≤ (watch.readings flight.sequence).entered
  neverBack : watch.NeverBack trace

namespace Sheltered

variable {versions : Nat → Environment} {initial : Snapshot} {trace : List Move}
  {watch next : Watch} {sight : Sight}

theorem step (sheltered : Sheltered trace watch) (dated : Dated watch)
    (given : Given versions trace watch) (run : Runs (.beginning initial) trace watch.state)
    (innermost : Innermost watch sight) (observes : Observes versions watch sight next)
    (after : Runs (.beginning initial) (trace ++ stepsOf [sight]) next.state) :
    Sheltered (trace ++ stepsOf [sight]) next := by
  have sameReadings : ∀ changer ∈ changers trace,
      next.readings changer = watch.readings changer := by
    intro changer member
    obtain ⟨found, applied⟩ := run.decided.changersApplied changer member
    exact observes.keepsReadings (run.numbered.appliedStarted _ applied)
      (given.applied _ applied)
  have rising := after.decided.rising
  rw [changers_append, List.pairwise_append] at rising
  obtain ⟨_, risingNew, above⟩ := rising
  constructor
  · intro changer member version wholly flight flightMember younger
    rw [changers_append, List.mem_append] at member
    have inForce : (watch.readings changer).Wholly version := by
      rcases member with before | isNew
      · rwa [← sameReadings changer before]
      · obtain ⟨_, same, _⟩ := observes.changes isNew
        rwa [← same]
    rcases observes.flights flightMember with ⟨flightBefore, memberBefore, same⟩ | begins
    · rw [← same] at younger ⊢
      rw [observes.entered_eq (run.numbered.started flightBefore memberBefore)]
      rcases member with before | isNew
      · exact sheltered.ahead changer before version inForce flightBefore memberBefore younger
      · have notYounger := innermost changer (observes.changes isNew).1 flightBefore memberBefore
        omega
    · rw [begins]
      exact (dated.between changer .hostName version (inForce _)).2
  · unfold Watch.NeverBack
    rw [changers_append, List.pairwise_append]
    refine ⟨?_, ?_, ?_⟩
    · refine sheltered.neverBack.imp_of_mem ?_
      intro earlier later earlierMember laterMember forward
      rwa [sameReadings earlier earlierMember, sameReadings later laterMember]
    · refine risingNew.imp_of_mem ?_
      intro earlier later earlierMember laterMember below
      have same := (observes.changes earlierMember).1.symm.trans (observes.changes laterMember).1
      obtain rfl := Option.some.inj same
      omega
    · intro earlier before later isNew older newer wholly whollyLater
      obtain ⟨_, unread, flight, member, rfl⟩ := observes.changes isNew
      rw [unread] at wholly whollyLater
      have began := sheltered.ahead earlier before older wholly flight member
        (above earlier before _ isNew)
      exact Nat.le_trans began (dated.between _ .hostName newer (whollyLater _)).1

end Sheltered

theorem Sees.sheltered {versions : Nat → Environment} {allowed : Watch → Sight → Prop}
    {initial : Snapshot} {sights : List Sight} {watch : Watch}
    (sees : Sees versions allowed (.beginning initial) sights watch)
    (nested : ∀ watch sight, allowed watch sight → Innermost watch sight) :
    Sheltered (stepsOf sights) watch := by
  induction sees with
  | stay =>
      constructor
      · simp [stepsOf, changers]
      · exact .nil
  | step sees permitted observes induction =>
      have after := (sees.step permitted observes).runs
      rw [stepsOf_append] at after ⊢
      exact induction.step sees.dated sees.given sees.runs (nested _ _ permitted) observes after

/-- Candidates that a refresh applies are those of the version from which it has read
both parts.  An older version can follow a newer one only if its refresh began after
the other, and before the newer version came.  Where refreshes are nested, nothing that
is put in place is older than what was there before. -/
theorem older_version_returns_only_by_crossing {versions : Nat → Environment}
    {allowed : Watch → Sight → Prop} {initial : Snapshot} {sights : List Sight} {watch : Watch}
    (sees : Sees versions allowed (.beginning initial) sights watch) :
    (∀ applied ∈ applications (stepsOf sights), ∀ version,
      (watch.readings applied.1).Wholly version →
        (versions version).candidates = .ok applied.2) ∧
    (changers (stepsOf sights)).Pairwise (fun earlier later =>
      earlier < later ∧
      ∀ newer older, (watch.readings earlier).Wholly newer →
        (watch.readings later).Wholly older → older < newer →
          (watch.readings earlier).entered ≤ (watch.readings later).entered ∧
          (watch.readings later).entered < newer) ∧
    ((∀ watch sight, allowed watch sight → Innermost watch sight) →
      watch.NeverBack (stepsOf sights)) := by
  have dated := sees.dated
  have run := sees.runs
  refine ⟨?_, ?_, fun nested => (sees.sheltered nested).neverBack⟩
  · intro applied member version wholly
    exact (sees.given.applied applied member).candidates wholly
  · refine run.decided.rising.imp_of_mem ?_
    intro earlier later _ laterMember below
    refine ⟨below, ?_⟩
    intro newer older _ wholly backwards
    obtain ⟨found, applied⟩ := run.decided.changersApplied later laterMember
    refine ⟨dated.inOrder earlier later (Nat.le_of_lt below)
      (run.numbered.appliedStarted _ applied), ?_⟩
    exact Nat.lt_of_le_of_lt (dated.between later .hostName older (wholly _)).1 backwards

/-! ## Two refreshes over two versions -/

/-- Metadata that show a pair, beside properties that set nothing. -/
def showing (found : Candidates) : Environment where
  reader := { source := fun _ => none, scope := .text "" }
  hasMetadata := true
  read
    | .publicHostname => .ok found.hostName
    | _ => .ok found.ipAddress
  hostName := .ok .null
  ipAddress := .ok .null

def pairsInTurn : Nat → Environment
  | 0 => showing oldPair
  | _ + 1 => showing newPair

theorem pairsInTurn_zero (part : Part) :
    (pairsInTurn 0).part part = .ok (oldPair.part part) := by
  cases part <;> rfl

theorem pairsInTurn_one (part : Part) :
    (pairsInTurn 1).part part = .ok (newPair.part part) := by
  cases part <;> rfl

/-- The readings once a refresh has read both parts from one version. -/
def readingAll (readings : Nat → Readings) (sequence entered version : Nat) : Nat → Readings :=
  Function.update readings sequence { entered, version? := fun _ => some version }

theorem Watch.read_both {watch : Watch} {sequence entered : Nat}
    (unread : watch.readings sequence = { entered }) :
    (watch.read sequence .hostName).read sequence .ipAddress =
      { watch with readings := readingAll watch.readings sequence entered watch.version } := by
  have both : Function.update (Function.update (fun _ => none) Part.hostName
      (some watch.version)) Part.ipAddress (some watch.version) =
        fun _ => some watch.version := by
    funext part
    cases part <;> rfl
  simp [read, readingAll, unread, Readings.note, both]

/-- While a version stays, a refresh that has read nothing yet finds what it shows. -/
theorem Sees.search {versions : Nat → Environment} {allowed : Watch → Sight → Prop}
    {start : Watch} {sights : List Sight} {coordinator : Coordinator}
    {older younger : List Flight} {sequence version entered : Nat} {readings : Nat → Readings}
    {found : Candidates}
    (sees : Sees versions allowed start sights
      ⟨⟨coordinator, older ++ ⟨sequence, .resolving⟩ :: younger⟩, version, readings⟩)
    (permitted : ∀ readings sight, sight.actor? = some sequence →
      allowed ⟨⟨coordinator, older ++ ⟨sequence, .resolving⟩ :: younger⟩, version, readings⟩
        sight)
    (unread : readings sequence = { entered })
    (shows : ∀ part, (versions version).part part = .ok (found.part part)) :
    Sees versions allowed start
      (sights ++ [.read sequence .hostName] ++ [.read sequence .ipAddress] ++
        [.step (.resolve sequence found)])
      ⟨⟨coordinator, older ++ ⟨sequence, .resolved found⟩ :: younger⟩, version,
        readingAll readings sequence entered version⟩ := by
  have readsHost := sees.step (permitted _ (.read sequence .hostName) rfl)
    (.read (by simp) (by simp [unread, Readings.next?]) (shows .hostName))
  have readsBoth := readsHost.step (permitted _ (.read sequence .ipAddress) rfl)
    (.read (by simp [Watch.read])
      (by simp [Watch.read, unread, Readings.next?, Readings.note]) (shows .ipAddress))
  rw [Watch.read_both unread] at readsBoth
  have given : (readingAll readings sequence entered version sequence).Give versions found := by
    intro part
    exact ⟨version, by simp [readingAll], shows part⟩
  exact readsBoth.step (permitted _ _ rfl) (.resolve given (.resolve found))

/-- The second refresh begins and reads before the first one reads, and applies after it. -/
def crossing : List Sight :=
  [ .step (.enter 1), .step (.enter 2),
    .read 2 .hostName, .read 2 .ipAddress, .step (.resolve 2 oldPair),
    .turn,
    .read 1 .hostName, .read 1 .ipAddress, .step (.resolve 1 newPair),
    .step (.apply 1 newPair (.ok (.int 5))
      (.ok (some ⟨firstIdentity, newPair.changedAt (.int 5)⟩))),
    .step (.apply 2 oldPair (.ok (.int 9))
      (.ok (some ⟨newPair.changedAt (.int 5), oldPair.changedAt (.int 9)⟩))) ]

/-- The identity of version 1 is in place, and that of version 0 takes its place. -/
theorem crossing_sees :
    ∃ watch, Sees pairsInTurn (fun _ _ => True) (.beginning firstIdentity) crossing watch ∧
      (watch.readings 1).Wholly 1 ∧ (watch.readings 2).Wholly 0 ∧
      watch.state.coordinator.snapshot.candidates = oldPair := by
  let both : Coordinator := { snapshot := firstIdentity, lastSequence := 2, inFlight := 2 }
  let changed : Coordinator := (both.apply 1 newPair (.ok (.int 5))).2
  have entered : Sees pairsInTurn (fun _ _ => True) (.beginning firstIdentity) _ _ :=
    (Sees.stay.step trivial (.enter .enter)).step trivial (.enter .enter)
  have secondFinds := @Sees.search _ _ _ _ both [⟨1, .resolving⟩] [] 2 0 0 _ oldPair entered
    (fun _ _ _ => trivial) rfl pairsInTurn_zero
  have turned := secondFinds.step trivial .turn
  have firstFinds := @Sees.search _ _ _ _ both [] [⟨2, .resolved oldPair⟩] 1 1 0 _ newPair turned
    (fun _ _ _ => trivial) rfl pairsInTurn_one
  have firstApplies := firstFinds.step trivial
    (.other (by simp) (by simp)
      (@Advances.apply both [] [⟨2, .resolved oldPair⟩] 1 newPair (.ok (.int 5))))
  have secondApplies := firstApplies.step trivial
    (.other (by simp) (by simp)
      (@Advances.apply changed [⟨1, .settled⟩] [] 2 oldPair (.ok (.int 9))))
  exact ⟨_, secondApplies, fun _ => rfl, fun _ => rfl, rfl⟩

theorem crossing_refreshes_put_back_older_version :
    ∃ watch, Sees pairsInTurn (fun _ _ => True) (.beginning firstIdentity) crossing watch ∧
      changers (stepsOf crossing) = [1, 2] ∧
      (watch.readings 1).Wholly 1 ∧ (watch.readings 2).Wholly 0 ∧
      watch.state.coordinator.snapshot.candidates = oldPair ∧
      ¬ watch.NeverBack (stepsOf crossing) := by
  obtain ⟨watch, sees, first, second, inPlace⟩ := crossing_sees
  refine ⟨watch, sees, rfl, first, second, inPlace, ?_⟩
  intro neverBack
  have ordered : ∀ later ∈ [2], ∀ before after, (watch.readings 1).Wholly before →
      (watch.readings later).Wholly after → before ≤ after :=
    (List.pairwise_cons.mp neverBack).1
  exact absurd (ordered 2 (by simp) 1 0 first second) (by decide)

/-- The listeners of the first refresh are told while the metadata change, and one of
them refreshes again. -/
def nesting : List Sight :=
  [ .step (.enter 1),
    .read 1 .hostName, .read 1 .ipAddress, .step (.resolve 1 oldPair),
    .step (.apply 1 oldPair (.ok (.int 5))
      (.ok (some ⟨firstIdentity, oldPair.changedAt (.int 5)⟩))),
    .turn,
    .step (.enter 2),
    .read 2 .hostName, .read 2 .ipAddress, .step (.resolve 2 newPair),
    .step (.apply 2 newPair (.ok (.int 9))
      (.ok (some ⟨oldPair.changedAt (.int 5), newPair.changedAt (.int 9)⟩))) ]

theorem Innermost.of_youngest {watch : Watch} {sight : Sight} {sequence : Nat}
    (acts : sight.actor? = some sequence)
    (youngest : ∀ flight ∈ watch.state.flights, flight.sequence ≤ sequence) :
    Innermost watch sight := by
  intro other actsToo
  obtain rfl := Option.some.inj (acts.symm.trans actsToo)
  exact youngest

theorem Innermost.of_none {watch : Watch} {sight : Sight} (acts : sight.actor? = none) :
    Innermost watch sight := by
  intro sequence actsToo
  simp [acts] at actsToo

theorem nesting_sees :
    ∃ watch, Sees pairsInTurn Innermost (.beginning firstIdentity) nesting watch ∧
      (watch.readings 1).Wholly 0 ∧ (watch.readings 2).Wholly 1 := by
  let one : Coordinator := { snapshot := firstIdentity, lastSequence := 1, inFlight := 1 }
  let two : Coordinator := (one.apply 1 oldPair (.ok (.int 5))).2.start.2
  have entered : Sees pairsInTurn Innermost (.beginning firstIdentity) _ _ :=
    Sees.stay.step (.of_none rfl) (.enter .enter)
  have firstFinds := @Sees.search _ _ _ _ one [] [] 1 0 0 _ oldPair entered
    (fun _ _ acts => .of_youngest acts (by simp)) rfl pairsInTurn_zero
  have firstApplies := firstFinds.step (.of_youngest rfl (by simp))
    (.other (by simp) (by simp) (@Advances.apply one [] [] 1 oldPair (.ok (.int 5))))
  have turned := firstApplies.step (.of_none rfl) .turn
  have enteredAgain := turned.step (.of_none rfl) (.enter .enter)
  have secondFinds := @Sees.search _ _ _ _ two [⟨1, .settled⟩] [] 2 1 1 _ newPair enteredAgain
    (fun _ _ acts => .of_youngest acts (by simp)) rfl pairsInTurn_one
  have secondApplies := secondFinds.step (.of_youngest rfl (by simp))
    (.other (by simp) (by simp)
      (@Advances.apply two [⟨1, .settled⟩] [] 2 newPair (.ok (.int 9))))
  exact ⟨_, secondApplies, fun _ => rfl, fun _ => rfl⟩

theorem nested_refreshes_stay_fresh :
    ∃ nested crossed,
      Sees pairsInTurn Innermost (.beginning firstIdentity) nesting nested ∧
      changers (stepsOf nesting) = [1, 2] ∧
      (nested.readings 1).Wholly 0 ∧ (nested.readings 2).Wholly 1 ∧
      (pairsInTurn 1).candidates = .ok newPair ∧
      nested.NeverBack (stepsOf nesting) ∧
      Sees pairsInTurn (fun _ _ => True) (.beginning firstIdentity) crossing crossed ∧
      (crossed.readings 2).entered < 1 := by
  obtain ⟨nested, sees, first, second⟩ := nesting_sees
  obtain ⟨crossed, seesCrossing, firstAcross, secondAcross, _⟩ := crossing_sees
  obtain ⟨found, _, neverBack⟩ := older_version_returns_only_by_crossing sees
  obtain ⟨_, across, _⟩ := older_version_returns_only_by_crossing seesCrossing
  have onlyBefore := (List.pairwise_cons.mp across).1 2 (by decide)
  have applied : applications (stepsOf nesting) = [(1, oldPair), (2, newPair)] := rfl
  refine ⟨nested, crossed, sees, rfl, first, second, ?_, ?_, seesCrossing, ?_⟩
  · exact found (2, newPair) (by simp [applied]) 1 second
  · exact neverBack fun _ _ innermost => innermost
  · exact (onlyBefore.2 1 0 firstAcross secondAcross (by decide)).2

end DiscoveryClient.Identity
