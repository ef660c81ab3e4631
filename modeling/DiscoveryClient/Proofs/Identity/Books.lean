import DiscoveryClient.Proofs.Identity.Course
import DiscoveryClient.Proofs.Identity.Overlap

/-!
# Keeping books on refreshes

A refresh is counted where it settles: as failed when its search has ended
without candidates, otherwise by what its application came to.  The counters and
the gauge are then what the entries of a run make of them, whatever further
refreshes are nested in between, and at any depth.

A refresh that is skipped takes no step of a run, so it has an entry of its own.
A change without a time is in place but has ended its refresh; it is not counted.
-/

namespace DiscoveryClient

def Count.refresh? : Count → Option RefreshResult
  | .identity result => some result
  | .property _ => none

/-- The refreshes among all that is counted. -/
def refreshCounts (counts : List Count) : List RefreshResult :=
  counts.filterMap Count.refresh?

@[simp] theorem refreshCounts_append (first second : List Count) :
    refreshCounts (first ++ second) = refreshCounts first ++ refreshCounts second :=
  List.filterMap_append

namespace Identity

variable {σ : Type}

/-- How a step is counted. -/
def Move.result? : Move → Option RefreshResult
  | .fail _ => some .failed
  | .apply _ _ _ (.ok none) => some .unchanged
  | .apply _ _ _ (.ok (some _)) => some .updated
  | _ => none

/-- What the gauge shows for a change, unless its time is beyond the doubles. -/
def Change.gauge? (change : Change) : Option Double :=
  (Quantity.ofValue change.current.lastUpdatedAt).toOption

/-- A step of the coordinator, or a refresh that was skipped. -/
inductive Entry where
  | step (move : Move)
  | skip
  deriving Inhabited

def Entry.move? : Entry → Option Move
  | .step move => some move
  | .skip => none

def Entry.result? : Entry → Option RefreshResult
  | .step move => move.result?
  | .skip => some .skipped

def Entry.gauge? : Entry → Option Double
  | .step move => move.change?.bind Change.gauge?
  | .skip => none

def moves (entries : List Entry) : List Move :=
  entries.filterMap Entry.move?

@[simp] theorem moves_append (first second : List Entry) :
    moves (first ++ second) = moves first ++ moves second :=
  List.filterMap_append

@[simp] theorem moves_cons (move : Move) (rest : List Entry) :
    moves (.step move :: rest) = move :: moves rest := rfl

def results (entries : List Entry) : List RefreshResult :=
  entries.filterMap Entry.result?

/-- What the gauge shows after some entries. -/
def gauged (before : Double) (entries : List Entry) : Double :=
  (entries.filterMap Entry.gauge?).getLast?.getD before

/-- The page of a coordinator, and the refreshes under way. -/
structure Ledger where
  page : Page
  flights : List Flight := []
  deriving Inhabited

def Ledger.state (ledger : Ledger) : State :=
  ⟨ledger.page.coordinator, ledger.flights⟩

/-- The entries lead from one ledger to another. -/
structure Accounts (start : Ledger) (entries : List Entry) (ledger : Ledger) : Prop where
  run : Runs start.state (moves entries) ledger.state
  counts : refreshCounts ledger.page.counts =
    refreshCounts start.page.counts ++ results entries
  gauge : ledger.page.lastChange = gauged start.page.lastChange entries

namespace Accounts

variable {start middle ledger : Ledger} {first second : List Entry}

theorem stay : Accounts start [] start :=
  ⟨.stay, (List.append_nil _).symm, rfl⟩

theorem append (earlier : Accounts start first middle) (later : Accounts middle second ledger) :
    Accounts start (first ++ second) ledger := by
  constructor
  · rw [moves_append]
    exact earlier.run.append later.run
  · rw [later.counts, earlier.counts, results, results, results, List.filterMap_append,
      List.append_assoc]
  · rw [later.gauge, earlier.gauge, gauged, gauged, gauged, List.filterMap_append,
      List.getLast?_append, Option.getD_or]

/-- One step, with what is counted and gauged for it. -/
theorem step {move : Move} (advance : Advances start.state move ledger.state)
    (counts : refreshCounts ledger.page.counts =
      refreshCounts start.page.counts ++ move.result?.toList)
    (gauge : ledger.page.lastChange =
      (move.change?.bind Change.gauge?).getD start.page.lastChange) :
    Accounts start [.step move] ledger := by
  refine ⟨.single advance, ?_, ?_⟩
  · have result : results [.step move] = move.result?.toList := by
      cases settles : move.result? <;> simp [results, Entry.result?, settles]
    rw [counts, result]
  · rw [gauge]
    cases recorded : move.change?.bind Change.gauge? <;>
      simp [gauged, Entry.gauge?, recorded]

end Accounts

/-! ## Pages with books on them -/

/-- Entries lead from one page to the other, and the refreshes under way are where they
were. -/
def Booked (before after : Page) : Prop :=
  ∀ flights, ∃ entries, Accounts ⟨before, flights⟩ entries ⟨after, flights⟩

instance : IsPreorder Page Booked where
  refl _ _ := ⟨[], .stay⟩
  trans _ _ _ first second flights := by
    obtain ⟨earlier, before⟩ := first flights
    obtain ⟨later, after⟩ := second flights
    exact ⟨earlier ++ later, before.append after⟩

/-- A step that no refresh takes part in. -/
theorem Booked.step {page : Page} {move : Move} {next : Coordinator}
    (advance : ∀ flights, Advances ⟨page.coordinator, flights⟩ move ⟨next, flights⟩)
    (uncounted : move.result? = none) (unchanged : move.change? = none) :
    Booked page { page with coordinator := next } := by
  intro flights
  exact ⟨_, .step (advance flights) (by simp [uncounted]) (by simp [unchanged])⟩

theorem advances_apply {coordinator next : Coordinator} {sequence : Nat} {found : Candidates}
    {now : Except Failure Value} {answer : Except Failure (Option Change)}
    (flights : List Flight)
    (ended : coordinator.apply sequence found now = (answer, next)) :
    Advances ⟨coordinator, flights ++ [⟨sequence, .resolved found⟩]⟩
      (.apply sequence found now answer) ⟨next, flights ++ [⟨sequence, .settled⟩]⟩ := by
  have applied := @Advances.apply coordinator flights [] sequence found now
  rwa [ended] at applied

theorem settles_of_applied {sequence : Nat} {found : Candidates} (now : Except Failure Value)
    (answer : Except Failure (Option Change)) (searching clocking telling : List Entry) :
    Settles sequence (.ok found)
      (moves (searching ++ .step (.resolve sequence found) ::
        (clocking ++ .step (.apply sequence found now answer) :: telling))) := by
  simp only [moves_append, moves_cons]
  exact .applied found now answer _ _ _

/-- All that a refresh asks, and all that its listeners do, is booked. -/
structure Surroundings.KeepBooks (surroundings : Surroundings σ) : Prop where
  asks : surroundings.AskTurning Booked
  /-- The clock is read under the lock of the coordinator. -/
  clock : Within Guarded surroundings.now
  notify : ∀ listener change, Turns Booked (surroundings.notify listener change)

theorem Surroundings.KeepBooks.ask {surroundings : Surroundings σ}
    (keeps : surroundings.KeepBooks) (question : Question) :
    Turns Booked (surroundings.ask question) := by
  cases question with
  | hostOrder => exact keeps.asks.hostOrder
  | ipOrder => exact keeps.asks.ipOrder
  | read field => exact keeps.asks.read field
  | hostName => exact keeps.asks.hostName
  | ipAddress => exact keeps.asks.ipAddress
  | now => exact keeps.asks.now
  | notify listener change => exact keeps.notify listener change

section

variable {surroundings : Surroundings σ} (keeps : surroundings.KeepBooks)
  {sequence : Nat} {world searched clocked : World (Site σ)} {found : Candidates}
  {now : Except Failure Value}
include keeps

theorem search_accounts {answer : Except Failure Candidates}
    (search : resolveCandidates surroundings world = (answer, searched))
    (flights : List Flight) :
    ∃ entries, Accounts ⟨pageOf world, flights⟩ entries ⟨pageOf searched, flights⟩ := by
  have searching : Turns Booked (resolveCandidates surroundings) :=
    Turns.resolveCandidates keeps.asks
  obtain ⟨entries, accounts⟩ := searching world flights
  rw [search] at accounts
  exact ⟨entries, accounts⟩

theorem found_accounts (search : resolveCandidates surroundings world = (.ok found, searched))
    (sequence : Nat) (flights : List Flight) :
    ∃ searching,
      Accounts ⟨pageOf world, flights ++ [⟨sequence, .resolving⟩]⟩
        (searching ++ [.step (.resolve sequence found)])
        ⟨pageOf searched, flights ++ [⟨sequence, .resolved found⟩]⟩ := by
  obtain ⟨searching, accounts⟩ :=
    search_accounts keeps search (flights ++ [⟨sequence, .resolving⟩])
  exact ⟨searching, accounts.append (.step (.resolve found) (by simp [Move.result?]) rfl)⟩

theorem Proposal.accounts
    (proposal : Proposal surroundings sequence world found searched now clocked)
    (flights : List Flight) :
    ∃ searching clocking,
      Accounts ⟨pageOf world, flights ++ [⟨sequence, .resolving⟩]⟩
        (searching ++ .step (.resolve sequence found) :: clocking)
        ⟨pageOf clocked, flights ++ [⟨sequence, .resolved found⟩]⟩ := by
  obtain ⟨searching, searched⟩ := found_accounts keeps proposal.search sequence flights
  obtain ⟨clocking, clocked⟩ :=
    keeps.asks.now _ (flights ++ [⟨sequence, .resolved found⟩])
  rw [proposal.read] at clocked
  exact ⟨searching, clocking, by simpa using searched.append clocked⟩

/-- From the number of a refresh to its end, whatever its candidates come to. -/
theorem Ending.accounts {ended : World (Site σ)} {answer : Except Failure Outcome}
    (ending : Ending surroundings sequence world (answer, ended)) (flights : List Flight) :
    ∃ entries, Settles sequence (resolveCandidates surroundings world).1 (moves entries) ∧
      Accounts ⟨pageOf world, flights ++ [⟨sequence, .resolving⟩]⟩ entries
        ⟨pageOf ended, flights ++ [⟨sequence, .settled⟩]⟩ := by
  cases ending with
  | @failed failure searched search =>
      obtain ⟨searching, searches⟩ :=
        search_accounts keeps search (flights ++ [⟨sequence, .resolving⟩])
      rw [search]
      refine ⟨searching ++ [.step (.fail sequence)], ?_, ?_⟩
      · rw [moves_append]
        exact .failed failure (moves searching)
      · exact searches.append (.step .fail (refreshCounts_append _ _) rfl)
  | @unchanged found searched search same =>
      obtain ⟨searching, resolved⟩ := found_accounts keeps search sequence flights
      have applied := advances_apply flights
        (Coordinator.apply_unchanged same : Coordinator.apply _ _ _ (.ok (.int 0)) = _)
      rw [search]
      refine ⟨_, settles_of_applied (.ok (.int 0)) (.ok none) searching [] [], ?_⟩
      rw [List.nil_append, List.append_cons searching]
      exact resolved.append (.step applied (refreshCounts_append _ _) rfl)
  | @untimed found _ _ now failure proposal untimed =>
      obtain ⟨searching, clocking, clocked⟩ := proposal.accounts keeps flights
      have applied := advances_apply flights (proposal.apply_untimed keeps.clock untimed)
      rw [proposal.search]
      refine ⟨_, settles_of_applied now (.error failure) searching clocking [], ?_⟩
      rw [← List.cons_append, ← List.append_assoc]
      exact clocked.append (.step applied (List.append_nil _).symm rfl)
  | @unrecorded found searched _ now time failure proposal timed refused =>
      obtain ⟨searching, clocking, clocked⟩ := proposal.accounts keeps flights
      have applied := advances_apply flights (proposal.apply_timed keeps.clock timed)
      let change : Change := ⟨searched.state.coordinator.snapshot, found.changedAt time⟩
      have ungauged : change.gauge? = none := by
        simp [change, Change.gauge?, Candidates.changedAt, refused, Except.toOption]
      rw [proposal.search]
      refine ⟨_, settles_of_applied now (.ok (some change)) searching clocking [], ?_⟩
      rw [← List.cons_append, ← List.append_assoc]
      refine clocked.append (.step applied (refreshCounts_append _ _) ?_)
      simp only [Move.change?, Option.bind_some, ungauged]
      rfl
  | @updated found searched clocked now time lastChange change told proposal timed fits changeEq
      toldEq =>
      obtain ⟨searching, clocking, resolved⟩ := proposal.accounts keeps flights
      have applied := advances_apply flights (proposal.apply_timed keeps.clock timed)
      rw [← changeEq] at applied
      have gauged : change.gauge? = some lastChange := by
        simp [Change.gauge?, changeEq, Candidates.changedAt, fits, Except.toOption]
      have recording : Accounts ⟨pageOf clocked, flights ++ [⟨sequence, .resolved found⟩]⟩
          [.step (.apply sequence found now (.ok (some change)))]
          ⟨pageOf told, flights ++ [⟨sequence, .settled⟩]⟩ := by
        rw [toldEq]
        refine .step applied (refreshCounts_append _ _) ?_
        simp only [Move.change?, Option.bind_some, gauged]
        rfl
      have tells : Turns Booked (notifyAll surroundings change) :=
        Turns.notifyAll fun listener => keeps.notify listener change
      obtain ⟨telling, toldOn⟩ := tells told (flights ++ [⟨sequence, .settled⟩])
      rw [proposal.search]
      exact ⟨_, settles_of_applied now _ searching clocking telling,
        by simpa using (resolved.append recording).append toldOn⟩

/-- A refresh that has entered is under way until its listeners have been told. -/
theorem refreshAs_accounts {asked : World (Site σ)}
    (capable : surroundings.hasMetadata world = (true, asked)) (flights : List Flight) :
    ∃ asking inside,
      Settles asked.state.coordinator.start.1
        (resolveCandidates surroundings (begun surroundings.dataCenter asked)).1 (moves inside) ∧
      Accounts ⟨pageOf world, flights⟩
        (asking ++ .step (.enter asked.state.coordinator.start.1) :: inside)
        ⟨pageOf (refreshAs surroundings asked.state.coordinator.start.1
            (begun surroundings.dataCenter asked)).2,
          flights ++ [⟨asked.state.coordinator.start.1, .settled⟩]⟩ := by
  obtain ⟨asking, reached⟩ := keeps.asks.hasMetadata world flights
  rw [capable] at reached
  have ending := refreshAs_ending keeps.clock asked.state.coordinator.start.1
    (begun surroundings.dataCenter asked)
  obtain ⟨inside, settles, accounts⟩ := ending.accounts keeps flights
  have enters : Accounts ⟨pageOf asked, flights⟩
      [.step (.enter asked.state.coordinator.start.1)]
      ⟨pageOf (begun surroundings.dataCenter asked),
        flights ++ [⟨asked.state.coordinator.start.1, .resolving⟩]⟩ :=
    .step .enter (List.append_nil _).symm rfl
  refine ⟨asking, inside, settles, ?_⟩
  rw [List.append_cons asking]
  exact (reached.append enters).append accounts

end

/-- A refresh that is skipped is counted, and is remembered as unchanged. -/
theorem skip_accounts (page : Page) (flights : List Flight) :
    Accounts ⟨page, flights⟩ [.skip, .step (.finish .unchanged)]
      ⟨{ page with
          coordinator := page.coordinator.finish .unchanged
          counts := page.counts ++ [.identity .skipped] }, flights⟩ :=
  ⟨.single (.finish .unchanged), refreshCounts_append _ _, rfl⟩

/-- A refresh is booked, and its own moves are among the entries. -/
theorem refresh_accounts {surroundings : Surroundings σ} (keeps : surroundings.KeepBooks)
    (world : World (Site σ)) (flights : List Flight) :
    ∃ entries, Makes surroundings world (moves entries) ∧
      Accounts ⟨pageOf world, flights⟩ entries
        ⟨pageOf (refresh surroundings world).2, flights⟩ := by
  rcases capability : surroundings.hasMetadata world with ⟨capable, asked⟩
  cases capable with
  | false =>
      obtain ⟨asking, reached⟩ := keeps.asks.hasMetadata world flights
      rw [capability] at reached
      have skipping : moves (asking ++ [.skip, .step (.finish .unchanged)]) =
          moves asking ++ [.finish .unchanged] := moves_append _ _
      refine ⟨asking ++ [.skip, .step (.finish .unchanged)], ?_, ?_⟩
      · rw [skipping]
        exact .skipped (moves asking) capability
      · rw [refresh_skipped capability]
        exact reached.append (skip_accounts (pageOf asked) flights)
  | true =>
      let sequence := asked.state.coordinator.start.1
      obtain ⟨asking, inside, settles, accounts⟩ := refreshAs_accounts keeps capability flights
      rcases ends : refreshAs surroundings sequence (begun surroundings.dataCenter asked)
        with ⟨answer, ended⟩
      rw [ends] at accounts
      have leaves : Accounts ⟨pageOf ended, flights ++ [⟨sequence, .settled⟩]⟩
          [.step (.leave sequence)]
          ⟨{ pageOf ended with coordinator := ended.state.coordinator.leave }, flights⟩ := by
        have leave := @Advances.leave ended.state.coordinator flights [] sequence .settled
        rw [List.append_nil] at leave
        exact .step leave (List.append_nil _).symm rfl
      have left := accounts.append leaves
      have whole := refresh_capable capability ends
      have makes := Makes.settled (moves asking) capability rfl settles
      rw [whole] at makes ⊢
      cases answer with
      | error failure =>
          refine ⟨_, ?_, left⟩
          simp only [moves_append, moves_cons, List.append_assoc, List.cons_append]
          exact makes
      | ok outcome =>
          refine ⟨_, ?_, left.append (.step (.finish outcome) (List.append_nil _).symm rfl)⟩
          simp only [moves_append, moves_cons, List.append_assoc, List.cons_append]
          exact makes

theorem refresh_booked {surroundings : Surroundings σ} (keeps : surroundings.KeepBooks) :
    Turns Booked (refresh surroundings) := by
  intro world flights
  obtain ⟨entries, _, accounts⟩ := refresh_accounts keeps world flights
  exact ⟨entries, accounts⟩

/-! ## Scenarios -/

namespace Scenario

theorem surroundings_keepBooks {run : Runner} (nested : ∀ steps, Turns Booked (run steps))
    (center : DataCenterKind) : (surroundings run center).KeepBooks where
  asks := surroundings_askTurning nested center
  clock := fun _ => ⟨rfl, rfl⟩
  notify := callListener_turns nested

theorem booked_covers : Covers Booked where
  refresh nested center := refresh_booked (surroundings_keepBooks nested center)
  clearDirty _ asOf := .step (fun _ => .clearDirty asOf) rfl rfl
  addListener _ listener := .step (fun _ => .addListener listener) rfl rfl
  removeListener _ listener := .step (fun _ => .removeListener listener) rfl rfl

/-- Books are kept on scenarios of any depth. -/
theorem runSteps_booked (depth : Nat) (steps : List Step) :
    Turns Booked (runSteps depth steps) :=
  runSteps_turns booked_covers depth steps

end Scenario

end Identity

end DiscoveryClient
