import DiscoveryClient.Proofs.Identity.Steps

/-!
# Runs of overlapping refreshes

A coordinator serves any number of refreshes at once.  Only its own steps are
atomic, so a run is some order of them: refreshes enter, end the search for
their candidates, apply and leave, each at its own pace, while others look at
the identity and acknowledge its publication.

What happens during a search, and when the clock is read, is left open.  A run
therefore stands for every behaviour of the surroundings, and for refreshes
that begin inside the search of another as well as for those beside it.
-/

namespace DiscoveryClient.Identity

/-- How far a refresh has come. -/
inductive Progress where
  | resolving
  | resolved (found : Candidates)
  /-- It has applied its candidates, or has found none. -/
  | settled
  deriving Repr, Inhabited

/-- A refresh under way. -/
structure Flight where
  sequence : Nat
  progress : Progress
  deriving Repr, Inhabited

/-- A coordinator, and the refreshes under way from the oldest to the youngest. -/
structure State where
  coordinator : Coordinator
  flights : List Flight := []
  deriving Repr, Inhabited

def State.beginning (initial : Snapshot) : State where
  coordinator := { snapshot := initial }

/-- An atomic step, with what it was given and what it answered. -/
inductive Move where
  | enter (sequence : Nat)
  | resolve (sequence : Nat) (found : Candidates)
  | fail (sequence : Nat)
  | apply (sequence : Nat) (found : Candidates) (now : Except Failure Value)
      (answer : Except Failure (Option Change))
  | leave (sequence : Nat)
  | finish (outcome : Outcome)
  | clearDirty (asOf : Option Value) (answer : Except Failure Bool)
  | look (seen : Snapshot)
  | addListener (listener : ListenerId)
  | removeListener (listener : ListenerId)
  deriving Inhabited

/-- One step of a run.  A refresh applies at most once, and only what it has found;
it leaves however far it has come, for it may have been broken off. -/
inductive Advances : State → Move → State → Prop where
  | enter {coordinator flights} :
      Advances ⟨coordinator, flights⟩ (.enter coordinator.start.1)
        ⟨coordinator.start.2, flights ++ [⟨coordinator.start.1, .resolving⟩]⟩
  | resolve {coordinator older younger sequence} (found : Candidates) :
      Advances ⟨coordinator, older ++ ⟨sequence, .resolving⟩ :: younger⟩
        (.resolve sequence found)
        ⟨coordinator, older ++ ⟨sequence, .resolved found⟩ :: younger⟩
  | fail {coordinator older younger sequence} :
      Advances ⟨coordinator, older ++ ⟨sequence, .resolving⟩ :: younger⟩ (.fail sequence)
        ⟨coordinator, older ++ ⟨sequence, .settled⟩ :: younger⟩
  | apply {coordinator older younger sequence found} (now : Except Failure Value) :
      Advances ⟨coordinator, older ++ ⟨sequence, .resolved found⟩ :: younger⟩
        (.apply sequence found now (coordinator.apply sequence found now).1)
        ⟨(coordinator.apply sequence found now).2, older ++ ⟨sequence, .settled⟩ :: younger⟩
  | leave {coordinator older younger sequence progress} :
      Advances ⟨coordinator, older ++ ⟨sequence, progress⟩ :: younger⟩ (.leave sequence)
        ⟨coordinator.leave, older ++ younger⟩
  | finish {coordinator flights} (outcome : Outcome) :
      Advances ⟨coordinator, flights⟩ (.finish outcome) ⟨coordinator.finish outcome, flights⟩
  | clearDirty {coordinator flights} (asOf : Option Value) :
      Advances ⟨coordinator, flights⟩ (.clearDirty asOf (coordinator.clearDirty asOf).1)
        ⟨(coordinator.clearDirty asOf).2, flights⟩
  | look {coordinator flights} :
      Advances ⟨coordinator, flights⟩ (.look coordinator.snapshot) ⟨coordinator, flights⟩
  | addListener {coordinator flights} (listener : ListenerId) :
      Advances ⟨coordinator, flights⟩ (.addListener listener)
        ⟨coordinator.addListener listener, flights⟩
  | removeListener {coordinator flights} (listener : ListenerId) :
      Advances ⟨coordinator, flights⟩ (.removeListener listener)
        ⟨coordinator.removeListener listener, flights⟩

/-- Steps one after another, oldest first. -/
inductive Runs (start : State) : List Move → State → Prop where
  | stay : Runs start [] start
  | step {trace state move next} :
      Runs start trace state →
      Advances state move next →
      Runs start (trace ++ [move]) next

theorem Runs.single {state next : State} {move : Move} (advance : Advances state move next) :
    Runs state [move] next :=
  .step .stay advance

theorem Runs.append {start middle state : State} {first second : List Move}
    (earlier : Runs start first middle) (later : Runs middle second state) :
    Runs start (first ++ second) state := by
  induction later with
  | stay => simpa using earlier
  | step _ advance induction =>
      rw [← List.append_assoc]
      exact .step induction advance

/-- A run can be cut anywhere. -/
theorem Runs.split {start state : State} {first second : List Move}
    (run : Runs start (first ++ second) state) :
    ∃ middle, Runs start first middle ∧ Runs middle second state := by
  generalize whole : first ++ second = trace at run
  induction run generalizing second with
  | stay =>
      obtain ⟨rfl, rfl⟩ := List.append_eq_nil_iff.mp whole
      exact ⟨start, .stay, .stay⟩
  | @step trace state move next run advance induction =>
      rcases List.eq_nil_or_concat second with rfl | ⟨front, last, rfl⟩
      · rw [List.append_nil] at whole
        subst whole
        exact ⟨next, .step run advance, .stay⟩
      · rw [List.concat_eq_append, ← List.append_assoc] at whole
        obtain ⟨frontEq, lastEq⟩ := List.append_inj' whole rfl
        obtain rfl : last = move := by simpa using lastEq
        obtain ⟨middle, earlier, later⟩ := induction frontEq
        rw [List.concat_eq_append]
        exact ⟨middle, earlier, .step later advance⟩

theorem Runs.last {start next : State} {trace : List Move} {move : Move}
    (run : Runs start (trace ++ [move]) next) :
    ∃ state, Runs start trace state ∧ Advances state move next := by
  generalize whole : trace ++ [move] = all at run
  cases run with
  | stay => simp at whole
  | @step before state last next run advance =>
      obtain ⟨rfl, lastEq⟩ := List.append_inj' whole rfl
      obtain rfl : move = last := by simpa using lastEq
      exact ⟨state, run, advance⟩

/-- A run can be cut around one of its steps. -/
theorem Runs.around {start state : State} {before after : List Move} {move : Move}
    (run : Runs start (before ++ move :: after) state) :
    ∃ reached next, Runs start before reached ∧ Advances reached move next ∧
      Runs next after state := by
  rw [List.append_cons] at run
  obtain ⟨next, first, later⟩ := run.split
  obtain ⟨reached, earlier, advance⟩ := first.last
  exact ⟨reached, next, earlier, advance, later⟩

/-! ## What a run tells -/

/-- The application that a step is, by its refresh and the candidates. -/
def Move.application? : Move → Option (Nat × Candidates)
  | .apply sequence found _ _ => some (sequence, found)
  | _ => none

/-- The applications of a run in order, those included that change nothing. -/
def applications (trace : List Move) : List (Nat × Candidates) :=
  trace.filterMap Move.application?

/-- The refresh that changes the identity in a step.  Without an answer it has
done so too. -/
def Move.changer? : Move → Option Nat
  | .apply _ _ _ (.ok none) => none
  | .apply sequence _ _ _ => some sequence
  | _ => none

/-- The refreshes that changed the identity, in order. -/
def changers (trace : List Move) : List Nat :=
  trace.filterMap Move.changer?

def Move.change? : Move → Option Change
  | .apply _ _ _ (.ok change) => change
  | _ => none

/-- The changes that applications answered, in order. -/
def changes (trace : List Move) : List Change :=
  trace.filterMap Move.change?

/-- Each reading of the clock in a step is an integer. -/
def Move.IsTimely : Move → Prop
  | .apply _ _ now _ => ∃ time : Int, now = .ok (.int time)
  | _ => True

/-- The clock answers integers throughout a run, in whatever order. -/
def Timely (trace : List Move) : Prop :=
  ∀ move ∈ trace, move.IsTimely

theorem timely_append {first second : List Move} :
    Timely (first ++ second) ↔ Timely first ∧ Timely second :=
  List.forall_mem_append

/-! ## What a step does to the identity -/

/-- The step is neither an application nor an acknowledgement that took the mark away. -/
def Move.IsAside : Move → Prop
  | .apply .. => False
  | .clearDirty _ (.ok true) => False
  | _ => True

theorem Move.IsAside.application? {move : Move} (aside : move.IsAside) :
    move.application? = none := by
  cases move with
  | apply => exact aside.elim
  | _ => rfl

theorem Move.IsAside.changer? {move : Move} (aside : move.IsAside) :
    move.changer? = none := by
  cases move with
  | apply => exact aside.elim
  | _ => rfl

theorem Move.IsAside.change? {move : Move} (aside : move.IsAside) :
    move.change? = none := by
  cases move with
  | apply => exact aside.elim
  | _ => rfl

theorem Move.IsAside.ne_clearDirty {move : Move} (aside : move.IsAside) (asOf : Option Value) :
    move ≠ .clearDirty asOf (.ok true) := by
  rintro rfl
  exact aside

/-- A step applies candidates, takes the mark away, or leaves the identity alone. -/
inductive Touches (state : State) : Move → State → Prop where
  | applied {sequence found} (now : Except Failure Value) {next : State} :
      ⟨sequence, .resolved found⟩ ∈ state.flights →
      next.coordinator = (state.coordinator.apply sequence found now).2 →
      Touches state (.apply sequence found now (state.coordinator.apply sequence found now).1)
        next
  | cleared {asOf} {next : State} :
      next.coordinator =
        { state.coordinator with snapshot := state.coordinator.snapshot.published } →
      Touches state (.clearDirty asOf (.ok true)) next
  | aside {move} {next : State} :
      move.IsAside →
      next.coordinator.snapshot = state.coordinator.snapshot →
      next.coordinator.appliedSequence = state.coordinator.appliedSequence →
      Touches state move next

theorem Advances.touches {state next : State} {move : Move}
    (advance : Advances state move next) : Touches state move next := by
  cases advance with
  | apply now => exact .applied now (by simp) rfl
  | @clearDirty coordinator _ asOf =>
      rcases coordinator.clearDirty_cases asOf with ⟨answer, refused, ended⟩ | ended
      · rw [ended]
        refine .aside ?_ rfl rfl
        simp [Move.IsAside, refused]
      · rw [ended]
        exact .cleared rfl
  | enter => exact .aside trivial rfl rfl
  | resolve => exact .aside trivial rfl rfl
  | fail => exact .aside trivial rfl rfl
  | leave => exact .aside trivial rfl rfl
  | finish => exact .aside trivial rfl rfl
  | look => exact .aside trivial rfl rfl
  | addListener => exact .aside trivial rfl rfl
  | removeListener => exact .aside trivial rfl rfl

/-- All that is known of a step that answered a change. -/
theorem Advances.change {state next : State} {sequence : Nat} {found : Candidates}
    {now : Except Failure Value} {change : Change}
    (advance : Advances state (.apply sequence found now (.ok (some change))) next) :
    ⟨sequence, .resolved found⟩ ∈ state.flights ∧
    state.coordinator.wouldChange sequence found = true ∧
    ∃ time, state.coordinator.timeOfChange now = .ok time ∧
      change = ⟨state.coordinator.snapshot, found.changedAt time⟩ ∧
      next.coordinator = state.coordinator.changed sequence found time := by
  generalize answerEq : (Except.ok (some change) : Except Failure (Option Change)) = answer
    at advance
  cases advance with
  | @apply coordinator =>
      rcases coordinator.apply_cases sequence found now with
        ⟨_, ended⟩ | ⟨changes, time, timed, ended⟩ | ⟨_, _, _, ended⟩
      · simp [ended] at answerEq
      · rw [ended] at answerEq ⊢
        exact ⟨by simp, changes, time, timed, Option.some.inj (Except.ok.inj answerEq), rfl⟩
      · simp [ended] at answerEq

/-! ## An identity and two pairs to replace its own -/

def firstIdentity : Snapshot where
  hostName := .text "initial"
  ipAddress := .text "10.0.0.1"

def oldPair : Candidates := ⟨.text "old", .text "10.0.0.2"⟩

def newPair : Candidates := ⟨.text "new", .text "10.0.0.3"⟩

end DiscoveryClient.Identity
