import DiscoveryClient.Address.Order
import DiscoveryClient.Proofs.Identity.Ending

/-!
# Environments that stand still

An environment is what a refresh finds out there: properties, metadata, and a
provider to fall back on.  While it stands still, the candidates are a function
of it, whatever is asked in which order.  That function names the tokens of an
order that are known and takes the first of their values that says something.

The walk through an order is lazy, so a read that fails counts only if nothing
before it has decided.  A failed host name ends the search before the address.
-/

namespace DiscoveryClient

/-- Every reading is an integer, however often the clock is read. -/
def Clock.CountsIntegers : Clock → Prop
  | .frozen now => ∃ reading : Int, now = .int reading
  | .stepping next step => ∃ first increment : Int, next = .int first ∧ step = .int increment
  | .listed _ => False

theorem Clock.CountsIntegers.read {clock : Clock} (counts : clock.CountsIntegers) :
    (∃ reading : Int, clock.read.1 = .ok (.int reading)) ∧ clock.read.2.CountsIntegers := by
  cases clock with
  | frozen now =>
      obtain ⟨reading, rfl⟩ := counts
      exact ⟨⟨reading, rfl⟩, reading, rfl⟩
  | stepping next step =>
      obtain ⟨first, increment, rfl, rfl⟩ := counts
      rw [Clock.read_stepping_int]
      exact ⟨⟨first, rfl⟩, first + increment, increment, rfl, rfl⟩
  | listed readings => exact counts.elim

namespace Identity

open Log

structure Environment where
  reader : PropertyReader
  hasMetadata : Bool
  read : MetadataField → Except Failure Value
  hostName : Except Failure Value
  ipAddress : Except Failure Value

namespace Environment

/-! ## What there is to find -/

/-- The tokens of the order that a property sets; none or an empty one leaves those
built in. -/
def order (environment : Environment) (suffix : String) (builtIn : List MetadataField) :
    Except Failure (List String) := do
  match ← environment.reader.string? suffix with
  | none => return builtIn.map MetadataField.token
  | some tokens =>
      return if tokens = "" then builtIn.map MetadataField.token
        else Text.CommaList.split tokens

def hostOrder (environment : Environment) : Except Failure (List String) :=
  environment.order "defaultAddressResolutionOrder" [.publicHostname, .localIpv4]

def ipOrder (environment : Environment) : Except Failure (List String) :=
  environment.order "ipAddressResolutionOrder" [.localIpv4, .publicIpv4]

/-- What reading a field comes to, unless its value says nothing. -/
def decided? (environment : Environment) (field : MetadataField) :
    Option (Except Failure Value) :=
  match environment.read field with
  | .error failure => some (.error failure)
  | .ok value => value.filled?.map .ok

/-- The first known token of an order that decides, or else the fallback. -/
def address (environment : Environment) (order : List String)
    (fallback : Except Failure Value) : Except Failure Value :=
  if environment.hasMetadata then
    ((order.filterMap MetadataField.ofToken?).findSome? environment.decided?).getD fallback
  else fallback

def candidates (environment : Environment) : Except Failure Candidates := do
  let hostOrder ← environment.hostOrder
  let ipOrder ← environment.ipOrder
  let hostName ← environment.address hostOrder environment.hostName
  let ipAddress ← environment.address ipOrder environment.ipAddress
  return { hostName, ipAddress }

variable (environment : Environment)

theorem orderOr_eq (suffix : String) (builtIn : List MetadataField) :
    Address.orderOr environment.reader suffix (builtIn.map MetadataField.token) =
      environment.order suffix builtIn := by
  unfold Address.orderOr PropertyReader.nonEmpty? order
  rcases environment.reader.string? suffix with _ | _ | tokens
  · rfl
  · rfl
  · refine congrArg Except.ok ?_
    by_cases empty : tokens = "" <;> simp [Option.filter, empty]

theorem hostOrder_eq : Address.hostOrder environment.reader = environment.hostOrder := by
  rw [hostOrder, ← orderOr_eq]
  rfl

theorem ipOrder_eq : Address.ipOrder environment.reader = environment.ipOrder := by
  rw [ipOrder, ← orderOr_eq]
  rfl

theorem decided?_of_error {environment : Environment} {field : MetadataField}
    {failure : Failure} (answer : environment.read field = .error failure) :
    environment.decided? field = some (.error failure) := by
  simp [decided?, answer]

theorem decided?_of_ok {environment : Environment} {field : MetadataField} {value : Value}
    (answer : environment.read field = .ok value) :
    environment.decided? field = value.filled?.map .ok := by
  simp [decided?, answer]

end Environment

/-! ## What goes on beside a refresh -/

/-- Of a coordinator without further refreshes, only the mark and the listeners may
change. -/
def Beside (before after : Coordinator) : Prop :=
  ∃ dirty listeners,
    after = { before with snapshot := { before.snapshot with dirty }, listeners }

instance : IsPreorder Coordinator Beside where
  refl before := ⟨before.snapshot.dirty, before.listeners, rfl⟩
  trans := by
    rintro before _ _ ⟨_, _, rfl⟩ ⟨dirty, listeners, rfl⟩
    exact ⟨dirty, listeners, rfl⟩

namespace Beside

variable {before after : Coordinator}

theorem candidates (beside : Beside before after) :
    after.snapshot.candidates = before.snapshot.candidates := by
  obtain ⟨_, _, rfl⟩ := beside
  rfl

theorem lastUpdatedAt (beside : Beside before after) :
    after.snapshot.lastUpdatedAt = before.snapshot.lastUpdatedAt := by
  obtain ⟨_, _, rfl⟩ := beside
  rfl

theorem appliedSequence (beside : Beside before after) :
    after.appliedSequence = before.appliedSequence := by
  obtain ⟨_, _, rfl⟩ := beside
  rfl

theorem lastSequence (beside : Beside before after) :
    after.lastSequence = before.lastSequence := by
  obtain ⟨_, _, rfl⟩ := beside
  rfl

end Beside

/-! ## Answers from an environment -/

variable {σ α β : Type}

/-- With everything in place, an action answers a value and leaves everything there. -/
def Answers (inPlace : σ → Prop) (act : Act (Site σ) α) (value : α) : Prop :=
  ∀ world, inPlace world.state.outside →
    (act world).1 = value ∧
    Beside world.state.coordinator (act world).2.state.coordinator ∧
    inPlace (act world).2.state.outside

namespace Answers

variable {inPlace : σ → Prop}

theorem of_unchanged {act : Act (Site σ) α} {value : α}
    (answer : ∀ world, inPlace world.state.outside → (act world).1 = value)
    (unchanged : ∀ world, (act world).2.state = world.state) :
    Answers inPlace act value := by
  intro world there
  rw [unchanged world]
  exact ⟨answer world there, refl_of Beside _, there⟩

theorem pure (value : α) : Answers inPlace (Pure.pure value : Act (Site σ) α) value :=
  of_unchanged (fun _ _ => rfl) fun _ => rfl

theorem log (event : Event) : Answers inPlace (Act.log event : Act (Site σ) Unit) () :=
  of_unchanged (fun _ _ => rfl) fun _ => rfl

theorem bind {first : Act (Site σ) α} {next : α → Act (Site σ) β} {value : α} {result : β}
    (firstAnswers : Answers inPlace first value)
    (nextAnswers : Answers inPlace (next value) result) :
    Answers inPlace (first >>= next) result := by
  intro world there
  obtain ⟨answer, besideFirst, stillThere⟩ := firstAnswers world there
  have later := nextAnswers (first world).2 stillThere
  rw [← answer] at later
  exact ⟨later.1, trans_of Beside besideFirst later.2.1, later.2.2⟩

theorem andThen {first : Act (Site σ) (Except Failure α)}
    {next : α → Act (Site σ) (Except Failure β)} {answer : Except Failure α}
    {result : α → Except Failure β}
    (firstAnswers : Answers inPlace first answer)
    (nextAnswers : ∀ value, Answers inPlace (next value) (result value)) :
    Answers inPlace (andThen first next) (answer >>= result) := by
  refine bind firstAnswers ?_
  cases answer with
  | error failure => exact pure _
  | ok value => exact nextAnswers value

end Answers

/-- The surroundings show an environment that is in place, under a clock that answers
integers. -/
structure Surroundings.Shows (surroundings : Surroundings σ) (environment : Environment)
    (inPlace : σ → Prop) : Prop where
  hasMetadata : Answers inPlace surroundings.hasMetadata environment.hasMetadata
  hostOrder : Answers inPlace surroundings.hostOrder (Address.hostOrder environment.reader)
  ipOrder : Answers inPlace surroundings.ipOrder (Address.ipOrder environment.reader)
  read : ∀ field, Answers inPlace (surroundings.read field) (environment.read field)
  hostName : Answers inPlace surroundings.hostName environment.hostName
  ipAddress : Answers inPlace surroundings.ipAddress environment.ipAddress
  now : ∀ world, inPlace world.state.outside →
    (∃ reading : Int, (surroundings.now world).1 = .ok (.int reading)) ∧
    inPlace (surroundings.now world).2.state.outside
  /-- The clock is read under the lock of the coordinator. -/
  clock : Within Guarded surroundings.now

namespace Surroundings.Shows

variable {surroundings : Surroundings σ} {environment : Environment} {inPlace : σ → Prop}
  (shows : surroundings.Shows environment inPlace)
include shows

/-- Walking an order is looking for the first field that decides. -/
theorem walk {fallback : Act (Site σ) (Except Failure Value)}
    {fallbackValue : Except Failure Value} (falls : Answers inPlace fallback fallbackValue)
    (order : List String) :
    Answers inPlace
      (Address.walk { warn := Act.log, read := surroundings.read, fallback }
        (order.map .text))
      (((order.filterMap MetadataField.ofToken?).findSome? environment.decided?).getD
        fallbackValue) := by
  induction order with
  | nil => exact falls
  | cons token rest induction =>
      rw [List.map_cons]
      unfold Address.walk
      rw [MetadataField.ofTokenValue?_text]
      cases known : MetadataField.ofToken? token with
      | none =>
          rw [List.filterMap_cons_none known]
          exact .bind (.log _) induction
      | some field =>
          rw [List.filterMap_cons_some known, List.findSome?_cons]
          refine .bind (shows.read field) ?_
          cases answer : environment.read field with
          | error failure =>
              rw [Environment.decided?_of_error answer]
              exact .pure _
          | ok value =>
              rw [Environment.decided?_of_ok answer]
              cases filled : value.filled? with
              | some address =>
                  simp only [filled, Option.map_some, Option.getD_some]
                  exact .pure _
              | none => simpa only [filled, Option.map_none] using induction

theorem resolveBy {fallback : Act (Site σ) (Except Failure Value)}
    {fallbackValue : Except Failure Value} (falls : Answers inPlace fallback fallbackValue)
    (order : List String) :
    Answers inPlace (resolveBy surroundings order fallback)
      (environment.address order fallbackValue) := by
  refine .bind shows.hasMetadata ?_
  unfold Address.resolve Environment.address
  rw [Value.elements?_texts]
  cases environment.hasMetadata with
  | false => exact falls
  | true => exact shows.walk falls order

/-- The search finds what there is to find. -/
theorem resolveCandidates :
    Answers inPlace (resolveCandidates surroundings) environment.candidates := by
  unfold Environment.candidates
  rw [← environment.hostOrder_eq, ← environment.ipOrder_eq]
  exact .andThen shows.hostOrder fun hostOrder =>
    .andThen shows.ipOrder fun ipOrder =>
      .andThen (shows.resolveBy shows.hostName hostOrder) fun _ =>
        .andThen (shows.resolveBy shows.ipAddress ipOrder) fun _ => .pure _

end Surroundings.Shows

/-! ## Scenarios without hooks -/

namespace Stage

def environment (stage : Stage) : Environment where
  reader := stage.reader
  hasMetadata := stage.center.hasMetadata
  read field := stage.feed.elim (stage.center.get field) (·.read field)
  hostName := stage.hostNameFailure.elim (.ok stage.provider.hostName) .error
  ipAddress := stage.ipAddressFailure.elim (.ok stage.provider.ipAddress) .error

/-- No step comes between, and the clock answers integers. -/
structure Stands (environment : Environment) (stage : Stage) : Prop where
  environment : stage.environment = environment
  unhooked : stage.hooks = []
  counts : stage.clock.CountsIntegers

end Stage

namespace Scenario

variable {environment : Environment} {run : Runner} {center : DataCenterKind}

section

variable {α : Type} {world : World (Site Stage)} (unhooked : world.state.outside.hooks = [])
include unhooked

theorem runHook_unhooked (occasion : Occasion) (side : Side) :
    runHook run occasion side world = ((), world) := by
  obtain ⟨⟨coordinator, stage⟩, journal⟩ := world
  cases stage
  cases unhooked
  rfl

theorem answering_fails {failure? : Stage → Option Failure} {failure : Failure}
    (fails : failure? world.state.outside = some failure) (occasion : Occasion)
    (answer : Play α) :
    answering run occasion failure? answer world = (.error failure, world) := by
  unfold answering
  rw [bind_apply, runHook_unhooked unhooked, stage_bind, fails]
  rfl

theorem answering_works {failure? : Stage → Option Failure}
    (works : failure? world.state.outside = none) (occasion : Occasion) {answer : Play α}
    (unhookedAfter : (answer world).2.state.outside.hooks = []) :
    answering run occasion failure? answer world =
      (.ok (answer world).1, (answer world).2) := by
  unfold answering
  rw [bind_apply, runHook_unhooked unhooked, stage_bind, works]
  dsimp only
  rw [bind_apply, bind_apply, runHook_unhooked unhookedAfter]
  rfl

theorem readMetadata_unhooked (field : MetadataField) :
    readMetadata run field world = (world.state.outside.environment.read field, world) := by
  unfold readMetadata
  rw [stage_bind]
  cases has : world.state.outside.feed with
  | none =>
      simp only [Stage.environment, has]
      rfl
  | some feed =>
      simp only [Stage.environment, has, Option.isSome_some, if_true, Option.elim_some]
      cases failing : feed.failure? field with
      | some failure =>
          have fails : world.state.outside.feed.bind (·.failure? field) = some failure := by
            rw [has, Option.bind_some, failing]
          rw [answering_fails unhooked fails]
          simp only [MetadataFeed.read, failing]
      | none =>
          have works : world.state.outside.feed.bind (·.failure? field) = none := by
            rw [has, Option.bind_some, failing]
          have value : (world.state.outside.feed.getD {}).value field = feed.value field := by
            rw [has, Option.getD_some]
          rw [answering_works unhooked works _ unhooked, MetadataFeed.read_eq_ok failing, ← value]
          rfl

end

theorem readMetadata_answers (field : MetadataField) :
    Answers (Stage.Stands environment) (readMetadata run field) (environment.read field) := by
  rintro world ⟨rfl, unhooked, counts⟩
  rw [readMetadata_unhooked unhooked]
  exact ⟨rfl, refl_of Beside _, rfl, unhooked, counts⟩

theorem callProvider_answers (occasion : Occasion) {failure? : Stage → Option Failure}
    {value : HostName.Fixed → Value} {answer : Environment → Except Failure Value}
    (told : ∀ stage : Stage, answer stage.environment =
      (failure? stage).elim (.ok (value stage.provider)) .error) :
    Answers (Stage.Stands environment) (callProvider run occasion failure? value)
      (answer environment) := by
  rintro world ⟨rfl, unhooked, counts⟩
  let called := (notice (.provider occasion) world).2
  have unhookedThen : called.state.outside.hooks = [] := unhooked
  have toldThen := told called.state.outside
  unfold callProvider
  rw [bind_apply]
  change _ = answer called.state.outside.environment ∧ _
  cases failing : failure? called.state.outside with
  | some failure =>
      rw [answering_fails unhookedThen failing, toldThen, failing]
      exact ⟨rfl, refl_of Beside _, rfl, unhooked, counts⟩
  | none =>
      rw [answering_works unhookedThen failing _ unhooked, toldThen, failing]
      exact ⟨rfl, refl_of Beside _, rfl, unhooked, counts⟩

/-- Without hooks, a scenario shows the environment that its stage holds. -/
theorem surroundings_shows (environment : Environment) (run : Runner)
    (center : DataCenterKind) :
    (surroundings run center).Shows environment (Stage.Stands environment) where
  hasMetadata := .of_unchanged (fun _ stands => by rw [← stands.environment]; rfl) fun _ => rfl
  hostOrder := .of_unchanged (fun _ stands => by rw [← stands.environment]; rfl) fun _ => rfl
  ipOrder := .of_unchanged (fun _ stands => by rw [← stands.environment]; rfl) fun _ => rfl
  read := readMetadata_answers
  hostName := callProvider_answers .hostName fun _ => rfl
  ipAddress := callProvider_answers .ipAddress fun _ => rfl
  now := by
    rintro world ⟨same, unhooked, counts⟩
    exact ⟨counts.read.1, same, unhooked, counts.read.2⟩
  clock := fun _ => ⟨rfl, rfl⟩

end Scenario

end Identity

end DiscoveryClient
