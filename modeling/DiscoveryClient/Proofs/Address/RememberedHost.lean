import DiscoveryClient.Address.HostName

/-!
# Remembered names and addresses

A provider is asked for its name and its address in any order, by force or not, and the system
may answer its look-ups as it likes.  Here each answer is a function of the calls that went
before it, which leaves the system every freedom.

`Names` and `Resolves` say what one look-up of a name or of an address does.  What is remembered
is what the latest of these has brought (`Remembers`), so that the calls alone tell what a
provider answers, and whether it asks the system.
-/

namespace DiscoveryClient.HostName

open Log

/-- What a provider does to its surroundings, with the answer that it is given. -/
inductive Call where
  | name (answer : Except Failure Value)
  | address (hostName : Value) (answer : Except Failure Value)
  | warn (event : Event)

namespace Call

/-- The name that a call has brought. -/
def name? : Call → Option Value
  | .name answer => answer.toOption
  | _ => none

/-- The address that a call has brought; a failure of the network has brought loopback. -/
def address? : Call → Option Value
  | .address _ (.ok found) => some found
  | .address _ (.error failure) => if failure.isSystem then some (.text loopback) else none
  | _ => none

end Call

/-- What calls have brought of one kind, oldest first. -/
def brought (value? : Call → Option Value) (calls : List Call) : List Value :=
  calls.filterMap value?

/-- The latest of some values, or null if there are none. -/
def latest (values : List Value) : Value :=
  values.getLast?.getD .null

theorem brought_same {value? : Call → Option Value} {more : List Call}
    (nothing : brought value? more = []) (calls : List Call) :
    brought value? (calls ++ more) = brought value? calls := by
  rw [brought, List.filterMap_append]
  exact (congrArg _ nothing).trans (List.append_nil _)

theorem brought_new {value? : Call → Option Value} {more : List Call} {value : Value}
    (new : brought value? more = [value]) (calls : List Call) :
    brought value? (calls ++ more) = brought value? calls ++ [value] := by
  rw [brought, List.filterMap_append]
  exact congrArg _ new

theorem latest_snoc (values : List Value) (value : Value) : latest (values ++ [value]) = value := by
  simp [latest]

theorem ne_nil_of_latest {values : List Value} (known : (latest values).isNull = false) :
    values ≠ [] := by
  rintro rfl
  cases known

theorem isNull_or_getLast? {values : List Value} (nonempty : values ≠ []) :
    (latest values).isNull = false ∨ values.getLast? = some .null := by
  rw [latest, List.getLast?_eq_some_getLast nonempty]
  cases values.getLast nonempty with
  | null => exact .inr rfl
  | _ => exact .inl rfl

/-- What a provider remembers, and the calls that it has made. -/
structure Provider where
  cache : Cache := {}
  calls : List Call := []

inductive Request where
  | name (force : Bool)
  | address (force : Bool)

def Request.serve {m : Type → Type} [Monad m] (system : System m) :
    Request → Cache → m (Except Failure Value × Cache)
  | .name force => hostName system force
  | .address force => ipAddress system force

/-- What the system answers.  Each answer may depend on all calls before. -/
structure LookUps where
  name : (past : List Call) → Except Failure Value
  address : (past : List Call) → (hostName : Value) → Except Failure Value

namespace LookUps

variable (lookUps : LookUps)

/-- The system as a provider sees it, every call being noted. -/
def system : System (StateM (List Call)) where
  hostName := do
    let past ← get
    set (past ++ [.name (lookUps.name past)])
    return lookUps.name past
  ipAddress hostName := do
    let past ← get
    set (past ++ [.address hostName (lookUps.address past hostName)])
    return lookUps.address past hostName
  warn event := modify (· ++ [.warn event])

def ask (provider : Provider) (request : Request) : Except Failure Value × Provider :=
  let ((answer, cache), calls) := (request.serve lookUps.system provider.cache).run provider.calls
  (answer, { cache, calls })

/-- A new provider that has been asked some times. -/
def after (requests : List Request) : Provider :=
  requests.foldl (fun provider request => (lookUps.ask provider request).2) {}

/-- One look-up of the name: a name is remembered, and a failure changes nothing. -/
inductive Names (provider : Provider) : Except Failure Value × Provider → Prop where
  | found {name : Value} (answers : lookUps.name provider.calls = .ok name) :
      Names provider (.ok name,
        { cache := { provider.cache with hostName := name }
          calls := provider.calls ++ [.name (.ok name)] })
  | failed {failure : Failure} (fails : lookUps.name provider.calls = .error failure) :
      Names provider (.error failure,
        { provider with calls := provider.calls ++ [.name (.error failure)] })

/-- One look-up of the address of a name: an address is remembered, loopback with a warning if
the network fails, and any other failure changes nothing. -/
inductive Resolves (hostName : Value) (provider : Provider) :
    Except Failure Value × Provider → Prop where
  | found {address : Value} (answers : lookUps.address provider.calls hostName = .ok address) :
      Resolves hostName provider (.ok address,
        { cache := { provider.cache with ipAddress := address }
          calls := provider.calls ++ [.address hostName (.ok address)] })
  | unresolved {failure : Failure}
      (fails : lookUps.address provider.calls hostName = .error failure)
      (isSystem : failure.isSystem = true) :
      Resolves hostName provider (.ok (.text loopback),
        { cache := { provider.cache with ipAddress := .text loopback }
          calls := provider.calls ++
            [.address hostName (.error failure), .warn (unresolved hostName failure)] })
  | failed {failure : Failure}
      (fails : lookUps.address provider.calls hostName = .error failure)
      (other : failure.isSystem = false) :
      Resolves hostName provider (.error failure,
        { provider with calls := provider.calls ++ [.address hostName (.error failure)] })

/-! ## One request -/

variable {lookUps} {provider next : Provider} {force : Bool} {value host : Value}
  {failure : Failure}

theorem known_or_looksUp (force : Bool) (value : Value) :
    (force = false ∧ value.isNull = false) ∨ (force = true ∨ value.isNull = true) := by
  cases force <;> cases value.isNull <;> simp

theorem remembered?_unforced (known : value.isNull = false) :
    remembered? false value = some value := by
  simp [remembered?, known]

theorem remembered?_looksUp (looksUp : force = true ∨ value.isNull = true) :
    remembered? force value = none := by
  rcases looksUp with rfl | unknown <;> simp [remembered?, *]

theorem bind_run {α β : Type} (first : StateM (List Call) α)
    (next : α → StateM (List Call) β) (past : List Call) :
    (first >>= next).run past = (next (first.run past).1).run (first.run past).2 := rfl

theorem run_hostName (lookUps : LookUps) (past : List Call) :
    lookUps.system.hostName.run past =
      (lookUps.name past, past ++ [.name (lookUps.name past)]) := rfl

theorem run_ipAddress (lookUps : LookUps) (host : Value) (past : List Call) :
    (lookUps.system.ipAddress host).run past =
      (lookUps.address past host, past ++ [.address host (lookUps.address past host)]) := rfl

theorem run_lookUpAddress (lookUps : LookUps) (host : Value) (past : List Call) :
    (lookUpAddress lookUps.system host).run past =
      match lookUps.address past host with
      | .ok address => (.ok address, past ++ [.address host (.ok address)])
      | .error failure =>
          if failure.isSystem then
            (.ok (.text loopback),
              past ++ [.address host (.error failure), .warn (unresolved host failure)])
          else (.error failure, past ++ [.address host (.error failure)]) := by
  simp only [lookUpAddress, bind_run, run_ipAddress]
  cases lookUps.address past host with
  | ok address => rfl
  | error failure =>
      dsimp only
      cases failure.isSystem with
      | false => rfl
      | true => exact congrArg (Prod.mk _) (List.append_assoc past [_] [_])

theorem ask_name_remembered (known : provider.cache.hostName.isNull = false) :
    lookUps.ask provider (.name false) = (.ok provider.cache.hostName, provider) := by
  simp only [ask, Request.serve, hostName, remembered?_unforced known]
  rfl

theorem ask_name_names (looksUp : force = true ∨ provider.cache.hostName.isNull = true) :
    lookUps.Names provider (lookUps.ask provider (.name force)) := by
  simp only [ask, Request.serve, hostName, remembered?_looksUp looksUp, bind_run, run_hostName]
  cases given : lookUps.name provider.calls with
  | ok name => exact .found given
  | error failure => exact .failed given

theorem ask_name_cases (lookUps : LookUps) (provider : Provider) (force : Bool) :
    (provider.cache.hostName.isNull = false ∧
        lookUps.ask provider (.name force) = (.ok provider.cache.hostName, provider)) ∨
      lookUps.Names provider (lookUps.ask provider (.name force)) := by
  rcases known_or_looksUp force provider.cache.hostName with ⟨rfl, known⟩ | looksUp
  · exact .inl ⟨known, ask_name_remembered known⟩
  · exact .inr (ask_name_names looksUp)

/-- A request for the name does not touch the address. -/
theorem ask_name_ipAddress {answer : Except Failure Value}
    (asked : lookUps.ask provider (.name force) = (answer, next)) :
    next.cache.ipAddress = provider.cache.ipAddress := by
  rcases lookUps.ask_name_cases provider force with ⟨-, remembered⟩ | looked
  · rw [asked] at remembered
    cases remembered
    rfl
  · rw [asked] at looked
    cases looked <;> rfl

/-- A request for the address starts as one for the name. -/
theorem ask_address (lookUps : LookUps) (provider : Provider) (force : Bool) :
    lookUps.ask provider (.address force) =
      match lookUps.ask provider (.name force) with
      | (.error failure, named) => (.error failure, named)
      | (.ok host, named) =>
          match remembered? force named.cache.ipAddress with
          | some address => (.ok address, named)
          | none =>
              match (lookUpAddress lookUps.system host).run named.calls with
              | (.error failure, calls) => (.error failure, { named with calls })
              | (.ok ipAddress, calls) =>
                  (.ok ipAddress, { cache := { named.cache with ipAddress }, calls }) := by
  simp only [ask, Request.serve, ipAddress, bind_run]
  cases (hostName lookUps.system force provider.cache).run provider.calls with
  | mk answered calls =>
      obtain ⟨answer, cache⟩ := answered
      cases answer with
      | error failure => rfl
      | ok host =>
          dsimp only
          cases remembered? force cache.ipAddress with
          | some address => rfl
          | none =>
              rw [bind_run]
              cases (lookUpAddress lookUps.system host).run calls with
              | mk found calls => cases found <;> rfl

theorem ask_address_failed (fails : lookUps.ask provider (.name force) = (.error failure, next)) :
    lookUps.ask provider (.address force) = (.error failure, next) := by
  rw [ask_address, fails]

theorem ask_address_remembered (named : lookUps.ask provider (.name false) = (.ok host, next))
    (known : next.cache.ipAddress.isNull = false) :
    lookUps.ask provider (.address false) = (.ok next.cache.ipAddress, next) := by
  simp only [ask_address, named, remembered?_unforced known]

theorem ask_address_resolves (named : lookUps.ask provider (.name force) = (.ok host, next))
    (looksUp : force = true ∨ next.cache.ipAddress.isNull = true) :
    lookUps.Resolves host next (lookUps.ask provider (.address force)) := by
  simp only [ask_address, named, remembered?_looksUp looksUp, run_lookUpAddress]
  cases given : lookUps.address next.calls host with
  | ok address => exact .found given
  | error failure =>
      dsimp only
      cases isSystem : failure.isSystem with
      | true => exact .unresolved given isSystem
      | false => exact .failed given isSystem

/-! ## Requests in a row -/

/-- A provider remembers what its look-ups have brought last, and has been brought a name if it
has been brought an address. -/
structure Remembers (provider : Provider) : Prop where
  hostName : provider.cache.hostName = latest (brought Call.name? provider.calls)
  ipAddress : provider.cache.ipAddress = latest (brought Call.address? provider.calls)
  named : brought Call.address? provider.calls ≠ [] → brought Call.name? provider.calls ≠ []

namespace Remembers

theorem begins : Remembers {} :=
  ⟨rfl, rfl, fun brought => absurd rfl brought⟩

-- What a provider learns is told by the calls that it has added, whoever made them.
theorem learns_name (remembers : Remembers provider) {more : List Call} {name : Value}
    (new : brought Call.name? more = [name]) (noAddress : brought Call.address? more = []) :
    Remembers
      { cache := { provider.cache with hostName := name }, calls := provider.calls ++ more } := by
  refine ⟨?_, ?_, fun _ => ?_⟩
  · rw [brought_new new, latest_snoc]
  · rw [brought_same noAddress, remembers.ipAddress]
  · rw [brought_new new]
    exact List.append_ne_nil_of_right_ne_nil _ (List.cons_ne_nil _ _)

theorem learns_address (remembers : Remembers provider) {more : List Call} {address : Value}
    (named : brought Call.name? provider.calls ≠ []) (noName : brought Call.name? more = [])
    (new : brought Call.address? more = [address]) :
    Remembers
      { cache := { provider.cache with ipAddress := address }
        calls := provider.calls ++ more } := by
  refine ⟨?_, ?_, fun _ => ?_⟩
  · rw [brought_same noName, remembers.hostName]
  · rw [brought_new new, latest_snoc]
  · rwa [brought_same noName]

theorem learns_nothing (remembers : Remembers provider) {more : List Call}
    (noName : brought Call.name? more = []) (noAddress : brought Call.address? more = []) :
    Remembers { provider with calls := provider.calls ++ more } := by
  refine ⟨?_, ?_, ?_⟩
  · rw [brought_same noName, remembers.hostName]
  · rw [brought_same noAddress, remembers.ipAddress]
  · rw [brought_same noName, brought_same noAddress]
    exact remembers.named

variable {answer : Except Failure Value}

theorem names (remembers : Remembers provider)
    (looked : lookUps.Names provider (answer, next)) : Remembers next := by
  cases looked with
  | found answers => exact remembers.learns_name rfl rfl
  | failed fails => exact remembers.learns_nothing rfl rfl

theorem resolves (remembers : Remembers provider)
    (named : brought Call.name? provider.calls ≠ [])
    (looked : lookUps.Resolves host provider (answer, next)) : Remembers next := by
  cases looked with
  | found answers => exact remembers.learns_address named rfl rfl
  | @unresolved failure fails isSystem =>
      -- The warning brings nothing, so the failure alone counts as loopback.
      refine remembers.learns_address named rfl ?_
      simp [brought, List.filterMap_cons, Call.address?, isSystem]
  | @failed failure fails other =>
      refine remembers.learns_nothing rfl ?_
      simp [brought, Call.address?, other]

theorem ask_name (remembers : Remembers provider)
    (asked : lookUps.ask provider (.name force) = (answer, next)) :
    Remembers next ∧
      (answer.toOption.isSome = true → brought Call.name? next.calls ≠ []) := by
  rcases lookUps.ask_name_cases provider force with ⟨known, remembered⟩ | looked
  · rw [asked] at remembered
    cases remembered
    exact ⟨remembers, fun _ => ne_nil_of_latest (remembers.hostName ▸ known)⟩
  · rw [asked] at looked
    refine ⟨remembers.names looked, fun given => ?_⟩
    cases looked with
    | found answers =>
        rw [brought_new rfl]
        exact List.append_ne_nil_of_right_ne_nil _ (List.cons_ne_nil _ _)
    | failed fails => cases given

theorem ask (remembers : Remembers provider) (request : Request) :
    Remembers (lookUps.ask provider request).2 := by
  cases request with
  | name force => exact (remembers.ask_name rfl).1
  | address force =>
      cases asked : lookUps.ask provider (.name force) with
      | mk answer next =>
          obtain ⟨remembersNext, named⟩ := remembers.ask_name asked
          cases answer with
          | error failure =>
              rw [ask_address_failed asked]
              exact remembersNext
          | ok host =>
              rcases known_or_looksUp force next.cache.ipAddress with ⟨rfl, known⟩ | looksUp
              · rw [ask_address_remembered asked known]
                exact remembersNext
              · exact remembersNext.resolves (named rfl) (ask_address_resolves asked looksUp)

theorem after (lookUps : LookUps) (requests : List Request) :
    Remembers (lookUps.after requests) := by
  -- A later request finds another provider, so the claim is about requests to any of them.
  suffices all : ∀ provider, Remembers provider →
      Remembers (requests.foldl (fun provider request => (lookUps.ask provider request).2)
        provider) from all {} begins
  induction requests with
  | nil => exact fun _ remembers => remembers
  | cons request rest induction =>
      exact fun provider remembers => induction _ (remembers.ask request)

end Remembers

/-- A host without an address, whose name can be asked for but once. -/
def stranded : LookUps where
  name past :=
    if past.isEmpty then .ok (.text "first") else .error (.foreign "OSError" (.text "down"))
  address _ _ := .error (.foreign "OSError" (.text "no such host"))

/-- A host that has no name at first, and then cannot be asked for it. -/
def nameless : LookUps where
  name past := if past.isEmpty then .ok .null else .error (.foreign "OSError" (.text "down"))
  address _ _ := .ok (.text "10.0.0.7")

end LookUps

end DiscoveryClient.HostName
