import DiscoveryClient.Properties.Client
import DiscoveryClient.Proofs.Properties.Denotation

/-!
# The documentation of the client's properties

The documentation lists for each property its keys, in the order in which they are looked at,
and how the first value among them is read.  The documented answer is what that value denotes,
or else the default with a warning.

There are two ways to depart from it.  A value without a text makes a read of its text fail, and
a list that is stored as it is does not give its items where a list is wanted.
-/

namespace DiscoveryClient.ClientProperties

open Log PropertyReader

/-! ## Keys and coercions -/

/-- A key that is looked at. -/
structure DocumentedKey where
  name : String
  /-- Is it passed over when its text is empty? -/
  skipsEmpty : Bool := false

/-- The value under a key, unless it is null or passed over. -/
def DocumentedKey.value? (source : String → Option Value) (key : DocumentedKey) : Option Value :=
  (source key.name).filter fun value =>
    !value.isNull && !(key.skipsEmpty && value.display = "")

/-- The first key that has a value, with the value. -/
def firstOf (source : String → Option Value) (keys : List DocumentedKey) :
    Option (String × Value) :=
  keys.findSome? fun key => (key.value? source).map (key.name, ·)

/-- There is a value, and it has no text. -/
def Unwritable (value : Option Value) : Prop :=
  ∃ raw, value = some raw ∧ raw.text? = none

/-- The keys up to the first that has a value. -/
def upToFirst (source : String → Option Value) : List DocumentedKey → List DocumentedKey
  | [] => []
  | key :: rest => key :: if (key.value? source).isSome then [] else upToFirst source rest

/-- How a value is read, and what is answered if there is none or it cannot be read. -/
inductive Coercion where
  /-- An integer, in a unit that is so many times the stored one. -/
  | int (default unit : Int)
  | bool (default : Bool)
  | text (default : Option String)
  /-- The items between commas. -/
  | items (default : List String)

namespace Coercion

def kind : Coercion → Kind
  | .int _ _ => .int
  | .bool _ => .bool
  | .text _ => .string
  | .items _ => .list

def default : Coercion → Value
  | .int default _ => .int default
  | .bool default => .bool default
  | .text default => .ofText? default
  | .items default => .texts default

/-- The default in the unit of what is stored. -/
def stored : Coercion → Value
  | .int default unit => .int (default * unit)
  | coercion => coercion.default

/-- A value in the unit of the answer; a part of that unit counts down to the whole one. -/
def inUnit : Coercion → Value → Value
  | .int _ unit, .int value => .int (value.fdiv unit)
  | _, value => value

/-- The default, with a warning about the value under a key. -/
def refuse (coercion : Coercion) (key : String) (raw : Value) : Logged Value :=
  { value := coercion.default
    events := [ignoredValue key raw coercion.kind.word coercion.stored] }

/-- The documented answer, by the first key that has a value: what the value denotes, or the
default with a warning if it denotes nothing. -/
inductive Answers (coercion : Coercion) : Option (String × Value) → Logged Value → Prop where
  | absent : Answers coercion none (pure coercion.default)
  | denoted {key : String} {raw value : Value} (denotes : Denotes coercion.kind raw value) :
      Answers coercion (some (key, raw)) (pure (coercion.inUnit value))
  | refused {key : String} {raw : Value} (nothing : ∀ value, ¬ Denotes coercion.kind raw value) :
      Answers coercion (some (key, raw)) (coercion.refuse key raw)

end Coercion

/-! ## The documentation -/

/-- The ways in which properties are documented. -/
inductive Rule where
  | int (suffix : String) (default : Int)
  | scaled (suffix : String) (default unit : Int) (nonzero : unit ≠ 0)
  | bool (suffix : String) (default : Bool)
  | text (suffix : String) (default : Option String)
  | textOrElse (suffix other : String)
  | region
  | zones
  | urls
  | experimental

namespace Rule

/-- The keys of a property, in the order in which they are looked at. -/
def keys (scope argument : String) : Rule → List DocumentedKey
  | .int suffix _ => [{ name := scope ++ suffix }]
  | .scaled suffix _ _ _ => [{ name := scope ++ suffix }]
  | .bool suffix _ => [{ name := scope ++ suffix }]
  | .text suffix _ => [{ name := scope ++ suffix }]
  | .textOrElse suffix other => [{ name := scope ++ suffix }, { name := scope ++ other }]
  | .region => [{ name := scope ++ "region" }, { name := "eureka.region" }]
  | .zones => [{ name := scope ++ (argument ++ ".availabilityZones") }]
  | .urls =>
      [ { name := scope ++ ("serviceUrl." ++ argument), skipsEmpty := true },
        { name := scope ++ "serviceUrl.default" } ]
  | .experimental => [{ name := scope ++ ("experimental." ++ argument) }]

def coercion : Rule → Coercion
  | .int _ default => .int default 1
  | .scaled _ default unit _ => .int default unit
  | .bool _ default => .bool default
  | .text _ default => .text default
  | .textOrElse _ _ => .text none
  | .region => .text (some "us-east-1")
  | .zones => .items ["defaultZone"]
  | .urls => .items []
  | .experimental => .text none

def takesArgument : Rule → Bool
  | .zones | .urls | .experimental => true
  | _ => false

/-- The answer that is documented for a property. -/
def Documents (rule : Rule) (source : String → Option Value) (scope argument : String) :
    Logged Value → Prop :=
  rule.coercion.Answers (firstOf source (rule.keys scope argument))

/-- The keys whose values are put in writing: none where an integer is wanted, and else all,
but of the service URLs those of the default only if they are needed. -/
def written (source : String → Option Value) (scope argument : String) :
    Rule → List DocumentedKey
  | .int _ _ | .scaled _ _ _ _ => []
  | .urls => upToFirst source (Rule.urls.keys scope argument)
  | rule => rule.keys scope argument

/-- A value is to be put in writing that has no text. -/
def Fails (rule : Rule) (source : String → Option Value) (scope argument : String) : Prop :=
  ∃ key ∈ rule.written source scope argument, Unwritable (key.value? source)

/-- A list is wanted, and one is stored as it is. -/
def MeetsList (rule : Rule) (source : String → Option Value) (scope argument : String) : Prop :=
  rule.coercion.kind = .list ∧ ∃ key raw, firstOf source (rule.keys scope argument) =
    some (key, raw) ∧ raw.items? ≠ none

end Rule

/-- The properties of the interface as they are documented. -/
def documented : List (String × Rule) :=
  [ ("registry_fetch_interval_seconds", .int "client.refresh.interval" 30),
    ("instance_info_replication_interval_seconds", .int "appinfo.replicate.interval" 30),
    ("initial_instance_info_replication_interval_seconds",
      .int "appinfo.initial.replicate.time" 40),
    ("eureka_service_url_poll_interval_seconds",
      .scaled "serviceUrlPollIntervalMs" 300 1000 (by decide)),
    ("proxy_host", .text "eurekaServer.proxyHost" none),
    ("proxy_port", .text "eurekaServer.proxyPort" none),
    ("proxy_user_name", .text "eurekaServer.proxyUserName" none),
    ("proxy_password", .text "eurekaServer.proxyPassword" none),
    ("should_gzip_content", .bool "eurekaServer.gzipContent" true),
    ("eureka_server_read_timeout_seconds", .int "eurekaServer.readTimeout" 8),
    ("eureka_server_connect_timeout_seconds", .int "eurekaServer.connectTimeout" 5),
    ("eureka_server_total_connections", .int "eurekaServer.maxTotalConnections" 200),
    ("eureka_server_total_connections_per_host", .int "eurekaServer.maxConnectionsPerHost" 50),
    ("eureka_connection_idle_timeout_seconds",
      .int "eurekaserver.connectionIdleTimeoutInSeconds" 30),
    ("allow_redirects", .bool "allowRedirects" false),
    ("eureka_server_url_context", .textOrElse "eurekaServer.context" "context"),
    ("eureka_server_port", .textOrElse "eurekaServer.port" "port"),
    ("eureka_server_dns_name", .textOrElse "eurekaServer.domainName" "domainName"),
    ("should_use_dns_for_fetching_service_urls", .bool "shouldUseDns" false),
    ("region", .region),
    ("availability_zones", .zones),
    ("eureka_server_service_urls", .urls),
    ("should_prefer_same_zone_eureka", .bool "preferSameZone" true),
    ("should_register_with_eureka", .bool "registration.enabled" true),
    ("should_fetch_registry", .bool "shouldFetchRegistry" true),
    ("should_disable_delta", .bool "disableDelta" false),
    ("should_log_delta_diff", .bool "printDeltaFullDiff" false),
    ("should_filter_only_up_instances", .bool "shouldFilterOnlyUpInstances" true),
    ("should_on_demand_update_status_change", .bool "shouldOnDemandUpdateStatusChange" true),
    ("fetch_registry_for_remote_regions", .text "fetchRemoteRegionsRegistry" none),
    ("registry_refresh_single_vip_address", .text "registryRefreshSingleVipAddress" none),
    ("backup_registry_impl", .text "backupregistry" none),
    ("read_cluster_app_name", .text "readClusterAppName" none),
    ("heartbeat_executor_thread_pool_size", .int "client.heartbeat.threadPoolSize" 5),
    ("heartbeat_executor_exponential_back_off_bound",
      .int "client.heartbeat.exponentialBackOffBound" 10),
    ("cache_refresh_executor_thread_pool_size", .int "client.cacheRefresh.threadPoolSize" 5),
    ("cache_refresh_executor_exponential_back_off_bound",
      .int "client.cacheRefresh.exponentialBackOffBound" 10),
    ("dollar_replacement", .text "dollarReplacement" (some "_-")),
    ("escape_char_replacement", .text "escapeCharReplacement" (some "__")),
    ("encoder_name", .text "encoderName" none),
    ("decoder_name", .text "decoderName" none),
    ("client_data_accept", .text "clientDataAccept" (some "full")),
    ("experimental", .experimental) ]

/-! ## The interface -/

/-- A property of the interface that is read in one of the ways. -/
def Rule.entry (name : String) : Rule → Entry
  | .int suffix default => .int name fun reader => reader.getInt suffix default
  | .scaled suffix default unit _ => .int name fun reader => do
      let stored ← reader.getInt suffix (default * unit)
      pure (stored.fdiv unit)
  | .bool suffix default => .bool name fun reader => reader.getBool suffix default
  | .text suffix none => .text? name fun reader => reader.string? suffix
  | .text suffix (some default) => .text name fun reader => reader.getString suffix default
  | .textOrElse suffix other => .text? name fun reader => reader.stringOrElse? suffix other
  | .region => .text name PropertyReader.region
  | .zones => .texts name PropertyReader.availabilityZones
  | .urls => .texts name PropertyReader.serviceUrls
  | .experimental =>
      ⟨name, true, fun reader argument =>
        pure ((reader.string? ("experimental." ++ argument)).map Value.ofText?)⟩

theorem entries_eq : entries = documented.map fun (name, rule) => rule.entry name := rfl

/-! ## Keys that are read -/

variable {source other : String → Option Value} {scope suffix argument name : String}
  {raw : Value} {coercion : Coercion} {rule : Rule}

/-- The value of a key that is not passed over. -/
theorem value?_plain (source : String → Option Value) (key : String) :
    DocumentedKey.value? source { name := key } =
      (source key).filter fun value => !value.isNull := by
  simp [DocumentedKey.value?]

theorem given?_eq (source : String → Option Value) (scope key : String) :
    PropertyReader.given? ⟨source, .text scope⟩ key =
      DocumentedKey.value? source { name := key } := by
  rw [value?_plain, PropertyReader.given?]

theorem key_eq (source : String → Option Value) (scope suffix : String) :
    PropertyReader.key ⟨source, .text scope⟩ suffix = scope ++ suffix :=
  PropertyReader.key_of_scope rfl suffix

theorem string?_eq (source : String → Option Value) (scope suffix : String) :
    PropertyReader.string? ⟨source, .text scope⟩ suffix =
      (DocumentedKey.value? source { name := scope ++ suffix }).mapM Value.written := by
  rw [PropertyReader.string?, PropertyReader.text?, key_eq, given?_eq]

theorem firstOf_one (source : String → Option Value) (key : DocumentedKey) :
    firstOf source [key] = (key.value? source).map (key.name, ·) := by
  rw [firstOf, List.findSome?_cons]
  cases key.value? source <;> rfl

theorem firstOf_two (source : String → Option Value) (first second : DocumentedKey) :
    firstOf source [first, second] =
      ((first.value? source).map (first.name, ·)).or
        ((second.value? source).map (second.name, ·)) := by
  rw [firstOf, List.findSome?_cons, ← firstOf, firstOf_one]
  cases first.value? source <;> rfl

/-- The first value is that of a key up to which the keys are looked at. -/
theorem mem_upToFirst {keys : List DocumentedKey} (first : firstOf source keys = some (name, raw)) :
    ∃ key ∈ upToFirst source keys, key.value? source = some raw := by
  induction keys with
  | nil => cases first
  | cons key rest induction =>
      rw [firstOf, List.findSome?_cons, ← firstOf] at first
      cases found : key.value? source with
      | some value =>
          rw [found] at first
          cases first
          exact ⟨key, List.mem_cons_self, found⟩
      | none =>
          rw [found] at first
          obtain ⟨later, member, value⟩ := induction first
          refine ⟨later, ?_, value⟩
          rw [upToFirst, found]
          exact List.mem_cons_of_mem _ member

theorem upToFirst_sublist (source : String → Option Value) (keys : List DocumentedKey) :
    (upToFirst source keys).Sublist keys := by
  induction keys with
  | nil => exact .slnil
  | cons key rest induction =>
      rw [upToFirst]
      split
      · exact .cons_cons key (List.nil_sublist rest)
      · exact .cons_cons key induction

theorem mem_firstOf {keys : List DocumentedKey} (first : firstOf source keys = some (name, raw)) :
    ∃ key ∈ keys, key.value? source = some raw := by
  obtain ⟨key, member, value⟩ := mem_upToFirst first
  exact ⟨key, (upToFirst_sublist source keys).subset member, value⟩

/-- A key of a property that is put in writing is one of its keys. -/
theorem mem_keys_of_written {key : DocumentedKey}
    (member : key ∈ rule.written source scope argument) : key ∈ rule.keys scope argument := by
  cases rule with
  | int suffix default => cases member
  | scaled suffix default unit nonzero => cases member
  | urls => exact (upToFirst_sublist source _).subset member
  | _ => exact member

/-- The first value is put in writing, unless an integer is wanted. -/
theorem written_firstOf (notInt : rule.coercion.kind ≠ .int)
    (first : firstOf source (rule.keys scope argument) = some (name, raw)) :
    ∃ key ∈ rule.written source scope argument, key.value? source = some raw := by
  cases rule with
  | int suffix default => exact absurd rfl notInt
  | scaled suffix default unit nonzero => exact absurd rfl notInt
  | urls => exact mem_upToFirst first
  | _ => exact mem_firstOf first

/-- If the read does not fail, the first value can be read. -/
theorem reads_firstOf (works : ¬ rule.Fails source scope argument)
    (first : firstOf source (rule.keys scope argument) = some (name, raw)) :
    rule.coercion.kind.Reads raw := by
  by_cases int : rule.coercion.kind = .int
  · exact .inl int
  · obtain ⟨key, member, value⟩ := written_firstOf int first
    exact .inr fun unwritable => works ⟨key, member, raw, value, unwritable⟩

/-! ## The documented answer -/

/-- There is one documented answer. -/
theorem Coercion.existsUnique_answers (coercion : Coercion) (first : Option (String × Value)) :
    ∃! answer, coercion.Answers first answer := by
  rcases first with _ | ⟨key, raw⟩
  · refine ⟨_, .absent, ?_⟩
    rintro answer ⟨⟩
    rfl
  · by_cases denotes : ∃ value, Denotes coercion.kind raw value
    · obtain ⟨value, denotes⟩ := denotes
      refine ⟨_, .denoted denotes, ?_⟩
      intro answer answers
      cases answers with
      | denoted also => rw [denotes.unique also]
      | refused nothing => exact absurd denotes (nothing value)
    · refine ⟨_, .refused (not_exists.mp denotes), ?_⟩
      intro answer answers
      cases answers with
      | denoted denotesToo => exact absurd ⟨_, denotesToo⟩ denotes
      | refused nothing => rfl

/-! ## Sources that agree -/

theorem value?_congr {key : DocumentedKey} (agree : other key.name = source key.name) :
    key.value? other = key.value? source := by
  rw [DocumentedKey.value?, DocumentedKey.value?, agree]

theorem firstOf_congr {keys : List DocumentedKey}
    (agree : ∀ key ∈ keys, other key.name = source key.name) :
    firstOf other keys = firstOf source keys := by
  induction keys with
  | nil => rfl
  | cons key rest induction =>
      have later := induction fun key member => agree key (List.mem_cons_of_mem _ member)
      rw [firstOf, firstOf] at later ⊢
      rw [List.findSome?_cons, List.findSome?_cons, value?_congr (agree key List.mem_cons_self),
        later]

theorem upToFirst_congr {keys : List DocumentedKey}
    (agree : ∀ key ∈ keys, other key.name = source key.name) :
    upToFirst other keys = upToFirst source keys := by
  induction keys with
  | nil => rfl
  | cons key rest induction =>
      rw [upToFirst, upToFirst, value?_congr (agree key List.mem_cons_self),
        induction fun key member => agree key (List.mem_cons_of_mem _ member)]

theorem fails_congr
    (agree : ∀ key ∈ rule.keys scope argument, other key.name = source key.name) :
    rule.Fails other scope argument ↔ rule.Fails source scope argument := by
  have written : rule.written other scope argument = rule.written source scope argument := by
    cases rule with
    | urls => exact upToFirst_congr agree
    | _ => rfl
  rw [Rule.Fails, Rule.Fails, written]
  refine exists_congr fun key => and_congr_right fun member => ?_
  rw [value?_congr (agree key (mem_keys_of_written member))]

end DiscoveryClient.ClientProperties
