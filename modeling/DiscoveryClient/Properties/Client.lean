import DiscoveryClient.Properties.Reader

/-!
# Client properties

Every property that the discovery client reads, by key and default.  Values
are looked up at each call, so a changed property takes effect at the next
read.
-/

namespace DiscoveryClient.ClientProperties

open Log

variable (reader : PropertyReader)

/-! ## Intervals -/

def registryFetchIntervalSeconds : Logged Int :=
  reader.getInt "client.refresh.interval" 30

def replicationIntervalSeconds : Logged Int :=
  reader.getInt "appinfo.replicate.interval" 30

def initialReplicationIntervalSeconds : Logged Int :=
  reader.getInt "appinfo.initial.replicate.time" 40

/-- Stored in milliseconds; a part of a second counts down to the whole one. -/
def serviceUrlPollIntervalSeconds : Logged Int := do
  let milliseconds ← reader.getInt "serviceUrlPollIntervalMs" 300000
  pure (milliseconds.fdiv 1000)

/-! ## Proxy -/

def proxyHost : Except Failure (Option String) :=
  reader.string? "eurekaServer.proxyHost"

def proxyPort : Except Failure (Option String) :=
  reader.string? "eurekaServer.proxyPort"

def proxyUserName : Except Failure (Option String) :=
  reader.string? "eurekaServer.proxyUserName"

def proxyPassword : Except Failure (Option String) :=
  reader.string? "eurekaServer.proxyPassword"

/-! ## Server transport -/

def shouldGzipContent : Logged (Except Failure Bool) :=
  reader.getBool "eurekaServer.gzipContent" true

def serverReadTimeoutSeconds : Logged Int :=
  reader.getInt "eurekaServer.readTimeout" 8

def serverConnectTimeoutSeconds : Logged Int :=
  reader.getInt "eurekaServer.connectTimeout" 5

def serverTotalConnections : Logged Int :=
  reader.getInt "eurekaServer.maxTotalConnections" 200

def serverTotalConnectionsPerHost : Logged Int :=
  reader.getInt "eurekaServer.maxConnectionsPerHost" 50

/-- The key begins in lower case throughout. -/
def connectionIdleTimeoutSeconds : Logged Int :=
  reader.getInt "eurekaserver.connectionIdleTimeoutInSeconds" 30

def allowRedirects : Logged (Except Failure Bool) :=
  reader.getBool "allowRedirects" false

/-! ## Server location -/

def serverUrlContext : Except Failure (Option String) :=
  reader.stringOrElse? "eurekaServer.context" "context"

def serverPort : Except Failure (Option String) :=
  reader.stringOrElse? "eurekaServer.port" "port"

def serverDnsName : Except Failure (Option String) :=
  reader.stringOrElse? "eurekaServer.domainName" "domainName"

def shouldUseDns : Logged (Except Failure Bool) :=
  reader.getBool "shouldUseDns" false

def shouldPreferSameZone : Logged (Except Failure Bool) :=
  reader.getBool "preferSameZone" true

/-! ## Registration and registry fetch -/

def shouldRegister : Logged (Except Failure Bool) :=
  reader.getBool "registration.enabled" true

def shouldFetchRegistry : Logged (Except Failure Bool) :=
  reader.getBool "shouldFetchRegistry" true

def shouldDisableDelta : Logged (Except Failure Bool) :=
  reader.getBool "disableDelta" false

def shouldLogDeltaDiff : Logged (Except Failure Bool) :=
  reader.getBool "printDeltaFullDiff" false

def shouldFilterOnlyUpInstances : Logged (Except Failure Bool) :=
  reader.getBool "shouldFilterOnlyUpInstances" true

def shouldUpdateStatusOnDemand : Logged (Except Failure Bool) :=
  reader.getBool "shouldOnDemandUpdateStatusChange" true

def remoteRegions : Except Failure (Option String) :=
  reader.string? "fetchRemoteRegionsRegistry"

def singleVipAddress : Except Failure (Option String) :=
  reader.string? "registryRefreshSingleVipAddress"

def backupRegistry : Except Failure (Option String) :=
  reader.string? "backupregistry"

def readClusterAppName : Except Failure (Option String) :=
  reader.string? "readClusterAppName"

/-! ## Executors -/

def heartbeatThreads : Logged Int :=
  reader.getInt "client.heartbeat.threadPoolSize" 5

def heartbeatBackOffBound : Logged Int :=
  reader.getInt "client.heartbeat.exponentialBackOffBound" 10

def cacheRefreshThreads : Logged Int :=
  reader.getInt "client.cacheRefresh.threadPoolSize" 5

def cacheRefreshBackOffBound : Logged Int :=
  reader.getInt "client.cacheRefresh.exponentialBackOffBound" 10

/-! ## Serialization -/

def dollarReplacement : Except Failure String :=
  reader.getString "dollarReplacement" "_-"

def escapeCharReplacement : Except Failure String :=
  reader.getString "escapeCharReplacement" "__"

def encoderName : Except Failure (Option String) :=
  reader.string? "encoderName"

def decoderName : Except Failure (Option String) :=
  reader.string? "decoderName"

def clientDataAccept : Except Failure String :=
  reader.getString "clientDataAccept" "full"

def experimental (name : String) : Except Failure (Option String) :=
  reader.string? ("experimental." ++ name)

/-! ## All properties -/

/-- A property under its name in the client's interface, as a value.  The few
properties that depend on a region, a zone or a name take it as argument. -/
structure Entry where
  name : String
  takesArgument : Bool
  read : PropertyReader → (argument : String) → Logged (Except Failure Value)

namespace Entry

def int (name : String) (get : PropertyReader → Logged Int) : Entry :=
  ⟨name, false, fun reader _ => (fun value => .ok (.int value)) <$> get reader⟩

def bool (name : String) (get : PropertyReader → Logged (Except Failure Bool)) : Entry :=
  ⟨name, false, fun reader _ => (·.map Value.bool) <$> get reader⟩

def text (name : String) (get : PropertyReader → Except Failure String) : Entry :=
  ⟨name, false, fun reader _ => pure ((get reader).map .text)⟩

def text? (name : String) (get : PropertyReader → Except Failure (Option String)) : Entry :=
  ⟨name, false, fun reader _ => pure ((get reader).map Value.ofText?)⟩

def texts (name : String) (get : PropertyReader → String → Except Failure (List String)) :
    Entry :=
  ⟨name, true, fun reader argument => pure ((get reader argument).map Value.texts)⟩

end Entry

def entries : List Entry :=
  [ .int "registry_fetch_interval_seconds" registryFetchIntervalSeconds,
    .int "instance_info_replication_interval_seconds" replicationIntervalSeconds,
    .int "initial_instance_info_replication_interval_seconds"
      initialReplicationIntervalSeconds,
    .int "eureka_service_url_poll_interval_seconds" serviceUrlPollIntervalSeconds,
    .text? "proxy_host" proxyHost,
    .text? "proxy_port" proxyPort,
    .text? "proxy_user_name" proxyUserName,
    .text? "proxy_password" proxyPassword,
    .bool "should_gzip_content" shouldGzipContent,
    .int "eureka_server_read_timeout_seconds" serverReadTimeoutSeconds,
    .int "eureka_server_connect_timeout_seconds" serverConnectTimeoutSeconds,
    .int "eureka_server_total_connections" serverTotalConnections,
    .int "eureka_server_total_connections_per_host" serverTotalConnectionsPerHost,
    .int "eureka_connection_idle_timeout_seconds" connectionIdleTimeoutSeconds,
    .bool "allow_redirects" allowRedirects,
    .text? "eureka_server_url_context" serverUrlContext,
    .text? "eureka_server_port" serverPort,
    .text? "eureka_server_dns_name" serverDnsName,
    .bool "should_use_dns_for_fetching_service_urls" shouldUseDns,
    .text "region" PropertyReader.region,
    .texts "availability_zones" PropertyReader.availabilityZones,
    .texts "eureka_server_service_urls" PropertyReader.serviceUrls,
    .bool "should_prefer_same_zone_eureka" shouldPreferSameZone,
    .bool "should_register_with_eureka" shouldRegister,
    .bool "should_fetch_registry" shouldFetchRegistry,
    .bool "should_disable_delta" shouldDisableDelta,
    .bool "should_log_delta_diff" shouldLogDeltaDiff,
    .bool "should_filter_only_up_instances" shouldFilterOnlyUpInstances,
    .bool "should_on_demand_update_status_change" shouldUpdateStatusOnDemand,
    .text? "fetch_registry_for_remote_regions" remoteRegions,
    .text? "registry_refresh_single_vip_address" singleVipAddress,
    .text? "backup_registry_impl" backupRegistry,
    .text? "read_cluster_app_name" readClusterAppName,
    .int "heartbeat_executor_thread_pool_size" heartbeatThreads,
    .int "heartbeat_executor_exponential_back_off_bound" heartbeatBackOffBound,
    .int "cache_refresh_executor_thread_pool_size" cacheRefreshThreads,
    .int "cache_refresh_executor_exponential_back_off_bound" cacheRefreshBackOffBound,
    .text "dollar_replacement" dollarReplacement,
    .text "escape_char_replacement" escapeCharReplacement,
    .text? "encoder_name" encoderName,
    .text? "decoder_name" decoderName,
    .text "client_data_accept" clientDataAccept,
    ⟨"experimental", true, fun reader name =>
      pure ((experimental reader name).map Value.ofText?)⟩ ]

def entry? (name : String) : Option Entry :=
  entries.find? fun entry => entry.name = name

/-- The one name of the interface that is no property, and cannot be called. -/
def readerName : String := "resolver"

/-- Call a property by its name, with as many arguments as it takes. -/
def call (name : String) (arguments : List String) : Logged (Except Failure Value) :=
  match entry? name with
  | some entry =>
      if arguments.length = entry.takesArgument.toNat then
        entry.read reader (arguments.headD "")
      else pure (.error .wrongType)
  | none => pure (.error (if name = readerName then .wrongType else .noSuchOperation))

end DiscoveryClient.ClientProperties
