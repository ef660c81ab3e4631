import DiscoveryClient.Failure

/-!
# Metadata fields

The fields of a host's metadata.  Metadata is stored by wire name
(`public-hostname`); address orders name the same fields by token
(`publicHostname`).
-/

namespace DiscoveryClient

inductive MetadataField where
  | amiId
  | amiLaunchIndex
  | amiManifestPath
  | instanceId
  | instanceType
  | localIpv4
  | localHostname
  | availabilityZone
  | publicHostname
  | publicIpv4
  | mac
  | vpcId
  | accountId
  deriving DecidableEq, Repr, Inhabited

namespace MetadataField

def all : List MetadataField :=
  [ .amiId, .amiLaunchIndex, .amiManifestPath, .instanceId, .instanceType, .localIpv4,
    .localHostname, .availabilityZone, .publicHostname, .publicIpv4, .mac, .vpcId, .accountId ]

/-- The name under which the metadata holds the field. -/
def wireName : MetadataField → String
  | .amiId => "ami-id"
  | .amiLaunchIndex => "ami-launch-index"
  | .amiManifestPath => "ami-manifest-path"
  | .instanceId => "instance-id"
  | .instanceType => "instance-type"
  | .localIpv4 => "local-ipv4"
  | .localHostname => "local-hostname"
  | .availabilityZone => "availability-zone"
  | .publicHostname => "public-hostname"
  | .publicIpv4 => "public-ipv4"
  | .mac => "mac"
  | .vpcId => "vpc-id"
  | .accountId => "accountId"

/-- The name of the field in address orders. -/
def token : MetadataField → String
  | .amiId => "amiId"
  | .amiLaunchIndex => "amiLaunchIndex"
  | .amiManifestPath => "amiManifestPath"
  | .instanceId => "instanceId"
  | .instanceType => "instanceType"
  | .localIpv4 => "localIpv4"
  | .localHostname => "localHostname"
  | .availabilityZone => "availabilityZone"
  | .publicHostname => "publicHostname"
  | .publicIpv4 => "publicIpv4"
  | .mac => "mac"
  | .vpcId => "vpcId"
  | .accountId => "accountId"

/-- The name of the field as a constant. -/
def constantName : MetadataField → String
  | .amiId => "AMI_ID"
  | .amiLaunchIndex => "AMI_LAUNCH_INDEX"
  | .amiManifestPath => "AMI_MANIFEST_PATH"
  | .instanceId => "INSTANCE_ID"
  | .instanceType => "INSTANCE_TYPE"
  | .localIpv4 => "LOCAL_IPV4"
  | .localHostname => "LOCAL_HOSTNAME"
  | .availabilityZone => "AVAILABILITY_ZONE"
  | .publicHostname => "PUBLIC_HOSTNAME"
  | .publicIpv4 => "PUBLIC_IPV4"
  | .mac => "MAC"
  | .vpcId => "VPC_ID"
  | .accountId => "ACCOUNT_ID"

/-- The field that a token of an address order names, by exact match. -/
def ofToken? (token : String) : Option MetadataField :=
  all.find? fun field => field.token = token

def ofWireName? (name : String) : Option MetadataField :=
  all.find? fun field => field.wireName = name

/-- The field that a value names as a token.  Only texts name fields, and
values that can change cannot be looked up. -/
def ofTokenValue? : Value → Except Failure (Option MetadataField)
  | .text token => .ok (ofToken? token)
  | value => if value.isFixed then .ok none else .error .wrongType

/-- The field of a wire name; other values are refused. -/
def ofWireValue (value : Value) : Except Failure MetadataField :=
  match value with
  | .text name => (ofWireName? name).elim refused .ok
  | _ => refused
where
  refused : Except Failure MetadataField :=
    .error (.refusedValue (value.literal ++ " is not a valid MetadataKey"))

@[simp] theorem ofToken?_token (field : MetadataField) : ofToken? field.token = some field := by
  cases field <;> decide

@[simp] theorem ofWireName?_wireName (field : MetadataField) :
    ofWireName? field.wireName = some field := by
  cases field <;> decide

@[simp] theorem ofTokenValue?_text (token : String) :
    ofTokenValue? (.text token) = .ok (ofToken? token) := rfl

theorem token_of_ofToken? {token : String} {field : MetadataField}
    (found : ofToken? token = some field) : field.token = token := by
  simpa using List.find?_some found

end MetadataField

end DiscoveryClient
