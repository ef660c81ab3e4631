import DiscoveryClient.Metadata.Field

/-!
# Data centers

An instance runs in the cloud, where a mapping of host metadata may be at
hand, or in a data center of its own, which has none.
-/

namespace DiscoveryClient

inductive DataCenterKind where
  | amazon
  | myOwn
  deriving DecidableEq, Repr, Inhabited

namespace DataCenterKind

def text : DataCenterKind → String
  | .amazon => "Amazon"
  | .myOwn => "MyOwn"

def ofText? (text : String) : Option DataCenterKind :=
  [amazon, myOwn].find? fun kind => kind.text = text

/-- The kind that a value names; other values are refused. -/
def ofValue (value : Value) : Except Failure DataCenterKind :=
  match value with
  | .text text => (ofText? text).elim refused .ok
  | _ => refused
where
  refused : Except Failure DataCenterKind :=
    .error (.refusedValue (value.literal ++ " is not a valid DataCenterName"))

end DataCenterKind

/-- Values of metadata fields by wire name; a field may be present without
saying anything. -/
abbrev Metadata := Mapping Value

structure DataCenter where
  name : DataCenterKind
  metadata : Option Metadata
  deriving Inhabited

namespace DataCenter

/-- A cloud data center, with empty metadata if none is given. -/
def amazon (metadata : Option Metadata) : DataCenter :=
  { name := .amazon, metadata := some (metadata.getD .empty) }

def generic : DataCenter :=
  { name := .myOwn, metadata := none }

/-- Only the cloud with a metadata mapping can answer questions about the host. -/
def hasMetadata (center : DataCenter) : Bool :=
  center.name = .amazon && center.metadata.isSome

def metadataUnavailable (name : DataCenterKind) : Failure :=
  .own (.detailed .metadataUnavailable
    ("Data center " ++ Text.quoted name.text ++ " has no host metadata")
    (Mapping.empty.insert "data_center" (.text name.text)))

def metadataOrFail (center : DataCenter) : Except Failure Metadata :=
  match center.name, center.metadata with
  | .amazon, some metadata => .ok metadata
  | name, _ => .error (metadataUnavailable name)

/-- The value of one field; that of an absent field is null. -/
def get (center : DataCenter) (field : MetadataField) : Except Failure Value :=
  center.metadataOrFail.map fun metadata => (metadata.get? field.wireName).getD .null

/-- Change one field of the mapping that the data center refers to. -/
def setField (center : DataCenter) (field : String) (value : Value) : DataCenter :=
  { center with metadata := center.metadata.map fun metadata => metadata.insert field value }

/-- The data center as messages show it. -/
def shown (center : DataCenter) : String :=
  "DataCenterInfo(name=" ++ center.name.text ++ ")"

end DataCenter

end DiscoveryClient
