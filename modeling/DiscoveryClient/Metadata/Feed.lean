import DiscoveryClient.Metadata.DataCenter

/-!
# Metadata feeds

A feed is a metadata mapping that a collaborator keeps current.  Reads of it
may fail, those of one field or, under the name `*`, all that have no failure
of their own.
-/

namespace DiscoveryClient

structure MetadataFeed where
  values : Metadata := .empty
  failures : List (String × Failure) := []
  deriving Inhabited

namespace MetadataFeed

/-- Stands for every field. -/
def anyField : String := "*"

def failure? (feed : MetadataFeed) (field : MetadataField) : Option Failure :=
  (Mapping.lookup field.wireName feed.failures).or (Mapping.lookup anyField feed.failures)

/-- The value of a field; that of an absent field is null. -/
def value (feed : MetadataFeed) (field : MetadataField) : Value :=
  (feed.values.get? field.wireName).getD .null

def read (feed : MetadataFeed) (field : MetadataField) : Except Failure Value :=
  match feed.failure? field with
  | some failure => .error failure
  | none => .ok (feed.value field)

/-- The value under a key of any type; only texts are keys. -/
def held? (feed : MetadataFeed) : (key : Value) → Option Value
  | .text name => feed.values.get? name
  | _ => none

/-- Take a key away if it is there.  An empty mapping does not look at the key. -/
def drop (feed : MetadataFeed) : (key : Value) → Except Failure MetadataFeed
  | .text name => .ok { feed with values := feed.values.erase name }
  | key =>
      if feed.values.entries.isEmpty || key.isFixed then .ok feed else .error .wrongType

theorem read_eq_ok {feed : MetadataFeed} {field : MetadataField}
    (works : feed.failure? field = none) : feed.read field = .ok (feed.value field) := by
  simp [read, works]

end MetadataFeed

end DiscoveryClient
