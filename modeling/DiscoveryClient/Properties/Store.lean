import DiscoveryClient.Value.Entries
import DiscoveryClient.Value.Equality

/-!
# Property stores

A store holds properties that are set and removed one by one or many at a time.
Keys are texts as a rule, and only those are found by a reader of properties;
any other value that never changes can be a key too.

A change that is refused leaves the store as it was.
-/

namespace DiscoveryClient

structure PropertyStore where
  /-- The properties whose keys are texts. -/
  named : Mapping Value := .empty
  /-- The other entries. -/
  others : List Value.Entry := []
  deriving Inhabited

namespace PropertyStore

def empty : PropertyStore := {}

def isEmpty (store : PropertyStore) : Bool :=
  store.named.entries.isEmpty && store.others.isEmpty

/-- All entries, every key shown by its text. -/
def entries (store : PropertyStore) : List (String × Value) :=
  store.named.entries ++ store.others.map fun (key, value) => (key.display, value)

/-- The value under a text. -/
def get? (store : PropertyStore) (name : String) : Option Value :=
  store.named.get? name

/-- The value under any key. -/
def find? (store : PropertyStore) : (key : Value) → Option Value
  | .text name => store.get? name
  | key => (store.others.find? fun entry => entry.1.agrees key).map Prod.snd

/-- Set the value of a key among other entries, in its place or at the end. -/
def putOther (key value : Value) : List Value.Entry → List Value.Entry
  | [] => [(key, value)]
  | entry :: rest =>
      if entry.1.agrees key then (entry.1, value) :: rest else entry :: putOther key value rest

def put (store : PropertyStore) : (key value : Value) → PropertyStore
  | .text name, value => { store with named := store.named.insert name value }
  | key, value => { store with others := putOther key value store.others }

def erase (store : PropertyStore) : (key : Value) → PropertyStore
  | .text name => { store with named := store.named.erase name }
  | key => { store with others := store.others.filter fun entry => !entry.1.agrees key }

/-! ## Operations -/

/-- Go on with a key that can be looked up. -/
def withKey {α : Type} (key : Value) (result : α) : Except Failure α :=
  if key.isFixed then .ok result else .error .wrongType

def look (store : PropertyStore) (key : Value) : Except Failure (Option Value) :=
  withKey key (store.find? key)

def set (store : PropertyStore) (key value : Value) : Except Failure PropertyStore :=
  withKey key (store.put key value)

/-- Take a key away if it is there.  An empty store does not look at the key. -/
def remove (store : PropertyStore) (key : Value) : Except Failure PropertyStore :=
  if store.isEmpty then .ok store else withKey key (store.erase key)

/-- Set all entries of a value. -/
def update (store : PropertyStore) (value : Value) : Except Failure PropertyStore :=
  value.entries.map fun entries =>
    entries.foldl (fun store entry => store.put entry.1 entry.2) store

/-- A store with the entries of a value; a value that says nothing has none. -/
def ofValue (value : Value) : Except Failure PropertyStore :=
  if value.isFilled then empty.update value else .ok empty

/-! ## Texts as keys -/

@[simp] theorem look_text (store : PropertyStore) (name : String) :
    store.look (.text name) = .ok (store.get? name) := rfl

@[simp] theorem get?_put_text (store : PropertyStore) (key name : String) (value : Value) :
    (store.put (.text key) value).get? name = if name = key then some value else store.get? name :=
  Mapping.get?_insert store.named key name value

@[simp] theorem get?_erase_text (store : PropertyStore) (key name : String) :
    (store.erase (.text key)).get? name = if name = key then none else store.get? name :=
  Mapping.get?_erase store.named key name

end PropertyStore

end DiscoveryClient
