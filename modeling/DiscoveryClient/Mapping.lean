/-!
# Mappings from names to values

A mapping holds one value for each of its names and remembers the order in
which the names came in.  Giving a name a new value keeps its place.  Two
mappings say the same when they answer every look-up alike, whatever their
order.
-/

namespace DiscoveryClient

/-- Entries in the order of their first insertion, with no name twice. -/
structure Mapping (α : Type) where
  entries : List (String × α)
  nodup : (entries.map Prod.fst).Nodup := by simp

namespace Mapping

variable {α : Type}

def empty : Mapping α := { entries := [] }

instance : Inhabited (Mapping α) := ⟨empty⟩

def keys (mapping : Mapping α) : List String :=
  mapping.entries.map Prod.fst

def size (mapping : Mapping α) : Nat :=
  mapping.entries.length

/-! ## Entry lists -/

def lookup (key : String) : List (String × α) → Option α
  | [] => none
  | (name, value) :: rest => if name = key then some value else lookup key rest

/-- Set the value of a name in its place, or at the end when the name is new. -/
def put (key : String) (value : α) : List (String × α) → List (String × α)
  | [] => [(key, value)]
  | (name, old) :: rest =>
      if name = key then (name, value) :: rest else (name, old) :: put key value rest

def without (key : String) : List (String × α) → List (String × α)
  | [] => []
  | (name, value) :: rest => if name = key then rest else (name, value) :: without key rest

theorem mem_keys_put {key name : String} {value : α} {entries : List (String × α)} :
    name ∈ (put key value entries).map Prod.fst ↔ name = key ∨ name ∈ entries.map Prod.fst := by
  induction entries with
  | nil => simp [put]
  | cons entry rest induction =>
      obtain ⟨first, old⟩ := entry
      by_cases same : first = key
      · subst same
        simp [put]
      · simp only [put, same, if_false, List.map_cons, List.mem_cons, induction]
        grind

theorem nodup_put {key : String} {value : α} {entries : List (String × α)}
    (nodup : (entries.map Prod.fst).Nodup) : ((put key value entries).map Prod.fst).Nodup := by
  induction entries with
  | nil => simp [put]
  | cons entry rest induction =>
      obtain ⟨first, old⟩ := entry
      simp only [List.map_cons, List.nodup_cons] at nodup
      by_cases same : first = key
      · simpa [put, same] using nodup
      · simp only [put, same, if_false, List.map_cons, List.nodup_cons, mem_keys_put]
        exact ⟨by simp [nodup.1], induction nodup.2⟩

theorem without_sublist (key : String) (entries : List (String × α)) :
    (without key entries).Sublist entries := by
  induction entries with
  | nil => exact List.Sublist.slnil
  | cons entry rest induction =>
      obtain ⟨first, old⟩ := entry
      unfold without
      split
      · exact List.sublist_cons_self _ _
      · exact induction.cons_cons _

theorem nodup_without {key : String} {entries : List (String × α)}
    (nodup : (entries.map Prod.fst).Nodup) : ((without key entries).map Prod.fst).Nodup :=
  List.Sublist.nodup ((without_sublist key entries).map Prod.fst) nodup

theorem lookup_put (key name : String) (value : α) (entries : List (String × α)) :
    lookup name (put key value entries) = if name = key then some value else lookup name entries := by
  induction entries with
  | nil => simp [put, lookup, eq_comm]
  | cons entry rest induction =>
      obtain ⟨first, old⟩ := entry
      by_cases same : first = key
      · subst same
        by_cases here : first = name
        · simp [put, lookup, here]
        · simp [put, lookup, here, Ne.symm here]
      · by_cases here : first = name
        · subst here
          simp [put, lookup, same]
        · simp [put, lookup, same, here, induction]

theorem lookup_eq_none {name : String} {entries : List (String × α)}
    (absent : name ∉ entries.map Prod.fst) : lookup name entries = none := by
  induction entries with
  | nil => rfl
  | cons entry rest induction =>
      obtain ⟨first, old⟩ := entry
      simp only [List.map_cons, List.mem_cons, not_or] at absent
      simp [lookup, Ne.symm absent.1, induction absent.2]

theorem isSome_lookup {name : String} {entries : List (String × α)} :
    (lookup name entries).isSome = true ↔ name ∈ entries.map Prod.fst := by
  induction entries with
  | nil => simp [lookup]
  | cons entry rest induction =>
      obtain ⟨first, value⟩ := entry
      by_cases here : first = name
      · simp [lookup, here]
      · simp [lookup, here, Ne.symm here, induction]

theorem put_of_absent {key : String} {value : α} {entries : List (String × α)}
    (absent : key ∉ entries.map Prod.fst) : put key value entries = entries ++ [(key, value)] := by
  induction entries with
  | nil => rfl
  | cons entry rest induction =>
      obtain ⟨first, old⟩ := entry
      simp only [List.map_cons, List.mem_cons, not_or] at absent
      simp [put, Ne.symm absent.1, induction absent.2]

theorem lookup_without {key name : String} {entries : List (String × α)}
    (nodup : (entries.map Prod.fst).Nodup) :
    lookup name (without key entries) = if name = key then none else lookup name entries := by
  induction entries with
  | nil => simp [without, lookup]
  | cons entry rest induction =>
      obtain ⟨first, old⟩ := entry
      simp only [List.map_cons, List.nodup_cons] at nodup
      by_cases same : first = key
      · subst same
        by_cases here : name = first
        · subst here
          simp [without, lookup_eq_none nodup.1]
        · simp [without, lookup, here, Ne.symm here]
      · by_cases here : first = name
        · subst here
          simp [without, lookup, same]
        · simp [without, lookup, same, here, induction nodup.2]

/-! ## Operations -/

def get? (mapping : Mapping α) (key : String) : Option α :=
  lookup key mapping.entries

def contains (mapping : Mapping α) (key : String) : Bool :=
  (mapping.get? key).isSome

def insert (mapping : Mapping α) (key : String) (value : α) : Mapping α where
  entries := put key value mapping.entries
  nodup := nodup_put mapping.nodup

def erase (mapping : Mapping α) (key : String) : Mapping α where
  entries := without key mapping.entries
  nodup := nodup_without mapping.nodup

/-- Insert entries one after another, a later one overriding an earlier one. -/
def insertAll (mapping : Mapping α) (entries : List (String × α)) : Mapping α :=
  entries.foldl (fun mapping entry => mapping.insert entry.1 entry.2) mapping

def ofList (entries : List (String × α)) : Mapping α :=
  empty.insertAll entries

/-- The first mapping overridden by the second. -/
def merge (base overlay : Mapping α) : Mapping α :=
  base.insertAll overlay.entries

/-- Take away each of the names. -/
def eraseAll (mapping : Mapping α) (names : List String) : Mapping α :=
  names.foldl erase mapping

/-- Change every value and keep the names. -/
def map {β : Type} (change : α → β) (mapping : Mapping α) : Mapping β where
  entries := mapping.entries.map fun entry => (entry.1, change entry.2)
  nodup := by simpa [List.map_map, Function.comp_def] using mapping.nodup

/-- The entries whose names are among the given ones. -/
def restrict (mapping : Mapping α) (names : List String) : Mapping α where
  entries := mapping.entries.filter fun entry => names.contains entry.1
  nodup := List.Sublist.nodup (List.filter_sublist.map Prod.fst) mapping.nodup

/-- Are two answers to a look-up alike, values being compared by `alike`? -/
def sameAnswer (alike : α → α → Bool) : Option α → Option α → Bool
  | none, none => true
  | some left, some right => alike left right
  | _, _ => false

/-- Do two mappings answer every look-up alike? -/
def sameBy (alike : α → α → Bool) (left right : Mapping α) : Bool :=
  (left.keys ++ right.keys).all fun key => sameAnswer alike (left.get? key) (right.get? key)

@[simp] theorem get?_empty (key : String) : (empty : Mapping α).get? key = none := rfl

theorem get?_insert (mapping : Mapping α) (key name : String) (value : α) :
    (mapping.insert key value).get? name =
      if name = key then some value else mapping.get? name :=
  lookup_put key name value mapping.entries

theorem get?_erase (mapping : Mapping α) (key name : String) :
    (mapping.erase key).get? name = if name = key then none else mapping.get? name :=
  lookup_without mapping.nodup

theorem get?_eq_none {mapping : Mapping α} {name : String} (absent : name ∉ mapping.keys) :
    mapping.get? name = none :=
  lookup_eq_none absent

theorem get?_insertAll {mapping : Mapping α} {entries : List (String × α)} (name : String)
    (nodup : (entries.map Prod.fst).Nodup) :
    (mapping.insertAll entries).get? name = (lookup name entries).or (mapping.get? name) := by
  induction entries generalizing mapping with
  | nil => simp [insertAll, lookup]
  | cons entry rest induction =>
      obtain ⟨first, value⟩ := entry
      simp only [List.map_cons, List.nodup_cons] at nodup
      have step := @induction (mapping.insert first value) nodup.2
      simp only [insertAll, List.foldl_cons] at step ⊢
      rw [step, get?_insert]
      by_cases here : first = name
      · subst here
        simp [lookup, lookup_eq_none nodup.1]
      · simp [lookup, here, Ne.symm here]

theorem get?_merge (base overlay : Mapping α) (name : String) :
    (base.merge overlay).get? name = (overlay.get? name).or (base.get? name) :=
  get?_insertAll name overlay.nodup

theorem get?_insertAll_ofList (mapping : Mapping α) (entries : List (String × α)) (name : String) :
    (mapping.insertAll entries).get? name =
      ((ofList entries).get? name).or (mapping.get? name) := by
  induction entries generalizing mapping with
  | nil => rfl
  | cons entry rest induction =>
      have onTop (base : Mapping α) :
          (base.insertAll (entry :: rest)).get? name =
            ((ofList rest).get? name).or ((base.insert entry.1 entry.2).get? name) :=
        induction (base.insert entry.1 entry.2)
      rw [ofList, onTop, onTop, get?_insert, get?_insert, Option.or_assoc]
      split <;> rfl

/-- Later entries take the place of earlier ones. -/
theorem get?_ofList_append (earlier later : List (String × α)) (name : String) :
    (ofList (earlier ++ later)).get? name =
      ((ofList later).get? name).or ((ofList earlier).get? name) := by
  rw [← get?_insertAll_ofList]
  unfold ofList insertAll
  rw [List.foldl_append]

theorem get?_map {β : Type} (change : α → β) (mapping : Mapping α) (name : String) :
    (mapping.map change).get? name = (mapping.get? name).map change := by
  simp only [get?, map]
  induction mapping.entries with
  | nil => rfl
  | cons entry rest induction =>
      by_cases here : entry.1 = name <;> simp [lookup, here, induction]

theorem isSome_get? (mapping : Mapping α) (name : String) :
    (mapping.get? name).isSome = true ↔ name ∈ mapping.keys :=
  isSome_lookup

theorem get?_eraseAll (mapping : Mapping α) (names : List String) (name : String) :
    (mapping.eraseAll names).get? name = if name ∈ names then none else mapping.get? name := by
  induction names generalizing mapping with
  | nil => simp [eraseAll]
  | cons first rest induction =>
      have step := induction (mapping.erase first)
      simp only [eraseAll, List.foldl_cons] at step ⊢
      rw [step, get?_erase]
      by_cases here : name = first <;> simp [here]

theorem get?_restrict (mapping : Mapping α) (names : List String) (name : String) :
    (mapping.restrict names).get? name = if name ∈ names then mapping.get? name else none := by
  simp only [get?, restrict, List.contains_eq_mem]
  induction mapping.entries with
  | nil => simp [lookup]
  | cons entry rest induction =>
      by_cases chosen : entry.1 ∈ names
      · by_cases here : entry.1 = name
        · subst here
          simp [lookup, chosen]
        · simp [lookup, chosen, here, induction]
      · by_cases here : entry.1 = name
        · subst here
          simp [chosen, induction]
        · simp [lookup, chosen, here, induction]

theorem mem_keys_insertAll {mapping : Mapping α} {entries : List (String × α)} {name : String} :
    name ∈ (mapping.insertAll entries).keys ↔
      name ∈ entries.map Prod.fst ∨ name ∈ mapping.keys := by
  induction entries generalizing mapping with
  | nil => simp [insertAll]
  | cons entry rest induction =>
      have step := @induction (mapping.insert entry.1 entry.2)
      simp only [insertAll, List.foldl_cons, List.map_cons, List.mem_cons] at step ⊢
      rw [step, keys, insert, mem_keys_put]
      simp only [keys]
      grind

theorem mem_keys_ofList {entries : List (String × α)} {name : String} :
    name ∈ (ofList entries).keys ↔ name ∈ entries.map Prod.fst := by
  rw [ofList, mem_keys_insertAll]
  simp [keys, empty]

/-- Entries of new names come behind those that are there. -/
theorem entries_insertAll {mapping : Mapping α} {entries : List (String × α)}
    (nodup : ((mapping.entries ++ entries).map Prod.fst).Nodup) :
    (mapping.insertAll entries).entries = mapping.entries ++ entries := by
  induction entries generalizing mapping with
  | nil => simp [insertAll]
  | cons entry rest induction =>
      have absent : entry.1 ∉ mapping.entries.map Prod.fst := by
        simp only [List.map_append, List.map_cons, List.nodup_append, List.mem_cons] at nodup
        exact fun present => nodup.2.2 _ present _ (.inl rfl) rfl
      have placed : (mapping.insert entry.1 entry.2).entries = mapping.entries ++ [entry] :=
        put_of_absent absent
      have step := @induction (mapping.insert entry.1 entry.2) (by simpa [placed] using nodup)
      simp only [insertAll, List.foldl_cons] at step ⊢
      rw [step, placed, List.append_assoc]
      rfl

theorem entries_ofList {entries : List (String × α)} (nodup : (entries.map Prod.fst).Nodup) :
    (ofList entries).entries = entries :=
  @entries_insertAll α empty entries nodup

/-- `sameBy` decides that all look-ups agree. -/
theorem sameBy_iff {alike : α → α → Bool} {left right : Mapping α} :
    left.sameBy alike right = true ↔
      ∀ key, sameAnswer alike (left.get? key) (right.get? key) = true := by
  simp only [sameBy, List.all_eq_true, List.mem_append]
  constructor
  · intro agree key
    by_cases present : key ∈ left.keys ∨ key ∈ right.keys
    · exact agree key present
    · rw [get?_eq_none fun inLeft => present (.inl inLeft),
        get?_eq_none fun inRight => present (.inr inRight)]
      rfl
  · exact fun agree key _ => agree key

end Mapping

end DiscoveryClient
