import DiscoveryClient.Journal
import DiscoveryClient.Proofs.Log.Redaction

/-!
# Scopes of log events

An event is logged inside blocks that bind fields.  Of each name it carries its own field, or
else the one of the innermost block that binds it, and so does the record that is written of
it, as long as the blocks bind no name that records keep for themselves.

What an action logs is told as a trail: its events in order, each with the blocks around it.
A trail is composed as the action is, with nothing but a block adding to the scopes.  It says
all about the log, since every name is bound after an action as it was before.
-/

namespace DiscoveryClient.Log

/-! ## Look-ups in fields -/

theorem lookup_field (field : Field) (rest : List Field) (name : String) :
    (field :: rest).lookup name = if name = field.1 then some field.2 else rest.lookup name := by
  rw [List.lookup_cons]
  by_cases here : name = field.1
  · simp [here]
  · rw [if_neg here, beq_eq_false_iff_ne.mpr here]

theorem lookup_eq_get? (context : Context) (name : String) :
    context.entries.lookup name = context.get? name := by
  unfold Mapping.get?
  induction context.entries with
  | nil => rfl
  | cons field rest induction => simp only [lookup_field, Mapping.lookup, induction, eq_comm]

theorem lookup_filter_names (keep : String → Bool) (fields : List Field) (name : String) :
    (fields.filter fun field => keep field.1).lookup name =
      if keep name then fields.lookup name else none := by
  induction fields with
  | nil => simp
  | cons field rest induction =>
      rw [List.filter_cons]
      by_cases here : name = field.1
      · subst here
        by_cases kept : keep field.1 <;> simp [lookup_field, kept, induction]
      · by_cases kept : keep field.1 <;> simp [lookup_field, kept, here, induction]

theorem lookup_redact (fields : List Field) (name : String) :
    (redact fields).lookup name =
      (fields.lookup name).map fun value => if isSecret name then redacted else value := by
  induction fields with
  | nil => rfl
  | cons field rest induction =>
      have tail : List.lookup name (rest.map redactField) = _ := induction
      rw [redact, List.map_cons, redactField_spec, lookup_field, lookup_field, tail]
      by_cases here : name = field.1 <;> simp [here]

/-- An event has its own fields, and those around it that it does not have itself. -/
theorem Event.field?_within (event : Event) (context : Context) (name : String) :
    (event.within context.entries).field? name = (event.field? name).or (context.get? name) := by
  unfold field? within
  rw [List.lookup_append, lookup_filter_names fun name => !(event.fields.map Prod.fst).contains name,
    lookup_eq_get?]
  cases own : event.fields.lookup name with
  | some value => rfl
  | none =>
      have absent : name ∉ event.fields.map Prod.fst := by
        intro named
        obtain ⟨field, member, rfl⟩ := List.mem_map.mp named
        simpa using List.lookup_eq_none_iff.mp own field member
      simp only [List.contains_eq_mem, absent, decide_false, Bool.not_false, if_true]

/-! ## Look-ups in records -/

/-- The names that a record keeps for itself, written or not. -/
def ownNames : List String :=
  reservedNames ++ internalNames

/-- A record writes the fields as they are. -/
def Context.IsPlain (context : Context) : Prop :=
  ∀ name ∈ context.keys, name ∉ ownNames ∧ isSecret name = false

theorem Context.IsPlain.get?_eq_none {context : Context} (plain : context.IsPlain) {name : String}
    (own : name ∈ ownNames) : context.get? name = none :=
  Mapping.get?_eq_none fun bound => (plain name bound).1 own

theorem Context.IsPlain.not_isSecret {context : Context} (plain : context.IsPlain)
    {name : String} {value : Value} (bound : context.get? name = some value) :
    isSecret name = false :=
  (plain name ((Mapping.isSome_get? context name).mp (by simp [bound]))).2

theorem Event.lookup_plainFields (event : Event) (name : String) :
    event.plainFields.lookup name =
      if name ∈ ownNames ∨ name = exceptionField then none
      else (event.field? name).map fun value => if isSecret name then redacted else value := by
  unfold plainFields
  rw [lookup_redact,
    lookup_filter_names fun name => !(reservedNames ++ internalNames ++ [exceptionField]).contains name]
  by_cases kept : name ∈ ownNames ∨ name = exceptionField
  · have left : name ∈ reservedNames ++ internalNames ++ [exceptionField] := by
      simpa [ownNames, or_assoc] using kept
    simp only [List.contains_eq_mem, left, kept, decide_true, Bool.not_true, Bool.false_eq_true,
      if_false, if_true, Option.map_none]
  · have left : name ∉ reservedNames ++ internalNames ++ [exceptionField] := by
      simpa [ownNames, and_assoc] using kept
    simp only [List.contains_eq_mem, left, kept, decide_false, Bool.not_false, if_false, if_true,
      field?]

theorem lookup_toList (field? : Option Value) (key name : String) :
    ((field?.map (key, ·)).toList : List Field).lookup name = if name = key then field? else none := by
  cases field? <;> simp [lookup_field]

theorem Event.lookup_entries (event : Event) (name : String) :
    event.entries.lookup name =
      if name = nameField then event.writtenName?
      else if name = "level" then some (.text event.level.name)
      else if name = "logger" then some (.text event.logger)
      else if name = exceptionField then event.exception?
      else event.plainFields.lookup name := by
  have kept : name ∈ ownNames ∨ name = exceptionField → event.plainFields.lookup name = none := by
    intro own
    rw [event.lookup_plainFields, if_pos own]
  unfold entries writtenFields
  simp only [List.lookup_append, lookup_toList, lookup_field, List.lookup_nil]
  by_cases isName : name = nameField
  · subst isName
    have notException : nameField ≠ exceptionField := by decide
    have notLevel : nameField ≠ "level" := by decide
    have notLogger : nameField ≠ "logger" := by decide
    simp [kept (by decide), notException, notLevel, notLogger]
  · by_cases isException : name = exceptionField
    · subst isException
      have notLevel : exceptionField ≠ "level" := by decide
      have notLogger : exceptionField ≠ "logger" := by decide
      simp [kept (.inr rfl), isName, notLevel, notLogger]
    · simp only [isName, isException, if_false, Option.or_none, Option.none_or]
      split
      · rfl
      · split <;> rfl

section

variable {event : Event} {context : Context} (plain : context.IsPlain)
include plain

theorem Event.field?_within_own {name : String} (own : name ∈ ownNames) :
    (event.within context.entries).field? name = event.field? name := by
  rw [event.field?_within, plain.get?_eq_none own, Option.or_none]

theorem Event.writtenName?_within :
    (event.within context.entries).writtenName? = event.writtenName? := by
  unfold writtenName?
  rw [field?_within_own plain (by decide)]
  rfl

theorem Event.exception?_within :
    (event.within context.entries).exception? =
      event.exception?.or (context.get? exceptionField) := by
  have asking : (event.within context.entries).field? askingField = event.field? askingField :=
    field?_within_own plain (by decide)
  unfold exception? shownFailure? asksForFailure
  rw [asking, event.field?_within, Option.or_assoc]
  rfl

theorem Event.lookup_plainFields_within {name : String} (notException : name ≠ exceptionField) :
    (event.within context.entries).plainFields.lookup name =
      (event.plainFields.lookup name).or (context.get? name) := by
  rw [lookup_plainFields, lookup_plainFields, event.field?_within]
  split
  · next own => rw [plain.get?_eq_none (own.resolve_right notException), Option.or_none]
  · cases event.field? name with
    | some value => rfl
    | none =>
        cases bound : context.get? name with
        | none => rfl
        | some value => simp [plain.not_isSecret bound]

/-- Inside plain fields, a record shows what it shows without them, and of any other name the
field that is bound. -/
theorem Event.lookup_entries_within (name : String) :
    (event.within context.entries).entries.lookup name =
      (event.entries.lookup name).or (context.get? name) := by
  rw [lookup_entries, lookup_entries, writtenName?_within plain, exception?_within plain]
  by_cases isName : name = nameField
  · subst isName
    rw [if_pos rfl, if_pos rfl, plain.get?_eq_none (by decide), Option.or_none]
  · by_cases isException : name = exceptionField
    · subst isException
      rfl
    · simp only [isName, isException, if_false, lookup_plainFields_within plain isException]
      split
      · rfl
      · split <;> rfl

end

/-! ## Blocks around an event -/

/-- The value of a name in the innermost of the blocks that bind it. -/
def innermost? (scope : List Context) (name : String) : Option Value :=
  scope.findSome? fun fields => fields.get? name

@[simp] theorem innermost?_nil (name : String) : innermost? [] name = none := rfl

@[simp] theorem innermost?_cons (fields : Context) (scope : List Context) (name : String) :
    innermost? (fields :: scope) name = (fields.get? name).or (innermost? scope name) := by
  unfold innermost?
  rw [List.findSome?_cons]
  cases fields.get? name <;> rfl

/-- Every name has the value that the innermost block binds. -/
def Context.Binds (context : Context) (scope : List Context) : Prop :=
  ∀ name, context.get? name = innermost? scope name

namespace Context.Binds

variable {context : Context} {scope : List Context}

theorem singleton (context : Context) : context.Binds [context] := by
  intro name
  simp

theorem enter (binds : context.Binds scope) (fields : Context) :
    (Context.enter fields context).Binds (fields :: scope) := by
  intro name
  rw [Context.get?_enter, binds name, innermost?_cons]

theorem isPlain (binds : context.Binds scope) (plain : ∀ fields ∈ scope, fields.IsPlain) :
    context.IsPlain := by
  intro name bound
  rw [← Mapping.isSome_get?, binds name, innermost?, List.findSome?_isSome_iff] at bound
  obtain ⟨fields, member, bound⟩ := bound
  exact plain fields member name ((Mapping.isSome_get? fields name).mp bound)

end Context.Binds

/-- An event as it is written inside blocks, the innermost first. -/
structure Carries (scope : List Context) (own written : Event) : Prop where
  level : written.level = own.level
  logger : written.logger = own.logger
  name : written.name = own.name
  caught : written.caught = own.caught
  /-- Its own fields come first, then those of the innermost block. -/
  fields : ∀ name, written.field? name = (own.field? name).or (innermost? scope name)
  /-- So it is in the record, where the event's name and the like count as its own. -/
  record : ∀ name, written.entries.lookup name = (own.entries.lookup name).or (innermost? scope name)

theorem Context.Binds.carries {context : Context} {scope : List Context}
    (binds : context.Binds scope) (plain : ∀ fields ∈ scope, fields.IsPlain) (own : Event) :
    Carries scope own (own.within context.entries) where
  level := rfl
  logger := rfl
  name := rfl
  caught := rfl
  fields name := by rw [own.field?_within, binds name]
  record name := by rw [Event.lookup_entries_within (binds.isPlain plain), binds name]

/-! ## Trails -/

/-- An event with the blocks around it, the innermost first. -/
structure Enclosed where
  own : Event
  scope : List Context := []

/-- The event with one more block around it. -/
def Enclosed.under (fields : Context) (enclosed : Enclosed) : Enclosed :=
  { enclosed with scope := enclosed.scope ++ [fields] }

def entering {σ : Type} (fields : Context) (world : World σ) : World σ :=
  { world with
    journal := { world.journal with context := Context.enter fields world.journal.context } }

/-- The trail that an action leaves in a world. -/
inductive Leaves {σ : Type} : {α : Type} → Act σ α → World σ → List Enclosed → Prop
  | silent {α : Type} {act : Act σ α} {world : World σ}
      (events : (act world).2.journal.events = world.journal.events)
      (context : (act world).2.journal.context = world.journal.context) : Leaves act world []
  | log (event : Event) (world : World σ) : Leaves (Act.log event) world [{ own := event }]
  | bind {α β : Type} {first : Act σ α} {next : α → Act σ β} {world : World σ}
      {firsts lasts : List Enclosed} (before : Leaves first world firsts)
      (after : Leaves (next (first world).1) (first world).2 lasts) :
      Leaves (first >>= next) world (firsts ++ lasts)
  | block {α : Type} {body : Act σ α} {world : World σ} {fields : Context}
      {inside : List Enclosed} (plain : fields.IsPlain)
      (within : Leaves body (entering fields world) inside) :
      Leaves (Act.withFields fields body) world (inside.map (.under fields))

theorem Leaves.after_silent {σ α β : Type} {first : Act σ α} {next : α → Act σ β} {world : World σ}
    {trail : List Enclosed} (before : Leaves first world [])
    (after : Leaves (next (first world).1) (first world).2 trail) :
    Leaves (first >>= next) world trail :=
  .bind before after

theorem Leaves.before_silent {σ α β : Type} {first : Act σ α} {next : α → Act σ β} {world : World σ}
    {trail : List Enclosed} (before : Leaves first world trail)
    (after : Leaves (next (first world).1) (first world).2 []) :
    Leaves (first >>= next) world trail := by
  have both := Leaves.bind before after
  rwa [List.append_nil] at both

/-- What the log and the context of a world become by a trail. -/
structure Followed {σ : Type} (before : World σ) (trail : List Enclosed) (after : World σ) : Prop where
  /-- The events are added in order, each with what the blocks around it bind. -/
  events : ∀ scope, before.journal.context.Binds scope → (∀ fields ∈ scope, fields.IsPlain) →
    ∃ written, after.journal.events = before.journal.events ++ written ∧
      List.Forall₂ (fun enclosed event => Carries (enclosed.scope ++ scope) enclosed.own event)
        trail written
  restored : ∀ name, after.journal.context.get? name = before.journal.context.get? name

namespace Followed

variable {σ : Type} {before between after : World σ}

theorem trans {firsts lasts : List Enclosed} (first : Followed before firsts between)
    (last : Followed between lasts after) : Followed before (firsts ++ lasts) after where
  events := by
    intro scope binds plain
    have still : between.journal.context.Binds scope := by
      intro name
      rw [first.restored name, binds name]
    obtain ⟨earlier, added, carried⟩ := first.events scope binds plain
    obtain ⟨later, addedLater, carriedLater⟩ := last.events scope still plain
    refine ⟨earlier ++ later, ?_, List.rel_append carried carriedLater⟩
    rw [addedLater, added, List.append_assoc]
  restored name := by rw [last.restored name, first.restored name]

/-- A block adds its fields to every scope, and takes them away again. -/
theorem block {fields : Context} (plainFields : fields.IsPlain) {inside : List Enclosed}
    (body : Followed (entering fields before) inside after) :
    Followed before (inside.map (.under fields))
      { after with journal := { after.journal with
          context := Context.leave fields before.journal.context after.journal.context } } where
  events := by
    intro scope binds plain
    have plainInside : ∀ block ∈ fields :: scope, block.IsPlain :=
      List.forall_mem_cons.mpr ⟨plainFields, plain⟩
    obtain ⟨written, added, carried⟩ := body.events (fields :: scope) (binds.enter fields) plainInside
    refine ⟨written, added, List.forall₂_map_left_iff.mpr (carried.imp ?_)⟩
    intro enclosed event carries
    rwa [Enclosed.under, List.append_assoc]
  restored := Context.get?_leave_of_same body.restored

end Followed

theorem Leaves.followed {σ α : Type} {act : Act σ α} {world : World σ} {trail : List Enclosed}
    (leaves : Leaves act world trail) : Followed world trail (act world).2 := by
  induction leaves with
  | silent events context =>
      refine ⟨fun scope _ _ => ⟨[], by rw [events, List.append_nil], .nil⟩, fun name => ?_⟩
      rw [context]
  | log event world =>
      refine ⟨fun scope binds plain => ⟨[_], rfl, .cons ?_ .nil⟩, fun _ => rfl⟩
      exact binds.carries plain event
  | bind _ _ first last => exact first.trans last
  | block plain _ body => exact Followed.block plain body

end DiscoveryClient.Log
