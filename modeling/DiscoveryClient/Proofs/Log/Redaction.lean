import DiscoveryClient.Log.Context
import DiscoveryClient.Log.Output
import Mathlib.Data.List.Forall2

/-!
# Fields that differ in secrets alone

Two lists of fields are alike if they have the same names in the same order and the same
values under every name that is not secret.  Redaction takes such lists to one and the same
list, and whatever else reads fields before a line is written reads them at names that are
not secret.  So two events with fields alike are shown as the same lines, and every operation
on contexts keeps fields alike.
-/

namespace DiscoveryClient.Log

/-- Fields of one name, which differ in their values at most where the name is secret. -/
structure FieldAlike (left right : Field) : Prop where
  name : left.1 = right.1
  value : isSecret left.1 = false → left.2 = right.2

abbrev FieldsAlike : List Field → List Field → Prop :=
  List.Forall₂ FieldAlike

/-- Events that differ at most in the values of secret fields. -/
structure EventsAlike (left right : Event) : Prop where
  level : left.level = right.level
  logger : left.logger = right.logger
  name : left.name = right.name
  caught : left.caught = right.caught
  fields : FieldsAlike left.fields right.fields

/-! ## Redaction -/

theorem redactField_spec (field : Field) :
    redactField field = (field.1, if isSecret field.1 then redacted else field.2) := by
  unfold redactField
  split <;> rfl

/-- Redaction keeps the names in their order. -/
theorem names_redact (fields : List Field) :
    (redact fields).map Prod.fst = fields.map Prod.fst := by
  simp [redact, Function.comp_def]

theorem redact_redact (fields : List Field) : redact (redact fields) = redact fields := by
  simp [redact, Function.comp_def, redactField_idem]

/-- A secret field is there after redaction exactly if the name was there before, and only
as the mark. -/
theorem mem_redact_of_secret {fields : List Field} {name : String} {value : Value}
    (secret : isSecret name = true) :
    (name, value) ∈ redact fields ↔ name ∈ fields.map Prod.fst ∧ value = redacted := by
  rw [redact, List.mem_map, List.mem_map]
  constructor
  · rintro ⟨field, member, shown⟩
    rw [redactField_spec, Prod.mk.injEq] at shown
    obtain ⟨rfl, shown⟩ := shown
    rw [if_pos secret] at shown
    exact ⟨⟨field, member, rfl⟩, shown.symm⟩
  · rintro ⟨⟨field, member, rfl⟩, rfl⟩
    exact ⟨field, member, by rw [redactField_spec, if_pos secret]⟩

theorem FieldAlike.redact_eq {left right : Field} (alike : FieldAlike left right) :
    redactField left = redactField right := by
  rw [redactField_spec, redactField_spec, alike.name]
  split
  · rfl
  · next notSecret => rw [alike.value (by rw [alike.name]; simpa using notSecret)]

/-! ## Lists of fields -/

namespace FieldsAlike

variable {left right : List Field}

theorem refl (fields : List Field) : FieldsAlike fields fields :=
  List.forall₂_same.mpr fun _ _ => ⟨rfl, fun _ => rfl⟩

theorem redact_eq (alike : FieldsAlike left right) : redact left = redact right := by
  induction alike with
  | nil => rfl
  | cons head _ induction =>
      rw [redact, redact, List.map_cons, List.map_cons, head.redact_eq]
      exact congrArg _ induction

theorem names_eq (alike : FieldsAlike left right) :
    left.map Prod.fst = right.map Prod.fst := by
  rw [← names_redact left, alike.redact_eq, names_redact]

theorem append {left' right' : List Field} (front : FieldsAlike left right)
    (back : FieldsAlike left' right') : FieldsAlike (left ++ left') (right ++ right') :=
  List.rel_append front back

/-- A choice by names leaves fields alike. -/
theorem filter (alike : FieldsAlike left right) (chosen : String → Bool) :
    FieldsAlike (left.filter fun field => chosen field.1)
      (right.filter fun field => chosen field.1) := by
  induction alike with
  | nil => exact List.Forall₂.nil
  | cons head _ induction =>
      rw [List.filter_cons, List.filter_cons, ← head.name]
      split
      · exact List.Forall₂.cons head induction
      · exact induction

theorem isSome_lookup (alike : FieldsAlike left right) (name : String) :
    (left.lookup name).isSome = (right.lookup name).isSome := by
  induction alike with
  | nil => rfl
  | cons head _ induction =>
      rw [List.lookup_cons, List.lookup_cons, ← head.name]
      split
      · rfl
      · exact induction

theorem lookup_eq (alike : FieldsAlike left right) {name : String}
    (notSecret : isSecret name = false) : left.lookup name = right.lookup name := by
  induction alike with
  | nil => rfl
  | @cons left right _ _ head _ induction =>
      rw [List.lookup_cons, List.lookup_cons, ← head.name]
      split
      · next here =>
          obtain rfl : name = left.1 := by simpa using here
          rw [head.value notSecret]
      · exact induction

theorem find_eq (alike : FieldsAlike left right) {name : String}
    (notSecret : isSecret name = false) :
    Mapping.lookup name left = Mapping.lookup name right := by
  induction alike with
  | nil => rfl
  | cons head _ induction =>
      unfold Mapping.lookup
      rw [← head.name]
      split
      · next here => rw [head.value (here ▸ notSecret)]
      · exact induction

theorem put (alike : FieldsAlike left right) {given other : Field}
    (given_alike : FieldAlike given other) :
    FieldsAlike (Mapping.put given.1 given.2 left) (Mapping.put other.1 other.2 right) := by
  induction alike with
  | nil => exact List.Forall₂.cons given_alike List.Forall₂.nil
  | @cons first second lefts rights head tail induction =>
      unfold Mapping.put
      rw [← head.name, ← given_alike.name]
      split
      · next here =>
          exact List.Forall₂.cons ⟨rfl, fun notSecret => given_alike.value (here ▸ notSecret)⟩ tail
      · rw [← given_alike.name] at induction
        exact List.Forall₂.cons ⟨rfl, head.value⟩ induction

theorem without (alike : FieldsAlike left right) (name : String) :
    FieldsAlike (Mapping.without name left) (Mapping.without name right) := by
  induction alike with
  | nil => exact List.Forall₂.nil
  | cons head tail induction =>
      unfold Mapping.without
      rw [← head.name]
      split
      · exact tail
      · exact List.Forall₂.cons ⟨rfl, head.value⟩ induction

end FieldsAlike

/-! ## Contexts -/

/-- Contexts that differ at most in the values of secret fields. -/
def ContextsAlike (left right : Context) : Prop :=
  FieldsAlike left.entries right.entries

namespace ContextsAlike

variable {left right : Context}

theorem keys_eq (alike : ContextsAlike left right) : left.keys = right.keys :=
  alike.names_eq

theorem get?_eq (alike : ContextsAlike left right) {name : String}
    (notSecret : isSecret name = false) : left.get? name = right.get? name :=
  FieldsAlike.find_eq alike notSecret

theorem insertAll (alike : ContextsAlike left right) {given other : List Field}
    (given_alike : FieldsAlike given other) :
    ContextsAlike (left.insertAll given) (right.insertAll other) := by
  induction given_alike generalizing left right with
  | nil => exact alike
  | cons head _ induction => exact induction (alike.put head)

theorem ofList {given other : List Field} (given_alike : FieldsAlike given other) :
    ContextsAlike (Mapping.ofList given) (Mapping.ofList other) := by
  have empty : ContextsAlike .empty .empty := List.Forall₂.nil
  exact empty.insertAll given_alike

theorem eraseAll (alike : ContextsAlike left right) (names : List String) :
    ContextsAlike (left.eraseAll names) (right.eraseAll names) := by
  induction names generalizing left right with
  | nil => exact alike
  | cons name _ induction => exact induction (alike.without name)

theorem enter (alike : ContextsAlike left right) {fields other : Context}
    (bound : ContextsAlike fields other) :
    ContextsAlike (Context.enter fields left) (Context.enter other right) :=
  alike.insertAll bound

theorem leave {inside inside' fields other : Context} (before : ContextsAlike left right)
    (bound : ContextsAlike fields other) (after : ContextsAlike inside inside') :
    ContextsAlike (Context.leave fields left inside) (Context.leave other right inside') := by
  unfold Context.leave
  rw [bound.keys_eq]
  exact (after.eraseAll _).insertAll (FieldsAlike.filter before _)

end ContextsAlike

/-! ## Events -/

namespace EventsAlike

variable {left right : Event}

theorem within (alike : EventsAlike left right) {context other : List Field}
    (contexts : FieldsAlike context other) :
    EventsAlike (left.within context) (right.within other) := by
  refine ⟨alike.level, alike.logger, alike.name, alike.caught, ?_⟩
  unfold Event.within
  rw [alike.fields.names_eq]
  exact alike.fields.append
    (contexts.filter fun name => !(right.fields.map Prod.fst).contains name)

theorem asksForFailure_eq (alike : EventsAlike left right) :
    left.asksForFailure = right.asksForFailure := by
  unfold Event.asksForFailure Event.field?
  rw [alike.fields.lookup_eq (by decide)]

theorem exception_eq (alike : EventsAlike left right) : left.exception? = right.exception? := by
  unfold Event.exception? Event.shownFailure? Event.field?
  rw [alike.asksForFailure_eq, alike.caught, alike.fields.lookup_eq (by decide)]

theorem writtenName_eq (alike : EventsAlike left right) :
    left.writtenName? = right.writtenName? := by
  unfold Event.writtenName? Event.field?
  rw [alike.name, alike.fields.lookup_eq (by decide)]

theorem plainFields_eq (alike : EventsAlike left right) :
    left.plainFields = right.plainFields :=
  (alike.fields.filter fun name =>
    !(reservedNames ++ internalNames ++ [exceptionField]).contains name).redact_eq

theorem document_eq (alike : EventsAlike left right) : left.document = right.document := by
  unfold Event.document Event.entries Event.writtenFields
  rw [alike.writtenName_eq, alike.level, alike.logger, alike.plainFields_eq, alike.exception_eq]

theorem consoleLines_eq (alike : EventsAlike left right) :
    Console.lines left = Console.lines right := by
  unfold Console.lines Console.line Console.lineFields Console.detail? Event.field?
  rw [alike.writtenName_eq, alike.level, alike.logger, alike.plainFields_eq, alike.exception_eq,
    alike.asksForFailure_eq, alike.fields.lookup_eq (by decide)]

/-- An output shows events alike as the same lines. -/
theorem shown_eq (alike : EventsAlike left right) (output : Output) :
    (output.write left).map Line.shown = (output.write right).map Line.shown := by
  unfold Output.write Output.admits
  rw [alike.logger, alike.level]
  split
  · rfl
  · split
    · rw [alike.consoleLines_eq]
    · simp only [List.map_cons, List.map_nil, Line.shown, alike.document_eq]

end EventsAlike

/-! ## Fields in a record -/

/-- Fields that are not secret and do not belong to the record are written as they are. -/
theorem Event.plainFields_eq {event : Event}
    (plain : ∀ name ∈ event.fields.map Prod.fst, isSecret name = false ∧
      name ∉ reservedNames ++ internalNames ++ [exceptionField]) :
    event.plainFields = event.fields := by
  have kept : event.fields.filter (fun field =>
      !(reservedNames ++ internalNames ++ [exceptionField]).contains field.1) = event.fields := by
    refine List.filter_eq_self.mpr fun field member => ?_
    simpa using (plain field.1 (List.mem_map_of_mem member)).2
  have shown : ∀ field ∈ event.fields, redactField field = id field := by
    intro field member
    rw [redactField_spec, (plain field.1 (List.mem_map_of_mem member)).1]
    rfl
  rw [Event.plainFields, kept, redact, List.map_congr_left shown, List.map_id]

/-- Names that a record fills in or leaves out, none of which is secret. -/
theorem not_isSecret_own :
    ∀ name ∈ "level" :: "logger" :: (reservedNames ++ internalNames ++ [exceptionField]),
      isSecret name = false := by
  decide

/-- Of a secret name that an event has, a record shows the mark and nothing else. -/
theorem Event.mem_entries_of_secret {event : Event} {name : String} {value : Value}
    (secret : isSecret name = true) :
    (name, value) ∈ event.entries ↔ name ∈ event.fields.map Prod.fst ∧ value = redacted := by
  have notOwn : ∀ own ∈ "level" :: "logger" :: (reservedNames ++ internalNames ++ [exceptionField]),
      name ≠ own := by
    intro own member same
    have notSecret := not_isSecret_own own member
    rw [← same, secret] at notSecret
    contradiction
  have ofPlain : (name, value) ∈ event.entries ↔ (name, value) ∈ event.plainFields := by
    unfold Event.entries Event.writtenFields
    simp only [List.mem_append, List.mem_cons, Option.mem_toList, Option.map_eq_some_iff,
      Prod.mk.injEq, List.not_mem_nil, or_false]
    have level := notOwn "level" (by decide)
    have logger := notOwn "logger" (by decide)
    have event := notOwn nameField (by decide)
    have exception := notOwn exceptionField (by decide)
    simp [level, logger, Ne.symm event, Ne.symm exception]
  rw [ofPlain, Event.plainFields, mem_redact_of_secret secret]
  refine and_congr_left fun _ => ?_
  simp only [List.mem_map, List.mem_filter]
  constructor
  · rintro ⟨field, ⟨member, _⟩, rfl⟩
    exact ⟨field, member, rfl⟩
  · rintro ⟨field, member, rfl⟩
    refine ⟨field, ⟨member, ?_⟩, rfl⟩
    rw [Bool.not_eq_true', ← Bool.not_eq_true, List.contains_iff_mem]
    intro left
    exact notOwn field.1 (List.mem_cons_of_mem _ (List.mem_cons_of_mem _ left)) rfl

end DiscoveryClient.Log
