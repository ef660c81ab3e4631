import DiscoveryClient.Proofs.Properties.Documented

/-!
# Properties by their first value

Each property of the client is read in one of a few ways, and each way comes to the first of its
keys that has a value: that value is converted, or the default is answered.  It is enough to show
this for each way; which property is read in which way is a table.

Where a second key is looked at, its value is put in writing before the first one decides, so a
value without a text is in the way there too.
-/

namespace DiscoveryClient.ClientProperties

open Log PropertyReader Text

variable {source : String → Option Value} {scope argument : String} {raw : Value}
  {coercion : Coercion} {rule : Rule}

/-! ## By the first value -/

namespace Coercion

/-- How the interface converts the first value: to the type that is wanted, but to a list by the
text of whatever is stored. -/
def convert (raw : Value) : Coercion → Except Failure (Option Value)
  | .items _ => raw.written.map fun text => some (.texts (CommaList.split text))
  | coercion => coercion.kind.convert raw

/-- The answer, once the first value is converted. -/
def conclude (coercion : Coercion) (key : String) (raw : Value) :
    Except Failure (Option Value) → Logged (Except Failure Value)
  | .error failure => pure (.error failure)
  | .ok (some value) => pure (.ok (coercion.inUnit value))
  | .ok none => .ok <$> coercion.refuse key raw

/-- The answer of the interface by the first value. -/
def outcome (coercion : Coercion) : Option (String × Value) → Logged (Except Failure Value)
  | none => pure (.ok coercion.default)
  | some (key, raw) => coercion.conclude key raw (coercion.convert raw)

theorem convert_eq (plain : coercion.kind = .list → raw.items? = none) :
    coercion.convert raw = coercion.kind.convert raw := by
  cases coercion with
  | items default =>
      rw [convert, kind, Kind.convert, toTokens_of_plain (plain rfl)]
      cases raw.written <;> rfl
  | _ => rfl

theorem outcome_of_unwritable (notInt : coercion.kind ≠ .int) (unwritable : raw.text? = none)
    (key : String) : coercion.outcome (some (key, raw)) = pure (.error .tooManyDigits) := by
  have converts : coercion.convert raw = .error .tooManyDigits := by
    cases coercion with
    | items default => rw [convert, Value.written_of_none unwritable]; rfl
    | _ => exact convert_of_not_reads (not_or.mpr ⟨notInt, not_not.mpr unwritable⟩)
  rw [outcome, converts]
  rfl

theorem outcome_text {text : String} (shows : raw.text? = some text) (default : Option String)
    (key : String) :
    (Coercion.text default).outcome (some (key, raw)) = pure (.ok (.text text)) := by
  rw [outcome, convert, kind, Kind.convert, Value.written_of_text? shows]
  · rfl
  · simp

theorem outcome_items {text : String} (shows : raw.text? = some text) (default : List String)
    (key : String) :
    (Coercion.items default).outcome (some (key, raw)) =
      pure (.ok (.texts (CommaList.split text))) := by
  rw [outcome, convert, Value.written_of_text? shows]
  rfl

end Coercion

/-! ## One key -/

theorem map_logged {α β : Type} (f : α → β) (logged : Logged α) :
    f <$> logged = { value := f logged.value, events := logged.events } := by
  change (⟨f logged.value, logged.events ++ []⟩ : Logged β) = _
  rw [List.append_nil]

theorem map_fdiv (unit : Int) (logged : Logged Int) :
    ((fun value => .ok (.int value)) <$> (do let stored ← logged; pure (stored.fdiv unit)) :
        Logged (Except Failure Value)) =
      (fun stored => .ok (.int (stored.fdiv unit))) <$> logged := by
  rw [map_logged, map_logged]
  simp

theorem getInt_outcome (source : String → Option Value) (scope suffix : String)
    (default : Int) {unit : Int} (nonzero : unit ≠ 0) :
    (fun stored => .ok (.int (stored.fdiv unit))) <$>
        PropertyReader.getInt ⟨source, .text scope⟩ suffix (default * unit) =
      (Coercion.int default unit).outcome (firstOf source [{ name := scope ++ suffix }]) := by
  have whole : (default * unit).fdiv unit = default := Int.mul_fdiv_cancel default nonzero
  rw [PropertyReader.getInt, PropertyReader.readInt, key_eq, given?_eq, firstOf_one, map_logged]
  cases DocumentedKey.value? source { name := scope ++ suffix } with
  | none => simp [Reading.ofValue?, settle, Coercion.outcome, Coercion.default, whole]; rfl
  | some raw =>
      dsimp only [Reading.ofValue?, Option.map_some, Coercion.outcome, Coercion.convert,
        Coercion.kind, Kind.convert]
      cases toInt? raw with
      | some value => rfl
      | none =>
          change (⟨.ok (.int ((default * unit).fdiv unit)), _⟩ : Logged (Except Failure Value)) = _
          rw [whole]
          rfl

theorem getBool_outcome (source : String → Option Value) (scope suffix : String)
    (default : Bool) :
    (·.map Value.bool) <$> PropertyReader.getBool ⟨source, .text scope⟩ suffix default =
      (Coercion.bool default).outcome (firstOf source [{ name := scope ++ suffix }]) := by
  rw [PropertyReader.getBool, PropertyReader.readBool, key_eq, given?_eq, firstOf_one]
  cases DocumentedKey.value? source { name := scope ++ suffix } with
  | none => rfl
  | some raw =>
      dsimp only [Option.map_some, Coercion.outcome, Coercion.convert, Coercion.kind, Kind.convert]
      rcases toBool? raw with _ | _ | truth <;> rfl

/-- A text that is read is that of the value, or else the default. -/
theorem map_mapM_written (default : Option String) (name : String) (value : Option Value) :
    pure ((value.mapM Value.written).map fun text => Value.ofText? (text.or default)) =
      (Coercion.text default).outcome (value.map (name, ·)) := by
  cases value with
  | none => rfl
  | some raw =>
      cases shows : raw.text? with
      | none =>
          rw [Option.map_some, Coercion.outcome_of_unwritable Kind.noConfusion shows,
            Option.mapM_some, Value.written_of_none shows]
          rfl
      | some text =>
          rw [Option.map_some, Coercion.outcome_text shows, Option.mapM_some,
            Value.written_of_text? shows]
          rfl

theorem string?_outcome (source : String → Option Value) (scope suffix : String) :
    pure ((PropertyReader.string? ⟨source, .text scope⟩ suffix).map Value.ofText?) =
      (Coercion.text none).outcome (firstOf source [{ name := scope ++ suffix }]) := by
  rw [string?_eq, firstOf_one, ← map_mapM_written]
  simp only [Option.or_none]

theorem getString_outcome (source : String → Option Value) (scope suffix default : String) :
    pure ((PropertyReader.getString ⟨source, .text scope⟩ suffix default).map Value.text) =
      (Coercion.text (some default)).outcome (firstOf source [{ name := scope ++ suffix }]) := by
  rw [PropertyReader.getString, string?_eq, firstOf_one, ← map_mapM_written]
  rcases (DocumentedKey.value? source { name := scope ++ suffix }).mapM Value.written with
    _ | _ | text <;> rfl

theorem availabilityZones_outcome (source : String → Option Value) (scope region : String) :
    pure ((PropertyReader.availabilityZones ⟨source, .text scope⟩ region).map Value.texts) =
      (Coercion.items ["defaultZone"]).outcome
        (firstOf source [{ name := scope ++ (region ++ ".availabilityZones") }]) := by
  have defaultZones : CommaList.split PropertyReader.defaultZone = ["defaultZone"] := by
    decide
  rw [PropertyReader.availabilityZones, PropertyReader.getString, string?_eq, firstOf_one]
  cases DocumentedKey.value? source { name := scope ++ (region ++ ".availabilityZones") } with
  | none => exact congrArg (fun zones => pure (Except.ok (Value.texts zones))) defaultZones
  | some raw =>
      rw [Option.map_some, Coercion.outcome, Coercion.convert, Option.mapM_some]
      cases raw.written <;> rfl

/-! ## Two keys -/

theorem mapM_of_unwritable {value : Option Value} (unwritable : Unwritable value) :
    value.mapM Value.written = .error .tooManyDigits := by
  obtain ⟨raw, rfl, shows⟩ := unwritable
  rw [Option.mapM_some, Value.written_of_none shows]
  rfl

theorem mapM_of_writable {value : Option Value} (writable : ¬ Unwritable value) :
    value.mapM Value.written = .ok (value.bind Value.text?) := by
  cases value with
  | none => rfl
  | some raw =>
      cases shows : raw.text? with
      | none => exact absurd ⟨raw, rfl, shows⟩ writable
      | some text =>
          rw [Option.mapM_some, Value.written_of_text? shows, Option.bind_some, shows]
          rfl

theorem exists_text (writable : ¬ Unwritable (some raw)) : ∃ text, raw.text? = some text :=
  Option.ne_none_iff_exists'.mp fun none => writable ⟨raw, rfl, none⟩

/-- The text of the first value, of the second, or the default.  The second is put in writing
before the first is looked at. -/
def chained (first second : Option Value) (default : Option String) : Except Failure Value := do
  let fallback ← second.mapM Value.written
  let own ← first.mapM Value.written
  return .ofText? ((own.or fallback).or default)

theorem chained_fails {first second key : DocumentedKey} (member : key ∈ [first, second])
    (unwritable : Unwritable (key.value? source)) (default : Option String) :
    chained (first.value? source) (second.value? source) default = .error .tooManyDigits := by
  by_cases ofSecond : Unwritable (second.value? source)
  · rw [chained, mapM_of_unwritable ofSecond]
    rfl
  · have isFirst : key = first := by
      rcases List.mem_pair.mp member with first | second
      · exact first
      · exact absurd (second ▸ unwritable) ofSecond
    rw [chained, mapM_of_writable ofSecond, mapM_of_unwritable (isFirst ▸ unwritable)]
    rfl

theorem chained_outcome {first second : DocumentedKey}
    (writable : ∀ key ∈ [first, second], ¬ Unwritable (key.value? source))
    (default : Option String) :
    pure (chained (first.value? source) (second.value? source) default) =
      (Coercion.text default).outcome (firstOf source [first, second]) := by
  have ofFirst := writable first (by simp)
  have ofSecond := writable second (by simp)
  rw [chained, mapM_of_writable ofSecond, mapM_of_writable ofFirst, firstOf_two]
  cases own : first.value? source with
  | none =>
      rw [Option.map_none, Option.none_or, ← map_mapM_written, mapM_of_writable ofSecond]
      rfl
  | some raw =>
      rw [own] at ofFirst
      rw [Option.map_some, Option.some_or]
      obtain ⟨text, shows⟩ := exists_text ofFirst
      rw [Coercion.outcome_text shows, Option.bind_some, shows]
      rfl

theorem stringOrElse?_chained (source : String → Option Value) (scope suffix other : String) :
    (PropertyReader.stringOrElse? ⟨source, .text scope⟩ suffix other).map Value.ofText? =
      chained (DocumentedKey.value? source { name := scope ++ suffix })
        (DocumentedKey.value? source { name := scope ++ other }) none := by
  rw [PropertyReader.stringOrElse?, string?_eq, string?_eq, chained]
  cases (DocumentedKey.value? source { name := scope ++ other }).mapM Value.written with
  | error failure => rfl
  | ok fallback =>
      cases (DocumentedKey.value? source { name := scope ++ suffix }).mapM Value.written with
      | error failure => rfl
      | ok own => exact congrArg (fun text => Except.ok (Value.ofText? text)) Option.or_none.symm

theorem region_chained (source : String → Option Value) (scope : String) :
    (PropertyReader.region ⟨source, .text scope⟩).map Value.text =
      chained (DocumentedKey.value? source { name := scope ++ "region" })
        (DocumentedKey.value? source { name := "eureka.region" }) (some "us-east-1") := by
  have global : PropertyReader.given? ⟨source, .text scope⟩ PropertyReader.globalRegionKey =
      DocumentedKey.value? source { name := "eureka.region" } := given?_eq source scope _
  rw [PropertyReader.region, PropertyReader.text?, global, chained]
  cases (DocumentedKey.value? source { name := "eureka.region" }).mapM Value.written with
  | error failure => rfl
  | ok fallback =>
      change ((PropertyReader.getString _ _ _).map Value.text) = _
      rw [PropertyReader.getString, string?_eq]
      cases (DocumentedKey.value? source { name := scope ++ "region" }).mapM Value.written with
      | error failure => rfl
      | ok own => cases own <;> cases fallback <;> rfl

theorem nonEmpty?_eq (source : String → Option Value) (scope suffix : String) :
    PropertyReader.nonEmpty? ⟨source, .text scope⟩ suffix =
      (DocumentedKey.value? source { name := scope ++ suffix, skipsEmpty := true }).mapM
        Value.written := by
  rw [PropertyReader.nonEmpty?, string?_eq, value?_plain, DocumentedKey.value?]
  cases source (scope ++ suffix) with
  | none => rfl
  | some value =>
      cases null : value.isNull with
      | true =>
          simp only [Option.filter_some, null, Bool.not_true, Bool.false_and]
          rfl
      | false =>
          by_cases empty : value.display = ""
          · obtain rfl := Value.display_eq_empty_iff.mp empty
            rfl
          · simp only [Option.filter_some, null, empty, decide_false, Bool.and_false,
              Bool.not_false, Bool.and_true, if_true, Option.mapM_some, Value.written_eq]
            cases value.isWritable with
            | false => rfl
            | true => exact congrArg Except.ok (if_pos (decide_eq_true empty))

variable {zone : String}

/-- The keys of the service URLs of a zone. -/
abbrev zoneKey (scope zone : String) : DocumentedKey where
  name := scope ++ ("serviceUrl." ++ zone)
  skipsEmpty := true

abbrev defaultZoneKey (scope : String) : DocumentedKey where
  name := scope ++ "serviceUrl.default"

theorem serviceUrls_fails
    (fails : Unwritable ((zoneKey scope zone).value? source) ∨
      (zoneKey scope zone).value? source = none ∧
        Unwritable ((defaultZoneKey scope).value? source)) :
    PropertyReader.serviceUrls ⟨source, .text scope⟩ zone = .error .tooManyDigits := by
  rw [PropertyReader.serviceUrls, nonEmpty?_eq]
  rcases fails with ofZone | ⟨none, ofDefault⟩
  · rw [mapM_of_unwritable ofZone]
    rfl
  · rw [none, string?_eq, mapM_of_unwritable ofDefault]
    rfl

theorem serviceUrls_outcome (ofZone : ¬ Unwritable ((zoneKey scope zone).value? source))
    (ofDefault : (zoneKey scope zone).value? source = none →
      ¬ Unwritable ((defaultZoneKey scope).value? source)) :
    pure ((PropertyReader.serviceUrls ⟨source, .text scope⟩ zone).map Value.texts) =
      (Coercion.items []).outcome (firstOf source [zoneKey scope zone, defaultZoneKey scope]) := by
  rw [PropertyReader.serviceUrls, nonEmpty?_eq, string?_eq, firstOf_two]
  cases own : (zoneKey scope zone).value? source with
  | some raw =>
      rw [own] at ofZone
      obtain ⟨text, shows⟩ := exists_text ofZone
      rw [Option.mapM_some, Value.written_of_text? shows, Option.map_some, Option.some_or,
        Coercion.outcome_items shows]
      rfl
  | none =>
      rw [Option.map_none, Option.none_or, mapM_of_writable (ofDefault own)]
      cases fallback : (defaultZoneKey scope).value? source with
      | none => rfl
      | some raw =>
          have writable := ofDefault own
          rw [fallback] at writable
          obtain ⟨text, shows⟩ := exists_text writable
          rw [Option.map_some, Coercion.outcome_items shows, Option.bind_some, shows]
          rfl

/-! ## Ways of reading -/

/-- A value under the one key of a property that has no text makes the read fail. -/
theorem outcome_fails {key : DocumentedKey} (notInt : coercion.kind ≠ .int)
    (unwritable : Unwritable (key.value? source)) :
    coercion.outcome (firstOf source [key]) = pure (.error .tooManyDigits) := by
  obtain ⟨raw, value, shows⟩ := unwritable
  rw [firstOf_one, value]
  exact Coercion.outcome_of_unwritable notInt shows key.name

theorem mem_written_urls {key : DocumentedKey}
    (member : key ∈ Rule.urls.written source scope argument) :
    key = zoneKey scope argument ∨
      (zoneKey scope argument).value? source = none ∧ key = defaultZoneKey scope := by
  simp only [Rule.written, Rule.keys, upToFirst, List.mem_cons] at member
  rcases member with rfl | later
  · exact .inl rfl
  · split at later
    · cases later
    next none =>
      refine .inr ⟨Option.not_isSome_iff_eq_none.mp none, ?_⟩
      simpa using later

/-- A read fails if a value is to be put in writing that has no text. -/
theorem entry_fails (rule : Rule) (name : String) (fails : rule.Fails source scope argument) :
    (rule.entry name).read ⟨source, .text scope⟩ argument = pure (.error .tooManyDigits) := by
  obtain ⟨key, member, unwritable⟩ := fails
  cases rule with
  | int suffix default => cases member
  | scaled suffix default unit nonzero => cases member
  | bool suffix default =>
      obtain rfl := List.mem_singleton.mp member
      exact (getBool_outcome source scope suffix default).trans
        (outcome_fails Kind.noConfusion unwritable)
  | text suffix default =>
      obtain rfl := List.mem_singleton.mp member
      cases default with
      | none =>
          exact (string?_outcome source scope suffix).trans
            (outcome_fails Kind.noConfusion unwritable)
      | some default =>
          exact (getString_outcome source scope suffix default).trans
            (outcome_fails Kind.noConfusion unwritable)
  | textOrElse suffix other =>
      have fails := chained_fails member unwritable none
      exact congrArg pure ((stringOrElse?_chained source scope suffix other).trans fails)
  | region =>
      have fails := chained_fails member unwritable (some "us-east-1")
      exact congrArg pure ((region_chained source scope).trans fails)
  | zones =>
      obtain rfl := List.mem_singleton.mp member
      exact (availabilityZones_outcome source scope argument).trans
        (outcome_fails Kind.noConfusion unwritable)
  | urls =>
      refine congrArg (fun urls => pure (Except.map Value.texts urls)) (serviceUrls_fails ?_)
      rcases mem_written_urls member with rfl | ⟨none, rfl⟩
      · exact .inl unwritable
      · exact .inr ⟨none, unwritable⟩
  | experimental =>
      obtain rfl := List.mem_singleton.mp member
      exact (string?_outcome source scope ("experimental." ++ argument)).trans
        (outcome_fails Kind.noConfusion unwritable)

/-- A read that does not fail is that of the first value. -/
theorem entry_outcome (rule : Rule) (name : String) (works : ¬ rule.Fails source scope argument) :
    (rule.entry name).read ⟨source, .text scope⟩ argument =
      rule.coercion.outcome (firstOf source (rule.keys scope argument)) := by
  have writable {key : DocumentedKey} (member : key ∈ rule.written source scope argument) :
      ¬ Unwritable (key.value? source) := fun unwritable => works ⟨key, member, unwritable⟩
  cases rule with
  | int suffix default =>
      have read := getInt_outcome source scope suffix default Int.one_ne_zero
      simp only [Int.fdiv_one, Int.mul_one] at read
      exact read
  | scaled suffix default unit nonzero =>
      exact (map_fdiv unit _).trans (getInt_outcome source scope suffix default nonzero)
  | bool suffix default => exact getBool_outcome source scope suffix default
  | text suffix default =>
      cases default with
      | none => exact string?_outcome source scope suffix
      | some default => exact getString_outcome source scope suffix default
  | textOrElse suffix other =>
      exact (congrArg pure (stringOrElse?_chained source scope suffix other)).trans
        (chained_outcome (fun _ => writable) none)
  | region =>
      exact (congrArg pure (region_chained source scope)).trans
        (chained_outcome (fun _ => writable) (some "us-east-1"))
  | zones => exact availabilityZones_outcome source scope argument
  | urls =>
      refine serviceUrls_outcome (writable List.mem_cons_self) fun none => writable ?_
      rw [Rule.written, Rule.keys, upToFirst, none]
      simp [upToFirst]
  | experimental => exact string?_outcome source scope ("experimental." ++ argument)

end DiscoveryClient.ClientProperties
