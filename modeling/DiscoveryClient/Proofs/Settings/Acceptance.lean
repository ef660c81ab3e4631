import DiscoveryClient.Proofs.Settings.Effective
import DiscoveryClient.Proofs.Text.Utf8RoundTrip

/-!
# Accepted settings

`SettingField.Takes` says, without regard to how it is checked, which raw values a field
takes and what it makes of them.  Settings come out exactly when every field takes its raw
value (`settings_eq_ok`), and otherwise one violation for each field that does not
(`violations_fields`).  What a field makes of a value it takes again and leaves as it is
(`Takes.again`), so that settings made of the values of settings are the same ones.
-/

namespace DiscoveryClient

/-- A double is a number, and not one below zero. -/
def Double.AtLeastZero (seconds : Double) : Prop :=
  ∃ rank, seconds.rank? = some rank ∧ rank.isBelow (.exact 0 1) = false

theorem Double.isNonNegative_iff (seconds : Double) :
    seconds.isNonNegative = true ↔ seconds.AtLeastZero := by
  cases seconds with
  | nan payload => simp [AtLeastZero, isNonNegative, rank?]
  | infinite negative =>
      cases negative <;> simp [AtLeastZero, isNonNegative, isNegative, rank?, Rank.isBelow]
  | finite negative mantissa exponent =>
      have isZero : mantissa * Nat.pow 2 exponent.toNat = 0 ↔ mantissa = 0 :=
        Nat.mul_eq_zero.trans
          (or_iff_left (Nat.ne_of_gt (Nat.two_pow_pos exponent.toNat)))
      simp only [AtLeastZero, rank?, Option.some.injEq, exists_eq_left', Rank.isBelow,
        decide_eq_false_iff_not, isNonNegative, isNegative]
      cases negative with
      | false =>
          change true = true ↔ ¬ ((mantissa * Nat.pow 2 exponent.toNat : Nat) : Int) * 1 < 0 * _
          generalize mantissa * Nat.pow 2 exponent.toNat = magnitude
          simp
      | true =>
          change (!(mantissa != 0)) = true ↔
            ¬ -((mantissa * Nat.pow 2 exponent.toNat : Nat) : Int) * 1 < 0 * _
          rw [Bool.not_eq_true', bne_eq_false_iff_eq, ← isZero]
          generalize mantissa * Nat.pow 2 exponent.toNat = magnitude
          omega

namespace SettingField

/-- The number of seconds that a raw value denotes. -/
inductive Denotes : Value → Double → Prop where
  | truth : Denotes (.bool true) .one
  | falsehood : Denotes (.bool false) .zero
  | whole {number : Int} {seconds : Double} (nearest : Double.ofInt? number = some seconds) :
      Denotes (.int number) seconds
  | double (seconds : Double) : Denotes (.float seconds) seconds
  | numeral {text : String} {seconds : Double}
      (reads : Numeral.setting? text.toList = some seconds) : Denotes (.text text) seconds

/-- A field takes a raw value and makes a value of it. -/
inductive Takes : SettingField → Value → Value → Prop where
  | scope {text : String} (ends : text = "" ∨ text.toList.getLast? = some '.') :
      Takes .scope (.text text) (.text text)
  | filesName {text : String} (nonempty : text ≠ "") :
      Takes .filesName (.text text) (.text text)
  | environment {text : String} (nonempty : text ≠ "") :
      Takes .environment (.text text) (.text text)
  | directory (text : String) : Takes .directory (.text text) (.text text)
  | watchSeconds {raw : Value} {seconds : Double} (denoted : Denotes raw seconds)
      (atLeastZero : seconds.AtLeastZero) : Takes .watchSeconds raw (.float seconds)
  | logLevel {text : String} (known : Text.upper text ∈ Settings.levelNames) :
      Takes .logLevel (.text text) (.text (Text.upper text))
  | logFormat {text : String} (known : Text.lower text ∈ Settings.formatNames) :
      Takes .logFormat (.text text) (.text (Text.lower text))

/-- A field accepts the raw values of which it makes a value. -/
def Accepts (field : SettingField) (raw : Value) : Prop :=
  ∃ value, field.Takes raw value

/-- The check of any field, with the value that it makes. -/
def checked : SettingField → Value → Except Violation Value
  | .scope, raw => (Settings.scopeOf raw).map .text
  | .filesName, raw | .environment, raw => (Settings.nameOf raw).map .text
  | .directory, raw => (Settings.asText raw).map .text
  | .watchSeconds, raw => (Settings.secondsOf raw).map .float
  | .logLevel, raw => (Settings.levelOf raw).map .text
  | .logFormat, raw => (Settings.formatOf raw).map .text

end SettingField

/-- The value of a field of settings. -/
def Settings.value (settings : Settings) : SettingField → Value
  | .scope => .text settings.scope
  | .filesName => .text settings.filesName
  | .environment => .text settings.environment
  | .directory => .text settings.directory
  | .watchSeconds => .float settings.watchSeconds
  | .logLevel => .text settings.logLevel
  | .logFormat => .text settings.logFormat

/-- The values of the fields as arguments. -/
def Settings.arguments (settings : Settings) : List (String × Value) :=
  SettingField.all.map fun field => (field.name, settings.value field)

/-! ## One field -/

namespace Settings

theorem asText_eq_ok {raw : Value} {text : String} :
    asText raw = .ok text ↔ raw = .text text := by
  cases raw <;> simp [asText]

theorem asNumber_eq_ok {raw : Value} {seconds : Double} :
    asNumber raw = .ok seconds ↔ SettingField.Denotes raw seconds := by
  constructor
  · intro read
    cases raw with
    | bool value => cases value <;> cases read <;> constructor
    | int number =>
        cases nearest : Double.ofInt? number with
        | none => simp [asNumber, nearest] at read
        | some double =>
            simp only [asNumber, nearest, Option.elim_some, Except.ok.injEq] at read
            exact .whole (read ▸ nearest)
    | float double =>
        cases read
        exact .double seconds
    | text text =>
        cases reads : Numeral.setting? text.toList with
        | none => simp [asNumber, reads] at read
        | some double =>
            simp only [asNumber, reads, Option.elim_some, Except.ok.injEq] at read
            exact .numeral (read ▸ reads)
    | _ => cases read
  · intro denoted
    cases denoted with
    | truth | falsehood | double => rfl
    | whole nearest => simp [asNumber, nearest]
    | numeral reads => simp [asNumber, reads]

section

variable {α β : Type}

theorem bind_eq_ok {first : Except Violation α} {next : α → Except Violation β} {result : β} :
    (first >>= next) = .ok result ↔ ∃ value, first = .ok value ∧ next value = .ok result := by
  cases first <;> simp [bind, Except.bind]

theorem map_eq_ok {first : Except Violation α} {change : α → β} {result : β} :
    first.map change = .ok result ↔ ∃ value, first = .ok value ∧ change value = result := by
  cases first <;> simp [Except.map]

theorem exists_of_map {first : Except Violation α} {change : α → β}
    (mapped : ∃ result, first.map change = .ok result) : ∃ value, first = .ok value := by
  obtain ⟨result, passes⟩ := mapped
  obtain ⟨value, passed, -⟩ := map_eq_ok.1 passes
  exact ⟨value, passed⟩

theorem ite_eq_ok {condition : Prop} [Decidable condition] {value result : α}
    {violation : Violation} :
    (if condition then .ok value else .error violation) = Except.ok result ↔
      condition ∧ value = result := by
  by_cases holds : condition <;> simp [holds]

end

theorem nameOf_eq_ok {raw : Value} {name : String} :
    nameOf raw = .ok name ↔ raw = .text name ∧ name ≠ "" := by
  simp only [nameOf, bind_eq_ok, asText_eq_ok]
  constructor
  · rintro ⟨text, rfl, checks⟩
    by_cases empty : text = ""
    · simp [nonEmpty, empty] at checks
    · simp only [nonEmpty, empty, if_false, Except.ok.injEq] at checks
      exact ⟨checks ▸ rfl, checks ▸ empty⟩
  · rintro ⟨rfl, nonempty⟩
    exact ⟨name, rfl, if_neg nonempty⟩

end Settings

namespace SettingField

/-- A check passes exactly the raw values that its field takes. -/
theorem checked_eq_ok {field : SettingField} {raw value : Value} :
    field.checked raw = .ok value ↔ field.Takes raw value := by
  cases field with
  | scope =>
      simp only [checked, Settings.map_eq_ok, Settings.scopeOf, Settings.bind_eq_ok,
        Settings.asText_eq_ok, Settings.checkScope, Settings.ite_eq_ok]
      constructor
      · rintro ⟨_, ⟨text, rfl, ends, rfl⟩, rfl⟩
        exact .scope ends
      · intro takes
        cases takes with
        | scope ends => exact ⟨_, ⟨_, rfl, ends, rfl⟩, rfl⟩
  | filesName =>
      simp only [checked, Settings.map_eq_ok, Settings.nameOf_eq_ok]
      constructor
      · rintro ⟨text, ⟨rfl, nonempty⟩, rfl⟩
        exact .filesName nonempty
      · intro takes
        cases takes with
        | filesName nonempty => exact ⟨_, ⟨rfl, nonempty⟩, rfl⟩
  | environment =>
      simp only [checked, Settings.map_eq_ok, Settings.nameOf_eq_ok]
      constructor
      · rintro ⟨text, ⟨rfl, nonempty⟩, rfl⟩
        exact .environment nonempty
      · intro takes
        cases takes with
        | environment nonempty => exact ⟨_, ⟨rfl, nonempty⟩, rfl⟩
  | directory =>
      simp only [checked, Settings.map_eq_ok, Settings.asText_eq_ok]
      constructor
      · rintro ⟨text, rfl, rfl⟩
        exact .directory text
      · intro takes
        cases takes with
        | directory text => exact ⟨text, rfl, rfl⟩
  | watchSeconds =>
      simp only [checked, Settings.map_eq_ok, Settings.secondsOf, Settings.bind_eq_ok,
        Settings.asNumber_eq_ok, Settings.checkSeconds, Settings.ite_eq_ok,
        Double.isNonNegative_iff]
      constructor
      · rintro ⟨_, ⟨seconds, denoted, atLeastZero, rfl⟩, rfl⟩
        exact .watchSeconds denoted atLeastZero
      · intro takes
        cases takes with
        | watchSeconds denoted atLeastZero =>
            exact ⟨_, ⟨_, denoted, atLeastZero, rfl⟩, rfl⟩
  | logLevel =>
      simp only [checked, Settings.map_eq_ok, Settings.levelOf, Settings.bind_eq_ok,
        Settings.asText_eq_ok, Settings.checkLevel, Settings.ite_eq_ok, List.contains_iff_mem]
      constructor
      · rintro ⟨_, ⟨text, rfl, known, rfl⟩, rfl⟩
        exact .logLevel known
      · intro takes
        cases takes with
        | logLevel known => exact ⟨_, ⟨_, rfl, known, rfl⟩, rfl⟩
  | logFormat =>
      simp only [checked, Settings.map_eq_ok, Settings.formatOf, Settings.bind_eq_ok,
        Settings.asText_eq_ok, Settings.checkFormat, Settings.ite_eq_ok, List.contains_iff_mem]
      constructor
      · rintro ⟨_, ⟨text, rfl, known, rfl⟩, rfl⟩
        exact .logFormat known
      · intro takes
        cases takes with
        | logFormat known => exact ⟨_, ⟨_, rfl, known, rfl⟩, rfl⟩

/-- The violation of a check that fails. -/
def failure? {α : Type} : Except Violation α → Option Violation
  | .ok _ => none
  | .error violation => some violation

theorem failure?_map {α β : Type} (result : Except Violation α) (change : α → β) :
    failure? (result.map change) = failure? result := by
  cases result <;> rfl

theorem violation?_eq (field : SettingField) (raw : Value) :
    Settings.violation? field raw = failure? (field.checked raw) := by
  cases field <;> exact (failure?_map _ _).symm

theorem violation?_eq_none {field : SettingField} {raw : Value} :
    Settings.violation? field raw = none ↔ field.Accepts raw := by
  simp only [Accepts, ← checked_eq_ok, violation?_eq]
  cases field.checked raw <;> simp [failure?]

instance (field : SettingField) (raw : Value) : Decidable (field.Accepts raw) :=
  decidable_of_iff (Settings.violation? field raw = none) violation?_eq_none

/-- A value that a field makes is taken by it, and stays as it is. -/
theorem Takes.again {field : SettingField} {raw value : Value} (takes : field.Takes raw value) :
    field.Takes value value := by
  cases takes with
  | scope ends => exact .scope ends
  | filesName nonempty => exact .filesName nonempty
  | environment nonempty => exact .environment nonempty
  | directory text => exact .directory text
  | watchSeconds denoted atLeastZero => exact .watchSeconds (.double _) atLeastZero
  | @logLevel text known =>
      have upper : Text.upper (Text.upper text) = Text.upper text := by
        have all : ∀ level ∈ Settings.levelNames, Text.upper level = level := by decide
        exact all _ known
      have again := Takes.logLevel (upper.symm ▸ known)
      rwa [upper] at again
  | @logFormat text known =>
      have lower : Text.lower (Text.lower text) = Text.lower text := by
        have all : ∀ format ∈ Settings.formatNames, Text.lower format = format := by decide
        exact all _ known
      have again := Takes.logFormat (lower.symm ▸ known)
      rwa [lower] at again

theorem Takes.level_known {raw : Value} {level : String}
    (takes : Takes .logLevel raw (.text level)) : level ∈ Settings.levelNames := by
  cases takes with
  | logLevel known => exact known

theorem Takes.format_known {raw : Value} {format : String}
    (takes : Takes .logFormat raw (.text format)) : format ∈ Settings.formatNames := by
  cases takes with
  | logFormat known => exact known

end SettingField

/-! ## All fields -/

namespace Settings

variable {raw : SettingField → Value}

/-- Settings are built of the values that the fields make of their raw values. -/
theorem build_eq_ok {settings : Settings} :
    build raw = .ok settings ↔
      ∀ field : SettingField, field.checked (raw field) = .ok (settings.value field) := by
  constructor
  · intro built field
    simp only [build, bind_eq_ok, pure, Except.pure, Except.ok.injEq] at built
    obtain ⟨scope, scopeIs, filesName, filesNameIs, environment, environmentIs, directory,
      directoryIs, watchSeconds, watchSecondsIs, logLevel, logLevelIs, logFormat, logFormatIs,
      rfl⟩ := built
    cases field <;> simp only [SettingField.checked, value, Except.map, *]
  · intro checks
    have scope := checks .scope
    have filesName := checks .filesName
    have environment := checks .environment
    have directory := checks .directory
    have watchSeconds := checks .watchSeconds
    have logLevel := checks .logLevel
    have logFormat := checks .logFormat
    simp only [SettingField.checked, value, map_eq_ok, Value.text.injEq, Value.float.injEq,
      exists_eq_right] at scope filesName environment directory watchSeconds logLevel logFormat
    simp only [build, bind, Except.bind, scope, filesName, environment, directory, watchSeconds,
      logLevel, logFormat, pure, Except.pure]

/-- If all fields pass, there are settings. -/
theorem build_of_accepts (accepts : ∀ field : SettingField, field.Accepts (raw field)) :
    ∃ settings, build raw = .ok settings := by
  have checks : ∀ field : SettingField, ∃ value, field.checked (raw field) = .ok value := by
    intro field
    obtain ⟨value, takes⟩ := accepts field
    exact ⟨value, SettingField.checked_eq_ok.2 takes⟩
  obtain ⟨scope, scopeIs⟩ := exists_of_map (checks .scope)
  obtain ⟨filesName, filesNameIs⟩ := exists_of_map (checks .filesName)
  obtain ⟨environment, environmentIs⟩ := exists_of_map (checks .environment)
  obtain ⟨directory, directoryIs⟩ := exists_of_map (checks .directory)
  obtain ⟨watchSeconds, watchSecondsIs⟩ := exists_of_map (checks .watchSeconds)
  obtain ⟨logLevel, logLevelIs⟩ := exists_of_map (checks .logLevel)
  obtain ⟨logFormat, logFormatIs⟩ := exists_of_map (checks .logFormat)
  refine ⟨⟨scope, filesName, environment, directory, watchSeconds, logLevel, logFormat⟩, ?_⟩
  simp only [build, bind, Except.bind, scopeIs, filesNameIs, environmentIs, directoryIs,
    watchSecondsIs, logLevelIs, logFormatIs, pure, Except.pure]

theorem validate_eq_ok {settings : Settings} :
    validate raw = .ok settings ↔ build raw = .ok settings := by
  unfold validate
  cases build raw <;> simp

/-- The violations are those of the fields that do not accept their values, in order. -/
theorem violations_fields (raw : SettingField → Value) :
    (violations raw).map Prod.fst =
      SettingField.all.filter fun field => ¬ field.Accepts (raw field) := by
  unfold violations
  induction SettingField.all with
  | nil => rfl
  | cons field rest induction =>
      cases found : violation? field (raw field) with
      | none =>
          have accepts := SettingField.violation?_eq_none.1 found
          simpa [found, accepts] using induction
      | some violation =>
          have refuses : ¬ field.Accepts (raw field) := by
            rw [← SettingField.violation?_eq_none, found]
            simp
          simpa [found, refuses] using induction

theorem violation?_of_mem {entry : SettingField × Violation} (member : entry ∈ violations raw) :
    violation? entry.1 (raw entry.1) = some entry.2 := by
  obtain ⟨field, -, found⟩ := List.mem_filterMap.1 member
  obtain ⟨violation, violates, rfl⟩ := Option.map_eq_some_iff.1 found
  exact violates

end Settings

namespace SettingSources

variable {sources : SettingSources} {raw : SettingField → Value} {settings : Settings}

theorem settings_of_gather (gathered : sources.gather = .ok raw) :
    sources.settings = (Settings.validate raw).mapError .invalid := by
  rw [SettingSources.settings, gathered]
  rfl

theorem settings_eq_ok (gathered : sources.gather = .ok raw) :
    sources.settings = .ok settings ↔
      ∀ field : SettingField, field.Takes (raw field) (settings.value field) := by
  simp only [← SettingField.checked_eq_ok, ← Settings.build_eq_ok, ← Settings.validate_eq_ok,
    settings_of_gather gathered]
  cases Settings.validate raw with
  | ok given =>
      constructor
      · intro same
        cases same
        rfl
      · intro same
        cases same
        rfl
  | error violations =>
      constructor
      · intro given
        cases given
      · intro given
        cases given

/-- Settings that are built are given; both sides of the hypothesis can be computed. -/
theorem settings_of_build (gathered : sources.gather = .ok raw)
    (built : (Settings.build raw).toOption = some settings) :
    sources.settings = .ok settings := by
  rw [settings_of_gather gathered, Settings.validate]
  cases outcome : Settings.build raw with
  | ok given =>
      rw [outcome] at built
      cases built
      rfl
  | error violation =>
      rw [outcome] at built
      cases built

/-! ## Settings from settings -/

theorem standard_arguments (same : sources.arguments = settings.arguments) :
    sources.IsStandard := by
  intro entry member
  rw [same] at member
  obtain ⟨field, -, rfl⟩ := List.mem_map.1 member
  have noOption : field.name ∉ optionNames := by cases field <;> decide
  exact noOption

theorem argumentOf_arguments (same : sources.arguments = settings.arguments)
    (field : SettingField) : sources.argumentOf field = some (settings.value field) := by
  have named : SettingField.all.filter (fun other => Text.lower other.name = field.name) =
      [field] := by
    cases field <;> decide
  rw [argumentOf, same, Settings.arguments, List.filter_map, List.head?_map, Option.map_map]
  exact congrArg (fun fields => (fields.head?).map settings.value) named

/-- Arguments for all fields leave nothing to the variables and the file. -/
theorem effective_arguments (same : sources.arguments = settings.arguments)
    (text : List Char) : sources.effective text = settings.value := by
  funext field
  simp only [effective, argumentOf_arguments same]

theorem settings_again
    (made : ∀ field : SettingField, field.Takes (raw field) (settings.value field))
    {text : List Char} (same : sources.arguments = settings.arguments)
    (reads : sources.FileReads text) : sources.settings = .ok settings := by
  have gathered := gather_effective (standard_arguments same) reads
  rw [effective_arguments same] at gathered
  rw [settings_eq_ok gathered]
  exact fun field => (made field).again

/-- Settings come out exactly if every field accepts its raw value, which with arguments of
the usual names is the value in effect.  Otherwise there is one violation for each field
that does not.  Each value is the one that its field makes of its raw value, and settings
whose arguments are the values of other settings are the same. -/
theorem settings_are_accepted_field_by_field (sources : SettingSources) :
    (∀ text, sources.IsStandard → sources.FileReads text →
      sources.gather = .ok (sources.effective text)) ∧
    (∀ failure, sources.gather = .error failure →
      sources.settings = .error (.refused failure)) ∧
    ∀ raw, sources.gather = .ok raw →
      ((∃ settings, sources.settings = .ok settings) ↔
        ∀ field : SettingField, field.Accepts (raw field)) ∧
      (∀ problem, sources.settings = .error problem →
        ∃ violations : Settings.Violations, problem = .invalid violations ∧
          violations.map Prod.fst =
            SettingField.all.filter (fun field => ¬ field.Accepts (raw field)) ∧
          ∀ entry ∈ violations, Settings.violation? entry.1 (raw entry.1) = some entry.2) ∧
      ∀ settings, sources.settings = .ok settings →
        (∀ field : SettingField, field.Takes (raw field) (settings.value field)) ∧
        settings.logLevel ∈ Settings.levelNames ∧
        settings.logFormat ∈ Settings.formatNames ∧
        ∀ (later : SettingSources) (text : List Char),
          later.arguments = settings.arguments → later.FileReads text →
            later.settings = .ok settings := by
  refine ⟨fun text => gather_effective, ?_, ?_⟩
  · intro failure refused
    rw [SettingSources.settings, refused]
    rfl
  intro raw gathered
  refine ⟨?_, ?_, ?_⟩
  · constructor
    · rintro ⟨settings, given⟩ field
      exact ⟨_, (settings_eq_ok gathered).1 given field⟩
    · intro accepts
      obtain ⟨settings, built⟩ := Settings.build_of_accepts accepts
      exact ⟨settings, (settings_eq_ok gathered).2 fun field =>
        SettingField.checked_eq_ok.1 (Settings.build_eq_ok.1 built field)⟩
  · intro problem refused
    rw [settings_of_gather gathered, Settings.validate] at refused
    refine ⟨Settings.violations raw, ?_, Settings.violations_fields raw,
      fun entry => Settings.violation?_of_mem⟩
    cases built : Settings.build raw with
    | ok settings =>
        rw [built] at refused
        cases refused
    | error violation =>
        rw [built] at refused
        cases refused
        rfl
  · intro settings given
    have made := (settings_eq_ok gathered).1 given
    exact ⟨made, (made .logLevel).level_known, (made .logFormat).format_known,
      fun later text => settings_again made⟩

/-- A level with a dotless i as an argument, a scope in a variable and a format in the
file. -/
def mixed : SettingSources where
  arguments := [("log_level", .text "\u0131nfo")]
  environment := { entries := [("discovery_namespace", "client.")] }
  tree := { nodes := [(⟨.working 0, "/.env"⟩,
    .file (Text.Utf8.encode "DISCOVERY_LOG_FORMAT=Console\n"))] }

def mixedSettings : Settings :=
  { Settings.initial with scope := "client.", logFormat := "console" }

/-- The values of the settings above, among variables and lines that say otherwise. -/
def contradicted : SettingSources where
  arguments := mixedSettings.arguments
  environment := { entries := [("DISCOVERY_LOG_LEVEL", "loud")] }
  tree := { nodes := [(⟨.working 0, "/.env"⟩,
    .file (Text.Utf8.encode "DISCOVERY_PROPS_NAME=\n"))] }

/-- A scope without a dot, and a format that is none. -/
def careless : SettingSources where
  arguments := [("log_format", .text "xml"), ("namespace", .text "client")]

theorem mixed_settings_come_out_again :
    (mixed.settings = .ok mixedSettings ∧ contradicted.settings = .ok mixedSettings) ∧
      careless.settings = .error (.invalid [
        (.scope, .scopeWithoutDot "client"), (.logFormat, .unknownFormat "xml")]) ∧
      [SettingField.scope, .logFormat] = SettingField.all.filter fun field =>
        ¬ field.Accepts (careless.effective [] field) := by
  obtain ⟨gathers, -, outcome⟩ := settings_are_accepted_field_by_field mixed
  have read := gathers "DISCOVERY_LOG_FORMAT=Console\n".toList (by unfold IsStandard; decide)
    (.present rfl (Text.Utf8.decode_encode _))
  have given : mixed.settings = .ok mixedSettings := settings_of_build read (by decide +kernel)
  obtain ⟨-, -, -, again⟩ := (outcome _ read).2.2 mixedSettings given
  obtain ⟨gathersCareless, -, outcomeCareless⟩ := settings_are_accepted_field_by_field careless
  have readCareless := gathersCareless [] (by unfold IsStandard; decide) (.absent rfl)
  have refused : careless.settings = .error (.invalid [
      (.scope, .scopeWithoutDot "client"), (.logFormat, .unknownFormat "xml")]) := by rfl
  obtain ⟨violations, same, fields, -⟩ := (outcomeCareless _ readCareless).2.1 _ refused
  cases same
  exact ⟨⟨given, again contradicted "DISCOVERY_PROPS_NAME=\n".toList rfl
    (.present rfl (Text.Utf8.decode_encode _))⟩, refused, fields⟩

/-- What is not a number is not below zero, and yet no waiting time.  Nor does it help that
every field accepts its value when an argument asks for names that cannot be. -/
theorem nan_is_no_waiting_time :
    ((Double.nan 0).isNegative = false ∧
      ({ arguments := [("watch_interval_seconds", .float (.nan 0))] } :
        SettingSources).settings = .error (.invalid [(.watchSeconds, .negative)])) ∧
    (∀ field : SettingField, field.Accepts field.default) ∧
      ({ arguments := [("_env_prefix", .int 5)] } : SettingSources).settings =
        .error (.refused .wrongType) := by
  refine ⟨⟨rfl, rfl⟩, ?_, rfl⟩
  intro field
  cases field <;> decide

end SettingSources

end DiscoveryClient
