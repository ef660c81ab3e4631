import DiscoveryClient.Log.Output
import DiscoveryClient.Proofs.Log.Redaction
import DiscoveryClient.Proofs.Log.SecretName
import DiscoveryClient.Proofs.Properties.Getters
import DiscoveryClient.Proofs.Properties.Query

/-!
# Reads of secret properties

A read logs one event if the stored value is of no use for the wanted type, and none
otherwise.  The event shows the key, the value itself and the default.  Redaction goes by the
names of fields, and the field of the value is called `value` whatever the key, so a secret
is shown where it is refused and nowhere else.

The properties of the client's interface that can refuse a value have keys that are not
secret, in any scope.
-/

namespace DiscoveryClient

open Log

namespace PropertyReader

/-- Sources that have the same values, except for texts under keys that are secret. -/
def AlikeApartFromSecrets (left right : String → Option Value) : Prop :=
  ∀ key, left key = right key ∨
    isSecret key = true ∧ ∃ text other, left key = some (.text text) ∧ right key = some (.text other)

/-! ## What reads ask for -/

/-- Is a value not refused as some type? -/
def Kind.takes (raw : Value) : Kind → Bool
  | .int => (toInt? raw).isSome
  | .bool =>
      match toBool? raw with
      | .ok none => false
      | _ => true
  | .string | .list => true

/-- The type that is wanted of the value under a key. -/
structure Wanted where
  kind : Kind
  suffix : String
  default : Value

/-- The stored value that cannot be read as the type that is wanted. -/
def Wanted.refused? (reader : PropertyReader) (wanted : Wanted) : Option Value :=
  (reader.given? (reader.key wanted.suffix)).filter fun raw => !wanted.kind.takes raw

/-- The warning about such a value. -/
def Wanted.events (reader : PropertyReader) (wanted : Wanted) : List Event :=
  (wanted.refused? reader).toList.map fun raw =>
    ignoredValue (reader.key wanted.suffix) raw wanted.kind.word wanted.default

/-- What is wanted of the one key of a read. -/
def Query.wanted? : Query → Option Wanted
  | .as kind suffix default => some { kind, suffix, default }
  | .like suffix default => some { kind := .ofDefault default, suffix, default }
  | _ => none

end PropertyReader

/-- What is wanted of the one key of a property that is a number or truth value. -/
def ClientProperties.Rule.wanted? : Rule → Option PropertyReader.Wanted
  | .int suffix default => some { kind := .int, suffix, default := .int default }
  | .scaled suffix default unit _ => some { kind := .int, suffix, default := .int (default * unit) }
  | .bool suffix default => some { kind := .bool, suffix, default := .bool default }
  | _ => none

namespace PropertyReader

/-- A read through a reader, or of a property of the client's interface. -/
inductive Read where
  | query (asked : Query)
  | property (name : String) (arguments : List String)

namespace Read

def logged (reader : PropertyReader) : Read → Logged (Except Failure Value)
  | .query asked => asked.answer reader
  | .property name arguments => ClientProperties.call reader name arguments

def wanted? : Read → Option Wanted
  | .query asked => asked.wanted?
  | .property name arguments =>
      (ClientProperties.documented.find? fun row => row.1 = name).bind fun row =>
        if arguments.length = row.2.takesArgument.toNat then row.2.wanted? else none

/-- The value that is stored and of no use for a read. -/
def refused? (reader : PropertyReader) (read : Read) : Option Value :=
  read.wanted?.bind (Wanted.refused? reader)

/-- What the log shows of a read, inside blocks with a context. -/
def shown (reader : PropertyReader) (output : Output) (context : Context) (read : Read) :
    List Value :=
  ((read.logged reader).events.flatMap fun event =>
    output.write (event.within context.entries)).map Line.shown

end Read

/-! ## Events of reads -/

variable {source : String → Option Value} {scope : String}

theorem events_settle {α : Type} (toValue : α → Value) (key expected : String) (default : α)
    (convert? : Value → Option α) (stored : Option Value) :
    (settle toValue key expected default (.ofValue? convert? stored)).events =
      (stored.filter fun raw => !(convert? raw).isSome).toList.map fun raw =>
        ignoredValue key raw expected (toValue default) := by
  cases stored with
  | none => rfl
  | some raw =>
      rw [Reading.ofValue?]
      cases read : convert? raw with
      | none => simp only [Option.filter_some, read]; rfl
      | some value => simp only [Option.filter_some, read]; rfl

theorem map_ofValue? {α β : Type} (change : α → β) (convert? : Value → Option α)
    (stored : Option Value) :
    (Reading.ofValue? convert? stored).map change =
      .ofValue? (fun raw => (convert? raw).map change) stored := by
  cases stored with
  | none => rfl
  | some raw =>
      rw [Reading.ofValue?, Reading.ofValue?]
      cases convert? raw <;> rfl

variable {reader : PropertyReader} {suffix : String}

theorem events_getInt (default : Int) :
    (reader.getInt suffix default).events =
      Wanted.events reader { kind := .int, suffix, default := .int default } := by
  rw [getInt, readInt, events_settle]
  rfl

/-- A truth value is looked for whatever the answer is made into. -/
theorem events_readBool {α : Type} (toValue : α → Value) (change : Bool → α) (default : α) :
    (settleOk toValue (reader.key suffix) "bool" default
        ((reader.readBool suffix).map (·.map change))).events =
      Wanted.events reader { kind := .bool, suffix, default := toValue default } := by
  rw [readBool, Wanted.events, Wanted.refused?]
  cases reader.given? (reader.key suffix) with
  | none => rfl
  | some raw =>
      simp only [Option.filter_some, Kind.takes]
      cases toBool? raw with
      | error failure => rfl
      | ok read => cases read <;> rfl

theorem events_getBool (default : Bool) :
    (reader.getBool suffix default).events =
      Wanted.events reader { kind := .bool, suffix, default := .bool default } := by
  have same : reader.readBool suffix = (reader.readBool suffix).map (·.map id) := by
    rcases reader.readBool suffix with _ | _ | _ | _ <;> rfl
  rw [getBool, same]
  exact events_readBool .bool id default

theorem events_getAs (reader : PropertyReader) (wanted : Wanted) :
    (reader.getAs wanted.kind wanted.suffix wanted.default).events = wanted.events reader := by
  obtain ⟨kind, suffix, default⟩ := wanted
  cases kind with
  | string => simp [getAs, Wanted.events, Wanted.refused?, Kind.takes]
  | int =>
      simp only [getAs, readInt, map_ofValue?, ClientProperties.map_logged, events_settle,
        Option.isSome_map]
      rfl
  | bool => exact events_readBool id Value.bool default
  | list => simp [getAs, Wanted.events, Wanted.refused?, Kind.takes]

theorem events_entry (rule : ClientProperties.Rule) (name argument : String) :
    ((rule.entry name).read reader argument).events =
      rule.wanted?.toList.flatMap (Wanted.events reader) := by
  cases rule with
  | int suffix default =>
      exact (congrArg Logged.events (ClientProperties.map_logged _ _)).trans
        ((events_getInt default).trans (List.append_nil _).symm)
  | scaled suffix default unit nonzero =>
      rw [ClientProperties.Rule.entry]
      refine (congrArg Logged.events (ClientProperties.map_fdiv unit _)).trans ?_
      exact (congrArg Logged.events (ClientProperties.map_logged _ _)).trans
        ((events_getInt (default * unit)).trans (List.append_nil _).symm)
  | bool suffix default =>
      exact (congrArg Logged.events (ClientProperties.map_logged _ _)).trans
        ((events_getBool default).trans (List.append_nil _).symm)
  | text suffix default => cases default <;> rfl
  | _ => rfl

theorem entry?_eq (name : String) :
    ClientProperties.entry? name =
      (ClientProperties.documented.find? fun row => row.1 = name).map fun row =>
        row.2.entry row.1 := by
  unfold ClientProperties.entry?
  rw [ClientProperties.entries_eq, List.find?_map]
  simp only [Function.comp_def, ClientProperties.name_entry]

/-- A read logs the warning about the value that is of no use for it, if there is one. -/
theorem Read.events_logged (read : Read) :
    (read.logged ⟨source, .text scope⟩).events =
      read.wanted?.toList.flatMap (Wanted.events ⟨source, .text scope⟩) := by
  cases read with
  | query asked =>
      cases asked with
      | as kind suffix default =>
          exact (events_getAs _ ⟨kind, suffix, default⟩).trans (by simp [wanted?, Query.wanted?])
      | like suffix default =>
          exact (events_getAs _ ⟨.ofDefault default, suffix, default⟩).trans
            (by simp [wanted?, Query.wanted?])
      | _ => rfl
  | property name arguments =>
      simp only [logged, wanted?, ClientProperties.call, entry?_eq]
      cases ClientProperties.documented.find? fun row => row.1 = name with
      | none => rfl
      | some row =>
          simp only [Option.map_some, Option.bind_some, ClientProperties.takesArgument_entry]
          split
          · exact events_entry row.2 row.1 _
          · rfl

/-! ## Reads of sources alike -/

variable {left right : String → Option Value}

theorem plain_ignoredValue :
    ∀ name ∈ ["key", "value", "expected", "default"], isSecret name = false ∧
      name ∉ reservedNames ++ internalNames ++ [exceptionField] := by
  decide

theorem document_ignoredValue (key : String) (raw : Value) (expected : String) (default : Value) :
    (ignoredValue key raw expected default).document =
      .dict [("event", .text "config.value.invalid"), ("level", .text "warning"),
        ("logger", .text loggerName), ("key", .text key), ("value", raw),
        ("expected", .text expected), ("default", default)] := by
  have plain : (ignoredValue key raw expected default).plainFields =
      (ignoredValue key raw expected default).fields :=
    Event.plainFields_eq plain_ignoredValue
  simp only [Event.document, Event.entries, Event.writtenFields, plain]
  rfl

/-- The output that writes records writes the warning. -/
theorem write_ignoredValue (key : String) (raw : Value) (expected : String) (default : Value) :
    Output.write {} (ignoredValue key raw expected default) =
      [.record (ignoredValue key raw expected default)] := by
  have admitted : Output.admits {} (ignoredValue key raw expected default) = true := by
    change (Output.isOwn loggerName && decide (Output.leastSeverity {} ≤ 30)) = true
    decide
  rw [Output.write, admitted]
  rfl

/-- A record of a read shows the refused value as it is. -/
theorem Read.shown_record {read : Read} {wanted : Wanted} (of : read.wanted? = some wanted) :
    read.shown ⟨source, .text scope⟩ {} .empty =
      (wanted.refused? ⟨source, .text scope⟩).toList.map fun raw =>
        .dict [("event", .text "config.value.invalid"), ("level", .text "warning"),
          ("logger", .text loggerName), ("key", .text (scope ++ wanted.suffix)), ("value", raw),
          ("expected", .text wanted.kind.word), ("default", wanted.default)] := by
  simp only [shown, events_logged, of, Option.toList_some, List.flatMap_singleton, Wanted.events,
    ClientProperties.key_eq]
  cases wanted.refused? ⟨source, .text scope⟩ with
  | none => rfl
  | some raw =>
      simp only [Option.toList_some, List.map_cons, List.map_nil, List.flatMap_singleton,
        Mapping.empty, Event.within_nil, write_ignoredValue, Line.shown, document_ignoredValue]

/-- The log shows of a read what it refuses, and that alone. -/
theorem Read.shown_iff (read : Read) :
    (∀ output context, read.shown ⟨left, .text scope⟩ output context =
        read.shown ⟨right, .text scope⟩ output context) ↔
      read.refused? ⟨left, .text scope⟩ = read.refused? ⟨right, .text scope⟩ := by
  cases of : read.wanted? with
  | none => simp [shown, events_logged, refused?, of]
  | some wanted =>
      simp only [refused?, of, Option.bind_some]
      constructor
      · intro same
        have records := same {} .empty
        rw [shown_record of, shown_record of] at records
        generalize wanted.refused? ⟨left, .text scope⟩ = first at records ⊢
        generalize wanted.refused? ⟨right, .text scope⟩ = second at records ⊢
        cases first <;> cases second <;> simp_all
      · intro same output context
        simp only [shown, events_logged, of, Option.toList_some, List.flatMap_singleton,
          Wanted.events, ClientProperties.key_eq, same]

theorem Wanted.refused?_congr {wanted : Wanted}
    (agree : left (scope ++ wanted.suffix) = right (scope ++ wanted.suffix)) :
    wanted.refused? ⟨left, .text scope⟩ = wanted.refused? ⟨right, .text scope⟩ := by
  simp only [Wanted.refused?, given?, ClientProperties.key_eq, agree]

theorem Wanted.refused?_text {wanted : Wanted} {text : String}
    (stored : source (scope ++ wanted.suffix) = some (.text text)) :
    wanted.refused? ⟨source, .text scope⟩ =
      if wanted.kind.takes (.text text) then none else some (.text text) := by
  simp only [Wanted.refused?, given?, ClientProperties.key_eq, stored]
  cases taken : wanted.kind.takes (.text text) <;> simp [Option.filter_some, Value.isNull, taken]

/-- Sources alike refuse different values only where different secrets are stored. -/
theorem Wanted.refused?_ne (alike : AlikeApartFromSecrets left right) {wanted : Wanted}
    (differ : wanted.refused? ⟨left, .text scope⟩ ≠ wanted.refused? ⟨right, .text scope⟩) :
    isSecret (scope ++ wanted.suffix) = true ∧ ∃ text other, text ≠ other ∧
      left (scope ++ wanted.suffix) = some (.text text) ∧
      right (scope ++ wanted.suffix) = some (.text other) := by
  rcases alike (scope ++ wanted.suffix) with agree | ⟨secret, text, other, ofLeft, ofRight⟩
  · exact absurd (Wanted.refused?_congr agree) differ
  · refine ⟨secret, text, other, ?_, ofLeft, ofRight⟩
    rintro rfl
    exact differ (Wanted.refused?_congr (ofLeft.trans ofRight.symm))

/-- The numbers and truth values of the client's interface are not secret, in any scope. -/
theorem documented_not_secret :
    ∀ row ∈ ClientProperties.documented, ∀ wanted ∈ row.2.wanted?,
      8 ≤ wanted.suffix.toList.length ∧ isSecret wanted.suffix = false := by
  have table : (ClientProperties.documented.all fun row => row.2.wanted?.all fun wanted =>
      decide (8 ≤ wanted.suffix.toList.length) && !isSecret wanted.suffix) = true := by
    simp only [isSecret_eq_letters]
    decide +kernel
  intro row member wanted of
  have entry := List.all_eq_true.mp table row member
  rw [Option.mem_def.mp of, Option.all_some] at entry
  simpa using entry

theorem Read.wanted_of_secret {read : Read} {wanted : Wanted} (of : read.wanted? = some wanted)
    (secret : isSecret (scope ++ wanted.suffix) = true) :
    ∃ asked, read = .query asked ∧ asked.wanted? = some wanted := by
  cases read with
  | query asked => exact ⟨asked, rfl, of⟩
  | property name arguments =>
      obtain ⟨row, found, entry⟩ := Option.bind_eq_some_iff.mp of
      split at entry
      · obtain ⟨long, notSecret⟩ :=
          documented_not_secret row (List.mem_of_find?_eq_some found) wanted entry
        rw [isSecret_append scope long, notSecret] at secret
        cases secret
      · cases entry

/-- A read through a reader asks for two different secrets as a number or truth value, and
neither is one. -/
def Read.RefusesSecrets (left right : String → Option Value) (scope : String) (read : Read) :
    Prop :=
  ∃ asked wanted text other, read = .query asked ∧ asked.wanted? = some wanted ∧
    (wanted.kind = .int ∨ wanted.kind = .bool) ∧ isSecret (scope ++ wanted.suffix) = true ∧
    left (scope ++ wanted.suffix) = some (.text text) ∧
    right (scope ++ wanted.suffix) = some (.text other) ∧ text ≠ other ∧
    wanted.kind.takes (.text text) = false ∧ wanted.kind.takes (.text other) = false

theorem Read.refused?_eq_iff (alike : AlikeApartFromSecrets left right) {read : Read}
    (both : (read.refused? ⟨left, .text scope⟩).isSome =
      (read.refused? ⟨right, .text scope⟩).isSome) :
    read.refused? ⟨left, .text scope⟩ = read.refused? ⟨right, .text scope⟩ ↔
      ¬ read.RefusesSecrets left right scope := by
  constructor
  · rintro same ⟨asked, wanted, text, other, rfl, of, _, _, ofLeft, ofRight, distinct, first, second⟩
    simp only [Read.refused?, Read.wanted?, of, Option.bind_some, Wanted.refused?_text ofLeft,
      Wanted.refused?_text ofRight, first, second, Bool.false_eq_true, if_false] at same
    exact distinct (by simpa using same)
  · intro openly
    by_contra differ
    cases of : read.wanted? with
    | none => exact differ (by simp [Read.refused?, of])
    | some wanted =>
        simp only [Read.refused?, of, Option.bind_some] at both differ
        obtain ⟨secret, text, other, distinct, ofLeft, ofRight⟩ := Wanted.refused?_ne alike differ
        obtain ⟨asked, rfl, ofAsked⟩ := Read.wanted_of_secret of secret
        rw [Wanted.refused?_text ofLeft, Wanted.refused?_text ofRight] at both differ
        cases first : wanted.kind.takes (.text text) with
        | true =>
            cases second : wanted.kind.takes (.text other) <;> simp [first, second] at both differ
        | false =>
            cases second : wanted.kind.takes (.text other) with
            | true => simp [first, second] at both
            | false =>
                have kind : wanted.kind = .int ∨ wanted.kind = .bool := by
                  cases kind : wanted.kind <;> simp_all [Kind.takes]
                exact openly ⟨asked, wanted, text, other, rfl, ofAsked, kind, secret, ofLeft,
                  ofRight, distinct, first, second⟩

/-- Where a read accepts both values of sources alike or neither, its log is the same unless
neither of two different secrets is the number or truth value that is asked for.  Then the log
tells them apart. -/
theorem secrets_show_only_where_refused (alike : AlikeApartFromSecrets left right)
    (scope : String) :
    (∀ read : Read,
      (read.refused? ⟨left, .text scope⟩).isSome = (read.refused? ⟨right, .text scope⟩).isSome →
        ((∀ output context, read.shown ⟨left, .text scope⟩ output context =
            read.shown ⟨right, .text scope⟩ output context) ↔
          ¬ read.RefusesSecrets left right scope)) ∧
    ∀ reads : List Read, (∀ read ∈ reads,
      (read.refused? ⟨left, .text scope⟩).isSome = (read.refused? ⟨right, .text scope⟩).isSome ∧
        ¬ read.RefusesSecrets left right scope) →
      ∀ output context,
        reads.flatMap (Read.shown ⟨left, .text scope⟩ output context) =
          reads.flatMap (Read.shown ⟨right, .text scope⟩ output context) := by
  have single (read : Read) (both : (read.refused? ⟨left, .text scope⟩).isSome =
      (read.refused? ⟨right, .text scope⟩).isSome) :=
    read.shown_iff.trans (Read.refused?_eq_iff alike both)
  refine ⟨single, fun reads openly output context => ?_⟩
  refine List.flatMap_congr fun read member => ?_
  obtain ⟨both, noSecrets⟩ := openly read member
  exact (single read both).mpr noSecrets output context

/-- A source with a password, the text of which is given. -/
def withPassword (text : String) (key : String) : Option Value :=
  if key = "eureka.eurekaServer.proxyPassword" then some (.text text) else none

theorem withPassword_alike (text other : String) :
    AlikeApartFromSecrets (withPassword text) (withPassword other) := by
  intro key
  by_cases here : key = "eureka.eurekaServer.proxyPassword"
  · subst here
    exact .inr ⟨by decide, text, other, rfl, rfl⟩
  · exact .inl (by simp [withPassword, here])

theorem withPassword_secret (text : String) :
    withPassword text "eureka.eurekaServer.proxyPassword" = some (.text text) := rfl

/-- The password of the client's interface is not logged, nor is one that is a number. -/
theorem passwords_read_as_texts_or_numbers :
    AlikeApartFromSecrets (withPassword "2208") (withPassword "1911") ∧
      ∀ read ∈ [Read.property "proxy_password" [],
          .query (.as .int "eurekaServer.proxyPassword" (.int 5))],
        (read.refused? ⟨withPassword "2208", .text "eureka."⟩).isSome =
            (read.refused? ⟨withPassword "1911", .text "eureka."⟩).isSome ∧
          ∀ output context, read.shown ⟨withPassword "2208", .text "eureka."⟩ output context =
            read.shown ⟨withPassword "1911", .text "eureka."⟩ output context := by
  have alike := withPassword_alike "2208" "1911"
  have single := (secrets_show_only_where_refused alike "eureka.").1
  refine ⟨alike, fun read member => ?_⟩
  simp only [List.mem_cons, List.not_mem_nil, or_false] at member
  rcases member with rfl | rfl
  · have both : (Read.refused? ⟨withPassword "2208", .text "eureka."⟩
        (.property "proxy_password" [])).isSome =
          (Read.refused? ⟨withPassword "1911", .text "eureka."⟩
            (.property "proxy_password" [])).isSome := by
      decide
    refine ⟨both, (single _ both).mpr ?_⟩
    rintro ⟨asked, _, _, _, isQuery, _⟩
    cases isQuery
  · have both : (Read.refused? ⟨withPassword "2208", .text "eureka."⟩
        (.query (.as .int "eurekaServer.proxyPassword" (.int 5)))).isSome =
          (Read.refused? ⟨withPassword "1911", .text "eureka."⟩
            (.query (.as .int "eurekaServer.proxyPassword" (.int 5)))).isSome := by
      decide
    refine ⟨both, (single _ both).mpr ?_⟩
    rintro ⟨_, _, text, _, ⟨⟩, ⟨⟩, _, _, stored, _, _, refused, _⟩
    rw [show "eureka." ++ "eurekaServer.proxyPassword" = "eureka.eurekaServer.proxyPassword" by
      decide, withPassword_secret] at stored
    cases stored
    exact absurd refused (by decide)

/-- A password that is asked for as a number and is none stands in the log. -/
theorem refused_password_is_shown :
    AlikeApartFromSecrets (withPassword "hunter2") (withPassword "hunter3") ∧
      ∃ read : Read,
        (read.refused? ⟨withPassword "hunter2", .text "eureka."⟩).isSome =
            (read.refused? ⟨withPassword "hunter3", .text "eureka."⟩).isSome ∧
          read.shown ⟨withPassword "hunter2", .text "eureka."⟩ {} .empty =
            [.dict [("event", .text "config.value.invalid"), ("level", .text "warning"),
              ("logger", .text loggerName), ("key", .text "eureka.eurekaServer.proxyPassword"),
              ("value", .text "hunter2"), ("expected", .text "int"), ("default", .int 5)]] ∧
          read.shown ⟨withPassword "hunter2", .text "eureka."⟩ {} .empty ≠
            read.shown ⟨withPassword "hunter3", .text "eureka."⟩ {} .empty := by
  have wanted : Read.wanted? (.query (.as .int "eurekaServer.proxyPassword" (.int 5))) =
      some ⟨.int, "eurekaServer.proxyPassword", .int 5⟩ := rfl
  have first : Wanted.refused? ⟨withPassword "hunter2", .text "eureka."⟩
      ⟨.int, "eurekaServer.proxyPassword", .int 5⟩ = some (.text "hunter2") := by
    rfl
  have second : Wanted.refused? ⟨withPassword "hunter3", .text "eureka."⟩
      ⟨.int, "eurekaServer.proxyPassword", .int 5⟩ = some (.text "hunter3") := by
    rfl
  refine ⟨withPassword_alike _ _, .query (.as .int "eurekaServer.proxyPassword" (.int 5)), ?_, ?_, ?_⟩
  · decide
  · rw [Read.shown_record wanted, first]
    rfl
  · rw [Read.shown_record wanted, Read.shown_record wanted, first, second]
    simp

end PropertyReader

end DiscoveryClient
