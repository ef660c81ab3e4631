import DiscoveryClient.Log.Session
import DiscoveryClient.Proofs.Log.Redaction
import DiscoveryClient.Proofs.Log.SecretName

/-!
# Sessions keep secrets

Two sessions whose steps differ in the values of secret fields alone show the same lines,
however their blocks are nested.  What carries the induction is that their contexts stay
alike: the context of a block is made of fields alike, and leaving it brings back fields
alike.

That the fields are there at all is another matter.  A block is left with every name bound
as it was, so a call has the fields of all the blocks around it, and a record of it shows
the mark for each that is secret.
-/

namespace DiscoveryClient.Log

/-! ## Sessions alike -/

mutual

/-- Steps that differ at most in the values of secret fields. -/
inductive StepAlike : SessionStep → SessionStep → Prop
  | configure (configuration : Configuration) :
      StepAlike (.configure configuration) (.configure configuration)
  | log {left right : Event} (events : EventsAlike left right) (arguments : List Value) :
      StepAlike (.log left arguments) (.log right arguments)
  | caught (failure : Failure) (logger : String) (message : Value) {left right : List Field}
      (fields : FieldsAlike left right) :
      StepAlike (.caught failure logger message left) (.caught failure logger message right)
  | plain (level : Level) (logger message : String) (arguments : List Value) :
      StepAlike (.plain level logger message arguments) (.plain level logger message arguments)
  | context {left right : List Field} {lefts rights : List SessionStep}
      (fields : FieldsAlike left right) (body : StepsAlike lefts rights) :
      StepAlike (.context left lefts) (.context right rights)
  | silent (failure : Option Failure) : StepAlike (.silent failure) (.silent failure)

inductive StepsAlike : List SessionStep → List SessionStep → Prop
  | nil : StepsAlike [] []
  | cons {left right : SessionStep} {lefts rights : List SessionStep}
      (head : StepAlike left right) (tail : StepsAlike lefts rights) :
      StepsAlike (left :: lefts) (right :: rights)

end

/-- Sessions that show the same and differ at most in the values of secret fields. -/
structure SessionsAlike (left right : Session) : Prop where
  bootstrap : left.toBootstrap = right.toBootstrap
  output : left.output = right.output
  context : ContextsAlike left.context right.context
  lines : left.lines.map Line.shown = right.lines.map Line.shown

theorem EventsAlike.asking {left right : Event} (alike : EventsAlike left right) :
    EventsAlike left.asking right.asking := by
  refine ⟨alike.level, alike.logger, alike.name, alike.caught, ?_⟩
  unfold Event.asking Event.field?
  rw [alike.fields.isSome_lookup]
  exact alike.fields.append (FieldsAlike.refl _)

theorem EventsAlike.catching {left right : Event} (alike : EventsAlike left right)
    (summary : String) : EventsAlike (left.catching summary) (right.catching summary) :=
  ⟨alike.level, alike.logger, alike.name, rfl, alike.asking.fields⟩

theorem silentOutcome_eq {left right : List Field} (alike : FieldsAlike left right)
    (operation : String) (message : Value) (arguments : List Value) :
    silentOutcome operation message arguments left =
      silentOutcome operation message arguments right := by
  have empty : left.isEmpty = right.isEmpty := by
    cases alike <;> rfl
  have used : usesCallName left = usesCallName right := by
    unfold usesCallName
    simp only [alike.isSome_lookup]
  unfold silentOutcome
  simp only [alike.isSome_lookup, empty, used]

/-- The operations of a logger are steps alike for fields alike. -/
theorem StepAlike.ofOperation (operation logger : String) (message : Value)
    (arguments : List Value) {left right : List Field} (fields : FieldsAlike left right) :
    StepAlike (.ofOperation operation logger message arguments left)
      (.ofOperation operation logger message arguments right) := by
  unfold SessionStep.ofOperation
  split
  · have events (level : Level) : EventsAlike { level, logger, name := message, fields := left }
        { level, logger, name := message, fields := right } := ⟨rfl, rfl, rfl, rfl, fields⟩
    split
    · exact .log (events _).asking arguments
    · exact .log (events _) arguments
  · rw [silentOutcome_eq fields]
    exact .silent _

namespace SessionsAlike

variable {left right : Session}

theorem silenced (alike : SessionsAlike left right) :
    SessionsAlike { left with lines := [] } { right with lines := [] } :=
  ⟨alike.bootstrap, alike.output, alike.context, rfl⟩

theorem write (alike : SessionsAlike left right) {event other : Event}
    (events : EventsAlike event other) : SessionsAlike (left.write event) (right.write other) := by
  refine ⟨alike.bootstrap, alike.output, alike.context, ?_⟩
  unfold Session.write
  rw [List.map_append, List.map_append, alike.lines, alike.output,
    (events.within alike.context).shown_eq]

theorem bound_eq (alike : SessionsAlike left right) {event other : Event}
    (events : EventsAlike event other) {name : String} (notSecret : isSecret name = false) :
    left.bound? event name = right.bound? other name := by
  unfold Session.bound? Event.field?
  rw [events.fields.lookup_eq notSecret, alike.context.get?_eq notSecret]

theorem logEvent (alike : SessionsAlike left right) {event other : Event}
    (events : EventsAlike event other) (arguments : List Value) :
    SessionsAlike (left.logEvent event arguments).1 (right.logEvent other arguments).1 ∧
      (left.logEvent event arguments).2 = (right.logEvent other arguments).2 := by
  have used : usesCallName event.fields = usesCallName other.fields := by
    unfold usesCallName
    simp only [events.fields.isSome_lookup]
  have writing : (event.field? Session.writingName).isSome =
      (other.field? Session.writingName).isSome := events.fields.isSome_lookup _
  have record : left.bound? event Session.recordName = right.bound? other Session.recordName :=
    alike.bound_eq events (by decide)
  unfold Session.logEvent
  simp only [used, events.level, alike.output, events.name, writing, record]
  split
  · exact ⟨alike, rfl⟩
  · split
    · exact ⟨alike, rfl⟩
    · split
      · exact ⟨alike, rfl⟩
      · split
        · exact ⟨alike, rfl⟩
        · split
          · exact ⟨alike, rfl⟩
          · exact ⟨alike.write ⟨rfl, events.logger, rfl, events.caught, events.fields⟩, rfl⟩

end SessionsAlike

/-- What an outcome tells of success and failure. -/
def succeeds {α : Type} (outcome : Except Trouble α) : Except Trouble Unit :=
  outcome.map fun _ => ()

theorem Session.steps_cons (session : Session) (first : SessionStep) (rest : List SessionStep) :
    session.steps (first :: rest) =
      match succeeds (session.step first).2 with
      | .error trouble => ((session.step first).1, .error trouble)
      | .ok _ => (session.step first).1.steps rest := by
  rw [Session.steps]
  cases same : session.step first with
  | mk next outcome => cases outcome <;> rfl

mutual

theorem StepAlike.step {first second : SessionStep} (steps : StepAlike first second)
    {left right : Session} (alike : SessionsAlike left right) :
    SessionsAlike (left.step first).1 (right.step second).1 ∧
      succeeds (left.step first).2 = succeeds (right.step second).2 := by
  cases steps with
  | configure configuration =>
      simp only [Session.step, alike.bootstrap]
      split
      · exact ⟨⟨rfl, alike.output, alike.context, alike.lines⟩, rfl⟩
      · exact ⟨⟨rfl, rfl, alike.context, alike.lines⟩, rfl⟩
  | log events arguments =>
      simp only [Session.step]
      exact (alike.logEvent events arguments).imp_right (congrArg succeeds)
  | @caught failure logger message left' right' fields =>
      have events : EventsAlike { level := .error, logger, name := message, fields := left' }
          { level := .error, logger, name := message, fields := right' } :=
        ⟨rfl, rfl, rfl, rfl, fields⟩
      simp only [Session.step]
      exact (alike.logEvent (events.catching failure.summary) []).imp_right (congrArg succeeds)
  | plain level logger message arguments =>
      simp only [Session.step]
      split
      · exact ⟨alike, rfl⟩
      · exact ⟨alike.write ⟨rfl, rfl, rfl, rfl, List.Forall₂.nil⟩, rfl⟩
  | @context left' right' lefts rights fields body =>
      have bound := ContextsAlike.ofList fields
      have entered : SessionsAlike
          { left with context := Context.enter (Mapping.ofList left') left.context }
          { right with context := Context.enter (Mapping.ofList right') right.context } :=
        ⟨alike.bootstrap, alike.output, alike.context.enter bound, alike.lines⟩
      obtain ⟨inside, outcome⟩ := StepsAlike.steps body entered
      simp only [Session.step]
      refine ⟨⟨inside.bootstrap, inside.output, ?_, inside.lines⟩, ?_⟩
      · exact alike.context.leave bound inside.context
      · rw [outcome]
        cases (Session.steps _ rights).2 <;> rfl
  | silent failure =>
      cases failure <;> exact ⟨alike, rfl⟩

theorem StepsAlike.steps {lefts rights : List SessionStep} (steps : StepsAlike lefts rights)
    {left right : Session} (alike : SessionsAlike left right) :
    SessionsAlike (left.steps lefts).1 (right.steps rights).1 ∧
      (left.steps lefts).2 = (right.steps rights).2 := by
  cases steps with
  | nil => exact ⟨alike, rfl⟩
  | cons head tail =>
      obtain ⟨next, outcome⟩ := StepAlike.step head alike
      rw [Session.steps_cons, Session.steps_cons, outcome]
      split
      · exact ⟨next, rfl⟩
      · exact StepsAlike.steps tail next

end

/-- The lines that the log shows for each of the steps. -/
def Session.shown (session : Session) (steps : List SessionStep) : List (List Value) :=
  (session.run steps).map fun entry => entry.lines.map Line.shown

theorem StepsAlike.shown_eq {lefts rights : List SessionStep} (steps : StepsAlike lefts rights)
    {left right : Session} (alike : SessionsAlike left right) :
    left.shown lefts = right.shown rights := by
  cases steps with
  | nil => rfl
  | cons head tail =>
      have next := (StepAlike.step head alike.silenced).1
      have rest := StepsAlike.shown_eq tail next
      unfold Session.shown at rest ⊢
      simp only [Session.run, List.map_cons, next.lines, rest]

/-! ## Fields of the blocks around a call -/

/-- A call writes its event under the name that the template gives, or nothing. -/
theorem Session.logEvent_cases (session : Session) (event : Event) (arguments : List Value) :
    (session.logEvent event arguments).1 = session ∨
      ∃ name, (session.logEvent event arguments).1 = session.write { event with name } := by
  unfold Session.logEvent
  split
  · exact .inl rfl
  · split
    · exact .inl rfl
    · split
      · exact .inl rfl
      · split
        · exact .inl rfl
        · split
          · exact .inl rfl
          · exact .inr ⟨_, rfl⟩

theorem Session.get?_logEvent (session : Session) (event : Event) (arguments : List Value)
    (name : String) :
    (session.logEvent event arguments).1.context.get? name = session.context.get? name := by
  rcases session.logEvent_cases event arguments with same | ⟨name, written⟩
  · rw [same]
  · rw [written]
    rfl

mutual

/-- A step leaves every name bound as it was. -/
theorem Session.get?_step (session : Session) (step : SessionStep) (name : String) :
    (session.step step).1.context.get? name = session.context.get? name := by
  cases step with
  | configure configuration =>
      simp only [Session.step]
      split <;> rfl
  | log event arguments => exact Session.get?_logEvent session event arguments name
  | caught failure logger message fields => exact Session.get?_logEvent session _ [] name
  | plain level logger message arguments =>
      simp only [Session.step]
      split <;> rfl
  | context fields body =>
      have inside := Session.get?_steps
        { session with context := Context.enter (Mapping.ofList fields) session.context } body
      simp only [Session.step]
      exact Context.get?_leave_of_same inside name
  | silent failure => cases failure <;> rfl

theorem Session.get?_steps (session : Session) (steps : List SessionStep) (name : String) :
    (session.steps steps).1.context.get? name = session.context.get? name := by
  cases steps with
  | nil => rfl
  | cons first rest =>
      rw [Session.steps_cons]
      split
      · exact Session.get?_step session first name
      · rw [Session.get?_steps, Session.get?_step]

end

/-- A session comes to a step inside the blocks that bind the fields of a scope, those of the
outermost block first. -/
inductive Reaches : Session → List SessionStep → (scope : List Field) → Session → SessionStep → Prop
  | here (session : Session) (first : SessionStep) (rest : List SessionStep) :
      Reaches session (first :: rest) [] session first
  | later {session reached : Session} {first step : SessionStep} {rest : List SessionStep}
      {scope : List Field} (later : Reaches (session.step first).1 rest scope reached step) :
      Reaches session (first :: rest) scope reached step
  | inside {session reached : Session} {step : SessionStep} {body rest : List SessionStep}
      {fields scope : List Field}
      (inside : Reaches
        { session with context := Context.enter (Mapping.ofList fields) session.context }
        body scope reached step) :
      Reaches session (.context fields body :: rest) (fields ++ scope) reached step

/-- Whatever is bound outside and by the blocks around a step is bound where it is reached. -/
theorem Reaches.isBound {session reached : Session} {step : SessionStep}
    {steps : List SessionStep} {scope : List Field} (reaches : Reaches session steps scope reached step)
    {name : String} (bound : name ∈ scope.map Prod.fst ∨ name ∈ session.context.keys) :
    name ∈ reached.context.keys := by
  induction reaches with
  | here session first rest => exact bound.resolve_left List.not_mem_nil
  | @later session reached first step rest scope later induction =>
      apply induction
      rw [← Mapping.isSome_get?, Session.get?_step, Mapping.isSome_get?]
      exact bound
  | @inside session reached step body rest fields scope inside induction =>
      apply induction
      rw [← Mapping.isSome_get?, Context.get?_enter, Option.isSome_or, Bool.or_eq_true,
        Mapping.isSome_get?, Mapping.isSome_get?, Mapping.mem_keys_ofList]
      rw [List.map_append, List.mem_append] at bound
      tauto

/-- The fields that are given to a logging call. -/
def SessionStep.given? : SessionStep → Option (List Field)
  | .log event _ => some event.fields
  | .caught _ _ _ fields => some fields
  | .plain _ _ _ _ => some []
  | _ => none

/-- What a logging call writes is an event with the fields that it is given. -/
theorem Session.step_call {session : Session} {call : SessionStep} {own : List Field}
    (given : call.given? = some own) :
    (session.step call).1 = session ∨
      ∃ event, (session.step call).1 = session.write event ∧ own ⊆ event.fields := by
  cases call with
  | log event arguments =>
      obtain rfl : event.fields = own := by simpa [SessionStep.given?] using given
      refine (session.logEvent_cases event arguments).imp_right ?_
      rintro ⟨name, written⟩
      exact ⟨_, written, List.Subset.refl _⟩
  | caught failure logger message fields =>
      obtain rfl : fields = own := by simpa [SessionStep.given?] using given
      refine (session.logEvent_cases _ []).imp_right ?_
      rintro ⟨name, written⟩
      exact ⟨_, written, List.subset_append_left _ _⟩
  | plain level logger message arguments =>
      obtain rfl : [] = own := by simpa [SessionStep.given?] using given
      simp only [Session.step]
      split
      · exact .inl rfl
      · exact .inr ⟨_, rfl, List.nil_subset _⟩
  | configure | context | silent => simp [SessionStep.given?] at given

/-- Of the given names, a line shows the secret ones with the mark and nothing else. -/
def Line.Marks (names : List String) (line : Line) : Prop :=
  ∃ entries, line.shown = .dict entries ∧
    ∀ name ∈ names, isSecret name = true → ∀ value, (name, value) ∈ entries ↔ value = redacted

theorem Event.mem_names_within {event : Event} {context : List Field} {name : String} :
    name ∈ (event.within context).fields.map Prod.fst ↔
      name ∈ event.fields.map Prod.fst ∨ name ∈ context.map Prod.fst := by
  unfold Event.within
  rw [List.map_append, List.mem_append]
  constructor
  · rintro (own | around)
    · exact .inl own
    · exact .inr ((List.filter_sublist.map Prod.fst).subset around)
  · rintro (own | around)
    · exact .inl own
    · by_cases own : name ∈ event.fields.map Prod.fst
      · exact .inl own
      · obtain ⟨field, member, rfl⟩ := List.mem_map.mp around
        refine .inr (List.mem_map_of_mem (List.mem_filter.mpr ⟨member, ?_⟩))
        simpa using own

/-- A record of a call shows the marks of its own secrets and of those of the blocks. -/
theorem Reaches.marks {session reached : Session} {call : SessionStep}
    {steps : List SessionStep} {scope own : List Field}
    (reaches : Reaches session steps scope reached call) (given : call.given? = some own)
    (records : reached.output.isConsole = false) {line : Line}
    (written : line ∈ ({ reached with lines := [] }.step call).1.lines) :
    line.Marks ((own ++ scope).map Prod.fst) := by
  rcases @Session.step_call { reached with lines := [] } call own given with
    silent | ⟨event, write, subset⟩
  · rw [silent] at written
    contradiction
  · simp only [write, Session.write, Output.write, records, List.nil_append] at written
    split at written
    · contradiction
    · obtain rfl := List.mem_singleton.mp written
      refine ⟨_, rfl, fun name member secret value => ?_⟩
      rw [Event.mem_entries_of_secret secret]
      refine and_iff_right (Event.mem_names_within.mpr ?_)
      rw [List.map_append, List.mem_append] at member
      exact member.imp (fun ofOwn => List.map_subset _ subset ofOwn)
        (fun ofScope => reaches.isBound (.inl ofScope))

/-! ## Redaction of whole events -/

/-- Redaction of a document whose names are texts is redaction of its fields. -/
theorem redactEntries_names (fields : Mapping Value) :
    redactEntries (fields.entries.map fun field => (.text field.1, field.2)) =
      .ok (redact fields.entries) := by
  simp [redactEntries, Value.isFixed, List.filterMap_map, Function.comp_def,
    Mapping.entries_ofList fields.nodup]

theorem redact_fieldwise (fields : List Field) :
    List.Forall₂ (fun own shown => shown = (own.1, if isSecret own.1 then redacted else own.2))
      fields (redact fields) := by
  rw [redact, List.forall₂_map_right_iff]
  exact List.forall₂_same.mpr fun field _ => redactField_spec field

/-- Secrets never reach the log.  Steps that differ in the values of secret fields alone are
logged the same, the marks of all secrets around a call are in its record, and redaction
changes the values of secret names and nothing else. -/
theorem secrets_never_reach_the_log (session : Session) {left right : List SessionStep}
    (alike : StepsAlike left right) :
    session.shown left = session.shown right ∧
      (∀ scope reached call own, Reaches session left scope reached call →
        call.given? = some own → reached.output.isConsole = false →
          ∀ line ∈ ({ reached with lines := [] }.step call).1.lines,
            line.Marks ((own ++ scope).map Prod.fst)) ∧
      (∀ fields : Mapping Value,
        redactEntries (fields.entries.map fun field => (.text field.1, field.2)) =
            .ok (redact fields.entries) ∧
          List.Forall₂
            (fun own shown => shown = (own.1, if isSecret own.1 then redacted else own.2))
            fields.entries (redact fields.entries) ∧
          redact (redact fields.entries) = redact fields.entries) ∧
      ∀ name, isSecret name = true ↔
        ∃ ending ∈ ["password", "passwd", "secret"], ∃ tail, tail <:+ name.toList ∧
          tail.map Char.toLower = ending.toList := by
  refine ⟨?_, ?_, ?_, isSecret_iff⟩
  · exact alike.shown_eq ⟨rfl, rfl, FieldsAlike.refl _, rfl⟩
  · intro scope reached call own reaches given records line written
    exact reaches.marks given records written
  · intro fields
    exact ⟨redactEntries_names fields, redact_fieldwise _, redact_redact _⟩

/-- Blocks within blocks and a call, with secrets in each of them. -/
def nestedLogin (outer inner own : String) : List SessionStep :=
  [ .context [("region", .text "eu"), ("proxy_password", .text outer)]
      [ .context [("Client_Secret", .text inner), ("proxy_password", .text inner)]
          [ .log {
              level := .info, logger := "discovery_sdk.t", name := .text "login"
              fields := [("user", .text "a"), ("PASSWD", .text own)] } [] ] ] ]

theorem nested_logins_are_shown_alike :
    StepsAlike (nestedLogin "1" "2" "3") (nestedLogin "4" "5" "6") ∧
      Session.shown {} (nestedLogin "1" "2" "3") = Session.shown {} (nestedLogin "4" "5" "6") ∧
      Session.shown {} (nestedLogin "1" "2" "3") =
        [[.dict [("event", .text "login"), ("level", .text "info"),
          ("logger", .text "discovery_sdk.t"), ("user", .text "a"), ("PASSWD", redacted),
          ("region", .text "eu"), ("proxy_password", redacted), ("Client_Secret", redacted)]]] := by
  have secret {name : String} (isSecret : isSecret name = true) (left right : Value) :
      FieldAlike (name, left) (name, right) := ⟨rfl, by simp [isSecret]⟩
  have alike : StepsAlike (nestedLogin "1" "2" "3") (nestedLogin "4" "5" "6") := by
    refine .cons (.context ?outer (.cons (.context ?inner (.cons (.log ?event _) .nil)) .nil)) .nil
    case outer => exact .cons ⟨rfl, fun _ => rfl⟩ (.cons (secret (by decide) _ _) .nil)
    case inner => exact .cons (secret (by decide) _ _) (.cons (secret (by decide) _ _) .nil)
    case event =>
      exact ⟨rfl, rfl, rfl, rfl, .cons ⟨rfl, fun _ => rfl⟩ (.cons (secret (by decide) _ _) .nil)⟩
  exact ⟨alike, (secrets_never_reach_the_log {} alike).1, by rfl⟩

end DiscoveryClient.Log
