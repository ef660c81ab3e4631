import DiscoveryClient.Proofs.Log.Deeds
import DiscoveryClient.Proofs.Log.SessionScope

/-!
# Log context is scoped

Whatever tree of blocks, refreshes, runs and log events is acted out, each of its events carries
the fields of the blocks around it, and every name is bound after it as before.  The fields of a
block must have names that a record does not keep for itself: those are taken for the event's
own, or never written.
-/

namespace DiscoveryClient.Log

open Identity

variable {σ : Type}

/-- Log context is scoped.  Every deed tells a trail, and whatever it tells, its events carry
their own fields and those of the blocks around them, the innermost binding of a name winning,
and every name is bound after it as before.  A refresh of a data center with metadata and a run
of a task are around all that is logged in them.  The same is true of the blocks and calls of a
session. -/
theorem log_context_is_scoped :
    (∀ (deed : Deed σ) (world : World (Site σ)), deed.IsPlain → world.journal.context.IsPlain →
      (∃ trail, deed.Tells world trail) ∧
      ∀ trail, deed.Tells world trail →
        (∃ written, (deed.act world).2.journal.events = world.journal.events ++ written ∧
          List.Forall₂ (fun enclosed event =>
            Carries (enclosed.scope ++ [world.journal.context]) enclosed.own event) trail written) ∧
        ∀ name, (deed.act world).2.journal.context.get? name = world.journal.context.get? name) ∧
    (∀ center (answers : Answers σ) meanwhile world trail, answers.hasMetadata world.state = true →
      Deed.Tells (.refresh center answers meanwhile) world trail →
        ∀ enclosed ∈ trail, ∃ inner, enclosed.scope = inner ++ [refreshContext center]) ∧
    (∀ name (task : Deed σ) world trail, Deed.Tells (.runOnce name task) world trail →
        ∀ enclosed ∈ trail, ∃ inner, enclosed.scope = inner ++ [Schedule.context name]) ∧
    ∀ session steps,
      (∀ name, (Session.steps session steps).1.context.get? name = session.context.get? name) ∧
      ∀ scope reached call own, Reaches session steps scope reached call →
        call.given? = some own →
          Context.IsPlain (Mapping.ofList scope) → session.context.IsPlain →
            ∃ alone written : List Event,
              (reached.bare.step call).1.lines =
                  reached.lines ++ alone.flatMap reached.output.write ∧
                (reached.step call).1.lines =
                  reached.lines ++ written.flatMap reached.output.write ∧
                List.Forall₂ (Carries [Mapping.ofList scope, session.context]) alone written := by
  have outermost {fields : Context} {inside : List Enclosed} {enclosed : Enclosed}
      (member : enclosed ∈ inside.map (.under fields)) :
      ∃ inner, enclosed.scope = inner ++ [fields] := by
    obtain ⟨within, _, rfl⟩ := List.mem_map.mp member
    exact ⟨within.scope, rfl⟩
  refine ⟨?deeds, ?refreshes, ?runs, ?sessions⟩
  case deeds =>
    intro deed world plain plainBefore
    refine ⟨deed.exists_tells plain world, fun trail tells => ?_⟩
    have followed := (tells.leaves plain).followed
    refine ⟨?_, followed.restored⟩
    exact followed.events [world.journal.context] (.singleton _) (by simpa using plainBefore)
  case refreshes =>
    intro center answers meanwhile world trail has tells enclosed member
    cases tells with
    | skipped lacks => contradiction
    | refreshed => exact outermost member
  case runs =>
    intro name task world trail tells enclosed member
    cases tells with
    | runOnce within => exact outermost member
  case sessions =>
    intro session steps
    refine ⟨Session.get?_steps session steps, ?_⟩
    intro scope reached call own reaches given plain plainBefore
    exact reaches.carries given plain plainBefore

/-! ## Blocks within blocks -/

def noted (name : String) (fields : List Field) : Event :=
  { level := .info, logger := "discovery_sdk.t", name := .text name, fields }

def zoned (zone : String) : List Field :=
  [("region", .text "eu"), ("zone", .text zone)]

/-- Surroundings in which no question but that for metadata has an answer. -/
def disordered : Answers Unit where
  hasMetadata _ := true
  hostOrder _ := .error .wrongType
  ipOrder _ := .error .wrongType
  read _ _ := .error .wrongType
  hostName _ := .error .wrongType
  ipAddress _ := .error .wrongType
  now _ := .error .wrongType

def asking : Question → Deed Unit
  | .hostOrder => .block (Mapping.ofList [("zone", .text "c")]) (.log (noted "asked" []))
  | _ => .done (.ok ())

def failingTask : Deed Unit :=
  .both (.refresh .amazon disordered asking) (.done (.error .wrongType))

/-- A block that fails inside a block that goes on. -/
def nestedDeed : Deed Unit :=
  .block (Mapping.ofList (zoned "a"))
    (.attempt
      (.block (Mapping.ofList [("zone", .text "b")])
        (.both (.log (noted "own" [("region", .text "us")]))
          (.both (.runOnce (.text "beat") failingTask) (.done (.error .wrongType)))))
      fun _ => .log (noted "after" []))

def nestedCalls : List SessionStep :=
  [.context (zoned "a")
    [.context [("zone", .text "b")]
      [.log (noted "own" [("region", .text "us")]) [], .failing .wrongType]]]

def restingWorld : World (Site Unit) where
  state := { coordinator := { snapshot := { hostName := .null, ipAddress := .null } }, outside := () }

/-- The values under the names that the blocks bind. -/
def bindings (event : Event) : List (Option Value) :=
  ["region", "zone", "refresher", "data_center"].map event.field?

theorem isPlain_asking (question : Question) : (asking question).IsPlain := by
  have plain : Context.IsPlain (Mapping.ofList [("zone", .text "c")]) := by
    unfold Context.IsPlain
    decide
  cases question with
  | hostOrder => exact ⟨plain, trivial⟩
  | ipOrder | read | hostName | ipAddress | now | notify => trivial

theorem isPlain_failingTask : failingTask.IsPlain :=
  Deed.isPlain_both isPlain_asking trivial

theorem isPlain_nestedDeed : nestedDeed.IsPlain := by
  have outer : Context.IsPlain (Mapping.ofList (zoned "a")) := by
    unfold Context.IsPlain
    decide
  have inner : Context.IsPlain (Mapping.ofList [("zone", .text "b")]) := by
    unfold Context.IsPlain
    decide
  refine ⟨outer, Deed.isPlain_attempt ⟨inner, ?_⟩ fun _ => trivial⟩
  exact Deed.isPlain_both trivial (Deed.isPlain_both isPlain_failingTask trivial)

/-- In the deed and in the session, the innermost binding wins and the event's own before it; a
refresh and a run that fail bind their fields for what is logged in them alone. -/
theorem nested_blocks_are_scoped :
    (nestedDeed.act restingWorld).2.journal.events.map bindings =
        [ [some (.text "us"), some (.text "b"), none, none],
          [some (.text "eu"), some (.text "c"), some (.text "beat"), some (.text "Amazon")],
          [some (.text "eu"), some (.text "b"), some (.text "beat"), some (.text "Amazon")],
          [some (.text "eu"), some (.text "b"), some (.text "beat"), none],
          [some (.text "eu"), some (.text "a"), none, none] ] ∧
      (∃ trail written, nestedDeed.Tells restingWorld trail ∧
        (nestedDeed.act restingWorld).2.journal.events = written ∧
        List.Forall₂ (fun enclosed event => Carries (enclosed.scope ++ [.empty]) enclosed.own event)
          trail written) ∧
      (∀ name, (nestedDeed.act restingWorld).2.journal.context.get? name = none) ∧
      (∃ trail, Deed.Tells (.refresh .amazon disordered asking) restingWorld trail ∧
        ∀ enclosed ∈ trail, ∃ inner, enclosed.scope = inner ++ [refreshContext .amazon]) ∧
      (∃ trail, Deed.Tells (.runOnce (.text "beat") failingTask) restingWorld trail ∧
        ∀ enclosed ∈ trail, ∃ inner, enclosed.scope = inner ++ [Schedule.context (.text "beat")]) ∧
      (∀ name, (Session.steps {} nestedCalls).1.context.get? name = none) ∧
      ∃ reached call, Reaches {} nestedCalls (zoned "a" ++ [("zone", .text "b")]) reached call ∧
        ∃ alone written : List Event,
          (reached.bare.step call).1.lines = alone.flatMap reached.output.write ∧
            (reached.step call).1.lines = written.flatMap reached.output.write ∧
            List.Forall₂ (Carries [Mapping.ofList (zoned "a" ++ [("zone", .text "b")]), .empty])
              alone written := by
  have empty : Context.IsPlain .empty := fun name bound => absurd bound List.not_mem_nil
  have plainScope : Context.IsPlain (Mapping.ofList (zoned "a" ++ [("zone", .text "b")])) := by
    unfold Context.IsPlain
    decide
  have plainRefresh : (Deed.refresh .amazon disordered asking).IsPlain := isPlain_asking
  obtain ⟨deeds, refreshes, runs, sessions⟩ := @log_context_is_scoped Unit
  obtain ⟨⟨trail, tells⟩, carried⟩ := deeds nestedDeed restingWorld isPlain_nestedDeed empty
  obtain ⟨⟨refreshing, tellsRefresh⟩, _⟩ := deeds _ restingWorld plainRefresh empty
  obtain ⟨⟨running, tellsRun⟩, _⟩ :=
    deeds (.runOnce (.text "beat") failingTask) restingWorld isPlain_failingTask empty
  obtain ⟨⟨written, added, carries⟩, restored⟩ := carried trail tells
  have reaches : Reaches {} nestedCalls (zoned "a" ++ [("zone", .text "b")]) _ _ :=
    .inside (.inside (.here _ _ _))
  obtain ⟨released, calls⟩ := sessions {} nestedCalls
  refine ⟨by rfl, ⟨trail, written, tells, added, carries⟩, restored, ?_, ?_, released, ?_⟩
  · exact ⟨refreshing, tellsRefresh, refreshes _ _ _ _ _ rfl tellsRefresh⟩
  · exact ⟨running, tellsRun, runs _ _ _ _ tellsRun⟩
  · exact ⟨_, _, reaches, calls _ _ _ _ reaches rfl plainScope empty⟩

/-- The names of the bookkeeping are neither reserved nor secret, and a field of a block under
such a name is not in the record of an event of the block. -/
theorem bookkeeping_fields_of_a_block_are_not_written :
    (∀ name ∈ internalNames, name ∉ reservedNames ∧ isSecret name = false ∧
      ((noted "x" []).within [(name, .int 0)]).entries.lookup name = none) ∧
      Session.shown {} [.context [("region", .text "eu"), (askingField, .int 0)]
          [.log (noted "x" []) []]] =
        [[.dict [("event", .text "x"), ("level", .text "info"), ("logger", .text "discovery_sdk.t"),
          ("region", .text "eu")]]] :=
  ⟨by decide, by rfl⟩

end DiscoveryClient.Log
