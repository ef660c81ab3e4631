import DiscoveryClient.Proofs.Identity.Course
import DiscoveryClient.Proofs.Log.Scope
import DiscoveryClient.Schedule.Refresher

/-!
# Deeds and their trails

A deed is a tree of blocks with fields, refreshes of an identity, runs of a periodic task and
log events, any of which may end by a failure.  What a refresh asks of its surroundings may be
answered by further deeds.

The trail of a deed is read off the tree: every event has the blocks around it for its scope, a
refresh and a run being blocks of a field of their own.  In a refresh, its own events stand
among those of the deeds that are done for its questions, in the order of its course.  It is the
trail that the deed leaves as an action, however deep its refreshes are nested.
-/

namespace DiscoveryClient.Log

open Identity

variable {σ α β : Type}

/-! ## Trails of courses -/

/-- The trail of one thing that a refresh does, by the trails of what is done for its
questions. -/
def trailOf (trails : Question → World (Site σ) → List Enclosed) : Beat σ → List Enclosed
  | .checked _ => []
  | .asked question world => trails question world
  | .logged event => [{ own := event }]

/-- An action leaves the trails of the questions in its course, with its own events between. -/
theorem leaves_of_course {surroundings : Surroundings σ} {act : Act (Site σ) α}
    {world : World (Site σ)} {beats : List (Beat σ)}
    {trails : Question → World (Site σ) → List Enclosed}
    (course : Course surroundings act world beats)
    (checks : ∀ world, Leaves surroundings.hasMetadata world [])
    (asks : ∀ question asked, .asked question asked ∈ beats →
      Leaves (surroundings.ask question) asked (trails question asked)) :
    Leaves act world (beats.flatMap (trailOf trails)) := by
  induction course with
  | pure value world => exact .silent rfl rfl
  | bind _ _ before after =>
      rw [List.flatMap_append]
      refine .bind (before ?_) (after ?_)
      · intro question asked member
        exact asks question asked (List.mem_append_left _ member)
      · intro question asked member
        exact asks question asked (List.mem_append_right _ member)
  | check world => exact checks world
  | ask question world => simpa [trailOf] using asks question world (by simp)
  | log event world => exact .log event world
  | look world => exact .silent rfl rfl
  | count count world => exact .silent rfl rfl
  | gauge lastChange world => exact .silent rfl rfl
  | apply sequence found now world => exact .silent rfl rfl

/-! ## Deeds -/

structure Answers (σ : Type) where
  hasMetadata : Site σ → Bool
  hostOrder : Site σ → Except Failure (List String)
  ipOrder : Site σ → Except Failure (List String)
  read : MetadataField → Site σ → Except Failure Value
  hostName : Site σ → Except Failure Value
  ipAddress : Site σ → Except Failure Value
  now : Site σ → Except Failure Value

/-- Answer a question after something else has been done, unless that fails. -/
def answerAfter (meanwhile : Act (Site σ) (Except Failure Unit))
    (answer : Site σ → Except Failure α) : Act (Site σ) (Except Failure α) :=
  andThen meanwhile fun () => return answer (← Act.state)

/-- Surroundings that do something of their own before each answer. -/
def Answers.surroundings (answers : Answers σ) (center : DataCenterKind)
    (meanwhile : Question → Act (Site σ) (Except Failure Unit)) : Surroundings σ where
  dataCenter := center
  hasMetadata := return answers.hasMetadata (← Act.state)
  hostOrder := answerAfter (meanwhile .hostOrder) answers.hostOrder
  ipOrder := answerAfter (meanwhile .ipOrder) answers.ipOrder
  read field := answerAfter (meanwhile (.read field)) (answers.read field)
  hostName := answerAfter (meanwhile .hostName) answers.hostName
  ipAddress := answerAfter (meanwhile .ipAddress) answers.ipAddress
  now := answerAfter (meanwhile .now) answers.now
  notify listener change := meanwhile (.notify listener change)

/-- A question is answered with the trail of what is done before. -/
theorem Answers.leaves_ask (answers : Answers σ) (center : DataCenterKind)
    {meanwhile : Question → Act (Site σ) (Except Failure Unit)} {question : Question}
    {world : World (Site σ)} {trail : List Enclosed}
    (done : Leaves (meanwhile question) world trail) :
    Leaves ((answers.surroundings center meanwhile).ask question) world trail := by
  have answered {β : Type} (answer : Site σ → Except Failure β) :
      Leaves (answerAfter (meanwhile question) answer) world trail := by
    refine done.before_silent ?_
    cases (meanwhile question world).1 with
    | error failure => exact .silent rfl rfl
    | ok _ => exact .silent rfl rfl
  cases question with
  | hostOrder => exact answered answers.hostOrder
  | ipOrder => exact answered answers.ipOrder
  | read field => exact answered (answers.read field)
  | hostName => exact answered answers.hostName
  | ipAddress => exact answered answers.ipAddress
  | now => exact answered answers.now
  | notify listener change => exact done

/-- A tree of blocks, refreshes, runs of a task and log events. -/
inductive Deed (σ : Type) where
  /-- Nothing more, or a failure. -/
  | done (outcome : Except Failure Unit)
  /-- Go on with the outcome of another deed, failure or not. -/
  | andThen (first : Deed σ) (next : Except Failure Unit → Deed σ)
  | choose (next : Site σ → Deed σ)
  | change (step : Site σ → Site σ)
  | log (event : Event)
  | block (fields : Context) (body : Deed σ)
  | runOnce (name : Value) (task : Deed σ)
  /-- A refresh whose surroundings do other deeds before they answer. -/
  | refresh (center : DataCenterKind) (answers : Answers σ) (meanwhile : Question → Deed σ)

namespace Deed

/-- Two deeds in turn, the second unless the first fails. -/
def both (first second : Deed σ) : Deed σ :=
  .andThen first fun
    | .ok () => second
    | .error failure => .done (.error failure)

/-- A deed whose failure is handled. -/
def attempt (body : Deed σ) (handler : Failure → Deed σ) : Deed σ :=
  .andThen body fun
    | .ok () => .done (.ok ())
    | .error failure => handler failure

def act : Deed σ → Act (Site σ) (Except Failure Unit)
  | done outcome => return outcome
  | andThen first next => do
      let outcome ← first.act
      (next outcome).act
  | choose next => do
      let site ← Act.state
      (next site).act
  | change step => do
      Act.modifyState step
      return .ok ()
  | log event => do
      Act.log event
      return .ok ()
  | block fields body => Act.withFields fields body.act
  | runOnce name task => do
      Schedule.runOnce name task.act
      return .ok ()
  | refresh center answers meanwhile =>
      Identity.andThen
        (Identity.refresh (answers.surroundings center fun question => (meanwhile question).act))
        fun _ => return .ok ()

/-- All blocks of a deed have plain fields. -/
def IsPlain : Deed σ → Prop
  | done _ | change _ | log _ => True
  | andThen first next => first.IsPlain ∧ ∀ outcome, (next outcome).IsPlain
  | choose next => ∀ site, (next site).IsPlain
  | block fields body => Context.IsPlain fields ∧ body.IsPlain
  | runOnce _ task => task.IsPlain
  | refresh _ _ meanwhile => ∀ question, (meanwhile question).IsPlain

/-- What a run logs itself: the failure of its task. -/
def ofFailure (name : Value) : Except Failure Unit → List Enclosed
  | .ok () => []
  | .error failure => [{ own := Schedule.taskFailed name failure }]

/-- The world in which a refresh is given its number, and the number. -/
def starting (world : World (Site σ)) : Nat × World (Site σ) :=
  atomically Coordinator.start world

/-- What a refresh asks of, when deeds are done for its questions. -/
def surroundings (center : DataCenterKind) (answers : Answers σ) (meanwhile : Question → Deed σ) :
    Surroundings σ :=
  answers.surroundings center fun question => (meanwhile question).act

/-- The trail of a deed in a world.  Each block adds itself to the scopes of all that is logged
inside, and so do a run and a refresh of a data center with metadata.  What is logged inside a
refresh are the trails of the deeds that are done for its questions, each in the world in which
the question is put, and its own events between them. -/
inductive Tells : Deed σ → World (Site σ) → List Enclosed → Prop
  | done (outcome : Except Failure Unit) (world : World (Site σ)) : Tells (.done outcome) world []
  | andThen {first : Deed σ} {next : Except Failure Unit → Deed σ} {world : World (Site σ)}
      {firsts lasts : List Enclosed} (before : Tells first world firsts)
      (after : Tells (next (first.act world).1) (first.act world).2 lasts) :
      Tells (.andThen first next) world (firsts ++ lasts)
  | choose {next : Site σ → Deed σ} {world : World (Site σ)} {trail : List Enclosed}
      (chosen : Tells (next world.state) world trail) : Tells (.choose next) world trail
  | change (step : Site σ → Site σ) (world : World (Site σ)) : Tells (.change step) world []
  | log (event : Event) (world : World (Site σ)) : Tells (.log event) world [{ own := event }]
  | block {fields : Context} {body : Deed σ} {world : World (Site σ)} {inside : List Enclosed}
      (within : Tells body (entering fields world) inside) :
      Tells (.block fields body) world (inside.map (.under fields))
  | runOnce {name : Value} {task : Deed σ} {world : World (Site σ)} {inside : List Enclosed}
      (within : Tells task (entering (Schedule.context name) world) inside) :
      Tells (.runOnce name task) world
        ((inside ++ ofFailure name (task.act (entering (Schedule.context name) world)).1).map
          (.under (Schedule.context name)))
  | skipped {center : DataCenterKind} {answers : Answers σ} {meanwhile : Question → Deed σ}
      {world : World (Site σ)} (lacks : answers.hasMetadata world.state = false) :
      Tells (.refresh center answers meanwhile) world []
  | refreshed {center : DataCenterKind} {answers : Answers σ} {meanwhile : Question → Deed σ}
      {world : World (Site σ)} {beats : List (Beat σ)}
      {trails : Question → World (Site σ) → List Enclosed}
      (has : answers.hasMetadata world.state = true)
      (course : Course (surroundings center answers meanwhile)
        (refreshAs (surroundings center answers meanwhile) (starting world).1)
        (entering (refreshContext center) (starting world).2) beats)
      (told : ∀ question asked, .asked question asked ∈ beats →
        Tells (meanwhile question) asked (trails question asked)) :
      Tells (.refresh center answers meanwhile) world
        ((beats.flatMap (trailOf trails)).map (.under (refreshContext center)))

theorem isPlain_refresher (name : Value) : (Schedule.context name).IsPlain := by
  have named : (Schedule.context name).keys = ["refresher"] := rfl
  unfold Context.IsPlain
  rw [named]
  decide

theorem isPlain_dataCenter (center : DataCenterKind) : (refreshContext center).IsPlain := by
  have named : (refreshContext center).keys = ["data_center"] := rfl
  unfold Context.IsPlain
  rw [named]
  decide

theorem leaves_runOnce {name : Value} {task : Act (Site σ) (Except Failure Unit)}
    {world : World (Site σ)} {inside : List Enclosed}
    (within : Leaves task (entering (Schedule.context name) world) inside) :
    Leaves (Schedule.runOnce name task) world
      ((inside ++ ofFailure name (task (entering (Schedule.context name) world)).1).map
        (.under (Schedule.context name))) := by
  refine .block (isPlain_refresher name) (.bind within ?_)
  cases (task (entering (Schedule.context name) world)).1 with
  | ok _ => exact .silent rfl rfl
  | error failure => exact .log _ _

theorem leaves_skipped {surroundings : Surroundings σ} {world : World (Site σ)}
    {asked : List Enclosed} (ask : Leaves surroundings.hasMetadata world asked)
    (lacks : (surroundings.hasMetadata world).1 = false) :
    Leaves (Identity.refresh surroundings) world asked := by
  refine .before_silent ask ?_
  rw [lacks]
  exact .silent rfl rfl

theorem leaves_refresh {surroundings : Surroundings σ} {world : World (Site σ)}
    {asked inside : List Enclosed} (ask : Leaves surroundings.hasMetadata world asked)
    (has : (surroundings.hasMetadata world).1 = true)
    (within : Leaves (refreshAs surroundings (starting (surroundings.hasMetadata world).2).1)
      (entering (refreshContext surroundings.dataCenter)
        (starting (surroundings.hasMetadata world).2).2) inside) :
    Leaves (Identity.refresh surroundings) world
      (asked ++ inside.map (.under (refreshContext surroundings.dataCenter))) := by
  refine .bind ask ?_
  rw [has]
  refine .after_silent (.silent rfl rfl) ?_
  refine .before_silent (.block (isPlain_dataCenter _) within) ?_
  refine .after_silent (.silent rfl rfl) ?_
  -- what is left counts the outcome of the refresh, if it has one
  cases (Act.withFields (refreshContext surroundings.dataCenter) _ _).1 with
  | error failure => exact .silent rfl rfl
  | ok outcome => exact .silent rfl rfl

/-- The trail that is read off a deed is left by its action. -/
theorem Tells.leaves {deed : Deed σ} {world : World (Site σ)} {trail : List Enclosed}
    (tells : Tells deed world trail) (plain : deed.IsPlain) : Leaves deed.act world trail := by
  have finished {α : Type} (result : Except Failure α) (world : World (Site σ)) :
      Leaves (Identity.andThen (return result) fun _ => return .ok ()) world [] := by
    cases result <;> exact .silent rfl rfl
  induction tells with
  | done outcome world => exact .silent rfl rfl
  | andThen _ _ before after => exact .bind (before plain.1) (after (plain.2 _))
  | @choose next world trail _ chosen =>
      have looked : Leaves (Act.state : Act (Site σ) (Site σ)) world [] := .silent rfl rfl
      exact looked.after_silent (chosen (plain world.state))
  | change step world => exact .silent rfl rfl
  | log event world => exact (Leaves.log event world).before_silent (.silent rfl rfl)
  | block _ body => exact .block plain.1 (body plain.2)
  | runOnce _ task => exact (leaves_runOnce (task plain)).before_silent (.silent rfl rfl)
  | skipped lacks =>
      refine Leaves.before_silent (leaves_skipped (.silent rfl rfl) lacks) ?_
      exact finished _ _
  | @refreshed center answers meanwhile world beats trails has course _ told =>
      have within : Leaves (refreshAs (surroundings center answers meanwhile) (starting world).1)
          (entering (refreshContext center) (starting world).2)
          (beats.flatMap (trailOf trails)) := by
        refine leaves_of_course course (fun _ => .silent rfl rfl) ?_
        intro question asked member
        exact answers.leaves_ask center (told question asked member (plain question))
      have refresh := leaves_refresh (.silent rfl rfl) has within
      exact refresh.before_silent (finished _ _)

theorem exists_tells {deed : Deed σ} (plain : deed.IsPlain) (world : World (Site σ)) :
    ∃ trail, Tells deed world trail := by
  induction deed generalizing world with
  | done outcome => exact ⟨_, .done outcome world⟩
  | andThen first next first_tells next_tells =>
      obtain ⟨firsts, before⟩ := first_tells plain.1 world
      obtain ⟨lasts, after⟩ := next_tells _ (plain.2 _) (first.act world).2
      exact ⟨_, .andThen before after⟩
  | choose next next_tells =>
      obtain ⟨trail, chosen⟩ := next_tells world.state (plain world.state) world
      exact ⟨_, .choose chosen⟩
  | change step => exact ⟨_, .change step world⟩
  | log event => exact ⟨_, .log event world⟩
  | block fields body body_tells =>
      obtain ⟨inside, within⟩ := body_tells plain.2 (entering fields world)
      exact ⟨_, .block within⟩
  | runOnce name task task_tells =>
      obtain ⟨inside, within⟩ := task_tells plain (entering (Schedule.context name) world)
      exact ⟨_, .runOnce within⟩
  | refresh center answers meanwhile meanwhile_tells =>
      by_cases has : answers.hasMetadata world.state = true
      · choose trails tells using fun question asked =>
          meanwhile_tells question (plain question) asked
        obtain ⟨beats, course⟩ := refreshAs_hasCourse (surroundings center answers meanwhile)
          (starting world).1 (entering (refreshContext center) (starting world).2)
        exact ⟨_, .refreshed has course fun question asked _ => tells question asked⟩
      · exact ⟨_, .skipped (by simpa using has)⟩

theorem isPlain_both {first second : Deed σ} (firstPlain : first.IsPlain)
    (secondPlain : second.IsPlain) : (both first second).IsPlain :=
  ⟨firstPlain, fun
    | .ok () => secondPlain
    | .error _ => trivial⟩

theorem isPlain_attempt {body : Deed σ} {handler : Failure → Deed σ} (bodyPlain : body.IsPlain)
    (handlerPlain : ∀ failure, (handler failure).IsPlain) : (attempt body handler).IsPlain :=
  ⟨bodyPlain, fun
    | .ok () => trivial
    | .error failure => handlerPlain failure⟩

end Deed

end DiscoveryClient.Log
