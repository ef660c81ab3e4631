import DiscoveryClient.Proofs.Identity.Closed

/-!
# The course of a refresh

From its start to its end, a refresh asks its surroundings, looks at the coordinator, applies
what it has found, and notes in the journal what has come of it.  Its course tells of every
question the world in which it was put, and of every event that is the refresh's own.  What
else happens meanwhile is done by the surroundings.
-/

namespace DiscoveryClient.Identity

open Log

variable {σ : Type}

/-- What a refresh asks of its surroundings, whether there is metadata apart. -/
inductive Question where
  | hostOrder
  | ipOrder
  | read (field : MetadataField)
  | hostName
  | ipAddress
  | now
  | notify (listener : ListenerId) (change : Change)

def Question.Answer : Question → Type
  | .hostOrder | .ipOrder => List String
  | .read _ | .hostName | .ipAddress | .now => Value
  | .notify .. => Unit

def Surroundings.ask (surroundings : Surroundings σ) :
    (question : Question) → Act (Site σ) (Except Failure question.Answer)
  | .hostOrder => surroundings.hostOrder
  | .ipOrder => surroundings.ipOrder
  | .read field => surroundings.read field
  | .hostName => surroundings.hostName
  | .ipAddress => surroundings.ipAddress
  | .now => surroundings.now
  | .notify listener change => surroundings.notify listener change

/-- One thing that a refresh does. -/
inductive Beat (σ : Type) where
  /-- It asks whether there is metadata. -/
  | checked (world : World (Site σ))
  | asked (question : Question) (world : World (Site σ))
  | logged (event : Event)

/-- The world in which the surroundings are asked. -/
def Beat.world? : Beat σ → Option (World (Site σ))
  | .checked world | .asked _ world => some world
  | .logged _ => none

/-- The beats of an action in order.  No action that has a course starts a refresh or ends one,
unless the surroundings do. -/
inductive Course (surroundings : Surroundings σ) :
    {α : Type} → Act (Site σ) α → World (Site σ) → List (Beat σ) → Prop where
  | pure {α : Type} (value : α) (world : World (Site σ)) :
      Course surroundings (Pure.pure value) world []
  | bind {α β : Type} {first : Act (Site σ) α} {next : α → Act (Site σ) β}
      {world : World (Site σ)} {firsts lasts : List (Beat σ)} :
      Course surroundings first world firsts →
      Course surroundings (next (first world).1) (first world).2 lasts →
      Course surroundings (first >>= next) world (firsts ++ lasts)
  | check (world : World (Site σ)) :
      Course surroundings surroundings.hasMetadata world [.checked world]
  | ask (question : Question) (world : World (Site σ)) :
      Course surroundings (surroundings.ask question) world [.asked question world]
  | log (event : Event) (world : World (Site σ)) :
      Course surroundings (Act.log event) world [.logged event]
  | look (world : World (Site σ)) : Course surroundings coordinator world []
  | count (count : Count) (world : World (Site σ)) :
      Course surroundings (Act.count count) world []
  | gauge (lastChange : Double) (world : World (Site σ)) :
      Course surroundings (Act.writeJournal fun journal => { journal with lastChange }) world []
  | apply (sequence : Nat) (found : Candidates) (now : Except Failure Value)
      (world : World (Site σ)) :
      Course surroundings (atomically fun coordinator => coordinator.apply sequence found now)
        world []

/-- An action has a course wherever it is run. -/
def HasCourse (surroundings : Surroundings σ) {α : Type} (act : Act (Site σ) α) : Prop :=
  ∀ world, ∃ beats, Course surroundings act world beats

namespace HasCourse

variable {surroundings : Surroundings σ} {α β : Type}

theorem pure (value : α) : HasCourse surroundings (Pure.pure value) :=
  fun world => ⟨_, .pure value world⟩

theorem bind {first : Act (Site σ) α} {next : α → Act (Site σ) β}
    (firstHas : HasCourse surroundings first)
    (nextHas : ∀ value, HasCourse surroundings (next value)) :
    HasCourse surroundings (first >>= next) := by
  intro world
  obtain ⟨firsts, before⟩ := firstHas world
  obtain ⟨lasts, after⟩ := nextHas (first world).1 (first world).2
  exact ⟨firsts ++ lasts, .bind before after⟩

theorem ask (question : Question) : HasCourse surroundings (surroundings.ask question) :=
  fun world => ⟨_, .ask question world⟩

theorem log (event : Event) : HasCourse surroundings (Act.log event) :=
  fun world => ⟨_, .log event world⟩

theorem count (count : Count) : HasCourse surroundings (Act.count count) :=
  fun world => ⟨_, .count count world⟩

theorem closed (surroundings : Surroundings σ) :
    Closed fun {_} (act : Act (Site σ) _) => HasCourse surroundings act where
  pure := pure
  bind := bind
  log := log
  coordinator := fun world => ⟨_, .look world⟩

theorem resolvesBy (surroundings : Surroundings σ) :
    ResolvesBy (fun {_} act => HasCourse surroundings act) surroundings where
  hasMetadata := fun world => ⟨_, .check world⟩
  hostOrder := ask .hostOrder
  ipOrder := ask .ipOrder
  read field := ask (.read field)
  hostName := ask .hostName
  ipAddress := ask .ipAddress

theorem applyCandidates (sequence : Nat) (found : Candidates) :
    HasCourse surroundings (applyCandidates surroundings sequence found) := by
  have applies (now : Except Failure Value) : HasCourse surroundings
      (atomically fun coordinator => coordinator.apply sequence found now) :=
    fun world => ⟨_, .apply sequence found now world⟩
  refine .bind (closed surroundings).coordinator ?_
  intro before
  dsimp only
  split
  · exact .bind (ask .now) applies
  · exact .bind (.pure _) applies

theorem recordChange (change : Change) : HasCourse surroundings (recordChange change) := by
  refine .bind (count _) ?_
  intro _
  split
  · exact .pure _
  · exact .bind (fun world => ⟨_, .gauge _ world⟩) fun _ => .bind (log _) fun _ => .pure _

end HasCourse

/-- Whatever its surroundings do, a refresh has a course. -/
theorem refreshAs_hasCourse (surroundings : Surroundings σ) (sequence : Nat) :
    HasCourse surroundings (refreshAs surroundings sequence) := by
  have closed := HasCourse.closed surroundings
  refine .bind (closed.resolveCandidates (HasCourse.resolvesBy surroundings)) ?_
  intro resolved
  cases resolved with
  | error failure => exact .bind (.count _) fun _ => .bind (.log _) fun _ => .pure _
  | ok found =>
      refine closed.andThen (.applyCandidates sequence found) ?_
      intro applied
      cases applied with
      | none => exact .bind (.count _) fun _ => .bind (.log _) fun _ => .pure _
      | some change =>
          refine closed.andThen (.recordChange change) fun _ => ?_
          exact .bind (closed.notifyAll fun listener => .ask (.notify listener change))
            fun _ => .pure _

/-! ## What is true all along -/

/-- A property of the coordinator that is there at the start of an action, and that the
surroundings and applications keep, is there whenever the surroundings are asked. -/
theorem Course.throughout {surroundings : Surroundings σ} {α : Type} {act : Act (Site σ) α}
    {world : World (Site σ)} {beats : List (Beat σ)} {property : Coordinator → Prop}
    (course : Course surroundings act world beats)
    (checks : ∀ world : World (Site σ), property world.state.coordinator →
      property (surroundings.hasMetadata world).2.state.coordinator)
    (asks : ∀ question (world : World (Site σ)), property world.state.coordinator →
      property (surroundings.ask question world).2.state.coordinator)
    (applies : ∀ coordinator sequence found now, property coordinator →
      property (Coordinator.apply coordinator sequence found now).2)
    (here : property world.state.coordinator) :
    (∀ beat ∈ beats, ∀ reached, beat.world? = some reached →
      property reached.state.coordinator) ∧
    property (act world).2.state.coordinator := by
  induction course with
  | pure value world => exact ⟨by simp, here⟩
  | @bind _ _ first next world firsts lasts _ _ first_kept last_kept =>
      obtain ⟨earlier, middle⟩ := first_kept here
      obtain ⟨later, last⟩ := last_kept middle
      refine ⟨?_, last⟩
      intro beat member
      rcases List.mem_append.mp member with isFirst | isLast
      · exact earlier beat isFirst
      · exact later beat isLast
  | check world => exact ⟨by simpa [Beat.world?] using here, checks world here⟩
  | ask question world => exact ⟨by simpa [Beat.world?] using here, asks question world here⟩
  | log event world => exact ⟨by simp [Beat.world?], here⟩
  | look world => exact ⟨by simp, here⟩
  | count count world => exact ⟨by simp, here⟩
  | gauge lastChange world => exact ⟨by simp, here⟩
  | apply sequence found now world => exact ⟨by simp, applies _ _ _ _ here⟩

end DiscoveryClient.Identity
