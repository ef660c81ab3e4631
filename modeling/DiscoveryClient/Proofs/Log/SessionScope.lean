import DiscoveryClient.Proofs.Log.Scope
import DiscoveryClient.Proofs.Log.Secrecy

/-!
# Scopes in sessions

Where a session comes to a call, the fields of all the blocks around the call are bound, those
of an inner block in place of those of an outer one.  A call writes inside them what it writes
with nothing bound, each event with those fields.
-/

namespace DiscoveryClient.Log

/-- A step is reached with the fields of the blocks around it bound, over those that the session
had bound before. -/
theorem Reaches.binds {session reached : Session} {step : SessionStep} {steps : List SessionStep}
    {scope : List Field} (reaches : Reaches session steps scope reached step) :
    reached.context.Binds [Mapping.ofList scope, session.context] := by
  induction reaches with
  | here session first rest =>
      intro name
      rw [innermost?_cons, innermost?_cons, innermost?_nil, Option.or_none]
      rfl
  | @later session reached first step rest scope later induction =>
      intro name
      rw [induction name]
      simp only [innermost?_cons, Session.get?_step]
  | @inside session reached step body rest fields scope inside induction =>
      intro name
      rw [induction name]
      simp only [innermost?_cons, Context.get?_enter, Mapping.get?_ofList_append, Option.or_assoc]

def Session.bare (session : Session) : Session :=
  { session with context := .empty }

/-- What a session shows of some events, each with what is bound. -/
def Session.shows (session : Session) (events : List Event) : List Line :=
  events.flatMap fun event => session.output.write (event.within session.context.entries)

/-- The sessions write the same events, or none. -/
def WriteAlike (session other next nextOther : Session) : Prop :=
  ∃ events : List Event,
    next.lines = session.lines ++ session.shows events ∧
      nextOther.lines = other.lines ++ other.shows events

theorem WriteAlike.nothing (session other : Session) : WriteAlike session other session other :=
  ⟨[], by simp [Session.shows], by simp [Session.shows]⟩

theorem WriteAlike.write (session other : Session) (event : Event) :
    WriteAlike session other (session.write event) (other.write event) :=
  ⟨[event], by simp [Session.shows, Session.write], by simp [Session.shows, Session.write]⟩

/-- Of what is bound, only the field in place of a record decides whether a call writes. -/
theorem Session.logEvent_writeAlike (session : Session) (plain : session.context.IsPlain)
    (event : Event) (arguments : List Value) :
    WriteAlike session session.bare (session.logEvent event arguments).1
      (session.bare.logEvent event arguments).1 := by
  have record : session.bare.bound? event recordName = session.bound? event recordName := by
    unfold bound?
    rw [plain.get?_eq_none (by decide)]
    rfl
  have output : session.bare.output = session.output := rfl
  unfold logEvent
  simp only [record, output]
  split
  · exact .nothing session session.bare
  · split
    · exact .nothing session session.bare
    · split
      · exact .nothing session session.bare
      · split
        · exact .nothing session session.bare
        · split
          · exact .nothing session session.bare
          · exact .write session session.bare _

/-- A call writes the same events whatever plain fields are bound. -/
theorem Session.step_writeAlike (session : Session) (plain : session.context.IsPlain)
    {call : SessionStep} {own : List Field} (given : call.given? = some own) :
    WriteAlike session session.bare (session.step call).1 (session.bare.step call).1 := by
  cases call with
  | log event arguments => exact session.logEvent_writeAlike plain event arguments
  | caught failure logger message fields => exact session.logEvent_writeAlike plain _ []
  | plain level logger message arguments =>
      simp only [Session.step]
      split
      · exact .nothing session session.bare
      · exact .write session session.bare _
  | configure | context | silent => simp [SessionStep.given?] at given

/-- A call shows what it shows with nothing bound, each event with the fields of the blocks
around the call. -/
theorem Reaches.carries {session reached : Session} {call : SessionStep}
    {steps : List SessionStep} {scope own : List Field}
    (reaches : Reaches session steps scope reached call) (given : call.given? = some own)
    (plain : Context.IsPlain (Mapping.ofList scope)) (plainBefore : session.context.IsPlain) :
    ∃ alone written : List Event,
      (reached.bare.step call).1.lines = reached.lines ++ alone.flatMap reached.output.write ∧
        (reached.step call).1.lines = reached.lines ++ written.flatMap reached.output.write ∧
        List.Forall₂ (Carries [Mapping.ofList scope, session.context]) alone written := by
  have plainScope : ∀ fields ∈ [Mapping.ofList scope, session.context], Context.IsPlain fields := by
    simpa using ⟨plain, plainBefore⟩
  have binds := reaches.binds
  obtain ⟨events, inside, alone⟩ := reached.step_writeAlike (binds.isPlain plainScope) given
  refine ⟨events, events.map fun event => event.within reached.context.entries, ?_, ?_, ?_⟩
  · rw [alone]
    simp [Session.shows, Session.bare, Mapping.empty]
  · rw [inside, List.flatMap_map]
    rfl
  · rw [List.forall₂_map_right_iff]
    exact List.forall₂_same.mpr fun event _ => binds.carries plainScope event

end DiscoveryClient.Log
