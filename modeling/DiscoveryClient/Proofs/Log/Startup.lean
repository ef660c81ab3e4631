import DiscoveryClient.Proofs.Log.Secrecy
import DiscoveryClient.Proofs.Settings.Bootstrap

/-!
# Coming up

The settings of a process decide how its log is written, and settings that are invalid must not
keep the log from being written at all.  Whatever a session has gone through, a configuration
by the settings of the process comes up with one handler: on these settings if they are valid,
and else on the built-in ones.

There is one exception.  If the settings file cannot be read as text, and no settings are kept,
both the settings and the configuration fail in a way that is not taken for a matter of
configuration.
-/

namespace DiscoveryClient.Log

/-! ## Handlers -/

/-- There is no handler but that of the latest configuration. -/
def Handlers.AreOwn (handlers : Handlers) : Prop :=
  handlers.installed = handlers.own.toList

theorem Handlers.AreOwn.others {handlers : Handlers} (own : handlers.AreOwn) :
    handlers.others = [] := by
  unfold Handlers.others
  cases mine : handlers.own with
  | none => simpa [AreOwn, mine] using own
  | some handler =>
      have installed : handlers.installed = [handler] := by simpa [AreOwn, mine] using own
      simp [installed]

theorem Handlers.AreOwn.installed {handlers : Handlers} (own : handlers.AreOwn) (output : Output) :
    (handlers.install output).installed = [⟨handlers.made, output.isConsole⟩] := by
  simp only [Handlers.install, own.others, List.nil_append]

/-! ## Sessions -/

/-- What the steps of a session keep true of it. -/
structure Session.Sound (session : Session) : Prop where
  handlers : session.handlers.AreOwn
  keepsValid : session.toBootstrap.KeepsValid

namespace Session.Sound

variable {session : Session}

theorem begins (environment : Mapping String) (tree : FileTree) :
    Session.Sound { environment, tree } :=
  ⟨rfl, fun _ kept => nomatch kept⟩

theorem bootstrap (sound : session.Sound) (step : BootstrapStep) :
    Session.Sound { session with toBootstrap := (session.toBootstrap.step step).1 } :=
  ⟨sound.handlers, sound.keepsValid.step step⟩

theorem outputOf {bootstrap : Bootstrap} (keeps : bootstrap.KeepsValid)
    (configuration : Configuration) :
    (Session.outputOf bootstrap configuration).2.KeepsValid := by
  cases configuration with
  | process =>
      change bootstrap.settingsOrInitial.2.KeepsValid
      rw [Bootstrap.settingsOrInitial_snd]
      exact keeps.settings
  | arguments values => exact keeps
  | unchecked level format =>
      simp only [Session.outputOf]
      split <;> exact keeps

theorem configure (sound : session.Sound) (configuration : Configuration) :
    (session.step (.configure configuration)).1.Sound := by
  have keeps := outputOf sound.keepsValid configuration
  simp only [Session.step]
  cases asked : Session.outputOf session.toBootstrap configuration with
  | mk answer bootstrap =>
      rw [asked] at keeps
      cases answer with
      | error trouble => exact ⟨sound.handlers, keeps⟩
      | ok output => exact ⟨sound.handlers.installed output, keeps⟩

theorem logEvent (sound : session.Sound) (event : Event) (arguments : List Value) :
    (session.logEvent event arguments).1.Sound := by
  rcases session.logEvent_cases event arguments with same | ⟨name, written⟩
  · rwa [same]
  · rw [written]
    exact ⟨sound.handlers, sound.keepsValid⟩

-- The body of a block is a list of steps again, so steps and lists go by one induction.
mutual

theorem step {session : Session} (sound : session.Sound) (step : SessionStep) :
    (session.step step).1.Sound := by
  cases step with
  | configure configuration => exact sound.configure configuration
  | log event arguments => exact sound.logEvent event arguments
  | caught failure logger message fields => exact sound.logEvent _ []
  | plain level logger message arguments =>
      simp only [Session.step]
      split
      · exact sound
      · exact ⟨sound.handlers, sound.keepsValid⟩
  | context fields body =>
      have entered : Session.Sound
          { session with context := Context.enter (Mapping.ofList fields) session.context } :=
        ⟨sound.handlers, sound.keepsValid⟩
      have inside := Session.Sound.steps entered body
      simp only [Session.step]
      exact ⟨inside.handlers, inside.keepsValid⟩
  | silent failure => cases failure <;> exact sound

theorem steps {session : Session} (sound : session.Sound) (steps : List SessionStep) :
    (session.steps steps).1.Sound := by
  cases steps with
  | nil => exact sound
  | cons first rest =>
      rw [Session.steps_cons]
      split
      · exact Session.Sound.step sound first
      · exact Session.Sound.steps (Session.Sound.step sound first) rest

end

end Session.Sound

/-- The sessions of a process, whose variables and files may change at any time, and whose
settings may be asked for and dropped. -/
inductive Reachable : Session → Prop where
  | start (environment : Mapping String) (tree : FileTree) : Reachable { environment, tree }
  | bootstrap {session : Session} (step : BootstrapStep) (reachable : Reachable session) :
      Reachable { session with toBootstrap := (session.toBootstrap.step step).1 }
  | session {session : Session} (step : SessionStep) (reachable : Reachable session) :
      Reachable (session.step step).1

theorem Reachable.sound {session : Session} (reachable : Reachable session) : session.Sound := by
  induction reachable with
  | start environment tree => exact .begins environment tree
  | bootstrap step reachable sound => exact sound.bootstrap step
  | session step reachable sound => exact sound.step step

/-! ## Coming up -/

/-- A configuration by the settings of the process succeeds: the session writes by the output,
through one handler, which does not hand the events on. -/
def Session.ComesUp (session : Session) (output : Output) : Prop :=
  ∃ next : Session,
    session.step (.configure .process) =
      (next, .ok (.configured output.threshold next.handlers)) ∧
    next.toBootstrap = session.toBootstrap.settings.2 ∧
    next.output = output ∧
    next.handlers.installed = [⟨session.handlers.made, output.isConsole⟩] ∧
    next.handlers.propagates = false

section

variable {session : Session}

theorem Session.comesUp (own : session.handlers.AreOwn) {settings : Settings}
    (given : session.toBootstrap.settingsOrInitial.1 = .ok settings) :
    session.ComesUp (.ofSettings settings) := by
  have asked : Session.outputOf session.toBootstrap .process =
      (.ok (.ofSettings settings), session.toBootstrap.settings.2) := by
    simp only [Session.outputOf, given, Bootstrap.settingsOrInitial_snd]
    rfl
  refine ⟨{ session with toBootstrap := session.toBootstrap.settings.2 }.install
    (.ofSettings settings), ?_, rfl, rfl, own.installed _, rfl⟩
  simp only [Session.step, asked]

theorem Session.comesUp_of_ok (own : session.handlers.AreOwn) {object : SettingsObject}
    {next : Bootstrap} (given : session.toBootstrap.settings = (.ok object, next)) :
    session.ComesUp (.ofSettings object.settings) := by
  refine Session.comesUp own ?_
  simp only [Bootstrap.settingsOrInitial, given]

theorem Session.comesUp_of_reports (own : session.handlers.AreOwn) {failure : Failure}
    {raw : SettingField → Value} (reports : failure.Reports raw) {next : Bootstrap}
    (failed : session.toBootstrap.settings = (.error failure, next)) :
    session.ComesUp (.ofSettings .initial) := by
  refine Session.comesUp own ?_
  rw [Bootstrap.settingsOrInitial_of_error failed]
  exact reports.substitute

/-- A failure that nothing stands in for is that of the configuration. -/
theorem Session.configure_of_error {failure : Failure}
    (failed : session.toBootstrap.settingsOrInitial = (.error failure, session.toBootstrap)) :
    session.step (.configure .process) = (session, .error (.failure failure)) := by
  have asked : Session.outputOf session.toBootstrap .process =
      (.error (.failure failure), session.toBootstrap) := by
    simp only [Session.outputOf, failed]
    rfl
  simp only [Session.step, asked]

end

/-- Whatever a process has gone through and whatever its settings file holds, there are two
cases.  If no settings are kept and the file is no text, the settings and the configuration by
them fail with a failure of its decoding, and change nothing.  Otherwise there are valid settings,
or a failure of configuration with one message for each field that does not accept its value, and
the configuration comes up on these settings or on the built-in ones. -/
theorem startup_fails_only_on_undecodable_file {session : Session}
    (reachable : Reachable session) {content : Option (List UInt8)}
    (found : session.tree.readBytes SettingOptions.filePath = .ok (content.map .ok)) :
    (∀ bytes fault, content = some bytes → Text.Utf8.decode bytes = .error fault →
      session.cache.kept = none →
      session.settings = (.error (.undecodableFile fault.message), session.toBootstrap) ∧
      session.step (.configure .process) =
        (session, .error (.failure (.undecodableFile fault.message)))) ∧
    (session.cache.kept.isSome = true ∨
        (∀ bytes, content = some bytes → ∃ text, Text.Utf8.decode bytes = .ok text) →
      (∃ object, session.settings.1 = .ok object ∧ object.settings.IsValid ∧
        session.ComesUp (.ofSettings object.settings)) ∨
      ∃ failure text, session.settings.1 = .error failure ∧
        session.sources.FileReads text ∧ failure.Reports (session.sources.effective text) ∧
        session.ComesUp (.ofSettings .initial)) := by
  have sound := reachable.sound
  refine ⟨?_, ?_⟩
  · rintro bytes fault rfl undecodable unkept
    have failed := Bootstrap.settings_undecodable unkept found undecodable
    exact ⟨failed, session.configure_of_error (Bootstrap.settingsOrInitial_of_error failed)⟩
  · intro readable
    -- The file matters only if nothing is kept.
    cases kept : session.cache.kept with
    | some object =>
        have given := Bootstrap.settings_kept kept
        exact .inl ⟨object, congrArg Prod.fst given, sound.keepsValid object kept,
          session.comesUp_of_ok sound.handlers given⟩
    | none =>
        have decodes := readable.resolve_left (by simp [kept])
        obtain ⟨text, reads⟩ := @SettingSources.fileReads_of_decodes session.sources _ found decodes
        by_cases accepts : ∀ field : SettingField,
            field.Accepts (session.sources.effective text field)
        · obtain ⟨settings, takes, given⟩ := Bootstrap.settings_accepted kept reads accepts
          exact .inl ⟨_, congrArg Prod.fst given, fun field => (takes field).again,
            session.comesUp_of_ok sound.handlers given⟩
        · obtain ⟨failure, reports, failed⟩ := Bootstrap.settings_refused kept reads accepts
          exact .inr ⟨failure, text, congrArg Prod.fst failed, reads, reports,
            session.comesUp_of_reports sound.handlers reports failed⟩

/-- A settings file that is a single byte, which begins no character. -/
def strayByte : FileTree where
  nodes := [(⟨.working 0, "/.env"⟩, .file [0xFF])]

def strayFault : Text.DecodingFault :=
  { encoding := "utf-8", position := 0, lead := 0xFF, length := 1, flaw := .startByte }

/-- A process that has come up on its settings before its file becomes a stray byte. -/
def spoiled : Session :=
  let session := (({} : Session).step (.configure .process)).1
  { session with toBootstrap := (session.toBootstrap.step (.files strayByte)).1 }

/-- A process whose scope has no dot, and that has come up on a level and a format as they
were. -/
def careless : Session :=
  (({ environment := { entries := [("DISCOVERY_NAMESPACE", "client")] } } : Session).step
    (.configure (.unchecked none none))).1

theorem log_comes_up_again :
    (spoiled.settings.1 = .ok ⟨0, .initial⟩ ∧ spoiled.ComesUp (.ofSettings .initial)) ∧
      (careless.handlers.installed = [⟨0, false⟩] ∧
        ∃ failure raw, careless.settings.1 = .error failure ∧ failure.Reports raw ∧
          careless.ComesUp (.ofSettings .initial)) ∧
      let fresh : Session := { tree := strayByte }
      fresh.settings.1 = .error (.undecodableFile strayFault.message) ∧
        fresh.step (.configure .process) =
          (fresh, .error (.failure (.undecodableFile strayFault.message))) := by
  have cameUp : Reachable spoiled :=
    .bootstrap (.files strayByte) (.session (.configure .process) (.start .empty {}))
  have cameUpOtherwise : Reachable careless :=
    .session (.configure (.unchecked none none))
      (.start { entries := [("DISCOVERY_NAMESPACE", "client")] } {})
  obtain ⟨-, again⟩ := @startup_fails_only_on_undecodable_file spoiled cameUp (some [0xFF]) rfl
  obtain ⟨-, initial⟩ := @startup_fails_only_on_undecodable_file careless cameUpOtherwise none rfl
  obtain ⟨fails, -⟩ := @startup_fails_only_on_undecodable_file { tree := strayByte }
    (.start .empty strayByte) (some [0xFF]) rfl
  have kept : spoiled.settings.1 = .ok ⟨0, .initial⟩ := rfl
  refine ⟨⟨kept, ?_⟩, ?_, ?_⟩
  · rcases again (.inl rfl) with ⟨object, same, -, comesUp⟩ | ⟨failure, -, failed, -⟩
    · rw [kept] at same
      cases same
      exact comesUp
    · rw [kept] at failed
      cases failed
  · rcases initial (.inr (by simp)) with ⟨object, same, -⟩ | ⟨failure, text, failed, -, reports, up⟩
    · cases same
    · exact ⟨rfl, failure, _, failed, reports, up⟩
  · obtain ⟨failed, down⟩ := fails [0xFF] strayFault rfl rfl rfl
    exact ⟨congrArg Prod.fst failed, down⟩

/-- One stray byte is not reported as a matter of configuration, and leaves the log without a
handler. -/
theorem stray_byte_keeps_log_from_coming_up :
    let session : Session := { tree := strayByte }
    let failure : Failure := .undecodableFile
      "'utf-8' codec can't decode byte 0xff in position 0: invalid start byte"
    failure.kind ≠ "ConfigurationError" ∧
      session.settings.1 = .error failure ∧
      (session.step (.configure .process)).2 = .error (.failure failure) ∧
      (session.step (.configure .process)).1.handlers.installed = [] := by
  exact ⟨by decide, rfl, rfl, rfl⟩

end DiscoveryClient.Log
