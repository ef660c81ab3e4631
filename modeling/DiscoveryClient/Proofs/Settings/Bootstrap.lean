import DiscoveryClient.Proofs.Settings.Acceptance
import DiscoveryClient.Settings.Bootstrap

/-!
# Settings of a process

A process that keeps settings answers with them, whatever its variables and its file say.
Otherwise it reads these.  It answers with a new object if every field accepts its value in
effect, and else fails with one message for each field that does not; a file that is no text
fails in a way of its own.  A failure leaves the process as it was.
-/

namespace DiscoveryClient

/-- A failure of the configuration that has one message for each field that does not accept
its raw value, in the order of the fields. -/
def Failure.Reports (failure : Failure) (raw : SettingField → Value) : Prop :=
  ∃ (error : ClientError) (violations : Settings.Violations),
    failure = .own error ∧ error.kind = .configuration ∧
      error.metadata.get? "errors" = some (.texts (violations.map fun entry => entry.2.message)) ∧
      violations.map Prod.fst = SettingField.all.filter (fun field => ¬ field.Accepts (raw field)) ∧
      ∀ entry ∈ violations, Settings.violation? entry.1 (raw entry.1) = some entry.2

/-- The built-in settings stand in for settings that were reported as invalid. -/
theorem Failure.Reports.substitute {failure : Failure} {raw : SettingField → Value}
    (reports : failure.Reports raw) : Bootstrap.substitute failure = .ok .initial := by
  obtain ⟨error, -, rfl, configuration, -⟩ := reports
  exact if_pos configuration

theorem SettingsCache.failure_reports (raw : SettingField → Value) :
    (failure (.invalid (Settings.violations raw))).Reports raw :=
  ⟨_, Settings.violations raw, rfl, rfl, rfl, Settings.violations_fields raw,
    fun _ => Settings.violation?_of_mem⟩

/-- Each field takes its value as it is. -/
def Settings.IsValid (settings : Settings) : Prop :=
  ∀ field : SettingField, field.Takes (settings.value field) (settings.value field)

namespace SettingSources

variable {sources : SettingSources} {raw : SettingField → Value}

/-- Whatever the sources say, settings that come out of them are valid. -/
theorem settings_valid {settings : Settings} (given : sources.settings = .ok settings) :
    settings.IsValid := by
  cases gathered : sources.gather with
  | ok raw => exact fun field => ((settings_eq_ok gathered).1 given field).again
  | error failure =>
      rw [SettingSources.settings, gathered] at given
      cases given

theorem settings_of_accepts (gathered : sources.gather = .ok raw)
    (accepts : ∀ field : SettingField, field.Accepts (raw field)) :
    ∃ settings, sources.settings = .ok settings ∧
      ∀ field : SettingField, field.Takes (raw field) (settings.value field) := by
  obtain ⟨settings, built⟩ := Settings.build_of_accepts accepts
  have takes : ∀ field : SettingField, field.Takes (raw field) (settings.value field) :=
    fun field => SettingField.checked_eq_ok.1 (Settings.build_eq_ok.1 built field)
  exact ⟨settings, (settings_eq_ok gathered).2 takes, takes⟩

theorem settings_of_refuses (gathered : sources.gather = .ok raw)
    (refuses : ¬ ∀ field : SettingField, field.Accepts (raw field)) :
    sources.settings = .error (.invalid (Settings.violations raw)) := by
  rw [settings_of_gather gathered, Settings.validate]
  cases built : Settings.build raw with
  | ok settings =>
      refine absurd (fun field => ?_) refuses
      exact ⟨_, SettingField.checked_eq_ok.1 (Settings.build_eq_ok.1 built field)⟩
  | error violation => rfl

/-- A settings file that is text, or not there at all, can be read. -/
theorem fileReads_of_decodes {content : Option (List UInt8)}
    (found : sources.tree.readBytes SettingOptions.filePath = .ok (content.map .ok))
    (decodes : ∀ bytes, content = some bytes → ∃ text, Text.Utf8.decode bytes = .ok text) :
    ∃ text, sources.FileReads text := by
  cases content with
  | none => exact ⟨[], .absent found⟩
  | some bytes =>
      obtain ⟨text, decoded⟩ := decodes bytes rfl
      exact ⟨text, .present found decoded⟩

/-- A settings file that is no text is the failure of all settings. -/
theorem settings_of_undecodable (standard : sources.IsStandard) {bytes : List UInt8}
    {fault : Text.DecodingFault}
    (found : sources.tree.readBytes SettingOptions.filePath = .ok (some (.ok bytes)))
    (undecodable : Text.Utf8.decode bytes = .error fault) :
    sources.settings = .error (.refused (.undecodableFile fault.message)) := by
  have unread : linesOf sources.environment (.utf8 false) bytes =
      .error (.undecodableFile fault.message) := by
    have decoded : (Text.Encoding.utf8 false).decode bytes = .error (.bytes fault) := by
      change (Text.Utf8.decode bytes).mapError Text.Unreadable.bytes = .error (.bytes fault)
      rw [undecodable]
      rfl
    rw [linesOf, decoded]
    rfl
  have noLines : sources.linesAt (.ok (.utf8 false)) SettingOptions.filePath =
      .error (.undecodableFile fault.message) := by
    simp only [linesAt, found]
    change (linesOf sources.environment (.utf8 false) bytes >>= fun lines => .ok lines.entries) = _
    rw [unread]
    rfl
  have noContents : sources.contents {} = .error (.undecodableFile fault.message) := by
    simp only [contents, lines, bind, Except.bind, List.mapM_cons, locate_filePath, noLines]
  have refused : sources.gather = .error (.undecodableFile fault.message) := by
    simp only [gather, ofArguments_standard standard, noContents, bind, Except.bind]
  rw [SettingSources.settings, refused]
  rfl

end SettingSources

namespace Bootstrap

variable {bootstrap : Bootstrap} {text : List Char}

theorem sources_standard (bootstrap : Bootstrap) : bootstrap.sources.IsStandard :=
  List.forall_mem_nil _

/-- The process with a new object in its cache. -/
def keeping (bootstrap : Bootstrap) (object : SettingsObject) : Bootstrap :=
  { bootstrap with cache := bootstrap.cache.keep object }

theorem settings_kept {object : SettingsObject} (kept : bootstrap.cache.kept = some object) :
    bootstrap.settings = (.ok object, bootstrap) := by
  simp only [settings, SettingsCache.get, kept]

theorem settings_read {settings : Settings} (unkept : bootstrap.cache.kept = none)
    (given : bootstrap.sources.settings = .ok settings) :
    bootstrap.settings =
      (.ok (bootstrap.cache.next settings), bootstrap.keeping (bootstrap.cache.next settings)) := by
  simp only [Bootstrap.settings, SettingsCache.get, unkept, given]
  rfl

theorem settings_failed {problem : SettingSources.Problem}
    (unkept : bootstrap.cache.kept = none)
    (refused : bootstrap.sources.settings = .error problem) :
    bootstrap.settings = (.error (SettingsCache.failure problem), bootstrap) := by
  simp only [settings, SettingsCache.get, unkept, refused]

theorem settings_accepted (unkept : bootstrap.cache.kept = none)
    (reads : bootstrap.sources.FileReads text)
    (accepts : ∀ field : SettingField, field.Accepts (bootstrap.sources.effective text field)) :
    ∃ settings : Settings,
      (∀ field : SettingField,
        field.Takes (bootstrap.sources.effective text field) (settings.value field)) ∧
      bootstrap.settings =
        (.ok (bootstrap.cache.next settings),
          bootstrap.keeping (bootstrap.cache.next settings)) := by
  have gathered := SettingSources.gather_effective bootstrap.sources_standard reads
  obtain ⟨settings, given, takes⟩ := SettingSources.settings_of_accepts gathered accepts
  exact ⟨settings, takes, settings_read unkept given⟩

theorem settings_refused (unkept : bootstrap.cache.kept = none)
    (reads : bootstrap.sources.FileReads text)
    (refuses : ¬ ∀ field : SettingField,
      field.Accepts (bootstrap.sources.effective text field)) :
    ∃ failure : Failure, failure.Reports (bootstrap.sources.effective text) ∧
      bootstrap.settings = (.error failure, bootstrap) := by
  have gathered := SettingSources.gather_effective bootstrap.sources_standard reads
  have refused := SettingSources.settings_of_refuses gathered refuses
  exact ⟨_, SettingsCache.failure_reports _, settings_failed unkept refused⟩

theorem settings_undecodable (unkept : bootstrap.cache.kept = none) {bytes : List UInt8}
    {fault : Text.DecodingFault}
    (found : bootstrap.tree.readBytes SettingOptions.filePath = .ok (some (.ok bytes)))
    (undecodable : Text.Utf8.decode bytes = .error fault) :
    bootstrap.settings = (.error (.undecodableFile fault.message), bootstrap) :=
  settings_failed unkept
    (SettingSources.settings_of_undecodable bootstrap.sources_standard found undecodable)

/-! ## What stands in for settings -/

/-- What stands in for settings does not change the process further. -/
theorem settingsOrInitial_snd (bootstrap : Bootstrap) :
    bootstrap.settingsOrInitial.2 = bootstrap.settings.2 := by
  unfold settingsOrInitial
  split <;> rename_i same <;> rw [same]

theorem settingsOrInitial_of_error {next : Bootstrap} {failure : Failure}
    (failed : bootstrap.settings = (.error failure, next)) :
    bootstrap.settingsOrInitial = (substitute failure, next) := by
  simp only [settingsOrInitial, failed]

/-! ## Valid settings -/

/-- The process keeps valid settings, if any. -/
def KeepsValid (bootstrap : Bootstrap) : Prop :=
  ∀ object, bootstrap.cache.kept = some object → object.settings.IsValid

namespace KeepsValid

theorem settings (keeps : bootstrap.KeepsValid) : bootstrap.settings.2.KeepsValid := by
  cases kept : bootstrap.cache.kept with
  | some object => rwa [settings_kept kept]
  | none =>
      cases given : bootstrap.sources.settings with
      | error problem => rwa [settings_failed kept given]
      | ok settings =>
          rw [settings_read kept given]
          intro object same
          obtain rfl : bootstrap.cache.next settings = object := Option.some.inj same
          exact SettingSources.settings_valid given

theorem step (keeps : bootstrap.KeepsValid) (step : BootstrapStep) :
    (bootstrap.step step).1.KeepsValid := by
  cases step with
  | environment environment => exact keeps
  | files tree => exact keeps
  | reset => exact fun object kept => nomatch kept
  | get => exact keeps.settings

end KeepsValid

end Bootstrap

end DiscoveryClient
