import DiscoveryClient.Proofs.Files.ReportedPath
import DiscoveryClient.Proofs.Properties.Run

/-!
# Hot reloads

A change of one of the two files makes their source read both again, once.  If
they cannot be read, the source goes on with what it serves, and any later
change is another chance.

The handling is one reload with an account of its ending, so all that holds of
reloads carries over.  It fails for nothing but a path that the system refuses
to look at: no file is unreadable then, and the refusal goes through.
-/

namespace DiscoveryClient.FileSource

open Log

variable {tree : FileTree} {source : FileSource} {change : Change}

/-! ## Which changes count -/

/-- The last name of a reported path is that of one of the two files. -/
def Named (source : FileSource) (path : ReportedPath) : Prop :=
  ∃ name, path.lastName? = some name ∧
    (source.basePath.baseName? = some name ∨ source.environmentPath.baseName? = some name)

/-- It makes no difference whether a path is reported as text or as bytes. -/
theorem named_bytes (path : String) :
    source.Named (.bytes (Text.Utf8.encode path)) ↔ source.Named (.text path) := by
  rw [Named, Named, ReportedPath.lastName?_bytes]

/-- A change of a file, which may have other bytes now, under one of the two names. -/
structure Concerning (source : FileSource) (change : Change) : Prop where
  ofFile : change.ofDirectory = false
  notOpened : change.kind ≠ .opened
  notClosed : change.kind ≠ .closedWithoutWriting
  named : source.Named change.path ∨ source.Named change.destination

theorem names_iff {path : ReportedPath} : source.names path = true ↔ source.Named path := by
  unfold names Named
  cases path.lastName? with
  | none => simp
  | some name => simp

theorem mayAlter_iff {kind : ChangeKind} :
    kind.mayAlter = true ↔ kind ≠ .opened ∧ kind ≠ .closedWithoutWriting := by
  cases kind <;> decide

theorem concerns_iff : source.concerns change = true ↔ source.Concerning change := by
  simp only [concerns, Bool.and_eq_true, Bool.not_eq_true', Bool.or_eq_true, names_iff,
    mayAlter_iff]
  constructor
  · rintro ⟨⟨ofFile, notOpened, notClosed⟩, named⟩
    exact ⟨ofFile, notOpened, notClosed, named⟩
  · rintro ⟨ofFile, notOpened, notClosed, named⟩
    exact ⟨⟨ofFile, notOpened, notClosed⟩, named⟩

theorem SameFiles.concerns {next : FileSource} (same : SameFiles source next) (change : Change) :
    next.concerns change = source.concerns change := by
  simp only [FileSource.concerns, names, same.basePath, same.environmentPath]

/-! ## One change -/

/-- A change is handled by one reload, and the ending of that is counted once. -/
structure Handles (source : FileSource) (tree : FileTree)
    (ended : Logged (FileSource × SourceReply)) : Prop where
  reloads : ended.value.1 = (source.reload tree).value.1
  logs : ∃ failure, ended.events = (source.reload tree).events ++ Option.toList failure
  raises : (∃ failure, ended.value.2.answer = .error failure) ↔ source.Refused tree
  uncounted : ended.value.2.count = none ↔ source.Refused tree
  failed : ended.value.2.count = some (.property .failed) ↔ source.Broken tree
  changed : ended.value.2.count = some (.property .changed) ↔
    source.Readable tree ∧ ∃ key, ended.value.1.served.get? key ≠ source.served.get? key
  unchanged : ended.value.2.count = some (.property .unchanged) ↔
    source.Readable tree ∧ ∀ key, ended.value.1.served.get? key = source.served.get? key

section

variable (concerned : source.concerns change = true)

include concerned

theorem event_of_read {mapping : Mapping Value} (read : cascade tree source = .ok mapping) :
    source.step tree (.event (.ok change)) =
      { value := ({ source with served := mapping }, {
          answer := .ok (.dict mapping.entries)
          count := some (.property
            (if mapping.sameBy Value.agrees source.served then .unchanged else .changed)) })
        events := (source.reload tree).events } := by
  simp only [FileSource.step, onChange, concerned, if_true, reload_of_read read]
  cases mapping.sameBy Value.agrees source.served <;>
    simp [bind, pure, Except.map, Except.toOption]

theorem event_of_own {error : ClientError} (fails : cascade tree source = .error (.own error)) :
    source.step tree (.event (.ok change)) =
      { value := (source, {
          answer := .ok (.dict source.served.entries)
          count := some (.property .failed) })
        events := (source.reload tree).events ++ [reloadFailed error] } := by
  simp only [FileSource.step, onChange, concerned, if_true, reload_of_failure fails]
  simp [bind, pure, Logged.log, Except.map, Except.toOption]

theorem event_of_refused {fault : FileFault} {path : String}
    (fails : cascade tree source = .error (.file fault path)) :
    source.step tree (.event (.ok change)) =
      { value := (source, { answer := .error (.file fault path) })
        events := (source.reload tree).events } := by
  simp only [FileSource.step, onChange, concerned, if_true, reload_of_failure fails]
  simp [bind, pure, Except.map, Except.toOption]

theorem handles_of_read {mapping : Mapping Value} (read : cascade tree source = .ok mapping)
    (texts : mapping.OfTexts) (before : source.served.OfTexts) :
    Handles source tree (source.step tree (.event (.ok change))) := by
  have same := Mapping.sameBy_agrees_iff texts before
  rw [event_of_read concerned read]
  refine ⟨by rw [reload_of_read read], ⟨none, by simp⟩, ?_, ?_, ?_, ?_, ?_⟩
  · simp [refused_iff, read]
  · simp [refused_iff, read]
  · simp only [broken_iff, read]
    cases mapping.sameBy Value.agrees source.served <;> simp
  · rw [readable_iff, read, ← Classical.not_forall, ← same]
    cases mapping.sameBy Value.agrees source.served <;> simp
  · rw [readable_iff, read, ← same]
    cases mapping.sameBy Value.agrees source.served <;> simp

theorem handles_of_own {error : ClientError}
    (fails : cascade tree source = .error (.own error)) :
    Handles source tree (source.step tree (.event (.ok change))) := by
  rw [event_of_own concerned fails]
  refine ⟨by rw [reload_of_failure fails], ⟨some _, rfl⟩, ?_, ?_, ?_, ?_, ?_⟩
  · simp [refused_iff, fails]
  · simp [refused_iff, fails]
  · simp [broken_iff, fails]
  · simp [readable_iff, fails]
  · simp [readable_iff, fails]

theorem handles_of_refused {fault : FileFault} {path : String}
    (fails : cascade tree source = .error (.file fault path)) :
    Handles source tree (source.step tree (.event (.ok change))) := by
  rw [event_of_refused concerned fails]
  refine ⟨by rw [reload_of_failure fails], ⟨none, by simp⟩, ?_, ?_, ?_, ?_, ?_⟩
  · simp [refused_iff, fails]
  · simp [refused_iff, fails]
  · simp [broken_iff, fails]
  · simp [readable_iff, fails]
  · simp [readable_iff, fails]

theorem handles (tree : FileTree) {environment : String}
    (named : source.environment = .text environment) (before : source.served.OfTexts) :
    Handles source tree (source.step tree (.event (.ok change))) := by
  have ending := cascading source tree
  cases ended : cascade tree source with
  | ok mapping =>
      exact handles_of_read concerned ended ((cascades_of_read ended).ofTexts named) before
  | error failure =>
      rw [ended] at ending
      cases ending with
      | unreadable => exact handles_of_own concerned ended
      | refusedBase => exact handles_of_refused concerned ended
      | refusedEnvironment => exact handles_of_refused concerned ended

end

theorem event_of_unconcern (unconcerned : source.concerns change = false) :
    source.step tree (.event (.ok change)) =
      pure (source, { answer := .ok (.dict source.served.entries) }) := by
  simp only [FileSource.step, onChange_of_unconcern unconcerned]
  rfl

/-! ## Any run -/

/-- After any run a source that was loaded serves the cascade of the files at its latest
successful reload.  A change then is ignored if it does not concern the source, and
otherwise handled by one reload. -/
theorem hot_reload_keeps_last_good {name environment directory : String}
    (loaded : (load tree name (.text environment) directory).value = .ok source)
    (moves : List Scene.Move) :
    let start : Scene := ⟨tree, [.files source]⟩
    ∃ current, (start.run moves).layers = [.files current] ∧ SameFiles source current ∧
      current.Cascades (source.lastRead tree (start.visits 0 moves)) current.served ∧
      ∀ change,
        (¬current.Concerning change →
          current.step (start.run moves).tree (.event (.ok change)) =
            pure (current, { answer := .ok (.dict current.served.entries) })) ∧
        (current.Concerning change →
          current.Handles (start.run moves).tree
            (current.step (start.run moves).tree (.event (.ok change)))) := by
  intro start
  obtain ⟨placed, serves⟩ := load_serves loaded
  obtain ⟨same, servesNow⟩ := visits_serve (start.visits 0 moves) serves
  refine ⟨(start.visits 0 moves).foldl visited source, ?_, same, servesNow, ?_⟩
  · rw [Scene.layers_run]
    simp [start, Layer.visited_files]
  · intro change
    constructor
    · intro unconcerned
      exact event_of_unconcern (Bool.eq_false_iff.mpr (mt concerns_iff.mp unconcerned))
    · intro concerning
      have namedNow := same.environment.trans placed.environment
      exact handles (concerns_iff.mpr concerning) _ namedNow (servesNow.ofTexts namedNow)

/-- A source that is loaded where both its files are absent. -/
def fileless (name environment directory : String) : FileSource :=
  { place name (.text environment) directory with
    served := merged (.text environment) .empty .empty }

theorem fileless_basePath (name environment directory : String) :
    (fileless name environment directory).basePath =
      (place name (.text environment) directory).basePath := rfl

theorem fileless_environmentPath (name environment directory : String) :
    (fileless name environment directory).environmentPath =
      (place name (.text environment) directory).environmentPath := rfl

theorem load_fileless {name environment directory : String}
    (noBase : tree.Contributes (fileless name environment directory).basePath .empty)
    (noOverlay : tree.Contributes (fileless name environment directory).environmentPath .empty) :
    (load tree name (.text environment) directory).value =
      .ok (fileless name environment directory) := by
  rw [fileless_basePath] at noBase
  rw [fileless_environmentPath] at noOverlay
  rw [load_value, cascade_of_contributes noBase noOverlay]
  rfl

def baseCreated : Change := ⟨.created, false, .text "app.properties", .empty⟩

/-- Of two files that appear one cannot be read: the source goes on as if there were none. -/
theorem broken_overlay_is_counted :
    ∃ current,
      (Scene.run ⟨{}, [.files (fileless "app" "eu" ".")]⟩
        [.edit halfReadable, .stepAt 0 (.event (.ok baseCreated))]).layers = [.files current] ∧
      current.Cascades {} current.served ∧
      (current.step halfReadable (.event (.ok baseCreated))).value.2.count =
        some (.property .failed) := by
  obtain ⟨noBase, noOverlay⟩ := absent_files (fileless "app" "eu" ".") rfl rfl
  obtain ⟨current, layers, same, serves, reacts⟩ :=
    hot_reload_keeps_last_good (load_fileless noBase noOverlay)
      [.edit halfReadable, .stepAt 0 (.event (.ok baseCreated))]
  obtain ⟨_, brokenBefore⟩ := broken_halfReadable (fileless "app" "eu" ".") rfl rfl
  obtain ⟨_, brokenNow⟩ := broken_halfReadable current same.basePath same.environmentPath
  have concerns : current.concerns baseCreated = true := by
    rw [same.concerns]
    decide
  have kept : (fileless "app" "eu" ".").lastRead {}
      (Scene.visits 0 ⟨{}, [.files (fileless "app" "eu" ".")]⟩
        [.edit halfReadable, .stepAt 0 (.event (.ok baseCreated))]) = {} := by
    have visits : Scene.visits 0 ⟨{}, [.files (fileless "app" "eu" ".")]⟩
        [.edit halfReadable, .stepAt 0 (.event (.ok baseCreated))] =
          [⟨halfReadable, .event (.ok baseCreated)⟩] := rfl
    obtain ⟨error, fails⟩ := broken_iff.mp brokenBefore
    rw [visits, lastRead, lastRead, readIn, readAfter, reload_value_of_failure fails]
    split <;> rfl
  refine ⟨current, layers, ?_, ?_⟩
  · exact kept ▸ serves
  · exact ((reacts baseCreated).2 (concerns_iff.mp concerns)).failed.mpr brokenNow

/-! ## A file whose name is too long -/

/-- The base file of this source has a name of 251 bytes, and the other one of 256. -/
def longNamed : FileSource :=
  fileless (letters 240) "test" "conf"

theorem plain_conf : Path.IsPlain "conf" :=
  .of_long (by decide) (by decide) (by decide)

theorem size_longName (suffix : String) :
    (letters 240 ++ suffix).utf8ByteSize = 240 + suffix.utf8ByteSize := by
  have size : (letters 240).utf8ByteSize = 240 := by decide +kernel
  rw [String.utf8ByteSize_append, size]

theorem plain_longName {suffix : String} (noSlash : '/' ∉ suffix.toList)
    (noNull : '\x00' ∉ suffix.toList) :
    ∀ name ∈ ["conf"] ++ [letters 240 ++ suffix], Path.IsPlain name := by
  have plain : Path.IsPlain (letters 240 ++ suffix) :=
    plain_letters (by rw [size_longName]; omega) noSlash noNull
  simpa using And.intro plain_conf plain

theorem short_longName {suffix : String} (short : suffix.utf8ByteSize ≤ 100) :
    ("/".intercalate (["conf"] ++ [letters 240 ++ suffix])).utf8ByteSize ≤ Route.maxBytes := by
  have conf : ("conf" ++ "/").utf8ByteSize = 5 := rfl
  rw [List.singleton_append, String.intercalate_cons_cons, String.intercalate_singleton,
    String.utf8ByteSize_append, conf, size_longName, Route.maxBytes]
  omega

theorem longNamed_basePath :
    longNamed.basePath = .relative (["conf"] ++ [letters 240 ++ ".properties"]) := by
  have plain := plain_longName (by decide : '/' ∉ ".properties".toList) (by decide)
  have placed : Path.ofText "conf" = .relative ["conf"] := rfl
  rw [longNamed, fileless_basePath, place_basePath placed (plain _ (by simp))]

theorem longNamed_environmentPath :
    longNamed.environmentPath = .relative (["conf"] ++ [letters 240 ++ "-test.properties"]) := by
  have plain := plain_longName (by decide : '/' ∉ "-test.properties".toList) (by decide)
  have plainName : ∀ name ∈ [letters 240 ++ "-test.properties"], Path.IsPlain name :=
    fun name member => plain name (List.mem_append_right _ member)
  have written : letters 240 ++ "-" ++ "test" ++ ".properties" =
      "/".intercalate [letters 240 ++ "-test.properties"] := by
    rw [String.intercalate_singleton, String.append_assoc, String.append_assoc]
    rfl
  have placed : Path.ofText "conf" = .relative ["conf"] := rfl
  rw [longNamed, fileless_environmentPath,
    place_environmentPath placed (by simp) plainName written]

theorem load_longNamed : (load {} (letters 240) (.text "test") "conf").value = .ok longNamed := by
  have led : FileTree.follow {} .here ["conf"] = .ok (Location.here.beneath "conf") :=
    FileTree.follow_singleton rfl plain_conf (by decide)
  have noBase : FileTree.Contributes {} longNamed.basePath .empty := by
    rw [longNamed_basePath]
    exact .absent (FileTree.readBytes_of_missing (plain_longName (by decide) (by decide))
      (short_longName (by decide)) led rfl)
  have noOverlay : FileTree.Contributes {} longNamed.environmentPath .empty := by
    rw [longNamed_environmentPath]
    exact .absent (FileTree.readBytes_of_missing (plain_longName (by decide) (by decide))
      (short_longName (by decide)) led rfl)
  exact load_fileless noBase noOverlay

/-- A directory that has the base file of this source. -/
def halfNamed : FileTree :=
  oneFile "conf" (letters 240 ++ ".properties") [0x6b, 0x3d, 0x76]

/-- Once there is a directory, the longer name is looked up in it and refused. -/
theorem refused_longNamed :
    cascade halfNamed longNamed =
      .error (.file .nameTooLong longNamed.environmentPath.text) := by
  have led : halfNamed.follow .here ["conf"] = .ok (Location.here.beneath "conf") :=
    FileTree.follow_singleton rfl plain_conf (by decide)
  have found : halfNamed.readBytes longNamed.basePath = .ok (some (.ok [0x6b, 0x3d, 0x76])) := by
    rw [longNamed_basePath]
    refine FileTree.readBytes_of_file (plain_longName (by decide) (by decide))
      (short_longName (by decide)) led (oneFile_directory _ _ _) ?_ (oneFile_file _ _ _)
    rw [size_longName]
    decide
  have decoded : Text.Utf8.decode [0x6b, 0x3d, 0x76] = .ok ['k', '=', 'v'] := rfl
  have refuses : halfNamed.Refuses longNamed.environmentPath .nameTooLong := by
    rw [longNamed_environmentPath]
    refine FileTree.readBytes_of_longName (plain_longName (by decide) (by decide))
      (short_longName (by decide)) led (oneFile_directory _ _ _) ?_
    rw [size_longName]
    decide
  exact cascade_of_refused_environment (.text found decoded) refuses

/-- The base file is created in a directory that was missing before. -/
theorem refused_overlay_breaks_handling :
    let change : Change := ⟨.created, false, .text longNamed.basePath.text, .empty⟩
    let scene := Scene.run ⟨{}, [.files longNamed]⟩ [.edit halfNamed]
    (load {} (letters 240) (.text "test") "conf").value = .ok longNamed ∧
      longNamed.Concerning change ∧
      ∃ failure, (longNamed.step scene.tree (.event (.ok change))).value.2.answer =
        .error failure := by
  intro change scene
  -- The source was loaded without the directory, when no name in it was measured.
  have plain := plain_longName (by decide : '/' ∉ ".properties".toList) (by decide)
  have named : (ReportedPath.text longNamed.basePath.text).lastName? =
      longNamed.basePath.baseName? := by
    rw [longNamed_basePath, Path.text_relative (by simp), ReportedPath.lastName?,
      Path.ofText_intercalate (by simp) plain]
  have lastName : longNamed.basePath.baseName? = some (letters 240 ++ ".properties") := by
    rw [longNamed_basePath]
    rfl
  have concerning : longNamed.Concerning change :=
    ⟨rfl, by decide, by decide, .inl ⟨_, named.trans lastName, .inl lastName⟩⟩
  have ended := event_of_refused (concerns_iff.mpr concerning) refused_longNamed
  have now : scene.tree = halfNamed := rfl
  refine ⟨load_longNamed, concerning, .file .nameTooLong longNamed.environmentPath.text, ?_⟩
  rw [now, ended]

end DiscoveryClient.FileSource
