import DiscoveryClient.Proofs.Files.RelativePath
import DiscoveryClient.Proofs.Properties.Cascade

/-!
# Reloads are atomic cascades

A reload reads both files before it replaces anything.  What it serves then is
their cascade; otherwise it serves what it served before.

A file that is there and cannot be read is reported by its path, the first such
file if there are two.  This fails for the file of the environment if the system
refuses to look at the path of the base file: its refusal is passed on instead.
-/

namespace DiscoveryClient

namespace FileSource

variable {tree : FileTree} {source : FileSource}

/-! ## Reloads -/

theorem reload_of_read {mapping : Mapping Value} (read : cascade tree source = .ok mapping) :
    source.reload tree =
      { value := ({ source with served := mapping },
          .ok (!mapping.sameBy Value.agrees source.served))
        events := (warnIfMissing tree source).events ++
          [reloaded (!mapping.sameBy Value.agrees source.served) mapping.size] } := by
  simp only [reload, read]
  rfl

theorem reload_of_failure {failure : Failure} (fails : cascade tree source = .error failure) :
    source.reload tree =
      { value := (source, .error failure), events := (warnIfMissing tree source).events } := by
  simp only [reload, fails]
  change (⟨_, _⟩ : Log.Logged _) = _
  rw [Log.Logged.events_pure, List.append_nil]
  rfl

theorem reload_value_of_failure {failure : Failure}
    (fails : cascade tree source = .error failure) :
    (source.reload tree).value = (source, .error failure) := by
  rw [reload_of_failure fails]

/-- A reload that fails leaves the source as it was. -/
theorem reload_error {failure : Failure} (fails : (source.reload tree).value.2 = .error failure) :
    cascade tree source = .error failure ∧ (source.reload tree).value.1 = source := by
  cases ended : cascade tree source with
  | ok mapping =>
      rw [reload_of_read ended] at fails
      cases fails
  | error other =>
      rw [reload_of_failure ended] at fails ⊢
      cases fails
      exact ⟨rfl, rfl⟩

/-- A reload that returns serves the cascade. -/
theorem reload_ok {changed : Bool} (returns : (source.reload tree).value.2 = .ok changed) :
    ∃ mapping, cascade tree source = .ok mapping ∧
      changed = !mapping.sameBy Value.agrees source.served ∧
      (source.reload tree).value.1 = { source with served := mapping } := by
  cases ended : cascade tree source with
  | ok mapping =>
      rw [reload_of_read ended] at returns ⊢
      cases returns
      exact ⟨mapping, rfl, rfl, rfl⟩
  | error other =>
      rw [reload_of_failure ended] at returns
      cases returns

end FileSource

/-! ## Mappings of texts -/

namespace Mapping

/-- Every value is a text. -/
def OfTexts (mapping : Mapping Value) : Prop :=
  ∀ key value, mapping.get? key = some value → ∃ text, value = .text text

theorem ofTexts_map (mapping : Mapping String) : (mapping.map Value.text).OfTexts := by
  intro key value found
  rw [get?_map, Option.map_eq_some_iff] at found
  obtain ⟨text, _, rfl⟩ := found
  exact ⟨text, rfl⟩

/-- Among texts, mappings that agree give the same answers. -/
theorem sameBy_agrees_iff {left right : Mapping Value} (lefts : left.OfTexts)
    (rights : right.OfTexts) :
    left.sameBy Value.agrees right = true ↔ ∀ key, left.get? key = right.get? key := by
  rw [sameBy_iff]
  refine forall_congr' fun key => ?_
  cases inLeft : left.get? key with
  | none =>
      cases inRight : right.get? key with
      | none => simp [sameAnswer]
      | some value => simp [sameAnswer]
  | some value =>
      obtain ⟨text, rfl⟩ := lefts key value inLeft
      cases inRight : right.get? key with
      | none => simp [sameAnswer]
      | some other =>
          obtain ⟨otherText, rfl⟩ := rights key other inRight
          simp [sameAnswer]

end Mapping

namespace FileSource

variable {tree : FileTree} {source : FileSource}

theorem Cascades.ofTexts {mapping : Mapping Value} (cascades : source.Cascades tree mapping)
    {environment : String} (named : source.environment = .text environment) :
    mapping.OfTexts := by
  obtain ⟨base, overlay, _, _, answers⟩ := cascades
  intro key value found
  rw [answers, overridden, Option.or_eq_some_iff, Option.map_eq_some_iff, named] at found
  rcases found with ⟨text, _, rfl⟩ | ⟨_, found⟩
  · exact ⟨text, rfl⟩
  · split at found
    · cases found
      exact ⟨environment, rfl⟩
    · cases found

/-- A source that is configured by texts, with what it serves. -/
def serving (name environment directory : String) (previous : Mapping String)
    (isWatched : Bool) : FileSource :=
  { place name (.text environment) directory with served := previous.map .text, isWatched }

theorem serving_basePath (name environment directory : String) (previous : Mapping String)
    (isWatched : Bool) :
    (serving name environment directory previous isWatched).basePath =
      (place name (.text environment) directory).basePath := rfl

theorem serving_environmentPath (name environment directory : String)
    (previous : Mapping String) (isWatched : Bool) :
    (serving name environment directory previous isWatched).environmentPath =
      (place name (.text environment) directory).environmentPath := rfl

theorem reload_returns_iff :
    (∃ changed, (source.reload tree).value.2 = .ok changed) ↔ source.Readable tree := by
  rw [readable_iff]
  constructor
  · rintro ⟨changed, returns⟩
    obtain ⟨mapping, read, _, _⟩ := reload_ok returns
    exact ⟨mapping, read⟩
  · rintro ⟨mapping, read⟩
    exact ⟨_, congrArg (fun logged => logged.value.2) (reload_of_read read)⟩

/-- A reload tells whether some key has another answer than before. -/
theorem reload_changed_iff {changed : Bool} {environment : String}
    (named : source.environment = .text environment) (before : source.served.OfTexts)
    (returns : (source.reload tree).value.2 = .ok changed) :
    changed = true ↔
      ∃ key, (source.reload tree).value.1.served.get? key ≠ source.served.get? key := by
  obtain ⟨mapping, read, changedEq, served⟩ := reload_ok returns
  have after : mapping.OfTexts := (cascades_of_read read).ofTexts named
  rw [served, changedEq, Bool.not_eq_true', ← Bool.not_eq_true,
    Mapping.sameBy_agrees_iff after before, Classical.not_forall]

/-- The reload fails with the client's own error about a path. -/
def Blames (outcome : Except Failure Bool) (path : Path) : Prop :=
  ∃ error, outcome = .error (.own error) ∧ error.kind = .propertySource ∧
    error.path = .text path.text

theorem blames_unreadable (path : Path) (reason : String) :
    Blames (.error (.own (unreadable path reason))) path :=
  ⟨_, rfl, rfl, rfl⟩

theorem reload_of_refused_base {fault : FileFault} (refuses : tree.Refuses source.basePath fault) :
    (source.reload tree).value.2 = .error (.file fault source.basePath.text) := by
  rw [reload_value_of_failure (cascade_of_refused_base refuses)]

theorem reload_blames_iff {path : Path} {reason : String}
    (fails : source.FirstUnreadable tree path reason) :
    Blames (source.reload tree).value.2 path ↔ ∀ fault, ¬tree.Refuses source.basePath fault := by
  constructor
  · rintro ⟨error, blamed, _, _⟩ fault refuses
    rw [reload_of_refused_base refuses] at blamed
    cases blamed
  · intro looked
    rw [reload_value_of_failure (cascade_of_unreadable fails looked)]
    exact blames_unreadable path reason

/-- A reload returns exactly if each file has bindings or is absent.  Then it serves their
cascade, and tells whether that answers some key otherwise than what was served before.
If it does not return, everything is as before.

The first file that is there and cannot be read is blamed, exactly if the system does
not refuse the path of the base file. -/
theorem reload_is_atomic_cascade (tree : FileTree) (name environment directory : String)
    (previous : Mapping String) (isWatched : Bool) :
    let source := serving name environment directory previous isWatched
    let ended := (source.reload tree).value
    ((∃ changed, ended.2 = .ok changed) ↔ source.Readable tree) ∧
    (∀ changed, ended.2 = .ok changed →
      ended.1 = { source with served := ended.1.served } ∧
      source.Cascades tree ended.1.served ∧
      (changed = true ↔ ∃ key, ended.1.served.get? key ≠ source.served.get? key)) ∧
    (∀ failure, ended.2 = .error failure → ended.1 = source) ∧
    (∀ path reason, source.FirstUnreadable tree path reason →
      (Blames ended.2 path ↔ ∀ fault, ¬tree.Refuses source.basePath fault)) ∧
    (∀ fault, tree.Refuses source.basePath fault →
      ended.2 = .error (.file fault source.basePath.text)) := by
  intro source ended
  refine ⟨reload_returns_iff, ?_, fun _ fails => (reload_error fails).2,
    fun _ _ => reload_blames_iff, fun _ => reload_of_refused_base⟩
  intro changed returns
  have before : source.served.OfTexts := Mapping.ofTexts_map previous
  have tells := reload_changed_iff rfl before returns
  obtain ⟨mapping, read, _, served⟩ := reload_ok returns
  have answered : ended.1 = { source with served := mapping } := served
  refine ⟨?_, ?_, tells⟩
  · rw [answered]
  · rw [answered]
    exact cascades_of_read read

/-- A base file that can be read, and a file of the environment that cannot. -/
def halfReadable : FileTree where
  nodes :=
    [ (⟨.working 0, "/app.properties"⟩, .file [0x61, 0x3d, 0x31]),
      (⟨.working 0, "/app-eu.properties"⟩, .file [0xff]) ]

theorem broken_halfReadable (source : FileSource)
    (base : source.basePath = ⟨.none, ["app.properties"]⟩)
    (overlay : source.environmentPath = ⟨.none, ["app-eu.properties"]⟩) :
    (∃ reason, source.FirstUnreadable halfReadable source.environmentPath reason) ∧
      source.Broken halfReadable := by
  have baseFile : halfReadable.readBytes ⟨.none, ["app.properties"]⟩ =
      .ok (some (.ok [0x61, 0x3d, 0x31])) := rfl
  have overlayFile : halfReadable.readBytes ⟨.none, ["app-eu.properties"]⟩ =
      .ok (some (.ok [0xff])) := rfl
  have decoded : Text.Utf8.decode [0x61, 0x3d, 0x31] = .ok ['a', '=', '1'] := rfl
  have readable := FileTree.Contributes.text baseFile decoded
  have fails := FileTree.Unreadable.undecodable overlayFile rfl
  rw [← base] at readable
  rw [← overlay] at fails
  have first := FirstUnreadable.environment (fun _ => not_unreadable_of_contributes readable) fails
  exact ⟨⟨_, first⟩, ⟨_, _, first⟩, fun _ => not_refuses_of_contributes readable⟩

theorem absent_files (source : FileSource)
    (base : source.basePath = ⟨.none, ["app.properties"]⟩)
    (overlay : source.environmentPath = ⟨.none, ["app-eu.properties"]⟩) :
    FileTree.Contributes {} source.basePath .empty ∧
      FileTree.Contributes {} source.environmentPath .empty := by
  rw [base, overlay]
  exact ⟨.absent rfl, .absent rfl⟩

def nearby : FileSource := serving "app" "eu" "." .empty false

/-- The files are read where there are none, and not where one is broken. -/
theorem broken_overlay_changes_nothing :
    Blames (nearby.reload halfReadable).value.2 nearby.environmentPath ∧
      (nearby.reload halfReadable).value.1 = nearby ∧
      ∃ changed, (nearby.reload {}).value.2 = .ok changed ∧
        nearby.Cascades {} (nearby.reload {}).value.1.served := by
  obtain ⟨⟨reason, broken⟩, _, looked⟩ := broken_halfReadable nearby rfl rfl
  obtain ⟨noBase, noOverlay⟩ := absent_files nearby rfl rfl
  obtain ⟨_, _, keeps, blames, _⟩ :=
    reload_is_atomic_cascade halfReadable "app" "eu" "." .empty false
  have blamed := (blames _ _ broken).mpr looked
  obtain ⟨error, failed, _⟩ := id blamed
  obtain ⟨returns, serves, _⟩ := reload_is_atomic_cascade {} "app" "eu" "." .empty false
  obtain ⟨changed, ended⟩ := returns.mpr ⟨⟨_, noBase⟩, _, noOverlay⟩
  exact ⟨blamed, keeps _ failed, changed, ended, (serves changed ended).2.1⟩

/-! ## A base file that is refused -/

section

variable {name environment directory : String} {front names : List String}
  (placed : Path.ofText directory = .relative front)

include placed

theorem place_basePath (plain : Path.IsPlain (name ++ ".properties")) :
    (place name (.text environment) directory).basePath =
      .relative (front ++ [name ++ ".properties"]) := by
  have plainName : ∀ single ∈ [name ++ ".properties"], Path.IsPlain single := by
    intro single member
    obtain rfl := List.mem_singleton.mp member
    exact plain
  have read := Path.ofText_intercalate (by simp) plainName
  rw [String.intercalate_singleton] at read
  change (Path.ofText directory).join (.ofText (name ++ ".properties")) = _
  rw [placed, read, Path.join_relative]

theorem place_environmentPath (nonempty : names ≠ [])
    (plain : ∀ name ∈ names, Path.IsPlain name)
    (written : name ++ "-" ++ environment ++ ".properties" = "/".intercalate names) :
    (place name (.text environment) directory).environmentPath =
      .relative (front ++ names) := by
  change (Path.ofText directory).join
    (.ofText (name ++ "-" ++ environment ++ ".properties")) = _
  rw [placed, written, Path.ofText_intercalate nonempty plain, Path.join_relative]

end

/-- A name of so many letters. -/
def letters (count : Nat) : String :=
  String.ofList (List.replicate count 'a')

theorem plain_letters {count : Nat} {suffix : String}
    (long : 2 < (letters count ++ suffix).utf8ByteSize) (noSlash : '/' ∉ suffix.toList)
    (noNull : '\x00' ∉ suffix.toList) : Path.IsPlain (letters count ++ suffix) := by
  refine .of_long long ?_ ?_
  · rw [String.toList_append, List.mem_append, letters, String.toList_ofList]
    simp [List.mem_replicate, noSlash]
  · rw [String.toList_append, List.mem_append, letters, String.toList_ofList]
    simp [List.mem_replicate, noNull]

/-- A directory with one file in it. -/
def oneFile (directory file : String) (bytes : List UInt8) : FileTree :=
  (FileTree.put {} (Location.here.beneath directory) .directory).put
    ((Location.here.beneath directory).beneath file) (.file bytes)

theorem oneFile_directory (directory file : String) (bytes : List UInt8) :
    (oneFile directory file bytes).node? (Location.here.beneath directory) = some .directory := by
  rw [oneFile, FileTree.node?_put_of_ne (Location.ne_beneath _ _),
    FileTree.node?_put_self (Location.isOrigin_beneath _ _)]

theorem oneFile_file (directory file : String) (bytes : List UInt8) :
    (oneFile directory file bytes).node? ((Location.here.beneath directory).beneath file) =
      some (.file bytes) :=
  FileTree.node?_put_self (Location.isOrigin_beneath _ _) _ _

theorem size_letters : (letters 250).utf8ByteSize = 250 := by
  decide +kernel

theorem refused_base_hides_broken_overlay :
    let source := serving (letters 250) "eu/west" "." .empty false
    let tree := oneFile (letters 250 ++ "-eu") "west.properties" [0xff]
    (∃ reason, source.FirstUnreadable tree source.environmentPath reason) ∧
      ¬Blames (source.reload tree).value.2 source.environmentPath := by
  intro source tree
  -- The name of the base file is over 255 bytes.  The environment has a slash in its name,
  -- so its file lies in a directory whose name is not.
  have baseSize : (letters 250 ++ ".properties").utf8ByteSize = 261 := by
    rw [String.utf8ByteSize_append, size_letters]
    rfl
  have directorySize : (letters 250 ++ "-eu").utf8ByteSize = 253 := by
    rw [String.utf8ByteSize_append, size_letters]
    rfl
  have plainBase : Path.IsPlain (letters 250 ++ ".properties") :=
    plain_letters (by omega) (by decide) (by decide)
  have plainDirectory : Path.IsPlain (letters 250 ++ "-eu") :=
    plain_letters (by omega) (by decide) (by decide)
  have plainOverlay : ∀ name ∈ [letters 250 ++ "-eu", "west.properties"], Path.IsPlain name := by
    simpa using And.intro plainDirectory (.of_long (by decide) (by decide) (by decide))
  have written : letters 250 ++ "-" ++ "eu/west" ++ ".properties" =
      "/".intercalate [letters 250 ++ "-eu", "west.properties"] := by
    rw [String.intercalate_cons_cons, String.intercalate_singleton]
    simp only [String.append_assoc]
    rfl
  have basePath : source.basePath = .relative ([] ++ [letters 250 ++ ".properties"]) :=
    (serving_basePath ..).trans (place_basePath rfl plainBase)
  have overlayPath : source.environmentPath =
      .relative ([] ++ [letters 250 ++ "-eu", "west.properties"]) :=
    (serving_environmentPath ..).trans
      (place_environmentPath rfl (by simp) plainOverlay written)
  have refused : tree.Refuses source.basePath .nameTooLong := by
    rw [basePath]
    refine FileTree.readBytes_of_longName (by simpa using plainBase) ?_ rfl rfl ?_
    · rw [List.nil_append, String.intercalate_singleton, baseSize]
      decide
    · rw [baseSize]
      decide
  have found : tree.readBytes source.environmentPath = .ok (some (.ok [0xff])) := by
    rw [overlayPath, List.nil_append, ← List.singleton_append]
    refine FileTree.readBytes_of_file plainOverlay ?_
      (FileTree.follow_singleton rfl plainDirectory ?_)
      (oneFile_directory _ _ _) (by decide) (oneFile_file _ _ _)
    · rw [List.singleton_append, String.intercalate_cons_cons, String.intercalate_singleton,
        String.utf8ByteSize_append, String.utf8ByteSize_append, directorySize]
      decide
    · rw [directorySize]
      decide
  have broken := FileTree.Unreadable.undecodable found rfl
  refine ⟨⟨_, .environment ?_ broken⟩, ?_⟩
  · exact fun _ fails => not_refuses_of_unreadable fails refused
  · rintro ⟨error, blamed, _, _⟩
    rw [reload_of_refused_base refused] at blamed
    cases blamed

end FileSource

end DiscoveryClient
