import DiscoveryClient.Properties.Stack
import DiscoveryClient.Proofs.Properties.Query
import DiscoveryClient.Proofs.Properties.Run

/-!
# Precedence in the standard stack

The standard stack reads like one plain map: what is written in the store of
overrides, and under it the cascade of the files.  This holds through any run,
with the files as they were at the latest successful reload, and whatever an
override holds: a null or an empty text hides the files too.

Reads see a source through look-ups alone, so it is enough to compare these.
-/

namespace DiscoveryClient.Layered

open Log

variable {tree : FileTree} {settings : Settings} {overrides : PropertyStore} {layers : Layered}

/-! ## Loading -/

/-- The files that settings name, before they are read. -/
def filesOf (settings : Settings) : FileSource :=
  .place settings.filesName (.text settings.environment) settings.directory

theorem isTooShort_of_watches (watches : settings.watches = true) :
    FileSource.isTooShort (.float settings.watchSeconds) = .ok false := by
  have positive : settings.watchSeconds.isPositive = true := watches
  simp [FileSource.isTooShort, positive]

/-- A source that is not watched can be, unless the system refuses its directory. -/
theorem watch_returns_iff {source : FileSource} (unwatched : source.isWatched = false)
    (watches : settings.watches = true) :
    (∃ watched, (source.watch tree (.float settings.watchSeconds)).value.2 = .ok watched) ↔
      ∃ isDirectory, tree.isDirectory source.basePath.parent = .ok isDirectory := by
  unfold FileSource.watch
  simp only [isTooShort_of_watches watches, unwatched]
  cases tree.isDirectory source.basePath.parent with
  | error fault => simp
  | ok isDirectory => cases isDirectory <;> simp [FileSource.canWait]

/-- The files with their directory watched, if settings ask for it. -/
def watchedIf (tree : FileTree) (settings : Settings) (source : FileSource) :
    Except Failure FileSource :=
  if settings.watches then
    (source.watch tree (.float settings.watchSeconds)).value.2.map fun () =>
      (source.watch tree (.float settings.watchSeconds)).value.1
  else .ok source

theorem loadFiles_value (tree : FileTree) (settings : Settings) :
    (loadFiles tree settings).value =
      (FileSource.load tree settings.filesName (.text settings.environment)
        settings.directory).value.bind (watchedIf tree settings) := by
  rw [loadFiles, Logged.value_bind]
  cases (FileSource.load tree settings.filesName (.text settings.environment)
      settings.directory).value with
  | error failure => rfl
  | ok source =>
      dsimp only [Except.bind, watchedIf]
      split <;> rfl

theorem watchedIf_serves {source watched : FileSource}
    (serves : source.Cascades tree source.served)
    (watches : watchedIf tree settings source = .ok watched) :
    FileSource.SameFiles source watched ∧ watched.Cascades tree watched.served := by
  have same (isWatched : Bool) : FileSource.SameFiles source { source with isWatched } :=
    ⟨rfl, rfl, rfl⟩
  rw [watchedIf] at watches
  split at watches
  · obtain ⟨isWatched, kept⟩ := source.watch_keeps tree (.float settings.watchSeconds)
    rw [kept] at watches
    cases ended : (source.watch tree (.float settings.watchSeconds)).value.2 with
    | error failure => rw [ended] at watches; cases watches
    | ok watched =>
        rw [ended] at watches
        cases watches
        exact ⟨same isWatched, (same isWatched).cascades serves⟩
  · cases watches
    exact ⟨.refl _, serves⟩

theorem loadFiles_serves {source : FileSource}
    (loaded : (loadFiles tree settings).value = .ok source) :
    FileSource.SameFiles (filesOf settings) source ∧ source.Cascades tree source.served := by
  rw [loadFiles_value] at loaded
  cases read : (FileSource.load tree settings.filesName (.text settings.environment)
      settings.directory).value with
  | error failure => rw [read] at loaded; cases loaded
  | ok unwatched =>
      rw [read] at loaded
      obtain ⟨placed, serves⟩ := FileSource.load_serves read
      obtain ⟨same, servesWatched⟩ := watchedIf_serves serves loaded
      exact ⟨placed.trans same, servesWatched⟩

theorem standard_value (tree : FileTree) (settings : Settings) (overrides : PropertyStore) :
    (standard tree settings overrides).value =
      (loadFiles tree settings).value.map fun source => [.memory overrides, .files source] := by
  simp only [standard, Logged.value_bind, Logged.value_pure]

theorem standard_layers (loaded : (standard tree settings overrides).value = .ok layers) :
    ∃ source, layers = [.memory overrides, .files source] ∧
      FileSource.SameFiles (filesOf settings) source ∧ source.Cascades tree source.served := by
  rw [standard_value] at loaded
  cases read : (loadFiles tree settings).value with
  | error failure => rw [read] at loaded; cases loaded
  | ok source =>
      rw [read] at loaded
      cases loaded
      exact ⟨source, rfl, loadFiles_serves read⟩

theorem watchedIf_returns_iff {source : FileSource} (unwatched : source.isWatched = false) :
    (∃ watched, watchedIf tree settings source = .ok watched) ↔
      (settings.watches = true → ∃ isDirectory,
        tree.isDirectory source.basePath.parent = .ok isDirectory) := by
  rw [watchedIf]
  cases watches : settings.watches with
  | false => simp
  | true =>
      rw [if_pos rfl, ← watch_returns_iff unwatched watches]
      cases (source.watch tree (.float settings.watchSeconds)).value.2 <;> simp [Except.map]

/-- The stack is loaded if both files can be read or are absent, and their directory can
be looked at if it is to be watched. -/
theorem standard_returns_iff :
    (∃ layers, (standard tree settings overrides).value = .ok layers) ↔
      (filesOf settings).Readable tree ∧
        (settings.watches = true → ∃ isDirectory,
          tree.isDirectory (filesOf settings).basePath.parent = .ok isDirectory) := by
  rw [standard_value, loadFiles_value, FileSource.load_value, ← filesOf, FileSource.readable_iff]
  cases FileSource.cascade tree (filesOf settings) with
  | error failure => simp [Except.map, Except.bind]
  | ok mapping =>
      have watched :
          (∃ watched, watchedIf tree settings { filesOf settings with served := mapping } =
            .ok watched) ↔ _ := watchedIf_returns_iff rfl
      simp only [← watched, Except.map, Except.bind]
      cases watchedIf tree settings { filesOf settings with served := mapping } <;> simp

/-! ## One plain map -/

/-- What a store holds under a key, or else what the files say. -/
def plain (held : String → Option Value) (files : Mapping Value) (key : String) : Option Value :=
  (held key).or (files.get? key)

/-- The standard stack is loaded if both files can be read or are absent, and their
directory can be looked at if it is to be watched.

After any run of it there is one plain map: the writes to the store over the cascade of
the files at the latest successful reload.  The stack has the answers of this map, and a
value in the store hides the files whatever it is.  No read can tell the stack from a
source that agrees with the map on the keys of the read. -/
theorem standard_stack_precedence (tree : FileTree) (settings : Settings)
    (overrides : PropertyStore) :
    ((∃ layers, (standard tree settings overrides).value = .ok layers) ↔
      (filesOf settings).Readable tree ∧
        (settings.watches = true → ∃ isDirectory,
          tree.isDirectory (filesOf settings).basePath.parent = .ok isDirectory)) ∧
    ∀ layers, (standard tree settings overrides).value = .ok layers →
      ∀ moves : List Scene.Move,
        let start : Scene := ⟨tree, layers⟩
        let now := (start.run moves).layers
        let held (key : String) := (start.visits 0 moves).foldl
          (fun held visit => PropertyStore.heldAfter key held visit.step) (overrides.get? key)
        ∃ source files, layers[1]? = some (.files source) ∧
          FileSource.SameFiles (filesOf settings) source ∧
          source.Cascades (source.lastRead tree (start.visits 1 moves)) files ∧
          (∀ key, now.get? key = plain held files key) ∧
          (∀ key value, held key = some value → now.get? key = some value) ∧
          ∀ (query : PropertyReader.Query) (other : PropertyReader),
            other.scope = .text settings.scope →
            (∀ key ∈ query.keys settings.scope, other.source key = plain held files key) →
            query.answer (now.reader (.text settings.scope)) = query.answer other := by
  refine ⟨standard_returns_iff, ?_⟩
  intro layers loaded moves start now held
  obtain ⟨source, rfl, placed, serves⟩ := standard_layers loaded
  obtain ⟨same, servesNow⟩ := FileSource.visits_serve (start.visits 1 moves) serves
  have layersNow : now =
      [.memory ((start.visits 0 moves).foldl PropertyStore.visited overrides),
        .files ((start.visits 1 moves).foldl FileSource.visited source)] := by
    rw [← Layer.visited_memory, ← Layer.visited_files]
    exact Scene.layers_run start moves
  have answers (key : String) : now.get? key =
      plain held ((start.visits 1 moves).foldl FileSource.visited source).served key := by
    rw [layersNow, get?_cons, get?_cons, plain]
    change (PropertyStore.get? _ key).or ((Mapping.get? _ key).or none) = _
    rw [Option.or_none, PropertyStore.get?_visits]
  refine ⟨source, _, rfl, placed, same.symm.cascades servesNow, answers, ?_, ?_⟩
  · intro key value written
    rw [answers, plain, written]
    rfl
  · intro query other scopes agree
    refine query.answer_congr scopes.symm fun key member => ?_
    rw [scopes] at member
    exact (answers key).trans (agree key member).symm

/-- Settings under whose scope the name of the environment is. -/
def calmSettings : Settings where
  scope := "archaius."
  filesName := "app"
  environment := "eu"
  directory := "."
  watchSeconds := .zero
  logLevel := "INFO"
  logFormat := "json"

def calmLayers : Layered :=
  [.memory .empty,
    .files { filesOf calmSettings with served := FileSource.merged (.text "eu") .empty .empty }]

/-- A null over the name of the environment hides it, and reads as the default. -/
theorem null_override_reads_as_default :
    let now := (Scene.run ⟨{}, calmLayers⟩
      [.stepAt 0 (.set (.text FileSource.environmentKey) .null)]).layers
    (standard {} calmSettings .empty).value = .ok calmLayers ∧
      calmLayers.get? FileSource.environmentKey = some (.text "eu") ∧
      now.get? FileSource.environmentKey = some .null ∧
      (PropertyReader.Query.like "deployment.environment" (.text "none")).answer
        (now.reader (.text "archaius.")) = pure (.ok (.text "none")) := by
  intro now
  obtain ⟨noBase, noOverlay⟩ := FileSource.absent_files (filesOf calmSettings) rfl rfl
  have loaded : (standard {} calmSettings .empty).value = .ok calmLayers := by
    rw [standard_value, loadFiles_value, FileSource.load_value, ← filesOf,
      FileSource.cascade_of_contributes noBase noOverlay]
    rfl
  obtain ⟨_, precedence⟩ := standard_stack_precedence {} calmSettings .empty
  obtain ⟨source, files, _, _, _, answers, hides, reads⟩ := precedence calmLayers loaded
    [.stepAt 0 (.set (.text FileSource.environmentKey) .null)]
  have hidden : now.get? FileSource.environmentKey = some .null := hides _ .null rfl
  refine ⟨loaded, rfl, hidden, ?_⟩
  refine (reads (.like "deployment.environment" (.text "none"))
    ⟨fun _ => some .null, .text "archaius."⟩ rfl ?_).trans rfl
  intro key member
  obtain rfl : key = FileSource.environmentKey := List.mem_singleton.mp member
  exact hidden.symm.trans (answers _)

end DiscoveryClient.Layered
