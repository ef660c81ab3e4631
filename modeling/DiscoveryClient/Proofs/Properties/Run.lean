import DiscoveryClient.Proofs.Properties.Reload
import DiscoveryClient.Properties.Step

/-!
# Runs of a stack

Files change in any way and the sources of a stack are stepped, in any order and
for any length.  A layer is touched only by the steps that reach it, each with
the files as they are at that time.

So a store holds what its own writes have made of it, and a source of files
serves the cascade of the files at its latest successful reload.  What carries
the second through a run is the tree that was read last.
-/

namespace DiscoveryClient

open Log

/-- A step that reaches a source, and the files at that time. -/
structure Visit where
  tree : FileTree
  step : SourceStep

/-! ## Sources of files -/

namespace FileSource

variable {tree read : FileTree} {source next : FileSource} {step : SourceStep}

/-- Does a step read the files again? -/
def rereads (source : FileSource) : SourceStep → Bool
  | .reload => true
  | .event (.ok change) => source.concerns change
  | _ => false

theorem onChange_of_unconcern {change : Change} (unconcerned : source.concerns change = false) :
    source.onChange tree change = pure (source, .ok none) := by
  simp only [onChange, unconcerned, Bool.false_eq_true, if_false]

/-- The same files under the same names, whatever is served of them. -/
structure SameFiles (source next : FileSource) : Prop where
  environment : next.environment = source.environment
  basePath : next.basePath = source.basePath
  environmentPath : next.environmentPath = source.environmentPath

theorem SameFiles.refl (source : FileSource) : SameFiles source source := ⟨rfl, rfl, rfl⟩

theorem SameFiles.symm (same : SameFiles source next) : SameFiles next source :=
  ⟨same.environment.symm, same.basePath.symm, same.environmentPath.symm⟩

theorem SameFiles.trans {last : FileSource} (first : SameFiles source next)
    (second : SameFiles next last) : SameFiles source last :=
  ⟨second.environment.trans first.environment, second.basePath.trans first.basePath,
    second.environmentPath.trans first.environmentPath⟩

theorem SameFiles.cascades {mapping : Mapping Value} (same : SameFiles source next)
    (cascades : source.Cascades tree mapping) : next.Cascades tree mapping := by
  obtain ⟨base, overlay, first, second, answers⟩ := cascades
  refine ⟨base, overlay, ?_, ?_, ?_⟩
  · rw [same.basePath]
    exact first
  · rw [same.environmentPath]
    exact second
  · rw [same.environment]
    exact answers

/-- The files that a source has read last, if it begins with those of a tree and goes on
to reload, successfully or not, with those of another. -/
def readAfter (source : FileSource) (tree read : FileTree) : FileTree :=
  if (source.reload tree).value.2.isOk then tree else read

theorem reload_serves (serves : source.Cascades read source.served) :
    SameFiles source (source.reload tree).value.1 ∧
      (source.reload tree).value.1.Cascades (source.readAfter tree read)
        (source.reload tree).value.1.served := by
  cases ended : (source.reload tree).value.2 with
  | ok changed =>
      obtain ⟨mapping, readNow, _, kept⟩ := reload_ok ended
      have same : SameFiles source { source with served := mapping } := ⟨rfl, rfl, rfl⟩
      rw [kept, readAfter, ended]
      exact ⟨same, same.cascades (cascades_of_read readNow)⟩
  | error failure =>
      obtain ⟨_, kept⟩ := reload_error ended
      rw [kept, readAfter, ended]
      exact ⟨.refl source, serves⟩

theorem onChange_of_concern {change : Change} (concerned : source.concerns change = true) :
    (source.onChange tree change).value.1 = (source.reload tree).value.1 := by
  simp only [onChange, concerned, if_true, Logged.value_bind]
  rcases (source.reload tree).value with ⟨next, (_ | _) | (_ | _)⟩ <;> rfl

theorem watch_keeps (tree : FileTree) (interval : Value) (source : FileSource) :
    ∃ isWatched, (source.watch tree interval).value.1 = { source with isWatched } := by
  have unmoved : ∃ isWatched, source = { source with isWatched } := ⟨source.isWatched, rfl⟩
  unfold watch
  cases isTooShort interval with
  | error failure => exact unmoved
  | ok tooShort =>
      cases tooShort with
      | true => exact unmoved
      | false =>
          dsimp only
          by_cases watched : source.isWatched = true
          · rw [if_pos watched]
            exact unmoved
          · rw [if_neg watched]
            cases tree.isDirectory source.basePath.parent with
            | error fault => exact unmoved
            | ok isDirectory =>
                cases isDirectory with
                | false => exact unmoved
                | true =>
                    cases canWait interval with
                    | true => exact ⟨true, rfl⟩
                    | false => exact unmoved

/-- A step reloads, or it leaves alone what is served. -/
theorem step_cases (tree : FileTree) (source : FileSource) (step : SourceStep) :
    (source.rereads step = true ∧
      (source.step tree step).value.1 = (source.reload tree).value.1) ∨
    (source.rereads step = false ∧
      ∃ isWatched, (source.step tree step).value.1 = { source with isWatched }) := by
  cases step with
  | reload => exact .inl ⟨rfl, rfl⟩
  | event change =>
      cases change with
      | error failure => exact .inr ⟨rfl, source.isWatched, rfl⟩
      | ok change =>
          cases concerned : source.concerns change with
          | true => exact .inl ⟨concerned, onChange_of_concern concerned⟩
          | false =>
              have ended : source.onChange tree change = _ := onChange_of_unconcern concerned
              exact .inr ⟨concerned, source.isWatched,
                congrArg (fun logged => logged.value.1) ended⟩
  | watch interval => exact .inr ⟨rfl, watch_keeps tree interval source⟩
  | close => exact .inr ⟨rfl, false, rfl⟩
  | _ => exact .inr ⟨rfl, source.isWatched, rfl⟩

/-- The files that a source has read last after a visit. -/
def readIn (source : FileSource) (visit : Visit) (read : FileTree) : FileTree :=
  if source.rereads visit.step then source.readAfter visit.tree read else read

/-- The source after a visit. -/
def visited (source : FileSource) (visit : Visit) : FileSource :=
  (source.step visit.tree visit.step).value.1

theorem visited_serves (visit : Visit) (serves : source.Cascades read source.served) :
    SameFiles source (source.visited visit) ∧
      (source.visited visit).Cascades (source.readIn visit read)
        (source.visited visit).served := by
  rcases step_cases visit.tree source visit.step with ⟨reads, ended⟩ | ⟨reads, isWatched, ended⟩
  · rw [visited, ended, readIn, reads]
    exact reload_serves serves
  · have same : SameFiles source { source with isWatched } := ⟨rfl, rfl, rfl⟩
    rw [visited, ended, readIn, reads]
    exact ⟨same, same.cascades serves⟩

/-- The files at the latest successful reload during some visits, or those read before. -/
def lastRead (read : FileTree) : FileSource → List Visit → FileTree
  | _, [] => read
  | source, visit :: rest => lastRead (source.readIn visit read) (source.visited visit) rest

/-- A source of files serves the cascade of those that it has read last. -/
theorem visits_serve (visits : List Visit) (serves : source.Cascades read source.served) :
    SameFiles source (visits.foldl visited source) ∧
      (visits.foldl visited source).Cascades (source.lastRead read visits)
        (visits.foldl visited source).served := by
  -- A visit may read the files again, so the tree that was read last varies with the source.
  induction visits generalizing source read with
  | nil => exact ⟨.refl source, serves⟩
  | cons visit rest induction =>
      obtain ⟨same, servesNow⟩ := visited_serves visit serves
      obtain ⟨sameLater, servesLater⟩ := induction servesNow
      exact ⟨same.trans sameLater, servesLater⟩

theorem load_value (tree : FileTree) (name environment directory : String) :
    (load tree name (.text environment) directory).value =
      (cascade tree (place name (.text environment) directory)).map fun mapping =>
        { place name (.text environment) directory with served := mapping } := by
  change ((place name (.text environment) directory).reload tree).value.2.map
    (fun _ => ((place name (.text environment) directory).reload tree).value.1) = _
  cases ended : cascade tree (place name (.text environment) directory) with
  | ok mapping => rw [reload_of_read ended]; rfl
  | error failure => rw [reload_of_failure ended]; rfl

theorem load_serves {name environment directory : String}
    (loaded : (load tree name (.text environment) directory).value = .ok source) :
    SameFiles (place name (.text environment) directory) source ∧
      source.Cascades tree source.served := by
  rw [load_value] at loaded
  cases ended : cascade tree (place name (.text environment) directory) with
  | error failure => rw [ended] at loaded; cases loaded
  | ok mapping =>
      rw [ended] at loaded
      cases loaded
      exact ⟨⟨rfl, rfl, rfl⟩, cascades_of_read ended⟩

end FileSource

/-! ## Stores -/

namespace PropertyStore

variable {store : PropertyStore} {key : String} {held : Option Value}

/-- Is a key of any type this text? -/
def isText (key : String) : Value → Bool
  | .text name => name = key
  | _ => false

/-- What entries that are written one after another make of the value under a text. -/
def writtenOver (key : String) (held : Option Value) (entries : List Value.Entry) : Option Value :=
  entries.foldl (fun held entry => if isText key entry.1 then some entry.2 else held) held

/-- What a step makes of the value under a text.  A step that is refused, or is none of
a store, makes nothing of it. -/
def heldAfter (key : String) (held : Option Value) : SourceStep → Option Value
  | .set written value => if isText key written then some value else held
  | .remove removed => if isText key removed then none else held
  | .update value => (value.entries.toOption.map (writtenOver key held)).getD held
  | .clear => none
  | _ => held

theorem get?_put (store : PropertyStore) (written value : Value) (key : String) :
    (store.put written value).get? key =
      if isText key written then some value else store.get? key := by
  cases written with
  | text name => simp [isText, eq_comm]
  | _ => rfl

theorem get?_erase (store : PropertyStore) (removed : Value) (key : String) :
    (store.erase removed).get? key = if isText key removed then none else store.get? key := by
  cases removed with
  | text name => simp [isText, eq_comm]
  | _ => rfl

theorem isFixed_of_isText {written : Value} (text : isText key written = true) :
    written.isFixed = true := by
  cases written with
  | text name => rfl
  | _ => cases text

theorem get?_of_isEmpty (empty : store.isEmpty = true) : store.get? key = none := by
  rw [isEmpty, Bool.and_eq_true, List.isEmpty_iff] at empty
  rw [get?, Mapping.get?, empty.1]
  rfl

theorem get?_update (store : PropertyStore) (entries : List Value.Entry) (key : String) :
    (entries.foldl (fun store entry => store.put entry.1 entry.2) store).get? key =
      writtenOver key (store.get? key) entries := by
  induction entries generalizing store with
  | nil => rfl
  | cons entry rest induction =>
      rw [List.foldl_cons, induction, get?_put, writtenOver, writtenOver, List.foldl_cons]

theorem get?_change {refusable : Except Failure PropertyStore} :
    (store.change refusable).1.get? key =
      (refusable.toOption.map fun changed => changed.get? key).getD (store.get? key) := by
  cases refusable <;> rfl

/-- A step does to the value under a text what it does there by itself. -/
theorem get?_step (store : PropertyStore) (step : SourceStep) (key : String) :
    (store.step step).1.get? key = heldAfter key (store.get? key) step := by
  cases step with
  | set written value =>
      rw [PropertyStore.step, get?_change, set, withKey, heldAfter]
      cases fixed : written.isFixed with
      | true => exact get?_put store written value key
      | false =>
          cases text : isText key written with
          | true => rw [isFixed_of_isText text] at fixed; cases fixed
          | false => rfl
  | remove removed =>
      rw [PropertyStore.step, get?_change, remove, withKey, heldAfter]
      cases empty : store.isEmpty with
      | true =>
          rw [get?_of_isEmpty empty]
          simp [Except.toOption, get?_of_isEmpty empty]
      | false =>
          cases fixed : removed.isFixed with
          | true => exact get?_erase store removed key
          | false =>
              cases text : isText key removed with
              | true => rw [isFixed_of_isText text] at fixed; cases fixed
              | false => rfl
  | update value =>
      rw [PropertyStore.step, get?_change, update, heldAfter]
      cases value.entries with
      | error failure => rfl
      | ok entries => exact get?_update store entries key
  | clear => rfl
  | _ => rfl

/-- The store after a visit. -/
def visited (store : PropertyStore) (visit : Visit) : PropertyStore :=
  (store.step visit.step).1

/-- A store holds under a text what its own steps have made of it. -/
theorem get?_visits (store : PropertyStore) (visits : List Visit) (key : String) :
    (visits.foldl visited store).get? key =
      visits.foldl (fun held visit => heldAfter key held visit.step) (store.get? key) := by
  induction visits generalizing store with
  | nil => rfl
  | cons visit rest induction =>
      rw [List.foldl_cons, List.foldl_cons, induction, visited, get?_step]

end PropertyStore

/-! ## Stacks -/

namespace Layer

/-- The layer after a visit. -/
def visited (layer : Layer) (visit : Visit) : Layer :=
  (layer.step visit.tree visit.step).value.1

theorem visited_memory (store : PropertyStore) (visits : List Visit) :
    visits.foldl visited (.memory store) = .memory (visits.foldl PropertyStore.visited store) := by
  induction visits generalizing store with
  | nil => rfl
  | cons visit rest induction => exact induction (store.visited visit)

theorem visited_files (source : FileSource) (visits : List Visit) :
    visits.foldl visited (.files source) = .files (visits.foldl FileSource.visited source) := by
  induction visits generalizing source with
  | nil => rfl
  | cons visit rest induction => exact induction (source.visited visit)

end Layer

/-- A stack, and the files as they are. -/
structure Scene where
  tree : FileTree
  layers : Layered

namespace Scene

variable {scene : Scene} {place : Nat}

/-- What happens: the files change in any way, or a layer is stepped, or all the stack. -/
inductive Move where
  | edit (tree : FileTree)
  | stepAt (number : Int) (step : SourceStep)
  | step (step : SourceStep)

def perform (scene : Scene) : Move → Scene
  | .edit tree => { scene with tree }
  | .stepAt number step =>
      { scene with layers := (scene.layers.stepAt scene.tree number step).value.1 }
  | .step step => { scene with layers := (scene.layers.step step).1 }

/-- The step that reaches a layer in a move, if one does. -/
def stepTo (scene : Scene) (place : Nat) : Move → Option SourceStep
  | .stepAt number step => if scene.layers.place? number = some place then some step else none
  | .step .close => some .close
  | _ => none

/-- The visit to a layer in a move. -/
def visit? (scene : Scene) (place : Nat) (move : Move) : Option Visit :=
  (scene.stepTo place move).map (⟨scene.tree, ·⟩)

/-- The visits to a layer in a run. -/
def visits (place : Nat) : Scene → List Move → List Visit
  | _, [] => []
  | scene, move :: rest =>
      (scene.visit? place move).toList ++ visits place (scene.perform move) rest

theorem place?_lt {layers : Layered} {number : Int} (placed : layers.place? number = some place) :
    place < layers.length := by
  rw [Layered.place?] at placed
  generalize (if number < 0 then number + layers.length else number) = signed at placed
  simp only [Option.ite_none_right_eq_some, Option.some.injEq] at placed
  omega

theorem place?_present {layers : Layered} {number : Int}
    (placed : layers.place? number = some place) : ∃ layer, layers[place]? = some layer :=
  ⟨_, List.getElem?_eq_getElem (place?_lt placed)⟩

theorem stepAt_absent {layers : Layered} {number : Int} (tree : FileTree) (step : SourceStep)
    (absent : layers.place? number = none) : (layers.stepAt tree number step).value.1 = layers := by
  simp only [Layered.stepAt, absent, Option.bind_none]
  rfl

theorem stepAt_present {layers : Layered} {number : Int} {layer : Layer} (tree : FileTree)
    (step : SourceStep) (placed : layers.place? number = some place)
    (present : layers[place]? = some layer) :
    (layers.stepAt tree number step).value.1 =
      layers.set place (layer.visited ⟨tree, step⟩) := by
  simp only [Layered.stepAt, placed, Option.bind_some, present, Option.map_some]
  rfl

theorem visited_close (layer : Layer) (tree : FileTree) :
    layer.visited ⟨tree, .close⟩ = layer.close := by
  cases layer <;> rfl

/-- A move does to a layer what its visit does. -/
theorem layer_perform (scene : Scene) (move : Move) (place : Nat) :
    (scene.perform move).layers[place]? =
      scene.layers[place]?.map fun layer =>
        (scene.visit? place move).toList.foldl Layer.visited layer := by
  cases move with
  | edit tree => simp [perform, visit?, stepTo]
  | stepAt number step =>
      cases placed : scene.layers.place? number with
      | none =>
          simp [perform, visit?, stepTo, placed, stepAt_absent scene.tree step placed]
      | some other =>
          obtain ⟨layer, present⟩ := place?_present placed
          have ended := stepAt_present scene.tree step placed present
          rw [perform, ended, List.getElem?_set]
          by_cases here : other = place
          · subst here
            rw [if_pos rfl, if_pos (place?_lt placed), present, visit?, stepTo, if_pos placed]
            rfl
          · simp [visit?, stepTo, placed, here]
  | step step =>
      cases step with
      | close =>
          simp [perform, visit?, stepTo, Layered.step, Layered.close, visited_close]
      | _ => simp [perform, visit?, stepTo, Layered.step]

/-- The scene after some moves. -/
def run (scene : Scene) (moves : List Move) : Scene :=
  moves.foldl perform scene

/-- A run does to a layer what the visits to it do. -/
theorem layer_run (scene : Scene) (moves : List Move) (place : Nat) :
    (scene.run moves).layers[place]? =
      scene.layers[place]?.map fun layer =>
        (scene.visits place moves).foldl Layer.visited layer := by
  induction moves generalizing scene with
  | nil => simp [run, visits]
  | cons move rest induction =>
      rw [run, List.foldl_cons, ← run, induction, layer_perform, Option.map_map, visits]
      simp only [List.foldl_append, Function.comp_def]

/-- Each layer of a stack is what the visits to it have made of it. -/
theorem layers_run (scene : Scene) (moves : List Move) :
    (scene.run moves).layers =
      scene.layers.mapIdx fun place layer =>
        (scene.visits place moves).foldl Layer.visited layer := by
  refine List.ext_getElem? fun place => ?_
  rw [layer_run, List.getElem?_mapIdx]

end Scene

end DiscoveryClient
