import DiscoveryClient.Proofs.Properties.Run

/-!
# Look-ups through layers

To look a key up in a stack is to look it up in one mapping, into which the layers are merged
from the lowest to the topmost.  Presence alone counts: a null, an empty text or a zero hides
what lies below as any other value does.

A step at one layer leaves the others as they are, so it can change an answer only through
that layer's own entry, and only where no layer above has one.
-/

namespace DiscoveryClient

/-- The texts that a layer knows, with their values. -/
def Layer.mapping : Layer → Mapping Value
  | .memory store => store.named
  | .files source => source.served

theorem Layer.get?_mapping (layer : Layer) (key : String) :
    layer.mapping.get? key = layer.get? key := by
  cases layer <;> rfl

namespace Layered

variable {layers above below : Layered} {layer changed : Layer} {key : String} {value : Value}

/-- All layers in one mapping, upper ones overriding lower ones. -/
def merged (layers : Layered) : Mapping Value :=
  layers.foldr (fun layer below => below.merge layer.mapping) .empty

/-- What looking a key up with a default answers. -/
def answer (layers : Layered) (key : String) (default : Value) : Except Failure Value :=
  (layers.step (.get (.text key) default)).2.answer

theorem answer_eq (layers : Layered) (key : String) (default : Value) :
    layers.answer key default = .ok ((layers.get? key).getD default) := by
  rw [answer, Layered.step, SourceStep.found, look_text]
  rfl

theorem get?_merged (layers : Layered) (key : String) :
    layers.merged.get? key = layers.get? key := by
  induction layers with
  | nil => rfl
  | cons layer below induction =>
      rw [merged, List.foldr_cons, ← merged, Mapping.get?_merge, Layer.get?_mapping, induction,
        get?_cons]

theorem get?_append (above below : Layered) (key : String) :
    get? (above ++ below) key = (get? above key).or (get? below key) := by
  induction above with
  | nil => rfl
  | cons layer above induction =>
      rw [List.cons_append, get?_cons, get?_cons, induction, Option.or_assoc]

theorem get?_eq_none_iff : get? layers key = none ↔ ∀ layer ∈ layers, layer.get? key = none := by
  rw [get?, List.findSome?_eq_none_iff]

/-- Behind layers that do not hold a key, the next one that does answers. -/
theorem get?_topmost (absent : ∀ upper ∈ above, upper.get? key = none)
    (holds : layer.get? key = some value) :
    get? (above ++ layer :: below) key = some value := by
  rw [get?_append, get?_eq_none_iff.mpr absent, get?_cons, holds]
  rfl

/-- Replacing a layer shows only if its entry differs and nothing hides it. -/
theorem get?_replaced
    (differs : get? (above ++ changed :: below) key ≠ get? (above ++ layer :: below) key) :
    changed.get? key ≠ layer.get? key ∧ ∀ upper ∈ above, upper.get? key = none := by
  rw [get?_append, get?_append, get?_cons, get?_cons] at differs
  cases held : get? above key with
  | some value => simp [held] at differs
  | none =>
      refine ⟨fun same => differs (by rw [same]), ?_⟩
      exact get?_eq_none_iff.mp held

/-- A default comes back whatever it is only if nothing is held. -/
theorem answer_eq_default_iff :
    (∀ default, layers.answer key default = .ok default) ↔
      ∀ layer ∈ layers, layer.get? key = none := by
  rw [← get?_eq_none_iff]
  constructor
  · intro defaults
    have null := defaults .null
    have truth := defaults (.bool true)
    rw [answer_eq] at null truth
    cases held : get? layers key with
    | none => rfl
    | some value =>
        rw [held] at null truth
        cases null
        cases truth
  · intro held default
    rw [answer_eq, held]
    rfl

end Layered

/-- What visits make of a layer.  A store holds under a text what its own steps have left
there, and a source of files serves the cascade of those that it has read last. -/
def Layer.BecomesBy (visits : List Visit) (key : String) : (before after : Layer) → Prop
  | .memory store, .memory later =>
      later.get? key =
        visits.foldl (fun held visit => PropertyStore.heldAfter key held visit.step)
          (store.get? key)
  | .files source, .files later =>
      ∀ read, source.Cascades read source.served →
        FileSource.SameFiles source later ∧
          later.Cascades (source.lastRead read visits) later.served
  | _, _ => False

theorem Layer.becomesBy_visits (layer : Layer) (visits : List Visit) (key : String) :
    layer.BecomesBy visits key (visits.foldl Layer.visited layer) := by
  cases layer with
  | memory store =>
      rw [visited_memory]
      exact store.get?_visits visits key
  | files source =>
      rw [visited_files]
      exact fun read serves => FileSource.visits_serve visits serves

namespace Scene

theorem perform_stepAt_cases (scene : Scene) (number : Int) (step : SourceStep) :
    (scene.perform (.stepAt number step)).layers = scene.layers ∨
    ∃ above layer below, scene.layers = above ++ layer :: below ∧
      scene.layers.place? number = some above.length ∧
      (scene.perform (.stepAt number step)).layers =
        above ++ layer.visited ⟨scene.tree, step⟩ :: below := by
  cases placed : scene.layers.place? number with
  | none => exact .inl (stepAt_absent scene.tree step placed)
  | some place =>
      obtain ⟨layer, present⟩ := place?_present placed
      obtain ⟨inside, found⟩ := List.getElem?_eq_some_iff.mp present
      have split : scene.layers =
          scene.layers.take place ++ layer :: scene.layers.drop (place + 1) := by
        rw [← found, ← List.drop_eq_getElem_cons inside, List.take_append_drop]
      have front : (scene.layers.take place).length = place :=
        List.length_take_of_le (Nat.le_of_lt inside)
      refine .inr ⟨_, layer, _, split, by rw [front], ?_⟩
      rw [perform, stepAt_present scene.tree step placed present,
        List.set_eq_take_append_cons_drop, if_pos inside]

/-- After any run of a stack each layer is what the visits to it have made of it, and

* the topmost layer that holds a key answers with what it holds there,
* the default comes back just where no layer holds the key,
* the answer is that of all layers merged into one mapping,
* a further step at a layer changes the answer only if it changes what this layer holds
  under the key, and no layer above holds the key. -/
theorem lookup_is_merged_lookup (scene : Scene) (moves : List Move) (key : String) :
    let now := scene.run moves
    (now.layers.length = scene.layers.length ∧
      ∀ (place : Nat) (layer : Layer), scene.layers[place]? = some layer →
        ∃ later, now.layers[place]? = some later ∧
          layer.BecomesBy (scene.visits place moves) key later) ∧
    (∀ above layer below value, now.layers = above ++ layer :: below →
      (∀ upper ∈ above, upper.get? key = none) → layer.get? key = some value →
        ∀ default, now.layers.answer key default = .ok value) ∧
    ((∀ default, now.layers.answer key default = .ok default) ↔
      ∀ layer ∈ now.layers, layer.get? key = none) ∧
    (∀ default,
      now.layers.answer key default = .ok ((now.layers.merged.get? key).getD default)) ∧
    ∀ number step default,
      let next := now.perform (.stepAt number step)
      next.layers.answer key default ≠ now.layers.answer key default →
        ∃ above layer below, now.layers = above ++ layer :: below ∧
          now.layers.place? number = some above.length ∧
          next.layers = above ++ layer.visited ⟨now.tree, step⟩ :: below ∧
          (layer.visited ⟨now.tree, step⟩).get? key ≠ layer.get? key ∧
          ∀ upper ∈ above, upper.get? key = none := by
  intro now
  refine ⟨⟨?_, ?_⟩, ?_, Layered.answer_eq_default_iff, ?_, ?_⟩
  · rw [layers_run, List.length_mapIdx]
  · intro place layer present
    refine ⟨_, ?_, layer.becomesBy_visits (scene.visits place moves) key⟩
    rw [layer_run, present, Option.map_some]
  · intro above layer below value split absent holds default
    rw [Layered.answer_eq, split, Layered.get?_topmost absent holds, Option.getD_some]
  · intro default
    rw [Layered.answer_eq, Layered.get?_merged]
  · intro number step default next differs
    rcases now.perform_stepAt_cases number step with
      same | ⟨above, layer, below, split, placed, ends⟩
    · exact absurd (by rw [same]) differs
    · have shown : Layered.get? (above ++ layer.visited ⟨now.tree, step⟩ :: below) key ≠
          Layered.get? (above ++ layer :: below) key := by
        intro same
        refine differs ?_
        rw [Layered.answer_eq, Layered.answer_eq, ends, same, split]
      obtain ⟨changes, absent⟩ := Layered.get?_replaced shown
      exact ⟨above, layer, below, split, placed, ends, changes, absent⟩

/-- A file's value between an empty store and one with a value of its own. -/
def sandwich : Layered :=
  [ .memory .empty,
    .files { FileSource.place "app" (.text "eu") "." with
      served := Mapping.empty.insert "zone" (.text "file") },
    .memory { named := Mapping.empty.insert "zone" (.text "low") } ]

/-- An empty text that is set on top hides the file's value until it is removed. -/
theorem empty_text_hides_until_removed :
    let now := Scene.run ⟨{}, sandwich⟩ [.stepAt 0 (.set (.text "zone") (.text ""))]
    let next := now.perform (.stepAt 0 (.remove (.text "zone")))
    now.layers.answer "zone" (.text "none") = .ok (.text "") ∧
      next.layers.answer "zone" (.text "none") = .ok (.text "file") ∧
      ∃ above layer below, now.layers = above ++ layer :: below ∧
        now.layers.place? 0 = some above.length ∧
        (layer.visited ⟨now.tree, .remove (.text "zone")⟩).get? "zone" ≠ layer.get? "zone" := by
  intro now next
  obtain ⟨_, topmost, _, merged, changes⟩ :=
    lookup_is_merged_lookup ⟨{}, sandwich⟩ [.stepAt 0 (.set (.text "zone") (.text ""))] "zone"
  have hidden : now.layers.answer "zone" (.text "none") = .ok (.text "") :=
    topmost [] _ _ _ rfl (by simp) rfl _
  have removed : next.layers.answer "zone" (.text "none") = .ok (.text "file") := rfl
  refine ⟨hidden, removed, ?_⟩
  obtain ⟨above, layer, below, split, placed, _, differs, _⟩ :=
    changes 0 (.remove (.text "zone")) (.text "none") fun same => by
      have alike := removed.symm.trans (same.trans hidden)
      simp at alike
  exact ⟨above, layer, below, split, placed, differs⟩

end Scene

end DiscoveryClient
