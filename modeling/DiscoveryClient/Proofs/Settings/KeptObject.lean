import DiscoveryClient.Proofs.Settings.Bootstrap

/-!
# The kept object

Over any steps of a process, what it keeps is the object of the latest get that succeeded, if
there was no reset since: the history of its answers tells what is in the cache.  So a get
answers with that very object, whatever was changed in between, and without one it reads the
variables and the file of the moment.
-/

namespace DiscoveryClient

def BootstrapStep.isReset : BootstrapStep → Bool
  | .reset => true
  | _ => false

namespace Bootstrap

/-- A step with its answer. -/
structure Visit where
  step : BootstrapStep
  answer : Except Failure (Option SettingsObject)

/-- The object that a visit has brought, if any. -/
def Visit.object? (visit : Visit) : Option SettingsObject :=
  visit.answer.toOption.join

/-- The process after some steps. -/
def after (bootstrap : Bootstrap) (steps : List BootstrapStep) : Bootstrap :=
  steps.foldl (fun bootstrap step => (bootstrap.step step).1) bootstrap

/-- The steps with their answers, oldest first. -/
def visits (bootstrap : Bootstrap) : List BootstrapStep → List Visit
  | [] => []
  | step :: rest => ⟨step, (bootstrap.step step).2⟩ :: visits (bootstrap.step step).1 rest

/-- The object of the latest get that succeeded, if there was no reset since. -/
def latest? (history : List Visit) : Option SettingsObject :=
  (history.reverse.takeWhile fun visit => !visit.step.isReset).findSome? Visit.object?

variable {bootstrap : Bootstrap} {history : List Visit}

theorem latest?_reset (history : List Visit) (answer : Except Failure (Option SettingsObject)) :
    latest? (history ++ [⟨.reset, answer⟩]) = none := by
  simp [latest?, BootstrapStep.isReset]

theorem latest?_of_no_reset {visit : Visit} (noReset : visit.step.isReset = false) :
    latest? (history ++ [visit]) = visit.object?.or (latest? history) := by
  simp only [latest?, List.reverse_append, List.reverse_cons, List.reverse_nil, List.nil_append,
    List.singleton_append, List.takeWhile_cons, noReset, Bool.not_false, if_true,
    List.findSome?_cons]
  cases visit.object? <;> rfl

theorem exists_of_latest? {object : SettingsObject} (latest : latest? history = some object) :
    ∃ visit ∈ history, visit.object? = some object := by
  obtain ⟨visit, member, brought⟩ := List.exists_of_findSome?_eq_some latest
  exact ⟨visit, List.mem_reverse.1 ((List.takeWhile_sublist _).subset member), brought⟩

/-- A process keeps the object that its history tells, and has numbered all objects. -/
structure Remembers (history : List Visit) (bootstrap : Bootstrap) : Prop where
  kept : bootstrap.cache.kept = latest? history
  numbered : ∀ visit ∈ history, ∀ object, visit.object? = some object →
    object.number < bootstrap.cache.made

namespace Remembers

theorem begins (environment : Mapping String) (tree : FileTree) :
    Remembers [] { environment, tree } :=
  ⟨rfl, fun _ member => absurd member List.not_mem_nil⟩

-- Objects are numbered in the order in which they are made, so a new one differs from all that
-- were answered before.
theorem snoc (remembers : Remembers history bootstrap) {visit : Visit} {next : Bootstrap}
    (kept : next.cache.kept = latest? (history ++ [visit]))
    (made : bootstrap.cache.made ≤ next.cache.made)
    (numbered : ∀ object, visit.object? = some object → object.number < next.cache.made) :
    Remembers (history ++ [visit]) next := by
  refine ⟨kept, fun other member object brought => ?_⟩
  rcases List.mem_append.1 member with earlier | last
  · exact Nat.lt_of_lt_of_le (remembers.numbered other earlier object brought) made
  · obtain rfl := List.mem_singleton.1 last
    exact numbered object brought

/-- A step that neither resets nor brings an object leaves all as it was. -/
theorem aside (remembers : Remembers history bootstrap) {visit : Visit} {next : Bootstrap}
    (noReset : visit.step.isReset = false) (nothing : visit.object? = none)
    (same : next.cache = bootstrap.cache) : Remembers (history ++ [visit]) next := by
  refine remembers.snoc ?_ (Nat.le_of_eq (by rw [same])) (by simp [nothing])
  rw [same, remembers.kept, latest?_of_no_reset noReset, nothing, Option.none_or]

/-- A get brings the kept object, or a new one that is kept from then on, or none. -/
theorem get (remembers : Remembers history bootstrap) :
    Remembers (history ++ [⟨.get, (bootstrap.step .get).2⟩]) (bootstrap.step .get).1 := by
  cases kept : bootstrap.cache.kept with
  | some object =>
      rw [step_get, settings_kept kept]
      refine remembers.snoc ?_ (Nat.le_refl _) ?_
      · rw [kept, latest?_of_no_reset rfl]
        rfl
      · intro other brought
        obtain rfl : object = other := Option.some.inj brought
        obtain ⟨visit, member, earlier⟩ := exists_of_latest? (remembers.kept ▸ kept)
        exact remembers.numbered visit member object earlier
  | none =>
      cases given : bootstrap.sources.settings with
      | ok settings =>
          rw [step_get, settings_read kept given]
          refine remembers.snoc ?_ (Nat.le_succ _) ?_
          · rw [latest?_of_no_reset rfl]
            rfl
          · intro object brought
            obtain rfl : bootstrap.cache.next settings = object := Option.some.inj brought
            exact Nat.lt_succ_self _
      | error problem =>
          rw [step_get, settings_failed kept given]
          exact remembers.aside rfl rfl rfl

theorem step (remembers : Remembers history bootstrap) (step : BootstrapStep) :
    Remembers (history ++ [⟨step, (bootstrap.step step).2⟩]) (bootstrap.step step).1 := by
  cases step with
  | environment environment => exact remembers.aside rfl rfl rfl
  | files tree => exact remembers.aside rfl rfl rfl
  | reset =>
      refine remembers.snoc (latest?_reset history _).symm (Nat.le_refl _) ?_
      intro object brought
      cases brought
  | get => exact remembers.get

theorem steps (remembers : Remembers history bootstrap) (steps : List BootstrapStep) :
    Remembers (history ++ bootstrap.visits steps) (bootstrap.after steps) := by
  induction steps generalizing history bootstrap with
  | nil => simpa [visits, Bootstrap.after] using remembers
  | cons first rest induction =>
      have next := induction (remembers.step first)
      rwa [List.append_assoc, List.singleton_append] at next

end Remembers

/-- After any steps, a get answers with the very object of the latest get that succeeded, if
there was no reset since, and changes nothing.  Without such an object it goes by the
variables and the file of the moment: if every field accepts its value in effect, it answers
with a new object of the values that the fields make, and keeps it; if not, it fails with one
message for each field that does not, and leaves the process as it was. -/
theorem kept_object_answers_until_reset (environment : Mapping String) (tree : FileTree)
    (steps : List BootstrapStep) :
    let start : Bootstrap := { environment, tree }
    let bootstrap := start.after steps
    let history := start.visits steps
    (∀ object, latest? history = some object →
      bootstrap.step .get = (bootstrap, .ok (some object))) ∧
    ∀ text, bootstrap.sources.FileReads text → latest? history = none →
      let raw := bootstrap.sources.effective text
      ((∀ field : SettingField, field.Accepts (raw field)) →
        ∃ object, bootstrap.step .get = (bootstrap.keeping object, .ok (some object)) ∧
          (∀ field : SettingField, field.Takes (raw field) (object.settings.value field)) ∧
          ∀ visit ∈ history, ∀ earlier, visit.object? = some earlier →
            earlier.number ≠ object.number) ∧
      ((¬ ∀ field : SettingField, field.Accepts (raw field)) →
        ∃ failure : Failure, failure.Reports raw ∧
          bootstrap.step .get = (bootstrap, .error failure)) := by
  intro start bootstrap history
  have remembers : Remembers history bootstrap := (Remembers.begins environment tree).steps steps
  refine ⟨?_, ?_⟩
  · intro object latest
    rw [step_get, settings_kept (remembers.kept.trans latest)]
    rfl
  · intro text reads latest raw
    have unkept : bootstrap.cache.kept = none := remembers.kept.trans latest
    refine ⟨?_, ?_⟩
    · intro accepts
      obtain ⟨settings, takes, answered⟩ := settings_accepted unkept reads accepts
      refine ⟨bootstrap.cache.next settings, ?_, takes, ?_⟩
      · rw [step_get, answered]
        rfl
      · intro visit member earlier brought
        exact Nat.ne_of_lt (remembers.numbered visit member earlier brought)
    · intro refuses
      obtain ⟨failure, reports, answered⟩ := settings_refused unkept reads refuses
      refine ⟨failure, reports, ?_⟩
      rw [step_get, answered]
      rfl

def variablesOf (scope : String) : Mapping String where
  entries := [("DISCOVERY_NAMESPACE", scope)]

/-- The scope becomes one without a dot while an object is kept. -/
def spoiled : List BootstrapStep :=
  [.get, .environment (variablesOf "b")]

/-- The object is dropped as well. -/
def exposed : List BootstrapStep :=
  spoiled ++ [.reset]

/-- A get fails, and the scope becomes a good one again. -/
def mended : List BootstrapStep :=
  exposed ++ [.get, .environment (variablesOf "b.")]

theorem spoiled_scope_is_reported_after_reset :
    let start : Bootstrap := { environment := variablesOf "a." }
    ((start.after spoiled).step .get).2 =
        .ok (some ⟨0, { Settings.initial with scope := "a." }⟩) ∧
      (∃ failure : Failure, failure.Reports ((start.after exposed).sources.effective []) ∧
        ((start.after exposed).step .get).2 = .error failure) ∧
      ∃ object : SettingsObject, object.number ≠ 0 ∧ object.settings.scope = "b." ∧
        ((start.after mended).step .get).2 = .ok (some object) := by
  intro start
  have general := kept_object_answers_until_reset (variablesOf "a.") {}
  have same := (general spoiled).1 ⟨0, { Settings.initial with scope := "a." }⟩ rfl
  obtain ⟨failure, reports, failed⟩ := ((general exposed).2 [] (.absent rfl) rfl).2 fun accepts =>
    absurd (accepts .scope) (by decide)
  have accepts : ∀ field : SettingField,
      field.Accepts ((start.after mended).sources.effective [] field) := by
    intro field
    cases field <;> decide +kernel
  obtain ⟨object, answered, takes, new⟩ := ((general mended).2 [] (.absent rfl) rfl).1 accepts
  have scope : object.settings.scope = "b." := by
    have taken : SettingField.Takes .scope (.text "b.") (.text object.settings.scope) :=
      takes .scope
    generalize object.settings.scope = scope at taken
    cases taken
    rfl
  exact ⟨congrArg Prod.snd same, ⟨failure, reports, congrArg Prod.snd failed⟩,
    object, (new _ List.mem_cons_self _ rfl).symm, scope, congrArg Prod.snd answered⟩

end Bootstrap

end DiscoveryClient
