import DiscoveryClient.Proofs.Properties.Secrecy

/-!
# Typed reads

A read of a key as some type answers with a value of that type for every stored value that has a
text, and as an integer for every value at all, an integer of any length included.

The default stands in for a value that is absent or null without a word, and for one that
denotes nothing with one warning.  There are no other warnings.  The default of a list is taken
for the list that it stands for: a text for its tokens, and nothing for no items.
-/

namespace DiscoveryClient.PropertyReader

open Log Text

variable {raw value : Value}

/-! ## Values and defaults of a type -/

/-- The values of a type.  Where text is wanted, null stands for no text, and truth values
count among the integers. -/
def Kind.Has : Kind → Value → Prop
  | .string, .null | .string, .text _ => True
  | .int, .int _ | .int, .bool _ => True
  | .bool, .bool _ => True
  | .list, .list items => ∀ item ∈ items, ∃ text, item = .text text
  | _, _ => False

/-- What a default of the matching type stands for.  That of a list can be a list or tuple of
texts, one text, or nothing. -/
inductive Kind.Defaults : Kind → Value → Value → Prop where
  | noText : Defaults .string .null .null
  | text (text : String) : Defaults .string (.text text) (.text text)
  | int (value : Int) : Defaults .int (.int value) (.int value)
  | truth (value : Bool) : Defaults .int (.bool value) (.bool value)
  | bool (value : Bool) : Defaults .bool (.bool value) (.bool value)
  | noItems : Defaults .list .null (.list [])
  | items {text : String} {tokens : List String} (splits : CommaList.Splits text tokens) :
      Defaults .list (.text text) (.texts tokens)
  | list (texts : List String) : Defaults .list (.texts texts) (.texts texts)
  | tuple (texts : List String) : Defaults .list (.tuple (texts.map .text)) (.texts texts)

/-- A value that is not null is stored under the key of a read. -/
def Wanted.Stored (reader : PropertyReader) (wanted : Wanted) (raw : Value) : Prop :=
  reader.source (reader.key wanted.suffix) = some raw ∧ raw ≠ .null

/-! ## Reads -/

variable {reader : PropertyReader} {wanted : Wanted} {default fallback : Value} {kind : Kind}
  {suffix : String}

theorem Wanted.stored_iff :
    wanted.Stored reader raw ↔ reader.given? (reader.key wanted.suffix) = some raw := by
  rw [given?, Option.filter_eq_some_iff, Wanted.Stored]
  refine and_congr_right fun _ => ?_
  cases raw <;> simp [Value.isNull]

theorem given?_of_stored (stored : reader.source (reader.key suffix) = some raw)
    (present : raw ≠ .null) : reader.given? (reader.key suffix) = some raw :=
  Wanted.stored_iff.mp (⟨stored, present⟩ : Wanted.Stored reader ⟨.string, suffix, .null⟩ raw)

/-- No value is stored, or one that denotes something, or one that does not. -/
theorem Wanted.stored_cases (reader : PropertyReader) (wanted : Wanted) :
    (∀ raw, ¬ wanted.Stored reader raw) ∨ ∃ raw, wanted.Stored reader raw ∧
      ((∃ value, Denotes wanted.kind raw value) ∨ ∀ value, ¬ Denotes wanted.kind raw value) := by
  by_cases stored : ∃ raw, wanted.Stored reader raw
  · obtain ⟨raw, stored⟩ := stored
    refine .inr ⟨raw, stored, ?_⟩
    rw [← not_exists]
    exact Classical.em _
  · exact .inl (not_exists.mp stored)

/-- A default of the matching type is taken for what it stands for. -/
theorem getAs_absent (suits : kind.Defaults default fallback)
    (absent : reader.given? (reader.key suffix) = none) :
    reader.getAs kind suffix default = pure (.ok fallback) := by
  cases suits with
  | noText => simp only [getAs, string?, text?, absent]; rfl
  | text => simp only [getAs, string?, text?, absent]; rfl
  | int => simp only [getAs, readInt, absent]; rfl
  | truth => simp only [getAs, readInt, absent]; rfl
  | bool => simp only [getAs, readBool, absent]; rfl
  | noItems => simp only [getAs, tokens?, absent]; rfl
  | items splits =>
      rw [← CommaList.splits_iff.mp splits]
      simp only [getAs, tokens?, absent]
      rfl
  | list => simp only [getAs, tokens?, absent]; rfl
  | tuple => simp only [getAs, tokens?, absent]; rfl

/-- What a read makes of a stored value, by its conversion. -/
theorem getAs_given (given : reader.given? (reader.key suffix) = some raw) (default : Value) :
    reader.getAs kind suffix default =
      match kind.convert raw with
      | .error failure => pure (.error failure)
      | .ok (some value) => pure (.ok value)
      | .ok none =>
          { value := .ok default
            events := [ignoredValue (reader.key suffix) raw kind.word default] } := by
  cases kind with
  | string =>
      simp only [getAs, string?, text?, given, Option.mapM_some, Kind.convert]
      cases raw.written <;> rfl
  | int =>
      simp only [getAs, readInt, given, Reading.ofValue?, Kind.convert]
      cases toInt? raw <;> rfl
  | bool =>
      simp only [getAs, readBool, given, Kind.convert]
      rcases toBool? raw with _ | _ | truth <;> rfl
  | list =>
      simp only [getAs, tokens?, given, Option.mapM_some, Kind.convert]
      cases toTokens raw <;> rfl

theorem getAs_converted (given : reader.given? (reader.key suffix) = some raw)
    (converts : kind.convert raw = .ok (some value)) :
    reader.getAs kind suffix default = pure (.ok value) := by
  rw [getAs_given given, converts]

/-- A default that stands for another value is that of a list, and lists are never refused. -/
theorem getAs_refused (suits : kind.Defaults default fallback)
    (given : reader.given? (reader.key suffix) = some raw)
    (refuses : kind.convert raw = .ok none) :
    reader.getAs kind suffix default =
      { value := .ok fallback
        events := [ignoredValue (reader.key suffix) raw kind.word default] } := by
  rw [getAs_given given, refuses]
  cases kind with
  | list =>
      rw [Kind.convert] at refuses
      cases tokens : toTokens raw <;> rw [tokens] at refuses <;> cases refuses
  | _ => cases suits <;> rfl

/-! ## Types of answers -/

theorem has_texts (texts : List String) : Kind.Has .list (.texts texts) := by
  intro item member
  obtain ⟨text, _, rfl⟩ := List.mem_map.mp member
  exact ⟨text, rfl⟩

theorem Kind.Defaults.has (suits : kind.Defaults default fallback) : kind.Has fallback := by
  cases suits with
  | noItems => exact has_texts []
  | items => exact has_texts _
  | list => exact has_texts _
  | tuple => exact has_texts _
  | _ => trivial

theorem Denotes.has (denotes : Denotes kind raw value) : kind.Has value := by
  cases denotes with
  | items => exact has_texts _
  | split => exact has_texts _
  | _ => trivial

theorem Query.answer_eq_getAs {asked : Query} (of : asked.wanted? = some wanted) :
    asked.answer reader = reader.getAs wanted.kind wanted.suffix wanted.default := by
  cases asked with
  | as kind suffix default => obtain rfl := Option.some.inj of; rfl
  | like suffix default => obtain rfl := Option.some.inj of; rfl
  | _ => cases of

/-- A word for a truth value in odd letters, a truth value that is asked for as a number, and an
integer that has no text. -/
def truths (key : String) : Option Value :=
  if key = "eureka.on" then some (.text " \tYeS\n")
  else if key = "eureka.n" then some (.bool true)
  else if key = "eureka.long" then some (.int Value.leastUnwritable)
  else none

end DiscoveryClient.PropertyReader
