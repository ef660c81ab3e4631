import DiscoveryClient.Proofs.Log.SecretName
import DiscoveryClient.Proofs.Number.IntegerText
import DiscoveryClient.Proofs.Text.CommaText
import DiscoveryClient.Proofs.Text.ValueText
import DiscoveryClient.Properties.Reader

/-!
# What stored values denote

What a stored value denotes as some type is said here without regard to how it is read: numerals
by their grammar, words for truth values by their letters, in any case and between blanks, and
lists by tokens that give the text with commas between them.

All but integers and truth values go by the text of the value.  A value that has none, as an
integer in it has too many digits, denotes nothing.  Where an integer is wanted it is refused
like any other value, and elsewhere it makes the read fail.
-/

namespace DiscoveryClient.PropertyReader

open Log Text

/-! ## Words for truth values -/

section Words

/-- A text is a word, in letters of any case and between blanks. -/
def Spells (word text : String) : Prop :=
  ∃ front letters back, text.toList = front ++ (letters ++ back) ∧ Blanks front ∧ Blanks back ∧
    letters.map Char.toLower = word.toList

variable {word text : String} {letters : List Char}

theorem lower_of_cases (plain : ∀ letter ∈ word.toList, letter ∉ strayLetters)
    (cases : letters.map Char.toLower = word.toList) :
    letters.flatMap lowerChar = word.toList := by
  rw [← cases, List.map_eq_flatMap]
  refine List.flatMap_congr fun c member => lowerChar_of_toLower (plain _ ?_) rfl
  rw [← cases]
  exact List.mem_map_of_mem member

theorem lower_eq_iff (plain : ∀ letter ∈ word.toList, letter ∉ strayLetters) :
    letters.flatMap lowerChar = word.toList ↔ letters.map Char.toLower = word.toList := by
  refine ⟨fun same => ?_, lower_of_cases plain⟩
  have suffix : word.toList <:+ letters.flatMap lowerChar := by
    rw [same]
  obtain ⟨tail, ⟨before, rfl⟩, cases⟩ := (suffix_lower_iff plain).mp suffix
  -- whatever stood before these letters would not vanish in lower case
  rw [List.flatMap_append, lower_of_cases plain cases, List.append_left_eq_self,
    List.flatMap_eq_nil_iff] at same
  have empty : before = [] := List.eq_nil_iff_forall_not_mem.mpr fun c member =>
    lowerChar_ne_nil c (same c member)
  rw [empty, List.nil_append, cases]

theorem plain_words : ∀ word ∈ trueWords ++ falseWords, ∀ letter ∈ word.toList,
    letter ∉ strayLetters ∧ isBlank letter = false := by
  simp [trueWords, falseWords, strayLetters, isBlank, isWhiteSpace]

theorem not_isBlank_of_toLower {c : Char} (solid : isBlank c.toLower = false) :
    isBlank c = false := by
  by_cases upper : c.isUpper = true
  · have letter : 65 ≤ c.toNat ∧ c.toNat ≤ 90 := by
      simpa [Char.isUpper, UInt32.le_iff_toNat_le] using upper
    simp only [isBlank, isWhiteSpace, Bool.or_eq_false_iff, Bool.and_eq_false_iff,
      decide_eq_false_iff_not, beq_eq_false_iff_ne]
    omega
  · rwa [Char.toLower_eq_of_not_isUpper upper] at solid

theorem word_eq_iff (member : word ∈ trueWords ++ falseWords) :
    lower (String.ofList (trim text.toList)) = word ↔ Spells word text := by
  have plain letter inWord := (plain_words word member letter inWord).1
  rw [← String.toList_inj, toList_lower, String.toList_ofList, lower_eq_iff plain]
  constructor
  · intro cases
    obtain ⟨front, back, whole, before, after⟩ := trim_splits text.toList
    exact ⟨front, _, back, whole, before, after, cases⟩
  · rintro ⟨front, letters, back, whole, before, after, cases⟩
    rw [whole, trim_between before after, cases]
    intro c inLetters
    refine not_isBlank_of_toLower (plain_words word member _ ?_).2
    rw [← cases]
    exact List.mem_map_of_mem inLetters

theorem contains_word_iff {words : List String}
    (known : ∀ word ∈ words, word ∈ trueWords ++ falseWords) :
    words.contains (lower (String.ofList (trim text.toList))) = true ↔
      ∃ word ∈ words, Spells word text := by
  rw [List.contains_iff_mem]
  constructor
  · exact fun member => ⟨_, member, (word_eq_iff (known _ member)).mp rfl⟩
  · rintro ⟨word, member, spells⟩
    rwa [(word_eq_iff (known word member)).mpr spells]

theorem wordToBool?_eq_true_iff :
    wordToBool? text = some true ↔ ∃ word ∈ trueWords, Spells word text := by
  rw [← contains_word_iff fun word member => List.mem_append_left _ member]
  simp only [wordToBool?]
  split
  next isTrue => exact iff_of_true rfl isTrue
  next notTrue => split <;> exact iff_of_false (by simp) notTrue

theorem wordToBool?_eq_false_iff :
    wordToBool? text = some false ↔ ∃ word ∈ falseWords, Spells word text := by
  have apart : ∀ word ∈ falseWords, ¬ trueWords.contains word = true := by
    simp [falseWords, trueWords]
  rw [← contains_word_iff fun word member => List.mem_append_right _ member]
  simp only [wordToBool?]
  split
  next isTrue =>
    refine iff_of_false (by simp) fun isFalse => ?_
    exact apart _ (List.contains_iff_mem.mp isFalse) isTrue
  next => split <;> simp_all

end Words

/-! ## What stored values denote -/

/-- What a stored value that is not null denotes as some type. -/
inductive Denotes : Kind → Value → Value → Prop where
  | int (value : Int) : Denotes .int (.int value) (.int value)
  | numeral {raw : Value} {text : String} {value : Int} (other : ∀ value, raw ≠ .int value)
      (shows : raw.text? = some text) (reads : Numeral.Denotes text.toList value) :
      Denotes .int raw (.int value)
  | bool (value : Bool) : Denotes .bool (.bool value) (.bool value)
  | yes {raw : Value} {text word : String} (other : ∀ value, raw ≠ .bool value)
      (shows : raw.text? = some text) (member : word ∈ ["true", "yes", "on"])
      (spells : Spells word text) :
      Denotes .bool raw (.bool true)
  | no {raw : Value} {text word : String} (other : ∀ value, raw ≠ .bool value)
      (shows : raw.text? = some text) (member : word ∈ ["false", "no", "off"])
      (spells : Spells word text) :
      Denotes .bool raw (.bool false)
  | items {raw : Value} {items : List Value} {texts : List String}
      (holds : raw.items? = some items) (shows : items.map Value.text? = texts.map some) :
      Denotes .list raw (.texts texts)
  | split {raw : Value} {text : String} {tokens : List String} (plain : raw.items? = none)
      (shows : raw.text? = some text) (splits : CommaList.Splits text tokens) :
      Denotes .list raw (.texts tokens)
  | text {raw : Value} {text : String} (shows : raw.text? = some text) :
      Denotes .string raw (.text text)

/-- A value can be read as some type, if only to be refused: it has a text, or an integer is
wanted. -/
def Kind.Reads (kind : Kind) (raw : Value) : Prop :=
  kind = .int ∨ raw.text? ≠ none

theorem Kind.Reads.exists_text {kind : Kind} {raw : Value} (readable : kind.Reads raw)
    (notInt : kind ≠ .int) : ∃ text, raw.text? = some text :=
  Option.ne_none_iff_exists'.mp (readable.resolve_left notInt)

/-- The word for a type in warnings. -/
def Kind.word : Kind → String
  | .int => "int"
  | .bool => "bool"
  | .string => "string"
  | .list => "list"

/-! ## Conversions -/

variable {kind : Kind} {raw value : Value}

/-- A stored value as some type, unless it is refused. -/
def Kind.convert (raw : Value) : Kind → Except Failure (Option Value)
  | .string => raw.written.map fun text => some (.text text)
  | .int => .ok ((toInt? raw).map .int)
  | .bool => (toBool? raw).map (·.map .bool)
  | .list => (toTokens raw).map fun tokens => some (.texts tokens)

theorem toInt?_of_other (other : ∀ value, raw ≠ .int value) :
    toInt? raw = raw.text?.bind fun text => Numeral.integer? text.toList := by
  cases raw with
  | int value => exact absurd rfl (other value)
  | _ => rfl

theorem toBool?_of_other (other : ∀ value, raw ≠ .bool value) :
    toBool? raw = raw.written.map wordToBool? := by
  cases raw with
  | bool value => exact absurd rfl (other value)
  | _ => rfl

theorem toTokens_of_items? {items : List Value} (holds : raw.items? = some items) :
    toTokens raw =
      if raw.isWritable then .ok (items.map Value.display) else .error .tooManyDigits := by
  rw [Value.isWritable_of_items? holds, ← Value.mapM_written]
  cases raw with
  | list own => obtain rfl := Option.some.inj holds; rfl
  | tuple own => obtain rfl := Option.some.inj holds; rfl
  | _ => cases holds

theorem toTokens_of_plain (plain : raw.items? = none) :
    toTokens raw = raw.written.map CommaList.split := by
  cases raw with
  | list own => cases plain
  | tuple own => cases plain
  | _ => rfl

/-- The items of a value are not the tokens of its text. -/
theorem split_display_ne {items : List Value} (holds : raw.items? = some items) :
    CommaList.split raw.display ≠ items.map Value.display := by
  intro same
  have longer := Value.length_intercalate_lt holds
  rw [← same, CommaList.intercalate_split] at longer
  exact Nat.lt_irrefl _ longer

theorem texts_inj {left right : List String} : Value.texts left = Value.texts right ↔
    left = right := by
  refine ⟨fun same => ?_, congrArg Value.texts⟩
  rw [Value.texts, Value.texts, Value.list.injEq] at same
  exact List.map_injective_iff.mpr (fun _ _ => Value.text.inj) same

/-- A value that cannot be read has no text, and is no integer that is wanted. -/
theorem convert_of_not_reads (unreadable : ¬ kind.Reads raw) :
    kind.convert raw = .error .tooManyDigits := by
  obtain ⟨notInt, unwritable⟩ := not_or.mp unreadable
  replace unwritable := not_not.mp unwritable
  have written := Value.written_of_none unwritable
  cases kind with
  | int => exact absurd rfl notInt
  | string => rw [Kind.convert, written]; rfl
  | bool =>
      have other (truth : Bool) : raw ≠ .bool truth := by
        rintro rfl
        cases unwritable
      rw [Kind.convert, toBool?_of_other other, written]
      rfl
  | list =>
      rw [Kind.convert]
      cases holds : raw.items? with
      | none => rw [toTokens_of_plain holds, written]; rfl
      | some items =>
          rw [toTokens_of_items? holds, Value.text?_eq_none_iff.mp unwritable]
          rfl

theorem convert_of_reads (readable : kind.Reads raw) :
    ∃ result, kind.convert raw = .ok result := by
  cases kind with
  | int => exact ⟨_, rfl⟩
  | string =>
      obtain ⟨text, shows⟩ := readable.exists_text Kind.noConfusion
      exact ⟨some (.text text), by rw [Kind.convert, Value.written_of_text? shows]; rfl⟩
  | bool =>
      obtain ⟨text, shows⟩ := readable.exists_text Kind.noConfusion
      by_cases truth : ∃ value, raw = .bool value
      · obtain ⟨value, rfl⟩ := truth
        exact ⟨some (.bool value), rfl⟩
      · rw [Kind.convert, toBool?_of_other (not_exists.mp truth), Value.written_of_text? shows]
        exact ⟨_, rfl⟩
  | list =>
      obtain ⟨text, shows⟩ := readable.exists_text Kind.noConfusion
      rw [Kind.convert]
      cases holds : raw.items? with
      | none =>
          rw [toTokens_of_plain holds, Value.written_of_text? shows]
          exact ⟨_, rfl⟩
      | some items =>
          rw [toTokens_of_items? holds, (Value.text?_eq_some_iff.mp shows).1]
          exact ⟨_, rfl⟩

theorem convert_string_iff :
    Kind.convert raw .string = .ok (some value) ↔ Denotes .string raw value := by
  constructor
  · intro converts
    cases shows : raw.text? with
    | none =>
        rw [Kind.convert, Value.written_of_none shows] at converts
        cases converts
    | some text =>
        rw [Kind.convert, Value.written_of_text? shows] at converts
        cases converts
        exact .text shows
  · rintro ⟨⟩
    next text shows => rw [Kind.convert, Value.written_of_text? shows]; rfl

theorem convert_int_iff :
    Kind.convert raw .int = .ok (some value) ↔ Denotes .int raw value := by
  constructor
  · intro converts
    obtain ⟨number, reads, rfl⟩ := Option.map_eq_some_iff.mp (Except.ok.inj converts)
    by_cases integer : ∃ own, raw = .int own
    · obtain ⟨own, rfl⟩ := integer
      cases reads
      exact .int _
    · rw [toInt?_of_other (not_exists.mp integer)] at reads
      obtain ⟨text, shows, reads⟩ := Option.bind_eq_some_iff.mp reads
      exact .numeral (not_exists.mp integer) shows (Numeral.integer?_eq_some_iff.mp reads)
  · intro denotes
    cases denotes with
    | int number => rfl
    | numeral other shows reads =>
        rw [Kind.convert, toInt?_of_other other, shows, Option.bind_some,
          Numeral.integer?_eq_some_iff.mpr reads]
        rfl

theorem convert_bool_iff :
    Kind.convert raw .bool = .ok (some value) ↔ Denotes .bool raw value := by
  constructor
  · intro converts
    by_cases truth : ∃ own, raw = .bool own
    · obtain ⟨own, rfl⟩ := truth
      cases converts
      exact .bool own
    · have other := not_exists.mp truth
      rw [Kind.convert, toBool?_of_other other] at converts
      cases shows : raw.text? with
      | none =>
          rw [Value.written_of_none shows] at converts
          cases converts
      | some text =>
          rw [Value.written_of_text? shows] at converts
          obtain ⟨truth, reads, rfl⟩ := Option.map_eq_some_iff.mp (Except.ok.inj converts)
          cases truth with
          | true =>
              obtain ⟨word, member, spells⟩ := wordToBool?_eq_true_iff.mp reads
              exact .yes other shows member spells
          | false =>
              obtain ⟨word, member, spells⟩ := wordToBool?_eq_false_iff.mp reads
              exact .no other shows member spells
  · intro denotes
    have ofWord {text : String} {truth : Bool} (other : ∀ value, raw ≠ .bool value)
        (shows : raw.text? = some text) (reads : wordToBool? text = some truth) :
        Kind.convert raw .bool = .ok (some (.bool truth)) := by
      rw [Kind.convert, toBool?_of_other other, Value.written_of_text? shows]
      change Except.ok ((wordToBool? text).map Value.bool) = _
      rw [reads, Option.map_some]
    cases denotes with
    | bool truth => rfl
    | yes other shows member spells =>
        exact ofWord other shows (wordToBool?_eq_true_iff.mpr ⟨_, member, spells⟩)
    | no other shows member spells =>
        exact ofWord other shows (wordToBool?_eq_false_iff.mpr ⟨_, member, spells⟩)

theorem convert_list_iff :
    Kind.convert raw .list = .ok (some value) ↔ Denotes .list raw value := by
  constructor
  · intro converts
    rw [Kind.convert] at converts
    cases holds : raw.items? with
    | some items =>
        rw [toTokens_of_items? holds] at converts
        cases writable : raw.isWritable with
        | false => rw [writable] at converts; cases converts
        | true =>
            rw [writable] at converts
            cases converts
            rw [Value.isWritable_of_items? holds] at writable
            exact .items holds (Value.map_text?_eq_iff.mpr ⟨writable, rfl⟩)
    | none =>
        rw [toTokens_of_plain holds] at converts
        cases shows : raw.text? with
        | none => rw [Value.written_of_none shows] at converts; cases converts
        | some text =>
            rw [Value.written_of_text? shows] at converts
            cases converts
            exact .split holds shows (CommaList.splits_iff.mpr rfl)
  · intro denotes
    rw [Kind.convert]
    cases denotes with
    | items holds shows =>
        obtain ⟨writable, rfl⟩ := Value.map_text?_eq_iff.mp shows
        rw [toTokens_of_items? holds, Value.isWritable_of_items? holds, writable]
        rfl
    | split plain shows splits =>
        rw [toTokens_of_plain plain, Value.written_of_text? shows, ← CommaList.splits_iff.mp splits]
        rfl

/-- A stored value is converted to what it denotes. -/
theorem convert_iff : kind.convert raw = .ok (some value) ↔ Denotes kind raw value := by
  cases kind with
  | string => exact convert_string_iff
  | int => exact convert_int_iff
  | bool => exact convert_bool_iff
  | list => exact convert_list_iff

/-- A value that can be read and denotes nothing is refused. -/
theorem convert_refuses (readable : kind.Reads raw) (nothing : ∀ value, ¬ Denotes kind raw value) :
    kind.convert raw = .ok none := by
  obtain ⟨result, converts⟩ := convert_of_reads readable
  cases result with
  | none => exact converts
  | some value => exact absurd (convert_iff.mp converts) (nothing value)

/-- A value denotes one value at most. -/
theorem Denotes.unique {other : Value} (denotes : Denotes kind raw value)
    (also : Denotes kind raw other) : value = other := by
  have same := (convert_iff.mpr denotes).symm.trans (convert_iff.mpr also)
  exact Option.some.inj (Except.ok.inj same)

end DiscoveryClient.PropertyReader
