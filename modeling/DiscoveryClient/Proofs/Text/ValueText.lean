import DiscoveryClient.Failure
import DiscoveryClient.Proofs.Number.WrittenInteger
import Mathlib.Tactic.SplitIfs

/-!
# Texts of values

A value has a text unless an integer in it has too many digits, and a list has one just if all
of its items have.  Only the empty text is written as the empty text.

The text of a list has brackets, and its items are shown with quotes.  So it is longer than the
items with commas between them.
-/

namespace DiscoveryClient.Value

/-! ## Values that can be written -/

/-- The items of a list or tuple. -/
def items? : Value → Option (List Value)
  | .list items | .tuple items => some items
  | _ => none

variable {raw : Value} {items : List Value}

theorem written_eq :
    raw.written = if raw.isWritable then .ok raw.display else .error .tooManyDigits := by
  rw [written, text?]
  cases raw.isWritable <;> rfl

theorem written_of_text? {text : String} (shows : raw.text? = some text) :
    raw.written = .ok text := by
  rw [written, shows]

theorem written_of_none (unwritable : raw.text? = none) : raw.written = .error .tooManyDigits := by
  rw [written, unwritable]

/-- The items of a list are written one by one, and the first that has no text is in the way. -/
theorem mapM_written (items : List Value) :
    items.mapM written =
      if areWritable items then .ok (items.map display) else .error .tooManyDigits := by
  induction items with
  | nil => rfl
  | cons item rest induction =>
      rw [List.mapM_cons, induction, written_eq, areWritable]
      cases item.isWritable <;> cases areWritable rest <;> rfl

theorem map_text?_eq_iff {texts : List String} :
    items.map text? = texts.map some ↔ areWritable items = true ∧ items.map display = texts := by
  induction items generalizing texts with
  | nil => cases texts <;> simp [areWritable]
  | cons item rest induction =>
      cases texts with
      | nil => simp
      | cons first more => simp [areWritable, induction, text?_eq_some_iff, and_and_and_comm]

/-- A list has a text just if its items have. -/
theorem isWritable_of_items? (holds : raw.items? = some items) :
    raw.isWritable = areWritable items := by
  cases raw with
  | list own => obtain rfl := Option.some.inj holds; rfl
  | tuple own => obtain rfl := Option.some.inj holds; rfl
  | _ => cases holds

/-- An integer is written if it has no more digits than numerals may have. -/
theorem isWritable_int {value : Int} :
    isWritable (.int value) = true ↔ value.natAbs < Nat.pow 10 Numeral.maxIntegerDigits := by
  have digits (places : Nat) (positive : 0 < places) :
      (Nat.toDigits 10 value.natAbs).length ≤ places ↔ value.natAbs < Nat.pow 10 places :=
    Nat.length_toDigits_le_iff (by decide) positive
  rw [isWritable, decide_eq_true_iff, digits _ (by decide)]

/-- The least integer with too many digits. -/
def leastUnwritable : Int :=
  (Nat.pow 10 Numeral.maxIntegerDigits : Nat)

theorem text?_leastUnwritable : text? (.int leastUnwritable) = none := by
  rw [text?_eq_none_iff, ← Bool.not_eq_true, isWritable_int, leastUnwritable, Int.natAbs_natCast]
  exact Nat.lt_irrefl _

/-! ## Lengths -/

theorem toString_ne_empty (value : Int) : toString value ≠ "" := by
  intro empty
  have digits := Numeral.toList_toString value
  rw [empty] at digits
  simp at digits

theorem render_ne_nil (layout : Shortest.Layout) (count : Nat) (power : Int) :
    Shortest.render layout count power ≠ [] := by
  unfold Shortest.render
  simp only
  split
  · split <;> simp
  · simp

theorem text_ne_empty (double : Double) : double.text ≠ "" := by
  cases double with
  | nan payload => exact of_decide_eq_true rfl
  | infinite negative => cases negative <;> decide
  | finite negative mantissa exponent =>
      have magnitude : Double.magnitudeText mantissa exponent ≠ [] := by
        unfold Double.magnitudeText
        split
        · simp
        · exact render_ne_nil _ _ _
      simp [Double.text, magnitude]

theorem literal_ne_empty (value : Value) : value.literal ≠ "" := by
  cases value with
  | null => decide
  | bool value => cases value <;> decide
  | int value => exact toString_ne_empty value
  | float value => exact text_ne_empty value
  | text value => simp [literal, Text.quoted, Text.quotedChars]
  | list items => simp [literal]
  | tuple items => rcases items with _ | ⟨first, _ | ⟨second, more⟩⟩ <;> simp [literal]
  | dict entries => simp [literal]

/-- Only the empty text has an empty text. -/
theorem display_eq_empty_iff {value : Value} : value.display = "" ↔ value = .text "" := by
  cases value with
  | text value => simp [display]
  | _ => exact iff_of_false (literal_ne_empty _) (by simp)

theorem escapeChar_ne_nil (quote c : Char) : Text.escapeChar quote c ≠ [] := by
  unfold Text.escapeChar Text.codeEscape
  split_ifs <;> simp

/-- Quotes make a text longer, and escapes never make it shorter. -/
theorem length_quoted (text : String) : text.length + 2 ≤ (Text.quoted text).length := by
  have escapes (quote : Char) (chars : List Char) :
      chars.length ≤ (chars.flatMap (Text.escapeChar quote)).length := by
    induction chars with
    | nil => exact Nat.le_refl 0
    | cons c rest induction =>
        have one := List.length_pos_iff.mpr (escapeChar_ne_nil quote c)
        rw [List.flatMap_cons, List.length_append, List.length_cons]
        omega
  have whole := escapes (Text.quoteFor text.toList) text.toList
  rw [Text.quoted, String.length_ofList, Text.quotedChars, List.length_cons, List.length_append,
    ← String.length_toList]
  simpa using whole

theorem length_display_le (value : Value) : value.display.length ≤ value.literal.length := by
  cases value with
  | text value =>
      have longer := length_quoted value
      rw [display, literal]
      omega
  | _ => exact Nat.le_refl _

theorem length_intercalate_le (items : List Value) :
    (",".intercalate (items.map display)).length ≤ (commaSeparated (literals items)).length := by
  induction items with
  | nil => exact Nat.le_refl 0
  | cons first rest induction =>
      have head := length_display_le first
      cases rest with
      | nil => simpa [literals, commaSeparated] using head
      | cons second more =>
          have comma : ",".length = 1 := rfl
          have separator : ", ".length = 2 := rfl
          rw [List.map_cons, List.map_cons, String.intercalate_cons_cons, ← List.map_cons]
          simp only [literals, commaSeparated, String.length_append] at induction ⊢
          omega

/-- The text of a list or tuple is longer than its items with commas between them. -/
theorem length_intercalate_lt {value : Value} {items : List Value}
    (holds : value.items? = some items) :
    (",".intercalate (items.map display)).length < value.display.length := by
  have shorter := length_intercalate_le items
  have bracket : "[".length = 1 := rfl
  have parenthesis : "(".length = 1 := rfl
  cases value with
  | list own =>
      obtain rfl := Option.some.inj holds
      simp only [display, literal, String.length_append]
      omega
  | tuple own =>
      obtain rfl := Option.some.inj holds
      rcases own with _ | ⟨first, _ | ⟨second, more⟩⟩
      · decide
      · simp only [literals, commaSeparated] at shorter
        simp only [display, literal, String.length_append]
        omega
      · simp only [display, literal, String.length_append]
        omega
  | _ => cases holds

end DiscoveryClient.Value
