import DiscoveryClient.Text.CommaList

/-!
# Texts between commas

Splitting a text at its commas loses nothing.  The commas put back between the tokens give
the text, and tokens without commas that are put together so are split apart again.
-/

namespace DiscoveryClient.Text.CommaList

theorem splitChars_eq (text : List Char) : splitChars text = text.splitOn ',' := by
  induction text with
  | nil => rfl
  | cons c rest induction =>
      rw [splitChars, List.splitOn_cons_eq_if_modifyHead, ← induction]
      by_cases comma : c = ','
      · simp [comma]
      · rw [if_neg comma, if_neg (by simpa using comma)]
        cases split : splitChars rest with
        | nil => exact absurd split (splitChars_ne_nil rest)
        | cons token tokens => rfl

/-- Neither the first token nor any other has a comma. -/
theorem not_mem_of_mem_splitChars {text token : List Char} (member : token ∈ splitChars text) :
    ',' ∉ token := by
  induction text generalizing token with
  | nil => simp_all [splitChars]
  | cons c rest induction =>
      unfold splitChars at member
      split at member
      · rcases List.mem_cons.mp member with rfl | later
        · exact List.not_mem_nil
        · exact induction later
      next other =>
        split at member
        next empty => exact absurd empty (splitChars_ne_nil rest)
        next first tokens found =>
          rw [found] at induction
          rcases List.mem_cons.mp member with rfl | later
          · rw [List.mem_cons, not_or]
            exact ⟨Ne.symm other, induction List.mem_cons_self⟩
          · exact induction (List.mem_cons_of_mem _ later)

/-- There is one token more than there are commas. -/
theorem length_splitChars (text : List Char) : (splitChars text).length = text.count ',' + 1 := by
  induction text with
  | nil => rfl
  | cons c rest induction =>
      unfold splitChars
      split
      next comma => rw [List.length_cons, induction, comma, List.count_cons_self]
      next other =>
        rw [List.count_cons_of_ne other, ← induction]
        cases split : splitChars rest with
        | nil => exact absurd split (splitChars_ne_nil rest)
        | cons token tokens => rfl

theorem toList_comma : ",".toList = [','] := rfl

/-! ## Texts -/

variable {text token : String} {tokens : List String}

theorem map_toList_split (text : String) :
    (split text).map String.toList = splitChars text.toList := by
  simp [split, Function.comp_def]

theorem intercalate_split (text : String) : ",".intercalate (split text) = text := by
  rw [← String.toList_inj, String.toList_intercalate, map_toList_split, splitChars_eq,
    toList_comma, List.intercalate_splitOn]

theorem split_intercalate (nonempty : tokens ≠ []) (plain : ∀ token ∈ tokens, ',' ∉ token.toList) :
    split (",".intercalate tokens) = tokens := by
  have apart : splitChars (",".intercalate tokens).toList = tokens.map String.toList := by
    rw [String.toList_intercalate, splitChars_eq, toList_comma, List.splitOn_intercalate]
    · simpa using plain
    · simpa using nonempty
  rw [split, apart]
  simp [Function.comp_def]

theorem not_mem_of_mem_split (member : token ∈ split text) : ',' ∉ token.toList := by
  obtain ⟨chars, inSplit, rfl⟩ := List.mem_map.mp member
  simpa using not_mem_of_mem_splitChars inSplit

theorem length_split (text : String) : (split text).length = text.toList.count ',' + 1 := by
  rw [split, List.length_map, length_splitChars]

/-- Tokens without commas that give a text with commas between them. -/
def Splits (text : String) (tokens : List String) : Prop :=
  tokens ≠ [] ∧ (∀ token ∈ tokens, ',' ∉ token.toList) ∧ ",".intercalate tokens = text

theorem splits_iff : Splits text tokens ↔ split text = tokens := by
  constructor
  · rintro ⟨nonempty, plain, rfl⟩
    exact split_intercalate nonempty plain
  · rintro rfl
    have nonempty : split text ≠ [] := by
      rw [← List.length_pos_iff, length_split]
      exact Nat.succ_pos _
    exact ⟨nonempty, fun _ => not_mem_of_mem_split, intercalate_split text⟩

/-- Only one empty token makes an empty text. -/
theorem intercalate_eq_empty_iff (nonempty : tokens ≠ []) :
    ",".intercalate tokens = "" ↔ tokens = [""] := by
  cases tokens with
  | nil => exact absurd rfl nonempty
  | cons first rest =>
      cases rest with
      | nil => simp
      | cons second more =>
          rw [← String.toList_inj]
          simp

end DiscoveryClient.Text.CommaList
