import DiscoveryClient.Log.Event
import Mathlib

/-!
# Names of secrets

A name is secret by its ending, whatever the case of its letters.  The letters of the
endings are such that no character but the two cases of a letter becomes one of them, so
the ending can be read off the name as it is written.  What stands in front of a name
that is long enough has no part in it.
-/

namespace DiscoveryClient.Log

/-! ## Letters of either case -/

/-- Letters that other characters than the letter itself become in lower case, and those
characters. -/
def strayLetters : List Char :=
  ['k', '\u0307', '\u0130', '\u212a']

theorem lowerChar_ne_nil (c : Char) : Text.lowerChar c ≠ [] := by
  unfold Text.lowerChar
  split
  · exact List.cons_ne_nil _ _
  · split
    · exact List.cons_ne_nil _ _
    · split <;> exact List.cons_ne_nil _ _

/-- A character ends in a letter only as one of its cases, stray letters apart. -/
theorem lowerChar_of_last {c letter : Char} (plain : letter ∉ strayLetters)
    (last : (Text.lowerChar c).getLast? = some letter) :
    Text.lowerChar c = [letter] ∧ c.toLower = letter := by
  unfold Text.lowerChar at last ⊢
  split at last
  next upper =>
    rw [if_pos upper]
    obtain rfl : c.toLower = letter := by simpa using last
    exact ⟨rfl, rfl⟩
  next notUpper =>
    rw [if_neg notUpper]
    split at last
    · simp [← Option.some.inj last, strayLetters] at plain
    · split at last
      · simp [← Option.some.inj last, strayLetters] at plain
      · next notDotted notKelvin =>
          rw [if_neg notDotted, if_neg notKelvin]
          obtain rfl : c = letter := by simpa using last
          exact ⟨rfl, Char.toLower_eq_of_not_isUpper notUpper⟩

theorem lowerChar_of_toLower {c letter : Char} (plain : letter ∉ strayLetters)
    (same : c.toLower = letter) : Text.lowerChar c = [letter] := by
  unfold Text.lowerChar
  by_cases upper : c.isUpper = true
  · rw [if_pos upper, same]
  · rw [Char.toLower_eq_of_not_isUpper upper] at same
    subst same
    simp only [strayLetters, List.mem_cons, List.not_mem_nil, or_false, not_or] at plain
    rw [if_neg upper, if_neg plain.2.2.1, if_neg plain.2.2.2]

/-- Where a text ends in letters regardless of case, its own end is these letters in some
case each. -/
theorem suffix_lower_iff {letters chars : List Char}
    (plain : ∀ letter ∈ letters, letter ∉ strayLetters) :
    letters <:+ chars.flatMap Text.lowerChar ↔
      ∃ tail, tail <:+ chars ∧ tail.map Char.toLower = letters := by
  constructor
  · intro suffix
    -- from the end, where each letter stands for one character of the name
    induction chars using List.reverseRecOn generalizing letters with
    | nil =>
        obtain rfl := List.suffix_nil.mp suffix
        exact ⟨[], List.nil_suffix, rfl⟩
    | append_singleton chars c induction =>
        rcases List.eq_nil_or_concat letters with rfl | ⟨front, letter, rfl⟩
        · exact ⟨[], List.nil_suffix, rfl⟩
        · rw [List.concat_eq_append] at *
          obtain ⟨rest, whole⟩ := suffix
          rw [List.flatMap_append, List.flatMap_singleton, ← List.append_assoc] at whole
          have last := congrArg List.getLast? whole
          rw [List.getLast?_concat, List.getLast?_append_of_ne_nil _ (lowerChar_ne_nil c)] at last
          obtain ⟨single, isCase⟩ := lowerChar_of_last (plain letter (by simp)) last.symm
          rw [single] at whole
          have shorter : front <:+ chars.flatMap Text.lowerChar :=
            ⟨rest, List.append_cancel_right whole⟩
          obtain ⟨tail, tailSuffix, cases⟩ :=
            induction (fun letter member => plain letter (by simp [member])) shorter
          obtain ⟨before, rfl⟩ := tailSuffix
          exact ⟨tail ++ [c], ⟨before, by simp⟩, by simp [cases, isCase]⟩
  · rintro ⟨tail, ⟨before, rfl⟩, rfl⟩
    have same : tail.flatMap Text.lowerChar = tail.map Char.toLower := by
      rw [List.map_eq_flatMap]
      refine List.flatMap_congr ?_
      intro c member
      exact lowerChar_of_toLower (plain _ (List.mem_map_of_mem member)) rfl
    rw [List.flatMap_append, same]
    exact List.suffix_append _ _

/-! ## Secret names -/

theorem isSecret_eq_letters (name : String) :
    isSecret name = secretEndings.any fun ending =>
      ending.toList.isSuffixOf (name.toList.flatMap Text.lowerChar) := by
  simp only [isSecret, Text.toList_lower]

theorem plain_endings :
    ∀ ending ∈ secretEndings, ∀ letter ∈ ending.toList, letter ∉ strayLetters := by
  simp [secretEndings, strayLetters]

/-- A name is secret if it ends in one of the endings, each letter in any case. -/
theorem isSecret_iff (name : String) :
    isSecret name = true ↔
      ∃ ending ∈ secretEndings, ∃ tail, tail <:+ name.toList ∧
        tail.map Char.toLower = ending.toList := by
  simp only [isSecret_eq_letters, List.any_eq_true, List.isSuffixOf_iff_suffix]
  refine exists_congr fun ending => and_congr_right fun member => ?_
  exact suffix_lower_iff (plain_endings ending member)

theorem length_ending_le : ∀ ending ∈ secretEndings, ending.toList.length ≤ 8 := by
  simp [secretEndings]

/-- What stands in front of a name of eight characters or more makes it no secret. -/
theorem isSecret_append (front : String) {name : String} (long : 8 ≤ name.toList.length) :
    isSecret (front ++ name) = isSecret name := by
  apply Bool.eq_iff_iff.mpr
  rw [isSecret_iff, isSecret_iff]
  refine exists_congr fun ending => and_congr_right fun member => exists_congr fun tail => ?_
  refine and_congr_left fun cases => ?_
  have short : tail.length ≤ name.toList.length := by
    have length := length_ending_le ending member
    rw [← cases, List.length_map] at length
    omega
  rw [String.toList_append]
  constructor
  · intro suffix
    exact List.suffix_of_suffix_length_le suffix (List.suffix_append _ _) short
  · intro suffix
    exact suffix.trans (List.suffix_append _ _)

end DiscoveryClient.Log
