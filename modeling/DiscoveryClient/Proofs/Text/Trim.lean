import DiscoveryClient.Text.Blank
import Mathlib.Data.List.TakeWhile

/-!
# Trimmed texts

A text is what is left of it after trimming, between blanks.  What is left has no blank at
either end, and with that it is determined.
-/

namespace DiscoveryClient.Text

variable {drop : Char → Bool} {text kept front back : List Char}

/-- Blank characters alone. -/
def Blanks (text : List Char) : Prop :=
  ∀ c ∈ text, isBlank c = true

theorem blanks_takeWhile (text : List Char) : Blanks (text.takeWhile isBlank) :=
  fun _ member => List.mem_takeWhile_imp member

theorem trimEndBy_eq_iff :
    trimEndBy drop text = kept ↔
      ∃ tail, text = kept ++ tail ∧ (∀ c ∈ tail, drop c = true) ∧
        ∀ c, kept.getLast? = some c → drop c = false := by
  constructor
  · rintro rfl
    refine ⟨_, (trimEndBy_append_takeWhile drop text).symm, ?_, ?_⟩
    · intro c member
      exact List.mem_takeWhile_imp (List.mem_reverse.mp member)
    · intro c last
      rw [trimEndBy, List.getLast?_reverse] at last
      have stops := List.head?_dropWhile_not drop text.reverse
      rw [last] at stops
      exact stops
  · rintro ⟨tail, rfl, dropped, last⟩
    rw [trimEndBy, List.reverse_append,
      List.dropWhile_append_of_pos fun c member => dropped c (List.mem_reverse.mp member)]
    rcases List.eq_nil_or_concat kept with rfl | ⟨init, c, rfl⟩
    · rfl
    · have stays : ¬ drop c = true := by
        simp [last c (by simp)]
      rw [List.concat_eq_append, List.reverse_append, List.reverse_singleton,
        List.singleton_append, List.dropWhile_cons_of_neg stays]
      simp

theorem trimEnd_eq_iff :
    trimEnd text = kept ↔
      ∃ tail, text = kept ++ tail ∧ Blanks tail ∧ ∀ c, kept.getLast? = some c → isBlank c = false :=
  trimEndBy_eq_iff

theorem trim_eq_nil (blank : Blanks text) : trim text = [] := by
  rw [trim, trimBy, List.dropWhile_eq_nil_iff.mpr blank, trimEndBy_nil]

/-- Trimming leaves what stands between blanks and has none itself. -/
theorem trim_between (before : Blanks front) (after : Blanks back)
    (solid : ∀ c ∈ kept, isBlank c = false) : trim (front ++ (kept ++ back)) = kept := by
  cases kept with
  | nil =>
      refine trim_eq_nil fun c member => ?_
      rcases List.mem_append.mp member with inFront | inBack
      · exact before c inFront
      · exact after c inBack
  | cons first rest =>
      have stops : ¬ isBlank first = true := by
        simp [solid first List.mem_cons_self]
      rw [trim, trimBy, List.dropWhile_append_of_pos before, List.cons_append,
        List.dropWhile_cons_of_neg stops, ← List.cons_append]
      refine trimEnd_eq_iff.mpr ⟨back, rfl, after, fun c last => ?_⟩
      exact solid c (List.mem_of_getLast? last)

/-- What trimming takes away is blank. -/
theorem trim_splits (text : List Char) :
    ∃ front back, text = front ++ (trim text ++ back) ∧ Blanks front ∧ Blanks back := by
  obtain ⟨back, whole, blank, _⟩ := trimEnd_eq_iff.mp (rfl : trimEnd (text.dropWhile isBlank) = _)
  refine ⟨text.takeWhile isBlank, back, ?_, blanks_takeWhile text, blank⟩
  calc text
    _ = text.takeWhile isBlank ++ text.dropWhile isBlank := List.takeWhile_append_dropWhile.symm
    _ = text.takeWhile isBlank ++ (trim text ++ back) := by rw [whole]; rfl

end DiscoveryClient.Text
