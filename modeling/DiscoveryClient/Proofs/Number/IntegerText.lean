import DiscoveryClient.Number.Numeral
import DiscoveryClient.Proofs.Text.Trim

/-!
# Integer numerals

A text denotes an integer if it is a numeral between blanks: a sign or none, and decimal
digits of any scripts, neighbours being apart by one underscore at most.
-/

namespace DiscoveryClient.Numeral

open Text

/-- Digits with their values, an underscore being allowed between neighbours. -/
inductive Digits : List Char → List Nat → Prop where
  | last {c : Char} {digit : Nat} (reads : digitValue? c = some digit) : Digits [c] [digit]
  | next {c : Char} {digit : Nat} {rest : List Char} {figures : List Nat}
      (reads : digitValue? c = some digit) (more : Digits rest figures) :
      Digits (c :: rest) (digit :: figures)
  | apart {c : Char} {digit : Nat} {rest : List Char} {figures : List Nat}
      (reads : digitValue? c = some digit) (more : Digits rest figures) :
      Digits (c :: '_' :: rest) (digit :: figures)

/-- The sign in front of a numeral, as a factor. -/
inductive Sign : List Char → Int → Prop where
  | none : Sign [] 1
  | plus : Sign ['+'] 1
  | minus : Sign ['-'] (-1)

/-- A text that denotes an integer. -/
def Denotes (text : List Char) (value : Int) : Prop :=
  ∃ front mark body back factor figures, text = front ++ (mark ++ body ++ back) ∧
    Blanks front ∧ Blanks back ∧ Sign mark factor ∧ Digits body figures ∧
    figures.length ≤ maxIntegerDigits ∧ value = factor * ofDigits figures

/-! ## Digits -/

variable {c : Char} {digit : Nat} {body mark : List Char} {figures : List Nat} {factor : Int}

theorem digitValue?_underscore : digitValue? '_' = none := by
  decide

/-- Code points of all blanks. -/
def blankCodes : List Nat :=
  [0x09, 0x0a, 0x0b, 0x0c, 0x0d, 0x1c, 0x1d, 0x1e, 0x1f, 0x20, 0x85, 0xa0, 0x1680, 0x2000, 0x2001,
    0x2002, 0x2003, 0x2004, 0x2005, 0x2006, 0x2007, 0x2008, 0x2009, 0x200a, 0x2028, 0x2029,
    0x202f, 0x205f, 0x3000]

theorem mem_blankCodes (blank : isBlank c = true) : c.toNat ∈ blankCodes := by
  simp only [isBlank, isWhiteSpace, Bool.or_eq_true, Bool.and_eq_true, decide_eq_true_eq,
    beq_iff_eq] at blank
  simp only [blankCodes, List.mem_cons, List.not_mem_nil, or_false]
  omega

theorem not_isBlank_of_digitValue? (reads : digitValue? c = some digit) : isBlank c = false := by
  have apart : ∀ code ∈ blankCodes, ∀ first ∈ decimalZeros,
      ¬(first ≤ code ∧ code < first + 10) := by
    decide +kernel
  by_contra blank
  obtain ⟨first, found, _⟩ := Option.map_eq_some_iff.mp reads
  have within := List.find?_some found
  simp only [Bool.and_eq_true, decide_eq_true_eq] at within
  exact apart _ (mem_blankCodes (by simpa using blank)) first (List.mem_of_find?_eq_some found)
    within

theorem Digits.not_isBlank (digits : Digits body figures) : ∀ c ∈ body, isBlank c = false := by
  induction digits with
  | last reads => simpa using not_isBlank_of_digitValue? reads
  | next reads _ induction => simpa using ⟨not_isBlank_of_digitValue? reads, induction⟩
  | apart reads _ induction =>
      simpa using ⟨not_isBlank_of_digitValue? reads, (by decide : isBlank '_' = false), induction⟩

/-- Digits begin with a digit. -/
theorem Digits.starts (digits : Digits body figures) :
    ∃ c rest, body = c :: rest ∧ (digitValue? c).isSome = true := by
  cases digits with
  | last reads => exact ⟨_, _, rfl, by simp [reads]⟩
  | next reads _ => exact ⟨_, _, rfl, by simp [reads]⟩
  | apart reads _ => exact ⟨_, _, rfl, by simp [reads]⟩

theorem integerDigits?_cons_ne_nil (c : Char) (rest : List Char) :
    integerDigits? (c :: rest) ≠ some [] := by
  unfold integerDigits?
  split <;> simp

theorem digits_of_integerDigits? (nonempty : figures ≠ [])
    (reads : integerDigits? body = some figures) : Digits body figures := by
  fun_induction integerDigits? body generalizing figures with
  | case1 => exact absurd (Option.some.inj reads).symm nonempty
  | case2 => cases reads
  | case3 c digit first more found induction =>
      obtain ⟨later, laterReads, rfl⟩ := Option.map_eq_some_iff.mp reads
      refine .apart found (induction ?_ laterReads)
      rintro rfl
      exact integerDigits?_cons_ne_nil first more laterReads
  | case4 c digit rest single found induction =>
      obtain ⟨later, laterReads, rfl⟩ := Option.map_eq_some_iff.mp reads
      cases rest with
      | nil =>
          obtain rfl : [] = later := Option.some.inj laterReads
          exact .last found
      | cons first more =>
          refine .next found (induction ?_ laterReads)
          rintro rfl
          exact integerDigits?_cons_ne_nil first more laterReads

theorem integerDigits?_of_digits (digits : Digits body figures) :
    integerDigits? body = some figures := by
  induction digits with
  | last reads => simp [integerDigits?, reads]
  | @next c digit rest figures reads more induction =>
      -- what follows begins with a digit, so it does not begin with an underscore
      obtain ⟨first, later, rfl, isDigit⟩ := more.starts
      have notUnderscore : first ≠ '_' := by
        rintro rfl
        rw [digitValue?_underscore] at isDigit
        cases isDigit
      unfold integerDigits?
      split
      next noDigit => rw [reads] at noDigit; cases noDigit
      next underscore => exact absurd (List.cons.inj underscore).1 notUnderscore
      next found _ =>
        rw [reads] at found
        rw [induction, ← Option.some.inj found]
        rfl
  | @apart c digit rest figures reads more induction =>
      obtain ⟨first, later, rfl, _⟩ := more.starts
      simp [integerDigits?, reads, induction]

/-! ## Signs -/

theorem sign_of_digits (of : Sign mark factor) (digits : Digits body figures) :
    ∃ negative, sign (mark ++ body) = (negative, body) ∧ factor = if negative then -1 else 1 := by
  obtain ⟨first, later, rfl, isDigit⟩ := digits.starts
  cases of with
  | none =>
      refine ⟨false, ?_, rfl⟩
      unfold sign
      split
      · simp_all [show digitValue? '-' = none by decide]
      · simp_all [show digitValue? '+' = none by decide]
      · rfl
  | plus => exact ⟨false, rfl, rfl⟩
  | minus => exact ⟨true, rfl, rfl⟩

theorem sign_splits (text : List Char) :
    ∃ mark, text = mark ++ (sign text).2 ∧ Sign mark (if (sign text).1 then -1 else 1) := by
  unfold sign
  split
  · exact ⟨['-'], rfl, .minus⟩
  · exact ⟨['+'], rfl, .plus⟩
  · exact ⟨[], rfl, .none⟩

theorem Sign.not_isBlank (of : Sign mark factor) : ∀ c ∈ mark, isBlank c = false := by
  cases of <;> simp [isBlank, isWhiteSpace]

/-- An integer is read off the texts that denote it, and off no others. -/
theorem integer?_eq_some_iff {text : List Char} {value : Int} :
    integer? text = some value ↔ Denotes text value := by
  constructor
  · intro reads
    obtain ⟨front, back, whole, before, after⟩ := trim_splits text
    obtain ⟨mark, split, of⟩ := sign_splits (trim text)
    unfold integer? at reads
    simp only at reads
    split at reads
    · cases reads
    · cases reads
    next figures nonempty digits =>
      split at reads
      · cases reads
      next short =>
        refine ⟨front, mark, _, back, _, figures, ?_, before, after, of,
          digits_of_integerDigits? nonempty digits, Nat.le_of_not_lt short, ?_⟩
        · rw [← split, ← whole]
        · rw [← Option.some.inj reads]
          split <;> simp
  · rintro ⟨front, mark, body, back, factor, figures, rfl, before, after, of, digits, short, rfl⟩
    have solid : ∀ c ∈ mark ++ body, isBlank c = false := by
      intro c member
      rcases List.mem_append.mp member with inMark | inBody
      · exact of.not_isBlank c inMark
      · exact digits.not_isBlank c inBody
    obtain ⟨negative, signed, rfl⟩ := sign_of_digits of digits
    unfold integer?
    rw [trim_between before after solid, signed]
    simp only [integerDigits?_of_digits digits]
    split
    next none => cases none
    next empty => cases digits <;> cases empty
    next same =>
      obtain rfl := Option.some.inj same
      rw [if_neg (Nat.not_lt.mpr short)]
      cases negative <;> simp

end DiscoveryClient.Numeral
