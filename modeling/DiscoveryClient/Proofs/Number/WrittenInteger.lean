import DiscoveryClient.Proofs.Number.IntegerText

/-!
# Integers in writing

The decimal text of an integer may be written between blanks, with more zeros in front of its
digits, with underscores between them, and with the digits of any scripts.  However it is
written, it denotes the integer, unless it has got too long to be read.
-/

namespace DiscoveryClient.Numeral

open Text

/-- A character is the digit of some script for the value of an ASCII digit. -/
def Stands (figure c : Char) : Prop :=
  ∃ first ∈ decimalZeros, ∃ value < 10,
    figure.toNat = '0'.toNat + value ∧ c.toNat = first + value

/-- ASCII digits written in any scripts, neighbours being apart by one underscore at most. -/
inductive Respells : List Char → List Char → Prop where
  | last {figure c : Char} (stands : Stands figure c) : Respells [figure] [c]
  | next {figure c : Char} {figures rest : List Char} (stands : Stands figure c)
      (more : Respells figures rest) : Respells (figure :: figures) (c :: rest)
  | apart {figure c : Char} {figures rest : List Char} (stands : Stands figure c)
      (more : Respells figures rest) : Respells (figure :: figures) (c :: '_' :: rest)

/-- What stands in front of the digits of an integer. -/
def mark (value : Int) : List Char :=
  if value < 0 then ['-'] else []

/-- A text that writes an integer: its decimal text in any of these ways. -/
def Writes (value : Int) (text : List Char) : Prop :=
  ∃ front figures zeros body back, (toString value).toList = mark value ++ figures ∧
    Respells (List.replicate zeros '0' ++ figures) body ∧
    zeros + figures.length ≤ maxIntegerDigits ∧
    text = front ++ (mark value ++ body ++ back) ∧ Blanks front ∧ Blanks back

/-! ## Digits -/

/-- No two scripts share a digit. -/
theorem decimalZeros_apart :
    ∀ first ∈ decimalZeros, ∀ second ∈ decimalZeros,
      first = second ∨ first + 10 ≤ second ∨ second + 10 ≤ first := by
  decide +kernel

theorem digitValue?_eq_some_iff {c : Char} {value : Nat} :
    digitValue? c = some value ↔ value < 10 ∧ ∃ first ∈ decimalZeros, c.toNat = first + value := by
  unfold digitValue?
  constructor
  · intro reads
    obtain ⟨first, found, rfl⟩ := Option.map_eq_some_iff.mp reads
    have within := List.find?_some found
    simp only [Bool.and_eq_true, decide_eq_true_eq] at within
    exact ⟨by omega, first, List.mem_of_find?_eq_some found, by omega⟩
  · rintro ⟨small, first, member, code⟩
    cases found : decimalZeros.find? fun first => first ≤ c.toNat && c.toNat < first + 10 with
    | none =>
        have outside := List.find?_eq_none.mp found first member
        simp only [Bool.and_eq_true, decide_eq_true_eq] at outside
        omega
    | some other =>
        -- the script that is found holds the character too, so it is this one
        have within := List.find?_some found
        simp only [Bool.and_eq_true, decide_eq_true_eq] at within
        have apart := decimalZeros_apart other (List.mem_of_find?_eq_some found) first member
        rw [Option.map_some, Option.some.injEq]
        omega

/-- The value of an ASCII digit. -/
def figureValue (figure : Char) : Nat :=
  figure.toNat - '0'.toNat

theorem Stands.reads {figure c : Char} (stands : Stands figure c) :
    digitValue? c = some (figureValue figure) := by
  obtain ⟨first, member, value, small, figureCode, code⟩ := stands
  refine digitValue?_eq_some_iff.mpr ?_
  rw [figureValue, figureCode, Nat.add_sub_cancel_left]
  exact ⟨small, first, member, code⟩

theorem Respells.digits {figures body : List Char} (respells : Respells figures body) :
    Digits body (figures.map figureValue) := by
  induction respells with
  | last stands => exact .last stands.reads
  | next stands _ induction => exact .next stands.reads induction
  | apart stands _ induction => exact .apart stands.reads induction

theorem stands_self {figure : Char} (isDigit : figure.isDigit = true) : Stands figure figure := by
  have bounds : 48 ≤ figure.toNat ∧ figure.toNat ≤ 57 := by
    simpa [Char.isDigit, UInt32.le_iff_toNat_le] using isDigit
  have zero : '0'.toNat = 48 := rfl
  exact ⟨0x30, by decide, figure.toNat - 48, by omega, by omega, by omega⟩

theorem respells_self {figures : List Char} (nonempty : figures ≠ [])
    (areDigits : ∀ figure ∈ figures, figure.isDigit = true) : Respells figures figures := by
  induction figures with
  | nil => exact absurd rfl nonempty
  | cons figure rest induction =>
      have stands := stands_self (areDigits figure List.mem_cons_self)
      cases rest with
      | nil => exact .last stands
      | cons second more =>
          refine .next stands (induction (List.cons_ne_nil _ _) fun figure member => ?_)
          exact areDigits figure (List.mem_cons_of_mem _ member)

/-! ## Values -/

theorem ofDigits_figures (figures : List Char) :
    ofDigits (figures.map figureValue) = Nat.ofDigitChars 10 figures 0 := by
  rw [ofDigits, List.foldl_map]
  rfl

theorem ofDigits_zeros (zeros : Nat) (digits : List Nat) :
    ofDigits (List.replicate zeros 0 ++ digits) = ofDigits digits := by
  induction zeros with
  | zero => rfl
  | succ zeros induction =>
      rw [List.replicate_succ, List.cons_append]
      exact induction

theorem toList_toString (value : Int) :
    (toString value).toList = mark value ++ Nat.toDigits 10 value.natAbs := by
  cases value with
  | ofNat magnitude => exact Nat.toList_repr
  | negSucc less =>
      have negative : Int.negSucc less < 0 := Int.negSucc_lt_zero less
      change ("-" ++ (less + 1).repr).toList = _
      rw [String.toList_append, Nat.toList_repr, mark, if_pos negative]
      rfl

theorem sign_mark (value : Int) : Sign (mark value) (if value < 0 then -1 else 1) := by
  unfold mark
  split
  · exact .minus
  · exact .none

theorem Writes.denotes {value : Int} {text : List Char} (writes : Writes value text) :
    Denotes text value := by
  obtain ⟨front, figures, zeros, body, back, decimal, respells, short, rfl, before, after⟩ := writes
  rw [toList_toString, List.append_cancel_left_eq] at decimal
  subst decimal
  refine ⟨front, mark value, body, back, _, _, rfl, before, after, sign_mark value,
    respells.digits, by simpa using short, ?_⟩
  have zero : figureValue '0' = 0 := rfl
  rw [List.map_append, List.map_replicate, zero, ofDigits_zeros, ofDigits_figures,
    Nat.ofDigitChars_ten_toDigits]
  split <;> omega

/-- The decimal text of an integer writes it. -/
theorem writes_toString {value : Int}
    (short : (toString value.natAbs).length ≤ maxIntegerDigits) :
    Writes value (toString value).toList := by
  have length : (toString value.natAbs).length = (Nat.toDigits 10 value.natAbs).length := by
    rw [← String.length_toList, Nat.toString_eq_repr, Nat.toList_repr]
  refine ⟨[], Nat.toDigits 10 value.natAbs, 0, _, [], toList_toString value,
    respells_self ?_ fun figure member => ?_, ?_, ?_, by simp [Blanks], by simp [Blanks]⟩
  · simp
  · simp only [List.replicate_zero, List.nil_append] at member
    exact Nat.isDigit_of_mem_toDigits (by decide) (by decide) member
  · omega
  · rw [toList_toString, List.replicate_zero, List.nil_append, List.nil_append, List.append_nil]

end DiscoveryClient.Numeral
