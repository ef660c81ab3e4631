import DiscoveryClient.Text.Utf8

/-!
# Encoded text is read back

The bytes of a text decode to its characters.  A sequence of each length is
decoded once for all its bytes; that a character is encoded as such a sequence
is arithmetic of its code point.
-/

namespace DiscoveryClient.Text.Utf8

variable {lead second third fourth : UInt8}

/-! ## Sequences of bytes -/

theorem isContinuation_iff (byte : UInt8) :
    isContinuation byte = true ↔ 0x80 ≤ byte.toNat ∧ byte.toNat < 0xc0 := by
  simp [isContinuation, UInt8.le_iff_toNat_le, UInt8.lt_iff_toNat_lt]

/-- Second bytes that a lead allows. -/
theorem allowsSecond_of (continues : isContinuation second = true)
    (notOverlong : lead.toNat = 0xe0 → 0xa0 ≤ second.toNat)
    (notSurrogate : lead.toNat = 0xed → second.toNat < 0xa0)
    (notOverlongAgain : lead.toNat = 0xf0 → 0x90 ≤ second.toNat)
    (notBeyond : lead.toNat = 0xf4 → second.toNat < 0x90) :
    allowsSecond lead second = true := by
  simp only [allowsSecond, continues, Bool.true_and, Bool.and_eq_true, Bool.not_eq_true',
    Bool.and_eq_false_iff, beq_eq_false_iff_ne, decide_eq_false_iff_not, ne_eq,
    ← UInt8.toNat_inj, UInt8.lt_iff_toNat_lt, UInt8.le_iff_toNat_le]
  simp
  omega

/-- A byte that begins a sequence of more than one. -/
theorem leads_iff : (0xc2 ≤ lead.toNat ∧ lead.toNat ≤ 0xf4) ↔
    ¬lead < 0x80 ∧ (decide (lead < 0xc2) || decide (0xf4 < lead)) = false := by
  simp only [UInt8.lt_iff_toNat_lt, Bool.or_eq_false_iff, decide_eq_false_iff_not]
  simp
  omega

theorem decodeFrom_one (position : Nat) (rest : List UInt8) (short : lead.toNat < 0x80) :
    decodeFrom position (lead :: rest) =
      (Char.ofNat lead.toNat :: ·) <$> decodeFrom (position + 1) rest := by
  have isShort : lead < 0x80 := short
  rw [decodeFrom.eq_def]
  simp only [isShort, if_true]

theorem decodeFrom_two (position : Nat) (rest : List UInt8)
    (leads : 0xc2 ≤ lead.toNat ∧ lead.toNat < 0xe0) (allows : allowsSecond lead second = true) :
    decodeFrom position (lead :: second :: rest) =
      (Char.ofNat (lead.toNat % 32 * 64 + payload second) :: ·) <$>
        decodeFrom (position + 2) rest := by
  obtain ⟨notShort, isLead⟩ := leads_iff.mp ⟨leads.1, by omega⟩
  have isTwo : lead < 0xe0 := leads.2
  rw [decodeFrom.eq_def]
  simp [notShort, isLead, allows, isTwo]

theorem decodeFrom_three (position : Nat) (rest : List UInt8)
    (leads : 0xe0 ≤ lead.toNat ∧ lead.toNat < 0xf0) (allows : allowsSecond lead second = true)
    (continues : isContinuation third = true) :
    decodeFrom position (lead :: second :: third :: rest) =
      (Char.ofNat ((lead.toNat % 16 * 64 + payload second) * 64 + payload third) :: ·) <$>
        decodeFrom (position + 3) rest := by
  have begins : 0xc2 ≤ lead.toNat ∧ lead.toNat ≤ 0xf4 := by omega
  obtain ⟨notShort, isLead⟩ := leads_iff.mp begins
  have notTwo : ¬lead < 0xe0 := Nat.not_lt.mpr leads.1
  have isThree : lead < 0xf0 := leads.2
  rw [decodeFrom.eq_def]
  simp [notShort, isLead, allows, notTwo, continues, isThree]

theorem decodeFrom_four (position : Nat) (rest : List UInt8)
    (leads : 0xf0 ≤ lead.toNat ∧ lead.toNat ≤ 0xf4) (allows : allowsSecond lead second = true)
    (continues : isContinuation third = true) (ends : isContinuation fourth = true) :
    decodeFrom position (lead :: second :: third :: fourth :: rest) =
      (Char.ofNat (((lead.toNat % 8 * 64 + payload second) * 64 + payload third) * 64 +
        payload fourth) :: ·) <$> decodeFrom (position + 4) rest := by
  obtain ⟨notShort, isLead⟩ := leads_iff.mp ⟨by omega, leads.2⟩
  have notTwo : ¬lead < 0xe0 := Nat.not_lt.mpr (by simp; omega)
  have notThree : ¬lead < 0xf0 := Nat.not_lt.mpr leads.1
  rw [decodeFrom.eq_def]
  simp [notShort, isLead, allows, notTwo, continues, notThree, ends]

/-! ## Characters -/

theorem toNat_byte (number : Nat) (small : number < 256) : (UInt8.ofNat number).toNat = number := by
  rw [UInt8.toNat_ofNat']
  exact Nat.mod_eq_of_lt small

theorem isContinuation_byte (number : Nat) :
    isContinuation (UInt8.ofNat (number % 64 + 128)) = true := by
  rw [isContinuation_iff, toNat_byte _ (by omega)]
  omega

theorem payload_byte (number : Nat) : payload (UInt8.ofNat (number % 64 + 128)) = number % 64 := by
  rw [payload, toNat_byte _ (by omega)]
  omega

/-- An encoded character is read as it was. -/
theorem decodeFrom_encodeChar (position : Nat) (c : Char) (rest : List UInt8) :
    ∃ next, decodeFrom position (String.utf8EncodeChar c ++ rest) =
      (c :: ·) <$> decodeFrom next rest := by
  have same : Char.ofNat c.val.toNat = c := Char.ofNat_toNat c
  have valid := c.valid
  rw [UInt32.isValidChar, Nat.isValidChar] at valid
  unfold String.utf8EncodeChar
  generalize c.val.toNat = point at same valid
  subst same
  dsimp only
  -- one case for each length of a sequence
  split
  · refine ⟨position + 1, ?_⟩
    have lead : (UInt8.ofNat point).toNat = point := toNat_byte _ (by omega)
    rw [List.singleton_append, decodeFrom_one _ _ (by omega), lead]
  · split
    · refine ⟨position + 2, ?_⟩
      have lead := toNat_byte (point / 64 % 32 + 192) (by omega)
      have second := toNat_byte (point % 64 + 128) (by omega)
      have whole : (point / 64 % 32 + 192) % 32 * 64 + point % 64 = point := by omega
      rw [List.cons_append, List.singleton_append, decodeFrom_two, lead, payload_byte, whole]
      · omega
      · refine allowsSecond_of (isContinuation_byte point) ?_ ?_ ?_ ?_ <;> omega
    · split
      · refine ⟨position + 3, ?_⟩
        have lead := toNat_byte (point / 4096 % 16 + 224) (by omega)
        have second := toNat_byte (point / 64 % 64 + 128) (by omega)
        have whole : ((point / 4096 % 16 + 224) % 16 * 64 + point / 64 % 64) * 64 + point % 64 =
            point := by omega
        rw [List.cons_append, List.cons_append, List.singleton_append, decodeFrom_three, lead,
          payload_byte, payload_byte, whole]
        · omega
        · refine allowsSecond_of (isContinuation_byte _) ?_ ?_ ?_ ?_ <;> omega
        · exact isContinuation_byte point
      · refine ⟨position + 4, ?_⟩
        have lead := toNat_byte (point / 262144 % 8 + 240) (by omega)
        have second := toNat_byte (point / 4096 % 64 + 128) (by omega)
        have whole : (((point / 262144 % 8 + 240) % 8 * 64 + point / 4096 % 64) * 64 +
            point / 64 % 64) * 64 + point % 64 = point := by omega
        rw [List.cons_append, List.cons_append, List.cons_append, List.singleton_append,
          decodeFrom_four, lead, payload_byte, payload_byte, payload_byte, whole]
        · omega
        · refine allowsSecond_of (isContinuation_byte _) ?_ ?_ ?_ ?_ <;> omega
        · exact isContinuation_byte _
        · exact isContinuation_byte point

theorem decodeFrom_encode (position : Nat) (chars : List Char) :
    decodeFrom position (chars.flatMap String.utf8EncodeChar) = .ok chars := by
  induction chars generalizing position with
  | nil => rfl
  | cons c rest induction =>
      obtain ⟨next, read⟩ := decodeFrom_encodeChar position c (rest.flatMap String.utf8EncodeChar)
      rw [List.flatMap_cons, read, induction]
      rfl

/-- The bytes of a text are read back. -/
theorem decode_encode (text : String) : decode (encode text) = .ok text.toList :=
  decodeFrom_encode 0 text.toList

end DiscoveryClient.Text.Utf8
