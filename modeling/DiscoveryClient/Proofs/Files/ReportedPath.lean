import DiscoveryClient.Path.Reported
import DiscoveryClient.Proofs.Files.RelativePath
import DiscoveryClient.Proofs.Text.Utf8RoundTrip

/-!
# Paths reported as bytes

It makes no difference whether a path is reported as text or as the bytes of
that text.  No byte of another character is the one of a slash, so the bytes
fall into the bytes of the names.
-/

namespace DiscoveryClient

open Text.Utf8

namespace Path

variable {α : Type} {isSlash : α → Bool}

theorem splitBy_append (first rest : List α)
    (noSlash : ∀ element ∈ first, isSlash element = false) :
    splitBy isSlash (first ++ rest) = (splitBy isSlash rest).modifyHead (first ++ ·) := by
  induction first with
  | nil =>
      rw [List.nil_append]
      cases splitBy isSlash rest <;> rfl
  | cons element first induction =>
      have later := induction fun other member => noSlash other (List.mem_cons_of_mem _ member)
      rw [List.cons_append, splitBy, noSlash element List.mem_cons_self, later]
      cases parts : splitBy isSlash rest with
      | nil => exact (splitBy_ne_nil isSlash rest parts).elim
      | cons part parts => rfl

end Path

namespace ReportedPath

/-- The bytes of names. -/
def bytesOf (chars : List Char) : List UInt8 :=
  chars.flatMap String.utf8EncodeChar

theorem bytesOf_injective {left right : List Char} (same : bytesOf left = bytesOf right) :
    left = right := by
  have leftRead := decodeFrom_encode 0 left
  have rightRead := decodeFrom_encode 0 right
  rw [show left.flatMap String.utf8EncodeChar = bytesOf right from same] at leftRead
  exact Except.ok.inj (leftRead.symm.trans rightRead)

/-- The only byte of a character is its code point, and its bytes if it has more are high. -/
theorem mem_encodeChar {byte : UInt8} {c : Char} (member : byte ∈ String.utf8EncodeChar c) :
    byte.toNat = c.val.toNat ∨ 128 ≤ byte.toNat := by
  unfold String.utf8EncodeChar at member
  generalize c.val.toNat = point at member
  dsimp only at member
  split at member
  · rw [List.mem_singleton.mp member]
    exact .inl (toNat_byte point (by omega))
  · right
    split at member
    · simp only [List.mem_cons, List.not_mem_nil, or_false] at member
      rcases member with rfl | rfl <;>
      · rw [toNat_byte _ (by omega)]
        omega
    · split at member
      · simp only [List.mem_cons, List.not_mem_nil, or_false] at member
        rcases member with rfl | rfl | rfl <;>
        · rw [toNat_byte _ (by omega)]
          omega
      · simp only [List.mem_cons, List.not_mem_nil, or_false] at member
        rcases member with rfl | rfl | rfl | rfl <;>
        · rw [toNat_byte _ (by omega)]
          omega

/-- The byte of a slash is in no other character. -/
theorem noSlash_encodeChar {c : Char} (other : c ≠ '/') :
    ∀ byte ∈ String.utf8EncodeChar c, decide (byte = 0x2f) = false := by
  intro byte member
  refine decide_eq_false ?_
  rintro rfl
  rcases mem_encodeChar member with same | high
  · exact other (Char.ext (UInt32.toNat_inj.mp same.symm))
  · revert high
    decide

theorem splitBy_bytesOf (chars : List Char) :
    Path.splitBy (· = 0x2f) (bytesOf chars) = (Path.splitSlashes chars).map bytesOf := by
  induction chars with
  | nil => rfl
  | cons c rest induction =>
      rw [bytesOf, List.flatMap_cons, ← bytesOf, Path.splitSlashes, Path.splitBy]
      by_cases isSlash : c = '/'
      · subst isSlash
        change Path.splitBy _ (0x2f :: bytesOf rest) = _
        rw [Path.splitBy, induction]
        rfl
      · rw [Path.splitBy_append _ _ (noSlash_encodeChar isSlash), induction,
          if_neg (by simpa using isSlash), Path.splitSlashes]
        cases parts : Path.splitBy (fun c => decide (c = '/')) rest with
        | nil => exact (Path.splitBy_ne_nil _ rest parts).elim
        | cons name names => rfl

theorem isNamed_bytesOf (chars : List Char) :
    (decide (bytesOf chars ≠ []) && decide (bytesOf chars ≠ [0x2e])) =
      Path.isNamed (String.ofList chars) := by
  have empty : bytesOf chars = [] ↔ String.ofList chars = "" := by
    rw [show ([] : List UInt8) = bytesOf [] from rfl, show "" = String.ofList [] from rfl,
      String.ofList_inj]
    exact ⟨bytesOf_injective, congrArg bytesOf⟩
  have dot : bytesOf chars = [0x2e] ↔ String.ofList chars = "." := by
    rw [show [0x2e] = bytesOf ['.'] from rfl, show "." = String.ofList ['.'] from rfl,
      String.ofList_inj]
    exact ⟨bytesOf_injective, congrArg bytesOf⟩
  simp only [Path.isNamed, ne_eq, empty, dot]

/-- The names of the bytes of a path are the bytes of its names. -/
theorem byteNames_encode (text : String) :
    byteNames (encode text) = (Path.ofText text).names.map fun name => bytesOf name.toList := by
  have kept : (fun chars => decide (bytesOf chars ≠ []) && decide (bytesOf chars ≠ [0x2e])) =
      fun chars => Path.isNamed (String.ofList chars) := funext isNamed_bytesOf
  rw [byteNames, encode, ← bytesOf, splitBy_bytesOf, List.filter_map, Path.ofText,
    List.filter_map, List.map_map]
  simp only [Function.comp_def, String.toList_ofList]
  exact congrArg (fun keep => ((Path.splitSlashes text.toList).filter keep).map bytesOf) kept

theorem lastName?_bytes (path : String) :
    (ReportedPath.bytes (encode path)).lastName? = (ReportedPath.text path).lastName? := by
  have decoded (name : String) :
      (decode (bytesOf name.toList)).toOption.map String.ofList = some name := by
    rw [bytesOf, decode, decodeFrom_encode]
    simp [Except.toOption]
  simp only [lastName?]
  rw [byteNames_encode, List.getLast?_map, Path.baseName?]
  cases (Path.ofText path).names.getLast? with
  | none => rfl
  | some name => exact decoded name

end ReportedPath

end DiscoveryClient
