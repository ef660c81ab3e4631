import DiscoveryClient.Proofs.Number.WrittenInteger
import DiscoveryClient.Proofs.Properties.TypedReads

/-!
# Integers in properties

A text that is stored as a property is read as an integer exactly if it denotes one.  Any
other text gives the default, whatever that is, with one warning.  So an integer that is
stored in writing is read back, in whatever way it is written.
-/

namespace DiscoveryClient.PropertyReader

open Log

variable {reader : PropertyReader} {suffix text : String} {value : Int}

theorem denotes_text_iff :
    Denotes .int (.text text) (.int value) ↔ Numeral.Denotes text.toList value := by
  constructor
  · intro denotes
    cases denotes with
    | numeral other shows reads =>
        cases shows
        exact reads
  · exact fun reads => .numeral (by simp) rfl reads

theorem getAs_denoted (stored : reader.source (reader.key suffix) = some (.text text))
    (default : Value) (denotes : Numeral.Denotes text.toList value) :
    reader.getAs .int suffix default = pure (.ok (.int value)) :=
  getAs_converted (given?_of_stored stored (by simp))
    (convert_iff.mpr (denotes_text_iff.mpr denotes))

theorem getAs_undenoted (stored : reader.source (reader.key suffix) = some (.text text))
    (default : Value) (nothing : ∀ value, ¬ Numeral.Denotes text.toList value) :
    reader.getAs .int suffix default =
      { value := .ok default
        events := [ignoredValue (reader.key suffix) (.text text) "int" default] } := by
  have refuses : Kind.convert (.text text) .int = .ok none := by
    refine convert_refuses (.inl rfl) fun value denotes => ?_
    cases denotes with
    | numeral other shows reads =>
        cases shows
        exact nothing _ reads
  rw [getAs_given (given?_of_stored stored (by simp)), refuses]
  rfl

/-- With an integer for its default, the read is that of the client's own properties. -/
theorem getAs_int (reader : PropertyReader) (suffix : String) (default : Int) :
    reader.getAs .int suffix (.int default) =
      (fun value => .ok (.int value)) <$> reader.getInt suffix default := by
  unfold getAs getInt
  cases reader.readInt suffix <;> rfl

/-- Minus twelve between blanks, with a zero in front, in the digits of three scripts. -/
def dressedInteger : String :=
  "\u2003-0_\u0661\uff12\n"

end DiscoveryClient.PropertyReader
