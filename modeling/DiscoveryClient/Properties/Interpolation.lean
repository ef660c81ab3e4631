/-!
# References to variables

A bootstrap value may refer to variables by `${NAME}`, or with a default by
`${NAME:-default}`.  Anything else that begins with a dollar sign stands for
itself.  Expanded text is not searched for references again.
-/

namespace DiscoveryClient.Interpolation

/-- A name, and the text that stands for it when it is not bound. -/
structure Reference where
  name : List Char
  default : List Char
  deriving DecidableEq, Repr

def isNameChar (c : Char) : Bool :=
  c ≠ '}' && c ≠ ':'

/-- A reference behind its opening brace, and the text behind its closing one. -/
def reference? (text : List Char) : Option (Reference × List Char) :=
  let name := text.takeWhile isNameChar
  match text.dropWhile isNameChar with
  | '}' :: rest => some (⟨name, []⟩, rest)
  | ':' :: '-' :: more =>
      match more.dropWhile (· ≠ '}') with
      | _ :: rest => some (⟨name, more.takeWhile (· ≠ '}')⟩, rest)
      | [] => none
  | _ => none

theorem length_reference? {text rest : List Char} {reference : Reference}
    (found : reference? text = some (reference, rest)) : rest.length < text.length := by
  have whole := (List.dropWhile_suffix (l := text) isNameChar).length_le
  unfold reference? at found
  simp only at found
  split at found
  · next behind equal =>
      simp only [equal, List.length_cons, Option.some.injEq, Prod.mk.injEq] at whole found
      rw [← found.2]
      omega
  · next more equal =>
      have inner := (List.dropWhile_suffix (l := more) (· ≠ '}')).length_le
      split at found
      · next c behind same =>
          simp only [equal, same, List.length_cons, Option.some.injEq, Prod.mk.injEq]
            at whole inner found
          rw [← found.2]
          omega
      · simp at found
  · simp at found

/-- Replace the references of a text by what `look` finds, or by their defaults. -/
def expand (look : String → Option String) : List Char → List Char
  | '$' :: '{' :: rest =>
      match _found : reference? rest with
      | some (reference, after) =>
          ((look (String.ofList reference.name)).map String.toList).getD reference.default ++
            expand look after
      | none => '$' :: expand look ('{' :: rest)
  | c :: rest => c :: expand look rest
  | [] => []
termination_by text => text.length
decreasing_by
  · have shorter := length_reference? _found
    simp only [List.length_cons]
    omega
  · simp
  · simp

end DiscoveryClient.Interpolation
