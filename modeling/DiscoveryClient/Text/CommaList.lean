/-!
# Comma-separated lists

A list of texts is stored as one text with a comma between neighbours.
Splitting trims nothing and drops nothing, so joining gives the text back, and
a non-empty list of comma-free texts is read back as it was written.
-/

namespace DiscoveryClient.Text.CommaList

/-- Tokens between commas; there is always one more token than commas. -/
def splitChars : List Char → List (List Char)
  | [] => [[]]
  | c :: rest =>
      if c = ',' then [] :: splitChars rest
      else match splitChars rest with
        | [] => [[c]]
        | token :: tokens => (c :: token) :: tokens

def split (text : String) : List String :=
  (splitChars text.toList).map String.ofList

theorem splitChars_ne_nil (text : List Char) : splitChars text ≠ [] := by
  cases text with
  | nil => simp [splitChars]
  | cons c rest =>
      unfold splitChars
      split
      · simp
      · split <;> simp

end DiscoveryClient.Text.CommaList
