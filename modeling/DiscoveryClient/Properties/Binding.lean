import DiscoveryClient.Mapping
import DiscoveryClient.Text.Blank

/-!
# Property text

A property text is a sequence of statements.  A statement binds a key to a
value (`key=value`, with an optional `export` in front), or cancels a key (a
key alone), or is a comment.  Values stand between quotes, with escapes, or
run to the end of the line, to the first comment at the latest.

`statement` reads one statement from the front of a text.  Where it fails, the
rest of the line is skipped and reading goes on behind it, so one malformed
statement never hides the others.
-/

namespace DiscoveryClient.PropertyText

open Text

/-- A key with its new value, or with no value when the key is cancelled. -/
structure Binding where
  key : List Char
  value : Option (List Char)
  deriving DecidableEq, Repr

/-- What was read and the text behind it, or the text at the place of the failure. -/
abbrev Read (α : Type) := Except (List Char) (α × List Char)

def dropInline (text : List Char) : List Char :=
  text.dropWhile isInlineBlank

/-- Drop the rest of the line together with its end. -/
def dropLine (text : List Char) : List Char :=
  (text.dropWhile (· ≠ '\n')).drop 1

/-- Drop the word `export` if blanks follow it, and these with it. -/
def dropExport : List Char → List Char
  | 'e' :: 'x' :: 'p' :: 'o' :: 'r' :: 't' :: c :: rest =>
      if isInlineBlank c then dropInline rest else 'e' :: 'x' :: 'p' :: 'o' :: 'r' :: 't' :: c :: rest
  | text => text

/-! ## Keys -/

/-- Characters of a key without quotes. -/
def isKeyChar (c : Char) : Bool :=
  c ≠ '=' && c ≠ '#' && !isBlank c

/-- A key is a run of key characters, or anything but a quote between single quotes. -/
def readKey (text : List Char) : Read (List Char) :=
  match text with
  | '\'' :: rest =>
      match rest.takeWhile (· ≠ '\''), rest.dropWhile (· ≠ '\'') with
      | c :: key, _ :: after => .ok (c :: key, after)
      | _, _ => .error text
  | _ =>
      match text.takeWhile isKeyChar with
      | [] => .error text
      | key => .ok (key, text.dropWhile isKeyChar)

/-! ## Values -/

/-- The characters up to the closing quote, as written, and the text behind it.  A
backslash takes the next character along. -/
def readQuoted (quote : Char) : List Char → Option (List Char × List Char)
  | [] => none
  | '\\' :: c :: rest =>
      (readQuoted quote rest).map fun (value, after) => ('\\' :: c :: value, after)
  | c :: rest =>
      if c = quote then some ([], rest)
      else if c = '\\' then none
      else (readQuoted quote rest).map fun (value, after) => (c :: value, after)

/-- What the escape of a character between `quote`s stands for, if it is one. -/
def escaped? (quote c : Char) : Option Char :=
  if c = '\\' ∨ c = '\'' then some c
  else if quote = '\'' then none
  else match c with
    | '"' => some '"'
    | 'a' => some '\x07'
    | 'b' => some '\x08'
    | 'f' => some '\x0c'
    | 'n' => some '\n'
    | 'r' => some '\r'
    | 't' => some '\t'
    | 'v' => some '\x0b'
    | _ => none

/-- Replace the escapes between `quote`s; other backslashes stand for themselves. -/
def unescape (quote : Char) : List Char → List Char
  | [] => []
  | [c] => [c]
  | c :: next :: rest =>
      if c = '\\' then
        match escaped? quote next with
        | some value => value :: unescape quote rest
        | none => c :: unescape quote (next :: rest)
      else c :: unescape quote (next :: rest)

/-- Cut the text at the first number sign that has a blank in front of it. -/
def cutComment : (afterBlank : Bool) → List Char → List Char
  | _, [] => []
  | afterBlank, c :: rest =>
      if c = '#' ∧ afterBlank = true then [] else c :: cutComment (isBlank c) rest

/-- The value behind the blanks of an assignment. -/
def readValue (afterBlank : Bool) (text : List Char) : Read (List Char) :=
  match text with
  | [] => .ok ([], [])
  | c :: rest =>
      if c = '\'' ∨ c = '"' then
        match readQuoted c rest with
        | some (value, after) => .ok (unescape c value, after)
        | none => .error text
      else
        .ok (trimEnd (cutComment afterBlank (text.takeWhile (· ≠ '\n'))),
          text.dropWhile (· ≠ '\n'))

/-- A value behind an equals sign, or none. -/
def readAssignment (text : List Char) : Read (Option (List Char)) :=
  match text with
  | '=' :: rest =>
      (readValue (rest.head?.any isInlineBlank) (dropInline rest)).map
        fun (value, after) => (some value, after)
  | _ => .ok (none, text)

/-! ## Statements -/

/-- Drop a comment with the blanks in front of it; its line goes on. -/
def dropComment (text : List Char) : List Char :=
  match dropInline text with
  | '#' :: rest => rest.dropWhile (· ≠ '\n')
  | _ => text

/-- The text behind the end of a statement: blanks, a comment, and the end of the line. -/
def readEnd (text : List Char) : Except (List Char) (List Char) :=
  match dropInline (dropComment text) with
  | [] => .ok []
  | '\n' :: rest => .ok rest
  | _ => .error (dropComment text)

/-- A binding, with the end of its line. -/
def readBinding (text : List Char) : Except (List Char) (Binding × List Char) := do
  let (key, rest) ← readKey text
  let (value, rest) ← readAssignment (dropInline rest)
  let rest ← readEnd rest
  pure (⟨key, value⟩, rest)

/-- The statement at the front of a text, and the text behind it. -/
def statement (text : List Char) : Option Binding × List Char :=
  match dropExport text with
  | '#' :: rest => (none, dropLine rest)
  | rest =>
      match readBinding rest with
      | .ok (binding, after) => (some binding, after)
      | .error place => (none, dropLine place)

/-! ## Progress -/

theorem length_dropWhile_le (drop : Char → Bool) (text : List Char) :
    (text.dropWhile drop).length ≤ text.length :=
  (List.dropWhile_suffix drop).length_le

theorem length_dropInline_le (text : List Char) : (dropInline text).length ≤ text.length :=
  length_dropWhile_le _ text

theorem length_dropLine_le (text : List Char) : (dropLine text).length ≤ text.length := by
  have shorter := length_dropWhile_le (· ≠ '\n') text
  simp only [dropLine, List.length_drop]
  omega

theorem length_dropLine_lt {c : Char} (rest : List Char) :
    (dropLine (c :: rest)).length < (c :: rest).length := by
  by_cases newline : c = '\n'
  · simp [dropLine, newline]
  · have shorter := length_dropWhile_le (· ≠ '\n') rest
    simp only [dropLine, List.dropWhile_cons, newline, ne_eq, not_false_eq_true, decide_true,
      if_true, List.length_drop, List.length_cons] at shorter ⊢
    omega

theorem length_dropExport (text : List Char) :
    dropExport text = text ∨ (dropExport text).length < text.length := by
  unfold dropExport
  split
  · next c rest =>
      split
      · have shorter := length_dropInline_le rest
        right
        simp only [List.length_cons]
        omega
      · exact .inl rfl
  · exact .inl rfl

theorem readKey_ok {text key rest : List Char} (read : readKey text = .ok (key, rest)) :
    rest.length < text.length := by
  unfold readKey at read
  split at read
  · next body =>
      split at read
      · next c more closing after _ found =>
          have shorter := length_dropWhile_le (· ≠ '\'') body
          simp only [Except.ok.injEq, Prod.mk.injEq] at read
          rw [found, List.length_cons] at shorter
          rw [← read.2, List.length_cons]
          omega
      · simp at read
  · split at read
    · simp at read
    · next nonempty =>
        have parts := congrArg List.length
          (List.takeWhile_append_dropWhile (p := isKeyChar) (l := text))
        simp only [Except.ok.injEq, Prod.mk.injEq] at read
        have taken := List.length_pos_iff.2 nonempty
        rw [List.length_append, read.2] at parts
        omega

theorem readKey_error {text place : List Char} (read : readKey text = .error place) :
    place = text := by
  unfold readKey at read
  split at read
  · split at read <;> simp_all
  · split at read <;> simp_all

theorem length_readQuoted {quote : Char} {text value after : List Char}
    (read : readQuoted quote text = some (value, after)) : after.length < text.length := by
  fun_induction readQuoted quote text generalizing value after with
  | case1 => simp at read
  | case2 c rest induction =>
      simp only [Option.map_eq_some_iff] at read
      obtain ⟨⟨inner, behind⟩, found, equal⟩ := read
      have shorter := induction found
      grind
  | case3 => grind
  | case4 => simp at read
  | case5 c rest _ _ _ induction =>
      simp only [Option.map_eq_some_iff] at read
      obtain ⟨⟨inner, behind⟩, found, equal⟩ := read
      have shorter := induction found
      grind

theorem length_readValue {afterBlank : Bool} {text value after : List Char}
    (read : readValue afterBlank text = .ok (value, after)) : after.length ≤ text.length := by
  unfold readValue at read
  split at read
  · simp_all
  · next c rest =>
      split at read
      · split at read
        · next raw behind found =>
            have shorter := length_readQuoted found
            grind
        · simp at read
      · have shorter := length_dropWhile_le (· ≠ '\n') (c :: rest)
        grind

theorem readValue_error {afterBlank : Bool} {text place : List Char}
    (read : readValue afterBlank text = .error place) : place = text := by
  unfold readValue at read
  split at read
  · simp at read
  · split at read
    · split at read <;> simp_all
    · simp at read

theorem length_readAssignment {text after : List Char} {value : Option (List Char)}
    (read : readAssignment text = .ok (value, after)) : after.length ≤ text.length := by
  unfold readAssignment at read
  split at read
  · next rest =>
      have dropped := length_dropInline_le rest
      generalize found : readValue (rest.head?.any isInlineBlank) (dropInline rest) = result at read
      cases result with
      | error place => simp [Except.map] at read
      | ok pair =>
          have shorter := length_readValue found
          simp only [Except.map, Except.ok.injEq, Prod.mk.injEq] at read
          simp only [List.length_cons, ← read.2]
          omega
  · simp_all

theorem length_readAssignment_error {text place : List Char}
    (read : readAssignment text = .error place) : place.length ≤ text.length := by
  unfold readAssignment at read
  split at read
  · next rest =>
      have dropped := length_dropInline_le rest
      generalize found : readValue (rest.head?.any isInlineBlank) (dropInline rest) = result at read
      cases result with
      | error place =>
          have same := readValue_error found
          simp only [Except.map, Except.error.injEq] at read
          simp only [List.length_cons, ← read, same]
          omega
      | ok pair => simp [Except.map] at read
  · simp at read

theorem length_dropComment_le (text : List Char) : (dropComment text).length ≤ text.length := by
  have dropped := length_dropInline_le text
  unfold dropComment
  split
  · next rest found =>
      have shorter := length_dropWhile_le (· ≠ '\n') rest
      simp only [found, List.length_cons] at dropped
      omega
  · exact Nat.le_refl _

theorem length_readEnd {text after : List Char} (read : readEnd text = .ok after) :
    after.length ≤ text.length := by
  have comment := length_dropComment_le text
  have dropped := length_dropInline_le (dropComment text)
  unfold readEnd at read
  split at read
  · simp_all
  · next rest found =>
      simp only [found, List.length_cons] at dropped
      simp only [Except.ok.injEq] at read
      subst read
      omega
  · simp at read

theorem length_readEnd_error {text place : List Char} (read : readEnd text = .error place) :
    place.length ≤ text.length := by
  have comment := length_dropComment_le text
  unfold readEnd at read
  split at read <;> simp_all

theorem length_readBinding {text after : List Char} {binding : Binding}
    (read : readBinding text = .ok (binding, after)) : after.length < text.length := by
  simp only [readBinding, bind, Except.bind, pure, Except.pure] at read
  split at read
  · simp at read
  · next first foundKey =>
      split at read
      · simp at read
      · next second foundValue =>
          split at read
          · simp at read
          · next rest foundEnd =>
              have key := readKey_ok foundKey
              have dropped := length_dropInline_le first.2
              have value := length_readAssignment foundValue
              have ending := length_readEnd foundEnd
              simp only [Except.ok.injEq, Prod.mk.injEq] at read
              rw [← read.2]
              omega

/-- A statement that fails has either gone past its first character or not begun. -/
theorem length_readBinding_error {text place : List Char}
    (read : readBinding text = .error place) : place = text ∨ place.length < text.length := by
  simp only [readBinding, bind, Except.bind, pure, Except.pure] at read
  split at read
  · next foundKey =>
      simp only [Except.error.injEq] at read
      exact .inl (read ▸ readKey_error foundKey)
  · next first foundKey =>
      have key := readKey_ok foundKey
      have dropped := length_dropInline_le first.2
      split at read
      · next foundValue =>
          have value := length_readAssignment_error foundValue
          simp only [Except.error.injEq] at read
          subst read
          omega
      · next second foundValue =>
          have value := length_readAssignment foundValue
          split at read
          · next foundEnd =>
              have ending := length_readEnd_error foundEnd
              simp only [Except.error.injEq] at read
              subst read
              omega
          · simp at read

/-- A statement takes at least one character. -/
theorem length_statement_lt (c : Char) (rest : List Char) :
    (statement (c :: rest)).2.length < (c :: rest).length := by
  have begun : (dropExport (c :: rest)).length ≤ (c :: rest).length := by
    rcases length_dropExport (c :: rest) with same | shorter
    · exact Nat.le_of_eq (congrArg List.length same)
    · omega
  unfold statement
  split
  · next comment found =>
      have line := length_dropLine_le comment
      rw [found, List.length_cons] at begun
      simp only [List.length_cons] at begun ⊢
      omega
  · split
    · next binding after found =>
        have shorter := length_readBinding found
        simp only
        omega
    · next place found =>
        simp only
        rcases length_dropExport (c :: rest) with same | shorter
        · rcases length_readBinding_error found with here | behind
          · rw [here, same]
            exact length_dropLine_lt rest
          · have line := length_dropLine_le place
            omega
        · have line := length_dropLine_le place
          rcases length_readBinding_error found with here | behind
          · rw [here] at line ⊢
            omega
          · omega

/-! ## Texts -/

/-- The bindings of a text, in order. -/
def bindings (text : List Char) : List Binding :=
  match _found : text.dropWhile isBlank with
  | [] => []
  | c :: rest =>
      (statement (c :: rest)).1.toList ++ bindings (statement (c :: rest)).2
termination_by text.length
decreasing_by
  have dropped := length_dropWhile_le isBlank text
  have shorter := length_statement_lt c rest
  rw [_found] at dropped
  omega

/-- Line ends of every kind as newlines. -/
def unifyNewlines : List Char → List Char
  | [] => []
  | '\r' :: '\n' :: rest => '\n' :: unifyNewlines rest
  | c :: rest => (if c = '\r' then '\n' else c) :: unifyNewlines rest

/-- The text without a byte order mark at its front. -/
def dropByteOrderMark : List Char → List Char
  | '\ufeff' :: rest => rest
  | text => text

/-- The keys and values of a file's text, in order. -/
def lines (text : List Char) : List (String × Option String) :=
  (bindings (unifyNewlines (dropByteOrderMark text))).map fun binding =>
    (String.ofList binding.key, binding.value.map String.ofList)

/-- The keys that have a value at the end of the text. -/
def values (text : List Char) : Mapping String :=
  .ofList ((Mapping.ofList (lines text)).entries.filterMap fun (key, value) =>
    value.map fun value => (key, value))

end DiscoveryClient.PropertyText
