import DiscoveryClient.Proofs.Properties.LineGrammar

/-!
# Reading lines of property text

A reader of statements that is set on the front of a line without quotes takes in this line
and no more of the text, whether the statement is well formed or not.  So the bindings of a
text are what its lines say, one after another.
-/

namespace DiscoveryClient.PropertyText

open Text

variable {line text tail front back rest key after : List Char}

/-- Neither the end of a line nor a quote. -/
def Plain (text : List Char) : Prop :=
  ∀ c ∈ text, c ≠ '\n' ∧ c ≠ '\'' ∧ c ≠ '"'

/-- What stands behind a line: nothing, or the end of the line and other lines. -/
def Closes (tail : List Char) : Prop :=
  ∀ c, tail.head? = some c → c = '\n'

theorem Closes.cases (closes : Closes tail) : tail = [] ∨ ∃ rest, tail = '\n' :: rest := by
  cases tail with
  | nil => exact .inl rfl
  | cons c rest => exact .inr ⟨rest, by rw [closes c rfl]⟩

section

variable {p : Char → Bool}

theorem takeWhile_line (closes : Closes tail) (stops : p '\n' = false) (text : List Char) :
    (text ++ tail).takeWhile p = text.takeWhile p := by
  induction text with
  | nil => rcases closes.cases with rfl | ⟨rest, rfl⟩ <;> simp [stops]
  | cons c rest induction => simp only [List.cons_append, List.takeWhile_cons, induction]

theorem dropWhile_line (closes : Closes tail) (stops : p '\n' = false) (text : List Char) :
    (text ++ tail).dropWhile p = text.dropWhile p ++ tail := by
  induction text with
  | nil => rcases closes.cases with rfl | ⟨rest, rfl⟩ <;> simp [stops]
  | cons c rest induction =>
      simp only [List.cons_append, List.dropWhile_cons, induction]
      split <;> rfl

end

theorem ne_newline (single : '\n' ∉ text) : ∀ c ∈ text, decide (c ≠ '\n') = true :=
  fun _ member => decide_eq_true fun newline => single (newline ▸ member)

theorem takeWhile_to_end (closes : Closes tail) (single : '\n' ∉ text) :
    (text ++ tail).takeWhile (· ≠ '\n') = text := by
  refine takeWhile_run (ne_newline single) fun c first => ?_
  simp [closes c first]

theorem dropWhile_to_end (closes : Closes tail) (single : '\n' ∉ text) :
    (text ++ tail).dropWhile (· ≠ '\n') = tail := by
  refine dropWhile_run (ne_newline single) fun c first => ?_
  simp [closes c first]

theorem dropLine_line (closes : Closes tail) (single : '\n' ∉ text) :
    dropLine (text ++ tail) = tail.drop 1 := by
  rw [dropLine, dropWhile_to_end closes single]

theorem dropInline_line (closes : Closes tail) (single : '\n' ∉ text) :
    dropInline (text ++ tail) = text.dropWhile isBlank ++ tail := by
  rw [dropInline, dropWhile_line closes (by decide), ← dropInline, dropInline_eq single]

/-- A word without the end of a line that begins a text begins its first line. -/
theorem prefix_line (closes : Closes tail) {word : List Char} (single : '\n' ∉ word)
    (begins : word <+: text ++ tail) : word <+: text := by
  obtain ⟨rest, whole⟩ := begins
  rcases List.append_eq_append_iff.mp whole with ⟨more, rfl, _⟩ | ⟨more, rfl, behind⟩
  · exact List.prefix_append word more
  · cases more with
    | nil => simp
    | cons c more =>
        have newline : c = '\n' := closes c (by rw [behind]; rfl)
        exact absurd (by simp [newline]) single

theorem dropExport_line (closes : Closes tail) (text : List Char) :
    dropExport (text ++ tail) = dropExport text ++ tail := by
  rcases dropExport_cases (text ++ tail) with ⟨c, rest, whole, blank, _⟩ | ⟨unmarked, same⟩
  · have inLine : '\n' ∉ "export".toList ++ [c] := by
      intro newline
      rcases List.mem_append.mp newline with inWord | isNewline
      · exact absurd inWord (by decide)
      · rw [← List.mem_singleton.mp isNewline] at blank
        exact absurd blank (by decide)
    obtain ⟨more, rfl⟩ := prefix_line closes inLine ⟨rest, by rw [whole]; simp⟩
    simp only [List.append_assoc, List.cons_append, dropExport_marked blank]
    exact dropWhile_line closes (by decide) more
  · rcases dropExport_cases text with ⟨c, rest, rfl, blank, _⟩ | ⟨_, own⟩
    · have notBlank := unmarked c (rest ++ tail) (by simp)
      rw [blank] at notBlank
      cases notBlank
    · rw [same, own]

theorem Plain.single (plain : Plain text) : '\n' ∉ text := fun newline =>
  (plain _ newline).1 rfl

theorem Plain.of_suffix (plain : Plain text) (suffix : back <:+ text) : Plain back :=
  fun c member => plain c (suffix.subset member)

theorem Plain.dropWhile (plain : Plain text) (p : Char → Bool) : Plain (text.dropWhile p) :=
  plain.of_suffix (List.dropWhile_suffix p)

theorem no_quote_line (closes : Closes tail) (plain : Plain text) :
    ∀ rest, text ++ tail ≠ '\'' :: rest := by
  intro rest quoted
  cases text with
  | nil => exact absurd (closes '\'' (by rw [← List.nil_append tail, quoted]; rfl)) (by decide)
  | cons c more => exact (plain c List.mem_cons_self).2.1 (List.cons.inj quoted).1

theorem readKey_no_key (noQuote : ∀ rest, text ≠ '\'' :: rest)
    (noKey : text.takeWhile isKeyChar = []) : readKey text = .error text := by
  unfold readKey
  split
  next quoted => exact absurd rfl (noQuote _)
  next => simp only [noKey]

theorem readKey_key (noQuote : ∀ rest, text ≠ '\'' :: rest)
    (nonempty : text.takeWhile isKeyChar ≠ []) :
    readKey text = .ok (text.takeWhile isKeyChar, text.dropWhile isKeyChar) := by
  unfold readKey
  split
  next quoted => exact absurd rfl (noQuote _)
  next =>
    split
    next empty => exact absurd empty nonempty
    next => rfl

theorem dropInline_of_begins {c : Char} (begins : isBlank c = false) (rest : List Char) :
    dropInline (c :: rest) = c :: rest := by
  have notBlank : ¬ isInlineBlank c = true := by
    simp [isInlineBlank, begins]
  rw [dropInline, List.dropWhile_cons_of_neg notBlank]

theorem readEnd_of_dropComment (closes : Closes tail) (drops : dropComment text = tail) :
    readEnd text = .ok (tail.drop 1) := by
  rw [readEnd, drops]
  rcases closes.cases with rfl | ⟨rest, rfl⟩
  · rfl
  · rfl

/-- A line may end in a comment. -/
theorem readEnd_comment (closes : Closes tail) (single : '\n' ∉ text) :
    readEnd ('#' :: text ++ tail) = .ok (tail.drop 1) := by
  refine readEnd_of_dropComment closes ?_
  rw [dropComment, List.cons_append, dropInline_of_begins (by decide)]
  exact dropWhile_to_end closes single

/-- Anything else is no end of a line. -/
theorem readEnd_fails {c : Char} (begins : isBlank c = false) (notNumber : c ≠ '#')
    (rest : List Char) : readEnd (c :: rest) = .error (c :: rest) := by
  have kept : dropComment (c :: rest) = c :: rest := by
    rw [dropComment, dropInline_of_begins begins]
    split
    next number => exact absurd (List.cons.inj number).1 notNumber
    next => rfl
  have inLine : c ≠ '\n' := by
    rintro rfl
    exact absurd begins (by decide)
  rw [readEnd, kept, dropInline_of_begins begins]
  split
  next empty => cases empty
  next newline => exact absurd (List.cons.inj newline).1 inLine
  next => rfl

theorem readValue_line (closes : Closes tail) (plain : Plain text) (afterBlank : Bool) :
    readValue afterBlank (text ++ tail) = .ok (trimEnd (cutComment afterBlank text), tail) := by
  have toEnd := takeWhile_to_end closes plain.single
  have behind := dropWhile_to_end closes plain.single
  unfold readValue
  split
  next empty =>
    obtain ⟨rfl, rfl⟩ := List.append_eq_nil_iff.mp empty
    rfl
  next c rest whole =>
    have noQuote : ¬ (c = '\'' ∨ c = '"') := by
      cases text with
      | nil =>
          rw [closes c (by rw [← List.nil_append tail, whole]; rfl)]
          decide
      | cons d more =>
          obtain ⟨rfl, _⟩ := List.cons.inj whole
          exact not_or.mpr (plain d List.mem_cons_self).2
    rw [if_neg noQuote, toEnd, behind]

/-- An assignment takes in the rest of its line. -/
theorem readAssignment_line (closes : Closes tail) (plain : Plain after) :
    readAssignment ('=' :: after ++ tail) = .ok (some (trim (cutComment false after)), tail) := by
  have flag : (after ++ tail).head?.any isInlineBlank = after.head?.any isBlank := by
    cases after with
    | nil => rcases closes.cases with rfl | ⟨rest, rfl⟩ <;> rfl
    | cons c rest => exact isInlineBlank_eq plain.single c List.mem_cons_self
  rw [List.cons_append, readAssignment, flag, dropInline_line closes plain.single,
    readValue_line closes (plain.dropWhile isBlank), value_eq]
  rfl

theorem readAssignment_none (notEquals : ∀ rest, text ≠ '=' :: rest) :
    readAssignment text = .ok (none, text) := by
  unfold readAssignment
  split
  next rest => exact absurd rfl (notEquals rest)
  next => rfl

theorem readBinding_of {behind : List Char} {value : Option (List Char)}
    (ofKey : readKey text = .ok (key, rest))
    (assigned : readAssignment (dropInline rest) = .ok (value, behind)) :
    readBinding text = (readEnd behind).map fun rest => (⟨key, value⟩, rest) := by
  simp only [readBinding, bind, Except.bind, ofKey, assigned]
  cases readEnd behind <;> rfl

/-- Behind a key and its blanks a statement takes in the rest of its line, or fails there. -/
theorem behind_key_line (closes : Closes tail) (plain : Plain rest)
    (begins : ∀ c, rest.head? = some c → isBlank c = false) (key : List Char) :
    ∃ value behind, readAssignment (rest ++ tail) = .ok (value, behind) ∧
      (readEnd behind).map (fun rest => (Binding.mk key value, rest)) =
        match verdict key rest with
        | some binding => .ok (binding, tail.drop 1)
        | none => .error (rest ++ tail) := by
  have ends : readEnd tail = .ok (tail.drop 1) := by
    refine readEnd_of_dropComment closes ?_
    rcases closes.cases with rfl | ⟨rest, rfl⟩ <;> rfl
  cases rest with
  | nil =>
      refine ⟨none, tail, readAssignment_none fun rest equals => ?_, by rw [ends]; rfl⟩
      have newline := closes '=' (by rw [← List.nil_append tail, equals]; rfl)
      exact absurd newline (by decide)
  | cons c more =>
      have inLine : Plain more := plain.of_suffix (List.suffix_cons c more)
      by_cases equals : c = '='
      · subst equals
        exact ⟨_, tail, readAssignment_line closes inLine, by rw [ends]; rfl⟩
      have assigned : readAssignment (c :: more ++ tail) = .ok (none, c :: more ++ tail) :=
        readAssignment_none fun rest same => equals (List.cons.inj same).1
      refine ⟨none, _, assigned, ?_⟩
      by_cases number : c = '#'
      · subst number
        rw [readEnd_comment closes inLine.single]
        rfl
      · rw [List.cons_append, readEnd_fails (begins c rfl) number, verdict_eq_none equals number]
        rfl

/-- A statement takes in the rest of its line, or fails within it. -/
theorem readBinding_line (closes : Closes tail) (plain : Plain text) :
    ∃ place, '\n' ∉ place ∧
      readBinding (text ++ tail) =
        match clause text with
        | some binding => .ok (binding, tail.drop 1)
        | none => .error (place ++ tail) := by
  have noQuote := no_quote_line closes plain
  have sameKey : (text ++ tail).takeWhile isKeyChar = text.takeWhile isKeyChar :=
    takeWhile_line closes (by decide) text
  by_cases noKey : text.takeWhile isKeyChar = []
  · refine ⟨text, plain.single, ?_⟩
    rw [clause_of_no_key noKey, readBinding, readKey_no_key noQuote (sameKey.trans noKey)]
    rfl
  · have behindKey := plain.dropWhile isKeyChar
    have behindBlanks := behindKey.dropWhile isBlank
    have ofKey := readKey_key noQuote (sameKey.symm ▸ noKey)
    rw [sameKey, dropWhile_line closes (by decide)] at ofKey
    obtain ⟨value, behind, assigned, ends⟩ :=
      behind_key_line closes behindBlanks (fun c first => dropWhile_stops first)
        (text.takeWhile isKeyChar)
    rw [← dropInline_line closes behindKey.single] at assigned
    refine ⟨_, behindBlanks.single, ?_⟩
    rw [readBinding_of ofKey assigned, ends, clause_of_key noKey]

theorem clause_number (text : List Char) : clause ('#' :: text) = none := rfl

/-- A reader of statements takes in one line. -/
theorem statement_line (closes : Closes tail) (plain : Plain text) :
    statement (text ++ tail) = (clause (dropExport text), tail.drop 1) := by
  have behind : Plain (dropExport text) := plain.of_suffix (dropExport_suffix text)
  unfold statement
  rw [dropExport_line closes]
  split
  next rest whole =>
    cases opened : dropExport text with
    | nil =>
        rw [opened, List.nil_append] at whole
        exact absurd (closes '#' (by rw [whole]; rfl)) (by decide)
    | cons c more =>
        rw [opened, List.cons_append] at whole
        obtain ⟨rfl, rfl⟩ := List.cons.inj whole
        have inComment : Plain more := behind.of_suffix (by rw [opened]; exact List.suffix_cons _ _)
        rw [clause_number, dropLine_line closes inComment.single]
  next =>
    obtain ⟨place, single, read⟩ := readBinding_line closes behind
    rw [read]
    cases clause (dropExport text) with
    | some binding => rfl
    | none => simp only [dropLine_line closes single]

theorem bindings_eq (text : List Char) :
    bindings text =
      match text.dropWhile isBlank with
      | [] => []
      | c :: rest => (statement (c :: rest)).1.toList ++ bindings (statement (c :: rest)).2 := by
  rw [bindings]
  split
  next empty => rw [empty]
  next c rest found => rw [found]

theorem bindings_append_blanks (blank : Blanks front) (text : List Char) :
    bindings (front ++ text) = bindings text := by
  rw [bindings_eq, bindings_eq text, List.dropWhile_append_of_pos blank]

/-- The bindings of a text are what its first line says, and those of the lines behind it. -/
theorem bindings_line (closes : Closes tail) (plain : Plain line) :
    bindings (line ++ tail) = (said? line).toList ++ bindings (tail.drop 1) := by
  have before := blanks_takeWhile line
  have read := statement_line closes (plain.dropWhile isBlank)
  have whole : bindings (line ++ tail) = bindings (line.dropWhile isBlank ++ tail) := by
    rw [← bindings_append_blanks before (line.dropWhile isBlank ++ tail), ← List.append_assoc,
      List.takeWhile_append_dropWhile]
  rw [whole, said?]
  cases stays : line.dropWhile isBlank with
  | nil =>
      rcases closes.cases with rfl | ⟨rest, rfl⟩
      · rfl
      · have newline : Blanks ['\n'] := by simp [Blanks, isBlank, isWhiteSpace]
        exact bindings_append_blanks newline rest
  | cons c rest =>
      have begins : ¬ isBlank c = true := by
        simp [dropWhile_stops (by rw [stays]; rfl : (line.dropWhile isBlank).head? = some c)]
      rw [stays, List.cons_append] at read
      rw [List.cons_append, bindings_eq, List.dropWhile_cons_of_neg begins]
      simp only [read]

end DiscoveryClient.PropertyText
