import DiscoveryClient.Proofs.Text.Trim
import DiscoveryClient.Properties.Binding

/-!
# Lines of property text

A line without quotes gives its key a value, cancels its key, or says nothing.  What it says
is described by how it is written, and `said?` computes it.

The word `export` with blanks behind it is never a key, and the blanks behind an equals sign
count as blanks in front of a comment.
-/

namespace DiscoveryClient.PropertyText

open Text

variable {line text front back key value after visible : List Char}

/-! ## How lines are written -/

/-- A key without quotes. -/
def IsKey (key : List Char) : Prop :=
  key ≠ [] ∧ ∀ c ∈ key, c ≠ '=' ∧ c ≠ '#' ∧ isBlank c = false

/-- The word `export` with blanks behind it is no part of what it stands in front of. -/
inductive Opens : List Char → List Char → Prop where
  | unmarked {text : List Char}
      (unmarked : ∀ c rest, text = "export".toList ++ c :: rest → isBlank c = false) :
      Opens text text
  | exported {gap rest : List Char} (apart : gap ≠ []) (blank : Blanks gap)
      (stops : ∀ c, rest.head? = some c → isBlank c = false) :
      Opens ("export".toList ++ (gap ++ rest)) rest

/-- No number sign of a text has a blank in front of it. -/
def Unbroken (text : List Char) : Prop :=
  ∀ front c back, text = front ++ c :: '#' :: back → isBlank c = false

/-- The part of a text before its comment, which is a number sign with a blank in front of it
and all that follows. -/
def Visible (text visible : List Char) : Prop :=
  ∃ comment, text = visible ++ comment ∧ Unbroken visible ∧
    (comment = [] ∨ ∃ front blank more, visible = front ++ [blank] ∧ isBlank blank = true ∧
      comment = '#' :: more)

/-- A line that gives a key a value. -/
def Assigns (line key value : List Char) : Prop :=
  ∃ lead text gap after visible, line = lead ++ text ∧ Blanks lead ∧
    Opens text (key ++ (gap ++ '=' :: after)) ∧ IsKey key ∧ Blanks gap ∧
    Visible after visible ∧ value = trim visible

/-- A line that cancels a key: the key alone, or with a comment. -/
def Cancels (line key : List Char) : Prop :=
  ∃ lead text gap comment, line = lead ++ text ∧ Blanks lead ∧
    Opens text (key ++ (gap ++ comment)) ∧ IsKey key ∧ Blanks gap ∧
    (comment = [] ∨ ∃ more, comment = '#' :: more)

/-- What is said about a key by the text behind it and its blanks. -/
def verdict (key : List Char) : List Char → Option Binding
  | [] | '#' :: _ => some ⟨key, none⟩
  | '=' :: after => some ⟨key, some (trim (cutComment false after))⟩
  | _ => none

/-- What is said behind the word `export`. -/
def clause (text : List Char) : Option Binding :=
  match text.takeWhile isKeyChar with
  | [] => none
  | key => verdict key ((text.dropWhile isKeyChar).dropWhile isBlank)

/-- What a line says. -/
def said? (line : List Char) : Option Binding :=
  clause (dropExport (line.dropWhile isBlank))

/-! ## Runs of characters -/

section

variable {p : Char → Bool}

theorem takeWhile_run (all : ∀ c ∈ front, p c = true)
    (stops : ∀ c, back.head? = some c → p c = false) : (front ++ back).takeWhile p = front := by
  rw [List.takeWhile_append_of_pos all]
  cases back with
  | nil => simp
  | cons c rest => simp [stops c rfl]

theorem dropWhile_run (all : ∀ c ∈ front, p c = true)
    (stops : ∀ c, back.head? = some c → p c = false) : (front ++ back).dropWhile p = back := by
  rw [List.dropWhile_append_of_pos all]
  cases back with
  | nil => simp
  | cons c rest => simp [stops c rfl]

theorem dropWhile_stops {c : Char} (first : (text.dropWhile p).head? = some c) : p c = false := by
  have stops := List.head?_dropWhile_not p text
  rwa [first] at stops

end

/-! ## Comments -/

theorem Unbroken.behind {c : Char} (unbroken : Unbroken (c :: text)) : Unbroken text := by
  intro front d back split
  exact unbroken (c :: front) d back (by rw [split, List.cons_append])

theorem unbroken_of_blanks (blank : Blanks text) : Unbroken text := by
  intro front c back split
  have number : isBlank '#' = true := blank _ (by simp [split])
  exact absurd number (by decide)

theorem elim_getLast?_cons (afterBlank : Bool) (c : Char) (text : List Char) :
    (c :: text).getLast?.elim afterBlank isBlank = text.getLast?.elim (isBlank c) isBlank := by
  rw [List.getLast?_cons]
  cases text.getLast? <;> rfl

/-- What stands in front of a comment is kept. -/
theorem cutComment_append {afterBlank : Bool} (unbroken : Unbroken visible)
    (begins : afterBlank = true → visible.head? ≠ some '#') :
    cutComment afterBlank (visible ++ text) =
      visible ++ cutComment (visible.getLast?.elim afterBlank isBlank) text := by
  induction visible generalizing afterBlank with
  | nil => rfl
  | cons c rest induction =>
      have kept : ¬ (c = '#' ∧ afterBlank = true) := fun ⟨number, blank⟩ =>
        begins blank (by rw [number]; rfl)
      have later : isBlank c = true → rest.head? ≠ some '#' := by
        intro blank number
        obtain ⟨more, rfl⟩ := List.head?_eq_some_iff.mp number
        exact absurd blank (by simp [unbroken [] c more rfl])
      rw [List.cons_append, cutComment, if_neg kept, induction unbroken.behind later,
        elim_getLast?_cons, List.cons_append]

/-- What is cut off is a comment. -/
theorem cutComment_splits (afterBlank : Bool) (text : List Char) :
    ∃ comment, text = cutComment afterBlank text ++ comment ∧
      Unbroken (cutComment afterBlank text) ∧
      (afterBlank = true → (cutComment afterBlank text).head? ≠ some '#') ∧
      (comment = [] ∨ (∃ more, comment = '#' :: more) ∧
        (cutComment afterBlank text).getLast?.elim afterBlank isBlank = true) := by
  induction text generalizing afterBlank with
  | nil => exact ⟨[], rfl, by simp [Unbroken, cutComment], by simp [cutComment], .inl rfl⟩
  | cons c rest induction =>
      by_cases cut : c = '#' ∧ afterBlank = true
      · rw [cutComment, if_pos cut]
        exact ⟨c :: rest, rfl, by simp [Unbroken], by simp, .inr ⟨⟨rest, by rw [cut.1]⟩, cut.2⟩⟩
      · obtain ⟨comment, whole, unbroken, begins, ends⟩ := induction (isBlank c)
        rw [cutComment, if_neg cut]
        refine ⟨comment, by rw [List.cons_append, ← whole], ?_, ?_, ?_⟩
        · intro front d back split
          cases front with
          | nil =>
              obtain ⟨rfl, number⟩ := List.cons.inj split
              rw [number] at begins
              simpa using begins
          | cons e front => exact unbroken front d back (List.cons.inj split).2
        · intro blank number
          exact cut ⟨Option.some.inj number, blank⟩
        · rwa [elim_getLast?_cons]

theorem visible_iff : Visible text visible ↔ cutComment false text = visible := by
  constructor
  · rintro ⟨comment, rfl, unbroken, ends⟩
    rw [cutComment_append unbroken (by simp)]
    rcases ends with rfl | ⟨front, blank, more, rfl, isBlank, rfl⟩
    · simp [cutComment]
    · simp [cutComment, isBlank]
  · rintro rfl
    obtain ⟨comment, whole, unbroken, _, ends⟩ := cutComment_splits false text
    refine ⟨comment, whole, unbroken, ends.imp_right fun ⟨⟨more, number⟩, blank⟩ => ?_⟩
    cases last : (cutComment false text).getLast? with
    | none => simp [last] at blank
    | some c =>
        obtain ⟨front, split⟩ := List.getLast?_eq_some_iff.mp last
        exact ⟨front, c, more, split, by simpa [last] using blank, number⟩

theorem trim_append_blanks (blank : Blanks front) : trim (front ++ text) = trim text := by
  rw [trim, trimBy, List.dropWhile_append_of_pos blank]
  rfl

theorem trim_eq_trimEnd (stops : ∀ c, text.head? = some c → isBlank c = false) :
    trim text = trimEnd text := by
  have whole : ([] ++ text).dropWhile isBlank = text := dropWhile_run (by simp) stops
  rw [List.nil_append] at whole
  rw [trim, trimBy, whole]
  rfl

theorem elim_getLast?_of_blanks (blank : Blanks text) :
    text.getLast?.elim true isBlank = true := by
  cases last : text.getLast? with
  | none => rfl
  | some c => exact blank c (List.mem_of_getLast? last)

theorem elim_getLast?_takeWhile (text : List Char) :
    (text.takeWhile isBlank).getLast?.elim false isBlank = text.head?.any isBlank := by
  cases text with
  | nil => rfl
  | cons c rest =>
      by_cases blank : isBlank c = true
      · rw [List.takeWhile_cons_of_pos blank, elim_getLast?_cons, blank,
          elim_getLast?_of_blanks (blanks_takeWhile rest)]
        simp [blank]
      · simp [List.takeWhile_cons_of_neg, blank]

/-- The blanks behind the equals sign count as blanks in front of a number sign. -/
theorem value_eq (after : List Char) :
    trimEnd (cutComment (after.head?.any isBlank) (after.dropWhile isBlank)) =
      trim (cutComment false after) := by
  have blank := blanks_takeWhile after
  have cut : cutComment false (after.takeWhile isBlank ++ after.dropWhile isBlank) = _ :=
    cutComment_append (unbroken_of_blanks blank) (by simp)
  rw [List.takeWhile_append_dropWhile, elim_getLast?_takeWhile] at cut
  rw [cut, trim_append_blanks blank, trim_eq_trimEnd]
  -- what is left begins as the text behind the blanks does
  intro c first
  obtain ⟨comment, whole, _⟩ :=
    cutComment_splits (after.head?.any isBlank) (after.dropWhile isBlank)
  have begins : (after.dropWhile isBlank).head? = some c := by
    rw [whole, List.head?_append, first]
    rfl
  exact dropWhile_stops begins

/-! ## The word in front -/

theorem isInlineBlank_eq (single : '\n' ∉ text) : ∀ c ∈ text, isInlineBlank c = isBlank c := by
  intro c member
  have inLine : c ≠ '\n' := fun newline => single (newline ▸ member)
  simp [isInlineBlank, inLine]

theorem dropInline_eq (single : '\n' ∉ text) : dropInline text = text.dropWhile isBlank := by
  induction text with
  | nil => rfl
  | cons c rest induction =>
      have later := induction fun newline => single (List.mem_cons_of_mem c newline)
      rw [dropInline] at later ⊢
      rw [List.dropWhile_cons, List.dropWhile_cons, later,
        isInlineBlank_eq single c List.mem_cons_self]

theorem dropExport_marked {c : Char} (blank : isInlineBlank c = true) (rest : List Char) :
    dropExport ("export".toList ++ c :: rest) = dropInline rest := by
  simp [dropExport, blank]

/-- The word is dropped with the blanks behind it, or there is no such word. -/
theorem dropExport_cases (text : List Char) :
    (∃ c rest, text = "export".toList ++ c :: rest ∧ isInlineBlank c = true ∧
      dropExport text = dropInline rest) ∨
    (∀ c rest, text = "export".toList ++ c :: rest → isInlineBlank c = false) ∧
      dropExport text = text := by
  by_cases marked : ∃ c rest, text = "export".toList ++ c :: rest
  · obtain ⟨c, rest, rfl⟩ := marked
    by_cases blank : isInlineBlank c = true
    · exact .inl ⟨c, rest, rfl, blank, dropExport_marked blank rest⟩
    · refine .inr ⟨?_, by simp [dropExport, blank]⟩
      intro d more same
      obtain ⟨rfl, _⟩ := List.cons.inj (List.append_cancel_left same)
      simpa using blank
  · refine .inr ⟨fun c rest same => absurd ⟨c, rest, same⟩ marked, ?_⟩
    unfold dropExport
    split
    next c rest => exact absurd ⟨c, rest, rfl⟩ marked
    next => rfl

theorem dropExport_suffix (text : List Char) : dropExport text <:+ text := by
  rcases dropExport_cases text with ⟨c, rest, rfl, _, drops⟩ | ⟨_, same⟩
  · rw [drops]
    exact (List.dropWhile_suffix _).trans ((List.suffix_cons c rest).trans (List.suffix_append _ _))
  · simp [same]

theorem opens_iff (single : '\n' ∉ text) {rest : List Char} :
    Opens text rest ↔ dropExport text = rest := by
  constructor
  · intro opens
    cases opens with
    | unmarked unmarked =>
        rcases dropExport_cases text with ⟨c, rest, rfl, blank, _⟩ | ⟨_, same⟩
        · rw [isInlineBlank_eq single c (by simp), unmarked c rest rfl] at blank
          cases blank
        · exact same
    | @exported gap rest apart blank stops =>
        obtain ⟨c, more, rfl⟩ := List.exists_cons_of_ne_nil apart
        rw [List.cons_append] at single ⊢
        rcases dropExport_cases ("export".toList ++ c :: (more ++ rest)) with
          ⟨d, behind, same, _, drops⟩ | ⟨unmarked, _⟩
        · obtain ⟨_, rfl⟩ := List.cons.inj (List.append_cancel_left same)
          have inLine : '\n' ∉ more ++ rest := fun newline => single (by simp [newline])
          rw [drops, dropInline_eq inLine]
          exact dropWhile_run (fun d member => blank d (List.mem_cons_of_mem c member)) stops
        · have notBlank := unmarked c (more ++ rest) rfl
          rw [isInlineBlank_eq single c (by simp), blank c List.mem_cons_self] at notBlank
          cases notBlank
  · rintro rfl
    rcases dropExport_cases text with ⟨c, rest, rfl, blank, drops⟩ | ⟨unmarked, same⟩
    · have inLine : '\n' ∉ rest := fun newline => single (by simp [newline])
      rw [isInlineBlank_eq single c (by simp)] at blank
      rw [drops, dropInline_eq inLine]
      have whole : "export".toList ++ c :: rest =
          "export".toList ++ (c :: rest.takeWhile isBlank ++ rest.dropWhile isBlank) := by
        rw [List.cons_append, List.takeWhile_append_dropWhile]
      rw [whole]
      refine .exported (List.cons_ne_nil _ _) ?_ fun d first => dropWhile_stops first
      intro d member
      rcases List.mem_cons.mp member with rfl | later
      · exact blank
      · exact List.mem_takeWhile_imp later
    · rw [same]
      refine .unmarked fun c rest whole => ?_
      rw [← isInlineBlank_eq single c (by simp [whole])]
      exact unmarked c rest whole

/-! ## Keys and what is behind them -/

variable {gap rest : List Char} {binding : Binding}

theorem isKeyChar_iff {c : Char} :
    isKeyChar c = true ↔ c ≠ '=' ∧ c ≠ '#' ∧ isBlank c = false := by
  simp [isKeyChar, and_assoc]

theorem isKeyChar_of_blank {c : Char} (blank : isBlank c = true) : isKeyChar c = false := by
  simp [isKeyChar, blank]

theorem clause_of_no_key (noKey : text.takeWhile isKeyChar = []) : clause text = none := by
  rw [clause, noKey]

theorem clause_of_key (nonempty : text.takeWhile isKeyChar ≠ []) :
    clause text =
      verdict (text.takeWhile isKeyChar) ((text.dropWhile isKeyChar).dropWhile isBlank) := by
  unfold clause
  split
  next empty => exact absurd empty nonempty
  next => rfl

theorem clause_parts (isKey : IsKey key) (blank : Blanks gap)
    (stops : ∀ c, rest.head? = some c → isKeyChar c = false ∧ isBlank c = false) :
    clause (key ++ (gap ++ rest)) = verdict key rest := by
  have keyChars c (member : c ∈ key) : isKeyChar c = true := isKeyChar_iff.mpr (isKey.2 c member)
  have keyStops : ∀ c, (gap ++ rest).head? = some c → isKeyChar c = false := by
    intro c first
    cases gap with
    | nil => exact (stops c first).1
    | cons d more =>
        obtain rfl : d = c := Option.some.inj first
        exact isKeyChar_of_blank (blank d List.mem_cons_self)
  have behind : (gap ++ rest).dropWhile isBlank = rest :=
    dropWhile_run blank fun c first => (stops c first).2
  unfold clause
  rw [takeWhile_run keyChars keyStops, dropWhile_run keyChars keyStops, behind]
  cases key with
  | nil => exact absurd rfl isKey.1
  | cons c more => rfl

theorem parts_of_clause (of : clause text = some binding) :
    ∃ key gap rest, text = key ++ (gap ++ rest) ∧ IsKey key ∧ Blanks gap ∧
      verdict key rest = some binding := by
  unfold clause at of
  split at of
  next => cases of
  next nonempty =>
    refine ⟨_, (text.dropWhile isKeyChar).takeWhile isBlank, _, ?_, ⟨nonempty, ?_⟩, ?_, of⟩
    · rw [List.takeWhile_append_dropWhile, List.takeWhile_append_dropWhile]
    · exact fun c member => isKeyChar_iff.mp (List.mem_takeWhile_imp member)
    · exact blanks_takeWhile _

theorem verdict_eq_value_iff {name : List Char} :
    verdict name rest = some ⟨key, some value⟩ ↔
      name = key ∧ ∃ after visible, rest = '=' :: after ∧ Visible after visible ∧
        value = trim visible := by
  constructor
  · intro of
    unfold verdict at of
    split at of
    next => cases of
    next => cases of
    next after =>
      obtain ⟨rfl, rfl⟩ : name = key ∧ trim (cutComment false after) = value := by
        simpa using of
      exact ⟨rfl, after, _, rfl, visible_iff.mpr rfl, rfl⟩
    next => cases of
  · rintro ⟨rfl, after, visible, rfl, isVisible, rfl⟩
    rw [verdict, visible_iff.mp isVisible]

theorem verdict_eq_cancelled_iff {name : List Char} :
    verdict name rest = some ⟨key, none⟩ ↔
      name = key ∧ (rest = [] ∨ ∃ more, rest = '#' :: more) := by
  constructor
  · intro of
    unfold verdict at of
    split at of
    next => exact ⟨by simpa using of, .inl rfl⟩
    next more => exact ⟨by simpa using of, .inr ⟨more, rfl⟩⟩
    next => simp at of
    next => cases of
  · rintro ⟨rfl, rfl | ⟨more, rfl⟩⟩
    · rfl
    · rfl

theorem verdict_eq_none {c : Char} (notEquals : c ≠ '=') (notNumber : c ≠ '#') :
    verdict key (c :: rest) = none := by
  unfold verdict
  split
  next empty => cases empty
  next number => exact absurd (List.cons.inj number).1 notNumber
  next equals => exact absurd (List.cons.inj equals).1 notEquals
  next => rfl

/-! ## What lines say -/

/-- Dropping the blanks and the word in front of a key comes upon the key. -/
theorem said_of_parts (single : '\n' ∉ line) {lead : List Char} (whole : line = lead ++ text)
    (before : Blanks lead) (opens : Opens text (key ++ back)) (isKey : IsKey key) :
    said? line = clause (key ++ back) := by
  have inLine : '\n' ∉ text := fun newline => single (by simp [whole, newline])
  have begins : ∀ c, text.head? = some c → isBlank c = false := by
    intro c first
    cases opens with
    | unmarked _ =>
        obtain ⟨d, more, rfl⟩ := List.exists_cons_of_ne_nil isKey.1
        obtain rfl : d = c := Option.some.inj first
        exact (isKey.2 d List.mem_cons_self).2.2
    | exported _ _ _ =>
        obtain rfl : 'e' = c := Option.some.inj first
        decide
  rw [said?, whole, dropWhile_run before begins, (opens_iff inLine).mp opens]

theorem parts_of_said (single : '\n' ∉ line) (of : said? line = some binding) :
    ∃ lead text key gap rest, line = lead ++ text ∧ Blanks lead ∧
      Opens text (key ++ (gap ++ rest)) ∧ IsKey key ∧ Blanks gap ∧
      verdict key rest = some binding := by
  obtain ⟨key, gap, rest, whole, isKey, blank, given⟩ := parts_of_clause of
  have inLine : '\n' ∉ line.dropWhile isBlank := fun newline =>
    single ((List.dropWhile_suffix _).subset newline)
  refine ⟨line.takeWhile isBlank, line.dropWhile isBlank, key, gap, rest,
    List.takeWhile_append_dropWhile.symm, blanks_takeWhile line,
    (opens_iff inLine).mpr whole, isKey, blank, given⟩

theorem said_value_iff (single : '\n' ∉ line) :
    said? line = some ⟨key, some value⟩ ↔ Assigns line key value := by
  constructor
  · intro of
    obtain ⟨lead, text, name, gap, rest, whole, before, opens, isKey, blank, given⟩ :=
      parts_of_said single of
    obtain ⟨rfl, after, visible, rfl, isVisible, trimmed⟩ := verdict_eq_value_iff.mp given
    exact ⟨lead, text, gap, after, visible, whole, before, opens, isKey, blank, isVisible, trimmed⟩
  · rintro ⟨lead, text, gap, after, visible, whole, before, opens, isKey, blank, isVisible, trimmed⟩
    rw [said_of_parts single whole before opens isKey, clause_parts isKey blank]
    · exact verdict_eq_value_iff.mpr ⟨rfl, after, visible, rfl, isVisible, trimmed⟩
    · intro c first
      obtain rfl : '=' = c := Option.some.inj first
      decide

theorem said_cancelled_iff (single : '\n' ∉ line) :
    said? line = some ⟨key, none⟩ ↔ Cancels line key := by
  constructor
  · intro of
    obtain ⟨lead, text, name, gap, rest, whole, before, opens, isKey, blank, given⟩ :=
      parts_of_said single of
    obtain ⟨rfl, comment⟩ := verdict_eq_cancelled_iff.mp given
    exact ⟨lead, text, gap, rest, whole, before, opens, isKey, blank, comment⟩
  · rintro ⟨lead, text, gap, rest, whole, before, opens, isKey, blank, comment⟩
    rw [said_of_parts single whole before opens isKey, clause_parts isKey blank]
    · exact verdict_eq_cancelled_iff.mpr ⟨rfl, comment⟩
    · rcases comment with rfl | ⟨more, rfl⟩
      · simp
      · intro c first
        obtain rfl : '#' = c := Option.some.inj first
        decide

end DiscoveryClient.PropertyText
