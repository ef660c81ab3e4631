import DiscoveryClient.Proofs.Properties.LineReading

/-!
# Lines of a text

A text without quotes is read line by line, whatever ends its lines: its bindings are what
the lines say, one after another.  Where two texts meet at the end of a line, each has its
own bindings, even if a carriage return and a line feed meet there.
-/

namespace DiscoveryClient.PropertyText

variable {text front first second line rest ending : List Char} {written : List (List Char)}

/-- A line without its end. -/
def Single (line : List Char) : Prop :=
  ∀ c ∈ line, c ≠ '\n' ∧ c ≠ '\r'

/-- What ends a line in front of a text.  A carriage return and a line feed end one line. -/
inductive EndsLine : List Char → List Char → Prop where
  | feed (rest : List Char) : EndsLine ['\n'] rest
  | both (rest : List Char) : EndsLine ['\r', '\n'] rest
  | carriage {rest : List Char} (noFeed : rest.head? ≠ some '\n') : EndsLine ['\r'] rest

/-- The lines of a text. -/
inductive Lines : List Char → List (List Char) → Prop where
  | last {line : List Char} (single : Single line) : Lines line [line]
  | next {line ending rest : List Char} {written : List (List Char)} (single : Single line)
      (ends : EndsLine ending rest) (more : Lines rest written) :
      Lines (line ++ (ending ++ rest)) (line :: written)

/-- A text without quotes. -/
def Unquoted (text : List Char) : Prop :=
  ∀ c ∈ text, c ≠ '\'' ∧ c ≠ '"'

/-- Two texts meet at the end of a line. -/
def MeetAtLineEnd (first second : List Char) : Prop :=
  (∀ c, first.getLast? = some c → c = '\n' ∨ c = '\r') ∨
    ∀ c, second.head? = some c → c = '\n' ∨ c = '\r'

theorem unifyNewlines_cons {c : Char} (alone : c ≠ '\r' ∨ rest.head? ≠ some '\n') :
    unifyNewlines (c :: rest) = (if c = '\r' then '\n' else c) :: unifyNewlines rest := by
  rw [unifyNewlines]
  rintro more rfl rfl
  simp at alone

theorem unifyNewlines_append (single : Single line) (rest : List Char) :
    unifyNewlines (line ++ rest) = line ++ unifyNewlines rest := by
  induction line with
  | nil => rfl
  | cons c line induction =>
      have inLine := (single c List.mem_cons_self).2
      have later := induction fun d member => single d (List.mem_cons_of_mem c member)
      rw [List.cons_append, unifyNewlines_cons (.inl inLine), if_neg inLine, later,
        List.cons_append]

theorem EndsLine.unifyNewlines (ends : EndsLine ending rest) :
    unifyNewlines (ending ++ rest) = '\n' :: unifyNewlines rest := by
  cases ends with
  | feed => exact unifyNewlines_cons (.inl (by decide))
  | both => rfl
  | carriage noFeed => exact unifyNewlines_cons (.inr noFeed)

theorem Lines.cons {c : Char} (inLine : c ≠ '\n' ∧ c ≠ '\r') (of : Lines text written) :
    ∃ more, Lines (c :: text) more := by
  have longer {line : List Char} (single : Single line) : Single (c :: line) := by
    intro d member
    rcases List.mem_cons.mp member with rfl | later
    · exact inLine
    · exact single d later
  cases of with
  | last single => exact ⟨_, .last (longer single)⟩
  | next single ends more => exact ⟨_, .next (longer single) ends more⟩

/-- Every text has lines. -/
theorem exists_lines (text : List Char) : ∃ written, Lines text written := by
  have empty : Single [] := by simp [Single]
  fun_induction unifyNewlines text with
  | case1 => exact ⟨_, .last empty⟩
  | case2 rest induction =>
      obtain ⟨written, more⟩ := induction
      exact ⟨_, .next empty (.both rest) more⟩
  | case3 c rest alone induction =>
      obtain ⟨written, more⟩ := induction
      by_cases feed : c = '\n'
      · rw [feed]
        exact ⟨_, .next empty (.feed rest) more⟩
      by_cases carriage : c = '\r'
      · rw [carriage]
        refine ⟨_, .next empty (.carriage fun first => ?_) more⟩
        obtain ⟨behind, rfl⟩ := List.head?_eq_some_iff.mp first
        exact alone behind carriage rfl
      · exact more.cons ⟨feed, carriage⟩

/-! ## Bindings of lines -/

theorem Unquoted.of_subset (unquoted : Unquoted text) (subset : rest ⊆ text) : Unquoted rest :=
  fun c member => unquoted c (subset member)

theorem plain_of_single (single : Single line) (unquoted : Unquoted line) : Plain line :=
  fun c member => ⟨(single c member).1, unquoted c member⟩

theorem closes_newline (rest : List Char) : Closes ('\n' :: rest) := by
  intro c first
  exact (Option.some.inj first).symm

theorem bindings_nil : bindings [] = [] := by
  rw [bindings_eq]
  rfl

theorem bindings_ended (single : Single line) (plain : Plain line) (ends : EndsLine ending rest) :
    bindings (unifyNewlines (line ++ (ending ++ rest))) =
      (said? line).toList ++ bindings (unifyNewlines rest) := by
  rw [unifyNewlines_append single, ends.unifyNewlines,
    bindings_line (closes_newline _) plain, List.drop_one, List.tail_cons]

/-- Whatever ends a line, those behind it are read for themselves. -/
theorem bindings_next (single : Single line) (plain : Plain line) (ends : EndsLine ending rest)
    (text : List Char) :
    bindings (unifyNewlines (line ++ (ending ++ text))) =
      (said? line).toList ++ bindings (unifyNewlines text) := by
  cases ends with
  | feed => exact bindings_ended single plain (.feed text)
  | both => exact bindings_ended single plain (.both text)
  | carriage =>
      by_cases feed : text.head? = some '\n'
      · -- the line feed that follows belongs to the same end, and is an empty line by itself
        obtain ⟨behind, rfl⟩ := List.head?_eq_some_iff.mp feed
        have alone : bindings (unifyNewlines ('\n' :: behind)) = bindings (unifyNewlines behind) :=
          bindings_ended (by simp [Single] : Single []) (by simp [Plain]) (.feed behind)
        rw [alone]
        exact bindings_ended single plain (.both behind)
      · exact bindings_ended single plain (.carriage feed)

/-- A last line need not end. -/
theorem bindings_last (single : Single line) (plain : Plain line)
    (closes : Closes (unifyNewlines rest)) :
    bindings (unifyNewlines (line ++ rest)) =
      (said? line).toList ++ bindings (unifyNewlines rest) := by
  have nothing : Plain [] := by simp [Plain]
  have alone : bindings ([] ++ unifyNewlines rest) = bindings ((unifyNewlines rest).drop 1) :=
    bindings_line closes nothing
  rw [unifyNewlines_append single, bindings_line closes plain, ← alone, List.nil_append]

theorem filterMap_said_cons (line : List Char) (written : List (List Char)) :
    (line :: written).filterMap said? = (said? line).toList ++ written.filterMap said? := by
  cases given : said? line <;> simp [given]

/-- The bindings of a text are what its lines say. -/
theorem bindings_of_lines (of : Lines text written) (unquoted : Unquoted text) :
    bindings (unifyNewlines text) = written.filterMap said? := by
  induction of with
  | @last line single =>
      have closes : Closes (unifyNewlines []) := by simp [Closes, unifyNewlines]
      have read := bindings_last single (plain_of_single single unquoted) closes
      rw [List.append_nil] at read
      rw [read, filterMap_said_cons]
      simp [unifyNewlines, bindings_nil]
  | @next line ending rest written single ends more induction =>
      have own : Unquoted line := unquoted.of_subset (List.subset_append_left _ _)
      have behind : Unquoted rest := unquoted.of_subset fun c member => by simp [member]
      rw [bindings_next single (plain_of_single single own) ends, induction behind,
        filterMap_said_cons]

theorem closes_unifyNewlines (ends : ∀ c, text.head? = some c → c = '\n' ∨ c = '\r') :
    Closes (unifyNewlines text) := by
  cases text with
  | nil => simp [Closes, unifyNewlines]
  | cons c rest =>
      by_cases both : c = '\r' ∧ rest.head? = some '\n'
      · obtain ⟨rfl, feed⟩ := both
        obtain ⟨behind, rfl⟩ := List.head?_eq_some_iff.mp feed
        exact closes_newline _
      · have read : unifyNewlines (c :: rest) = _ := unifyNewlines_cons (not_and_or.mp both)
        rw [read]
        rcases ends c rfl with rfl | rfl
        · exact closes_newline _
        · exact closes_newline _

theorem MeetAtLineEnd.behind (meet : MeetAtLineEnd (front ++ first) second) :
    MeetAtLineEnd first second := by
  refine meet.imp_left fun ends c last => ends c ?_
  rw [List.getLast?_append, last]
  rfl

/-- Where texts meet at the end of a line, each has its own bindings. -/
theorem bindings_append (of : Lines first written) (meet : MeetAtLineEnd first second)
    (unquoted : Unquoted (first ++ second)) :
    bindings (unifyNewlines (first ++ second)) =
      bindings (unifyNewlines first) ++ bindings (unifyNewlines second) := by
  induction of with
  | @last line single =>
      have own : Unquoted line := unquoted.of_subset (List.subset_append_left _ _)
      have plain := plain_of_single single own
      cases last : line.getLast? with
      | none =>
          obtain rfl := List.getLast?_eq_none_iff.mp last
          simp [unifyNewlines, bindings_nil]
      | some c =>
          have inLine := single c (List.mem_of_getLast? last)
          rcases meet with ends | begins
          · exact absurd (ends c last) (not_or.mpr inLine)
          · rw [bindings_last single plain (closes_unifyNewlines begins),
              bindings_of_lines (.last single) own, filterMap_said_cons]
            simp
  | @next line ending rest written single ends more induction =>
      have own : Unquoted line := unquoted.of_subset fun c member => by simp [member]
      have behind : Unquoted (rest ++ second) := unquoted.of_subset fun c member => by
        simp only [List.mem_append] at member ⊢
        exact member.imp_left fun inRest => .inr (.inr inRest)
      have plain := plain_of_single single own
      rw [← List.append_assoc] at meet
      rw [List.append_assoc, List.append_assoc, bindings_next single plain ends,
        bindings_next single plain ends, induction meet.behind behind, List.append_assoc]

end DiscoveryClient.PropertyText
