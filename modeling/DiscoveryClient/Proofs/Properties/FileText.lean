import DiscoveryClient.Proofs.Properties.Reload
import DiscoveryClient.Proofs.Properties.TextLines
import DiscoveryClient.Proofs.Text.Utf8RoundTrip
import Mathlib.Data.List.Induction

/-!
# Texts of property files

The last line about a key decides what a property file without quotes binds it to, and the
lines about other keys and those that are malformed have no part in that.  So where two texts
meet at the end of a line, the second overrides and cancels what the first binds.  In a
cascade a file cancels its own bindings alone.

A byte order mark at the front of a file belongs to no line.
-/

namespace DiscoveryClient

namespace PropertyText

variable {text first second line : List Char} {written : List (List Char)} {key value : String}

/-! ## What a text says about a key -/

/-- A line that says something about a key. -/
def Concerns (line : List Char) (key : String) : Prop :=
  Cancels line key.toList ∨ ∃ value, Assigns line key.toList value

/-- The last line of a text about a key gives it a value. -/
def Binds (text : List Char) (key value : String) : Prop :=
  ∃ before line after, Lines (dropByteOrderMark text) (before ++ line :: after) ∧
    Assigns line key.toList value.toList ∧ ∀ later ∈ after, ¬ Concerns later key

/-- What a line says about a key, if anything: a value, or that it has none. -/
def about? (key : String) (line : List Char) : Option (Option String) :=
  (said? line).bind fun binding =>
    if String.ofList binding.key = key then some (binding.value.map String.ofList) else none

theorem about?_iff {told : Option String} :
    about? key line = some told ↔ said? line = some ⟨key.toList, told.map String.toList⟩ := by
  rw [about?, Option.bind_eq_some_iff]
  constructor
  · rintro ⟨⟨name, value⟩, given, same⟩
    split at same
    next isKey =>
      obtain rfl := Option.some.inj same
      rw [given, ← isKey, String.toList_ofList]
      cases value <;> simp
    next => cases same
  · intro given
    refine ⟨_, given, ?_⟩
    cases told <;> simp

theorem Single.no_newline (single : Single line) : '\n' ∉ line := fun newline =>
  (single _ newline).1 rfl

theorem about?_value_iff (single : Single line) :
    about? key line = some (some value) ↔ Assigns line key.toList value.toList :=
  about?_iff.trans (said_value_iff single.no_newline)

theorem about?_eq_none_iff (single : Single line) :
    about? key line = none ↔ ¬ Concerns line key := by
  rw [Option.eq_none_iff_forall_ne_some, Concerns, not_or, not_exists,
    ← said_cancelled_iff single.no_newline]
  constructor
  · refine fun nothing => ⟨fun given => nothing none (about?_iff.mpr given), ?_⟩
    intro value assigns
    refine nothing (some (String.ofList value)) ((about?_value_iff single).mpr ?_)
    rwa [String.toList_ofList]
  · rintro ⟨notCancelled, notAssigned⟩ told given
    cases told with
    | none => exact notCancelled (about?_iff.mp given)
    | some value => exact notAssigned _ ((about?_value_iff single).mp given)

/-- What the last entry of a name says. -/
theorem get?_ofList {α : Type} (entries : List (String × α)) (key : String) :
    (Mapping.ofList entries).get? key =
      entries.reverse.findSome? fun entry => if entry.1 = key then some entry.2 else none := by
  induction entries using List.reverseRecOn with
  | nil => rfl
  | append_singleton entries entry induction =>
      have last : Mapping.ofList (entries ++ [entry]) =
          (Mapping.ofList entries).insert entry.1 entry.2 := by
        simp [Mapping.ofList, Mapping.insertAll]
      rw [last, Mapping.get?_insert, induction, List.reverse_append, List.reverse_singleton,
        List.singleton_append, List.findSome?_cons]
      by_cases same : entry.1 = key
      · simp [same]
      · simp [same, Ne.symm same]

theorem keys_filterMap_sublist (entries : List (String × Option String)) :
    ((entries.filterMap fun (key, value) => value.map fun value => (key, value)).map
      Prod.fst).Sublist (entries.map Prod.fst) := by
  induction entries with
  | nil => exact .slnil
  | cons entry rest induction =>
      obtain ⟨name, _ | value⟩ := entry
      · exact induction.cons name
      · exact induction.cons_cons name

theorem lookup_filterMap {entries : List (String × Option String)}
    (nodup : (entries.map Prod.fst).Nodup) (key : String) :
    Mapping.lookup key (entries.filterMap fun (key, value) => value.map fun value => (key, value)) =
      (Mapping.lookup key entries).join := by
  induction entries with
  | nil => rfl
  | cons entry rest induction =>
      obtain ⟨name, value⟩ := entry
      rw [List.map_cons, List.nodup_cons] at nodup
      have later := induction nodup.2
      by_cases here : name = key
      · cases value with
        | none =>
            have absent : key ∉ rest.map Prod.fst := here ▸ nodup.1
            rw [List.filterMap_cons_none rfl, later, Mapping.lookup_eq_none absent]
            simp [Mapping.lookup, here]
        | some value => simp [Mapping.lookup, here]
      · cases value with
        | none => simpa [Mapping.lookup, here] using later
        | some value => simpa [Mapping.lookup, here] using later

/-- Keys are bound to the values that they have been given last, cancelled ones to none. -/
theorem get?_values (text : List Char) (key : String) :
    (values text).get? key = ((Mapping.ofList (lines text)).get? key).join := by
  have nodup := (Mapping.ofList (lines text)).nodup
  have filtered := (keys_filterMap_sublist _).nodup nodup
  rw [values, Mapping.ofList, Mapping.get?_insertAll key filtered, Mapping.get?_empty,
    Option.or_none, lookup_filterMap nodup]
  rfl

/-- A text says about a key what the last of its lines does that says anything. -/
theorem told_eq (of : Lines (dropByteOrderMark text) written)
    (unquoted : Unquoted (dropByteOrderMark text)) (key : String) :
    (Mapping.ofList (lines text)).get? key = written.reverse.findSome? (about? key) := by
  rw [get?_ofList, lines, bindings_of_lines of unquoted, ← List.map_reverse, List.findSome?_map,
    ← List.filterMap_reverse, ← List.head?_filterMap, List.filterMap_filterMap,
    List.head?_filterMap]
  rfl

theorem Lines.single (of : Lines text written) : ∀ line ∈ written, Single line := by
  induction of with
  | last single => simpa using single
  | next single _ _ induction => simpa using ⟨single, induction⟩

theorem dropByteOrderMark_suffix (text : List Char) : dropByteOrderMark text <:+ text := by
  unfold dropByteOrderMark
  split
  · exact List.suffix_cons _ _
  · exact List.suffix_rfl

theorem unquoted_dropByteOrderMark (unquoted : Unquoted text) :
    Unquoted (dropByteOrderMark text) :=
  unquoted.of_subset (dropByteOrderMark_suffix text).subset

/-- The last line about a key decides. -/
theorem binds_iff (unquoted : Unquoted text) :
    (values text).get? key = some value ↔ Binds text key value := by
  have plain := unquoted_dropByteOrderMark unquoted
  rw [get?_values, Option.join_eq_some_iff]
  constructor
  · intro told
    obtain ⟨written, of⟩ := exists_lines (dropByteOrderMark text)
    rw [told_eq of plain, List.findSome?_eq_some_iff] at told
    obtain ⟨behind, line, front, split, assigned, nothing⟩ := told
    have whole : written = front.reverse ++ line :: behind.reverse := by
      rw [← List.reverse_reverse written, split]
      simp
    have single := whole ▸ of.single
    refine ⟨front.reverse, line, behind.reverse, whole ▸ of,
      (about?_value_iff (single line (by simp))).mp assigned, fun later member => ?_⟩
    have isLine := single later (by simp [List.mem_reverse.mp member])
    exact (about?_eq_none_iff isLine).mp (nothing later (List.mem_reverse.mp member))
  · rintro ⟨before, line, after, of, assigns, last⟩
    have single := of.single
    rw [told_eq of plain, List.findSome?_eq_some_iff]
    refine ⟨after.reverse, line, before.reverse, by simp,
      (about?_value_iff (single line (by simp))).mpr assigns, fun later member => ?_⟩
    have isLater := List.mem_reverse.mp member
    exact (about?_eq_none_iff (single later (by simp [isLater]))).mpr (last later isLater)

theorem get?_values_eq_none (unquoted : Unquoted text)
    (notBound : ∀ value, ¬ Binds text key value) :
    (values text).get? key = none :=
  Option.eq_none_iff_forall_ne_some.mpr fun value found =>
    notBound value ((binds_iff unquoted).mp found)

/-! ## Texts one after another -/

theorem dropByteOrderMark_eq_self (unmarked : text.head? ≠ some '\ufeff') :
    dropByteOrderMark text = text := by
  unfold dropByteOrderMark
  split
  next rest => exact absurd rfl unmarked
  next => rfl

theorem dropByteOrderMark_append (nonempty : first ≠ []) (second : List Char) :
    dropByteOrderMark (first ++ second) = dropByteOrderMark first ++ second := by
  obtain ⟨c, rest, rfl⟩ := List.exists_cons_of_ne_nil nonempty
  by_cases marked : c = '\ufeff'
  · subst marked
    rfl
  · have unmarked {behind : List Char} : (c :: behind).head? ≠ some '\ufeff' := by
      simpa using marked
    rw [dropByteOrderMark_eq_self unmarked, List.cons_append, dropByteOrderMark_eq_self unmarked]

theorem lines_nil : lines [] = [] := by
  simp [lines, dropByteOrderMark, unifyNewlines, bindings_nil]

theorem lines_append (meet : MeetAtLineEnd first second) (unquoted : Unquoted (first ++ second))
    (unmarked : first ≠ [] → second.head? ≠ some '\ufeff') :
    lines (first ++ second) = lines first ++ lines second := by
  by_cases empty : first = []
  · simp [empty, lines_nil]
  · obtain ⟨front, split⟩ := dropByteOrderMark_suffix first
    obtain ⟨written, of⟩ := exists_lines (dropByteOrderMark first)
    rw [← split] at meet
    have plain : Unquoted (dropByteOrderMark first ++ second) := by
      rw [← dropByteOrderMark_append empty]
      exact unquoted_dropByteOrderMark unquoted
    rw [lines, lines, lines, dropByteOrderMark_append empty,
      dropByteOrderMark_eq_self (unmarked empty), bindings_append of meet.behind plain,
      List.map_append]

/-- A later text decides about the keys that its lines are about, and no others. -/
theorem get?_values_append (meet : MeetAtLineEnd first second)
    (unquoted : Unquoted (first ++ second))
    (unmarked : first ≠ [] → second.head? ≠ some '\ufeff')
    (of : Lines (dropByteOrderMark second) written) (key : String) :
    ((∃ line ∈ written, Concerns line key) →
      (values (first ++ second)).get? key = (values second).get? key) ∧
    ((∀ line ∈ written, ¬ Concerns line key) →
      (values (first ++ second)).get? key = (values first).get? key) := by
  have plain : Unquoted (dropByteOrderMark second) :=
    unquoted_dropByteOrderMark (unquoted.of_subset (List.subset_append_right _ _))
  have told := told_eq of plain key
  have both : (Mapping.ofList (lines (first ++ second))).get? key =
      ((Mapping.ofList (lines second)).get? key).or ((Mapping.ofList (lines first)).get? key) := by
    rw [lines_append meet unquoted unmarked, get?_ofList, get?_ofList, get?_ofList,
      List.reverse_append, List.findSome?_append]
  simp only [get?_values]
  constructor
  · rintro ⟨line, member, concerns⟩
    have some : (Mapping.ofList (lines second)).get? key ≠ none := by
      rw [told, ne_eq, List.findSome?_eq_none_iff]
      intro nothing
      have silent := nothing line (List.mem_reverse.mpr member)
      exact (about?_eq_none_iff (of.single line member)).mp silent concerns
    obtain ⟨value, is⟩ := Option.ne_none_iff_exists'.mp some
    rw [both, is]
    rfl
  · intro nothing
    have silent : (Mapping.ofList (lines second)).get? key = none := by
      rw [told, List.findSome?_eq_none_iff]
      intro line member
      have inText := List.mem_reverse.mp member
      exact (about?_eq_none_iff (of.single line inText)).mpr (nothing line inText)
    rw [both, silent, Option.none_or]

end PropertyText

namespace FileTree

/-- The text of a file; where no file is, there is none. -/
inductive HoldsText (tree : FileTree) (path : Path) : List Char → Prop where
  | absent : tree.readBytes path = .ok none → HoldsText tree path []
  | text {bytes : List UInt8} {text : List Char} :
      tree.readBytes path = .ok (some (.ok bytes)) →
      Text.Utf8.decode bytes = .ok text →
      HoldsText tree path text

theorem HoldsText.contributes {tree : FileTree} {path : Path} {text : List Char}
    (holds : tree.HoldsText path text) : tree.Contributes path (PropertyText.values text) := by
  cases holds with
  | absent found =>
      rw [PropertyText.values, PropertyText.lines_nil]
      exact .absent found
  | text found decoded => exact .text found decoded

end FileTree

namespace FileSource

open PropertyText

/-- A reload of two files without quotes reads each of them line by line, and

* a key has the value that the last line about it in the file of the environment gives it,
* or else the value that the last such line of the base file gives it, even if the file of
  the environment cancels the key,
* or else none, unless it is the key for the name of the environment.

What a text binds is what the last line about a key makes of it.  Where two texts meet at the
end of a line, the second decides about the keys of its lines, and the first about the
others. -/
theorem files_are_read_line_by_line {tree : FileTree} {source : FileSource}
    {base overlay : List Char} (ofBase : tree.HoldsText source.basePath base)
    (ofOverlay : tree.HoldsText source.environmentPath overlay) (unquotedBase : Unquoted base)
    (unquotedOverlay : Unquoted overlay) :
    (∃ served changed,
      (source.reload tree).value = ({ source with served }, .ok changed) ∧
      ∀ key,
        (∀ value, Binds overlay key value → served.get? key = some (.text value)) ∧
        ((∀ value, ¬ Binds overlay key value) →
          (∀ value, Binds base key value → served.get? key = some (.text value)) ∧
          ((∀ value, ¬ Binds base key value) →
            served.get? key = if key = environmentKey then some source.environment else none))) ∧
    (∀ text, Unquoted text → ∀ key value,
      (values text).get? key = some value ↔ Binds text key value) ∧
    ∀ first second, MeetAtLineEnd first second → Unquoted (first ++ second) →
      (first ≠ [] → second.head? ≠ some '\ufeff') →
      ∃ written, Lines (dropByteOrderMark second) written ∧ ∀ key,
        ((∃ line ∈ written, Concerns line key) →
          (values (first ++ second)).get? key = (values second).get? key) ∧
        ((∀ line ∈ written, ¬ Concerns line key) →
          (values (first ++ second)).get? key = (values first).get? key) := by
  refine ⟨?_, fun text unquoted key value => binds_iff unquoted, ?_⟩
  · have read := cascade_of_contributes ofBase.contributes ofOverlay.contributes
    refine ⟨merged source.environment (values base) (values overlay), _,
      by rw [reload_of_read read], fun key => ⟨?_, fun notBound => ⟨?_, ?_⟩⟩⟩
    · intro value binds
      rw [get?_merged, overridden, (binds_iff unquotedOverlay).mpr binds]
      rfl
    · intro value binds
      rw [get?_merged, overridden, get?_values_eq_none unquotedOverlay notBound,
        (binds_iff unquotedBase).mpr binds]
      rfl
    · intro noBase
      rw [get?_merged, overridden, get?_values_eq_none unquotedOverlay notBound,
        get?_values_eq_none unquotedBase noBase]
      rfl
  · intro first second meet unquoted unmarked
    obtain ⟨written, of⟩ := exists_lines (dropByteOrderMark second)
    exact ⟨written, of, get?_values_append meet unquoted unmarked of⟩

/-- A base file with lines of every kind, the last of which is malformed. -/
def unevenBase : String :=
  "b=1\rexport b = $\x7bH\x7d\\n # c\r\nb c"

/-- Two files, of which the second cancels a key of its own that the first binds too. -/
def unevenFiles : FileTree where
  nodes :=
    [ (⟨.working 0, "/app.properties"⟩, .file (Text.Utf8.encode unevenBase)),
      (⟨.working 0, "/app-eu.properties"⟩, .file (Text.Utf8.encode "b=2\nb")) ]

theorem lines_unevenBase :
    Lines (dropByteOrderMark unevenBase.toList)
      ["b=1".toList, "export b = $\x7bH\x7d\\n # c".toList, "b c".toList] := by
  have split : dropByteOrderMark unevenBase.toList =
      "b=1".toList ++ (['\r'] ++ ("export b = $\x7bH\x7d\\n # c".toList ++
        (['\r', '\n'] ++ "b c".toList))) := rfl
  rw [split]
  refine .next (by simp [Single]) (.carriage (by simp)) (.next (by simp [Single]) (.both _) ?_)
  exact .last (by simp [Single])

/-- What the file of the environment takes back is taken from the base file. -/
theorem cancelled_overlay_leaves_base :
    ∃ served changed,
      (nearby.reload unevenFiles).value = ({ nearby with served }, .ok changed) ∧
        served.get? "b" = some (.text "$\x7bH\x7d\\n") := by
  have base : unevenFiles.HoldsText nearby.basePath unevenBase.toList :=
    .text rfl (Text.Utf8.decode_encode unevenBase)
  have overlay : unevenFiles.HoldsText nearby.environmentPath "b=2\nb".toList :=
    .text rfl (Text.Utf8.decode_encode "b=2\nb")
  have unquotedBase : Unquoted unevenBase.toList := by
    simp [Unquoted, unevenBase]
  have unquotedOverlay : Unquoted "b=2\nb".toList := by
    simp [Unquoted]
  have binds : Binds unevenBase.toList "b" "$\x7bH\x7d\\n" := by
    rw [← binds_iff unquotedBase, get?_values,
      told_eq lines_unevenBase (unquoted_dropByteOrderMark unquotedBase)]
    rfl
  have cancels : (values "b=2\nb".toList).get? "b" = none := by
    have split : dropByteOrderMark "b=2\nb".toList = "b=2".toList ++ (['\n'] ++ "b".toList) := rfl
    have written : Lines (dropByteOrderMark "b=2\nb".toList) ["b=2".toList, "b".toList] :=
      split ▸ .next (by simp [Single]) (.feed _) (.last (by simp [Single]))
    rw [get?_values, told_eq written (unquoted_dropByteOrderMark unquotedOverlay)]
    rfl
  have notBound value : ¬ Binds "b=2\nb".toList "b" value := by
    rw [← binds_iff unquotedOverlay, cancels]
    simp
  obtain ⟨⟨served, changed, reloaded, answers⟩, _⟩ :=
    files_are_read_line_by_line base overlay unquotedBase unquotedOverlay
  exact ⟨served, changed, reloaded, ((answers "b").2 notBound).1 _ binds⟩

theorem get?_values_line (line : List Char) (single : Single line) (unquoted : Unquoted line)
    (unmarked : dropByteOrderMark text = line) (key : String) :
    (values text).get? key = (about? key line).join := by
  subst unmarked
  rw [get?_values, told_eq (.last single) unquoted, List.reverse_singleton,
    List.findSome?_singleton]

/-- A byte order mark at the front is no part of a key, though what stands behind it is one
where another text comes first.  The word `export` is no key if a blank follows it.  A number
sign that is the first thing behind the blanks of an equals sign is not kept. -/
theorem marks_words_and_comments_are_dropped :
    (IsKey "\ufeffa".toList ∧ (values "\ufeffa=1".toList).get? "\ufeffa" = none ∧
      (values "\ufeffa=1".toList).get? "a" = some "1") ∧
    (MeetAtLineEnd "b=1\n".toList "\ufeffa=1".toList ∧
      (values ("b=1\n".toList ++ "\ufeffa=1".toList)).get? "a" = none) ∧
    (IsKey "export".toList ∧ (values "export =4".toList).get? "export" = none) ∧
    (∀ c ∈ "#c".toList, Text.isBlank c = false) ∧
      (values "a= #c".toList).get? "a" = some "" := by
  have marked (key : String) :
      (values "\ufeffa=1".toList).get? key = (about? key "a=1".toList).join :=
    get?_values_line "a=1".toList (by simp [Single]) (by simp [Unquoted]) rfl key
  have exported : (values "export =4".toList).get? "export" =
      (about? "export" "export =4".toList).join :=
    get?_values_line "export =4".toList (by simp [Single]) (by simp [Unquoted]) rfl _
  have commented : (values "a= #c".toList).get? "a" = (about? "a" "a= #c".toList).join :=
    get?_values_line "a= #c".toList (by simp [Single]) (by simp [Unquoted]) rfl _
  have joined : (values ("b=1\n".toList ++ "\ufeffa=1".toList)).get? "a" = none := by
    have split : dropByteOrderMark ("b=1\n".toList ++ "\ufeffa=1".toList) =
        "b=1".toList ++ (['\n'] ++ "\ufeffa=1".toList) := rfl
    have written : Lines (dropByteOrderMark ("b=1\n".toList ++ "\ufeffa=1".toList))
        ["b=1".toList, "\ufeffa=1".toList] := by
      rw [split]
      exact .next (by simp [Single]) (.feed _) (.last (by simp [Single]))
    rw [get?_values, told_eq written (by rw [split]; simp [Unquoted])]
    rfl
  have meet : MeetAtLineEnd "b=1\n".toList "\ufeffa=1".toList := by
    simp [MeetAtLineEnd]
  refine ⟨⟨?_, marked _, marked _⟩, ⟨meet, joined⟩, ⟨?_, exported⟩, ?_, commented⟩
  · simp [IsKey, Text.isBlank, Text.isWhiteSpace]
  · simp [IsKey, Text.isBlank, Text.isWhiteSpace]
  · simp [Text.isBlank, Text.isWhiteSpace]

end FileSource

end DiscoveryClient
