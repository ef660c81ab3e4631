import DiscoveryClient.FileTree

/-!
# Relative paths

A relative path of plain names is read back from its text, and it leads along
these names from the working directory.  A look-up can then be followed name by
name, however long the names are.
-/

namespace DiscoveryClient

namespace Path

theorem splitBy_eq_splitOnP {α : Type} (isSlash : α → Bool) (elements : List α) :
    splitBy isSlash elements = elements.splitOnP isSlash := by
  induction elements with
  | nil => rfl
  | cons first rest induction =>
      rw [splitBy, List.splitOnP_cons_eq_if_modifyHead, induction]
      split
      · rfl
      · cases parts : rest.splitOnP isSlash with
        | nil => exact (List.splitOnP_ne_nil isSlash rest parts).elim
        | cons part parts => rfl

theorem splitBy_ne_nil {α : Type} (isSlash : α → Bool) (elements : List α) :
    splitBy isSlash elements ≠ [] := by
  rw [splitBy_eq_splitOnP]
  exact List.splitOnP_ne_nil isSlash elements

/-- A name that a path keeps and that leads downwards. -/
structure IsPlain (name : String) : Prop where
  named : isNamed name = true
  notAbove : name ≠ ".."
  noSlash : '/' ∉ name.toList
  noNull : '\x00' ∉ name.toList

namespace IsPlain

variable {name : String}

/-- Names of three bytes or more need only be without slashes and nulls. -/
theorem of_long (long : 2 < name.utf8ByteSize) (noSlash : '/' ∉ name.toList)
    (noNull : '\x00' ∉ name.toList) : IsPlain name where
  named := by
    have nonempty : name ≠ "" := by rintro rfl; revert long; decide
    have notDot : name ≠ "." := by rintro rfl; revert long; decide
    simp [isNamed, nonempty, notDot]
  notAbove := by rintro rfl; revert long; decide
  noSlash := noSlash
  noNull := noNull

theorem ne_empty (plain : IsPlain name) : name.toList ≠ [] := by
  intro empty
  obtain rfl := String.toList_eq_nil_iff.mp empty
  simpa [isNamed] using plain.named

theorem ne_dot (plain : IsPlain name) : name ≠ "." := by
  rintro rfl
  simpa [isNamed] using plain.named

theorem first (plain : IsPlain name) :
    ∃ first rest, name.toList = first :: rest ∧ first ≠ '/' := by
  obtain ⟨first, rest, chars⟩ := List.exists_cons_of_ne_nil plain.ne_empty
  refine ⟨first, rest, chars, ?_⟩
  rintro rfl
  exact plain.noSlash (by simp [chars])

theorem last (plain : IsPlain name) :
    ∃ front last, name.toList = front ++ [last] ∧ last ≠ '/' := by
  obtain ⟨front, last, chars⟩ := (List.eq_nil_or_concat _).resolve_left plain.ne_empty
  rw [List.concat_eq_append] at chars
  refine ⟨front, last, chars, ?_⟩
  rintro rfl
  exact plain.noSlash (by simp [chars])

end IsPlain

/-! ## The text of plain names -/

variable {name : String} {names : List String}

theorem toList_intercalate_cons (name second : String) (rest : List String) :
    ("/".intercalate (name :: second :: rest)).toList =
      name.toList ++ '/' :: ("/".intercalate (second :: rest)).toList := by
  rw [String.intercalate_cons_cons, String.toList_append, String.toList_append, List.append_assoc]
  rfl

theorem splitSlashes_intercalate (nonempty : names ≠ []) (plain : ∀ name ∈ names, IsPlain name) :
    splitSlashes ("/".intercalate names).toList = names.map String.toList := by
  have noSlash : ∀ chars ∈ names.map String.toList, '/' ∉ chars := by
    intro chars member
    obtain ⟨name, nameMember, rfl⟩ := List.mem_map.mp member
    exact (plain name nameMember).noSlash
  rw [splitSlashes, splitBy_eq_splitOnP, String.toList_intercalate]
  exact List.splitOn_intercalate '/' noSlash (by simpa using nonempty)

theorem first_intercalate (nonempty : names ≠ []) (plain : ∀ name ∈ names, IsPlain name) :
    ∃ first rest, ("/".intercalate names).toList = first :: rest ∧ first ≠ '/' := by
  cases names with
  | nil => exact (nonempty rfl).elim
  | cons name rest =>
      obtain ⟨first, others, chars, noSlash⟩ := (plain name List.mem_cons_self).first
      cases rest with
      | nil => exact ⟨first, others, by rw [String.intercalate_singleton, chars], noSlash⟩
      | cons second rest =>
          rw [toList_intercalate_cons, chars]
          exact ⟨first, _, rfl, noSlash⟩

theorem last_intercalate (nonempty : names ≠ []) (plain : ∀ name ∈ names, IsPlain name) :
    ∃ front last, ("/".intercalate names).toList = front ++ [last] ∧ last ≠ '/' := by
  induction names with
  | nil => exact (nonempty rfl).elim
  | cons name rest induction =>
      cases rest with
      | nil =>
          rw [String.intercalate_singleton]
          exact (plain name List.mem_cons_self).last
      | cons second rest =>
          obtain ⟨front, last, chars, noSlash⟩ :=
            induction (by simp) fun name member => plain name (List.mem_cons_of_mem _ member)
          rw [toList_intercalate_cons, chars]
          exact ⟨name.toList ++ '/' :: front, last, by simp, noSlash⟩

theorem noNull_intercalate (plain : ∀ name ∈ names, IsPlain name) :
    '\x00' ∉ ("/".intercalate names).toList := by
  induction names with
  | nil => simp
  | cons name rest induction =>
      have own := (plain name List.mem_cons_self).noNull
      cases rest with
      | nil => simpa using own
      | cons second rest =>
          have others := induction fun name member => plain name (List.mem_cons_of_mem _ member)
          rw [toList_intercalate_cons, List.mem_append, List.mem_cons]
          exact not_or.mpr ⟨own, not_or.mpr ⟨by decide, others⟩⟩

/-- A relative path of plain names. -/
def relative (names : List String) : Path := ⟨.none, names⟩

theorem join_relative (front names : List String) :
    (relative front).join (relative names) = relative (front ++ names) := rfl

theorem text_relative (nonempty : names ≠ []) : (relative names).text = "/".intercalate names := by
  cases names with
  | nil => exact (nonempty rfl).elim
  | cons name rest => simp [relative, text, PathRoot.text]

/-- Plain names are read back from the text of their path. -/
theorem ofText_intercalate (nonempty : names ≠ []) (plain : ∀ name ∈ names, IsPlain name) :
    ofText ("/".intercalate names) = relative names := by
  obtain ⟨first, rest, chars, noSlash⟩ := first_intercalate nonempty plain
  have root : PathRoot.ofText ("/".intercalate names).toList = .none := by
    rw [chars]
    unfold PathRoot.ofText
    split <;> simp_all
  have kept : names.filter isNamed = names :=
    List.filter_eq_self.mpr fun name member => (plain name member).named
  rw [ofText, root, splitSlashes_intercalate nonempty plain]
  simp [relative, Function.comp_def, kept]

end Path

namespace Location

/-- The working directory. -/
def here : Location := { origin := .working 0 }

/-- Where a name is in a directory, however long the name is. -/
def beneath (location : Location) (name : String) : Location :=
  { location with below := location.below ++ "/" ++ name }

variable {location : Location} {name : String}

theorem child_of_short (short : name.utf8ByteSize ≤ maxNameBytes) :
    location.child name = .ok (location.beneath name) := by
  rw [child, if_neg (Nat.not_lt.mpr short), beneath]

theorem child_of_long (long : maxNameBytes < name.utf8ByteSize) :
    location.child name = .error .nameTooLong := by
  rw [child, if_pos long]

theorem size_beneath (location : Location) (name : String) :
    location.below.utf8ByteSize < (location.beneath name).below.utf8ByteSize := by
  have slash : "/".utf8ByteSize = 1 := rfl
  rw [beneath, String.utf8ByteSize_append, String.utf8ByteSize_append, slash]
  omega

theorem isOrigin_beneath (location : Location) (name : String) :
    (location.beneath name).isOrigin = false := by
  refine decide_eq_false fun empty => ?_
  have longer := size_beneath location name
  rw [empty] at longer
  exact Nat.not_lt_zero _ longer

theorem ne_beneath (location : Location) (name : String) : location ≠ location.beneath name := by
  intro same
  exact Nat.ne_of_lt (size_beneath location name)
    (congrArg (fun location => location.below.utf8ByteSize) same)

end Location

namespace FileTree

open DiscoveryClient.Path

variable {tree : FileTree} {location : Location} {name : String} {names : List String}

/-- A path of plain names is followed along them. -/
theorem route_intercalate (nonempty : names ≠ []) (plain : ∀ name ∈ names, IsPlain name)
    (short : ("/".intercalate names).utf8ByteSize ≤ Route.maxBytes) :
    Route.ofText ("/".intercalate names) = .ok ⟨false, names, false⟩ := by
  obtain ⟨first, rest, chars, startNoSlash⟩ := first_intercalate nonempty plain
  obtain ⟨front, last, charsAgain, endNoSlash⟩ := last_intercalate nonempty plain
  have isNamed : (names.map String.toList).filter (fun name => !name.isEmpty) =
      names.map String.toList := by
    refine List.filter_eq_self.mpr fun chars member => ?_
    obtain ⟨name, nameMember, rfl⟩ := List.mem_map.mp member
    simpa using (plain name nameMember).ne_empty
  have notNull : ("/".intercalate names).toList.contains '\x00' = false := by
    simpa using noNull_intercalate plain
  have isSome : ("/".intercalate names).toList.isEmpty = false := by simp [chars]
  have atStart : ("/".intercalate names).toList.head? ≠ some '/' := by
    simpa [chars] using startNoSlash
  have atEnd : ("/".intercalate names).toList.getLast? ≠ some '/' := by
    simpa [charsAgain] using endNoSlash
  unfold Route.ofText
  simp only [notNull, isSome, Nat.not_lt.mpr short, atStart, atEnd,
    splitSlashes_intercalate nonempty plain, isNamed]
  simp [Function.comp_def]

/-- What a path of plain names leads to is at the location that they lead to. -/
theorem find_relative (nonempty : names ≠ []) (plain : ∀ name ∈ names, IsPlain name)
    (short : ("/".intercalate names).utf8ByteSize ≤ Route.maxBytes) :
    tree.find (relative names).text =
      (tree.follow .here names).bind fun location =>
        (tree.node? location).elim (.error .missing) .ok := by
  have start : Location.start ⟨false, names, false⟩ = .here := rfl
  unfold find
  rw [text_relative nonempty, route_intercalate nonempty plain short]
  simp only [bind, Except.bind, start]
  cases tree.follow .here names with
  | error fault => rfl
  | ok location =>
      cases found : tree.node? location with
      | none => simp only [found]; rfl
      | some node => cases node <;> simp only [found] <;> rfl

theorem enter_directory (isDirectory : tree.node? location = some .directory)
    (plain : IsPlain name) : tree.enter location name = location.child name := by
  simp only [enter, isDirectory, plain.ne_dot, plain.notAbove, if_false]

theorem enter_missing (absent : tree.node? location = none) :
    tree.enter location name = .error .missing := by
  simp only [enter, absent]

theorem follow_singleton (isDirectory : tree.node? location = some .directory)
    (plain : IsPlain name) (short : name.utf8ByteSize ≤ Location.maxNameBytes) :
    tree.follow location [name] = .ok (location.beneath name) := by
  change (tree.enter location name >>= pure) = _
  rw [bind_pure, enter_directory isDirectory plain, Location.child_of_short short]

/-! ## The last name of a path -/

section

variable {front : List String} {last : String}
  (plain : ∀ name ∈ front ++ [last], IsPlain name)
  (short : ("/".intercalate (front ++ [last])).utf8ByteSize ≤ Route.maxBytes)
  (led : tree.follow .here front = .ok location)

include plain short led

theorem find_within :
    tree.find (relative (front ++ [last])).text =
      (tree.enter location last).bind fun found =>
        (tree.node? found).elim (.error .missing) .ok := by
  have whole : tree.follow .here (front ++ [last]) = tree.enter location last := by
    rw [follow, List.foldlM_append]
    change (tree.follow .here front >>= _) = _
    rw [led]
    change (tree.enter location last >>= pure) = _
    rw [bind_pure]
  rw [find_relative (by simp) plain short, whole]

/-- A file is read by its path. -/
theorem readBytes_of_file {bytes : List UInt8} (isDirectory : tree.node? location = some .directory)
    (shortName : last.utf8ByteSize ≤ Location.maxNameBytes)
    (isFile : tree.node? (location.beneath last) = some (.file bytes)) :
    tree.readBytes (relative (front ++ [last])) = .ok (some (.ok bytes)) := by
  have found := find_within plain short led
  rw [enter_directory isDirectory (plain last (by simp)), Location.child_of_short shortName]
    at found
  change _ = (tree.node? _).elim _ _ at found
  rw [isFile] at found
  simp only [readBytes, found, Option.elim]

/-- A name that is too long is refused in a directory that exists. -/
theorem readBytes_of_longName (isDirectory : tree.node? location = some .directory)
    (longName : Location.maxNameBytes < last.utf8ByteSize) :
    tree.readBytes (relative (front ++ [last])) = .error .nameTooLong := by
  have found := find_within plain short led
  rw [enter_directory isDirectory (plain last (by simp)), Location.child_of_long longName] at found
  simp only [readBytes, found, Except.bind, isAbsence, if_false, Bool.false_eq_true]

/-- Behind a directory that is missing nothing is found, and no name measured. -/
theorem readBytes_of_missing (absent : tree.node? location = none) :
    tree.readBytes (relative (front ++ [last])) = .ok none := by
  have found := find_within plain short led
  rw [enter_missing absent] at found
  simp only [readBytes, found, Except.bind, isAbsence, if_true]

end

end FileTree

end DiscoveryClient
