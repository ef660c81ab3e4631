import DiscoveryClient.Properties.File

/-!
# The cascade of two files

A source of files serves the name of its environment, overridden by the base
file, overridden by the file of the environment.  A file that is absent has no
bindings, and neither has a directory in its place.

Reading the two files ends in one of three ways: both have bindings or are
absent, or a first one is found that is there and cannot be read, or the system
refuses a path that is looked at.  The base file is looked at first.
-/

namespace DiscoveryClient

/-! ## What a file contributes -/

namespace FileTree

/-- The bindings at a path: those of a text, or none where no file is. -/
inductive Contributes (tree : FileTree) (path : Path) : Mapping String → Prop where
  | absent : tree.readBytes path = .ok none → Contributes tree path .empty
  | text {bytes : List UInt8} {text : List Char} :
      tree.readBytes path = .ok (some (.ok bytes)) →
      Text.Utf8.decode bytes = .ok text →
      Contributes tree path (PropertyText.values text)

/-- A file is there, and for a reason its text is not to be had. -/
inductive Unreadable (tree : FileTree) (path : Path) : String → Prop where
  | sealed {report : SystemReport} :
      tree.readBytes path = .ok (some (.error report)) →
      Unreadable tree path report.message
  | undecodable {bytes : List UInt8} {fault : Text.DecodingFault} :
      tree.readBytes path = .ok (some (.ok bytes)) →
      Text.Utf8.decode bytes = .error fault →
      Unreadable tree path fault.message

/-- The system does not look at a path. -/
def Refuses (tree : FileTree) (path : Path) (fault : FileFault) : Prop :=
  tree.readBytes path = .error fault

/-- A path has bindings, or has none that can be read, or is refused. -/
theorem explored (tree : FileTree) (path : Path) :
    (∃ bindings, tree.Contributes path bindings) ∨
      (∃ reason, tree.Unreadable path reason) ∨ ∃ fault, tree.Refuses path fault := by
  cases found : tree.readBytes path with
  | error fault => exact .inr (.inr ⟨fault, found⟩)
  | ok content =>
      match content, found with
      | none, found => exact .inl ⟨_, .absent found⟩
      | some (.error _), found => exact .inr (.inl ⟨_, .sealed found⟩)
      | some (.ok bytes), found =>
          cases decoded : Text.Utf8.decode bytes with
          | ok text => exact .inl ⟨_, .text found decoded⟩
          | error fault => exact .inr (.inl ⟨_, .undecodable found decoded⟩)

end FileTree

namespace FileSource

open FileTree

variable {tree : FileTree} {source : FileSource} {path : Path} {base overlay : Mapping String}
  {reason : String} {fault : FileFault}

theorem readBindings_of_contributes (contributes : tree.Contributes path base) :
    readBindings tree path = .ok (base.map .text) := by
  cases contributes with
  | absent found => simp only [readBindings, found]; rfl
  | text found decoded => simp only [readBindings, found, decoded]

theorem readBindings_of_unreadable (fails : tree.Unreadable path reason) :
    readBindings tree path = .error (.own (unreadable path reason)) := by
  cases fails with
  | sealed found => simp only [readBindings, found]
  | undecodable found decoded => simp only [readBindings, found, decoded]

theorem readBindings_of_refuses (refuses : tree.Refuses path fault) :
    readBindings tree path = .error (.file fault path.text) := by
  simp only [readBindings, show tree.readBytes path = .error fault from refuses]

/-- What can be read is not refused. -/
theorem not_refuses_of_contributes (contributes : tree.Contributes path base) :
    ¬tree.Refuses path fault := by
  intro refuses
  have read := readBindings_of_contributes contributes
  rw [readBindings_of_refuses refuses] at read
  cases read

theorem not_refuses_of_unreadable (fails : tree.Unreadable path reason) :
    ¬tree.Refuses path fault := by
  intro refuses
  have read := readBindings_of_unreadable fails
  rw [readBindings_of_refuses refuses] at read
  cases read

theorem not_unreadable_of_contributes (contributes : tree.Contributes path base) :
    ¬tree.Unreadable path reason := by
  intro fails
  have read := readBindings_of_contributes contributes
  rw [readBindings_of_unreadable fails] at read
  cases read

/-! ## The cascade -/

/-- What two files with these bindings say about a key. -/
def overridden (environment : Value) (base overlay : Mapping String) (key : String) :
    Option Value :=
  (((overlay.get? key).or (base.get? key)).map .text).or
    (if key = environmentKey then some environment else none)

/-- A mapping is the cascade of the files of a source. -/
def Cascades (source : FileSource) (tree : FileTree) (mapping : Mapping Value) : Prop :=
  ∃ base overlay, tree.Contributes source.basePath base ∧
    tree.Contributes source.environmentPath overlay ∧
    ∀ key, mapping.get? key = overridden source.environment base overlay key

/-- The mapping that a reload builds from the bindings of two files. -/
def merged (environment : Value) (base overlay : Mapping String) : Mapping Value :=
  ((Mapping.empty.insert environmentKey environment).merge (base.map .text)).merge
    (overlay.map .text)

theorem get?_merged (environment : Value) (base overlay : Mapping String) (key : String) :
    (merged environment base overlay).get? key = overridden environment base overlay key := by
  rw [merged, Mapping.get?_merge, Mapping.get?_merge, Mapping.get?_insert, Mapping.get?_map,
    Mapping.get?_map, Mapping.get?_empty, overridden, Option.map_or, Option.or_assoc]

theorem cascade_of_contributes (first : tree.Contributes source.basePath base)
    (second : tree.Contributes source.environmentPath overlay) :
    cascade tree source = .ok (merged source.environment base overlay) := by
  simp only [cascade, readBindings_of_contributes first, readBindings_of_contributes second]
  rfl

theorem cascades_merged (first : tree.Contributes source.basePath base)
    (second : tree.Contributes source.environmentPath overlay) :
    source.Cascades tree (merged source.environment base overlay) :=
  ⟨base, overlay, first, second, get?_merged source.environment base overlay⟩

/-- The first of the two files that is there and cannot be read. -/
inductive FirstUnreadable (source : FileSource) (tree : FileTree) : Path → String → Prop where
  | base {reason : String} :
      tree.Unreadable source.basePath reason →
      FirstUnreadable source tree source.basePath reason
  | environment {reason : String} :
      (∀ other, ¬tree.Unreadable source.basePath other) →
      tree.Unreadable source.environmentPath reason →
      FirstUnreadable source tree source.environmentPath reason

theorem cascade_of_refused_base (refuses : tree.Refuses source.basePath fault) :
    cascade tree source = .error (.file fault source.basePath.text) := by
  simp only [cascade, readBindings_of_refuses refuses]
  rfl

theorem cascade_of_refused_environment (first : tree.Contributes source.basePath base)
    (refuses : tree.Refuses source.environmentPath fault) :
    cascade tree source = .error (.file fault source.environmentPath.text) := by
  simp only [cascade, readBindings_of_contributes first, readBindings_of_refuses refuses]
  rfl

theorem cascade_of_unreadable (fails : source.FirstUnreadable tree path reason)
    (looked : ∀ fault, ¬tree.Refuses source.basePath fault) :
    cascade tree source = .error (.own (unreadable path reason)) := by
  cases fails with
  | base fails =>
      simp only [cascade, readBindings_of_unreadable fails]
      rfl
  | environment readable fails =>
      rcases tree.explored source.basePath with ⟨base, first⟩ | ⟨other, failed⟩ | ⟨fault, refuses⟩
      · simp only [cascade, readBindings_of_contributes first, readBindings_of_unreadable fails]
        rfl
      · exact (readable other failed).elim
      · exact (looked fault refuses).elim

/-- How reading the two files can end. -/
inductive Cascading (source : FileSource) (tree : FileTree) :
    Except Failure (Mapping Value) → Prop where
  | read {mapping : Mapping Value} :
      source.Cascades tree mapping → Cascading source tree (.ok mapping)
  | unreadable {path : Path} {reason : String} :
      source.FirstUnreadable tree path reason →
      (∀ fault, ¬tree.Refuses source.basePath fault) →
      Cascading source tree (.error (.own (unreadable path reason)))
  | refusedBase {fault : FileFault} :
      tree.Refuses source.basePath fault →
      Cascading source tree (.error (.file fault source.basePath.text))
  | refusedEnvironment {base : Mapping String} {fault : FileFault} :
      tree.Contributes source.basePath base →
      tree.Refuses source.environmentPath fault →
      Cascading source tree (.error (.file fault source.environmentPath.text))

theorem cascading (source : FileSource) (tree : FileTree) :
    Cascading source tree (cascade tree source) := by
  rcases tree.explored source.basePath with ⟨base, first⟩ | ⟨reason, fails⟩ | ⟨fault, refuses⟩
  · have looked (fault : FileFault) : ¬tree.Refuses source.basePath fault :=
      not_refuses_of_contributes first
    rcases tree.explored source.environmentPath with
      ⟨overlay, second⟩ | ⟨reason, fails⟩ | ⟨fault, refuses⟩
    · rw [cascade_of_contributes first second]
      exact .read (cascades_merged first second)
    · have unreadable : source.FirstUnreadable tree _ _ :=
        .environment (fun _ => not_unreadable_of_contributes first) fails
      rw [cascade_of_unreadable unreadable looked]
      exact .unreadable unreadable looked
    · rw [cascade_of_refused_environment first refuses]
      exact .refusedEnvironment first refuses
  · have looked (fault : FileFault) : ¬tree.Refuses source.basePath fault :=
      not_refuses_of_unreadable fails
    rw [cascade_of_unreadable (.base fails) looked]
    exact .unreadable (.base fails) looked
  · rw [cascade_of_refused_base refuses]
    exact .refusedBase refuses

theorem cascades_of_read {mapping : Mapping Value} (read : cascade tree source = .ok mapping) :
    source.Cascades tree mapping := by
  have ending := cascading source tree
  rw [read] at ending
  cases ending with
  | read cascades => exact cascades

/-- Both files can be read, or are absent. -/
def Readable (source : FileSource) (tree : FileTree) : Prop :=
  (∃ base, tree.Contributes source.basePath base) ∧
    ∃ overlay, tree.Contributes source.environmentPath overlay

/-- A first file is found that is there and cannot be read. -/
def Broken (source : FileSource) (tree : FileTree) : Prop :=
  (∃ path reason, source.FirstUnreadable tree path reason) ∧
    ∀ fault, ¬tree.Refuses source.basePath fault

/-- The system refuses a path that is looked at. -/
def Refused (source : FileSource) (tree : FileTree) : Prop :=
  (∃ fault, tree.Refuses source.basePath fault) ∨
    (∃ base, tree.Contributes source.basePath base) ∧
      ∃ fault, tree.Refuses source.environmentPath fault

theorem readable_iff : source.Readable tree ↔ ∃ mapping, cascade tree source = .ok mapping := by
  constructor
  · rintro ⟨⟨base, first⟩, overlay, second⟩
    exact ⟨_, cascade_of_contributes first second⟩
  · rintro ⟨mapping, read⟩
    obtain ⟨base, overlay, first, second, _⟩ := cascades_of_read read
    exact ⟨⟨base, first⟩, overlay, second⟩

theorem broken_iff :
    source.Broken tree ↔ ∃ error, cascade tree source = .error (.own error) := by
  constructor
  · rintro ⟨⟨path, reason, fails⟩, looked⟩
    exact ⟨_, cascade_of_unreadable fails looked⟩
  · rintro ⟨error, ended⟩
    have ending := cascading source tree
    rw [ended] at ending
    cases ending with
    | unreadable fails looked => exact ⟨⟨_, _, fails⟩, looked⟩

theorem refused_iff :
    source.Refused tree ↔ ∃ fault path, cascade tree source = .error (.file fault path) := by
  constructor
  · rintro (⟨fault, refuses⟩ | ⟨⟨base, first⟩, fault, refuses⟩)
    · exact ⟨_, _, cascade_of_refused_base refuses⟩
    · exact ⟨_, _, cascade_of_refused_environment first refuses⟩
  · rintro ⟨fault, path, ended⟩
    have ending := cascading source tree
    rw [ended] at ending
    cases ending with
    | refusedBase refuses => exact .inl ⟨_, refuses⟩
    | refusedEnvironment first refuses => exact .inr ⟨⟨_, first⟩, _, refuses⟩

end FileSource

end DiscoveryClient
