import DiscoveryClient.Settings.Sources

/-!
# The values in effect

When no argument asks for another way of reading, a field can be set in three places: by
an argument, by a variable of the environment, and by a line of one file.  `effective`
says which value that makes: the one of the first place that has any, or else the default.
`gather_effective` says that these are the raw values of all fields, whatever the places
say, as long as the file can be read as text.
-/

namespace DiscoveryClient.SettingSources

/-- The names of the arguments that ask for another way of reading. -/
def optionNames : List String :=
  [ "_case_sensitive", "_env_prefix", "_env_nested_max_split", "_env_file",
    "_env_file_encoding", "_env_ignore_empty", "_env_parse_none_str", "_secrets_dir",
    "_cli_parse_args", "_cli_parse_none_str", "_cli_ignore_unknown_args",
    "_cli_exit_on_error" ]

/-- No argument asks for another way of reading. -/
def IsStandard (sources : SettingSources) : Prop :=
  ∀ entry ∈ sources.arguments, entry.1 ∉ optionNames

/-- What the settings file says, if it can be read as text.  A file that is not there says
nothing. -/
inductive FileReads (sources : SettingSources) : List Char → Prop where
  | absent (missing : sources.tree.readBytes SettingOptions.filePath = .ok none) :
      FileReads sources []
  | present {bytes : List UInt8} {text : List Char}
      (found : sources.tree.readBytes SettingOptions.filePath = .ok (some (.ok bytes)))
      (decoded : Text.Utf8.decode bytes = .ok text) : FileReads sources text

/-! ## The three places -/

/-- Is this the name of the field's variable, in any letter case? -/
def isVariableOf (field : SettingField) (name : String) : Bool :=
  Text.lower name = Text.lower ("DISCOVERY_" ++ field.name)

/-- The argument of a field.  Letter case does not count, and the first spelling wins. -/
def argumentOf (sources : SettingSources) (field : SettingField) : Option Value :=
  ((sources.arguments.filter fun entry => Text.lower entry.1 = field.name).head?).map Prod.snd

/-- The variable of a field; the last spelling wins. -/
def variableOf (sources : SettingSources) (field : SettingField) : Option String :=
  ((sources.environment.entries.filter fun entry => isVariableOf field entry.1).getLast?).map
    Prod.snd

/-- The lines of a file's text, with references expanded. -/
def expandedLines (environment : Mapping String) (text : List Char) : List SettingLine :=
  (expandLines environment .empty (PropertyText.lines text)).entries

/-- The line of a field in the file; the last spelling wins. -/
def lineOf (sources : SettingSources) (text : List Char) (field : SettingField) :
    Option String :=
  (((expandedLines sources.environment text).filter fun line =>
    isVariableOf field line.1).getLast?).bind Prod.snd

/-- The value of a field: its argument, or else its variable, or else its line in the
file, or else its default. -/
def effective (sources : SettingSources) (text : List Char) (field : SettingField) : Value :=
  match sources.argumentOf field, sources.variableOf field, sources.lineOf text field with
  | some value, _, _ => value
  | none, some value, _ => .text value
  | none, none, some value => .text value
  | none, none, none => field.default

/-! ## Reading them -/

variable {sources : SettingSources} {text : List Char}

theorem ofArguments_standard (standard : sources.IsStandard) :
    SettingOptions.ofArguments sources.arguments = .ok {} := by
  have unasked : ∀ name ∈ optionNames, sources.arguments.lookup name = none := by
    intro name isOption
    rw [List.lookup_eq_none_iff]
    intro entry member
    have other : name ≠ entry.1 := fun same => standard entry member (same ▸ isOption)
    simpa using other
  simp only [optionNames, List.forall_mem_cons] at unasked
  simp only [SettingOptions.ofArguments, unasked]
  rfl

theorem locate_filePath (sources : SettingSources) :
    sources.locate (.text SettingOptions.filePath.text) = .ok SettingOptions.filePath := by
  rfl

theorem expandedLines_nil (environment : Mapping String) : expandedLines environment [] = [] := by
  simp [expandedLines, PropertyText.lines, PropertyText.dropByteOrderMark,
    PropertyText.unifyNewlines, PropertyText.bindings, expandLines, Mapping.empty]

theorem linesOf_utf8 {bytes : List UInt8} (environment : Mapping String)
    (decoded : Text.Utf8.decode bytes = .ok text) :
    linesOf environment (.utf8 false) bytes =
      .ok (expandLines environment .empty (PropertyText.lines text)) := by
  have read : (Text.Encoding.utf8 false).decode bytes = .ok text := by
    change (Text.Utf8.decode bytes).mapError Text.Unreadable.bytes = .ok text
    rw [decoded]
    rfl
  rw [linesOf, read]
  rfl

theorem linesAt_standard (reads : sources.FileReads text) :
    sources.linesAt (.ok (.utf8 false)) SettingOptions.filePath =
      .ok (expandedLines sources.environment text) := by
  cases reads with
  | absent missing => simp only [linesAt, missing, expandedLines_nil]
  | present found decoded =>
      simp only [linesAt, found]
      change (linesOf sources.environment (.utf8 false) _ >>= fun lines => .ok lines.entries) = _
      rw [linesOf_utf8 _ decoded]
      rfl

theorem lines_standard (reads : sources.FileReads text) :
    sources.lines {} = .ok (expandedLines sources.environment text) := by
  simp only [lines, bind, Except.bind, List.mapM_cons, List.mapM_nil, locate_filePath,
    linesAt_standard reads, pure, Except.pure, List.flatten_cons, List.flatten_nil,
    List.append_nil]

theorem contents_standard (reads : sources.FileReads text) :
    sources.contents {} = .ok { lines := expandedLines sources.environment text } := by
  rw [contents, lines_standard reads]
  rfl

theorem names_standard (field : SettingField) (name : String) :
    SettingOptions.names {} field name = isVariableOf field name := by
  simp only [SettingOptions.names, isVariableOf, Bool.false_eq_true, if_false]

/-- Every line counts, so that the last one of a field decides. -/
theorem lastValue?_standard (field : SettingField) (lines : List SettingLine) :
    lastValue? {} field lines =
      (((lines.filter fun line => isVariableOf field line.1).getLast?).bind Prod.snd).map
        Value.text := by
  have all : ∀ line : SettingLine, counts {} line = true := by
    intro line
    cases line.2 <;> simp [counts]
  simp only [lastValue?, names_standard, all, Bool.and_true, List.getLast?_eq_head?_reverse,
    ← List.filter_reverse, List.head?_filter]
  cases lines.reverse.find? fun line => isVariableOf field line.1 with
  | none => rfl
  | some line =>
      obtain ⟨name, value⟩ := line
      cases value <;> rfl

theorem argument?_eq (sources : SettingSources) (field : SettingField) :
    sources.argument? field = sources.argumentOf field := by
  rw [argument?, argumentOf, List.head?_filter]

theorem environmentValue?_standard (sources : SettingSources) (field : SettingField) :
    sources.environmentValue? {} field = (sources.variableOf field).map Value.text := by
  rw [environmentValue?, lastValue?_standard, variableOf, List.filter_map, List.getLast?_map]
  simp only [Function.comp_def]
  cases (sources.environment.entries.filter fun entry => isVariableOf field entry.1).getLast? <;>
    rfl

theorem raw_effective (sources : SettingSources) (text : List Char) (field : SettingField) :
    sources.raw {} { lines := expandedLines sources.environment text } field =
      sources.effective text field := by
  have command : SettingOptions.commandValue? {} {} field = none := rfl
  have line : lastValue? {} field (expandedLines sources.environment text) =
      (sources.lineOf text field).map Value.text :=
    lastValue?_standard field (expandedLines sources.environment text)
  simp only [raw, command, line, argument?_eq, environmentValue?_standard, effective]
  cases sources.argumentOf field with
  | some value => rfl
  | none =>
      cases sources.variableOf field with
      | some value => rfl
      | none => cases sources.lineOf text field <;> rfl

/-- The raw values of all fields are the ones in effect. -/
theorem gather_effective (standard : sources.IsStandard) (reads : sources.FileReads text) :
    sources.gather = .ok (sources.effective text) := by
  simp only [gather, ofArguments_standard standard, contents_standard reads, bind, Except.bind]
  exact congrArg Except.ok (funext (raw_effective sources text))

end DiscoveryClient.SettingSources
