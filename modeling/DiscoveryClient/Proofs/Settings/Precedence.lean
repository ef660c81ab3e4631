import DiscoveryClient.Proofs.Settings.Acceptance

/-!
# Which source decides

A field is decided by the first of its sources that says anything, so that what the others
say makes no difference.  This is about two runs: the settings, or their violations, are the
same as long as each field is decided alike in both.

A line of the settings file may refer to other names, of variables or of earlier lines.  So
two runs decide a line alike if they agree on a set of names which holds those of the line
and, with any line, all that it refers to.
-/

namespace DiscoveryClient

/-! ## References -/

namespace Interpolation

/-- The names that a text refers to. -/
def references : List Char → List String
  | '$' :: '{' :: rest =>
      match _found : reference? rest with
      | some (reference, after) => String.ofList reference.name :: references after
      | none => references ('{' :: rest)
  | _ :: rest => references rest
  | [] => []
termination_by text => text.length
decreasing_by
  · have shorter := length_reference? _found
    simp only [List.length_cons]
    omega
  · simp
  · simp

section

variable {look : String → Option String} {rest : List Char}

theorem expand_reference {reference : Reference} {after : List Char}
    (found : reference? rest = some (reference, after)) :
    expand look ('$' :: '{' :: rest) =
      ((look (String.ofList reference.name)).map String.toList).getD reference.default ++
        expand look after := by
  rw [expand]
  split <;> simp_all

theorem expand_dollar (noReference : reference? rest = none) :
    expand look ('$' :: '{' :: rest) = '$' :: expand look ('{' :: rest) := by
  rw [expand]
  split <;> simp_all

end

/-- Only the names that a text refers to are looked up. -/
theorem expand_congr {look other : String → Option String} {text : List Char}
    (agree : ∀ name ∈ references text, look name = other name) :
    expand look text = expand other text := by
  fun_induction references text with
  | case1 rest reference after found induction =>
      rw [List.forall_mem_cons] at agree
      rw [expand_reference found, expand_reference found, agree.1, induction agree.2]
  | case2 rest noReference induction =>
      rw [expand_dollar noReference, expand_dollar noReference, induction agree]
  | case3 c rest plain induction =>
      rw [expand, expand, induction agree]
      · exact plain
      · exact plain
  | case4 => rw [expand, expand]

end Interpolation

namespace Mapping

variable {α : Type} {names : String → Bool}

/-- The entries of some of the names. -/
def only (names : String → Bool) (entries : List (String × α)) : List (String × α) :=
  entries.filter fun entry => names entry.1

theorem only_cons_of_named {entry : String × α} (named : names entry.1 = true)
    (rest : List (String × α)) : only names (entry :: rest) = entry :: only names rest :=
  List.filter_cons_of_pos named

theorem only_cons_of_not_named {entry : String × α} (unnamed : ¬ names entry.1 = true)
    (rest : List (String × α)) : only names (entry :: rest) = only names rest :=
  List.filter_cons_of_neg unnamed

theorem lookup_only {key : String} (named : names key = true) (entries : List (String × α)) :
    lookup key (only names entries) = lookup key entries := by
  induction entries with
  | nil => rfl
  | cons entry rest induction =>
      by_cases own : names entry.1 = true
      · rw [only_cons_of_named own, lookup, lookup, induction]
      · have other : entry.1 ≠ key := fun same => own (same ▸ named)
        rw [only_cons_of_not_named own, lookup, if_neg other, induction]

theorem only_put (key : String) (value : α) (entries : List (String × α)) :
    only names (put key value entries) =
      if names key = true then put key value (only names entries) else only names entries := by
  induction entries with
  | nil => by_cases named : names key = true <;> simp [put, only, named]
  | cons entry rest induction =>
      obtain ⟨name, old⟩ := entry
      by_cases same : name = key
      · subst same
        by_cases named : names name = true <;> simp [put, only, named]
      · by_cases own : names name = true
        · by_cases named : names key = true <;>
            simp_all [put, only_cons_of_named]
        · simp_all [put, only_cons_of_not_named]

end Mapping

namespace SettingSources

open Mapping (only)

variable {names : String → Bool}

/-! ## Lines -/

/-- The names that the value of a line refers to. -/
def referencesOf (line : SettingLine) : List String :=
  line.2.elim [] fun text => Interpolation.references text.toList

/-- What a name means on a line, behind the lines that are done. -/
def meaning (environment : Mapping String) (done : Mapping (Option String)) (name : String) :
    Option String :=
  match done.get? name with
  | some value => some (value.getD "")
  | none => environment.get? name

/-- A value with the meanings of the names that it refers to. -/
def expanded (environment : Mapping String) (done : Mapping (Option String))
    (value : Option String) : Option String :=
  value.map fun text =>
    String.ofList (Interpolation.expand (meaning environment done) text.toList)

theorem expandLines_cons (environment : Mapping String) (done : Mapping (Option String))
    (line : SettingLine) (rest : List SettingLine) :
    expandLines environment done (line :: rest) =
      expandLines environment (done.insert line.1 (expanded environment done line.2)) rest :=
  rfl

section

variable {environment other : Mapping String} {done otherDone : Mapping (Option String)}

theorem meaning_agree
    (agree : ∀ name, names name = true → environment.get? name = other.get? name)
    (same : only names done.entries = only names otherDone.entries)
    {name : String} (named : names name = true) :
    meaning environment done name = meaning other otherDone name := by
  have doneAlike : done.get? name = otherDone.get? name := by
    rw [Mapping.get?, Mapping.get?, ← Mapping.lookup_only named, same,
      Mapping.lookup_only named]
  rw [meaning, meaning, doneAlike, agree name named]

theorem expanded_agree
    (agree : ∀ name, names name = true → environment.get? name = other.get? name)
    (same : only names done.entries = only names otherDone.entries)
    {line : SettingLine} (closed : ∀ name ∈ referencesOf line, names name = true) :
    expanded environment done line.2 = expanded other otherDone line.2 := by
  obtain ⟨name, value⟩ := line
  cases value with
  | none => rfl
  | some text =>
      have alike := Interpolation.expand_congr fun name refers =>
        meaning_agree agree same (closed name refers)
      simp only [expanded, Option.map_some, alike]

/-- The lines of some of the names do not depend on those of other names, unless they refer
to them. -/
theorem expandLines_only {lines : List SettingLine}
    (agree : ∀ name, names name = true → environment.get? name = other.get? name)
    (closed : ∀ line ∈ lines, names line.1 = true →
      ∀ name ∈ referencesOf line, names name = true)
    (same : only names done.entries = only names otherDone.entries) :
    only names (expandLines environment done lines).entries =
      only names (expandLines other otherDone (only names lines)).entries := by
  induction lines generalizing done otherDone with
  | nil => exact same
  | cons line rest induction =>
      rw [List.forall_mem_cons] at closed
      rw [expandLines_cons]
      by_cases named : names line.1 = true
      · have alike := expanded_agree agree same (closed.1 named)
        rw [Mapping.only_cons_of_named named, expandLines_cons]
        apply induction closed.2
        simp only [Mapping.insert, Mapping.only_put, named, if_true, same, alike]
      · rw [Mapping.only_cons_of_not_named named]
        apply induction closed.2
        rw [Mapping.insert, Mapping.only_put, if_neg named, same]

end

/-! ## Two runs -/

/-- Two runs agree on some of the names: on their variables and on their lines, which refer
to no other names. -/
structure AgreeOn (names : String → Bool) (one other : SettingSources)
    (text otherText : List Char) : Prop where
  environment : ∀ name, names name = true →
    one.environment.get? name = other.environment.get? name
  lines : only names (PropertyText.lines text) = only names (PropertyText.lines otherText)
  closed : ∀ line ∈ only names (PropertyText.lines text),
    ∀ name ∈ referencesOf line, names name = true

/-- A field is decided alike in two runs: by the same argument, or without one by the same
variable, or without either by its lines, if its names are among those that are agreed on. -/
inductive DecidedAlike (names : String → Bool) (one other : SettingSources)
    (field : SettingField) : Prop where
  | byArgument {value : Value} (inOne : one.argumentOf field = some value)
      (inOther : other.argumentOf field = some value)
  | byVariable {value : String} (noArgument : one.argumentOf field = none)
      (noOtherArgument : other.argumentOf field = none)
      (inOne : one.variableOf field = some value) (inOther : other.variableOf field = some value)
  | byLine (noArgument : one.argumentOf field = none)
      (noOtherArgument : other.argumentOf field = none)
      (noVariable : one.variableOf field = none) (noOtherVariable : other.variableOf field = none)
      (named : ∀ name, isVariableOf field name = true → names name = true)

variable {one other : SettingSources} {text otherText : List Char}

theorem AgreeOn.expandedLines (agree : AgreeOn names one other text otherText) :
    only names (expandedLines one.environment text) =
      only names (expandedLines other.environment otherText) := by
  have named {lines : List SettingLine} {line : SettingLine} (member : line ∈ lines)
      (own : names line.1 = true) : line ∈ only names lines :=
    List.mem_filter.2 ⟨member, own⟩
  have first := @expandLines_only names one.environment other.environment .empty .empty
    (PropertyText.lines text) agree.environment
    (fun line member own => agree.closed line (named member own)) rfl
  have second := @expandLines_only names other.environment other.environment .empty .empty
    (PropertyText.lines otherText) (fun _ _ => rfl)
    (fun line member own => agree.closed line (agree.lines ▸ named member own)) rfl
  exact (first.trans (by rw [agree.lines])).trans second.symm

theorem AgreeOn.lineOf (agree : AgreeOn names one other text otherText) {field : SettingField}
    (named : ∀ name, isVariableOf field name = true → names name = true) :
    one.lineOf text field = other.lineOf otherText field := by
  have within (lines : List SettingLine) :
      lines.filter (fun line => isVariableOf field line.1) =
        (only names lines).filter fun line => isVariableOf field line.1 := by
    rw [only, List.filter_filter]
    refine List.filter_congr fun line _ => ?_
    by_cases own : isVariableOf field line.1 = true
    · simp [own, named _ own]
    · simp [own]
  rw [SettingSources.lineOf, SettingSources.lineOf, within, agree.expandedLines, ← within]

theorem effective_alike (agree : AgreeOn names one other text otherText) {field : SettingField}
    (alike : DecidedAlike names one other field) :
    one.effective text field = other.effective otherText field := by
  cases alike with
  | byArgument inOne inOther => simp only [effective, inOne, inOther]
  | byVariable noArgument noOtherArgument inOne inOther =>
      simp only [effective, noArgument, noOtherArgument, inOne, inOther]
  | byLine noArgument noOtherArgument noVariable noOtherVariable named =>
      simp only [effective, noArgument, noOtherArgument, noVariable, noOtherVariable,
        agree.lineOf named]

/-- The raw values are the ones in effect, and nothing else is validated.  So two runs that
decide each field alike give the same settings, or the same violations. -/
theorem first_source_decides (standard : one.IsStandard) (otherStandard : other.IsStandard)
    (reads : one.FileReads text) (otherReads : other.FileReads otherText) :
    one.gather = .ok (one.effective text) ∧
    one.settings = (Settings.validate (one.effective text)).mapError .invalid ∧
    ∀ names, AgreeOn names one other text otherText →
      (∀ field, DecidedAlike names one other field) → one.settings = other.settings := by
  have gathered := gather_effective standard reads
  have otherGathered := gather_effective otherStandard otherReads
  refine ⟨gathered, settings_of_gather gathered, ?_⟩
  intro names agree alike
  have same : one.effective text = other.effective otherText :=
    funext fun field => effective_alike agree (alike field)
  rw [settings_of_gather gathered, settings_of_gather otherGathered, same]

/-- Lines that say no scope, and where the files are. -/
def shadowedText : String :=
  "DISCOVERY_NAMESPACE=a\nNOTE=$\x7bHUE\x7d\nDISCOVERY_CONFIG_DIR=$\x7bBASE\x7d\n"

/-- The line about the files alone. -/
def plainText : String :=
  "DISCOVERY_CONFIG_DIR=$\x7bBASE\x7d\n"

/-- A variable that is no format behind an argument that is one, and a line that is no scope
behind an empty variable. -/
def shadowing : SettingSources where
  arguments := [("log_format", .text "json")]
  environment := { entries :=
    [("DISCOVERY_LOG_FORMAT", "xml"), ("DISCOVERY_NAMESPACE", ""), ("BASE", "etc")] }
  tree := { nodes := [(⟨.working 0, "/.env"⟩, .file (Text.Utf8.encode shadowedText))] }

/-- The same without what is shadowed, and with other names that are no fields. -/
def unshadowed : SettingSources where
  arguments := [("colour", .int 3), ("log_format", .text "json")]
  environment := { entries :=
    [("HUE", "red"), ("BASE", "etc"), ("DISCOVERY_NAMESPACE", "")] }
  tree := { nodes := [(⟨.working 0, "/.env"⟩, .file (Text.Utf8.encode plainText))] }

/-- The names that are shadowed or no fields. -/
def hiddenNames : List String :=
  ["DISCOVERY_LOG_FORMAT", "DISCOVERY_NAMESPACE", "NOTE", "HUE"]

def isOpen (name : String) : Bool :=
  !hiddenNames.contains name

theorem isOpen_of_variable {field : SettingField}
    (noneHidden : ∀ hidden ∈ hiddenNames, isVariableOf field hidden = false) {name : String}
    (own : isVariableOf field name = true) : isOpen name = true := by
  have notHidden : name ∉ hiddenNames := by
    intro member
    rw [noneHidden name member] at own
    cases own
  simpa [isOpen] using notHidden

theorem open_names_agree :
    AgreeOn isOpen shadowing unshadowed shadowedText.toList plainText.toList := by
  constructor
  · intro name shown
    have notHidden : name ∉ hiddenNames := by simpa [isOpen] using shown
    simp only [hiddenNames, List.mem_cons, not_or] at notHidden
    obtain ⟨format, scope, -, hue, -⟩ := notHidden
    by_cases base : name = "BASE"
    · subst base
      rfl
    · have absent : shadowing.environment.get? name = none := Mapping.get?_eq_none (by
        change name ∉ ["DISCOVERY_LOG_FORMAT", "DISCOVERY_NAMESPACE", "BASE"]
        simp [format, scope, base])
      have otherAbsent : unshadowed.environment.get? name = none := Mapping.get?_eq_none (by
        change name ∉ ["HUE", "BASE", "DISCOVERY_NAMESPACE"]
        simp [hue, base, scope])
      rw [absent, otherAbsent]
  · decide +kernel
  · decide +kernel

theorem shadowed_values_change_nothing :
    shadowing.settings = unshadowed.settings ∧
      shadowing.settings =
        .ok { Settings.initial with scope := "", directory := "etc" } := by
  have standard : shadowing.IsStandard := by unfold IsStandard; decide
  have otherStandard : unshadowed.IsStandard := by unfold IsStandard; decide
  have reads : shadowing.FileReads shadowedText.toList :=
    .present rfl (Text.Utf8.decode_encode _)
  have otherReads : unshadowed.FileReads plainText.toList :=
    .present rfl (Text.Utf8.decode_encode _)
  obtain ⟨gathered, -, same⟩ := first_source_decides standard otherStandard reads otherReads
  have alike : ∀ field, DecidedAlike isOpen shadowing unshadowed field := by
    intro field
    cases field with
    | logFormat => exact .byArgument rfl rfl
    | scope => exact .byVariable rfl rfl rfl rfl
    | _ => exact .byLine rfl rfl rfl rfl fun _ => isOpen_of_variable (by decide)
  exact ⟨same isOpen open_names_agree alike, settings_of_build gathered (by decide +kernel)⟩

/-- Nothing in the world but one variable, if it is there at all, and a line that refers
to it. -/
def referring (environment : Mapping String) : SettingSources where
  environment
  tree := { nodes := [(⟨.working 0, "/.env"⟩,
    .file (Text.Utf8.encode "DISCOVERY_NAMESPACE=$\x7bX\x7d\n"))] }

/-- A variable that is no field's decides the scope by way of a line.  So do arguments that
are no field's: one that asks for other names of variables, and one in capital letters. -/
theorem foreign_names_decide_scope :
    (∀ field, isVariableOf field "X" = false ∧ field.name ∉ ["_env_prefix", "NAMESPACE"]) ∧
    ((referring .empty).settings = .ok { Settings.initial with scope := "" } ∧
      (referring { entries := [("X", "a.")] }).settings =
        .ok { Settings.initial with scope := "a." }) ∧
    (({ environment := { entries := [("DISCOVERY_NAMESPACE", "a.")] } } :
        SettingSources).settings = .ok { Settings.initial with scope := "a." } ∧
      ({ arguments := [("_env_prefix", .text "OTHER_")],
         environment := { entries := [("DISCOVERY_NAMESPACE", "a.")] } } :
        SettingSources).settings = .ok Settings.initial) ∧
    ({ arguments := [("NAMESPACE", .text "a.")] } : SettingSources).settings =
      .ok { Settings.initial with scope := "a." } := by
  have gathered (environment : Mapping String) :=
    @gather_effective (referring environment) "DISCOVERY_NAMESPACE=$\x7bX\x7d\n".toList
      (List.forall_mem_nil _) (.present rfl (Text.Utf8.decode_encode _))
  refine ⟨?_, ⟨?_, ?_⟩, ⟨rfl, rfl⟩, rfl⟩
  · intro field
    cases field <;> decide
  · exact settings_of_build (gathered _) (by decide +kernel)
  · exact settings_of_build (gathered _) (by decide +kernel)

end SettingSources

end DiscoveryClient
