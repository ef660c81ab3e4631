import DiscoveryClient.Proofs.Properties.FirstValue

/-!
# The client's properties as documented

Every property of the interface gives the documented answer, with the same warning, unless a
value without a text is in the way or a list is stored where one is wanted.  The answer and the
warning depend on the keys of the property alone.
-/

namespace DiscoveryClient.ClientProperties

open Log PropertyReader Text

variable {source other : String → Option Value} {scope argument name : String}
  {raw : Value} {coercion : Coercion} {rule : Rule}

/-! ## What is documented and what is answered -/

/-- A value that can be read is answered as documented, unless a list is wanted and stored. -/
theorem outcome_documented {first : Option (String × Value)} {answer : Logged Value}
    (answers : coercion.Answers first answer)
    (readable : ∀ key raw, first = some (key, raw) → coercion.kind.Reads raw)
    (plain : coercion.kind = .list → ∀ key raw, first = some (key, raw) → raw.items? = none) :
    coercion.outcome first = .ok <$> answer := by
  cases answers with
  | absent => rfl
  | @denoted key raw value denotes =>
      rw [Coercion.outcome, Coercion.convert_eq fun list => plain list key raw rfl,
        convert_iff.mpr denotes]
      rfl
  | @refused key raw nothing =>
      rw [Coercion.outcome, Coercion.convert_eq fun list => plain list key raw rfl,
        convert_refuses (readable key raw rfl) nothing]
      rfl

/-- A list is documented to give its items, and the tokens of its text are others. -/
theorem outcome_list {key : String} {answer : Logged Value} (list : coercion.kind = .list)
    (answers : coercion.Answers (some (key, raw)) answer) (stored : raw.items? ≠ none)
    (readable : coercion.kind.Reads raw) :
    coercion.outcome (some (key, raw)) ≠ .ok <$> answer := by
  obtain ⟨items, holds⟩ := Option.ne_none_iff_exists'.mp stored
  obtain ⟨text, shows⟩ := readable.exists_text fun int => by rw [list] at int; cases int
  obtain ⟨writable, rfl⟩ := Value.text?_eq_some_iff.mp shows
  have denotes : Denotes .list raw (.texts (items.map Value.display)) :=
    .items holds (Value.map_text?_eq_iff.mpr
      ⟨(Value.isWritable_of_items? holds).symm.trans writable, rfl⟩)
  cases coercion with
  | items default =>
      rw [Coercion.outcome_items shows]
      intro same
      cases answers with
      | refused nothing => exact nothing _ denotes
      | denoted other =>
          obtain rfl := denotes.unique other
          have answer := Except.ok.inj (congrArg Logged.value same)
          exact split_display_ne holds (texts_inj.mp answer)
  | _ => cases list

/-! ## All properties -/

theorem takesArgument_entry (rule : Rule) (name : String) :
    (rule.entry name).takesArgument = rule.takesArgument := by
  cases rule with
  | text suffix default => cases default <;> rfl
  | _ => rfl

theorem name_entry (rule : Rule) (name : String) : (rule.entry name).name = name := by
  cases rule with
  | text suffix default => cases default <;> rfl
  | _ => rfl

theorem nodup_documented : (documented.map Prod.fst).Nodup := by
  decide

theorem find?_of_nodup {rows : List (String × Rule)} {rule : Rule}
    (nodup : (rows.map Prod.fst).Nodup) (member : (name, rule) ∈ rows) :
    rows.find? (fun row => row.1 = name) = some (name, rule) := by
  induction rows with
  | nil => cases member
  | cons row rest induction =>
      rw [List.map_cons, List.nodup_cons] at nodup
      rcases List.mem_cons.mp member with rfl | later
      · simp
      · have distinct : row.1 ≠ name := by
          rintro rfl
          exact nodup.1 (List.mem_map.mpr ⟨_, later, rfl⟩)
        rw [List.find?_cons_of_neg (by simpa using distinct), induction nodup.2 later]

theorem entry?_documented {rule : Rule} (member : (name, rule) ∈ documented) :
    entry? name = some (rule.entry name) := by
  have found := find?_of_nodup nodup_documented member
  have names : (fun row : String × Rule => decide ((row.2.entry row.1).name = name)) =
      fun row => decide (row.1 = name) := by
    funext row
    rw [name_entry]
  unfold entry?
  rw [entries_eq, List.find?_map]
  simp only [Function.comp_def, names, found, Option.map_some]

theorem read_without_argument {rule : Rule} (takes : rule.takesArgument = false)
    (name : String) (reader : PropertyReader) (argument : String) :
    (rule.entry name).read reader argument = (rule.entry name).read reader "" := by
  cases rule with
  | zones => cases takes
  | urls => cases takes
  | experimental => cases takes
  | text suffix default => cases default <;> rfl
  | _ => rfl

/-- To call a documented property by its name is to read it. -/
theorem call_documented {rule : Rule} (member : (name, rule) ∈ documented)
    (reader : PropertyReader) (argument : String) :
    call reader name (if rule.takesArgument then [argument] else []) =
      (rule.entry name).read reader argument := by
  simp only [call, entry?_documented member, takesArgument_entry]
  cases takes : rule.takesArgument with
  | true => rfl
  | false =>
      rw [read_without_argument takes name reader argument]
      rfl

theorem entry_congr (rule : Rule) (name : String)
    (agree : ∀ key ∈ rule.keys scope argument, other key.name = source key.name) :
    (rule.entry name).read ⟨other, .text scope⟩ argument =
      (rule.entry name).read ⟨source, .text scope⟩ argument := by
  by_cases fails : rule.Fails source scope argument
  · rw [entry_fails rule name fails, entry_fails rule name ((fails_congr agree).mpr fails)]
  · rw [entry_outcome rule name fails,
      entry_outcome rule name fun other => fails ((fails_congr agree).mp other),
      firstOf_congr agree]

/-- A list that is wanted is put in writing, so its read does not fail if the first value has
a text. -/
theorem not_fails_of_list {text : String} (list : rule.coercion.kind = .list)
    (first : firstOf source (rule.keys scope argument) = some (name, raw))
    (shows : raw.text? = some text) : ¬ rule.Fails source scope argument := by
  rintro ⟨key, member, own, value, unwritable⟩
  have same : own = raw := by
    cases rule with
    | zones =>
        obtain rfl := List.mem_singleton.mp member
        rw [Rule.keys, firstOf_one, value] at first
        cases first
        rfl
    | urls =>
        rcases mem_written_urls member with rfl | ⟨none, rfl⟩
        · rw [Rule.keys, firstOf_two, value] at first
          cases first
          rfl
        · rw [Rule.keys, firstOf_two, none, value] at first
          cases first
          rfl
    | _ => cases list
  rw [same, shows] at unwritable
  cases unwritable

/-! ## Documented answers -/

/-- The documented answer is given if no text is missing and no list is met, and only then. -/
theorem entry_documented_iff (name : String) {answer : Logged Value}
    (documents : rule.Documents source scope argument answer) :
    (rule.entry name).read ⟨source, .text scope⟩ argument = .ok <$> answer ↔
      ¬ rule.Fails source scope argument ∧ ¬ rule.MeetsList source scope argument := by
  constructor
  · intro same
    have works : ¬ rule.Fails source scope argument := by
      intro fails
      have error := congrArg Logged.value ((entry_fails rule name fails).symm.trans same)
      cases error
    refine ⟨works, ?_⟩
    rintro ⟨list, key, raw, first, stored⟩
    rw [Rule.Documents, first] at documents
    refine outcome_list list documents stored (reads_firstOf works first) ?_
    rw [← first, ← entry_outcome rule name works, same]
  · rintro ⟨works, plain⟩
    refine (entry_outcome rule name works).trans (outcome_documented documents
      (fun key raw => reads_firstOf works) fun list key raw first => ?_)
    by_contra stored
    exact plain ⟨list, key, raw, first, stored⟩

/-- Where a list is wanted, the answer is the tokens of a text. -/
theorem entry_splits {key text : String} (list : rule.coercion.kind = .list)
    (first : firstOf source (rule.keys scope argument) = some (key, raw))
    (shows : raw.text? = some text) (name : String) :
    ∃ tokens, CommaList.Splits text tokens ∧
      (rule.entry name).read ⟨source, .text scope⟩ argument = pure (.ok (.texts tokens)) := by
  rw [entry_outcome rule name (not_fails_of_list list first shows), first]
  refine ⟨CommaList.split text, CommaList.splits_iff.mpr rfl, ?_⟩
  cases of : rule.coercion with
  | items default => exact Coercion.outcome_items shows default key
  | _ => rw [of] at list; cases list

/-! ## All properties as documented -/

/-- The interface has the documented properties.  Each of them has one documented answer, made
of the first of its keys that has a value, and that is the answer of the interface, with the
same warning, exactly if

* no value is put in writing that has no text, as an integer in it has too many digits,
* and no list or tuple is stored as it is where a list is wanted.

In the one case the read fails.  In the other it answers the tokens of the text of the list,
brackets and quotes included.  Sources that agree on the keys of a property give the same answer
and the same log in any case. -/
theorem getters_read_documented_keys (source : String → Option Value) (scope : String) :
    entries.map Entry.name = documented.map Prod.fst ∧
    ∀ name rule, (name, rule) ∈ documented → ∀ argument,
      let arguments := if rule.takesArgument then [argument] else []
      let read := call ⟨source, .text scope⟩ name arguments
      (∃! answer, rule.Documents source scope argument answer) ∧
      (∀ answer, rule.Documents source scope argument answer →
        (read = .ok <$> answer ↔
          ¬ rule.Fails source scope argument ∧ ¬ rule.MeetsList source scope argument)) ∧
      (rule.Fails source scope argument → read = pure (.error .tooManyDigits)) ∧
      (∀ key raw text, rule.coercion.kind = .list →
        firstOf source (rule.keys scope argument) = some (key, raw) → raw.text? = some text →
        ∃ tokens, CommaList.Splits text tokens ∧ read = pure (.ok (.texts tokens))) ∧
      ∀ other : String → Option Value,
        (∀ key ∈ rule.keys scope argument, other key.name = source key.name) →
        call ⟨other, .text scope⟩ name arguments = read := by
  constructor
  · rw [entries_eq, List.map_map]
    exact List.map_congr_left fun row _ => name_entry row.2 row.1
  intro name rule member argument arguments read
  have called : read = (rule.entry name).read ⟨source, .text scope⟩ argument :=
    call_documented member _ argument
  rw [called]
  refine ⟨Coercion.existsUnique_answers _ _,
    fun answer documents => entry_documented_iff name documents, entry_fails rule name,
    fun key raw text list first shows => entry_splits list first shows name, ?_⟩
  intro other agree
  exact (call_documented member _ argument).trans (entry_congr rule name agree)

/-- An empty text for one zone, a list for the zones of a region, and for the host of the proxy
an integer with too many digits. -/
def oddities (key : String) : Option Value :=
  if key = "eureka.serviceUrl.east" then some (.text "")
  else if key = "eureka.serviceUrl.default" then some (.text "a,b")
  else if key = "eureka.eu.availabilityZones" then some (.list [.text "a", .text "b"])
  else if key = "eureka.eurekaServer.proxyHost" then some (.int Value.leastUnwritable)
  else none

theorem oddities_proxyHost :
    (Rule.text "eurekaServer.proxyHost" none).Fails oddities "eureka." "" := by
  refine ⟨_, List.mem_cons_self, .int Value.leastUnwritable, ?_, Value.text?_leastUnwritable⟩
  rw [value?_plain]
  rfl

theorem text?_zones :
    (Value.list [.text "a", .text "b"]).text? = some "['a', 'b']" := by
  decide +kernel

theorem split_zones : CommaList.split "['a', 'b']" = ["['a'", " 'b']"] := by
  decide

theorem firstOf_zones : firstOf oddities (Rule.zones.keys "eureka." "eu") =
    some ("eureka.eu.availabilityZones", .list [.text "a", .text "b"]) :=
  rfl

/-- Empty service URLs of a zone are passed over, and those of a neighbour are not seen.  The
list is split like its text, and the long integer is in the way. -/
theorem oddities_are_read :
    let other (key : String) : Option Value :=
      if key = "eureka.serviceUrl.west" then some (.text "c") else oddities key
    call ⟨oddities, .text "eureka."⟩ "eureka_server_service_urls" ["east"] =
        pure (.ok (.texts ["a", "b"])) ∧
      call ⟨other, .text "eureka."⟩ "eureka_server_service_urls" ["east"] =
        pure (.ok (.texts ["a", "b"])) ∧
      call ⟨oddities, .text "eureka."⟩ "availability_zones" ["eu"] =
        pure (.ok (.texts ["['a'", " 'b']"])) ∧
      call ⟨oddities, .text "eureka."⟩ "proxy_host" [] = pure (.error .tooManyDigits) := by
  intro other
  obtain ⟨_, reads⟩ := getters_read_documented_keys oddities "eureka."
  have urls : firstOf oddities (Rule.urls.keys "eureka." "east") =
      some ("eureka.serviceUrl.default", .text "a,b") := rfl
  obtain ⟨_, answers, _, _, agreeing⟩ :=
    reads "eureka_server_service_urls" .urls (by simp [documented]) "east"
  obtain ⟨_, _, _, splits, _⟩ := reads "availability_zones" .zones (by simp [documented]) "eu"
  obtain ⟨_, _, fails, _, _⟩ := reads "proxy_host" (.text "eurekaServer.proxyHost" none)
    (by simp [documented]) ""
  have east : call ⟨oddities, .text "eureka."⟩ "eureka_server_service_urls" ["east"] =
      pure (.ok (.texts ["a", "b"])) := by
    have documents : Rule.urls.Documents oddities "eureka." "east" (pure (.texts ["a", "b"])) := by
      rw [Rule.Documents, urls]
      exact .denoted (.split rfl rfl (CommaList.splits_iff.mpr (by decide)))
    refine (answers _ documents).mpr ⟨not_fails_of_list rfl urls rfl, ?_⟩
    rintro ⟨_, key, raw, first, stored⟩
    rw [urls] at first
    cases first
    exact stored rfl
  refine ⟨east, (agreeing other ?_).trans east, ?_, fails oddities_proxyHost⟩
  · intro key member
    simp only [Rule.keys, List.mem_cons, List.not_mem_nil, or_false] at member
    rcases member with rfl | rfl <;> rfl
  · obtain ⟨tokens, split, read⟩ := splits _ _ _ rfl firstOf_zones text?_zones
    rwa [← CommaList.splits_iff.mp split, split_zones] at read

/-- The documented zones are the items of the list that is stored, and a host that has no text
is documented to be ignored with a warning.  Neither is what is answered. -/
theorem documented_answers_are_missed :
    (Rule.zones.Documents oddities "eureka." "eu" (pure (.texts ["a", "b"])) ∧
      call ⟨oddities, .text "eureka."⟩ "availability_zones" ["eu"] =
        pure (.ok (.texts ["['a'", " 'b']"])) ∧
      call ⟨oddities, .text "eureka."⟩ "availability_zones" ["eu"] ≠
        pure (.ok (.texts ["a", "b"]))) ∧
    ∃ answer, (Rule.text "eurekaServer.proxyHost" none).Documents oddities "eureka." "" answer ∧
      answer.value = .null ∧
      call ⟨oddities, .text "eureka."⟩ "proxy_host" [] = pure (.error .tooManyDigits) := by
  have called : call ⟨oddities, .text "eureka."⟩ "availability_zones" ["eu"] =
      pure (.ok (.texts ["['a'", " 'b']"])) := by
    refine (@call_documented _ .zones (by simp [documented]) _ "eu").trans ?_
    obtain ⟨tokens, split, read⟩ :=
      @entry_splits _ _ _ _ .zones _ _ rfl firstOf_zones text?_zones "availability_zones"
    rwa [← CommaList.splits_iff.mp split, split_zones] at read
  refine ⟨⟨?_, called, fun same => ?_⟩, _, .refused fun value denotes => ?_, rfl, ?_⟩
  · rw [Rule.Documents, firstOf_zones]
    exact .denoted (.items rfl rfl)
  · have texts := Except.ok.inj (congrArg Logged.value (called.symm.trans same))
    exact absurd (texts_inj.mp texts) (by decide)
  · cases denotes with
    | text shows =>
        rw [Value.text?_leastUnwritable] at shows
        cases shows
  · exact (@call_documented _ (.text "eurekaServer.proxyHost" none) (by simp [documented])
      _ "").trans (entry_fails _ _ oddities_proxyHost)

end DiscoveryClient.ClientProperties
