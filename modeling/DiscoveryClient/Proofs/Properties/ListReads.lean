import DiscoveryClient.Address.Order
import DiscoveryClient.Proofs.Properties.TypedReads

/-!
# Lists in properties

A list is stored as comma-separated text as a rule, and is then read back token for token, by
the reads of any property and by those of the client's own lists.  Only an empty text may
count as no list at all.

Lists and tuples can be stored as they are, too.  The reads of any property take their items.
Those of the client's own lists take the text of the whole list and split it at its commas,
brackets and quotes included.  That is longer than the items with commas between them, so it
never gives the items.
-/

namespace DiscoveryClient.PropertyReader

open Log Text

/-! ## The client's own lists -/

/-- The lists that the client reads from properties of its own. -/
inductive OwnList where
  | zones (region : String)
  | urls (zone : String)
  | hostOrder
  | ipOrder

namespace OwnList

/-- The last part of the key of a list. -/
def suffix : OwnList → String
  | .zones region => region ++ ".availabilityZones"
  | .urls zone => "serviceUrl." ++ zone
  | .hostOrder => "defaultAddressResolutionOrder"
  | .ipOrder => "ipAddressResolutionOrder"

def read (reader : PropertyReader) : OwnList → Except Failure (List String)
  | .zones region => reader.availabilityZones region
  | .urls zone => reader.serviceUrls zone
  | .hostOrder => Address.hostOrder reader
  | .ipOrder => Address.ipOrder reader

/-- Is an empty text the list of one empty token, and not as good as absent? -/
def takesEmpty : OwnList → Bool
  | .zones _ => true
  | _ => false

end OwnList

variable {reader : PropertyReader} {suffix region : String} {raw : Value} {list : OwnList}

theorem string?_given (given : reader.given? (reader.key suffix) = some raw) :
    reader.string? suffix = raw.written.map some := by
  rw [string?, text?, given, Option.mapM_some]
  rfl

theorem nonEmpty?_given (given : reader.given? (reader.key suffix) = some raw)
    (filled : raw ≠ .text "") : reader.nonEmpty? suffix = raw.written.map some := by
  have nonempty : raw.display ≠ "" := fun empty => filled (Value.display_eq_empty_iff.mp empty)
  rw [nonEmpty?, string?_given given, Value.written_eq]
  cases raw.isWritable with
  | false => rfl
  | true => exact congrArg Except.ok (if_pos (decide_eq_true nonempty))

/-- A list of the client's own is made of the text of what is stored. -/
theorem OwnList.read_given (given : reader.given? (reader.key list.suffix) = some raw)
    (counts : list.takesEmpty = true ∨ raw ≠ .text "") :
    list.read reader = raw.written.map CommaList.split := by
  cases list with
  | zones region =>
      have text : reader.string? (region ++ ".availabilityZones") = raw.written.map some :=
        string?_given given
      rw [read, availabilityZones, getString, text]
      cases raw.written <;> rfl
  | urls zone =>
      have text : reader.nonEmpty? ("serviceUrl." ++ zone) = raw.written.map some :=
        nonEmpty?_given given (counts.resolve_left Bool.false_ne_true)
      rw [read, serviceUrls, text]
      cases raw.written <;> rfl
  | hostOrder =>
      have text : reader.nonEmpty? "defaultAddressResolutionOrder" = raw.written.map some :=
        nonEmpty?_given given (counts.resolve_left Bool.false_ne_true)
      rw [read, Address.hostOrder, Address.orderOr, text]
      cases raw.written <;> rfl
  | ipOrder =>
      have text : reader.nonEmpty? "ipAddressResolutionOrder" = raw.written.map some :=
        nonEmpty?_given given (counts.resolve_left Bool.false_ne_true)
      rw [read, Address.ipOrder, Address.orderOr, text]
      cases raw.written <;> rfl

theorem getAs_list (given : reader.given? (reader.key suffix) = some raw) (default : Value) :
    reader.getAs .list suffix default = pure ((toTokens raw).map .texts) := by
  rw [getAs_given given, Kind.convert]
  cases toTokens raw <;> rfl

/-! ## Lists as text -/

/-- Splitting a text at its commas loses nothing.  Tokens without commas that are stored with
commas between them are read back as they are, by the reads of any property and by those of the
client's own lists, unless the text is empty: then there is one empty token, and it counts for
the zones alone. -/
theorem comma_lists_lose_nothing :
    (∀ text, ",".intercalate (CommaList.split text) = text ∧
      (∀ token ∈ CommaList.split text, ',' ∉ token.toList) ∧
      (CommaList.split text).length = text.toList.count ',' + 1) ∧
    ∀ tokens : List String, tokens ≠ [] → (∀ token ∈ tokens, ',' ∉ token.toList) →
      let text := ",".intercalate tokens
      (text = "" ↔ tokens = [""]) ∧
      ∀ reader : PropertyReader,
        (∀ suffix, reader.source (reader.key suffix) = some (.text text) →
          ∀ default, reader.getAs .list suffix default = pure (.ok (.texts tokens))) ∧
        ∀ list : OwnList, reader.source (reader.key list.suffix) = some (.text text) →
          list.takesEmpty = true ∨ text ≠ "" → list.read reader = .ok tokens := by
  refine ⟨fun text => ⟨CommaList.intercalate_split text, fun token => CommaList.not_mem_of_mem_split,
    CommaList.length_split text⟩, ?_⟩
  intro tokens nonempty plain text
  have split : CommaList.split text = tokens := CommaList.split_intercalate nonempty plain
  refine ⟨CommaList.intercalate_eq_empty_iff nonempty, fun reader => ⟨?_, ?_⟩⟩
  · intro suffix stored default
    rw [getAs_list (given?_of_stored stored (by simp)), toTokens_of_plain rfl, ← split]
    rfl
  · intro list stored counts
    have given := given?_of_stored stored (by simp)
    rw [OwnList.read_given given (counts.imp_right fun filled => by simpa using filled), ← split]
    rfl

/-- Blanks and an empty token between commas. -/
theorem blanks_and_empty_tokens_are_kept :
    let tokens := [" a", "", "b "]
    let source (key : String) : Option Value :=
      if key = "eureka.serviceUrl.z" then some (.text (",".intercalate tokens)) else none
    let reader : PropertyReader := ⟨source, .text "eureka."⟩
    ",".intercalate tokens = " a,,b " ∧ reader.serviceUrls "z" = .ok tokens ∧
      reader.getAs .list "serviceUrl.z" .null = pure (.ok (.texts tokens)) := by
  intro tokens source reader
  have plain : ∀ token ∈ tokens, ',' ∉ token.toList := by
    decide
  obtain ⟨empty, reads⟩ := comma_lists_lose_nothing.2 tokens (by simp [tokens]) plain
  obtain ⟨any, own⟩ := reads reader
  have filled : ",".intercalate tokens ≠ "" := fun same => by simpa [tokens] using empty.mp same
  exact ⟨rfl, own (.urls "z") rfl (.inr filled), any "serviceUrl.z" rfl .null⟩

/-! ## Lists as they are -/

/-- A value is read as a list like its text is split, unless it is a list itself and has a text. -/
theorem toTokens_eq_split_iff :
    toTokens raw = raw.written.map CommaList.split ↔ raw.items? = none ∨ raw.text? = none := by
  cases holds : raw.items? with
  | none => exact iff_of_true (toTokens_of_plain holds) (.inl rfl)
  | some items =>
      rw [toTokens_of_items? holds, Value.written_eq, Value.text?_eq_none_iff]
      cases raw.isWritable with
      | false => exact iff_of_true rfl (.inr rfl)
      | true =>
          refine iff_of_false (fun same => ?_) (by simp)
          exact split_display_ne holds (Except.ok.inj same).symm

theorem map_texts_inj {left right : Except Failure (List String)} :
    (pure (left.map .texts) : Logged (Except Failure Value)) = pure (right.map .texts) ↔
      left = right := by
  refine ⟨fun same => ?_, fun same => by rw [same]⟩
  have values := congrArg Logged.value same
  cases left with
  | error failure =>
      cases right with
      | error other => exact congrArg Except.error (Except.error.inj values)
      | ok texts => cases values
  | ok texts =>
      cases right with
      | error failure => cases values
      | ok others => exact congrArg Except.ok (texts_inj.mp (Except.ok.inj values))

theorem agrees_iff (stored : reader.source (reader.key list.suffix) = some raw)
    (present : raw ≠ .null) (counts : list.takesEmpty = true ∨ raw ≠ .text "") (default : Value) :
    reader.getAs .list list.suffix default = pure ((list.read reader).map .texts) ↔
      raw.items? = none ∨ raw.text? = none := by
  have given := given?_of_stored stored present
  rw [getAs_list given, OwnList.read_given given counts, map_texts_inj, toTokens_eq_split_iff]

/-- Zones that are absent are those of the default. -/
theorem zones_absent (absent : reader.given? (reader.key (region ++ ".availabilityZones")) = none) :
    reader.getAs .list (region ++ ".availabilityZones") (.text defaultZone) =
      pure ((reader.availabilityZones region).map .texts) := by
  have text : reader.string? (region ++ ".availabilityZones") = .ok none := by
    rw [string?, text?, absent]
    rfl
  rw [availabilityZones, getString, text]
  simp only [getAs, tokens?, absent]
  rfl

/-- The lists of the client's own are what reads of their properties as lists give, exactly if
no list or tuple is stored as it is: the zones of every region with the default zone for their
default, and the others where a value is stored that is neither null nor an empty text.  Only a
list without a text makes no difference, as both reads fail. -/
theorem list_reads_agree_unless_native (reader : PropertyReader) :
    (∀ region,
      reader.getAs .list (region ++ ".availabilityZones") (.text "defaultZone") =
          pure ((reader.availabilityZones region).map .texts) ↔
        ∀ raw, reader.source (reader.key (region ++ ".availabilityZones")) = some raw →
          raw.items? = none ∨ raw.text? = none) ∧
    ∀ (list : OwnList) raw, reader.source (reader.key list.suffix) = some raw → raw ≠ .null →
      raw ≠ .text "" → ∀ default,
        (reader.getAs .list list.suffix default = pure ((list.read reader).map .texts) ↔
          raw.items? = none ∨ raw.text? = none) := by
  refine ⟨fun region => ?_, fun list raw stored present filled =>
    agrees_iff stored present (.inr filled)⟩
  cases given : reader.given? (reader.key (region ++ ".availabilityZones")) with
  | none =>
      refine iff_of_true (zones_absent given) fun raw stored => ?_
      have null : raw = .null := by
        by_contra present
        rw [given?_of_stored stored present] at given
        cases given
      exact .inl (by rw [null]; rfl)
  | some raw =>
      obtain ⟨stored, present⟩ := Option.filter_eq_some_iff.mp given
      have agrees := @agrees_iff reader raw (.zones region) stored
        (fun null => by simp [null, Value.isNull] at present) (.inl rfl) (.text defaultZone)
      refine agrees.trans ⟨fun plain other storedToo => ?_, fun plain => plain raw stored⟩
      rw [← Option.some.inj (stored.symm.trans storedToo)]
      exact plain

/-- Zones as a tuple, and an order as text with an empty token. -/
def tupleAndText (key : String) : Option Value :=
  if key = "eureka.eu.availabilityZones" then some (.tuple [.text "a", .text "b"])
  else if key = "eureka.ipAddressResolutionOrder" then some (.text "localIpv4,,publicIpv4")
  else none

/-- The order reads alike both ways, the zones of the one region do not, and those of another
one, where nothing is stored, do. -/
theorem text_reads_alike_and_tuple_does_not :
    let reader : PropertyReader := ⟨tupleAndText, .text "eureka."⟩
    reader.getAs .list "ipAddressResolutionOrder" .null =
        pure ((Address.ipOrder reader).map .texts) ∧
      reader.getAs .list "eu.availabilityZones" (.text "defaultZone") ≠
        pure ((reader.availabilityZones "eu").map .texts) ∧
      reader.getAs .list "us.availabilityZones" (.text "defaultZone") =
        pure ((reader.availabilityZones "us").map .texts) := by
  intro reader
  obtain ⟨zones, others⟩ := list_reads_agree_unless_native reader
  have order : reader.source (reader.key "ipAddressResolutionOrder") =
      some (.text "localIpv4,,publicIpv4") := rfl
  have tuple : reader.source (reader.key ("eu" ++ ".availabilityZones")) =
      some (.tuple [.text "a", .text "b"]) := rfl
  have nothing : reader.source (reader.key ("us" ++ ".availabilityZones")) = none := rfl
  refine ⟨(others .ipOrder _ order (by simp) (by simp) .null).mpr (.inl rfl), fun agrees => ?_, ?_⟩
  · rcases (zones "eu").mp agrees _ tuple with plain | unwritable
    · cases plain
    · rw [Value.text?_eq_none_iff] at unwritable
      cases unwritable
  · refine (zones "us").mpr fun raw stored => ?_
    rw [nothing] at stored
    cases stored

/-- Zones that are stored as a list are split like its text, brackets and quotes included. -/
theorem native_zones_are_split_as_text :
    let source (key : String) : Option Value :=
      if key = "eureka.eu.availabilityZones" then some (.list [.text "a", .text "b"]) else none
    let reader : PropertyReader := ⟨source, .text "eureka."⟩
    reader.getAs .list "eu.availabilityZones" (.text "defaultZone") =
        pure (.ok (.texts ["a", "b"])) ∧
      reader.availabilityZones "eu" = .ok ["['a'", " 'b']"] ∧
      reader.getAs .list "eu.availabilityZones" (.text "defaultZone") ≠
        pure ((reader.availabilityZones "eu").map .texts) := by
  intro source reader
  have stored : reader.given? (reader.key (OwnList.zones "eu").suffix) =
      some (.list [.text "a", .text "b"]) := rfl
  have own : reader.availabilityZones "eu" = .ok ["['a'", " 'b']"] := by
    refine (OwnList.read_given stored (.inl rfl)).trans ?_
    rw [Value.written_of_text? ClientProperties.text?_zones]
    exact congrArg Except.ok (by decide)
  have items : reader.getAs .list "eu.availabilityZones" (.text "defaultZone") =
      pure (.ok (.texts ["a", "b"])) := rfl
  refine ⟨items, own, fun agrees => ?_⟩
  rw [own] at agrees
  have same := Except.ok.inj (congrArg Logged.value (items.symm.trans agrees))
  exact absurd (texts_inj.mp same) (by decide)

end DiscoveryClient.PropertyReader
