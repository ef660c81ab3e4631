import DiscoveryClient.Address.Resolution

/-!
# The walk through an order

A walk reads metadata that others keep current, so a field that is read twice may have two
values, and a read may fail that worked before.  Here each answer is a function of the calls
that went before it, which leaves the metadata and the fallback every freedom.

Each token that a walk reaches costs it one call: a read if the token names a field, else a
warning.  The calls before a token are thus known from the order alone.  A walk ends at the
first token whose read fails or gives a value that says something, and else falls back.
-/

namespace DiscoveryClient

theorem MetadataField.ofToken?_eq_some_iff {token : String} {field : MetadataField} :
    ofToken? token = some field ↔ field.token = token := by
  constructor
  · exact token_of_ofToken?
  · rintro rfl
    exact ofToken?_token field

namespace Address

open Log

/-- What a walk does to its surroundings. -/
inductive Call where
  | warn (event : Event)
  | read (wireName : String)
  | fallback

namespace Call

def wireName? : Call → Option String
  | .read wireName => some wireName
  | _ => none

def warning? : Call → Option Event
  | .warn event => some event
  | _ => none

def isFallback : Call → Bool
  | .fallback => true
  | _ => false

/-- The call that a token costs. -/
def ofToken (token : String) : Call :=
  match MetadataField.ofToken? token with
  | none => .warn (unknownToken (.text token))
  | some field => .read field.wireName

theorem ofToken_unknown {token : String} (unknown : MetadataField.ofToken? token = none) :
    ofToken token = .warn (unknownToken (.text token)) := by
  simp only [ofToken, unknown]

theorem ofToken_token (field : MetadataField) :
    ofToken field.token = .read field.wireName := by
  simp only [ofToken, MetadataField.ofToken?_token]

theorem wireName?_ofToken (token : String) :
    (ofToken token).wireName? = (MetadataField.ofToken? token).map MetadataField.wireName := by
  unfold ofToken
  cases MetadataField.ofToken? token <;> rfl

theorem warning?_ofToken (token : String) :
    (ofToken token).warning? =
      if MetadataField.ofToken? token = none then some (unknownToken (.text token)) else none := by
  unfold ofToken
  cases MetadataField.ofToken? token <;> rfl

theorem isFallback_ofToken (token : String) : (ofToken token).isFallback = false := by
  unfold ofToken
  cases MetadataField.ofToken? token <;> rfl

end Call

/-- Metadata by wire names, and a fallback.  Each answer may depend on all calls before. -/
structure Setting where
  read : (past : List Call) → (wireName : String) → Except Failure Value
  fallback : (past : List Call) → Except Failure Value

namespace Setting

variable (setting : Setting)

/-- The setting as a walk sees it, every call being noted. -/
def surroundings : Surroundings (StateM (List Call)) where
  warn event := modify (· ++ [.warn event])
  read field := do
    let past ← get
    set (past ++ [.read field.wireName])
    return setting.read past field.wireName
  fallback := do
    let past ← get
    set (past ++ [.fallback])
    return setting.fallback past

/-- The answer of a walk and the calls that it made, with those that went before. -/
def walk (past : List Call) (order : List String) : Except Failure Value × List Call :=
  Address.walk setting.surroundings (order.map .text) past

/-- A token names no field, or one whose value says nothing. -/
def PassesOver (past : List Call) (token : String) : Prop :=
  ∀ field : MetadataField, field.token = token →
    ∃ value, setting.read past field.wireName = .ok value ∧ value.isFilled = false

/-- Each of the tokens is passed over, after the calls that those in front of it cost. -/
def Passes (past : List Call) (tokens : List String) : Prop :=
  ∀ before token after, tokens = before ++ token :: after →
    setting.PassesOver (past ++ before.map Call.ofToken) token

/-- The ways in which a walk through an order ends: which tokens it has reached, whether it
falls back, and what it answers. -/
inductive Ends (order : List String) : List String → Bool → Except Failure Value → Prop where
  | hit {before after : List String} {field : MetadataField} {value : Value} :
      order = before ++ field.token :: after →
      setting.Passes [] before →
      setting.read (before.map Call.ofToken) field.wireName = .ok value →
      value.isFilled = true →
      Ends order (before ++ [field.token]) false (.ok value)
  | failed {before after : List String} {field : MetadataField} {failure : Failure} :
      order = before ++ field.token :: after →
      setting.Passes [] before →
      setting.read (before.map Call.ofToken) field.wireName = .error failure →
      Ends order (before ++ [field.token]) false (.error failure)
  | exhausted :
      setting.Passes [] order →
      Ends order order true (setting.fallback (order.map Call.ofToken))

/-- The calls of a walk that has reached these tokens. -/
def callsOf (reached : List String) (fallsBack : Bool) : List Call :=
  reached.map Call.ofToken ++ if fallsBack then [.fallback] else []

/-! ## One token -/

variable {setting} {past : List Call} {token : String} {field : MetadataField} {value : Value}
  {rest : List String}

theorem bind_apply {α β : Type} (first : StateM (List Call) α)
    (next : α → StateM (List Call) β) (past : List Call) :
    (first >>= next) past = next (first past).1 (first past).2 := rfl

theorem read_apply (setting : Setting) (past : List Call) (field : MetadataField) :
    setting.surroundings.read field past =
      (setting.read past field.wireName, past ++ [.read field.wireName]) := rfl

theorem walk_nil (setting : Setting) (past : List Call) :
    setting.walk past [] = (setting.fallback past, past ++ [.fallback]) := rfl

theorem walk_unknown (unknown : MetadataField.ofToken? token = none) (rest : List String) :
    setting.walk past (token :: rest) = setting.walk (past ++ [Call.ofToken token]) rest := by
  rw [Call.ofToken_unknown unknown, walk, List.map_cons, Address.walk,
    MetadataField.ofTokenValue?_text, unknown]
  rfl

theorem walk_read (setting : Setting) (past : List Call) (field : MetadataField)
    (rest : List String) :
    setting.walk past (field.token :: rest) =
      match setting.read past field.wireName with
      | .error failure => (.error failure, past ++ [Call.ofToken field.token])
      | .ok value =>
          match value.filled? with
          | some address => (.ok address, past ++ [Call.ofToken field.token])
          | none => setting.walk (past ++ [Call.ofToken field.token]) rest := by
  rw [Call.ofToken_token, walk, List.map_cons, Address.walk, MetadataField.ofTokenValue?_text,
    MetadataField.ofToken?_token]
  dsimp only
  rw [bind_apply, read_apply]
  cases setting.read past field.wireName with
  | error failure => rfl
  | ok value => dsimp only; cases value.filled? <;> rfl

theorem walk_hit (answers : setting.read past field.wireName = .ok value)
    (filled : value.isFilled = true) (rest : List String) :
    setting.walk past (field.token :: rest) =
      (.ok value, past ++ [Call.ofToken field.token]) := by
  simp only [walk_read, answers, Value.filled?, filled, if_true]

theorem walk_failed {failure : Failure}
    (fails : setting.read past field.wireName = .error failure) (rest : List String) :
    setting.walk past (field.token :: rest) =
      (.error failure, past ++ [Call.ofToken field.token]) := by
  simp only [walk_read, fails]

theorem walk_passesOver (passes : setting.PassesOver past token) (rest : List String) :
    setting.walk past (token :: rest) = setting.walk (past ++ [Call.ofToken token]) rest := by
  cases known : MetadataField.ofToken? token with
  | none => exact walk_unknown known rest
  | some field =>
      obtain rfl := MetadataField.ofToken?_eq_some_iff.mp known
      obtain ⟨value, answers, nothing⟩ := passes field rfl
      simp only [walk_read, answers, Value.filled?, nothing, Bool.false_eq_true, if_false]

/-! ## Tokens in a row -/

theorem passes_cons (first : setting.PassesOver past token)
    (later : setting.Passes (past ++ [Call.ofToken token]) rest) :
    setting.Passes past (token :: rest) := by
  intro before other after split
  cases before with
  | nil =>
      obtain ⟨rfl, rfl⟩ := List.cons.inj split
      simpa using first
  | cons head before =>
      obtain ⟨rfl, rfl⟩ := List.cons.inj split
      simpa using later before other after rfl

theorem passesOver_of_passes (passes : setting.Passes past (token :: rest)) :
    setting.PassesOver past token := by
  simpa using passes [] token rest rfl

theorem passes_of_passes (passes : setting.Passes past (token :: rest)) :
    setting.Passes (past ++ [Call.ofToken token]) rest := by
  intro before other after split
  simpa using passes (token :: before) other after (by rw [split]; rfl)

/-- A walk goes on behind tokens that it passes over. -/
theorem walk_passes {before : List String} (passes : setting.Passes past before)
    (rest : List String) :
    setting.walk past (before ++ rest) =
      setting.walk (past ++ before.map Call.ofToken) rest := by
  -- The calls of the tokens join the past one by one.
  induction before generalizing past with
  | nil => simp
  | cons token before induction =>
      rw [List.cons_append, walk_passesOver (passesOver_of_passes passes),
        induction (passes_of_passes passes), List.map_cons, List.append_assoc,
        List.singleton_append]

theorem walk_ends {order reached : List String} {fallsBack : Bool}
    {answer : Except Failure Value} (ends : setting.Ends order reached fallsBack answer) :
    setting.walk [] order = (answer, callsOf reached fallsBack) := by
  cases ends with
  | hit split passes answers filled =>
      rw [split, walk_passes passes, List.nil_append, walk_hit answers filled]
      simp [callsOf]
  | failed split passes fails =>
      rw [split, walk_passes passes, List.nil_append, walk_failed fails]
      simp [callsOf]
  | exhausted passes =>
      have walked := walk_passes passes []
      rw [List.append_nil, List.nil_append, walk_nil] at walked
      simpa [callsOf] using walked

/-- A token decides a walk that reaches it, or is passed over. -/
theorem decides_or_passesOver (setting : Setting) (past : List Call) (token : String) :
    (∃ field : MetadataField, field.token = token ∧
      ((∃ failure, setting.read past field.wireName = .error failure) ∨
        ∃ value, setting.read past field.wireName = .ok value ∧ value.isFilled = true)) ∨
    setting.PassesOver past token := by
  cases known : MetadataField.ofToken? token with
  | none =>
      refine .inr fun field names => ?_
      rw [MetadataField.ofToken?_eq_some_iff.mpr names] at known
      cases known
  | some field =>
      have names := MetadataField.ofToken?_eq_some_iff.mp known
      cases answers : setting.read past field.wireName with
      | error failure => exact .inl ⟨field, names, .inl ⟨failure, answers⟩⟩
      | ok value =>
          cases filled : value.isFilled with
          | true => exact .inl ⟨field, names, .inr ⟨value, answers, filled⟩⟩
          | false =>
              refine .inr fun other namesToo => ⟨value, ?_, filled⟩
              rw [MetadataField.ofToken?_eq_some_iff.mpr namesToo] at known
              obtain rfl := Option.some.inj known
              exact answers

/-- The tokens passed over at the front of an order are all of it, or a deciding one comes
behind them. -/
theorem passes_or_decides (setting : Setting) (past : List Call) (order : List String) :
    setting.Passes past order ∨
    ∃ before field after, order = before ++ MetadataField.token field :: after ∧
      setting.Passes past before ∧
      ((∃ failure,
          setting.read (past ++ before.map Call.ofToken) field.wireName = .error failure) ∨
        ∃ value, setting.read (past ++ before.map Call.ofToken) field.wireName = .ok value ∧
          value.isFilled = true) := by
  have nothing (past : List Call) : setting.Passes past [] := by
    intro before token after split
    simp at split
  induction order generalizing past with
  | nil => exact .inl (nothing past)
  | cons token rest induction =>
      rcases decides_or_passesOver setting past token with ⟨field, rfl, decides⟩ | passes
      · exact .inr ⟨[], field, rest, rfl, nothing past, by simpa using decides⟩
      · rcases induction (past ++ [Call.ofToken token]) with
          all | ⟨before, field, after, rfl, later, decides⟩
        · exact .inl (passes_cons passes all)
        · exact .inr ⟨token :: before, field, after, rfl, passes_cons passes later,
            by simpa using decides⟩

theorem exists_ends (setting : Setting) (order : List String) :
    ∃ reached fallsBack answer, setting.Ends order reached fallsBack answer := by
  rcases passes_or_decides setting [] order with
    all | ⟨before, field, after, split, passes, ⟨failure, fails⟩ | ⟨value, answers, filled⟩⟩
  · exact ⟨_, _, _, .exhausted all⟩
  · exact ⟨_, _, _, .failed split passes fails⟩
  · exact ⟨_, _, _, .hit split passes answers filled⟩

/-! ## What the calls show -/

theorem reads_callsOf (reached : List String) (fallsBack : Bool) :
    (callsOf reached fallsBack).filterMap Call.wireName? =
      (reached.filterMap MetadataField.ofToken?).map MetadataField.wireName := by
  have last : (if fallsBack then [Call.fallback] else []).filterMap Call.wireName? = [] := by
    cases fallsBack <;> rfl
  rw [callsOf, List.filterMap_append, last, List.append_nil, List.filterMap_map,
    List.map_filterMap]
  exact congrArg (reached.filterMap ·) (funext Call.wireName?_ofToken)

theorem warnings_callsOf (reached : List String) (fallsBack : Bool) :
    (callsOf reached fallsBack).filterMap Call.warning? =
      (reached.filter fun token => MetadataField.ofToken? token = none).map fun token =>
        unknownToken (.text token) := by
  have last : (if fallsBack then [Call.fallback] else []).filterMap Call.warning? = [] := by
    cases fallsBack <;> rfl
  rw [callsOf, List.filterMap_append, last, List.append_nil, List.filterMap_map]
  induction reached with
  | nil => rfl
  | cons token rest induction =>
      rw [List.filterMap_cons, List.filter_cons, Function.comp_apply, Call.warning?_ofToken,
        induction]
      by_cases unknown : MetadataField.ofToken? token = none <;> simp [unknown]

theorem fallbacks_callsOf (reached : List String) (fallsBack : Bool) :
    (callsOf reached fallsBack).countP Call.isFallback = fallsBack.toNat := by
  have none : (reached.map Call.ofToken).countP Call.isFallback = 0 := by
    simp [List.countP_eq_zero, Call.isFallback_ofToken]
  rw [callsOf, List.countP_append, none, Nat.zero_add]
  cases fallsBack <;> rfl

end Setting

/-- The local address is empty when it is first read and has come in since; reads of other
fields fail, and so does the fallback. -/
def lateAddress : Setting where
  read past wireName :=
    if wireName = "local-ipv4" then .ok (.text (if past.isEmpty then "" else "10.0.0.7"))
    else .error .wrongType
  fallback _ := .error .wrongType

end Address

end DiscoveryClient
