import DiscoveryClient.Failure
import DiscoveryClient.Log.Logged
import DiscoveryClient.Number.Numeral
import DiscoveryClient.Text.CommaList

/-!
# Typed reads of properties

A reader looks properties up by the last part of their names: the full key is
the scope of the reader followed by that suffix.  A property that is absent, or
stored as null, gives the default of the read without a word.  A stored value
that cannot be read as the wanted type gives the default too, with one warning.

Reads go by the text of what is stored.  A value without a text makes them fail;
only integers are read for what they are, and a value without a text is none.
-/

namespace DiscoveryClient

open Log

/-- Look-ups in a source of properties, and the first part of every key. -/
structure PropertyReader where
  source : String → Option Value
  /-- The first part of every key, as its text. -/
  scope : Value

/-- What a stored value gives when it is read as some type. -/
inductive Reading (α : Type) where
  | absent
  | found (value : α)
  | refused (raw : Value)

namespace Reading

variable {α β : Type}

def map (convert : α → β) : Reading α → Reading β
  | .absent => .absent
  | .found value => .found (convert value)
  | .refused raw => .refused raw

/-- What a conversion has made of a stored value, unless it has refused it. -/
def ofConverted (raw : Value) : Option α → Reading α
  | some value => .found value
  | none => .refused raw

/-- Read a stored value, if there is one, by a conversion that may refuse it. -/
def ofValue? (convert? : Value → Option α) : Option Value → Reading α
  | none => .absent
  | some raw => .ofConverted raw (convert? raw)

end Reading

namespace PropertyReader

def loggerName : String := "discovery_sdk.tier1_runtime.resolver"

/-- The region when none is configured. -/
def defaultRegion : String := "us-east-1"

/-- The zone list, as text, of a region that has none. -/
def defaultZone : String := "defaultZone"

/-- The key of the region that applies to every scope. -/
def globalRegionKey : String := "eureka.region"

/-! ## Conversions -/

/-- Integers stand for themselves; other values are read through their text, and
are refused if they have none. -/
def toInt? : Value → Option Int
  | .int value => some value
  | raw => raw.text?.bind fun text => Numeral.integer? text.toList

def trueWords : List String := ["true", "yes", "on"]

def falseWords : List String := ["false", "no", "off"]

/-- The truth value that a word denotes, letter case and blanks at both ends aside. -/
def wordToBool? (text : String) : Option Bool :=
  let word := Text.lower (String.ofList (Text.trim text.toList))
  if trueWords.contains word then some true
  else if falseWords.contains word then some false
  else none

/-- Truth values stand for themselves; other values are read through their text. -/
def toBool? : Value → Except Failure (Option Bool)
  | .bool value => .ok (some value)
  | raw => raw.written.map wordToBool?

/-- The items of a list or tuple as texts; any other value is split at its commas. -/
def toTokens : Value → Except Failure (List String)
  | .list items | .tuple items => items.mapM Value.written
  | raw => raw.written.map Text.CommaList.split

/-! ## Reads -/

def key (reader : PropertyReader) (suffix : String) : String :=
  reader.scope.display ++ suffix

theorem key_of_scope {reader : PropertyReader} {scope : String} (is : reader.scope = .text scope)
    (suffix : String) : reader.key suffix = scope ++ suffix := by
  rw [key, is, Value.display_text]

/-- The value under a full key, null counting as absent. -/
def given? (reader : PropertyReader) (key : String) : Option Value :=
  (reader.source key).filter fun value => !value.isNull

/-- The text of the value under a full key. -/
def text? (reader : PropertyReader) (key : String) : Except Failure (Option String) :=
  (reader.given? key).mapM Value.written

/-- The text of a property. -/
def string? (reader : PropertyReader) (suffix : String) : Except Failure (Option String) :=
  reader.text? (reader.key suffix)

/-- The text of the first property, or else of the second, which is read in any case. -/
def stringOrElse? (reader : PropertyReader) (suffix other : String) :
    Except Failure (Option String) := do
  let fallback ← reader.string? other
  let own ← reader.string? suffix
  return own.or fallback

def readInt (reader : PropertyReader) (suffix : String) : Reading Int :=
  .ofValue? toInt? (reader.given? (reader.key suffix))

def readBool (reader : PropertyReader) (suffix : String) : Except Failure (Reading Bool) :=
  match reader.given? (reader.key suffix) with
  | none => .ok .absent
  | some raw => (toBool? raw).map (.ofConverted raw)

def tokens? (reader : PropertyReader) (suffix : String) : Except Failure (Option (List String)) :=
  (reader.given? (reader.key suffix)).mapM toTokens

/-- The warning about a value that is not used. -/
def ignoredValue (key : String) (raw : Value) (expected : String) (default : Value) : Event where
  level := .warning
  logger := loggerName
  name := .text "config.value.invalid"
  fields :=
    [("key", .text key), ("value", raw), ("expected", .text expected), ("default", default)]

/-- The value read, or the default; a refused value is logged. -/
def settle {α : Type} (toValue : α → Value) (key expected : String) (default : α) :
    Reading α → Logged α
  | .absent => pure default
  | .found value => pure value
  | .refused raw => do
      Logged.log (ignoredValue key raw expected (toValue default))
      pure default

/-- The same of a reading that may have failed. -/
def settleOk {α : Type} (toValue : α → Value) (key expected : String) (default : α) :
    Except Failure (Reading α) → Logged (Except Failure α)
  | .error failure => pure (.error failure)
  | .ok reading => .ok <$> settle toValue key expected default reading

def getString (reader : PropertyReader) (suffix default : String) : Except Failure String :=
  (reader.string? suffix).map (·.getD default)

def getInt (reader : PropertyReader) (suffix : String) (default : Int) : Logged Int :=
  settle .int (reader.key suffix) "int" default (reader.readInt suffix)

def getBool (reader : PropertyReader) (suffix : String) (default : Bool) :
    Logged (Except Failure Bool) :=
  settleOk .bool (reader.key suffix) "bool" default (reader.readBool suffix)

/-! ## Reads with a default of any type -/

/-- The types that a property can be read as. -/
inductive Kind where
  | string
  | int
  | bool
  | list
  deriving DecidableEq, Repr

/-- The type that a default asks for. -/
def Kind.ofDefault : Value → Kind
  | .bool _ => .bool
  | .int _ => .int
  | .list _ | .tuple _ => .list
  | _ => .string

/-- The list that a default of any type stands for: text is split, a mapping
gives its names, and what has no items is refused. -/
def listOfDefault : Value → Except Failure Value
  | .null => .ok (.list [])
  | .text text => .ok (.texts (Text.CommaList.split text))
  | .list items | .tuple items => .ok (.list items)
  | .dict entries => .ok (.texts (entries.map Prod.fst))
  | _ => .error .wrongType

/-- Read a property as a given type, with a default of any type. -/
def getAs (reader : PropertyReader) (kind : Kind) (suffix : String) (default : Value) :
    Logged (Except Failure Value) :=
  let key := reader.key suffix
  match kind with
  | .string => pure ((reader.string? suffix).map fun text => (text.map .text).getD default)
  | .int => .ok <$> settle id key "int" default ((reader.readInt suffix).map .int)
  | .bool => settleOk id key "bool" default ((reader.readBool suffix).map (·.map .bool))
  | .list =>
      pure <| (reader.tokens? suffix).bind fun tokens =>
        tokens.elim (listOfDefault default) fun tokens => .ok (.texts tokens)

/-- Read a property as the type of its default, which is text for a null default. -/
def getLike (reader : PropertyReader) (suffix : String) (default : Value) :
    Logged (Except Failure Value) :=
  reader.getAs (.ofDefault default) suffix default

/-- The text of the first property, of the second, or the default. -/
def getStringOrElse (reader : PropertyReader) (suffix other : String) (default : Value) :
    Except Failure Value :=
  (reader.stringOrElse? suffix other).map fun text => (text.map .text).getD default

/-! ## Composite keys -/

/-- The region of the scope, else the global one, which is read in any case, else the
default. -/
def region (reader : PropertyReader) : Except Failure String := do
  let global ← reader.text? globalRegionKey
  reader.getString "region" (global.getD defaultRegion)

def availabilityZones (reader : PropertyReader) (region : String) :
    Except Failure (List String) :=
  (reader.getString (region ++ ".availabilityZones") defaultZone).map Text.CommaList.split

/-- The text of a property, the empty text counting as absent. -/
def nonEmpty? (reader : PropertyReader) (suffix : String) : Except Failure (Option String) :=
  (reader.string? suffix).map (·.filter (· ≠ ""))

/-- The service URLs of a zone, else those of the zone `default`, else none. -/
def serviceUrls (reader : PropertyReader) (zone : String) : Except Failure (List String) := do
  match ← reader.nonEmpty? ("serviceUrl." ++ zone) with
  | some urls => return Text.CommaList.split urls
  | none =>
      let urls ← reader.string? "serviceUrl.default"
      return (urls.map Text.CommaList.split).getD []

end PropertyReader

end DiscoveryClient
