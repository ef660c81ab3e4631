import DiscoveryClient.Properties.Reader

/-!
# Reads depend on their keys alone

A read of a property is determined by the values under the keys that it names,
and so is what it logs.  Nothing else of a source can be seen through a reader.
-/

namespace DiscoveryClient.PropertyReader

open Log

/-- A read that a reader offers. -/
inductive Query where
  | as (kind : Kind) (suffix : String) (default : Value)
  /-- As the type of the default. -/
  | like (suffix : String) (default : Value)
  | orElse (suffix other : String) (default : Value)
  | region
  | zones (name : String)
  | urls (zone : String)

namespace Query

def answer (reader : PropertyReader) : Query → Logged (Except Failure Value)
  | .as kind suffix default => reader.getAs kind suffix default
  | .like suffix default => reader.getLike suffix default
  | .orElse suffix other default => pure (reader.getStringOrElse suffix other default)
  | .region => pure (reader.region.map .text)
  | .zones name => pure ((reader.availabilityZones name).map .texts)
  | .urls zone => pure ((reader.serviceUrls zone).map .texts)

/-- The last parts of the keys that are looked up under the scope. -/
def suffixes : Query → List String
  | .as _ suffix _ => [suffix]
  | .like suffix _ => [suffix]
  | .orElse suffix other _ => [suffix, other]
  | .region => ["region"]
  | .zones name => [name ++ ".availabilityZones"]
  | .urls zone => ["serviceUrl." ++ zone, "serviceUrl.default"]

/-- The keys that are looked up: those under the scope, and for a region the global one. -/
def keys (scope : String) (query : Query) : List String :=
  query.suffixes.map (scope ++ ·) ++
    match query with
    | .region => [globalRegionKey]
    | _ => []

end Query

variable {left right : PropertyReader} {suffix : String}

theorem given?_congr {key : String} (agree : left.source key = right.source key) :
    left.given? key = right.given? key := by
  rw [given?, given?, agree]

section

variable (scopes : left.scope = right.scope)

include scopes

theorem key_congr (suffix : String) : left.key suffix = right.key suffix := by
  rw [key, key, scopes]

variable (agree : left.source (right.key suffix) = right.source (right.key suffix))

include agree

theorem given?_key_congr : left.given? (left.key suffix) = right.given? (right.key suffix) := by
  rw [key_congr scopes]
  exact given?_congr agree

theorem string?_congr : left.string? suffix = right.string? suffix := by
  rw [string?, string?, text?, text?, given?_key_congr scopes agree]

theorem getString_congr (default : String) :
    left.getString suffix default = right.getString suffix default := by
  rw [getString, getString, string?_congr scopes agree]

theorem nonEmpty?_congr : left.nonEmpty? suffix = right.nonEmpty? suffix := by
  rw [nonEmpty?, nonEmpty?, string?_congr scopes agree]

theorem readInt_congr : left.readInt suffix = right.readInt suffix := by
  rw [readInt, readInt, given?_key_congr scopes agree]

theorem readBool_congr : left.readBool suffix = right.readBool suffix := by
  rw [readBool, readBool, given?_key_congr scopes agree]

theorem tokens?_congr : left.tokens? suffix = right.tokens? suffix := by
  rw [tokens?, tokens?, given?_key_congr scopes agree]

theorem getAs_congr (kind : Kind) (default : Value) :
    left.getAs kind suffix default = right.getAs kind suffix default := by
  cases kind with
  | string => simp only [getAs, string?_congr scopes agree]
  | int => simp only [getAs, readInt_congr scopes agree, key_congr scopes]
  | bool => simp only [getAs, readBool_congr scopes agree, key_congr scopes]
  | list => simp only [getAs, tokens?_congr scopes agree]

end

namespace Query

/-- Sources that agree on the keys of a read give the same answer and the same log. -/
theorem answer_congr (query : Query) (scopes : left.scope = right.scope)
    (agree : ∀ key ∈ query.keys right.scope.display, left.source key = right.source key) :
    query.answer left = query.answer right := by
  have agreeAt (suffix : String) (member : suffix ∈ query.suffixes) :
      left.source (right.key suffix) = right.source (right.key suffix) :=
    agree _ (List.mem_append_left _ (List.mem_map_of_mem member))
  cases query with
  | as kind suffix default =>
      exact getAs_congr scopes (agreeAt suffix (by simp [suffixes])) kind default
  | like suffix default =>
      exact getAs_congr scopes (agreeAt suffix (by simp [suffixes])) (.ofDefault default) default
  | orElse suffix other default =>
      have first := string?_congr scopes (agreeAt suffix (by simp [suffixes]))
      have second := string?_congr scopes (agreeAt other (by simp [suffixes]))
      simp only [answer, getStringOrElse, stringOrElse?, first, second]
  | region =>
      have global : left.text? globalRegionKey = right.text? globalRegionKey := by
        rw [text?, text?, given?_congr (agree globalRegionKey (by simp [keys]))]
      have own := getString_congr scopes (agreeAt "region" (by simp [suffixes]))
      simp only [answer, PropertyReader.region, global, own]
  | zones name =>
      have own := getString_congr scopes (agreeAt (name ++ ".availabilityZones")
        (by simp [suffixes]))
      simp only [answer, availabilityZones, own]
  | urls zone =>
      have first := nonEmpty?_congr scopes (agreeAt ("serviceUrl." ++ zone) (by simp [suffixes]))
      have second := string?_congr scopes (agreeAt "serviceUrl.default" (by simp [suffixes]))
      simp only [answer, serviceUrls, first, second]

end Query

end DiscoveryClient.PropertyReader
