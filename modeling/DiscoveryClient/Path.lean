/-!
# Paths

A path is a root, if it is absolute, and a list of names.  Empty names and
single dots say nothing and are dropped; double dots are kept, since what they
lead to depends on the directories that exist.  Just two slashes at the
beginning are a root of their own, any other number of them is one.
-/

namespace DiscoveryClient

/-- What stands in front of the names. -/
inductive PathRoot where
  | none
  | slash
  | doubleSlash
  deriving DecidableEq, Repr, Inhabited

namespace PathRoot

def text : PathRoot → String
  | .none => ""
  | .slash => "/"
  | .doubleSlash => "//"

/-- The root of a text. -/
def ofText : List Char → PathRoot
  | '/' :: '/' :: '/' :: _ => .slash
  | '/' :: '/' :: _ => .doubleSlash
  | '/' :: _ => .slash
  | _ => .none

end PathRoot

structure Path where
  root : PathRoot
  names : List String
  deriving DecidableEq, Repr, Inhabited

namespace Path

/-- The names between the elements that are slashes. -/
def splitBy {α : Type} (isSlash : α → Bool) : List α → List (List α)
  | [] => [[]]
  | c :: rest =>
      if isSlash c then [] :: splitBy isSlash rest
      else match splitBy isSlash rest with
        | [] => [[c]]
        | name :: names => (c :: name) :: names

/-- Split a text at its slashes. -/
def splitSlashes : List Char → List (List Char) :=
  splitBy (· = '/')

def isNamed (name : String) : Bool :=
  name ≠ "" && name ≠ "."

def ofText (text : String) : Path where
  root := .ofText text.toList
  names := ((splitSlashes text.toList).map String.ofList).filter isNamed

def isAbsolute (path : Path) : Bool :=
  path.root ≠ .none

/-- The text of a path; a path without names and root is the current directory. -/
def text (path : Path) : String :=
  if path.names.isEmpty && !path.isAbsolute then "."
  else path.root.text ++ "/".intercalate path.names

/-- The second path as seen from the first. -/
def join (base path : Path) : Path :=
  if path.isAbsolute then path else { base with names := base.names ++ path.names }

def parent (path : Path) : Path :=
  { path with names := path.names.dropLast }

/-- The last name, if there is one. -/
def baseName? (path : Path) : Option String :=
  path.names.getLast?

end Path

end DiscoveryClient
