import DiscoveryClient.Path.Written

/-!
# File trees

A file tree holds the files and directories around one working directory.  A
path is followed name by name through existing directories, so a dot behind a
name that is no directory leads nowhere.  The directories above the working
directory and the root exist, and hold nothing else.

Names are limited to 255 bytes.  A name is measured only when it is looked up,
so behind a missing directory it may be of any length.

A file may be sealed: it is there, and the system does not let it be read.

Writing a file first creates the directories above it.  Those stay even if the
file cannot be written in the end.
-/

namespace DiscoveryClient

/-- The directories that exist from the beginning. -/
inductive Origin where
  /-- The working directory, or the directory so many levels above it. -/
  | working (levels : Nat)
  | root
  deriving DecidableEq, Repr, Inhabited

structure Location where
  origin : Origin
  /-- The names that lead to it from the origin, each behind a slash. -/
  below : String := ""
  deriving DecidableEq, Repr, Inhabited

namespace Location

def maxNameBytes : Nat := 255

def isOrigin (location : Location) : Bool :=
  location.below = ""

/-- The directory above; the root is above itself. -/
def parent (location : Location) : Location :=
  if location.isOrigin then
    match location.origin with
    | .working levels => ⟨.working (levels + 1), ""⟩
    | .root => location
  else
    let above := (location.below.toList.reverse.dropWhile (· ≠ '/')).drop 1
    { location with below := String.ofList above.reverse }

/-- The last of the names that lead to the location; an origin has none. -/
def name (location : Location) : String :=
  String.ofList (location.below.toList.reverse.takeWhile (· ≠ '/')).reverse

def child (location : Location) (name : String) : Except FileFault Location :=
  if maxNameBytes < name.utf8ByteSize then .error .nameTooLong
  else .ok { location with below := location.below ++ "/" ++ name }

def start (route : Route) : Location :=
  { origin := if route.isAbsolute then .root else .working 0 }

end Location

/-- What a system says when it does not let a file be read. -/
structure SystemReport where
  kind : String
  message : String
  deriving DecidableEq, Repr

def SystemReport.failure (report : SystemReport) : Failure :=
  .foreign report.kind (.text report.message)

inductive FileNode where
  | file (bytes : List UInt8)
  | sealed (report : SystemReport)
  | directory
  deriving DecidableEq, Repr

abbrev FileContent := Except SystemReport (List UInt8)

structure FileTree where
  nodes : List (Location × FileNode) := []
  deriving Inhabited

namespace FileTree

/-- The node at a location; origins are directories. -/
def node? (tree : FileTree) (location : Location) : Option FileNode :=
  if location.isOrigin then some .directory
  else (tree.nodes.find? fun node => node.1 = location).map Prod.snd

def isDots (name : String) : Bool :=
  name = "." || name = ".."

/-- One step along a path, which leads out of an existing directory. -/
def enter (tree : FileTree) (location : Location) (name : String) :
    Except FileFault Location :=
  match tree.node? location with
  | none => .error .missing
  | some (.file _) | some (.sealed _) => .error .notDirectory
  | some .directory =>
      if name = "." then .ok location
      else if name = ".." then .ok location.parent
      else location.child name

def follow (tree : FileTree) (location : Location) (names : List String) :
    Except FileFault Location :=
  names.foldlM tree.enter location

/-! ## Looking -/

def find (tree : FileTree) (path : String) : Except FileFault FileNode := do
  let route ← Route.ofText path
  match tree.node? (← tree.follow (.start route) route.names) with
  | none => .error .missing
  | some .directory => .ok .directory
  | some file => if route.isClosed then .error .notDirectory else .ok file

/-- Faults that only say that there is nothing at a path. -/
def isAbsence : FileFault → Bool
  | .missing | .notDirectory | .embeddedNull => true
  | _ => false

/-- The content of the file at a path; a directory is no file. -/
def readBytes (tree : FileTree) (path : Path) : Except FileFault (Option FileContent) :=
  match tree.find path.text with
  | .ok (.file bytes) => .ok (some (.ok bytes))
  | .ok (.sealed report) => .ok (some (.error report))
  | .ok .directory => .ok none
  | .error fault => if isAbsence fault then .ok none else .error fault

def contents? (tree : FileTree) (path : Path) : Option FileContent :=
  match tree.readBytes path with
  | .ok content => content
  | .error _ => none

def isDirectory (tree : FileTree) (path : Path) : Except FileFault Bool :=
  match tree.find path.text with
  | .ok node => .ok (node = .directory)
  | .error fault => if isAbsence fault then .ok false else .error fault

/-- The names in a directory, the last one made first. -/
def namesIn (tree : FileTree) (path : Path) : List String :=
  match (Route.ofText path.text).bind fun route => tree.follow (.start route) route.names with
  | .error _ => []
  | .ok directory =>
      (tree.nodes.filter fun node => !node.1.isOrigin && node.1.parent = directory).map
        fun node => node.1.name

/-! ## Single changes -/

def without (tree : FileTree) (location : Location) : FileTree :=
  { nodes := tree.nodes.filter fun node => node.1 ≠ location }

def put (tree : FileTree) (location : Location) (node : FileNode) : FileTree :=
  { nodes := (location, node) :: (tree.without location).nodes }

theorem node?_put_self {location : Location} (named : location.isOrigin = false)
    (tree : FileTree) (node : FileNode) : (tree.put location node).node? location = some node := by
  simp [node?, put, named]

theorem node?_without_of_ne {location other : Location} (distinct : other ≠ location)
    (tree : FileTree) : (tree.without location).node? other = tree.node? other := by
  have same : (fun node : Location × FileNode =>
      decide (decide (node.1 ≠ location) = true ∧ decide (node.1 = other) = true)) =
      fun node => decide (node.1 = other) := by
    funext node
    by_cases equal : node.1 = other <;> simp [equal, distinct]
  simp only [node?, without, List.find?_filter, same]

theorem node?_put_of_ne {location other : Location} (distinct : other ≠ location)
    (tree : FileTree) (node : FileNode) :
    (tree.put location node).node? other = tree.node? other := by
  rw [← node?_without_of_ne distinct tree]
  simp [node?, put, Ne.symm distinct]

/-- A route with the directory that its last name is looked up in, and that name
unless the route ends in dots or is the root alone. -/
def approach (tree : FileTree) (path : String) :
    Except FileFault (Route × Location × Option String) := do
  let route ← Route.ofText path
  let above ← tree.follow (.start route) route.names.dropLast
  let directory ← tree.enter above "."
  .ok (route, directory, route.names.getLast?.filter fun name => !isDots name)

def makeOne (tree : FileTree) (path : String) : Except FileFault FileTree := do
  match ← tree.approach path with
  | (_, _, none) => .error .taken
  | (_, above, some name) =>
      let location ← above.child name
      if (tree.node? location).isSome then .error .taken
      else .ok (tree.put location .directory)

/-- Write a file in an existing directory.  A sealed one stays sealed. -/
def writeOne (tree : FileTree) (path : String) (bytes : List UInt8) :
    Except FileFault FileTree := do
  match ← tree.approach path with
  | (_, _, none) => .error .isDirectory
  | (route, above, some name) =>
      if route.isClosed then .error .isDirectory
      else
        let location ← above.child name
        match tree.node? location with
        | some .directory => .error .isDirectory
        | some (.sealed _) => .ok tree
        | _ => .ok (tree.put location (.file bytes))

/-- Take a file away. -/
def removeOne (tree : FileTree) (path : String) : Except FileFault FileTree := do
  match ← tree.approach path with
  | (_, _, none) => .error .isDirectory
  | (route, above, some name) =>
      let location ← above.child name
      match tree.node? location with
      | none => .error .missing
      | some .directory => .error .isDirectory
      | some _ =>
          if route.isClosed then .error .notDirectory else .ok (tree.without location)

/-! ## Changes -/

/-- What a change leaves, and what kept it from being complete. -/
abbrev Changed := FileTree × Option Failure

/-- The change by one step, which leaves the tree as it was when it fails. -/
def changed (tree : FileTree) (path : String) : Except FileFault FileTree → Changed
  | .ok tree => (tree, none)
  | .error fault => (tree, some (.file fault path))

/-- Create a directory, which may be there already if the caller says so. -/
def ensureOne (mayExist : Bool) (tree : FileTree) (path : String) : Changed :=
  match tree.makeOne path with
  | .ok tree => (tree, none)
  | .error fault =>
      match mayExist, tree.find path with
      | true, .ok .directory => (tree, none)
      | _, _ => tree.changed path (.error fault)

/-- How many directories are created one inside the other, at most. -/
def maxDepth : Nat := 988

/-- A path with more missing directories than are created for it. -/
def tooDeep : Failure :=
  .foreign "RecursionError" (.text "maximum recursion depth exceeded")

/-- Directories on the way that are there already are no failure. -/
def unlessTaken : Option Failure → Option Failure
  | some (.file .taken _) => none
  | failure => failure

/-- Create a directory, and before it those above that are missing, as many as a
depth allows.  A dot behind a missing directory needs nothing of its own. -/
def makeAlong (mayExist : Bool) : (depth : Nat) → FileTree → (path : List Char) → Changed
  | 0, tree, _ => (tree, some tooDeep)
  | depth + 1, tree, path =>
      let (above, name) := WrittenPath.splitName path
      let path := String.ofList path
      if name.isEmpty || above.isEmpty || (tree.find (String.ofList above)).isOk then
        ensureOne mayExist tree path
      else
        let (tree, failure) := makeAlong mayExist depth tree above
        match unlessTaken failure with
        | some failure => (tree, some failure)
        | none => if name = ['.'] then (tree, none) else ensureOne mayExist tree path

def makeDirectory (tree : FileTree) (path : String) : Changed :=
  makeAlong false maxDepth tree path.toList

def saveBytes (tree : FileTree) (path : String) (bytes : List UInt8) : Changed :=
  let above := (WrittenPath.splitLast path.toList).1
  match if above.isEmpty then (tree, none) else makeAlong true maxDepth tree above with
  | (tree, some failure) => (tree, some failure)
  | (tree, none) => tree.changed path (tree.writeOne path bytes)

/-- Take a file away. -/
def delete (tree : FileTree) (path : String) : Changed :=
  tree.changed path (tree.removeOne path)

end FileTree

end DiscoveryClient
