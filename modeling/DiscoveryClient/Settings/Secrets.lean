import DiscoveryClient.FileTree
import DiscoveryClient.Properties.Binding
import DiscoveryClient.Settings.Options
import DiscoveryClient.Text.Utf8

/-!
# Secrets

A secret is a file whose name is that of a variable and whose text, without the
blanks at both ends, is the value of a field.  Secrets lie in directories, of
which a later one overrides an earlier one.  A directory that does not exist has
none, but a file in the place of a directory is a failure.
-/

namespace DiscoveryClient.Secrets

def noDirectory : Failure :=
  .foreign "SettingsError" (.text "secrets_dir must reference a directory, not a file")

/-- Those of the paths that exist, if all of them are directories. -/
def directories (tree : FileTree) (paths : List Path) : Except Failure (List Path) := do
  let present ← paths.filterMapM fun path =>
    match tree.find path.text with
    | .ok node => .ok (some (path, node))
    | .error fault =>
        if FileTree.isAbsence fault then .ok none else .error (.file fault path.text)
  if present.all fun entry => entry.2 = .directory then .ok (present.map Prod.fst)
  else .error noDirectory

def value? : FileContent → Option String
  | .ok bytes =>
      (Text.Utf8.decode bytes).toOption.map fun text =>
        String.ofList (Text.trim (PropertyText.unifyNewlines text))
  | .error _ => none

/-- The content of the secret of a field in a directory.  The first name counts of
those that differ in letter case alone, even if it is the name of no file. -/
def contentIn? (tree : FileTree) (options : SettingOptions) (field : SettingField)
    (directory : Path) : Option FileContent :=
  ((tree.namesIn directory).find? (options.names field)).bind fun name =>
    tree.contents? { directory with names := directory.names ++ [name] }

/-- The secret of a field in the last directory that has one. -/
def find (tree : FileTree) (options : SettingOptions) (directories : List Path)
    (field : SettingField) : Except Failure (Option (SettingField × String)) :=
  match directories.reverse.findSome? (contentIn? tree options field) with
  | none => .ok none
  | some content =>
      match value? content with
      | some text => .ok (some (field, text))
      | none => .error (SettingOptions.noValue field "SecretsSettingsSource")

def all (tree : FileTree) (options : SettingOptions) (paths : List Path) :
    Except Failure (List (SettingField × String)) := do
  let directories ← directories tree paths
  SettingField.all.filterMapM (find tree options directories)

end DiscoveryClient.Secrets
