import DiscoveryClient.Failure
import DiscoveryClient.Path
import DiscoveryClient.Text.Blank

/-!
# Home directories

A relative path whose first name begins with a tilde begins at a home directory:
that of the user whose name follows, or else that of the process, which an
environment variable tells.
-/

namespace DiscoveryClient.Path

/-- The environment variable with the home directory of the process. -/
def homeName : String := "HOME"

/-- The home directories of the accounts that every system has. -/
def accountHomes : List (String × String) :=
  [ ("root", "/root"), ("daemon", "/usr/sbin"), ("bin", "/bin"), ("sys", "/dev"),
    ("sync", "/bin"), ("games", "/usr/games"), ("man", "/var/cache/man"),
    ("lp", "/var/spool/lpd"), ("mail", "/var/mail"), ("news", "/var/spool/news"),
    ("uucp", "/var/spool/uucp"), ("proxy", "/bin"), ("www-data", "/var/www"),
    ("backup", "/var/backups"), ("list", "/var/list"), ("irc", "/run/ircd"),
    ("_apt", "/nonexistent"), ("nobody", "/nonexistent") ]

/-- The failure of a path that begins at no home directory. -/
def homeless : Failure :=
  .foreign "RuntimeError" (.text "Could not determine home directory.")

/-- The home directory of a user, or of the process for an empty name, as written. -/
def home? (environment : Mapping String) (user : String) : Option String :=
  if user = "" then some ((environment.get? homeName).getD "/root")
  else accountHomes.lookup user

/-- A path with a home directory in the place of its tilde.  A home directory that
itself begins with a tilde is none. -/
def expandHome (environment : Mapping String) (path : Path) : Except Failure Path :=
  match path.root, path.names.map String.toList with
  | .none, ('~' :: user) :: _ =>
      if user.contains '\x00' then .error (.refusedValue FileFault.embeddedNull.reason)
      else
        match (home? environment (String.ofList user)).map String.toList with
        | none | some ('~' :: _) => .error homeless
        | some home =>
            let base := Text.trimEndBy (· = '/') home
            let base := if base.isEmpty then "/" else String.ofList base
            .ok ((ofText base).join { root := .none, names := path.names.drop 1 })
  | _, _ => .ok path

end DiscoveryClient.Path
