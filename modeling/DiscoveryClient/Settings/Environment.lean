import DiscoveryClient.Failure

/-!
# Environment variables

A process holds variables by name.  Systems keep a variable as one text, the
name and the value with an equals sign between them and a null character at the
end, so not every name and value can be held.
-/

namespace DiscoveryClient.Environment

/-- Why a variable cannot be held, if it cannot. -/
def refusal? (name : String) (value : Value) : Option Failure :=
  match value with
  | .text value =>
      if name.toList.contains '\x00' || value.toList.contains '\x00' then
        some (.refusedValue FileFault.embeddedNull.reason)
      else if name.toList.contains '=' then
        some (.refusedValue "illegal environment variable name")
      else if name = "" then some (.foreign "OSError" (.text "[Errno 22] Invalid argument"))
      else none
  | _ => some .wrongType

/-- Set variables one after another, up to the first that is refused. -/
def set (environment : Mapping String) : List (String × Value) → Mapping String × Option Failure
  | [] => (environment, none)
  | (name, value) :: rest =>
      match refusal? name value with
      | some failure => (environment, some failure)
      | none => set (environment.insert name value.display) rest

end DiscoveryClient.Environment
