import DiscoveryClient.Failure
import DiscoveryClient.Path

/-!
# Paths as written

A system follows a path as it is written: a single dot is a name like others,
and a slash at the end asks for a directory.  What stands in front of the last
slash is the path of the directory above, again as it is written.
-/

namespace DiscoveryClient

/-- A written path, ready to be followed name by name. -/
structure Route where
  isAbsolute : Bool
  names : List String
  /-- Does the path end in a slash? -/
  isClosed : Bool
  deriving DecidableEq, Repr, Inhabited

namespace Route

/-- Longest path in bytes. -/
def maxBytes : Nat := 4095

/-- The route of a text, unless no system takes the text as a path. -/
def ofText (text : String) : Except FileFault Route :=
  let chars := text.toList
  if chars.contains '\x00' then .error .embeddedNull
  else if chars.isEmpty then .error .missing
  else if maxBytes < text.utf8ByteSize then .error .nameTooLong
  else .ok {
    isAbsolute := chars.head? = some '/'
    names := ((Path.splitSlashes chars).filter fun name => !name.isEmpty).map String.ofList
    isClosed := chars.getLast? = some '/' }

end Route

namespace WrittenPath

/-- The part in front of the last name, without the slashes at its end unless it
has nothing else, and the last name. -/
def splitLast (path : List Char) : List Char × List Char :=
  let above := path.reverse.dropWhile (· ≠ '/')
  let stripped := above.dropWhile (· = '/')
  ((if stripped.isEmpty then above else stripped).reverse,
    (path.reverse.takeWhile (· ≠ '/')).reverse)

/-- The same with a slash at the end overlooked. -/
def splitName (path : List Char) : List Char × List Char :=
  let (above, name) := splitLast path
  if name.isEmpty then splitLast above else (above, name)

end WrittenPath

end DiscoveryClient
