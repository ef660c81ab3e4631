import DiscoveryClient.Path
import DiscoveryClient.Text.Utf8

/-!
# Reported paths

A system reports the path of a change as text or as the bytes of one.  Of either
only the last name counts.
-/

namespace DiscoveryClient

inductive ReportedPath where
  | text (path : String)
  | bytes (path : List UInt8)
  deriving DecidableEq, Repr

namespace ReportedPath

/-- No path at all. -/
def empty : ReportedPath := .text ""

/-- Names between slashes; empty names and single dots say nothing. -/
def byteNames (path : List UInt8) : List (List UInt8) :=
  (Path.splitBy (· = 0x2f) path).filter fun name => name ≠ [] && name ≠ [0x2e]

/-- The last name.  Bytes that are not text are the name of nothing that a text names. -/
def lastName? : ReportedPath → Option String
  | .text path => (Path.ofText path).baseName?
  | .bytes path =>
      (byteNames path).getLast?.bind fun name =>
        (Text.Utf8.decode name).toOption.map String.ofList

end ReportedPath

end DiscoveryClient
