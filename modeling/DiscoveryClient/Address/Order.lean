import DiscoveryClient.Address.Resolution
import DiscoveryClient.Properties.Reader

/-!
# Address orders

The orders of metadata fields from which an instance takes its host name and
its address.  A property that is absent or empty leaves the built-in order.
-/

namespace DiscoveryClient.Address

/-- The order that a property sets, or else the built-in one. -/
def orderOr (reader : PropertyReader) (suffix : String) (builtIn : List String) :
    Except Failure (List String) :=
  (reader.nonEmpty? suffix).map fun tokens =>
    (tokens.map Text.CommaList.split).getD builtIn

def hostOrder (reader : PropertyReader) : Except Failure (List String) :=
  orderOr reader "defaultAddressResolutionOrder" defaultHostOrder

def ipOrder (reader : PropertyReader) : Except Failure (List String) :=
  orderOr reader "ipAddressResolutionOrder" defaultIpOrder

end DiscoveryClient.Address
