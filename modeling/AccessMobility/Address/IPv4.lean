/-!
# IPv4 addresses as text

An address is written in dotted decimal form, without leading zeros.
-/

namespace AccessMobility.IPv4

/-- Dotted decimal text of the octets of an address. -/
def text (octets : List UInt8) : String :=
  ".".intercalate (octets.map fun octet => toString octet.toNat)

end AccessMobility.IPv4
