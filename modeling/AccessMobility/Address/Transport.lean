import AccessMobility.Address.IPv6
import AccessMobility.BitString

/-!
# Transport layer addresses

A transport layer address is a bit string of 32 bits for an IPv4 address, 128 bits for an IPv6
address, or 160 bits for an IPv4 address followed by an IPv6 address.  Octets beyond the announced
length are ignored; every other bit string holds no address.
-/

namespace AccessMobility

/-- The texts of the addresses a bit string holds. -/
structure TransportAddress where
  ipv4 : Option String
  ipv6 : Option String
  deriving DecidableEq, Inhabited

namespace TransportAddress

/-- Whether a bit string has one of the three layouts with enough octets for it. -/
def Supported (bits : BitString) : Prop :=
  bits.bitLength = 32 ∧ 4 ≤ bits.octets.length ∨
  bits.bitLength = 128 ∧ 16 ≤ bits.octets.length ∨
  bits.bitLength = 160 ∧ 20 ≤ bits.octets.length

instance (bits : BitString) : Decidable (Supported bits) :=
  inferInstanceAs (Decidable (_ ∨ _ ∨ _))

def ofBitString (bits : BitString) : TransportAddress :=
  if Supported bits then
    if bits.bitLength = 32 then
      { ipv4 := some (IPv4.text (bits.octets.take 4)), ipv6 := none }
    else if bits.bitLength = 128 then
      { ipv4 := none, ipv6 := some (IPv6.text (bits.octets.take 16)) }
    else
      { ipv4 := some (IPv4.text (bits.octets.take 4)),
        ipv6 := some (IPv6.text ((bits.octets.drop 4).take 16)) }
  else
    { ipv4 := none, ipv6 := none }

end TransportAddress

/-- A number of two octets; any other octet string holds none. -/
def PortNumber.ofOctets? : List UInt8 → Option UInt16
  | [high, low] => some (UInt16.ofNat (256 * high.toNat + low.toNat))
  | _ => none

end AccessMobility
