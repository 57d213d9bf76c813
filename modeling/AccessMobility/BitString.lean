import AccessMobility.Text.Hex

/-!
# Bit strings

A bit string announces its length apart from its octets, and neither is trusted to fit the other.
-/

namespace AccessMobility

structure BitString where
  octets : List UInt8
  bitLength : UInt64
  deriving DecidableEq, Inhabited

namespace BitString

/-- The number of nibbles that the announced length touches. -/
def nibbles (bits : BitString) : Nat :=
  (bits.bitLength.toNat + 3) / 4

/-- The hexadecimal digits of the covered nibbles that were sent. -/
def hex (bits : BitString) : String :=
  String.ofList ((Hex.digits bits.octets).take bits.nibbles)

end BitString

end AccessMobility
