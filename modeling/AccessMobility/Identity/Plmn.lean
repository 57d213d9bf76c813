import AccessMobility.Text.Hex

/-!
# PLMN identities

A PLMN identity is carried over the radio interface as three octets holding swapped digit pairs,
with a filler nibble in front of a two-digit network code.  Decoding never fails: missing octets
read as zeros, further octets are ignored, and nibbles above nine show as letters.
-/

namespace AccessMobility

/-- A mobile country code and a mobile network code, as text. -/
structure PlmnId where
  mcc : String
  mnc : String
  deriving DecidableEq, Inhabited

namespace PlmnId

/-- Country code and network code in one text. -/
def text (plmn : PlmnId) : String :=
  plmn.mcc ++ plmn.mnc

/-- The nibble in the first network digit of a two-digit network code. -/
def filler : Nat := 15

/-- The identity carried by an octet string. -/
def ofOctets (octets : List UInt8) : PlmnId :=
  let first := octets.getD 0 0
  let second := octets.getD 1 0
  let third := octets.getD 2 0
  let mcc := [Hex.lowNibble first, Hex.highNibble first, Hex.lowNibble second]
  let mnc :=
    if Hex.highNibble second = filler then
      [Hex.lowNibble third, Hex.highNibble third]
    else
      [Hex.highNibble second, Hex.lowNibble third, Hex.highNibble third]
  { mcc := String.ofList (mcc.map Hex.digit), mnc := String.ofList (mnc.map Hex.digit) }

/-- Whether decoding supplies octets that were not sent. -/
def padded (octets : List UInt8) : Bool :=
  octets.length < 3

def digitValue (c : Char) : Nat :=
  c.toNat - 48

/-- An octet of a high and a low nibble. -/
def pack (high low : Nat) : UInt8 :=
  UInt8.ofNat (16 * high + low)

/-- The three octets of an identity whose codes have three, and two or three, decimal digits. -/
def coding (plmn : PlmnId) : List UInt8 :=
  match plmn.mcc.toList.map digitValue, plmn.mnc.toList.map digitValue with
  | [mcc1, mcc2, mcc3], [mnc1, mnc2] => [pack mcc2 mcc1, pack filler mcc3, pack mnc2 mnc1]
  | [mcc1, mcc2, mcc3], [mnc1, mnc2, mnc3] => [pack mcc2 mcc1, pack mnc1 mcc3, pack mnc3 mnc2]
  | _, _ => []

/-- An ASCII digit string. -/
def AllDigits (text : String) : Prop :=
  ∀ c ∈ text.toList, c.isDigit = true

instance (text : String) : Decidable (AllDigits text) :=
  List.decidableBAll (fun c : Char => c.isDigit = true) text.toList

end PlmnId

end AccessMobility
