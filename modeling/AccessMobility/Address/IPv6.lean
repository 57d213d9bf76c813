import AccessMobility.Address.IPv4
import AccessMobility.Text.Hex

/-!
# IPv6 addresses as text

The canonical text of an address writes its eight groups without leading zeros and replaces the
longest run of two or more zero groups by `::`, the leftmost such run where several are longest.
An IPv4-mapped address ends in dotted decimal text.
-/

namespace AccessMobility.IPv6

/-- The 16-bit groups of an octet string; a single octet at the end is dropped. -/
def groups : List UInt8 → List Nat
  | high :: low :: rest => (256 * high.toNat + low.toNat) :: groups rest
  | _ => []

/-- Hexadecimal digits of a number without leading zeros. -/
def groupDigits (group : Nat) : List Char :=
  match (Hex.fixed 4 group).dropWhile (· = '0') with
  | [] => ['0']
  | digits => digits

def groupText (group : Nat) : String :=
  String.ofList (groupDigits group)

def joined (groups : List Nat) : String :=
  ":".intercalate (groups.map groupText)

/-- The number of zero groups at the front. -/
def leadingZeros (groups : List Nat) : Nat :=
  (groups.takeWhile (· = 0)).length

/-- Where the leftmost longest run of zero groups starts, and its length. -/
def longestZeroRun : List Nat → Nat × Nat
  | [] => (0, 0)
  | group :: rest =>
    let here := leadingZeros (group :: rest)
    let (start, length) := longestZeroRun rest
    if length ≤ here then (0, here) else (start + 1, length)

/-- The text of eight groups, none of them written as an IPv4 address. -/
def compressed (groups : List Nat) : String :=
  let (start, length) := longestZeroRun groups
  if 2 ≤ length then
    joined (groups.take start) ++ "::" ++ joined (groups.drop (start + length))
  else
    joined groups

/-- Text of the sixteen octets of an address. -/
def text (octets : List UInt8) : String :=
  let groups := groups octets
  if groups.take 6 = [0, 0, 0, 0, 0, 0xffff] then
    "::ffff:" ++ IPv4.text (octets.drop 12)
  else
    compressed groups

end AccessMobility.IPv6
