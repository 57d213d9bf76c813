/-!
# Reading decimal numbers

A number is a run of ASCII digits after an optional sign; leading zeros are allowed.
-/

namespace AccessMobility.Decimal

def value (digits : List Char) : Nat :=
  digits.foldl (fun value c => 10 * value + (c.toNat - 48)) 0

def natural? (digits : List Char) : Option Nat :=
  if digits.isEmpty || !digits.all Char.isDigit then none else some (value digits)

def integer? (text : String) : Option Int :=
  match text.toList with
  | '+' :: digits => (natural? digits).map fun n => (n : Int)
  | '-' :: digits => (natural? digits).map fun n => -(n : Int)
  | digits => (natural? digits).map fun n => (n : Int)

/-- A number of 64 bits with sign. -/
def int64? (text : String) : Option Int :=
  (integer? text).filter fun i => -9223372036854775808 ≤ i ∧ i ≤ 9223372036854775807

end AccessMobility.Decimal
