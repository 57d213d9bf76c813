/-!
# Hexadecimal text of octets

Every octet is written as two lowercase digits, high nibble first.  Reading takes digits of either
case and refuses an odd count.
-/

namespace AccessMobility.Hex

/-- The lowercase digit of a nibble. -/
def digit (nibble : Nat) : Char :=
  if nibble < 10 then Char.ofNat (48 + nibble) else Char.ofNat (87 + nibble)

/-- The value of a digit of either case. -/
def value? (c : Char) : Option Nat :=
  if '0' ≤ c ∧ c ≤ '9' then some (c.toNat - 48)
  else if 'a' ≤ c ∧ c ≤ 'f' then some (c.toNat - 87)
  else if 'A' ≤ c ∧ c ≤ 'F' then some (c.toNat - 55)
  else none

def highNibble (octet : UInt8) : Nat :=
  octet.toNat / 16

def lowNibble (octet : UInt8) : Nat :=
  octet.toNat % 16

/-- The digits of an octet string. -/
def digits : List UInt8 → List Char
  | [] => []
  | octet :: rest => digit (highNibble octet) :: digit (lowNibble octet) :: digits rest

def encode (octets : List UInt8) : String :=
  String.ofList (digits octets)

/-- The octets written by a list of digits. -/
def octets? : List Char → Option (List UInt8)
  | [] => some []
  | [_] => none
  | high :: low :: rest => do
    let high ← value? high
    let low ← value? low
    let octets ← octets? rest
    return UInt8.ofNat (16 * high + low) :: octets

def decode? (text : String) : Option (List UInt8) :=
  octets? text.toList

theorem length_digits (octets : List UInt8) : (digits octets).length = 2 * octets.length := by
  induction octets with
  | nil => rfl
  | cons octet rest ih => simp only [digits, List.length_cons, ih]; omega

theorem value?_digit {nibble : Nat} (h : nibble < 16) : value? (digit nibble) = some nibble := by
  have cases : ∀ n : Fin 16, value? (digit n.val) = some n.val := by decide
  exact cases ⟨nibble, h⟩

theorem octets?_digits (octets : List UInt8) : octets? (digits octets) = some octets := by
  induction octets with
  | nil => rfl
  | cons octet rest ih =>
    have hhigh : highNibble octet < 16 := by
      have := octet.toNat_lt; simp only [highNibble]; omega
    have hlow : lowNibble octet < 16 := Nat.mod_lt _ (by decide)
    have hoctet : UInt8.ofNat (16 * highNibble octet + lowNibble octet) = octet := by
      rw [highNibble, lowNibble, Nat.div_add_mod]
      exact UInt8.ofNat_toNat
    simp only [digits, octets?, value?_digit hhigh, value?_digit hlow, ih, Option.bind_eq_bind,
      Option.bind_some, hoctet]
    rfl

/-- The digits of a number at a fixed width, high digits first. -/
def fixed (width : Nat) (n : Nat) : List Char :=
  match width with
  | 0 => []
  | width + 1 => fixed width (n / 16) ++ [digit (n % 16)]

@[simp] theorem length_fixed (width n : Nat) : (fixed width n).length = width := by
  induction width generalizing n with
  | zero => rfl
  | succ width ih => simp [fixed, ih]

theorem digit_injective {left right : Nat} (hleft : left < 16) (hright : right < 16)
    (heq : digit left = digit right) : left = right := by
  have hvalue := value?_digit hleft
  rw [heq, value?_digit hright, Option.some.injEq] at hvalue
  exact hvalue.symm

/-- Numbers that fit into a width have different digits. -/
theorem fixed_injective {width left right : Nat} (hleft : left < Nat.pow 16 width)
    (hright : right < Nat.pow 16 width) (heq : fixed width left = fixed width right) :
    left = right := by
  induction width generalizing left right with
  | zero => exact (Nat.lt_one_iff.mp hleft).trans (Nat.lt_one_iff.mp hright).symm
  | succ width ih =>
    have hpow : Nat.pow 16 (width + 1) = Nat.pow 16 width * 16 := rfl
    rw [hpow] at hleft hright
    obtain ⟨hhigh, hlow⟩ := List.append_inj heq (by rw [length_fixed, length_fixed])
    have hquotient := ih (by omega) (by omega) hhigh
    have hremainder := digit_injective (Nat.mod_lt _ (by decide)) (Nat.mod_lt _ (by decide))
      (List.head_eq_of_cons_eq hlow)
    omega

end AccessMobility.Hex
