import AccessMobility.Proofs.AddressText
import AccessMobility.Proofs.ReportDecoding

/-!
# Transport layer addresses are determined by their texts

A bit string holds an IPv4 address, an IPv6 address or both, by its announced length, if enough
octets were sent; no other bit string holds any.  Which of the two texts are there tells the three
layouts apart, and the texts give back the octets of the addresses, so that nothing else of a bit
string has an influence on what is stored of it.
-/

namespace AccessMobility

namespace TransportAddress

section

variable {bits : BitString}

theorem ofBitString_of_short (hbits : bits.bitLength = 32) (hlength : 4 ≤ bits.octets.length) :
    ofBitString bits = { ipv4 := some (IPv4.text (bits.octets.take 4)), ipv6 := none } := by
  have hsupported : Supported bits := Or.inl ⟨hbits, hlength⟩
  rw [ofBitString, if_pos hsupported, if_pos hbits]

theorem ofBitString_of_long (hbits : bits.bitLength = 128) (hlength : 16 ≤ bits.octets.length) :
    ofBitString bits = { ipv4 := none, ipv6 := some (IPv6.text (bits.octets.take 16)) } := by
  have hsupported : Supported bits := Or.inr (Or.inl ⟨hbits, hlength⟩)
  have hshort : bits.bitLength ≠ 32 := by
    rw [hbits]
    decide
  rw [ofBitString, if_pos hsupported, if_neg hshort, if_pos hbits]

theorem ofBitString_of_both (hbits : bits.bitLength = 160) (hlength : 20 ≤ bits.octets.length) :
    ofBitString bits =
      { ipv4 := some (IPv4.text (bits.octets.take 4))
        ipv6 := some (IPv6.text ((bits.octets.drop 4).take 16)) } := by
  have hsupported : Supported bits := Or.inr (Or.inr ⟨hbits, hlength⟩)
  have hshort : bits.bitLength ≠ 32 := by
    rw [hbits]
    decide
  have hlong : bits.bitLength ≠ 128 := by
    rw [hbits]
    decide
  rw [ofBitString, if_pos hsupported, if_neg hshort, if_neg hlong]

theorem ofBitString_of_unsupported (hnot : ¬ Supported bits) :
    ofBitString bits = { ipv4 := none, ipv6 := none } :=
  if_neg hnot

end

theorem isSome_ofBitString_iff (bits : BitString) :
    ((ofBitString bits).ipv4.isSome ↔
      (bits.bitLength = 32 ∧ 4 ≤ bits.octets.length) ∨
        (bits.bitLength = 160 ∧ 20 ≤ bits.octets.length)) ∧
    ((ofBitString bits).ipv6.isSome ↔
      (bits.bitLength = 128 ∧ 16 ≤ bits.octets.length) ∨
        (bits.bitLength = 160 ∧ 20 ≤ bits.octets.length)) := by
  by_cases hsupported : Supported bits
  · obtain ⟨hbits, hlength⟩ | ⟨hbits, hlength⟩ | ⟨hbits, hlength⟩ := hsupported
    · rw [ofBitString_of_short hbits hlength]
      simp [hbits, hlength]
    · rw [ofBitString_of_long hbits hlength]
      simp [hbits, hlength]
    · rw [ofBitString_of_both hbits hlength]
      simp [hbits, hlength]
  · rw [ofBitString_of_unsupported hsupported]
    rw [Supported, not_or, not_or] at hsupported
    obtain ⟨hshort, hlong, hboth⟩ := hsupported
    simp [hshort, hlong, hboth]

/-- All octets within the announced length were sent. -/
theorem Supported.octets_le_length {bits : BitString} (hsupported : Supported bits) :
    bits.bitLength.toNat / 8 ≤ bits.octets.length := by
  obtain ⟨hbits, hlength⟩ | ⟨hbits, hlength⟩ | ⟨hbits, hlength⟩ := hsupported
  · rw [hbits]
    exact hlength
  · rw [hbits]
    exact hlength
  · rw [hbits]
    exact hlength

theorem text_take_four {left right : List UInt8} (hleft : 4 ≤ left.length)
    (hright : 4 ≤ right.length) :
    IPv4.text (left.take 4) = IPv4.text (right.take 4) ↔ left.take 4 = right.take 4 := by
  have hne {octets : List UInt8} (hlength : 4 ≤ octets.length) : octets.take 4 ≠ [] :=
    List.ne_nil_of_length_pos (by rw [List.length_take_of_le hlength]; decide)
  exact ⟨IPv4.text_injective (hne hleft) (hne hright), congrArg IPv4.text⟩

theorem text_take_sixteen {left right : List UInt8} (hleft : 16 ≤ left.length)
    (hright : 16 ≤ right.length) :
    IPv6.text (left.take 16) = IPv6.text (right.take 16) ↔ left.take 16 = right.take 16 :=
  ⟨IPv6.text_injective (List.length_take_of_le hleft) (List.length_take_of_le hright),
    congrArg IPv6.text⟩

/-- With one announced length the texts are the same exactly if the octets within it are. -/
theorem ofBitString_eq_iff_octets {left right : BitString} (hleft : Supported left)
    (hright : Supported right) (hbits : left.bitLength = right.bitLength) :
    ofBitString left = ofBitString right ↔
      left.octets.take (left.bitLength.toNat / 8) =
        right.octets.take (left.bitLength.toNat / 8) := by
  have hleftEnough := hleft.octets_le_length
  have hrightEnough := hright.octets_le_length
  rw [← hbits] at hrightEnough
  obtain ⟨hlength, -⟩ | ⟨hlength, -⟩ | ⟨hlength, -⟩ := hleft
  · have hcount : left.bitLength.toNat / 8 = 4 := by
      rw [hlength]
      rfl
    rw [hcount] at hleftEnough hrightEnough ⊢
    rw [ofBitString_of_short hlength hleftEnough,
      ofBitString_of_short (hbits ▸ hlength) hrightEnough,
      ← text_take_four hleftEnough hrightEnough]
    simp
  · have hcount : left.bitLength.toNat / 8 = 16 := by
      rw [hlength]
      rfl
    rw [hcount] at hleftEnough hrightEnough ⊢
    rw [ofBitString_of_long hlength hleftEnough,
      ofBitString_of_long (hbits ▸ hlength) hrightEnough,
      ← text_take_sixteen hleftEnough hrightEnough]
    simp
  · have hcount : left.bitLength.toNat / 8 = 20 := by
      rw [hlength]
      rfl
    rw [hcount] at hleftEnough hrightEnough ⊢
    have hsplit (octets : List UInt8) :
        octets.take 20 = octets.take 4 ++ (octets.drop 4).take 16 :=
      List.take_add (i := 4) (j := 16)
    have hfront : (left.octets.take 4).length = (right.octets.take 4).length := by
      rw [List.length_take_of_le (by omega), List.length_take_of_le (by omega)]
    rw [ofBitString_of_both hlength hleftEnough,
      ofBitString_of_both (hbits ▸ hlength) hrightEnough, hsplit, hsplit,
      List.append_eq_append_iff_of_size_eq_left hfront, TransportAddress.mk.injEq,
      Option.some.injEq, Option.some.injEq, text_take_four (by omega) (by omega),
      text_take_sixteen (by rw [List.length_drop]; omega) (by rw [List.length_drop]; omega)]

/-- The length that a bit string with these texts announces. -/
def announcedLength (address : TransportAddress) : UInt64 :=
  match address.ipv4, address.ipv6 with
  | some _, none => 32
  | none, some _ => 128
  | some _, some _ => 160
  | none, none => 0

/-- The layouts differ in which texts they have. -/
theorem announcedLength_ofBitString {bits : BitString} (hsupported : Supported bits) :
    announcedLength (ofBitString bits) = bits.bitLength := by
  obtain ⟨hbits, hlength⟩ | ⟨hbits, hlength⟩ | ⟨hbits, hlength⟩ := hsupported
  · rw [ofBitString_of_short hbits hlength, hbits]
    rfl
  · rw [ofBitString_of_long hbits hlength, hbits]
    rfl
  · rw [ofBitString_of_both hbits hlength, hbits]
    rfl

/-- A bit string has an address text exactly for the announced lengths and enough octets, and two
that hold addresses have the same texts exactly if they announce the same length and agree in the
octets within it.  An IPv6 text is the mapped form or leaves out the longest run of zeros. -/
theorem ofBitString_determined :
    (∀ bits, Checked.address? bits = some (ofBitString bits)) ∧
    (∀ bits,
      ((ofBitString bits).ipv4.isSome ↔
        (bits.bitLength = 32 ∧ 4 ≤ bits.octets.length) ∨
          (bits.bitLength = 160 ∧ 20 ≤ bits.octets.length)) ∧
      ((ofBitString bits).ipv6.isSome ↔
        (bits.bitLength = 128 ∧ 16 ≤ bits.octets.length) ∨
          (bits.bitLength = 160 ∧ 20 ≤ bits.octets.length))) ∧
    (∀ left right, Supported left → Supported right →
      (ofBitString left = ofBitString right ↔
        left.bitLength = right.bitLength ∧
          left.octets.take (left.bitLength.toNat / 8) =
            right.octets.take (left.bitLength.toNat / 8))) ∧
    ∀ octets : List UInt8,
      (IPv6.Mapped octets ∧ IPv6.text octets = "::ffff:" ++ IPv4.text (octets.drop 12)) ∨
      (¬ IPv6.Mapped octets ∧ ∃ start length,
        IPv6.LeftmostLongest (IPv6.groups octets) start length ∧
        IPv6.text octets =
          if 2 ≤ length then
            IPv6.joined ((IPv6.groups octets).take start) ++ "::" ++
              IPv6.joined ((IPv6.groups octets).drop (start + length))
          else IPv6.joined (IPv6.groups octets)) := by
  refine ⟨Checked.address?_eq, isSome_ofBitString_iff, fun left right hleft hright => ?_,
    IPv6.text_cases⟩
  constructor
  · intro heq
    have hbits : left.bitLength = right.bitLength := by
      rw [← announcedLength_ofBitString hleft, heq, announcedLength_ofBitString hright]
    exact ⟨hbits, (ofBitString_eq_iff_octets hleft hright hbits).mp heq⟩
  · rintro ⟨hbits, hoctets⟩
    exact (ofBitString_eq_iff_octets hleft hright hbits).mpr hoctets

/-- An octet after the two addresses does not show, one within them does. -/
theorem ofBitString_determined_dual :
    let front : List UInt8 := [192, 0, 2, 1] ++ List.replicate 15 0
    ofBitString ⟨front ++ [1], 160⟩ = { ipv4 := some "192.0.2.1", ipv6 := some "::1" } ∧
    ofBitString ⟨front ++ [1], 160⟩ = ofBitString ⟨front ++ [1, 7], 160⟩ ∧
    ofBitString ⟨front ++ [1], 160⟩ ≠ ofBitString ⟨front ++ [7], 160⟩ := by
  have hdetermined := ofBitString_determined.2.2.1
  refine ⟨by decide +kernel, ?_, ?_⟩
  · exact (hdetermined _ _ (by decide) (by decide)).mpr (by decide)
  · exact fun heq => absurd ((hdetermined _ _ (by decide) (by decide)).mp heq) (by decide)

end TransportAddress

end AccessMobility
