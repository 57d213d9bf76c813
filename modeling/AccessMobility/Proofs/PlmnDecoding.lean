import AccessMobility.Proofs.PlmnCoding
import AccessMobility.Proofs.ReportDecoding

/-!
# Decoding is the inverse of the coding of PLMN identities

An octet string decodes to an identity of decimal digits exactly if its first three octets, filled
up with zeros where there are fewer, are the coding of this identity.  So nothing is lost in
either direction as long as all digits are decimal; and the two codes in one text, which has no
mark between them, still tell any two decoded identities apart, since the country code always has
three digits.
-/

namespace AccessMobility

namespace PlmnId

theorem length_mcc_ofOctets (octets : List UInt8) : (ofOctets octets).mcc.length = 3 :=
  String.length_ofList

theorem length_mnc_ofOctets (octets : List UInt8) :
    (ofOctets octets).mnc.length = 2 ∨ (ofOctets octets).mnc.length = 3 := by
  rw [ofOctets]
  dsimp only
  rw [String.length_ofList]
  split
  · exact Or.inl rfl
  · exact Or.inr rfl

/-- The lengths are right by the form of decoding; only letters can stand in the way. -/
theorem decimal_ofOctets {octets : List UInt8} (hmcc : AllDigits (ofOctets octets).mcc)
    (hmnc : AllDigits (ofOctets octets).mnc) : (ofOctets octets).Decimal where
  mcc_digits := hmcc
  mcc_length := length_mcc_ofOctets octets
  mnc_digits := hmnc
  mnc_length := length_mnc_ofOctets octets

theorem Decimal.ofOctets_eq_iff_coding {plmn : PlmnId} (hdecimal : plmn.Decimal)
    (octets : List UInt8) : ofOctets octets = plmn ↔ threeOctets octets = plmn.coding := by
  have hiff := ofOctets_eq_iff octets plmn.coding
  rw [hdecimal.ofOctets_coding, threeOctets_of_length hdecimal.length_coding] at hiff
  exact hiff

theorem threeOctets_of_isPrefix {code octets : List UInt8} (hlength : code.length = 3)
    (hbegins : code <+: octets) : threeOctets octets = code := by
  obtain ⟨rest, rfl⟩ := hbegins
  have htake : (code ++ rest).take 3 = code.take 3 := by
    rw [List.take_append_of_le_length (Nat.le_of_eq hlength.symm)]
  rw [threeOctets, htake]
  exact threeOctets_of_length hlength

/-- The country code is the first three characters of the text. -/
theorem text_ofOctets_injective {left right : List UInt8}
    (htext : (ofOctets left).text = (ofOctets right).text) : ofOctets left = ofOctets right := by
  have hchars : (ofOctets left).mcc.toList ++ (ofOctets left).mnc.toList =
      (ofOctets right).mcc.toList ++ (ofOctets right).mnc.toList := by
    rw [← String.toList_append, ← String.toList_append]
    exact congrArg String.toList htext
  have hlength : (ofOctets left).mcc.toList.length = (ofOctets right).mcc.toList.length := by
    rw [String.length_toList, String.length_toList, length_mcc_ofOctets, length_mcc_ofOctets]
  obtain ⟨hmcc, hmnc⟩ := List.append_inj hchars hlength
  calc
    ofOctets left = ⟨(ofOctets left).mcc, (ofOctets left).mnc⟩ := rfl
    _ = ⟨(ofOctets right).mcc, (ofOctets right).mnc⟩ := by
      rw [String.toList_inj.mp hmcc, String.toList_inj.mp hmnc]

/-- Every octet string decodes.  Octets that begin with the coding of an identity of decimal
digits decode to this identity, and octets that decode to decimal digits are, cut off or filled up
to three, the coding of what they decode to.  Two decoded identities with one text are equal. -/
theorem decoding_inverts_coding :
    (∀ octets, Checked.plmnId? octets = some (ofOctets octets)) ∧
    (∀ plmn : PlmnId, plmn.Decimal → plmn.coding.length = 3 ∧
      ∀ octets, plmn.coding <+: octets → ofOctets octets = plmn) ∧
    (∀ octets, AllDigits (ofOctets octets).mcc → AllDigits (ofOctets octets).mnc →
      (ofOctets octets).Decimal ∧ threeOctets octets = (ofOctets octets).coding) ∧
    ∀ left right, (ofOctets left).text = (ofOctets right).text →
      ofOctets left = ofOctets right := by
  refine ⟨Checked.plmnId?_eq, ?_, ?_, fun left right => text_ofOctets_injective⟩
  · intro plmn hdecimal
    refine ⟨hdecimal.length_coding, fun octets hbegins => ?_⟩
    rw [hdecimal.ofOctets_eq_iff_coding]
    exact threeOctets_of_isPrefix hdecimal.length_coding hbegins
  · intro octets hmcc hmnc
    have hdecimal := decimal_ofOctets hmcc hmnc
    exact ⟨hdecimal, (hdecimal.ofOctets_eq_iff_coding octets).mp rfl⟩

/-- A code of three network digits is read from four octets, and two octets are filled up to the
coding of what they decode to. -/
theorem decoding_inverts_coding_padded :
    ofOctets [0x13, 0x40, 0x01, 0xaa] = { mcc := "310", mnc := "410" } ∧
      threeOctets [0x02, 0xf8] = (ofOctets [0x02, 0xf8]).coding ∧
      ofOctets [0x02, 0xf8] = { mcc := "208", mnc := "00" } := by
  obtain ⟨-, hdecodes, hcoded, htext⟩ := decoding_inverts_coding
  have hdecimal : PlmnId.Decimal { mcc := "310", mnc := "410" } :=
    ⟨by decide +kernel, by decide +kernel, by decide +kernel, by decide +kernel⟩
  obtain ⟨-, hbegins⟩ := hdecodes _ hdecimal
  obtain ⟨-, hpadded⟩ := hcoded [0x02, 0xf8] (by decide +kernel) (by decide +kernel)
  exact ⟨hbegins _ ⟨[0xaa], by decide +kernel⟩, hpadded, htext _ [0x02, 0xf8, 0x00] rfl⟩

end PlmnId

end AccessMobility
