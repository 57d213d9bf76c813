import AccessMobility.Config.Validation
import AccessMobility.Proofs.ReportContent
import Mathlib.Data.String.Basic

/-!
# The coding of PLMN identities

An identity of decimal digits, as validation asks for, is coded in three octets, and decoding
gives it back.  The filler is no decimal digit, so it cannot be taken for the first digit of a
network code of three digits.
-/

namespace AccessMobility

/-- A text of ASCII characters has as many bytes as characters. -/
theorem utf8ByteSize_of_ascii {text : String} (hascii : ∀ c ∈ text.toList, c.toNat ≤ 127) :
    text.utf8ByteSize = text.length := by
  have hchars (chars : List Char) (hall : ∀ c ∈ chars, c.toNat ≤ 127) :
      String.utf8Len chars = chars.length := by
    induction chars with
    | nil => rfl
    | cons c rest ih =>
        rw [List.forall_mem_cons] at hall
        have hsize : c.utf8Size = 1 :=
          Char.utf8Size_eq_one_iff.mpr (UInt32.le_iff_toNat_le.mpr hall.1)
        rw [String.utf8Len_cons, ih hall.2, hsize, List.length_cons]
  have hbytes := String.utf8ByteSize_ofList text.toList
  rw [String.ofList_toList, hchars _ hascii, String.length_toList] at hbytes
  exact hbytes

namespace PlmnId

/-! ## Decimal digits -/

theorem digit_bounds {c : Char} (hdigit : c.isDigit = true) : 48 ≤ c.toNat ∧ c.toNat ≤ 57 := by
  simp only [Char.isDigit, Bool.and_eq_true, decide_eq_true_eq, ge_iff_le] at hdigit
  exact hdigit

theorem digitValue_lt {c : Char} (hdigit : c.isDigit = true) : digitValue c < 10 := by
  obtain ⟨-, hupper⟩ := digit_bounds hdigit
  unfold digitValue
  omega

theorem digit_digitValue {c : Char} (hdigit : c.isDigit = true) :
    Hex.digit (digitValue c) = c := by
  obtain ⟨hlower, -⟩ := digit_bounds hdigit
  rw [Hex.digit, if_pos (digitValue_lt hdigit), digitValue, Nat.add_sub_cancel' hlower,
    Char.ofNat_toNat]

/-- A decimal digit takes one byte. -/
theorem utf8ByteSize_of_digits {text : String} (hdigits : AllDigits text) :
    text.utf8ByteSize = text.length :=
  utf8ByteSize_of_ascii fun c hmem =>
    Nat.le_trans (digit_bounds (hdigits c hmem)).2 (by decide)

/-! ## Validated identities -/

/-- A country code of three digits and a network code of two or three. -/
structure Decimal (plmn : PlmnId) : Prop where
  mcc_digits : AllDigits plmn.mcc
  mcc_length : plmn.mcc.length = 3
  mnc_digits : AllDigits plmn.mnc
  mnc_length : plmn.mnc.length = 2 ∨ plmn.mnc.length = 3

theorem validate_eq_ok_iff (plmn : PlmnId) : plmn.validate = .ok () ↔ plmn.Decimal := by
  unfold validate
  constructor
  · intro hvalid
    split at hvalid
    · cases hvalid
    next hmcc =>
      split at hvalid
      · cases hvalid
      next hmnc =>
        rw [not_not] at hmcc hmnc
        obtain ⟨hthree, hmccDigits⟩ := hmcc
        obtain ⟨htwo, hthree', hmncDigits⟩ := hmnc
        rw [utf8ByteSize_of_digits hmccDigits] at hthree
        rw [utf8ByteSize_of_digits hmncDigits] at htwo hthree'
        exact ⟨hmccDigits, hthree, hmncDigits, by omega⟩
  · rintro ⟨hmccDigits, hthree, hmncDigits, hlength⟩
    rw [utf8ByteSize_of_digits hmccDigits, utf8ByteSize_of_digits hmncDigits]
    rw [if_neg (not_not_intro ⟨hthree, hmccDigits⟩)]
    exact if_neg (not_not_intro ⟨by omega, by omega, hmncDigits⟩)

/-! ## Coding and decoding -/

theorem highNibble_pack {high low : Nat} (hhigh : high < 16) (hlow : low < 16) :
    Hex.highNibble (pack high low) = high := by
  rw [Hex.highNibble, pack, UInt8.toNat_ofNat']
  omega

theorem lowNibble_pack (high : Nat) {low : Nat} (hlow : low < 16) :
    Hex.lowNibble (pack high low) = low := by
  rw [Hex.lowNibble, pack, UInt8.toNat_ofNat']
  omega

/-- The values of the digits of a text. -/
def digitValues (text : String) : List Nat :=
  text.toList.map digitValue

theorem length_digitValues (text : String) : (digitValues text).length = text.length := by
  rw [digitValues, List.length_map, String.length_toList]

theorem digitValues_lt {text : String} (hdigits : AllDigits text) :
    ∀ value ∈ digitValues text, value < 10 := by
  rintro value hmem
  obtain ⟨c, hc, rfl⟩ := List.mem_map.mp hmem
  exact digitValue_lt (hdigits c hc)

theorem ofList_digitValues {text : String} (hdigits : AllDigits text) :
    String.ofList ((digitValues text).map Hex.digit) = text := by
  have hchars : (digitValues text).map Hex.digit = text.toList := by
    rw [digitValues, List.map_map]
    exact (List.map_congr_left fun c hc => digit_digitValue (hdigits c hc)).trans
      (List.map_id _)
  rw [hchars, String.ofList_toList]

theorem coding_of_two {plmn : PlmnId} {a b c d e : Nat}
    (hmcc : digitValues plmn.mcc = [a, b, c]) (hmnc : digitValues plmn.mnc = [d, e]) :
    plmn.coding = [pack b a, pack filler c, pack e d] := by
  rw [digitValues] at hmcc hmnc
  rw [coding, hmcc, hmnc]

theorem coding_of_three {plmn : PlmnId} {a b c d e f : Nat}
    (hmcc : digitValues plmn.mcc = [a, b, c]) (hmnc : digitValues plmn.mnc = [d, e, f]) :
    plmn.coding = [pack b a, pack d c, pack f e] := by
  rw [digitValues] at hmcc hmnc
  rw [coding, hmcc, hmnc]

theorem threeOctets_of_length {octets : List UInt8} (hlength : octets.length = 3) :
    threeOctets octets = octets := by
  rw [threeOctets, ← hlength, List.take_length, List.rightpad, Nat.sub_self, List.replicate_zero,
    List.append_nil]

section

variable {plmn : PlmnId} (hdecimal : plmn.Decimal)

include hdecimal

theorem Decimal.coding_cases :
    ∃ a b c, digitValues plmn.mcc = [a, b, c] ∧ (a < 10 ∧ b < 10 ∧ c < 10) ∧
      ((∃ d e, digitValues plmn.mnc = [d, e] ∧ d < 10 ∧ e < 10) ∨
        ∃ d e f, digitValues plmn.mnc = [d, e, f] ∧ d < 10 ∧ e < 10 ∧ f < 10) := by
  have hmccLt := digitValues_lt hdecimal.mcc_digits
  have hmncLt := digitValues_lt hdecimal.mnc_digits
  obtain ⟨a, b, c, hmcc⟩ := List.length_eq_three.mp
    ((length_digitValues plmn.mcc).trans hdecimal.mcc_length)
  rw [hmcc] at hmccLt
  refine ⟨a, b, c, hmcc, by simpa using hmccLt, ?_⟩
  rcases hdecimal.mnc_length with htwo | hthree
  · obtain ⟨d, e, hmnc⟩ := List.length_eq_two.mp ((length_digitValues plmn.mnc).trans htwo)
    rw [hmnc] at hmncLt
    exact Or.inl ⟨d, e, hmnc, by simpa using hmncLt⟩
  · obtain ⟨d, e, f, hmnc⟩ := List.length_eq_three.mp
      ((length_digitValues plmn.mnc).trans hthree)
    rw [hmnc] at hmncLt
    exact Or.inr ⟨d, e, f, hmnc, by simpa using hmncLt⟩

theorem Decimal.length_coding : plmn.coding.length = 3 := by
  obtain ⟨a, b, c, hmcc, -, ⟨d, e, hmnc, -⟩ | ⟨d, e, f, hmnc, -⟩⟩ := hdecimal.coding_cases
  · rw [coding_of_two hmcc hmnc]
    rfl
  · rw [coding_of_three hmcc hmnc]
    rfl

theorem Decimal.ofOctets_coding : ofOctets plmn.coding = plmn := by
  have hmccText := ofList_digitValues hdecimal.mcc_digits
  have hmncText := ofList_digitValues hdecimal.mnc_digits
  obtain ⟨a, b, c, hmcc, ⟨ha, hb, hc⟩, ⟨d, e, hmnc, hd, he⟩ | ⟨d, e, f, hmnc, hd, he, hf⟩⟩ :=
    hdecimal.coding_cases
  all_goals
    rw [hmcc] at hmccText
    rw [hmnc] at hmncText
  · have hfiller : filler < 16 := by decide
    rw [coding_of_two hmcc hmnc, ofOctets]
    simp (disch := omega) only [List.getD_cons_zero, List.getD_cons_succ, lowNibble_pack,
      highNibble_pack, if_true]
    rw [hmccText, hmncText]
  · have hfiller : d ≠ filler := by
      unfold filler
      omega
    rw [coding_of_three hmcc hmnc, ofOctets]
    simp (disch := omega) only [List.getD_cons_zero, List.getD_cons_succ, lowNibble_pack,
      highNibble_pack, if_neg hfiller]
    rw [hmccText, hmncText]

end

end PlmnId

end AccessMobility
