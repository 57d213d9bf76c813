import AccessMobility.Proofs.LinkSymmetry
import AccessMobility.Proofs.PlmnCoding

/-!
# Served tracking areas in reports

A configured tracking area is text, a reported one is octets, and the two are compared as text.
Octets are written with lowercase digits, and validation does not look at tracking area codes.  So a
report is recognised exactly if the list has the tracking area with its code in lowercase digits; an
entry with a capital letter in its code is never recognised.
-/

namespace AccessMobility

/-! ## Digits of either case -/

namespace Hex

/-- A hexadecimal digit that is a capital letter. -/
def Capital (c : Char) : Prop :=
  'A' ≤ c ∧ c ≤ 'F'

instance (c : Char) : Decidable (Capital c) :=
  inferInstanceAs (Decidable (_ ∧ _))

theorem not_capital_digit {value : Nat} (hlt : value < 16) : ¬ Capital (digit value) := by
  have hall : ∀ value : Fin 16, ¬ Capital (digit value.val) := by decide
  exact hall ⟨value, hlt⟩

theorem value?_cases {c : Char} {value : Nat} (hvalue : value? c = some value) :
    (48 ≤ c.toNat ∧ c.toNat ≤ 57 ∧ value = c.toNat - 48) ∨
      (97 ≤ c.toNat ∧ c.toNat ≤ 102 ∧ value = c.toNat - 87) ∨
      (Capital c ∧ 65 ≤ c.toNat ∧ c.toNat ≤ 70 ∧ value = c.toNat - 55) := by
  unfold value? at hvalue
  split at hvalue
  next hdecimal => exact Or.inl ⟨hdecimal.1, hdecimal.2, (Option.some.inj hvalue).symm⟩
  split at hvalue
  next hsmall => exact Or.inr (Or.inl ⟨hsmall.1, hsmall.2, (Option.some.inj hvalue).symm⟩)
  split at hvalue
  next hcapital =>
    exact Or.inr (Or.inr
      ⟨hcapital, hcapital.1, hcapital.2, (Option.some.inj hvalue).symm⟩)
  next => cases hvalue

/-- The digit of a value is the one it was read from, unless this was a capital letter. -/
theorem digit_of_value? {c : Char} {value : Nat} (hvalue : value? c = some value) :
    value < 16 ∧ (digit value = c ↔ ¬ Capital c) := by
  have hlt : value < 16 := by
    rcases value?_cases hvalue with hdecimal | hsmall | hcapital <;> omega
  refine ⟨hlt, fun hdigit => hdigit ▸ not_capital_digit hlt, fun hnot => ?_⟩
  rcases value?_cases hvalue with ⟨hlower, hupper, heq⟩ | ⟨hlower, hupper, heq⟩ | ⟨hcapital, -⟩
  · have hcode : 48 + value = c.toNat := by omega
    rw [digit, if_pos (by omega), hcode, Char.ofNat_toNat]
  · have hcode : 87 + value = c.toNat := by omega
    rw [digit, if_neg (by omega), hcode, Char.ofNat_toNat]
  · exact absurd hcapital hnot

theorem digits_of_octets? {chars : List Char} {octets : List UInt8}
    (hoctets : octets? chars = some octets) :
    digits octets = chars ↔ ∀ c ∈ chars, ¬ Capital c := by
  match chars with
  | [] =>
      cases hoctets
      simp [digits]
  | [_] => cases hoctets
  | high :: low :: rest =>
      simp only [octets?, Option.bind_eq_bind, Option.bind_eq_some_iff, Option.pure_def,
        Option.some.injEq] at hoctets
      obtain ⟨highValue, hhigh, lowValue, hlow, others, hothers, rfl⟩ := hoctets
      obtain ⟨hhighLt, hhighDigit⟩ := digit_of_value? hhigh
      obtain ⟨hlowLt, hlowDigit⟩ := digit_of_value? hlow
      have hhighNibble := PlmnId.highNibble_pack hhighLt hlowLt
      have hlowNibble := PlmnId.lowNibble_pack highValue hlowLt
      rw [PlmnId.pack] at hhighNibble hlowNibble
      rw [digits, hhighNibble, hlowNibble]
      simp only [List.cons.injEq, List.forall_mem_cons, hhighDigit, hlowDigit,
        digits_of_octets? hothers]

theorem value?_of_octets? {chars : List Char} {octets : List UInt8}
    (hoctets : octets? chars = some octets) : ∀ c ∈ chars, (value? c).isSome := by
  match chars with
  | [] => simp
  | [_] => cases hoctets
  | high :: low :: rest =>
      simp only [octets?, Option.bind_eq_bind, Option.bind_eq_some_iff] at hoctets
      obtain ⟨highValue, hhigh, lowValue, hlow, others, hothers, -⟩ := hoctets
      simp only [List.forall_mem_cons, hhigh, hlow, Option.isSome_some, true_and]
      exact value?_of_octets? hothers

theorem octets?_of_digits {chars : List Char} {count : Nat} (hlength : chars.length = 2 * count)
    (hdigits : ∀ c ∈ chars, (value? c).isSome) :
    ∃ octets, octets? chars = some octets ∧ octets.length = count := by
  match chars, count with
  | [], 0 => exact ⟨[], rfl, rfl⟩
  | [_], count =>
      rw [List.length_singleton] at hlength
      omega
  | high :: low :: rest, count + 1 =>
      simp only [List.forall_mem_cons] at hdigits
      obtain ⟨hhigh, hlow, hrest⟩ := hdigits
      obtain ⟨highValue, hhigh⟩ := Option.isSome_iff_exists.mp hhigh
      obtain ⟨lowValue, hlow⟩ := Option.isSome_iff_exists.mp hlow
      have hlength' : rest.length = 2 * count := by
        simp only [List.length_cons] at hlength
        omega
      obtain ⟨octets, hoctets, hcount⟩ := octets?_of_digits hlength' hrest
      refine ⟨UInt8.ofNat (16 * highValue + lowValue) :: octets, ?_, congrArg Nat.succ hcount⟩
      simp [octets?, hhigh, hlow, hoctets]

end Hex

/-! ## Tracking areas as text and as octets -/

namespace Tai

/-- The octets of a tracking area identity. -/
def coding (tai : Tai) : ReportedTai :=
  { plmn := tai.plmnId.coding, tac := (Hex.decode? tai.tac).getD [] }

/-- The code is six hexadecimal digits. -/
def SixDigits (tai : Tai) : Prop :=
  tai.tac.length = 6 ∧ ∀ c ∈ tai.tac.toList, (Hex.value? c).isSome

instance (tai : Tai) : Decidable tai.SixDigits :=
  @instDecidableAnd _ _ _
    (List.decidableBAll (fun c => (Hex.value? c).isSome = true) tai.tac.toList)

/-- The code has no capital letters. -/
def Lowercase (tai : Tai) : Prop :=
  ∀ c ∈ tai.tac.toList, ¬ Hex.Capital c

instance (tai : Tai) : Decidable tai.Lowercase :=
  List.decidableBAll (fun c => ¬ Hex.Capital c) tai.tac.toList

theorem SixDigits.decode {tai : Tai} (hsix : tai.SixDigits) :
    Hex.decode? tai.tac = some tai.coding.tac ∧ tai.coding.tac.length = 3 := by
  obtain ⟨hlength, hdigits⟩ := hsix
  rw [← String.length_toList] at hlength
  obtain ⟨octets, hoctets, hthree⟩ := @Hex.octets?_of_digits _ 3 hlength hdigits
  have hdecode : Hex.decode? tai.tac = some octets := hoctets
  rw [coding, hdecode]
  exact ⟨rfl, hthree⟩

theorem SixDigits.encode_iff {tai : Tai} (hsix : tai.SixDigits) :
    Hex.encode tai.coding.tac = tai.tac ↔ tai.Lowercase := by
  obtain ⟨hdecode, -⟩ := hsix.decode
  rw [Lowercase, ← Hex.digits_of_octets? hdecode, Hex.encode, ← String.toList_inj,
    String.toList_ofList]

/-- Written octets are lowercase digits that read back as the octets. -/
theorem coding_of_encode {tai : Tai} {octets : List UInt8} (hlength : octets.length = 3)
    (htac : Hex.encode octets = tai.tac) : tai.SixDigits ∧ tai.coding.tac = octets := by
  have hchars : Hex.digits octets = tai.tac.toList := by
    rw [← htac, Hex.encode, String.toList_ofList]
  have hdecode : Hex.decode? tai.tac = some octets := by
    rw [Hex.decode?, ← hchars, Hex.octets?_digits]
  refine ⟨⟨?_, ?_⟩, ?_⟩
  · rw [← String.length_toList, ← hchars, Hex.length_digits, hlength]
  · rw [← hchars]
    exact Hex.value?_of_octets? (Hex.octets?_digits octets)
  · rw [coding, hdecode, Option.getD_some]

/-- A report is taken for a tracking area exactly if it is the coding of it and the code is written
in lowercase. -/
theorem ofReported_eq_iff {tai : Tai} (hdecimal : tai.plmnId.Decimal) {reported : ReportedTai}
    (hplmn : reported.plmn.length = 3) (htac : reported.tac.length = 3) :
    Tai.ofReported reported = tai ↔ tai.SixDigits ∧ tai.Lowercase ∧ tai.coding = reported := by
  constructor
  · intro heq
    have hplmnId : PlmnId.ofOctets reported.plmn = tai.plmnId := congrArg Tai.plmnId heq
    have hencode : Hex.encode reported.tac = tai.tac := congrArg Tai.tac heq
    obtain ⟨hsix, hcoding⟩ := coding_of_encode htac hencode
    have hlower : tai.Lowercase := by
      rw [← hsix.encode_iff, hcoding, hencode]
    have hoctets : tai.plmnId.coding = reported.plmn := by
      rw [← PlmnId.threeOctets_of_length hdecimal.length_coding,
        ← PlmnId.threeOctets_of_length hplmn, ← PlmnId.ofOctets_eq_iff,
        hdecimal.ofOctets_coding, hplmnId]
    refine ⟨hsix, hlower, ?_⟩
    cases reported
    exact congrArg₂ ReportedTai.mk hoctets hcoding
  · rintro ⟨hsix, hlower, rfl⟩
    exact congrArg₂ Tai.mk hdecimal.ofOctets_coding (hsix.encode_iff.mpr hlower)

end Tai

/-! ## Validated lists -/

namespace Config

theorem validateAll_eq_ok_iff {α : Type} (check : α → Except ConfigFault Unit) (items : List α) :
    validateAll check items = .ok () ↔ ∀ item ∈ items, check item = .ok () := by
  induction items with
  | nil => simp [validateAll]
  | cons item rest ih =>
      rw [validateAll, List.forall_mem_cons, ← ih]
      cases check item <;> simp

theorem tais_of_validate {config : Config} (hvalid : config.validate = .ok ()) :
    ∀ tai ∈ config.supportedTais, tai.plmnId.Decimal := by
  obtain ⟨hareas, -⟩ := checks_of_validate hvalid
  intro tai hmem
  rw [← PlmnId.validate_eq_ok_iff]
  exact (validateAll_eq_ok_iff _ _).mp hareas tai hmem

end Config

namespace World

/-- A report of three octets each is recognised by the AMF of a validated configuration exactly if
the list has a tracking area of six lowercase digits with this coding. -/
theorem servesTai_reported {config : Config} (hvalid : config.validate = .ok ()) :
    let served := (opened config).state.registry.servesTai
    (∀ reported : ReportedTai, reported.plmn.length = 3 → reported.tac.length = 3 →
      (served (Tai.ofReported reported) = true ↔ ∃ tai ∈ config.supportedTais,
        tai.SixDigits ∧ tai.Lowercase ∧ tai.coding = reported)) ∧
    (∀ reported : ReportedTai, reported.plmn.length = 3 → reported.tac.length = 3 →
      (∀ tai ∈ config.supportedTais, tai.SixDigits → tai.coding ≠ reported) →
        served (Tai.ofReported reported) = false) ∧
    ∀ tai ∈ config.supportedTais, tai.SixDigits →
      (tai.coding.plmn.length = 3 ∧ tai.coding.tac.length = 3) ∧
      (tai.Lowercase → served (Tai.ofReported tai.coding) = true) ∧
      (served (Tai.ofReported tai.coding) = true ↔ ∃ other ∈ config.supportedTais,
        other.SixDigits ∧ other.Lowercase ∧ other.coding = tai.coding) := by
  intro served
  have hdecimal := Config.tais_of_validate hvalid
  have hexact (reported : ReportedTai) (hplmn : reported.plmn.length = 3)
      (htac : reported.tac.length = 3) :
      served (Tai.ofReported reported) = true ↔ ∃ tai ∈ config.supportedTais,
        tai.SixDigits ∧ tai.Lowercase ∧ tai.coding = reported := by
    show config.supportedTais.contains (Tai.ofReported reported) = true ↔ _
    rw [List.contains_iff_mem]
    constructor
    · intro hmem
      exact ⟨_, hmem, (Tai.ofReported_eq_iff (hdecimal _ hmem) hplmn htac).mp rfl⟩
    · rintro ⟨tai, hmem, hcoded⟩
      rw [(Tai.ofReported_eq_iff (hdecimal tai hmem) hplmn htac).mpr hcoded]
      exact hmem
  refine ⟨hexact, fun reported hplmn htac hnone => ?_, fun tai hmem hsix => ?_⟩
  · rw [← Bool.not_eq_true, hexact reported hplmn htac]
    rintro ⟨tai, hmem, hsix, -, hcoding⟩
    exact hnone tai hmem hsix hcoding
  · have hplmn : tai.coding.plmn.length = 3 := (hdecimal tai hmem).length_coding
    obtain ⟨-, htac⟩ := hsix.decode
    have hserved := hexact tai.coding hplmn htac
    exact ⟨⟨hplmn, htac⟩, fun hlower => hserved.mpr ⟨tai, hmem, hsix, hlower, rfl⟩, hserved⟩

/-- An entry in lowercase is recognised, and a report of its code in another network is not. -/
theorem servesTai_reported_lowercase :
    let tai : Tai := { plmnId := { mcc := "310", mnc := "410" }, tac := "00c0de" }
    let config := { Config.standard with supportedTais := [tai] }
    let served := (opened config).state.registry.servesTai
    config.validate = .ok () ∧ tai.coding = ⟨[0x13, 0x40, 0x01], [0x00, 0xc0, 0xde]⟩ ∧
      served (Tai.ofReported tai.coding) = true ∧
      served (Tai.ofReported ⟨[0x13, 0xf0, 0x14], [0x00, 0xc0, 0xde]⟩) = false := by
  intro tai config served
  have hvalid : config.validate = .ok () := by decide +kernel
  obtain ⟨-, hrefused, hentries⟩ := servesTai_reported hvalid
  obtain ⟨-, hrecognised, -⟩ := hentries tai (List.mem_singleton.mpr rfl) (by decide +kernel)
  refine ⟨hvalid, by decide +kernel, hrecognised (by decide +kernel), ?_⟩
  apply hrefused _ rfl rfl
  decide +kernel

/-- A valid configuration serves an area whose code has a capital letter, and does not recognise it
in a report. -/
theorem servesTai_misses_capital :
    let tai : Tai := { plmnId := Config.testPlmn, tac := "00000A" }
    let config := { Config.standard with supportedTais := [tai] }
    config.validate = .ok () ∧ tai ∈ config.supportedTais ∧ tai.SixDigits ∧
      tai.coding = ⟨[0x00, 0xf1, 0x10], [0x00, 0x00, 0x0a]⟩ ∧
      (opened config).state.registry.servesTai (Tai.ofReported tai.coding) = false := by
  decide +kernel

end World

end AccessMobility
