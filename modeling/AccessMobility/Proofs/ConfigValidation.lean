import AccessMobility.Proofs.ServedArea

/-!
# What validation accepts

A configuration is well formed if at least one GUAMI is served, every PLMN identity has a country
code of three decimal digits and a network code of two or three, every AMF id has six hexadecimal
digits, both identifier ranges are in order and not negative, 5G-TMSIs fit 31 bits, and the limits
on radio nodes and on the RAN UEs of each are not zero.  Validation asks for all of this but one: of
the three lists of PLMN identities it does not look at the supported PLMNs.
-/

namespace AccessMobility

/-! ## Checks one after another -/

section

variable {ε : Type} (first rest : Except ε Unit)
  (condition : Prop) [Decidable condition] (fault : ε)

theorem bind_eq_ok_iff : (first >>= fun _ => rest) = .ok () ↔ first = .ok () ∧ rest = .ok () := by
  cases first with
  | error fault => simp [bind, Except.bind]
  | ok _ => exact (and_iff_right rfl).symm

theorem guard_eq_ok_iff :
    (if condition then throw fault else pure () : Except ε Unit) = .ok () ↔ ¬ condition := by
  by_cases hcondition : condition
  · simp [hcondition, throw, throwThe, MonadExceptOf.throw]
  · simp [hcondition, pure, Except.pure]

theorem guard_bind_eq_ok_iff :
    (if condition then (throw fault : Except ε PUnit) >>= fun _ => rest else rest) = .ok () ↔
      ¬ condition ∧ rest = .ok () := by
  by_cases hcondition : condition
  · simp [hcondition, throw, throwThe, MonadExceptOf.throw, bind, Except.bind]
  · simp [hcondition]

end

/-! ## AMF ids and identifier ranges -/

theorem Hex.value?_ascii {c : Char} (hdigit : (value? c).isSome) : c.toNat ≤ 127 := by
  obtain ⟨value, hvalue⟩ := Option.isSome_iff_exists.mp hdigit
  rcases value?_cases hvalue with hdecimal | hsmall | hcapital <;> omega

/-- A PLMN identity of decimal digits and an AMF id of six hexadecimal digits. -/
structure Guami.WellFormed (guami : Guami) : Prop where
  plmnId : guami.plmnId.Decimal
  amfId_length : guami.amfId.length = 6
  amfId_digits : ∀ c ∈ guami.amfId.toList, (Hex.value? c).isSome

theorem Guami.validate_eq_ok_iff (guami : Guami) : guami.validate = .ok () ↔ guami.WellFormed := by
  rw [Guami.validate, bind_eq_ok_iff, guard_eq_ok_iff, PlmnId.validate_eq_ok_iff, not_or,
    ne_eq, not_not]
  constructor
  · rintro ⟨hplmnId, hbytes, hdecodes⟩
    rw [← Option.not_isSome, Bool.not_eq_true', Bool.not_eq_false] at hdecodes
    obtain ⟨octets, hoctets⟩ := Option.isSome_iff_exists.mp hdecodes
    have hdigits := Hex.value?_of_octets? hoctets
    rw [utf8ByteSize_of_ascii fun c hmem => Hex.value?_ascii (hdigits c hmem)] at hbytes
    exact ⟨hplmnId, hbytes, hdigits⟩
  · rintro ⟨hplmnId, hlength, hdigits⟩
    refine ⟨hplmnId, ?_, ?_⟩
    · rw [utf8ByteSize_of_ascii fun c hmem => Hex.value?_ascii (hdigits c hmem), hlength]
    · rw [← String.length_toList] at hlength
      obtain ⟨octets, hoctets, -⟩ := @Hex.octets?_of_digits _ 3 hlength hdigits
      rw [Hex.decode?, hoctets]
      exact Bool.false_ne_true

structure IdRange.Ordered (range : IdRange) : Prop where
  nonneg : 0 ≤ range.min.toInt
  ordered : range.min.toInt ≤ range.max.toInt

theorem IdRange.validate_eq_ok_iff (range : IdRange) (name : String) :
    range.validate name = .ok () ↔ range.Ordered := by
  unfold IdRange.validate
  split
  next hfaulty =>
    refine iff_of_false (by simp) ?_
    rintro ⟨hnonneg, hordered⟩
    rcases hfaulty with hinverted | hnegative
    · exact absurd (Int64.lt_iff_toInt_lt.mp hinverted) (Int.not_lt.mpr hordered)
    · exact absurd (Int64.lt_iff_toInt_lt.mp hnegative) (Int.not_lt.mpr hnonneg)
  next hsound =>
    rw [not_or, Int64.not_lt, Int64.not_lt] at hsound
    exact iff_of_true rfl
      ⟨Int64.le_iff_toInt_le.mp hsound.2, Int64.le_iff_toInt_le.mp hsound.1⟩

/-! ## Configurations -/

namespace Config

/-- A configuration that is well formed up to its list of supported PLMNs. -/
structure Checked (config : Config) : Prop where
  served : config.servedGuamis ≠ []
  guamis : ∀ guami ∈ config.servedGuamis, guami.WellFormed
  tais : ∀ tai ∈ config.supportedTais, tai.plmnId.Decimal
  tmsis : config.tmsis.Ordered
  ngapIds : config.ngapIds.Ordered
  tmsis_max : config.tmsis.max.toInt ≤ 2147483647
  radioNodes : config.limits.radioNodes ≠ 0
  ranUesPerNode : config.limits.ranUesPerNode ≠ 0

/-- A configuration whose supported PLMNs have identities of decimal digits, too. -/
structure WellFormed (config : Config) : Prop extends config.Checked where
  plmns : ∀ plmn ∈ config.supportedPlmns, plmn.plmnId.Decimal

theorem validate_eq_ok_iff_checked (config : Config) :
    config.validate = .ok () ↔ config.Checked := by
  unfold validate
  dsimp only
  simp only [guard_bind_eq_ok_iff, bind_eq_ok_iff, guard_eq_ok_iff, validateAll_eq_ok_iff,
    Guami.validate_eq_ok_iff, PlmnId.validate_eq_ok_iff, IdRange.validate_eq_ok_iff, not_or,
    Int.not_lt]
  constructor
  · rintro ⟨hserved, hguamis, htais, htmsis, hngapIds, hmax, hnodes, hranUes⟩
    exact ⟨hserved, hguamis, htais, htmsis, hngapIds, hmax, hnodes, hranUes⟩
  · rintro ⟨hserved, hguamis, htais, htmsis, hngapIds, hmax, hnodes, hranUes⟩
    exact ⟨hserved, hguamis, htais, htmsis, hngapIds, hmax, hnodes, hranUes⟩

/-- Validation accepts a configuration exactly if it is well formed up to the list of supported
PLMNs; what is accepted is well formed exactly if the identities of this list are as well. -/
theorem validate_accepts_iff (config : Config) :
    (config.validate = .ok () ↔ config.Checked) ∧
    (config.WellFormed ↔
      config.validate = .ok () ∧ ∀ plmn ∈ config.supportedPlmns, plmn.plmnId.Decimal) := by
  refine ⟨config.validate_eq_ok_iff_checked, ?_⟩
  rw [validate_eq_ok_iff_checked]
  constructor
  · rintro ⟨hchecked, hplmns⟩
    exact ⟨hchecked, hplmns⟩
  · rintro ⟨hchecked, hplmns⟩
    exact ⟨hchecked, hplmns⟩

/-- A supported PLMN with a country code of one digit is accepted. -/
theorem validate_passes_short_mcc :
    let config :=
      { Config.standard with
        supportedPlmns := [{ plmnId := { mcc := "1", mnc := "01" }, slices := [] }] }
    config.validate = .ok () ∧ ¬ config.WellFormed := by
  intro config
  refine ⟨rfl, ?_⟩
  intro hwellFormed
  have hdecimal := hwellFormed.plmns _ (List.mem_singleton_self _)
  exact absurd hdecimal.mcc_length (by decide)

end Config

end AccessMobility
