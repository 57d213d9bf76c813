import AccessMobility.Proofs.AreaChange

/-!
# What cell reports are decoded to

The octets of a report come from outside and may be of any number and any value.  Two reports are
decoded to the same location exactly if they agree on what the location covers: three octets of
each PLMN identity, the tracking area code, the nibbles of the cell identity that are announced and
sent, and the time.
-/

namespace AccessMobility

/-! ## Nibbles and their digits -/

namespace Hex

/-- The nibble at a position, the high nibble of an octet first. -/
def nibble? (octets : List UInt8) (i : Nat) : Option Nat :=
  octets[i / 2]?.map fun octet => if i % 2 = 0 then highNibble octet else lowNibble octet

theorem highNibble_lt (octet : UInt8) : highNibble octet < 16 := by
  have hlt := octet.toNat_lt
  unfold highNibble
  omega

theorem lowNibble_lt (octet : UInt8) : lowNibble octet < 16 :=
  Nat.mod_lt _ (by decide)

theorem digit_highNibble {left right : UInt8}
    (heq : digit (highNibble left) = digit (highNibble right)) :
    highNibble left = highNibble right :=
  digit_injective (highNibble_lt left) (highNibble_lt right) heq

theorem digit_lowNibble {left right : UInt8}
    (heq : digit (lowNibble left) = digit (lowNibble right)) :
    lowNibble left = lowNibble right :=
  digit_injective (lowNibble_lt left) (lowNibble_lt right) heq

theorem octet_ext {left right : UInt8} (hhigh : highNibble left = highNibble right)
    (hlow : lowNibble left = lowNibble right) : left = right := by
  unfold highNibble at hhigh
  unfold lowNibble at hlow
  apply UInt8.toNat_inj.mp
  omega

theorem nibble?_lt {octets : List UInt8} {i nibble : Nat}
    (hnibble : nibble? octets i = some nibble) : nibble < 16 := by
  rw [nibble?, Option.map_eq_some_iff] at hnibble
  obtain ⟨octet, -, rfl⟩ := hnibble
  split
  · exact highNibble_lt octet
  · exact lowNibble_lt octet

theorem getElem?_digits (octets : List UInt8) (i : Nat) :
    (digits octets)[i]? = (nibble? octets i).map digit := by
  induction octets generalizing i with
  | nil => rfl
  | cons octet rest ih =>
      match i with
      | 0 => rfl
      | 1 => rfl
      | i + 2 =>
          have hdiv : (i + 2) / 2 = i / 2 + 1 := by omega
          have hmod : (i + 2) % 2 = i % 2 := by omega
          rw [nibble?, hdiv, hmod, List.getElem?_cons_succ]
          exact ih i

theorem map_digit_nibble?_inj {left right : List UInt8} {i : Nat}
    (heq : (nibble? left i).map digit = (nibble? right i).map digit) :
    nibble? left i = nibble? right i := by
  cases hleft : nibble? left i with
  | none =>
      rw [hleft, Option.map_none] at heq
      exact (Option.map_eq_none_iff.mp heq.symm).symm
  | some nibble =>
      rw [hleft, Option.map_some] at heq
      obtain ⟨other, hright, hdigit⟩ := Option.map_eq_some_iff.mp heq.symm
      rw [hright, digit_injective (nibble?_lt hright) (nibble?_lt hleft) hdigit]

end Hex

namespace BitString

/-- The number of nibbles that are announced and sent. -/
def covered (bits : BitString) : Nat :=
  min (2 * bits.octets.length) bits.nibbles

theorem hex_eq_iff (left right : BitString) :
    left.hex = right.hex ↔ left.covered = right.covered ∧
      ∀ i < left.covered, Hex.nibble? left.octets i = Hex.nibble? right.octets i := by
  have hlength (bits : BitString) :
      ((Hex.digits bits.octets).take bits.nibbles).length = bits.covered := by
    rw [List.length_take, Hex.length_digits, covered, Nat.min_comm]
  have hdigit (bits : BitString) {i : Nat} (hi : i < bits.covered) :
      ((Hex.digits bits.octets).take bits.nibbles)[i]? =
        (Hex.nibble? bits.octets i).map Hex.digit := by
    rw [List.getElem?_take_of_lt (Nat.lt_of_lt_of_le hi (Nat.min_le_right ..)), Hex.getElem?_digits]
  constructor
  · intro heq
    have hdigits := String.ofList_injective heq
    have hcovered : left.covered = right.covered := by
      rw [← hlength, ← hlength, hdigits]
    refine ⟨hcovered, fun i hi => Hex.map_digit_nibble?_inj ?_⟩
    rw [← hdigit left hi, hdigits, hdigit right (hcovered ▸ hi)]
  · rintro ⟨hcovered, hnibbles⟩
    apply congrArg String.ofList
    apply List.ext_getElem?
    intro i
    by_cases hi : i < left.covered
    · rw [hdigit left hi, hdigit right (hcovered ▸ hi), hnibbles i hi]
    · rw [List.getElem?_eq_none (by rw [hlength]; omega),
        List.getElem?_eq_none (by rw [hlength]; omega)]

end BitString

/-! ## PLMN identities -/

namespace PlmnId

/-- The octets cut off after the third, or filled up with zeros. -/
def threeOctets (octets : List UInt8) : List UInt8 :=
  (octets.take 3).rightpad 3 0

theorem threeOctets_cases (octets : List UInt8) :
    ∃ a b c, threeOctets octets = [a, b, c] ∧ ofOctets octets = ofOctets [a, b, c] := by
  match octets with
  | [] => exact ⟨0, 0, 0, rfl, rfl⟩
  | [a] => exact ⟨a, 0, 0, rfl, rfl⟩
  | [a, b] => exact ⟨a, b, 0, rfl, rfl⟩
  | a :: b :: c :: rest => exact ⟨a, b, c, rfl, rfl⟩

/-- The filler tells the two lengths of the network code apart. -/
theorem ofOctets_injective {a b c a' b' c' : UInt8}
    (heq : ofOctets [a, b, c] = ofOctets [a', b', c']) : [a, b, c] = [a', b', c'] := by
  have hmcc := String.ofList_injective (congrArg PlmnId.mcc heq)
  have hmnc := String.ofList_injective (congrArg PlmnId.mnc heq)
  simp only [List.getD_cons_zero, List.getD_cons_succ, List.map_cons, List.map_nil,
    List.cons.injEq, and_true] at hmcc hmnc
  obtain ⟨hfirstLow, hfirstHigh, hsecondLow⟩ := hmcc
  have hrest : Hex.highNibble b = Hex.highNibble b' ∧ Hex.lowNibble c = Hex.lowNibble c' ∧
      Hex.highNibble c = Hex.highNibble c' := by
    split at hmnc <;> split at hmnc <;>
      simp only [List.map_cons, List.map_nil, List.cons.injEq, and_true, reduceCtorEq,
        and_false] at hmnc
    next hshort hother =>
      exact ⟨hshort.trans hother.symm, Hex.digit_lowNibble hmnc.1, Hex.digit_highNibble hmnc.2⟩
    next =>
      exact ⟨Hex.digit_highNibble hmnc.1, Hex.digit_lowNibble hmnc.2.1,
        Hex.digit_highNibble hmnc.2.2⟩
  rw [Hex.octet_ext (Hex.digit_highNibble hfirstHigh) (Hex.digit_lowNibble hfirstLow),
    Hex.octet_ext hrest.1 (Hex.digit_lowNibble hsecondLow), Hex.octet_ext hrest.2.2 hrest.2.1]

theorem ofOctets_eq_iff (left right : List UInt8) :
    ofOctets left = ofOctets right ↔ threeOctets left = threeOctets right := by
  obtain ⟨a, b, c, hleft, hleftCode⟩ := threeOctets_cases left
  obtain ⟨a', b', c', hright, hrightCode⟩ := threeOctets_cases right
  rw [hleft, hright, hleftCode, hrightCode]
  exact ⟨ofOctets_injective, congrArg ofOctets⟩

end PlmnId

/-! ## Times -/

namespace Instant

/-- The count that octets write, the high octet first. -/
def count (octets : List UInt8) : Nat :=
  octets.foldl (fun count octet => 256 * count + octet.toNat) 0

/-- A whole second of the first era after the UNIX epoch, and congruent to a count of seconds since
1900 less the seconds up to the epoch. -/
structure CountedBy (instant : Instant) (octets : List UInt8) : Prop where
  whole : instant.nanoseconds = 0
  nonneg : 0 ≤ instant.seconds
  lt_era : instant.seconds < eraLength
  congruent : instant.seconds % eraLength = ((count octets : Int) - epochOffset) % eraLength

theorem CountedBy.unique {left right : Instant} {octets : List UInt8}
    (hleft : left.CountedBy octets) (hright : right.CountedBy octets) : left = right := by
  have hseconds : left.seconds = right.seconds := by
    rw [← Int.emod_eq_of_lt hleft.nonneg hleft.lt_era, hleft.congruent, ← hright.congruent,
      Int.emod_eq_of_lt hright.nonneg hright.lt_era]
  have hnanoseconds : left.nanoseconds = right.nanoseconds := hleft.whole.trans hright.whole.symm
  cases left
  cases right
  cases hseconds
  cases hnanoseconds
  rfl

theorem count_four (a b c d : UInt8) :
    count [a, b, c, d] =
      16777216 * a.toNat + 65536 * b.toNat + 256 * c.toNat + d.toNat := by
  simp only [count, List.foldl_cons, List.foldl_nil]
  omega

theorem count_four_lt (a b c d : UInt8) : count [a, b, c, d] < eraLength := by
  have ha := a.toNat_lt
  have hb := b.toNat_lt
  have hc := c.toNat_lt
  have hd := d.toNat_lt
  rw [count_four, eraLength]
  omega

theorem count_four_injective {a b c d a' b' c' d' : UInt8}
    (heq : count [a, b, c, d] = count [a', b', c', d']) : [a, b, c, d] = [a', b', c', d'] := by
  have hb := b.toNat_lt
  have hc := c.toNat_lt
  have hd := d.toNat_lt
  have hb' := b'.toNat_lt
  have hc' := c'.toNat_lt
  have hd' := d'.toNat_lt
  rw [count_four, count_four] at heq
  simp only [List.cons.injEq, and_true, ← UInt8.toNat_inj]
  omega

theorem four_of_length {octets : List UInt8} (hlength : octets.length = 4) :
    ∃ a b c d, octets = [a, b, c, d] := by
  match octets with
  | [a, b, c, d] => exact ⟨a, b, c, d, rfl⟩

theorem secondsOfCount_ofNat {value : Nat} (hlt : value < eraLength) :
    secondsOfCount (UInt32.ofNat value) =
      if epochOffset ≤ value then value - epochOffset else value + eraLength - epochOffset := by
  rw [secondsOfCount, UInt32.toNat_ofNat_of_lt' hlt]

theorem ofOctets?_countedBy {octets : List UInt8} (hlength : octets.length = 4) :
    ∃ instant, ofOctets? octets = some instant ∧ instant.CountedBy octets := by
  obtain ⟨a, b, c, d, rfl⟩ := four_of_length hlength
  have hlt := count_four_lt a b c d
  refine ⟨_, rfl, rfl, Int.natCast_nonneg _, ?_, ?_⟩
  · exact Int.ofNat_lt.mpr (secondsOfCount_lt _)
  · dsimp only
    rw [← count_four, secondsOfCount_ofNat hlt]
    unfold eraLength epochOffset at *
    split <;> omega

theorem ofOctets?_eq_none {octets : List UInt8} (hlength : octets.length ≠ 4) :
    ofOctets? octets = none := by
  unfold ofOctets?
  split
  · exact absurd rfl hlength
  · rfl

theorem ofOctets?_injective {left right : List UInt8} (hleft : left.length = 4)
    (hright : right.length = 4) (heq : ofOctets? left = ofOctets? right) : left = right := by
  obtain ⟨instant, hinstant, hcounted⟩ := ofOctets?_countedBy hleft
  obtain ⟨other, hother, hcountedOther⟩ := ofOctets?_countedBy hright
  obtain rfl : instant = other := by
    rw [← Option.some.injEq, ← hinstant, heq, hother]
  obtain ⟨a, b, c, d, rfl⟩ := four_of_length hleft
  obtain ⟨a', b', c', d', rfl⟩ := four_of_length hright
  apply count_four_injective
  have hlt := count_four_lt a b c d
  have hlt' := count_four_lt a' b' c' d'
  have hcongruent := hcounted.congruent.symm.trans hcountedOther.congruent
  unfold eraLength epochOffset at *
  omega

end Instant

/-! ## Cell reports -/

namespace CellReport

/-- A report with a time, which is written in four octets. -/
def Timed (report : CellReport) : Prop :=
  ∃ octets, report.timestamp = some octets ∧ octets.length = 4

/-- The same time in both reports, or none in either. -/
def SameTime (left right : CellReport) : Prop :=
  (∃ octets, left.timestamp = some octets ∧ right.timestamp = some octets ∧ octets.length = 4) ∨
    (¬ left.Timed ∧ ¬ right.Timed)

/-- The reports agree on all that a location covers. -/
structure Agrees (left right : CellReport) : Prop where
  taiPlmn : PlmnId.threeOctets left.tai.plmn = PlmnId.threeOctets right.tai.plmn
  tac : left.tai.tac = right.tai.tac
  cellPlmn : PlmnId.threeOctets left.cellPlmn = PlmnId.threeOctets right.cellPlmn
  covered : left.cell.covered = right.cell.covered
  nibble : ∀ i < left.cell.covered,
    Hex.nibble? left.cell.octets i = Hex.nibble? right.cell.octets i
  time : left.SameTime right

theorem sentTime?_eq_some {report : CellReport} {octets : List UInt8}
    (hsent : report.timestamp = some octets) (hlength : octets.length = 4) :
    ∃ instant, report.sentTime? = some instant ∧ Instant.ofOctets? octets = some instant := by
  obtain ⟨instant, hinstant, -⟩ := Instant.ofOctets?_countedBy hlength
  refine ⟨instant, ?_, hinstant⟩
  rw [sentTime?, hsent, Option.bind_some, hinstant]

theorem sentTime?_eq_none {report : CellReport} (huntimed : ¬ report.Timed) :
    report.sentTime? = none := by
  unfold sentTime?
  cases hsent : report.timestamp with
  | none => rfl
  | some octets => exact Instant.ofOctets?_eq_none fun hlength => huntimed ⟨octets, hsent, hlength⟩

theorem sentTime?_eq_iff (left right : CellReport) :
    left.sentTime? = right.sentTime? ↔ left.SameTime right := by
  constructor
  · intro heq
    by_cases hleft : left.Timed
    · obtain ⟨octets, hsent, hlength⟩ := hleft
      obtain ⟨instant, htime, hinstant⟩ := sentTime?_eq_some hsent hlength
      by_cases hright : right.Timed
      · obtain ⟨others, hothers, hlengthOthers⟩ := hright
        obtain ⟨other, htimeOther, hother⟩ := sentTime?_eq_some hothers hlengthOthers
        obtain rfl : octets = others := by
          apply Instant.ofOctets?_injective hlength hlengthOthers
          rw [hinstant, hother, ← htime, heq, htimeOther]
        exact Or.inl ⟨octets, hsent, hothers, hlength⟩
      · rw [htime, sentTime?_eq_none hright] at heq
        cases heq
    · by_cases hright : right.Timed
      · obtain ⟨others, hothers, hlengthOthers⟩ := hright
        obtain ⟨other, htimeOther, -⟩ := sentTime?_eq_some hothers hlengthOthers
        rw [htimeOther, sentTime?_eq_none hleft] at heq
        cases heq
      · exact Or.inr ⟨hleft, hright⟩
  · rintro (⟨octets, hleft, hright, -⟩ | ⟨hleft, hright⟩)
    · rw [sentTime?, sentTime?, hleft, hright]
    · rw [sentTime?_eq_none hleft, sentTime?_eq_none hright]

/-- What a report says, NR or E-UTRA. -/
def content (report : CellReport) : Tai × PlmnId × String × Option Instant :=
  (Tai.ofReported report.tai, PlmnId.ofOctets report.cellPlmn, report.cell.hex, report.sentTime?)

theorem content_eq_iff (left right : CellReport) :
    left.content = right.content ↔ left.Agrees right := by
  simp only [content, Prod.mk.injEq, Tai.ofReported, Tai.mk.injEq, PlmnId.ofOctets_eq_iff,
    BitString.hex_eq_iff, sentTime?_eq_iff]
  constructor
  · rintro ⟨⟨htaiPlmn, htac⟩, hcellPlmn, ⟨hcovered, hnibble⟩, htime⟩
    exact ⟨htaiPlmn, Hex.encode_injective htac, hcellPlmn, hcovered, hnibble, htime⟩
  · rintro ⟨htaiPlmn, htac, hcellPlmn, hcovered, hnibble, htime⟩
    exact ⟨⟨htaiPlmn, congrArg Hex.encode htac⟩, hcellPlmn, ⟨hcovered, hnibble⟩, htime⟩

end CellReport

/-- Without the time where it is the one of arrival. -/
def NrLocation.withoutClock (location : NrLocation) : NrLocation :=
  { location with timestamp := location.age.bind fun _ => location.timestamp }

/-- Without the time where it is the one of arrival. -/
def EutraLocation.withoutClock (location : EutraLocation) : EutraLocation :=
  { location with timestamp := location.age.bind fun _ => location.timestamp }

namespace CellReport

theorem timestamp_withoutClock (report : CellReport) (now : Instant) :
    (report.age.bind fun _ => some (report.time now)) = report.sentTime? := by
  unfold age time
  cases report.sentTime? <;> rfl

theorem nrLocation_eq_iff (left right : CellReport) (now later : Instant) :
    (left.nrLocation now).withoutClock = (right.nrLocation later).withoutClock ↔
      left.Agrees right := by
  rw [← content_eq_iff, NrLocation.withoutClock, NrLocation.withoutClock]
  simp only [nrLocation, timestamp_withoutClock, NrLocation.mk.injEq, Ncgi.mk.injEq, content,
    Prod.mk.injEq]
  constructor
  · rintro ⟨htai, ⟨hplmn, hcell⟩, -, htime⟩
    exact ⟨htai, hplmn, hcell, htime⟩
  · rintro ⟨htai, hplmn, hcell, htime⟩
    exact ⟨htai, ⟨hplmn, hcell⟩, by rw [age, age, htime], htime⟩

theorem eutraLocation_eq_iff (left right : CellReport) (now later : Instant) :
    (left.eutraLocation now).withoutClock = (right.eutraLocation later).withoutClock ↔
      left.Agrees right := by
  rw [← content_eq_iff, EutraLocation.withoutClock, EutraLocation.withoutClock]
  simp only [eutraLocation, timestamp_withoutClock, EutraLocation.mk.injEq, Ecgi.mk.injEq, content,
    Prod.mk.injEq]
  constructor
  · rintro ⟨htai, ⟨hplmn, hcell⟩, -, htime⟩
    exact ⟨htai, hplmn, hcell, htime⟩
  · rintro ⟨htai, hplmn, hcell, htime⟩
    exact ⟨htai, ⟨hplmn, hcell⟩, by rw [age, age, htime], htime⟩

end CellReport

end AccessMobility
