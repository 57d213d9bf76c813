import AccessMobility.Proofs.ReportContent

/-!
# Decoding does not fail

The decoders of the registry cannot fail by their form.  They are compared with decoders that go by
way of hexadecimal text and can: these have no answer where an index is out of range, where text is
cut within a character, and where arithmetic leaves 64 bits.  Both give the same location for every
report, and it is the one a location update stores.
-/

namespace AccessMobility

/-! ## Decoders that can fail -/

namespace Checked

/-- The items from one position up to another. -/
def slice? (items : List α) (start stop : Nat) : Option (List α) :=
  if start ≤ stop ∧ stop ≤ items.length then some ((items.drop start).take (stop - start))
  else none

/-- The items at some positions, one after another. -/
def pick? (items : List α) (positions : List Nat) : Option (List α) :=
  positions.mapM (items[·]?)

/-- Text cut after some bytes; a cut that is not between two characters is refused. -/
def truncate? : List Char → Nat → Option (List Char)
  | _, 0 => some []
  | [], _ => some []
  | c :: rest, size + 1 =>
    if c.utf8Size ≤ size + 1 then
      (truncate? rest (size + 1 - c.utf8Size)).map (c :: ·)
    else
      none

/-- A result of 64-bit arithmetic without a sign. -/
def word? (value : Int) : Option Int :=
  if 0 ≤ value ∧ value < 18446744073709551616 then some value else none

/-- The identity in the digits of up to three octets, filled up with zeros to six digits. -/
def plmnId? (octets : List UInt8) : Option PlmnId := do
  let sent ← slice? octets 0 (min octets.length 3)
  let digits := (Hex.digits sent).rightpad 6 '0'
  let mcc ← pick? digits [1, 0, 3]
  let first ← digits[2]?
  let mnc ← pick? digits (if first = 'f' then [5, 4] else [2, 5, 4])
  return { mcc := String.ofList mcc, mnc := String.ofList mnc }

def tai? (reported : ReportedTai) : Option Tai := do
  let plmnId ← plmnId? reported.plmn
  return { plmnId, tac := Hex.encode reported.tac }

/-- The digits of all octets, cut after a quarter of the bits, rounded up in 64 bits. -/
def cell? (bits : BitString) : Option String := do
  let quotient := bits.bitLength / 4
  let count ← word? (quotient.toNat + if bits.bitLength % 4 = 0 then 0 else 1)
  let digits ← truncate? (Hex.digits bits.octets) count.toNat
  return String.ofList digits

/-- A count from before the UNIX epoch is carried into the next era first. -/
def seconds? (count : Nat) : Option Int :=
  if Instant.epochOffset ≤ count then
    word? (count - Instant.epochOffset)
  else do
    let carried ← word? (count + Instant.eraLength)
    word? (carried - Instant.epochOffset)

def instant? (octets : List UInt8) : Option (Option Instant) :=
  if octets.length = 4 then do
    let seconds ← seconds? (Instant.count octets)
    return Instant.ofSeconds? seconds
  else
    some none

def age? (report : CellReport) (now : Instant) : Option (Option Int32 × Instant) :=
  match report.timestamp with
  | none => some (none, now)
  | some octets => do
    match ← instant? octets with
    | some sent => return (some 0, sent)
    | none => return (none, now)

def nrLocation? (report : CellReport) (now : Instant) : Option NrLocation := do
  let tai ← tai? report.tai
  let (age, time) ← age? report now
  let plmnId ← plmnId? report.cellPlmn
  let nrCellId ← cell? report.cell
  return { tai, cell := { plmnId, nrCellId }, age, timestamp := some time }

def eutraLocation? (report : CellReport) (now : Instant) : Option EutraLocation := do
  let tai ← tai? report.tai
  let (age, time) ← age? report now
  let plmnId ← plmnId? report.cellPlmn
  let eutraCellId ← cell? report.cell
  return { tai, cell := { plmnId, eutraCellId }, age, timestamp := some time }

/-- The text of an IPv6 address, which has sixteen octets. -/
def ipv6 (octets : List UInt8) : Option String :=
  if octets.length = 16 then some (IPv6.text octets) else none

def address? (bits : BitString) : Option TransportAddress :=
  if bits.bitLength = 32 ∧ 4 ≤ bits.octets.length then do
    let first ← pick? bits.octets [0, 1, 2, 3]
    return { ipv4 := some (IPv4.text first), ipv6 := none }
  else if bits.bitLength = 128 ∧ 16 ≤ bits.octets.length then do
    let first ← slice? bits.octets 0 16
    return { ipv4 := none, ipv6 := ipv6 first }
  else if bits.bitLength = 160 ∧ 20 ≤ bits.octets.length then do
    let first ← pick? bits.octets [0, 1, 2, 3]
    let second ← slice? bits.octets 4 20
    return { ipv4 := some (IPv4.text first), ipv6 := ipv6 second }
  else
    some { ipv4 := none, ipv6 := none }

def n3gaLocation? (report : InterworkingReport) (operatorTai : Option Tai) :
    Option N3gaLocation := do
  let address ← address? report.address
  return {
    tai := operatorTai
    ipv4 := address.ipv4
    ipv6 := address.ipv6
    portNumber := PortNumber.ofOctets? report.portNumber }

/-- Replace the location of the kind reported. -/
def merge? (report : LocationReport) (operatorTai : Option Tai) (now : Instant)
    (location : UserLocation) : Option UserLocation :=
  match report with
  | .nr report => do return { location with nr := some (← nrLocation? report now) }
  | .eutra report => do return { location with eutra := some (← eutraLocation? report now) }
  | .n3iwf report => do return { location with n3ga := some (← n3gaLocation? report operatorTai) }

/-! ### They never do -/

theorem pick?_four {octets : List UInt8} (hlength : 4 ≤ octets.length) :
    pick? octets [0, 1, 2, 3] = some (octets.take 4) := by
  match octets with
  | a :: b :: c :: d :: rest => rfl

theorem slice?_eq {items : List α} {start stop : Nat} (hstart : start ≤ stop)
    (hstop : stop ≤ items.length) :
    slice? items start stop = some ((items.drop start).take (stop - start)) :=
  if_pos ⟨hstart, hstop⟩

theorem word?_eq {value : Int} (hnonneg : 0 ≤ value) (hlt : value < 18446744073709551616) :
    word? value = some value :=
  if_pos ⟨hnonneg, hlt⟩

theorem truncate?_eq {text : List Char} (hascii : ∀ c ∈ text, c.utf8Size = 1) (size : Nat) :
    truncate? text size = some (text.take size) := by
  induction text generalizing size with
  | nil => cases size <;> rfl
  | cons c rest ih =>
      cases size with
      | zero => rfl
      | succ size =>
          have hc : c.utf8Size = 1 := hascii c (List.mem_cons_self ..)
          rw [truncate?, hc, if_pos (Nat.le_add_left ..), Nat.add_sub_cancel,
            ih (fun other hmem => hascii other (List.mem_cons_of_mem _ hmem)), Option.map_some,
            List.take_succ_cons]

theorem utf8Size_digit {nibble : Nat} (hlt : nibble < 16) : (Hex.digit nibble).utf8Size = 1 := by
  have hall : ∀ n : Fin 16, (Hex.digit n.val).utf8Size = 1 := by decide
  exact hall ⟨nibble, hlt⟩

theorem utf8Size_digits (octets : List UInt8) : ∀ c ∈ Hex.digits octets, c.utf8Size = 1 := by
  intro c hmem
  obtain ⟨i, hdigit⟩ := List.mem_iff_getElem?.mp hmem
  rw [Hex.getElem?_digits, Option.map_eq_some_iff] at hdigit
  obtain ⟨nibble, hnibble, rfl⟩ := hdigit
  exact utf8Size_digit (Hex.nibble?_lt hnibble)

theorem digit_eq_f_iff (octet : UInt8) :
    Hex.digit (Hex.highNibble octet) = 'f' ↔ Hex.highNibble octet = PlmnId.filler := by
  have hfiller : 'f' = Hex.digit PlmnId.filler := rfl
  rw [hfiller]
  exact ⟨Hex.digit_injective (Hex.highNibble_lt octet) (by decide), congrArg Hex.digit⟩

theorem plmnId?_eq (octets : List UInt8) : plmnId? octets = some (PlmnId.ofOctets octets) := by
  obtain ⟨a, b, c, hthree, hcode⟩ := PlmnId.threeOctets_cases octets
  have hsliced : slice? octets 0 (min octets.length 3) = some (octets.take 3) := by
    rw [slice?_eq (Nat.zero_le _) (Nat.min_le_left ..), List.drop_zero, Nat.sub_zero, Nat.min_comm,
      ← List.take_eq_take_min]
  have hpadded : (Hex.digits (octets.take 3)).rightpad 6 '0' = Hex.digits [a, b, c] := by
    rw [← hthree]
    match octets with
    | [] => rfl
    | [_] => rfl
    | [_, _] => rfl
    | _ :: _ :: _ :: _ => rfl
  rw [plmnId?, hsliced, hcode]
  simp only [Option.bind_eq_bind, Option.bind_some, hpadded]
  have hmcc : pick? (Hex.digits [a, b, c]) [1, 0, 3] =
      some [Hex.digit (Hex.lowNibble a), Hex.digit (Hex.highNibble a),
        Hex.digit (Hex.lowNibble b)] := rfl
  have hfirst : (Hex.digits [a, b, c])[2]? = some (Hex.digit (Hex.highNibble b)) := rfl
  rw [hmcc, hfirst]
  simp only [Option.bind_some, digit_eq_f_iff]
  by_cases hfiller : Hex.highNibble b = PlmnId.filler
  · rw [if_pos hfiller]
    simp [PlmnId.ofOctets, hfiller, pick?, Hex.digits]
  · rw [if_neg hfiller]
    simp [PlmnId.ofOctets, hfiller, pick?, Hex.digits]

theorem tai?_eq (reported : ReportedTai) : tai? reported = some (Tai.ofReported reported) := by
  rw [tai?, plmnId?_eq]
  rfl

theorem cell?_eq (bits : BitString) : cell? bits = some bits.hex := by
  have hbits := bits.bitLength.toNat_lt
  have hcount : ((bits.bitLength / 4).toNat + if bits.bitLength % 4 = 0 then 0 else 1 : Int) =
      bits.nibbles := by
    have hquotient : (bits.bitLength / 4).toNat = bits.bitLength.toNat / 4 := rfl
    have hremainder : bits.bitLength % 4 = 0 ↔ bits.bitLength.toNat % 4 = 0 :=
      UInt64.toNat_inj.symm
    rw [BitString.nibbles, hquotient]
    simp only [hremainder]
    split <;> omega
  have hnibbles : (bits.nibbles : Int) < 18446744073709551616 := by
    unfold BitString.nibbles
    omega
  rw [cell?]
  simp only [hcount, word?_eq (Int.natCast_nonneg _) hnibbles, Option.bind_eq_bind,
    Option.bind_some, Int.toNat_natCast, truncate?_eq (utf8Size_digits bits.octets)]
  rfl

theorem ofSeconds?_seconds {instant : Instant} (hwhole : instant.nanoseconds = 0) :
    Instant.ofSeconds? instant.seconds = some instant := by
  rw [Instant.ofSeconds?, dif_pos ⟨instant.le_seconds, instant.seconds_lt⟩]
  cases instant
  cases hwhole
  rfl

theorem seconds?_eq {instant : Instant} {octets : List UInt8} (hcounted : instant.CountedBy octets)
    (hlt : Instant.count octets < Instant.eraLength) :
    seconds? (Instant.count octets) = some instant.seconds := by
  have hnonneg := hcounted.nonneg
  have hera := hcounted.lt_era
  have hcongruent := hcounted.congruent
  unfold seconds?
  generalize Instant.count octets = count at *
  unfold Instant.eraLength Instant.epochOffset at *
  split
  next hlate =>
    have hseconds : (count : Int) - (2208988800 : Nat) = instant.seconds := by omega
    rw [hseconds]
    exact word?_eq hnonneg (by omega)
  next hearly =>
    have hseconds : (count : Int) + (4294967296 : Nat) - (2208988800 : Nat) = instant.seconds := by
      omega
    rw [word?_eq (by omega) (by omega), Option.bind_eq_bind, Option.bind_some, hseconds]
    exact word?_eq hnonneg (by omega)

theorem instant?_eq (octets : List UInt8) : instant? octets = some (Instant.ofOctets? octets) := by
  unfold instant?
  by_cases hlength : octets.length = 4
  · obtain ⟨instant, hinstant, hcounted⟩ := Instant.ofOctets?_countedBy hlength
    have hlt : Instant.count octets < Instant.eraLength := by
      obtain ⟨a, b, c, d, rfl⟩ := Instant.four_of_length hlength
      exact Instant.count_four_lt a b c d
    rw [if_pos hlength, seconds?_eq hcounted hlt, hinstant, ← ofSeconds?_seconds hcounted.whole]
    rfl
  · rw [if_neg hlength, Instant.ofOctets?_eq_none hlength]

theorem age?_eq (report : CellReport) (now : Instant) :
    age? report now = some (report.age, report.time now) := by
  unfold age? CellReport.age CellReport.time CellReport.sentTime?
  cases report.timestamp with
  | none => rfl
  | some octets =>
      dsimp only
      rw [instant?_eq, Option.bind_some]
      cases Instant.ofOctets? octets <;> rfl

theorem nrLocation?_eq (report : CellReport) (now : Instant) :
    nrLocation? report now = some (report.nrLocation now) := by
  rw [nrLocation?, tai?_eq, age?_eq, plmnId?_eq, cell?_eq]
  rfl

theorem eutraLocation?_eq (report : CellReport) (now : Instant) :
    eutraLocation? report now = some (report.eutraLocation now) := by
  rw [eutraLocation?, tai?_eq, age?_eq, plmnId?_eq, cell?_eq]
  rfl

theorem ipv6_eq {octets : List UInt8} (hlength : octets.length = 16) :
    ipv6 octets = some (IPv6.text octets) :=
  if_pos hlength

theorem address?_eq (bits : BitString) :
    address? bits = some (TransportAddress.ofBitString bits) := by
  unfold address? TransportAddress.ofBitString
  by_cases hsupported : TransportAddress.Supported bits
  · rw [if_pos hsupported]
    obtain ⟨hbits, hlength⟩ | ⟨hbits, hlength⟩ | ⟨hbits, hlength⟩ := hsupported
    · rw [if_pos ⟨hbits, hlength⟩, if_pos hbits, pick?_four hlength]
      rfl
    · have hsixteen : (bits.octets.take 16).length = 16 := List.length_take_of_le hlength
      rw [if_neg (by simp [hbits]), if_pos ⟨hbits, hlength⟩, if_neg (by simp [hbits]),
        if_pos hbits, slice?_eq (by omega) hlength]
      simp only [Option.bind_eq_bind, Option.bind_some, List.drop_zero, Nat.sub_zero,
        ipv6_eq hsixteen]
      rfl
    · have hsixteen : ((bits.octets.drop 4).take 16).length = 16 := by
        rw [List.length_take_of_le (by rw [List.length_drop]; omega)]
      rw [if_neg (by simp [hbits]), if_neg (by simp [hbits]), if_pos ⟨hbits, hlength⟩,
        if_neg (by simp [hbits]), if_neg (by simp [hbits]), pick?_four (by omega),
        slice?_eq (by omega) hlength]
      simp only [Option.bind_eq_bind, Option.bind_some, Nat.reduceSub, ipv6_eq hsixteen]
      rfl
  · have hneither := hsupported
    rw [TransportAddress.Supported, not_or, not_or] at hneither
    rw [if_neg hsupported, if_neg hneither.1, if_neg hneither.2.1, if_neg hneither.2.2]

theorem n3gaLocation?_eq (report : InterworkingReport) (operatorTai : Option Tai) :
    n3gaLocation? report operatorTai = some (report.location operatorTai) := by
  rw [n3gaLocation?, address?_eq]
  rfl

theorem merge?_eq (report : LocationReport) (operatorTai : Option Tai) (now : Instant)
    (location : UserLocation) :
    merge? report operatorTai now location = some (report.merge operatorTai now location) := by
  cases report with
  | nr report => rw [merge?, nrLocation?_eq]; rfl
  | eutra report => rw [merge?, eutraLocation?_eq]; rfl
  | n3iwf report => rw [merge?, n3gaLocation?_eq]; rfl

end Checked

namespace World

open State

/-- What a RAN UE knows of its location after an update. -/
def located (world : World) (ref : Ref RanUe) (report : LocationReport) (now : Instant) :
    UserLocation :=
  ((world.updateLocation ref (some report) now).state.ranUe ref).location

section

variable (world : World) (ref : Ref RanUe) (report : LocationReport) (now : Instant)

theorem located_eq :
    world.located ref report now =
      report.merge world.state.registry.operatorTai now (world.state.ranUe ref).location := by
  have hstate : (world.updateLocation ref (some report) now).state = _ :=
    state_updateLocation ⟨world.state, ref, report, now⟩ (rfl : world.state = world.state)
  rw [located, hstate]
  dsimp only
  split
  · rw [ranUe_setRanUe, if_pos rfl]
    rfl
  · rw [ranUe_setUe, ranUe_setRanUe, if_pos rfl]
    rfl

theorem location_ueOfRanUe {ue : Ref Ue} (howner : world.state.ueOfRanUe ref = some ue) :
    ((world.updateLocation ref (some report) now).state.ue ue).location =
      world.located ref report now := by
  have hstate : (world.updateLocation ref (some report) now).state = _ :=
    state_updateLocation ⟨world.state, ref, report, now⟩ (rfl : world.state = world.state)
  rw [hstate, located_eq]
  dsimp only
  rw [howner]
  dsimp only
  rw [ue_setUe, if_pos rfl]
  rfl

end

/-- Two reports of one kind are stored as the same location, but for a time of arrival, exactly if
they agree on what a location covers.  Every report is decoded without a failure, and a time in
four octets to the second of the era after the UNIX epoch that is congruent to it. -/
theorem updateLocation_exact (left right : CellReport) :
    (∀ (world other : World) (ref otherRef : Ref RanUe) (now later : Instant),
      ((world.located ref (.nr left) now).nr.map NrLocation.withoutClock =
          (other.located otherRef (.nr right) later).nr.map NrLocation.withoutClock ↔
        left.Agrees right) ∧
      ((world.located ref (.eutra left) now).eutra.map EutraLocation.withoutClock =
          (other.located otherRef (.eutra right) later).eutra.map EutraLocation.withoutClock ↔
        left.Agrees right)) ∧
    (∀ (world : World) (ref : Ref RanUe) (report : LocationReport) (now : Instant),
      Checked.merge? report world.state.registry.operatorTai now (world.state.ranUe ref).location =
          some (world.located ref report now) ∧
        ∀ ue, world.state.ueOfRanUe ref = some ue →
          ((world.updateLocation ref (some report) now).state.ue ue).location =
            world.located ref report now) ∧
    ∀ octets, left.timestamp = some octets → octets.length = 4 →
      ∃ instant : Instant, instant.CountedBy octets ∧
        (∀ other : Instant, other.CountedBy octets → other = instant) ∧
        ∀ (world : World) (ref : Ref RanUe) (now : Instant),
          (world.located ref (.nr left) now).nr.bind NrLocation.timestamp = some instant ∧
          (world.located ref (.eutra left) now).eutra.bind EutraLocation.timestamp =
            some instant := by
  refine ⟨?_, ?_, ?_⟩
  · intro world other ref otherRef now later
    simp only [located_eq, LocationReport.merge, Option.map_some, Option.some.injEq]
    exact ⟨CellReport.nrLocation_eq_iff .., CellReport.eutraLocation_eq_iff ..⟩
  · intro world ref report now
    rw [located_eq, Checked.merge?_eq]
    refine ⟨rfl, fun ue howner => ?_⟩
    rw [location_ueOfRanUe _ _ _ _ howner, located_eq]
  · intro octets hsent hlength
    obtain ⟨instant, hinstant, hcounted⟩ := Instant.ofOctets?_countedBy hlength
    have htime (now : Instant) : left.time now = instant := by
      rw [CellReport.time, CellReport.sentTime?, hsent, Option.bind_some, hinstant]
      rfl
    refine ⟨instant, hcounted, fun other hother => hother.unique hcounted, fun world ref now => ?_⟩
    rw [located_eq, located_eq]
    exact ⟨congrArg some (htime now), congrArg some (htime now)⟩

/-- Octets that are missing or beyond, and nibbles beyond the length, make no difference, and one
second before the UNIX epoch is the last second of the era that follows it. -/
theorem updateLocation_exact_padded :
    let time : List UInt8 := [0x83, 0xaa, 0x7e, 0x7f]
    let left : CellReport :=
      { tai := ⟨[0x02, 0xf8], [0, 0, 1]⟩, cellPlmn := [0x00, 0xf1, 0x10, 0xaa]
        cell := ⟨[0x00, 0x00, 0x00, 0x01, 0x2f], 36⟩, timestamp := some time }
    let right : CellReport :=
      { tai := ⟨[0x02, 0xf8, 0x00], [0, 0, 1]⟩, cellPlmn := [0x00, 0xf1, 0x10]
        cell := ⟨[0x00, 0x00, 0x00, 0x01, 0x20], 33⟩, timestamp := some time }
    let world := opened Config.standard
    left.timestamp = some time ∧ time.length = 4 ∧ left.Agrees right ∧
      (world.located ⟨0⟩ (.nr left) default).nr.map NrLocation.withoutClock =
        (world.located ⟨0⟩ (.nr right) default).nr.map NrLocation.withoutClock ∧
      ∃ instant, (world.located ⟨0⟩ (.nr left) default).nr.bind NrLocation.timestamp =
        some instant ∧ instant.seconds = 4294967295 := by
  intro time left right world
  have hagrees : left.Agrees right :=
    { taiPlmn := rfl
      tac := rfl
      cellPlmn := rfl
      covered := by decide
      nibble := by decide
      time := Or.inl ⟨time, rfl, rfl, rfl⟩ }
  obtain ⟨hequal, -, htimes⟩ := updateLocation_exact left right
  obtain ⟨instant, hcounted, -, hstored⟩ := htimes time rfl rfl
  have hcount : Instant.count time = 2208988799 := by decide
  have hseconds : instant.seconds = 4294967295 := by
    have hnonneg := hcounted.nonneg
    have hera := hcounted.lt_era
    have hcongruent := hcounted.congruent
    rw [hcount] at hcongruent
    unfold Instant.eraLength Instant.epochOffset at *
    omega
  exact ⟨rfl, rfl, hagrees, (hequal world world ⟨0⟩ ⟨0⟩ default default).1.mpr hagrees, instant,
    (hstored world ⟨0⟩ default).1, hseconds⟩

end World

end AccessMobility
