import AccessMobility.Config.Basic
import AccessMobility.Location.Basic
import AccessMobility.Policy
import AccessMobility.Proofs.ReadsBack
import AccessMobility.Subscription

/-!
# What is written as JSON is read back

Every type of the data model is written as JSON and read from it.  The reader gives back what was
written, whatever the order of the entries and whatever other entries stand beside them; only times
admit no other entries, and only times since the epoch can be written.
-/

namespace AccessMobility

open Document

/-! ## Identities -/

namespace PlmnId

def shape : Shape :=
  .record [("mcc", .value), ("mnc", .value)] true

theorem readsBack : ReadsBack shape toJson read fun _ => True := by
  refine .record (by decide) (fun plmn => ?_) (fun plmn => ?_) fun entries others halike => ?_
  · simp [Shape.FieldFits]
  · simp [Record.required, text_readsBack.read_write]
  · simp only [List.forall_mem_cons] at halike
    obtain ⟨hmcc, hmnc, -⟩ := halike
    rw [text_readsBack.respects.required hmcc, text_readsBack.respects.required hmnc]

end PlmnId

namespace Guami

def shape : Shape :=
  .record [("plmnId", PlmnId.shape), ("amfId", .value)] true

theorem readsBack : ReadsBack shape toJson read fun _ => True := by
  refine .record (by decide) (fun guami => ?_) (fun guami => ?_) fun entries others halike => ?_
  · simp [Shape.FieldFits, PlmnId.readsBack.fits]
  · simp [Record.required, PlmnId.readsBack.read_write, text_readsBack.read_write]
  · simp only [List.forall_mem_cons] at halike
    obtain ⟨hplmnId, hamfId, -⟩ := halike
    rw [PlmnId.readsBack.respects.required hplmnId, text_readsBack.respects.required hamfId]

end Guami

namespace Tai

def shape : Shape :=
  .record [("plmnId", PlmnId.shape), ("tac", .value)] true

theorem readsBack : ReadsBack shape toJson read fun _ => True := by
  refine .record (by decide) (fun tai => ?_) (fun tai => ?_) fun entries others halike => ?_
  · simp [Shape.FieldFits, PlmnId.readsBack.fits]
  · simp [Record.required, PlmnId.readsBack.read_write, text_readsBack.read_write]
  · simp only [List.forall_mem_cons] at halike
    obtain ⟨hplmnId, htac, -⟩ := halike
    rw [PlmnId.readsBack.respects.required hplmnId, text_readsBack.respects.required htac]

end Tai

namespace Snssai

def shape : Shape :=
  .record [("sst", .value), ("sd", .value)] true

theorem readsBack : ReadsBack shape toJson read fun _ => True := by
  refine .record (by decide) (fun slice => ?_) (fun slice => ?_) fun entries others halike => ?_
  · simp [Shape.FieldFits]
  · simp [Record.required, Record.optional_eq, uint8_readsBack.read_write,
      text_readsBack.readOptional_map]
  · simp only [List.forall_mem_cons] at halike
    obtain ⟨hsst, hsd, -⟩ := halike
    rw [uint8_readsBack.respects.required hsst, text_readsBack.respects.optional hsd]

end Snssai

namespace PlmnSnssai

def shape : Shape :=
  .record [("plmnId", PlmnId.shape), ("sNssaiList", .list Snssai.shape)] true

theorem readsBack : ReadsBack shape toJson read fun _ => True := by
  refine .record (by decide) (fun support => ?_) (fun support => ?_) fun entries others halike => ?_
  · simp [Shape.FieldFits, PlmnId.readsBack.fits, Snssai.readsBack.list.fits]
  · simp [Record.required, Record.withDefault, PlmnId.readsBack.read_write,
      Snssai.readsBack.list.read_write]
  · simp only [List.forall_mem_cons] at halike
    obtain ⟨hplmnId, hslices, -⟩ := halike
    rw [PlmnId.readsBack.respects.required hplmnId,
      Snssai.readsBack.list.respects.withDefault hslices]

end PlmnSnssai

namespace GlobalRanNodeId

def shape : Shape :=
  .record [("plmnId", PlmnId.shape), ("gnbId", .value), ("ngEnbId", .value), ("n3iwfId", .value)]
    true

theorem readsBack : ReadsBack shape toJson read fun _ => True := by
  refine .record (by decide) (fun id => ?_) (fun id => ?_) fun entries others halike => ?_
  · simp [Shape.FieldFits, PlmnId.readsBack.fits]
  · simp [Record.required, Record.optional_eq, List.lookup_append, PlmnId.readsBack.read_write,
      text_readsBack.readOptional_map]
  · simp only [List.forall_mem_cons] at halike
    obtain ⟨hplmnId, hgnbId, hngEnbId, hn3iwfId, -⟩ := halike
    rw [PlmnId.readsBack.respects.required hplmnId, text_readsBack.respects.optional hgnbId,
      text_readsBack.respects.optional hngEnbId, text_readsBack.respects.optional hn3iwfId]

end GlobalRanNodeId

namespace Ncgi

def shape : Shape :=
  .record [("plmnId", PlmnId.shape), ("nrCellId", .value)] true

theorem readsBack : ReadsBack shape toJson read fun _ => True := by
  refine .record (by decide) (fun cell => ?_) (fun cell => ?_) fun entries others halike => ?_
  · simp [Shape.FieldFits, PlmnId.readsBack.fits]
  · simp [Record.required, PlmnId.readsBack.read_write, text_readsBack.read_write]
  · simp only [List.forall_mem_cons] at halike
    obtain ⟨hplmnId, hnrCellId, -⟩ := halike
    rw [PlmnId.readsBack.respects.required hplmnId, text_readsBack.respects.required hnrCellId]

end Ncgi

namespace Ecgi

def shape : Shape :=
  .record [("plmnId", PlmnId.shape), ("eutraCellId", .value)] true

theorem readsBack : ReadsBack shape toJson read fun _ => True := by
  refine .record (by decide) (fun cell => ?_) (fun cell => ?_) fun entries others halike => ?_
  · simp [Shape.FieldFits, PlmnId.readsBack.fits]
  · simp [Record.required, PlmnId.readsBack.read_write, text_readsBack.read_write]
  · simp only [List.forall_mem_cons] at halike
    obtain ⟨hplmnId, heutraCellId, -⟩ := halike
    rw [PlmnId.readsBack.respects.required hplmnId, text_readsBack.respects.required heutraCellId]

end Ecgi

theorem AccessType.readsBack :
    ReadsBack .value AccessType.toJson AccessType.ofJson? fun _ => True :=
  names_readsBack fun access => by cases access <;> decide

/-! ## Configurations -/

namespace PoolLimits

def shape : Shape :=
  .record [("gnb", .value), ("ue", .value), ("ran_ue_per_ran", .value)] true

theorem readsBack : ReadsBack shape toJson read fun _ => True := by
  refine .record (by decide) (fun limits => ?_) (fun limits => ?_) fun entries others halike => ?_
  · simp [Shape.FieldFits]
  · simp [Record.withDefault, uint64_readsBack.read_write]
  · simp only [List.forall_mem_cons] at halike
    obtain ⟨hradioNodes, hues, hranUesPerNode, -⟩ := halike
    rw [uint64_readsBack.respects.withDefault hradioNodes,
      uint64_readsBack.respects.withDefault hues,
      uint64_readsBack.respects.withDefault hranUesPerNode]

end PoolLimits

namespace IdRange

def shape : Shape :=
  .record [("min", .value), ("max", .value)] true

theorem readsBack : ReadsBack shape toJson read fun _ => True := by
  refine .record (by decide) (fun range => ?_) (fun range => ?_) fun entries others halike => ?_
  · simp [Shape.FieldFits]
  · simp [Record.required, int64_readsBack.read_write]
  · simp only [List.forall_mem_cons] at halike
    obtain ⟨hmin, hmax, -⟩ := halike
    rw [int64_readsBack.respects.required hmin, int64_readsBack.respects.required hmax]

end IdRange

namespace Config

def shape : Shape :=
  .record [("amf_name", .value), ("served_guami", .list Guami.shape),
    ("support_tai_list", .list Tai.shape), ("plmn_support_list", .list PlmnSnssai.shape),
    ("max", PoolLimits.shape), ("tmsi", IdRange.shape), ("amf_ue_ngap_id", IdRange.shape)] true

theorem readsBack : ReadsBack shape toJson read fun _ => True := by
  refine .record (by decide) (fun config => ?_) (fun config => ?_) fun entries others halike => ?_
  · simp [Shape.FieldFits, Guami.readsBack.list.fits, Tai.readsBack.list.fits,
      PlmnSnssai.readsBack.list.fits, PoolLimits.readsBack.fits, IdRange.readsBack.fits]
  · simp [Record.withDefault, Record.optional_eq, text_readsBack.readOptional_nullable,
      Guami.readsBack.list.read_write, Tai.readsBack.list.read_write,
      PlmnSnssai.readsBack.list.read_write, PoolLimits.readsBack.read_write,
      IdRange.readsBack.read_write]
  · simp only [List.forall_mem_cons] at halike
    obtain ⟨hamfName, hservedGuamis, hsupportedTais, hsupportedPlmns, hlimits, htmsis, hngapIds, -⟩
      := halike
    rw [text_readsBack.respects.optional hamfName,
      Guami.readsBack.list.respects.withDefault hservedGuamis,
      Tai.readsBack.list.respects.withDefault hsupportedTais,
      PlmnSnssai.readsBack.list.respects.withDefault hsupportedPlmns,
      PoolLimits.readsBack.respects.withDefault hlimits,
      IdRange.readsBack.respects.withDefault htmsis,
      IdRange.readsBack.respects.withDefault hngapIds]

end Config

/-! ## Policies and subscriptions -/

theorem RequestTrigger.readsBack :
    ReadsBack .value RequestTrigger.toJson RequestTrigger.ofJson? fun _ => True :=
  names_readsBack fun trigger => by cases trigger <;> decide

theorem ReportKind.readsBack :
    ReadsBack .value ReportKind.toJson ReportKind.ofJson? fun _ => True :=
  names_readsBack fun kind => by cases kind <;> decide

theorem ReportTrigger.readsBack :
    ReadsBack .value ReportTrigger.toJson ReportTrigger.ofJson? fun _ => True :=
  names_readsBack fun trigger => by cases trigger <;> decide

namespace PolicyAssociation

def shape : Shape :=
  .record [("triggers", .list .value), ("rfsp", .value), ("servAreaRes", .value),
    ("suppFeat", .value)] true

theorem readsBack : ReadsBack shape toJson ofJson? fun _ => True := by
  refine .record (by decide) (fun policy => ?_) (fun policy => ?_) fun entries others halike => ?_
  · simp [Shape.FieldFits, RequestTrigger.readsBack.list.fits]
  · simp [Record.withDefault, Record.optional_eq, List.lookup_append,
      RequestTrigger.readsBack.list.read_write, int32_readsBack.readOptional_map,
      bool_readsBack.read_write, text_readsBack.read_write]
  · simp only [List.forall_mem_cons] at halike
    obtain ⟨htriggers, hrfsp, hrestricted, hfeatures, -⟩ := halike
    rw [RequestTrigger.readsBack.list.respects.withDefault htriggers,
      int32_readsBack.respects.optional hrfsp, bool_readsBack.respects.withDefault hrestricted,
      text_readsBack.respects.withDefault hfeatures]

end PolicyAssociation

namespace SubscribedEvent

def shape : Shape :=
  .record [("type", .value), ("immediateFlag", .value)] true

theorem readsBack : ReadsBack shape toJson ofJson? fun _ => True := by
  refine .record (by decide) (fun event => ?_) (fun event => ?_) fun entries others halike => ?_
  · simp [Shape.FieldFits, ReportKind.readsBack.fits]
  · simp [Record.required, Record.withDefault, ReportKind.readsBack.read_write,
      bool_readsBack.read_write]
  · simp only [List.forall_mem_cons] at halike
    obtain ⟨hkind, himmediate, -⟩ := halike
    rw [ReportKind.readsBack.respects.required hkind,
      bool_readsBack.respects.withDefault himmediate]

end SubscribedEvent

namespace ReportMode

def shape : Shape :=
  .record [("trigger", .value), ("maxReports", .value)] true

theorem readsBack : ReadsBack shape toJson ofJson? fun _ => True := by
  refine .record (by decide) (fun mode => ?_) (fun mode => ?_) fun entries others halike => ?_
  · simp [Shape.FieldFits, ReportTrigger.readsBack.fits]
  · simp [Record.required, Record.optional_eq, ReportTrigger.readsBack.read_write,
      int32_readsBack.readOptional_map]
  · simp only [List.forall_mem_cons] at halike
    obtain ⟨htrigger, hmaxReports, -⟩ := halike
    rw [ReportTrigger.readsBack.respects.required htrigger,
      int32_readsBack.respects.optional hmaxReports]

end ReportMode

namespace Subscription

def shape : Shape :=
  .record [("eventList", .list SubscribedEvent.shape), ("eventNotifyUri", .value),
    ("notifyCorrelationId", .value), ("nfId", .value), ("supi", .value), ("groupId", .value),
    ("anyUE", .value), ("options", ReportMode.shape)] true

theorem readsBack : ReadsBack shape toJson ofJson? fun _ => True := by
  refine .record (by decide) (fun subscription => ?_) (fun subscription => ?_)
    fun entries others halike => ?_
  · simp [Shape.FieldFits, SubscribedEvent.readsBack.list.fits, ReportMode.readsBack.fits]
  · simp [Record.required, Record.withDefault, Record.optional_eq, List.lookup_append,
      SubscribedEvent.readsBack.list.read_write, text_readsBack.read_write,
      text_readsBack.readOptional_map, bool_readsBack.read_write,
      ReportMode.readsBack.readOptional_map]
  · simp only [List.forall_mem_cons] at halike
    obtain ⟨hevents, hnotifyUri, hcorrelationId, hnfId, hsupi, hgroupId, hanyUe, hmode, -⟩ := halike
    rw [SubscribedEvent.readsBack.list.respects.required hevents,
      text_readsBack.respects.required hnotifyUri, text_readsBack.respects.required hcorrelationId,
      text_readsBack.respects.required hnfId, text_readsBack.respects.optional hsupi,
      text_readsBack.respects.optional hgroupId, bool_readsBack.respects.withDefault hanyUe,
      ReportMode.readsBack.respects.optional hmode]

end Subscription

/-! ## Times and locations -/

namespace Instant

def shape : Shape :=
  .record [("secs_since_epoch", .value), ("nanos_since_epoch", .value)] false

/-- Times before the epoch have no JSON form. -/
def NotBeforeEpoch (instant : Instant) : Prop :=
  0 ≤ instant.seconds

instance (instant : Instant) : Decidable instant.NotBeforeEpoch :=
  inferInstanceAs (Decidable (_ ≤ _))

theorem ofCounts?_counts {instant : Instant} (hepoch : instant.NotBeforeEpoch) :
    ofCounts? instant.seconds.toNat instant.nanoseconds = some instant := by
  have hwhole :
      instant.seconds.toNat + instant.nanoseconds / 1000000000 = instant.seconds.toNat := by
    rw [Nat.div_eq_of_lt instant.nanoseconds_lt, Nat.add_zero]
  have hseconds : (instant.seconds.toNat : Int) = instant.seconds := Int.toNat_of_nonneg hepoch
  have hlt := instant.seconds_lt
  unfold ofCounts?
  rw [dif_pos (by omega)]
  simp only [hwhole, hseconds, Nat.mod_eq_of_lt instant.nanoseconds_lt]

theorem notBeforeEpoch_of_counts {seconds nanoseconds : Nat} {instant : Instant}
    (hcounts : ofCounts? seconds nanoseconds = some instant) : instant.NotBeforeEpoch := by
  unfold ofCounts? at hcounts
  split at hcounts
  · cases hcounts
    exact Int.natCast_nonneg _
  · cases hcounts

/-- An object is read if it has no names besides the two. -/
theorem ofJson?_object (entries : Record Json) :
    ofJson? (.object entries) =
      if (entries.map Prod.fst).all ["secs_since_epoch", "nanos_since_epoch"].contains then
        (entries.required "secs_since_epoch" uint64?).bind fun seconds =>
          (entries.required "nanos_since_epoch" (bounded? 0 4294967295)).bind fun nanoseconds =>
            ofCounts? seconds.toNat nanoseconds.toNat
      else none := by
  rw [List.all_map]
  unfold ofJson?
  change Option.bind (guard ((entries.all
    (["secs_since_epoch", "nanos_since_epoch"].contains ∘ Prod.fst)) = true)) _ = _
  generalize entries.all (["secs_since_epoch", "nanos_since_epoch"].contains ∘ Prod.fst) = known
  cases known <;> rfl

theorem respects_ofJson? : shape.Respects ofJson? := by
  intro json other hstep
  obtain ⟨entries, others, rfl, rfl⟩ := hstep.objects
  have halike := hstep.alike (by decide)
  simp only [List.forall_mem_cons] at halike
  obtain ⟨hseconds, hnanoseconds, -⟩ := halike
  rw [ofJson?_object, ofJson?_object, hstep.names_perm.all_eq,
    (Shape.respects_value _).required hseconds, (Shape.respects_value _).required hnanoseconds]

theorem readsBack : ReadsBack shape toJson ofJson? NotBeforeEpoch where
  fits _ := by simp [shape, toJson, Shape.FieldFits]
  read_write {instant} hepoch := by
    have hlow : 0 ≤ instant.seconds := hepoch
    have hlt := instant.seconds_lt
    have hcount := instant.nanoseconds_lt
    let entries : Record Json := [("secs_since_epoch", .integer instant.seconds),
      ("nanos_since_epoch", .integer instant.nanoseconds)]
    have hseconds : entries.required "secs_since_epoch" uint64? =
        some (UInt64.ofNat instant.seconds.toNat) := by
      show uint64? (Json.integer instant.seconds) = _
      rw [uint64?, bounded?_integer hlow (by omega), Option.map_some]
    have hnanoseconds : entries.required "nanos_since_epoch" (bounded? 0 4294967295) =
        some (instant.nanoseconds : Int) :=
      bounded?_integer (by omega) (by omega)
    have hback : (UInt64.ofNat instant.seconds.toNat).toNat = instant.seconds.toNat :=
      UInt64.toNat_ofNat_of_lt (by rw [UInt64.size]; omega)
    show ofJson? (.object entries) = some instant
    rw [ofJson?_object, if_pos (by rfl), hseconds, hnanoseconds, Option.bind_some,
      Option.bind_some, hback, Int.toNat_natCast, ofCounts?_counts hepoch]
  respects := respects_ofJson?
  writable hread := by
    obtain ⟨record, -, hfields⟩ := Option.bind_eq_some_iff.mp hread
    obtain ⟨-, -, hseconds⟩ := Option.bind_eq_some_iff.mp hfields
    obtain ⟨seconds, -, hnanoseconds⟩ := Option.bind_eq_some_iff.mp hseconds
    obtain ⟨nanoseconds, -, hcounts⟩ := Option.bind_eq_some_iff.mp hnanoseconds
    exact notBeforeEpoch_of_counts hcounts

end Instant

/-- A location in a cell is read back from a tracking area, a cell under a name of its own, an age
and a time. -/
theorem cellLocation_readsBack {α κ : Type} (make : Tai → κ → Option Int32 → Option Instant → α)
    (tai : α → Tai) (cell : α → κ) (age : α → Option Int32) (timestamp : α → Option Instant)
    {name : String} {shape : Shape} {write : κ → Json} {read : Json → Option κ}
    (hcell : ReadsBack shape write read fun _ => True)
    (hapart : name ≠ "tai" ∧ name ≠ "ageOfLocationInformation" ∧ name ≠ "ueLocationTimestamp")
    (hmake : ∀ location,
      make (tai location) (cell location) (age location) (timestamp location) = location)
    (htimestamp : ∀ tai cell age time, timestamp (make tai cell age time) = time) :
    ReadsBack
      (.record [("tai", Tai.shape), (name, shape), ("ageOfLocationInformation", .value),
        ("ueLocationTimestamp", Instant.shape)] true)
      (fun location => .object ([("tai", (tai location).toJson), (name, write (cell location))]
        ++ Json.optional "ageOfLocationInformation" (fun age => .integer age.toInt) (age location)
        ++ Json.optional "ueLocationTimestamp" Instant.toJson (timestamp location)))
      (fun json => do
        let record ← record? ["tai", name, "ageOfLocationInformation", "ueLocationTimestamp"] json
        let tai ← record.required "tai" Tai.read
        let cell ← record.required name read
        let age ← record.optional "ageOfLocationInformation" int32?
        let time ← record.optional "ueLocationTimestamp" Instant.ofJson?
        return make tai cell age time)
      fun location => ∀ time ∈ timestamp location, time.NotBeforeEpoch where
  fits location := by
    obtain ⟨htai, hage, htime⟩ := hapart
    simp [Shape.FieldFits, Tai.readsBack.fits, hcell.fits, Instant.readsBack.fits, htai, hage,
      htime, htai.symm, hage.symm, htime.symm]
  read_write hwritable := by
    obtain ⟨htai, hage, htime⟩ := hapart
    simp [Record.required, Record.optional_eq, List.lookup_append, Tai.readsBack.read_write,
      hcell.read_write, int32_readsBack.readOptional_map,
      Instant.readsBack.readOptional_map hwritable, hmake, htai, hage.symm, htime.symm]
  respects := by
    have hdistinct : ["tai", name, "ageOfLocationInformation", "ueLocationTimestamp"].Nodup := by
      obtain ⟨htai, hage, htime⟩ := hapart
      simp [htai.symm, hage, htime]
    refine Shape.respects_record hdistinct fun entries others halike => ?_
    simp only [List.forall_mem_cons] at halike
    obtain ⟨htai, hentry, hage, htime, -⟩ := halike
    rw [Tai.readsBack.respects.required htai, hcell.respects.required hentry,
      int32_readsBack.respects.optional hage, Instant.readsBack.respects.optional htime]
  writable hread := by
    simp only [Option.bind_eq_bind, Option.bind_eq_some_iff] at hread
    obtain ⟨record, -, tai, -, cell, -, age, -, time, htime, hlocation⟩ := hread
    cases hlocation
    rw [htimestamp]
    exact Instant.readsBack.writable_of_optional htime

namespace NrLocation

def shape : Shape :=
  .record [("tai", Tai.shape), ("ncgi", Ncgi.shape), ("ageOfLocationInformation", .value),
    ("ueLocationTimestamp", Instant.shape)] true

def Writable (location : NrLocation) : Prop :=
  ∀ time ∈ location.timestamp, time.NotBeforeEpoch

theorem readsBack : ReadsBack shape toJson ofJson? Writable :=
  cellLocation_readsBack mk tai cell age timestamp Ncgi.readsBack (by decide) (fun _ => rfl)
    fun _ _ _ _ => rfl

end NrLocation

namespace EutraLocation

def shape : Shape :=
  .record [("tai", Tai.shape), ("ecgi", Ecgi.shape), ("ageOfLocationInformation", .value),
    ("ueLocationTimestamp", Instant.shape)] true

def Writable (location : EutraLocation) : Prop :=
  ∀ time ∈ location.timestamp, time.NotBeforeEpoch

theorem readsBack : ReadsBack shape toJson ofJson? Writable :=
  cellLocation_readsBack mk tai cell age timestamp Ecgi.readsBack (by decide) (fun _ => rfl)
    fun _ _ _ _ => rfl

end EutraLocation

namespace N3gaLocation

def shape : Shape :=
  .record [("n3gppTai", Tai.shape), ("ueIpv4Addr", .value), ("ueIpv6Addr", .value),
    ("portNumber", .value)] true

theorem readsBack : ReadsBack shape toJson ofJson? fun _ => True := by
  refine .record (by decide) (fun location => ?_) (fun location => ?_)
    fun entries others halike => ?_
  · simp [Shape.FieldFits, Tai.readsBack.fits]
  · simp [Record.optional_eq, List.lookup_append, Tai.readsBack.readOptional_map,
      text_readsBack.readOptional_map, uint16_readsBack.readOptional_map]
  · simp only [List.forall_mem_cons] at halike
    obtain ⟨htai, hipv4, hipv6, hportNumber, -⟩ := halike
    rw [Tai.readsBack.respects.optional htai, text_readsBack.respects.optional hipv4,
      text_readsBack.respects.optional hipv6, uint16_readsBack.respects.optional hportNumber]

end N3gaLocation

namespace UserLocation

def shape : Shape :=
  .record [("nrLocation", NrLocation.shape), ("eutraLocation", EutraLocation.shape),
    ("n3gaLocation", N3gaLocation.shape)] true

/-- No time lies before the epoch. -/
def Writable (location : UserLocation) : Prop :=
  (∀ nr ∈ location.nr, nr.Writable) ∧ ∀ eutra ∈ location.eutra, eutra.Writable

theorem readsBack : ReadsBack shape toJson ofJson? Writable where
  fits location := by
    have hnr (nr : NrLocation) : NrLocation.shape.Fits (nr.toJsonWith Instant.toJson) :=
      NrLocation.readsBack.fits nr
    have heutra (eutra : EutraLocation) :
        EutraLocation.shape.Fits (eutra.toJsonWith Instant.toJson) :=
      EutraLocation.readsBack.fits eutra
    simp [shape, toJson, toJsonWith, Shape.FieldFits, hnr, heutra, N3gaLocation.readsBack.fits]
  read_write := by
    rintro location ⟨hnr, heutra⟩
    have hnr : readOptional NrLocation.ofJson?
        (location.nr.map (NrLocation.toJsonWith Instant.toJson)) = some location.nr :=
      NrLocation.readsBack.readOptional_map hnr
    have heutra : readOptional EutraLocation.ofJson?
        (location.eutra.map (EutraLocation.toJsonWith Instant.toJson)) = some location.eutra :=
      EutraLocation.readsBack.readOptional_map heutra
    simp [ofJson?, toJson, toJsonWith, Record.optional_eq, List.lookup_append, hnr, heutra,
      N3gaLocation.readsBack.readOptional_map]
  respects := by
    refine Shape.respects_record (by decide) fun entries others halike => ?_
    simp only [List.forall_mem_cons] at halike
    obtain ⟨hnr, heutra, hn3ga, -⟩ := halike
    rw [NrLocation.readsBack.respects.optional hnr,
      EutraLocation.readsBack.respects.optional heutra,
      N3gaLocation.readsBack.respects.optional hn3ga]
  writable hread := by
    simp only [ofJson?, Option.bind_eq_bind, Option.bind_eq_some_iff] at hread
    obtain ⟨record, -, nr, hnr, eutra, heutra, n3ga, -, hlocation⟩ := hread
    cases hlocation
    exact ⟨NrLocation.readsBack.writable_of_optional hnr,
      EutraLocation.readsBack.writable_of_optional heutra⟩

end UserLocation

/-! ## The data model -/

/-- How the values of a type are written, which of them, and how they are read. -/
structure JsonForm (α : Type) where
  shape : Shape
  write : α → Json
  read : Json → Option α
  Writable : α → Prop := fun _ => True

/-- The types with a JSON form. -/
inductive JsonType where
  | accessType
  | plmnId
  | guami
  | tai
  | snssai
  | plmnSnssai
  | globalRanNodeId
  | ncgi
  | ecgi
  | nrLocation
  | eutraLocation
  | n3gaLocation
  | userLocation
  | requestTrigger
  | policyAssociation
  | poolLimits
  | idRange
  | config
  | reportKind
  | subscribedEvent
  | reportTrigger
  | reportMode
  | subscription

namespace JsonType

def Value : JsonType → Type
  | accessType => AccessType
  | plmnId => PlmnId
  | guami => Guami
  | tai => Tai
  | snssai => Snssai
  | plmnSnssai => PlmnSnssai
  | globalRanNodeId => GlobalRanNodeId
  | ncgi => Ncgi
  | ecgi => Ecgi
  | nrLocation => NrLocation
  | eutraLocation => EutraLocation
  | n3gaLocation => N3gaLocation
  | userLocation => UserLocation
  | requestTrigger => RequestTrigger
  | policyAssociation => PolicyAssociation
  | poolLimits => PoolLimits
  | idRange => IdRange
  | config => Config
  | reportKind => ReportKind
  | subscribedEvent => SubscribedEvent
  | reportTrigger => ReportTrigger
  | reportMode => ReportMode
  | subscription => Subscription

def form : (type : JsonType) → JsonForm type.Value
  | accessType =>
      { shape := .value, write := AccessType.toJson, read := AccessType.ofJson? }
  | plmnId => { shape := PlmnId.shape, write := PlmnId.toJson, read := PlmnId.read }
  | guami => { shape := Guami.shape, write := Guami.toJson, read := Guami.read }
  | tai => { shape := Tai.shape, write := Tai.toJson, read := Tai.read }
  | snssai => { shape := Snssai.shape, write := Snssai.toJson, read := Snssai.read }
  | plmnSnssai =>
      { shape := PlmnSnssai.shape, write := PlmnSnssai.toJson, read := PlmnSnssai.read }
  | globalRanNodeId =>
      { shape := GlobalRanNodeId.shape, write := GlobalRanNodeId.toJson,
        read := GlobalRanNodeId.read }
  | ncgi => { shape := Ncgi.shape, write := Ncgi.toJson, read := Ncgi.read }
  | ecgi => { shape := Ecgi.shape, write := Ecgi.toJson, read := Ecgi.read }
  | nrLocation =>
      { shape := NrLocation.shape, write := NrLocation.toJson, read := NrLocation.ofJson?,
        Writable := NrLocation.Writable }
  | eutraLocation =>
      { shape := EutraLocation.shape, write := EutraLocation.toJson,
        read := EutraLocation.ofJson?, Writable := EutraLocation.Writable }
  | n3gaLocation =>
      { shape := N3gaLocation.shape, write := N3gaLocation.toJson, read := N3gaLocation.ofJson? }
  | userLocation =>
      { shape := UserLocation.shape, write := UserLocation.toJson, read := UserLocation.ofJson?,
        Writable := UserLocation.Writable }
  | requestTrigger =>
      { shape := .value, write := RequestTrigger.toJson, read := RequestTrigger.ofJson? }
  | policyAssociation =>
      { shape := PolicyAssociation.shape, write := PolicyAssociation.toJson,
        read := PolicyAssociation.ofJson? }
  | poolLimits =>
      { shape := PoolLimits.shape, write := PoolLimits.toJson, read := PoolLimits.read }
  | idRange => { shape := IdRange.shape, write := IdRange.toJson, read := IdRange.read }
  | config => { shape := Config.shape, write := Config.toJson, read := Config.read }
  | reportKind => { shape := .value, write := ReportKind.toJson, read := ReportKind.ofJson? }
  | subscribedEvent =>
      { shape := SubscribedEvent.shape, write := SubscribedEvent.toJson,
        read := SubscribedEvent.ofJson? }
  | reportTrigger =>
      { shape := .value, write := ReportTrigger.toJson, read := ReportTrigger.ofJson? }
  | reportMode =>
      { shape := ReportMode.shape, write := ReportMode.toJson, read := ReportMode.ofJson? }
  | subscription =>
      { shape := Subscription.shape, write := Subscription.toJson, read := Subscription.ofJson? }

theorem readsBack : ∀ type : JsonType,
    ReadsBack type.form.shape type.form.write type.form.read type.form.Writable
  | accessType => AccessType.readsBack
  | plmnId => PlmnId.readsBack
  | guami => Guami.readsBack
  | tai => Tai.readsBack
  | snssai => Snssai.readsBack
  | plmnSnssai => PlmnSnssai.readsBack
  | globalRanNodeId => GlobalRanNodeId.readsBack
  | ncgi => Ncgi.readsBack
  | ecgi => Ecgi.readsBack
  | nrLocation => NrLocation.readsBack
  | eutraLocation => EutraLocation.readsBack
  | n3gaLocation => N3gaLocation.readsBack
  | userLocation => UserLocation.readsBack
  | requestTrigger => RequestTrigger.readsBack
  | policyAssociation => PolicyAssociation.readsBack
  | poolLimits => PoolLimits.readsBack
  | idRange => IdRange.readsBack
  | config => Config.readsBack
  | reportKind => ReportKind.readsBack
  | subscribedEvent => SubscribedEvent.readsBack
  | reportTrigger => ReportTrigger.readsBack
  | reportMode => ReportMode.readsBack
  | subscription => Subscription.readsBack

/-- All that is written fits the shape, so its variations reach every object within.  A value is
read back from what was written and from every variation of it.  What can be read is written in
one way: read again, it is written the same. -/
theorem round_trip (type : JsonType) :
    (∀ value, type.form.shape.Fits (type.form.write value)) ∧
    (∀ value json, type.form.Writable value →
      type.form.shape.Varies (type.form.write value) json → type.form.read json = some value) ∧
    ∀ json written, (type.form.read json).map type.form.write = some written →
      (type.form.read written).map type.form.write = some written := by
  have hback := type.readsBack
  refine ⟨hback.fits, ?_, ?_⟩
  · intro value json hwritable hvaries
    rw [← hback.respects.varies hvaries]
    exact hback.read_write hwritable
  · intro json written hwritten
    obtain ⟨value, hread, rfl⟩ := Option.map_eq_some_iff.mp hwritten
    rw [hback.read_write (hback.writable hread), Option.map_some]

/-- A location of each kind, at a time since the epoch. -/
def lastSeen : UserLocation :=
  let tai : Tai := { plmnId := Config.testPlmn, tac := "000001" }
  let time : Instant := { seconds := 1700000000, nanoseconds := 5 }
  { nr := some {
      tai
      cell := { plmnId := Config.testPlmn, nrCellId := "000000010" }
      age := some 0
      timestamp := some time }
    eutra := some {
      tai
      cell := { plmnId := Config.testPlmn, eutraCellId := "0000001" }
      age := none
      timestamp := some time }
    n3ga := some { tai := none, ipv4 := some "10.0.0.1", ipv6 := none, portNumber := some 4500 } }

/-- The kinds in reverse order, an unknown entry in the first one and its time with the nanoseconds
in front. -/
def lastSeenVaried : Json :=
  let plmnId := Config.testPlmn.toJson
  let tai := Json.object [("plmnId", plmnId), ("tac", .string "000001")]
  .object [
    ("n3gaLocation", .object [("ueIpv4Addr", .string "10.0.0.1"), ("portNumber", .integer 4500)]),
    ("eutraLocation", .object [
      ("tai", tai),
      ("ecgi", .object [("plmnId", plmnId), ("eutraCellId", .string "0000001")]),
      ("ueLocationTimestamp", .object [("secs_since_epoch", .integer 1700000000),
        ("nanos_since_epoch", .integer 5)])]),
    ("nrLocation", .object [
      ("globalGnbId", .null),
      ("tai", tai),
      ("ncgi", .object [("plmnId", plmnId), ("nrCellId", .string "000000010")]),
      ("ageOfLocationInformation", .integer 0),
      ("ueLocationTimestamp", .object [("nanos_since_epoch", .integer 5),
        ("secs_since_epoch", .integer 1700000000)])])]

theorem round_trip_lastSeen :
    UserLocation.Writable lastSeen ∧
      UserLocation.shape.Varies lastSeen.toJson lastSeenVaried ∧
      UserLocation.ofJson? lastSeenVaried = some lastSeen ∧
      (UserLocation.ofJson? lastSeen.toJson).map UserLocation.toJson = some lastSeen.toJson := by
  have hwritable : lastSeen.Writable := by
    constructor <;> rintro _ ⟨⟩ _ ⟨⟩ <;> decide
  have htime : Instant.shape.Varies
      (.object [("secs_since_epoch", .integer 1700000000), ("nanos_since_epoch", .integer 5)])
      (.object [("nanos_since_epoch", .integer 5), ("secs_since_epoch", .integer 1700000000)]) :=
    Shape.varies_of_perm (List.Perm.swap _ _ _) (by decide) []
  have hnr : NrLocation.shape.Varies (NrLocation.toJson (lastSeen.nr.get rfl))
      (((lastSeenVaried.field? "nrLocation").get rfl)) :=
    (htime.field (by simp) [_, _, _] []).tail (@Shape.Step.add _ [] _ (_, .null) (by decide))
  have hvaries : UserLocation.shape.Varies lastSeen.toJson lastSeenVaried :=
    (hnr.field (.head _) [] [_, _]).trans
      (Shape.varies_of_perm (List.reverse_perm _).symm (by decide) [])
  obtain ⟨-, hreads, hrewrites⟩ := round_trip .userLocation
  have hread := hreads lastSeen lastSeenVaried hwritable hvaries
  exact ⟨hwritable, hvaries, hread, hrewrites lastSeenVaried lastSeen.toJson (congrArg _ hread)⟩

end JsonType

end AccessMobility
