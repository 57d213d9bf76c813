import AccessMobility.Proofs.IdPoolHistory
import AccessMobility.Proofs.Roster

/-!
# Replacing an entry where nothing is left

A radio node on a connection in use, a RAN UE under a key in use and a UE under a SUPI in use take
the place of another one, which leaves.  The limits on radio nodes and on the RAN UEs of a radio
node do not count the one that leaves.  The id pools do: the AMF UE NGAP id and the 5G-TMSI of the
new one are taken before those of the old one are given back.  So where the range of a pool is used
up a RAN UE is not replaced at all, and a UE is replaced by one that has no 5G-TMSI, although the
value that the old one held is free as soon as the call returns.
-/

namespace AccessMobility

/-- Every value of the range is outstanding. -/
def IdPool.Exhausted (pool : IdPool) : Prop :=
  ∀ id, pool.InRange id → pool.Outstanding id

namespace State

/-- The id of the RAN UE that lost its key is free once that RAN UE is evicted, if it lies in the
range. -/
theorem PoolConsistent.outstanding_evict_iff {state : State} {displaced : Option (Ref RanUe)}
    (hpool : state.PoolConsistent displaced) {old : Ref RanUe}
    (hregistered : state.RanUeRegistered old) :
    (state.evict (some old)).registry.ngapIds.Outstanding
        (NgapId.toSigned (state.ranUe old).ngapId) ↔
      ¬ state.registry.ngapIds.InRange (NgapId.toSigned (state.ranUe old).ngapId) := by
  have hlive := (hpool.live old).mpr hregistered
  rw [State.evict, hlive, if_neg Bool.false_ne_true, registry_release, if_pos hregistered]
  dsimp only
  rw [IdPool.outstanding_free_iff, and_iff_right (hpool.outstanding_registered hregistered),
    and_iff_right rfl]

end State

namespace World

open State

section

variable {world : World} (hsound : world.state.Sound)

/-- A connection in use is not refused, however many radio nodes there are. -/
theorem newNode_replaces {connection : Connection} {old : Ref RadioNode}
    (hfind : world.state.findNodeByConnection connection = some old) :
    ∃ new done, world.newNode connection = (.ok new, done) := by
  rw [findNodeByConnection] at hfind
  split at hfind
  next hvalid =>
    obtain ⟨id, hindex, -⟩ := Option.bind_eq_some_iff.mp hfind
    rcases world.newNode_cases connection with ⟨hfree, -⟩ | ⟨done, hcall, -⟩
    · rw [hfree hvalid] at hindex
      cases hindex
    · exact ⟨_, done, hcall⟩
  next => cases hfind

include hsound

/-- A key in use needs no room, so that nothing but the pool of AMF UE NGAP ids can fail. -/
theorem newRanUe_replaces {node : Ref RadioNode} {key : Int} {old : Ref RanUe}
    (hregistered : world.state.NodeRegistered node)
    (hfind : world.state.findRanUeByKey node key = some old) :
    let ngapIds := world.state.registry.ngapIds
    let held := NgapId.toSigned (world.state.ranUe old).ngapId
    ngapIds.Outstanding held ∧
    (ngapIds.allocate.1 = none → (world.newRanUe node key).1 = .error .ngapIdsExhausted) ∧
    (ngapIds.allocate.1 ≠ none → ∃ new done, world.newRanUe node key = (.ok new, done) ∧
      (done.state.registry.ngapIds.Outstanding held ↔ ¬ ngapIds.InRange held)) := by
  intro ngapIds held
  have hpool := hsound.pool
  have hold : world.state.RanUeRegistered old := (hpool.held hfind).1
  have hroom : world.state.HasRoom node key := by
    intro hfree
    rw [hfree] at hfind
    cases hfind
  refine ⟨hpool.outstanding_registered hold, ?_, ?_⟩
  · intro hnone
    rw [world.newRanUe_exhausted hregistered hroom hnone]
  · intro hleft
    cases halloc : world.state.registry.ngapIds.allocate with
    | mk allocated pool =>
        cases allocated with
        | none => exact absurd (congrArg Prod.fst halloc) hleft
        | some id =>
            obtain ⟨done, hcall, hstate⟩ := world.newRanUe_granted hregistered hroom halloc
            refine ⟨_, done, hcall, ?_⟩
            rw [hstate, hfind]
            have hkept := ranUe_enlist_of_ne (hpool.ne_fresh hold) node key (NgapId.ofSigned id)
              pool
            have hfreed := (hpool.enlist hregistered halloc).outstanding_evict_iff
              ((hpool.ranUeRegistered_enlist node key halloc old).mpr (Or.inr hold))
            have hmin := ngapIds.min_allocate
            have hmax := ngapIds.max_allocate
            rw [halloc] at hmin hmax
            rw [hkept, registry_enlist, IdPool.InRange, hmin, hmax] at hfreed
            exact hfreed

/-- The 5G-TMSI of the new UE is taken first, so the one that the old UE gives back is no help. -/
theorem newUe_replaces_tmsi (hissues : world.state.registry.tmsis.IssuesTmsis) {supi : String}
    {old : Ref Ue} {held : Int} (hfind : world.state.findUeBySupi supi = some old)
    (hheld : (world.state.ue old).tmsi = some held) :
    let tmsis := world.state.registry.tmsis
    let new := (world.newUe supi).1
    let done := (world.newUe supi).2.state
    ¬ done.registry.tmsis.Outstanding held ∧
    (tmsis.Exhausted → (done.ue new).tmsi = none ∧ (done.ue new).guti = none) ∧
    (¬ tmsis.Exhausted → ∃ tmsi, tmsis.InRange tmsi ∧ ¬ tmsis.Outstanding tmsi ∧
      (done.ue new).tmsi = some tmsi ∧ (done.ue new).guti = world.state.gutiOf (some tmsi)) := by
  intro tmsis new done
  have hnew : new = world.state.entities.ues.fresh := world.newUe_fresh supi
  have hne : new ≠ old := by
    rw [hnew]
    exact hsound.ue_ne_fresh (hsound.ueRegistered_of_supi hfind)
  have hfresh : (world.state.withTmsis tmsis.allocate.2).entities.ues.fresh = new := hnew.symm
  obtain ⟨-, hwithdraws⟩ := newUe_replaces hsound hfind
  rw [allocateTmsi_eq hissues] at hwithdraws
  have htmsi : (done.ue new).tmsi = tmsis.allocate.1 := by
    rw [hwithdraws.ue_tmsi, if_neg hne, ue_enrol, if_pos hfresh]
  have hguti : (done.ue new).guti = world.state.gutiOf tmsis.allocate.1 := by
    rw [hwithdraws.ue_guti, ue_enrol, if_pos hfresh]
  have hfreed : done.registry.tmsis = tmsis.allocate.2.free held := by
    rw [hwithdraws.tmsis, ue_enrol, if_neg (hnew ▸ hne)]
    show (world.state.ue old).tmsi.elim tmsis.allocate.2 tmsis.allocate.2.free = _
    rw [hheld]
    rfl
  refine ⟨?_, ?_, ?_⟩
  · have hbounded : tmsis.allocate.2.Bounded :=
      IdPool.Reaches.refl.allocate.bounded hissues.bounded
    rw [hfreed, hbounded.outstanding_free]
    exact fun hout => hout.2 rfl
  · intro hexhausted
    rw [htmsi, hguti, hissues.bounded.exhausted_iff.mpr hexhausted]
    exact ⟨rfl, rfl⟩
  · intro hleft
    rw [htmsi, hguti]
    cases halloc : tmsis.allocate with
    | mk allocated pool =>
        cases allocated with
        | none => exact absurd (hissues.bounded.exhausted_iff.mp (congrArg Prod.fst halloc)) hleft
        | some tmsi =>
            exact ⟨tmsi, hissues.bounded.allocate_inRange halloc, IdPool.allocate_fresh halloc,
              rfl, rfl⟩

end

/-- A connection in use always gets another radio node.  A key in use gets another RAN UE as long as
the range of AMF UE NGAP ids is not used up, and a SUPI in use gets a UE with a 5G-TMSI exactly as
long as the range of 5G-TMSIs is not; what the old one held counts as used. -/
theorem run_replacement {config : Config} (hvalid : config.validate = .ok ())
    (operations : List Operation) :
    let world := (opened config).run operations
    let state := world.state
    let ngapIds := state.registry.ngapIds
    let tmsis := state.registry.tmsis
    (∀ connection old, state.findNodeByConnection connection = some old →
      ∃ new done, world.newNode connection = (.ok new, done)) ∧
    (∀ node key old, state.NodeRegistered node → state.findRanUeByKey node key = some old →
      let held := NgapId.toSigned (state.ranUe old).ngapId
      ngapIds.Outstanding held ∧
      (config.ngapIds.max.toInt < 9223372036854775807 → ngapIds.Exhausted →
        (world.newRanUe node key).1 = .error .ngapIdsExhausted) ∧
      (¬ ngapIds.Exhausted → ∃ new done, world.newRanUe node key = (.ok new, done) ∧
        (done.state.registry.ngapIds.Outstanding held ↔
          ¬ config.ngapIds.Contains held ∧
            config.ngapIds.max.toInt = 9223372036854775807))) ∧
    ∀ supi old held, state.findUeBySupi supi = some old → (state.ue old).tmsi = some held →
      let new := (world.newUe supi).1
      let done := (world.newUe supi).2.state
      ¬ done.registry.tmsis.Outstanding held ∧
      (tmsis.Exhausted → (done.ue new).tmsi = none ∧ (done.ue new).guti = none) ∧
      (¬ tmsis.Exhausted → ∃ tmsi, tmsis.InRange tmsi ∧ ¬ tmsis.Outstanding tmsi ∧
        (done.ue new).tmsi = some tmsi ∧ (done.ue new).guti = state.gutiOf (some tmsi)) := by
  intro world state ngapIds tmsis
  have hsound : state.Sound := run_sound config operations
  have hreaches := run_ngapIds_reaches config operations
  refine ⟨fun _ _ => newNode_replaces, ?_,
    fun _ _ _ => newUe_replaces_tmsi hsound (run_issuesTmsis hvalid operations)⟩
  intro node key old hregistered hfind held
  obtain ⟨hheld, hrefused, hgranted⟩ := newRanUe_replaces hsound hregistered hfind
  have hassigned : state.NgapIdAssigned held :=
    hsound.pool.assigned_registered (hsound.pool.held hfind).1
  refine ⟨hheld, ?_, ?_⟩
  · intro hbelow hexhausted
    have hbounded : ngapIds.Bounded := hreaches.bounded (IdPool.bounded_new _ hbelow)
    exact hrefused (hbounded.exhausted_iff.mpr hexhausted)
  · intro hleft
    have hmin : 0 ≤ ngapIds.min := hreaches.min_eq ▸ Config.ngapIds_nonneg hvalid
    have hmax : ngapIds.max ≤ 9223372036854775807 :=
      hreaches.max_eq ▸ (signed_toInt config.ngapIds.max).2
    obtain ⟨new, done, hcall, hkept⟩ := hgranted fun hnone => hleft fun _ =>
      hsound.pool.pool_valid.outstanding_of_allocate_none hmin hmax hnone
    exact ⟨new, done, hcall, hkept.trans (run_not_inRange_iff hassigned)⟩

/-- One radio node with one RAN UE is all that fits, and of two AMF UE NGAP ids and two 5G-TMSIs one
is left: all three are replaced. -/
theorem replacement_at_limits :
    let config :=
      { Config.standard with limits := ⟨1, 1024, 1⟩, ngapIds := ⟨1, 2⟩, tmsis := ⟨7, 8⟩ }
    let supi := "imsi-001010000000001"
    let operations : List Operation := [.newNode ⟨1⟩, .newRanUe ⟨0⟩ 1, .newUe supi]
    let world := (opened config).run operations
    let state := world.state
    config.validate = .ok () ∧ state.findNodeByConnection ⟨1⟩ = some ⟨0⟩ ∧
      state.findRanUeByKey ⟨0⟩ 1 = some ⟨0⟩ ∧ state.findUeBySupi supi = some ⟨0⟩ ∧
      (∃ new done, world.newNode ⟨1⟩ = (.ok new, done)) ∧
      (∃ new done, world.newRanUe ⟨0⟩ 1 = (.ok new, done) ∧
        ¬ done.state.registry.ngapIds.Outstanding 1) ∧
      ¬ (world.newUe supi).2.state.registry.tmsis.Outstanding 7 ∧
      ((world.newUe supi).2.state.ue ⟨1⟩).tmsi = some 8 := by
  intro config supi operations world state
  have hvalid : config.validate = .ok () := rfl
  have hnode : state.findNodeByConnection ⟨1⟩ = some ⟨0⟩ := by decide +kernel
  have hregistered : state.NodeRegistered ⟨0⟩ := by decide +kernel
  have hranUe : state.findRanUeByKey ⟨0⟩ 1 = some ⟨0⟩ := by decide +kernel
  have hue : state.findUeBySupi supi = some ⟨0⟩ := by decide +kernel
  have htmsi : (state.ue ⟨0⟩).tmsi = some 7 := by decide +kernel
  have hid : NgapId.toSigned (state.ranUe ⟨0⟩).ngapId = 1 := by decide +kernel
  have hleft : ¬ state.registry.ngapIds.Exhausted := by
    intro hexhausted
    exact absurd (hexhausted 2 (by decide +kernel)) (by decide +kernel)
  obtain ⟨hnodes, hranUes, hues⟩ := run_replacement hvalid operations
  obtain ⟨-, -, hreplaced⟩ := hranUes _ _ _ hregistered hranUe
  rw [hid] at hreplaced
  obtain ⟨new, done, hcall, hkept⟩ := hreplaced hleft
  have hfree : ¬ done.state.registry.ngapIds.Outstanding 1 :=
    fun hout => (hkept.mp hout).1 (by decide)
  have hworld : (opened config).run operations = world := rfl
  rw [hworld] at hues
  obtain ⟨hfreed, -, -⟩ := hues _ _ _ hue htmsi
  exact ⟨hvalid, hnode, hranUe, hue, hnodes _ _ hnode, ⟨new, done, hcall, hfree⟩, hfreed,
    by decide +kernel⟩

/-- With one AMF UE NGAP id and one 5G-TMSI, both in use, a key in use gets no other RAN UE, and
the UE that takes over the SUPI has neither 5G-TMSI nor 5G-GUTI, while the next allocation finds
the value of the old one. -/
theorem replacement_exhausted :
    let config := { Config.standard with ngapIds := ⟨1, 1⟩, tmsis := ⟨1, 1⟩ }
    let supi := "imsi-001010000000001"
    let operations : List Operation := [.newNode ⟨1⟩, .newRanUe ⟨0⟩ 1, .newUe supi]
    let world := (opened config).run operations
    let state := world.state
    let replaced := (world.newUe supi).2
    config.validate = .ok () ∧ state.NodeRegistered ⟨0⟩ ∧
      state.findRanUeByKey ⟨0⟩ 1 = some ⟨0⟩ ∧
      (world.newRanUe ⟨0⟩ 1).1 = .error .ngapIdsExhausted ∧
      state.findUeBySupi supi = some ⟨0⟩ ∧ (state.ue ⟨0⟩).tmsi = some 1 ∧
      replaced.state.findUeBySupi supi = some ⟨1⟩ ∧
      (replaced.state.ue ⟨1⟩).tmsi = none ∧ (replaced.state.ue ⟨1⟩).guti = none ∧
      replaced.allocateTmsi.1 = some 1 := by
  intro config supi operations world state replaced
  have hrefused : (world.newRanUe ⟨0⟩ 1).1 = .error .ngapIdsExhausted := by decide +kernel
  have hanonymous : (replaced.state.ue ⟨1⟩).tmsi = none ∧ (replaced.state.ue ⟨1⟩).guti = none := by
    decide +kernel
  exact ⟨rfl, by decide +kernel, by decide +kernel, hrefused, by decide +kernel, by decide +kernel,
    by decide +kernel, hanonymous.1, hanonymous.2, by decide +kernel⟩

end World

end AccessMobility
