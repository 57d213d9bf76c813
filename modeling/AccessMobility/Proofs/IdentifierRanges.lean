import AccessMobility.Proofs.IdPoolHistory
import AccessMobility.Proofs.RemovedObjects
import AccessMobility.Proofs.Roster

/-!
# Identifiers within the configured ranges

A validated configuration gives two ranges in order and without negative values.  The pools are
opened with these ranges and keep them, so every AMF UE NGAP id is a value of its range, and so is
what any slot holds.  None of them is the id that marks an empty slot, which is what makes a UE
connected as soon as a RAN UE is attached to it.

What validation bounds from above is the range of 5G-TMSIs only.  The range of AMF UE NGAP ids may
end above the 40 bits of the protocol, and then ids beyond these are assigned.
-/

namespace AccessMobility

/-- An AMF UE NGAP id that was taken from a pool over a range. -/
def NgapId.Drawn (range : IdRange) (id : Nat) : Prop :=
  ∃ value, range.Contains value ∧ id = NgapId.ofSigned value

/-- Over a range without negative values an id is the value itself, and it marks no empty slot. -/
theorem NgapId.Drawn.contains {range : IdRange} {id : Nat} (hdrawn : NgapId.Drawn range id)
    (hnonneg : 0 ≤ range.min.toInt) : range.Contains id ∧ id ≠ NgapId.invalid := by
  obtain ⟨value, ⟨hmin, hmax⟩, rfl⟩ := hdrawn
  have hlargest := (State.signed_toInt range.max).2
  have hvalue : (NgapId.ofSigned value : Int) = value := by
    unfold NgapId.ofSigned
    omega
  have hinvalid : NgapId.ofSigned value ≠ NgapId.invalid := by
    unfold NgapId.invalid
    omega
  rw [IdRange.Contains, hvalue]
  exact ⟨⟨hmin, hmax⟩, hinvalid⟩

namespace State

/-- The pool of AMF UE NGAP ids is one over the range, and what RAN UEs and slots hold was taken
from it. -/
structure IdsDrawn (range : IdRange) (state : State) : Prop where
  min : state.registry.ngapIds.min = range.min.toInt
  max : state.registry.ngapIds.max = range.max.toInt
  ranUe : ∀ {ref}, state.entities.ranUes.Holds ref → NgapId.Drawn range (state.ranUe ref).ngapId
  slot : ∀ {ue access id}, (state.ue ue).slots.get access = some id → NgapId.Drawn range id

theorem idsDrawn_new (config : Config) : (State.new config).IdsDrawn config.ngapIds where
  min := rfl
  max := rfl
  ranUe hholds := absurd hholds (Nat.not_lt_zero _)
  slot {ue access id} hslot := by
    have hue : (State.new config).ue ue = default := by
      simp [State.new, State.ue, Store.get]
    rw [hue] at hslot
    cases access <;> cases hslot

section

variable {range : IdRange} {state next : State} (hdrawn : state.IdsDrawn range)

include hdrawn

/-- A step that keeps the pool of RAN UEs has to be looked at for what it writes into slots. -/
theorem IdsDrawn.samePool (hpool : state.SamePool next)
    (hslot : ∀ ue access id, (next.ue ue).slots.get access = some id → NgapId.Drawn range id) :
    next.IdsDrawn range where
  min := by rw [hpool.ngapIds, hdrawn.min]
  max := by rw [hpool.ngapIds, hdrawn.max]
  ranUe {ref} hholds := by
    rw [hpool.ranUe_ngapId]
    exact hdrawn.ranUe (Nat.lt_of_lt_of_eq hholds hpool.created_ranUes)
  slot {ue access id} := hslot ue access id

theorem IdsDrawn.release (ref : Ref RanUe) : (state.release ref).IdsDrawn range where
  min := by
    rw [registry_release]
    split
    · rw [IdPool.min_free, hdrawn.min]
    · exact hdrawn.min
  max := by
    rw [registry_release]
    split
    · rw [IdPool.max_free, hdrawn.max]
    · exact hdrawn.max
  ranUe {other} hholds := by
    have hcreated := state.created_release ref
    simp only [created, Prod.mk.injEq] at hcreated
    have hother := hdrawn.ranUe (Nat.lt_of_lt_of_eq hholds hcreated.2.2)
    rw [ranUe_release]
    split
    next heq => exact heq ▸ hother
    next => exact hother
  slot {ue access id} hslot := by
    rw [ue_release] at hslot
    split at hslot
    · rw [Ue.unlink, PerAccess.get_map, Option.filter_eq_some_iff] at hslot
      exact hdrawn.slot hslot.1
    · exact hdrawn.slot hslot

theorem IdsDrawn.evict (displaced : Option (Ref RanUe)) :
    (state.evict displaced).IdsDrawn range := by
  cases displaced with
  | none => exact hdrawn
  | some ref =>
      rw [State.evict]
      split
      · exact hdrawn
      · exact hdrawn.release ref

theorem IdsDrawn.attach (hsound : state.Sound) {ranUe : Ref RanUe}
    (hlive : (state.ranUe ranUe).removed = false) (ue : Ref Ue) (access : AccessType) :
    (state.attach ue ranUe access).IdsDrawn range := by
  have hassigned : NgapId.Drawn range (state.ranUe ranUe).ngapId :=
    hdrawn.ranUe (hsound.pool.ranUe_created ((hsound.pool.live ranUe).mp hlive))
  have hoccupied (other : Ref Ue) (path : AccessType) (id : Nat)
      (hslot : ((state.occupy ue ranUe access).ue other).slots.get path = some id) :
      NgapId.Drawn range id := by
    rw [ue_occupy] at hslot
    split at hslot
    · rw [Ue.link, PerAccess.get_set] at hslot
      split at hslot
      · exact Option.some.inj hslot ▸ hassigned
      · exact hdrawn.slot hslot
    · exact hdrawn.slot hslot
  apply hdrawn.samePool (state.samePool_attach ue ranUe access)
  intro other path id hslot
  rw [ue_attach] at hslot
  split at hslot
  · rw [Ue.unlink, PerAccess.get_map, Option.filter_eq_some_iff] at hslot
    exact hoccupied other path id hslot.1
  · exact hoccupied other path id hslot

theorem IdsDrawn.detach (ue : Ref Ue) (access : AccessType) :
    (state.detach ue access).IdsDrawn range := by
  apply hdrawn.samePool (state.samePool_detach ue access)
  intro other path id hslot
  rw [ue_detach] at hslot
  split at hslot
  · rw [Ue.clearSlot, PerAccess.get_set] at hslot
    split at hslot
    · cases hslot
    · exact hdrawn.slot hslot
  · exact hdrawn.slot hslot

theorem IdsDrawn.bounded (hbelow : range.max.toInt < 9223372036854775807)
    (hsound : state.Sound) : state.registry.ngapIds.Bounded where
  toValid := hsound.pool.pool_valid
  max_lt := hdrawn.max ▸ hbelow

theorem IdsDrawn.enlist (hbelow : range.max.toInt < 9223372036854775807) (hsound : state.Sound)
    (node : Ref RadioNode) (key : Int) {id : Int} {pool : IdPool}
    (halloc : state.registry.ngapIds.allocate = (some id, pool)) :
    (state.enlist node key (NgapId.ofSigned id) pool).IdsDrawn range := by
  have hrange := (hdrawn.bounded hbelow hsound).allocate_inRange halloc
  rw [IdPool.InRange, hdrawn.min, hdrawn.max] at hrange
  have hpool : pool = state.registry.ngapIds.allocate.2 := (congrArg Prod.snd halloc).symm
  constructor
  · rw [registry_enlist, hpool]
    exact (IdPool.min_allocate _).trans hdrawn.min
  · rw [registry_enlist, hpool]
    exact (IdPool.max_allocate _).trans hdrawn.max
  · intro ref hholds
    rw [ranUe_enlist]
    split
    · exact ⟨id, hrange, rfl⟩
    next hne => exact hdrawn.ranUe (Store.holds_of_create hholds hne)
  · intro ue access other hslot
    exact hdrawn.slot hslot

theorem IdsDrawn.rehome (ref : Ref RanUe) (source target : Ref RadioNode) (key : Int) :
    (state.rehome ref source target key).IdsDrawn range := by
  constructor
  · rw [registry_rehome]
    exact hdrawn.min
  · rw [registry_rehome]
    exact hdrawn.max
  · intro other hholds
    have hcreated := state.created_rehome ref source target key
    simp only [created, Prod.mk.injEq] at hcreated
    have hother := hdrawn.ranUe (Nat.lt_of_lt_of_eq hholds hcreated.2.2)
    rw [ranUe_rehome]
    split
    next heq => exact heq ▸ hother
    next => exact hother
  · intro ue access id hslot
    rw [ue_rehome] at hslot
    exact hdrawn.slot hslot

theorem IdsDrawn.enrol (supi : String) (tmsi : Option Int) (guti : Option String) :
    (state.enrol supi tmsi guti).IdsDrawn range where
  min := hdrawn.min
  max := hdrawn.max
  ranUe := hdrawn.ranUe
  slot {ue access id} hslot := by
    rw [ue_enrol] at hslot
    split at hslot
    · cases access <;> cases hslot
    · exact hdrawn.slot hslot

theorem IdsDrawn.step {allowed : State → Operation → Prop}
    (hbelow : range.max.toInt < 9223372036854775807) (hsound : state.Sound)
    (hstep : Step allowed state next) : next.IdsDrawn range := by
  cases hstep with
  | describe hsame =>
      apply hdrawn.samePool hsame.samePool
      intro ue access id hslot
      rw [hsame.ue_slots] at hslot
      exact hdrawn.slot hslot
  | attach _ hlive _ => exact hdrawn.attach hsound hlive _ _
  | detach ue access => exact hdrawn.detach ue access
  | release _ => exact hdrawn.release _
  | enlist key _ _ halloc => exact (hdrawn.enlist hbelow hsound _ key halloc).evict _
  | rehome _ _ _ _ => exact (hdrawn.rehome _ _ _ _).evict _
  | enrol supi tmsi guti => exact hdrawn.enrol supi tmsi guti
  | retire _ _ => exact ⟨hdrawn.min, hdrawn.max, hdrawn.ranUe, hdrawn.slot⟩
  | openNode connection => exact ⟨hdrawn.min, hdrawn.max, hdrawn.ranUe, hdrawn.slot⟩
  | closeNode _ _ _ => exact ⟨hdrawn.min, hdrawn.max, hdrawn.ranUe, hdrawn.slot⟩
  | setAccess _ => exact ⟨hdrawn.min, hdrawn.max, hdrawn.ranUe, hdrawn.slot⟩

end

end State

namespace World

open State

section

variable {range : IdRange} {world : World} (hdrawn : world.state.IdsDrawn range)
  (hsound : world.state.Sound)

include hdrawn hsound

theorem ngapId_newRanUe (hbelow : range.max.toInt < 9223372036854775807)
    {node : Ref RadioNode} {key : Int} {ref : Ref RanUe} {done : World}
    (hcall : world.newRanUe node key = (.ok ref, done)) :
    NgapId.Drawn range (done.state.ranUe ref).ngapId := by
  rcases world.newRanUe_cases node key with
    ⟨error, refused, hrefused, -⟩ | ⟨id, pool, added, -, halloc, hok, hstate⟩
  · rw [hrefused] at hcall
    cases hcall
  · rw [hok] at hcall
    cases hcall
    have hadded := ((hdrawn.enlist hbelow hsound node key halloc).evict
      (world.state.findRanUeByKey node key))
    rw [← hstate] at hadded
    refine hadded.ranUe ?_
    have hcreated : done.state.created.2.2 = world.state.created.2.2 + 1 := by
      rw [hstate, created_evict, created_enlist]
    show world.state.created.2.2 < done.state.created.2.2
    rw [hcreated]
    exact Nat.lt_succ_self _

theorem slot_attach (hnonneg : 0 ≤ range.min.toInt) {ue : Ref Ue} {ranUe : Ref RanUe}
    {done : World} (hcall : world.attach ue ranUe = (.ok (), done)) :
    ∃ node, world.state.findNode (world.state.ranUe ranUe).nodeId = some node ∧
      (done.state.ue ue).slot (world.state.node node).access =
        some (world.state.ranUe ranUe).ngapId := by
  rcases world.attach_cases ue ranUe with ⟨error, hrefused⟩ | ⟨node, hlive, hnode, -, hstate⟩
  · rw [hrefused] at hcall
    cases hcall
  · rw [hcall] at hstate
    dsimp only at hstate
    have hassigned : NgapId.Drawn range (world.state.ranUe ranUe).ngapId :=
      hdrawn.ranUe (hsound.pool.ranUe_created ((hsound.pool.live ranUe).mp hlive))
    have hkept : ¬ world.state.previousOwner ue ranUe = some ue := by
      rw [previousOwner, Option.bind_eq_some_iff]
      rintro ⟨id, hnamed, hfind⟩
      rw [Option.filter_eq_some_iff, decide_eq_true_eq] at hnamed
      exact hnamed.2 (hsound.ue_id hfind).symm
    refine ⟨node, hnode, ?_⟩
    rw [hstate, ue_attach, if_neg hkept, ue_occupy, if_pos rfl, Ue.slot, Ue.link,
      PerAccess.get_set, if_pos rfl, Option.filter_eq_some_iff, decide_eq_true_eq]
    exact ⟨rfl, (hassigned.contains hnonneg).2⟩

end

theorem run_idsDrawn {config : Config} (hbelow : config.ngapIds.max.toInt < 9223372036854775807)
    (operations : List Operation) :
    ((opened config).run operations).state.IdsDrawn config.ngapIds :=
  (run_keeps (fun hsound hdrawn hstep => hdrawn.step hbelow hsound hstep) (idsDrawn_new config)
    (obeys_any _ operations)).2

/-- A pool that issues 5G-TMSIs answers nothing exactly if all of its range is outstanding. -/
theorem allocateTmsi_answers {world : World} {range : IdRange}
    (hpool : world.state.registry.tmsis.IssuesTmsis)
    (hmin : world.state.registry.tmsis.min = range.min.toInt)
    (hmax : world.state.registry.tmsis.max = range.max.toInt) :
    (world.allocateTmsi.1 = none ↔
      ∀ tmsi, range.Contains tmsi → world.state.registry.tmsis.Outstanding tmsi) ∧
    ∀ tmsi, world.allocateTmsi.1 = some tmsi → range.Contains tmsi ∧ 0 ≤ tmsi ∧
      tmsi ≤ Tmsi.largest ∧ ¬ world.state.registry.tmsis.Outstanding tmsi := by
  have hrange (tmsi : Int) : world.state.registry.tmsis.InRange tmsi ↔ range.Contains tmsi := by
    rw [IdPool.InRange, IdRange.Contains, hmin, hmax]
  rw [allocateTmsi_eq hpool, hpool.bounded.exhausted_iff]
  constructor
  · exact forall_congr' fun tmsi => imp_congr_left (hrange tmsi)
  · intro tmsi hsome
    have halloc : world.state.registry.tmsis.allocate =
        (some tmsi, world.state.registry.tmsis.allocate.2) := by
      rw [← hsome]
    have hwithin := hpool.bounded.allocate_inRange halloc
    exact ⟨(hrange tmsi).mp hwithin, Int.le_trans hpool.nonneg hwithin.1,
      Int.le_trans hwithin.2 hpool.le_largest, IdPool.allocate_fresh halloc⟩

/-- Every AMF UE NGAP id that is assigned is a value of the configured range and no id of an empty
slot, unless the range ends at the largest word of 64 bits.  A 5G-TMSI is issued exactly if a
value of its range is not outstanding, and it is such a value, of 31 bits. -/
theorem run_ids_in_range {config : Config} (hvalid : config.validate = .ok ())
    (operations : List Operation) :
    let world := (opened config).run operations
    let tmsis := world.state.registry.tmsis
    (config.ngapIds.max.toInt < 9223372036854775807 →
      NgapId.Signed world.state.registry.ngapIds.cursor ∧
      (∀ node key ref done, world.newRanUe node key = (.ok ref, done) →
        let id := (done.state.ranUe ref).ngapId
        config.ngapIds.Contains id ∧ id ≠ NgapId.invalid ∧
          (config.ngapIds.max.toInt ≤ NgapId.protocolMax → id ≤ NgapId.protocolMax)) ∧
      (∀ ue ranUe done, world.attach ue ranUe = (.ok (), done) →
        ∃ node, world.state.findNode (world.state.ranUe ranUe).nodeId = some node ∧
          (done.state.ue ue).slot (world.state.node node).access =
            some (world.state.ranUe ranUe).ngapId ∧
          (done.state.ue ue).Connected (world.state.node node).access) ∧
      ∀ ue access id, (world.state.ue ue).slots.get access = some id →
        config.ngapIds.Contains id ∧ (world.state.ue ue).Connected access) ∧
    (world.allocateTmsi.1 = none ↔
      ∀ tmsi, config.tmsis.Contains tmsi → tmsis.Outstanding tmsi) ∧
    ∀ tmsi, world.allocateTmsi.1 = some tmsi → config.tmsis.Contains tmsi ∧ 0 ≤ tmsi ∧
      tmsi ≤ Tmsi.largest ∧ ¬ tmsis.Outstanding tmsi := by
  intro world tmsis
  have hsound : world.state.Sound := run_sound config operations
  have hnonneg := Config.ngapIds_nonneg hvalid
  constructor
  · intro hbelow
    have hdrawn : world.state.IdsDrawn config.ngapIds := run_idsDrawn hbelow operations
    refine ⟨?_, ?_, ?_, ?_⟩
    · have hcursor := hsound.pool.pool_valid.cursor_range
      have hlow := (signed_toInt config.ngapIds.min).2
      rw [hdrawn.min, hdrawn.max] at *
      unfold NgapId.Signed
      omega
    · intro node key ref done hcall
      obtain ⟨hcontains, hne⟩ := (ngapId_newRanUe hdrawn hsound hbelow hcall).contains hnonneg
      exact ⟨hcontains, hne, Int.le_trans hcontains.2⟩
    · intro ue ranUe done hcall
      obtain ⟨node, hnode, hslot⟩ := slot_attach hdrawn hsound hnonneg hcall
      refine ⟨node, hnode, hslot, ?_⟩
      rw [Ue.Connected, hslot]
      rfl
    · intro ue access id hslot
      obtain ⟨hcontains, hne⟩ := (hdrawn.slot hslot).contains hnonneg
      refine ⟨hcontains, ?_⟩
      rw [Ue.Connected, Ue.slot, hslot, Option.filter_some, if_pos (by simpa using hne)]
      rfl
  · have hreaches := run_tmsis_reaches config operations
    have hmax : tmsis.max = config.tmsis.max.toInt :=
      hreaches.max_eq.trans (Int.min_eq_left (Config.ranges_of_validate hvalid).2.2)
    exact allocateTmsi_answers (run_issuesTmsis hvalid operations) hreaches.min_eq hmax

/-- Both ranges end at the largest value of the protocol, and of the 5G-TMSIs the only one is in
use. -/
theorem ids_in_range_last :
    let config :=
      { Config.standard with
        ngapIds := ⟨1099511627774, 1099511627775⟩, tmsis := ⟨2147483647, 2147483647⟩ }
    let operations : List Operation :=
      [.newNode ⟨1⟩, .newUe "imsi-001010000000001", .newRanUe ⟨0⟩ 1]
    let world := (opened config).run operations
    let added := world.newRanUe ⟨0⟩ 2
    config.validate = .ok () ∧ config.ngapIds.max.toInt < 9223372036854775807 ∧
      config.ngapIds.max.toInt ≤ NgapId.protocolMax ∧ added.1 = .ok ⟨1⟩ ∧
      ((added.2.state.ranUe ⟨1⟩).ngapId : Int) ≤ NgapId.protocolMax ∧
      (world.attach ⟨0⟩ ⟨0⟩).1 = .ok () ∧
      (∃ node, ((world.attach ⟨0⟩ ⟨0⟩).2.state.ue ⟨0⟩).Connected
        (world.state.node node).access) ∧
      world.allocateTmsi.1 = none ∧ world.state.registry.tmsis.Outstanding 2147483647 := by
  intro config operations world added
  have hvalid : config.validate = .ok () := by decide +kernel
  have hbelow : config.ngapIds.max.toInt < 9223372036854775807 := by decide +kernel
  have hmax : config.ngapIds.max.toInt ≤ NgapId.protocolMax := by decide +kernel
  have hadded : added.1 = .ok ⟨1⟩ := by decide +kernel
  have hattached : (world.attach ⟨0⟩ ⟨0⟩).1 = .ok () := by decide +kernel
  have hnone : world.allocateTmsi.1 = none := by decide +kernel
  obtain ⟨hngapIds, hexhausted, -⟩ := run_ids_in_range hvalid operations
  obtain ⟨-, hranUes, hslots, -⟩ := hngapIds hbelow
  have hworld : (opened config).run operations = world := rfl
  rw [hworld] at hranUes hslots hexhausted
  have hnew : world.newRanUe ⟨0⟩ 2 = (.ok ⟨1⟩, added.2) := by rw [← hadded]
  obtain ⟨-, -, hprotocol⟩ := hranUes _ _ _ _ hnew
  have hlinked : world.attach ⟨0⟩ ⟨0⟩ = (.ok (), (world.attach ⟨0⟩ ⟨0⟩).2) := by
    rw [← hattached]
  obtain ⟨node, -, -, hconnected⟩ := hslots _ _ _ hlinked
  exact ⟨hvalid, hbelow, hmax, hadded, hprotocol hmax, hattached, ⟨node, hconnected⟩, hnone,
    hexhausted.mp hnone 2147483647 (by decide +kernel)⟩

/-- A range that starts at the largest id of 40 bits and goes on is accepted, and the second id is
one of 41 bits. -/
theorem newRanUe_beyond_protocol :
    let config := { Config.standard with ngapIds := ⟨1099511627775, 1099511627776⟩ }
    let operations : List Operation := [.newNode ⟨1⟩, .newRanUe ⟨0⟩ 1]
    let added := ((opened config).run operations).newRanUe ⟨0⟩ 2
    config.validate = .ok () ∧ added.1 = .ok ⟨1⟩ ∧
      NgapId.protocolMax < ((added.2.state.ranUe ⟨1⟩).ngapId : Int) := by
  intro config operations added
  have hadded : added.1 = .ok ⟨1⟩ := by decide +kernel
  exact ⟨by decide +kernel, hadded, by decide +kernel⟩

end World

end AccessMobility
