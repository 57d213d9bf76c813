import AccessMobility.Proofs.RunSoundness

/-!
# Slots and back references

That a RAN UE is attached to a UE is written down twice: the UE keeps the AMF UE NGAP id in the
slot of an access, and the RAN UE keeps the pool id of the UE.  This file shows that the two agree
as long as only registered UEs are attached, a radio node that holds RAN UEs keeps its access, and
RAN UEs are handed over within one access.

A configuration that passes validation has no negative AMF UE NGAP ids, so no id in use is the one
that marks an empty slot.
-/

namespace AccessMobility

namespace State

def ServedOver (state : State) (ref : Ref RanUe) (access : AccessType) : Prop :=
  ∃ node, state.findNode (state.ranUe ref).nodeId = some node ∧ (state.node node).access = access

/-- The pool holds a RAN UE under an id that names a UE and is served over an access. -/
def Attached (state : State) (ngapId : Nat) (ue : Ref Ue) (access : AccessType) : Prop :=
  ∃ ref, state.findRanUe ngapId = some ref ∧ (state.ranUe ref).ueId = some (state.ue ue).id ∧
    state.ServedOver ref access

/-- A slot names exactly the RAN UE that names the UE over its access, and every RAN UE that names
a UE is in the pool and names a registered one. -/
structure Links (state : State) : Prop where
  slot : ∀ ue access ngapId, (state.ue ue).slots.get access = some ngapId ↔
    state.UeRegistered ue ∧ state.Attached ngapId ue access
  back : ∀ {ref id}, (state.ranUe ref).ueId = some id →
    state.RanUeRegistered ref ∧ ∃ ue, state.findUe id = some ue
  ids : 0 ≤ state.registry.ngapIds.min

theorem ServedOver.unique {state : State} {ref : Ref RanUe} {left right : AccessType}
    (hleft : state.ServedOver ref left) (hright : state.ServedOver ref right) : left = right := by
  obtain ⟨node, hnode, haccess⟩ := hleft
  obtain ⟨other, hother, haccessOther⟩ := hright
  have heq : node = other := Option.some.inj (hnode.symm.trans hother)
  rw [← haccess, heq, haccessOther]

theorem links_new {config : Config} (hids : 0 ≤ config.ngapIds.min.toInt) :
    (State.new config).Links where
  slot ue access ngapId := by
    have hue : (State.new config).ue ue = default := by
      simp [State.new, State.ue, Store.get]
    rw [hue]
    simp [default, UeRegistered, State.new, Registry.new, findUe]
  back {ref id} hback := by
    have hranUe : (State.new config).ranUe ref = default := by
      simp [State.new, State.ranUe, Store.get]
    rw [hranUe] at hback
    simp [default] at hback
  ids := hids

section

variable {state : State} (hsound : state.Sound) (hlinks : state.Links)

include hsound hlinks

/-- No id in use is the one that marks an empty slot. -/
theorem Links.ne_invalid {ngapId : Nat} {ref : Ref RanUe}
    (hfind : state.findRanUe ngapId = some ref) : ngapId ≠ NgapId.invalid := by
  intro heq
  have hout := hsound.pool.outstanding ⟨ngapId, ref, hfind, rfl⟩
  have hinvalid : NgapId.toSigned NgapId.invalid = -1 := by decide
  rw [heq, hinvalid] at hout
  exact hsound.pool.pool_valid.not_passed_neg_one hlinks.ids hout.1

theorem Links.slot_iff (ue : Ref Ue) (access : AccessType) (ngapId : Nat) :
    (state.ue ue).slot access = some ngapId ↔
      state.UeRegistered ue ∧ state.Attached ngapId ue access := by
  rw [Ue.slot, Option.filter_eq_some_iff, hlinks.slot]
  constructor
  · exact And.left
  · rintro ⟨hregistered, ref, hfind, hnamed⟩
    exact ⟨⟨hregistered, ref, hfind, hnamed⟩, by simpa using hlinks.ne_invalid hsound hfind⟩

theorem Links.resolves_iff (ue : Ref Ue) (access : AccessType) (ref : Ref RanUe) :
    ((state.ue ue).slot access).bind state.findRanUe = some ref ↔
      state.UeRegistered ue ∧ (state.ranUe ref).ueId = some (state.ue ue).id ∧
        state.ServedOver ref access := by
  rw [Option.bind_eq_some_iff]
  constructor
  · rintro ⟨ngapId, hslot, hfind⟩
    obtain ⟨hregistered, other, hother, hback, hserved⟩ :=
      (hlinks.slot_iff hsound ue access ngapId).mp hslot
    have heq : ref = other := Option.some.inj (hfind.symm.trans hother)
    subst heq
    exact ⟨hregistered, hback, hserved⟩
  · rintro ⟨hregistered, hback, hserved⟩
    obtain ⟨hfind, -⟩ := hlinks.back hback
    exact ⟨(state.ranUe ref).ngapId,
      (hlinks.slot_iff hsound ue access _).mpr ⟨hregistered, ref, hfind, hback, hserved⟩, hfind⟩

/-! ## Steps that leave the links alone -/

omit hlinks in
theorem Links.congr {next : State} (hlinks : state.Links)
    (hslots : ∀ ref, (next.ue ref).slots = (state.ue ref).slots)
    (hid : ∀ ref, (next.ue ref).id = (state.ue ref).id)
    (hues : next.registry.ues = state.registry.ues)
    (hranUes : next.registry.ranUes = state.registry.ranUes)
    (hngapId : ∀ ref, (next.ranUe ref).ngapId = (state.ranUe ref).ngapId)
    (hback : ∀ ref, (next.ranUe ref).ueId = (state.ranUe ref).ueId)
    (hserved : ∀ ref access, state.RanUeRegistered ref →
      (next.ServedOver ref access ↔ state.ServedOver ref access))
    (hids : next.registry.ngapIds.min = state.registry.ngapIds.min) : next.Links := by
  have hfindUe : next.findUe = state.findUe := by
    funext id
    simp only [findUe, hues]
  have hfind : next.findRanUe = state.findRanUe := by
    funext id
    simp only [findRanUe, hranUes]
  constructor
  · intro ue access ngapId
    have hattached : next.Attached ngapId ue access ↔ state.Attached ngapId ue access := by
      unfold Attached
      rw [hfind]
      apply exists_congr
      intro ref
      rw [hback, hid]
      apply and_congr_right
      intro hfound
      rw [hserved ref access (hsound.pool.registered_of_find hfound)]
    rw [hslots, hlinks.slot, hattached, UeRegistered, UeRegistered, hfindUe, hid]
  · intro ref id hsome
    rw [hback] at hsome
    rw [RanUeRegistered, hfind, hngapId, hfindUe]
    exact hlinks.back hsome
  · rw [hids]
    exact hlinks.ids

/-! ## Detaching -/

theorem Links.detach (ue : Ref Ue) (access : AccessType) : (state.detach ue access).Links := by
  have hback (ref : Ref RanUe) (id : Nat) : ((state.detach ue access).ranUe ref).ueId = some id ↔
      (state.ranUe ref).ueId = some id ∧
        ¬ ((state.UeRegistered ue ∧ (state.ranUe ref).ueId = some (state.ue ue).id ∧
          state.ServedOver ref access) ∧ id = (state.ue ue).id) := by
    rw [ueId_detach, hlinks.resolves_iff hsound]
  have hslots (other : Ref Ue) (path : AccessType) (ngapId : Nat) :
      ((state.detach ue access).ue other).slots.get path = some ngapId ↔
        ¬ (ue = other ∧ access = path) ∧ (state.ue other).slots.get path = some ngapId := by
    rw [ue_detach]
    by_cases heq : ue = other
    · subst heq
      rw [if_pos rfl, Ue.clearSlot, PerAccess.get_set]
      by_cases hpath : access = path <;> simp [hpath]
    · simp [heq]
  have hnumbers := state.sameNumbers_detach ue access
  have hpool := state.samePool_detach ue access
  have hserved (ref : Ref RanUe) (path : AccessType) :
      (state.detach ue access).ServedOver ref path ↔ state.ServedOver ref path := by
    rw [ServedOver, ServedOver, hnumbers.findNode_eq, hpool.ranUe_nodeId, node_detach]
  constructor
  · intro other path ngapId
    rw [hslots, hlinks.slot, hnumbers.ueRegistered_iff]
    unfold Attached
    simp only [hpool.findRanUe_eq, hback, hserved, hnumbers.ue_id]
    constructor
    · rintro ⟨hnot, hregistered, ref, hfind, hnamed, hpath⟩
      refine ⟨hregistered, ref, hfind, ⟨hnamed, ?_⟩, hpath⟩
      rintro ⟨⟨-, -, haccess⟩, heq⟩
      exact hnot ⟨(hsound.ue_eq_of_id hregistered heq.symm), haccess.unique hpath⟩
    · rintro ⟨hregistered, ref, hfind, ⟨hnamed, hkept⟩, hpath⟩
      refine ⟨?_, hregistered, ref, hfind, hnamed, hpath⟩
      rintro ⟨heq, haccess⟩
      subst heq
      subst haccess
      exact hkept ⟨⟨hregistered, hnamed, hpath⟩, rfl⟩
  · intro ref id hsome
    rw [hnumbers.findUe_eq, hpool.ranUeRegistered_iff]
    exact hlinks.back ((hback ref id).mp hsome).1
  · rw [registry_detach]
    exact hlinks.ids

/-! ## Attaching -/

/-- The RAN UE that loses its slot is the other one that names the UE over the access. -/
theorem Links.replacedBy_iff {ue : Ref Ue} {ranUe : Ref RanUe}
    (hregistered : state.RanUeRegistered ranUe) (access : AccessType) (ref : Ref RanUe) :
    state.replacedBy ue ranUe access = some ref ↔
      (state.UeRegistered ue ∧ (state.ranUe ref).ueId = some (state.ue ue).id ∧
        state.ServedOver ref access) ∧ ref ≠ ranUe := by
  rw [← hlinks.resolves_iff hsound, replacedBy, Option.bind_eq_some_iff, Option.bind_eq_some_iff]
  simp only [Option.filter_eq_some_iff, decide_eq_true_eq]
  constructor
  · rintro ⟨ngapId, ⟨hslot, hne⟩, hfind⟩
    refine ⟨⟨ngapId, hslot, hfind⟩, ?_⟩
    intro heq
    subst heq
    exact hne (hsound.pool.ngapId hfind).symm
  · rintro ⟨⟨ngapId, hslot, hfind⟩, hne⟩
    refine ⟨ngapId, ⟨hslot, ?_⟩, hfind⟩
    intro heq
    rw [heq] at hfind
    exact hne (Option.some.inj (hfind.symm.trans hregistered))

omit hsound hlinks in
theorem WellNumbered.previousOwner_iff {state : State} (hnumbered : state.WellNumbered)
    {ue : Ref Ue} (hue : state.UeRegistered ue) (ranUe : Ref RanUe) (other : Ref Ue) :
    state.previousOwner ue ranUe = some other ↔
      ue ≠ other ∧ state.UeRegistered other ∧
        (state.ranUe ranUe).ueId = some (state.ue other).id := by
  unfold previousOwner
  rw [Option.bind_eq_some_iff]
  simp only [Option.filter_eq_some_iff, decide_eq_true_eq]
  constructor
  · rintro ⟨id, ⟨hnamed, hne⟩, hfind⟩
    have hid := hnumbered.ue_id hfind
    refine ⟨?_, hnumbered.ueRegistered_of_find hfind, hid ▸ hnamed⟩
    intro heq
    subst heq
    exact hne hid.symm
  · rintro ⟨hne, hother, hnamed⟩
    refine ⟨(state.ue other).id, ⟨hnamed, ?_⟩, hother⟩
    intro hid
    exact hne (hnumbered.ue_eq_of_id hue hid).symm

/-- After an attachment the RAN UE names the UE, and no other one served over the same access
does. -/
theorem Links.ueId_attach {ue : Ref Ue} {ranUe : Ref RanUe} (hue : state.UeRegistered ue)
    (hregistered : state.RanUeRegistered ranUe) (access : AccessType) (ref : Ref RanUe)
    (id : Nat) :
    ((state.attach ue ranUe access).ranUe ref).ueId = some id ↔
      (ranUe = ref ∧ id = (state.ue ue).id) ∨
        (ranUe ≠ ref ∧ (state.ranUe ref).ueId = some id ∧
          ¬ (id = (state.ue ue).id ∧ state.ServedOver ref access)) := by
  rw [State.ueId_attach, hlinks.replacedBy_iff hsound hregistered]
  by_cases heq : ranUe = ref
  · simp [heq]
  · simp only [heq, false_and, false_or, ne_eq, not_false_eq_true, true_and, Ne.symm heq,
      and_true]
    apply and_congr_right
    intro hnamed
    constructor
    · rintro hkept ⟨hid, haccess⟩
      rw [hid] at hnamed
      exact hkept ⟨⟨hue, hnamed, haccess⟩, hid⟩
    · rintro hkept ⟨⟨-, -, haccess⟩, hid⟩
      exact hkept ⟨hid, haccess⟩

/-- Besides the UE itself only the one that had the RAN UE before changes its slots. -/
theorem Links.slots_attach {ue : Ref Ue} {ranUe : Ref RanUe} (hue : state.UeRegistered ue)
    (hregistered : state.RanUeRegistered ranUe) (access : AccessType) (other : Ref Ue)
    (path : AccessType) (ngapId : Nat) :
    ((state.attach ue ranUe access).ue other).slots.get path = some ngapId ↔
      if ue = other then
        (access = path ∧ (state.ranUe ranUe).ngapId = ngapId) ∨
          (access ≠ path ∧ (state.ue other).slots.get path = some ngapId)
      else
        (state.ue other).slots.get path = some ngapId ∧ ngapId ≠ (state.ranUe ranUe).ngapId := by
  have hprevious := hsound.toWellNumbered.previousOwner_iff hue ranUe
  rw [ue_attach, ue_occupy]
  by_cases heq : ue = other
  · subst heq
    have hnone : ¬ state.previousOwner ue ranUe = some ue :=
      fun hsome => ((hprevious ue).mp hsome).1 rfl
    rw [if_neg hnone, if_pos rfl, if_pos rfl, Ue.link, PerAccess.get_set]
    by_cases hpath : access = path <;> simp [hpath]
  · rw [if_neg heq, if_neg heq]
    split
    next =>
      rw [Ue.unlink, PerAccess.get_map, Option.filter_eq_some_iff, decide_eq_true_eq]
    next hother =>
      refine ⟨fun hslot => ⟨hslot, ?_⟩, And.left⟩
      intro hid
      obtain ⟨howner, ref, hfind, hnamed, -⟩ := (hlinks.slot other path ngapId).mp hslot
      rw [hid] at hfind
      have hsame : ref = ranUe := Option.some.inj (hfind.symm.trans hregistered)
      rw [hsame] at hnamed
      exact hother ((hprevious other).mpr ⟨heq, howner, hnamed⟩)

theorem Links.attach {ue : Ref Ue} {ranUe : Ref RanUe} {node : Ref RadioNode}
    (hue : state.UeRegistered ue) (hlive : (state.ranUe ranUe).removed = false)
    (hnode : state.findNode (state.ranUe ranUe).nodeId = some node) :
    (state.attach ue ranUe (state.node node).access).Links := by
  have hregistered := (hsound.pool.live ranUe).mp hlive
  have hservedNow : state.ServedOver ranUe (state.node node).access := ⟨node, hnode, rfl⟩
  generalize (state.node node).access = access at *
  have hnumbers := state.sameNumbers_attach ue ranUe access
  have hpool := state.samePool_attach ue ranUe access
  have hserved (ref : Ref RanUe) (path : AccessType) :
      (state.attach ue ranUe access).ServedOver ref path ↔ state.ServedOver ref path := by
    rw [ServedOver, ServedOver, hnumbers.findNode_eq, hpool.ranUe_nodeId, node_attach]
  have hback := hlinks.ueId_attach hsound hue hregistered access
  have hslots := hlinks.slots_attach hsound hue hregistered access
  constructor
  · intro other path ngapId
    rw [hslots, hnumbers.ueRegistered_iff]
    unfold Attached
    simp only [hpool.findRanUe_eq, hback, hserved, hnumbers.ue_id]
    by_cases heq : ue = other
    · subst heq
      rw [if_pos rfl, hlinks.slot]
      constructor
      · rintro (⟨hpath, hid⟩ | ⟨hpath, -, ref, hfind, hnamed, haccess⟩)
        · subst hpath
          subst hid
          exact ⟨hue, ranUe, hregistered, Or.inl ⟨rfl, rfl⟩, hservedNow⟩
        · refine ⟨hue, ref, hfind, Or.inr ⟨?_, hnamed, ?_⟩, haccess⟩
          · intro hsame
            subst hsame
            exact hpath (hservedNow.unique haccess)
          · rintro ⟨-, hother⟩
            exact hpath (hother.unique haccess)
      · rintro ⟨-, ref, hfind, ⟨hsame, -⟩ | ⟨hne, hnamed, hkept⟩, haccess⟩
        · subst hsame
          exact Or.inl ⟨hservedNow.unique haccess, hsound.pool.ngapId hfind⟩
        · right
          refine ⟨?_, hue, ref, hfind, hnamed, haccess⟩
          intro hpath
          subst hpath
          exact hkept ⟨rfl, haccess⟩
    · rw [if_neg heq, hlinks.slot]
      constructor
      · rintro ⟨⟨hother, ref, hfind, hnamed, haccess⟩, hne⟩
        refine ⟨hother, ref, hfind, Or.inr ⟨?_, hnamed, ?_⟩, haccess⟩
        · intro hsame
          subst hsame
          exact hne (hsound.pool.ngapId hfind).symm
        · rintro ⟨hid, -⟩
          exact heq (hsound.ue_eq_of_id hue hid).symm
      · rintro ⟨hother, ref, hfind, ⟨-, hid⟩ | ⟨hne, hnamed, -⟩, haccess⟩
        · exact absurd (hsound.ue_eq_of_id hue hid).symm heq
        · refine ⟨⟨hother, ref, hfind, hnamed, haccess⟩, ?_⟩
          intro hid
          rw [hid] at hfind
          exact hne (Option.some.inj (hregistered.symm.trans hfind))
  · intro ref id hsome
    rw [hnumbers.findUe_eq, hpool.ranUeRegistered_iff]
    rcases (hback ref id).mp hsome with ⟨hsame, hid⟩ | ⟨-, hnamed, -⟩
    · subst hsame
      subst hid
      exact ⟨hregistered, ue, hue⟩
    · exact hlinks.back hnamed
  · rw [registry_attach]
    exact hlinks.ids

/-! ## Releasing, creating and handing over RAN UEs -/

omit hsound in
/-- Releasing keeps the links also while a RAN UE that lost its key waits to be released. -/
theorem Links.release {displaced : Option (Ref RanUe)} (hpool : state.PoolConsistent displaced)
    {ranUe : Ref RanUe} (hlive : (state.ranUe ranUe).removed = false) :
    (state.release ranUe).Links := by
  have hregistered := (hpool.live ranUe).mp hlive
  have hfind := hpool.findRanUe_release hregistered
  have hnumbers := state.sameNumbers_release ranUe
  have hsame {ref : Ref RanUe} (hne : ref ≠ ranUe) :
      (state.release ranUe).ranUe ref = state.ranUe ref :=
    ranUe_release_of_ne hne
  have hserved {ref : Ref RanUe} (hne : ref ≠ ranUe) (access : AccessType) :
      (state.release ranUe).ServedOver ref access ↔ state.ServedOver ref access := by
    unfold ServedOver
    rw [hnumbers.findNode_eq, hsame hne]
    apply exists_congr
    intro node
    rw [node_release]
    split <;> rfl
  have hslots (ue : Ref Ue) (access : AccessType) (ngapId : Nat) :
      ((state.release ranUe).ue ue).slots.get access = some ngapId ↔
        (state.ue ue).slots.get access = some ngapId ∧
          ngapId ≠ (state.ranUe ranUe).ngapId := by
    rw [ue_release]
    split
    next =>
      rw [Ue.unlink, PerAccess.get_map, Option.filter_eq_some_iff, decide_eq_true_eq]
    next hother =>
      refine ⟨fun hslot => ⟨hslot, ?_⟩, And.left⟩
      intro hid
      obtain ⟨howner, ref, hfound, hnamed, -⟩ := (hlinks.slot ue access ngapId).mp hslot
      rw [hid] at hfound
      have heq : ref = ranUe := Option.some.inj (hfound.symm.trans hregistered)
      rw [heq] at hnamed
      exact hother (Option.bind_eq_some_iff.mpr ⟨_, hnamed, howner⟩)
  constructor
  · intro ue access ngapId
    rw [hslots, hlinks.slot, hnumbers.ueRegistered_iff]
    unfold Attached
    simp only [hfind, hnumbers.ue_id]
    constructor
    · rintro ⟨⟨howner, ref, hfound, hnamed, haccess⟩, hid⟩
      have hne : ref ≠ ranUe := by
        intro heq
        subst heq
        exact hid (hpool.ngapId hfound).symm
      rw [← hsame hne] at hnamed
      exact ⟨howner, ref, ⟨hfound, hne⟩, hnamed, (hserved hne access).mpr haccess⟩
    · rintro ⟨howner, ref, ⟨hfound, hne⟩, hnamed, haccess⟩
      rw [hsame hne] at hnamed
      refine ⟨⟨howner, ref, hfound, hnamed, (hserved hne access).mp haccess⟩, ?_⟩
      intro hid
      rw [hid] at hfound
      exact hne (Option.some.inj (hfound.symm.trans hregistered))
  · intro ref id hsome
    have hne : ref ≠ ranUe := by
      intro heq
      rw [ranUe_release, if_pos heq.symm] at hsome
      simp at hsome
    rw [hsame hne] at hsome
    obtain ⟨hfound, hresolves⟩ := hlinks.back hsome
    rw [hpool.ranUeRegistered_release hregistered, hnumbers.findUe_eq]
    exact ⟨⟨hfound, hne⟩, hresolves⟩
  · rw [registry_release, if_pos hregistered, IdPool.min_free]
    exact hlinks.ids

omit hsound in
theorem Links.evict {displaced : Option (Ref RanUe)} (hpool : state.PoolConsistent displaced) :
    (state.evict displaced).Links := by
  cases displaced with
  | none => exact hlinks
  | some ref =>
      by_cases hremoved : (state.ranUe ref).removed = true
      · rw [State.evict, if_pos hremoved]
        exact hlinks
      · rw [State.evict, if_neg hremoved]
        exact hlinks.release hpool (by simpa using hremoved)

theorem Links.enlist {node : Ref RadioNode} {key id : Int} {pool : IdPool}
    (halloc : state.registry.ngapIds.allocate = (some id, pool)) :
    (state.enlist node key (NgapId.ofSigned id) pool).Links := by
  have hnumbers := state.sameNumbers_enlist node key (NgapId.ofSigned id) pool
  have hfind := hsound.pool.findRanUe_enlist node key halloc
  have hsame {ref : Ref RanUe} (hne : state.entities.ranUes.fresh ≠ ref) :=
    ranUe_enlist_of_ne hne node key (NgapId.ofSigned id) pool
  have hnew : ((state.enlist node key (NgapId.ofSigned id) pool).ranUe
      state.entities.ranUes.fresh).ueId = none := by
    rw [ranUe_enlist, if_pos rfl]
  have hserved {ref : Ref RanUe} (hne : state.entities.ranUes.fresh ≠ ref)
      (access : AccessType) :
      (state.enlist node key (NgapId.ofSigned id) pool).ServedOver ref access ↔
        state.ServedOver ref access := by
    unfold ServedOver
    rw [hnumbers.findNode_eq, hsame hne]
    apply exists_congr
    intro home
    rw [node_enlist]
    split
    next heq => rw [heq]
    next => rfl
  constructor
  · intro ue access ngapId
    rw [ue_enlist, hlinks.slot, hnumbers.ueRegistered_iff]
    apply and_congr_right
    intro howner
    unfold Attached
    simp only [hfind, ue_enlist]
    constructor
    · rintro ⟨ref, hfound, hnamed, haccess⟩
      have hne := hsound.pool.ne_fresh hfound
      rw [← hsame hne] at hnamed
      exact ⟨ref, Or.inr hfound, hnamed, (hserved hne access).mpr haccess⟩
    · rintro ⟨ref, ⟨-, hfresh⟩ | hfound, hnamed, haccess⟩
      · subst hfresh
        rw [hnew] at hnamed
        simp at hnamed
      · have hne := hsound.pool.ne_fresh hfound
        rw [hsame hne] at hnamed
        exact ⟨ref, hfound, hnamed, (hserved hne access).mp haccess⟩
  · intro ref ueId hsome
    have hne : state.entities.ranUes.fresh ≠ ref := by
      intro heq
      subst heq
      rw [hnew] at hsome
      simp at hsome
    rw [hsame hne] at hsome
    obtain ⟨hfound, hresolves⟩ := hlinks.back hsome
    rw [hsound.pool.ranUeRegistered_enlist node key halloc, hnumbers.findUe_eq]
    exact ⟨Or.inr hfound, hresolves⟩
  · have hmin := state.registry.ngapIds.min_allocate
    rw [halloc] at hmin
    rw [registry_enlist]
    dsimp only at hmin ⊢
    rw [hmin]
    exact hlinks.ids

theorem Links.rehome {ranUe : Ref RanUe} {source target : Ref RadioNode} {key : Int}
    (hsource : state.findNode (state.ranUe ranUe).nodeId = some source)
    (htarget : state.NodeRegistered target)
    (haccess : (state.node target).access = (state.node source).access) :
    (state.rehome ranUe source target key).Links := by
  have hnumbers := state.sameNumbers_rehome ranUe source target key
  have hnodeAccess (node : Ref RadioNode) :
      ((state.rehome ranUe source target key).node node).access = (state.node node).access := by
    rw [node_rehome]
    dsimp only
    by_cases heq : target = node
    · subst heq
      rw [if_pos rfl]
      split <;> rfl
    · rw [if_neg heq]
      split <;> rfl
  refine hlinks.congr hsound ?_ hnumbers.ue_id hnumbers.ues ?_ ?_ ?_ ?_ ?_
  · intro ref
    rw [ue_rehome]
  · rw [registry_rehome]
  · intro ref
    rw [ranUe_rehome]
    split
    next heq => rw [heq]
    next => rfl
  · intro ref
    rw [ranUe_rehome]
    split
    next heq => rw [heq]
    next => rfl
  · intro ref access _
    unfold ServedOver
    simp only [hnumbers.findNode_eq, hnodeAccess, ranUe_rehome]
    by_cases heq : ranUe = ref
    · subst heq
      rw [if_pos rfl]
      have hfound : state.findNode (state.node target).id = some target := htarget
      simp only [hfound, hsource, Option.some.injEq, exists_eq_left', haccess]
    · rw [if_neg heq]
  · rw [registry_rehome]

/-! ## UEs and radio nodes come and go -/

theorem Links.enrol (supi : String) (tmsi : Option Int) (guti : Option String) :
    (state.enrol supi tmsi guti).Links := by
  have hfind := state.findUe_enrol supi tmsi guti
  have hresolves {ref : Ref RanUe} {id : Nat} (hnamed : (state.ranUe ref).ueId = some id) :
      ∃ ue, state.findUe id = some ue ∧ id ≠ state.registry.nextUeId := by
    obtain ⟨-, ue, hfound⟩ := hlinks.back hnamed
    exact ⟨ue, hfound, Nat.ne_of_lt (hsound.findUe_lt hfound)⟩
  constructor
  · intro ue access ngapId
    by_cases heq : state.entities.ues.fresh = ue
    · subst heq
      rw [ue_enrol, if_pos rfl]
      have hnot : ¬ (state.enrol supi tmsi guti).Attached ngapId state.entities.ues.fresh
          access := by
        rintro ⟨ref, -, hnamed, -⟩
        rw [ue_enrol, if_pos rfl] at hnamed
        obtain ⟨-, -, hne⟩ := hresolves hnamed
        exact hne rfl
      simp [hnot]
    · have hue : (state.enrol supi tmsi guti).ue ue = state.ue ue := by
        rw [ue_enrol, if_neg heq]
      have hregistered : (state.enrol supi tmsi guti).UeRegistered ue ↔
          state.UeRegistered ue := by
        rw [UeRegistered, hue, hfind, if_neg (Nat.ne_of_gt (hsound.ue_lt ue))]
        rfl
      rw [hue, hlinks.slot, hregistered]
      unfold Attached
      rw [hue]
      rfl
  · intro ref id hsome
    obtain ⟨ue, hfound, hne⟩ := hresolves hsome
    refine ⟨(hlinks.back hsome).1, ue, ?_⟩
    rw [hfind, if_neg (Ne.symm hne)]
    exact hfound
  · exact hlinks.ids

/-- A UE whose slots resolve to nothing has empty slots and is named by no RAN UE. -/
theorem Links.retire {ue : Ref Ue} {supiIndex : Table String Nat}
    (hvacant : ∀ access ngapId, (state.ue ue).slot access = some ngapId →
      state.findRanUe ngapId = none) : (state.retire ue supiIndex).Links := by
  have hunnamed (ref : Ref RanUe) (hue : state.UeRegistered ue) :
      (state.ranUe ref).ueId ≠ some (state.ue ue).id := by
    intro hnamed
    obtain ⟨hregistered, -⟩ := hlinks.back hnamed
    obtain ⟨node, hnode, -⟩ := hsound.pool.bound hregistered (by simp)
    have hslot := (hlinks.slot_iff hsound ue (state.node node).access _).mpr
      ⟨hue, ref, hregistered, hnamed, node, hnode, rfl⟩
    have hnone := hvacant _ _ hslot
    rw [hregistered] at hnone
    simp at hnone
  have hfind := state.findUe_retire ue supiIndex
  constructor
  · intro other access ngapId
    show (state.ue other).slots.get access = some ngapId ↔
      (state.retire ue supiIndex).UeRegistered other ∧ state.Attached ngapId other access
    rw [hlinks.slot]
    have hregistered : (state.retire ue supiIndex).UeRegistered other ↔
        (state.ue ue).id ≠ (state.ue other).id ∧ state.UeRegistered other := by
      show (state.retire ue supiIndex).findUe (state.ue other).id = some other ↔ _
      rw [hfind]
      split
      next heq => simp [heq]
      next hne => simp [hne, UeRegistered]
    rw [hregistered]
    constructor
    · rintro ⟨hother, hattached⟩
      refine ⟨⟨?_, hother⟩, hattached⟩
      intro heq
      have hsame := hsound.ue_eq_of_id hother heq
      subst hsame
      obtain ⟨ref, -, hnamed, -⟩ := hattached
      exact hunnamed ref hother hnamed
    · rintro ⟨⟨-, hother⟩, hattached⟩
      exact ⟨hother, hattached⟩
  · intro ref id hsome
    obtain ⟨hregistered, other, hfound⟩ := hlinks.back hsome
    refine ⟨hregistered, other, ?_⟩
    rw [hfind, if_neg]
    · exact hfound
    · intro heq
      subst heq
      have hsame := (hsound.ue_unique hfound ue).mp rfl
      subst hsame
      exact hunnamed ref hfound hsome
  · exact hlinks.ids

omit hlinks in
/-- A RAN UE of the pool is served over the same access as long as its radio node stays in the pool
and keeps its access. -/
theorem servedOver_congr {next : State}
    (hpool : state.SamePool next)
    (haccess : ∀ node key ref, state.findRanUeByKey node key = some ref →
      (next.node node).access = (state.node node).access) {ref : Ref RanUe}
    (hregistered : state.RanUeRegistered ref) (access : AccessType) :
    next.ServedOver ref access ↔ state.ServedOver ref access := by
  obtain ⟨node, hnode, hentry⟩ := hsound.pool.bound hregistered (by simp)
  have hnext := hpool.homes hentry hnode
  unfold ServedOver
  rw [hpool.ranUe_nodeId]
  simp only [hnode, hnext, Option.some.injEq, exists_eq_left', haccess node _ ref hentry]

theorem Links.openNode (connection : Connection) : (state.openNode connection).Links := by
  have hpool := samePool_openNode hsound.toWellNumbered hsound.pool connection
  refine hlinks.congr hsound (fun _ => rfl) (fun _ => rfl) rfl rfl (fun _ => rfl) (fun _ => rfl)
    ?_ rfl
  intro ref access hregistered
  refine servedOver_congr hsound hpool ?_ hregistered access
  intro node key other hentry
  rw [node_openNode, if_neg (hsound.node_ne_fresh (hsound.pool.held hentry).2.2.1)]

theorem Links.closeNode {node : Ref RadioNode} (hregistered : state.NodeRegistered node)
    (hempty : ∀ key, state.findRanUeByKey node key = none)
    (connectionIndex : Table Nat Nat) : (state.closeNode node connectionIndex).Links := by
  have hpool := samePool_closeNode hsound.toWellNumbered hregistered hempty connectionIndex
  refine hlinks.congr hsound (fun _ => rfl) (fun _ => rfl) rfl rfl (fun _ => rfl) (fun _ => rfl)
    ?_ rfl
  intro ref access hfound
  exact servedOver_congr hsound hpool (fun _ _ _ _ => rfl) hfound access

theorem Links.setAccess {node : Ref RadioNode} {access : AccessType}
    (hkeeps : Operation.KeepsAccess state node access) :
    (state.modifyNode node ({ · with access })).Links := by
  have hpool := state.samePool_setAccess node access
  refine hlinks.congr hsound (fun _ => rfl) (fun _ => rfl) rfl rfl (fun _ => rfl) (fun _ => rfl)
    ?_ rfl
  intro ref path hfound
  refine servedOver_congr hsound hpool ?_ hfound path
  intro home key other hentry
  rw [modifyNode, node_setNode]
  split
  next heq =>
    subst heq
    rcases hkeeps with hsame | hempty
    · exact hsame
    · rw [findRanUeByKey, Std.ExtTreeMap.isEmpty_iff.mp hempty,
        Std.ExtTreeMap.getElem?_empty] at hentry
      simp at hentry
  next => rfl

/-- Every step under the rule keeps the links. -/
theorem Links.step {next : State} (hstep : Step Operation.KeepsLinks state next) :
    next.Links := by
  cases hstep with
  | describe hsame =>
      refine hlinks.congr hsound hsame.ue_slots hsame.ue_id hsame.ues hsame.ranUes
        hsame.ranUe_ngapId hsame.ranUe_ueId ?_ ?_
      · intro ref access _
        rw [ServedOver, ServedOver, hsame.findNode_eq, hsame.ranUe_nodeId]
        simp only [hsame.node_access]
      · rw [hsame.ngapIds]
  | attach hallowed hlive hnode => exact hlinks.attach hsound hallowed hlive hnode
  | detach ue access => exact hlinks.detach hsound ue access
  | release hlive => exact hlinks.release hsound.pool hlive
  | enlist key hregistered _ halloc =>
      exact (hlinks.enlist hsound halloc).evict (hsound.pool.enlist hregistered halloc)
  | rehome hallowed hlive hsource htarget =>
      exact (hlinks.rehome hsound hsource htarget (hallowed _ hsource)).evict
        (hsound.pool.rehome hsound.toWellNumbered hlive hsource htarget)
  | enrol supi tmsi guti => exact hlinks.enrol hsound supi tmsi guti
  | retire hvacant _ => exact hlinks.retire hsound hvacant
  | openNode connection => exact hlinks.openNode hsound connection
  | closeNode hregistered hempty _ => exact hlinks.closeNode hsound hregistered hempty _
  | setAccess hallowed =>
      rcases hallowed with hkeeps | ⟨id, haccess, hkeeps⟩
      · exact hlinks.setAccess hsound hkeeps
      · subst haccess
        exact hlinks.setAccess hsound hkeeps

end

end State

/-! ## Validated ranges -/

theorem ok_of_bind {ε α β : Type} {first : Except ε α} {rest : α → Except ε β} {answer : β}
    (hok : first >>= rest = .ok answer) : ∃ value, first = .ok value ∧ rest value = .ok answer := by
  cases first with
  | error fault => simp [bind, Except.bind] at hok
  | ok value => exact ⟨value, rfl, hok⟩

theorem IdRange.nonneg_of_validate {range : IdRange} {name : String}
    (hvalid : range.validate name = .ok ()) : 0 ≤ range.min.toInt := by
  unfold IdRange.validate at hvalid
  split at hvalid
  · simp at hvalid
  next hnot =>
    rw [not_or, Int64.not_lt, Int64.not_lt] at hnot
    exact Int64.le_iff_toInt_le.mp hnot.2

/-- A configuration that passes validation passes each of its checks. -/
theorem Config.checks_of_validate {config : Config} (hvalid : config.validate = .ok ()) :
    validateAll (fun tai => tai.plmnId.validate) config.supportedTais = .ok () ∧
      config.tmsis.validate "tmsi" = .ok () ∧
      config.ngapIds.validate "amf_ue_ngap_id" = .ok () ∧
      config.tmsis.max.toInt ≤ Tmsi.largest := by
  unfold Config.validate at hvalid
  dsimp only at hvalid
  by_cases hserved : config.servedGuamis = []
  · rw [if_pos hserved] at hvalid
    obtain ⟨_, hfault, -⟩ := ok_of_bind hvalid
    simp [throw, throwThe, MonadExceptOf.throw] at hfault
  · rw [if_neg hserved] at hvalid
    obtain ⟨_, -, htais⟩ := ok_of_bind hvalid
    obtain ⟨_, hareas, htmsis⟩ := ok_of_bind htais
    obtain ⟨_, htmsiRange, hngapIds⟩ := ok_of_bind htmsis
    obtain ⟨_, hrange, hlargest⟩ := ok_of_bind hngapIds
    refine ⟨hareas, htmsiRange, hrange, ?_⟩
    by_contra hlarge
    rw [if_pos (Int.not_le.mp hlarge)] at hlargest
    obtain ⟨_, hfault, -⟩ := ok_of_bind hlargest
    simp [throw, throwThe, MonadExceptOf.throw] at hfault

theorem Config.ranges_of_validate {config : Config} (hvalid : config.validate = .ok ()) :
    config.tmsis.validate "tmsi" = .ok () ∧
      config.ngapIds.validate "amf_ue_ngap_id" = .ok () ∧
      config.tmsis.max.toInt ≤ Tmsi.largest :=
  (checks_of_validate hvalid).2

theorem Config.ngapIds_nonneg {config : Config} (hvalid : config.validate = .ok ()) :
    0 ≤ config.ngapIds.min.toInt :=
  IdRange.nonneg_of_validate (ranges_of_validate hvalid).2.1

theorem Config.tmsis_nonneg {config : Config} (hvalid : config.validate = .ok ()) :
    0 ≤ config.tmsis.min.toInt :=
  IdRange.nonneg_of_validate (ranges_of_validate hvalid).1

namespace World

open State

/-- A slot names an AMF UE NGAP id exactly if its UE is registered and the pool holds a RAN UE
under the id that names the UE back and whose radio node serves the access.  A back reference
always resolves to a registered UE, and no id is in two slots. -/
theorem run_links_symmetric {config : Config} (hvalid : config.validate = .ok ())
    {operations : List Operation}
    (hobeys : (opened config).Obeys Operation.KeepsLinks operations) :
    let state := ((opened config).run operations).state
    (∀ ue access ngapId, (state.ue ue).slot access = some ngapId ↔
      state.UeRegistered ue ∧ state.Attached ngapId ue access) ∧
    (∀ ref id, (state.ranUe ref).ueId = some id →
      ∃ ue, state.findUe id = some ue ∧ state.UeRegistered ue) ∧
    (∀ ue access, (state.ue ue).Connected access ↔
      state.UeRegistered ue ∧ ∃ ngapId, state.Attached ngapId ue access) ∧
    (∀ ngapId ue access other otherAccess, (state.ue ue).slot access = some ngapId →
      (state.ue other).slot otherAccess = some ngapId → ue = other ∧ access = otherAccess) := by
  intro state
  obtain ⟨hsound, hlinks⟩ : state.Sound ∧ state.Links :=
    run_keeps (fun hsound hlinks hstep => hlinks.step hsound hstep)
      (links_new (Config.ngapIds_nonneg hvalid)) hobeys
  have hslot := hlinks.slot_iff hsound
  refine ⟨hslot, ?_, ?_, ?_⟩
  · intro ref id hnamed
    obtain ⟨-, ue, hfound⟩ := hlinks.back hnamed
    exact ⟨ue, hfound, hsound.ueRegistered_of_find hfound⟩
  · intro ue access
    rw [Ue.Connected, Option.isSome_iff_exists]
    simp only [hslot]
    constructor
    · rintro ⟨ngapId, hregistered, hattached⟩
      exact ⟨hregistered, ngapId, hattached⟩
    · rintro ⟨hregistered, ngapId, hattached⟩
      exact ⟨ngapId, hregistered, hattached⟩
  · intro ngapId ue access other otherAccess hleft hright
    obtain ⟨hregistered, ref, hfind, hnamed, hserved⟩ := (hslot ..).mp hleft
    obtain ⟨-, found, hfound, hnamedOther, hservedOther⟩ := (hslot ..).mp hright
    have heq : ref = found := Option.some.inj (hfind.symm.trans hfound)
    subst heq
    have hid : (state.ue other).id = (state.ue ue).id :=
      Option.some.inj (hnamedOther.symm.trans hnamed)
    exact ⟨(hsound.ue_eq_of_id hregistered hid).symm, hserved.unique hservedOther⟩

/-- A RAN UE that was handed over and then attached to a second UE is linked to that one alone. -/
theorem links_symmetric_taken_over :
    let operations : List Operation :=
      [.newUe "imsi-001010000000001", .newUe "imsi-001010000000002", .newNode ⟨1⟩, .newNode ⟨2⟩,
        .newRanUe ⟨0⟩ 1, .attach ⟨0⟩ ⟨0⟩, .switchNode ⟨0⟩ ⟨1⟩ 5, .attach ⟨1⟩ ⟨0⟩,
        .setAccess ⟨0⟩ .nonThreeGpp]
    let state := ((opened Config.standard).run operations).state
    Config.standard.validate = .ok () ∧
      (opened Config.standard).Obeys Operation.KeepsLinks operations ∧
      (state.UeRegistered ⟨1⟩ ∧ state.Attached 1 ⟨1⟩ .threeGpp) ∧
      ¬ (state.UeRegistered ⟨0⟩ ∧ state.Attached 1 ⟨0⟩ .threeGpp) := by
  intro operations state
  have hvalid : Config.standard.validate = .ok () := rfl
  have hobeys : (opened Config.standard).Obeys Operation.KeepsLinks operations := by
    simp only [operations, Obeys, Operation.KeepsLinks, true_and, and_true]
    exact ⟨by decide +kernel, by decide +kernel, by decide +kernel,
      Or.inr (by decide +kernel)⟩
  have hslot := (run_links_symmetric hvalid hobeys).1
  have hsecond : (state.ue ⟨1⟩).slot .threeGpp = some 1 := by decide +kernel
  have hfirst : (state.ue ⟨0⟩).slot .threeGpp = none := by decide +kernel
  refine ⟨hvalid, hobeys, (hslot ..).mp hsecond, ?_⟩
  intro hlinked
  have hsome := (hslot ..).mpr hlinked
  rw [hfirst] at hsome
  simp at hsome

end World

end AccessMobility
