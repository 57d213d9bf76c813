import AccessMobility.Proofs.DeregisteredUe
import AccessMobility.Proofs.LinkErrors
import AccessMobility.Proofs.RadioNodeReset

/-!
# The order of two attachments

An attachment writes into at most two slots and two back references of others: it empties the slots
that the previous owner has for the RAN UE, and it clears the back reference of the RAN UE that was
in the slot before.  Which of the two is needed depends on what another attachment did.

Where every slot names a RAN UE that names the UE back and is served over its access, no RAN UE is
in two slots.  Then each attachment is a pointwise update of all slots and of all back references,
what it empties can be told from the state before any other attachment, and two attachments that
fill different slots with different RAN UEs can be exchanged.  That the back references agree with
the slots in the other direction as well is not needed.
-/

namespace AccessMobility

/-! ## Objects that a store has -/

namespace Store

variable {α : Type} [Inhabited α]

/-- The object under a reference was created or written. -/
def Has (store : Store α) (ref : Ref α) : Prop :=
  store.objects[ref.number]?.isSome

theorem has_of_ne_default {store : Store α} {ref : Ref α} (hne : store.get ref ≠ default) :
    store.Has ref := by
  unfold Has
  by_contra hnone
  rw [Option.not_isSome_iff_eq_none] at hnone
  apply hne
  rw [get, Std.ExtTreeMap.getD_eq_getD_getElem?, hnone, Option.getD_none]

omit [Inhabited α] in
theorem has_set {store : Store α} {ref : Ref α} (hhas : store.Has ref) (object : α)
    (other : Ref α) : (store.set ref object).Has other ↔ store.Has other := by
  unfold Has set
  rw [Table.lookup_insert]
  split
  next heq =>
    rw [← heq]
    exact iff_of_true rfl hhas
  next => rfl

/-- Two stores that have the same objects are equal. -/
theorem ext_get {left right : Store α} (hnext : left.next = right.next)
    (hhas : ∀ ref, left.Has ref ↔ right.Has ref) (hget : ∀ ref, left.get ref = right.get ref) :
    left = right := by
  have hobjects : left.objects = right.objects := by
    apply Std.ExtTreeMap.ext_getElem?
    intro number
    have hboth := hhas ⟨number⟩
    have hsame := hget ⟨number⟩
    simp only [Has, get, Std.ExtTreeMap.getD_eq_getD_getElem?] at hboth hsame
    cases hleft : left.objects[number]? <;> cases hright : right.objects[number]? <;>
      simp_all
  cases left
  cases right
  cases hnext
  cases hobjects
  rfl

end Store

namespace State

/-- A RAN UE in a slot of a registered UE names this UE and is served over the access of the
slot. -/
def SlotsServed (state : State) : Prop :=
  ∀ ue access ngapId, state.UeRegistered ue → (state.ue ue).slot access = some ngapId →
    state.Attached ngapId ue access

theorem Links.slotsServed {state : State} (hsound : state.Sound) (hlinks : state.Links) :
    state.SlotsServed := by
  intro ue access ngapId _ hslot
  exact ((hlinks.slot_iff hsound ue access ngapId).mp hslot).2

/-- A call attaches a RAN UE of the pool to a registered UE over the access it is served over. -/
structure Attachable (state : State) (ue : Ref Ue) (ranUe : Ref RanUe) (access : AccessType) :
    Prop where
  ue_registered : state.UeRegistered ue
  ranUe_registered : state.RanUeRegistered ranUe
  served : state.ServedOver ranUe access

/-- The slot of another UE that is emptied when this UE takes the RAN UE over. -/
def Empties (state : State) (ue : Ref Ue) (ranUe : Ref RanUe) (other : Ref Ue)
    (path : AccessType) : Prop :=
  ue ≠ other ∧ state.UeRegistered other ∧ (state.ranUe ranUe).ueId = some (state.ue other).id ∧
    (state.ue other).slots.get path = some (state.ranUe ranUe).ngapId

instance (state : State) (ue : Ref Ue) (ranUe : Ref RanUe) (other : Ref Ue) (path : AccessType) :
    Decidable (state.Empties ue ranUe other path) :=
  inferInstanceAs (Decidable (_ ∧ _))

/-! ## An attachment as an update of all slots and back references -/

section

variable {state : State}

theorem Sound.get_attach (hsound : state.Sound) {ue : Ref Ue} (hue : state.UeRegistered ue)
    (ranUe : Ref RanUe) (access : AccessType) (other : Ref Ue) (path : AccessType) :
    ((state.attach ue ranUe access).ue other).slots.get path =
      if ue = other ∧ access = path then some (state.ranUe ranUe).ngapId
      else if state.Empties ue ranUe other path then none
      else (state.ue other).slots.get path := by
  have hprevious := hsound.toWellNumbered.previousOwner_iff hue ranUe
  rw [ue_attach, ue_occupy]
  by_cases heq : ue = other
  · subst heq
    have hnone : ¬ state.previousOwner ue ranUe = some ue :=
      fun hsome => ((hprevious ue).mp hsome).1 rfl
    have hkept : ¬ state.Empties ue ranUe ue path := fun hempties => hempties.1 rfl
    rw [if_neg hnone, if_pos rfl, if_neg hkept, Ue.link, PerAccess.get_set]
    by_cases hpath : access = path <;> simp [hpath]
  · have hother : ¬ (ue = other ∧ access = path) := fun hboth => heq hboth.1
    rw [if_neg heq, if_neg hother]
    by_cases howner : state.previousOwner ue ranUe = some other
    · obtain ⟨-, hregistered, hback⟩ := (hprevious other).mp howner
      rw [if_pos howner, Ue.unlink, PerAccess.get_map]
      cases hraw : (state.ue other).slots.get path with
      | none => simp
      | some ngapId =>
          by_cases hid : ngapId = (state.ranUe ranUe).ngapId <;>
            simp [Empties, heq, hregistered, hback, hraw, hid]
    · have hkept : ¬ state.Empties ue ranUe other path :=
        fun hempties => howner ((hprevious other).mpr ⟨heq, hempties.2.1, hempties.2.2.1⟩)
      rw [if_neg howner, if_neg hkept]

end

section

variable {state : State} (hsound : state.Sound) (hslots : state.SlotsServed)
  {ue : Ref Ue} {ranUe : Ref RanUe} {access : AccessType}
  (hattachable : state.Attachable ue ranUe access)

include hsound hslots

/-- No RAN UE is in two slots. -/
theorem SlotsServed.unique {other : Ref Ue} {path : AccessType} {ngapId : Nat}
    (hregistered : state.UeRegistered ue) (hslot : (state.ue ue).slot access = some ngapId)
    (hregisteredOther : state.UeRegistered other)
    (hother : (state.ue other).slot path = some ngapId) : ue = other ∧ access = path := by
  obtain ⟨ref, hfind, hback, hserved⟩ := hslots ue access ngapId hregistered hslot
  obtain ⟨found, hfound, hbackOther, hservedOther⟩ :=
    hslots other path ngapId hregisteredOther hother
  have heq : found = ref := Option.some.inj (hfound.symm.trans hfind)
  rw [heq] at hbackOther hservedOther
  exact ⟨hsound.ue_eq_of_id hregisteredOther (Option.some.inj (hback.symm.trans hbackOther)),
    hserved.unique hservedOther⟩

include hattachable

omit hslots in
/-- A slot names another RAN UE than the attached one if it did before and is not the filled one. -/
theorem Attachable.slot_attach {ngapId : Nat} (hother : ngapId ≠ (state.ranUe ranUe).ngapId)
    (other : Ref Ue) (path : AccessType) :
    ((state.attach ue ranUe access).ue other).slot path = some ngapId ↔
      ¬ (ue = other ∧ access = path) ∧ (state.ue other).slot path = some ngapId := by
  rw [Ue.slot, Option.filter_eq_some_iff, hsound.get_attach hattachable.ue_registered, Ue.slot,
    Option.filter_eq_some_iff]
  by_cases hfilled : ue = other ∧ access = path
  · simp [hfilled, hother.symm]
  · rw [if_neg hfilled]
    by_cases hempties : state.Empties ue ranUe other path
    · obtain ⟨-, -, -, hraw⟩ := id hempties
      simp [hempties, hraw, hother.symm]
    · simp [hempties, hfilled]

/-- No slot but the filled one names the RAN UE. -/
theorem SlotsServed.slot_attach_self {other : Ref Ue} (hregistered : state.UeRegistered other)
    {path : AccessType} (hother : ¬ (ue = other ∧ access = path)) :
    ((state.attach ue ranUe access).ue other).slot path ≠ some (state.ranUe ranUe).ngapId := by
  intro hslot
  rw [Ue.slot, Option.filter_eq_some_iff, hsound.get_attach hattachable.ue_registered,
    if_neg hother] at hslot
  obtain ⟨hraw, hvalid⟩ := hslot
  split at hraw
  · simp at hraw
  next hkept =>
    have hbefore : (state.ue other).slot path = some (state.ranUe ranUe).ngapId := by
      rw [Ue.slot, Option.filter_eq_some_iff]
      exact ⟨hraw, hvalid⟩
    obtain ⟨ref, hfind, hback, hserved⟩ := hslots other path _ hregistered hbefore
    have heq : ref = ranUe := Option.some.inj (hfind.symm.trans hattachable.ranUe_registered)
    rw [heq] at hback hserved
    have hpath := hattachable.served.unique hserved
    exact hkept ⟨fun hue => hother ⟨hue, hpath⟩, hregistered, hback, hraw⟩

/-- Besides the RAN UE itself exactly the one that the filled slot named changes its back
reference. -/
theorem SlotsServed.ueId_attach (other : Ref RanUe) :
    ((state.attach ue ranUe access).ranUe other).ueId =
      if ranUe = other then some (state.ue ue).id
      else if state.RanUeRegistered other ∧
          (state.ue ue).slot access = some (state.ranUe other).ngapId then none
      else (state.ranUe other).ueId := by
  rw [ranUe_attach, ranUe_occupy]
  dsimp only
  by_cases heq : ranUe = other
  · subst heq
    rw [if_neg (fun hboth => hsound.pool.replacedBy_ne hboth.1), if_pos rfl, if_pos rfl]
  · rw [if_neg heq, if_neg heq]
    have hreplaced : (state.replacedBy ue ranUe access = some other ∧
          (state.ranUe other).ueId = some (state.ue ue).id) ↔
        state.RanUeRegistered other ∧
          (state.ue ue).slot access = some (state.ranUe other).ngapId := by
      rw [replacedBy, Option.bind_eq_some_iff]
      simp only [Option.filter_eq_some_iff, decide_eq_true_eq]
      constructor
      · rintro ⟨⟨ngapId, ⟨hslot, -⟩, hfind⟩, -⟩
        rw [hsound.pool.ngapId hfind]
        exact ⟨hsound.pool.registered_of_find hfind, hslot⟩
      · rintro ⟨hregistered, hslot⟩
        obtain ⟨ref, hfind, hback, -⟩ := hslots ue access _ hattachable.ue_registered hslot
        have hsame : ref = other := Option.some.inj (hfind.symm.trans hregistered)
        have hne :=
          ngapId_ne_of_registered hregistered hattachable.ranUe_registered (Ne.symm heq)
        exact ⟨⟨_, ⟨hslot, hne⟩, hregistered⟩, hsame ▸ hback⟩
    simp only [hreplaced]
    split <;> rfl

/-! ## What an attachment leaves to the next one -/

theorem SlotsServed.attach : (state.attach ue ranUe access).SlotsServed := by
  have hnumbers := state.sameNumbers_attach ue ranUe access
  have hpool := state.samePool_attach ue ranUe access
  have hserved (ref : Ref RanUe) (path : AccessType) :
      (state.attach ue ranUe access).ServedOver ref path ↔ state.ServedOver ref path := by
    rw [ServedOver, ServedOver, hnumbers.findNode_eq, hpool.ranUe_nodeId, node_attach]
  intro other path ngapId hregistered hslot
  rw [hnumbers.ueRegistered_iff] at hregistered
  unfold Attached
  simp only [hpool.findRanUe_eq, hserved, hnumbers.ue_id, hslots.ueId_attach hsound hattachable]
  by_cases hfilled : ue = other ∧ access = path
  · rw [Ue.slot, Option.filter_eq_some_iff, hsound.get_attach hattachable.ue_registered,
      if_pos hfilled, Option.some.injEq] at hslot
    obtain ⟨rfl, rfl⟩ := hfilled
    obtain ⟨rfl, -⟩ := hslot
    exact ⟨ranUe, hattachable.ranUe_registered, if_pos rfl, hattachable.served⟩
  · have hother : ngapId ≠ (state.ranUe ranUe).ngapId := by
      rintro rfl
      exact hslots.slot_attach_self hsound hattachable hregistered hfilled hslot
    obtain ⟨-, hbefore⟩ := (hattachable.slot_attach hsound hother other path).mp hslot
    obtain ⟨ref, hfind, hback, haccess⟩ := hslots other path ngapId hregistered hbefore
    have hne : ranUe ≠ ref := by
      rintro rfl
      exact hother (hsound.pool.ngapId hfind).symm
    have hspared : ¬ (state.RanUeRegistered ref ∧
        (state.ue ue).slot access = some (state.ranUe ref).ngapId) := by
      rintro ⟨-, hheld⟩
      rw [hsound.pool.ngapId hfind] at hheld
      exact hfilled (hslots.unique hsound hattachable.ue_registered hheld hregistered hbefore)
    exact ⟨ref, hfind, (if_neg hne).trans ((if_neg hspared).trans hback), haccess⟩

omit hslots in
theorem Attachable.sound_attach : (state.attach ue ranUe access).Sound := by
  obtain ⟨node, hnode, rfl⟩ := hattachable.served
  have hstep : Step Operation.Any state (state.attach ue ranUe (state.node node).access) :=
    .attach trivial ((hsound.pool.live ranUe).mpr hattachable.ranUe_registered) hnode
  exact hstep.steps.sound hsound

end

theorem Attachable.attach {state : State} {other : Ref Ue} {next : Ref RanUe} {path : AccessType}
    (hattachable : state.Attachable other next path) (ue : Ref Ue) (ranUe : Ref RanUe)
    (access : AccessType) : (state.attach ue ranUe access).Attachable other next path := by
  have hnumbers := state.sameNumbers_attach ue ranUe access
  have hpool := state.samePool_attach ue ranUe access
  refine ⟨(hnumbers.ueRegistered_iff other).mpr hattachable.ue_registered,
    (hpool.ranUeRegistered_iff next).mpr hattachable.ranUe_registered, ?_⟩
  rw [ServedOver, hnumbers.findNode_eq, hpool.ranUe_nodeId, node_attach]
  exact hattachable.served

/-! ## The rest of the objects -/

section

variable (state : State) (ueRef : Ref Ue) (ranUeRef : Ref RanUe) (access : AccessType)

theorem ue_attach_eq (other : Ref Ue) :
    (state.attach ueRef ranUeRef access).ue other =
      { state.ue other with
        slots := ((state.attach ueRef ranUeRef access).ue other).slots } := by
  rw [ue_attach, ue_occupy]
  by_cases heq : ueRef = other
  · subst heq
    rw [if_pos rfl]
    split <;> rfl
  · rw [if_neg heq]
    split <;> rfl

theorem ranUe_attach_eq (other : Ref RanUe) :
    (state.attach ueRef ranUeRef access).ranUe other =
      { state.ranUe other with
        ueId := ((state.attach ueRef ranUeRef access).ranUe other).ueId } := by
  rw [ranUe_attach]
  exact state.ranUe_occupy_eq ..

theorem nodes_attach :
    (state.attach ueRef ranUeRef access).entities.nodes = state.entities.nodes := by
  dsimp only [attach, occupy, clearBackReference]
  repeat' split
  all_goals rfl

end

/-- Every UE and every RAN UE in a pool is in its store, so that writing to it adds nothing. -/
structure PoolsPresent (state : State) : Prop where
  ue : ∀ {id ref}, state.findUe id = some ref → state.entities.ues.Has ref
  ranUe : ∀ {id ref}, state.findRanUe id = some ref → state.entities.ranUes.Has ref

theorem Sound.poolsPresent {state : State} (hsound : state.Sound)
    (hordered : state.NumberedInOrder) : state.PoolsPresent where
  ue {id ref} hfind := by
    apply Store.has_of_ne_default
    intro hdefault
    have hid : (state.ue ref).id = ref.number + 1 := hordered.ue_id (hsound.ue_created hfind)
    rw [State.ue, hdefault] at hid
    exact absurd hid.symm (Nat.succ_ne_zero _)
  ranUe {id ref} hfind := by
    apply Store.has_of_ne_default
    intro hdefault
    have hlive := (hsound.pool.live ref).mpr (hsound.pool.registered_of_find hfind)
    rw [State.ranUe, hdefault] at hlive
    exact absurd hlive (by decide)

/-- Two states with the same pools that have the same UEs and RAN UEs. -/
structure SamePresence (state next : State) : Prop where
  registry : next.registry = state.registry
  ues : ∀ ref, next.entities.ues.Has ref ↔ state.entities.ues.Has ref := by intro; rfl
  ranUes : ∀ ref, next.entities.ranUes.Has ref ↔ state.entities.ranUes.Has ref := by intro; rfl

theorem SamePresence.trans {first second third : State} (hfirst : first.SamePresence second)
    (hsecond : second.SamePresence third) : first.SamePresence third where
  registry := hsecond.registry.trans hfirst.registry
  ues ref := (hsecond.ues ref).trans (hfirst.ues ref)
  ranUes ref := (hsecond.ranUes ref).trans (hfirst.ranUes ref)

theorem SamePresence.poolsPresent {state next : State} (hsame : state.SamePresence next)
    (hpresent : state.PoolsPresent) : next.PoolsPresent where
  ue {id ref} hfind := by
    rw [findUe, hsame.registry] at hfind
    exact (hsame.ues ref).mpr (hpresent.ue hfind)
  ranUe {id ref} hfind := by
    rw [findRanUe, hsame.registry] at hfind
    exact (hsame.ranUes ref).mpr (hpresent.ranUe hfind)

section

variable {state : State} (hpresent : state.PoolsPresent)

include hpresent

theorem PoolsPresent.setUe {id : Nat} {ref : Ref Ue} (hfind : state.findUe id = some ref)
    (ue : Ue) : state.SamePresence (state.setUe ref ue) where
  registry := rfl
  ues := Store.has_set (hpresent.ue hfind) ue

theorem PoolsPresent.setRanUe {id : Nat} {ref : Ref RanUe}
    (hfind : state.findRanUe id = some ref) (ranUe : RanUe) :
    state.SamePresence (state.setRanUe ref ranUe) where
  registry := rfl
  ranUes := Store.has_set (hpresent.ranUe hfind) ranUe

theorem PoolsPresent.clearBackReference (ngapId ueId : Nat) :
    state.SamePresence (state.clearBackReference ngapId ueId) := by
  unfold State.clearBackReference
  cases hfind : state.findRanUe ngapId with
  | none => exact { registry := rfl }
  | some ref =>
      dsimp only
      split
      · exact hpresent.setRanUe hfind _
      · exact { registry := rfl }

theorem PoolsPresent.occupy {ue : Ref Ue} {ranUe : Ref RanUe} (hue : state.UeRegistered ue)
    (hranUe : state.RanUeRegistered ranUe) (access : AccessType) :
    state.SamePresence (state.occupy ue ranUe access) := by
  dsimp only [State.occupy]
  generalize hlinked : State.modifyRanUe _ ranUe _ = linked
  have hsame : state.SamePresence linked := by
    rw [← hlinked]
    have hslot := hpresent.setUe hue ((state.ue ue).link access (state.ranUe ranUe).ngapId)
    exact hslot.trans ((hslot.poolsPresent hpresent).setRanUe hranUe _)
  split
  · exact hsame
  · exact hsame.trans ((hsame.poolsPresent hpresent).clearBackReference _ _)

theorem PoolsPresent.attach {ue : Ref Ue} {ranUe : Ref RanUe} (hue : state.UeRegistered ue)
    (hranUe : state.RanUeRegistered ranUe) (access : AccessType) :
    state.SamePresence (state.attach ue ranUe access) := by
  have hoccupied := hpresent.occupy hue hranUe access
  dsimp only [State.attach]
  cases hprevious : state.previousOwner ue ranUe with
  | none => exact hoccupied
  | some previous =>
      obtain ⟨id, -, hfind⟩ := Option.bind_eq_some_iff.mp hprevious
      have hfound : (state.occupy ue ranUe access).findUe id = some previous := by
        rw [findUe, hoccupied.registry]
        exact hfind
      exact hoccupied.trans ((hoccupied.poolsPresent hpresent).setUe hfound _)

end

theorem eq_of_presence {state left right : State} (hleft : state.SamePresence left)
    (hright : state.SamePresence right) (hcreated : left.created = right.created)
    (hnodes : left.entities.nodes = right.entities.nodes)
    (hues : ∀ ref, left.ue ref = right.ue ref)
    (hranUes : ∀ ref, left.ranUe ref = right.ranUe ref) : left = right := by
  simp only [created, Prod.mk.injEq] at hcreated
  obtain ⟨hnextUe, -, hnextRanUe⟩ := hcreated
  have hregistry := hleft.registry.trans hright.registry.symm
  have huesEq := Store.ext_get hnextUe
    (fun ref => (hleft.ues ref).trans (hright.ues ref).symm) hues
  have hranUesEq := Store.ext_get hnextRanUe
    (fun ref => (hleft.ranUes ref).trans (hright.ranUes ref).symm) hranUes
  have hentities : left.entities = right.entities := by
    rw [Entities.mk.injEq]
    exact ⟨huesEq, hnodes, hranUesEq⟩
  rw [State.mk.injEq]
  exact ⟨hentities, hregistry⟩

/-! ## Exchanging two attachments -/

section

variable {state : State} (hsound : state.Sound) (hslots : state.SlotsServed)
  {ue other : Ref Ue} {ranUe next : Ref RanUe} {access path : AccessType}
  (hfirst : state.Attachable ue ranUe access) (hsecond : state.Attachable other next path)
  (hranUes : ranUe ≠ next)

include hsound hslots hfirst hsecond hranUes

/-- An attachment does not change which slots another one empties, but for the slot it fills. -/
theorem SlotsServed.empties_attach {holder : Ref Ue} {held : AccessType}
    (hkept : ¬ (ue = holder ∧ access = held)) :
    (state.attach ue ranUe access).Empties other next holder held ↔
      state.Empties other next holder held := by
  have hids := ngapId_ne_of_registered hfirst.ranUe_registered hsecond.ranUe_registered hranUes
  have hnumbers := state.sameNumbers_attach ue ranUe access
  unfold Empties
  rw [hnumbers.ueRegistered_iff, hnumbers.ue_id, hsound.get_attach hfirst.ue_registered,
    hslots.ueId_attach hsound hfirst, (state.samePool_attach ue ranUe access).ranUe_ngapId,
    if_neg hkept, if_neg hranUes]
  constructor
  · rintro ⟨hne, hregistered, hback, hraw⟩
    split at hback
    · simp at hback
    split at hraw
    · simp at hraw
    exact ⟨hne, hregistered, hback, hraw⟩
  · rintro ⟨hne, hregistered, hback, hraw⟩
    have hspared : ¬ (state.RanUeRegistered next ∧
        (state.ue ue).slot access = some (state.ranUe next).ngapId) := by
      rintro ⟨-, hslot⟩
      have hother : (state.ue holder).slot held = some (state.ranUe next).ngapId := by
        rw [Ue.slot, Option.filter_eq_some_iff] at hslot ⊢
        exact ⟨hraw, hslot.2⟩
      exact hkept (hslots.unique hsound hfirst.ue_registered hslot hregistered hother)
    have hleft : ¬ state.Empties ue ranUe holder held := by
      rintro ⟨-, -, -, hemptied⟩
      exact hids (Option.some.inj (hemptied.symm.trans hraw))
    rw [if_neg hspared, if_neg hleft]
    exact ⟨hne, hregistered, hback, hraw⟩

/-- Of two attachments the later one fills its slot, and besides the two filled slots those are
emptied that one of the two empties by itself. -/
theorem SlotsServed.get_attach_attach (holder : Ref Ue) (held : AccessType) :
    (((state.attach ue ranUe access).attach other next path).ue holder).slots.get held =
      if other = holder ∧ path = held then some (state.ranUe next).ngapId
      else if ue = holder ∧ access = held then some (state.ranUe ranUe).ngapId
      else if state.Empties ue ranUe holder held ∨ state.Empties other next holder held then none
      else (state.ue holder).slots.get held := by
  have hids := ngapId_ne_of_registered hfirst.ranUe_registered hsecond.ranUe_registered hranUes
  have hpool := state.samePool_attach ue ranUe access
  rw [(hfirst.sound_attach hsound).get_attach (hsecond.attach ..).ue_registered,
    hpool.ranUe_ngapId]
  have hraw := hsound.get_attach hfirst.ue_registered ranUe access holder held
  by_cases hfilled : ue = holder ∧ access = held
  · rw [if_pos hfilled] at hraw
    have hkept : ¬ (state.attach ue ranUe access).Empties other next holder held := by
      rintro ⟨-, -, -, hemptied⟩
      rw [hpool.ranUe_ngapId, hraw] at hemptied
      exact hids (Option.some.inj hemptied)
    rw [if_neg hkept, hraw, if_pos hfilled]
  · rw [if_neg hfilled] at hraw
    rw [hraw, if_neg hfilled]
    simp only [hslots.empties_attach hsound hfirst hsecond hranUes hfilled]
    grind

theorem SlotsServed.ueId_attach_attach (hplaces : ¬ (ue = other ∧ access = path))
    (held : Ref RanUe) :
    (((state.attach ue ranUe access).attach other next path).ranUe held).ueId =
      if next = held then some (state.ue other).id
      else if ranUe = held then some (state.ue ue).id
      else if state.RanUeRegistered held ∧
          ((state.ue ue).slot access = some (state.ranUe held).ngapId ∨
            (state.ue other).slot path = some (state.ranUe held).ngapId) then none
      else (state.ranUe held).ueId := by
  have hpool := state.samePool_attach ue ranUe access
  have hvacated := hslots.slot_attach_self hsound hfirst hsecond.ue_registered hplaces
  rw [(hslots.attach hsound hfirst).ueId_attach (hfirst.sound_attach hsound)
    (hsecond.attach ..), hslots.ueId_attach hsound hfirst]
  simp only [hpool.ranUe_ngapId, hpool.ranUeRegistered_iff,
    (state.sameNumbers_attach ue ranUe access).ue_id]
  by_cases heq : ranUe = held
  · subst heq
    simp [hranUes.symm, hvacated]
  · by_cases hfound : state.RanUeRegistered held
    · have hfree := ngapId_ne_of_registered hfound hfirst.ranUe_registered (Ne.symm heq)
      simp only [hfirst.slot_attach hsound hfree, heq, hfound, hplaces, not_false_eq_true,
        true_and, if_false]
      grind
    · simp [heq, hfound]

/-- Two attachments that fill different slots with different RAN UEs lead to the same state in
either order. -/
theorem SlotsServed.attach_comm (hpresent : state.PoolsPresent)
    (hplaces : ¬ (ue = other ∧ access = path)) :
    (state.attach ue ranUe access).attach other next path =
      (state.attach other next path).attach ue ranUe access := by
  have hplaces' : ¬ (other = ue ∧ path = access) := fun heq => hplaces ⟨heq.1.symm, heq.2.symm⟩
  have hslotsEq (holder : Ref Ue) :
      (((state.attach ue ranUe access).attach other next path).ue holder).slots =
        (((state.attach other next path).attach ue ranUe access).ue holder).slots := by
    apply PerAccess.ext_get
    intro held
    rw [hslots.get_attach_attach hsound hfirst hsecond hranUes,
      hslots.get_attach_attach hsound hsecond hfirst hranUes.symm]
    grind
  have hback (held : Ref RanUe) :
      (((state.attach ue ranUe access).attach other next path).ranUe held).ueId =
        (((state.attach other next path).attach ue ranUe access).ranUe held).ueId := by
    rw [hslots.ueId_attach_attach hsound hfirst hsecond hranUes hplaces,
      hslots.ueId_attach_attach hsound hsecond hfirst hranUes.symm hplaces']
    grind
  have hpresence {ue other : Ref Ue} {ranUe next : Ref RanUe} {access path : AccessType}
      (hfirst : state.Attachable ue ranUe access)
      (hsecond : state.Attachable other next path) :
      state.SamePresence ((state.attach ue ranUe access).attach other next path) := by
    have hsame := hpresent.attach hfirst.ue_registered hfirst.ranUe_registered access
    refine hsame.trans ((hsame.poolsPresent hpresent).attach ?_ ?_ path)
    · exact ((state.sameNumbers_attach ..).ueRegistered_iff _).mpr hsecond.ue_registered
    · exact ((state.samePool_attach ..).ranUeRegistered_iff _).mpr hsecond.ranUe_registered
  apply eq_of_presence (hpresence hfirst hsecond) (hpresence hsecond hfirst)
  · simp only [created_attach]
  · simp only [nodes_attach]
  · intro holder
    calc (((state.attach ue ranUe access).attach other next path).ue holder)
        = { state.ue holder with slots :=
            (((state.attach ue ranUe access).attach other next path).ue holder).slots } := by
          rw [ue_attach_eq (state.attach ..), ue_attach_eq state]
      _ = (((state.attach other next path).attach ue ranUe access).ue holder) := by
          rw [hslotsEq, ue_attach_eq (state.attach ..), ue_attach_eq state]
  · intro held
    calc (((state.attach ue ranUe access).attach other next path).ranUe held)
        = { state.ranUe held with ueId :=
            (((state.attach ue ranUe access).attach other next path).ranUe held).ueId } := by
          rw [ranUe_attach_eq (state.attach ..), ranUe_attach_eq state]
      _ = (((state.attach other next path).attach ue ranUe access).ranUe held) := by
          rw [hback, ranUe_attach_eq (state.attach ..), ranUe_attach_eq state]

end

end State

namespace World

open State

theorem attach_of_attachable {world : World} (hsound : world.state.Sound) {ue : Ref Ue}
    {ranUe : Ref RanUe} {access : AccessType}
    (hattachable : world.state.Attachable ue ranUe access) :
    (world.attach ue ranUe).1 = .ok () ∧
      (world.attach ue ranUe).2.state = world.state.attach ue ranUe access := by
  have hlive := (hsound.pool.live ranUe).mpr hattachable.ranUe_registered
  have hok := (attach_ok_iff hsound ue ranUe).mpr hlive
  rcases world.attach_cases ue ranUe with ⟨error, hrefused⟩ | ⟨node, -, hnode, -, hstate⟩
  · simp [hrefused] at hok
  · have hserved : world.state.ServedOver ranUe (world.state.node node).access :=
      ⟨node, hnode, rfl⟩
    rw [hserved.unique hattachable.served] at hstate
    exact ⟨hok, hstate⟩

theorem state_attach_attach {world : World} (hsound : world.state.Sound) {ue other : Ref Ue}
    {ranUe next : Ref RanUe} {access path : AccessType}
    (hfirst : world.state.Attachable ue ranUe access)
    (hsecond : world.state.Attachable other next path) :
    ((world.attach ue ranUe).1 = .ok () ∧ ((world.attach ue ranUe).2.attach other next).1 = .ok ())
    ∧ ((world.attach ue ranUe).2.attach other next).2.state =
        (world.state.attach ue ranUe access).attach other next path := by
  obtain ⟨hok, hstate⟩ := attach_of_attachable hsound hfirst
  have hsoundNext := hfirst.sound_attach hsound
  have hnext := hsecond.attach ue ranUe access
  rw [← hstate] at hsoundNext hnext
  obtain ⟨hokNext, hstateNext⟩ := attach_of_attachable hsoundNext hnext
  rw [hstate] at hstateNext
  exact ⟨⟨hok, hokNext⟩, hstateNext⟩

/-- In every state of a run in which the slots of registered UEs name RAN UEs that name them back
and are served over the access, two attachments of different RAN UEs that fill different slots
succeed in either order and lead to the same state. -/
theorem run_attach_comm (config : Config) (operations : List Operation)
    (hslots : ((opened config).run operations).state.SlotsServed) :
    let world := (opened config).run operations
    let state := world.state
    ∀ {ue other : Ref Ue} {ranUe next : Ref RanUe} {node home : Ref RadioNode},
      state.UeRegistered ue → state.UeRegistered other →
      (state.ranUe ranUe).removed = false → (state.ranUe next).removed = false →
      ranUe ≠ next →
      state.findNode (state.ranUe ranUe).nodeId = some node →
      state.findNode (state.ranUe next).nodeId = some home →
      (ue, (state.node node).access) ≠ (other, (state.node home).access) →
      let left := (world.attach ue ranUe).2.attach other next
      let right := (world.attach other next).2.attach ue ranUe
      ((world.attach ue ranUe).1 = .ok () ∧ left.1 = .ok ()) ∧
      ((world.attach other next).1 = .ok () ∧ right.1 = .ok ()) ∧
      left.2.state = right.2.state := by
  intro world state ue other ranUe next node home hue hother hlive hnextLive hne hnode hhome
    hplaces left right
  have hsound : state.Sound := run_sound config operations
  have hpresent : state.PoolsPresent :=
    hsound.poolsPresent (run_numberedInOrder config operations)
  have hfirst : state.Attachable ue ranUe (state.node node).access :=
    ⟨hue, (hsound.pool.live ranUe).mp hlive, node, hnode, rfl⟩
  have hsecond : state.Attachable other next (state.node home).access :=
    ⟨hother, (hsound.pool.live next).mp hnextLive, home, hhome, rfl⟩
  obtain ⟨hok, hstate⟩ := state_attach_attach hsound hfirst hsecond
  obtain ⟨hokOther, hstateOther⟩ := state_attach_attach hsound hsecond hfirst
  refine ⟨hok, hokOther, ?_⟩
  rw [hstate, hstateOther]
  apply hslots.attach_comm hsound hfirst hsecond hne hpresent
  simpa using hplaces

/-- Two UEs exchange their RAN UEs. -/
theorem attach_comm_exchange :
    let operations : List Operation :=
      [.newUe "imsi-001010000000001", .newUe "imsi-001010000000002", .newNode ⟨1⟩,
        .newRanUe ⟨0⟩ 1, .newRanUe ⟨0⟩ 2, .attach ⟨0⟩ ⟨0⟩, .attach ⟨1⟩ ⟨1⟩]
    let world := (opened Config.standard).run operations
    let left := (world.attach ⟨0⟩ ⟨1⟩).2.attach ⟨1⟩ ⟨0⟩
    let right := (world.attach ⟨1⟩ ⟨0⟩).2.attach ⟨0⟩ ⟨1⟩
    world.state.SlotsServed ∧
      ((world.state.ue ⟨0⟩).slot .threeGpp, (world.state.ue ⟨1⟩).slot .threeGpp) =
        (some 1, some 2) ∧
      ((left.2.state.ue ⟨0⟩).slot .threeGpp, (left.2.state.ue ⟨1⟩).slot .threeGpp) =
        (some 2, some 1) ∧
      left.1 = .ok () ∧ right.1 = .ok () ∧ left.2.state = right.2.state := by
  intro operations world left right
  have hvalid : Config.standard.validate = .ok () := rfl
  have hobeys : (opened Config.standard).Obeys Operation.KeepsLinks operations := by
    simp only [operations, Obeys, Operation.KeepsLinks, true_and, and_true]
    exact ⟨by decide +kernel, by decide +kernel⟩
  obtain ⟨hsound, hlinks⟩ : world.state.Sound ∧ world.state.Links :=
    run_keeps (fun hsound hlinks hstep => hlinks.step hsound hstep)
      (links_new (Config.ngapIds_nonneg hvalid)) hobeys
  have hslots : world.state.SlotsServed := hlinks.slotsServed hsound
  have hnode : world.state.findNode (world.state.ranUe ⟨1⟩).nodeId = some ⟨0⟩ := by
    decide +kernel
  have hhome : world.state.findNode (world.state.ranUe ⟨0⟩).nodeId = some ⟨0⟩ := by
    decide +kernel
  have hue : world.state.UeRegistered ⟨0⟩ := by decide +kernel
  have hother : world.state.UeRegistered ⟨1⟩ := by decide +kernel
  obtain ⟨⟨-, hok⟩, ⟨-, hokOther⟩, hstate⟩ :=
    run_attach_comm Config.standard operations hslots hue hother (by decide +kernel)
      (by decide +kernel) (by decide) hnode hhome (by simp)
  exact ⟨hslots, by decide +kernel, by decide +kernel, hok, hokOther, hstate⟩

end World

end AccessMobility
