import AccessMobility.Proofs.AttachmentOrder

/-!
# What an attachment leaves behind

An attachment fills one slot and one back reference.  It empties the slots that another UE has for
the RAN UE, as long as the back reference names this UE, and it clears the back reference of the RAN
UE that loses its slot.  Nothing else changes.

The UE itself is not looked at as a previous owner.  So a slot that it filled while the radio node
served the other access goes on naming the RAN UE, and so does every slot that the back reference
does not lead to.  After the attachment the filled slot is the only one to name the RAN UE exactly
if there was no such slot before.
-/

namespace AccessMobility

namespace State

/-- The RAN UE loses the slot it has to another one, which is attached to its UE. -/
def Loses (state : State) (ue : Ref Ue) (access : AccessType) (ranUe : Ref RanUe) : Prop :=
  (state.ue ue).slot access = some (state.ranUe ranUe).ngapId ∧
    (state.ranUe ranUe).ueId = some (state.ue ue).id

instance (state : State) (ue : Ref Ue) (access : AccessType) (ranUe : Ref RanUe) :
    Decidable (state.Loses ue access ranUe) :=
  inferInstanceAs (Decidable (_ ∧ _))

/-- The slot of an access is the only one of a registered UE that names an AMF UE NGAP id. -/
def OnlySlot (state : State) (ngapId : Nat) (ue : Ref Ue) (access : AccessType) : Prop :=
  ∀ other path, state.UeRegistered other → (state.ue other).slots.get path = some ngapId →
    ue = other ∧ access = path

/-- A state and the one after an attachment over an access. -/
structure Attaches (state next : State) (ue : Ref Ue) (ranUe : Ref RanUe) (access : AccessType) :
    Prop where
  slot : (next.ue ue).slots.get access = some (state.ranUe ranUe).ngapId
  slots : ∀ other path, ¬ (ue = other ∧ access = path) → (next.ue other).slots.get path =
    if state.Empties ue ranUe other path then none else (state.ue other).slots.get path
  back : (next.ranUe ranUe).ueId = some (state.ue ue).id
  backs : ∀ other, ranUe ≠ other → (next.ranUe other).ueId =
    if state.Loses ue access other then none else (state.ranUe other).ueId
  ues : ∀ other, next.ue other = { state.ue other with slots := (next.ue other).slots }
  ranUes : ∀ other, next.ranUe other = { state.ranUe other with ueId := (next.ranUe other).ueId }
  nodes : next.entities.nodes = state.entities.nodes
  registry : next.registry = state.registry
  created : next.created = state.created

section

variable {state : State} (hsound : state.Sound) (hlinked : state.LinkedLive)
  {ue : Ref Ue} {ranUe : Ref RanUe} {access : AccessType}

include hsound hlinked

/-- A RAN UE that names a UE is in the pool, so its id in a slot leads back to it. -/
theorem LinkedLive.replacedBy_iff (hregistered : state.RanUeRegistered ranUe) {other : Ref RanUe}
    (hother : ranUe ≠ other) :
    (state.replacedBy ue ranUe access = some other ∧
        (state.ranUe other).ueId = some (state.ue ue).id) ↔ state.Loses ue access other := by
  rw [replacedBy, Option.bind_eq_some_iff, Loses]
  simp only [Option.filter_eq_some_iff, decide_eq_true_eq]
  constructor
  · rintro ⟨⟨ngapId, ⟨hslot, -⟩, hfind⟩, hback⟩
    rw [hsound.pool.ngapId hfind]
    exact ⟨hslot, hback⟩
  · rintro ⟨hslot, hback⟩
    have hfound := (hsound.pool.live other).mp (hlinked other _ hback)
    have hne := ngapId_ne_of_registered hfound hregistered (Ne.symm hother)
    exact ⟨⟨_, ⟨hslot, hne⟩, hfound⟩, hback⟩

theorem LinkedLive.ueId_attach (hregistered : state.RanUeRegistered ranUe)
    {other : Ref RanUe} (hother : ranUe ≠ other) :
    ((state.attach ue ranUe access).ranUe other).ueId =
      if state.Loses ue access other then none else (state.ranUe other).ueId := by
  rw [ranUe_attach, ranUe_occupy, if_neg hother]
  simp only [hlinked.replacedBy_iff hsound hregistered hother]
  split <;> rfl

theorem Attachable.attaches (hattachable : state.Attachable ue ranUe access) :
    state.Attaches (state.attach ue ranUe access) ue ranUe access where
  slot := by
    rw [hsound.get_attach hattachable.ue_registered, if_pos ⟨rfl, rfl⟩]
  slots other path hother := by
    rw [hsound.get_attach hattachable.ue_registered, if_neg hother]
  back := by
    rw [ranUe_attach, ranUe_occupy, if_pos rfl]
    exact congrArg RanUe.ueId (if_neg fun hboth => hsound.pool.replacedBy_ne hboth.1)
  backs other hother := hlinked.ueId_attach hsound hattachable.ranUe_registered hother
  ues := state.ue_attach_eq ue ranUe access
  ranUes := state.ranUe_attach_eq ue ranUe access
  nodes := state.nodes_attach ue ranUe access
  registry := state.registry_attach ue ranUe access
  created := state.created_attach ue ranUe access

end

/-! ## The slots that name the RAN UE afterwards -/

section

variable {state next : State} {ue : Ref Ue} {ranUe : Ref RanUe} {access : AccessType}
  (hattaches : state.Attaches next ue ranUe access)

include hattaches

theorem Attaches.ueRegistered_iff (other : Ref Ue) :
    next.UeRegistered other ↔ state.UeRegistered other := by
  rw [UeRegistered, UeRegistered, findUe, findUe, hattaches.registry, hattaches.ues other]

/-- The filled slot is the only one exactly if every other one was emptied. -/
theorem Attaches.onlySlot_iff :
    next.OnlySlot (state.ranUe ranUe).ngapId ue access ↔
      ∀ other path, state.UeRegistered other →
        (state.ue other).slots.get path = some (state.ranUe ranUe).ngapId →
        (ue = other ∧ access = path) ∨
          (ue ≠ other ∧ (state.ranUe ranUe).ueId = some (state.ue other).id) := by
  constructor
  · intro honly other path hregistered hraw
    by_cases hfilled : ue = other ∧ access = path
    · exact Or.inl hfilled
    · right
      by_contra hkept
      have hspared : ¬ state.Empties ue ranUe other path :=
        fun hempties => hkept ⟨hempties.1, hempties.2.2.1⟩
      have hafter := hattaches.slots other path hfilled
      rw [if_neg hspared, hraw] at hafter
      exact hfilled (honly other path ((hattaches.ueRegistered_iff other).mpr hregistered) hafter)
  · intro hemptied other path hregistered hafter
    rw [hattaches.ueRegistered_iff] at hregistered
    by_contra hfilled
    rw [hattaches.slots other path hfilled] at hafter
    split at hafter
    · cases hafter
    next hspared =>
      rcases hemptied other path hregistered hafter with hfill | ⟨hne, hback⟩
      · exact hfilled hfill
      · exact hspared ⟨hne, hregistered, hback, hafter⟩

theorem Attaches.slot_of_valid (hvalid : (state.ranUe ranUe).ngapId ≠ NgapId.invalid) :
    (next.ue ue).slot access = some (state.ranUe ranUe).ngapId := by
  rw [Ue.slot, Option.filter_eq_some_iff]
  exact ⟨hattaches.slot, by simpa using hvalid⟩

/-- The RAN UE that had the slot is let go. -/
theorem Attaches.back_ne {other : Ref RanUe} (hother : ranUe ≠ other)
    (hheld : (state.ue ue).slot access = some (state.ranUe other).ngapId) :
    (next.ranUe other).ueId ≠ some (state.ue ue).id := by
  rw [hattaches.backs other hother]
  split
  · simp
  next hkept => exact fun hback => hkept ⟨hheld, hback⟩

end

/-! ## Attaching again -/

section

variable {state : State} (hsound : state.Sound) (hlinked : state.LinkedLive)
  {ue : Ref Ue} {ranUe : Ref RanUe} {access : AccessType}
  (hattachable : state.Attachable ue ranUe access)

include hsound hlinked hattachable

/-- Nothing is left to be emptied or to be let go. -/
theorem Attachable.attach_again (hpresent : state.PoolsPresent) :
    (state.attach ue ranUe access).attach ue ranUe access = state.attach ue ranUe access := by
  have hfirst := hattachable.attaches hsound hlinked
  have hsame :=
    hpresent.attach hattachable.ue_registered hattachable.ranUe_registered access
  have hsoundNext := hattachable.sound_attach hsound
  have hlinkedNext : (state.attach ue ranUe access).LinkedLive :=
    hlinked.attach ((hsound.pool.live ranUe).mpr hattachable.ranUe_registered) access
  have hnext := hattachable.attach ue ranUe access
  generalize state.attach ue ranUe access = next at *
  have hsecond := hnext.attaches hsoundNext hlinkedNext
  have hagain :=
    (hsame.poolsPresent hpresent).attach hnext.ue_registered hnext.ranUe_registered access
  have hnumber : (next.ranUe ranUe).ngapId = (state.ranUe ranUe).ngapId := by
    rw [hfirst.ranUes ranUe]
  have hid : (next.ue ue).id = (state.ue ue).id := by
    rw [hfirst.ues ue]
  have hspared (other : Ref Ue) (path : AccessType) : ¬ next.Empties ue ranUe other path := by
    rintro ⟨hne, -, hback, -⟩
    rw [hfirst.back, ← hid, Option.some.injEq] at hback
    exact hne (hsoundNext.ue_eq_of_id hnext.ue_registered hback.symm).symm
  have hkept {other : Ref RanUe} (hother : ranUe ≠ other) : ¬ next.Loses ue access other := by
    rintro ⟨hslot, hback⟩
    have hregistered := (hsoundNext.pool.live other).mp (hlinkedNext other _ hback)
    rw [Ue.slot, Option.filter_eq_some_iff, hfirst.slot, ← hnumber, Option.some.injEq] at hslot
    exact ngapId_ne_of_registered hnext.ranUe_registered hregistered hother hslot.1
  apply eq_of_presence (hsame.trans hagain) hsame hsecond.created hsecond.nodes
  · intro other
    have hslots : ((next.attach ue ranUe access).ue other).slots = (next.ue other).slots := by
      apply PerAccess.ext_get
      intro path
      by_cases hfilled : ue = other ∧ access = path
      · obtain ⟨rfl, rfl⟩ := hfilled
        rw [hsecond.slot, hfirst.slot, hnumber]
      · rw [hsecond.slots other path hfilled, if_neg (hspared other path)]
    rw [hsecond.ues other, hslots]
  · intro other
    have hback :
        ((next.attach ue ranUe access).ranUe other).ueId = (next.ranUe other).ueId := by
      by_cases heq : ranUe = other
      · rw [← heq, hsecond.back, hfirst.back, hid]
      · rw [hsecond.backs other heq, if_neg (hkept heq)]
    rw [hsecond.ranUes other, hback]

end

end State

namespace World

open State

/-- An attachment fills the slot of the access served and the back reference, lets go of the RAN
UE that had the slot, empties what the previous owner has for the RAN UE, changes nothing else,
and has nothing to do a second time. -/
theorem run_attach_effect (config : Config) (operations : List Operation) {ue : Ref Ue}
    {ranUe : Ref RanUe} (hue : ((opened config).run operations).state.UeRegistered ue)
    (hok : (((opened config).run operations).attach ue ranUe).1 = .ok ()) :
    let world := (opened config).run operations
    let after := (world.attach ue ranUe).2
    let ngapId := (world.state.ranUe ranUe).ngapId
    ∃ access, world.state.ServedOver ranUe access ∧
      world.state.Attaches after.state ue ranUe access ∧
      (ngapId ≠ NgapId.invalid → (after.state.ue ue).slot access = some ngapId) ∧
      (∀ other, ranUe ≠ other →
        (world.state.ue ue).slot access = some (world.state.ranUe other).ngapId →
        (after.state.ranUe other).ueId ≠ some (world.state.ue ue).id) ∧
      (after.state.OnlySlot ngapId ue access ↔
        ∀ other path, world.state.UeRegistered other →
          (world.state.ue other).slots.get path = some ngapId →
          (ue = other ∧ access = path) ∨
            (ue ≠ other ∧ (world.state.ranUe ranUe).ueId = some (world.state.ue other).id)) ∧
      (world.state.SlotsServed → ∀ other path, world.state.UeRegistered other →
        (after.state.ue other).slot path = some ngapId → ue = other ∧ access = path) ∧
      (after.attach ue ranUe).1 = .ok () ∧ (after.attach ue ranUe).2.state = after.state := by
  intro world after ngapId
  have hsound : world.state.Sound := run_sound config operations
  have hlinked : world.state.LinkedLive := run_linkedLive config operations
  have hpresent := hsound.poolsPresent (run_numberedInOrder config operations)
  have hlive := (attach_ok_iff hsound ue ranUe).mp hok
  have hregistered := (hsound.pool.live ranUe).mp hlive
  obtain ⟨node, hnode, -⟩ := hsound.pool.bound hregistered (by simp)
  have hattachable : world.state.Attachable ue ranUe (world.state.node node).access :=
    ⟨hue, hregistered, node, hnode, rfl⟩
  obtain ⟨-, hstate⟩ := attach_of_attachable hsound hattachable
  have hattaches := hattachable.attaches hsound hlinked
  have hagain := hattachable.attach_again hsound hlinked hpresent
  have hnext := hattachable.attach ue ranUe (world.state.node node).access
  have hsoundNext := hattachable.sound_attach hsound
  rw [← hstate] at hattaches hagain hnext hsoundNext
  obtain ⟨hokAgain, hstateAgain⟩ := attach_of_attachable hsoundNext hnext
  refine ⟨(world.state.node node).access, hattachable.served, hattaches, hattaches.slot_of_valid,
    fun other => hattaches.back_ne, hattaches.onlySlot_iff, ?_, hokAgain,
    hstateAgain.trans hagain⟩
  intro hslots other path hother hslot
  by_contra hfilled
  dsimp only [after] at hslot
  rw [hstate] at hslot
  exact hslots.slot_attach_self hsound hattachable hother hfilled hslot

/-- A RAN UE moves from one UE to another, which gives its own RAN UE up for it. -/
theorem attach_effect_moves :
    let operations : List Operation :=
      [.newUe "imsi-001010000000001", .newUe "imsi-001010000000002", .newNode ⟨1⟩,
        .newRanUe ⟨0⟩ 1, .newRanUe ⟨0⟩ 2, .attach ⟨0⟩ ⟨0⟩, .attach ⟨1⟩ ⟨1⟩]
    let world := (opened Config.standard).run operations
    let after := (world.attach ⟨1⟩ ⟨0⟩).2
    world.state.UeRegistered ⟨1⟩ ∧ (world.attach ⟨1⟩ ⟨0⟩).1 = .ok () ∧
      (after.state.ue ⟨1⟩).slot .threeGpp = some 1 ∧ (after.state.ue ⟨0⟩).slot .threeGpp = none ∧
      (after.state.ranUe ⟨0⟩).ueId = some 2 ∧ (after.state.ranUe ⟨1⟩).ueId = none ∧
      (after.attach ⟨1⟩ ⟨0⟩).2.state = after.state := by
  intro operations world after
  have hue : world.state.UeRegistered ⟨1⟩ := by decide +kernel
  have hok : (world.attach ⟨1⟩ ⟨0⟩).1 = .ok () := by decide +kernel
  obtain ⟨access, -, -, -, -, -, -, -, hagain⟩ :=
    run_attach_effect Config.standard operations hue hok
  exact ⟨hue, hok, by decide +kernel, by decide +kernel, by decide +kernel, by decide +kernel,
    hagain⟩

/-- The radio node changes its access between two attachments of one pair: the UE ends up with the
RAN UE in both slots. -/
theorem attach_again_leaves_stale_slot :
    let operations : List Operation :=
      [.newUe "imsi-001010000000001", .newNode ⟨1⟩, .newRanUe ⟨0⟩ 1, .attach ⟨0⟩ ⟨0⟩,
        .setAccess ⟨0⟩ .nonThreeGpp]
    let world := (opened Config.standard).run operations
    let after := (world.attach ⟨0⟩ ⟨0⟩).2
    world.state.UeRegistered ⟨0⟩ ∧ (world.attach ⟨0⟩ ⟨0⟩).1 = .ok () ∧
      (world.state.node ⟨0⟩).access = .nonThreeGpp ∧
      (after.state.ranUe ⟨0⟩).ngapId = 1 ∧ (after.state.ranUe ⟨0⟩).ueId = some 1 ∧
      (after.state.ue ⟨0⟩).slot .nonThreeGpp = some 1 ∧
      (after.state.ue ⟨0⟩).slot .threeGpp = some 1 := by
  decide +kernel

end World

end AccessMobility
