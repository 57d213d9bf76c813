import AccessMobility.Proofs.IndexAgreement
import Mathlib.Data.Set.Insert

/-!
# Removing a subscription with what UEs keep of it

An entry lists the UEs a subscription applies to by their SUPIs, in any order, with repetitions, and
with SUPIs that nobody has or that passed to another UE since.  When the entry is removed together
with what UEs keep of it, each SUPI of the list is looked up at this time.  What counts is therefore
who is registered under a listed SUPI now: exactly these UEs lose what they kept under the id of the
entry, and they lose nothing else.  Deleting the entry does the same to the registry and nothing to
the UEs.
-/

namespace AccessMobility

namespace State

/-- Some UEs have lost what they kept of a subscription, and no object has changed otherwise. -/
structure DropsMirrors (state next : State) (id : String) (dropped : Set (Ref Ue)) : Prop where
  ue : ∀ ue, next.ue ue = { state.ue ue with subscriptions := (next.ue ue).subscriptions }
  mirrors : ∀ ue other mirror, (next.ue ue).subscriptions[other]? = some mirror ↔
    (state.ue ue).subscriptions[other]? = some mirror ∧ ¬ (other = id ∧ ue ∈ dropped)
  node : next.node = state.node
  ranUe : next.ranUe = state.ranUe
  created : next.created = state.created

theorem DropsMirrors.of_entities {state next : State} (hsame : next.entities = state.entities)
    (id : String) : state.DropsMirrors next id ∅ := by
  have hue : next.ue = state.ue := congrArg (·.ues.get) hsame
  exact
    { ue := fun ue => by rw [hue]
      mirrors := fun ue other mirror => by simp [hue]
      node := congrArg (·.nodes.get) hsame
      ranUe := congrArg (·.ranUes.get) hsame
      created := by simp only [State.created, hsame] }

theorem DropsMirrors.trans {first second third : State} {id : String}
    {dropped others : Set (Ref Ue)} (hfirst : first.DropsMirrors second id dropped)
    (hsecond : second.DropsMirrors third id others) :
    first.DropsMirrors third id (dropped ∪ others) where
  ue ue := by rw [hsecond.ue ue, hfirst.ue ue]
  mirrors ue other mirror := by
    rw [hsecond.mirrors, hfirst.mirrors, and_assoc, ← not_or, ← and_or_left, Set.mem_union]
  node := hsecond.node.trans hfirst.node
  ranUe := hsecond.ranUe.trans hfirst.ranUe
  created := hsecond.created.trans hfirst.created

/-- A UE that keeps nothing under an id any more. -/
theorem dropsMirrors_modifyUe (state : State) (ref : Ref Ue) (id : String) :
    state.DropsMirrors (state.modifyUe ref (·.unsubscribe id)) id {ref} where
  ue ue := by
    rw [modifyUe, ue_setUe]
    split
    next heq => rw [heq]; rfl
    next => rfl
  mirrors ue other mirror := by
    rw [modifyUe, ue_setUe, Set.mem_singleton_iff]
    split
    next heq =>
      rw [Ue.unsubscribe, Table.lookup_erase, heq]
      by_cases hother : id = other
      · simp [hother]
      · simp [hother, Ne.symm hother]
    next hne => simp [Ne.symm hne]
  node := rfl
  ranUe := rfl
  created := rfl

end State

namespace World

open State

/-! ## Dropping what the listed UEs keep -/

theorem findUeBySupi_unsubscribe (world : World) (id supi : String) :
    (world.unsubscribe id supi).state.findUeBySupi = world.state.findUeBySupi := by
  have hfindUe : (world.unsubscribe id supi).state.findUe = world.state.findUe := by
    funext number
    rw [State.findUe, registry_unsubscribe, State.findUe]
  funext other
  simp only [State.findUeBySupi, registry_unsubscribe, hfindUe]

theorem dropsMirrors_unsubscribe (world : World) (id supi : String) :
    world.state.DropsMirrors (world.unsubscribe id supi).state id
      {ue | world.state.findUeBySupi supi = some ue} := by
  unfold unsubscribe
  cases world.state.findUeBySupi supi with
  | none =>
      have hnone : {ue : Ref Ue | none = some ue} = ∅ := by
        ext ue
        simp
      rw [hnone]
      exact .of_entities rfl id
  | some ref =>
      have hone : {ue | some ref = some ue} = {ref} := by
        ext ue
        simp [eq_comm]
      rw [hone]
      exact world.state.dropsMirrors_modifyUe ref id

/-- No look-up of the list depends on what was dropped before it. -/
theorem dropsMirrors_unsubscribeAll (world : World) (id : String) (supis : List String) :
    world.state.DropsMirrors
      (supis.foldl (fun world supi => world.unsubscribe id supi) world).state id
      {ue | ∃ supi ∈ supis, world.state.findUeBySupi supi = some ue} := by
  induction supis generalizing world with
  | nil =>
      have hnone : {ue | ∃ supi ∈ [], world.state.findUeBySupi supi = some ue} = ∅ := by
        ext ue
        simp
      rw [hnone]
      exact .of_entities rfl id
  | cons supi rest ih =>
      have hsplit : {ue | ∃ other ∈ supi :: rest, world.state.findUeBySupi other = some ue} =
          {ue | world.state.findUeBySupi supi = some ue} ∪
            {ue | ∃ other ∈ rest, world.state.findUeBySupi other = some ue} := by
        ext ue
        simp
      have hrest := ih (world.unsubscribe id supi)
      rw [findUeBySupi_unsubscribe] at hrest
      rw [hsplit]
      exact (world.dropsMirrors_unsubscribe id supi).trans hrest

/-! ## The two calls -/

theorem deleteSubscription_ok_iff (world : World) (id : String) (entry : SubscriptionEntry) :
    (world.deleteSubscription id).1 = .ok entry ↔
      world.state.registry.subscriptions[id]? = some entry := by
  cases hstored : world.state.registry.subscriptions[id]? with
  | none => simp [deleteSubscription, hstored]
  | some found =>
      obtain ⟨done, hcall, -⟩ := deleteSubscription_stored hstored
      rw [hcall, Except.ok.injEq, Option.some.injEq]

/-- Both calls give the same answer, and the removal goes on from where the deletion ends. -/
theorem removeSubscription_eq (world : World) (id : String) :
    (world.removeSubscription id).1 = (world.deleteSubscription id).1 ∧
      ∀ entry, (world.deleteSubscription id).1 = .ok entry →
        (world.removeSubscription id).2 = entry.supis.foldl
          (fun world supi => world.unsubscribe id supi) (world.deleteSubscription id).2 := by
  unfold removeSubscription
  cases world.deleteSubscription id with
  | mk answer next =>
      cases answer with
      | error error => exact ⟨rfl, fun entry hok => by cases hok⟩
      | ok found => exact ⟨rfl, fun entry hok => by cases hok; rfl⟩

/-- The removal of an entry answers with the entry exactly if one is stored under the id.  It
leaves the registry as the deletion does, and the UEs that are registered now under a SUPI of the
list lose what they kept under the id; nothing else changes. -/
theorem run_removeSubscription (config : Config) (operations : List Operation) (id : String) :
    let world := (opened config).run operations
    let state := world.state
    let deleted := world.deleteSubscription id
    let removed := world.removeSubscription id
    (∀ entry, removed.1 = .ok entry ↔ state.registry.subscriptions[id]? = some entry) ∧
    removed.1 = deleted.1 ∧
    ∀ entry, removed.1 = .ok entry →
      removed.2.state.registry =
        { state.registry with
          subscriptions := state.registry.subscriptions.erase id
          subscriptionIds := (Decimal.int64? id).elim state.registry.subscriptionIds
            state.registry.subscriptionIds.free } ∧
      state.DropsMirrors removed.2.state id
        {ue | state.UeRegistered ue ∧ (state.ue ue).supi ≠ "" ∧
          (state.ue ue).supi ∈ entry.supis} ∧
      deleted.2.state.registry = removed.2.state.registry ∧
      deleted.2.state.entities = state.entities := by
  intro world state deleted removed
  obtain ⟨hanswer, hnext⟩ := world.removeSubscription_eq id
  have hok (entry : SubscriptionEntry) :
      removed.1 = .ok entry ↔ state.registry.subscriptions[id]? = some entry := by
    show (world.removeSubscription id).1 = _ ↔ _
    rw [hanswer]
    exact world.deleteSubscription_ok_iff id entry
  refine ⟨hok, hanswer, fun entry hentry => ?_⟩
  obtain ⟨done, hcall, hdone⟩ := deleteSubscription_stored ((hok entry).mp hentry)
  have hdeleted : deleted.2 = done := congrArg Prod.snd hcall
  have hremoved : removed.2 = entry.supis.foldl
      (fun world supi => world.unsubscribe id supi) done := by
    rw [← hdeleted]
    exact hnext entry (hanswer ▸ hentry)
  have hentities : done.state.entities = state.entities := by rw [hdone]
  have hregistry : removed.2.state.registry = done.state.registry := by
    rw [← hdeleted]
    exact world.registry_removeSubscription id
  refine ⟨?_, ?_, ?_, ?_⟩
  · rw [hregistry, hdone]
  · have hfind : done.state.findUeBySupi = state.findUeBySupi := by
      rw [hdone]
      rfl
    have hindex : state.UeIndexAgrees :=
      (run_sound config operations).ueIndexAgrees (run_uesFiled config operations)
    have hlisted : {ue | ∃ supi ∈ entry.supis, done.state.findUeBySupi supi = some ue} =
        {ue | state.UeRegistered ue ∧ (state.ue ue).supi ≠ "" ∧
          (state.ue ue).supi ∈ entry.supis} := by
      ext ue
      rw [hfind]
      constructor
      · rintro ⟨supi, hmem, hfound⟩
        obtain ⟨hsupi, hregistered, rfl⟩ := hindex.found.mp hfound
        exact ⟨hregistered, hsupi, hmem⟩
      · rintro ⟨hregistered, hsupi, hmem⟩
        exact ⟨_, hmem, hindex.found.mpr ⟨hsupi, hregistered, rfl⟩⟩
    have hdropped := done.dropsMirrors_unsubscribeAll id entry.supis
    rw [hlisted, ← hremoved] at hdropped
    have hboth := (DropsMirrors.of_entities hentities id).trans hdropped
    rwa [Set.empty_union] at hboth
  · rw [hdeleted, hregistry]
  · rw [hdeleted, hentities]

/-- A UE that was replaced keeps what it has under an id, and the one that replaced it loses it,
though its SUPI is listed twice, among an empty one and one that nobody has. -/
theorem removeSubscription_replaced :
    let supi := "imsi-001010000000001"
    let subscription : UeSubscription := .new default default
    let entry : SubscriptionEntry :=
      { SubscriptionEntry.new default none with supis := [supi, "", "imsi-9", supi] }
    let operations : List Operation :=
      [.newUe supi, .subscribe ⟨0⟩ "1" subscription, .newUe supi, .subscribe ⟨1⟩ "1" subscription,
        .subscribe ⟨1⟩ "2" subscription, .addSubscription "1" entry]
    let world := (opened Config.standard).run operations
    let next := (world.removeSubscription "1").2.state
    (world.removeSubscription "1").1 = .ok entry ∧
      (next.ue ⟨1⟩).subscriptions["1"]? = none ∧
      (next.ue ⟨1⟩).subscriptions["2"]? = some subscription ∧
      (next.ue ⟨0⟩).subscriptions["1"]? = some subscription := by
  intro supi subscription entry operations world next
  obtain ⟨hok, -, hremoved⟩ := run_removeSubscription Config.standard operations "1"
  have hanswer : (world.removeSubscription "1").1 = .ok entry :=
    (hok entry).mpr (by decide +kernel)
  obtain ⟨-, hdrops, -⟩ := hremoved entry hanswer
  refine ⟨hanswer, ?_, ?_, ?_⟩
  · have hlisted : world.state.UeRegistered ⟨1⟩ ∧ (world.state.ue ⟨1⟩).supi ≠ "" ∧
        (world.state.ue ⟨1⟩).supi ∈ entry.supis := by decide +kernel
    rw [Option.eq_none_iff_forall_not_mem]
    intro mirror hkept
    exact ((hdrops.mirrors ⟨1⟩ "1" mirror).mp hkept).2 ⟨rfl, hlisted⟩
  · refine (hdrops.mirrors ⟨1⟩ "2" subscription).mpr ⟨by decide +kernel, ?_⟩
    rintro ⟨hother, -⟩
    exact absurd hother (by decide)
  · refine (hdrops.mirrors ⟨0⟩ "1" subscription).mpr ⟨by decide +kernel, ?_⟩
    rintro ⟨-, hregistered, -⟩
    exact absurd hregistered (by decide +kernel)

end World

end AccessMobility
