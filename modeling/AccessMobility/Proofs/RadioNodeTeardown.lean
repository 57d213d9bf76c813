import AccessMobility.Proofs.ConnectionIndex
import AccessMobility.Proofs.Removal

/-!
# Tearing a radio node down

The RAN UEs of a radio node can be removed one by one, by a call for each, or all at once.  All at
once they are also removed when the radio node itself is: then it has left the pool, so that the
release of a RAN UE no longer finds the collection and the entry has to be erased by a second step.
This file shows that all these ways lead to the same state, in whatever order the RAN UEs are taken,
but for the order in which their AMF UE NGAP ids wait, and but for the radio node itself.
-/

namespace AccessMobility

namespace State

/-- Every UE has kept its registration, its 5G-TMSI and its 5G-GUTI, and every RAN UE that is not in
the collection of a radio node, and every other registered radio node, is as it was. -/
structure Spares (state next : State) (node : Ref RadioNode) : Prop where
  sameUes : state.SameUes next
  ranUe : ∀ {ref}, ref ∉ state.held node → next.ranUe ref = state.ranUe ref
  pool : ∀ {ref}, ref ∉ state.held node → ∀ ngapId,
    next.findRanUe ngapId = some ref ↔ state.findRanUe ngapId = some ref
  nodes : ∀ {other}, other ≠ node → state.NodeRegistered other →
    next.NodeRegistered other ∧ next.node other = state.node other

/-- Two states that differ at most in the order in which AMF UE NGAP ids wait. -/
structure EqualUpToNgapIds (state next : State) : Prop extends EqualUpToOrder state next where
  tmsis_eq : next.registry.tmsis = state.registry.tmsis

theorem Removes.equalUpToNgapIds {state left right : State} {ranUes : Set (Ref RanUe)}
    (hsound : state.Sound) (htmsis : state.registry.tmsis.Valid)
    (hleft : state.Removes left ∅ ranUes) (hright : state.Removes right ∅ ranUes) :
    left.EqualUpToNgapIds right where
  toEqualUpToOrder := hleft.equalUpToOrder htmsis hsound.pool.pool_valid hright
  tmsis_eq := (hright.tmsis_kept rfl).trans (hleft.tmsis_kept rfl).symm

/-! ## Releasing the RAN UEs of a radio node -/

theorem removes_releaseAll {state : State} (hsound : state.Sound) {refs : List (Ref RanUe)}
    (hregistered : ∀ ref ∈ refs, state.RanUeRegistered ref) (hnodup : refs.Nodup) :
    state.Removes (state.releaseAll refs) ∅ {ref | ref ∈ refs} := by
  unfold releaseAll
  induction refs generalizing state with
  | nil =>
      have hset : {ref : Ref RanUe | ref ∈ []} = ∅ := by simp
      rw [hset]
      exact Removes.refl state
  | cons ref rest ih =>
      rw [List.nodup_cons] at hnodup
      have hfound := hregistered ref (List.mem_cons_self ..)
      have hrelease : Step Operation.Any state (state.release ref) :=
        Step.release ((hsound.pool.live ref).mpr hfound)
      have hfirst := removes_release hsound hfound
      have hrest := ih (hsound.step hrelease) ?_ hnodup.2
      · have hset : {other | other ∈ ref :: rest} = {ref} ∪ {other | other ∈ rest} := by
          ext other
          simp
        have hboth := hfirst.trans hrest
        rw [Set.union_empty, ← hset] at hboth
        exact hboth
      · intro other hmem
        have hne : other ≠ ref := fun heq => hnodup.1 (heq ▸ hmem)
        exact (hfirst.ranUeRegistered_iff other).mpr
          ⟨hregistered other (List.mem_cons_of_mem _ hmem), hne⟩

/-- Going through some entries while the radio node is still in the pool. -/
theorem removes_clearOut {state : State} (hsound : state.Sound) (node : Ref RadioNode)
    (entries : List (Int × Ref RanUe)) :
    state.Removes (state.clearOut node entries) ∅
      {ref | state.RanUeRegistered ref ∧ ref ∈ entries.map Prod.snd} := by
  unfold clearOut
  induction entries generalizing state with
  | nil =>
      have hset : {ref | state.RanUeRegistered ref ∧
          ref ∈ ([] : List (Int × Ref RanUe)).map Prod.snd} = ∅ := by simp
      rw [hset]
      exact Removes.refl state
  | cons entry rest ih =>
      have hfirst := removes_evict hsound node entry.1 entry.2
      have hevict : Steps Operation.Any state (state.evict (some entry.2)) :=
        state.evict_steps entry.2
      have hsoundEvicted := hevict.sound hsound
      have hleave := sameWiring_leaveCollection hsoundEvicted.pool
        (state.removed_evict entry.2) node entry.1
      have hrest := ih (hsoundEvicted.describe hleave)
      have hset : {ref | state.RanUeRegistered ref ∧ ref ∈ (entry :: rest).map Prod.snd} =
          {ref | state.RanUeRegistered ref ∧ ref = entry.2} ∪
            {ref | ((state.evict (some entry.2)).leaveCollection node entry.1
              entry.2).RanUeRegistered ref ∧ ref ∈ rest.map Prod.snd} := by
        ext ref
        simp only [Set.mem_union, Set.mem_ofPred_eq, hfirst.ranUeRegistered_iff, List.map_cons,
          List.mem_cons]
        by_cases heq : ref = entry.2 <;> simp [heq]
      have hboth := hfirst.trans hrest
      rw [Set.union_empty, ← hset] at hboth
      exact hboth

section

variable {state : State} (hsound : state.Sound) (node : Ref RadioNode)

include hsound

theorem held_registered {ref : Ref RanUe} (hmem : ref ∈ state.held node) :
    state.RanUeRegistered ref := by
  obtain ⟨key, hentry⟩ := hmem
  exact (hsound.pool.held hentry).1

theorem removes_clearOut_collection {entries : List (Int × Ref RanUe)}
    (hperm : entries.Perm (state.node node).ranUes.toList) :
    state.Removes (state.clearOut node entries) ∅ (state.held node) := by
  have hset : {ref | state.RanUeRegistered ref ∧ ref ∈ entries.map Prod.snd} =
      state.held node := by
    rw [← refs_of_perm hperm]
    ext ref
    refine ⟨And.right, fun hmem => ⟨held_registered hsound node ?_, hmem⟩⟩
    rw [← refs_of_perm hperm]
    exact hmem
  have hcleared := removes_clearOut hsound node entries
  rw [hset] at hcleared
  exact hcleared

theorem removes_releaseAll_collection {entries : List (Int × Ref RanUe)}
    (hperm : entries.Perm (state.node node).ranUes.toList) :
    state.Removes (state.releaseAll (entries.map Prod.snd)) ∅ (state.held node) := by
  rw [← refs_of_perm hperm]
  apply removes_releaseAll hsound
  · intro ref hmem
    apply held_registered hsound node
    rw [← refs_of_perm hperm]
    exact hmem
  · exact (hperm.map Prod.snd).nodup_iff.mpr (hsound.nodup_collection node)

/-- Once the radio node has left the pool, its collection can be gone through in any order. -/
theorem clearOut_closeNode_collection (connectionIndex : Table Nat Nat)
    {entries : List (Int × Ref RanUe)}
    (hperm : entries.Perm (state.node node).ranUes.toList) :
    (state.closeNode node connectionIndex).clearOut node entries =
      (state.releaseAll (entries.map Prod.snd)).closeNode node connectionIndex := by
  apply clearOut_closeNode hsound
  · intro key ref hmem
    exact Std.ExtTreeMap.mem_toList_iff_getElem?_eq_some.mp (hperm.mem_iff.mp hmem)
  · exact hperm.symm.pairwise (Table.distinct_toList _) fun hne => Ne.symm hne

end

/-! ## Opening and closing a radio node -/

theorem EqualUpToNgapIds.closeNode {left right : State} (hequal : left.EqualUpToNgapIds right)
    (node : Ref RadioNode) (connectionIndex : Table Nat Nat) :
    (left.closeNode node connectionIndex).EqualUpToNgapIds
      (right.closeNode node connectionIndex) where
  ue := hequal.ue
  node := hequal.node
  ranUe := hequal.ranUe
  created := hequal.created
  registry := by
    have hid : (right.node node).id = (left.node node).id := by rw [hequal.node]
    unfold State.closeNode
    rw [hid]
    exact congrArg (fun registry : Registry =>
      { registry with nodes := registry.nodes.erase (left.node node).id, connectionIndex })
      hequal.registry
  tmsis := hequal.tmsis
  ngapIds := hequal.ngapIds
  tmsis_eq := hequal.tmsis_eq

/-- What has gone before a radio node is opened can as well go afterwards. -/
theorem Removes.openNode {state next : State} {ues : Set (Ref Ue)} {ranUes : Set (Ref RanUe)}
    (hremoves : state.Removes next ues ranUes) (connection : Connection) :
    (state.openNode connection).Removes (next.openNode connection) ues ranUes := by
  have hfresh : next.entities.nodes.fresh = state.entities.nodes.fresh :=
    congrArg (fun created : Nat × Nat × Nat => (⟨created.2.1⟩ : Ref RadioNode)) hremoves.created
  have hnextId : next.registry.nextNodeId = state.registry.nextNodeId := by
    rw [hremoves.registry]
  have hlimits : next.registry.limits = state.registry.limits := by rw [hremoves.registry]
  constructor
  case ues_registered =>
    exact hremoves.ues_registered
  case ranUes_registered =>
    exact hremoves.ranUes_registered
  case closed =>
    exact hremoves.closed
  case ue_kept =>
    exact hremoves.ue_kept
  case ue_gone =>
    exact hremoves.ue_gone
  case slot =>
    exact hremoves.slot
  case ranUe_kept =>
    exact hremoves.ranUe_kept
  case ranUe_gone =>
    exact hremoves.ranUe_gone
  case node =>
    intro node
    rw [node_openNode, node_openNode, hfresh, hnextId, hlimits]
    split
    · rfl
    · exact hremoves.node node
  case collections =>
    intro node key ref
    unfold findRanUeByKey
    rw [node_openNode, node_openNode, hfresh]
    split
    next => simp
    next => exact hremoves.collections node key ref
  case created =>
    exact congrArg (fun created : Nat × Nat × Nat => (created.1, created.2.1 + 1, created.2.2))
      hremoves.created
  case findUe =>
    exact hremoves.findUe
  case supiIndex =>
    exact hremoves.supiIndex
  case findRanUe =>
    exact hremoves.findRanUe
  case tmsis =>
    exact hremoves.tmsis
  case tmsis_kept =>
    exact hremoves.tmsis_kept
  case ngapIds =>
    exact hremoves.ngapIds
  case registry =>
    unfold State.openNode
    rw [hfresh, hnextId]
    exact congrArg (fun registry : Registry =>
      { registry with
        nodes := registry.nodes.insert state.registry.nextNodeId state.entities.nodes.fresh
        connectionIndex :=
          registry.connectionIndex.insert connection.association state.registry.nextNodeId
        nextNodeId := state.registry.nextNodeId + 1 })
      hremoves.registry

theorem held_openNode {state : State} (hnumbered : state.WellNumbered) {node : Ref RadioNode}
    (hregistered : state.NodeRegistered node) (connection : Connection) :
    (state.openNode connection).held node = state.held node := by
  unfold held findRanUeByKey
  rw [node_openNode, if_neg (hnumbered.node_ne_fresh hregistered)]

/-! ## What is spared -/

section

variable {state next : State} {node : Ref RadioNode} (hsound : state.Sound)

include hsound

theorem Removes.spares (hremoves : state.Removes next ∅ (state.held node))
    (hsame : state.SameUes next) : state.Spares next node where
  sameUes := hsame
  ranUe := hremoves.ranUe_kept
  pool {ref} hmem ngapId := by
    rw [hremoves.findRanUe]
    exact and_iff_left hmem
  nodes {other} hne hregistered := by
    refine ⟨(hremoves.nodeRegistered_iff other).mpr hregistered, hremoves.node_eq ?_⟩
    rintro key ref hentry ⟨otherKey, hother⟩
    have hhome := (hsound.pool.held hentry).2.2.1
    have hhomeOther := (hsound.pool.held hother).2.2.1
    exact hne (Option.some.inj (hhome.symm.trans hhomeOther))

theorem Spares.closeNode (hspares : state.Spares next node) (hid : (next.node node).id =
    (state.node node).id) (connectionIndex : Table Nat Nat) :
    state.Spares (next.closeNode node connectionIndex) node where
  sameUes := hspares.sameUes.trans ⟨fun _ => rfl, fun _ => rfl, fun _ => rfl, rfl, rfl⟩
  ranUe := hspares.ranUe
  pool := hspares.pool
  nodes {other} hne hregistered := by
    obtain ⟨hkept, hsame⟩ := hspares.nodes hne hregistered
    refine ⟨?_, hsame⟩
    rw [NodeRegistered, findNode_closeNode, if_neg]
    · exact hkept
    · intro heq
      have hids : (state.node node).id = (state.node other).id := by
        rw [← hid, ← hsame]
        exact heq
      exact hne (hsound.node_eq_of_id hregistered hids).symm

theorem Spares.of_openNode {connection : Connection} (hregistered : state.NodeRegistered node)
    (hspares : (state.openNode connection).Spares next node) : state.Spares next node := by
  have hkept {other : Ref RadioNode} (hother : state.NodeRegistered other) :
      (state.openNode connection).node other = state.node other := by
    rw [node_openNode, if_neg (hsound.node_ne_fresh hother)]
  have hheld := held_openNode hsound.toWellNumbered hregistered connection
  constructor
  · exact (state.sameUes_openNode connection).trans hspares.sameUes
  · intro ref hmem
    exact hspares.ranUe (hheld ▸ hmem)
  · intro ref hmem
    exact hspares.pool (hheld ▸ hmem)
  · intro other hne hother
    have hopened : (state.openNode connection).NodeRegistered other := by
      rw [NodeRegistered, hkept hother, findNode_openNode,
        if_neg (Nat.ne_of_gt (hsound.findNode_lt hother))]
      exact hother
    obtain ⟨hregisteredNext, hsame⟩ := hspares.nodes hne hopened
    exact ⟨hregisteredNext, hsame.trans (hkept hother)⟩

/-- A radio node that has left the pool and is cleared out takes nothing else along. -/
theorem spares_clearOut_closeNode (node : Ref RadioNode) (connectionIndex : Table Nat Nat) :
    state.Spares ((state.closeNode node connectionIndex).clearOut node
      (state.node node).ranUes.toList) node := by
  have hreleased := removes_releaseAll_collection hsound node (List.Perm.refl _)
  have hsame := (state.sameRoster_releaseAll
    ((state.node node).ranUes.toList.map Prod.snd)).sameUes
  rw [clearOut_closeNode_collection hsound node connectionIndex (List.Perm.refl _)]
  exact (hreleased.spares hsound hsame).closeNode hsound (hreleased.node_id node) connectionIndex

end

/-! ## All ways lead to the same state -/

section

variable {state removed : State} {node : Ref RadioNode} (hsound : state.Sound)
  (htmsis : state.registry.tmsis.Valid) (hremoved : state.Removes removed ∅ (state.held node))
  {entries : List (Int × Ref RanUe)} (hperm : entries.Perm (state.node node).ranUes.toList)

include hsound htmsis hremoved hperm

theorem Removes.equal_clearOut : removed.EqualUpToNgapIds (state.clearOut node entries) :=
  hremoved.equalUpToNgapIds hsound htmsis (removes_clearOut_collection hsound node hperm)

theorem Removes.equal_closeNode (connectionIndex : Table Nat Nat) :
    (removed.closeNode node connectionIndex).EqualUpToNgapIds
      ((state.closeNode node connectionIndex).clearOut node entries) := by
  have hreleased := hremoved.equalUpToNgapIds hsound htmsis
    (removes_releaseAll_collection hsound node hperm)
  rw [clearOut_closeNode_collection hsound node connectionIndex hperm]
  exact hreleased.closeNode node connectionIndex

end

end State

namespace World

open State

/-! ## The calls -/

/-- Removing a registered RAN UE succeeds. -/
theorem removeRanUe_registered {world : World} (hsound : world.state.Sound) {ref : Ref RanUe}
    (hregistered : world.state.RanUeRegistered ref) :
    ∃ done, world.removeRanUe ref = (.ok (), done) ∧ done.state = world.state.release ref := by
  rcases world.removeRanUe_cases ref with ⟨hgone, -⟩ | ⟨-, hdone⟩
  · obtain ⟨node, hnode, -⟩ := hsound.pool.bound hregistered (by simp)
    rcases hgone with hremoved | hlost
    · rw [(hsound.pool.live ref).mpr hregistered] at hremoved
      simp at hremoved
    · rw [hlost] at hnode
      simp at hnode
  · exact hdone

/-- Registered RAN UEs are removed one after another, and every call succeeds. -/
theorem run_removeRanUes {world : World} (hsound : world.state.Sound) {refs : List (Ref RanUe)}
    (hregistered : ∀ ref ∈ refs, world.state.RanUeRegistered ref) (hnodup : refs.Nodup) :
    (world.run (refs.map .removeRanUe)).state = world.state.releaseAll refs ∧
      ∀ before ref after, refs = before ++ ref :: after →
        ((world.run (before.map .removeRanUe)).removeRanUe ref).1 = .ok () := by
  induction refs generalizing world with
  | nil => exact ⟨rfl, fun before ref after hsplit => absurd hsplit (by simp)⟩
  | cons head rest ih =>
      rw [List.nodup_cons] at hnodup
      have hfound := hregistered head (List.mem_cons_self ..)
      obtain ⟨done, hcall, hstate⟩ := removeRanUe_registered hsound hfound
      have hperform : (world.perform (.removeRanUe head)).state = world.state.release head := by
        rw [perform, hcall, hstate]
      have hrelease : Step Operation.Any world.state (world.state.release head) :=
        Step.release ((hsound.pool.live head).mpr hfound)
      have hremoves := removes_release hsound hfound
      rw [← hperform] at hremoves hrelease
      obtain ⟨hreleased, hok⟩ := ih (hsound.step hrelease) (fun ref hmem =>
        (hremoves.ranUeRegistered_iff ref).mpr ⟨hregistered ref (List.mem_cons_of_mem _ hmem),
          fun heq => hnodup.1 (heq ▸ hmem)⟩) hnodup.2
      constructor
      · rw [List.map_cons, run_cons, hreleased, hperform]
        rfl
      · intro before ref after hsplit
        cases before with
        | nil =>
            rw [List.nil_append, List.cons.injEq] at hsplit
            rw [← hsplit.1, List.map_nil, run_nil, hcall]
        | cons first before =>
            rw [List.cons_append, List.cons.injEq] at hsplit
            rw [← hsplit.1, List.map_cons, run_cons]
            exact hok before ref after hsplit.2

/-- The RAN UEs of a radio node are removed one by one, in any order. -/
theorem removes_individually {world : World} (hsound : world.state.Sound) {node : Ref RadioNode}
    {order : List (Ref RanUe)} (horder : order.Perm (world.state.node node).ranUes.values) :
    world.state.Removes (world.run (order.map .removeRanUe)).state ∅ (world.state.held node) ∧
      ∀ before ref after, order = before ++ ref :: after →
        ((world.run (before.map .removeRanUe)).removeRanUe ref).1 = .ok () := by
  have hmem (ref : Ref RanUe) : ref ∈ order ↔ ref ∈ world.state.held node := by
    rw [horder.mem_iff, Table.mem_values]
    rfl
  have hfound (ref : Ref RanUe) (hlisted : ref ∈ order) : world.state.RanUeRegistered ref :=
    held_registered hsound node ((hmem ref).mp hlisted)
  have hnodup : order.Nodup := by
    rw [horder.nodup_iff, Table.values_eq]
    exact hsound.nodup_collection node
  have hset : {ref | ref ∈ order} = world.state.held node := Set.ext hmem
  obtain ⟨hreleased, hok⟩ := run_removeRanUes hsound hfound hnodup
  rw [hreleased, ← hset]
  exact ⟨removes_releaseAll hsound hfound hnodup, hok⟩

section

variable {world : World} (hsound : world.state.Sound) (hfiled : world.state.NodesFiled)
  {node : Ref RadioNode} (hregistered : world.state.NodeRegistered node)

include hsound hfiled hregistered

/-- The removal of a registered radio node by its connection succeeds, and clears it out when it has
left the pool and the index. -/
theorem removeNode_registered :
    ∃ done, world.removeNode (world.state.node node).connection = (.ok node, done) ∧
      done.state =
        (world.state.closeNode node (world.state.registry.connectionIndex.erase
          (world.state.node node).connection.association)).clearOut node
            (world.state.node node).ranUes.toList := by
  have hfound := hfiled.findNodeByConnection hregistered
  obtain ⟨-, hindex⟩ := hfiled node hregistered
  rcases world.removeNode_cases hsound.toWellNumbered (world.state.node node).connection with
    ⟨hnone, -⟩ | ⟨ref, done, hfind, hcall, hstate⟩
  · rw [hfound] at hnone
    simp at hnone
  · rw [hfound, Option.some.injEq] at hfind
    subst hfind
    rw [Table.eraseIf_of_pass hindex (by simp)] at hstate
    exact ⟨done, hcall, hstate⟩

/-- A new radio node on the connection of a registered one is opened, and the other one is cleared
out when it has left the pool. -/
theorem newNode_registered :
    ∃ done, world.newNode (world.state.node node).connection =
        (.ok world.state.entities.nodes.fresh, done) ∧
      let opened := world.state.openNode (world.state.node node).connection
      done.state = (opened.closeNode node opened.registry.connectionIndex).clearOut node
        (opened.node node).ranUes.toList := by
  obtain ⟨hvalid, hindex⟩ := hfiled node hregistered
  have hopened : (world.state.openNode (world.state.node node).connection).findNode
      (world.state.node node).id = some node := by
    rw [findNode_openNode, if_neg (Nat.ne_of_gt (hsound.findNode_lt hregistered))]
    exact hregistered
  rcases world.newNode_cases (world.state.node node).connection with
    ⟨hfree, -⟩ | ⟨done, hcall, ⟨hgone, -⟩ | ⟨oldId, old, hindexed, hfind, hstate⟩⟩
  · rw [hfree hvalid] at hindex
    simp at hindex
  · rw [hgone _ hindex] at hopened
    simp at hopened
  · rw [hindex, Option.some.injEq] at hindexed
    rw [← hindexed, hopened, Option.some.injEq] at hfind
    subst hfind
    refine ⟨done, hcall, ?_⟩
    have hid : ((world.state.openNode (world.state.node node).connection).node node).id =
        oldId := by
      rw [node_openNode, if_neg (hsound.node_ne_fresh hregistered)]
      exact hindexed
    rw [hstate, ← hid]
    rfl

end

/-- The RAN UEs of a registered radio node can be removed one by one in any order.  Their removal
at once, the removal of the radio node and a new radio node on the same connection end in the same
state but for the radio node itself and the queue of AMF UE NGAP ids. -/
theorem run_teardown (config : Config) (operations : List Operation) {node : Ref RadioNode}
    (hregistered : ((opened config).run operations).state.NodeRegistered node) :
    let world := (opened config).run operations
    let state := world.state
    let connection := (state.node node).connection
    let reopened := state.openNode connection
    let forgotten := state.registry.connectionIndex.erase connection.association
    ∀ order : List (Ref RanUe), order.Perm (state.node node).ranUes.values →
      let removed := (world.run (order.map .removeRanUe)).state
      let closed := removed.closeNode node forgotten
      let replaced :=
        (removed.openNode connection).closeNode node reopened.registry.connectionIndex
      (∀ before ref after, order = before ++ ref :: after →
        ((world.run (before.map .removeRanUe)).removeRanUe ref).1 = .ok ()) ∧
      (removed.EqualUpToNgapIds (world.removeAllRanUes node false).state ∧
        state.Spares (world.removeAllRanUes node false).state node) ∧
      (∃ done, world.removeNode connection = (.ok node, done) ∧
        closed.EqualUpToNgapIds done.state ∧ state.Spares done.state node) ∧
      (∃ done, world.newNode connection = (.ok state.entities.nodes.fresh, done) ∧
        replaced.EqualUpToNgapIds done.state ∧ state.Spares done.state node) ∧
      ∀ entries : List (Int × Ref RanUe), entries.Perm (state.node node).ranUes.toList →
        removed.EqualUpToNgapIds (world.dropRanUes node false entries).state ∧
        closed.EqualUpToNgapIds
          ((world.modify (·.closeNode node forgotten)).dropRanUes node false entries).state ∧
        replaced.EqualUpToNgapIds
          ((world.modify fun _ => reopened.closeNode node
            reopened.registry.connectionIndex).dropRanUes node false entries).state := by
  intro world state connection reopened forgotten order horder removed closed replaced
  have hsound : state.Sound := run_sound config operations
  have htmsis : state.registry.tmsis.Valid := (run_tmsis_bounded config operations).toValid
  have hfiled : state.NodesFiled := run_nodesFiled config operations
  have hopen : Step Operation.Any state reopened := Step.openNode connection
  have hsoundOpen : reopened.Sound := hsound.step hopen
  obtain ⟨hremoved, hok⟩ : state.Removes removed ∅ (state.held node) ∧ _ :=
    removes_individually hsound horder
  have hreopened : reopened.Removes (removed.openNode connection) ∅ (reopened.held node) := by
    rw [held_openNode hsound.toWellNumbered hregistered]
    exact hremoved.openNode connection
  have hcollection : (reopened.node node).ranUes = (state.node node).ranUes := by
    rw [node_openNode, if_neg (hsound.node_ne_fresh hregistered)]
  refine ⟨hok, ⟨?_, ?_⟩, ?_, ?_, ?_⟩
  · rw [state_removeAllRanUes]
    exact hremoved.equal_clearOut hsound htmsis (List.Perm.refl _)
  · rw [state_removeAllRanUes]
    exact (removes_clearOut_collection hsound node (List.Perm.refl _)).spares hsound
      (state.sameRoster_clearOut ..).sameUes
  · obtain ⟨done, hcall, hstate⟩ := removeNode_registered hsound hfiled hregistered
    refine ⟨done, hcall, ?_, ?_⟩
    · rw [hstate]
      exact hremoved.equal_closeNode hsound htmsis (List.Perm.refl _) forgotten
    · rw [hstate]
      exact spares_clearOut_closeNode hsound node forgotten
  · obtain ⟨done, hcall, hstate⟩ := newNode_registered hsound hfiled hregistered
    refine ⟨done, hcall, ?_, ?_⟩
    · rw [hstate]
      exact hreopened.equal_closeNode hsoundOpen htmsis (List.Perm.refl _) _
    · rw [hstate]
      exact (spares_clearOut_closeNode hsoundOpen node _).of_openNode hsound hregistered
  · intro entries hperm
    have hpermOpen : entries.Perm (reopened.node node).ranUes.toList := by
      rw [hcollection]
      exact hperm
    rw [state_dropRanUes, state_dropRanUes, state_dropRanUes]
    exact ⟨hremoved.equal_clearOut hsound htmsis hperm,
      hremoved.equal_closeNode hsound htmsis hperm forgotten,
      hreopened.equal_closeNode hsoundOpen htmsis hpermOpen _⟩

/-- A radio node that handed a RAN UE over is torn down: the UE of one that stayed remains
registered, and the RAN UE that left is as it was. -/
theorem teardown_after_handover :
    let operations : List Operation :=
      [.newUe "imsi-001010000000001", .newUe "imsi-001010000000002", .newNode ⟨1⟩, .newNode ⟨2⟩,
        .newRanUe ⟨0⟩ 1, .newRanUe ⟨0⟩ 2, .newRanUe ⟨0⟩ 3, .attach ⟨0⟩ ⟨0⟩, .attach ⟨1⟩ ⟨2⟩,
        .switchNode ⟨2⟩ ⟨1⟩ 7]
    let world := (opened Config.standard).run operations
    let order : List (Ref RanUe) := [⟨1⟩, ⟨0⟩]
    let removed := (world.run (order.map .removeRanUe)).state
    world.state.NodeRegistered ⟨0⟩ ∧ order.Perm (world.state.node ⟨0⟩).ranUes.values ∧
      (world.removeRanUe ⟨1⟩).1 = .ok () ∧
      removed.EqualUpToNgapIds (world.removeAllRanUes ⟨0⟩ false).state ∧
      ∃ done, world.removeNode ⟨1⟩ = (.ok ⟨0⟩, done) ∧ done.state.UeRegistered ⟨0⟩ ∧
        done.state.findRanUe 3 = some ⟨2⟩ ∧ done.state.ranUe ⟨2⟩ = world.state.ranUe ⟨2⟩ := by
  intro operations world order removed
  have hregistered : world.state.NodeRegistered ⟨0⟩ := by decide +kernel
  have hvalues : (world.state.node ⟨0⟩).ranUes.values = [⟨0⟩, ⟨1⟩] := by decide +kernel
  have horder : order.Perm (world.state.node ⟨0⟩).ranUes.values := by
    rw [hvalues]
    exact List.Perm.swap ..
  obtain ⟨hok, ⟨hbulk, -⟩, ⟨done, hcall, -, hspares⟩, -⟩ :=
    run_teardown Config.standard operations hregistered order horder
  have hconnection : (world.state.node ⟨0⟩).connection = ⟨1⟩ := by decide +kernel
  rw [hconnection] at hcall
  have hfound : world.state.findRanUe 3 = some ⟨2⟩ := by decide +kernel
  have hue : world.state.UeRegistered ⟨0⟩ := by decide +kernel
  have hleft : (⟨2⟩ : Ref RanUe) ∉ world.state.held ⟨0⟩ := by
    intro hmem
    have hlisted := Table.mem_values.mpr hmem
    rw [hvalues] at hlisted
    simp at hlisted
  have hsucceeds := hok [] ⟨1⟩ [⟨0⟩] rfl
  rw [List.map_nil, run_nil] at hsucceeds
  have hkept : done.state.UeRegistered ⟨0⟩ := (hspares.sameUes.ueRegistered_iff ⟨0⟩).mpr hue
  have hstays : done.state.findRanUe 3 = some ⟨2⟩ := (hspares.pool hleft 3).mpr hfound
  have hsame : done.state.ranUe ⟨2⟩ = world.state.ranUe ⟨2⟩ := hspares.ranUe hleft
  exact ⟨hregistered, horder, hsucceeds, hbulk, done, hcall, hkept, hstays, hsame⟩

end World

end AccessMobility
