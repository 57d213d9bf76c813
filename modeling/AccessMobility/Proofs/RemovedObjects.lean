import AccessMobility.Proofs.RunSoundness

/-!
# RAN UEs and radio nodes that are gone

AMF UE NGAP ids, RAN UE NGAP ids and connections are used again, so the handle of a RAN UE that
was removed, or of a radio node that left, may share everything but its identity with an object in
use.  This file shows that such a handle is inert for ever.  Three facts of single steps carry
this over whole runs: what is marked as removed stays marked, what is marked names no UE, and a
radio node that left the pool under its id never enters it again.
-/

namespace AccessMobility

namespace State

/-! ## What is gone stays away -/

/-- A RAN UE that was created and is marked as removed. -/
def RanUeGone (state : State) (ref : Ref RanUe) : Prop :=
  state.entities.ranUes.Holds ref ∧ (state.ranUe ref).removed = true

/-- A radio node that was created and is not registered. -/
def NodeGone (state : State) (node : Ref RadioNode) : Prop :=
  state.entities.nodes.Holds node ∧ ¬ state.NodeRegistered node

theorem removed_release {state : State} {ref : Ref RanUe}
    (hremoved : (state.ranUe ref).removed = true) (other : Ref RanUe) :
    ((state.release other).ranUe ref).removed = true := by
  rw [ranUe_release]
  split
  · rfl
  · exact hremoved

theorem removed_evict_of_removed {state : State} {ref : Ref RanUe}
    (hremoved : (state.ranUe ref).removed = true) (displaced : Option (Ref RanUe)) :
    ((state.evict displaced).ranUe ref).removed = true := by
  cases displaced with
  | none => exact hremoved
  | some other =>
      rw [evict]
      split
      · exact hremoved
      · exact removed_release hremoved other

/-- No step takes back the mark of a RAN UE. -/
theorem RanUeGone.removed_step {allowed : State → Operation → Prop} {state next : State}
    {ref : Ref RanUe} (hgone : state.RanUeGone ref) (hstep : Step allowed state next) :
    (next.ranUe ref).removed = true := by
  obtain ⟨hholds, hremoved⟩ := hgone
  cases hstep with
  | describe hsame => exact (hsame.ranUe_removed ref).trans hremoved
  | attach _ _ _ => exact ((state.samePool_attach ..).ranUe_removed ref).trans hremoved
  | detach ue access => exact ((state.samePool_detach ue access).ranUe_removed ref).trans hremoved
  | release _ => exact removed_release hremoved _
  | enlist key _ _ _ =>
      apply removed_evict_of_removed
      rw [ranUe_enlist_of_ne (Store.ne_fresh hholds)]
      exact hremoved
  | rehome _ _ _ _ =>
      apply removed_evict_of_removed
      rw [ranUe_rehome]
      split
      next heq => exact heq ▸ hremoved
      next => exact hremoved
  | enrol supi tmsi guti => exact hremoved
  | retire _ _ => exact hremoved
  | openNode connection => exact hremoved
  | closeNode _ _ _ => exact hremoved
  | setAccess _ => exact hremoved

theorem RanUeGone.step {allowed : State → Operation → Prop} {state next : State}
    {ref : Ref RanUe} (hgone : state.RanUeGone ref) (hstep : Step allowed state next) :
    next.RanUeGone ref :=
  ⟨Nat.lt_of_lt_of_le hgone.1 hstep.created_le.2.2, hgone.removed_step hstep⟩

/-- A pool id is given out once, so no other radio node brings one back. -/
theorem NodeGone.unregistered_step {allowed : State → Operation → Prop} {state next : State}
    (hnumbered : state.WellNumbered) {node : Ref RadioNode} (hgone : state.NodeGone node)
    (hstep : Step allowed state next) : ¬ next.NodeRegistered node := by
  obtain ⟨hholds, hunregistered⟩ := hgone
  cases hstep.renumbers with
  | same hsame =>
      rw [hsame.nodeRegistered_iff]
      exact hunregistered
  | enrol supi tmsi guti => exact hunregistered
  | retire _ => exact hunregistered
  | openNode connection =>
      rw [NodeRegistered, node_openNode, if_neg (Store.ne_fresh hholds), findNode_openNode,
        if_neg (Nat.ne_of_gt (hnumbered.node_lt node))]
      exact hunregistered
  | @closeNode other connectionIndex _ =>
      show (state.closeNode other connectionIndex).findNode (state.node node).id ≠ some node
      rw [findNode_closeNode]
      split
      · simp
      · exact hunregistered

theorem NodeGone.step {allowed : State → Operation → Prop} {state next : State}
    (hnumbered : state.WellNumbered) {node : Ref RadioNode} (hgone : state.NodeGone node)
    (hstep : Step allowed state next) : next.NodeGone node :=
  ⟨Nat.lt_of_lt_of_le hgone.1 hstep.created_le.2.1, hgone.unregistered_step hnumbered hstep⟩

/-! ## Only live RAN UEs name a UE -/

/-- A RAN UE that names a UE is not marked as removed. -/
def LinkedLive (state : State) : Prop :=
  ∀ ref id, (state.ranUe ref).ueId = some id → (state.ranUe ref).removed = false

theorem LinkedLive.unlinked {state : State} (hlinked : state.LinkedLive) {ref : Ref RanUe}
    (hremoved : (state.ranUe ref).removed = true) : (state.ranUe ref).ueId = none := by
  cases hueId : (state.ranUe ref).ueId with
  | none => rfl
  | some id =>
      rw [hlinked ref id hueId] at hremoved
      cases hremoved

theorem linkedLive_new (config : Config) : (State.new config).LinkedLive := by
  intro ref id hueId
  simp [State.new, State.ranUe, Store.get, default] at hueId

section

variable {state : State} (hlinked : state.LinkedLive)

include hlinked

theorem LinkedLive.release (ref : Ref RanUe) : (state.release ref).LinkedLive := by
  intro other id hueId
  rw [ranUe_release] at hueId ⊢
  split at hueId
  next => cases hueId
  next hne =>
    rw [if_neg hne]
    exact hlinked other id hueId

theorem LinkedLive.evict (displaced : Option (Ref RanUe)) :
    (state.evict displaced).LinkedLive := by
  cases displaced with
  | none => exact hlinked
  | some ref =>
      rw [State.evict]
      split
      · exact hlinked
      · exact hlinked.release ref

theorem LinkedLive.attach {ue : Ref Ue} {ranUe : Ref RanUe}
    (hlive : (state.ranUe ranUe).removed = false) (access : AccessType) :
    (state.attach ue ranUe access).LinkedLive := by
  intro ref id hueId
  rw [(state.samePool_attach ue ranUe access).ranUe_removed]
  obtain ⟨⟨heq, -⟩ | ⟨-, hbefore⟩, -⟩ := (state.ueId_attach ue ranUe ref access id).mp hueId
  · exact heq ▸ hlive
  · exact hlinked ref id hbefore

theorem LinkedLive.detach (ue : Ref Ue) (access : AccessType) :
    (state.detach ue access).LinkedLive := by
  intro ref id hueId
  rw [(state.samePool_detach ue access).ranUe_removed]
  exact hlinked ref id ((state.ueId_detach ue access ref id).mp hueId).1

theorem LinkedLive.enlist (node : Ref RadioNode) (key : Int) (ngapId : Nat) (pool : IdPool) :
    (state.enlist node key ngapId pool).LinkedLive := by
  intro ref id hueId
  rw [ranUe_enlist] at hueId ⊢
  split at hueId
  next => cases hueId
  next hne =>
    rw [if_neg hne]
    exact hlinked ref id hueId

theorem LinkedLive.rehome (ref : Ref RanUe) (source target : Ref RadioNode) (key : Int) :
    (state.rehome ref source target key).LinkedLive := by
  intro other id hueId
  rw [ranUe_rehome] at hueId ⊢
  split at hueId
  next heq =>
    rw [if_pos heq]
    exact hlinked ref id hueId
  next hne =>
    rw [if_neg hne]
    exact hlinked other id hueId

theorem LinkedLive.step {allowed : State → Operation → Prop} {next : State}
    (hstep : Step allowed state next) : next.LinkedLive := by
  cases hstep with
  | describe hsame =>
      intro ref id hueId
      rw [hsame.ranUe_ueId] at hueId
      rw [hsame.ranUe_removed]
      exact hlinked ref id hueId
  | attach _ hlive _ => exact hlinked.attach hlive _
  | detach ue access => exact hlinked.detach ue access
  | release _ => exact hlinked.release _
  | enlist key _ _ _ => exact (hlinked.enlist _ key _ _).evict _
  | rehome _ _ _ _ => exact (hlinked.rehome _ _ _ _).evict _
  | enrol supi tmsi guti => exact hlinked
  | retire _ _ => exact hlinked
  | openNode connection => exact hlinked
  | closeNode _ _ _ => exact hlinked
  | setAccess _ => exact hlinked

end

/-! ## Radio nodes out of the pool are empty -/

section

variable {state : State} (hsound : state.Sound) {node : Ref RadioNode}
  (hgone : ¬ state.NodeRegistered node)

include hsound hgone

theorem Sound.collection_empty : (state.node node).ranUes = ∅ := by
  apply Table.eq_empty
  intro key ref hentry
  obtain ⟨-, -, hhome, -⟩ := hsound.pool.held hentry
  exact hgone (hsound.nodeRegistered_of_find hhome)

theorem Sound.live_elsewhere {ref : Ref RanUe} (hlive : (state.ranUe ref).removed = false) :
    (state.ranUe ref).nodeId ≠ (state.node node).id := by
  intro hhome
  obtain ⟨found, hfound, -⟩ := hsound.pool.bound ((hsound.pool.live ref).mp hlive) (by simp)
  have heq := (hsound.node_unique hfound node).mp hhome.symm
  subst heq
  exact hgone (hsound.nodeRegistered_of_find hfound)

end

/-- Two states that differ at most in where one RAN UE was seen last. -/
structure OnlyLocated (state next : State) (ref : Ref RanUe) : Prop where
  registry : next.registry = state.registry
  created : next.created = state.created
  ues : next.ue = state.ue
  nodes : next.node = state.node
  others : ∀ other, other ≠ ref → next.ranUe other = state.ranUe other
  own : ∃ location tai, next.ranUe ref = { state.ranUe ref with location, tai }

theorem onlyLocated_setRanUe (state : State) (ref : Ref RanUe) (location : UserLocation)
    (tai : Tai) :
    state.OnlyLocated (state.setRanUe ref { state.ranUe ref with location, tai }) ref where
  registry := rfl
  created := rfl
  ues := rfl
  nodes := rfl
  others other hne := by rw [ranUe_setRanUe, if_neg (Ne.symm hne)]
  own := ⟨location, tai, by rw [ranUe_setRanUe, if_pos rfl]⟩

end State

namespace World

open State

/-! ## Inert handles -/

/-- A RAN UE is nowhere in the registry, is refused by every call that takes it, and a report about
it reaches nothing else. -/
structure InertRanUe (world : World) (ref : Ref RanUe) : Prop where
  removed : (world.state.ranUe ref).removed = true
  pool : ∀ ngapId, world.state.findRanUe ngapId ≠ some ref
  collection : ∀ node key, world.state.findRanUeByKey node key ≠ some ref
  ueId : (world.state.ranUe ref).ueId = none
  attach : ∀ ue, world.attach ue ref =
    (.error (.ranUeNotFound (world.state.ranUe ref).ngapId), world)
  remove : ∃ error refused, world.removeRanUe ref = (.error error, refused) ∧
    refused.state = world.state
  switch : ∀ target key, world.switchNode ref target key =
    (.error (.ranUeNotFound (world.state.ranUe ref).ngapId), world)
  located : ∀ report now,
    world.state.OnlyLocated (world.updateLocation ref report now).state ref

/-- A radio node is out of the pool, holds nothing, and takes nothing. -/
structure InertNode (world : World) (node : Ref RadioNode) : Prop where
  pool : ∀ id, world.state.findNode id ≠ some node
  collection : (world.state.node node).ranUes = ∅
  unbound : ∀ ref, (world.state.ranUe ref).removed = false →
    (world.state.ranUe ref).nodeId ≠ (world.state.node node).id
  newRanUe : ∀ key, ∃ refused, world.newRanUe node key =
    (.error (.nodeNotFound (world.state.node node).connection.text), refused) ∧
      refused.state = world.state
  switch : ∀ ref key, (world.state.ranUe ref).removed = false →
    world.switchNode ref node key =
      (.error (.nodeNotFound (world.state.node node).connection.text), world)
  removeAll : ∀ withUes, (world.removeAllRanUes node withUes).state = world.state

section

variable {world : World}

theorem onlyLocated_updateLocation {ref : Ref RanUe}
    (hunlinked : (world.state.ranUe ref).ueId = none) (report : Option LocationReport)
    (now : Instant) : world.state.OnlyLocated (world.updateLocation ref report now).state ref := by
  cases report with
  | none => exact ⟨rfl, rfl, rfl, rfl, fun _ _ => rfl, _, _, rfl⟩
  | some report =>
      have hunowned (location : UserLocation) (tai : Tai) :
          (world.state.setRanUe ref { world.state.ranUe ref with location, tai }).ueOfRanUe ref =
            none := by
        rw [ueOfRanUe, ranUe_setRanUe, if_pos rfl]
        dsimp only
        rw [hunlinked]
        rfl
      dsimp only [updateLocation]
      rw [state_note, state_modify, state_noteAll, hunowned]
      dsimp only
      rw [state_note, state_modify, state_noteAll]
      exact world.state.onlyLocated_setRanUe ref _ _

theorem inertRanUe (hsound : world.state.Sound) (hlinked : world.state.LinkedLive)
    {ref : Ref RanUe} (hremoved : (world.state.ranUe ref).removed = true) :
    world.InertRanUe ref := by
  have hunregistered : ¬ world.state.RanUeRegistered ref := by
    intro hregistered
    rw [(hsound.pool.live ref).mpr hregistered] at hremoved
    cases hremoved
  constructor
  case removed => exact hremoved
  case pool =>
    intro ngapId hfind
    exact hunregistered (hsound.pool.registered_of_find hfind)
  case collection =>
    intro node key hentry
    exact hunregistered (hsound.pool.held hentry).1
  case ueId => exact hlinked.unlinked hremoved
  case attach =>
    intro ue
    rw [World.attach, if_pos hremoved]
  case remove =>
    rcases world.removeRanUe_cases ref with ⟨-, hrefused⟩ | ⟨hlive, -⟩
    · exact hrefused
    · rw [hlive] at hremoved
      cases hremoved
  case switch =>
    intro target key
    rw [switchNode, if_pos hremoved]
  case located =>
    intro report now
    exact onlyLocated_updateLocation (hlinked.unlinked hremoved) report now

theorem inertNode (hsound : world.state.Sound) {node : Ref RadioNode}
    (hgone : ¬ world.state.NodeRegistered node) : world.InertNode node := by
  have hempty := hsound.collection_empty hgone
  constructor
  case pool =>
    intro id hfind
    exact hgone (hsound.nodeRegistered_of_find hfind)
  case collection => exact hempty
  case unbound =>
    intro ref hlive
    exact hsound.live_elsewhere hgone hlive
  case newRanUe =>
    intro key
    exact ⟨_, if_pos hgone, rfl⟩
  case switch =>
    intro ref key hlive
    obtain ⟨source, hsource, -⟩ :=
      hsound.pool.bound ((hsound.pool.live ref).mp hlive) (by simp)
    rw [switchNode, if_neg (by simp [hlive]), hsource]
    exact if_pos hgone
  case removeAll =>
    intro withUes
    obtain ⟨noted, hnoted, hdrops⟩ := world.removeAllRanUes_drops node withUes
    rw [hdrops, hempty, ← hnoted]
    rfl

end

/-! ## Along every run -/

theorem run_linkedLive (config : Config) (operations : List Operation) :
    ((opened config).run operations).state.LinkedLive :=
  (run_keeps (motive := LinkedLive) (fun _ hlinked hstep => hlinked.step hstep)
    (linkedLive_new config) (obeys_any (opened config) operations)).2

theorem ranUeGone_run {world : World} (hsound : world.state.Sound) {ref : Ref RanUe}
    (hgone : world.state.RanUeGone ref) (operations : List Operation) :
    (world.run operations).state.RanUeGone ref :=
  (keeps_run (motive := fun state => state.RanUeGone ref) (fun _ hgone hstep => hgone.step hstep)
    hsound hgone (obeys_any world operations)).2

theorem nodeGone_run {world : World} (hsound : world.state.Sound) {node : Ref RadioNode}
    (hgone : world.state.NodeGone node) (operations : List Operation) :
    (world.run operations).state.NodeGone node :=
  (keeps_run (motive := fun state => state.NodeGone node)
    (fun hsound hgone hstep => hgone.step hsound.toWellNumbered hstep)
    hsound hgone (obeys_any world operations)).2

/-- A RAN UE that was created and is out of the pool, whatever call removed it, and a radio node
that was opened and is out of the pool, because it was removed or replaced, are inert after every
continuation of the run, whatever takes over their ids, keys or connections. -/
theorem run_gone_inert (config : Config) (earlier later : List Operation) :
    let state := ((opened config).run earlier).state
    let world := (opened config).run (earlier ++ later)
    (∀ ref, state.entities.ranUes.Holds ref → ¬ state.RanUeRegistered ref →
      world.InertRanUe ref) ∧
    (∀ node, state.entities.nodes.Holds node → ¬ state.NodeRegistered node →
      world.InertNode node) := by
  intro state world
  have hsound : world.state.Sound := run_sound config _
  constructor
  · intro ref hholds hunregistered
    have hremoved : (state.ranUe ref).removed = true := by
      rw [← (run_sound config earlier).pool.live ref] at hunregistered
      simpa using hunregistered
    have hgone := ranUeGone_run (run_sound config earlier) ⟨hholds, hremoved⟩ later
    rw [← run_append] at hgone
    exact inertRanUe hsound (run_linkedLive config _) hgone.2
  · intro node hholds hunregistered
    have hgone := nodeGone_run (run_sound config earlier) ⟨hholds, hunregistered⟩ later
    rw [← run_append] at hgone
    exact inertNode hsound hgone.2

/-- A RAN UE goes with the UE it is attached to, its radio node is replaced, and a new RAN UE takes
over the AMF UE NGAP id and the key on the new radio node of the connection. -/
theorem gone_inert_reused :
    let config := { Config.standard with ngapIds := ⟨1, 1⟩ }
    let earlier : List Operation :=
      [.newNode ⟨1⟩, .newUe "imsi-001010000000001", .newRanUe ⟨0⟩ 5, .attach ⟨0⟩ ⟨0⟩,
        .removeUe ⟨0⟩, .newNode ⟨1⟩]
    let later : List Operation := [.newRanUe ⟨1⟩ 5]
    let world := (opened config).run (earlier ++ later)
    (world.InertRanUe ⟨0⟩ ∧ (world.state.ranUe ⟨0⟩).ngapId = 1 ∧ (world.state.ranUe ⟨0⟩).key = 5) ∧
      (world.InertNode ⟨0⟩ ∧ (world.state.node ⟨0⟩).connection = ⟨1⟩) ∧
      world.state.findRanUe 1 = some ⟨1⟩ ∧ world.state.findRanUeByKey ⟨1⟩ 5 = some ⟨1⟩ ∧
      world.state.findNodeByConnection ⟨1⟩ = some ⟨1⟩ := by
  intro config earlier later world
  have hranUe : ((opened config).run earlier).state.entities.ranUes.Holds ⟨0⟩ := by
    show 0 < ((opened config).run earlier).state.entities.ranUes.next
    decide +kernel
  have hnode : ((opened config).run earlier).state.entities.nodes.Holds ⟨0⟩ := by
    show 0 < ((opened config).run earlier).state.entities.nodes.next
    decide +kernel
  obtain ⟨hranUes, hnodes⟩ := run_gone_inert config earlier later
  exact ⟨⟨hranUes ⟨0⟩ hranUe (by decide +kernel), by decide +kernel, by decide +kernel⟩,
    ⟨hnodes ⟨0⟩ hnode (by decide +kernel), by decide +kernel⟩,
    by decide +kernel, by decide +kernel, by decide +kernel⟩

end World

end AccessMobility
