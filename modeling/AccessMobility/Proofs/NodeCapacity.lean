import AccessMobility.Proofs.RunSoundness
import Mathlib.Data.List.Induction

/-!
# How many RAN UEs a radio node holds

Every radio node is opened with a limit on its RAN UEs.  A radio node that is full refuses a new RAN
UE, unless this takes over a key in use.  A handover does not look at the limit.  This file shows
that nothing else carries a radio node past it: along a run a radio node stays within its limit
exactly if no RAN UE of another radio node is handed over to it, under a key that is free, while it
is full.
-/

namespace AccessMobility

namespace State

/-- A radio node holds at most as many RAN UEs as its limit says. -/
def WithinLimit (state : State) (node : Ref RadioNode) : Prop :=
  (state.node node).ranUes.size ≤ (state.node node).limit

end State

/-- A live RAN UE of another radio node is handed over to a radio node that is full, under a key
that is free there. -/
def Operation.Overfills (state : State) (node : Ref RadioNode) : Operation → Prop
  | .switchNode ranUe target key =>
    target = node ∧ state.NodeRegistered node ∧ (state.ranUe ranUe).removed = false ∧
      (state.ranUe ranUe).nodeId ≠ (state.node node).id ∧
      state.findRanUeByKey node key = none ∧
      (state.node node).limit ≤ (state.node node).ranUes.size
  | _ => False

namespace State

/-! ## What keeps a radio node within its limit -/

section

variable {state : State} {node : Ref RadioNode}

theorem WithinLimit.congr {next : State} (hwithin : state.WithinLimit node)
    (hnode : next.node node = state.node node) : next.WithinLimit node := by
  rw [WithinLimit, hnode]
  exact hwithin

theorem WithinLimit.release (hwithin : state.WithinLimit node) (ref : Ref RanUe) :
    (state.release ref).WithinLimit node := by
  rw [WithinLimit, node_release]
  split
  · exact Nat.le_trans (Table.size_eraseIf_le ..) hwithin
  · exact hwithin

theorem WithinLimit.evict (hwithin : state.WithinLimit node) (displaced : Option (Ref RanUe)) :
    (state.evict displaced).WithinLimit node := by
  cases displaced with
  | none => exact hwithin
  | some ref =>
      rw [State.evict]
      split
      · exact hwithin
      · exact hwithin.release ref

/-- A key in use is taken over without another entry, and a new key is granted only where there is
room. -/
theorem WithinLimit.enlist (hwithin : state.WithinLimit node) {nodeRef : Ref RadioNode} {key : Int}
    (hroom : state.HasRoom nodeRef key) (ngapId : Nat) (pool : IdPool) :
    (state.enlist nodeRef key ngapId pool).WithinLimit node := by
  rw [WithinLimit, node_enlist]
  by_cases hnode : nodeRef = node
  · subst hnode
    rw [if_pos rfl]
    dsimp only
    cases hkey : state.findRanUeByKey nodeRef key with
    | none =>
        rw [Table.size_insert_free hkey]
        exact hroom hkey
    | some old =>
        rw [Table.size_insert_used hkey]
        exact hwithin
  · rw [if_neg hnode]
    exact hwithin

/-- Rehoming takes the new key first and leaves the old one last, so the old entry can only make the
collection smaller. -/
theorem size_rehome_le (ref : Ref RanUe) (source target : Ref RadioNode) (key : Int) :
    ((state.rehome ref source target key).node target).ranUes.size ≤
      ((state.node target).ranUes.insert key ref).size := by
  rw [node_rehome]
  dsimp only
  rw [if_pos rfl]
  split
  · exact Table.size_eraseIf_le ..
  · exact Nat.le_refl _

/-- A RAN UE that gets a new key of the radio node it is on gives up its old one. -/
theorem size_rehome_self {ref : Ref RanUe} {key : Int}
    (hfree : state.findRanUeByKey node key = none)
    (hheld : state.findRanUeByKey node (state.ranUe ref).key = some ref) :
    ((state.rehome ref node node key).node node).ranUes.size = (state.node node).ranUes.size := by
  have hne : (state.ranUe ref).key ≠ key := by
    intro heq
    rw [heq, hfree] at hheld
    cases hheld
  have hkept : ((state.node node).ranUes.insert key ref)[(state.ranUe ref).key]? = some ref := by
    rw [Table.lookup_insert, if_neg (Ne.symm hne)]
    exact hheld
  rw [node_rehome, if_pos ⟨Or.inr hne, rfl⟩, if_pos rfl]
  dsimp only
  rw [Table.eraseIf_of_pass hkept (by simp), Table.size_erase_used hkept,
    Table.size_insert_free hfree, Nat.add_sub_cancel]

theorem size_rehome_other {ref : Ref RanUe} {source : Ref RadioNode} {key : Int}
    (hsource : source ≠ node) (hfree : state.findRanUeByKey node key = none) :
    ((state.rehome ref source node key).node node).ranUes.size =
      (state.node node).ranUes.size + 1 := by
  rw [node_rehome, if_neg (fun hmoved => hsource hmoved.2), if_pos rfl]
  exact Table.size_insert_free hfree _

theorem WithinLimit.rehome (hwithin : state.WithinLimit node) (hsound : state.Sound)
    {ref : Ref RanUe} {source target : Ref RadioNode} {key : Int}
    (hallowed : ¬ (Operation.switchNode ref target key).Overfills state node)
    (hlive : (state.ranUe ref).removed = false)
    (hsource : state.findNode (state.ranUe ref).nodeId = some source)
    (htarget : state.NodeRegistered target) :
    (state.rehome ref source target key).WithinLimit node := by
  have hlimit := (state.sameNumbers_rehome ref source target key).node_limit node
  rw [WithinLimit, hlimit]
  by_cases hnode : target = node
  · subst hnode
    cases hkey : state.findRanUeByKey target key with
    | some old =>
        have hsize := state.size_rehome_le ref source target key
        rw [Table.size_insert_used hkey] at hsize
        exact Nat.le_trans hsize hwithin
    | none =>
        by_cases hhome : (state.ranUe ref).nodeId = (state.node target).id
        · have hsame : source = target := by
            rw [hhome] at hsource
            exact Option.some.inj (hsource.symm.trans htarget)
          subst hsame
          obtain ⟨found, hfound, hheld⟩ :=
            hsound.pool.bound ((hsound.pool.live ref).mp hlive) (by simp)
          rw [hsource, Option.some.injEq] at hfound
          subst hfound
          rw [size_rehome_self hkey hheld]
          exact hwithin
        · have hroom : (state.node target).ranUes.size < (state.node target).limit := by
            by_contra hfull
            exact hallowed ⟨rfl, htarget, hlive, hhome, hkey, Nat.le_of_not_lt hfull⟩
          have hsize := state.size_rehome_le ref source target key
          rw [Table.size_insert_free hkey] at hsize
          exact Nat.le_trans hsize hroom
  · rw [node_rehome, if_neg hnode]
    split
    · exact Nat.le_trans (Table.size_eraseIf_le ..) hwithin
    · exact hwithin

theorem ranUes_setAccess (other : Ref RadioNode) (access : AccessType) :
    ((state.modifyNode other ({ · with access })).node node).ranUes =
      (state.node node).ranUes := by
  rw [modifyNode, node_setNode]
  split
  next heq => rw [heq]
  next => rfl

/-- A step that overfills no radio node keeps each of them within its limit. -/
theorem WithinLimit.step (hwithin : state.WithinLimit node) (hsound : state.Sound) {next : State}
    (hstep : Step (fun state operation => ¬ operation.Overfills state node) state next) :
    next.WithinLimit node := by
  cases hstep with
  | describe hsame =>
      rw [WithinLimit, hsame.node_ranUes, hsame.node_limit]
      exact hwithin
  | attach _ _ _ => exact hwithin.congr (by rw [node_attach])
  | detach ue access => exact hwithin.congr (by rw [node_detach])
  | release _ => exact hwithin.release _
  | enlist key _ hroom _ => exact (hwithin.enlist hroom ..).evict _
  | rehome hallowed hlive hsource htarget =>
      exact (hwithin.rehome hsound hallowed hlive hsource htarget).evict _
  | enrol supi tmsi guti => exact hwithin
  | retire _ _ => exact hwithin
  | openNode connection =>
      rw [WithinLimit, node_openNode]
      split
      · exact Nat.zero_le _
      · exact hwithin
  | closeNode _ _ _ => exact hwithin
  | @setAccess other access _ =>
      rw [WithinLimit, ranUes_setAccess, (state.sameNumbers_setAccess other access).node_limit]
      exact hwithin

end

end State

namespace World

open State

/-! ## What carries a radio node past its limit -/

/-- A handover that overfills a radio node is carried out, and nobody leaves the radio node for
it. -/
theorem not_withinLimit_of_overfills {world : World} (hsound : world.state.Sound)
    {node : Ref RadioNode} {operation : Operation}
    (hoverfills : operation.Overfills world.state node) :
    ¬ (world.perform operation).state.WithinLimit node := by
  cases operation with
  | switchNode ref target key =>
      obtain ⟨rfl, htarget, hlive, hhome, hfree, hfull⟩ := hoverfills
      rcases world.switchNode_cases ref target key with
        ⟨hreason, -⟩ | ⟨source, done, -, hsource, -, hcall, hstate⟩
      · obtain ⟨found, hfound, -⟩ :=
          hsound.pool.bound ((hsound.pool.live ref).mp hlive) (by simp)
        simp [hlive, hfound, htarget] at hreason
      · have hne : source ≠ target := by
          intro heq
          subst heq
          exact hhome (hsound.node_id hsource).symm
        rw [hfree] at hstate
        simp only [perform, hcall, hstate, Option.filter_none, State.evict, WithinLimit,
          size_rehome_other hne hfree, (sameNumbers_rehome ..).node_limit]
        exact Nat.not_le_of_lt (Nat.lt_succ_of_le hfull)
  | _ => exact hoverfills.elim

/-- A radio node holds at most as many RAN UEs as its limit says in every state along a run,
exactly if no call overfills it.  Of the handovers only those from another radio node to a new key
of a full one do, and creations never do. -/
theorem run_within_limit_iff (config : Config) (operations : List Operation)
    (node : Ref RadioNode) :
    (∀ earlier, earlier <+: operations →
        ((opened config).run earlier).state.WithinLimit node) ↔
      (opened config).Obeys (fun state operation => ¬ operation.Overfills state node)
        operations := by
  constructor
  · intro hwithin
    induction operations using List.reverseRecOn with
    | nil => trivial
    | append_singleton before operation ih =>
        refine obeys_append.mpr ⟨ih ?_, ?_, trivial⟩
        · intro earlier hearlier
          exact hwithin earlier (hearlier.trans (List.prefix_append ..))
        · intro hoverfills
          have hlast := hwithin _ (List.prefix_refl _)
          rw [run_append] at hlast
          exact not_withinLimit_of_overfills (run_sound config before) hoverfills hlast
  · rintro hobeys earlier ⟨later, rfl⟩
    have hstart : (State.new config).WithinLimit node := by
      simp [WithinLimit, State.new, State.node, Store.get, default]
    exact (run_keeps (motive := fun state => state.WithinLimit node)
      (fun hsound hwithin hstep => hwithin.step hsound hstep) hstart
      (obeys_append.mp hobeys).1).2

/-- With one RAN UE to a radio node, a handover leaves two on one. -/
theorem switchNode_exceeds_limit :
    let config := { Config.standard with limits := ⟨64, 1024, 1⟩ }
    let operations : List Operation :=
      [.newNode ⟨1⟩, .newNode ⟨2⟩, .newRanUe ⟨0⟩ 1, .newRanUe ⟨1⟩ 1, .switchNode ⟨0⟩ ⟨1⟩ 2]
    let state := ((opened config).run operations).state
    config.validate = .ok () ∧ state.NodeRegistered ⟨1⟩ ∧
      (state.node ⟨1⟩).ranUes.size = 2 ∧ (state.node ⟨1⟩).limit = 1 ∧
      ¬ state.WithinLimit ⟨1⟩ := by
  intro config operations state
  have hsize : (state.node ⟨1⟩).ranUes.size = 2 := by decide +kernel
  have hlimit : (state.node ⟨1⟩).limit = 1 := by decide +kernel
  refine ⟨rfl, by decide +kernel, hsize, hlimit, ?_⟩
  rw [WithinLimit, hsize, hlimit]
  decide

end World

end AccessMobility
