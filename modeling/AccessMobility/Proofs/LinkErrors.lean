import AccessMobility.Proofs.IndexAgreement
import AccessMobility.Proofs.RemovedObjects

/-!
# Errors of the calls on a link

A RAN UE is attached, handed over and removed.  Each of the three calls looks at the mark of the RAN
UE and at the radio node it is bound to, but not in the same order, and a RAN UE whose radio node is
missing is an error of its own.  Along every run a live RAN UE is bound to a registered radio node,
so the mark alone decides, and the missing radio node is reported only for a RAN UE that was removed
before.  In particular the removal of a UE never meets a RAN UE that cannot be removed: what it
would do then makes no difference to any run.
-/

namespace AccessMobility

namespace State

/-! ## The radio node a RAN UE was bound to last -/

/-- Every RAN UE that was created is bound to a radio node that was created. -/
def Homed (state : State) : Prop :=
  ∀ ref, state.entities.ranUes.Holds ref →
    ∃ node, state.entities.nodes.Holds node ∧ (state.node node).id = (state.ranUe ref).nodeId

theorem homed_new (config : Config) : (State.new config).Homed :=
  fun _ hholds => absurd hholds (Nat.not_lt_zero _)

section

variable {state : State} (hhomed : state.Homed)

include hhomed

theorem Homed.congr {next : State} (hsame : state.SameNumbers next)
    (hcreated : next.created.2.2 = state.created.2.2)
    (hnodeId : ∀ ref, (next.ranUe ref).nodeId = (state.ranUe ref).nodeId) : next.Homed := by
  intro ref hholds
  obtain ⟨node, hnode, hid⟩ := hhomed ref (Nat.lt_of_lt_of_eq hholds hcreated)
  refine ⟨node, Nat.lt_of_lt_of_eq hnode hsame.created_nodes.symm, ?_⟩
  rw [hsame.node_id, hnodeId, hid]

theorem Homed.release (ref : Ref RanUe) : (state.release ref).Homed := by
  apply hhomed.congr (state.sameNumbers_release ref)
  · rw [created_release]
  · intro other
    rw [ranUe_release]
    split
    next heq => exact heq ▸ rfl
    next => rfl

theorem Homed.evict (displaced : Option (Ref RanUe)) : (state.evict displaced).Homed := by
  cases displaced with
  | none => exact hhomed
  | some ref =>
      rw [State.evict]
      split
      · exact hhomed
      · exact hhomed.release ref

theorem Homed.enlist {node : Ref RadioNode} (hholds : state.entities.nodes.Holds node) (key : Int)
    (ngapId : Nat) (pool : IdPool) : (state.enlist node key ngapId pool).Homed := by
  have hsame := state.sameNumbers_enlist node key ngapId pool
  intro ref hcreated
  rw [ranUe_enlist]
  split
  next => exact ⟨node, hholds, hsame.node_id node⟩
  next hne =>
    obtain ⟨home, hhome, hid⟩ := hhomed ref (Store.holds_of_create hcreated hne)
    exact ⟨home, hhome, (hsame.node_id home).trans hid⟩

theorem Homed.rehome {target : Ref RadioNode} (hholds : state.entities.nodes.Holds target)
    (ref : Ref RanUe) (source : Ref RadioNode) (key : Int) :
    (state.rehome ref source target key).Homed := by
  have hsame := state.sameNumbers_rehome ref source target key
  have hcreated := state.created_rehome ref source target key
  simp only [created, Prod.mk.injEq] at hcreated
  obtain ⟨-, hnodes, hranUes⟩ := hcreated
  intro other hother
  rw [ranUe_rehome]
  split
  next => exact ⟨target, Nat.lt_of_lt_of_eq hholds hnodes.symm, hsame.node_id target⟩
  next =>
    obtain ⟨home, hhome, hid⟩ := hhomed other (Nat.lt_of_lt_of_eq hother hranUes)
    exact ⟨home, Nat.lt_of_lt_of_eq hhome hnodes.symm, (hsame.node_id home).trans hid⟩

theorem Homed.openNode (connection : Connection) : (state.openNode connection).Homed := by
  intro ref hholds
  obtain ⟨home, hhome, hid⟩ := hhomed ref hholds
  refine ⟨home, Nat.lt_succ_of_lt hhome, ?_⟩
  rw [node_openNode, if_neg (Store.ne_fresh hhome)]
  exact hid

theorem Homed.step {allowed : State → Operation → Prop} {next : State}
    (hnumbered : state.WellNumbered) (hstep : Step allowed state next) : next.Homed := by
  cases hstep with
  | describe hsame =>
      exact hhomed.congr hsame.toSameNumbers hsame.created_ranUes hsame.ranUe_nodeId
  | attach _ _ _ =>
      exact hhomed.congr (state.sameNumbers_attach ..) (state.samePool_attach ..).created_ranUes
        (state.samePool_attach ..).ranUe_nodeId
  | detach ue access =>
      exact hhomed.congr (state.sameNumbers_detach ..) (state.samePool_detach ..).created_ranUes
        (state.samePool_detach ..).ranUe_nodeId
  | release _ => exact hhomed.release _
  | enlist key hregistered _ _ =>
      exact (hhomed.enlist (hnumbered.node_created hregistered) key _ _).evict _
  | rehome _ _ _ htarget =>
      exact (hhomed.rehome (hnumbered.node_created htarget) _ _ _).evict _
  | enrol supi tmsi guti => exact hhomed
  | retire _ _ => exact hhomed
  | openNode connection => exact hhomed.openNode connection
  | closeNode _ _ _ => exact hhomed
  | setAccess _ => exact hhomed.congr (state.sameNumbers_setAccess ..) rfl (fun _ => rfl)

end

/-- The radio node that a RAN UE is bound to or, once it is removed, was bound to last. -/
def LastNode (state : State) (ranUe : Ref RanUe) (node : Ref RadioNode) : Prop :=
  state.entities.nodes.Holds node ∧ (state.node node).id = (state.ranUe ranUe).nodeId

theorem existsUnique_lastNode {state : State} (hhomed : state.Homed)
    (hordered : state.NumberedInOrder) {ranUe : Ref RanUe}
    (hholds : state.entities.ranUes.Holds ranUe) : ∃! node, state.LastNode ranUe node := by
  obtain ⟨node, hnode, hid⟩ := hhomed ranUe hholds
  refine ⟨node, ⟨hnode, hid⟩, ?_⟩
  rintro other ⟨hother, hidOther⟩
  rw [← hid, hordered.node_id hother, hordered.node_id hnode] at hidOther
  exact congrArg Ref.mk (Nat.succ.inj hidOther)

theorem WellNumbered.nodeRegistered_iff_of_lastNode {state : State}
    (hnumbered : state.WellNumbered) {ranUe : Ref RanUe} {node : Ref RadioNode}
    (hlast : state.LastNode ranUe node) :
    state.NodeRegistered node ↔ (state.findNode (state.ranUe ranUe).nodeId).isSome := by
  obtain ⟨-, hid⟩ := hlast
  rw [NodeRegistered, hid]
  cases hfind : state.findNode (state.ranUe ranUe).nodeId with
  | none => simp
  | some found =>
      have heq := (hnumbered.node_unique hfind node).mp hid
      simp [heq]

theorem Sound.home_of_live {state : State} (hsound : state.Sound) {ref : Ref RanUe}
    (hlive : (state.ranUe ref).removed = false) :
    ∃ node, state.findNode (state.ranUe ref).nodeId = some node := by
  obtain ⟨node, hnode, -⟩ := hsound.pool.bound ((hsound.pool.live ref).mp hlive) (by simp)
  exact ⟨node, hnode⟩

end State

namespace World

open State

/-! ## The answers -/

section

variable {world : World} (hsound : world.state.Sound)

include hsound

theorem attach_answer (ue : Ref Ue) (ranUe : Ref RanUe) :
    (world.attach ue ranUe).1 =
      if (world.state.ranUe ranUe).removed then
        .error (.ranUeNotFound (world.state.ranUe ranUe).ngapId)
      else .ok () := by
  by_cases hremoved : (world.state.ranUe ranUe).removed = true
  · rw [if_pos hremoved, attach, if_pos hremoved]
  · rw [if_neg hremoved]
    obtain ⟨node, hnode⟩ := hsound.home_of_live (by simpa using hremoved)
    dsimp only [attach]
    rw [if_neg hremoved, hnode]
    dsimp only
    split
    next hmarked => exact absurd hmarked (by simpa [modifyRanUe] using hremoved)
    next => rfl

theorem switchNode_answer (ranUe : Ref RanUe) (target : Ref RadioNode) (key : Int) :
    (world.switchNode ranUe target key).1 =
      if (world.state.ranUe ranUe).removed then
        .error (.ranUeNotFound (world.state.ranUe ranUe).ngapId)
      else if world.state.NodeRegistered target then .ok ()
      else .error (.nodeNotFound (world.state.node target).connection.text) := by
  by_cases hremoved : (world.state.ranUe ranUe).removed = true
  · rw [if_pos hremoved, switchNode, if_pos hremoved]
  · rw [if_neg hremoved]
    have hlive : (world.state.ranUe ranUe).removed = false := by simpa using hremoved
    by_cases htarget : world.state.NodeRegistered target
    · rw [if_pos htarget]
      obtain ⟨node, hnode⟩ := hsound.home_of_live hlive
      rcases world.switchNode_cases ranUe target key with
        ⟨hwhy, -⟩ | ⟨source, done, -, -, -, hcall, -⟩
      · rw [hnode] at hwhy
        simp [hlive, htarget] at hwhy
      · rw [hcall]
    · rw [if_neg htarget, (inertNode hsound htarget).switch ranUe key hlive]

/-- A RAN UE that cannot be removed is refused after its radio node was looked for. -/
theorem removeRanUe_answer (ranUe : Ref RanUe) :
    (world.removeRanUe ranUe).1 =
      if (world.state.ranUe ranUe).removed then
        if (world.state.findNode (world.state.ranUe ranUe).nodeId).isSome then
          .error (.ranUeNotFound (world.state.ranUe ranUe).ngapId)
        else .error (.missingNode (world.state.ranUe ranUe).ngapId)
      else .ok () := by
  by_cases hremoved : (world.state.ranUe ranUe).removed = true
  · rw [if_pos hremoved]
    dsimp only [removeRanUe, release]
    rw [if_pos hremoved]
    cases world.state.findNode (world.state.ranUe ranUe).nodeId <;> rfl
  · rw [if_neg hremoved]
    have hlive : (world.state.ranUe ranUe).removed = false := by simpa using hremoved
    obtain ⟨node, hnode⟩ := hsound.home_of_live hlive
    rcases world.removeRanUe_cases ranUe with ⟨hwhy, -⟩ | ⟨-, done, hcall, -⟩
    · rw [hnode] at hwhy
      simp [hlive] at hwhy
    · rw [hcall]

theorem attach_ok_iff (ue : Ref Ue) (ranUe : Ref RanUe) :
    (world.attach ue ranUe).1 = .ok () ↔ (world.state.ranUe ranUe).removed = false := by
  rw [attach_answer hsound]
  cases (world.state.ranUe ranUe).removed <;> simp

theorem switchNode_ok_iff (ranUe : Ref RanUe) (target : Ref RadioNode) (key : Int) :
    (world.switchNode ranUe target key).1 = .ok () ↔
      (world.state.ranUe ranUe).removed = false ∧ world.state.NodeRegistered target := by
  rw [switchNode_answer hsound]
  by_cases htarget : world.state.NodeRegistered target <;>
    cases (world.state.ranUe ranUe).removed <;> simp [htarget]

theorem removeRanUe_ok_iff (ranUe : Ref RanUe) :
    (world.removeRanUe ranUe).1 = .ok () ↔ (world.state.ranUe ranUe).removed = false := by
  rw [removeRanUe_answer hsound]
  by_cases hnode : (world.state.findNode (world.state.ranUe ranUe).nodeId).isSome <;>
    cases (world.state.ranUe ranUe).removed <;> simp [hnode]

theorem removeRanUe_of_lastNode {ranUe : Ref RanUe}
    (hremoved : (world.state.ranUe ranUe).removed = true) {node : Ref RadioNode}
    (hlast : world.state.LastNode ranUe node) :
    (world.removeRanUe ranUe).1 =
      if world.state.NodeRegistered node then
        .error (.ranUeNotFound (world.state.ranUe ranUe).ngapId)
      else .error (.missingNode (world.state.ranUe ranUe).ngapId) := by
  rw [removeRanUe_answer hsound, if_pos hremoved]
  simp only [hsound.nodeRegistered_iff_of_lastNode hlast]

/-- A live RAN UE is never refused for want of its radio node. -/
theorem not_missing_of_live {ranUe : Ref RanUe}
    (hlive : (world.state.ranUe ranUe).removed = false) (id : Nat) :
    (∀ ue, (world.attach ue ranUe).1 ≠ .error (.missingNode id)) ∧
      (world.removeRanUe ranUe).1 ≠ .error (.missingNode id) ∧
      ∀ target key, (world.switchNode ranUe target key).1 ≠ .error (.missingNode id) := by
  refine ⟨fun ue => ?_, ?_, fun target key => ?_⟩
  · rw [(attach_ok_iff hsound ue ranUe).mpr hlive]
    simp
  · rw [(removeRanUe_ok_iff hsound ranUe).mpr hlive]
    simp
  · rw [switchNode_answer hsound, hlive]
    by_cases htarget : world.state.NodeRegistered target <;> simp [htarget]

/-- A RAN UE that was removed stays removed, whatever is called afterwards. -/
theorem removeRanUe_once {ranUe : Ref RanUe} (hok : (world.removeRanUe ranUe).1 = .ok ())
    (later : List Operation) :
    (((world.removeRanUe ranUe).2.run later).removeRanUe ranUe).1 ≠ .ok () := by
  have hsteps : Steps Operation.Any world.state (world.removeRanUe ranUe).2.state :=
    removeRanUe_steps world ranUe
  have hsoundAfter := hsteps.sound hsound
  have hlive := (removeRanUe_ok_iff hsound ranUe).mp hok
  have hgone : (world.removeRanUe ranUe).2.state.RanUeGone ranUe := by
    have hcreated := hsound.pool.ranUe_created ((hsound.pool.live ranUe).mp hlive)
    rcases world.removeRanUe_cases ranUe with
      ⟨-, error, refused, hcall, -⟩ | ⟨-, done, hcall, hstate⟩
    · rw [hcall] at hok
      cases hok
    · rw [hcall, RanUeGone, hstate, ranUe_release, if_pos rfl]
      exact ⟨Nat.lt_of_lt_of_eq hcreated
        (congrArg (·.2.2) (world.state.created_release ranUe)).symm, rfl⟩
  intro hagain
  have hmarked := (ranUeGone_run hsoundAfter hgone later).2
  rw [(removeRanUe_ok_iff (sound_run hsoundAfter later) ranUe).mp hagain] at hmarked
  cases hmarked

end

/-! ## What is done about a RAN UE that cannot be removed -/

/-- What is done about a UE when the RAN UE attached over an access cannot be removed. -/
abbrev Fallback := World → Ref Ue → AccessType → RegistryError → World

/-- `removeAttached` with another fallback. -/
def removeAttachedWith (fallback : Fallback) (world : World) (ref : Ref Ue) (access : AccessType) :
    World :=
  match (world.state.ue ref).slot access with
  | none => world
  | some ngapId =>
    match world.state.findRanUe ngapId with
    | none => world.detach ref access
    | some ranUe =>
      match world.removeRanUe ranUe with
      | (.ok _, world) => world
      | (.error error, world) => fallback world ref access error

/-- `removeUe` with another fallback. -/
def removeUeWith (fallback : Fallback) (world : World) (ref : Ref Ue) : World :=
  let world := AccessType.all.foldl
    (fun world access => world.removeAttachedWith fallback ref access) world
  let world := world.surrenderTmsi ref
  let world := world.modify (·.modifyUe ref ({ · with subscriptions := ∅ }))
  let ue := world.state.ue ref
  let world :=
    if ue.supi = "" then world
    else
      world.modifyRegistry fun registry =>
        { registry with supiIndex := registry.supiIndex.eraseIf ue.supi (· = ue.id) }
  if world.state.registry.ues.contains ue.id then
    (world.modifyRegistry fun registry =>
      { registry with ues := registry.ues.erase ue.id }).note (.ueRemoved ue.supi ue.id)
  else
    world

def dropRanUeWith (fallback : Fallback) (world : World) (node : Ref RadioNode) (withUes : Bool)
    (entry : Int × Ref RanUe) : World :=
  let (key, ref) := entry
  let owner := if withUes then world.state.ueOfRanUe ref else none
  let world := world.takeOut node key ref
  match owner with
  | none => world
  | some ue => world.removeUeWith fallback ue

def dropRanUesWith (fallback : Fallback) (world : World) (node : Ref RadioNode) (withUes : Bool)
    (entries : List (Int × Ref RanUe)) : World :=
  entries.foldl (fun world entry => world.dropRanUeWith fallback node withUes entry) world

def removeAllRanUesWith (fallback : Fallback) (world : World) (ref : Ref RadioNode)
    (withUes : Bool) : World :=
  let node := world.state.node ref
  let world := world.note (.removingRanUes node.name node.ranUes.size withUes)
  (world.dropRanUesWith fallback ref withUes node.ranUes.toList).noteAddedMeanwhile ref

/-- A call with another fallback; only these two calls remove UEs. -/
def performWith (fallback : Fallback) (world : World) : Operation → World
  | .removeUe ue => world.removeUeWith fallback ue
  | .removeAllRanUes node withUes => world.removeAllRanUesWith fallback node withUes
  | operation => world.perform operation

def runWith (fallback : Fallback) (world : World) (operations : List Operation) : World :=
  operations.foldl (performWith fallback) world

theorem removeAttachedWith_eq (fallback : Fallback) {world : World} (hsound : world.state.Sound)
    (ref : Ref Ue) (access : AccessType) :
    world.removeAttachedWith fallback ref access = world.removeAttached ref access := by
  dsimp only [removeAttachedWith, removeAttached]
  cases (world.state.ue ref).slot access with
  | none => rfl
  | some ngapId =>
      dsimp only
      cases hfind : world.state.findRanUe ngapId with
      | none => rfl
      | some ranUe =>
          have hlive := (hsound.pool.live ranUe).mpr (hsound.pool.registered_of_find hfind)
          have hanswer := removeRanUe_answer hsound ranUe
          rw [hlive, if_neg Bool.false_ne_true] at hanswer
          dsimp only
          cases hcall : world.removeRanUe ranUe with
          | mk answer next =>
              rw [hcall] at hanswer
              cases answer with
              | ok _ => rfl
              | error error => cases hanswer

theorem removeUeWith_eq (fallback : Fallback) {world : World} (hsound : world.state.Sound)
    (ref : Ref Ue) : world.removeUeWith fallback ref = world.removeUe ref := by
  have hfirst := (removeAttached_steps Operation.Any hsound ref .threeGpp).1.sound hsound
  have hvacated : AccessType.all.foldl
      (fun world access => world.removeAttachedWith fallback ref access) world =
        AccessType.all.foldl (fun world access => world.removeAttached ref access) world := by
    simp only [AccessType.all, List.foldl_cons, List.foldl_nil,
      removeAttachedWith_eq fallback hsound, removeAttachedWith_eq fallback hfirst]
  rw [removeUeWith, hvacated]
  rfl

theorem dropRanUeWith_eq (fallback : Fallback) {world : World} (hsound : world.state.Sound)
    (node : Ref RadioNode) (withUes : Bool) (entry : Int × Ref RanUe) :
    world.dropRanUeWith fallback node withUes entry = world.dropRanUe node withUes entry := by
  obtain ⟨key, ref⟩ := entry
  have htaken : Steps Operation.Any world.state (world.takeOut node key ref).state :=
    takeOut_steps hsound node key ref
  dsimp only [dropRanUeWith, dropRanUe]
  generalize (if withUes = true then world.state.ueOfRanUe ref else none) = owner
  cases owner with
  | none => rfl
  | some ue => exact removeUeWith_eq fallback (htaken.sound hsound) ue

theorem dropRanUesWith_eq (fallback : Fallback) {world : World} (hsound : world.state.Sound)
    (node : Ref RadioNode) (withUes : Bool) (entries : List (Int × Ref RanUe)) :
    world.dropRanUesWith fallback node withUes entries = world.dropRanUes node withUes entries := by
  unfold dropRanUesWith dropRanUes
  induction entries generalizing world with
  | nil => rw [List.foldl_nil, List.foldl_nil]
  | cons entry rest ih =>
      have hsteps : Steps Operation.Any world.state
          (world.dropRanUe node withUes entry).state := dropRanUe_steps hsound node withUes entry
      rw [List.foldl_cons, List.foldl_cons, dropRanUeWith_eq fallback hsound]
      exact ih (hsteps.sound hsound)

theorem removeAllRanUesWith_eq (fallback : Fallback) {world : World}
    (hsound : world.state.Sound) (node : Ref RadioNode) (withUes : Bool) :
    world.removeAllRanUesWith fallback node withUes = world.removeAllRanUes node withUes := by
  dsimp only [removeAllRanUesWith, removeAllRanUes]
  generalize hnoted : world.note _ = noted
  have hsoundNoted : noted.state.Sound := hnoted ▸ hsound
  rw [dropRanUesWith_eq fallback hsoundNoted]

theorem performWith_eq (fallback : Fallback) {world : World} (hsound : world.state.Sound)
    (operation : Operation) : world.performWith fallback operation = world.perform operation := by
  cases operation with
  | removeUe ue => exact removeUeWith_eq fallback hsound ue
  | removeAllRanUes node withUes => exact removeAllRanUesWith_eq fallback hsound node withUes
  | _ => rfl

theorem runWith_eq (fallback : Fallback) {world : World} (hsound : world.state.Sound)
    (operations : List Operation) : world.runWith fallback operations = world.run operations := by
  unfold runWith run
  induction operations generalizing world with
  | nil => rw [List.foldl_nil, List.foldl_nil]
  | cons operation rest ih =>
      have hsteps : Steps Operation.Any world.state (world.perform operation).state :=
        perform_steps hsound trivial
      rw [List.foldl_cons, List.foldl_cons, performWith_eq fallback hsound]
      exact ih (hsteps.sound hsound)

/-! ## Along every run -/

theorem run_homed (config : Config) (operations : List Operation) :
    ((opened config).run operations).state.Homed :=
  (run_keeps (motive := Homed) (fun hsound hhomed hstep => hhomed.step hsound.toWellNumbered hstep)
    (homed_new config) (obeys_any (opened config) operations)).2

/-- A RAN UE is attached, handed over to a registered radio node or removed exactly as long as it
is live, and is reported as not found afterwards, but for a removal that first misses the radio
node.  What a removal of a UE does about a failing one makes no difference. -/
theorem run_link_errors (config : Config) (operations : List Operation) :
    let world := (opened config).run operations
    let state := world.state
    (∀ ranUe,
      (∀ ue, (world.attach ue ranUe).1 = .ok () ↔ (state.ranUe ranUe).removed = false) ∧
      ((world.removeRanUe ranUe).1 = .ok () ↔ (state.ranUe ranUe).removed = false) ∧
      ∀ target key, (world.switchNode ranUe target key).1 = .ok () ↔
        (state.ranUe ranUe).removed = false ∧ state.NodeRegistered target) ∧
    (∀ ranUe later, (world.removeRanUe ranUe).1 = .ok () →
      (((world.removeRanUe ranUe).2.run later).removeRanUe ranUe).1 ≠ .ok ()) ∧
    (∀ ranUe, (state.ranUe ranUe).removed = true →
      (∀ ue, (world.attach ue ranUe).1 =
        .error (.ranUeNotFound (state.ranUe ranUe).ngapId)) ∧
      (∀ target key, (world.switchNode ranUe target key).1 =
        .error (.ranUeNotFound (state.ranUe ranUe).ngapId)) ∧
      (state.entities.ranUes.Holds ranUe → ∃! node, state.LastNode ranUe node) ∧
      ∀ node, state.LastNode ranUe node → (world.removeRanUe ranUe).1 =
        if state.NodeRegistered node then .error (.ranUeNotFound (state.ranUe ranUe).ngapId)
        else .error (.missingNode (state.ranUe ranUe).ngapId)) ∧
    (∀ ranUe id, (state.ranUe ranUe).removed = false →
      (∀ ue, (world.attach ue ranUe).1 ≠ .error (.missingNode id)) ∧
      (world.removeRanUe ranUe).1 ≠ .error (.missingNode id) ∧
      ∀ target key, (world.switchNode ranUe target key).1 ≠ .error (.missingNode id)) ∧
    ∀ fallback, (∀ ue, world.removeUeWith fallback ue = world.removeUe ue) ∧
      (opened config).runWith fallback operations = world := by
  intro world state
  have hsound : state.Sound := run_sound config operations
  have hlast (ranUe : Ref RanUe) (hholds : state.entities.ranUes.Holds ranUe) :
      ∃! node, state.LastNode ranUe node :=
    existsUnique_lastNode (run_homed config operations) (run_numberedInOrder config operations)
      hholds
  refine ⟨?_, fun ranUe later hok => removeRanUe_once hsound hok later, ?_,
    fun ranUe id hlive => not_missing_of_live hsound hlive id, fun fallback =>
    ⟨removeUeWith_eq fallback hsound, runWith_eq fallback (sound_new config) operations⟩⟩
  · intro ranUe
    exact ⟨fun ue => attach_ok_iff hsound ue ranUe, removeRanUe_ok_iff hsound ranUe,
      switchNode_ok_iff hsound ranUe⟩
  · intro ranUe hremoved
    have hinert := inertRanUe hsound (run_linkedLive config operations) hremoved
    refine ⟨fun ue => ?_, fun target key => ?_, hlast ranUe, fun node =>
      removeRanUe_of_lastNode hsound hremoved⟩
    · rw [hinert.attach]
    · rw [hinert.switch]

end World

end AccessMobility
