import AccessMobility.Proofs.IdPoolOutstanding
import AccessMobility.Proofs.Numbering

/-!
# The pool of RAN UEs and the collections of the radio nodes

A RAN UE is kept three times: in the pool under its AMF UE NGAP id, in the collection of its radio
node under its RAN UE NGAP id, and as an outstanding value of the id pool.  This file states that
the three agree with each other and with the binding and the mark of the RAN UE itself, and shows
that every step keeps them in agreement.

A RAN UE whose key was just taken over is still in the pool while it is in no collection any more.
The invariant names this one exception, which lasts until the RAN UE is released.
-/

namespace AccessMobility

/-- A value between the bounds. -/
def IdRange.Contains (range : IdRange) (value : Int) : Prop :=
  range.min.toInt ≤ value ∧ value ≤ range.max.toInt

instance (range : IdRange) (value : Int) : Decidable (range.Contains value) :=
  inferInstanceAs (Decidable (_ ∧ _))

namespace State

/-- A RAN UE of the pool has the value as its AMF UE NGAP id. -/
def NgapIdInUse (state : State) (value : Int) : Prop :=
  ∃ id ref, state.findRanUe id = some ref ∧ NgapId.toSigned id = value

/-- A RAN UE got the value as its AMF UE NGAP id, whether it is still in the pool or not. -/
def NgapIdAssigned (state : State) (value : Int) : Prop :=
  ∃ ref : Ref RanUe, ref.number < state.created.2.2 ∧
    NgapId.toSigned (state.ranUe ref).ngapId = value

/-- Pool, collections, ids, bindings and marks of RAN UEs agree, but for a RAN UE that lost its key
and waits to be released.  An id outside the configured range is never given back. -/
structure PoolConsistent (state : State) (displaced : Option (Ref RanUe)) : Prop where
  ngapId : ∀ {id ref}, state.findRanUe id = some ref → (state.ranUe ref).ngapId = id
  live : ∀ ref, (state.ranUe ref).removed = false ↔ state.RanUeRegistered ref
  bound : ∀ {ref}, state.RanUeRegistered ref → displaced ≠ some ref →
    ∃ node, state.findNode (state.ranUe ref).nodeId = some node ∧
      state.findRanUeByKey node (state.ranUe ref).key = some ref
  held : ∀ {node key ref}, state.findRanUeByKey node key = some ref →
    state.RanUeRegistered ref ∧ displaced ≠ some ref ∧
      state.findNode (state.ranUe ref).nodeId = some node ∧ (state.ranUe ref).key = key
  ranUe_created : ∀ {id ref}, state.findRanUe id = some ref → ref.number < state.created.2.2
  unsigned : ∀ {id ref}, state.findRanUe id = some ref → NgapId.Unsigned id
  pool_valid : state.registry.ngapIds.Valid
  pool_signed :
    NgapId.Signed state.registry.ngapIds.min ∧ NgapId.Signed state.registry.ngapIds.max
  outstanding : ∀ {value}, state.NgapIdInUse value → state.registry.ngapIds.Outstanding value
  passed : ∀ {value}, state.NgapIdAssigned value → state.registry.ngapIds.Passed value
  accounted : ∀ {value}, state.registry.ngapIds.Outstanding value →
    state.NgapIdInUse value ∨ ¬ state.registry.ngapIds.InRange value ∧ state.NgapIdAssigned value

/-- Two states with the same RAN UEs in the same places. -/
structure SamePool (state next : State) : Prop where
  ranUe_ngapId : ∀ ref, (next.ranUe ref).ngapId = (state.ranUe ref).ngapId := by intro; rfl
  ranUe_nodeId : ∀ ref, (next.ranUe ref).nodeId = (state.ranUe ref).nodeId := by intro; rfl
  ranUe_key : ∀ ref, (next.ranUe ref).key = (state.ranUe ref).key := by intro; rfl
  ranUe_removed : ∀ ref, (next.ranUe ref).removed = (state.ranUe ref).removed := by intro; rfl
  ranUes : next.registry.ranUes = state.registry.ranUes := by rfl
  ngapIds : next.registry.ngapIds = state.registry.ngapIds := by rfl
  created_ranUes : next.created.2.2 = state.created.2.2 := by rfl
  collections : ∀ node key,
    next.findRanUeByKey node key = state.findRanUeByKey node key := by intros; rfl
  homes : ∀ {id node key ref}, state.findRanUeByKey node key = some ref →
    state.findNode id = some node → next.findNode id = some node := by intros; assumption

section

variable {state next : State} (hsame : state.SamePool next)

include hsame

theorem SamePool.findRanUe_eq : next.findRanUe = state.findRanUe := by
  funext id
  simp only [findRanUe, hsame.ranUes]

theorem SamePool.ngapIdInUse_iff (value : Int) :
    next.NgapIdInUse value ↔ state.NgapIdInUse value := by
  rw [NgapIdInUse, NgapIdInUse, hsame.findRanUe_eq]

theorem SamePool.ngapIdAssigned_iff (value : Int) :
    next.NgapIdAssigned value ↔ state.NgapIdAssigned value := by
  simp only [NgapIdAssigned, hsame.created_ranUes, hsame.ranUe_ngapId]

theorem SamePool.ranUeRegistered_iff (ref : Ref RanUe) :
    next.RanUeRegistered ref ↔ state.RanUeRegistered ref := by
  rw [RanUeRegistered, RanUeRegistered, hsame.findRanUe_eq, hsame.ranUe_ngapId]

end

theorem signed_toInt (value : Int64) : NgapId.Signed value.toInt :=
  ⟨Int64.le_toInt value, Int64.toInt_le value⟩

theorem poolConsistent_new (config : Config) : (State.new config).PoolConsistent none := by
  have hranUe (ref : Ref RanUe) : (State.new config).ranUe ref = default := by
    simp [State.new, State.ranUe, Store.get]
  have hnode (ref : Ref RadioNode) : (State.new config).node ref = default := by
    simp [State.new, State.node, Store.get]
  have hpool (id : Nat) : (State.new config).findRanUe id = none := by
    simp [State.new, Registry.new, findRanUe]
  have hcollection (node : Ref RadioNode) (key : Int) :
      (State.new config).findRanUeByKey node key = none := by
    rw [findRanUeByKey, hnode]
    exact Std.ExtTreeMap.getElem?_empty
  constructor
  · simp [hpool]
  · intro ref
    rw [RanUeRegistered, hpool, hranUe]
    simp [default]
  · simp [RanUeRegistered, hpool]
  · simp [hcollection]
  · simp [hpool]
  · simp [hpool]
  · exact IdPool.valid_new ..
  · exact ⟨signed_toInt _, signed_toInt _⟩
  · rintro value ⟨id, ref, hfound, -⟩
    rw [hpool] at hfound
    cases hfound
  · rintro value ⟨ref, hcreated, -⟩
    exact absurd hcreated (Nat.not_lt_zero _)
  · intro value hout
    exact absurd hout (IdPool.not_outstanding_new _ _ value)

/-- No two RAN UEs of the pool share an AMF UE NGAP id. -/
theorem ngapId_ne_of_registered {state : State} {ranUe other : Ref RanUe}
    (hregistered : state.RanUeRegistered ranUe) (hother : state.RanUeRegistered other)
    (hne : ranUe ≠ other) : (state.ranUe ranUe).ngapId ≠ (state.ranUe other).ngapId := by
  intro hid
  have hfound : state.findRanUe (state.ranUe ranUe).ngapId = some other := hid ▸ hother
  exact hne (Option.some.inj (hregistered.symm.trans hfound))

section

variable {state : State} {displaced : Option (Ref RanUe)}

theorem PoolConsistent.registered_of_find (hpool : state.PoolConsistent displaced) {id : Nat}
    {ref : Ref RanUe} (hfind : state.findRanUe id = some ref) : state.RanUeRegistered ref := by
  unfold RanUeRegistered
  rw [hpool.ngapId hfind]
  exact hfind

theorem PoolConsistent.outstanding_registered (hpool : state.PoolConsistent displaced)
    {ref : Ref RanUe} (hregistered : state.RanUeRegistered ref) :
    state.registry.ngapIds.Outstanding (NgapId.toSigned (state.ranUe ref).ngapId) :=
  hpool.outstanding ⟨_, ref, hregistered, rfl⟩

theorem PoolConsistent.assigned_registered (hpool : state.PoolConsistent displaced)
    {ref : Ref RanUe} (hregistered : state.RanUeRegistered ref) :
    state.NgapIdAssigned (NgapId.toSigned (state.ranUe ref).ngapId) :=
  ⟨ref, hpool.ranUe_created hregistered, rfl⟩

/-- Outstanding are the ids in use and, for want of a way back, all ids outside the range that were
ever assigned. -/
theorem PoolConsistent.outstanding_iff (hpool : state.PoolConsistent displaced) (value : Int) :
    state.registry.ngapIds.Outstanding value ↔
      state.NgapIdInUse value ∨
        ¬ state.registry.ngapIds.InRange value ∧ state.NgapIdAssigned value := by
  refine ⟨hpool.accounted, ?_⟩
  rintro (hused | ⟨houtside, hassigned⟩)
  · exact hpool.outstanding hused
  · exact hpool.pool_valid.outstanding_of_not_inRange (hpool.passed hassigned) houtside

theorem PoolConsistent.congr {next : State} (hpool : state.PoolConsistent displaced)
    (hsame : state.SamePool next) : next.PoolConsistent displaced := by
  have hfind := hsame.findRanUe_eq
  have hregistered := hsame.ranUeRegistered_iff
  constructor
  · intro id ref hfound
    rw [hfind] at hfound
    rw [hsame.ranUe_ngapId]
    exact hpool.ngapId hfound
  · intro ref
    rw [hsame.ranUe_removed, hregistered]
    exact hpool.live ref
  · intro ref hfound hdisplaced
    rw [hregistered] at hfound
    obtain ⟨node, hnode, hkey⟩ := hpool.bound hfound hdisplaced
    refine ⟨node, ?_, ?_⟩
    · rw [hsame.ranUe_nodeId]
      exact hsame.homes hkey hnode
    · rw [hsame.ranUe_key, hsame.collections]
      exact hkey
  · intro node key ref hentry
    rw [hsame.collections] at hentry
    obtain ⟨hfound, hdisplaced, hnode, hkey⟩ := hpool.held hentry
    refine ⟨(hregistered ref).mpr hfound, hdisplaced, ?_, ?_⟩
    · rw [hsame.ranUe_nodeId]
      exact hsame.homes hentry hnode
    · rw [hsame.ranUe_key]
      exact hkey
  · intro id ref hfound
    rw [hfind] at hfound
    rw [hsame.created_ranUes]
    exact hpool.ranUe_created hfound
  · intro id ref hfound
    rw [hfind] at hfound
    exact hpool.unsigned hfound
  · rw [hsame.ngapIds]
    exact hpool.pool_valid
  · rw [hsame.ngapIds]
    exact hpool.pool_signed
  · intro value
    rw [hsame.ngapIds, hsame.ngapIdInUse_iff]
    exact hpool.outstanding
  · intro value
    rw [hsame.ngapIds, hsame.ngapIdAssigned_iff]
    exact hpool.passed
  · intro value
    rw [hsame.ngapIds, hsame.ngapIdInUse_iff, hsame.ngapIdAssigned_iff]
    exact hpool.accounted

end

/-! ## Steps that leave the pool alone -/

theorem SameWiring.samePool {state next : State} (hsame : state.SameWiring next) :
    state.SamePool next where
  ranUe_ngapId := hsame.ranUe_ngapId
  ranUe_nodeId := hsame.ranUe_nodeId
  ranUe_key := hsame.ranUe_key
  ranUe_removed := hsame.ranUe_removed
  ranUes := hsame.ranUes
  ngapIds := hsame.ngapIds
  created_ranUes := hsame.created_ranUes
  collections node key := by simp only [findRanUeByKey, hsame.node_ranUes]
  homes _ hnode := by
    rw [findNode, hsame.nodes]
    exact hnode

section

variable (state : State)

theorem samePool_detach (ref : Ref Ue) (access : AccessType) :
    state.SamePool (state.detach ref access) where
  ranUe_ngapId other := by
    rw [ranUe_detach]
    split <;> rfl
  ranUe_nodeId other := by
    rw [ranUe_detach]
    split <;> rfl
  ranUe_key other := by
    rw [ranUe_detach]
    split <;> rfl
  ranUe_removed other := by
    rw [ranUe_detach]
    split <;> rfl
  ranUes := by rw [registry_detach]
  ngapIds := by rw [registry_detach]
  created_ranUes := by rw [created_detach]
  collections node key := by rw [findRanUeByKey, node_detach, findRanUeByKey]
  homes _ hnode := by
    rw [findNode, registry_detach]
    exact hnode

theorem ranUe_occupy_eq (ueRef : Ref Ue) (ranUeRef other : Ref RanUe) (access : AccessType) :
    (state.occupy ueRef ranUeRef access).ranUe other =
      { state.ranUe other with
        ueId := ((state.occupy ueRef ranUeRef access).ranUe other).ueId } := by
  rw [ranUe_occupy]
  by_cases heq : ranUeRef = other
  · subst heq
    rw [if_pos rfl]
    dsimp only
    split <;> rfl
  · rw [if_neg heq]
    dsimp only
    split <;> rfl

theorem samePool_attach (ueRef : Ref Ue) (ranUeRef : Ref RanUe) (access : AccessType) :
    state.SamePool (state.attach ueRef ranUeRef access) where
  ranUe_ngapId other := by rw [ranUe_attach, ranUe_occupy_eq]
  ranUe_nodeId other := by rw [ranUe_attach, ranUe_occupy_eq]
  ranUe_key other := by rw [ranUe_attach, ranUe_occupy_eq]
  ranUe_removed other := by rw [ranUe_attach, ranUe_occupy_eq]
  ranUes := by rw [registry_attach]
  ngapIds := by rw [registry_attach]
  created_ranUes := by rw [created_attach]
  collections node key := by rw [findRanUeByKey, node_attach, findRanUeByKey]
  homes _ hnode := by
    rw [findNode, registry_attach]
    exact hnode

theorem samePool_setAccess (node : Ref RadioNode) (access : AccessType) :
    state.SamePool (state.modifyNode node ({ · with access })) where
  collections other key := by
    unfold findRanUeByKey modifyNode
    rw [node_setNode]
    split
    next heq => rw [heq]
    next => rfl

theorem samePool_openNode {state : State} (hnumbered : state.WellNumbered)
    (hpool : state.PoolConsistent none) (connection : Connection) :
    state.SamePool (state.openNode connection) where
  collections node key := by
    unfold findRanUeByKey
    rw [node_openNode]
    split
    next hfresh =>
      have hnone : state.findRanUeByKey node key = none := by
        cases hentry : state.findRanUeByKey node key with
        | none => rfl
        | some ref => exact absurd hfresh (hnumbered.node_ne_fresh (hpool.held hentry).2.2.1)
      exact Std.ExtTreeMap.getElem?_empty.trans hnone.symm
    next => rfl
  homes {id node key ref} _ hnode := by
    rw [findNode_openNode, if_neg (Nat.ne_of_gt (hnumbered.findNode_lt hnode))]
    exact hnode

theorem samePool_closeNode {state : State} (hnumbered : state.WellNumbered)
    {ref : Ref RadioNode} (hregistered : state.NodeRegistered ref)
    (hempty : ∀ key, state.findRanUeByKey ref key = none) (connectionIndex : Table Nat Nat) :
    state.SamePool (state.closeNode ref connectionIndex) where
  homes {id node key found} hentry hnode := by
    have hne : node ≠ ref := by
      intro heq
      subst heq
      rw [hempty] at hentry
      simp at hentry
    rw [findNode_closeNode, if_neg]
    · exact hnode
    · intro hid
      exact hne (hnumbered.node_eq_of_id hregistered ((hnumbered.node_id hnode).trans hid.symm))

end

/-! ## Releasing -/

section

variable {state : State} {displaced : Option (Ref RanUe)}

theorem PoolConsistent.findRanUe_release (hpool : state.PoolConsistent displaced)
    {ref : Ref RanUe} (hregistered : state.RanUeRegistered ref) (id : Nat) (other : Ref RanUe) :
    (state.release ref).findRanUe id = some other ↔
      state.findRanUe id = some other ∧ other ≠ ref := by
  rw [State.findRanUe_release]
  constructor
  · rintro ⟨hfound, hnot⟩
    refine ⟨hfound, ?_⟩
    intro heq
    subst heq
    exact hnot ⟨hregistered, hpool.ngapId hfound⟩
  · rintro ⟨hfound, hne⟩
    refine ⟨hfound, ?_⟩
    rintro ⟨-, hid⟩
    rw [← hid] at hfound
    exact hne (Option.some.inj (hfound.symm.trans hregistered))

theorem PoolConsistent.ranUeRegistered_release (hpool : state.PoolConsistent displaced)
    {ref : Ref RanUe} (hregistered : state.RanUeRegistered ref) (other : Ref RanUe) :
    (state.release ref).RanUeRegistered other ↔ state.RanUeRegistered other ∧ other ≠ ref := by
  unfold RanUeRegistered
  rw [hpool.findRanUe_release hregistered]
  by_cases heq : other = ref
  · simp [heq]
  · rw [ranUe_release_of_ne heq]

/-- The id of the RAN UE that is released is in use no more, and no other id is lost. -/
theorem PoolConsistent.ngapIdInUse_release (hpool : state.PoolConsistent displaced)
    {ref : Ref RanUe} (hregistered : state.RanUeRegistered ref) (value : Int) :
    (state.release ref).NgapIdInUse value ↔
      state.NgapIdInUse value ∧ value ≠ NgapId.toSigned (state.ranUe ref).ngapId := by
  have hfind := hpool.findRanUe_release hregistered
  constructor
  · rintro ⟨id, other, hfound, hvalue⟩
    obtain ⟨hold, hne⟩ := (hfind id other).mp hfound
    refine ⟨⟨id, other, hold, hvalue⟩, ?_⟩
    intro heq
    have hid : id = (state.ranUe ref).ngapId :=
      NgapId.toSigned_injective (hpool.unsigned hold) (hpool.unsigned hregistered)
        (hvalue.trans heq)
    subst hid
    exact hne (Option.some.inj (hold.symm.trans hregistered))
  · rintro ⟨⟨id, other, hfound, hvalue⟩, hne⟩
    refine ⟨id, other, (hfind id other).mpr ⟨hfound, ?_⟩, hvalue⟩
    intro heq
    subst heq
    apply hne
    rw [hpool.ngapId hfound]
    exact hvalue.symm

theorem PoolConsistent.release (hpool : state.PoolConsistent displaced) {ref : Ref RanUe}
    (hlive : (state.ranUe ref).removed = false)
    (hdisplaced : ∀ other, displaced = some other → other = ref) :
    (state.release ref).PoolConsistent none := by
  have hregistered := (hpool.live ref).mp hlive
  have hids : (state.release ref).registry.ngapIds =
      state.registry.ngapIds.free (NgapId.toSigned (state.ranUe ref).ngapId) := by
    rw [registry_release, if_pos hregistered]
  have hfindNode := (state.sameNumbers_release ref).findNode_eq
  have hfind := hpool.findRanUe_release hregistered
  have hregisteredNext := hpool.ranUeRegistered_release hregistered
  have hassignedNext (value : Int) :
      (state.release ref).NgapIdAssigned value ↔ state.NgapIdAssigned value := by
    simp only [NgapIdAssigned, created_release, ngapId_release]
  constructor
  · intro id other hfound
    obtain ⟨hold, hne⟩ := (hfind id other).mp hfound
    rw [ranUe_release_of_ne hne]
    exact hpool.ngapId hold
  · intro other
    rw [hregisteredNext]
    by_cases heq : other = ref
    · subst heq
      simp [ranUe_release]
    · rw [ranUe_release_of_ne heq, hpool.live]
      simp [heq]
  · intro other hfound _
    obtain ⟨hold, hne⟩ := (hregisteredNext other).mp hfound
    have hother : displaced ≠ some other := fun heq => hne (hdisplaced other heq)
    obtain ⟨node, hnode, hkey⟩ := hpool.bound hold hother
    rw [ranUe_release_of_ne hne]
    refine ⟨node, ?_, ?_⟩
    · rw [hfindNode]
      exact hnode
    · rw [findRanUeByKey_release]
      exact ⟨hkey, fun hleft => hne hleft.2.2⟩
  · intro node key other hentry
    rw [findRanUeByKey_release] at hentry
    obtain ⟨hold, hnot⟩ := hentry
    obtain ⟨hfound, -, hnode, hkey⟩ := hpool.held hold
    have hne : other ≠ ref := by
      intro heq
      subst heq
      exact hnot ⟨hnode, hkey, rfl⟩
    rw [hregisteredNext, ranUe_release_of_ne hne, hfindNode]
    exact ⟨⟨hfound, hne⟩, by simp, hnode, hkey⟩
  · intro id other hfound
    rw [created_release]
    exact hpool.ranUe_created ((hfind id other).mp hfound).1
  · intro id other hfound
    exact hpool.unsigned ((hfind id other).mp hfound).1
  · rw [hids]
    exact hpool.pool_valid.free _
  · rw [hids, IdPool.min_free, IdPool.max_free]
    exact hpool.pool_signed
  · intro value hused
    obtain ⟨hold, hne⟩ := (hpool.ngapIdInUse_release hregistered value).mp hused
    rw [hids, IdPool.outstanding_free_iff]
    exact ⟨hpool.outstanding hold, fun heq => hne heq.1⟩
  · intro value hassigned
    rw [hids]
    exact (IdPool.passed_free ..).mpr (hpool.passed ((hassignedNext value).mp hassigned))
  · intro value hout
    rw [hids, IdPool.inRange_free, hassignedNext, hpool.ngapIdInUse_release hregistered]
    rw [hids, IdPool.outstanding_free_iff] at hout
    by_cases heq : value = NgapId.toSigned (state.ranUe ref).ngapId
    · exact Or.inr ⟨fun hrange => hout.2 ⟨heq, heq ▸ hrange⟩,
        heq ▸ hpool.assigned_registered hregistered⟩
    · exact (hpool.accounted hout.1).imp_left fun hused => ⟨hused, heq⟩

/-- Once the displaced RAN UE is released there is no exception left. -/
theorem PoolConsistent.evict (hpool : state.PoolConsistent displaced) :
    (state.evict displaced).PoolConsistent none := by
  cases displaced with
  | none => exact hpool
  | some ref =>
      by_cases hremoved : (state.ranUe ref).removed = true
      · rw [State.evict, if_pos hremoved]
        have hgone : ¬ state.RanUeRegistered ref := by
          rw [← hpool.live, hremoved]
          simp
        exact {
          hpool with
          bound := by
            intro other hfound _
            refine hpool.bound hfound ?_
            intro heq
            rw [Option.some.injEq] at heq
            exact hgone (heq ▸ hfound)
          held := by
            intro node key other hentry
            obtain ⟨hfound, -, hhome⟩ := hpool.held hentry
            exact ⟨hfound, by simp, hhome⟩ }
      · rw [State.evict, if_neg hremoved]
        refine hpool.release (by simpa using hremoved) ?_
        intro other heq
        exact (Option.some.inj heq).symm

end

/-! ## New RAN UEs and handed over ones -/

section

variable {state : State} (hnumbered : state.WellNumbered) (hpool : state.PoolConsistent none)

include hpool

theorem PoolConsistent.ne_fresh {id : Nat} {ref : Ref RanUe}
    (hfind : state.findRanUe id = some ref) : state.entities.ranUes.fresh ≠ ref :=
  Store.ne_fresh (hpool.ranUe_created hfind)

/-- An id that was just allocated is not in use. -/
theorem PoolConsistent.findRanUe_allocated {id : Int} {pool : IdPool}
    (halloc : state.registry.ngapIds.allocate = (some id, pool)) :
    NgapId.Signed id ∧ state.findRanUe (NgapId.ofSigned id) = none := by
  have hsigned : NgapId.Signed id :=
    NgapId.signed_of_allocate hpool.pool_valid hpool.pool_signed.1 hpool.pool_signed.2 halloc
  refine ⟨hsigned, ?_⟩
  cases hfind : state.findRanUe (NgapId.ofSigned id) with
  | none => rfl
  | some ref =>
      refine absurd (hpool.outstanding ?_) (IdPool.allocate_fresh halloc)
      exact ⟨NgapId.ofSigned id, ref, hfind, NgapId.toSigned_ofSigned hsigned⟩

theorem PoolConsistent.findRanUe_enlist (node : Ref RadioNode) (key : Int) {id : Int}
    {pool : IdPool} (halloc : state.registry.ngapIds.allocate = (some id, pool)) (ngapId : Nat)
    (ref : Ref RanUe) :
    (state.enlist node key (NgapId.ofSigned id) pool).findRanUe ngapId = some ref ↔
      (NgapId.ofSigned id = ngapId ∧ state.entities.ranUes.fresh = ref) ∨
        state.findRanUe ngapId = some ref := by
  obtain ⟨-, hunused⟩ := hpool.findRanUe_allocated halloc
  rw [State.findRanUe_enlist]
  constructor
  · rintro (hleft | hright)
    · exact Or.inl hleft
    · exact Or.inr hright.2
  · rintro (hleft | hright)
    · exact Or.inl hleft
    · refine Or.inr ⟨?_, hright⟩
      intro heq
      rw [heq, hright] at hunused
      simp at hunused

theorem PoolConsistent.ranUeRegistered_enlist (node : Ref RadioNode) (key : Int) {id : Int}
    {pool : IdPool} (halloc : state.registry.ngapIds.allocate = (some id, pool)) (ref : Ref RanUe) :
    (state.enlist node key (NgapId.ofSigned id) pool).RanUeRegistered ref ↔
      state.entities.ranUes.fresh = ref ∨ state.RanUeRegistered ref := by
  unfold RanUeRegistered
  rw [hpool.findRanUe_enlist node key halloc]
  by_cases heq : state.entities.ranUes.fresh = ref
  · subst heq
    simp [ranUe_enlist]
  · rw [ranUe_enlist_of_ne heq]
    simp [heq]

/-- The id of the new RAN UE is in use, and no other id is taken. -/
theorem PoolConsistent.ngapIdInUse_enlist (node : Ref RadioNode) (key : Int) {id : Int}
    {pool : IdPool} (halloc : state.registry.ngapIds.allocate = (some id, pool)) (value : Int) :
    (state.enlist node key (NgapId.ofSigned id) pool).NgapIdInUse value ↔
      state.NgapIdInUse value ∨ value = id := by
  obtain ⟨hsigned, -⟩ := hpool.findRanUe_allocated halloc
  have hfind := hpool.findRanUe_enlist node key halloc
  constructor
  · rintro ⟨other, ref, hfound, hvalue⟩
    rcases (hfind other ref).mp hfound with ⟨hid, -⟩ | hold
    · right
      subst hid
      rw [← hvalue]
      exact NgapId.toSigned_ofSigned hsigned
    · exact Or.inl ⟨other, ref, hold, hvalue⟩
  · rintro (⟨other, ref, hfound, hvalue⟩ | hvalue)
    · exact ⟨other, ref, (hfind other ref).mpr (Or.inr hfound), hvalue⟩
    · refine ⟨NgapId.ofSigned id, state.entities.ranUes.fresh, ?_, ?_⟩
      · exact (hfind _ _).mpr (Or.inl ⟨rfl, rfl⟩)
      · rw [hvalue]
        exact NgapId.toSigned_ofSigned hsigned

theorem PoolConsistent.ngapIdAssigned_enlist (node : Ref RadioNode) (key : Int) {id : Int}
    {pool : IdPool} (halloc : state.registry.ngapIds.allocate = (some id, pool)) (value : Int) :
    (state.enlist node key (NgapId.ofSigned id) pool).NgapIdAssigned value ↔
      state.NgapIdAssigned value ∨ value = id := by
  obtain ⟨hsigned, -⟩ := hpool.findRanUe_allocated halloc
  have hfresh : state.entities.ranUes.fresh.number = state.created.2.2 := rfl
  have hbefore {ref : Ref RanUe} (hcreated : ref.number < state.created.2.2) :
      state.entities.ranUes.fresh ≠ ref := by
    intro heq
    rw [← heq, hfresh] at hcreated
    exact Nat.lt_irrefl _ hcreated
  constructor
  · rintro ⟨ref, hcreated, hvalue⟩
    rcases Nat.lt_or_eq_of_le (Nat.le_of_lt_succ hcreated) with hold | hlast
    · rw [ranUe_enlist_of_ne (hbefore hold)] at hvalue
      exact Or.inl ⟨ref, hold, hvalue⟩
    · have href : state.entities.ranUes.fresh = ref := by
        cases ref
        exact congrArg Ref.mk hlast.symm
      rw [ranUe_enlist, if_pos href] at hvalue
      exact Or.inr (hvalue.symm.trans (NgapId.toSigned_ofSigned hsigned))
  · rintro (⟨ref, hcreated, hvalue⟩ | rfl)
    · refine ⟨ref, Nat.lt_succ_of_lt hcreated, ?_⟩
      rw [ranUe_enlist_of_ne (hbefore hcreated)]
      exact hvalue
    · refine ⟨state.entities.ranUes.fresh, Nat.lt_succ_self _, ?_⟩
      rw [ranUe_enlist, if_pos rfl]
      exact NgapId.toSigned_ofSigned hsigned

/-- A new RAN UE is in the pool and in its collection; whoever held its key is displaced. -/
theorem PoolConsistent.enlist {node : Ref RadioNode} {key id : Int} {pool : IdPool}
    (hregistered : state.NodeRegistered node)
    (halloc : state.registry.ngapIds.allocate = (some id, pool)) :
    (state.enlist node key (NgapId.ofSigned id) pool).PoolConsistent
      (state.findRanUeByKey node key) := by
  have hnew : state.entities.ranUes.fresh.number < state.created.2.2 + 1 := Nat.lt_succ_self _
  have hsame {other : Ref RanUe} (hne : state.entities.ranUes.fresh ≠ other) :=
    ranUe_enlist_of_ne hne node key (NgapId.ofSigned id) pool
  have hfresh : (state.enlist node key (NgapId.ofSigned id) pool).ranUe
      state.entities.ranUes.fresh =
        { ngapId := NgapId.ofSigned id, nodeId := (state.node node).id, key } := by
    rw [ranUe_enlist, if_pos rfl]
  have hfindNode (other : Nat) :
      (state.enlist node key (NgapId.ofSigned id) pool).findNode other = state.findNode other := rfl
  have hfind := hpool.findRanUe_enlist node key halloc
  have hmin : pool.min = state.registry.ngapIds.min := by
    rw [← state.registry.ngapIds.min_allocate, halloc]
  have hmax : pool.max = state.registry.ngapIds.max := by
    rw [← state.registry.ngapIds.max_allocate, halloc]
  have hregisteredNext := hpool.ranUeRegistered_enlist node key halloc
  have hassignedNext := hpool.ngapIdAssigned_enlist node key halloc
  have hkept {ref : Ref RanUe} (hfound : state.RanUeRegistered ref) :
      state.entities.ranUes.fresh ≠ ref :=
    hpool.ne_fresh hfound
  constructor
  · intro other ref hfound
    rcases (hfind other ref).mp hfound with ⟨hid, href⟩ | hold
    · subst href
      rw [hfresh]
      exact hid
    · rw [hsame (hpool.ne_fresh hold)]
      exact hpool.ngapId hold
  · intro ref
    rw [hregisteredNext]
    by_cases heq : state.entities.ranUes.fresh = ref
    · subst heq
      simp [hfresh]
    · rw [hsame heq, hpool.live]
      simp [heq]
  · intro ref hfound hdisplaced
    rcases (hregisteredNext ref).mp hfound with href | hold
    · subst href
      rw [hfresh]
      refine ⟨node, hregistered, ?_⟩
      rw [findRanUeByKey_enlist]
      exact Or.inl ⟨rfl, rfl, rfl⟩
    · obtain ⟨home, hhome, hkey⟩ := hpool.bound hold (by simp)
      rw [hsame (hkept hold)]
      refine ⟨home, hhome, ?_⟩
      rw [findRanUeByKey_enlist]
      refine Or.inr ⟨?_, hkey⟩
      rintro ⟨hnode, hsameKey⟩
      subst hnode
      rw [← hsameKey] at hkey
      exact hdisplaced hkey
  · intro home other ref hentry
    rw [hfindNode]
    rcases (state.findRanUeByKey_enlist ..).mp hentry with ⟨hnode, hkey, href⟩ | ⟨hnot, hold⟩
    · subst hnode
      subst hkey
      subst href
      refine ⟨(hregisteredNext _).mpr (Or.inl rfl), ?_, ?_, ?_⟩
      · intro hdisplaced
        exact hkept (hpool.held hdisplaced).1 rfl
      · rw [hfresh]
        exact hregistered
      · rw [hfresh]
    · obtain ⟨hfound, -, hhome, hkey⟩ := hpool.held hold
      rw [hsame (hkept hfound)]
      refine ⟨(hregisteredNext _).mpr (Or.inr hfound), ?_, hhome, hkey⟩
      intro hdisplaced
      obtain ⟨-, -, hnode, hsameKey⟩ := hpool.held hdisplaced
      exact hnot ⟨Option.some.inj (hnode.symm.trans hhome), hsameKey.symm.trans hkey⟩
  · intro other ref hfound
    rw [created_enlist]
    rcases (hfind other ref).mp hfound with ⟨-, href⟩ | hold
    · subst href
      exact hnew
    · exact Nat.lt_succ_of_lt (hpool.ranUe_created hold)
  · intro other ref hfound
    rcases (hfind other ref).mp hfound with ⟨hid, -⟩ | hold
    · subst hid
      exact NgapId.unsigned_ofSigned id
    · exact hpool.unsigned hold
  · exact hpool.pool_valid.allocate halloc
  · rw [registry_enlist]
    dsimp only
    rw [hmin, hmax]
    exact hpool.pool_signed
  · intro value hused
    exact (hpool.pool_valid.outstanding_allocate halloc value).mpr
      (((hpool.ngapIdInUse_enlist node key halloc value).mp hused).imp_left hpool.outstanding)
  · intro value hassigned
    exact (hpool.pool_valid.passed_allocate halloc value).mpr
      (((hassignedNext value).mp hassigned).imp_left hpool.passed)
  · intro value hout
    rw [hpool.ngapIdInUse_enlist node key halloc, hassignedNext]
    rw [registry_enlist, IdPool.InRange, hmin, hmax, ← IdPool.InRange]
    rcases (hpool.pool_valid.outstanding_allocate halloc value).mp hout with hold | hid
    · exact (hpool.accounted hold).imp Or.inl (And.imp_right Or.inl)
    · exact Or.inl (Or.inr hid)

include hnumbered

/-- A RAN UE that is handed over is in the collection of its new radio node; whoever else held its
new key is displaced. -/
theorem PoolConsistent.rehome {ref : Ref RanUe} {source target : Ref RadioNode} {key : Int}
    (hlive : (state.ranUe ref).removed = false)
    (hsource : state.findNode (state.ranUe ref).nodeId = some source)
    (htarget : state.NodeRegistered target) :
    (state.rehome ref source target key).PoolConsistent
      ((state.findRanUeByKey target key).filter (· ≠ ref)) := by
  have hregistered := (hpool.live ref).mp hlive
  have hsameNode : (state.node source).id = (state.node target).id → source = target :=
    hnumbered.node_eq_of_id htarget
  have hentryIff := state.findRanUeByKey_rehome ref key hsameNode
  have hsame {other : Ref RanUe} (hne : ref ≠ other) :
      (state.rehome ref source target key).ranUe other = state.ranUe other := by
    rw [ranUe_rehome, if_neg hne]
  have hmoved : (state.rehome ref source target key).ranUe ref =
      { state.ranUe ref with nodeId := (state.node target).id, key } := by
    rw [ranUe_rehome, if_pos rfl]
  have hngapId (other : Ref RanUe) : ((state.rehome ref source target key).ranUe other).ngapId =
      (state.ranUe other).ngapId := by
    by_cases heq : ref = other
    · subst heq
      rw [hmoved]
    · rw [hsame heq]
  have hfind (id : Nat) :
      (state.rehome ref source target key).findRanUe id = state.findRanUe id := by
    unfold findRanUe
    rw [registry_rehome]
  have hinUse (value : Int) :
      (state.rehome ref source target key).NgapIdInUse value ↔ state.NgapIdInUse value := by
    simp only [NgapIdInUse, hfind]
  have hassignedNext (value : Int) :
      (state.rehome ref source target key).NgapIdAssigned value ↔ state.NgapIdAssigned value := by
    simp only [NgapIdAssigned, created_rehome, hngapId]
  have hfindNode (id : Nat) :
      (state.rehome ref source target key).findNode id = state.findNode id := by
    unfold findNode
    rw [registry_rehome]
  have hregisteredNext (other : Ref RanUe) :
      (state.rehome ref source target key).RanUeRegistered other ↔
        state.RanUeRegistered other := by
    simp only [RanUeRegistered, hfind, hngapId]
  have hdisplaced (other : Ref RanUe) :
      (state.findRanUeByKey target key).filter (· ≠ ref) = some other ↔
        state.findRanUeByKey target key = some other ∧ other ≠ ref := by
    simp [Option.filter_eq_some_iff]
  constructor
  · intro id other hfound
    rw [hngapId]
    rw [hfind] at hfound
    exact hpool.ngapId hfound
  · intro other
    rw [hregisteredNext, ← hpool.live]
    by_cases heq : ref = other
    · subst heq
      rw [hmoved]
    · rw [hsame heq]
  · intro other hfound hstays
    rw [hregisteredNext] at hfound
    by_cases heq : ref = other
    · subst heq
      rw [hmoved, hfindNode]
      exact ⟨target, htarget, (hentryIff _ _ _).mpr (Or.inl ⟨rfl, rfl, rfl⟩)⟩
    · obtain ⟨home, hhome, hkey⟩ := hpool.bound hfound (by simp)
      rw [hsame heq, hfindNode]
      refine ⟨home, hhome, (hentryIff _ _ _).mpr (Or.inr ⟨?_, hkey, ?_⟩)⟩
      · rintro ⟨hnode, hsameKey⟩
        apply hstays
        rw [hdisplaced, hnode, hsameKey]
        exact ⟨hkey, Ne.symm heq⟩
      · rintro ⟨-, -, hfoundRef⟩
        exact heq hfoundRef.symm
  · intro home other found hentry
    rw [hregisteredNext, hfindNode]
    rcases (hentryIff _ _ _).mp hentry with ⟨hnode, hkey, href⟩ | ⟨hnot, hold, hleft⟩
    · subst hnode
      subst hkey
      subst href
      rw [hmoved]
      refine ⟨hregistered, ?_, htarget, rfl⟩
      intro heq
      exact ((hdisplaced _).mp heq).2 rfl
    · obtain ⟨hfound, -, hhome, hkey⟩ := hpool.held hold
      have hne : ref ≠ found := by
        intro heq
        subst heq
        exact hleft ⟨Option.some.inj (hsource.symm.trans hhome), hkey, rfl⟩
      rw [hsame hne]
      refine ⟨hfound, ?_, hhome, hkey⟩
      intro heq
      obtain ⟨-, -, hnode, hsameKey⟩ := hpool.held ((hdisplaced found).mp heq).1
      exact hnot ⟨Option.some.inj (hnode.symm.trans hhome), hsameKey.symm.trans hkey⟩
  · intro id other hfound
    rw [created_rehome]
    rw [hfind] at hfound
    exact hpool.ranUe_created hfound
  · intro id other hfound
    rw [hfind] at hfound
    exact hpool.unsigned hfound
  · rw [registry_rehome]
    exact hpool.pool_valid
  · rw [registry_rehome]
    exact hpool.pool_signed
  · intro value
    rw [registry_rehome, hinUse]
    exact hpool.outstanding
  · intro value
    rw [registry_rehome, hassignedNext]
    exact hpool.passed
  · intro value
    rw [registry_rehome, hinUse, hassignedNext]
    exact hpool.accounted

end

/-! ## All steps -/

/-- Pool ids are well kept, and so is the pool of RAN UEs, without exception. -/
structure Sound (state : State) : Prop extends WellNumbered state where
  pool : state.PoolConsistent none

theorem sound_new (config : Config) : (State.new config).Sound where
  toWellNumbered := wellNumbered_new config
  pool := poolConsistent_new config

/-- Every step keeps a sound state sound, whatever the callers do. -/
theorem Sound.step {allowed : State → Operation → Prop} {state next : State}
    (hsound : state.Sound) (hstep : Step allowed state next) : next.Sound where
  toWellNumbered := hsound.toWellNumbered.step hstep
  pool := by
    have hpool := hsound.pool
    cases hstep with
    | describe hsame => exact hpool.congr hsame.samePool
    | attach _ _ _ => exact hpool.congr (state.samePool_attach ..)
    | detach ue access => exact hpool.congr (state.samePool_detach ue access)
    | release hlive => exact hpool.release hlive (by simp)
    | enlist key hregistered _ halloc => exact (hpool.enlist hregistered halloc).evict
    | rehome _ hlive hsource htarget =>
        exact (hpool.rehome hsound.toWellNumbered hlive hsource htarget).evict
    | enrol supi tmsi guti => exact hpool.congr {}
    | retire _ _ => exact hpool.congr {}
    | openNode connection =>
        exact hpool.congr (samePool_openNode hsound.toWellNumbered hpool connection)
    | closeNode hregistered hempty _ =>
        exact hpool.congr (samePool_closeNode hsound.toWellNumbered hregistered hempty _)
    | setAccess _ => exact hpool.congr (state.samePool_setAccess ..)

theorem ngapIds_reaches_release (state : State) (ref : Ref RanUe) :
    state.registry.ngapIds.Reaches (state.release ref).registry.ngapIds := by
  rw [registry_release]
  have hsame : state.registry.ngapIds.Reaches state.registry.ngapIds := IdPool.Reaches.refl
  split
  · dsimp only
    exact hsame.free _
  · exact hsame

theorem ngapIds_reaches_evict (state : State) (displaced : Option (Ref RanUe)) :
    state.registry.ngapIds.Reaches (state.evict displaced).registry.ngapIds := by
  cases displaced with
  | none => exact IdPool.Reaches.refl
  | some ref =>
      rw [State.evict]
      split
      · exact IdPool.Reaches.refl
      · exact state.ngapIds_reaches_release ref

/-- A step does to the pool of AMF UE NGAP ids nothing but take values and give them back. -/
theorem Step.ngapIds_reaches {allowed : State → Operation → Prop} {state next : State}
    (hstep : Step allowed state next) :
    state.registry.ngapIds.Reaches next.registry.ngapIds := by
  cases hstep with
  | describe hsame => exact hsame.ngapIds ▸ IdPool.Reaches.refl
  | attach _ _ _ => exact (state.samePool_attach ..).ngapIds ▸ IdPool.Reaches.refl
  | detach ue access => exact (state.samePool_detach ue access).ngapIds ▸ IdPool.Reaches.refl
  | release _ => exact state.ngapIds_reaches_release _
  | enlist key _ _ halloc =>
      have hsame : state.registry.ngapIds.Reaches state.registry.ngapIds := IdPool.Reaches.refl
      have hallocated := hsame.allocate
      rw [halloc] at hallocated
      refine IdPool.Reaches.trans ?_ (ngapIds_reaches_evict _ _)
      exact hallocated
  | rehome _ _ _ _ =>
      refine IdPool.Reaches.trans ?_ (ngapIds_reaches_evict _ _)
      rw [registry_rehome]
      exact IdPool.Reaches.refl
  | enrol supi tmsi guti => exact IdPool.Reaches.refl
  | retire _ _ => exact IdPool.Reaches.refl
  | openNode connection => exact IdPool.Reaches.refl
  | closeNode _ _ _ => exact IdPool.Reaches.refl
  | setAccess _ => exact IdPool.Reaches.refl

theorem Sound.describe {state next : State} (hsound : state.Sound)
    (hsame : state.SameWiring next) : next.Sound :=
  have hstep : Step Operation.Any state next := Step.describe hsame
  hsound.step hstep

end State

end AccessMobility
