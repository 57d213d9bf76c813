import AccessMobility.Proofs.Roster
import AccessMobility.Proofs.UeIsolation
import Mathlib.Data.List.Perm.Basic
import Mathlib.Data.Set.Insert

/-!
# Removing UEs and RAN UEs

The calls that tear something down remove RAN UEs and UEs one after another.  What they leave behind
depends on which ones these are, not on the order: this file describes the state from which exactly
a given set of UEs and a given set of RAN UEs have gone.  The description fixes the state up to the
order in which the values given back wait in the id pools, and removals that follow each other
combine to one.

A UE is removed together with every RAN UE that names it.  That its slots lead to exactly these is
not true of every state; it is where slots and back references agree, which a removal keeps.
-/

namespace AccessMobility

namespace IdPool

/-- Some values of a pool have been given back. -/
structure Returns (pool next : IdPool) (values : Set Int) : Prop where
  min_eq : next.min = pool.min
  max_eq : next.max = pool.max
  cursor_eq : next.cursor = pool.cursor
  valid : pool.Valid → next.Valid
  outstanding : ∀ value, next.Outstanding value ↔ pool.Outstanding value ∧ value ∉ values

/-- Two pools that differ at most in the order in which their values wait. -/
structure Reordered (pool next : IdPool) : Prop where
  range : next = { pool with waiting := next.waiting }
  waiting : next.waiting.Perm pool.waiting

theorem Returns.refl (pool : IdPool) : pool.Returns pool ∅ where
  min_eq := rfl
  max_eq := rfl
  cursor_eq := rfl
  valid := id
  outstanding value := by simp

theorem Returns.trans {first second third : IdPool} {values more : Set Int}
    (hfirst : first.Returns second values) (hsecond : second.Returns third more) :
    first.Returns third (values ∪ more) where
  min_eq := hsecond.min_eq.trans hfirst.min_eq
  max_eq := hsecond.max_eq.trans hfirst.max_eq
  cursor_eq := hsecond.cursor_eq.trans hfirst.cursor_eq
  valid hvalid := hsecond.valid (hfirst.valid hvalid)
  outstanding value := by
    rw [hsecond.outstanding, hfirst.outstanding, Set.mem_union, not_or, and_assoc]

theorem Returns.bounded {pool next : IdPool} {values : Set Int}
    (hreturns : pool.Returns next values) (hbounded : pool.Bounded) : next.Bounded where
  toValid := hreturns.valid hbounded.toValid
  max_lt := hreturns.max_eq ▸ hbounded.max_lt

theorem returns_free (pool : IdPool) (value : Int) :
    pool.Returns (pool.free value) {other | pool.InRange other ∧ value = other} where
  min_eq := pool.min_free value
  max_eq := pool.max_free value
  cursor_eq := pool.cursor_free value
  valid hvalid := hvalid.free value
  outstanding other := by
    rw [outstanding_free_iff, Set.mem_ofPred_eq]
    apply and_congr_right'
    apply not_congr
    constructor
    · rintro ⟨rfl, hrange⟩
      exact ⟨hrange, rfl⟩
    · rintro ⟨hrange, rfl⟩
      exact ⟨rfl, hrange⟩

theorem Bounded.returns_free {pool : IdPool} (hbounded : pool.Bounded) (value : Int) :
    pool.Returns (pool.free value) {value} where
  __ := pool.returns_free value
  outstanding other := by
    rw [hbounded.outstanding_free, Set.mem_singleton_iff]

theorem Valid.mem_waiting {pool : IdPool} (hvalid : pool.Valid) (value : Int) :
    value ∈ pool.waiting ↔
      (pool.min ≤ value ∧ pool.Passed value) ∧ ¬ pool.Outstanding value := by
  constructor
  · intro hmem
    exact ⟨hvalid.waiting_issued value hmem, fun hout => hout.2 hmem⟩
  · rintro ⟨⟨-, hpassed⟩, hnot⟩
    by_contra hmem
    exact hnot ⟨hpassed, hmem⟩

theorem Returns.reordered {pool left right : IdPool} {values : Set Int} (hvalid : pool.Valid)
    (hleft : pool.Returns left values) (hright : pool.Returns right values) :
    left.Reordered right where
  range := by
    cases left with | mk _ _ _ _ =>
    cases right with | mk _ _ _ _ =>
    have hmin := hright.min_eq.trans hleft.min_eq.symm
    have hmax := hright.max_eq.trans hleft.max_eq.symm
    have hcursor := hright.cursor_eq.trans hleft.cursor_eq.symm
    dsimp only at hmin hmax hcursor ⊢
    rw [hmin, hmax, hcursor]
  waiting := by
    have hvalidLeft := hleft.valid hvalid
    have hvalidRight := hright.valid hvalid
    rw [List.perm_ext_iff_of_nodup hvalidRight.waiting_nodup hvalidLeft.waiting_nodup]
    intro value
    rw [hvalidRight.mem_waiting, hvalidLeft.mem_waiting, hright.outstanding, hleft.outstanding,
      Passed, Passed, hright.min_eq, hright.cursor_eq, hleft.min_eq, hleft.cursor_eq]

end IdPool

theorem PerAccess.ext_get {α : Type} {left right : PerAccess α}
    (hget : ∀ access, left.get access = right.get access) : left = right := by
  cases left with | mk _ _ =>
  cases right with | mk _ _ =>
  have hthreeGpp := hget .threeGpp
  have hnonThreeGpp := hget .nonThreeGpp
  dsimp only [PerAccess.get] at hthreeGpp hnonThreeGpp
  rw [hthreeGpp, hnonThreeGpp]

namespace State

def tmsisOf (state : State) (ues : Set (Ref Ue)) : Set Int :=
  {tmsi | ∃ ue ∈ ues, (state.ue ue).tmsi = some tmsi}

/-- The AMF UE NGAP ids of RAN UEs that can be given back, which are those of the range. -/
def ngapIdsOf (state : State) (ranUes : Set (Ref RanUe)) : Set Int :=
  {value | state.registry.ngapIds.InRange value ∧
    ∃ ref ∈ ranUes, NgapId.toSigned (state.ranUe ref).ngapId = value}

@[simp] theorem tmsisOf_empty (state : State) : state.tmsisOf ∅ = ∅ := by
  simp [tmsisOf]

@[simp] theorem ngapIdsOf_empty (state : State) : state.ngapIdsOf ∅ = ∅ := by
  simp [ngapIdsOf]

/-- A set of registered UEs and a set of registered RAN UEs, among them all that name one of these
UEs, have left the registry, and nothing else has changed. -/
structure Removes (state next : State) (ues : Set (Ref Ue)) (ranUes : Set (Ref RanUe)) : Prop where
  ues_registered : ∀ ue ∈ ues, state.UeRegistered ue
  ranUes_registered : ∀ ref ∈ ranUes, state.RanUeRegistered ref
  closed : ∀ {ue ref}, ue ∈ ues → state.RanUeRegistered ref → state.ueOfRanUe ref = some ue →
    ref ∈ ranUes
  ue_kept : ∀ {ue}, ue ∉ ues → next.ue ue = { state.ue ue with slots := (next.ue ue).slots }
  ue_gone : ∀ {ue}, ue ∈ ues →
    next.ue ue =
      { state.ue ue with slots := (next.ue ue).slots, tmsi := none, subscriptions := ∅ }
  /-- A slot is emptied where the RAN UE it names is removed and names the UE back. -/
  slot : ∀ ue access ngapId, (next.ue ue).slots.get access = some ngapId ↔
    (state.ue ue).slots.get access = some ngapId ∧
      ¬ ∃ ref ∈ ranUes, state.ueOfRanUe ref = some ue ∧ (state.ranUe ref).ngapId = ngapId
  ranUe_kept : ∀ {ref}, ref ∉ ranUes → next.ranUe ref = state.ranUe ref
  ranUe_gone : ∀ {ref}, ref ∈ ranUes →
    next.ranUe ref = { state.ranUe ref with removed := true, ueId := none }
  node : ∀ node, next.node node = { state.node node with ranUes := (next.node node).ranUes }
  collections : ∀ node key ref, next.findRanUeByKey node key = some ref ↔
    state.findRanUeByKey node key = some ref ∧ ref ∉ ranUes
  created : next.created = state.created
  findUe : ∀ id ue, next.findUe id = some ue ↔ state.findUe id = some ue ∧ ue ∉ ues
  supiIndex : ∀ (supi : String) (id : Nat), next.registry.supiIndex[supi]? = some id ↔
    state.registry.supiIndex[supi]? = some id ∧ ∀ ue ∈ ues, (state.ue ue).id ≠ id
  findRanUe : ∀ id ref, next.findRanUe id = some ref ↔ state.findRanUe id = some ref ∧ ref ∉ ranUes
  tmsis : state.registry.tmsis.Returns next.registry.tmsis (state.tmsisOf ues)
  tmsis_kept : ues = ∅ → next.registry.tmsis = state.registry.tmsis
  ngapIds : state.registry.ngapIds.Returns next.registry.ngapIds (state.ngapIdsOf ranUes)
  registry : next.registry =
    { state.registry with
      ues := next.registry.ues
      supiIndex := next.registry.supiIndex
      ranUes := next.registry.ranUes
      tmsis := next.registry.tmsis
      ngapIds := next.registry.ngapIds }

/-- Two states that differ at most in the order in which values wait in the pools of 5G-TMSIs and of
AMF UE NGAP ids. -/
structure EqualUpToOrder (state next : State) : Prop where
  ue : next.ue = state.ue
  node : next.node = state.node
  ranUe : next.ranUe = state.ranUe
  created : next.created = state.created
  registry : next.registry =
    { state.registry with tmsis := next.registry.tmsis, ngapIds := next.registry.ngapIds }
  tmsis : state.registry.tmsis.Reordered next.registry.tmsis
  ngapIds : state.registry.ngapIds.Reordered next.registry.ngapIds

/-! ## Nothing is removed -/

theorem removes_nothing {state next : State} (hue : next.ue = state.ue)
    (hnode : next.node = state.node) (hranUe : next.ranUe = state.ranUe)
    (hcreated : next.created = state.created) (hregistry : next.registry = state.registry) :
    state.Removes next ∅ ∅ where
  ues_registered _ hmem := absurd hmem (Set.notMem_empty _)
  ranUes_registered _ hmem := absurd hmem (Set.notMem_empty _)
  closed hmem := absurd hmem (Set.notMem_empty _)
  ue_kept _ := by rw [hue]
  ue_gone hmem := absurd hmem (Set.notMem_empty _)
  slot ue access ngapId := by simp [hue]
  ranUe_kept _ := by rw [hranUe]
  ranUe_gone hmem := absurd hmem (Set.notMem_empty _)
  node node := by rw [hnode]
  collections node key ref := by simp [findRanUeByKey, hnode]
  created := hcreated
  findUe id ue := by simp [State.findUe, hregistry]
  supiIndex supi id := by simp [hregistry]
  findRanUe id ref := by simp [State.findRanUe, hregistry]
  tmsis := by
    rw [hregistry, tmsisOf_empty]
    exact IdPool.Returns.refl _
  tmsis_kept _ := by rw [hregistry]
  ngapIds := by
    rw [hregistry, ngapIdsOf_empty]
    exact IdPool.Returns.refl _
  registry := by rw [hregistry]

theorem Removes.refl (state : State) : state.Removes state ∅ ∅ :=
  removes_nothing rfl rfl rfl rfl rfl

/-! ## What is left -/

section

variable {state next : State} {ues : Set (Ref Ue)} {ranUes : Set (Ref RanUe)}
  (hremoves : state.Removes next ues ranUes)

include hremoves

theorem Removes.ue_id (ue : Ref Ue) : (next.ue ue).id = (state.ue ue).id := by
  by_cases hmem : ue ∈ ues
  · rw [hremoves.ue_gone hmem]
  · rw [hremoves.ue_kept hmem]

theorem Removes.ranUe_ngapId (ref : Ref RanUe) :
    (next.ranUe ref).ngapId = (state.ranUe ref).ngapId := by
  by_cases hmem : ref ∈ ranUes
  · rw [hremoves.ranUe_gone hmem]
  · rw [hremoves.ranUe_kept hmem]

theorem Removes.node_id (node : Ref RadioNode) : (next.node node).id = (state.node node).id := by
  rw [hremoves.node]

theorem Removes.ueRegistered_iff (ue : Ref Ue) :
    next.UeRegistered ue ↔ state.UeRegistered ue ∧ ue ∉ ues := by
  unfold UeRegistered
  rw [hremoves.findUe, hremoves.ue_id]

theorem Removes.ranUeRegistered_iff (ref : Ref RanUe) :
    next.RanUeRegistered ref ↔ state.RanUeRegistered ref ∧ ref ∉ ranUes := by
  unfold RanUeRegistered
  rw [hremoves.findRanUe, hremoves.ranUe_ngapId]

theorem Removes.findNode_eq : next.findNode = state.findNode := by
  funext id
  unfold State.findNode
  rw [hremoves.registry]

theorem Removes.nodeRegistered_iff (node : Ref RadioNode) :
    next.NodeRegistered node ↔ state.NodeRegistered node := by
  unfold NodeRegistered
  rw [hremoves.findNode_eq, hremoves.node_id]

theorem Removes.ueOfRanUe_iff (ref : Ref RanUe) (ue : Ref Ue) :
    next.ueOfRanUe ref = some ue ↔ state.ueOfRanUe ref = some ue ∧ ref ∉ ranUes ∧ ue ∉ ues := by
  unfold ueOfRanUe
  by_cases hmem : ref ∈ ranUes
  · rw [hremoves.ranUe_gone hmem]
    simp [hmem]
  · rw [hremoves.ranUe_kept hmem, Option.bind_eq_some_iff, Option.bind_eq_some_iff]
    simp only [hremoves.findUe, hmem, not_false_eq_true, true_and]
    constructor
    · rintro ⟨id, hnamed, hfound, hkept⟩
      exact ⟨⟨id, hnamed, hfound⟩, hkept⟩
    · rintro ⟨⟨id, hnamed, hfound⟩, hkept⟩
      exact ⟨id, hnamed, hfound, hkept⟩

/-- A RAN UE that is still registered names the UE it named before. -/
theorem Removes.ueOfRanUe_kept {ref : Ref RanUe} (hregistered : next.RanUeRegistered ref)
    (ue : Ref Ue) : next.ueOfRanUe ref = some ue ↔ state.ueOfRanUe ref = some ue := by
  obtain ⟨hold, hmem⟩ := (hremoves.ranUeRegistered_iff ref).mp hregistered
  rw [hremoves.ueOfRanUe_iff]
  constructor
  · exact And.left
  · intro howner
    exact ⟨howner, hmem, fun hgone => hmem (hremoves.closed hgone hold howner)⟩

/-- A UE none of whose RAN UEs is removed keeps its slots. -/
theorem Removes.ue_eq {ue : Ref Ue} (hmem : ue ∉ ues)
    (hspared : ∀ ref ∈ ranUes, state.ueOfRanUe ref ≠ some ue) : next.ue ue = state.ue ue := by
  have hslots : (next.ue ue).slots = (state.ue ue).slots := by
    apply PerAccess.ext_get
    intro access
    apply Option.ext
    intro ngapId
    rw [hremoves.slot]
    constructor
    · exact And.left
    · intro hslot
      refine ⟨hslot, ?_⟩
      rintro ⟨ref, hgone, howner, -⟩
      exact hspared ref hgone howner
  rw [hremoves.ue_kept hmem, hslots]

/-- A radio node none of whose RAN UEs is removed is as it was. -/
theorem Removes.node_eq {node : Ref RadioNode}
    (hspared : ∀ key ref, state.findRanUeByKey node key = some ref → ref ∉ ranUes) :
    next.node node = state.node node := by
  have htable : (next.node node).ranUes = (state.node node).ranUes := by
    apply Table.ext_entries
    intro key ref
    refine (hremoves.collections node key ref).trans ?_
    constructor
    · exact And.left
    · intro hentry
      exact ⟨hentry, hspared key ref hentry⟩
  rw [hremoves.node, htable]

end

/-! ## One removal after another -/

section

variable {first second third : State} {ues moreUes : Set (Ref Ue)}
  {ranUes moreRanUes : Set (Ref RanUe)}

theorem Removes.tmsisOf_union (hfirst : first.Removes second ues ranUes)
    (hsecond : second.Removes third moreUes moreRanUes) :
    first.tmsisOf ues ∪ second.tmsisOf moreUes = first.tmsisOf (ues ∪ moreUes) := by
  have hmore (ue : Ref Ue) (hmem : ue ∈ moreUes) :
      (second.ue ue).tmsi = (first.ue ue).tmsi := by
    have hkept := ((hfirst.ueRegistered_iff ue).mp (hsecond.ues_registered ue hmem)).2
    rw [hfirst.ue_kept hkept]
  ext tmsi
  simp only [tmsisOf, Set.mem_union, Set.mem_ofPred_eq]
  constructor
  · rintro (⟨ue, hmem, hsome⟩ | ⟨ue, hmem, hsome⟩)
    · exact ⟨ue, Or.inl hmem, hsome⟩
    · exact ⟨ue, Or.inr hmem, hmore ue hmem ▸ hsome⟩
  · rintro ⟨ue, hmem | hmem, hsome⟩
    · exact Or.inl ⟨ue, hmem, hsome⟩
    · exact Or.inr ⟨ue, hmem, (hmore ue hmem).trans hsome⟩

theorem Removes.ngapIdsOf_union (hfirst : first.Removes second ues ranUes)
    (more : Set (Ref RanUe)) :
    first.ngapIdsOf ranUes ∪ second.ngapIdsOf more = first.ngapIdsOf (ranUes ∪ more) := by
  have hrange (value : Int) :
      second.registry.ngapIds.InRange value ↔ first.registry.ngapIds.InRange value := by
    rw [IdPool.InRange, hfirst.ngapIds.min_eq, hfirst.ngapIds.max_eq, IdPool.InRange]
  ext value
  simp only [ngapIdsOf, Set.mem_union, Set.mem_ofPred_eq, hfirst.ranUe_ngapId, hrange]
  rw [← and_or_left]
  apply and_congr_right'
  constructor
  · rintro (⟨ref, hmem, hvalue⟩ | ⟨ref, hmem, hvalue⟩)
    · exact ⟨ref, Or.inl hmem, hvalue⟩
    · exact ⟨ref, Or.inr hmem, hvalue⟩
  · rintro ⟨ref, hmem | hmem, hvalue⟩
    · exact Or.inl ⟨ref, hmem, hvalue⟩
    · exact Or.inr ⟨ref, hmem, hvalue⟩

/-- Two removals that follow each other are one removal of all that both remove. -/
theorem Removes.trans (hfirst : first.Removes second ues ranUes)
    (hsecond : second.Removes third moreUes moreRanUes) :
    first.Removes third (ues ∪ moreUes) (ranUes ∪ moreRanUes) := by
  have hues {ue : Ref Ue} (hmem : ue ∈ moreUes) : first.UeRegistered ue ∧ ue ∉ ues :=
    (hfirst.ueRegistered_iff ue).mp (hsecond.ues_registered ue hmem)
  have hranUes {ref : Ref RanUe} (hmem : ref ∈ moreRanUes) :
      first.RanUeRegistered ref ∧ ref ∉ ranUes :=
    (hfirst.ranUeRegistered_iff ref).mp (hsecond.ranUes_registered ref hmem)
  constructor
  case ues_registered =>
    rintro ue (hmem | hmem)
    · exact hfirst.ues_registered ue hmem
    · exact (hues hmem).1
  case ranUes_registered =>
    rintro ref (hmem | hmem)
    · exact hfirst.ranUes_registered ref hmem
    · exact (hranUes hmem).1
  case closed =>
    rintro ue ref hmem hregistered howner
    by_cases hgone : ref ∈ ranUes
    · exact Or.inl hgone
    · have hkept := (hfirst.ranUeRegistered_iff ref).mpr ⟨hregistered, hgone⟩
      rcases hmem with hmem | hmem
      · exact Or.inl (hfirst.closed hmem hregistered howner)
      · exact Or.inr (hsecond.closed hmem hkept ((hfirst.ueOfRanUe_kept hkept ue).mpr howner))
  case ue_kept =>
    intro ue hmem
    rw [Set.mem_union, not_or] at hmem
    rw [hsecond.ue_kept hmem.2, hfirst.ue_kept hmem.1]
  case ue_gone =>
    intro ue hmem
    by_cases hgone : ue ∈ ues
    · have hnot : ue ∉ moreUes := fun hmore => (hues hmore).2 hgone
      rw [hsecond.ue_kept hnot, hfirst.ue_gone hgone]
    · have hmore : ue ∈ moreUes := hmem.resolve_left hgone
      rw [hsecond.ue_gone hmore, hfirst.ue_kept hgone]
  case slot =>
    intro ue access ngapId
    rw [hsecond.slot, hfirst.slot, and_assoc, ← not_or]
    refine and_congr_right fun _ => not_congr ?_
    simp only [hfirst.ranUe_ngapId]
    constructor
    · rintro (⟨ref, hmem, howner, hid⟩ | ⟨ref, hmem, howner, hid⟩)
      · exact ⟨ref, Or.inl hmem, howner, hid⟩
      · exact ⟨ref, Or.inr hmem, ((hfirst.ueOfRanUe_iff ref ue).mp howner).1, hid⟩
    · rintro ⟨ref, hmem | hmem, howner, hid⟩
      · exact Or.inl ⟨ref, hmem, howner, hid⟩
      · exact Or.inr ⟨ref, hmem,
          (hfirst.ueOfRanUe_kept (hsecond.ranUes_registered ref hmem) ue).mpr howner, hid⟩
  case ranUe_kept =>
    intro ref hmem
    rw [Set.mem_union, not_or] at hmem
    rw [hsecond.ranUe_kept hmem.2, hfirst.ranUe_kept hmem.1]
  case ranUe_gone =>
    intro ref hmem
    by_cases hgone : ref ∈ ranUes
    · have hnot : ref ∉ moreRanUes := fun hmore => (hranUes hmore).2 hgone
      rw [hsecond.ranUe_kept hnot, hfirst.ranUe_gone hgone]
    · have hmore : ref ∈ moreRanUes := hmem.resolve_left hgone
      rw [hsecond.ranUe_gone hmore, hfirst.ranUe_kept hgone]
  case node =>
    intro node
    rw [hsecond.node, hfirst.node]
  case collections =>
    intro node key ref
    rw [hsecond.collections, hfirst.collections, Set.mem_union, not_or, and_assoc]
  case created =>
    exact hsecond.created.trans hfirst.created
  case findUe =>
    intro id ue
    rw [hsecond.findUe, hfirst.findUe, Set.mem_union, not_or, and_assoc]
  case supiIndex =>
    intro supi id
    rw [hsecond.supiIndex, hfirst.supiIndex, and_assoc]
    simp only [hfirst.ue_id, Set.mem_union]
    apply and_congr_right'
    constructor
    · rintro ⟨hne, hneMore⟩ ue (hmem | hmem)
      · exact hne ue hmem
      · exact hneMore ue hmem
    · intro hne
      exact ⟨fun ue hmem => hne ue (Or.inl hmem), fun ue hmem => hne ue (Or.inr hmem)⟩
  case findRanUe =>
    intro id ref
    rw [hsecond.findRanUe, hfirst.findRanUe, Set.mem_union, not_or, and_assoc]
  case tmsis =>
    rw [← hfirst.tmsisOf_union hsecond]
    exact hfirst.tmsis.trans hsecond.tmsis
  case tmsis_kept =>
    intro hnone
    rw [Set.union_empty_iff] at hnone
    exact (hsecond.tmsis_kept hnone.2).trans (hfirst.tmsis_kept hnone.1)
  case ngapIds =>
    rw [← hfirst.ngapIdsOf_union]
    exact hfirst.ngapIds.trans hsecond.ngapIds
  case registry =>
    have hregistry := hsecond.registry
    rw [hfirst.registry] at hregistry
    exact hregistry

/-- What is removed determines the state, but for the order in which values wait. -/
theorem Removes.equalUpToOrder {state left right : State} (htmsis : state.registry.tmsis.Valid)
    (hngapIds : state.registry.ngapIds.Valid) (hleft : state.Removes left ues ranUes)
    (hright : state.Removes right ues ranUes) : left.EqualUpToOrder right := by
  have hslots (ue : Ref Ue) : (right.ue ue).slots = (left.ue ue).slots := by
    apply PerAccess.ext_get
    intro access
    apply Option.ext
    intro ngapId
    rw [hright.slot, hleft.slot]
  have hues : right.registry.ues = left.registry.ues := by
    apply Table.ext_entries
    intro id ue
    exact (hright.findUe id ue).trans (hleft.findUe id ue).symm
  have hsupiIndex : right.registry.supiIndex = left.registry.supiIndex := by
    apply Table.ext_entries
    intro supi id
    exact (hright.supiIndex supi id).trans (hleft.supiIndex supi id).symm
  have hpool : right.registry.ranUes = left.registry.ranUes := by
    apply Table.ext_entries
    intro id ref
    exact (hright.findRanUe id ref).trans (hleft.findRanUe id ref).symm
  have hcollections (node : Ref RadioNode) :
      (right.node node).ranUes = (left.node node).ranUes := by
    apply Table.ext_entries
    intro key ref
    exact (hright.collections node key ref).trans (hleft.collections node key ref).symm
  constructor
  case ue =>
    funext ue
    by_cases hmem : ue ∈ ues
    · rw [hright.ue_gone hmem, hleft.ue_gone hmem, hslots]
    · rw [hright.ue_kept hmem, hleft.ue_kept hmem, hslots]
  case node =>
    funext node
    rw [hright.node, hleft.node, hcollections]
  case ranUe =>
    funext ref
    by_cases hmem : ref ∈ ranUes
    · rw [hright.ranUe_gone hmem, hleft.ranUe_gone hmem]
    · rw [hright.ranUe_kept hmem, hleft.ranUe_kept hmem]
  case created =>
    exact hright.created.trans hleft.created.symm
  case registry =>
    have hregistry := hright.registry
    rw [hues, hsupiIndex, hpool] at hregistry
    rw [hregistry, hleft.registry]
  case tmsis =>
    exact hleft.tmsis.reordered htmsis hright.tmsis
  case ngapIds =>
    exact hleft.ngapIds.reordered hngapIds hright.ngapIds

end

/-! ## Releasing RAN UEs -/

/-- A registered RAN UE that is released is removed, and nothing else is. -/
theorem removes_release {state : State} (hsound : state.Sound) {ref : Ref RanUe}
    (hregistered : state.RanUeRegistered ref) : state.Removes (state.release ref) ∅ {ref} := by
  have hsame := state.sameRoster_release ref
  constructor
  case ues_registered =>
    intro ue hmem
    exact absurd hmem (Set.notMem_empty ue)
  case ranUes_registered =>
    intro other hmem
    rw [Set.mem_singleton_iff] at hmem
    exact hmem ▸ hregistered
  case closed =>
    intro ue other hmem
    exact absurd hmem (Set.notMem_empty ue)
  case ue_kept =>
    intro ue _
    rw [ue_release]
    split <;> rfl
  case ue_gone =>
    intro ue hmem
    exact absurd hmem (Set.notMem_empty ue)
  case slot =>
    intro ue access ngapId
    simp only [Set.mem_singleton_iff, exists_eq_left]
    rw [ue_release]
    split
    next howner =>
      rw [Ue.unlink, PerAccess.get_map, Option.filter_eq_some_iff, decide_eq_true_eq]
      simp only [howner, true_and, ne_eq, eq_comm]
    next howner => simp [howner]
  case ranUe_kept =>
    intro other hmem
    exact ranUe_release_of_ne hmem
  case ranUe_gone =>
    intro other hmem
    rw [Set.mem_singleton_iff] at hmem
    rw [hmem, ranUe_release, if_pos rfl]
  case node =>
    intro node
    rw [node_release]
    split <;> rfl
  case collections =>
    intro node key other
    rw [findRanUeByKey_release, Set.mem_singleton_iff]
    apply and_congr_right
    intro hentry
    apply not_congr
    constructor
    · rintro ⟨-, -, heq⟩
      exact heq
    · intro heq
      subst heq
      obtain ⟨-, -, hhome, hkey⟩ := hsound.pool.held hentry
      exact ⟨hhome, hkey, rfl⟩
  case created =>
    exact state.created_release ref
  case findUe =>
    intro id ue
    rw [hsame.findUe_eq]
    exact (and_iff_left (Set.notMem_empty ue)).symm
  case supiIndex =>
    intro supi id
    rw [hsame.supiIndex]
    simp
  case findRanUe =>
    intro id other
    exact hsound.pool.findRanUe_release hregistered id other
  case tmsis =>
    rw [hsame.tmsis, tmsisOf_empty]
    exact IdPool.Returns.refl _
  case tmsis_kept =>
    intro _
    exact hsame.tmsis
  case ngapIds =>
    have hvalue : state.ngapIdsOf {ref} = {value | state.registry.ngapIds.InRange value ∧
        NgapId.toSigned (state.ranUe ref).ngapId = value} := by
      simp only [ngapIdsOf, Set.mem_singleton_iff, exists_eq_left]
    rw [registry_release, if_pos hregistered, hvalue]
    dsimp only
    exact IdPool.returns_free _ _
  case registry =>
    rw [registry_release, if_pos hregistered]

/-- A RAN UE that was removed before is in no collection. -/
theorem removes_leaveCollection {state : State} (hsound : state.Sound) {ref : Ref RanUe}
    (hremoved : (state.ranUe ref).removed = true) (node : Ref RadioNode) (key : Int) :
    state.Removes (state.leaveCollection node key ref) ∅ ∅ := by
  have hsame := sameWiring_leaveCollection hsound.pool hremoved node key
  refine removes_nothing rfl ?_ rfl rfl rfl
  funext other
  have htable := hsame.node_ranUes other
  rw [node_leaveCollection] at htable ⊢
  split
  next heq =>
    subst heq
    rw [if_pos rfl] at htable
    dsimp only at htable ⊢
    rw [htable]
  next => rfl

/-- A RAN UE that may have been removed before is released and erased from a collection. -/
theorem removes_evict {state : State} (hsound : state.Sound) (node : Ref RadioNode) (key : Int)
    (ref : Ref RanUe) :
    state.Removes ((state.evict (some ref)).leaveCollection node key ref) ∅
      {other | state.RanUeRegistered other ∧ other = ref} := by
  have hevicted : state.Removes (state.evict (some ref)) ∅
      {other | state.RanUeRegistered other ∧ other = ref} := by
    by_cases hregistered : state.RanUeRegistered ref
    · have hlive := (hsound.pool.live ref).mpr hregistered
      have hset : {other | state.RanUeRegistered other ∧ other = ref} = {ref} := by
        ext other
        constructor
        · exact And.right
        · intro heq
          rw [Set.mem_singleton_iff] at heq
          exact ⟨heq ▸ hregistered, heq⟩
      rw [hset, evict, hlive, if_neg Bool.false_ne_true]
      exact removes_release hsound hregistered
    · have hremoved : (state.ranUe ref).removed = true := by
        by_contra hlive
        exact hregistered ((hsound.pool.live ref).mp (by simpa using hlive))
      have hset : {other | state.RanUeRegistered other ∧ other = ref} = ∅ := by
        ext other
        constructor
        · rintro ⟨hother, heq⟩
          exact absurd (heq ▸ hother) hregistered
        · intro hmem
          exact absurd hmem (Set.notMem_empty other)
      rw [hset, evict, if_pos hremoved]
      exact Removes.refl state
  have hevict : Steps Operation.Any state (state.evict (some ref)) := state.evict_steps ref
  have hboth := hevicted.trans
    (removes_leaveCollection (hevict.sound hsound) (state.removed_evict ref) node key)
  rw [Set.union_empty, Set.union_empty] at hboth
  exact hboth

/-- The RAN UEs in the collection of a radio node. -/
def held (state : State) (node : Ref RadioNode) : Set (Ref RanUe) :=
  {ref | ∃ key, state.findRanUeByKey node key = some ref}

theorem refs_of_perm {state : State} {node : Ref RadioNode} {entries : List (Int × Ref RanUe)}
    (hperm : entries.Perm (state.node node).ranUes.toList) :
    {ref | ref ∈ entries.map Prod.snd} = state.held node := by
  ext ref
  exact (hperm.map Prod.snd).mem_iff.trans (state.mem_collection node ref)

end State

end AccessMobility
