import AccessMobility.Proofs.IndexAgreement
import AccessMobility.Proofs.RadioNodeReset
import AccessMobility.Proofs.RemovedObjects

/-!
# Taking over a SUPI

A UE that is created under a SUPI in use replaces the UE that had it.  The new one is enrolled while
the old one is still in the pool, then the old one is ousted: it leaves the pool, is detached over
every access and gives its 5G-TMSI back.  An ousted UE lets go of the RAN UEs in its slots only.
Where slots and back references agree, these are all the RAN UEs that are attached to it, so that
none of them is left behind with the pool id of a UE that is gone.
-/

namespace AccessMobility

namespace State

/-! ## Ousting a UE -/

def oust (state : State) (id : Nat) (ue : Ref Ue) : State :=
  (State.detachAll { state with registry.ues := state.registry.ues.erase id } ue).surrender ue

section

variable (state : State)

theorem ue_oust (id : Nat) (ue other : Ref Ue) :
    (state.oust id ue).ue other =
      if ue = other then { state.ue ue with slots := .both none, tmsi := none }
      else state.ue other := by
  show (State.setUe _ ue _).ue other = _
  rw [ue_setUe, detachAll_withUes]
  show (if ue = other then { (state.detachAll ue).ue ue with tmsi := none }
    else (state.detachAll ue).ue other) = _
  rw [ue_detachAll, if_pos rfl, ue_detachAll]
  split <;> rfl

theorem ranUe_oust (id : Nat) (ue : Ref Ue) :
    (state.oust id ue).ranUe = (state.detachAll ue).ranUe := by
  rw [oust, detachAll_withUes]
  rfl

@[simp] theorem node_oust (id : Nat) (ue : Ref Ue) : (state.oust id ue).node = state.node := by
  rw [oust, detachAll_withUes]
  exact state.node_detachAll ue

@[simp] theorem created_oust (id : Nat) (ue : Ref Ue) :
    (state.oust id ue).created = state.created := by
  rw [oust, detachAll_withUes]
  exact state.created_detachAll ue

theorem registry_oust (id : Nat) (ue : Ref Ue) :
    (state.oust id ue).registry =
      { state.registry with
        ues := state.registry.ues.erase id
        tmsis := (state.ue ue).tmsi.elim state.registry.tmsis state.registry.tmsis.free } := by
  have htmsi : ((state.detachAll ue).ue ue).tmsi = (state.ue ue).tmsi := by
    rw [ue_detachAll, if_pos rfl]
  have hregistry := state.registry_detachAll ue
  rw [oust, detachAll_withUes]
  show { (state.detachAll ue).registry with
    ues := state.registry.ues.erase id
    tmsis := ((state.detachAll ue).ue ue).tmsi.elim (state.detachAll ue).registry.tmsis
      (state.detachAll ue).registry.tmsis.free } = _
  rw [htmsi, hregistry]

end

/-! ## A new UE in the place of another -/

/-- A new UE has taken its place under a SUPI, the UE that had it, if there is one, is ousted and
has left every RAN UE that was attached to it, and nothing else has changed. -/
structure TakesOver (state next : State) (supi : String) (old : Option (Ref Ue)) : Prop where
  ue_new : ∃ tmsi guti,
    next.ue state.entities.ues.fresh = { id := state.registry.nextUeId, supi, tmsi, guti }
  ue_old : ∀ {ue}, old = some ue →
    next.ue ue = { state.ue ue with slots := .both none, tmsi := none }
  ue_kept : ∀ {ue}, state.entities.ues.fresh ≠ ue → old ≠ some ue → next.ue ue = state.ue ue
  ranUe_left : ∀ {ref ue}, old = some ue → state.ueOfRanUe ref = some ue →
    next.ranUe ref = { state.ranUe ref with ueId := none }
  ranUe_kept : ∀ {ref}, (∀ ue, old = some ue → state.ueOfRanUe ref ≠ some ue) →
    next.ranUe ref = state.ranUe ref
  node : next.node = state.node
  created : next.created = (state.created.1 + 1, state.created.2)
  findUe : ∀ id ue, next.findUe id = some ue ↔
    (state.registry.nextUeId = id ∧ state.entities.ues.fresh = ue) ∨
      (state.findUe id = some ue ∧ old ≠ some ue)
  size : next.registry.ues.size = state.registry.ues.size + if old = none then 1 else 0
  tmsi_freed : ∀ {ue tmsi}, old = some ue → (state.ue ue).tmsi = some tmsi →
    ¬ next.registry.tmsis.Outstanding tmsi
  registry : next.registry =
    { state.registry with
      ues := next.registry.ues
      supiIndex := state.registry.supiIndex.insert supi state.registry.nextUeId
      tmsis := next.registry.tmsis
      nextUeId := state.registry.nextUeId + 1 }

section

variable {state : State} {supi : String} (hsupi : supi ≠ "") (tmsis : IdPool) (tmsi : Option Int)
  (guti : Option String)

include hsupi

theorem registry_enrol_supi :
    ((state.withTmsis tmsis).enrol supi tmsi guti).registry =
      { state.registry with
        ues := state.registry.ues.insert state.registry.nextUeId state.entities.ues.fresh
        supiIndex := state.registry.supiIndex.insert supi state.registry.nextUeId
        tmsis
        nextUeId := state.registry.nextUeId + 1 } := by
  simp only [enrol, if_neg hsupi]
  rfl

variable (hsound : state.Sound)

include hsound

/-- Where the SUPI is free, the new UE is enrolled and that is all. -/
theorem takesOver_enrol :
    state.TakesOver ((state.withTmsis tmsis).enrol supi tmsi guti) supi none := by
  have hue (other : Ref Ue) := (state.withTmsis tmsis).ue_enrol supi tmsi guti other
  have hfree : state.registry.ues[state.registry.nextUeId]? = none := by
    cases hfind : state.registry.ues[state.registry.nextUeId]? with
    | none => rfl
    | some ue => exact absurd (hsound.findUe_lt hfind) (Nat.lt_irrefl _)
  have hregistry := @registry_enrol_supi state supi hsupi tmsis tmsi guti
  constructor
  case ue_new =>
    exact ⟨tmsi, guti, (hue _).trans (if_pos rfl)⟩
  case ue_old =>
    intro ue hnone
    cases hnone
  case ue_kept =>
    intro ue hne _
    exact (hue ue).trans (if_neg hne)
  case ranUe_left =>
    intro ref ue hnone
    cases hnone
  case ranUe_kept =>
    intro ref _
    rfl
  case node => rfl
  case created => rfl
  case findUe =>
    intro id ue
    rw [State.findUe, hregistry, Table.lookup_insert, State.findUe]
    by_cases hid : state.registry.nextUeId = id
    · subst hid
      simp [hfree]
    · simp [hid]
  case size =>
    rw [hregistry]
    exact Table.size_insert_free hfree _
  case tmsi_freed =>
    intro ue value hnone
    cases hnone
  case registry =>
    rw [hregistry]

end

section

variable {state enrolled : State} {supi : String}

/-- The UE that had the SUPI is ousted once the new UE is enrolled. -/
theorem TakesOver.oust (henrolled : state.TakesOver enrolled supi none) (hsound : state.Sound)
    (hlinked : state.LinkedLive) (hagree : state.LinksAgree)
    (hbounded : enrolled.registry.tmsis.Bounded) {old : Ref Ue}
    (hregistered : state.UeRegistered old) :
    state.TakesOver (enrolled.oust (state.ue old).id old) supi (some old) := by
  have hfresh : state.entities.ues.fresh ≠ old := hsound.ue_ne_fresh hregistered
  have hold : enrolled.ue old = state.ue old := henrolled.ue_kept hfresh (by simp)
  have hranUe (ref : Ref RanUe) : enrolled.ranUe ref = state.ranUe ref :=
    henrolled.ranUe_kept (fun ue hnone => nomatch hnone)
  have hfindRanUe : enrolled.findRanUe = state.findRanUe := by
    funext id
    rw [State.findRanUe, henrolled.registry, State.findRanUe]
  have hfindUe : enrolled.findUe (state.ue old).id = some old :=
    (henrolled.findUe _ old).mpr (Or.inr ⟨hregistered, by simp⟩)
  have hregistry := enrolled.registry_oust (state.ue old).id old
  constructor
  case ue_new =>
    rw [ue_oust, if_neg hfresh.symm]
    exact henrolled.ue_new
  case ue_old =>
    intro ue hsome
    obtain rfl := Option.some.inj hsome
    rw [ue_oust, if_pos rfl, hold]
  case ue_kept =>
    intro ue hne hother
    rw [ue_oust, if_neg fun heq => hother (congrArg some heq)]
    exact henrolled.ue_kept hne (by simp)
  case ranUe_left =>
    intro ref ue hsome howner
    obtain rfl := Option.some.inj hsome
    obtain ⟨-, hback⟩ := (hsound.ueOfRanUe_iff ref old).mp howner
    have hfound : state.findRanUe (state.ranUe ref).ngapId = some ref :=
      (hsound.pool.live ref).mp (hlinked ref _ hback)
    obtain ⟨ue, access, hue, hslot⟩ := hagree.back hfound hback
    obtain rfl := Option.some.inj (hue.symm.trans hregistered)
    have hnamed : ((state.ue ue).slot access).bind state.findRanUe = some ref := by
      rw [hslot]
      exact hfound
    rw [ranUe_oust, ranUe_detachAll, hranUe, hfindRanUe, hold, if_pos]
    refine ⟨?_, hback⟩
    cases access with
    | threeGpp => exact Or.inl hnamed
    | nonThreeGpp => exact Or.inr hnamed
  case ranUe_kept =>
    intro ref hother
    rw [ranUe_oust, ranUe_detachAll, hranUe, hold, if_neg]
    rintro ⟨-, hback⟩
    exact hother old rfl ((hsound.ueOfRanUe_iff ref old).mpr ⟨hregistered, hback⟩)
  case node =>
    rw [node_oust, henrolled.node]
  case created =>
    rw [created_oust, henrolled.created]
  case findUe =>
    intro id ue
    rw [State.findUe, hregistry, Table.lookup_erase]
    by_cases hid : (state.ue old).id = id
    · subst hid
      rw [if_pos rfl, hregistered, Option.some.injEq]
      have hlt := hsound.findUe_lt hregistered
      simp only [reduceCtorEq, false_iff, not_or]
      exact ⟨fun hnew => absurd hnew.1 (Nat.ne_of_gt hlt),
        fun hsame => hsame.2 (congrArg some hsame.1)⟩
    · rw [if_neg hid]
      refine (henrolled.findUe id ue).trans (or_congr_right (and_congr_right ?_))
      intro hfound
      refine iff_of_true (by simp) ?_
      intro hsame
      obtain rfl := Option.some.inj hsame
      exact hid (hsound.ue_id hfound)
  case size =>
    rw [hregistry]
    refine (Table.size_erase_used hfindUe).trans ?_
    rw [henrolled.size]
    simp
  case tmsi_freed =>
    intro ue tmsi hsome htmsi
    obtain rfl := Option.some.inj hsome
    rw [hregistry, hold, htmsi]
    show ¬ (enrolled.registry.tmsis.free tmsi).Outstanding tmsi
    rw [hbounded.outstanding_free]
    exact fun hout => hout.2 rfl
  case registry =>
    rw [hregistry, henrolled.registry]

end

/-- No pool id, SUPI, 5G-GUTI or policy association leads to a UE. -/
structure Unfound (state : State) (ue : Ref Ue) : Prop where
  byId : ∀ id, state.findUe id ≠ some ue
  bySupi : ∀ supi, state.findUeBySupi supi ≠ some ue
  byGuti : ∀ guti, state.findUeByGuti guti ≠ some ue
  byPolicy : ∀ id, state.findUeByPolicy id ≠ some ue

/-- Every way to a UE leads through the pool. -/
theorem unfound_of_findUe {state : State} {ue : Ref Ue} (hgone : ∀ id, state.findUe id ≠ some ue) :
    state.Unfound ue := by
  have hwith (test : Ue → Bool) : state.findUeWith test ≠ some ue := by
    intro hfind
    obtain ⟨id, hentry⟩ := Table.mem_values.mp (List.mem_of_find?_eq_some hfind)
    exact hgone id hentry
  refine ⟨hgone, ?_, fun _ => hwith _, fun _ => hwith _⟩
  intro supi hfind
  rw [findUeBySupi] at hfind
  split at hfind
  next => cases hfind
  next =>
    obtain ⟨id, -, hfound⟩ := Option.bind_eq_some_iff.mp hfind
    exact hgone id hfound

section

variable {state next : State} {supi : String} {old : Option (Ref Ue)}
  (htakes : state.TakesOver next supi old)

include htakes

theorem TakesOver.findRanUe_eq : next.findRanUe = state.findRanUe := by
  funext id
  rw [State.findRanUe, htakes.registry, State.findRanUe]

theorem TakesOver.findUeBySupi_new (hsupi : supi ≠ "") :
    next.findUeBySupi supi = some state.entities.ues.fresh := by
  rw [findUeBySupi, if_neg hsupi, htakes.registry, Table.lookup_insert, if_pos rfl,
    Option.bind_some, htakes.findUe]
  exact Or.inl ⟨rfl, rfl⟩

variable (hsound : state.Sound)

include hsound

theorem TakesOver.ueRegistered_iff (ue : Ref Ue) :
    next.UeRegistered ue ↔
      state.entities.ues.fresh = ue ∨ (state.UeRegistered ue ∧ old ≠ some ue) := by
  obtain ⟨tmsi, guti, hnew⟩ := htakes.ue_new
  rw [UeRegistered, htakes.findUe]
  by_cases hfresh : state.entities.ues.fresh = ue
  · subst hfresh
    rw [hnew]
    simp
  · constructor
    · rintro (⟨-, heq⟩ | ⟨hfound, hkept⟩)
      · exact absurd heq hfresh
      · exact Or.inr ⟨hsound.ueRegistered_of_find hfound, hkept⟩
    · rintro (heq | ⟨hregistered, hkept⟩)
      · exact absurd heq hfresh
      · rw [htakes.ue_kept hfresh hkept]
        exact Or.inr ⟨hregistered, hkept⟩

/-- The UE that lost its SUPI is out of reach. -/
theorem TakesOver.unfound {ue : Ref Ue} (hregistered : state.UeRegistered ue)
    (hold : old = some ue) : next.Unfound ue := by
  apply unfound_of_findUe
  intro id hfind
  rcases (htakes.findUe id ue).mp hfind with ⟨-, hfresh⟩ | ⟨-, hkept⟩
  · exact hsound.ue_ne_fresh hregistered hfresh
  · exact hkept hold

/-- A RAN UE that was attached to the ousted UE is still in the pool and with its radio node. -/
theorem TakesOver.ranUe_stays (hlinked : state.LinkedLive) {ref : Ref RanUe} {ue : Ref Ue}
    (hold : old = some ue) (howner : state.ueOfRanUe ref = some ue) :
    next.RanUeRegistered ref ∧ next.ranUe ref = { state.ranUe ref with ueId := none } ∧
      ∃ node, next.findNode (state.ranUe ref).nodeId = some node ∧
        next.findRanUeByKey node (state.ranUe ref).key = some ref := by
  obtain ⟨-, hback⟩ := (hsound.ueOfRanUe_iff ref ue).mp howner
  have hfound : state.RanUeRegistered ref := (hsound.pool.live ref).mp (hlinked ref _ hback)
  obtain ⟨node, hnode, hkey⟩ := hsound.pool.bound hfound (by simp)
  have hleft := htakes.ranUe_left hold howner
  refine ⟨?_, hleft, node, ?_, ?_⟩
  · rw [RanUeRegistered, htakes.findRanUe_eq, hleft]
    exact hfound
  · rw [findNode, htakes.registry]
    exact hnode
  · rw [findRanUeByKey, htakes.node]
    exact hkey

theorem TakesOver.findUeBySupi_other (hold : ∀ ue, old = some ue → (state.ue ue).supi = supi)
    {other : String} (hother : other ≠ supi) :
    next.findUeBySupi other = state.findUeBySupi other := by
  have hindex : next.registry.supiIndex[other]? = state.registry.supiIndex[other]? := by
    rw [htakes.registry, Table.lookup_insert, if_neg hother.symm]
  rw [findUeBySupi, findUeBySupi, hindex]
  split
  next => rfl
  next =>
    cases hentry : state.registry.supiIndex[other]? with
    | none => rfl
    | some id =>
        obtain ⟨-, ue, hfind, hfiled⟩ := hsound.supi_resolves hentry
        rw [Option.bind_some, Option.bind_some, hfind, htakes.findUe]
        refine Or.inr ⟨hfind, ?_⟩
        intro hsome
        exact hother (hfiled.symm.trans (hold ue hsome))

/-- Nothing is left that would lead to the ousted UE. -/
theorem TakesOver.linksAgree (hagree : state.LinksAgree) : next.LinksAgree where
  slot {ue access ngapId} hfound hslot := by
    rcases (htakes.ueRegistered_iff hsound ue).mp hfound with hfresh | ⟨hbefore, hkept⟩
    · obtain ⟨tmsi, guti, hnew⟩ := htakes.ue_new
      rw [← hfresh, hnew] at hslot
      cases access <;> cases hslot
    · rw [htakes.ue_kept (hsound.ue_ne_fresh hbefore) hkept] at hslot ⊢
      obtain ⟨ref, hfind, hback⟩ := hagree.slot hbefore hslot
      refine ⟨ref, by rw [htakes.findRanUe_eq]; exact hfind, ?_⟩
      rw [htakes.ranUe_kept]
      · exact hback
      · intro gone hgone howner
        have hsame := (hsound.ueOfRanUe_iff ref ue).mpr ⟨hbefore, hback⟩
        obtain rfl := Option.some.inj (howner.symm.trans hsame)
        exact hkept hgone
  back {ngapId ref id} hfind hback := by
    rw [htakes.findRanUe_eq] at hfind
    have hspared (ue : Ref Ue) (hgone : old = some ue) : state.ueOfRanUe ref ≠ some ue := by
      intro howner
      rw [htakes.ranUe_left hgone howner] at hback
      cases hback
    rw [htakes.ranUe_kept hspared] at hback
    obtain ⟨ue, access, hfound, hslot⟩ := hagree.back hfind hback
    have howner : state.ueOfRanUe ref = some ue := by
      rw [ueOfRanUe, hback]
      exact hfound
    have hkept : old ≠ some ue := fun hgone => hspared ue hgone howner
    refine ⟨ue, access, (htakes.findUe id ue).mpr (Or.inr ⟨hfound, hkept⟩), ?_⟩
    rw [htakes.ue_kept (hsound.ue_ne_fresh (hsound.ueRegistered_of_find hfound)) hkept]
    exact hslot

end

end State

namespace World

open State

theorem newUe_takesOver {world : World} (hsound : world.state.Sound)
    (hlinked : world.state.LinkedLive) (hagree : world.state.LinksAgree)
    (htmsis : world.state.registry.tmsis.Bounded) {supi : String} (hsupi : supi ≠ "") :
    world.state.TakesOver (world.newUe supi).2.state supi (world.state.findUeBySupi supi) := by
  obtain ⟨tmsi, guti, -, -, hcases⟩ := world.newUe_cases supi
  have henrolled := takesOver_enrol hsupi world.state.registry.tmsis.allocate.2 tmsi guti hsound
  have hbefore {id : Nat} {ue : Ref Ue} (hindex : world.state.registry.supiIndex[supi]? = some id)
      (hfind : world.state.findUe id = some ue) : world.state.findUeBySupi supi = some ue := by
    rw [findUeBySupi, if_neg hsupi, hindex]
    exact hfind
  rcases hcases with ⟨hgone, hstate⟩ | ⟨oldId, old, -, hindex, hfind, hstate⟩
  · have hfree : world.state.findUeBySupi supi = none := by
      cases hentry : world.state.registry.supiIndex[supi]? with
      | none => rw [findUeBySupi, if_neg hsupi, hentry]; rfl
      | some id =>
          obtain ⟨-, ue, hfound, -⟩ := hsound.supi_resolves hentry
          have hkept := (henrolled.findUe id ue).mpr (Or.inr ⟨hfound, by simp⟩)
          exact absurd (hkept.symm.trans (hgone id hsupi hentry)) (by simp)
    rw [hstate, hfree]
    exact henrolled
  · obtain ⟨-, ue, hfound, -⟩ := hsound.supi_resolves hindex
    obtain rfl : ue = old := by
      have hkept := (henrolled.findUe oldId ue).mpr (Or.inr ⟨hfound, by simp⟩)
      exact Option.some.inj (hkept.symm.trans hfind)
    have hbounded : world.state.registry.tmsis.allocate.2.Bounded :=
      IdPool.Reaches.refl.allocate.bounded htmsis
    rw [hstate, hbefore hindex hfound, ← hsound.ue_id hfound]
    exact henrolled.oust hsound hlinked hagree hbounded (hsound.ueRegistered_of_find hfound)

/-- Slots and back references agree wherever the callers keep to the rules for links. -/
theorem run_linksAgree {config : Config} (hvalid : config.validate = .ok ())
    {operations : List Operation}
    (hobeys : (opened config).Obeys Operation.KeepsLinks operations) :
    ((opened config).run operations).state.LinksAgree := by
  obtain ⟨hsound, hlinks⟩ := run_keeps (fun hsound hlinks hstep => hlinks.step hsound hstep)
    (links_new (Config.ngapIds_nonneg hvalid)) hobeys
  exact hlinks.linksAgree hsound

/-- A new UE is found under its SUPI and is idle.  The UE that had the SUPI is found in no way,
has empty slots and has given its 5G-TMSI back, and its RAN UEs stay in the pool, attached to
nothing.  Nothing else has changed. -/
theorem run_newUe_takesOver (config : Config) (operations : List Operation) {supi : String}
    (hsupi : supi ≠ "") (hagree : ((opened config).run operations).state.LinksAgree) :
    let world := (opened config).run operations
    let state := world.state
    let new := (world.newUe supi).1
    let next := (world.newUe supi).2.state
    (next.findUeBySupi supi = some new ∧ ∀ access, ¬ (next.ue new).Connected access) ∧
    (∀ old, state.findUeBySupi supi = some old ↔
      state.UeRegistered old ∧ (state.ue old).supi = supi) ∧
    (∀ old, state.UeRegistered old → (state.ue old).supi = supi →
      next.Unfound old ∧
      next.ue old = { state.ue old with slots := .both none, tmsi := none } ∧
      (∀ tmsi, (state.ue old).tmsi = some tmsi → ¬ next.registry.tmsis.Outstanding tmsi) ∧
      ∀ ref, state.ueOfRanUe ref = some old →
        next.RanUeRegistered ref ∧ next.ranUe ref = { state.ranUe ref with ueId := none } ∧
        ∃ node, next.findNode (state.ranUe ref).nodeId = some node ∧
          next.findRanUeByKey node (state.ranUe ref).key = some ref) ∧
    next.registry.ues.size =
      state.registry.ues.size + (if state.findUeBySupi supi = none then 1 else 0) ∧
    (∀ other, other ≠ supi → next.findUeBySupi other = state.findUeBySupi other) ∧
    state.TakesOver next supi (state.findUeBySupi supi) ∧ next.LinksAgree := by
  intro world state new next
  have hsound : state.Sound := run_sound config operations
  have hlinked : state.LinkedLive := run_linkedLive config operations
  have hindexed := hsound.ueIndexAgrees (run_uesFiled config operations)
  have htakes : state.TakesOver next supi (state.findUeBySupi supi) :=
    newUe_takesOver hsound hlinked hagree (run_tmsis_bounded config operations) hsupi
  have hnew : new = state.entities.ues.fresh := world.newUe_fresh supi
  have hold (old : Ref Ue) : state.findUeBySupi supi = some old ↔
      state.UeRegistered old ∧ (state.ue old).supi = supi :=
    hindexed.found.trans (and_iff_right hsupi)
  refine ⟨⟨?_, ?_⟩, hold, ?_, htakes.size, ?_, htakes, htakes.linksAgree hsound hagree⟩
  · rw [hnew]
    exact htakes.findUeBySupi_new hsupi
  · intro access
    obtain ⟨tmsi, guti, hue⟩ := htakes.ue_new
    rw [hnew, hue]
    cases access <;> exact Bool.false_ne_true
  · intro old hregistered hnamed
    have hfind := (hold old).mpr ⟨hregistered, hnamed⟩
    exact ⟨htakes.unfound hsound hregistered hfind, htakes.ue_old hfind,
      fun tmsi => htakes.tmsi_freed hfind,
      fun ref => htakes.ranUe_stays hsound hlinked hfind⟩
  · intro other hother
    exact htakes.findUeBySupi_other hsound (fun ue hsome => ((hold ue).mp hsome).2) hother

/-- A UE is attached over both accesses when its SUPI is taken over.  Both RAN UEs let go of it, and
the RAN UE of the other UE does not. -/
theorem newUe_takesOver_connected :
    let supi := "imsi-001010000000001"
    let operations : List Operation := [.newUe supi, .newUe "imsi-001010000000002", .newNode ⟨1⟩,
      .newNode ⟨2⟩, .setAccess ⟨1⟩ .nonThreeGpp, .newRanUe ⟨0⟩ 1, .newRanUe ⟨1⟩ 1, .newRanUe ⟨0⟩ 2,
      .attach ⟨0⟩ ⟨0⟩, .attach ⟨0⟩ ⟨1⟩, .attach ⟨1⟩ ⟨2⟩]
    let world := (opened .standard).run operations
    supi ≠ "" ∧ world.state.LinksAgree ∧ (world.state.ue ⟨0⟩).slots = ⟨some 1, some 2⟩ ∧
      (world.newUe supi).2.state.Unfound ⟨0⟩ ∧
      ((world.newUe supi).2.state.ue ⟨0⟩).slots = ⟨none, none⟩ ∧
      ((world.newUe supi).2.state.ranUe ⟨0⟩).ueId = none ∧
      ((world.newUe supi).2.state.ranUe ⟨1⟩).ueId = none ∧
      ((world.newUe supi).2.state.ranUe ⟨2⟩).ueId = some 2 ∧
      (world.newUe supi).2.state.registry.ues.size = 2 ∧
      (world.newUe supi).2.state.LinksAgree := by
  intro supi operations world
  have hsupi : supi ≠ "" := by decide
  have hobeys : (opened .standard).Obeys Operation.KeepsLinks operations := by
    simp only [operations, Obeys, Operation.KeepsLinks, true_and, and_true]
    exact ⟨Or.inr (by decide +kernel), by decide +kernel, by decide +kernel, by decide +kernel⟩
  have hagree : world.state.LinksAgree := run_linksAgree rfl hobeys
  obtain ⟨-, -, hold, -, -, -, hagreeNext⟩ := run_newUe_takesOver .standard operations hsupi hagree
  have hworld : (opened .standard).run operations = world := rfl
  rw [hworld] at hold hagreeNext
  obtain ⟨hunfound, -⟩ := hold ⟨0⟩ (by decide +kernel) (by decide +kernel)
  exact ⟨hsupi, hagree, by decide +kernel, hunfound, by decide +kernel, by decide +kernel,
    by decide +kernel, by decide +kernel, by decide +kernel, hagreeNext⟩

end World

end AccessMobility
