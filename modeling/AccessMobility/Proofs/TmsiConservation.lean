import AccessMobility.Proofs.Roster

/-!
# Conservation of 5G-TMSIs

A 5G-TMSI leaves the pool for a UE or, by a direct call, for a caller.  This file follows every
value from there: as long as a caller gives back only what was issued to it, and new 5G-TMSIs are
only given to registered UEs, the values outstanding are those of the registered UEs and those on
loan to callers, each of them once.

In between a value passes through the hands of the call that moves it: a new UE receives a value
that the call has just borrowed, and a UE that takes a new identity leaves its old value to the
call, which gives it back.  So all that has to be followed are borrowing, giving back, and handing
over between a UE and the loans.

The 5G-GUTI of a UE is written with its 5G-TMSI at the end, so no two registered UEs share one,
whatever GUAMI was served when they got it.
-/

namespace AccessMobility

/-- What a caller has on loan after one more call: 5G-TMSIs issued to it directly that it did not
give back since. -/
def World.loansAfter (world : World) (loans : List Int) : Operation → List Int
  | .allocateTmsi => world.allocateTmsi.1.toList ++ loans
  | .freeTmsi (some tmsi) => loans.erase tmsi
  | _ => loans

/-- Only a 5G-TMSI on loan is given back, and only a registered UE gets a new one. -/
def Operation.ReturnsLoans (state : State) (loans : List Int) : Operation → Prop
  | .freeTmsi (some tmsi) => tmsi ∈ loans
  | .reallocateGuti ue => state.UeRegistered ue
  | _ => True

namespace World

/-- What a caller has on loan after a run. -/
def loans (world : World) (before : List Int) : List Operation → List Int
  | [] => before
  | operation :: rest => (world.perform operation).loans (world.loansAfter before operation) rest

/-- Every call of a run keeps to what the caller has on loan by then. -/
def Settles (world : World) (before : List Int) : List Operation → Prop
  | [] => True
  | operation :: rest =>
    operation.ReturnsLoans world.state before ∧
      (world.perform operation).Settles (world.loansAfter before operation) rest

end World

namespace State

/-- The 5G-TMSIs of the registered UEs. -/
def ueTmsis (state : State) : List Int :=
  state.registry.ues.values.filterMap fun ref => (state.ue ref).tmsi

/-- Every 5G-TMSI outstanding is with one registered UE or on loan, and the 5G-GUTI of a registered
UE ends in its 5G-TMSI. -/
structure TmsisHeld (state : State) (loans : List Int) : Prop where
  registered : ∀ {ue tmsi}, (state.ue ue).tmsi = some tmsi → state.UeRegistered ue
  outstanding : ∀ tmsi, state.registry.tmsis.Outstanding tmsi ↔
    (∃ ue, (state.ue ue).tmsi = some tmsi) ∨ tmsi ∈ loans
  unique : ∀ {left right tmsi}, (state.ue left).tmsi = some tmsi →
    (state.ue right).tmsi = some tmsi → left = right
  apart : ∀ {ue tmsi}, (state.ue ue).tmsi = some tmsi → tmsi ∉ loans
  loans_nodup : loans.Nodup
  guti : ∀ {ue guti}, state.UeRegistered ue → (state.ue ue).guti = some guti →
    ∃ tmsi issuer, (state.ue ue).tmsi = some tmsi ∧ guti = issuer ++ Tmsi.text tmsi

theorem tmsisHeld_new (config : Config) : (State.new config).TmsisHeld [] := by
  have hue (ref : Ref Ue) : (State.new config).ue ref = default := by
    simp [State.new, State.ue, Store.get]
  constructor
  · intro ue tmsi htmsi
    rw [hue] at htmsi
    simp [default] at htmsi
  · intro tmsi
    constructor
    · exact fun hout => absurd hout (IdPool.not_outstanding_new _ _ tmsi)
    · rintro (⟨ue, htmsi⟩ | hmem)
      · rw [hue] at htmsi
        simp [default] at htmsi
      · simp at hmem
  · intro left right tmsi htmsi
    rw [hue] at htmsi
    simp [default] at htmsi
  · simp
  · exact List.nodup_nil
  · intro ue guti _ hguti
    rw [hue] at hguti
    simp [default] at hguti

section

variable {state next : State} {loans : List Int}

theorem TmsisHeld.congr (hheld : state.TmsisHeld loans) (hsame : state.SameUes next) :
    next.TmsisHeld loans := by
  have htmsi := hsame.ue_tmsi
  constructor
  · intro ue tmsi hsome
    rw [htmsi] at hsome
    exact (hsame.ueRegistered_iff ue).mpr (hheld.registered hsome)
  · intro tmsi
    simp only [hsame.tmsis, htmsi]
    exact hheld.outstanding tmsi
  · intro left right tmsi hleft hright
    rw [htmsi] at hleft hright
    exact hheld.unique hleft hright
  · intro ue tmsi hsome
    rw [htmsi] at hsome
    exact hheld.apart hsome
  · exact hheld.loans_nodup
  · intro ue guti hregistered hguti
    rw [hsame.ue_guti] at hguti
    rw [htmsi]
    exact hheld.guti ((hsame.ueRegistered_iff ue).mp hregistered) hguti

/-! ## Moves of a value -/

/-- A value taken from the pool is on loan. -/
theorem TmsisHeld.borrow (hvalid : state.registry.tmsis.Valid) (hheld : state.TmsisHeld loans)
    {tmsi : Int} {pool : IdPool} (halloc : state.registry.tmsis.allocate = (some tmsi, pool)) :
    (state.withTmsis pool).TmsisHeld (tmsi :: loans) := by
  have hfresh : ¬ ((∃ ue, (state.ue ue).tmsi = some tmsi) ∨ tmsi ∈ loans) := by
    rw [← hheld.outstanding]
    exact IdPool.allocate_fresh halloc
  rw [not_or] at hfresh
  constructor
  · exact hheld.registered
  · intro other
    show pool.Outstanding other ↔ (∃ ue, (state.ue ue).tmsi = some other) ∨ _
    rw [hvalid.outstanding_allocate halloc, hheld.outstanding, List.mem_cons, or_assoc]
    exact or_congr_right or_comm
  · exact hheld.unique
  · intro ue other hsome
    rw [List.mem_cons, not_or]
    refine ⟨?_, hheld.apart hsome⟩
    intro heq
    exact hfresh.1 ⟨ue, heq ▸ hsome⟩
  · exact List.nodup_cons.mpr ⟨hfresh.2, hheld.loans_nodup⟩
  · exact hheld.guti

/-- A value on loan goes back to the pool. -/
theorem TmsisHeld.giveBack (hbounded : state.registry.tmsis.Bounded) {tmsi : Int}
    (hheld : state.TmsisHeld loans) (hloan : tmsi ∈ loans) :
    (state.withTmsis (state.registry.tmsis.free tmsi)).TmsisHeld (loans.erase tmsi) := by
  have hmem (other : Int) : other ∈ loans.erase tmsi ↔ other ≠ tmsi ∧ other ∈ loans :=
    hheld.loans_nodup.mem_erase_iff
  constructor
  · exact hheld.registered
  · intro other
    show (state.registry.tmsis.free tmsi).Outstanding other ↔
      (∃ ue, (state.ue ue).tmsi = some other) ∨ _
    rw [hbounded.outstanding_free, hheld.outstanding, hmem]
    constructor
    · rintro ⟨hue | hloanOther, hne⟩
      · exact Or.inl hue
      · exact Or.inr ⟨hne, hloanOther⟩
    · rintro (⟨ue, hsome⟩ | ⟨hne, hloanOther⟩)
      · refine ⟨Or.inl ⟨ue, hsome⟩, ?_⟩
        intro heq
        exact hheld.apart (heq ▸ hsome) hloan
      · exact ⟨Or.inr hloanOther, hne⟩
  · exact hheld.unique
  · intro ue other hsome hother
    exact hheld.apart hsome ((hmem other).mp hother).2
  · exact hheld.loans_nodup.erase tmsi
  · exact hheld.guti

theorem TmsisHeld.giveBackIfAny {tmsi : Option Int}
    (hheld : state.TmsisHeld (tmsi.toList ++ loans)) (hbounded : state.registry.tmsis.Bounded) :
    (state.withTmsis (tmsi.elim state.registry.tmsis state.registry.tmsis.free)).TmsisHeld
      loans := by
  cases tmsi with
  | none => exact hheld
  | some tmsi =>
      have hloan : tmsi ∈ (some tmsi).toList ++ loans := List.mem_cons_self
      have hback := hheld.giveBack hbounded hloan
      rw [Option.toList_some, List.singleton_append, List.erase_cons_head] at hback
      exact hback

/-- A UE takes over a value on loan and leaves the value it had in its place. -/
theorem TmsisHeld.exchange {ue : Ref Ue} {tmsi : Option Int}
    (hheld : state.TmsisHeld (tmsi.toList ++ loans))
    (htmsis : next.registry.tmsis = state.registry.tmsis)
    (htmsi : ∀ ref, (next.ue ref).tmsi = if ref = ue then tmsi else (state.ue ref).tmsi)
    (hregistered : ∀ {ref}, ref ≠ ue → (next.UeRegistered ref ↔ state.UeRegistered ref))
    (hreceiver : ∀ {value}, tmsi = some value → next.UeRegistered ue)
    (hkept : ∀ {ref}, ref ≠ ue → (next.ue ref).guti = (state.ue ref).guti)
    (hguti : ∀ {guti}, next.UeRegistered ue → (next.ue ue).guti = some guti →
      ∃ value issuer, tmsi = some value ∧ guti = issuer ++ Tmsi.text value) :
    next.TmsisHeld ((state.ue ue).tmsi.toList ++ loans) := by
  have hself : (next.ue ue).tmsi = tmsi := by rw [htmsi, if_pos rfl]
  have hother {ref : Ref Ue} (hne : ref ≠ ue) : (next.ue ref).tmsi = (state.ue ref).tmsi := by
    rw [htmsi, if_neg hne]
  have hlent {value : Int} (hsome : tmsi = some value) : value ∈ tmsi.toList ++ loans := by
    rw [hsome]
    exact List.mem_cons_self
  have hnodup := hheld.loans_nodup
  rw [List.nodup_append] at hnodup
  obtain ⟨-, hnodupLoans, hdisjoint⟩ := hnodup
  constructor
  · intro ref value hsome
    by_cases heq : ref = ue
    · subst heq
      exact hreceiver (hself ▸ hsome)
    · rw [hother heq] at hsome
      exact (hregistered heq).mpr (hheld.registered hsome)
  · intro value
    rw [htmsis, hheld.outstanding]
    simp only [List.mem_append, Option.mem_toList]
    constructor
    · rintro (⟨ref, hsome⟩ | hsome | hmem)
      · by_cases heq : ref = ue
        · exact Or.inr (Or.inl (heq ▸ hsome))
        · exact Or.inl ⟨ref, (hother heq).trans hsome⟩
      · exact Or.inl ⟨ue, hself.trans hsome⟩
      · exact Or.inr (Or.inr hmem)
    · rintro (⟨ref, hsome⟩ | hsome | hmem)
      · by_cases heq : ref = ue
        · subst heq
          exact Or.inr (Or.inl (hself.symm.trans hsome))
        · exact Or.inl ⟨ref, (hother heq).symm.trans hsome⟩
      · exact Or.inl ⟨ue, hsome⟩
      · exact Or.inr (Or.inr hmem)
  · intro left right value hleft hright
    by_cases hleftEq : left = ue
    · by_cases hrightEq : right = ue
      · rw [hleftEq, hrightEq]
      · rw [hother hrightEq] at hright
        rw [hleftEq, hself] at hleft
        exact absurd (hlent hleft) (hheld.apart hright)
    · by_cases hrightEq : right = ue
      · rw [hother hleftEq] at hleft
        rw [hrightEq, hself] at hright
        exact absurd (hlent hright) (hheld.apart hleft)
      · rw [hother hleftEq] at hleft
        rw [hother hrightEq] at hright
        exact hheld.unique hleft hright
  · intro ref value hsome hmem
    rw [List.mem_append, Option.mem_toList] at hmem
    by_cases heq : ref = ue
    · rw [heq, hself] at hsome
      rcases hmem with hold | hloan
      · exact hheld.apart hold (hlent hsome)
      · exact hdisjoint value (Option.mem_toList.mpr hsome) value hloan rfl
    · rw [hother heq] at hsome
      rcases hmem with hold | hloan
      · exact heq (hheld.unique hsome hold)
      · exact hheld.apart hsome (List.mem_append_right _ hloan)
  · rw [List.nodup_append]
    refine ⟨?_, hnodupLoans, ?_⟩
    · cases (state.ue ue).tmsi with
      | none => exact List.nodup_nil
      | some old => exact List.nodup_singleton old
    · intro old hold value hloan heq
      rw [Option.mem_toList] at hold
      exact hheld.apart hold (heq ▸ List.mem_append_right _ hloan)
  · intro ref guti hregisteredRef hsome
    by_cases heq : ref = ue
    · subst heq
      rw [hself]
      exact hguti hregisteredRef hsome
    · rw [hother heq]
      rw [hkept heq] at hsome
      exact hheld.guti ((hregistered heq).mp hregisteredRef) hsome

/-! ## What the calls move -/

/-- A UE that leaves the registry hands its value over, and it goes back to the pool. -/
theorem TmsisHeld.withdraw (hnumbered : state.WellNumbered)
    (hbounded : state.registry.tmsis.Bounded) (hheld : state.TmsisHeld loans) {ue : Ref Ue}
    (hwithdraws : state.Withdraws next ue) : next.TmsisHeld loans := by
  have hregistered := hwithdraws.ueRegistered_iff hnumbered
  have hleft : (next.withTmsis state.registry.tmsis).TmsisHeld
      ((state.ue ue).tmsi.toList ++ loans) := by
    have hlent : state.TmsisHeld ((none : Option Int).toList ++ loans) := hheld
    refine hlent.exchange ?_ hwithdraws.ue_tmsi ?_ ?_ ?_ ?_
    · rfl
    · intro ref hne
      exact (hregistered ref).trans (and_iff_left hne)
    · simp
    · intro ref _
      exact hwithdraws.ue_guti ref
    · intro guti hself
      exact absurd rfl ((hregistered ue).mp hself).2
  have hback := hleft.giveBackIfAny hbounded
  have hnext : next.withTmsis ((state.ue ue).tmsi.elim state.registry.tmsis
      state.registry.tmsis.free) = next := by
    rw [← hwithdraws.tmsis]
    rfl
  rw [← hnext]
  exact hback

theorem gutiOf_text {tmsi : Option Int} {text : String} (hguti : state.gutiOf tmsi = some text) :
    ∃ value issuer, tmsi = some value ∧ text = issuer ++ Tmsi.text value := by
  unfold gutiOf at hguti
  obtain ⟨value, hvalue, hrest⟩ := Option.bind_eq_some_iff.mp hguti
  obtain ⟨guami, -, htext⟩ := Option.bind_eq_some_iff.mp hrest
  exact ⟨value, _, hvalue, (Option.some.inj htext).symm⟩

/-- A new UE takes over the value that was borrowed for it. -/
theorem TmsisHeld.enrol (hnumbered : state.WellNumbered) {tmsi : Option Int}
    {guti : Option String} (hheld : state.TmsisHeld (tmsi.toList ++ loans)) (supi : String)
    (hguti : ∀ {text}, guti = some text →
      ∃ value issuer, tmsi = some value ∧ text = issuer ++ Tmsi.text value) :
    (state.enrol supi tmsi guti).TmsisHeld loans := by
  have hue (ref : Ref Ue) := state.ue_enrol supi tmsi guti ref
  have hself := hue state.entities.ues.fresh
  rw [if_pos rfl] at hself
  have hother {ref : Ref Ue} (hne : ref ≠ state.entities.ues.fresh) :
      (state.enrol supi tmsi guti).ue ref = state.ue ref := by
    rw [hue, if_neg (Ne.symm hne)]
  have hnone : (state.ue state.entities.ues.fresh).tmsi = none := by
    cases hsome : (state.ue state.entities.ues.fresh).tmsi with
    | none => rfl
    | some value => exact absurd rfl (hnumbered.ue_ne_fresh (hheld.registered hsome))
  have hexchanged : (state.enrol supi tmsi guti).TmsisHeld
      ((state.ue state.entities.ues.fresh).tmsi.toList ++ loans) := by
    refine hheld.exchange ?_ ?_ ?_ ?_ ?_ ?_
    · rfl
    · intro ref
      split
      next heq => rw [heq, hself]
      next hne => rw [hother hne]
    · intro ref hne
      rw [UeRegistered, hother hne, findUe_enrol,
        if_neg (Nat.ne_of_gt (hnumbered.ue_lt ref)), UeRegistered]
    · intro value _
      rw [UeRegistered, hself, findUe_enrol, if_pos rfl]
    · intro ref hne
      rw [hother hne]
    · intro text _ hsome
      rw [hself] at hsome
      exact hguti hsome
  rw [hnone] at hexchanged
  exact hexchanged

/-- A registered UE takes a new identity, and its old value is on loan. -/
theorem TmsisHeld.identify {ue : Ref Ue} (hregistered : state.UeRegistered ue) {tmsi : Int}
    (hheld : state.TmsisHeld (tmsi :: loans)) {guti : Option String}
    (hguti : guti = state.gutiOf (some tmsi)) :
    (state.modifyUe ue (·.replaceIdentity tmsi guti)).TmsisHeld
      ((state.ue ue).tmsi.toList ++ loans) := by
  have hlent : state.TmsisHeld ((some tmsi).toList ++ loans) := hheld
  have hself : (state.modifyUe ue (·.replaceIdentity tmsi guti)).ue ue =
      (state.ue ue).replaceIdentity tmsi guti := by
    rw [modifyUe, ue_setUe, if_pos rfl]
  have hother {ref : Ref Ue} (hne : ref ≠ ue) :
      (state.modifyUe ue (·.replaceIdentity tmsi guti)).ue ref = state.ue ref := by
    rw [modifyUe, ue_setUe, if_neg (Ne.symm hne)]
  have hfind : (state.modifyUe ue (·.replaceIdentity tmsi guti)).findUe = state.findUe := rfl
  refine hlent.exchange ?_ ?_ ?_ ?_ ?_ ?_
  · rfl
  · intro ref
    split
    next heq => rw [heq, hself, Ue.replaceIdentity]
    next hne => rw [hother hne]
  · intro ref hne
    rw [UeRegistered, hfind, hother hne, UeRegistered]
  · intro value _
    rw [UeRegistered, hfind, hself]
    exact hregistered
  · intro ref hne
    rw [hother hne]
  · intro text _ hsome
    rw [hself] at hsome
    exact gutiOf_text (hguti.symm.trans hsome)

end

/-! ## The calls -/

section

variable {world : World} {loans : List Int}

theorem TmsisHeld.allocateTmsi (hpool : world.state.registry.tmsis.IssuesTmsis)
    (hheld : world.state.TmsisHeld loans) :
    (world.state.withTmsis world.state.registry.tmsis.allocate.2).TmsisHeld
      (world.allocateTmsi.1.toList ++ loans) := by
  rw [World.allocateTmsi_eq hpool]
  cases halloc : world.state.registry.tmsis.allocate with
  | mk value pool =>
      cases value with
      | none =>
          rw [IdPool.allocate_none halloc]
          exact hheld
      | some tmsi => exact hheld.borrow hpool.toValid halloc

theorem bounded_withTmsis_allocate {state : State} (hpool : state.registry.tmsis.IssuesTmsis) :
    (state.withTmsis state.registry.tmsis.allocate.2).registry.tmsis.Bounded :=
  IdPool.Reaches.refl.allocate.bounded hpool.bounded

theorem TmsisHeld.newUe (hsound : world.state.Sound)
    (hpool : world.state.registry.tmsis.IssuesTmsis) (hheld : world.state.TmsisHeld loans)
    (supi : String) : (world.newUe supi).2.state.TmsisHeld loans := by
  obtain ⟨tmsi, guti, htmsi, hguti, hcases⟩ := world.newUe_cases supi
  have hborrowed := hheld.allocateTmsi hpool
  rw [htmsi] at hborrowed
  have hbounded := bounded_withTmsis_allocate hpool
  have hnumbered := (hsound.describe (world.state.sameWiring_withTmsis
    world.state.registry.tmsis.allocate.2)).toWellNumbered
  have henrolled := hborrowed.enrol hnumbered supi
    (fun hsome => gutiOf_text (hguti.trans hsome))
  rcases hcases with ⟨-, hstate⟩ | ⟨oldId, old, -, -, hfind, hstate⟩
  · rw [hstate]
    exact henrolled
  · rw [hstate]
    have hnumberedNew := hnumbered.enrol supi tmsi guti
    exact henrolled.withdraw hnumberedNew hbounded (withdraws_replaced hnumberedNew hfind)

theorem TmsisHeld.reallocateGuti (hpool : world.state.registry.tmsis.IssuesTmsis)
    (hheld : world.state.TmsisHeld loans) {ue : Ref Ue}
    (hregistered : world.state.UeRegistered ue) :
    (world.reallocateGuti ue).2.state.TmsisHeld loans := by
  have hborrowed := hheld.allocateTmsi hpool
  rcases world.reallocateGuti_cases ue with ⟨hnone, -, hstate⟩ | ⟨tmsi, hsome, -, hstate⟩
  · rw [hstate]
    rw [hnone] at hborrowed
    exact hborrowed
  · rw [hstate]
    rw [hsome] at hborrowed
    have hregisteredNow : (world.state.withTmsis
        world.state.registry.tmsis.allocate.2).UeRegistered ue := hregistered
    have hidentified := hborrowed.identify hregisteredNow rfl
    exact hidentified.giveBackIfAny (bounded_withTmsis_allocate hpool)

/-- The UEs that go with their RAN UEs leave one after another. -/
theorem TmsisHeld.dropRanUes (hsound : world.state.Sound)
    (hbounded : world.state.registry.tmsis.Bounded) (hheld : world.state.TmsisHeld loans)
    (node : Ref RadioNode) (withUes : Bool) (entries : List (Int × Ref RanUe)) :
    (world.dropRanUes node withUes entries).state.TmsisHeld loans := by
  unfold World.dropRanUes
  induction entries generalizing world with
  | nil => exact hheld
  | cons entry rest ih =>
      rw [List.foldl_cons]
      have hsteps : Steps Operation.Any world.state (world.dropRanUe node withUes entry).state :=
        dropRanUe_steps hsound node withUes entry
      have hreaches := reaches_dropRanUes world node withUes [entry]
      apply ih (hsteps.sound hsound) (hreaches.bounded hbounded)
      rcases dropRanUe_roster world node withUes entry with hsame | ⟨-, ue, hwithdraws⟩
      · exact hheld.congr hsame.sameUes
      · exact hheld.withdraw hsound.toWellNumbered hbounded hwithdraws

theorem loansAfter_quiet (world : World) (loans : List Int) {operation : Operation}
    (hquiet : operation.Quiet) : world.loansAfter loans operation = loans := by
  cases operation with
  | allocateTmsi | freeTmsi _ => exact absurd hquiet id
  | _ => rfl

theorem TmsisHeld.perform (hsound : world.state.Sound)
    (hpool : world.state.registry.tmsis.IssuesTmsis) (hheld : world.state.TmsisHeld loans)
    {operation : Operation} (hreturns : operation.ReturnsLoans world.state loans) :
    (world.perform operation).state.TmsisHeld (world.loansAfter loans operation) := by
  by_cases hquiet : operation.Quiet
  · rw [loansAfter_quiet world loans hquiet]
    exact hheld.congr (perform_sameRoster hquiet).sameUes
  · cases operation with
    | newUe supi => exact hheld.newUe hsound hpool supi
    | removeUe ue =>
        exact hheld.withdraw hsound.toWellNumbered hpool.bounded (withdraws_removeUe world ue)
    | newNode connection => exact hheld.congr (sameUes_newNode world connection)
    | removeNode connection =>
        exact hheld.congr (sameUes_removeNode hsound.toWellNumbered connection)
    | removeAllRanUes node withUes =>
        obtain ⟨noted, hnoted, hdrops⟩ := world.removeAllRanUes_drops node withUes
        rw [← hnoted] at hsound hpool hheld
        show (world.removeAllRanUes node withUes).state.TmsisHeld loans
        rw [hdrops]
        exact hheld.dropRanUes hsound hpool.bounded node withUes _
    | allocateTmsi =>
        show world.allocateTmsi.2.state.TmsisHeld (world.allocateTmsi.1.toList ++ loans)
        rw [World.state_allocateTmsi]
        exact hheld.allocateTmsi hpool
    | freeTmsi tmsi =>
        show (world.freeTmsi tmsi).state.TmsisHeld _
        rw [World.state_freeTmsi]
        cases tmsi with
        | none => exact hheld
        | some tmsi => exact hheld.giveBack hpool.bounded hreturns
    | reallocateGuti ue => exact hheld.reallocateGuti hpool hreturns
    | _ => exact absurd trivial hquiet

end

/-! ## Reading the account -/

section

variable {state : State} {loans : List Int} (hnumbered : state.WellNumbered)
  (hheld : state.TmsisHeld loans)

include hnumbered hheld

theorem TmsisHeld.mem_ueTmsis (tmsi : Int) :
    tmsi ∈ state.ueTmsis ↔ ∃ ue, (state.ue ue).tmsi = some tmsi := by
  rw [ueTmsis, List.mem_filterMap]
  constructor
  · rintro ⟨ue, -, hsome⟩
    exact ⟨ue, hsome⟩
  · rintro ⟨ue, hsome⟩
    exact ⟨ue, hnumbered.mem_ues.mpr (hheld.registered hsome), hsome⟩

theorem TmsisHeld.nodup : (state.ueTmsis ++ loans).Nodup := by
  rw [List.nodup_append]
  refine ⟨?_, hheld.loans_nodup, ?_⟩
  · apply List.Nodup.filterMap _ hnumbered.nodup_ues
    intro left right tmsi hleft hright
    exact hheld.unique hleft hright
  · intro tmsi hmem other hloan heq
    obtain ⟨ue, hsome⟩ := (hheld.mem_ueTmsis hnumbered tmsi).mp hmem
    exact hheld.apart hsome (heq ▸ hloan)

theorem TmsisHeld.outstanding_iff (tmsi : Int) :
    state.registry.tmsis.Outstanding tmsi ↔ tmsi ∈ state.ueTmsis ++ loans := by
  rw [hheld.outstanding, List.mem_append, hheld.mem_ueTmsis hnumbered]

omit hnumbered in
/-- Both texts end in the 5G-TMSI of their UE, so the UEs have the same 5G-TMSI. -/
theorem TmsisHeld.guti_unique (hpool : state.registry.tmsis.IssuesTmsis) {left right : Ref Ue}
    (hleft : state.UeRegistered left) (hright : state.UeRegistered right) {guti : String}
    (hgutiLeft : (state.ue left).guti = some guti)
    (hgutiRight : (state.ue right).guti = some guti) : left = right := by
  obtain ⟨tmsi, issuer, hsome, htext⟩ := hheld.guti hleft hgutiLeft
  obtain ⟨other, issuerOther, hsomeOther, htextOther⟩ := hheld.guti hright hgutiRight
  have hrange := hpool.range_of_outstanding ((hheld.outstanding tmsi).mpr
    (Or.inl ⟨left, hsome⟩))
  have hrangeOther := hpool.range_of_outstanding ((hheld.outstanding other).mpr
    (Or.inl ⟨right, hsomeOther⟩))
  have heq := Tmsi.eq_of_append_text hrange hrangeOther (htext.symm.trans htextOther)
  exact hheld.unique hsome (heq ▸ hsomeOther)

/-- In whatever order the UEs are gone through, the first one with a 5G-GUTI is the only one. -/
theorem TmsisHeld.find_iff (hpool : state.registry.tmsis.IssuesTmsis) {order : List (Ref Ue)}
    (horder : order.Perm state.registry.ues.values) (guti : String) (ue : Ref Ue) :
    order.find? (fun ref => (state.ue ref).guti = some guti) = some ue ↔
      state.UeRegistered ue ∧ (state.ue ue).guti = some guti := by
  have hmem (ref : Ref Ue) : ref ∈ order ↔ state.UeRegistered ref :=
    horder.mem_iff.trans hnumbered.mem_ues
  have hfound {ref : Ref Ue}
      (hfind : order.find? (fun ref => (state.ue ref).guti = some guti) = some ref) :
      state.UeRegistered ref ∧ (state.ue ref).guti = some guti :=
    ⟨(hmem ref).mp (List.mem_of_find?_eq_some hfind), by simpa using List.find?_some hfind⟩
  constructor
  · exact hfound
  · rintro ⟨hregistered, hguti⟩
    have hsome : (order.find? (fun ref => (state.ue ref).guti = some guti)).isSome = true :=
      List.find?_isSome.mpr ⟨ue, (hmem ue).mpr hregistered, by simpa using hguti⟩
    obtain ⟨first, hfirst⟩ := Option.isSome_iff_exists.mp hsome
    obtain ⟨hregisteredFirst, hgutiFirst⟩ := hfound hfirst
    rw [hfirst, hheld.guti_unique hpool hregisteredFirst hregistered hgutiFirst hguti]

end

end State

namespace World

open State

/-- Along a run that settles its loans every 5G-TMSI outstanding is accounted for. -/
theorem run_tmsisHeld {world : World} (hsound : world.state.Sound)
    (hpool : world.state.registry.tmsis.IssuesTmsis) {before : List Int}
    (hheld : world.state.TmsisHeld before) {operations : List Operation}
    (hsettles : world.Settles before operations) :
    (world.run operations).state.TmsisHeld (world.loans before operations) := by
  induction operations generalizing world before with
  | nil => exact hheld
  | cons operation rest ih =>
      obtain ⟨hreturns, hrest⟩ := hsettles
      have hsteps : Steps Operation.Any world.state (world.perform operation).state :=
        perform_steps hsound trivial
      exact ih (hsteps.sound hsound) ((reaches_perform hsound operation).issuesTmsis hpool)
        (hheld.perform hsound hpool hreturns) hrest

/-- The values outstanding are the 5G-TMSIs of the registered UEs and those on loan, each once.
The 5G-GUTI of a registered UE ends in its 5G-TMSI, and a search for a 5G-GUTI finds its UE in
whatever order the UEs are gone through. -/
theorem run_tmsis_conserved {config : Config} (hvalid : config.validate = .ok ())
    {operations : List Operation} (hsettles : (opened config).Settles [] operations) :
    let state := ((opened config).run operations).state
    let loans := (opened config).loans [] operations
    (state.ueTmsis ++ loans).Nodup ∧
    (∀ tmsi, state.registry.tmsis.Outstanding tmsi ↔ tmsi ∈ state.ueTmsis ++ loans) ∧
    (∀ tmsi ∈ state.ueTmsis ++ loans, 0 ≤ tmsi ∧ tmsi ≤ Tmsi.largest) ∧
    (∀ ue guti, state.UeRegistered ue → (state.ue ue).guti = some guti →
      ∃ tmsi issuer, (state.ue ue).tmsi = some tmsi ∧ guti = issuer ++ Tmsi.text tmsi) ∧
    (∀ ue other guti, state.UeRegistered ue → state.UeRegistered other →
      (state.ue ue).guti = some guti → (state.ue other).guti = some guti → ue = other) ∧
    (∀ guti ue, state.findUeByGuti guti = some ue ↔
      state.UeRegistered ue ∧ (state.ue ue).guti = some guti) ∧
    (∀ order : List (Ref Ue), order.Perm state.registry.ues.values → ∀ guti ue,
      order.find? (fun ref => (state.ue ref).guti = some guti) = some ue ↔
        state.UeRegistered ue ∧ (state.ue ue).guti = some guti) := by
  intro state loans
  have hnumbered : state.WellNumbered := (run_sound config operations).toWellNumbered
  have hpool : state.registry.tmsis.IssuesTmsis := run_issuesTmsis hvalid operations
  have hheld : state.TmsisHeld loans :=
    run_tmsisHeld (State.sound_new config) (IdPool.issuesTmsis_new hvalid)
      (tmsisHeld_new config) hsettles
  have hout := hheld.outstanding_iff hnumbered
  refine ⟨hheld.nodup hnumbered, hout, ?_, fun ue guti => hheld.guti, ?_, ?_, ?_⟩
  · intro tmsi hmem
    exact hpool.range_of_outstanding ((hout tmsi).mpr hmem)
  · intro ue other guti hleft hright
    exact hheld.guti_unique hpool hleft hright
  · intro guti ue
    exact hheld.find_iff hnumbered hpool (List.Perm.refl _) guti ue
  · intro order horder guti ue
    exact hheld.find_iff hnumbered hpool horder guti ue

/-- A UE is issued the value that another one left behind, under a GUAMI that was not served when
the first one got it; meanwhile a caller has returned one value and holds another. -/
theorem tmsis_conserved_reissued :
    let served : ServedIdentities :=
      { ServedIdentities.ofConfig Config.standard with
        guamis := [{ plmnId := { mcc := "999", mnc := "070" }, amfId := "cafe00" }] }
    let operations : List Operation :=
      [.newUe "imsi-001010000000001", .newUe "imsi-001010000000002", .allocateTmsi, .serve served,
        .newUe "imsi-001010000000001", .reallocateGuti ⟨1⟩, .removeUe ⟨2⟩, .freeTmsi (some 3),
        .newUe "imsi-001010000000003", .allocateTmsi]
    let state := ((opened Config.standard).run operations).state
    Config.standard.validate = .ok () ∧ (opened Config.standard).Settles [] operations ∧
      state.ueTmsis = [1, 2] ∧ (opened Config.standard).loans [] operations = [4] ∧
      state.registry.tmsis.Outstanding 4 ∧ ¬ state.registry.tmsis.Outstanding 3 ∧
      state.findUeByGuti "999070cafe0000000001" = some ⟨1⟩ ∧
      state.findUeByGuti "00101cafe0000000001" = none := by
  intro served operations state
  have hvalid : Config.standard.validate = .ok () := rfl
  have hsettles : (opened Config.standard).Settles [] operations := by
    simp only [operations, Settles, Operation.ReturnsLoans, true_and, and_true]
    decide +kernel
  have htmsis : state.ueTmsis = [1, 2] := by decide +kernel
  have hloans : (opened Config.standard).loans [] operations = [4] := by decide +kernel
  obtain ⟨-, hout, -, -, -, hfind, -⟩ := run_tmsis_conserved hvalid hsettles
  have hissued : state.registry.tmsis.Outstanding 4 := by
    rw [hout, htmsis, hloans]
    decide
  have hreturned : ¬ state.registry.tmsis.Outstanding 3 := by
    rw [hout, htmsis, hloans]
    decide
  have hfound : state.findUeByGuti "999070cafe0000000001" = some ⟨1⟩ := by
    rw [hfind]
    exact ⟨by decide +kernel, by decide +kernel⟩
  exact ⟨hvalid, hsettles, htmsis, hloans, hissued, hreturned, hfound, by decide +kernel⟩

end World

end AccessMobility
