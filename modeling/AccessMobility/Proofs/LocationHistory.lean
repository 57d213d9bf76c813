import AccessMobility.Proofs.DeregisteredUe
import AccessMobility.Proofs.RemovedObjects
import AccessMobility.Proofs.Whereabouts
import Mathlib.Data.List.Induction

/-!
# The location of a UE and the history of updates

A location update is given to a RAN UE, which keeps the last location of each kind, and is delivered
to the UE that the RAN UE is attached to, if there is one.  The UE takes over everything that the
RAN UE knows, so what it keeps of the other kinds does not come from the updates delivered to it but
from those given to the RAN UE of the last delivery.  The two agree on a kind as long as the updates
of the kind go through one RAN UE that was attached to the UE for all of them.
-/

namespace AccessMobility

/-! ## Kinds of locations -/

inductive LocationKind where
  | nr
  | eutra
  | n3ga
  deriving DecidableEq

/-- A location of one kind. -/
inductive LocationEntry where
  | nr (location : NrLocation)
  | eutra (location : EutraLocation)
  | n3ga (location : N3gaLocation)
  deriving DecidableEq

def UserLocation.entry (location : UserLocation) : LocationKind → Option LocationEntry
  | .nr => location.nr.map .nr
  | .eutra => location.eutra.map .eutra
  | .n3ga => location.n3ga.map .n3ga

theorem UserLocation.entry_default (kind : LocationKind) :
    (default : UserLocation).entry kind = none := by
  cases kind <;> rfl

def LocationReport.kind : LocationReport → LocationKind
  | nr _ => .nr
  | eutra _ => .eutra
  | n3iwf _ => .n3ga

/-! ## Updates -/

/-- A location update and the state it finds. -/
structure LocationUpdate where
  state : State
  ranUe : Ref RanUe
  report : LocationReport
  now : Instant

namespace LocationUpdate

variable (update : LocationUpdate)

def call : Operation :=
  .updateLocation update.ranUe (some update.report) update.now

def kind : LocationKind :=
  update.report.kind

/-- The tracking area that is decoded. -/
def tai : Tai :=
  update.report.tai update.state.registry.operatorTai

/-- The location that is decoded. -/
def entry : LocationEntry :=
  match update.report with
  | .nr report => .nr (report.nrLocation update.now)
  | .eutra report => .eutra (report.eutraLocation update.now)
  | .n3iwf report => .n3ga (report.location update.state.registry.operatorTai)

/-- What the RAN UE knew before. -/
def known : UserLocation :=
  (update.state.ranUe update.ranUe).location

/-- What the RAN UE knows afterwards. -/
def result : UserLocation :=
  update.report.merge update.state.registry.operatorTai update.now update.known

/-- An update is given to a RAN UE that exists. -/
def GivenTo (ranUe : Ref RanUe) : Prop :=
  update.state.entities.ranUes.Holds ranUe ∧ update.ranUe = ranUe

instance (ranUe : Ref RanUe) : Decidable (update.GivenTo ranUe) :=
  inferInstanceAs (Decidable (_ ∧ _))

/-- An update is delivered to a UE that exists if the back reference of the RAN UE names it. -/
def DeliveredTo (ue : Ref Ue) : Prop :=
  update.state.entities.ues.Holds ue ∧
    (update.state.ranUe update.ranUe).ueId = some (update.state.ue ue).id

instance (ue : Ref Ue) : Decidable (update.DeliveredTo ue) :=
  inferInstanceAs (Decidable (_ ∧ _))

/-- An update replaces the entry of its kind and no other. -/
theorem entry_result (kind : LocationKind) :
    update.result.entry kind =
      if kind = update.kind then some update.entry else update.known.entry kind := by
  unfold result entry LocationUpdate.kind
  cases update.report <;> cases kind <;> rfl

end LocationUpdate

/-- For each kind a location holds what the last update of the kind was decoded to. -/
def UserLocation.Records (location : UserLocation) (updates : List LocationUpdate) : Prop :=
  ∀ kind, location.entry kind =
    (updates.filter (·.kind = kind)).getLast?.map LocationUpdate.entry

theorem UserLocation.records_nil : (default : UserLocation).Records [] :=
  UserLocation.entry_default

theorem UserLocation.Records.concat {updates : List LocationUpdate} {update : LocationUpdate}
    (hrecords : update.known.Records updates) : update.result.Records (updates ++ [update]) := by
  intro kind
  rw [update.entry_result, List.filter_append]
  by_cases hkind : kind = update.kind
  · simp [hkind]
  · rw [if_neg hkind, hrecords, List.filter_cons_of_neg (by simpa using Ne.symm hkind),
      List.filter_nil, List.append_nil]

/-! ## The updates of a run -/

/-- The update that a call makes. -/
def Operation.update? (state : State) : Operation → Option LocationUpdate
  | .updateLocation ranUe (some report) now => some ⟨state, ranUe, report, now⟩
  | _ => none

theorem Operation.update?_eq_some {state : State} {operation : Operation}
    {update : LocationUpdate} :
    operation.update? state = some update ↔ operation = update.call ∧ update.state = state := by
  constructor
  · intro hupdate
    unfold update? at hupdate
    split at hupdate
    next =>
      rw [Option.some.injEq] at hupdate
      subst hupdate
      exact ⟨rfl, rfl⟩
    next => cases hupdate
  · rintro ⟨rfl, rfl⟩
    rfl

theorem Operation.unlocating_of_update? {state : State} {operation : Operation}
    (hnone : operation.update? state = none) :
    operation.Unlocating ∨ ∃ ue, operation = .acknowledgeLocation ue := by
  cases operation with
  | acknowledgeLocation ue => exact Or.inr ⟨ue, rfl⟩
  | updateLocation ranUe report now =>
      cases report with
      | none => exact Or.inl rfl
      | some report => cases hnone
  | _ => exact Or.inl trivial

namespace World

/-- The location updates of a run, in the order they are made. -/
def updates (world : World) : List Operation → List LocationUpdate
  | [] => []
  | operation :: rest =>
    (operation.update? world.state).toList ++ (world.perform operation).updates rest

def given (world : World) (ranUe : Ref RanUe) (operations : List Operation) :
    List LocationUpdate :=
  (world.updates operations).filter (·.GivenTo ranUe)

def delivered (world : World) (ue : Ref Ue) (operations : List Operation) :
    List LocationUpdate :=
  (world.updates operations).filter (·.DeliveredTo ue)

theorem updates_concat (world : World) (operations : List Operation) (operation : Operation) :
    world.updates (operations ++ [operation]) =
      world.updates operations ++ (operation.update? (world.run operations).state).toList := by
  induction operations generalizing world with
  | nil => simp [updates]
  | cons first rest ih => simp [updates, ih]

/-! ## What an update does -/

open State

section

variable {world : World}

theorem state_updateLocation (update : LocationUpdate) (hstate : update.state = world.state) :
    (world.perform update.call).state =
      let located := world.state.setRanUe update.ranUe
        { world.state.ranUe update.ranUe with location := update.result, tai := update.tai }
      match world.state.ueOfRanUe update.ranUe with
      | none => located
      | some ue =>
        located.setUe ue ((world.state.ue ue).takeLocation update.result update.tai) := by
  obtain ⟨state, ranUe, report, now⟩ := update
  subst hstate
  dsimp only [LocationUpdate.call, perform, updateLocation]
  rw [state_note, state_modify, state_noteAll]
  generalize hlocated : World.note _ _ = located
  have hback (location : UserLocation) (tai : Tai) :
      (world.state.setRanUe ranUe
        { world.state.ranUe ranUe with location, tai }).ueOfRanUe ranUe =
          world.state.ueOfRanUe ranUe := by
    rw [ueOfRanUe, ranUe_setRanUe, if_pos rfl]
    rfl
  rw [hback]
  cases world.state.ueOfRanUe ranUe with
  | none =>
      rw [← hlocated]
      rfl
  | some ue =>
      dsimp only
      split <;>
        · rw [← hlocated]
          rfl

/-- As long as a UE is not gone, an update reaches it exactly if it is delivered to it. -/
theorem ueOfRanUe_eq_some (hnumbered : world.state.WellNumbered) {ue : Ref Ue}
    (hthere : ¬ world.state.Gone ue) {update : LocationUpdate}
    (hstate : update.state = world.state) :
    world.state.ueOfRanUe update.ranUe = some ue ↔ update.DeliveredTo ue := by
  unfold ueOfRanUe LocationUpdate.DeliveredTo
  rw [hstate, Option.bind_eq_some_iff]
  constructor
  · rintro ⟨id, hback, hfind⟩
    rw [hnumbered.ue_id hfind]
    exact ⟨hnumbered.ue_created hfind, hback⟩
  · rintro ⟨hholds, hback⟩
    have hregistered : world.state.UeRegistered ue := by
      by_contra hunregistered
      exact hthere ⟨hholds, hunregistered⟩
    exact ⟨_, hback, hregistered⟩

theorem ranUeWhereabouts_update {update : LocationUpdate} (hstate : update.state = world.state)
    (ranUe : Ref RanUe) :
    (world.perform update.call).state.ranUeWhereabouts ranUe =
      if update.GivenTo ranUe then (update.result, update.tai)
      else world.state.ranUeWhereabouts ranUe := by
  have hlocated : (world.perform update.call).state.ranUeWhereabouts ranUe =
      (world.state.setRanUe update.ranUe { world.state.ranUe update.ranUe with
        location := update.result, tai := update.tai }).ranUeWhereabouts ranUe := by
    rw [state_updateLocation update hstate]
    dsimp only
    split <;> rfl
  have hgiven : update.GivenTo ranUe ↔
      world.state.entities.ranUes.Holds ranUe ∧ update.ranUe = ranUe := by
    rw [LocationUpdate.GivenTo, hstate]
  rw [hlocated, ranUeWhereabouts, ranUeWhereabouts, ranUe_setRanUe]
  show (if world.state.entities.ranUes.Holds ranUe then _ else _) = _
  by_cases hholds : world.state.entities.ranUes.Holds ranUe
  · by_cases heq : update.ranUe = ranUe
    · simp [hgiven, hholds, heq, RanUe.whereabouts]
    · simp [hgiven, hholds, heq]
  · simp [hgiven, hholds]

theorem ueWhereabouts_update (hnumbered : world.state.WellNumbered) {ue : Ref Ue}
    (hthere : ¬ world.state.Gone ue) {update : LocationUpdate}
    (hstate : update.state = world.state) :
    (world.perform update.call).state.ueWhereabouts ue =
      let before := world.state.ueWhereabouts ue
      if update.DeliveredTo ue then
        ((update.result, update.tai), before.2 || before.1.2.tac ≠ update.tai.tac)
      else before := by
  rw [state_updateLocation update hstate]
  dsimp only
  by_cases hdelivered : update.DeliveredTo ue
  · have hholds : world.state.entities.ues.Holds ue := hstate ▸ hdelivered.1
    rw [if_pos hdelivered, (ueOfRanUe_eq_some hnumbered hthere hstate).mpr hdelivered,
      ueWhereabouts, ueWhereabouts, if_pos hholds]
    dsimp only
    rw [ue_setUe, if_pos rfl]
    exact if_pos hholds
  · rw [if_neg hdelivered]
    cases howner : world.state.ueOfRanUe update.ranUe with
    | none => rfl
    | some other =>
        have hne : other ≠ ue := by
          rintro rfl
          exact hdelivered ((ueOfRanUe_eq_some hnumbered hthere hstate).mp howner)
        dsimp only
        rw [ueWhereabouts, ueWhereabouts, ue_setUe, if_neg hne]
        rfl

theorem ueWhereabouts_acknowledge (ue other : Ref Ue) :
    (world.perform (.acknowledgeLocation other)).state.ueWhereabouts ue =
      let before := world.state.ueWhereabouts ue
      (before.1, before.2 && other ≠ ue) := by
  show (world.state.setUe other { world.state.ue other with
    locationChanged := false }).ueWhereabouts ue = _
  rw [ueWhereabouts, ueWhereabouts, ue_setUe]
  show (if world.state.entities.ues.Holds ue then _ else _) = _
  by_cases hholds : world.state.entities.ues.Holds ue
  · by_cases heq : other = ue
    · simp [hholds, heq, Ue.whereabouts]
    · simp [hholds, heq, Ue.whereabouts]
  · simp [hholds]
    rfl

/-- A RAN UE is where the update that is given to it puts it. -/
theorem ranUeWhereabouts_perform (hnumbered : world.state.WellNumbered) (ranUe : Ref RanUe)
    (operation : Operation) :
    (world.perform operation).state.ranUeWhereabouts ranUe =
      (((operation.update? world.state).filter (·.GivenTo ranUe)).map
        fun update => (update.result, update.tai)).getD (world.state.ranUeWhereabouts ranUe) := by
  cases hupdate : operation.update? world.state with
  | none =>
      rcases Operation.unlocating_of_update? hupdate with hunlocating | ⟨other, rfl⟩
      · exact (perform_sameWhereabouts hnumbered hunlocating).ranUe ranUe
      · rfl
  | some update =>
      obtain ⟨rfl, hstate⟩ := Operation.update?_eq_some.mp hupdate
      rw [ranUeWhereabouts_update hstate]
      by_cases hgiven : update.GivenTo ranUe <;> simp [Option.filter_some, hgiven]

/-- A UE is where the update that is delivered to it puts it. -/
theorem ueWhereabouts_perform (hnumbered : world.state.WellNumbered) {ue : Ref Ue}
    (hthere : ¬ world.state.Gone ue) (operation : Operation) :
    ((world.perform operation).state.ueWhereabouts ue).1 =
      (((operation.update? world.state).filter (·.DeliveredTo ue)).map
        fun update => (update.result, update.tai)).getD (world.state.ueWhereabouts ue).1 := by
  cases hupdate : operation.update? world.state with
  | none =>
      rcases Operation.unlocating_of_update? hupdate with hunlocating | ⟨other, rfl⟩
      · rw [(perform_sameWhereabouts hnumbered hunlocating).ue]
        rfl
      · rw [ueWhereabouts_acknowledge]
        rfl
  | some update =>
      obtain ⟨rfl, hstate⟩ := Operation.update?_eq_some.mp hupdate
      rw [ueWhereabouts_update hnumbered hthere hstate]
      by_cases hdelivered : update.DeliveredTo ue <;> simp [Option.filter_some, hdelivered]

end

/-! ## Along a run -/

section

variable {world : World}

/-- What a call changes only by an update that counts, is as the last such update left it. -/
theorem view_run {β : Type} (view : State → β) {counts : LocationUpdate → Prop}
    [DecidablePred counts] {left : LocationUpdate → β} {operations : List Operation}
    (hstep : ∀ earlier operation later, operations = earlier ++ operation :: later →
      view ((world.run earlier).perform operation).state =
        (((operation.update? (world.run earlier).state).filter counts).map left).getD
          (view (world.run earlier).state)) :
    view (world.run operations).state =
      (((world.updates operations).filter counts).getLast?.map left).getD (view world.state) := by
  induction operations using List.reverseRecOn with
  | nil => rfl
  | append_singleton operations operation ih =>
      have hbefore := ih fun earlier call later hsplit =>
        hstep earlier call (later ++ [operation]) (by simp [hsplit])
      rw [run_concat, hstep operations operation [] rfl, hbefore, updates_concat,
        List.filter_append, List.getLast?_append]
      cases operation.update? (world.run operations).state with
      | none => simp
      | some update => by_cases hcounts : counts update <;> simp [Option.filter_some, hcounts]

/-- The updates before one update of a run are those of the calls before it. -/
theorem updates_split {operations : List Operation} {before after : List LocationUpdate}
    {update : LocationUpdate} (hsplit : world.updates operations = before ++ update :: after) :
    ∃ earlier later, operations = earlier ++ update.call :: later ∧
      update.state = (world.run earlier).state ∧ world.updates earlier = before := by
  induction operations generalizing world before with
  | nil => simp [updates] at hsplit
  | cons operation rest ih =>
      rw [updates] at hsplit
      have hlonger {before' : List LocationUpdate}
          (hbefore : before = (operation.update? world.state).toList ++ before')
          (hrest : (world.perform operation).updates rest = before' ++ update :: after) :
          ∃ earlier later, operation :: rest = earlier ++ update.call :: later ∧
            update.state = (world.run earlier).state ∧ world.updates earlier = before := by
        obtain ⟨earlier, later, rfl, hstate, rfl⟩ := ih hrest
        exact ⟨operation :: earlier, later, rfl, hstate, hbefore.symm⟩
      cases hupdate : operation.update? world.state with
      | none =>
          rw [hupdate] at hsplit hlonger
          exact hlonger rfl hsplit
      | some first =>
          rw [hupdate] at hsplit hlonger
          cases before with
          | nil =>
              obtain ⟨rfl, -⟩ := List.cons.inj hsplit
              obtain ⟨rfl, hstate⟩ := Operation.update?_eq_some.mp hupdate
              exact ⟨[], rest, rfl, hstate, rfl⟩
          | cons head before =>
              obtain ⟨rfl, hrest⟩ := List.cons.inj hsplit
              exact hlonger rfl hrest

end

/-- A UE that is not gone after a run was not gone at any time before. -/
theorem not_gone_before {config : Config} {earlier later : List Operation} {ue : Ref Ue}
    (hthere : ¬ ((opened config).run (earlier ++ later)).state.Gone ue) :
    ¬ ((opened config).run earlier).state.Gone ue := by
  intro hgone
  rw [run_append] at hthere
  exact hthere (gone_run (run_sound config earlier) hgone later)

theorem not_gone_of_registered {state : State} {ue : Ref Ue}
    (hregistered : state.UeRegistered ue) : ¬ state.Gone ue :=
  fun hgone => hgone.2 hregistered

/-- A back reference stands only on a RAN UE that exists. -/
theorem givenTo_of_deliveredTo {config : Config} {earlier : List Operation}
    {update : LocationUpdate} (hstate : update.state = ((opened config).run earlier).state)
    {ue : Ref Ue} (hdelivered : update.DeliveredTo ue) : update.GivenTo update.ranUe := by
  refine ⟨?_, rfl⟩
  obtain ⟨-, hback⟩ := hdelivered
  rw [hstate] at hback ⊢
  have hsound := run_sound config earlier
  have hregistered := (hsound.pool.live _).mp (run_linkedLive config earlier _ _ hback)
  exact hsound.pool.ranUe_created hregistered

theorem run_ranUe_records (config : Config) (ranUe : Ref RanUe) (operations : List Operation) :
    (((opened config).run operations).state.ranUeWhereabouts ranUe).1.Records
      ((opened config).given ranUe operations) := by
  induction operations using List.reverseRecOn with
  | nil => exact UserLocation.records_nil
  | append_singleton operations operation ih =>
      rw [run_concat, ranUeWhereabouts_perform (run_sound config operations).toWellNumbered, given,
        updates_concat, List.filter_append]
      cases hupdate : operation.update? ((opened config).run operations).state with
      | none => simpa [given] using ih
      | some update =>
          by_cases hgiven : update.GivenTo ranUe
          · obtain ⟨-, hstate⟩ := Operation.update?_eq_some.mp hupdate
            have hknown : update.known =
                (((opened config).run operations).state.ranUeWhereabouts ranUe).1 := by
              rw [LocationUpdate.known, hgiven.2, hstate, ranUeWhereabouts,
                if_pos (hstate ▸ hgiven.1)]
              rfl
            rw [← hknown] at ih
            simpa [Option.filter_some, hgiven, given] using ih.concat
          · simpa [Option.filter_some, hgiven, given] using ih

theorem run_ueWhereabouts {config : Config} {operations : List Operation} {ue : Ref Ue}
    (hthere : ¬ ((opened config).run operations).state.Gone ue) :
    (((opened config).run operations).state.ueWhereabouts ue).1 =
      (((opened config).delivered ue operations).getLast?.map
        fun update => (update.result, update.tai)).getD default := by
  apply view_run fun state => (state.ueWhereabouts ue).1
  rintro earlier operation later rfl
  exact ueWhereabouts_perform (run_sound config earlier).toWellNumbered
    (not_gone_before hthere) operation

theorem ueWhereabouts_of_registered {config : Config} {operations : List Operation} {ue : Ref Ue}
    (hregistered : ((opened config).run operations).state.UeRegistered ue) :
    ((opened config).run operations).state.ueWhereabouts ue =
      (((opened config).run operations).state.ue ue).whereabouts :=
  if_pos ((run_sound config operations).ue_created hregistered)

/-- If the updates of a kind that are delivered to a UE are those given to a RAN UE, they are the
same list. -/
theorem filter_kind_delivered {updates : List LocationUpdate} {kind : LocationKind} {ue : Ref Ue}
    {ranUe : Ref RanUe} (hsame : ∀ update ∈ updates, update.kind = kind →
      (update.DeliveredTo ue ↔ update.GivenTo ranUe)) :
    (updates.filter (·.DeliveredTo ue)).filter (·.kind = kind) =
      (updates.filter (·.GivenTo ranUe)).filter (·.kind = kind) := by
  rw [List.filter_filter, List.filter_filter]
  apply List.filter_congr
  intro update hmem
  by_cases hkind : update.kind = kind
  · simp only [hsame update hmem hkind]
  · simp [hkind]

theorem delivered_split {world : World} {ue : Ref Ue} {operations : List Operation}
    {last : LocationUpdate} (hlast : (world.delivered ue operations).getLast? = some last) :
    ∃ before after, world.updates operations = before ++ last :: after ∧ last.DeliveredTo ue ∧
      world.delivered ue operations = (before ++ [last]).filter (·.DeliveredTo ue) := by
  obtain ⟨init, hinit⟩ := List.getLast?_eq_some_iff.mp hlast
  obtain ⟨first, second, hupdates, hfirst, hsecond⟩ := List.filter_eq_append_iff.mp hinit
  obtain ⟨passed, after, rfl, hpassed, hdelivered, hafter⟩ := List.filter_eq_cons_iff.mp hsecond
  refine ⟨first ++ passed, after, ?_, by simpa using hdelivered, ?_⟩
  · rw [hupdates, List.append_assoc]
  · have hnone : passed.filter (·.DeliveredTo ue) = [] :=
      List.filter_eq_nil_iff.mpr hpassed
    have hown : [last].filter (·.DeliveredTo ue) = [last] :=
      List.filter_cons_of_pos hdelivered
    rw [hinit, List.filter_append, List.filter_append, hfirst, hnone, List.append_nil, hown]

/-- A UE is where its last delivered update left the RAN UE.  So a kind is as its last delivered
update says wherever the updates of the kind that are delivered to the UE are those given to the
RAN UE of the last delivery. -/
theorem run_location (config : Config) (operations : List Operation) {ue : Ref Ue}
    (hregistered : ((opened config).run operations).state.UeRegistered ue) :
    let world := opened config
    let location := ((world.run operations).state.ue ue).location
    location =
      ((world.delivered ue operations).getLast?.map LocationUpdate.result).getD default ∧
    (∀ before update after, world.updates operations = before ++ update :: after →
      update.DeliveredTo ue →
        update.result.Records ((before ++ [update]).filter (·.GivenTo update.ranUe)) ∧
        ∀ kind, update.result.entry kind =
          if kind = update.kind then some update.entry else update.known.entry kind) ∧
    ∀ kind ranUe,
      (∀ update ∈ world.updates operations, update.kind = kind →
        (update.DeliveredTo ue ↔ update.GivenTo ranUe)) →
      (∀ update ∈ (world.delivered ue operations).getLast?, update.ranUe = ranUe) →
      location.entry kind =
        ((world.delivered ue operations).filter (·.kind = kind)).getLast?.map
          LocationUpdate.entry := by
  intro world location
  have hlocation : location =
      ((world.delivered ue operations).getLast?.map LocationUpdate.result).getD default := by
    have hseen := run_ueWhereabouts (not_gone_of_registered hregistered)
    rw [ueWhereabouts_of_registered hregistered] at hseen
    refine (congrArg Prod.fst hseen).trans ?_
    cases (world.delivered ue operations).getLast? <;> rfl
  have hresult {before after : List LocationUpdate} {update : LocationUpdate}
      (hsplit : world.updates operations = before ++ update :: after)
      (hdelivered : update.DeliveredTo ue) :
      update.result.Records ((before ++ [update]).filter (·.GivenTo update.ranUe)) := by
    obtain ⟨earlier, later, rfl, hstate, rfl⟩ := updates_split hsplit
    have hgiven := givenTo_of_deliveredTo hstate hdelivered
    have hrecords := run_ranUe_records config update.ranUe (earlier ++ [update.call])
    rw [run_concat, ranUeWhereabouts_update hstate, if_pos hgiven, given, updates_concat,
      Operation.update?_eq_some.mpr ⟨rfl, hstate⟩] at hrecords
    exact hrecords
  refine ⟨hlocation, fun before update after hsplit hdelivered =>
    ⟨hresult hsplit hdelivered, update.entry_result⟩, ?_⟩
  intro kind ranUe hsame hlast
  cases hdelivered : (world.delivered ue operations).getLast? with
  | none =>
      rw [hlocation, hdelivered, List.getLast?_eq_none_iff.mp hdelivered]
      exact UserLocation.entry_default kind
  | some last =>
      obtain ⟨before, after, hsplit, hlastDelivered, hlist⟩ := delivered_split hdelivered
      have hfrom : last.ranUe = ranUe := hlast last hdelivered
      have hrecords := hresult hsplit hlastDelivered kind
      rw [hfrom] at hrecords
      rw [hlocation, hdelivered, hlist, filter_kind_delivered]
      · exact hrecords
      · intro update hmem
        apply hsame
        rw [hsplit, List.append_cons]
        exact List.mem_append_left _ hmem

/-- A RAN UE that got an E-UTRA report before it was attached and an NR report afterwards: the UE
takes both over. -/
theorem location_includes_earlier_report :
    let cell : CellReport :=
      { tai := ⟨[0, 241, 16], [0, 0, 1]⟩, cellPlmn := [0, 241, 16]
        cell := ⟨[0, 0, 0, 0, 16], 36⟩, timestamp := some [0, 0, 0, 0] }
    let operations : List Operation :=
      [.newUe "imsi-001010000000001", .newNode ⟨1⟩, .newRanUe ⟨0⟩ 1,
        .updateLocation ⟨0⟩ (some (.eutra cell)) default, .attach ⟨0⟩ ⟨0⟩,
        .updateLocation ⟨0⟩ (some (.nr cell)) default]
    let world := opened Config.standard
    let location := ((world.run operations).state.ue ⟨0⟩).location
    (world.run operations).state.UeRegistered ⟨0⟩ ∧
      (world.delivered ⟨0⟩ operations).map (·.kind) = [.nr] ∧
      location.entry .nr = some (.nr (cell.nrLocation default)) ∧
      location.entry .eutra = some (.eutra (cell.eutraLocation default)) := by
  intro cell operations world location
  have hregistered : (world.run operations).state.UeRegistered ⟨0⟩ := by decide +kernel
  obtain ⟨hlocation, -, hkinds⟩ := run_location Config.standard operations hregistered
  refine ⟨hregistered, by decide +kernel, ?_, ?_⟩
  · exact (hkinds .nr ⟨0⟩ (by decide +kernel) (by decide +kernel)).trans (by decide +kernel)
  · refine (congrArg (UserLocation.entry · .eutra) hlocation).trans ?_
    decide +kernel

/-- A UE with RAN UEs over both accesses: a report over one of them takes away the NR location that
was delivered over the other one. -/
theorem location_lost_over_other_access :
    let cell : CellReport :=
      { tai := ⟨[0, 241, 16], [0, 0, 1]⟩, cellPlmn := [0, 241, 16]
        cell := ⟨[0, 0, 0, 0, 16], 36⟩, timestamp := some [0, 0, 0, 0] }
    let address : InterworkingReport := { address := ⟨[10, 0, 0, 1], 32⟩, portNumber := [4, 0] }
    let earlier : List Operation :=
      [.newUe "imsi-001010000000001", .newNode ⟨1⟩, .newNode ⟨2⟩, .setAccess ⟨1⟩ .nonThreeGpp,
        .newRanUe ⟨0⟩ 1, .newRanUe ⟨1⟩ 1, .attach ⟨0⟩ ⟨0⟩, .attach ⟨0⟩ ⟨1⟩,
        .updateLocation ⟨0⟩ (some (.nr cell)) default]
    let operations := earlier ++ [.updateLocation ⟨1⟩ (some (.n3iwf address)) default]
    let world := opened Config.standard
    let before := (world.run earlier).state.ue ⟨0⟩
    let after := (world.run operations).state.ue ⟨0⟩
    (world.run operations).state.UeRegistered ⟨0⟩ ∧
      (before.slot .threeGpp = some 1 ∧ before.slot .nonThreeGpp = some 2) ∧
      (after.slot .threeGpp = some 1 ∧ after.slot .nonThreeGpp = some 2) ∧
      (world.delivered ⟨0⟩ operations).map (·.kind) = [.nr, .n3ga] ∧
      before.location.entry .nr = some (.nr (cell.nrLocation default)) ∧
      after.location.entry .nr = none ∧
      ((world.delivered ⟨0⟩ operations).filter (·.kind = .nr)).getLast?.map LocationUpdate.entry =
        some (.nr (cell.nrLocation default)) := by
  decide +kernel

end World

end AccessMobility
