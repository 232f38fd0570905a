import Branch.Core.BeaconObservations

/-!
What the snapshot of the routes says about the beacons that carriers returned, whatever the
order in which they did.
-/

namespace Branch.Core

open Branch.Lib BeaconObservation

section Collect

variable {newURL : String → Option URLParts} {observations : List BeaconObservation}

/-- Every route that the observations name is one that the client can use. -/
def Usable (newURL : String → Option URLParts) (observations : List BeaconObservation) : Prop :=
  ∀ observation ∈ observations, ∀ route, observation.route = some route →
    validateRouteMaterial newURL route.toRelayRouteMaterial = .ok route.toRelayRouteMaterial

theorem eq_of_validateRouteMaterial {route material : RelayRouteMaterial}
    (h : validateRouteMaterial newURL route = .ok material) : material = route := by
  unfold validateRouteMaterial at h
  split at h
  · cases h
  split at h
  · cases h
  split at h
  · cases h
  split at h
  · cases h
  split at h
  · cases h
  · exact (Except.ok.inj h).symm

theorem collectRoutes_eq (h : Usable newURL observations) (seen : List String)
    (routes : List VerifiedRelayRouteSnapshot) :
    collectRoutes newURL seen routes observations =
      .ok (keepFirst VerifiedRelayRouteSnapshot.dedupeKey maxRouteSnapshot seen routes
        (observations.filterMap BeaconObservation.route)) := by
  induction observations generalizing seen routes with
  | nil => rfl
  | cons observation observations ih =>
    have hrest : Usable newURL observations :=
      fun other hmem => h other (List.mem_cons_of_mem _ hmem)
    rw [collectRoutes]
    cases hroute : observation.route with
    | none =>
      rw [List.filterMap_cons_none hroute]
      exact ih hrest seen routes
    | some route =>
      rw [List.filterMap_cons_some hroute, keepFirst]
      dsimp only
      by_cases hseen : route.dedupeKey ∈ seen
      · rw [if_pos hseen, if_pos hseen]
        exact ih hrest seen routes
      · rw [if_neg hseen, if_neg hseen, routeMaterialFromValidatedBootstrapBeacon,
          h observation List.mem_cons_self route hroute]
        dsimp only
        by_cases hfull : maxRouteSnapshot ≤ (routes ++ [route]).length
        · rw [if_pos hfull, if_pos hfull]
        · rw [if_neg hfull, if_neg hfull]
          exact ih hrest _ _

theorem dedupeObservations_eq (observations : List BeaconObservation) :
    dedupeObservations observations =
      firstWins BeaconObservation.dedupeKey maxClientDiscoveryObservations [] observations :=
  keepFirst_eq (by decide)

theorem Usable.sub {others : List BeaconObservation} (h : Usable newURL observations)
    (hsub : ∀ observation ∈ others, observation ∈ observations) : Usable newURL others :=
  fun observation hmem => h observation (hsub observation hmem)

theorem routeSnapshot_eq (h : Usable newURL observations) :
    routeSnapshot newURL observations =
      .ok (firstWins VerifiedRelayRouteSnapshot.dedupeKey maxRouteSnapshot []
        ((firstWins BeaconObservation.dedupeKey maxClientDiscoveryObservations []
          observations).filterMap BeaconObservation.route)) := by
  have hkept : Usable newURL (dedupeObservations observations) := by
    refine h.sub fun observation hmem => ?_
    rw [dedupeObservations_eq] at hmem
    exact mem_of_firstWins hmem
  rw [routeSnapshot, verifiedRoutesFromBeaconObservations, collectRoutes_eq hkept,
    keepFirst_eq (by decide), dedupeObservations_eq]
  rfl

end Collect

section Snapshot

variable (newURL : String → Option URLParts) (observations : List BeaconObservation)

def InSnapshot (route : VerifiedRelayRouteSnapshot) : Prop :=
  ∃ routes, routeSnapshot newURL observations = .ok routes ∧ route ∈ routes

/-- One of the accepted beacons of its sender with the highest sequence. -/
structure BeaconObservation.IsLatest (observation : BeaconObservation) : Prop where
  mem : observation ∈ observations
  accepted : observation.validation = .accepted
  highest : ∀ other ∈ observations, other.validation = .accepted →
    other.senderPublicKey = observation.senderPublicKey →
      ∀ sequence, other.sequence = some sequence →
        ∃ top, observation.sequence = some top ∧ sequence ≤ top

def qualifyingRoutes : Finset String :=
  keysOf VerifiedRelayRouteSnapshot.dedupeKey (observations.filterMap BeaconObservation.route)

def acceptedObservations : List BeaconObservation :=
  observations.filter fun observation => observation.validation = .accepted

/-- In whatever order the carriers return these observations, the snapshot has only routes of
the latest beacons, the same ones where at most four qualify, and some where there would be
some without the rejected observations. -/
structure SnapshotHolds : Prop where
  latest : ∀ returned : List BeaconObservation, returned.Perm observations →
    ∃ routes, routeSnapshot newURL returned = .ok routes ∧ ∀ route ∈ routes,
      ∃ observation : BeaconObservation, observation.IsLatest observations ∧
        observation.route = some route
  settled : (qualifyingRoutes observations).card ≤ maxRouteSnapshot →
    ∀ returned : List BeaconObservation, returned.Perm observations → ∀ route,
      InSnapshot newURL returned route ↔ InSnapshot newURL observations route
  served : ∀ returned : List BeaconObservation, returned.Perm observations →
    (∃ route, InSnapshot newURL (acceptedObservations returned) route) →
      ∃ route, InSnapshot newURL returned route

def otherObservations (route : VerifiedRelayRouteSnapshot) : List BeaconObservation :=
  observations.filter fun observation => ¬ observation.route = some route

/-- Every route is usable and named by a latest beacon of its sender; where at most four
qualify, none has another expiry, and each is named by an observation that the others neither
crowd out nor shadow; and the rejected observations crowd out no route. -/
structure Unmistakable : Prop where
  usable : Usable newURL observations
  latest : ∀ observation ∈ observations, ∀ route, observation.route = some route →
    ∃ other : BeaconObservation, other.IsLatest observations ∧ other.route = some route
  settled : (qualifyingRoutes observations).card ≤ maxRouteSnapshot →
    ∀ observation ∈ observations, ∀ route, observation.route = some route →
      (∀ other ∈ observations, ∀ route', other.route = some route' →
        route'.dedupeKey = route.dedupeKey → route' = route) ∧
      (∃ other ∈ observations, other.route = some route ∧
        other.dedupeKey ∉
          keysOf BeaconObservation.dedupeKey (otherObservations observations route)) ∧
      (keysOf BeaconObservation.dedupeKey (otherObservations observations route)).card <
        maxClientDiscoveryObservations
  served : (∀ observation ∈ observations, observation.validation = .accepted) ∨
    ∀ observation ∈ observations, observation.route.isSome →
      (foreKeys BeaconObservation.dedupeKey (fun other => other.validation = .accepted)
        (fun other => other.route.isSome) observations observation).card <
          maxClientDiscoveryObservations

end Snapshot

section Orders

variable {newURL : String → Option URLParts} {observations returned : List BeaconObservation}
  {route : VerifiedRelayRouteSnapshot} {observation : BeaconObservation}

theorem validation_of_route (h : observation.route = some route) :
    observation.validation = .accepted := by
  unfold BeaconObservation.route at h
  split at h
  · assumption
  · cases h

theorem inSnapshot_iff (h : Usable newURL observations) :
    InSnapshot newURL observations route ↔
      route ∈ firstWins VerifiedRelayRouteSnapshot.dedupeKey maxRouteSnapshot []
        ((firstWins BeaconObservation.dedupeKey maxClientDiscoveryObservations []
          observations).filterMap BeaconObservation.route) := by
  rw [InSnapshot, routeSnapshot_eq h]
  constructor
  · rintro ⟨routes, hroutes, hmem⟩
    exact Except.ok.inj hroutes ▸ hmem
  · exact fun hmem => ⟨_, rfl, hmem⟩

theorem exists_inSnapshot_iff (h : Usable newURL observations) :
    (∃ route, InSnapshot newURL observations route) ↔
      ∃ observation ∈ firstWins BeaconObservation.dedupeKey maxClientDiscoveryObservations []
        observations, observation.route.isSome := by
  constructor
  · rintro ⟨route, hroute⟩
    obtain ⟨observation, hmem, hnames⟩ :=
      List.mem_filterMap.mp (mem_of_firstWins ((inSnapshot_iff h).mp hroute))
    exact ⟨observation, hmem, Option.isSome_iff_exists.mpr ⟨route, hnames⟩⟩
  · rintro ⟨observation, hmem, hsome⟩
    obtain ⟨route, hnames⟩ := Option.isSome_iff_exists.mp hsome
    have hroute := List.mem_filterMap.mpr ⟨observation, hmem, hnames⟩
    cases hroutes : (firstWins BeaconObservation.dedupeKey maxClientDiscoveryObservations []
        observations).filterMap BeaconObservation.route with
    | nil =>
      rw [hroutes] at hroute
      cases hroute
    | cons first rest =>
      refine ⟨first, (inSnapshot_iff h).mpr ?_⟩
      rw [hroutes]
      exact mem_firstWins_head

theorem inSnapshot_head (h : Usable newURL (observation :: observations))
    (hroute : observation.route = some route) :
    InSnapshot newURL (observation :: observations) route := by
  rw [inSnapshot_iff h, maxClientDiscoveryObservations,
    firstWins_cons_new List.not_mem_nil, List.filterMap_cons_some hroute]
  exact mem_firstWins_head

theorem usable_head {routes : List VerifiedRelayRouteSnapshot}
    (h : routeSnapshot newURL (observation :: observations) = .ok routes)
    (hroute : observation.route = some route) :
    validateRouteMaterial newURL route.toRelayRouteMaterial =
      .ok route.toRelayRouteMaterial := by
  rw [routeSnapshot, verifiedRoutesFromBeaconObservations, dedupeObservations_eq,
    maxClientDiscoveryObservations, firstWins_cons_new List.not_mem_nil, collectRoutes,
    hroute] at h
  dsimp only at h
  rw [if_neg List.not_mem_nil, routeMaterialFromValidatedBootstrapBeacon] at h
  cases hvalid : validateRouteMaterial newURL route.toRelayRouteMaterial with
  | error message =>
    rw [hvalid] at h
    cases h
  | ok material => rw [eq_of_validateRouteMaterial hvalid]

theorem exists_perm_head (hmem : observation ∈ observations) :
    ∃ rest, (observation :: rest).Perm observations := by
  obtain ⟨before, after, rfl⟩ := List.append_of_mem hmem
  exact ⟨before ++ after, List.perm_middle.symm⟩

theorem Usable.perm (h : Usable newURL observations) (hperm : returned.Perm observations) :
    Usable newURL returned :=
  h.sub fun _ hmem => hperm.mem_iff.mp hmem

theorem Usable.acceptedObservations (h : Usable newURL observations) :
    Usable newURL (acceptedObservations observations) :=
  h.sub fun _ hmem => List.mem_of_mem_filter hmem

theorem dedupeKey_ne {other : BeaconObservation} (hcarried : observation.Carried)
    (haccepted : observation.validation = .accepted) (hother : ¬ other.validation = .accepted) :
    observation.dedupeKey ≠ other.dedupeKey := by
  obtain ⟨hsender, hbeacon, hsequence⟩ := hcarried haccepted
  obtain ⟨sender, hsender⟩ := Option.isSome_iff_exists.mp hsender
  obtain ⟨beacon, hbeacon⟩ := Option.isSome_iff_exists.mp hbeacon
  obtain ⟨sequence, hsequence⟩ := Option.isSome_iff_exists.mp hsequence
  have hrejected : other.validation = .rejected := by
    cases hvalidation : other.validation with
    | accepted => exact absurd hvalidation hother
    | rejected => rfl
  intro h
  have hchars := congrArg String.toList h
  simp [BeaconObservation.dedupeKey, haccepted, hsender, hbeacon, hsequence, hrejected,
    String.toList_append] at hchars

theorem served_iff (husable : Usable newURL observations)
    (hcarried : ∀ observation ∈ observations, observation.Carried) :
    (∀ returned : List BeaconObservation, returned.Perm observations →
        (∃ route, InSnapshot newURL (acceptedObservations returned) route) →
          ∃ route, InSnapshot newURL returned route) ↔
      (∀ observation ∈ observations, observation.validation = .accepted) ∨
        ∀ observation ∈ observations, observation.route.isSome →
          (foreKeys BeaconObservation.dedupeKey (fun other => other.validation = .accepted)
            (fun other => other.route.isSome) observations observation).card <
              maxClientDiscoveryObservations := by
  have haccepted : ∀ observation ∈ observations, observation.route.isSome →
      observation.validation = .accepted := by
    intro observation _ hsome
    obtain ⟨route, hroute⟩ := Option.isSome_iff_exists.mp hsome
    exact validation_of_route hroute
  rw [← forall_perm_not_pushed_out_iff (by decide) haccepted
    fun z hz w _ hz' hw => dedupeKey_ne (hcarried z hz) hz' hw]
  refine forall_congr' fun returned => forall_congr' fun hperm => ?_
  rw [exists_inSnapshot_iff (husable.perm hperm),
    exists_inSnapshot_iff (husable.perm hperm).acceptedObservations]
  rfl

theorem inSnapshot_of_perm (h : SnapshotHolds newURL observations)
    (husable : Usable newURL observations)
    (hfew : (qualifyingRoutes observations).card ≤ maxRouteSnapshot)
    (hmem : observation ∈ observations) (hroute : observation.route = some route)
    (hperm : returned.Perm observations) : InSnapshot newURL returned route := by
  obtain ⟨rest, hhead⟩ := exists_perm_head hmem
  have hfirst := inSnapshot_head (husable.perm hhead) hroute
  exact (h.settled hfew returned hperm route).mpr
    ((h.settled hfew _ hhead route).mp hfirst)

theorem unmistakable_of_snapshotHolds
    (hcarried : ∀ observation ∈ observations, observation.Carried)
    (h : SnapshotHolds newURL observations) : Unmistakable newURL observations := by
  have husable : Usable newURL observations := by
    intro observation hmem route hroute
    obtain ⟨rest, hperm⟩ := exists_perm_head hmem
    obtain ⟨routes, hroutes, _⟩ := h.latest _ hperm
    exact usable_head hroutes hroute
  refine
    { usable := husable
      latest := ?_
      settled := ?_
      served := (served_iff husable hcarried).mp h.served }
  · intro observation hmem route hroute
    obtain ⟨rest, hperm⟩ := exists_perm_head hmem
    obtain ⟨routes, hroutes, hlatest⟩ := h.latest _ hperm
    obtain ⟨routes', hroutes', hin⟩ := inSnapshot_head (husable.perm hperm) hroute
    rw [hroutes] at hroutes'
    exact hlatest route (Except.ok.inj hroutes' ▸ hin)
  · intro hfew observation hmem route hroute
    refine ⟨?_, ?_⟩
    · intro other hother route' hroute' hkey
      have hin := inSnapshot_of_perm h husable hfew hmem hroute (List.Perm.refl _)
      have hin' := inSnapshot_of_perm h husable hfew hother hroute' (List.Perm.refl _)
      rw [inSnapshot_iff husable] at hin hin'
      exact firstWins_inj hin' hin hkey
    · refine forall_perm_mem_firstWins_iff (p := fun other : BeaconObservation => other.route = some route).mp ?_
      intro returned hperm
      have hin := inSnapshot_of_perm h husable hfew hmem hroute hperm
      rw [inSnapshot_iff (husable.perm hperm)] at hin
      exact List.mem_filterMap.mp (mem_of_firstWins hin)

theorem Unmistakable.inSnapshot (h : Unmistakable newURL observations)
    (hfew : (qualifyingRoutes observations).card ≤ maxRouteSnapshot)
    (hperm : returned.Perm observations) :
    InSnapshot newURL returned route ↔
      ∃ observation ∈ observations, observation.route = some route := by
  rw [inSnapshot_iff (h.usable.perm hperm)]
  constructor
  · intro hin
    obtain ⟨observation, hmem, hroute⟩ := List.mem_filterMap.mp (mem_of_firstWins hin)
    exact ⟨observation, hperm.mem_iff.mp (mem_of_firstWins hmem), hroute⟩
  · rintro ⟨observation, hmem, hroute⟩
    obtain ⟨honly, hnames⟩ := h.settled hfew observation hmem route hroute
    obtain ⟨other, hother, hroute'⟩ :=
      (forall_perm_mem_firstWins_iff (p := fun other : BeaconObservation => other.route = some route)).mpr hnames
        returned hperm
    have hkept := List.mem_filterMap.mpr ⟨other, hother, hroute'⟩
    have hcard : (keysOf VerifiedRelayRouteSnapshot.dedupeKey
        ((firstWins BeaconObservation.dedupeKey maxClientDiscoveryObservations []
          returned).filterMap BeaconObservation.route)).card ≤ maxRouteSnapshot := by
      refine le_trans (Finset.card_le_card (keysOf_subset fun route hroute => ?_)) hfew
      obtain ⟨observation, hmem, hnamed⟩ := List.mem_filterMap.mp hroute
      exact ⟨route, List.mem_filterMap.mpr
        ⟨observation, hperm.mem_iff.mp (mem_of_firstWins hmem), hnamed⟩, rfl⟩
    obtain ⟨route', hin, hkey⟩ := exists_key_mem_firstWins hcard hkept
    obtain ⟨named, hnamed, hroute''⟩ := List.mem_filterMap.mp (mem_of_firstWins hin)
    exact honly named (hperm.mem_iff.mp (mem_of_firstWins hnamed)) route' hroute'' hkey ▸ hin

theorem snapshotHolds_of_unmistakable
    (hcarried : ∀ observation ∈ observations, observation.Carried)
    (h : Unmistakable newURL observations) : SnapshotHolds newURL observations where
  latest returned hperm := by
    refine ⟨_, routeSnapshot_eq (h.usable.perm hperm), fun route hin => ?_⟩
    obtain ⟨observation, hmem, hroute⟩ := List.mem_filterMap.mp (mem_of_firstWins hin)
    exact h.latest observation (hperm.mem_iff.mp (mem_of_firstWins hmem)) route hroute
  settled hfew returned hperm route := by
    rw [h.inSnapshot hfew hperm, h.inSnapshot hfew (List.Perm.refl _)]
  served := (served_iff h.usable hcarried).mpr h.served

/-- In whatever order the observations come, the snapshot is that of the latest beacons exactly
when the observations are unmistakable. -/
theorem snapshotHolds_iff (newURL : String → Option URLParts)
    (observations : List BeaconObservation)
    (hcarried : ∀ observation ∈ observations, observation.Carried) :
    SnapshotHolds newURL observations ↔ Unmistakable newURL observations :=
  ⟨unmistakable_of_snapshotHolds hcarried, snapshotHolds_of_unmistakable hcarried⟩

end Orders

section Sample

/-- The parts of `wss://relay-a.test:443/relay/v0` and of the like. -/
def relayURL (uri : String) : Option URLParts :=
  if "wss://".toList <+: uri.toList then
    some
      { protocol := "wss:"
        hostname := String.ofList ((uri.toList.drop 6).takeWhile (· ≠ ':'))
        username := ""
        password := ""
        hash := "" }
  else none

def observedBeacon (sequence : Nat) (endpoint : String) : BeaconObservation where
  validation := .accepted
  reason := "accepted"
  wrapperPreview := "BRANCH0."
  evidence := { carrier := "github", recordUrl := "https://github.com/a/b" }
  expiresAt := some 1000
  relayEndpoint := some ("wss " ++ endpoint)
  profileMultihash := some developmentProfileMultihash
  senderPublicKey := some "AAAAAAAAAAAAAAAAAAAAAAAAAAAAAAAAAAAAAAAAAAA"
  beaconId := some "AAAAAAAAAAAAAAAAAAAAAAAAAAAAAAAAAAAAAAAAAAA"
  sequence := some sequence

def formerRoute : VerifiedRelayRouteSnapshot where
  endpointUri := "wss://relay-a.test:443/relay/v0"
  relayPublicKey := "AAAAAAAAAAAAAAAAAAAAAAAAAAAAAAAAAAAAAAAAAAA"
  profileMultihash := developmentProfileMultihash
  expiresAt := 1000

theorem snapshotHolds_single :
    SnapshotHolds relayURL [observedBeacon 1 "wss://relay-a.test:443/relay/v0"] := by
  have hroute : (observedBeacon 1 "wss://relay-a.test:443/relay/v0").route = some formerRoute := by
    decide +kernel
  refine (snapshotHolds_iff relayURL _ (by decide +kernel)).mpr
    { usable := ?_
      latest := ?_
      settled := ?_
      served := .inl (by decide +kernel) }
  · intro observation hmem route hnamed
    obtain rfl := List.mem_singleton.mp hmem
    obtain rfl := Option.some.inj (hroute.symm.trans hnamed)
    decide +kernel
  · intro observation hmem route hnamed
    obtain rfl := List.mem_singleton.mp hmem
    refine ⟨_, ⟨List.mem_singleton_self _, rfl, ?_⟩, hnamed⟩
    intro other hother _ _ sequence hsequence
    obtain rfl := List.mem_singleton.mp hother
    exact ⟨sequence, hsequence, le_rfl⟩
  · intro _ observation hmem route hnamed
    obtain rfl := List.mem_singleton.mp hmem
    have hothers : otherObservations
        [observedBeacon 1 "wss://relay-a.test:443/relay/v0"] route = [] := by
      simp [otherObservations, hnamed]
    refine ⟨?_, ⟨_, List.mem_singleton_self _, hnamed, ?_⟩, ?_⟩
    · intro other hother route' hroute' _
      obtain rfl := List.mem_singleton.mp hother
      exact Option.some.inj (hroute'.symm.trans hnamed)
    · rw [hothers]
      exact Finset.notMem_empty _
    · rw [hothers]
      decide

/-- The route of a beacon that another one superseded stays in the snapshot. -/
theorem not_snapshotHolds_superseded :
    ¬ SnapshotHolds relayURL
      [observedBeacon 1 "wss://relay-a.test:443/relay/v0",
        observedBeacon 2 "wss://relay-b.test:443/relay/v0"] := by
  intro h
  obtain ⟨routes, hroutes, hlatest⟩ := h.latest _ (List.Perm.refl _)
  have hformer : ∀ routes, routeSnapshot relayURL
      [observedBeacon 1 "wss://relay-a.test:443/relay/v0",
        observedBeacon 2 "wss://relay-b.test:443/relay/v0"] = .ok routes →
      formerRoute ∈ routes := by
    have hin : (routeSnapshot relayURL
      [observedBeacon 1 "wss://relay-a.test:443/relay/v0",
        observedBeacon 2 "wss://relay-b.test:443/relay/v0"]).toOption.any
          (formerRoute ∈ ·) = true := by
      decide +kernel
    intro routes hroutes
    rw [hroutes] at hin
    simpa using hin
  obtain ⟨observation, hobservation, hnamed⟩ := hlatest _ (hformer routes hroutes)
  obtain ⟨top, htop, hle⟩ := hobservation.highest
    (observedBeacon 2 "wss://relay-b.test:443/relay/v0") (by simp) rfl
    (by
      have hmem := hobservation.mem
      simp only [List.mem_cons, List.not_mem_nil, or_false] at hmem
      rcases hmem with rfl | rfl <;> rfl) 2 rfl
  have hmem := hobservation.mem
  simp only [List.mem_cons, List.not_mem_nil, or_false] at hmem
  rcases hmem with rfl | rfl
  · obtain rfl := Option.some.inj htop
    omega
  · exact absurd hnamed (by decide +kernel)

end Sample

end Branch.Core
