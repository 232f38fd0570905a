import Mathlib.Data.List.Dedup
import Branch.Lib.Latest
import Branch.Lib.Trace
import Branch.Agreement.BootstrapBeacon
import Branch.Wss.DiscoveredFederation

/-!
The view of a pass and the view that the latest beacons of the senders give, whatever the
order in which a carrier returned them.
-/

namespace Branch.Wss

open Branch.Lib Branch.Protocol SignedBootstrapBeacon

section Merge

variable (config : DiscoveredPeerRouterConfig) (now clock : Int)
  (observations : List (List UInt8))

def acceptedBeacons : List SignedBootstrapBeacon :=
  observations.filterMap (acceptedBeacon config now clock)

def beaconsOf (sender : String) : List SignedBootstrapBeacon :=
  (acceptedBeacons config now clock observations).filter fun beacon => beacon.identityKey = sender

/-- The beacon of a sender with the highest sequence, unless there is another wrapper with
it. -/
def latestBeacon (sender : String) : Option SignedBootstrapBeacon :=
  Latest.leader sequence wrapper (beaconsOf config now clock observations sender)

def latestBeacons : List (String × SignedBootstrapBeacon) :=
  ((acceptedBeacons config now clock observations).map identityKey).dedup.filterMap fun sender =>
    (latestBeacon config now clock observations sender).map fun beacon => (sender, beacon)

/-- On their way in, two wrappers of the sender stood at one sequence above all others of it
so far, and none do in the end. -/
def Overtaken (sender : String) : Prop :=
  Latest.Superseded sequence wrapper (beaconsOf config now clock observations sender)

variable {config now clock observations} {sender : String} {beacon : SignedBootstrapBeacon}

theorem acceptedBeacon_wrapper {input : List UInt8}
    (h : acceptedBeacon config now clock input = some beacon) : beacon.wrapper = input := by
  unfold acceptedBeacon at h
  split at h
  · cases h
  · split at h
    · cases h
      rfl
    · cases h

theorem eq_of_wrapper_eq {b b' : SignedBootstrapBeacon}
    (hb : b ∈ acceptedBeacons config now clock observations)
    (hb' : b' ∈ acceptedBeacons config now clock observations)
    (h : b.wrapper = b'.wrapper) : b = b' := by
  obtain ⟨input, _, hinput⟩ := List.mem_filterMap.mp hb
  obtain ⟨input', _, hinput'⟩ := List.mem_filterMap.mp hb'
  rw [acceptedBeacon_wrapper hinput, acceptedBeacon_wrapper hinput'] at h
  subst h
  exact Option.some.inj (hinput.symm.trans hinput')

theorem mem_beaconsOf_iff :
    beacon ∈ beaconsOf config now clock observations sender ↔
      beacon ∈ acceptedBeacons config now clock observations ∧ beacon.identityKey = sender := by
  simp [beaconsOf]

theorem wrapper_injOn_beaconsOf :
    ∀ b ∈ beaconsOf config now clock observations sender,
      ∀ b' ∈ beaconsOf config now clock observations sender, b.wrapper = b'.wrapper → b = b' :=
  fun _ hb _ hb' =>
    eq_of_wrapper_eq (mem_beaconsOf_iff.mp hb).1 (mem_beaconsOf_iff.mp hb').1

/-- The map and the marks say of a sender what is held of it. -/
structure Tracks (merged : MergedBeacons) (sender : String)
    (standing : Latest.Standing SignedBootstrapBeacon) : Prop where
  marked : sender ∈ merged.equivocating ↔ standing = .rejected
  get?_eq : merged.validated.get? sender = standing.kept

variable {merged : MergedBeacons} {standing : Latest.Standing SignedBootstrapBeacon}

theorem Tracks.observe_self (h : Tracks merged beacon.identityKey standing) :
    Tracks (merged.observe beacon) beacon.identityKey
      (Latest.enter sequence wrapper standing beacon) := by
  unfold MergedBeacons.observe
  cases standing with
  | unseen =>
    have hmark : beacon.identityKey ∉ merged.equivocating := by simp [h.marked]
    rw [if_neg hmark, h.get?_eq]
    exact ⟨by simp [Latest.enter, hmark], by simp [Latest.enter]⟩
  | leading current =>
    have hmark : beacon.identityKey ∉ merged.equivocating := by simp [h.marked]
    rw [if_neg hmark, h.get?_eq]
    simp only [Latest.Standing.kept_leading, Latest.enter]
    split
    · exact ⟨by simp [hmark], by simp⟩
    · split
      · exact ⟨by simp, by simp⟩
      · exact ⟨by simp [hmark], h.get?_eq⟩
  | rejected =>
    have hmark : beacon.identityKey ∈ merged.equivocating := by simp [h.marked]
    rw [if_pos hmark]
    exact h

theorem Tracks.observe_of_ne (hne : sender ≠ beacon.identityKey)
    (h : Tracks merged sender standing) : Tracks (merged.observe beacon) sender standing := by
  have hinsert : Tracks
      { merged with validated := merged.validated.insert beacon.identityKey beacon }
      sender standing :=
    ⟨h.marked, (Table.get?_insert_of_ne _ _ hne).trans h.get?_eq⟩
  unfold MergedBeacons.observe
  dsimp only
  split
  · exact h
  · split
    · exact hinsert
    · split
      · exact hinsert
      · split
        · refine ⟨?_, (Table.get?_erase_of_ne _ hne).trans h.get?_eq⟩
          rw [List.mem_cons, ← h.marked]
          simp [hne]
        · exact h

theorem tracks_mergeObservations (sender : String) (observations : List (List UInt8)) :
    Tracks (mergeObservations config now clock observations) sender
      (Latest.standing sequence wrapper (beaconsOf config now clock observations sender)) := by
  induction observations using List.reverseRecOn with
  | nil => exact ⟨by simp [mergeObservations, beaconsOf, acceptedBeacons],
      by simp [mergeObservations, beaconsOf, acceptedBeacons]⟩
  | append_singleton observations input ih =>
    cases haccept : acceptedBeacon config now clock input with
    | none =>
      have hmerge : mergeObservations config now clock (observations ++ [input]) =
          mergeObservations config now clock observations := by
        simp [mergeObservations, haccept]
      rw [hmerge]
      have hsame : beaconsOf config now clock (observations ++ [input]) sender =
          beaconsOf config now clock observations sender := by
        simp [beaconsOf, acceptedBeacons, haccept]
      rw [hsame]
      exact ih
    | some beacon =>
      have hmerge : mergeObservations config now clock (observations ++ [input]) =
          (mergeObservations config now clock observations).observe beacon := by
        simp [mergeObservations, haccept]
      rw [hmerge]
      by_cases hsender : beacon.identityKey = sender
      · have hsnoc : beaconsOf config now clock (observations ++ [input]) sender =
            beaconsOf config now clock observations sender ++ [beacon] := by
          simp [beaconsOf, acceptedBeacons, haccept, hsender]
        rw [hsnoc, Latest.standing_snoc]
        subst hsender
        exact ih.observe_self
      · have hsame : beaconsOf config now clock (observations ++ [input]) sender =
            beaconsOf config now clock observations sender := by
          simp [beaconsOf, acceptedBeacons, haccept, hsender]
        rw [hsame]
        exact ih.observe_of_ne (Ne.symm hsender)

theorem validated_eq_latestBeacon_iff :
    (mergeObservations config now clock observations).validated.get? sender =
        latestBeacon config now clock observations sender ↔
      ¬ Overtaken config now clock observations sender := by
  rw [(tracks_mergeObservations sender observations).get?_eq]
  exact Latest.kept_standing_eq_leader_iff wrapper_injOn_beaconsOf

theorem latestBeacon_eq_some_iff :
    latestBeacon config now clock observations sender = some beacon ↔
      beacon ∈ beaconsOf config now clock observations sender ∧
        ∀ b ∈ beaconsOf config now clock observations sender, b.sequence ≤ beacon.sequence ∧
          (b.sequence = beacon.sequence → b.wrapper = beacon.wrapper) := by
  rw [latestBeacon, Latest.leader_eq_some_iff wrapper_injOn_beaconsOf]
  constructor
  · rintro ⟨⟨hmem, htop⟩, hall⟩
    refine ⟨hmem, fun b hb => ⟨htop b hb, fun heq => hall b ⟨hb, fun d hd => ?_⟩⟩⟩
    rw [heq]
    exact htop d hd
  · rintro ⟨hmem, hall⟩
    have htop : Latest.Top sequence (beaconsOf config now clock observations sender) beacon :=
      ⟨hmem, fun b hb => (hall b hb).1⟩
    exact ⟨htop, fun b hb => (hall b hb.1).2 (hb.rank_eq htop)⟩

theorem mem_latestBeacons_iff :
    (sender, beacon) ∈ latestBeacons config now clock observations ↔
      latestBeacon config now clock observations sender = some beacon := by
  simp only [latestBeacons, List.mem_filterMap, List.mem_dedup, Option.map_eq_some_iff,
    Prod.mk.injEq]
  constructor
  · rintro ⟨_, _, _, hbeacon, rfl, rfl⟩
    exact hbeacon
  · intro h
    obtain ⟨haccepted, hsender⟩ := mem_beaconsOf_iff.mp (latestBeacon_eq_some_iff.mp h).1
    exact ⟨sender, List.mem_map.mpr ⟨beacon, haccepted, hsender⟩, beacon, h, rfl, rfl⟩

theorem latestBeacon_perm {observations' : List (List UInt8)}
    (hp : observations.Perm observations') :
    latestBeacon config now clock observations sender =
      latestBeacon config now clock observations' sender :=
  Latest.leader_perm wrapper_injOn_beaconsOf ((hp.filterMap _).filter _)

end Merge

section View

variable {config : DiscoveredPeerRouterConfig}
  {entries entries' : List (String × SignedBootstrapBeacon)}

structure Keyed (entries : List (String × SignedBootstrapBeacon)) : Prop where
  nodup : (entries.map Prod.fst).Nodup
  key_eq : ∀ entry ∈ entries, entry.1 = entry.2.identityKey

theorem Keyed.perm (h : Keyed entries) (hp : entries.Perm entries') : Keyed entries' :=
  ⟨(hp.map Prod.fst).nodup_iff.mp h.nodup,
    fun entry hentry => h.key_eq entry (hp.mem_iff.mpr hentry)⟩

theorem Keyed.eq_of_identityKey_eq (h : Keyed entries) {e e' : String × SignedBootstrapBeacon}
    (he : e ∈ entries) (he' : e' ∈ entries) (heq : e.1 = e'.1) : e = e' :=
  List.inj_on_of_nodup_map h.nodup he he' heq

variable (config) in
def isLocal (entry : String × SignedBootstrapBeacon) : Bool :=
  entry.2.publicKey = config.localKey

def localPart (view : FederationDiscoveryView) : List UInt8 × Int :=
  (view.localBeacon, view.localExpires)

def localEntry (entry : String × SignedBootstrapBeacon) : List UInt8 × Int :=
  (entry.2.wrapper, unix entry.2.event.payload.expiresAt)

variable (config) in
def remoteCandidate (entry : String × SignedBootstrapBeacon) : Option FederationCandidate :=
  if isLocal config entry then none else federationCandidate config entry.1 entry.2

theorem identityKey_of_federationCandidate {sender : String} {beacon : SignedBootstrapBeacon}
    {candidate : FederationCandidate}
    (h : federationCandidate config sender beacon = some candidate) :
    candidate.identityKey = sender := by
  unfold federationCandidate at h
  dsimp only at h
  split at h
  · cases h
  · obtain ⟨endpoint, _, hendpoint⟩ := List.exists_of_findSome?_eq_some h
    split at hendpoint
    · cases hendpoint
    · split at hendpoint
      · cases hendpoint
      · cases hendpoint
        rfl

theorem remoteCandidate_eq_some {entry : String × SignedBootstrapBeacon}
    {candidate : FederationCandidate} (h : remoteCandidate config entry = some candidate) :
    federationCandidate config entry.1 entry.2 = some candidate := by
  unfold remoteCandidate at h
  split at h
  · cases h
  · exact h

theorem collectBeacons_candidates (entries : List (String × SignedBootstrapBeacon))
    (view : FederationDiscoveryView) :
    (collectBeacons config entries view).candidates =
      view.candidates ++ entries.filterMap (remoteCandidate config) := by
  induction entries generalizing view with
  | nil => simp [collectBeacons]
  | cons entry entries ih =>
    rw [collectBeacons]
    split
    · rename_i h
      rw [ih]
      simp [remoteCandidate, isLocal, h]
    · rename_i h
      cases hcandidate : federationCandidate config entry.1 entry.2 with
      | none =>
        simp only
        rw [ih]
        simp [remoteCandidate, isLocal, h, hcandidate]
      | some candidate =>
        simp only
        rw [ih]
        simp [remoteCandidate, isLocal, h, hcandidate]

theorem localPart_collectBeacons (entries : List (String × SignedBootstrapBeacon))
    (view : FederationDiscoveryView) :
    localPart (collectBeacons config entries view) =
      (entries.filter (isLocal config)).foldl (fun _ entry => localEntry entry)
        (localPart view) := by
  induction entries generalizing view with
  | nil => rfl
  | cons entry entries ih =>
    rw [collectBeacons]
    split
    · rename_i h
      rw [ih, List.filter_cons_of_pos (by simpa [isLocal] using h)]
      rfl
    · rename_i h
      rw [List.filter_cons_of_neg (by simpa [isLocal] using h)]
      cases federationCandidate config entry.1 entry.2 with
      | none => exact ih view
      | some candidate => exact ih _

theorem Keyed.filter_isLocal_eq (h : Keyed entries) (hp : entries.Perm entries') :
    entries.filter (isLocal config) = entries'.filter (isLocal config) := by
  have hnone : ∀ {l : List (String × SignedBootstrapBeacon)}, Keyed l →
      (l.filter (isLocal config)).Pairwise fun _ _ => False := by
    intro l hl
    have hnodup : (l.filter (isLocal config)).Pairwise fun e e' => e.1 ≠ e'.1 := by
      have hkeys : ((l.filter (isLocal config)).map Prod.fst).Nodup :=
        hl.nodup.sublist (List.filter_sublist.map Prod.fst)
      exact List.pairwise_map.mp hkeys
    refine hnodup.imp_of_mem ?_
    intro e e' he he' hne
    obtain ⟨hmem, hlocal⟩ := List.mem_filter.mp he
    obtain ⟨hmem', hlocal'⟩ := List.mem_filter.mp he'
    have hsame : e.2.publicKey = e'.2.publicKey :=
      (of_decide_eq_true hlocal).trans (of_decide_eq_true hlocal').symm
    apply hne
    rw [hl.key_eq e hmem, hl.key_eq e' hmem', SignedBootstrapBeacon.identityKey,
      SignedBootstrapBeacon.identityKey, hsame]
  exact List.Perm.eq_of_pairwise (fun _ _ _ _ hfalse => hfalse.elim) (hnone h)
    (hnone (h.perm hp)) (hp.filter _)

instance : Std.Total FederationCandidate.before where
  total left right := by
    unfold FederationCandidate.before
    rcases Nat.lt_trichotomy left.priority right.priority with hlt | heq | hlt
    · exact .inl (.inl hlt)
    · rcases le_total left.identityKey right.identityKey with hle | hle
      · exact .inl (.inr ⟨heq, hle⟩)
      · exact .inr (.inr ⟨heq.symm, hle⟩)
    · exact .inr (.inl hlt)

instance : IsTrans FederationCandidate FederationCandidate.before where
  trans a b c := by
    rintro (hab | ⟨hab, hab'⟩) (hbc | ⟨hbc, hbc'⟩)
    · exact .inl (hab.trans hbc)
    · exact .inl (hab.trans_eq hbc)
    · exact .inl (hab.trans_lt hbc)
    · exact .inr ⟨hab.trans hbc, hab'.trans hbc'⟩

theorem identityKey_eq_of_before {left right : FederationCandidate}
    (h : left.before right) (h' : right.before left) : left.identityKey = right.identityKey := by
  rcases h with h | ⟨h, hle⟩
  · rcases h' with h' | ⟨h', _⟩
    · exact absurd h' h.not_gt
    · exact absurd h h'.not_gt
  · rcases h' with h' | ⟨_, hle'⟩
    · exact absurd h h'.ne'
    · exact le_antisymm hle hle'

theorem Keyed.computedView_eq (h : Keyed entries) (hp : entries.Perm entries') :
    computedView config entries = computedView config entries' := by
  have hlocal : localPart (collectBeacons config entries {}) =
      localPart (collectBeacons config entries' {}) := by
    rw [localPart_collectBeacons, localPart_collectBeacons, h.filter_isLocal_eq hp]
  have hperm : (collectBeacons config entries {}).candidates.Perm
      (collectBeacons config entries' {}).candidates := by
    rw [collectBeacons_candidates, collectBeacons_candidates]
    exact (hp.filterMap _).append_left _
  have hcandidates :
      (collectBeacons config entries {}).candidates.insertionSort FederationCandidate.before =
        (collectBeacons config entries' {}).candidates.insertionSort
          FederationCandidate.before := by
    refine List.Perm.eq_of_pairwise ?_ (List.pairwise_insertionSort _ _)
      (List.pairwise_insertionSort _ _)
      ((List.perm_insertionSort _ _).trans (hperm.trans (List.perm_insertionSort _ _).symm))
    intro left right hleft hright hbefore hafter
    have hentry : ∀ candidate ∈ (collectBeacons config entries {}).candidates,
        ∃ entry ∈ entries, remoteCandidate config entry = some candidate := by
      intro candidate hmem
      rw [collectBeacons_candidates] at hmem
      exact List.mem_filterMap.mp hmem
    obtain ⟨e, he, hcandidate⟩ := hentry left ((List.mem_insertionSort _).mp hleft)
    obtain ⟨e', he', hcandidate'⟩ :=
      hentry right (hperm.mem_iff.mpr ((List.mem_insertionSort _).mp hright))
    have hkey : e.1 = e'.1 := by
      rw [← identityKey_of_federationCandidate (remoteCandidate_eq_some hcandidate),
        ← identityKey_of_federationCandidate (remoteCandidate_eq_some hcandidate')]
      exact identityKey_eq_of_before hbefore hafter
    rw [h.eq_of_identityKey_eq he he' hkey] at hcandidate
    exact Option.some.inj (hcandidate.symm.trans hcandidate')
  obtain ⟨hbeacon, hexpires⟩ := Prod.mk.inj hlocal
  unfold computedView
  dsimp only
  rw [hcandidates, hbeacon, hexpires]

end View

section Pass

variable {config : DiscoveredPeerRouterConfig} {now clock : Int}
  {observations observations' : List (List UInt8)}

theorem keyed_validated :
    Keyed (mergeObservations config now clock observations).validated.toList := by
  constructor
  · have hkeys : (mergeObservations config now clock observations).validated.toList.map
        Prod.fst = (mergeObservations config now clock observations).validated.keys := by
      simp [Table.toList, Table.keys, AList.keys, List.keys]
    rw [hkeys]
    exact Table.keys_nodup _
  · rintro ⟨sender, beacon⟩ hentry
    have hget := Table.mem_toList_iff.mp hentry
    rw [(tracks_mergeObservations sender observations).get?_eq] at hget
    exact (mem_beaconsOf_iff.mp (Latest.mem_of_kept_standing hget)).2.symm

theorem keyed_latestBeacons : Keyed (latestBeacons config now clock observations) := by
  constructor
  · refine List.pairwise_map.mpr (List.pairwise_filterMap.mpr ?_)
    refine (List.nodup_dedup _).imp ?_
    rintro sender sender' hne entry hentry entry' hentry'
    obtain ⟨_, _, rfl⟩ := Option.map_eq_some_iff.mp hentry
    obtain ⟨_, _, rfl⟩ := Option.map_eq_some_iff.mp hentry'
    exact hne
  · rintro ⟨sender, beacon⟩ hentry
    have hlatest := (latestBeacon_eq_some_iff.mp (mem_latestBeacons_iff.mp hentry)).1
    exact (mem_beaconsOf_iff.mp hlatest).2.symm

theorem Keyed.perm_iff {entries entries' : List (String × SignedBootstrapBeacon)}
    (h : Keyed entries) (h' : Keyed entries') :
    entries.Perm entries' ↔ ∀ entry, entry ∈ entries ↔ entry ∈ entries' :=
  List.perm_ext_iff_of_nodup (List.Nodup.of_map _ h.nodup) (List.Nodup.of_map _ h'.nodup)

theorem validated_perm_latestBeacons
    (h : ∀ sender, ¬ Overtaken config now clock observations sender) :
    (mergeObservations config now clock observations).validated.toList.Perm
      (latestBeacons config now clock observations) := by
  refine (keyed_validated.perm_iff keyed_latestBeacons).mpr ?_
  rintro ⟨sender, beacon⟩
  rw [Table.mem_toList_iff, mem_latestBeacons_iff,
    validated_eq_latestBeacon_iff.mpr (h sender)]

theorem latestBeacons_perm (hp : observations.Perm observations') :
    (latestBeacons config now clock observations).Perm
      (latestBeacons config now clock observations') := by
  refine (keyed_latestBeacons.perm_iff keyed_latestBeacons).mpr ?_
  rintro ⟨sender, beacon⟩
  rw [mem_latestBeacons_iff, mem_latestBeacons_iff, latestBeacon_perm hp]

variable (config) in
def latestView (now : Int) (reply : CarrierReply) : FederationDiscoveryView :=
  computedView config (latestBeacons config now reply.clock reply.observations)

/-- The same observations in another order, gone through in another order. -/
structure CarrierReply.Reorders (reply reply' : CarrierReply) : Prop where
  clock_eq : reply.clock = reply'.clock
  perm : reply.observations.Perm reply'.observations

theorem computedView_validatedBeacons {reply reply' : CarrierReply}
    (h : ∀ sender, ¬ Overtaken config now reply.clock reply.observations sender)
    (hsame : reply.Reorders reply') :
    computedView config (validatedBeacons config now reply) = latestView config now reply' := by
  have hkeyed : Keyed (validatedBeacons config now reply) :=
    keyed_validated.perm (reply.order.perm _).symm
  refine hkeyed.computedView_eq ?_
  refine (reply.order.perm _).trans ((validated_perm_latestBeacons h).trans ?_)
  rw [← hsame.clock_eq]
  exact latestBeacons_perm hsame.perm

end Pass

section Run

variable (config : DiscoveredPeerRouterConfig)

def routerStep (router : DiscoveredPeerRouter) (event : RouterEvent) : DiscoveredPeerRouter :=
  (step config (validatedBeacons config) router event).1

/-- The router whose passes go on with the latest beacon of each sender. -/
def latestSelect (now : Int) (reply : CarrierReply) : List (String × SignedBootstrapBeacon) :=
  latestBeacons config now reply.clock reply.observations

/-- No pass that ends here meets a conflict that a later beacon overtakes. -/
def Settled (router : DiscoveredPeerRouter) : RouterEvent → Prop
  | .endPass (some reply) =>
    ∀ now, router.refreshing = .looking now →
      ∀ sender, ¬ Overtaken config now reply.clock reply.observations sender
  | _ => True

/-- The same event, up to the orders of what a carrier returned. -/
inductive RouterEvent.Reorders : RouterEvent → RouterEvent → Prop where
  | same (event : RouterEvent) : Reorders event event
  | reply {reply reply' : CarrierReply} (h : reply.Reorders reply') :
    Reorders (.endPass (some reply)) (.endPass (some reply'))

variable {config} {router : DiscoveredPeerRouter} {event event' : RouterEvent}

theorem CarrierReply.Reorders.refl (reply : CarrierReply) : reply.Reorders reply :=
  ⟨rfl, List.Perm.refl _⟩

theorem step_endPass_eq {reply reply' : CarrierReply}
    (h : Settled config router (.endPass (some reply))) (hsame : reply.Reorders reply') :
    step config (validatedBeacons config) router (.endPass (some reply)) =
      step config (latestSelect config) router (.endPass (some reply')) := by
  unfold step
  cases hrefreshing : router.refreshing with
  | idle => rfl
  | locked now force => rfl
  | looking now =>
    have hview := computedView_validatedBeacons (h now hrefreshing) hsame
    simp only [hview]
    rfl

theorem step_eq (h : Settled config router event) (hsame : event.Reorders event') :
    step config (validatedBeacons config) router event =
      step config (latestSelect config) router event' := by
  cases hsame with
  | reply hreply => exact step_endPass_eq h hreply
  | same event =>
    cases event with
    | endPass reply =>
      cases reply with
      | none => rfl
      | some reply => exact step_endPass_eq h (CarrierReply.Reorders.refl reply)
    | cachedDiscovery now => rfl
    | clearDiscoveryView => rfl
    | refresh now force => rfl
    | startPass => rfl

variable (config) in
/-- Whatever the order of the observations, the calls return what they return from the router
of the latest beacons. -/
def ViewsOfLatest : Prop :=
  ∀ events events', List.Forall₂ RouterEvent.Reorders events events' →
    discoveries config (validatedBeacons config) {} events =
      discoveries config (latestSelect config) {} events'

/-- In a run without overtaken conflicts every call returns what it returns from the router
of the latest beacons, in whatever order the carriers returned the observations. -/
theorem discoveries_eq_latest (events events' : List RouterEvent)
    (hsettled : Trace.Meets (routerStep config) (Settled config) {} events)
    (hsame : List.Forall₂ RouterEvent.Reorders events events') :
    discoveries config (validatedBeacons config) {} events =
      discoveries config (latestSelect config) {} events' := by
  suffices h : ∀ router, Trace.Meets (routerStep config) (Settled config) router events →
      discoveries config (validatedBeacons config) router events =
        discoveries config (latestSelect config) router events' from h {} hsettled
  clear hsettled
  induction hsame with
  | nil => exact fun _ _ => rfl
  | cons hevent _ ih =>
    intro router hmeets
    have hstep := step_eq hmeets.1 hevent
    have hrest := ih _ hmeets.2
    simp only [discoveries]
    rw [← hstep]
    exact congrArg _ hrest

end Run

section Sample

open Branch.Agreement

def relayBeaconEvent (sequence : Nat) (id : UInt8) : Cbor :=
  sampleEvent eventBootstrapBeacon (.map [("sequence", .uint sequence),
    ("beacon_id", .bytes (.replicate 32 id)), ("issued_at", .uint 100),
    ("expires_at", .uint 200),
    ("relay_endpoints", .array [.map [("uri", .text "wss://a:1/"),
      ("priority", .uint 0), ("transport", .text "wss")]]),
    ("protocol_versions", .array [.text protocolID]),
    ("relay_capabilities", .array [.text relayFederationLiveRole, .text relayForwardLiveRole]),
    ("profile_multihashes", .array [.text developmentProfileMultihash])])

def relayBeaconWrapper (sequence : Nat) (id : UInt8) : List UInt8 :=
  wrapperOf (relayBeaconEvent sequence id)

def sampleKey : List UInt8 := .replicate 32 0

/-- That relay, with a check of signatures that passes them all. -/
def sampleConfig : DiscoveredPeerRouterConfig where
  localKey := sampleKey
  endpointPolicy := ⟨false, false⟩
  carrierPassMinInterval := 0
  urlParse := fun _ => some ⟨⟨"wss", "a", false, "", "1"⟩, "a:1", "/", "", "wss://a:1/"⟩
  parseAddr := fun _ => none
  verify := fun _ _ _ => true

def sampleNow : Int := 150 * 10 ^ 9

def verdictOf (sequence : Nat) (id : UInt8) : Option (List UInt8 × Nat × Bool) :=
  (readSignedBootstrapBeacon (fun s => (sampleConfig.urlParse s).map FederationURL.toParsedURL)
      sampleConfig.verify 150 300 [developmentProfileMultihash]
      (Cbor.encode (relayBeaconEvent sequence id))).toOption.map fun event =>
    (event.envelope.sender.publicKey, event.payload.sequence,
      decide (relayFederationLiveRole ∈ event.payload.relayCapabilities))

theorem verdictOf_first : verdictOf 1 0 = some (sampleKey, 1, true) := by decide +kernel

theorem verdictOf_other : verdictOf 1 1 = some (sampleKey, 1, true) := by decide +kernel

theorem verdictOf_second : verdictOf 2 0 = some (sampleKey, 2, true) := by decide +kernel

theorem exists_acceptedBeacon {sequence : Nat} {id : UInt8}
    (h : verdictOf sequence id = some (sampleKey, sequence, true))
    (hsize : (relayBeaconWrapper sequence id).length ≤ maxDraftEnvelopeBytes) :
    ∃ event, acceptedBeacon sampleConfig sampleNow 0 (relayBeaconWrapper sequence id) =
        some ⟨relayBeaconWrapper sequence id, event⟩ ∧
      event.envelope.sender.publicKey = sampleKey ∧ event.payload.sequence = sequence := by
  obtain ⟨event, hread, hevent⟩ := Option.map_eq_some_iff.mp h
  simp only [Prod.mk.injEq, decide_eq_true_eq] at hevent
  obtain ⟨hkey, hsequence, hrole⟩ := hevent
  have hvalid : relayBeacon
      (fun s => (sampleConfig.urlParse s).map FederationURL.toParsedURL) sampleConfig.verify 0 150
      (relayBeaconWrapper sequence id) = some event :=
    relayBeacon_eq_some_iff.mpr ⟨_, wrapped_wrapperOf _, hsize, toOption_eq_some_iff.mp hread⟩
  refine ⟨event, ?_, hkey, hsequence⟩
  have hok := toOption_eq_some_iff.mp hvalid
  unfold acceptedBeacon
  rw [show sampleNow / 10 ^ 9 = 150 from rfl, hok]
  simp [hrole]

variable {w₁ w₂ w₃ : List UInt8} {first other second : SignedEvent BootstrapBeaconPayload}

/-- Two accepted beacons of one relay with the first sequence, and one with the second. -/
structure Samples (w₁ w₂ w₃ : List UInt8)
    (first other second : SignedEvent BootstrapBeaconPayload) : Prop where
  accepted₁ : acceptedBeacon sampleConfig sampleNow 0 w₁ = some ⟨w₁, first⟩
  accepted₂ : acceptedBeacon sampleConfig sampleNow 0 w₂ = some ⟨w₂, other⟩
  accepted₃ : acceptedBeacon sampleConfig sampleNow 0 w₃ = some ⟨w₃, second⟩
  key₁ : first.envelope.sender.publicKey = sampleKey
  key₂ : other.envelope.sender.publicKey = sampleKey
  key₃ : second.envelope.sender.publicKey = sampleKey
  sequence₁ : first.payload.sequence = 1
  sequence₂ : other.payload.sequence = 1
  sequence₃ : second.payload.sequence = 2

theorem exists_samples : ∃ first other second, Samples (relayBeaconWrapper 1 0)
    (relayBeaconWrapper 1 1) (relayBeaconWrapper 2 0) first other second := by
  obtain ⟨first, hfirst, hkey₁, hsequence₁⟩ :=
    exists_acceptedBeacon verdictOf_first (by decide +kernel)
  obtain ⟨other, hother, hkey₂, hsequence₂⟩ :=
    exists_acceptedBeacon verdictOf_other (by decide +kernel)
  obtain ⟨second, hsecond, hkey₃, hsequence₃⟩ :=
    exists_acceptedBeacon verdictOf_second (by decide +kernel)
  exact ⟨first, other, second, hfirst, hother, hsecond, hkey₁, hkey₂, hkey₃, hsequence₁,
    hsequence₂, hsequence₃⟩

def passOf (observations : List (List UInt8)) : List RouterEvent :=
  [.refresh sampleNow true, .startPass, .endPass (some ⟨0, ⟨id, List.Perm.refl⟩, observations⟩)]

instance : Std.Refl RouterEvent.Reorders := ⟨.same⟩

theorem discoveries_passOf (observations : List (List UInt8)) :
    discoveries sampleConfig (validatedBeacons sampleConfig) {} (passOf observations) =
      [none, none, some
        ((computedView sampleConfig (mergeObservations sampleConfig sampleNow 0
            observations).validated.toList).localBeacon,
          (computedView sampleConfig (mergeObservations sampleConfig sampleNow 0
            observations).validated.toList).candidates)] := rfl

theorem localBeacon_computedView (entries : List (String × SignedBootstrapBeacon)) :
    (computedView sampleConfig entries).localBeacon =
      (localPart (collectBeacons sampleConfig entries {})).1 := rfl

/-- Two beacons with the first sequence make the router drop the sender, unless the one with
the second arrives before them. -/
theorem not_viewsOfLatest_of_accepted (hsamples : Samples w₁ w₂ w₃ first other second)
    (hne : w₂ ≠ w₁) (hnonempty : w₃ ≠ []) :
    ¬ ViewsOfLatest sampleConfig := by
  intro h
  obtain ⟨hfirst, hother, hsecond, hkey₁, hkey₂, hkey₃, hsequence₁, hsequence₂, hsequence₃⟩ :=
    hsamples
  have hreorders : List.Forall₂ RouterEvent.Reorders (passOf [w₁, w₂, w₃])
      (passOf [w₃, w₁, w₂]) := by
    refine .cons (.same _) (.cons (.same _) (.cons (.reply ⟨rfl, ?_⟩) .nil))
    have hperm : ([w₁, w₂] ++ [w₃]).Perm ([w₃] ++ [w₁, w₂]) := List.perm_append_comm
    exact hperm
  have hsame : discoveries sampleConfig (validatedBeacons sampleConfig) {} (passOf [w₁, w₂, w₃]) =
      discoveries sampleConfig (validatedBeacons sampleConfig) {} (passOf [w₃, w₁, w₂]) :=
    (h _ _ hreorders).trans (h _ _ (List.forall₂_refl _)).symm
  have hdropped : (mergeObservations sampleConfig sampleNow 0 [w₁, w₂, w₃]).validated =
      (Table.empty.insert (Base64.encode sampleKey) ⟨w₁, first⟩).erase
        (Base64.encode sampleKey) := by
    simp [mergeObservations, hfirst, hother, hsecond, MergedBeacons.observe, identityKey,
      SignedBootstrapBeacon.publicKey, SignedBootstrapBeacon.sequence, hkey₁, hkey₂, hkey₃,
      hsequence₁, hsequence₂, hne]
  have hkept : (mergeObservations sampleConfig sampleNow 0 [w₃, w₁, w₂]).validated =
      Table.empty.insert (Base64.encode sampleKey) ⟨w₃, second⟩ := by
    simp [mergeObservations, hfirst, hother, hsecond, MergedBeacons.observe, identityKey,
      SignedBootstrapBeacon.publicKey, SignedBootstrapBeacon.sequence, hkey₁, hkey₂, hkey₃,
      hsequence₁, hsequence₂, hsequence₃]
  have hnone : ((Table.empty.insert (Base64.encode sampleKey)
      (⟨w₁, first⟩ : SignedBootstrapBeacon)).erase (Base64.encode sampleKey)).toList =
        [] := by
    refine List.eq_nil_iff_forall_not_mem.mpr ?_
    rintro ⟨sender, beacon⟩ hmem
    rw [Table.mem_toList_iff, Table.get?_erase] at hmem
    split at hmem
    · cases hmem
    · rename_i hsender
      rw [Table.get?_insert_of_ne _ _ hsender, Table.get?_empty] at hmem
      cases hmem
  have hone : (Table.empty.insert (Base64.encode sampleKey)
      (⟨w₃, second⟩ : SignedBootstrapBeacon)).toList =
        [(Base64.encode sampleKey, ⟨w₃, second⟩)] := rfl
  have hlocal : isLocal sampleConfig (Base64.encode sampleKey, ⟨w₃, second⟩) = true :=
    decide_eq_true hkey₃
  have hbeacon : (computedView sampleConfig
      [(Base64.encode sampleKey, ⟨w₃, second⟩)]).localBeacon = w₃ := by
    rw [localBeacon_computedView, localPart_collectBeacons, List.filter_cons_of_pos hlocal]
    rfl
  rw [discoveries_passOf, discoveries_passOf, hdropped, hkept, hnone, hone, hbeacon] at hsame
  simp only [List.cons.injEq, Option.some.injEq, Prod.mk.injEq] at hsame
  exact hnonempty hsame.2.2.1.1.symm

theorem not_viewsOfLatest_overtaken : ¬ ViewsOfLatest sampleConfig := by
  obtain ⟨first, other, second, hsamples⟩ := exists_samples
  exact not_viewsOfLatest_of_accepted hsamples (by decide +kernel) (by decide +kernel)

/-- Where the one with the second sequence arrives first, nothing is overtaken. -/
theorem not_overtaken_of_accepted (hsamples : Samples w₁ w₂ w₃ first other second)
    (sender : String) :
    ¬ Overtaken sampleConfig sampleNow 0 [w₃, w₁, w₂] sender := by
  obtain ⟨hfirst, hother, hsecond, hkey₁, hkey₂, hkey₃, hsequence₁, hsequence₂, hsequence₃⟩ :=
    hsamples
  have haccepted : acceptedBeacons sampleConfig sampleNow 0 [w₃, w₁, w₂] =
      [⟨w₃, second⟩, ⟨w₁, first⟩, ⟨w₂, other⟩] := by
    simp [acceptedBeacons, hfirst, hother, hsecond]
  rintro ⟨_, l, hinit, a, b, ha, hb, hne⟩
  unfold beaconsOf at hinit
  rw [haccepted] at hinit
  by_cases hsender : Base64.encode sampleKey = sender
  · have hall : [⟨w₃, second⟩, ⟨w₁, first⟩, ⟨w₂, other⟩].filter
        (fun beacon : SignedBootstrapBeacon => beacon.identityKey = sender) =
          [⟨w₃, second⟩, ⟨w₁, first⟩, ⟨w₂, other⟩] := by
      simp [identityKey, SignedBootstrapBeacon.publicKey, hkey₁, hkey₂, hkey₃, hsender]
    rw [hall] at hinit
    have htop : ∀ c, Latest.Top sequence l c → c = ⟨w₃, second⟩ := by
      intro c hc
      cases l with
      | nil => cases hc.1
      | cons d l =>
        obtain rfl := (List.cons_prefix_cons.mp hinit).1
        have hle := hc.2 _ List.mem_cons_self
        have hmem := hinit.subset hc.1
        simp only [List.mem_cons, List.not_mem_nil, or_false] at hmem
        rcases hmem with rfl | rfl | rfl
        · rfl
        · simp [SignedBootstrapBeacon.sequence, hsequence₁, hsequence₃] at hle
        · simp [SignedBootstrapBeacon.sequence, hsequence₂, hsequence₃] at hle
    rw [htop a ha, htop b hb] at hne
    exact hne rfl
  · have hnil : [⟨w₃, second⟩, ⟨w₁, first⟩, ⟨w₂, other⟩].filter
        (fun beacon : SignedBootstrapBeacon => beacon.identityKey = sender) = [] := by
      simp [identityKey, SignedBootstrapBeacon.publicKey, hkey₁, hkey₂, hkey₃, hsender]
    rw [hnil, List.prefix_nil] at hinit
    subst hinit
    cases ha.1

theorem discoveries_eq_latest_second_first :
    discoveries sampleConfig (validatedBeacons sampleConfig) {}
        (passOf [relayBeaconWrapper 2 0, relayBeaconWrapper 1 0, relayBeaconWrapper 1 1]) =
      discoveries sampleConfig (latestSelect sampleConfig) {}
        (passOf [relayBeaconWrapper 1 0, relayBeaconWrapper 1 1, relayBeaconWrapper 2 0]) := by
  obtain ⟨first, other, second, hsamples⟩ := exists_samples
  refine discoveries_eq_latest _ _ ⟨trivial, trivial, ?_, trivial⟩
    (.cons (.same _) (.cons (.same _) (.cons (.reply ⟨rfl, ?_⟩) .nil)))
  · rintro now hnow sender
    cases hnow
    exact not_overtaken_of_accepted hsamples sender
  · have hperm : ([relayBeaconWrapper 2 0] ++
        [relayBeaconWrapper 1 0, relayBeaconWrapper 1 1]).Perm
        ([relayBeaconWrapper 1 0, relayBeaconWrapper 1 1] ++ [relayBeaconWrapper 2 0]) :=
      List.perm_append_comm
    exact hperm

end Sample

end Branch.Wss
