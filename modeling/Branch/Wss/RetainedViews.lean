import Branch.Agreement.BootstrapBeacon
import Branch.Wss.FederatedLookups

/-!
When the view of the discovered relays outlives the refreshes that bring nothing.
-/

namespace Branch.Wss

open Branch.Lib

section View

/-- What is left of a view that lost expired candidates, or everything. -/
structure FederationDiscoveryView.Trims (view view' : FederationDiscoveryView) (clock : Int) :
    Prop where
  sub : ∀ candidate ∈ view'.candidates, candidate ∈ view.candidates
  beacon : view'.candidates ≠ [] → view'.localBeacon = view.localBeacon
  held : view'.candidates ≠ [] → ∀ candidate ∈ view.candidates, clock < candidate.expiresAt →
    candidate ∈ view'.candidates

namespace FederationDiscoveryView

theorem Trims.refl (view : FederationDiscoveryView) (clock : Int) : view.Trims view clock :=
  ⟨fun _ h => h, fun _ => rfl, fun _ _ h _ => h⟩

theorem Trims.empty (view : FederationDiscoveryView) (clock : Int) : view.Trims {} clock :=
  ⟨fun _ h => absurd h List.not_mem_nil, fun h => absurd rfl h, fun h => absurd rfl h⟩

theorem HoldsAt.ne_nil {view : FederationDiscoveryView} {clock : Int} (h : view.HoldsAt clock) :
    view.candidates ≠ [] := by
  obtain ⟨candidate, hmem, _⟩ := h
  exact List.ne_nil_of_mem hmem

theorem HoldsAt.mono {view view' : FederationDiscoveryView} {clock clock' : Int}
    (h : view.HoldsAt clock) (hclock : clock' ≤ clock)
    (hsub : ∀ candidate ∈ view.candidates, candidate ∈ view'.candidates) :
    view'.HoldsAt clock' := by
  obtain ⟨candidate, hmem, hexpires⟩ := h
  exact ⟨candidate, hsub candidate hmem, Int.lt_of_le_of_lt hclock hexpires⟩

end FederationDiscoveryView

namespace DiscoveredPeerRouter

variable {router : DiscoveredPeerRouter} {now clock : Int}

theorem cachedDiscovery_cases (router : DiscoveredPeerRouter) (now : Int) :
    ((router.view.localBeacon = [] ∨ ¬ now < router.view.localExpires ∨
        ∀ candidate ∈ router.view.candidates, ¬ now < candidate.expiresAt) ∧
      router.cachedDiscovery now = (router.clearDiscoveryView, ([], []))) ∨
    ∃ candidates, candidates ≠ [] ∧ router.view.localBeacon ≠ [] ∧
      now < router.view.localExpires ∧
      candidates = router.view.candidates.filter (fun candidate => now < candidate.expiresAt) ∧
      router.cachedDiscovery now =
        ({ router with view := { router.view with candidates } },
          (router.view.localBeacon, candidates)) := by
  unfold cachedDiscovery
  by_cases hlocal : router.view.localBeacon = [] ∨ ¬ now < router.view.localExpires
  · rw [if_pos hlocal]
    refine .inl ⟨?_, rfl⟩
    rcases hlocal with hlocal | hlocal
    · exact .inl hlocal
    · exact .inr (.inl hlocal)
  · rw [if_neg hlocal]
    obtain ⟨hbeacon, hexpires⟩ := not_or.mp hlocal
    by_cases hnil :
        router.view.candidates.filter (fun candidate => now < candidate.expiresAt) = []
    · refine .inl ⟨.inr (.inr ?_), by simp only [hnil, if_true]⟩
      intro candidate hmem
      simpa using List.filter_eq_nil_iff.mp hnil candidate hmem
    · exact .inr ⟨_, hnil, hbeacon, not_not.mp hexpires, rfl, by simp only [hnil, if_false]⟩

variable (router) in
theorem trims_cachedDiscovery (hnow : now ≤ clock) :
    router.view.Trims (router.cachedDiscovery now).1.view clock := by
  rcases router.cachedDiscovery_cases now with ⟨_, heq⟩ | ⟨_, _, _, _, rfl, heq⟩
  · rw [heq]
    exact .empty _ _
  · rw [heq]
    refine ⟨fun candidate hmem => List.mem_of_mem_filter hmem, fun _ => rfl, ?_⟩
    intro _ candidate hmem hexpires
    exact List.mem_filter.mpr ⟨hmem, decide_eq_true (Int.lt_of_le_of_lt hnow hexpires)⟩

theorem cachedDiscovery_found_eq_nil_iff :
    (router.cachedDiscovery now).2.1 = [] ↔
      (router.cachedDiscovery now).1.view.candidates = [] := by
  rcases router.cachedDiscovery_cases now with ⟨_, heq⟩ | ⟨_, hne, hbeacon, _, _, heq⟩
  · rw [heq]
    exact ⟨fun _ => rfl, fun _ => rfl⟩
  · rw [heq]
    exact ⟨fun h => absurd h hbeacon, fun h => absurd h hne⟩

theorem cachedDiscovery_dropped_iff (hheld : router.view.HoldsAt clock) (hnow : now ≤ clock)
    (hbeacon : router.view.localBeacon ≠ []) :
    (router.cachedDiscovery now).1.view.candidates = [] ↔ router.view.localExpires ≤ now := by
  rcases router.cachedDiscovery_cases now with ⟨hwhy, heq⟩ | ⟨_, hne, _, hexpires, _, heq⟩
  · rw [heq]
    refine ⟨fun _ => ?_, fun _ => rfl⟩
    obtain ⟨candidate, hmem, hlater⟩ := hheld
    rcases hwhy with hwhy | hwhy | hwhy
    · exact absurd hwhy hbeacon
    · exact Int.not_lt.mp hwhy
    · exact absurd (Int.lt_of_le_of_lt hnow hlater) (hwhy candidate hmem)
  · rw [heq]
    exact ⟨fun h => absurd h hne, fun h => absurd hexpires (Int.not_lt.mpr h)⟩

@[simp] theorem refreshing_cachedDiscovery :
    (router.cachedDiscovery now).1.refreshing = router.refreshing := by
  rcases router.cachedDiscovery_cases now with ⟨_, heq⟩ | ⟨_, _, _, _, _, heq⟩ <;> rw [heq]
  rfl

@[simp] theorem nextCarrierPass_cachedDiscovery :
    (router.cachedDiscovery now).1.nextCarrierPass = router.nextCarrierPass := by
  rcases router.cachedDiscovery_cases now with ⟨_, heq⟩ | ⟨_, _, _, _, _, heq⟩ <;> rw [heq]
  rfl

end DiscoveredPeerRouter

end View

namespace FederatedLookups

variable {config : DiscoveredPeerRouterConfig} {s s' : FederatedLookups} {id : Nat}
  {call call' : FederatedLookup}

/-- The call that dropped the view is on its way to a new one. -/
def refilling (s : FederatedLookups) : Bool :=
  (s.dropper.bind s.calls.get?).any fun call => call.phase.isRefresh

/-- While a candidate of the view obtained last is not expired, the view is not left empty. -/
def Kept (s : FederatedLookups) : Prop :=
  s.obtained.HoldsAt s.clock → s.router.view.candidates ≠ [] ∨ s.refilling = true

instance (s : FederatedLookups) : Decidable s.Kept :=
  inferInstanceAs (Decidable (_ → _))

def Owes (s : FederatedLookups) (id : Nat) : Prop :=
  s.dropper = some id ∧ s.obtained.HoldsAt s.clock

/-- The relay's own beacon in the view ended before a candidate did. -/
def Overdue (s : FederatedLookups) (now : Int) : Prop :=
  s.router.view.HoldsAt s.clock ∧ s.router.view.localExpires ≤ now

variable (config) in
/-- The lock of the refreshes is free, no pacing stands in the way and the carrier brings a
view that can be stored, wherever a call depends on it that dropped the view while a candidate
was not expired: because all the candidates were left alone, or because the relay's own beacon
was expired. -/
def Refilled (s : FederatedLookups) : LookupEvent → Prop
  | .work id =>
    ∀ call ∈ s.calls.get? id, ∀ _force ∈ call.phase.refresh?,
      s.router.refreshing ≠ .idle → ¬ s.Owes id ∧ ¬ s.Overdue call.now
  | .startPass =>
    ∀ _call ∈ s.calls.get? s.holder, ∀ lock ∈ s.router.refreshing.locked?,
      s.Owes s.holder ∨ (lock.2 = false ∧ s.Overdue lock.1) →
        s.router.reserveCarrierPass config lock.1 ≠ none
  | .endPass reply =>
    ∀ _call ∈ s.calls.get? s.holder, ∀ now ∈ s.router.refreshing.looking?,
      s.Owes s.holder → passView? config now reply ≠ none
  | _ => True

structure Sound (s : FederatedLookups) : Prop where
  times : ∀ {id : Nat} {call : FederatedLookup}, s.calls.get? id = some call →
    call.now ≤ s.clock
  locked : ∀ {now : Int} {force : Bool}, s.router.refreshing = .locked now force → now ≤ s.clock
  beacon : s.router.view.candidates ≠ [] → s.router.view.localBeacon ≠ []
  sub : ∀ candidate ∈ s.router.view.candidates, candidate ∈ s.obtained.candidates
  held : s.dropper = none → ∀ candidate ∈ s.obtained.candidates, s.clock < candidate.expiresAt →
    candidate ∈ s.router.view.candidates
  dropped : s.dropper ≠ none → s.router.view.candidates = []

theorem sound_start (clock : Int) : ({ clock } : FederatedLookups).Sound where
  times h := by simp at h
  locked h := nomatch h
  beacon h := absurd rfl h
  sub candidate h := absurd h List.not_mem_nil
  held _ candidate h := absurd h List.not_mem_nil
  dropped h := absurd rfl h

theorem Sound.obtained_of_view (h : s.Sound) (hheld : s.router.view.HoldsAt s.clock) :
    s.obtained.HoldsAt s.clock :=
  hheld.mono (Int.le_refl _) h.sub

theorem kept_iff (h : s.Sound) :
    s.Kept ↔ ∀ id, s.Owes id →
      ∃ call, s.calls.get? id = some call ∧ call.phase.isRefresh = true := by
  unfold Kept refilling
  constructor
  · rintro hkept id ⟨hdropper, hheld⟩
    have hempty := h.dropped (by simp [hdropper])
    have hrefilling := (hkept hheld).resolve_left (fun hne => hne hempty)
    simpa [hdropper, Option.any_eq_true] using hrefilling
  · rintro howes hheld
    cases hdropper : s.dropper with
    | none =>
      obtain ⟨candidate, hmem, hexpires⟩ := hheld
      exact .inl (List.ne_nil_of_mem (h.held hdropper candidate hmem hexpires))
    | some id =>
      obtain ⟨call, hcall, hrefresh⟩ := howes id ⟨hdropper, hheld⟩
      exact .inr (by simp [hcall, hrefresh])

/-- Only the entry of one call changes, and what is remembered of the failures. -/
structure Puts (s : FederatedLookups) (id : Nat) (call' : FederatedLookup)
    (s' : FederatedLookups) : Prop where
  clock : s'.clock = s.clock
  router : s'.router = s.router
  obtained : s'.obtained = s.obtained
  dropper : s'.dropper = s.dropper
  calls : s'.calls = s.calls.insert id call'

theorem puts_put (s : FederatedLookups) (id : Nat) (call' : FederatedLookup) :
    Puts s id call' (s.put id call') :=
  ⟨rfl, rfl, rfl, rfl, rfl⟩

theorem puts_backoff (s : FederatedLookups) (backoff : Backoff) (id : Nat)
    (call' : FederatedLookup) : Puts s id call' ({ s with backoff }.put id call') :=
  ⟨rfl, rfl, rfl, rfl, rfl⟩

theorem discovered_puts (s : FederatedLookups) (id : Nat) (call : FederatedLookup)
    (found : Discovery) :
    ∃ call', Puts s id call' (s.discovered id call found) ∧ call'.now = call.now ∧
      call'.phase.isRefresh = false := by
  unfold discovered
  split
  · exact ⟨_, puts_put s id _, rfl, rfl⟩
  · cases hpurpose : call.purpose with
    | refresh => exact ⟨_, puts_put s id _, rfl, rfl⟩
    | identity => exact ⟨_, puts_put s id _, rfl, rfl⟩
    | peer => exact ⟨_, puts_backoff s _ id _, rfl, rfl⟩

structure Moves (s : FederatedLookups) (id : Nat) (call' : FederatedLookup)
    (s' : FederatedLookups) : Prop where
  clock : s'.clock = s.clock
  obtained : s'.obtained = s.obtained
  calls : s'.calls = s.calls.insert id call'
  now : call'.now ≤ s.clock
  trims : s.router.view.Trims s'.router.view s.clock
  locked : ∀ {now : Int} {force : Bool}, s'.router.refreshing = .locked now force →
    now ≤ s.clock
  dropper : s'.dropper =
    if s.router.view.HoldsAt s.clock ∧ s'.router.view.candidates = [] then some id
    else s.dropper

theorem Puts.moves_look {router : DiscoveredPeerRouter} (h : Puts (s.look id router) id call' s')
    (hnow : call'.now ≤ s.clock) (htrims : s.router.view.Trims router.view s.clock)
    (hlocked : ∀ {now : Int} {force : Bool}, router.refreshing = .locked now force →
      now ≤ s.clock) :
    Moves s id call' s' where
  clock := h.clock
  obtained := h.obtained
  calls := h.calls
  now := hnow
  trims := by
    rw [h.router]
    exact htrims
  locked := by
    rw [h.router]
    exact hlocked
  dropper := by
    rw [h.dropper, h.router]
    rfl

theorem look_of_view_eq {router : DiscoveredPeerRouter} (h : router.view = s.router.view) :
    s.look id router = { s with router } := by
  have hkeeps : ¬ (s.router.view.HoldsAt s.clock ∧ router.view.candidates = []) := by
    rintro ⟨hheld, hempty⟩
    rw [h] at hempty
    exact hheld.ne_nil hempty
  unfold look
  rw [if_neg hkeeps]

theorem Puts.moves (h : Puts s id call' s') (hsound : s.Sound) (hnow : call'.now ≤ s.clock) :
    Moves s id call' s' := by
  have hlook : s.look id s.router = s := look_of_view_eq rfl
  have hputs : Puts (s.look id s.router) id call' s' := by
    rw [hlook]
    exact h
  exact hputs.moves_look hnow (.refl _ _) hsound.locked

theorem Sound.moves (h : s.Sound) (hm : Moves s id call' s') : s'.Sound where
  times := by
    intro id₀ call₀ hget
    rw [hm.calls] at hget
    rw [hm.clock]
    rcases Table.get?_insert_eq_some hget with ⟨_, rfl⟩ | ⟨_, hget⟩
    · exact hm.now
    · exact h.times hget
  locked := by
    rw [hm.clock]
    exact hm.locked
  beacon hne := by
    rw [hm.trims.beacon hne]
    refine h.beacon ?_
    obtain ⟨candidate, hmem⟩ := List.exists_mem_of_ne_nil _ hne
    exact List.ne_nil_of_mem (hm.trims.sub candidate hmem)
  sub := by
    rw [hm.obtained]
    exact fun candidate hmem => h.sub candidate (hm.trims.sub candidate hmem)
  held := by
    rw [hm.obtained, hm.clock, hm.dropper]
    intro hnone candidate hmem hexpires
    split at hnone
    · cases hnone
    · rename_i hdrop
      have hview := h.held hnone candidate hmem hexpires
      refine hm.trims.held (fun hempty => hdrop ⟨?_, hempty⟩) candidate hview hexpires
      exact ⟨candidate, hview, hexpires⟩
  dropped := by
    rw [hm.dropper]
    intro hsome
    split at hsome
    · rename_i hdrop
      exact hdrop.2
    · have hempty := h.dropped hsome
      refine List.eq_nil_iff_forall_not_mem.mpr ?_
      intro candidate hmem
      have hmem' := hm.trims.sub candidate hmem
      rw [hempty] at hmem'
      exact absurd hmem' List.not_mem_nil

theorem kept_moves_iff (h : s.Sound) (hkept : s.Kept) (hm : Moves s id call' s') :
    s'.Kept ↔
      (s.Owes id ∨ (s.router.view.HoldsAt s.clock ∧ s'.router.view.candidates = []) →
        call'.phase.isRefresh = true) := by
  have hself : s'.calls.get? id = some call' := by simp [hm.calls]
  have howes : ∀ id', s'.Owes id' ↔
      if s.router.view.HoldsAt s.clock ∧ s'.router.view.candidates = [] then id' = id
      else s.Owes id' := by
    intro id'
    unfold Owes
    rw [hm.dropper, hm.obtained, hm.clock]
    split
    · rename_i hdrop
      simp [h.obtained_of_view hdrop.1, eq_comm]
    · rfl
  rw [kept_iff (h.moves hm)]
  constructor
  · intro hall hwhy
    obtain ⟨call₀, hcall₀, hrefresh⟩ := hall id (by
      rw [howes]
      split
      · rfl
      · rename_i hdrop
        exact hwhy.resolve_right hdrop)
    rw [hself] at hcall₀
    cases hcall₀
    exact hrefresh
  · intro hphase id' howes'
    rw [howes] at howes'
    split at howes'
    · rename_i hdrop
      subst howes'
      exact ⟨call', hself, hphase (.inr hdrop)⟩
    · by_cases hid : id' = id
      · subst hid
        exact ⟨call', hself, hphase (.inl howes')⟩
      · obtain ⟨call₀, hcall₀, hrefresh⟩ := (kept_iff h).mp hkept id' howes'
        refine ⟨call₀, ?_, hrefresh⟩
        rw [hm.calls, Table.get?_insert_of_ne _ _ hid]
        exact hcall₀

theorem not_owes_of_phase (h : s.Sound) (hkept : s.Kept)
    (hphase : ∀ call, s.calls.get? id = some call → call.phase.isRefresh = false) :
    ¬ s.Owes id := by
  intro howes
  obtain ⟨call, hcall, hrefresh⟩ := (kept_iff h).mp hkept id howes
  rw [hphase call hcall] at hrefresh
  cases hrefresh

theorem isRefresh_of_get {b : Bool} (hget : s.calls.get? id = some call)
    (h : call.phase.isRefresh = b) :
    ∀ call', s.calls.get? id = some call' → call'.phase.isRefresh = b := by
  intro call₀ hcall₀
  rwa [← Option.some.inj (hget.symm.trans hcall₀)]

theorem Puts.kept (hp : Puts s id call' s') (h : s.Sound) (hkept : s.Kept)
    (hnow : call'.now ≤ s.clock)
    (hphase : ∀ call, s.calls.get? id = some call → call.phase.isRefresh = false) :
    s'.Sound ∧ s'.Kept := by
  have hm := hp.moves h hnow
  refine ⟨h.moves hm, (kept_moves_iff h hkept hm).mpr ?_⟩
  rintro (howes | ⟨hheld, hempty⟩)
  · exact absurd howes (not_owes_of_phase h hkept hphase)
  · rw [hp.router] at hempty
    exact absurd hempty hheld.ne_nil

theorem Moves.spec_returned (hm : Moves s id call' s') (h : s.Sound) (hkept : s.Kept)
    (hphase : call'.phase.isRefresh = false) :
    s'.Sound ∧ (s'.Kept ↔ ¬ s.Owes id ∧
      ¬ (s.router.view.HoldsAt s.clock ∧ s'.router.view.candidates = [])) := by
  refine ⟨h.moves hm, ?_⟩
  rw [kept_moves_iff h hkept hm, hphase, ← not_or]
  exact ⟨fun hno hwhy => absurd (hno hwhy) (by decide), fun hno hwhy => absurd hwhy hno⟩

theorem Moves.spec_refresh (hm : Moves s id call' s') (h : s.Sound) (hkept : s.Kept)
    (hphase : call'.phase.isRefresh = true) : s'.Sound ∧ s'.Kept :=
  ⟨h.moves hm, (kept_moves_iff h hkept hm).mpr fun _ => hphase⟩

variable (config) in
theorem work_discover (h : s.Sound) (hkept : s.Kept) (hget : s.calls.get? id = some call)
    (hphase : call.phase = .discover) :
    (s.work config id call).Sound ∧ (s.work config id call).Kept := by
  have hnow := h.times hget
  have htrims := DiscoveredPeerRouter.trims_cachedDiscovery s.router hnow
  have hlocked : ∀ {now : Int} {force : Bool},
      (s.router.cachedDiscovery call.now).1.refreshing = .locked now force → now ≤ s.clock := by
    rw [DiscoveredPeerRouter.refreshing_cachedDiscovery]
    exact h.locked
  unfold work
  rw [hphase]
  by_cases hfound : (s.router.cachedDiscovery call.now).2.1 = []
  · simp only [hfound, if_true]
    exact ((puts_put (s.look id (s.router.cachedDiscovery call.now).1) id
      { call with phase := .refresh false }).moves_look hnow htrims hlocked).spec_refresh
        h hkept rfl
  · simp only [hfound, if_false]
    obtain ⟨call', hputs, hnow', hidle⟩ := discovered_puts
      (s.look id (s.router.cachedDiscovery call.now).1) id call
      (s.router.cachedDiscovery call.now).2
    rw [← hnow'] at hnow
    have hm := hputs.moves_look hnow htrims hlocked
    obtain ⟨hsound, hiff⟩ := hm.spec_returned h hkept hidle
    refine ⟨hsound, hiff.mpr ⟨?_, ?_⟩⟩
    · refine not_owes_of_phase h hkept ?_
      intro call₀ hcall₀
      rw [hget] at hcall₀
      cases hcall₀
      rw [hphase]
      rfl
    · rintro ⟨_, hempty⟩
      rw [hputs.router] at hempty
      exact hfound (DiscoveredPeerRouter.cachedDiscovery_found_eq_nil_iff.mpr hempty)

variable (config) in
theorem work_refresh {force : Bool} (h : s.Sound) (hkept : s.Kept)
    (hget : s.calls.get? id = some call) (hphase : call.phase = .refresh force) :
    (s.work config id call).Sound ∧ ((s.work config id call).Kept ↔
      (s.router.refreshing ≠ .idle → ¬ s.Owes id ∧ ¬ s.Overdue call.now)) := by
  have hnow := h.times hget
  have htaken : s.router.refreshing ≠ .idle →
      s.work config id call = (s.look id (s.router.cachedDiscovery call.now).1).discovered id
        call (s.router.cachedDiscovery call.now).2 := by
    intro htaken
    unfold work
    rw [hphase]
    cases hrefreshing : s.router.refreshing with
    | idle => exact absurd hrefreshing htaken
    | locked now force => rfl
    | looking now => rfl
  by_cases hidle : s.router.refreshing = .idle
  · have heq : s.work config id call =
        { s with
          router := { s.router with refreshing := .locked call.now force }
          holder := id }.put id { call with phase := .refreshing } := by
      unfold work step
      simp only [hphase, hidle]
    rw [heq]
    have hm : Moves s id { call with phase := .refreshing }
        ({ s with
          router := { s.router with refreshing := .locked call.now force }
          holder := id }.put id { call with phase := .refreshing }) :=
      { clock := rfl
        obtained := rfl
        calls := rfl
        now := hnow
        trims := .refl _ _
        locked := by
          intro now force' hlocked
          cases hlocked
          exact hnow
        dropper := by
          rw [if_neg]
          · rfl
          · rintro ⟨hheld, hempty⟩
            exact hheld.ne_nil hempty }
    obtain ⟨hsound, hkept'⟩ := hm.spec_refresh h hkept rfl
    exact ⟨hsound, iff_of_true hkept' (fun htaken => absurd hidle htaken)⟩
  · rw [htaken hidle]
    obtain ⟨call', hputs, hnow', hphase'⟩ := discovered_puts
      (s.look id (s.router.cachedDiscovery call.now).1) id call
      (s.router.cachedDiscovery call.now).2
    have hm := hputs.moves_look (hnow'.trans_le hnow)
      (DiscoveredPeerRouter.trims_cachedDiscovery s.router hnow) (by
        rw [DiscoveredPeerRouter.refreshing_cachedDiscovery]
        exact h.locked)
    obtain ⟨hsound, hiff⟩ := hm.spec_returned h hkept hphase'
    refine ⟨hsound, hiff.trans ?_⟩
    rw [forall_prop_of_true hidle, hputs.router]
    refine and_congr_right fun _ => not_congr (and_congr_right fun hheld => ?_)
    exact DiscoveredPeerRouter.cachedDiscovery_dropped_iff hheld hnow (h.beacon hheld.ne_nil)

theorem work_spec (h : s.Sound) (hkept : s.Kept) (hget : s.calls.get? id = some call) :
    (s.work config id call).Sound ∧
      ((s.work config id call).Kept ↔ Refilled config s (.work id)) := by
  have hrefilled : Refilled config s (.work id) ↔
      ∀ _force ∈ call.phase.refresh?, s.router.refreshing ≠ .idle →
        ¬ s.Owes id ∧ ¬ s.Overdue call.now := by
    simp only [Refilled, hget, Option.mem_def, Option.some.injEq, forall_eq']
  have hnow := h.times hget
  rw [hrefilled]
  cases hphase : call.phase with
  | discover =>
    obtain ⟨hsound, hkept'⟩ := work_discover config h hkept hget hphase
    exact ⟨hsound, iff_of_true hkept' (by intro _ hforce; cases hforce)⟩
  | refresh force =>
    obtain ⟨hsound, hiff⟩ := work_refresh config h hkept hget hphase
    refine ⟨hsound, hiff.trans ?_⟩
    exact ⟨fun hall _ _ => hall, fun hall => hall force rfl⟩
  | probed candidates =>
    have hidle := isRefresh_of_get (b := false) hget (by rw [hphase]; rfl)
    have hputs : Puts s id
        { call with
          phase := if (s.backoff.candidatesExhausted call.now candidates).2 then .exhausted
            else .returned }
        (s.work config id call) := by
      unfold work
      rw [hphase]
      exact puts_backoff s _ id _
    obtain ⟨hsound, hkept'⟩ := hputs.kept h hkept hnow hidle
    exact ⟨hsound, iff_of_true hkept' (by intro _ hforce; cases hforce)⟩
  | exhausted =>
    have heq : s.work config id call =
        (s.look id s.router.clearDiscoveryView).put id
          { call with phase := .refresh false, refilled := true } := by
      unfold work
      rw [hphase]
    have hm := (puts_put (s.look id s.router.clearDiscoveryView) id
      { call with phase := .refresh false, refilled := true }).moves_look hnow (.empty _ _)
      h.locked
    rw [heq]
    obtain ⟨hsound, hkept'⟩ := hm.spec_refresh h hkept rfl
    exact ⟨hsound, iff_of_true hkept' (by intro _ hforce; cases hforce)⟩
  | refreshing | probing | returned =>
    have heq : s.work config id call = s := by
      unfold work
      rw [hphase]
    rw [heq]
    exact ⟨h, iff_of_true hkept (by intro _ hforce; cases hforce)⟩

end FederatedLookups

section Pass

variable {config : DiscoveredPeerRouterConfig}
  {select : Int → CarrierReply → List (String × SignedBootstrapBeacon)}
  {router reserved : DiscoveredPeerRouter} {now : Int} {force : Bool}

namespace DiscoveredPeerRouter

/-- What a call that has the lock sees before it thinks of a pass. -/
def looked (router : DiscoveredPeerRouter) (now : Int) (force : Bool) :
    DiscoveredPeerRouter × Discovery :=
  if force then (router, ([], [])) else router.cachedDiscovery now

theorem reserveCarrierPass_eq_some (h : router.reserveCarrierPass config now = some reserved) :
    reserved.view = router.view := by
  unfold reserveCarrierPass at h
  split at h
  · cases h
    rfl
  · split at h
    · cases h
    · cases h
      rfl

variable (config now) in
theorem reserveCarrierPass_congr {router' : DiscoveredPeerRouter}
    (h : router'.nextCarrierPass = router.nextCarrierPass) :
    router'.reserveCarrierPass config now = none ↔
      router.reserveCarrierPass config now = none := by
  unfold reserveCarrierPass
  rw [h]
  split
  · simp
  · split <;> simp

variable (router now force) in
theorem nextCarrierPass_looked :
    (router.looked now force).1.nextCarrierPass = router.nextCarrierPass := by
  cases force with
  | true => rfl
  | false => exact nextCarrierPass_cachedDiscovery

variable (router force) in
theorem trims_looked {clock : Int} (hnow : now ≤ clock) :
    router.view.Trims (router.looked now force).1.view clock := by
  cases force with
  | true => exact .refl _ _
  | false => exact trims_cachedDiscovery router hnow

theorem looked_found (h : (router.looked now force).2.1 ≠ []) :
    force = false ∧ (router.looked now force).1.view.candidates ≠ [] := by
  cases force with
  | true => exact absurd rfl h
  | false => exact ⟨rfl, fun hempty => h (cachedDiscovery_found_eq_nil_iff.mpr hempty)⟩

theorem looked_dropped_iff {clock : Int} (hheld : router.view.HoldsAt clock)
    (hnow : now ≤ clock) (hbeacon : router.view.localBeacon ≠ []) :
    (router.looked now force).1.view.candidates = [] ↔
      force = false ∧ router.view.localExpires ≤ now := by
  cases force with
  | true => exact iff_of_false hheld.ne_nil (fun h => nomatch h.1)
  | false =>
    rw [and_iff_right rfl]
    exact cachedDiscovery_dropped_iff hheld hnow hbeacon

variable (config select) in
theorem step_startPass_found (h : router.refreshing = .locked now force)
    (hfound : (router.looked now force).2.1 ≠ []) :
    step config select router .startPass =
      ({ (router.looked now force).1 with refreshing := .idle },
        some (router.looked now force).2) := by
  unfold looked at hfound
  unfold step looked
  simp only [h, ne_eq, hfound, not_false_eq_true, if_true]

variable (config select) in
theorem step_startPass_refused (h : router.refreshing = .locked now force)
    (hfound : (router.looked now force).2.1 = [])
    (hreserve : (router.looked now force).1.reserveCarrierPass config now = none) :
    step config select router .startPass =
      ({ (router.looked now force).1 with refreshing := .idle }, some ([], [])) := by
  unfold looked at hfound hreserve
  unfold step looked
  simp only [h, ne_eq, hfound, not_true_eq_false, if_false, hreserve]

variable (config select) in
theorem step_startPass_reserved (h : router.refreshing = .locked now force)
    (hfound : (router.looked now force).2.1 = [])
    (hreserve : (router.looked now force).1.reserveCarrierPass config now = some reserved) :
    step config select router .startPass =
      ({ reserved with refreshing := .looking now }, none) := by
  unfold looked at hfound hreserve
  unfold step
  simp only [h, ne_eq, hfound, not_true_eq_false, if_false, hreserve]

end DiscoveredPeerRouter

theorem usable_of_passView {reply : Option CarrierReply} {view : FederationDiscoveryView}
    (h : passView? config now reply = some view) : view.Usable := by
  unfold passView? at h
  cases reply with
  | none => cases h
  | some reply =>
    dsimp only at h
    split at h
    · rename_i husable
      cases h
      exact husable
    · cases h

variable (config) in
theorem step_endPass (h : router.refreshing = .looking now) (reply : Option CarrierReply) :
    (step config (validatedBeacons config) router (.endPass reply)).1 =
      { router with
        view := (passView? config now reply).getD router.view, refreshing := .idle } := by
  unfold step passView?
  cases reply with
  | none => simp only [h, Option.getD_none]
  | some reply =>
    simp only [h, DiscoveredPeerRouter.storeDiscoveryView, FederationDiscoveryView.Usable]
    split
    · rename_i hunusable
      simp [hunusable]
    · rename_i husable
      simp [husable]

end Pass

namespace FederatedLookups

variable {config : DiscoveredPeerRouterConfig} {s s' : FederatedLookups} {id : Nat}
  {call call' : FederatedLookup}

theorem startPass_spec (h : s.Sound) (hkept : s.Kept) (hget : s.calls.get? s.holder = some call) :
    (s.startPass config call).Sound ∧
      ((s.startPass config call).Kept ↔ Refilled config s .startPass) := by
  have hrefilled : Refilled config s .startPass ↔
      ∀ lock ∈ s.router.refreshing.locked?,
        s.Owes s.holder ∨ (lock.2 = false ∧ s.Overdue lock.1) →
          s.router.reserveCarrierPass config lock.1 ≠ none := by
    simp only [Refilled, hget, Option.mem_def, Option.some.injEq, forall_eq']
  have hcall := h.times hget
  rw [hrefilled]
  cases hrefreshing : s.router.refreshing with
  | idle =>
    have heq : s.startPass config call = s := by
      unfold startPass
      rw [hrefreshing]
    rw [heq]
    exact ⟨h, iff_of_true hkept (by intro _ hlock; cases hlock)⟩
  | looking now =>
    have heq : s.startPass config call = s := by
      unfold startPass
      rw [hrefreshing]
    rw [heq]
    exact ⟨h, iff_of_true hkept (by intro _ hlock; cases hlock)⟩
  | locked now force =>
    have hnow := h.locked hrefreshing
    have htrims := DiscoveredPeerRouter.trims_looked s.router force hnow
    have hreserve := DiscoveredPeerRouter.reserveCarrierPass_congr config now
      (DiscoveredPeerRouter.nextCarrierPass_looked s.router now force)
    have hlock : (∀ lock ∈ (Refreshing.locked now force).locked?,
        s.Owes s.holder ∨ (lock.2 = false ∧ s.Overdue lock.1) →
          s.router.reserveCarrierPass config lock.1 ≠ none) ↔
        (s.Owes s.holder ∨ (force = false ∧ s.Overdue now) →
          s.router.reserveCarrierPass config now ≠ none) :=
      ⟨fun hall => hall (now, force) rfl, fun hall lock hmem => by cases hmem; exact hall⟩
    rw [hlock]
    by_cases hfound : (s.router.looked now force).2.1 = []
    · cases hpass : (s.router.looked now force).1.reserveCarrierPass config now with
      | some reserved =>
        have hstep := DiscoveredPeerRouter.step_startPass_reserved config
          (validatedBeacons config) hrefreshing hfound hpass
        have heq : s.startPass config call =
            (s.look s.holder { reserved with refreshing := .looking now }).put s.holder
              { call with phase := .refreshing } := by
          unfold startPass
          simp only [hrefreshing, hstep]
        have hview := DiscoveredPeerRouter.reserveCarrierPass_eq_some hpass
        have hm := (puts_put (s.look s.holder { reserved with refreshing := .looking now })
          s.holder { call with phase := .refreshing }).moves_look hcall
          (by rw [hview]; exact htrims) (by intro _ _ hlocked; cases hlocked)
        rw [heq]
        obtain ⟨hsound, hkept'⟩ := hm.spec_refresh h hkept rfl
        refine ⟨hsound, iff_of_true hkept' ?_⟩
        intro _ hnone
        rw [← hreserve, hpass] at hnone
        cases hnone
      | none =>
        have hstep := DiscoveredPeerRouter.step_startPass_refused config
          (validatedBeacons config) hrefreshing hfound hpass
        have heq : s.startPass config call =
            (s.look s.holder { (s.router.looked now force).1 with
              refreshing := .idle }).discovered s.holder call ([], []) := by
          unfold startPass
          simp only [hrefreshing, hstep]
        obtain ⟨call', hputs, hnow', hphase'⟩ := discovered_puts
          (s.look s.holder { (s.router.looked now force).1 with refreshing := .idle })
          s.holder call ([], [])
        have hm := hputs.moves_look (hnow'.trans_le hcall) htrims
          (by intro _ _ hlocked; cases hlocked)
        rw [heq]
        obtain ⟨hsound, hiff⟩ := hm.spec_returned h hkept hphase'
        refine ⟨hsound, hiff.trans ?_⟩
        rw [hputs.router, ← not_or, hreserve.mp hpass]
        simp only [ne_eq, not_true_eq_false, imp_false]
        refine not_congr (or_congr_right ?_)
        unfold Overdue
        rw [and_left_comm]
        refine and_congr_right fun hheld => ?_
        exact DiscoveredPeerRouter.looked_dropped_iff hheld hnow (h.beacon hheld.ne_nil)
    · have hstep := DiscoveredPeerRouter.step_startPass_found config
        (validatedBeacons config) hrefreshing hfound
      have heq : s.startPass config call =
          (s.look s.holder { (s.router.looked now force).1 with
            refreshing := .idle }).discovered s.holder call (s.router.looked now force).2 := by
        unfold startPass
        simp only [hrefreshing, hstep]
      obtain ⟨call', hputs, hnow', hphase'⟩ := discovered_puts
        (s.look s.holder { (s.router.looked now force).1 with refreshing := .idle })
        s.holder call (s.router.looked now force).2
      have hm := hputs.moves_look (hnow'.trans_le hcall) htrims
        (by intro _ _ hlocked; cases hlocked)
      obtain ⟨hforce, hne⟩ := DiscoveredPeerRouter.looked_found hfound
      have hwhole : ¬ s.Owes s.holder ∧ ¬ (force = false ∧ s.Overdue now) := by
        constructor
        · rintro ⟨hdropper, _⟩
          obtain ⟨candidate, hmem⟩ := List.exists_mem_of_ne_nil _ hne
          have hmem' := htrims.sub candidate hmem
          rw [h.dropped (by simp [hdropper])] at hmem'
          exact absurd hmem' List.not_mem_nil
        · rintro ⟨_, hheld, hexpires⟩
          exact hne ((DiscoveredPeerRouter.looked_dropped_iff hheld hnow
            (h.beacon hheld.ne_nil)).mpr ⟨hforce, hexpires⟩)
      rw [heq]
      obtain ⟨hsound, hiff⟩ := hm.spec_returned h hkept hphase'
      refine ⟨hsound, iff_of_true (hiff.mpr ⟨hwhole.1, ?_⟩) ?_⟩
      · rintro ⟨_, hempty⟩
        rw [hputs.router] at hempty
        exact hne hempty
      · rintro (howes | hoverdue)
        · exact absurd howes hwhole.1
        · exact absurd hoverdue hwhole.2

theorem kept_of_not_dropped (h : s.Sound) (hdropper : s.dropper = none) : s.Kept := by
  refine (kept_iff h).mpr ?_
  rintro id ⟨hsome, _⟩
  rw [hdropper] at hsome
  cases hsome

theorem sound_stored {view : FederationDiscoveryView} (h : s.Sound) (hview : view.Usable) :
    ({ s with
      router := { s.router with view, refreshing := .idle }
      obtained := view
      dropper := none } : FederatedLookups).Sound where
  times := h.times
  locked hlocked := nomatch hlocked
  beacon _ hempty := hview (.inl hempty)
  sub _ hmem := hmem
  held _ _ hmem _ := hmem
  dropped hne := absurd rfl hne

theorem endPass_spec {reply : Option CarrierReply} (h : s.Sound) (hkept : s.Kept)
    (hget : s.calls.get? s.holder = some call) :
    (s.endPass config call reply).Sound ∧
      ((s.endPass config call reply).Kept ↔ Refilled config s (.endPass reply)) := by
  have hrefilled : Refilled config s (.endPass reply) ↔
      ∀ now ∈ s.router.refreshing.looking?, s.Owes s.holder →
        passView? config now reply ≠ none := by
    simp only [Refilled, hget, Option.mem_def, Option.some.injEq, forall_eq']
  have hcall := h.times hget
  rw [hrefilled]
  cases hrefreshing : s.router.refreshing with
  | idle =>
    have heq : s.endPass config call reply = s := by
      unfold endPass
      rw [hrefreshing]
    rw [heq]
    exact ⟨h, iff_of_true hkept (by intro _ hlooking; cases hlooking)⟩
  | locked now force =>
    have heq : s.endPass config call reply = s := by
      unfold endPass
      rw [hrefreshing]
    rw [heq]
    exact ⟨h, iff_of_true hkept (by intro _ hlooking; cases hlooking)⟩
  | looking now =>
    have hlooking : (∀ now' ∈ (Refreshing.looking now).looking?, s.Owes s.holder →
        passView? config now' reply ≠ none) ↔
        (s.Owes s.holder → passView? config now reply ≠ none) :=
      ⟨fun hall => hall now rfl, fun hall now' hmem => by cases hmem; exact hall⟩
    rw [hlooking]
    have hstep := step_endPass config hrefreshing reply
    cases hview : passView? config now reply with
    | some view =>
      rw [hview, Option.getD_some] at hstep
      have hsound := sound_stored h (usable_of_passView hview)
      obtain ⟨call', hputs, hnow', _⟩ := discovered_puts
        { s with
          router := { s.router with view, refreshing := .idle }
          obtained := view
          dropper := none } s.holder call
        ((step config (validatedBeacons config) s.router (.endPass reply)).2.getD ([], []))
      have heq : s.endPass config call reply =
          { s with
            router := { s.router with view, refreshing := .idle }
            obtained := view
            dropper := none }.discovered s.holder call
            ((step config (validatedBeacons config) s.router
              (.endPass reply)).2.getD ([], [])) := by
        unfold endPass
        simp only [hrefreshing, hview, hstep]
      rw [heq]
      have hsound' := hsound.moves (hputs.moves hsound (hnow'.trans_le hcall))
      refine ⟨hsound', iff_of_true (kept_of_not_dropped hsound' hputs.dropper) ?_⟩
      intro _ hnone
      cases hnone
    | none =>
      rw [hview, Option.getD_none] at hstep
      have hlook : s.look s.holder { s.router with refreshing := .idle } =
          { s with router := { s.router with refreshing := .idle } } := look_of_view_eq rfl
      obtain ⟨call', hputs, hnow', hphase'⟩ := discovered_puts
        (s.look s.holder { s.router with refreshing := .idle }) s.holder call
        ((step config (validatedBeacons config) s.router (.endPass reply)).2.getD ([], []))
      have heq : s.endPass config call reply =
          (s.look s.holder { s.router with refreshing := .idle }).discovered s.holder call
            ((step config (validatedBeacons config) s.router
              (.endPass reply)).2.getD ([], [])) := by
        rw [hlook]
        unfold endPass
        simp only [hrefreshing, hview, hstep]
      have hm := hputs.moves_look (hnow'.trans_le hcall) (.refl _ _)
        (by intro _ _ hlocked; cases hlocked)
      rw [heq]
      obtain ⟨hsound, hiff⟩ := hm.spec_returned h hkept hphase'
      refine ⟨hsound, hiff.trans ?_⟩
      rw [hputs.router]
      simp only [ne_eq, not_true_eq_false, imp_false, and_iff_left_iff_imp]
      rintro _ ⟨hheld, hempty⟩
      exact hheld.ne_nil hempty

theorem kept_probe (candidate : FederationCandidate) (outcome : ProbeOutcome) (first : String)
    (h : s.Sound) (hkept : s.Kept) (hget : s.calls.get? id = some call) :
    (s.probe id call candidate outcome first).Sound ∧
      (s.probe id call candidate outcome first).Kept := by
  have hnow := h.times hget
  unfold probe
  split
  · rename_i hphase
    have hidle := isRefresh_of_get (b := false) hget (by rw [hphase]; rfl)
    dsimp only
    split
    · exact ⟨h, hkept⟩
    · split
      · exact (puts_backoff s _ id _).kept h hkept hnow hidle
      · exact (puts_backoff s _ id _).kept h hkept hnow hidle
  · exact ⟨h, hkept⟩

theorem kept_endProbes (h : s.Sound) (hkept : s.Kept) (hget : s.calls.get? id = some call) :
    (s.endProbes id call).Sound ∧ (s.endProbes id call).Kept := by
  have hnow := h.times hget
  unfold endProbes
  split
  · rename_i hphase
    have hidle := isRefresh_of_get (b := false) hget (by rw [hphase]; rfl)
    split
    · exact (puts_put s id _).kept h hkept hnow hidle
    · exact (puts_put s id _).kept h hkept hnow hidle
  · exact ⟨h, hkept⟩

theorem kept_start (purpose : LookupPurpose) (now : Int) (h : s.Sound) (hkept : s.Kept)
    (hget : s.calls.get? id = none) :
    (s.start id purpose now).Sound ∧ (s.start id purpose now).Kept := by
  unfold start
  split
  · rename_i hnow
    refine (puts_put s id _).kept h hkept hnow ?_
    intro call hcall
    rw [hget] at hcall
    cases hcall
  · exact ⟨h, hkept⟩

theorem kept_tick (elapsed : Nat) (h : s.Sound) (hkept : s.Kept) :
    ({ s with clock := s.clock + elapsed } : FederatedLookups).Sound ∧
      ({ s with clock := s.clock + elapsed } : FederatedLookups).Kept := by
  have hclock : s.clock ≤ s.clock + elapsed := by omega
  constructor
  · exact
      { times := fun hget => (h.times hget).trans hclock
        locked := fun hlocked => (h.locked hlocked).trans hclock
        beacon := h.beacon
        sub := h.sub
        held := fun hnone candidate hmem hexpires =>
          h.held hnone candidate hmem (Int.lt_of_le_of_lt hclock hexpires)
        dropped := h.dropped }
  · exact fun hheld => hkept (hheld.mono hclock fun _ hmem => hmem)

theorem step_spec (h : s.Sound) (hkept : s.Kept) (event : LookupEvent) :
    (lookupStep config s event).Sound ∧
      ((lookupStep config s event).Kept ↔ Refilled config s event) := by
  cases event with
  | tick elapsed =>
    obtain ⟨hsound, hkept'⟩ := kept_tick elapsed h hkept
    exact ⟨hsound, iff_of_true hkept' trivial⟩
  | start id purpose now =>
    cases hget : s.calls.get? id with
    | some call =>
      simp only [lookupStep, hget]
      exact ⟨h, iff_of_true hkept trivial⟩
    | none =>
      simp only [lookupStep, hget]
      obtain ⟨hsound, hkept'⟩ := kept_start purpose now h hkept hget
      exact ⟨hsound, iff_of_true hkept' trivial⟩
  | work id =>
    cases hget : s.calls.get? id with
    | none =>
      simp only [lookupStep, hget]
      exact ⟨h, iff_of_true hkept (by simp [Refilled, hget])⟩
    | some call =>
      simp only [lookupStep, hget]
      exact work_spec h hkept hget
  | startPass =>
    cases hget : s.calls.get? s.holder with
    | none =>
      simp only [lookupStep, hget]
      exact ⟨h, iff_of_true hkept (by simp [Refilled, hget])⟩
    | some call =>
      simp only [lookupStep, hget]
      exact startPass_spec h hkept hget
  | endPass reply =>
    cases hget : s.calls.get? s.holder with
    | none =>
      simp only [lookupStep, hget]
      exact ⟨h, iff_of_true hkept (by simp [Refilled, hget])⟩
    | some call =>
      simp only [lookupStep, hget]
      exact endPass_spec h hkept hget
  | probe id candidate outcome first =>
    cases hget : s.calls.get? id with
    | none =>
      simp only [lookupStep, hget]
      exact ⟨h, iff_of_true hkept trivial⟩
    | some call =>
      simp only [lookupStep, hget]
      obtain ⟨hsound, hkept'⟩ := kept_probe candidate outcome first h hkept hget
      exact ⟨hsound, iff_of_true hkept' trivial⟩
  | endProbes id =>
    cases hget : s.calls.get? id with
    | none =>
      simp only [lookupStep, hget]
      exact ⟨h, iff_of_true hkept trivial⟩
    | some call =>
      simp only [lookupStep, hget]
      obtain ⟨hsound, hkept'⟩ := kept_endProbes h hkept hget
      exact ⟨hsound, iff_of_true hkept' trivial⟩

/-- No step of a run leaves the view empty while a candidate of the view obtained before is
not expired, if and only if the calls that drop such a view get another. -/
theorem meets_kept_iff (config : DiscoveredPeerRouterConfig) (clock : Int)
    (events : List LookupEvent) :
    Trace.Meets (lookupStep config) (fun s event => (lookupStep config s event).Kept) { clock }
        events ↔
      Trace.Meets (lookupStep config) (Refilled config) { clock } events := by
  have hstart : ({ clock } : FederatedLookups).Sound ∧ ({ clock } : FederatedLookups).Kept :=
    ⟨sound_start clock, kept_of_not_dropped (sound_start clock) rfl⟩
  refine Trace.meets_congr_of_meets
    (P := fun s : FederatedLookups => s.Sound ∧ s.Kept) ?_ ?_ hstart events
  · rintro s event ⟨hsound, hkept⟩ hrefilled
    obtain ⟨hsound', hiff⟩ := step_spec hsound hkept event
    exact ⟨hsound', hiff.mpr hrefilled⟩
  · rintro s event ⟨hsound, hkept⟩
    exact (step_spec hsound hkept event).2

end FederatedLookups

section Sample

open Branch.Agreement Branch.Protocol

def federationBeacon (key : UInt8) : List UInt8 :=
  wrapperOf (.map [("type", .text eventBootstrapBeacon),
    ("sender", .map [("key_alg", .text "ed25519"), ("public_key", .bytes (.replicate 32 key))]),
    ("payload", .bytes (Cbor.encode (.map [("sequence", .uint 1),
      ("beacon_id", .bytes (.replicate 32 key)), ("issued_at", .uint 100),
      ("expires_at", .uint 200),
      ("relay_endpoints", .array [.map [("uri", .text "wss://a:1/relay/v0"),
        ("priority", .uint 0), ("transport", .text "wss")]]),
      ("protocol_versions", .array [.text protocolID]),
      ("relay_capabilities", .array [.text relayFederationLiveRole, .text relayForwardLiveRole]),
      ("profile_multihashes", .array [.text developmentProfileMultihash])]))),
    ("event_id", .bytes (.replicate 32 key)),
    ("protocol", .text protocolID), ("signature", .bytes (.replicate 64 0)),
    ("created_at", .uint 100), ("expires_at", .uint 200), ("payload_mode", .text "public"),
    ("signature_alg", .text "ed25519")])

/-- A relay with the key of zeros and a carrier that is not read twice in twelve seconds. -/
def pacedConfig : DiscoveredPeerRouterConfig where
  localKey := .replicate 32 0
  endpointPolicy := ⟨false, false⟩
  carrierPassMinInterval := 12 * 10 ^ 9
  urlParse := fun _ =>
    some ⟨⟨"wss", "a", false, "", "1"⟩, "a:1", path, "", "wss://a:1/relay/v0"⟩
  parseAddr := fun _ => none
  verify := fun _ _ _ => true

theorem perm_id (entries : List (String × SignedBootstrapBeacon)) : (id entries).Perm entries :=
  List.Perm.refl entries

def carried : CarrierReply :=
  ⟨150, ⟨id, perm_id⟩, [federationBeacon 0, federationBeacon 1]⟩

def carriedCandidate : FederationCandidate where
  endpoint := "wss://a:1/relay/v0"
  relayPublicKey := .replicate 32 1
  profileMultihash := developmentProfileMultihash
  priority := 0
  identityKey := Base64.encode (.replicate 32 1)
  expiresAt := unix 200

/-- A first pass brings a view; a lookup then fails to reach its only candidate, clears the view
and is refused a second pass. -/
def suppressedRefill : List LookupEvent :=
  [.start 0 .refresh (unix 150), .work 0, .startPass, .endPass (some carried),
    .start 1 .peer (unix 150), .work 1, .probe 1 carriedCandidate .unreachable "", .endProbes 1,
    .work 1, .work 1, .work 1, .startPass]

theorem acceptedBeacon_wrapperOf {config : DiscoveredPeerRouterConfig} {now clock : Int}
    {event : Cbor} {beacon : SignedEvent BootstrapBeaconPayload}
    (hread : readSignedBootstrapBeacon (fun s => (config.urlParse s).map FederationURL.toParsedURL)
      config.verify (relayNow clock (now / 10 ^ 9)) 300 [developmentProfileMultihash]
      (Cbor.encode event) = .ok beacon)
    (hsize : (wrapperOf event).length ≤ maxDraftEnvelopeBytes)
    (hrole : relayFederationLiveRole ∈ beacon.payload.relayCapabilities) :
    acceptedBeacon config now clock (wrapperOf event) = some ⟨wrapperOf event, beacon⟩ := by
  have hok := toOption_eq_some_iff.mp
    (relayBeacon_eq_some_iff.mpr ⟨_, wrapped_wrapperOf event, hsize, hread⟩)
  rw [acceptedBeacon, hok]
  exact if_pos hrole

/-- What a pass reads of a beacon. -/
def carriedVerdict (event : Cbor) : Option (List UInt8 × Nat × List BootstrapRelayEndpoint ×
    List String × Bool) :=
  (readSignedBootstrapBeacon (fun s => (pacedConfig.urlParse s).map FederationURL.toParsedURL)
      pacedConfig.verify 150 300 [developmentProfileMultihash]
      (Cbor.encode event)).toOption.map fun event =>
    (event.envelope.sender.publicKey, event.payload.expiresAt, event.payload.relayEndpoints,
      event.payload.profileMultihashes,
      decide (relayFederationLiveRole ∈ event.payload.relayCapabilities))

theorem exists_carried (key : UInt8) {event : Cbor}
    (hbeacon : federationBeacon key = wrapperOf event)
    (h : carriedVerdict event = some (.replicate 32 key, 200, [⟨"wss", "wss://a:1/relay/v0", 0⟩],
      [developmentProfileMultihash], true))
    (hsize : (wrapperOf event).length ≤ maxDraftEnvelopeBytes) :
    ∃ beacon : SignedBootstrapBeacon,
      acceptedBeacon pacedConfig (unix 150) 150 (federationBeacon key) = some beacon ∧
        beacon.wrapper = federationBeacon key ∧ beacon.publicKey = .replicate 32 key ∧
        beacon.event.payload.expiresAt = 200 ∧
        beacon.event.payload.relayEndpoints = [⟨"wss", "wss://a:1/relay/v0", 0⟩] ∧
        beacon.event.payload.profileMultihashes = [developmentProfileMultihash] := by
  obtain ⟨beacon, hread, hevent⟩ := Option.map_eq_some_iff.mp h
  simp only [Prod.mk.injEq, decide_eq_true_eq] at hevent
  obtain ⟨hkey, hexpires, hendpoints, hprofiles, hrole⟩ := hevent
  rw [hbeacon]
  exact ⟨⟨_, beacon⟩, acceptedBeacon_wrapperOf (toOption_eq_some_iff.mp hread) hsize hrole, rfl,
    hkey, hexpires, hendpoints, hprofiles⟩

theorem validatedBeacons_pair {config : DiscoveredPeerRouterConfig} {now clock : Int}
    {w₁ w₂ : List UInt8} {first second : SignedBootstrapBeacon}
    (hfirst : acceptedBeacon config now clock w₁ = some first)
    (hsecond : acceptedBeacon config now clock w₂ = some second)
    (hne : second.identityKey ≠ first.identityKey) :
    validatedBeacons config now ⟨clock, ⟨id, perm_id⟩, [w₁, w₂]⟩ =
      [(second.identityKey, second), (first.identityKey, first)] := by
  have hmerged : ({} : MergedBeacons).observe first =
      { validated := Table.empty.insert first.identityKey first } := by
    simp [MergedBeacons.observe]
  simp only [validatedBeacons, mergeObservations, List.foldl, hfirst, hsecond, id, hmerged]
  rw [MergedBeacons.observe]
  simp only [List.not_mem_nil, if_false, Table.get?_insert_of_ne _ _ hne, Table.get?_empty]
  simp [Table.toList, Table.insert, Table.empty, AList.insert, List.kinsert, List.kerase, hne]

theorem computedView_carried :
    computedView pacedConfig (validatedBeacons pacedConfig (unix 150) carried) =
      ⟨federationBeacon 0, unix 200, [carriedCandidate]⟩ := by
  obtain ⟨own, hown, hwrapper, hownKey, hexpires, -, -⟩ :=
    exists_carried 0 rfl (by decide +kernel) (by decide +kernel)
  obtain ⟨other, hother, -, hotherKey, hexpires', hendpoints, hprofiles⟩ :=
    exists_carried 1 rfl (by decide +kernel) (by decide +kernel)
  have hne : other.identityKey ≠ own.identityKey := by
    rw [SignedBootstrapBeacon.identityKey, SignedBootstrapBeacon.identityKey, hotherKey, hownKey]
    decide +kernel
  have hentries : validatedBeacons pacedConfig (unix 150) carried =
      [(other.identityKey, other), (own.identityKey, own)] :=
    validatedBeacons_pair hown hother hne
  have hcandidate : federationCandidate pacedConfig other.identityKey other =
      some carriedCandidate := by
    rw [federationCandidate, hprofiles, hendpoints, SignedBootstrapBeacon.identityKey, hotherKey,
      hexpires']
    decide +kernel
  have hlocal : own.publicKey = pacedConfig.localKey := hownKey
  have hremote : other.publicKey ≠ pacedConfig.localKey := by
    rw [hotherKey]
    decide
  rw [hentries, computedView]
  simp only [collectBeacons, if_neg hremote, hcandidate, if_pos hlocal, hexpires]
  rw [hwrapper]
  simp [maxFederationPeers]

theorem lookupStep_endPass {config : DiscoveredPeerRouterConfig} {s : FederatedLookups}
    (call : FederatedLookup) {now : Int} {reply : CarrierReply} {view : FederationDiscoveryView}
    (hget : s.calls.get? s.holder = some call) (hrefreshing : s.router.refreshing = .looking now)
    (hview : computedView config (validatedBeacons config now reply) = view)
    (husable : view.Usable) :
    lookupStep config s (.endPass (some reply)) =
      { s with
        router := { s.router.storeDiscoveryView view with refreshing := .idle }
        obtained := view
        dropper := none }.discovered s.holder call (view.localBeacon, view.candidates) := by
  have hpass : passView? config now (some reply) = some view := by
    rw [← hview] at husable ⊢
    exact if_pos husable
  simp only [lookupStep, hget, FederatedLookups.endPass, hrefreshing, hpass, step, hview, Option.getD_some]

theorem not_kept_suppressedRefill : ¬ Trace.Meets (lookupStep pacedConfig)
    (fun s event => (lookupStep pacedConfig s event).Kept) { clock := unix 150 }
    suppressedRefill := by
  rintro ⟨-, -, -, -, h⟩
  rw [lookupStep_endPass ⟨.refresh, unix 150, .refreshing, false⟩ (by decide +kernel) (by rfl)
    computedView_carried (by decide +kernel)] at h
  revert h
  decide +kernel

end Sample

end Branch.Wss
