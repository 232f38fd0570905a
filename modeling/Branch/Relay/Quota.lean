import Branch.Relay.Tables
import Mathlib.Data.Nat.Cast.Basic

/-!
The quota counters of a session against the sends that occupy them.
-/

namespace Branch.Relay

open Branch.Lib
open Branch.Wss

namespace SessionState

variable {state : SessionState} {payloadBytes : Nat}

theorem charge_frames_toNat (h : state.frames.toNat + 1 < 2 ^ 64) :
    (state.charge payloadBytes).frames.toNat = state.frames.toNat + 1 := by
  rw [charge_frames, UInt64.toNat_add]
  exact Nat.mod_eq_of_lt h

theorem charge_bytes_toNat (h : state.bytes.toNat + payloadBytes < 2 ^ 64) :
    (state.charge payloadBytes).bytes.toNat = state.bytes.toNat + payloadBytes := by
  rw [charge_bytes, UInt64.toNat_add, UInt64.toNat_ofNat', Nat.mod_eq_of_lt (b := 2 ^ 64)]
  · rw [Nat.mod_eq_of_lt (by omega)]
  · rw [Nat.mod_eq_of_lt (a := payloadBytes) (by omega)]
    exact h

theorem overQuota_eq_false_iff {config : Config} :
    state.overQuota config payloadBytes = false ↔
      (state.charge payloadBytes).frames ≤ config.maxFramesPerSession ∧
        (state.charge payloadBytes).bytes ≤ config.maxBytesPerSession := by
  simp [overQuota]

theorem uncharge_frames_toNat (state : SessionState) (payloadBytes : Nat)
    (h : 0 < state.frames.toNat) :
    (state.uncharge payloadBytes).frames.toNat + 1 = state.frames.toNat := by
  have hpos : (0 : UInt64) < state.frames := UInt64.lt_iff_toNat_lt.mpr h
  have hle : (1 : UInt64) ≤ state.frames := UInt64.le_iff_toNat_le.mpr h
  rw [uncharge_frames, if_pos hpos, UInt64.toNat_sub_of_le _ _ hle]
  exact Nat.sub_add_cancel h

theorem uncharge_bytes_toNat (state : SessionState) (payloadBytes : Nat)
    (h : payloadBytes ≤ state.bytes.toNat) :
    (state.uncharge payloadBytes).bytes.toNat + payloadBytes = state.bytes.toNat := by
  have hlt := state.bytes.toNat_lt
  have hsize : (UInt64.ofNat payloadBytes).toNat = payloadBytes := by
    rw [UInt64.toNat_ofNat']
    exact Nat.mod_eq_of_lt (by omega)
  have hle : UInt64.ofNat payloadBytes ≤ state.bytes := by
    rw [UInt64.le_iff_toNat_le, hsize]
    exact h
  rw [uncharge_bytes, if_pos hle, UInt64.toNat_sub_of_le _ _ hle, hsize]
  exact Nat.sub_add_cancel h

end SessionState

/-- What a call occupies of a session object's quota, under a weight. -/
def SendCall.charge (weight : Bytes → Nat) (ref : SessionRef) (c : SendCall) : Nat :=
  if c.stage.chargedTo = some ref then weight c.payload else 0

namespace System

def occupied (weight : Bytes → Nat) (ref : SessionRef) (sends : List SendCall) : Nat :=
  (sends.map (SendCall.charge weight ref)).sum

/-- The frames of a session object that have been forwarded or are in flight. -/
def usedFrames (ref : SessionRef) (sends : List SendCall) : Nat :=
  occupied (fun _ => 1) ref sends

def usedBytes (ref : SessionRef) (sends : List SendCall) : Nat :=
  occupied List.length ref sends

section Occupied

variable {weight : Bytes → Nat} {ref : SessionRef} {sends : List SendCall} {call : Nat}
  {c : SendCall} {stage : SendStage}

theorem occupied_setStage (weight : Bytes → Nat) (ref : SessionRef) (stage : SendStage)
    (hc : sends[call]? = some c) :
    occupied weight ref (sends.modify call fun c => { c with stage := stage }) +
        c.charge weight ref =
      occupied weight ref sends + SendCall.charge weight ref { c with stage := stage } :=
  sum_map_modify hc _ _

theorem occupied_eq_zero (h : ∀ c ∈ sends, c.stage.chargedTo ≠ some ref) :
    occupied weight ref sends = 0 := by
  apply List.sum_eq_zero
  intro n hn
  obtain ⟨c, hc, rfl⟩ := List.mem_map.mp hn
  exact if_neg (h c hc)

theorem occupied_snoc_idle (h : c.stage.chargedTo = none) :
    occupied weight ref (sends ++ [c]) = occupied weight ref sends := by
  simp [occupied, SendCall.charge, h]

theorem occupied_restage (hc : sends[call]? = some c)
    (h : stage.chargedTo = c.stage.chargedTo) :
    occupied weight ref (sends.modify call fun c => { c with stage := stage }) =
      occupied weight ref sends := by
  have hsum := occupied_setStage weight ref stage hc
  simp only [SendCall.charge, h] at hsum
  exact Nat.add_right_cancel hsum

theorem occupied_charged {source : SessionRef} (hc : sends[call]? = some c)
    (hidle : c.stage.chargedTo = none) (hcharged : stage.chargedTo = some source) :
    occupied weight ref (sends.modify call fun c => { c with stage := stage }) =
      occupied weight ref sends + if source = ref then weight c.payload else 0 := by
  have hsum := occupied_setStage weight ref stage hc
  simpa [SendCall.charge, hidle, hcharged] using hsum

theorem occupied_released (weight : Bytes → Nat) (ref : SessionRef)
    (hc : sends[call]? = some c) (hidle : stage.chargedTo = none) :
    occupied weight ref (sends.modify call fun c => { c with stage := stage }) +
      c.charge weight ref = occupied weight ref sends := by
  have hsum := occupied_setStage weight ref stage hc
  simpa [SendCall.charge, hidle] using hsum

end Occupied

/-- The counters are those of the calls that occupy the session's quota, and within
the limits. -/
structure QuotaOk (config : Config) (sends : List SendCall) (s : SessionState) : Prop where
  frames : s.frames.toNat = usedFrames s.ref sends
  bytes : s.bytes.toNat = usedBytes s.ref sends
  frames_le : s.frames ≤ config.maxFramesPerSession
  bytes_le : s.bytes ≤ config.maxBytesPerSession

def QuotaCounted (w : System) : Prop :=
  ∀ id s, w.hub.sessions.get? id = some s → QuotaOk w.hub.config.toConfig w.sends s

/-- A call that fails in this event gives back exactly what it occupied. -/
def FailureRestores (w : System) (e : Event) : Prop :=
  ∀ (call : Nat) c' err, (w.step e).sends[call]? = some c' → c'.stage = .failed err →
    w.sends[call]? ≠ some c' →
    ∀ id s', (w.step e).hub.sessions.get? id = some s' →
      ∃ s, w.hub.sessions.get? id = some s ∧ s'.ref = s.ref ∧
        s.frames.toNat = s'.frames.toNat +
          (w.sends[call]?.map (SendCall.charge (fun _ => 1) s.ref)).getD 0 ∧
        s.bytes.toNat = s'.bytes.toNat +
          (w.sends[call]?.map (SendCall.charge List.length s.ref)).getD 0

def QuotaKept (w : System) (e : Event) : Prop :=
  (w.step e).QuotaCounted ∧ FailureRestores w e

/-- A send that nothing stands against, the destination's inbox included, has room
for its sums below 2^64. -/
def QuotaGuard (w : System) (e : Event) : Prop :=
  ∀ call c state target, e = .sendLocked call none → w.sends[call]? = some c →
    c.stage = .entered →
    w.hub.Admits c.source c.routeID c.payload c.now c.delivery state target →
    (∀ destination, w.hub.sessions.get? target.sessionID = some destination →
      destination.inbox.items.length < destination.inbox.capacity) →
    state.frames.toNat + 1 < 2 ^ 64 ∧ state.bytes.toNat + c.payload.length < 2 ^ 64

theorem quotaCounted_start (config : ValidConfig) : (start config).QuotaCounted := by
  intro id s h
  simp [start, Hub.start] at h

theorem QuotaOk.of_same {config : Config} {sends sends' : List SendCall}
    {s s' : SessionState} (h : QuotaOk config sends s) (href : s'.ref = s.ref)
    (hframes : s'.frames = s.frames) (hbytes : s'.bytes = s.bytes)
    (hsends : ∀ weight, occupied weight s.ref sends' = occupied weight s.ref sends) :
    QuotaOk config sends' s' where
  frames := by rw [hframes, href, usedFrames, hsends, h.frames, usedFrames]
  bytes := by rw [hbytes, href, usedBytes, hsends, h.bytes, usedBytes]
  frames_le := hframes ▸ h.frames_le
  bytes_le := hbytes ▸ h.bytes_le

/-- What an accepted send does to the counters and the calls. -/
structure Charged (w w' : System) (call : Nat) (c : SendCall) (state : SessionState) :
    Prop where
  found : w.sends[call]? = some c
  entered : c.stage = .entered
  source : w.hub.sessions.get? c.source = some state
  quota : state.overQuota w.hub.config.toConfig c.payload.length = false
  config : w'.hub.config = w.hub.config
  sends : ∃ stage, stage.chargedTo = some state.ref ∧
    w'.sends = w.sends.modify call fun c => { c with stage := stage }
  charged : ∃ s', w'.hub.sessions.get? c.source = some s'
  session : ∀ id s', w'.hub.sessions.get? id = some s' →
    ∃ s, w.hub.sessions.get? id = some s ∧ s'.ref = s.ref ∧
      ((id = c.source ∧ s'.frames = (s.charge c.payload.length).frames ∧
        s'.bytes = (s.charge c.payload.length).bytes) ∨
      (id ≠ c.source ∧ s'.frames = s.frames ∧ s'.bytes = s.bytes))

theorem Charged.occupied {w w' : System} {call : Nat} {c : SendCall} {state : SessionState}
    (h : Charged w w' call c state) (weight : Bytes → Nat) (ref : SessionRef) :
    occupied weight ref w'.sends =
      occupied weight ref w.sends + if state.ref = ref then weight c.payload else 0 := by
  obtain ⟨stage, hcharged, hsends⟩ := h.sends
  rw [hsends]
  refine occupied_charged h.found ?_ hcharged
  rw [h.entered]
  rfl

theorem Charged.counted {w w' : System} {call : Nat} {c : SendCall} {state : SessionState}
    (h : Charged w w' call c state) (hi : w.hub.Invariant) (hcount : w.QuotaCounted)
    (hframes : state.frames.toNat + 1 < 2 ^ 64)
    (hbytes : state.bytes.toNat + c.payload.length < 2 ^ 64) : w'.QuotaCounted := by
  intro id s' hs'
  obtain ⟨s, hs, href, ⟨rfl, hf, hb⟩ | ⟨hne, hf, hb⟩⟩ := h.session id s' hs'
  · have hsame := h.source
    rw [hs] at hsame
    cases hsame
    have hok := hcount _ _ hs
    obtain ⟨hfle, hble⟩ := SessionState.overQuota_eq_false_iff.mp h.quota
    refine ⟨?_, ?_, ?_, ?_⟩
    · rw [hf, SessionState.charge_frames_toNat hframes, hok.frames, href, usedFrames,
        usedFrames, h.occupied, if_pos rfl]
    · rw [hb, SessionState.charge_bytes_toNat hbytes, hok.bytes, href, usedBytes, usedBytes,
        h.occupied, if_pos rfl]
    · rw [hf, h.config]
      exact hfle
    · rw [hb, h.config]
      exact hble
  · have hother : state.ref ≠ s.ref := fun hsame =>
      hne (hi.ref_unique _ _ _ _ hs h.source hsame.symm)
    rw [h.config]
    refine (hcount id s hs).of_same href hf hb ?_
    intro weight
    rw [h.occupied, if_neg hother, Nat.add_zero]

theorem Charged.room {w w' : System} {call : Nat} {c : SendCall} {state : SessionState}
    (h : Charged w w' call c state) (hcount : w.QuotaCounted) (hcount' : w'.QuotaCounted) :
    state.frames.toNat + 1 < 2 ^ 64 ∧ state.bytes.toNat + c.payload.length < 2 ^ 64 := by
  obtain ⟨s', hs'⟩ := h.charged
  obtain ⟨s, hs, href, ⟨_, hf, hb⟩ | ⟨hne, _⟩⟩ := h.session _ _ hs'
  · have hsame := h.source
    rw [hs] at hsame
    cases hsame
    have hok := hcount _ _ hs
    have hok' := hcount' _ _ hs'
    have hframes := hok'.frames
    have hbytes := hok'.bytes
    rw [href, usedFrames, h.occupied, if_pos rfl] at hframes
    rw [href, usedBytes, h.occupied, if_pos rfl] at hbytes
    refine ⟨?_, ?_⟩
    · rw [hok.frames, usedFrames, ← hframes]
      exact s'.frames.toNat_lt
    · rw [hok.bytes, usedBytes, ← hbytes]
      exact s'.bytes.toNat_lt
  · exact absurd rfl hne

theorem charged_sent {w : System} {call : Nat} {c : SendCall} {state : SessionState}
    {target : RouteEndpoint} {inbox : BoundedQueue Frame} (entries : List HistoryEntry)
    (hcall : w.sends[call]? = some c) (hstage : c.stage = .entered)
    (hadmits : w.hub.Admits c.source c.routeID c.payload c.now c.delivery state target) :
    Charged w
      (({ w with
        hub := w.hub.settleLocal c.source target.sessionID inbox
          ⟨c.routeID, state.peerID, c.payload⟩ c.delivery }.setSend call
            (.sent state.ref)).record entries) call c state where
  found := hcall
  entered := hstage
  source := hadmits.session
  quota := hadmits.quota
  config := rfl
  sends := ⟨_, rfl, rfl⟩
  charged := by
    apply Option.isSome_iff_exists.mp
    have hmap := congrArg Option.isSome (map_ref_settleLocal w.hub c.source target.sessionID
      inbox ⟨c.routeID, state.peerID, c.payload⟩ c.delivery c.source)
    rw [Option.isSome_map, Option.isSome_map, hadmits.session] at hmap
    exact hmap
  session := by
    intro id s' h
    obtain ⟨s, s₁, hs, htarget, hcase⟩ := settleLocal_eq_some h
    refine ⟨s, hs, ?_⟩
    have hs₁ : s₁.ref = s.ref ∧ s₁.frames = s.frames ∧ s₁.bytes = s.bytes := by
      rcases htarget with ⟨_, rfl⟩ | ⟨_, rfl⟩
      · exact ⟨rfl, rfl, rfl⟩
      · exact ⟨rfl, rfl, rfl⟩
    rcases hcase with ⟨rfl, rfl⟩ | ⟨hne, rfl⟩
    · exact ⟨by simp [hs₁.1], .inl ⟨rfl, by simp [hs₁.2.1], by simp [hs₁.2.2]⟩⟩
    · exact ⟨hs₁.1, .inr ⟨hne, hs₁.2⟩⟩

theorem charged_forwarding {w : System} {call : Nat} {c : SendCall} {state : SessionState}
    {target : RouteEndpoint} (forwarder : ForwarderRef) (serial : Nat)
    (hcall : w.sends[call]? = some c) (hstage : c.stage = .entered)
    (hadmits : w.hub.Admits c.source c.routeID c.payload c.now c.delivery state target) :
    Charged w
      ({ w with
        hub :=
          { w.hub with
            sessions := w.hub.sessions.insert c.source
              (state.charge c.payload.length) } }.setSend call
        (.forwarding ⟨c.source, state.ref, c.routeID, forwarder, c.payload,
          state.peerID, c.delivery⟩ serial)) call c state where
  found := hcall
  entered := hstage
  source := hadmits.session
  quota := hadmits.quota
  config := rfl
  sends := ⟨_, rfl, rfl⟩
  charged := ⟨_, Table.get?_insert_self _ _ _⟩
  session := by
    intro id s' h
    rcases Table.get?_insert_eq_some h with ⟨rfl, rfl⟩ | ⟨hne, hs⟩
    · exact ⟨state, hadmits.session, rfl, .inl ⟨rfl, rfl, rfl⟩⟩
    · exact ⟨s', hs, rfl, .inr ⟨hne, rfl, rfl⟩⟩

theorem charged_of_admits {w : System} (hi : w.hub.Invariant) {call : Nat} {c : SendCall}
    {state : SessionState} {target : RouteEndpoint} (hcall : w.sends[call]? = some c)
    (hstage : c.stage = .entered)
    (hadmits : w.hub.Admits c.source c.routeID c.payload c.now c.delivery state target)
    (hspace : ∀ destination, w.hub.sessions.get? target.sessionID = some destination →
      destination.inbox.items.length < destination.inbox.capacity) :
    Charged w (w.step (.sendLocked call none)) call c state := by
  obtain ⟨route, hroute, hpeer, _⟩ := hadmits.route
  have hend := Hub.target_of_peer (hi.route _ _ hroute) hpeer
  rcases hend with ⟨hlocal, hattached⟩ | ⟨hremote, hforwarder⟩
  · obtain ⟨destination, hdestination⟩ := Option.isSome_iff_exists.mp hattached
    obtain ⟨inbox, hpush⟩ := Option.isSome_iff_exists.mp
      (BoundedQueue.push?_isSome_iff.mpr (hspace destination hdestination))
    have hvalue := hadmits.enqueued hlocal hdestination
      (hi.session _ _ hdestination).not_done hpush
    simp only [step, sendLocked, hcall, hstage, hvalue]
    exact charged_sent _ hcall hstage hadmits
  · obtain ⟨forwarder, hforwarder⟩ := Option.isSome_iff_exists.mp hforwarder
    have hvalue := hadmits.forwarding hremote hforwarder
    simp only [step, sendLocked, hcall, hstage, hvalue]
    exact charged_forwarding _ _ hcall hstage hadmits

theorem SendsKept.occupied {w w' : System} (h : SendsKept w w') (weight : Bytes → Nat)
    (ref : SessionRef) : occupied weight ref w'.sends = occupied weight ref w.sends := by
  cases h with
  | same hsends => rw [hsends]
  | entered hsends hcharged =>
    rw [hsends]
    exact occupied_snoc_idle hcharged
  | restaged hcall hcharged _ _ hsends =>
    rw [hsends]
    exact occupied_restage hcall hcharged

theorem space_of_push {hub : Hub} {target : SessionID} {destination : SessionState}
    (hdestination : hub.sessions.get? target = some destination) {frame : Frame}
    {inbox : BoundedQueue Frame} (hpush : destination.inbox.push? frame = some inbox)
    (d : SessionState) (hd : hub.sessions.get? target = some d) :
    d.inbox.items.length < d.inbox.capacity := by
  rw [hdestination] at hd
  cases hd
  apply BoundedQueue.push?_isSome_iff.mp
  rw [hpush]
  rfl

section Step

variable {w : System} {w' : System}

theorem counted_attached (hi : w.Invariant) (hcount : w.QuotaCounted)
    {id : SessionID} {state : SessionState} (href : state.ref = w.hub.refs)
    (hframes : state.frames = 0) (hbytes : state.bytes = 0)
    (hsessions : w'.hub.sessions = w.hub.sessions.insert id state)
    (hconfig : w'.hub.config = w.hub.config) (hsends : w'.sends = w.sends) :
    w'.QuotaCounted := by
  -- No call occupies an object that did not exist.
  have hzero : ∀ weight, occupied weight w.hub.refs w.sends = 0 := by
    intro weight
    apply occupied_eq_zero
    intro c hc hcharged
    obtain ⟨call, hcall⟩ := List.mem_iff_getElem?.mp hc
    exact absurd ((hi.call call c hcall).charged _ hcharged) (Nat.lt_irrefl _)
  intro id' s' hs'
  rw [hsessions] at hs'
  rw [hconfig, hsends]
  rcases Table.get?_insert_eq_some hs' with ⟨_, rfl⟩ | ⟨_, hs⟩
  · refine ⟨?_, ?_, ?_, ?_⟩
    · rw [hframes, href, usedFrames, hzero]
      rfl
    · rw [hbytes, href, usedBytes, hzero]
      rfl
    · rw [hframes]
      exact UInt64.zero_le
    · rw [hbytes]
      exact UInt64.zero_le
  · exact hcount id' s' hs

theorem counted_completed (hcount : w.QuotaCounted) {call : Nat} {c : SendCall}
    {pending : PendingForward} {serial : Nat} (hcall : w.sends[call]? = some c)
    (hstage : c.stage = .answered pending serial none) (entries : List HistoryEntry) :
    (({ w with
      hub := (w.hub.rememberForwarded pending).countForwarded
        pending.payload.length }.setSend call (.sent pending.sourceRef)).record
      entries).QuotaCounted := by
  intro id s' h
  have hconfig : ((w.hub.rememberForwarded pending).countForwarded
      pending.payload.length).config = w.hub.config := (rememberForwarded_frame w.hub pending).1
  have hsends : ∀ weight ref, occupied weight ref
      (w.sends.modify call fun c => { c with stage := .sent pending.sourceRef }) =
        occupied weight ref w.sends :=
    fun weight ref => occupied_restage hcall (by rw [hstage]; rfl)
  obtain ⟨s, hs, ⟨_, _, rfl⟩ | ⟨_, rfl⟩⟩ := rememberForwarded_eq_some h
  · simp only [record_hub, setSend_hub, hconfig]
    exact (hcount id s hs).of_same (by simp) (by simp) (by simp) fun weight => hsends weight _
  · simp only [record_hub, setSend_hub, hconfig]
    exact (hcount id _ hs).of_same rfl rfl rfl fun weight => hsends weight _

theorem counted_rolledBack (hi : w.Invariant) (hcount : w.QuotaCounted)
    {call : Nat} {c : SendCall} {pending : PendingForward} {serial : Nat} {err err' : Err}
    (hcall : w.sends[call]? = some c) (hstage : c.stage = .answered pending serial (some err))
    (hsessions : w'.hub.sessions =
      (w.hub.rollbackUsageLocked pending.source pending.sourceRef
        pending.payload.length).sessions)
    (hconfig : w'.hub.config = w.hub.config)
    (hsends : w'.sends = w.sends.modify call fun c => { c with stage := .failed err' }) :
    w'.QuotaCounted := by
  obtain ⟨_, _, hpayload, _⟩ := (hi.call _ _ hcall).ticket pending serial (by rw [hstage]; rfl)
  have hreleased : ∀ weight ref, occupied weight ref w'.sends + c.charge weight ref =
      occupied weight ref w.sends := by
    intro weight ref
    rw [hsends]
    exact occupied_released weight ref hcall rfl
  have hcharge : ∀ weight ref, c.charge weight ref =
      if pending.sourceRef = ref then weight c.payload else 0 := by
    intro weight ref
    simp [SendCall.charge, hstage, SendStage.chargedTo]
  intro id s' hs'
  rw [hsessions] at hs'
  rw [hconfig]
  obtain ⟨s, hs, ⟨_, href, rfl⟩ | ⟨hother, rfl⟩⟩ := rollbackUsageLocked_eq_some hs'
  · have hok := hcount id s hs
    have hf := hreleased (fun _ => 1) s.ref
    have hb := hreleased List.length s.ref
    rw [hcharge, if_pos href.symm] at hf hb
    have hframes := hok.frames
    have hbytes := hok.bytes
    rw [usedFrames, ← hf] at hframes
    rw [usedBytes, ← hb] at hbytes
    have hdown := SessionState.uncharge_frames_toNat s pending.payload.length (by omega)
    have hdownBytes := SessionState.uncharge_bytes_toNat s pending.payload.length
      (by rw [hpayload]; omega)
    rw [hpayload] at hdownBytes
    refine ⟨?_, ?_, ?_, ?_⟩
    · rw [SessionState.uncharge_ref, usedFrames]
      omega
    · rw [SessionState.uncharge_ref, usedBytes, hpayload]
      omega
    · refine UInt64.le_trans (UInt64.le_iff_toNat_le.mpr ?_) hok.frames_le
      omega
    · refine UInt64.le_trans (UInt64.le_iff_toNat_le.mpr ?_) hok.bytes_le
      rw [hpayload]
      omega
  · refine (hcount id _ hs).of_same rfl rfl rfl ?_
    intro weight
    have hsum := hreleased weight s'.ref
    have hne : pending.sourceRef ≠ s'.ref := by
      intro href
      exact hother ⟨hi.pending_source hcall (by rw [hstage]; rfl) hs href.symm, href.symm⟩
    rw [hcharge, if_neg hne] at hsum
    exact hsum

theorem QuotaCounted.insert (hcount : w.QuotaCounted) {id : SessionID}
    {state state' : SessionState} (hstate : w.hub.sessions.get? id = some state)
    (hsessions : w'.hub.sessions = w.hub.sessions.insert id state')
    (href : state'.ref = state.ref) (hframes : state'.frames = state.frames)
    (hbytes : state'.bytes = state.bytes) (hconfig : w'.hub.config = w.hub.config)
    (hsends : w'.sends = w.sends) : w'.QuotaCounted := by
  intro id' s' hs'
  rw [hsessions] at hs'
  rw [hconfig, hsends]
  rcases Table.get?_insert_eq_some hs' with ⟨_, rfl⟩ | ⟨_, hs⟩
  · exact (hcount id state hstate).of_same href hframes hbytes fun _ => rfl
  · exact hcount id' s' hs

theorem step_counted (hi : w.Invariant) (hcount : w.QuotaCounted) {e : Event}
    (hstep : SessionsStep w e w') (hguard : QuotaGuard w e) : w'.QuotaCounted := by
  cases hstep with
  | kept hkept _ _ _ hsends =>
    intro id s' hs'
    obtain ⟨s, hs, heq, _⟩ := hkept.kept id s' hs'
    rw [hkept.config]
    exact (hcount id s hs).of_same (by rw [heq]) (by rw [heq]) (by rw [heq])
      fun weight => hsends.occupied weight s.ref
  | attached id => exact counted_attached hi hcount rfl rfl rfl rfl rfl rfl
  | sent hcall hstage hadmits hdestination hpush hevent =>
    obtain ⟨hframes, hbytes⟩ := hguard _ _ _ _ hevent hcall hstage hadmits
      (space_of_push hdestination hpush)
    exact (charged_sent _ hcall hstage hadmits).counted hi.hub hcount hframes hbytes
  | forwarding hcall hstage hadmits hremote _ hevent =>
    obtain ⟨hframes, hbytes⟩ := hguard _ _ _ _ hevent hcall hstage hadmits (by
      intro d hd
      exact absurd hremote (hi.hub.session _ _ hd).id_ne)
    exact (charged_forwarding _ _ hcall hstage hadmits).counted hi.hub hcount hframes hbytes
  | completed hcall hstage => exact counted_completed hcount hcall hstage _
  | rolledBack hcall hstage hsessions hconfig _ _ _ _ _ hsends =>
    exact counted_rolledBack hi hcount hcall hstage hsessions hconfig hsends
  | delivered hdestination => exact hcount.insert hdestination rfl rfl rfl rfl rfl rfl
  | took _ _ hstate => exact hcount.insert hstate rfl rfl rfl rfl rfl rfl

/-- The event in which a call fails adds no session, and takes what the call occupied
off the sums. -/
structure Failing (w w' : System) (call : Nat) : Prop where
  session : ∀ id s', w'.hub.sessions.get? id = some s' →
    ∃ s, w.hub.sessions.get? id = some s ∧ s'.ref = s.ref
  occupied : ∀ weight ref, occupied weight ref w.sends = occupied weight ref w'.sends +
    (w.sends[call]?.map (SendCall.charge weight ref)).getD 0

theorem failing_restaged {call : Nat} {c : SendCall} {err : Err}
    (hsession : ∀ id s', w'.hub.sessions.get? id = some s' →
      ∃ s, w.hub.sessions.get? id = some s ∧ s'.ref = s.ref)
    (hcall : w.sends[call]? = some c)
    (hsends : w'.sends = w.sends.modify call fun c => { c with stage := .failed err }) :
    Failing w w' call where
  session := hsession
  occupied := by
    intro weight ref
    rw [hsends, hcall]
    exact (occupied_released weight ref hcall rfl).symm

theorem step_failing {e : Event} (hstep : SessionsStep w e w') {call' : Nat}
    {c' : SendCall} {err : Err} (hc' : w'.sends[call']? = some c')
    (hfailed : c'.stage = .failed err) (hchanged : w.sends[call']? ≠ some c') :
    Failing w w' call' := by
  cases hstep with
  | kept hkept hhandles _ _ hsends =>
    have hsession : ∀ id s', w'.hub.sessions.get? id = some s' →
        ∃ s, w.hub.sessions.get? id = some s ∧ s'.ref = s.ref :=
      (SameObjects.of_kept hkept hhandles).kept
    cases hsends with
    | same hsends => exact absurd (hsends ▸ hc') hchanged
    | entered hsends hcharged =>
      refine ⟨hsession, ?_⟩
      intro weight ref
      rcases Nat.lt_or_ge call' w.sends.length with hlt | hge
      · rw [hsends, List.getElem?_append_left hlt] at hc'
        exact absurd hc' hchanged
      · rw [hsends, occupied_snoc_idle hcharged, List.getElem?_eq_none hge]
        rfl
    | restaged hcall _ _ _ hsends =>
      obtain ⟨rfl, rfl⟩ := restaged_call hcall (hsends ▸ hc') hchanged
      obtain rfl : _ = SendStage.failed err := hfailed
      exact failing_restaged hsession hcall hsends
  | attached => exact absurd hc' hchanged
  | sent hcall =>
    obtain ⟨rfl, rfl⟩ := restaged_call hcall hc' hchanged
    cases hfailed
  | forwarding hcall =>
    obtain ⟨rfl, rfl⟩ := restaged_call hcall hc' hchanged
    cases hfailed
  | completed hcall =>
    obtain ⟨rfl, rfl⟩ := restaged_call hcall hc' hchanged
    cases hfailed
  | rolledBack hcall _ hsessions _ _ _ _ _ _ hsends =>
    obtain ⟨rfl, rfl⟩ := restaged_call hcall (hsends ▸ hc') hchanged
    refine failing_restaged ?_ hcall hsends
    intro id s' h
    rw [hsessions] at h
    obtain ⟨s, hs, ⟨_, _, rfl⟩ | ⟨_, rfl⟩⟩ := rollbackUsageLocked_eq_some h
    · exact ⟨s, hs, rfl⟩
    · exact ⟨_, hs, rfl⟩
  | delivered => exact absurd hc' hchanged
  | took => exact absurd hc' hchanged

theorem failureRestores {e : Event} (hcount : w.QuotaCounted)
    (hcount' : (w.step e).QuotaCounted) : FailureRestores w e := by
  intro call c' err hc' hfailed hchanged id s' hs'
  have hfailing := step_failing (step_sessions w e) hc' hfailed hchanged
  obtain ⟨s, hs, href⟩ := hfailing.session id s' hs'
  have hok := hcount id s hs
  have hok' := hcount' id s' hs'
  refine ⟨s, hs, href, ?_, ?_⟩
  · rw [hok.frames, hok'.frames, href]
    exact hfailing.occupied _ _
  · rw [hok.bytes, hok'.bytes, href]
    exact hfailing.occupied _ _

end Step

theorem quotaKept_iff {w : System} (hi : w.Invariant) (hcount : w.QuotaCounted) (e : Event) :
    QuotaKept w e ↔ QuotaGuard w e := by
  constructor
  · rintro ⟨hcount', _⟩ call c state target rfl hcall hstage hadmits hspace
    exact (charged_of_admits hi.hub hcall hstage hadmits hspace).room hcount hcount'
  · intro hguard
    have hcount' := step_counted hi hcount (step_sessions w e) hguard
    exact ⟨hcount', failureRestores hcount hcount'⟩

/-- In a run, the counters of every session are those of its sends throughout exactly
when no accepted send takes a sum past 2^64. -/
theorem quota_kept_iff (config : ValidConfig) (events : List Event) :
    Trace.Meets step QuotaKept (start config) events ↔
      Trace.Meets step QuotaGuard (start config) events :=
  Trace.meets_congr_of_meets (P := fun w => w.Invariant ∧ w.QuotaCounted)
    (fun w e hi hguard =>
      ⟨step_invariant hi.1 e, step_counted hi.1 hi.2 (step_sessions w e) hguard⟩)
    (fun _ e hi => quotaKept_iff hi.1 hi.2 e)
    ⟨invariant_start config, quotaCounted_start config⟩ events

section Limits

/-- A call that is still to take the lock carries a payload of an allowed size. -/
def SizesOk (w : System) : Prop :=
  ∀ (call : Nat) c, w.sends[call]? = some c → c.stage = .entered →
    (c.payload.length : Int) ≤ w.hub.config.maxFrameBytes

theorem step_sizes {w : System} (hsizes : w.SizesOk) (e : Event) : (w.step e).SizesOk := by
  have hconfig := step_config w e
  have hstep := step_sessions w e
  generalize w.step e = w' at hconfig hstep ⊢
  intro call' c' hc' hentered
  rw [hconfig]
  have hmoved : ∀ {call : Nat} {stage : SendStage}, stage ≠ .entered →
      (w.sends.modify call fun c => { c with stage := stage })[call']? = some c' →
      (c'.payload.length : Int) ≤ w.hub.config.maxFrameBytes := by
    intro call stage hstage h
    obtain ⟨c, hc, ⟨_, rfl⟩ | ⟨_, rfl⟩⟩ := of_getElem?_modify h
    · exact absurd hentered hstage
    · exact hsizes call' _ hc hentered
  cases hstep with
  | kept _ _ _ _ hsends =>
    cases hsends with
    | same hsends => exact hsizes call' c' (hsends ▸ hc') hentered
    | entered hsends _ hsize =>
      rw [hsends] at hc'
      rcases Nat.lt_or_ge call' w.sends.length with hlt | hge
      · rw [List.getElem?_append_left hlt] at hc'
        exact hsizes call' c' hc' hentered
      · rw [List.getElem?_append_right hge] at hc'
        obtain rfl := List.mem_singleton.mp (List.mem_of_getElem? hc')
        exact hsize hentered
    | restaged _ _ _ hstage hsends => exact hmoved hstage (hsends ▸ hc')
  | attached => exact hsizes call' c' hc' hentered
  | sent => exact hmoved (by rintro ⟨⟩) hc'
  | forwarding => exact hmoved (by rintro ⟨⟩) hc'
  | completed => exact hmoved (by rintro ⟨⟩) hc'
  | rolledBack _ _ _ _ _ _ _ _ _ hsends => exact hmoved (by rintro ⟨⟩) (hsends ▸ hc')
  | delivered => exact hsizes call' c' hc' hentered
  | took => exact hsizes call' c' hc' hentered

variable {config : ValidConfig}

theorem quotaGuard_of_limits {w : System} (hframes : config.maxFramesPerSession.toNat + 1 < 2 ^ 64)
    (hbytes : (config.maxBytesPerSession.toNat : Int) + config.maxFrameBytes < 2 ^ 64)
    (hconfig : w.hub.config = config) (hcount : w.QuotaCounted) (hsizes : w.SizesOk)
    (e : Event) : QuotaGuard w e := by
  intro call c state target _ hcall hstage hadmits _
  have hok := hcount _ _ hadmits.session
  have hsize := hsizes call c hcall hstage
  have hf := UInt64.le_iff_toNat_le.mp hok.frames_le
  have hb := UInt64.le_iff_toNat_le.mp hok.bytes_le
  rw [hconfig] at hf hb hsize
  exact ⟨by omega, by omega⟩

/-- Under limits away from 2^64 no run at all takes the counters off the sends. -/
theorem quota_kept_of_limits (hframes : config.maxFramesPerSession.toNat + 1 < 2 ^ 64)
    (hbytes : (config.maxBytesPerSession.toNat : Int) + config.maxFrameBytes < 2 ^ 64)
    (events : List Event) : Trace.Meets step QuotaKept (start config) events := by
  have hguard : ∀ w : System, w.hub.config = config → w.QuotaCounted → w.SizesOk →
      ∀ e, QuotaGuard w e :=
    fun w => quotaGuard_of_limits hframes hbytes
  have hall := Trace.invariant (s := start config)
    (P := fun w : System => (w.Invariant ∧ w.QuotaCounted) ∧ w.hub.config = config ∧
      w.SizesOk)
    (by
      rintro w e ⟨⟨hi, hcount⟩, hconfig, hsizes⟩
      exact ⟨⟨step_invariant hi e,
        step_counted hi hcount (step_sessions w e) (hguard w hconfig hcount hsizes e)⟩,
        (step_config w e).trans hconfig, step_sizes hsizes e⟩)
    ⟨⟨invariant_start config, quotaCounted_start config⟩, rfl, by
      intro call c h
      simp [start] at h⟩
  apply (Trace.meets_iff_prefixes _ _ _ _).mpr
  intro xs e ys _
  obtain ⟨⟨hi, hcount⟩, hconfig, hsizes⟩ := hall xs
  exact (quotaKept_iff hi hcount e).mpr (hguard _ hconfig hcount hsizes e)

theorem quota_kept_defaultConfig :
    Trace.Meets step QuotaKept (start defaultValidConfig)
      [.attach "a", .attach "b", .pair "r" "a" "b", .send "a" "r" 0 none 0 none,
        .sendLocked 0 none] :=
  quota_kept_of_limits (by decide) (by decide) _

end Limits

section Flood

def floodConfig : ValidConfig :=
  ⟨{ defaultConfig with
      maxFramesPerSession := 18446744073709551615
      maxBytesPerSession := 18446744073709551615 }, by decide⟩

def floodSetup : List Event :=
  [.write 0 [0], .newForwarder (.wss .fresh), .attach "a",
    .announceFederatedPresence "p" (some 0) 0, .rendezvous "a" "r" "p" 0]

def floodRound (n : Nat) : List Event :=
  [.send "a" "r" 0 none 0 none, .sendLocked n none, .forwardReturns n ⟨none, none⟩,
    .sendCompleted n]

def floodCall (stage : SendStage) : SendCall := ⟨"a", "r", none, 0, [0], stage⟩

/-- The system in or between two rounds: `n` sends are done, and `tail` is the one
under way. -/
structure Flooded (n : Nat) (tail : List SendCall) (w : System) : Prop where
  opened : w.hub.closed = false
  config : w.hub.config = floodConfig
  done : w.hub.done = []
  session : ∃ s, w.hub.sessions.get? "a" = some s ∧ s.ref = 0
  route : w.hub.routes.get? "r" = some ⟨⟨"a", none, ""⟩, ⟨"", some 0, "p"⟩⟩
  federated : w.hub.federatedPresence.get? "p" = some ⟨some 0, 30000000000⟩
  buffer : w.buffers.get? 0 = some [0]
  forwarder : ∃ client, w.forwarders = [.wss ⟨false, client⟩] ∧
    (client = none ∨ client = some "r")
  sends : w.sends = List.replicate n (floodCall (.sent 0)) ++ tail

theorem flooded_zero : Flooded 0 [] (Trace.run step (start floodConfig) floodSetup) where
  opened := by decide
  config := by rfl
  done := by decide
  session := ⟨_, rfl, rfl⟩
  route := by decide
  federated := by decide
  buffer := by decide
  forwarder := ⟨none, by decide, .inl rfl⟩
  sends := by decide

section Round

variable {n : Nat} {tail : List SendCall} {w : System} {stage : SendStage}

theorem Flooded.admits (h : Flooded n tail w) {s : SessionState}
    (hs : w.hub.sessions.get? "a" = some s) :
    w.hub.Admits "a" "r" [0] 0 none s ⟨"", some 0, "p"⟩ where
  opened := h.opened
  session := hs
  attached := by simp [Hub.isClosed, h.done]
  route := by
    refine ⟨_, h.route, rfl, ?_⟩
    simp [Hub.routeLiveLocked, Hub.endpointLiveLocked, hs, h.federated, Hub.isClosed, h.done]
  fresh := rfl
  quota := by
    rw [SessionState.overQuota_eq_false_iff, h.config]
    exact ⟨UInt64.le_iff_toNat_le.mpr (Nat.le_of_lt_succ (UInt64.toNat_lt _)),
      UInt64.le_iff_toNat_le.mpr (Nat.le_of_lt_succ (UInt64.toNat_lt _))⟩

theorem Flooded.call (h : Flooded n [floodCall stage] w) :
    w.sends[n]? = some (floodCall stage) := by
  simp [h.sends]

theorem Flooded.setStage (h : Flooded n [floodCall stage] w) (stage' : SendStage) :
    (w.sends.modify n fun c => { c with stage := stage' }) =
      List.replicate n (floodCall (.sent 0)) ++ [floodCall stage'] := by
  have hmodify := modify_concat (List.replicate n (floodCall (.sent 0))) (floodCall stage)
    fun c => { c with stage := stage' }
  rw [List.length_replicate] at hmodify
  rw [h.sends, hmodify]
  rfl

theorem Flooded.send (h : Flooded n [] w) :
    Flooded n [floodCall .entered] (w.step (.send "a" "r" 0 none 0 none)) where
  opened := h.opened
  config := h.config
  done := h.done
  session := h.session
  route := h.route
  federated := h.federated
  buffer := h.buffer
  forwarder := h.forwarder
  sends := by
    simp [step, System.send, h.sends, h.buffer, h.config, sendEntryError, floodConfig,
      defaultConfig, floodCall]

theorem Flooded.sendLocked (h : Flooded n [floodCall .entered] w) :
    ∃ senderPeerID serial, Flooded n
      [floodCall (.forwarding ⟨"a", 0, "r", 0, [0], senderPeerID, none⟩ serial)]
      (w.step (.sendLocked n none)) := by
  obtain ⟨s, hs, href⟩ := h.session
  have hvalue := (h.admits hs).forwarding (by rfl) (by rfl)
  refine ⟨s.peerID, (w.routeSerials.get? "r").getD 0, ?_⟩
  have hstep : w.step (.sendLocked n none) =
      { w with
        hub := { w.hub with sessions := w.hub.sessions.insert "a" (s.charge 1) } }.setSend n
        (.forwarding ⟨"a", 0, "r", 0, [0], s.peerID, none⟩
          ((w.routeSerials.get? "r").getD 0)) := by
    simp only [step, System.sendLocked, h.call]
    simp only [floodCall, hvalue, href]
    rfl
  rw [hstep]
  exact ⟨h.opened, h.config, h.done, ⟨_, Table.get?_insert_self _ _ _, href⟩, h.route,
    h.federated, h.buffer, h.forwarder, h.setStage _⟩

theorem Flooded.forwardReturns {senderPeerID : PeerID} {serial : Nat}
    (h : Flooded n [floodCall (.forwarding ⟨"a", 0, "r", 0, [0], senderPeerID, none⟩ serial)]
      w) :
    Flooded n
      [floodCall (.answered ⟨"a", 0, "r", 0, [0], senderPeerID, none⟩ serial none)]
      (w.step (.forwardReturns n ⟨none, none⟩)) := by
  obtain ⟨client, hforwarders, hclient⟩ := h.forwarder
  have hforward : (FederatedWSSForwarder.mk false client).forward "r" ⟨none, none⟩ =
      (⟨false, some "r"⟩, none) := by
    rcases hclient with rfl | rfl
    · rfl
    · rfl
  have hstep : w.step (.forwardReturns n ⟨none, none⟩) =
      { w with forwarders := [.wss ⟨false, some "r"⟩] }.setSend n
        (.answered ⟨"a", 0, "r", 0, [0], senderPeerID, none⟩ serial none) := by
    simp only [step, System.forwardReturns, h.call]
    simp [floodCall, hforwarders, ForwarderObject.forward, hforward]
  rw [hstep]
  exact ⟨h.opened, h.config, h.done, h.session, h.route, h.federated, h.buffer,
    ⟨_, rfl, .inr rfl⟩, h.setStage _⟩

theorem Flooded.sendCompleted {senderPeerID : PeerID} {serial : Nat}
    (h : Flooded n
      [floodCall (.answered ⟨"a", 0, "r", 0, [0], senderPeerID, none⟩ serial none)] w) :
    Flooded (n + 1) [] (w.step (.sendCompleted n)) := by
  obtain ⟨s, hs, href⟩ := h.session
  have hremembered : w.hub.rememberForwarded ⟨"a", 0, "r", 0, [0], senderPeerID, none⟩ =
      { w.hub with sessions := w.hub.sessions.insert "a" s } := by
    simp [Hub.rememberForwarded, hs, href, SessionState.rememberDelivery]
  have hstep : w.step (.sendCompleted n) =
      ({ w with
        hub := { w.hub with sessions := w.hub.sessions.insert "a" s }.countForwarded 1 }.setSend
          n (.sent 0)).record [] := by
    simp only [step, System.sendCompleted, h.call]
    simp only [floodCall, Hub.forwardCompleted, hremembered]
    rfl
  rw [hstep]
  refine ⟨h.opened, h.config, h.done, ⟨s, Table.get?_insert_self _ _ _, href⟩, h.route,
    h.federated, h.buffer, h.forwarder, ?_⟩
  rw [List.append_nil, List.replicate_succ']
  exact h.setStage _

theorem Flooded.round (h : Flooded n [] w) :
    Flooded (n + 1) [] (Trace.run step w (floodRound n)) := by
  obtain ⟨senderPeerID, serial, hlocked⟩ := h.send.sendLocked
  exact hlocked.forwardReturns.sendCompleted

theorem flooded_rounds (n : Nat) :
    Flooded n [] (Trace.run step (start floodConfig)
      (floodSetup ++ (List.range n).flatMap floodRound)) := by
  rw [Trace.run_append]
  induction n with
  | zero => exact flooded_zero
  | succ n ih =>
    rw [List.range_succ, List.flatMap_append, Trace.run_append, List.flatMap_singleton]
    exact ih.round

theorem Flooded.lt_of_counted (h : Flooded n [] w) (hcount : w.QuotaCounted) :
    n < 2 ^ 64 := by
  obtain ⟨s, hs, href⟩ := h.session
  have hframes := (hcount _ s hs).frames
  have hused : usedFrames 0 w.sends = n := by
    simp [usedFrames, System.occupied, h.sends, SendCall.charge, floodCall,
      SendStage.chargedTo]
  rw [href, hused] at hframes
  rw [← hframes]
  exact s.frames.toNat_lt

end Round

/-- After 2^64 sends of one byte the counters of the session are back at zero. -/
theorem quota_wraps :
    ¬∀ (config : ValidConfig) (events : List Event),
      Trace.Meets step QuotaKept (start config) events := by
  intro h
  have hlt : ∀ n, n + 1 < 2 ^ 64 := by
    intro n
    have hrun := h floodConfig (floodSetup ++ (List.range (n + 1)).flatMap floodRound)
    have hevents : floodSetup ++ (List.range (n + 1)).flatMap floodRound =
        (floodSetup ++ (List.range n).flatMap floodRound ++
          [.send "a" "r" 0 none 0 none, .sendLocked n none,
            .forwardReturns n ⟨none, none⟩]) ++ [.sendCompleted n] := by
      rw [List.range_succ, List.flatMap_append, List.flatMap_singleton]
      simp [floodRound]
    have hflooded := flooded_rounds (n + 1)
    rw [hevents] at hrun hflooded
    rw [Trace.run_snoc] at hflooded
    exact hflooded.lt_of_counted ((Trace.meets_snoc _ _ _ _ _).mp hrun).2.1
  exact absurd (hlt (2 ^ 64 - 1)) (by decide)

end Flood

end System

end Branch.Relay
