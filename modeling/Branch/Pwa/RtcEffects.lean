import Branch.Pwa.RtcOwners
import Mathlib.Data.List.Perm.Subperm

/-!
What a browser is asked for on the connections of sessions: to take the answer to an offer, and to
add the candidates of the other side.
-/

namespace Branch.Pwa

open Branch.Core Branch.Lib

section Asks

inductive RTCAsk where
  | setRemoteDescription (session : Nat)
  | addIceCandidate (session : Nat) (key : String)
  deriving DecidableEq

def RTCAsk.session : RTCAsk → Nat
  | setRemoteDescription r => r
  | addIceCandidate r _ => r

/-- What the browser has been asked for while a call waits. An offer is applied to a connection
that is of no session yet. -/
def RTCCall.ask? : RTCCall → Option RTCAsk
  | applyingAnswer r _ _ _ => some (.setRemoteDescription r)
  | addingPending r key _ => some (.addIceCandidate r key)
  | addingCandidate r key _ => some (.addIceCandidate r key)
  | _ => none

def RTCCall.validating : RTCCall → Bool
  | validatingAnswer _ _ _ _ => true
  | _ => false

def RTCCall.applying : RTCCall → Bool
  | applyingAnswer _ _ _ _ => true
  | _ => false

def RTCCall.adding : RTCCall → Bool
  | addingPending _ _ _ => true
  | addingCandidate _ _ _ => true
  | _ => false

/-- The candidates of a session that the browser was asked to add. -/
def handed (asks : List RTCAsk) (r : Nat) : List String :=
  asks.filterMap fun ask =>
    match ask with
    | .addIceCandidate r' key => if r' = r then some key else none
    | .setRemoteDescription _ => none

namespace RTCSessionController

def waits (s : RTCSessionController) : List RTCAsk := s.calls.filterMap RTCCall.ask?

def askedAt (s : RTCSessionController) (i : Nat) : Option RTCAsk :=
  (s.calls[i]?).bind RTCCall.ask?

/-- What the call that an event moves then asks the browser for. -/
def asked (s : RTCSessionController) : RTCEvent → Option RTCAsk
  | .receive peerId signal now origin =>
    (s.receive peerId signal now origin).askedAt s.calls.length
  | .validated i created =>
    if (s.calls[i]?).any RTCCall.validating then (s.validated i created).askedAt i else none
  | .remoteApplied i ok =>
    if (s.calls[i]?).any RTCCall.applying then (s.remoteApplied i ok).askedAt i else none
  | .candidateAdded i ok =>
    if (s.calls[i]?).any RTCCall.adding then (s.candidateAdded i ok).askedAt i else none
  | _ => none

end RTCSessionController

structure WatchedController where
  controller : RTCSessionController
  asks : List RTCAsk

def WatchedController.step (w : WatchedController) (e : RTCEvent) : WatchedController where
  controller := w.controller.next e
  asks := w.asks ++ (w.controller.asked e).toList

end Asks

section Candidates

variable {asks : List RTCAsk} {ask : RTCAsk} {r : Nat} {key : String}

theorem mem_handed : key ∈ handed asks r ↔ .addIceCandidate r key ∈ asks := by
  rw [handed, List.mem_filterMap]
  constructor
  · rintro ⟨ask, hmem, hkey⟩
    cases ask with
    | setRemoteDescription r' => cases hkey
    | addIceCandidate r' key' =>
      dsimp only at hkey
      split at hkey
      · rename_i hr
        obtain rfl := Option.some.inj hkey
        exact hr ▸ hmem
      · cases hkey
  · exact fun hmem => ⟨_, hmem, if_pos rfl⟩

theorem count_handed (asks : List RTCAsk) (r : Nat) (key : String) :
    (handed asks r).count key = asks.count (.addIceCandidate r key) := by
  induction asks with
  | nil => rfl
  | cons ask asks ih =>
    rw [List.count_cons, ← ih]
    cases ask with
    | setRemoteDescription r' => exact (Nat.add_zero _).symm
    | addIceCandidate r' key' =>
      by_cases hr : r' = r
      · subst hr
        simp [handed, List.count_cons]
      · simp [handed, hr]

theorem handed_append_of_ne (h : ask.session ≠ r) : handed (asks ++ [ask]) r = handed asks r := by
  rw [handed, List.filterMap_append]
  cases ask with
  | setRemoteDescription r' => exact List.append_nil _
  | addIceCandidate r' key =>
    have hne : ¬ r' = r := h
    rw [List.filterMap_cons_none (by simp [hne]), List.filterMap_nil, List.append_nil]
    rfl

theorem handed_append_candidate (asks : List RTCAsk) (r : Nat) (key : String) :
    handed (asks ++ [.addIceCandidate r key]) r = handed asks r ++ [key] := by
  simp [handed, List.filterMap_append]

theorem handed_append_description (asks : List RTCAsk) (r r' : Nat) :
    handed (asks ++ [.setRemoteDescription r']) r = handed asks r := by
  rw [handed, List.filterMap_append]
  exact List.append_nil _

end Candidates

namespace RTCSessionController

section Waits

variable {s s' : RTCSessionController} {i : Nat} {call call' : RTCCall}

theorem waits_begin (s : RTCSessionController) (call : RTCCall) :
    (s.begin call).waits = s.waits ++ call.ask?.toList := by
  rw [waits, begin, List.filterMap_append]
  cases h : call.ask? with
  | none => rw [List.filterMap_cons_none h]; rfl
  | some ask => rw [List.filterMap_cons_some h]; rfl

theorem waits_split (hget : s.calls[i]? = some call) :
    ∃ before after, s.waits = before ++ call.ask?.toList ++ after ∧
      ∀ call', (s.resume i call').waits = before ++ call'.ask?.toList ++ after := by
  obtain ⟨hlt, hcall⟩ := List.getElem?_eq_some_iff.mp hget
  have hcons : ∀ (call : RTCCall) (calls : List RTCCall), (call :: calls).filterMap RTCCall.ask? =
      call.ask?.toList ++ calls.filterMap RTCCall.ask? := by
    intro call calls
    cases h : call.ask? with
    | none => rw [List.filterMap_cons_none h]; rfl
    | some ask => rw [List.filterMap_cons_some h]; rfl
  refine ⟨(s.calls.take i).filterMap RTCCall.ask?,
    (s.calls.drop (i + 1)).filterMap RTCCall.ask?, ?_, fun call' => ?_⟩
  · conv_lhs => rw [waits, ← List.take_append_drop i s.calls, List.drop_eq_getElem_cons hlt, hcall]
    rw [List.filterMap_append, hcons, List.append_assoc]
  · rw [waits, resume, List.set_eq_take_append_cons_drop, if_pos hlt, List.filterMap_append, hcons,
      List.append_assoc]

theorem waits_resume (hget : s.calls[i]? = some call) (hcall : call'.ask? = call.ask?) :
    (s.resume i call').waits = s.waits := by
  obtain ⟨before, after, hwaits, hresume⟩ := waits_split hget
  rw [hresume, hwaits, hcall]

theorem waits_resume_of_none {ask : RTCAsk} (hget : s.calls[i]? = some call)
    (hcall : call.ask? = none) (hcall' : call'.ask? = some ask) :
    (s.resume i call').waits.Perm (ask :: s.waits) := by
  obtain ⟨before, after, hwaits, hresume⟩ := waits_split hget
  rw [hresume, hwaits, hcall, hcall', Option.toList_none, List.append_nil, Option.toList_some,
    List.append_assoc]
  exact List.perm_middle

theorem waits_finish {ask : RTCAsk} (hget : s.calls[i]? = some call)
    (hcall : call.ask? = some ask) (result : RTCResult) :
    s.waits.Perm (ask :: (s.finish i result).waits) := by
  obtain ⟨before, after, hwaits, hresume⟩ := waits_split hget
  rw [finish, hresume, hwaits, hcall, Option.toList_some, List.append_assoc]
  change (before ++ ask :: after).Perm (ask :: (before ++ [] ++ after))
  rw [List.append_nil]
  exact List.perm_middle

theorem askedAt_begin {n : Nat} (hcalls : s.calls.length = n) (call : RTCCall) :
    (s.begin call).askedAt n = call.ask? := by
  rw [askedAt, begin, ← hcalls, List.getElem?_concat_length]
  rfl

theorem askedAt_resume (hget : s.calls[i]? = some call) (call' : RTCCall) :
    (s.resume i call').askedAt i = call'.ask? := by
  have hlt := (List.getElem?_eq_some_iff.mp hget).1
  rw [askedAt, resume, List.getElem?_set_self hlt]
  rfl

end Waits

section Quiet

variable {s s' s'' : RTCSessionController} {i r : Nat} {call call' : RTCCall}

def candidatesOf (session : RTCSession) :
    Option String × List String × List (String × RtcCandidate) :=
  (session.remoteDescriptionSHA256, session.receivedCandidates, session.pendingCandidates)

/-- Nothing is asked for, nothing that was asked for is done, and the candidates of sessions are as
they were. -/
structure Quiet (s s' : RTCSessionController) : Prop where
  stored : ∀ r : Nat, (s'.stored[r]?).map candidatesOf = (s.stored[r]?).map candidatesOf
  waits : s'.waits = s.waits

theorem Quiet.of_eq (hstored : s'.stored = s.stored) (hcalls : s'.calls = s.calls) :
    Quiet s s' where
  stored := fun r => by rw [hstored]
  waits := by rw [RTCSessionController.waits, hcalls]; rfl

theorem Quiet.refl (s : RTCSessionController) : Quiet s s := .of_eq rfl rfl

theorem Quiet.trans (h : Quiet s s') (h' : Quiet s' s'') : Quiet s s'' where
  stored := fun r => (h'.stored r).trans (h.stored r)
  waits := h'.waits.trans h.waits

theorem Quiet.begin (h : Quiet s s') (hcall : call.ask? = none) : Quiet s (s'.begin call) where
  stored := h.stored
  waits := by
    rw [waits_begin, hcall, h.waits]
    exact List.append_nil _

theorem Quiet.resume (h : Quiet s s') (hget : s'.calls[i]? = some call) (hcall : call.ask? = none)
    (hcall' : call'.ask? = none) : Quiet s (s'.resume i call') where
  stored := h.stored
  waits := (waits_resume hget (hcall'.trans hcall.symm)).trans h.waits

theorem Quiet.finish (h : Quiet s s') (hget : s'.calls[i]? = some call)
    (hcall : call.ask? = none) (result : RTCResult) : Quiet s (s'.finish i result) :=
  h.resume hget hcall rfl

theorem Quiet.update (h : Quiet s s') {f : RTCSession → RTCSession}
    (hf : ∀ session, candidatesOf (f session) = candidatesOf session) (r : Nat) :
    Quiet s (s'.update r f) where
  stored := by
    intro r'
    rw [← h.stored r']
    change ((s'.stored.modify r f)[r']?).map candidatesOf = _
    rw [List.getElem?_modify]
    cases s'.stored[r']? with
    | none => rfl
    | some session =>
      by_cases hr : r = r'
      · simp [hr, hf]
      · simp [hr]
  waits := h.waits

theorem Quiet.drop (h : Quiet s s') (peerId : String) : Quiet s (s'.drop peerId) :=
  h.trans (.of_eq (stored_drop s' peerId) (calls_drop s' peerId))

theorem Quiet.prune (h : Quiet s s') (now : Nat) : Quiet s (s'.prune now) := by
  have hfold : ∀ (peerIds : List String) {s' : RTCSessionController}, Quiet s s' →
      Quiet s (peerIds.foldl (dropExpired now) s') := by
    intro peerIds
    induction peerIds with
    | nil => exact id
    | cons peerId peerIds ih =>
      intro s' h
      refine ih ?_
      unfold dropExpired
      split
      · exact h.drop peerId
      · exact h
  exact hfold _ (h.trans (.of_eq rfl rfl))

theorem Quiet.makeRoom (h : Quiet s s') : Quiet s s'.makeRoom.1 := by
  rcases makeRoom_fst s' with heq | ⟨peerId, heq⟩
  · rw [heq]
    exact h
  · rw [heq]
    exact h.drop peerId

theorem quiet_reset (s : RTCSessionController) : Quiet s s.reset := by
  have hfold : ∀ (peerIds : List String) {s' : RTCSessionController}, Quiet s s' →
      Quiet s (peerIds.foldl closeSession s') := by
    intro peerIds
    induction peerIds with
    | nil => exact id
    | cons peerId peerIds ih =>
      exact fun h => ih (h.trans (.of_eq (stored_closeOf _ _) (calls_closeOf _ _)))
  exact (hfold _ (.refl s)).trans (.of_eq rfl rfl)

theorem quiet_start (s : RTCSessionController) (peerId : String) (now : Nat)
    (created : Option (Option RTCDataChannel)) : Quiet s (s.start peerId now created) := by
  have hprune := (Quiet.refl s).prune now
  rw [start_eq]
  split
  · unfold startConnection
    split
    · exact hprune.makeRoom.begin rfl
    · have hcreate : Quiet s ((s.prune now).makeRoom.1.createConnection peerId) :=
        hprune.makeRoom.trans (.of_eq rfl rfl)
      dsimp only
      split
      · exact hcreate.begin rfl
      · split
        · exact hcreate.begin rfl
        · have hclosed : Quiet s (((s.prune now).makeRoom.1.createConnection peerId).close
              (s.prune now).makeRoom.1.connections.length) := hcreate.trans (.of_eq rfl rfl)
          exact hclosed.begin rfl
  · exact hprune.begin rfl

theorem quiet_receiveCancel (h : Quiet s s') (peerId : String) (cancel : RtcCancel) :
    Quiet s (s'.receiveCancel peerId cancel) := by
  unfold receiveCancel
  split
  · exact h.begin rfl
  · split
    · exact h.begin rfl
    · exact (h.drop peerId).begin rfl

theorem quiet_acceptOffer (h : Quiet s s') (hget : s'.calls[i]? = some call)
    (hcall : call.ask? = none) (peerId : String) (offer : RtcOffer) (now : Nat)
    (created : Bool) : Quiet s (s'.acceptOffer i peerId offer now created) := by
  have hget' : s'.makeRoom.1.calls[i]? = some call := by rw [calls_makeRoom, hget]
  unfold acceptOffer
  dsimp only
  split
  · exact h.makeRoom.finish hget' hcall _
  · split
    · exact h.makeRoom.finish hget' hcall _
    · have hcreate : Quiet s (s'.makeRoom.1.createConnection peerId) :=
        h.makeRoom.trans (.of_eq rfl rfl)
      exact hcreate.resume hget' hcall rfl

theorem quiet_receiveOffer (hget : s.calls[i]? = some call) (hcall : call.ask? = none)
    (peerId : String) (offer : RtcOffer) (now : Nat) (created : Bool) :
    Quiet s (s.receiveOffer i peerId offer now created) := by
  have hrefl := Quiet.refl s
  unfold receiveOffer
  split
  · exact hrefl.finish hget hcall _
  · split
    · exact quiet_acceptOffer hrefl hget hcall peerId offer now created
    · split
      · split
        · exact hrefl.finish hget hcall _
        · exact quiet_acceptOffer (hrefl.drop peerId) (by rw [calls_drop, hget]) hcall peerId
            offer now created
      · split
        · exact hrefl.finish hget hcall _
        · exact hrefl.finish hget hcall _

theorem quiet_described (s : RTCSessionController) (i : Nat) (description : Option String) :
    Quiet s (s.described i description) := by
  unfold described
  split
  · rename_i hget
    split
    · exact (Quiet.refl s).resume hget rfl rfl
    · exact (Quiet.refl s).finish hget rfl _
  · exact Quiet.refl s

theorem quiet_hashed (s : RTCSessionController) (i : Nat) : Quiet s (s.hashed i) := by
  unfold hashed
  split
  · rename_i hget
    split
    · exact (Quiet.refl s).resume hget rfl rfl
    · exact (Quiet.refl s).finish hget rfl _
  · exact Quiet.refl s

theorem quiet_sent (s : RTCSessionController) (i : Nat) (ok : Bool) :
    Quiet s (s.sent i ok) := by
  unfold sent
  split
  · rename_i peerId r hget
    cases ok with
    | true => exact (Quiet.refl s).finish hget rfl _
    | false =>
      have hget' : (s.drop peerId).calls[i]? = some (.sending peerId r) := by
        rw [calls_drop, hget]
      exact ((Quiet.refl s).drop peerId).finish hget' rfl _
  · exact Quiet.refl s

theorem quiet_localCandidate (s : RTCSessionController) (r : Nat) (candidate : String) :
    Quiet s (s.localCandidate r candidate).1 := by
  unfold localCandidate
  split
  · exact Quiet.refl s
  · split
    · exact Quiet.refl s
    · exact (Quiet.refl s).update
        (f := fun session => { session with sentCandidates := session.sentCandidates + 1 })
        (fun _ => rfl) r

end Quiet

section Orderly

/-- Before the answer any candidate may be of its description. -/
def awaited (session : RTCSession) (e : String × RtcCandidate) : Bool :=
  session.remoteDescriptionSHA256.all fun description => e.2.descriptionSHA256 = description

def waiting (session : RTCSession) : List (String × RtcCandidate) :=
  session.pendingCandidates.filter (awaited session)

structure Orderly (waits asks : List RTCAsk) (r : Nat) (session : RTCSession) : Prop where
  once : asks.count (.setRemoteDescription r) ≤ 1
  answered : .setRemoteDescription r ∈ asks →
    session.remoteDescriptionSHA256 ≠ none ∨ .setRemoteDescription r ∈ waits
  applying : .setRemoteDescription r ∈ waits → session.remoteDescriptionSHA256 = none
  fresh : session.remoteDescriptionSHA256 = none → handed asks r = []
  nodup : (handed asks r ++ session.pendingCandidates.map Prod.fst).Nodup
  taken : ∀ key ∈ handed asks r,
    key ∈ session.receivedCandidates ∨ .addIceCandidate r key ∈ waits
  bounded : (handed asks r).length + (waiting session).length ≤ maxRtcCandidatesPerDirection

structure Good (s : RTCSessionController) (asks : List RTCAsk) : Prop where
  sessions : ∀ (r : Nat) (session : RTCSession), s.stored[r]? = some session →
    Orderly s.waits asks r session
  born : ∀ ask ∈ asks, (s.stored[ask.session]?).isSome = true
  waited : ∀ ask, s.waits.count ask ≤ asks.count ask

variable {s s' : RTCSessionController} {asks waits waits' : List RTCAsk} {ask : RTCAsk}
  {i r : Nat} {session session' : RTCSession} {key : String} {call : RTCCall}

theorem Orderly.congr (h : Orderly waits asks r session)
    (hcandidates : candidatesOf session' = candidatesOf session)
    (hwaits : ∀ ask : RTCAsk, ask.session = r → (ask ∈ waits' ↔ ask ∈ waits)) :
    Orderly waits' asks r session' := by
  obtain ⟨hremote, hrest⟩ := Prod.mk.inj hcandidates
  obtain ⟨hreceived, hpending⟩ := Prod.mk.inj hrest
  exact
    { once := h.once
      answered := by
        rw [hremote, hwaits _ rfl]
        exact h.answered
      applying := by
        rw [hremote, hwaits _ rfl]
        exact h.applying
      fresh := by
        rw [hremote]
        exact h.fresh
      nodup := by
        rw [hpending]
        exact h.nodup
      taken := by
        intro key hkey
        rw [hreceived, hwaits _ rfl]
        exact h.taken key hkey
      bounded := by
        have hawaited : awaited session' = awaited session := by
          funext e
          rw [awaited, hremote]
          rfl
        rw [waiting, hawaited, hpending]
        exact h.bounded }

theorem Orderly.other (h : Orderly waits asks r session) (hne : ask.session ≠ r) :
    Orderly waits (asks ++ [ask]) r session := by
  have hdescription : ask ≠ .setRemoteDescription r := by
    rintro rfl
    exact hne rfl
  have hhanded : handed (asks ++ [ask]) r = handed asks r := handed_append_of_ne hne
  exact
    { once := by
        rw [List.count_append, List.count_singleton, if_neg (by simpa using hdescription)]
        exact h.once
      answered := by
        rw [List.mem_append, List.mem_singleton, or_iff_left hdescription.symm]
        exact h.answered
      applying := h.applying
      fresh := hhanded ▸ h.fresh
      nodup := hhanded ▸ h.nodup
      taken := hhanded ▸ h.taken
      bounded := hhanded ▸ h.bounded }

theorem Good.quiet (h : Good s asks) (hquiet : Quiet s s') : Good s' asks where
  sessions := by
    intro r session' hget'
    have hsame := hquiet.stored r
    rw [hget', Option.map_some] at hsame
    obtain ⟨session, hget, hcandidates⟩ := Option.map_eq_some_iff.mp hsame.symm
    rw [hquiet.waits]
    exact (h.sessions r session hget).congr hcandidates.symm fun _ _ => Iff.rfl
  born := by
    intro ask hmem
    rw [← Option.isSome_map, hquiet.stored, Option.isSome_map]
    exact h.born ask hmem
  waited := hquiet.waits ▸ h.waited

theorem Good.change (h : Good s asks) {f : RTCSession → RTCSession}
    (hstored : s'.stored = s.stored.modify r f)
    (hwaits : ∃ done : List RTCAsk, s.waits.Perm (done ++ s'.waits) ∧
      ∀ ask ∈ done, ask.session = r)
    (hsession : ∀ session, s.stored[r]? = some session → Orderly s.waits asks r session →
      Orderly s'.waits asks r (f session)) : Good s' asks := by
  obtain ⟨done, hperm, hdone⟩ := hwaits
  refine ⟨?_, ?_, ?_⟩
  · intro r' session' hget'
    rw [hstored] at hget'
    obtain ⟨session, hget, ⟨rfl, rfl⟩ | ⟨hne, rfl⟩⟩ := of_getElem?_modify hget'
    · exact hsession session hget (h.sessions _ _ hget)
    · refine (h.sessions _ _ hget).congr rfl fun ask hr => ?_
      rw [hperm.mem_iff, List.mem_append, or_iff_right]
      exact fun hmem => hne ((hdone ask hmem).symm.trans hr)
  · intro ask hmem
    rw [hstored, List.getElem?_modify, Option.map_eq_map, Option.isSome_map]
    exact h.born ask hmem
  · intro ask
    refine Nat.le_trans ?_ (h.waited ask)
    rw [hperm.count_eq, List.count_append]
    exact Nat.le_add_left _ _

theorem Good.asking (h : Good s asks) {f : RTCSession → RTCSession}
    (hstored : s'.stored = s.stored.modify ask.session f)
    (hwaits : s'.waits.Perm (ask :: s.waits)) (hget : s.stored[ask.session]? = some session)
    (hsession : Orderly s.waits asks ask.session session →
      Orderly s'.waits (asks ++ [ask]) ask.session (f session)) :
    Good s' (asks ++ [ask]) := by
  refine ⟨?_, ?_, ?_⟩
  · intro r' session' hget'
    rw [hstored] at hget'
    obtain ⟨old, hold, ⟨rfl, rfl⟩ | ⟨hne, rfl⟩⟩ := of_getElem?_modify hget'
    · obtain rfl := Option.some.inj (hget.symm.trans hold)
      exact hsession (h.sessions _ _ hget)
    · refine ((h.sessions _ _ hold).other hne).congr rfl fun ask' hr => ?_
      rw [hwaits.mem_iff, List.mem_cons, or_iff_right]
      rintro rfl
      exact hne hr
  · intro ask' hmem
    rw [hstored, List.getElem?_modify, Option.map_eq_map, Option.isSome_map]
    rcases List.mem_append.mp hmem with hmem | hmem
    · exact h.born ask' hmem
    · rw [List.mem_singleton.mp hmem, hget]
      rfl
  · intro ask'
    rw [hwaits.count_eq, List.count_append, List.count_cons, List.count_singleton]
    exact Nat.add_le_add_right (h.waited ask') _

theorem Orderly.answer (h : Orderly waits asks r session)
    (hremote : session.remoteDescriptionSHA256 = none)
    (hidle : .setRemoteDescription r ∉ waits)
    (hwaits : waits'.Perm (.setRemoteDescription r :: waits)) :
    Orderly waits' (asks ++ [.setRemoteDescription r]) r session := by
  have hnone : .setRemoteDescription r ∉ asks := fun hmem =>
    (h.answered hmem).elim (fun hne => hne hremote) hidle
  have hhanded := handed_append_description asks r r
  exact
    { once := by
        rw [List.count_append, List.count_eq_zero_of_not_mem hnone, List.count_singleton_self]
      answered := fun _ => .inr (hwaits.mem_iff.mpr List.mem_cons_self)
      applying := fun _ => hremote
      fresh := hhanded ▸ h.fresh
      nodup := hhanded ▸ h.nodup
      taken := by
        intro key hkey
        rw [hhanded] at hkey
        exact (h.taken key hkey).imp_right fun hmem =>
          hwaits.mem_iff.mpr (List.mem_cons_of_mem _ hmem)
      bounded := hhanded ▸ h.bounded }

theorem Orderly.install (h : Orderly waits asks r session) (answer : RtcAnswer)
    (hwaits : waits.Perm (.setRemoteDescription r :: waits'))
    (hcount : waits.count (.setRemoteDescription r) ≤ asks.count (.setRemoteDescription r)) :
    Orderly waits' asks r
      { session with remoteDescriptionSHA256 := some answer.descriptionSHA256 } where
  once := h.once
  answered := fun _ => .inl (Option.some_ne_none _)
  applying := by
    intro hmem
    have honce := Nat.le_trans hcount h.once
    have hpos := List.count_pos_iff.mpr hmem
    rw [hwaits.count_eq, List.count_cons_self] at honce
    omega
  fresh := fun hnone => absurd hnone (Option.some_ne_none _)
  nodup := h.nodup
  taken := by
    intro key hkey
    refine (h.taken key hkey).imp_right fun hmem => ?_
    exact (List.mem_cons.mp (hwaits.mem_iff.mp hmem)).resolve_left RTCAsk.noConfusion
  bounded := by
    have hnone := h.applying (hwaits.mem_iff.mpr List.mem_cons_self)
    have hall : waiting session = session.pendingCandidates :=
      List.filter_eq_self.mpr fun e _ => by rw [awaited, hnone]; rfl
    have hbounded := h.bounded
    rw [hall] at hbounded
    exact Nat.le_trans (Nat.add_le_add_left (List.length_filter_le _ _) _) hbounded

theorem Orderly.taken_append (h : Orderly waits asks r session)
    (hwaits : waits'.Perm (.addIceCandidate r key :: waits)) :
    ∀ key' ∈ handed (asks ++ [.addIceCandidate r key]) r,
      key' ∈ session.receivedCandidates ∨ .addIceCandidate r key' ∈ waits' := by
  intro key' hkey
  rw [handed_append_candidate, List.mem_append, List.mem_singleton] at hkey
  rcases hkey with hkey | rfl
  · exact (h.taken key' hkey).imp_right fun hmem =>
      hwaits.mem_iff.mpr (List.mem_cons_of_mem _ hmem)
  · exact .inr (hwaits.mem_iff.mpr List.mem_cons_self)

theorem Orderly.candidate (h : Orderly waits asks r session)
    (hremote : session.remoteDescriptionSHA256 ≠ none)
    (hreceived : key ∉ session.receivedCandidates)
    (hpending : key ∉ session.pendingCandidates.map Prod.fst)
    (hidle : .addIceCandidate r key ∉ waits)
    (hroom : (handed asks r).length + (waiting session).length < maxRtcCandidatesPerDirection)
    (hwaits : waits'.Perm (.addIceCandidate r key :: waits)) :
    Orderly waits' (asks ++ [.addIceCandidate r key]) r session := by
  have hhanded := handed_append_candidate asks r key
  have hnew : key ∉ handed asks r := fun hmem => (h.taken key hmem).elim hreceived hidle
  exact
    { once := by
        rw [List.count_append, List.count_singleton, if_neg (by simp)]
        exact h.once
      answered := by
        intro hmem
        refine .inl hremote
      applying := by
        rw [hwaits.mem_iff, List.mem_cons, or_iff_right RTCAsk.noConfusion]
        exact h.applying
      fresh := fun hnone => absurd hnone hremote
      nodup := by
        rw [hhanded, List.append_assoc]
        refine List.perm_middle.nodup_iff.mpr (List.nodup_cons.mpr ⟨?_, h.nodup⟩)
        change key ∉ handed asks r ++ session.pendingCandidates.map Prod.fst
        rw [List.mem_append, not_or]
        exact ⟨hnew, hpending⟩
      taken := h.taken_append hwaits
      bounded := by
        rw [hhanded, List.length_append, List.length_singleton]
        omega }

theorem Orderly.stage (h : Orderly waits asks r session) (candidate : RtcCandidate)
    (hremote : session.remoteDescriptionSHA256 = none)
    (hpending : key ∉ session.pendingCandidates.map Prod.fst)
    (hroom : session.pendingCandidates.length < maxRtcCandidatesPerDirection) :
    Orderly waits asks r
      { session with pendingCandidates := session.pendingCandidates ++ [(key, candidate)] } where
  once := h.once
  answered := h.answered
  applying := h.applying
  fresh := h.fresh
  nodup := by
    have hnodup := h.nodup
    rw [h.fresh hremote, List.nil_append] at hnodup ⊢
    rw [List.map_append, List.map_singleton]
    exact List.nodup_append.mpr ⟨hnodup, List.nodup_singleton _, by
      rintro key' hmem _ hkey rfl
      rw [List.mem_singleton.mp hkey] at hmem
      exact hpending hmem⟩
  taken := h.taken
  bounded := by
    rw [h.fresh hremote, List.length_nil, Nat.zero_add]
    refine Nat.le_trans (List.length_filter_le _ _) ?_
    rw [List.length_append, List.length_singleton]
    exact hroom

theorem Orderly.added (h : Orderly waits asks r session) (key : String) (expiresAt : Nat)
    (hwaits : waits.Perm (.addIceCandidate r key :: waits')) :
    Orderly waits' asks r { addReceived key session with expiresAt } := by
  have hreceived : ∀ key', key' ∈ session.receivedCandidates ∨ key' = key →
      key' ∈ (addReceived key session).receivedCandidates := by
    intro key' hkey
    unfold addReceived
    dsimp only
    split
    · rename_i hmem
      exact hkey.elim id fun heq => heq ▸ hmem
    · rw [List.mem_append, List.mem_singleton]
      exact hkey
  have hdescription : RTCAsk.setRemoteDescription r ∈ waits ↔
      .setRemoteDescription r ∈ waits' := by
    rw [hwaits.mem_iff, List.mem_cons, or_iff_right RTCAsk.noConfusion]
  exact
    { once := h.once
      answered := fun hmem => (h.answered hmem).imp_right hdescription.mp
      applying := fun hmem => h.applying (hdescription.mpr hmem)
      fresh := h.fresh
      nodup := h.nodup
      taken := by
        intro key' hkey
        rcases h.taken key' hkey with hmem | hmem
        · exact .inl (hreceived key' (.inl hmem))
        · rcases List.mem_cons.mp (hwaits.mem_iff.mp hmem) with heq | hmem
          · exact .inl (hreceived key' (.inr (RTCAsk.addIceCandidate.inj heq).2))
          · exact .inr hmem
      bounded := h.bounded }

theorem Orderly.drain (h : Orderly waits asks r session) {candidate : RtcCandidate}
    {rest : List (String × RtcCandidate)} (hstaged : staged session = (key, candidate) :: rest)
    (hremote : session.remoteDescriptionSHA256 ≠ none)
    (hwaits : waits'.Perm (.addIceCandidate r key :: waits)) :
    Orderly waits' (asks ++ [.addIceCandidate r key]) r
      { session with pendingCandidates := rest } := by
  have hhanded := handed_append_candidate asks r key
  obtain ⟨skipped, hpending⟩ : ∃ skipped, session.pendingCandidates =
      skipped ++ (key, candidate) :: rest := by
    obtain ⟨skipped, hsuffix⟩ := List.dropWhile_suffix (l := session.pendingCandidates)
      fun e => some e.2.descriptionSHA256 ≠ session.remoteDescriptionSHA256
    exact ⟨skipped, by rw [← hsuffix]; exact congrArg (skipped ++ ·) hstaged⟩
  have hmatches : some candidate.descriptionSHA256 = session.remoteDescriptionSHA256 := by
    have hhead := List.head?_dropWhile_not
      (fun e : String × RtcCandidate =>
        decide (some e.2.descriptionSHA256 ≠ session.remoteDescriptionSHA256))
      session.pendingCandidates
    rw [show List.dropWhile _ _ = _ from hstaged] at hhead
    exact Decidable.not_not.mp (of_decide_eq_false hhead)
  exact
    { once := by
        rw [List.count_append, List.count_singleton, if_neg (by simp)]
        exact h.once
      answered := fun _ => .inl hremote
      applying := by
        rw [hwaits.mem_iff, List.mem_cons, or_iff_right RTCAsk.noConfusion]
        exact h.applying
      fresh := fun hnone => absurd hnone hremote
      nodup := by
        have hnodup := h.nodup
        rw [hpending, List.map_append, List.map_cons] at hnodup
        rw [hhanded, List.append_assoc]
        exact hnodup.sublist ((List.sublist_append_right _ _).append_left _)
      taken := h.taken_append hwaits
      bounded := by
        have hbounded := h.bounded
        have hmatch : awaited session (key, candidate) = true := by
          rw [awaited, ← hmatches]
          exact decide_eq_true rfl
        rw [waiting, hpending, List.filter_append, List.filter_cons_of_pos hmatch,
          List.length_append, List.length_cons] at hbounded
        have hrest : awaited { session with pendingCandidates := rest } = awaited session := rfl
        rw [hhanded, List.length_append, List.length_singleton, waiting, hrest]
        change _ + 1 + (rest.filter (awaited session)).length ≤ _
        omega }

theorem Orderly.drained (h : Orderly waits asks r session) (expiresAt : Nat) :
    Orderly waits asks r { session with pendingCandidates := [], expiresAt } where
  once := h.once
  answered := h.answered
  applying := h.applying
  fresh := h.fresh
  nodup := h.nodup.sublist ((List.nil_sublist _).append_left _)
  taken := h.taken
  bounded := Nat.le_trans (Nat.add_le_add_left (Nat.zero_le _) _) h.bounded

end Orderly

section Step

variable {s : RTCSessionController} {asks : List RTCAsk} {i r : Nat} {call : RTCCall}

/-- A session has room for another candidate, also when all that are on their way are added. -/
def hasRoom (s : RTCSessionController) (r : Nat) : Bool :=
  (s.stored[r]?).all fun session =>
    session.receivedCandidates.length + (handed s.waits r).length + (waiting session).length <
      maxRtcCandidatesPerDirection

/-- The browser refuses nothing that it is asked for on the connection of a session, nothing is
asked for while it is on its way, and a candidate only if there is room for all that are. -/
def unhurried (s : RTCSessionController) : RTCEvent → Bool
  | .receive peerId signal now origin =>
    (s.asked (.receive peerId signal now origin)).all fun ask =>
      ask ∉ s.waits && s.hasRoom ask.session
  | .validated i created => (s.asked (.validated i created)).all fun ask => ask ∉ s.waits
  | .remoteApplied i ok => ok || !(s.calls[i]?).any RTCCall.applying
  | .candidateAdded i ok => ok || !(s.calls[i]?).any RTCCall.adding
  | _ => true

theorem Good.next_of_quiet {e : RTCEvent} (h : Good s asks) (hquiet : Quiet s (s.next e))
    (hasked : s.asked e = none) : Good (s.next e) (asks ++ (s.asked e).toList) := by
  rw [hasked, Option.toList_none, List.append_nil]
  exact h.quiet hquiet

theorem Good.store (h : Good s asks) (hget : s.calls[i]? = some call) (hcall : call.ask? = none)
    {session : RTCSession} (hpending : session.pendingCandidates = []) :
    Good (s.store i session) asks := by
  have hwaits : (s.store i session).waits = s.waits :=
    waits_resume (s := { s with
      stored := s.stored ++ [session]
      sessions := s.sessions.set session.peerId s.stored.length }) hget hcall.symm
  refine ⟨?_, ?_, hwaits ▸ h.waited⟩
  · intro r session' hget'
    rw [hwaits]
    rcases getElem?_concat_eq_some_iff.mp hget' with hold | ⟨rfl, rfl⟩
    · exact h.sessions r session' hold
    · -- no session has been there yet for anything to be asked for
      have hnone : ∀ ask : RTCAsk, ask.session = s.stored.length → ask ∉ asks := by
        intro ask hr hmem
        have hborn := h.born ask hmem
        rw [hr, List.getElem?_eq_none (Nat.le_refl _)] at hborn
        cases hborn
      have hhanded : handed asks s.stored.length = [] :=
        List.eq_nil_iff_forall_not_mem.mpr fun key hkey => hnone _ rfl (mem_handed.mp hkey)
      have hwaiting : waiting session = [] := by rw [waiting, hpending]; rfl
      have hdescription : RTCAsk.setRemoteDescription s.stored.length ∉ s.waits := by
        intro hmem
        have hcount := h.waited (.setRemoteDescription s.stored.length)
        rw [List.count_eq_zero_of_not_mem (hnone _ rfl)] at hcount
        exact absurd (List.count_pos_iff.mpr hmem) (by omega)
      exact
        { once := by
            rw [List.count_eq_zero_of_not_mem (hnone _ rfl)]
            exact Nat.zero_le 1
          answered := fun hmem => absurd hmem (hnone _ rfl)
          applying := fun hmem => absurd hmem hdescription
          fresh := fun _ => hhanded
          nodup := by
            rw [hhanded, hpending]
            exact List.nodup_nil
          taken := by
            rw [hhanded]
            exact List.forall_mem_nil _
          bounded := by
            rw [hhanded, hwaiting]
            exact Nat.zero_le _ }
  · intro ask hmem
    obtain ⟨session', hget'⟩ := Option.isSome_iff_exists.mp (h.born ask hmem)
    change ((s.stored ++ [session])[ask.session]?).isSome = true
    rw [List.getElem?_append_left (List.getElem?_eq_some_iff.mp hget').1, hget']
    rfl

def stage (key : String) (candidate : RtcCandidate) (session : RTCSession) : RTCSession :=
  { session with pendingCandidates := session.pendingCandidates ++ [(key, candidate)] }

theorem receiveCandidate_cases (s : RTCSessionController) (peerId : String)
    (candidate : RtcCandidate) (now : Nat) :
    (∃ result, s.receiveCandidate peerId candidate now = s.begin (.returned result)) ∨
      ∃ (r : Nat) (session : RTCSession) (key : String), s.stored[r]? = some session ∧
        key ∉ session.receivedCandidates ∧ key ∉ session.pendingCandidates.map Prod.fst ∧
          ((session.remoteDescriptionSHA256 = none ∧
              session.pendingCandidates.length < maxRtcCandidatesPerDirection ∧
              s.receiveCandidate peerId candidate now =
                (s.update r (stage key candidate)).begin (.returned .accepted)) ∨
            (session.remoteDescriptionSHA256 ≠ none ∧
              s.receiveCandidate peerId candidate now = s.begin (.addingCandidate r key now))) := by
  unfold RTCSessionController.receiveCandidate
  dsimp only
  split
  · exact .inl ⟨_, rfl⟩
  · split
    · rename_i r session hsessions hsession
      have hget : s.stored[r]? = some session := by
        rw [session?, hsessions, Option.bind_some] at hsession
        exact hsession
      split
      · exact .inl ⟨_, rfl⟩
      · split
        · exact .inl ⟨_, rfl⟩
        · split
          · exact .inl ⟨_, rfl⟩
          · rename_i hnew
            rw [not_or] at hnew
            split
            · exact .inl ⟨_, rfl⟩
            · split
              · rename_i hremote
                split
                · exact .inl ⟨_, rfl⟩
                · rename_i hroom
                  exact .inr ⟨r, session, _, hget, hnew.1, hnew.2,
                    .inl ⟨hremote, Nat.lt_of_not_le hroom, rfl⟩⟩
              · rename_i hremote
                split
                · exact .inl ⟨_, rfl⟩
                · exact .inr ⟨r, session, _, hget, hnew.1, hnew.2, .inr ⟨hremote, rfl⟩⟩
    · exact .inl ⟨_, rfl⟩

theorem Orderly.length_handed_le {waits : List RTCAsk} {session : RTCSession}
    (h : Orderly waits asks r session) :
    (handed asks r).length ≤ session.receivedCandidates.length + (handed waits r).length := by
  have hsub : handed asks r ⊆ session.receivedCandidates ++ handed waits r := by
    intro key hkey
    rw [List.mem_append, mem_handed]
    exact h.taken key hkey
  have hnodup := (List.nodup_append.mp h.nodup).1
  rw [← List.length_append]
  exact (hnodup.subperm hsub).length_le

theorem Good.receiveCandidate (h : Good s asks) (peerId : String) (candidate : RtcCandidate)
    (now : Nat)
    (hfree : ((s.receiveCandidate peerId candidate now).askedAt s.calls.length).all (fun ask =>
      ask ∉ s.waits && s.hasRoom ask.session) = true) :
    Good (s.receiveCandidate peerId candidate now)
      (asks ++ ((s.receiveCandidate peerId candidate now).askedAt s.calls.length).toList) := by
  rcases receiveCandidate_cases s peerId candidate now with ⟨result, heq⟩ |
    ⟨r, session, key, hget, hreceived, hpending, ⟨hremote, hroom, heq⟩ | ⟨hremote, heq⟩⟩
  · rw [heq, askedAt_begin rfl]
    change Good _ (asks ++ [])
    rw [List.append_nil]
    exact h.quiet ((Quiet.refl s).begin rfl)
  · rw [heq, askedAt_begin (s := s.update r (stage key candidate)) (n := s.calls.length) rfl]
    change Good _ (asks ++ [])
    rw [List.append_nil]
    have hstaged : Good (s.update r (stage key candidate)) asks := by
      refine h.change rfl ⟨[], List.Perm.refl _, List.forall_mem_nil _⟩ fun session' hget' ho => ?_
      obtain rfl := Option.some.inj (hget.symm.trans hget')
      exact ho.stage candidate hremote hpending hroom
    exact hstaged.quiet ((Quiet.refl _).begin rfl)
  · rw [heq, askedAt_begin rfl] at hfree ⊢
    simp only [RTCCall.ask?, Option.all_some, Bool.and_eq_true, decide_eq_true_eq, hasRoom,
      RTCAsk.session, hget] at hfree
    obtain ⟨hidle, hroom⟩ := hfree
    have hroom := of_decide_eq_true hroom
    have hwaits : (s.begin (.addingCandidate r key now)).waits.Perm
        (.addIceCandidate r key :: s.waits) := by
      rw [waits_begin]
      exact List.perm_append_comm
    refine h.asking (f := id) (List.modify_id r s.stored).symm hwaits hget fun ho => ?_
    have hle := ho.length_handed_le
    have hroom' : (handed asks r).length + (waiting session).length <
        maxRtcCandidatesPerDirection := by
      dsimp only [RTCAsk.session] at hle
      omega
    exact ho.candidate hremote hreceived hpending hidle hroom' hwaits

theorem receiveAnswer_cases (s : RTCSessionController) (i : Nat) (peerId : String)
    (answer : RtcAnswer) (now origin : Nat) :
    (∃ result, s.receiveAnswer i peerId answer now origin = s.finish i result) ∨
      ∃ (r : Nat) (session : RTCSession), s.stored[r]? = some session ∧
        session.remoteDescriptionSHA256 = none ∧
          s.receiveAnswer i peerId answer now origin =
            s.resume i (.applyingAnswer r answer now origin) := by
  unfold RTCSessionController.receiveAnswer
  split
  · exact .inl ⟨_, rfl⟩
  · split
    · rename_i r session hsessions hsession
      have hget : s.stored[r]? = some session := by
        rw [session?, hsessions, Option.bind_some] at hsession
        exact hsession
      split
      · exact .inl ⟨_, rfl⟩
      · split
        · exact .inl ⟨_, rfl⟩
        · split
          · exact .inl ⟨_, rfl⟩
          · rename_i hremote
            exact .inr ⟨r, session, hget, not_not.mp hremote, rfl⟩
    · exact .inl ⟨_, rfl⟩

theorem Good.receiveAnswer (h : Good s asks) (hget : s.calls[i]? = some call)
    (hcall : call.ask? = none) (peerId : String) (answer : RtcAnswer) (now origin : Nat)
    (hfree : ((s.receiveAnswer i peerId answer now origin).askedAt i).all (fun ask =>
      ask ∉ s.waits) = true) :
    Good (s.receiveAnswer i peerId answer now origin)
      (asks ++ ((s.receiveAnswer i peerId answer now origin).askedAt i).toList) := by
  rcases receiveAnswer_cases s i peerId answer now origin with ⟨result, heq⟩ |
    ⟨r, session, hsession, hremote, heq⟩
  · rw [heq, finish, askedAt_resume hget]
    change Good _ (asks ++ [])
    rw [List.append_nil]
    exact h.quiet ((Quiet.refl s).finish hget hcall result)
  · rw [heq, askedAt_resume hget] at hfree ⊢
    simp only [RTCCall.ask?, Option.all_some, decide_eq_true_eq] at hfree
    have hwaits : (s.resume i (.applyingAnswer r answer now origin)).waits.Perm
        (.setRemoteDescription r :: s.waits) := waits_resume_of_none hget hcall rfl
    refine h.asking (f := id) (List.modify_id r s.stored).symm hwaits hsession fun ho => ?_
    exact ho.answer hremote hfree hwaits

theorem applyPending_finish (s : RTCSessionController) (i r now : Nat) (result : RTCResult) :
    (s.finish i result).applyPending i r now = s.applyPending i r now := by
  have hset : ∀ call' : RTCCall, (s.calls.set i (.returned result)).set i call' =
      s.calls.set i call' := fun _ => List.set_set _
  unfold applyPending finish resume update
  dsimp only
  split
  · rw [hset]
  · rw [hset]

theorem Good.applyPending (h : Good s asks) (hget : s.calls[i]? = some call)
    (hcall : call.ask? = none) (now : Nat)
    (hremote : ∀ session, s.stored[r]? = some session →
      session.remoteDescriptionSHA256 ≠ none) :
    Good (s.applyPending i r now) (asks ++ ((s.applyPending i r now).askedAt i).toList) := by
  unfold RTCSessionController.applyPending
  split
  · rename_i key candidate rest hstaged
    obtain ⟨session, hsession, heq⟩ := Option.map_eq_some_iff.mp hstaged
    rw [askedAt_resume (s := s.update r _) hget]
    have hwaits : ((s.update r fun session => { session with pendingCandidates := rest }).resume i
        (.addingPending r key now)).waits.Perm (.addIceCandidate r key :: s.waits) :=
      waits_resume_of_none (s := s.update r _) hget hcall rfl
    refine h.asking (f := fun session => { session with pendingCandidates := rest }) rfl hwaits
      hsession fun ho => ?_
    exact ho.drain heq (hremote session hsession) hwaits
  · rw [finish, askedAt_resume (s := s.update r _) hget]
    change Good _ (asks ++ [])
    rw [List.append_nil]
    have hdrained : Good (s.update r fun session => { session with
        pendingCandidates := [], expiresAt := now + rtcSignalingControlTTLms }) asks :=
      h.change rfl ⟨[], List.Perm.refl _, List.forall_mem_nil _⟩ fun _ _ ho => ho.drained _
    exact hdrained.quiet ((Quiet.refl _).resume hget hcall rfl)

theorem Good.installed {answer : RtcAnswer} {now origin : Nat} (h : Good s asks)
    (hget : s.calls[i]? = some (.applyingAnswer r answer now origin)) :
    Good ((s.update r fun session =>
      { session with remoteDescriptionSHA256 := some answer.descriptionSHA256 }).finish i
        .accepted) asks := by
  have hwaits := waits_finish (s := s.update r fun session =>
    { session with remoteDescriptionSHA256 := some answer.descriptionSHA256 }) hget rfl .accepted
  refine h.change rfl ⟨[.setRemoteDescription r], hwaits, fun ask hmem => ?_⟩ fun _ _ ho => ?_
  · rw [List.mem_singleton.mp hmem]
    rfl
  · exact ho.install answer hwaits (h.waited _)

theorem Good.added {key : String} (h : Good s asks) (hget : s.calls[i]? = some call)
    (hcall : call.ask? = some (.addIceCandidate r key)) (expiresAt : RTCSession → Nat) :
    Good ((s.update r fun session =>
      { addReceived key session with expiresAt := expiresAt session }).finish i .accepted) asks := by
  have hwaits := waits_finish (s := s.update r fun session =>
    { addReceived key session with expiresAt := expiresAt session }) hget hcall .accepted
  refine h.change rfl ⟨[.addIceCandidate r key], hwaits, fun ask hmem => ?_⟩ fun _ _ ho => ?_
  · rw [List.mem_singleton.mp hmem]
    rfl
  · exact ho.added key _ hwaits

theorem calls_finish {result : RTCResult} (hget : s.calls[i]? = some call) :
    (s.finish i result).calls[i]? = some (.returned result) :=
  List.getElem?_set_self (List.getElem?_eq_some_iff.mp hget).1

theorem Good.remoteApplied (h : Good s asks) (ok : Bool)
    (hok : unhurried s (.remoteApplied i ok) = true) :
    Good (s.remoteApplied i ok) (asks ++ (s.asked (.remoteApplied i ok)).toList) := by
  cases hget : s.calls[i]? with
  | none =>
    have hnext : s.remoteApplied i ok = s := by rw [RTCSessionController.remoteApplied, hget]
    rw [asked, hget, hnext]
    exact (List.append_nil asks).symm ▸ h
  | some call =>
    by_cases happlying : call.applying = true
    · cases call with
      | applyingAnswer r answer now origin =>
        rw [unhurried, hget] at hok
        have hok : ok = true := by simpa [RTCCall.applying] using hok
        subst hok
        have hnext : s.remoteApplied i true = ((s.update r fun session =>
            { session with remoteDescriptionSHA256 := some answer.descriptionSHA256 }).finish i
              .accepted).applyPending i r now := by
          rw [applyPending_finish, RTCSessionController.remoteApplied, hget]
          rfl
        have hasked : s.asked (.remoteApplied i true) = (s.remoteApplied i true).askedAt i := by
          rw [asked, hget]
          rfl
        rw [hasked, hnext]
        refine (h.installed hget).applyPending
          (calls_finish (s := s.update r _) hget) rfl now fun session hsession => ?_
        obtain ⟨old, -, ⟨-, rfl⟩ | ⟨hne, -⟩⟩ := of_getElem?_modify hsession
        · exact Option.some_ne_none _
        · exact absurd rfl hne
      | _ => cases happlying
    · have hasked : s.asked (.remoteApplied i ok) = none := by
        rw [asked, hget, Option.any_some, if_neg happlying]
      rw [hasked, Option.toList_none, List.append_nil]
      refine h.quiet ?_
      unfold RTCSessionController.remoteApplied
      rw [hget]
      split
      · rename_i setup heq
        obtain rfl := Option.some.inj heq
        split
        · exact (Quiet.refl s).resume hget rfl rfl
        · exact (Quiet.refl s).finish hget rfl _
      · rename_i heq
        obtain rfl := Option.some.inj heq
        exact absurd rfl happlying
      · exact Quiet.refl s

theorem Good.candidateAdded (h : Good s asks) (ok : Bool)
    (hok : unhurried s (.candidateAdded i ok) = true) :
    Good (s.candidateAdded i ok) (asks ++ (s.asked (.candidateAdded i ok)).toList) := by
  cases hget : s.calls[i]? with
  | none =>
    have hnext : s.candidateAdded i ok = s := by rw [RTCSessionController.candidateAdded, hget]
    rw [asked, hget, hnext]
    exact (List.append_nil asks).symm ▸ h
  | some call =>
    by_cases hadding : call.adding = true
    · rw [unhurried, hget, Option.any_some, hadding, Bool.not_true, Bool.or_false] at hok
      subst hok
      have hasked : s.asked (.candidateAdded i true) = (s.candidateAdded i true).askedAt i := by
        rw [asked, hget, Option.any_some, if_pos hadding]
      rw [hasked]
      cases call with
      | addingPending r key now =>
        have hnext : s.candidateAdded i true = ((s.update r (addReceived key)).finish i
            .accepted).applyPending i r now := by
          rw [applyPending_finish, RTCSessionController.candidateAdded, hget]
          rfl
        rw [hnext]
        refine (h.added hget rfl RTCSession.expiresAt).applyPending
          (calls_finish (s := s.update r _) hget) rfl now fun session hsession => ?_
        obtain ⟨old, hold, ⟨-, rfl⟩ | ⟨hne, -⟩⟩ := of_getElem?_modify hsession
        · -- something is on its way, so the answer has been installed
          intro hnone
          have hfresh := (h.sessions r old hold).fresh hnone
          have hwaits : RTCAsk.addIceCandidate r key ∈ s.waits :=
            List.mem_filterMap.mpr ⟨_, List.mem_of_getElem? hget, rfl⟩
          have hasks : RTCAsk.addIceCandidate r key ∈ asks :=
            List.count_pos_iff.mp (Nat.lt_of_lt_of_le (List.count_pos_iff.mpr hwaits)
              (h.waited _))
          rw [← mem_handed, hfresh] at hasks
          cases hasks
        · exact absurd rfl hne
      | addingCandidate r key now =>
        have hnext : s.candidateAdded i true = (s.update r fun session =>
            { addReceived key session with
              expiresAt := now + rtcSignalingControlTTLms }).finish i .accepted := by
          rw [RTCSessionController.candidateAdded, hget]
          rfl
        rw [hnext, finish, askedAt_resume (s := s.update r _) hget]
        change Good _ (asks ++ [])
        rw [List.append_nil]
        exact h.added hget rfl fun _ => now + rtcSignalingControlTTLms
      | _ => cases hadding
    · have hasked : s.asked (.candidateAdded i ok) = none := by
        rw [asked, hget, Option.any_some, if_neg hadding]
      rw [hasked, Option.toList_none, List.append_nil]
      have hnext : s.candidateAdded i ok = s := by
        cases call with
        | addingPending r key now => exact absurd rfl hadding
        | addingCandidate r key now => exact absurd rfl hadding
        | _ => simp only [RTCSessionController.candidateAdded, hget]
      rw [hnext]
      exact h

theorem Good.validated (h : Good s asks) (created : Bool)
    (hfree : unhurried s (.validated i created) = true) :
    Good (s.validated i created) (asks ++ (s.asked (.validated i created)).toList) := by
  cases hget : s.calls[i]? with
  | none =>
    have hnext : s.validated i created = s := by rw [RTCSessionController.validated, hget]
    rw [asked, hget, hnext]
    exact (List.append_nil asks).symm ▸ h
  | some call =>
    by_cases hvalidating : call.validating = true
    · have hasked : s.asked (.validated i created) = (s.validated i created).askedAt i := by
        rw [asked, hget, Option.any_some, if_pos hvalidating]
      rw [unhurried, hasked] at hfree
      rw [hasked]
      cases call with
      | validatingAnswer peerId answer now origin =>
        have hnext : s.validated i created = s.receiveAnswer i peerId answer now origin := by
          rw [RTCSessionController.validated, hget]
        rw [hnext] at hfree ⊢
        exact h.receiveAnswer hget rfl peerId answer now origin hfree
      | _ => cases hvalidating
    · have hasked : s.asked (.validated i created) = none := by
        rw [asked, hget, Option.any_some, if_neg hvalidating]
      rw [hasked, Option.toList_none, List.append_nil]
      refine h.quiet ?_
      cases call with
      | validatingOffer peerId offer now =>
        have hnext : s.validated i created = s.receiveOffer i peerId offer now created := by
          rw [RTCSessionController.validated, hget]
        rw [hnext]
        exact quiet_receiveOffer hget rfl peerId offer now created
      | validatingAnswer peerId answer now origin => exact absurd rfl hvalidating
      | _ =>
        simp only [RTCSessionController.validated, hget]
        exact Quiet.refl s

theorem stored_prune (s : RTCSessionController) (now : Nat) : (s.prune now).stored = s.stored := by
  have hfold : ∀ (peerIds : List String) (s : RTCSessionController),
      (peerIds.foldl (dropExpired now) s).stored = s.stored := by
    intro peerIds
    induction peerIds with
    | nil => exact fun _ => rfl
    | cons peerId peerIds ih =>
      intro s
      refine (ih _).trans ?_
      unfold dropExpired
      split
      · exact stored_drop s peerId
      · rfl
  exact hfold _ _

theorem Good.receive (h : Good s asks) (peerId : String) (signal : RTCSignal) (now origin : Nat)
    (hfree : unhurried s (.receive peerId signal now origin) = true) :
    Good (s.receive peerId signal now origin)
      (asks ++ (s.asked (.receive peerId signal now origin)).toList) := by
  have hprune := (Quiet.refl s).prune now
  have hbegun : ∀ {call : RTCCall}, call.ask? = none → s.receive peerId signal now origin =
      (s.prune now).begin call → Good (s.receive peerId signal now origin)
        (asks ++ (s.asked (.receive peerId signal now origin)).toList) := by
    intro call hcall heq
    have hasked : s.asked (.receive peerId signal now origin) = none := by
      rw [asked, heq, askedAt_begin (congrArg List.length (calls_prune s now)), hcall]
    rw [hasked, Option.toList_none, List.append_nil, heq]
    exact h.quiet (hprune.begin hcall)
  cases signal with
  | offer offer => exact hbegun rfl rfl
  | answer answer => exact hbegun rfl rfl
  | candidate candidate =>
    have hgood := h.quiet hprune
    have hwaits : (s.prune now).waits = s.waits := hprune.waits
    have hroom : ∀ r, (s.prune now).hasRoom r = s.hasRoom r := by
      intro r
      rw [hasRoom, hasRoom, stored_prune, hwaits]
    have heq : s.asked (.receive peerId (.candidate candidate) now origin) =
        ((s.prune now).receiveCandidate peerId candidate now).askedAt
          (s.prune now).calls.length := by
      rw [calls_prune]
      rfl
    rw [heq]
    refine hgood.receiveCandidate peerId candidate now ?_
    rw [unhurried, heq] at hfree
    simpa only [hwaits, hroom] using hfree
  | cancel cancel =>
    have hasked : s.asked (.receive peerId (.cancel cancel) now origin) = none := by
      change (((s.prune now).receiveCancel peerId cancel).askedAt s.calls.length) = none
      unfold receiveCancel
      split
      · exact askedAt_begin (congrArg List.length (calls_prune s now)) _
      · split
        · exact askedAt_begin (congrArg List.length (calls_prune s now)) _
        · refine askedAt_begin (congrArg List.length ?_) _
          rw [calls_drop, calls_prune]
    rw [hasked, Option.toList_none, List.append_nil]
    exact h.quiet (quiet_receiveCancel hprune peerId cancel)

theorem Good.next (h : Good s asks) (e : RTCEvent) (hfree : unhurried s e = true) :
    Good (s.next e) (asks ++ (s.asked e).toList) := by
  cases e with
  | acceptCapabilities peerId now expiresAt =>
    refine h.next_of_quiet ?_ rfl
    change Quiet s (s.acceptCapabilities peerId now expiresAt)
    unfold acceptCapabilities
    dsimp only
    split
    · exact (Quiet.refl s).prune now
    · exact ((Quiet.refl s).prune now).trans (.of_eq rfl rfl)
  | start peerId now created => exact h.next_of_quiet (quiet_start s peerId now created) rfl
  | receive peerId signal now origin => exact h.receive peerId signal now origin hfree
  | validated i created => exact h.validated created hfree
  | remoteApplied i ok => exact h.remoteApplied ok hfree
  | described i description => exact h.next_of_quiet (quiet_described s i description) rfl
  | hashed i => exact h.next_of_quiet (quiet_hashed s i) rfl
  | localApplied i ok newSessionId =>
    change Good (s.localApplied i ok newSessionId).1 (asks ++ [])
    rw [List.append_nil]
    unfold localApplied
    split
    · rename_i hget
      cases ok with
      | true => exact h.store hget rfl rfl
      | false => exact h.quiet ((Quiet.refl s).finish hget rfl _)
    · exact h
  | sent i ok => exact h.next_of_quiet (quiet_sent s i ok) rfl
  | candidateAdded i ok => exact h.candidateAdded ok hfree
  | localCandidate r candidate => exact h.next_of_quiet (quiet_localCandidate s r candidate) rfl
  | prune now => exact h.next_of_quiet ((Quiet.refl s).prune now) rfl
  | reset => exact h.next_of_quiet (quiet_reset s) rfl

theorem Good.handed_eq_nil_or (h : Good s asks) (r : Nat) :
    handed asks r = [] ∨ ∃ session, s.stored[r]? = some session := by
  by_cases hnil : handed asks r = []
  · exact .inl hnil
  · obtain ⟨key, hkey⟩ := List.exists_mem_of_ne_nil _ hnil
    exact .inr (Option.isSome_iff_exists.mp (h.born _ (mem_handed.mp hkey)))

theorem Good.nodup_handed (h : Good s asks) (r : Nat) : (handed asks r).Nodup := by
  rcases h.handed_eq_nil_or r with hnil | ⟨session, hget⟩
  · rw [hnil]
    exact List.nodup_nil
  · exact (List.nodup_append.mp (h.sessions r session hget).nodup).1

theorem Good.nodup (h : Good s asks) : asks.Nodup := by
  rw [List.nodup_iff_count_le_one]
  intro ask
  by_cases hmem : ask ∈ asks
  · cases ask with
    | setRemoteDescription r =>
      obtain ⟨session, hget⟩ := Option.isSome_iff_exists.mp (h.born _ hmem)
      exact (h.sessions r session hget).once
    | addIceCandidate r key =>
      rw [← count_handed]
      exact List.nodup_iff_count_le_one.mp (h.nodup_handed r) key
  · rw [List.count_eq_zero_of_not_mem hmem]
    exact Nat.zero_le 1

end Step

end RTCSessionController

section Watched

open RTCSessionController

namespace WatchedController

def init (localPeerId : String) : WatchedController where
  controller := { localPeerId }
  asks := []

/-- The connections that were asked to take an answer, once for every time. -/
def described (w : WatchedController) : List Nat :=
  w.asks.filterMap fun ask =>
    match ask with
    | .setRemoteDescription r => (w.controller.stored[r]?).map RTCSession.connection
    | .addIceCandidate _ _ => none

/-- No connection is asked to take an answer twice. None is asked to add a candidate twice, or
more candidates than are allowed. -/
structure Applied (w : WatchedController) : Prop where
  answers : w.described.Nodup
  candidates : ∀ r, (handed w.asks r).Nodup
  bounded : ∀ r, (handed w.asks r).length ≤ maxRtcCandidatesPerDirection

structure Inv (w : WatchedController) : Prop where
  owning : w.controller.Owning
  good : Good w.controller w.asks

theorem inv_init (localPeerId : String) : Inv (init localPeerId) where
  owning := owning_init localPeerId
  good :=
    { sessions := fun _ _ hget => by cases hget
      born := fun _ hmem => by cases hmem
      waited := fun _ => Nat.le_refl _ }

theorem Inv.step {w : WatchedController} {e : RTCEvent} (h : Inv w)
    (hfree : unhurried w.controller e = true) : Inv (w.step e) where
  owning := h.owning.next e
  good := h.good.next e hfree

theorem Inv.applied {w : WatchedController} (h : Inv w) : Applied w where
  answers := by
    refine List.Nodup.filterMap ?_ h.good.nodup
    intro ask ask' c hc hc'
    cases ask with
    | addIceCandidate r key => exact absurd hc (Option.not_mem_none c)
    | setRemoteDescription r =>
      cases ask' with
      | addIceCandidate r' key => exact absurd hc' (Option.not_mem_none c)
      | setRemoteDescription r' =>
        obtain ⟨session, hget, hconnection⟩ := Option.map_eq_some_iff.mp hc
        obtain ⟨session', hget', hconnection'⟩ := Option.map_eq_some_iff.mp hc'
        rw [h.owning.session_inj hget hget' (hconnection.trans hconnection'.symm)]
  candidates := h.good.nodup_handed
  bounded := by
    intro r
    rcases h.good.handed_eq_nil_or r with hnil | ⟨session, hget⟩
    · rw [hnil]
      exact Nat.zero_le _
    · exact Nat.le_trans (Nat.le_add_right _ _) (h.good.sessions r session hget).bounded

/-- In the runs in which the browser refuses no answer and no candidate, an answer is let through
only while none is being taken, and a candidate only while it is not being added and there is room
for all that are. -/
theorem applied_of_unhurried (localPeerId : String) (events : List RTCEvent)
    (h : Trace.Meets step (fun w e => unhurried w.controller e = true) (init localPeerId)
      events) :
    Applied (Trace.run step (init localPeerId) events) :=
  (Trace.invariant_of_meets (fun _ _ hinv hfree => hinv.step hfree) (inv_init localPeerId)
    h).applied

section Sample

/-- A description with a fingerprint of one byte all through. -/
def sampleDescription (byte : String) : String :=
  "a=fingerprint:sha-256 " ++ ":".intercalate (List.replicate 32 byte)

def sampleDigest (byte : String) : String :=
  ((rtcDescriptionSHA256 (sampleDescription byte)).toOption).getD ""

def sampleSessionId : String := "AQEBAQEBAQEBAQEBAQEBAQ"

def sampleAnswer : RtcAnswer where
  rtcSessionId := sampleSessionId
  generation := 0
  description := sampleDescription "ff"
  descriptionSHA256 := sampleDigest "ff"
  dtlsFingerprintSHA256 := Base64.encode (List.replicate 32 255)
  offerDescriptionSHA256 := sampleDigest "00"

def sampleCandidate : RtcCandidate where
  rtcSessionId := sampleSessionId
  generation := 0
  direction := .answerer
  descriptionSHA256 := sampleDigest "ff"
  candidate := "candidate"

def offered : List RTCEvent :=
  [.acceptCapabilities "b" 0 1000, .start "b" 0 (some (some sampleDataChannel)),
    .described 0 (some (sampleDescription "00")), .hashed 0, .localApplied 0 true sampleSessionId]

/-- A candidate comes, then the answer, then the candidate again. -/
def answeredOnce : List RTCEvent :=
  offered ++ [.receive "b" (.candidate sampleCandidate) 1 0, .receive "b" (.answer sampleAnswer) 1 0,
    .validated 2 true, .remoteApplied 2 true, .candidateAdded 2 true,
    .receive "b" (.candidate sampleCandidate) 2 0]

theorem applied_answeredOnce :
    Applied (Trace.run step (init "a") answeredOnce) ∧
      (Trace.run step (init "a") answeredOnce).asks =
        [.setRemoteDescription 0,
          .addIceCandidate 0 (sampleCandidate.descriptionSHA256 ++ "\u0000candidate")] := by
  have hrun : Trace.Meets step (fun w e => unhurried w.controller e = true) (init "a")
      answeredOnce ∧ (Trace.run step (init "a") answeredOnce).asks =
        [.setRemoteDescription 0,
          .addIceCandidate 0 (sampleCandidate.descriptionSHA256 ++ "\u0000candidate")] := by
    decide +kernel
  exact ⟨applied_of_unhurried "a" answeredOnce hrun.1, hrun.2⟩

/-- The answer comes twice before the browser is asked to take it. -/
def answeredTwice : List RTCEvent :=
  offered ++ [.receive "b" (.answer sampleAnswer) 1 0, .receive "b" (.answer sampleAnswer) 1 0,
    .validated 1 true, .validated 2 true]

theorem not_applied_answeredTwice :
    ¬ ∀ localPeerId events, Applied (Trace.run step (init localPeerId) events) := by
  intro h
  have hdescribed : (Trace.run step (init "a") answeredTwice).described = [0, 0] := by
    decide +kernel
  have hnodup := (h "a" answeredTwice).answers
  rw [hdescribed] at hnodup
  exact absurd hnodup (by decide)

end Sample

end WatchedController

end Watched

end Branch.Pwa
