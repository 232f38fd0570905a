import Branch.Pwa.RtcSession

/-!
The connections of a controller: an open one is that of a session in the table, or a call is
still setting it up.
-/

namespace Branch.Pwa

open Branch.Core Branch.Lib

def RTCCall.connection? : RTCCall → Option Nat
  | settingUp setup _ => some setup.connection
  | _ => none

namespace RTCSessionController

inductive Owner where
  | session (r : Nat)
  | call (i : Nat)
  deriving DecidableEq

variable {s s' : RTCSessionController} {i r c : Nat} {peerId : String} {call call' : RTCCall}
  {o : Owner}

section Property

def ofOwner (s : RTCSessionController) : Owner → Option Nat
  | .session r => (s.stored[r]?).map RTCSession.connection
  | .call i => (s.calls[i]?).bind RTCCall.connection?

def Current (s : RTCSessionController) : Owner → Prop
  | .session r => ∃ peerId, s.sessions.get? peerId = some r
  | .call _ => True

def Open (s : RTCSessionController) (c : Nat) : Prop :=
  ∃ connection, s.connections[c]? = some connection ∧ connection.closed = false

/-- Every connection that was created is closed, unless it is that of a session in the table
or a call is still setting it up, and the table is within its limit. -/
def Accounted (s : RTCSessionController) : Prop :=
  (∀ c, s.Open c → ∃ o, s.Current o ∧ s.ofOwner o = some c) ∧
    s.sessions.size ≤ maxRtcSessions

end Property

section Guard

def ChannelCreated (s : RTCSessionController) : RTCEvent → Prop
  | .start peerId now created => (s.prune now).canStart peerId now = true → created ≠ some none
  | _ => True

/-- What the browser is asked for to set a connection up does not fail. -/
def SetUp (s : RTCSessionController) : RTCEvent → Prop
  | .remoteApplied i ok => ∀ setup, s.calls[i]? = some (.settingUp setup .applyingOffer) →
      ok = true
  | .described i description => ∀ setup, s.calls[i]? = some (.settingUp setup .describing) →
      description ≠ none
  | .hashed i => ∀ setup description,
      s.calls[i]? = some (.settingUp setup (.hashing description)) →
        (describe description).isOk = true
  | .localApplied i ok _ => ∀ setup description digest fingerprint,
      s.calls[i]? = some (.settingUp setup (.applyingOwn description digest fingerprint)) →
        ok = true
  | _ => True

/-- When a session is stored, the table has none for its peer and is not full. -/
def RoomToStore (s : RTCSessionController) : RTCEvent → Prop
  | .localApplied i _ _ => ∀ setup description digest fingerprint,
      s.calls[i]? = some (.settingUp setup (.applyingOwn description digest fingerprint)) →
        s.sessions.get? setup.peerId = none ∧ s.sessions.size < maxRtcSessions
  | _ => True

def Smooth (s : RTCSessionController) (e : RTCEvent) : Prop :=
  s.ChannelCreated e ∧ s.SetUp e ∧ s.RoomToStore e

end Guard

section Owners

theorem ofOwner_begin (s : RTCSessionController) (call : RTCCall) (o : Owner) :
    (s.begin call).ofOwner o =
      if o = .call s.calls.length then call.connection? else s.ofOwner o := by
  cases o with
  | session r => rfl
  | call i =>
    change ((s.calls ++ [call])[i]?).bind RTCCall.connection? = _
    rcases Nat.lt_trichotomy i s.calls.length with hlt | rfl | hgt
    · rw [List.getElem?_append_left hlt, if_neg (by rintro ⟨⟩; omega)]
      rfl
    · rw [List.getElem?_concat_length, if_pos rfl]
      rfl
    · rw [List.getElem?_eq_none (by simp; omega), if_neg (by rintro ⟨⟩; omega)]
      have hnone : s.calls[i]? = none := List.getElem?_eq_none (by omega)
      rw [ofOwner, hnone]

theorem ofOwner_resume (hget : s.calls[i]? = some call) (call' : RTCCall) (o : Owner) :
    (s.resume i call').ofOwner o =
      if o = .call i then call'.connection? else s.ofOwner o := by
  cases o with
  | session r => rfl
  | call j =>
    change ((s.calls.set i call')[j]?).bind RTCCall.connection? = _
    by_cases hij : i = j
    · subst hij
      rw [List.getElem?_set_self (List.getElem?_eq_some_iff.mp hget).1, if_pos rfl]
      rfl
    · rw [List.getElem?_set_ne hij, if_neg (by rintro ⟨⟩; exact hij rfl)]
      rfl

theorem ofOwner_call (hget : s.calls[i]? = some call) :
    s.ofOwner (.call i) = call.connection? := by
  rw [ofOwner, hget]
  rfl

theorem ofOwner_length (s : RTCSessionController) :
    s.ofOwner (.call s.calls.length) = none := by
  rw [ofOwner, List.getElem?_eq_none (Nat.le_refl _)]
  rfl

theorem open_close : (s.close c).Open i ↔ s.Open i ∧ i ≠ c := by
  unfold Open close
  constructor
  · rintro ⟨connection, hget, hclosed⟩
    obtain ⟨before, hbefore, ⟨rfl, rfl⟩ | ⟨hne, rfl⟩⟩ := of_getElem?_modify hget
    · cases hclosed
    · exact ⟨⟨_, hbefore, hclosed⟩, Ne.symm hne⟩
  · rintro ⟨⟨connection, hget, hclosed⟩, hne⟩
    refine ⟨connection, ?_, hclosed⟩
    rw [List.getElem?_modify_ne _ _ (Ne.symm hne)]
    exact hget

end Owners

section Invariant

def peerOf (s : RTCSessionController) (r : Nat) : Option String :=
  (s.stored[r]?).map RTCSession.peerId

structure Inv (s : RTCSessionController) : Prop where
  listed : ∀ peerId r, s.sessions.get? peerId = some r → s.peerOf r = some peerId
  unique : ∀ o o' c, s.ofOwner o = some c → s.ofOwner o' = some c → o = o'
  opened : ∀ o c, s.Current o → s.ofOwner o = some c → s.Open c
  created : ∀ o c, s.ofOwner o = some c → c < s.connections.length
  accounted : s.Accounted

theorem inv_init (localPeerId : String) : Inv { localPeerId } where
  listed _ _ h := nomatch h
  unique o _ _ h _ := by cases o <;> cases h
  opened o _ _ h := by cases o <;> cases h
  created o _ h := by cases o <;> cases h
  accounted := ⟨fun _ ⟨_, hget, _⟩ => (nomatch hget), Nat.zero_le _⟩

theorem Inv.congr (h : Inv s) (hconnections : s'.connections = s.connections)
    (hsessions : s'.sessions = s.sessions) (howner : ∀ o, s'.ofOwner o = s.ofOwner o)
    (hpeer : ∀ r, s'.peerOf r = s.peerOf r) : Inv s' := by
  have hcurrent : ∀ o, s'.Current o ↔ s.Current o := by
    intro o
    cases o with
    | session r => rw [Current, Current, hsessions]
    | call i => exact Iff.rfl
  have hopen : ∀ c, s'.Open c ↔ s.Open c := by
    intro c
    rw [Open, Open, hconnections]
  constructor
  · intro peerId r hget
    rw [hpeer]
    exact h.listed peerId r (hsessions ▸ hget)
  · intro o o' c ho ho'
    rw [howner] at ho ho'
    exact h.unique o o' c ho ho'
  · intro o c hcur ho
    rw [howner] at ho
    exact (hopen c).mpr (h.opened o c ((hcurrent o).mp hcur) ho)
  · intro o c ho
    rw [howner] at ho
    exact hconnections ▸ h.created o c ho
  · refine ⟨?_, hsessions ▸ h.accounted.2⟩
    intro c hc
    obtain ⟨o, hcur, ho⟩ := h.accounted.1 c ((hopen c).mp hc)
    exact ⟨o, (hcurrent o).mpr hcur, (howner o).trans ho⟩

theorem Inv.begin (h : Inv s) (hcall : call.connection? = none) : Inv (s.begin call) := by
  refine h.congr rfl rfl (fun o => ?_) fun _ => rfl
  rw [ofOwner_begin]
  split
  · rename_i ho
    rw [ho, hcall, ofOwner_length]
  · rfl

theorem Inv.resume (h : Inv s) (hget : s.calls[i]? = some call)
    (hcall : call'.connection? = call.connection?) : Inv (s.resume i call') := by
  refine h.congr rfl rfl (fun o => ?_) fun _ => rfl
  rw [ofOwner_resume hget]
  split
  · rename_i ho
    rw [ho, hcall, ofOwner_call hget]
  · rfl

theorem Inv.finish (h : Inv s) (hget : s.calls[i]? = some call)
    (hcall : call.connection? = none) (result : RTCResult) : Inv (s.finish i result) :=
  h.resume hget hcall.symm

theorem Inv.update (h : Inv s) {f : RTCSession → RTCSession}
    (hconnection : ∀ session, (f session).connection = session.connection)
    (hpeer : ∀ session, (f session).peerId = session.peerId) : Inv (s.update r f) := by
  have hmap {α : Type} (g : RTCSession → α) (hg : ∀ session, g (f session) = g session)
      (r' : Nat) : ((s.stored.modify r f)[r']?).map g = (s.stored[r']?).map g := by
    rw [List.getElem?_modify, Option.map_eq_map, Option.map_map]
    refine Option.map_congr fun session _ => ?_
    by_cases hr : r = r'
    · simp [hr, hg]
    · simp [hr]
  refine h.congr rfl rfl (fun o => ?_) fun r' => hmap RTCSession.peerId hpeer r'
  cases o with
  | session r' => exact hmap RTCSession.connection hconnection r'
  | call i => rfl

theorem Inv.create (h : Inv s) (hfree : s.ofOwner (.call i) = none)
    (hconnections : s'.connections = s.connections ++ [⟨peerId, false⟩])
    (hsessions : s'.sessions = s.sessions)
    (howner : ∀ o, s'.ofOwner o = if o = .call i then some s.connections.length else s.ofOwner o)
    (hpeer : ∀ r, s'.peerOf r = s.peerOf r) : Inv s' := by
  have hopen {c : Nat} : s'.Open c ↔ s.Open c ∨ c = s.connections.length := by
    rw [Open, Open, hconnections]
    constructor
    · rintro ⟨connection, hget, hclosed⟩
      rcases getElem?_concat_eq_some_iff.mp hget with hget | ⟨rfl, _⟩
      · exact .inl ⟨connection, hget, hclosed⟩
      · exact .inr rfl
    · rintro (⟨connection, hget, hclosed⟩ | rfl)
      · exact ⟨connection, getElem?_concat_eq_some_iff.mpr (.inl hget), hclosed⟩
      · exact ⟨_, getElem?_concat_eq_some_iff.mpr (.inr ⟨rfl, rfl⟩), rfl⟩
  have hcurrent : ∀ o, s'.Current o ↔ s.Current o := by
    intro o
    cases o with
    | session r => rw [Current, Current, hsessions]
    | call i => exact Iff.rfl
  have hcases {o : Owner} {c : Nat} (ho : s'.ofOwner o = some c) :
      (o = .call i ∧ c = s.connections.length) ∨ (o ≠ .call i ∧ s.ofOwner o = some c) := by
    rw [howner] at ho
    split at ho
    · rename_i heq
      exact .inl ⟨heq, (Option.some.inj ho).symm⟩
    · rename_i hne
      exact .inr ⟨hne, ho⟩
  constructor
  · intro peerId r hget
    rw [hpeer]
    exact h.listed peerId r (hsessions ▸ hget)
  · intro o o' c ho ho'
    rcases hcases ho with ⟨rfl, rfl⟩ | ⟨_, ho⟩
    · rcases hcases ho' with ⟨rfl, _⟩ | ⟨_, ho'⟩
      · rfl
      · exact absurd (h.created o' _ ho') (Nat.lt_irrefl _)
    · rcases hcases ho' with ⟨rfl, rfl⟩ | ⟨_, ho'⟩
      · exact absurd (h.created o _ ho) (Nat.lt_irrefl _)
      · exact h.unique o o' c ho ho'
  · intro o c hcur ho
    rw [hopen]
    rcases hcases ho with ⟨_, rfl⟩ | ⟨_, ho⟩
    · exact .inr rfl
    · exact .inl (h.opened o c ((hcurrent o).mp hcur) ho)
  · intro o c ho
    rw [hconnections, List.length_append, List.length_singleton]
    rcases hcases ho with ⟨_, rfl⟩ | ⟨_, ho⟩
    · exact Nat.lt_succ_self _
    · exact Nat.lt_succ_of_lt (h.created o c ho)
  · refine ⟨?_, hsessions ▸ h.accounted.2⟩
    intro c hc
    rcases hopen.mp hc with hc | rfl
    · obtain ⟨o, hcur, ho⟩ := h.accounted.1 c hc
      refine ⟨o, (hcurrent o).mpr hcur, ?_⟩
      rw [howner, if_neg, ho]
      rintro rfl
      rw [hfree] at ho
      cases ho
    · exact ⟨.call i, trivial, by rw [howner, if_pos rfl]⟩

theorem Inv.createClosed (h : Inv s) (peerId : String) :
    Inv ((s.createConnection peerId).close s.connections.length) := by
  have hconnections : ((s.createConnection peerId).close s.connections.length).connections =
      s.connections ++ [⟨peerId, true⟩] := modify_concat _ _ _
  have hopen {c : Nat} :
      ((s.createConnection peerId).close s.connections.length).Open c ↔ s.Open c := by
    rw [Open, Open, hconnections]
    constructor
    · rintro ⟨connection, hget, hclosed⟩
      rcases getElem?_concat_eq_some_iff.mp hget with hget | ⟨_, rfl⟩
      · exact ⟨connection, hget, hclosed⟩
      · cases hclosed
    · rintro ⟨connection, hget, hclosed⟩
      exact ⟨connection, getElem?_concat_eq_some_iff.mpr (.inl hget), hclosed⟩
  have howner (o : Owner) :
      ((s.createConnection peerId).close s.connections.length).ofOwner o = s.ofOwner o := by
    cases o <;> rfl
  have hcurrent (o : Owner) :
      ((s.createConnection peerId).close s.connections.length).Current o ↔ s.Current o := by
    cases o <;> exact Iff.rfl
  constructor
  · exact h.listed
  · intro o o' c ho ho'
    exact h.unique o o' c (howner o ▸ ho) (howner o' ▸ ho')
  · intro o c hcur ho
    exact hopen.mpr (h.opened o c ((hcurrent o).mp hcur) (howner o ▸ ho))
  · intro o c ho
    rw [hconnections, List.length_append]
    exact Nat.lt_of_lt_of_le (h.created o c (howner o ▸ ho)) (Nat.le_add_right _ _)
  · refine ⟨?_, h.accounted.2⟩
    intro c hc
    obtain ⟨o, hcur, ho⟩ := h.accounted.1 c (hopen.mp hc)
    exact ⟨o, (hcurrent o).mpr hcur, (howner o).trans ho⟩

end Invariant

section Drop

theorem calls_closeOf (s : RTCSessionController) (existing : Option RTCSession) :
    (s.closeOf existing).calls = s.calls := by
  cases existing <;> rfl

@[simp] theorem calls_drop (s : RTCSessionController) (peerId : String) :
    (s.drop peerId).calls = s.calls :=
  calls_closeOf s _

theorem stored_closeOf (s : RTCSessionController) (existing : Option RTCSession) :
    (s.closeOf existing).stored = s.stored := by
  cases existing <;> rfl

@[simp] theorem stored_drop (s : RTCSessionController) (peerId : String) :
    (s.drop peerId).stored = s.stored :=
  stored_closeOf s _

theorem ofOwner_of_eq (hstored : s'.stored = s.stored) (hcalls : s'.calls = s.calls) (o : Owner) :
    s'.ofOwner o = s.ofOwner o := by
  cases o with
  | session r => rw [ofOwner, ofOwner, hstored]
  | call i => rw [ofOwner, ofOwner, hcalls]

theorem ofOwner_drop (s : RTCSessionController) (peerId : String) (o : Owner) :
    (s.drop peerId).ofOwner o = s.ofOwner o :=
  ofOwner_of_eq (stored_drop s peerId) (calls_drop s peerId) o

theorem current_drop_of_none (hnone : s.sessions.get? peerId = none) :
    (s.drop peerId).Current o ↔ s.Current o := by
  cases o with
  | call i => exact Iff.rfl
  | session r =>
    constructor
    · rintro ⟨peerId', hget⟩
      exact ⟨peerId', (InsertionMap.get?_delete_eq_some_iff.mp hget).2⟩
    · rintro ⟨peerId', hget⟩
      refine ⟨peerId', InsertionMap.get?_delete_eq_some_iff.mpr ⟨?_, hget⟩⟩
      rintro rfl
      rw [hnone] at hget
      cases hget

theorem Inv.current_drop_iff (h : Inv s) (hget : s.sessions.get? peerId = some r) :
    (s.drop peerId).Current o ↔ s.Current o ∧ o ≠ .session r := by
  have hpeer := h.listed peerId r hget
  cases o with
  | call i => exact ⟨fun _ => ⟨trivial, nofun⟩, fun _ => trivial⟩
  | session r' =>
    constructor
    · rintro ⟨peerId', hget'⟩
      obtain ⟨hne, hget'⟩ := InsertionMap.get?_delete_eq_some_iff.mp hget'
      refine ⟨⟨peerId', hget'⟩, ?_⟩
      rintro ⟨⟩
      have hpeer' := h.listed peerId' r hget'
      rw [hpeer] at hpeer'
      exact hne (Option.some.inj hpeer').symm
    · rintro ⟨⟨peerId', hget'⟩, hne⟩
      refine ⟨peerId', InsertionMap.get?_delete_eq_some_iff.mpr ⟨?_, hget'⟩⟩
      rintro rfl
      rw [hget] at hget'
      exact hne (congrArg Owner.session (Option.some.inj hget').symm)

theorem listed_drop (h : Inv s) (peerId : String) (peerId' : String) (r : Nat)
    (hget : (s.drop peerId).sessions.get? peerId' = some r) :
    (s.drop peerId).peerOf r = some peerId' := by
  rw [peerOf, stored_drop]
  exact h.listed peerId' r (InsertionMap.get?_delete_eq_some_iff.mp hget).2

theorem Inv.drop (h : Inv s) (peerId : String) : Inv (s.drop peerId) := by
  have hsize : (s.drop peerId).sessions.size ≤ maxRtcSessions :=
    Nat.le_trans (InsertionMap.size_delete_le s.sessions peerId) h.accounted.2
  have hunique : ∀ o o' c, (s.drop peerId).ofOwner o = some c →
      (s.drop peerId).ofOwner o' = some c → o = o' := by
    intro o o' c ho ho'
    rw [ofOwner_drop] at ho ho'
    exact h.unique o o' c ho ho'
  cases hget : s.sessions.get? peerId with
  | none =>
    have hconnections : (s.drop peerId).connections = s.connections := by
      rw [RTCSessionController.drop, session?, hget]
      rfl
    have hopen (c : Nat) : (s.drop peerId).Open c ↔ s.Open c := by
      rw [Open, Open, hconnections]
    refine ⟨listed_drop h peerId, hunique, ?_, ?_, ?_, hsize⟩
    · intro o c hcur ho
      rw [ofOwner_drop] at ho
      exact (hopen c).mpr (h.opened o c ((current_drop_of_none hget).mp hcur) ho)
    · intro o c ho
      rw [ofOwner_drop] at ho
      exact hconnections ▸ h.created o c ho
    · intro c hc
      obtain ⟨o, hcur, ho⟩ := h.accounted.1 c ((hopen c).mp hc)
      exact ⟨o, (current_drop_of_none hget).mpr hcur, (ofOwner_drop s peerId o).trans ho⟩
  | some r =>
    obtain ⟨session, hsession, _⟩ := Option.map_eq_some_iff.mp (h.listed peerId r hget)
    have hown : s.ofOwner (.session r) = some session.connection := by
      rw [ofOwner, hsession]
      rfl
    have hconnections : (s.drop peerId).connections =
        (s.close session.connection).connections := by
      rw [RTCSessionController.drop, session?, hget, Option.bind_some, hsession]
      rfl
    have hopen (c : Nat) : (s.drop peerId).Open c ↔ s.Open c ∧ c ≠ session.connection := by
      rw [← open_close, Open, Open, hconnections]
    refine ⟨listed_drop h peerId, hunique, ?_, ?_, ?_, hsize⟩
    · intro o c hcur ho
      rw [ofOwner_drop] at ho
      obtain ⟨hcur, hne⟩ := (h.current_drop_iff hget).mp hcur
      refine (hopen c).mpr ⟨h.opened o c hcur ho, ?_⟩
      rintro rfl
      exact hne (h.unique o _ _ ho hown)
    · intro o c ho
      rw [ofOwner_drop] at ho
      rw [hconnections, close, List.length_modify]
      exact h.created o c ho
    · intro c hc
      obtain ⟨hc, hne⟩ := (hopen c).mp hc
      obtain ⟨o, hcur, ho⟩ := h.accounted.1 c hc
      refine ⟨o, (h.current_drop_iff hget).mpr ⟨hcur, ?_⟩, (ofOwner_drop s peerId o).trans ho⟩
      rintro rfl
      rw [hown] at ho
      exact hne (Option.some.inj ho).symm

theorem Inv.dropExpired (h : Inv s) (now : Nat) (peerId : String) :
    Inv (s.dropExpired now peerId) := by
  unfold RTCSessionController.dropExpired
  split
  · exact h.drop peerId
  · exact h

theorem calls_dropExpired (now : Nat) (s : RTCSessionController) (peerId : String) :
    (s.dropExpired now peerId).calls = s.calls := by
  unfold dropExpired
  split
  · exact calls_drop s peerId
  · rfl

theorem Inv.foldl_dropExpired (h : Inv s) (now : Nat) (peerIds : List String) :
    Inv (peerIds.foldl (RTCSessionController.dropExpired now) s) := by
  induction peerIds generalizing s with
  | nil => exact h
  | cons peerId peerIds ih => exact ih (h.dropExpired now peerId)

theorem calls_foldl_dropExpired (now : Nat) (peerIds : List String) :
    (peerIds.foldl (dropExpired now) s).calls = s.calls := by
  induction peerIds generalizing s with
  | nil => rfl
  | cons peerId peerIds ih => exact ih.trans (calls_dropExpired now s peerId)

theorem Inv.prune (h : Inv s) (now : Nat) : Inv (s.prune now) := by
  apply Inv.foldl_dropExpired
  refine h.congr rfl rfl (fun o => ?_) fun _ => rfl
  cases o <;> rfl

@[simp] theorem calls_prune (s : RTCSessionController) (now : Nat) :
    (s.prune now).calls = s.calls :=
  calls_foldl_dropExpired now _

theorem makeRoom_snd (s : RTCSessionController) : s.makeRoom.2 = true := by
  unfold makeRoom
  split
  · rfl
  · rename_i hfull
    split
    · rename_i hnone
      have hkeys : s.sessions.keys = [] := List.head?_eq_none_iff.mp hnone
      rw [← InsertionMap.length_keys, hkeys] at hfull
      exact absurd (by decide) hfull
    · rfl

theorem makeRoom_fst (s : RTCSessionController) :
    s.makeRoom.1 = s ∨ ∃ peerId, s.makeRoom.1 = s.drop peerId := by
  unfold makeRoom
  split
  · exact .inl rfl
  · split
    · exact .inl rfl
    · rename_i oldest _
      exact .inr ⟨oldest, rfl⟩

theorem Inv.makeRoom (h : Inv s) : Inv s.makeRoom.1 := by
  rcases makeRoom_fst s with heq | ⟨peerId, heq⟩
  · rw [heq]
    exact h
  · rw [heq]
    exact h.drop peerId

theorem calls_makeRoom (s : RTCSessionController) : s.makeRoom.1.calls = s.calls := by
  rcases makeRoom_fst s with heq | ⟨peerId, heq⟩
  · rw [heq]
  · rw [heq, calls_drop]

end Drop

section Reset

theorem session?_closeSession (s : RTCSessionController) (peerId peerId' : String) :
    (s.closeSession peerId).session? peerId' = s.session? peerId' := by
  unfold closeSession
  cases s.session? peerId <;> rfl

theorem open_closeSession (s : RTCSessionController) (peerId : String) :
    (s.closeSession peerId).Open c ↔
      s.Open c ∧ ∀ session, s.session? peerId = some session → c ≠ session.connection := by
  unfold closeSession
  cases s.session? peerId with
  | none => simp [closeOf]
  | some session => simp [closeOf, open_close]

theorem open_foldl_closeSession (peerIds : List String) :
    (peerIds.foldl closeSession s).Open c ↔
      s.Open c ∧ ∀ peerId ∈ peerIds, ∀ session, s.session? peerId = some session →
        c ≠ session.connection := by
  induction peerIds generalizing s with
  | nil => simp
  | cons peerId peerIds ih =>
    rw [List.foldl_cons, ih, open_closeSession]
    simp only [session?_closeSession, List.forall_mem_cons, and_assoc]

theorem ofOwner_foldl_closeSession (peerIds : List String) (o : Owner) :
    (peerIds.foldl closeSession s).ofOwner o = s.ofOwner o := by
  induction peerIds generalizing s with
  | nil => rfl
  | cons peerId peerIds ih =>
    exact ih.trans (ofOwner_of_eq (stored_closeOf s _) (calls_closeOf s _) o)

theorem length_foldl_closeSession (peerIds : List String) :
    (peerIds.foldl closeSession s).connections.length = s.connections.length := by
  induction peerIds generalizing s with
  | nil => rfl
  | cons peerId peerIds ih =>
    refine ih.trans ?_
    unfold closeSession
    cases s.session? peerId with
    | none => rfl
    | some session => exact List.length_modify _ _ _

theorem Inv.reset (h : Inv s) : Inv s.reset := by
  have howner (o : Owner) : s.reset.ofOwner o = s.ofOwner o := by
    refine Eq.trans ?_ (ofOwner_foldl_closeSession s.sessions.keys o)
    cases o <;> rfl
  have hopen (c : Nat) : s.reset.Open c ↔
      s.Open c ∧ ∀ peerId ∈ s.sessions.keys, ∀ session, s.session? peerId = some session →
        c ≠ session.connection :=
    open_foldl_closeSession s.sessions.keys
  constructor
  · exact fun _ _ hget => nomatch hget
  · intro o o' c ho ho'
    exact h.unique o o' c (howner o ▸ ho) (howner o' ▸ ho')
  · intro o c hcur ho
    rw [howner] at ho
    cases o with
    | session r =>
      obtain ⟨peerId, hget⟩ := hcur
      cases hget
    | call i =>
      refine (hopen c).mpr ⟨h.opened (.call i) c trivial ho, ?_⟩
      rintro peerId - session hsession rfl
      obtain ⟨r, -, hstored⟩ := Option.bind_eq_some_iff.mp hsession
      have hown : s.ofOwner (.session r) = some session.connection := by
        rw [ofOwner, hstored]
        rfl
      cases h.unique _ _ _ ho hown
  · intro o c ho
    rw [howner] at ho
    have hlength : s.reset.connections.length = s.connections.length :=
      length_foldl_closeSession s.sessions.keys
    exact hlength ▸ h.created o c ho
  · refine ⟨?_, Nat.zero_le _⟩
    intro c hc
    obtain ⟨hc, hne⟩ := (hopen c).mp hc
    obtain ⟨o, hcur, ho⟩ := h.accounted.1 c hc
    cases o with
    | call i => exact ⟨.call i, trivial, (howner _).trans ho⟩
    | session r =>
      obtain ⟨peerId, hget⟩ := hcur
      obtain ⟨session, hstored, rfl⟩ := Option.map_eq_some_iff.mp ho
      refine absurd rfl (hne peerId ?_ session ?_)
      · rw [InsertionMap.mem_keys_iff, InsertionMap.has, hget]
        rfl
      · rw [session?, hget]
        exact hstored

end Reset

section Start

theorem Inv.acceptCapabilities (h : Inv s) (peerId : String) (now expiresAt : Nat) :
    Inv (s.acceptCapabilities peerId now expiresAt) := by
  unfold RTCSessionController.acceptCapabilities
  dsimp only
  split
  · exact h.prune now
  · exact (h.prune now).congr rfl rfl (fun o => by cases o <;> rfl) fun _ => rfl

theorem start_eq (s : RTCSessionController) (peerId : String) (now : Nat)
    (created : Option (Option RTCDataChannel)) :
    s.start peerId now created =
      if (s.prune now).canStart peerId now then
        (s.prune now).makeRoom.1.startConnection peerId now created
      else (s.prune now).begin (.returned .notStarted) := by
  unfold start
  dsimp only
  split
  · split
    · rfl
    · rename_i hroom
      exact absurd (makeRoom_snd _) hroom
  · rfl

theorem Inv.startConnection (h : Inv s) (peerId : String) (now : Nat)
    {created : Option (Option RTCDataChannel)} (hcreated : created ≠ some none) :
    Inv (s.startConnection peerId now created) := by
  unfold RTCSessionController.startConnection
  split
  · exact h.begin rfl
  · dsimp only
    split
    · exact absurd rfl hcreated
    · split
      · exact h.create (ofOwner_length s) rfl rfl (ofOwner_begin _ _) fun _ => rfl
      · exact (h.createClosed peerId).begin rfl

theorem not_accounted_createConnection (h : Inv s) (peerId : String) (result : RTCResult) :
    ¬ ((s.createConnection peerId).begin (.returned result)).Accounted := by
  intro hacc
  have hopen : ((s.createConnection peerId).begin (.returned result)).Open
      s.connections.length :=
    ⟨⟨peerId, false⟩, List.getElem?_concat_length, rfl⟩
  obtain ⟨o, -, ho⟩ := hacc.1 _ hopen
  rw [ofOwner_begin] at ho
  split at ho
  · cases ho
  · exact absurd (h.created o _ ho) (Nat.lt_irrefl _)

theorem Inv.start_iff (h : Inv s) (peerId : String) (now : Nat)
    (created : Option (Option RTCDataChannel)) :
    ((s.start peerId now created).Accounted →
        (s.prune now).canStart peerId now = true → created ≠ some none) ∧
      (((s.prune now).canStart peerId now = true → created ≠ some none) →
        Inv (s.start peerId now created)) := by
  rw [start_eq]
  split
  · rename_i hcan
    refine ⟨?_, fun hcreated => (h.prune now).makeRoom.startConnection peerId now (hcreated hcan)⟩
    rintro hacc - rfl
    exact not_accounted_createConnection (h.prune now).makeRoom peerId .failed hacc
  · rename_i hcan
    exact ⟨fun _ htrue => absurd htrue hcan, fun _ => (h.prune now).begin rfl⟩

end Start

section Receive

theorem Inv.receiveCandidate (h : Inv s) (peerId : String) (candidate : RtcCandidate)
    (now : Nat) : Inv (s.receiveCandidate peerId candidate now) := by
  unfold RTCSessionController.receiveCandidate
  dsimp only
  split
  · exact h.begin rfl
  split
  · split
    · exact h.begin rfl
    split
    · exact h.begin rfl
    split
    · exact h.begin rfl
    split
    · exact h.begin rfl
    split
    · split
      · exact h.begin rfl
      · refine (h.update ?_ ?_).begin rfl
        · exact fun _ => rfl
        · exact fun _ => rfl
    split
    · exact h.begin rfl
    · exact h.begin rfl
  · exact h.begin rfl

theorem Inv.receiveCancel (h : Inv s) (peerId : String) (cancel : RtcCancel) :
    Inv (s.receiveCancel peerId cancel) := by
  unfold RTCSessionController.receiveCancel
  split
  · exact h.begin rfl
  · split
    · exact h.begin rfl
    · exact (h.drop peerId).begin rfl

theorem Inv.receive (h : Inv s) (peerId : String) (signal : RTCSignal) (now origin : Nat) :
    Inv (s.receive peerId signal now origin) := by
  unfold RTCSessionController.receive
  dsimp only
  split
  · exact (h.prune now).begin rfl
  · exact (h.prune now).begin rfl
  · exact (h.prune now).receiveCandidate peerId _ now
  · exact (h.prune now).receiveCancel peerId _

theorem Inv.acceptOffer (h : Inv s) (hget : s.calls[i]? = some call)
    (hcall : call.connection? = none) (peerId : String) (offer : RtcOffer) (now : Nat)
    (created : Bool) : Inv (s.acceptOffer i peerId offer now created) := by
  have hget' : s.makeRoom.1.calls[i]? = some call := by rw [calls_makeRoom, hget]
  unfold RTCSessionController.acceptOffer
  dsimp only
  split
  · exact h.makeRoom.finish hget' hcall _
  · split
    · exact h.makeRoom.finish hget' hcall _
    · have hfree : s.makeRoom.1.ofOwner (.call i) = none := by rw [ofOwner_call hget', hcall]
      exact h.makeRoom.create hfree rfl rfl
        (ofOwner_resume (s := s.makeRoom.1.createConnection peerId) hget' _) fun _ => rfl

theorem Inv.receiveOffer (h : Inv s) (hget : s.calls[i]? = some call)
    (hcall : call.connection? = none) (peerId : String) (offer : RtcOffer) (now : Nat)
    (created : Bool) : Inv (s.receiveOffer i peerId offer now created) := by
  unfold RTCSessionController.receiveOffer
  split
  · exact h.finish hget hcall _
  · split
    · exact h.acceptOffer hget hcall peerId offer now created
    · split
      · split
        · exact h.finish hget hcall _
        · have hget' : (s.drop peerId).calls[i]? = some call := by rw [calls_drop, hget]
          exact (h.drop peerId).acceptOffer hget' hcall peerId offer now created
      · split
        · exact h.finish hget hcall _
        · exact h.finish hget hcall _

theorem Inv.receiveAnswer (h : Inv s) (hget : s.calls[i]? = some call)
    (hcall : call.connection? = none) (peerId : String) (answer : RtcAnswer)
    (now origin : Nat) : Inv (s.receiveAnswer i peerId answer now origin) := by
  unfold RTCSessionController.receiveAnswer
  split
  · exact h.finish hget hcall _
  · split
    · split
      · exact h.finish hget hcall _
      · split
        · exact h.finish hget hcall _
        · split
          · exact h.finish hget hcall _
          · exact h.resume hget hcall.symm
    · exact h.finish hget hcall _

theorem Inv.validated (h : Inv s) (i : Nat) (created : Bool) : Inv (s.validated i created) := by
  unfold RTCSessionController.validated
  split
  · rename_i hget
    exact h.receiveOffer hget rfl _ _ _ created
  · rename_i hget
    exact h.receiveAnswer hget rfl _ _ _ _
  · exact h

end Receive

section SetUp

theorem Inv.not_accounted_finish (h : Inv s) {setup : RTCSetup} {stage : RTCSetupStage}
    (hget : s.calls[i]? = some (.settingUp setup stage)) (result : RTCResult) :
    ¬ (s.finish i result).Accounted := by
  intro hacc
  have hown : s.ofOwner (.call i) = some setup.connection := ofOwner_call hget
  have hopen : (s.finish i result).Open setup.connection := h.opened (.call i) _ trivial hown
  obtain ⟨o, -, ho⟩ := hacc.1 _ hopen
  rw [RTCSessionController.finish, ofOwner_resume hget] at ho
  split at ho
  · cases ho
  · rename_i hne
    exact hne (h.unique _ _ _ ho hown)

theorem Inv.applyPending (h : Inv s) (hget : s.calls[i]? = some call)
    (hcall : call.connection? = none) (r now : Nat) : Inv (s.applyPending i r now) := by
  unfold RTCSessionController.applyPending
  split
  · refine (h.update ?_ ?_).resume hget hcall.symm
    · exact fun _ => rfl
    · exact fun _ => rfl
  · refine (h.update ?_ ?_).finish hget hcall _
    · exact fun _ => rfl
    · exact fun _ => rfl

theorem Inv.remoteApplied (h : Inv s) {ok : Bool} (hsetUp : s.SetUp (.remoteApplied i ok)) :
    Inv (s.remoteApplied i ok) := by
  unfold RTCSessionController.remoteApplied
  split
  · rename_i setup hget
    rw [if_pos (hsetUp setup hget)]
    exact h.resume hget rfl
  · rename_i hget
    split
    · refine (h.update ?_ ?_).applyPending hget rfl _ _
      · exact fun _ => rfl
      · exact fun _ => rfl
    · exact h.finish hget rfl _
  · exact h

theorem Inv.described (h : Inv s) {description : Option String}
    (hsetUp : s.SetUp (.described i description)) : Inv (s.described i description) := by
  unfold RTCSessionController.described
  split
  · rename_i setup hget
    split
    · exact h.resume hget rfl
    · exact absurd rfl (hsetUp setup hget)
  · exact h

theorem Inv.hashed (h : Inv s) (hsetUp : s.SetUp (.hashed i)) : Inv (s.hashed i) := by
  unfold RTCSessionController.hashed
  split
  · rename_i setup description hget
    split
    · exact h.resume hget rfl
    · rename_i herror
      have hok := hsetUp setup description hget
      rw [herror] at hok
      cases hok
  · exact h

theorem Inv.candidateAdded (h : Inv s) (i : Nat) (ok : Bool) : Inv (s.candidateAdded i ok) := by
  unfold RTCSessionController.candidateAdded
  split
  · rename_i hget
    split
    · refine (h.update ?_ ?_).applyPending hget rfl _ _
      · exact fun _ => rfl
      · exact fun _ => rfl
    · exact h.applyPending hget rfl _ _
  · rename_i hget
    split
    · refine (h.update ?_ ?_).finish hget rfl _
      · exact fun _ => rfl
      · exact fun _ => rfl
    · exact h.finish hget rfl _
  · exact h

theorem Inv.sent (h : Inv s) (i : Nat) (ok : Bool) : Inv (s.sent i ok) := by
  unfold RTCSessionController.sent
  split
  · rename_i peerId r hget
    split
    · exact h.finish hget rfl _
    · have hget' : (s.drop peerId).calls[i]? = some (.sending peerId r) := by
        rw [calls_drop, hget]
      exact (h.drop peerId).finish hget' rfl _
  · exact h

theorem Inv.localCandidate (h : Inv s) (r : Nat) (candidate : String) :
    Inv (s.localCandidate r candidate).1 := by
  unfold RTCSessionController.localCandidate
  split
  · exact h
  · split
    · exact h
    · exact h.update (fun _ => rfl) fun _ => rfl

end SetUp

section Store

variable {session : RTCSession} {stage : RTCSetupStage} {setup : RTCSetup}

theorem ofOwner_store (hget : s.calls[i]? = some call) (session : RTCSession) (o : Owner) :
    (s.store i session).ofOwner o =
      if o = .call i then none
      else if o = .session s.stored.length then some session.connection else s.ofOwner o := by
  cases o with
  | call j =>
    rw [if_neg (show Owner.call j ≠ .session s.stored.length from nofun)]
    exact ofOwner_resume hget (.sending session.peerId s.stored.length) (.call j)
  | session r =>
    rw [if_neg (show Owner.session r ≠ .call i from nofun)]
    change ((s.stored ++ [session])[r]?).map RTCSession.connection = _
    split
    · rename_i heq
      cases heq
      rw [List.getElem?_concat_length]
      rfl
    · rename_i hne
      rcases Nat.lt_or_ge r s.stored.length with hlt | hge
      · rw [List.getElem?_append_left hlt]
        rfl
      · have hgt : s.stored.length < r :=
          Nat.lt_of_le_of_ne hge fun heq => hne (congrArg Owner.session heq.symm)
        rw [ofOwner, List.getElem?_eq_none hge, List.getElem?_eq_none (by simp; omega)]

theorem ofOwner_session_length (s : RTCSessionController) :
    s.ofOwner (.session s.stored.length) = none := by
  rw [ofOwner, List.getElem?_eq_none (Nat.le_refl _)]
  rfl

theorem peerOf_store {peerId : String} (h : s.peerOf r = some peerId) (session : RTCSession) :
    (s.store i session).peerOf r = some peerId := by
  obtain ⟨old, hget, rfl⟩ := Option.map_eq_some_iff.mp h
  change ((s.stored ++ [session])[r]?).map RTCSession.peerId = _
  rw [List.getElem?_append_left (List.getElem?_eq_some_iff.mp hget).1, hget]
  rfl

/-- A session is stored. Its connection was the set-up's, and nothing is lost when the table
had no session for the peer. -/
theorem Inv.store (h : Inv s) (hget : s.calls[i]? = some (.settingUp setup stage))
    (hconnection : session.connection = setup.connection)
    (hnone : s.sessions.get? session.peerId = none) (hroom : s.sessions.size < maxRtcSessions) :
    Inv (s.store i session) := by
  have hown : s.ofOwner (.call i) = some setup.connection := ofOwner_call hget
  have hcases {o : Owner} {c : Nat} (ho : (s.store i session).ofOwner o = some c) :
      (o = .session s.stored.length ∧ c = setup.connection) ∨
        (o ≠ .call i ∧ o ≠ .session s.stored.length ∧ s.ofOwner o = some c) := by
    rw [ofOwner_store hget] at ho
    split at ho
    · cases ho
    · rename_i hcall
      split at ho
      · rename_i hsession
        exact .inl ⟨hsession, (Option.some.inj ho).symm.trans hconnection⟩
      · rename_i hsession
        exact .inr ⟨hcall, hsession, ho⟩
  have hnew : (s.store i session).ofOwner (.session s.stored.length) =
      some setup.connection := by
    rw [ofOwner_store hget, if_neg nofun, if_pos rfl, hconnection]
  have hlisted {peerId : String} {r : Nat}
      (hr : (s.store i session).sessions.get? peerId = some r) :
      (peerId = session.peerId ∧ r = s.stored.length) ∨ s.sessions.get? peerId = some r := by
    have hr : (s.sessions.set session.peerId s.stored.length).get? peerId = some r := hr
    by_cases heq : peerId = session.peerId
    · subst heq
      rw [InsertionMap.get?_set_self] at hr
      exact .inl ⟨rfl, (Option.some.inj hr).symm⟩
    · rw [InsertionMap.get?_set_of_ne heq] at hr
      exact .inr hr
  have hcurrent {o : Owner} (hcur : s.Current o) : (s.store i session).Current o := by
    cases o with
    | call j => trivial
    | session r =>
      obtain ⟨peerId, hr⟩ := hcur
      refine ⟨peerId, ?_⟩
      have hne : peerId ≠ session.peerId := by
        rintro rfl
        rw [hnone] at hr
        cases hr
      exact (InsertionMap.get?_set_of_ne hne _).trans hr
  constructor
  · intro peerId r hr
    rcases hlisted hr with ⟨rfl, rfl⟩ | hr
    · change ((s.stored ++ [session])[s.stored.length]?).map RTCSession.peerId = _
      rw [List.getElem?_concat_length]
      rfl
    · exact peerOf_store (h.listed peerId r hr) session
  · intro o o' c ho ho'
    rcases hcases ho with ⟨rfl, rfl⟩ | ⟨hcall, -, ho⟩
    · rcases hcases ho' with ⟨rfl, _⟩ | ⟨hcall', -, ho'⟩
      · rfl
      · exact absurd (h.unique _ _ _ ho' hown) hcall'
    · rcases hcases ho' with ⟨rfl, rfl⟩ | ⟨_, -, ho'⟩
      · exact absurd (h.unique _ _ _ ho hown) hcall
      · exact h.unique o o' c ho ho'
  · intro o c hcur ho
    rcases hcases ho with ⟨_, rfl⟩ | ⟨_, hne, ho⟩
    · exact h.opened (.call i) _ trivial hown
    · refine h.opened o c ?_ ho
      cases o with
      | call j => trivial
      | session r =>
        obtain ⟨peerId, hr⟩ := hcur
        rcases hlisted hr with ⟨_, rfl⟩ | hr
        · exact absurd rfl hne
        · exact ⟨peerId, hr⟩
  · intro o c ho
    rcases hcases ho with ⟨_, rfl⟩ | ⟨_, -, ho⟩
    · exact h.created _ _ hown
    · exact h.created o c ho
  · refine ⟨?_, Nat.le_trans (InsertionMap.size_set_le s.sessions _ _) hroom⟩
    intro c hc
    obtain ⟨o, hcur, ho⟩ := h.accounted.1 c hc
    by_cases hcall : o = .call i
    · subst hcall
      rw [hown] at ho
      obtain rfl := Option.some.inj ho
      exact ⟨.session s.stored.length,
        ⟨session.peerId, InsertionMap.get?_set_self _ _ _⟩, hnew⟩
    · refine ⟨o, hcurrent hcur, ?_⟩
      rw [ofOwner_store hget, if_neg hcall, if_neg, ho]
      rintro rfl
      rw [ofOwner_session_length] at ho
      cases ho

theorem Inv.get?_of_store (h : Inv s) (hget : s.calls[i]? = some (.settingUp setup stage))
    (hconnection : session.connection = setup.connection)
    (hacc : (s.store i session).Accounted) : s.sessions.get? session.peerId = none := by
  cases hold : s.sessions.get? session.peerId with
  | none => rfl
  | some r =>
    exfalso
    have hown : s.ofOwner (.call i) = some setup.connection := ofOwner_call hget
    have hpeer := h.listed session.peerId r hold
    obtain ⟨old, hstored, -⟩ := Option.map_eq_some_iff.mp hpeer
    have hold' : s.ofOwner (.session r) = some old.connection := by
      rw [ofOwner, hstored]
      rfl
    have hopen : (s.store i session).Open old.connection :=
      h.opened (.session r) _ ⟨session.peerId, hold⟩ hold'
    obtain ⟨o, hcur, ho⟩ := hacc.1 _ hopen
    rw [ofOwner_store hget] at ho
    split at ho
    · cases ho
    · split at ho
      · rw [hconnection] at ho
        rw [← Option.some.inj ho] at hold'
        cases h.unique _ _ _ hold' hown
      · rename_i hne
        obtain rfl := h.unique _ _ _ ho hold'
        obtain ⟨peerId, hr⟩ := hcur
        have hr : (s.sessions.set session.peerId s.stored.length).get? peerId = some r := hr
        by_cases heq : peerId = session.peerId
        · rw [heq, InsertionMap.get?_set_self] at hr
          exact hne (congrArg Owner.session (Option.some.inj hr).symm)
        · rw [InsertionMap.get?_set_of_ne heq] at hr
          have hpeer' := h.listed peerId r hr
          rw [hpeer] at hpeer'
          exact heq (Option.some.inj hpeer').symm

theorem size_of_store (hnone : s.sessions.get? session.peerId = none)
    (hacc : (s.store i session).Accounted) : s.sessions.size < maxRtcSessions := by
  have hkeys : session.peerId ∉ s.sessions.keys := by
    rw [InsertionMap.mem_keys_iff, InsertionMap.has, hnone]
    exact Bool.false_ne_true
  have hsize : (s.sessions.set session.peerId s.stored.length).size ≤ maxRtcSessions := hacc.2
  rw [← InsertionMap.length_keys, InsertionMap.keys_set, if_neg hkeys, List.length_append,
    InsertionMap.length_keys] at hsize
  exact hsize

theorem Inv.localApplied (h : Inv s) {ok : Bool} {newSessionId : String}
    (hsetUp : s.SetUp (.localApplied i ok newSessionId))
    (hroom : s.RoomToStore (.localApplied i ok newSessionId)) :
    Inv (s.localApplied i ok newSessionId).1 := by
  unfold RTCSessionController.localApplied
  split
  · rename_i setup description digest fingerprint hget
    rw [if_pos (hsetUp setup description digest fingerprint hget)]
    obtain ⟨hnone, hsize⟩ := hroom setup description digest fingerprint hget
    exact h.store hget rfl hnone hsize
  · exact h

end Store

section Step

variable {e : RTCEvent}

theorem Inv.next (h : Inv s) (hsmooth : s.Smooth e) : Inv (s.next e) := by
  obtain ⟨hchannel, hsetUp, hroom⟩ := hsmooth
  cases e with
  | acceptCapabilities peerId now expiresAt => exact h.acceptCapabilities peerId now expiresAt
  | start peerId now created => exact (h.start_iff peerId now created).2 hchannel
  | receive peerId signal now origin => exact h.receive peerId signal now origin
  | validated i created => exact h.validated i created
  | remoteApplied i ok => exact h.remoteApplied hsetUp
  | described i description => exact h.described hsetUp
  | hashed i => exact h.hashed hsetUp
  | localApplied i ok newSessionId => exact h.localApplied hsetUp hroom
  | sent i ok => exact h.sent i ok
  | candidateAdded i ok => exact h.candidateAdded i ok
  | localCandidate r candidate => exact h.localCandidate r candidate
  | prune now => exact h.prune now
  | reset => exact h.reset

theorem Inv.setUp (h : Inv s) (hacc : (s.next e).Accounted) : s.SetUp e := by
  cases e with
  | remoteApplied i ok =>
    intro setup hget
    cases ok with
    | true => rfl
    | false =>
      change (s.remoteApplied i false).Accounted at hacc
      rw [RTCSessionController.remoteApplied, hget] at hacc
      exact absurd hacc (h.not_accounted_finish hget _)
  | described i description =>
    rintro setup hget rfl
    change (s.described i none).Accounted at hacc
    rw [RTCSessionController.described, hget] at hacc
    exact h.not_accounted_finish hget _ hacc
  | hashed i =>
    intro setup description hget
    change (s.hashed i).Accounted at hacc
    rw [RTCSessionController.hashed, hget] at hacc
    dsimp only at hacc
    cases hdescribe : describe description with
    | ok _ => rfl
    | error _ =>
      rw [hdescribe] at hacc
      exact absurd hacc (h.not_accounted_finish hget _)
  | localApplied i ok newSessionId =>
    intro setup description digest fingerprint hget
    cases ok with
    | true => rfl
    | false =>
      change (s.localApplied i false newSessionId).1.Accounted at hacc
      rw [RTCSessionController.localApplied, hget] at hacc
      exact absurd hacc (h.not_accounted_finish hget _)
  | acceptCapabilities _ _ _ | start _ _ _ | receive _ _ _ _ | validated _ _ | sent _ _
  | candidateAdded _ _ | localCandidate _ _ | prune _ | reset => trivial

theorem Inv.roomToStore (h : Inv s) (hacc : (s.next e).Accounted) : s.RoomToStore e := by
  cases e with
  | localApplied i ok newSessionId =>
    intro setup description digest fingerprint hget
    obtain rfl : ok = true := h.setUp hacc setup description digest fingerprint hget
    change (s.localApplied i true newSessionId).1.Accounted at hacc
    rw [RTCSessionController.localApplied, hget] at hacc
    have hnone := h.get?_of_store hget rfl hacc
    exact ⟨hnone, size_of_store hnone hacc⟩
  | acceptCapabilities _ _ _ | start _ _ _ | receive _ _ _ _ | validated _ _
  | remoteApplied _ _ | described _ _ | hashed _ | sent _ _ | candidateAdded _ _
  | localCandidate _ _ | prune _ | reset => trivial

theorem Inv.channelCreated (h : Inv s) (hacc : (s.next e).Accounted) : s.ChannelCreated e := by
  cases e with
  | start peerId now created => exact (h.start_iff peerId now created).1 hacc
  | acceptCapabilities _ _ _ | receive _ _ _ _ | validated _ _ | remoteApplied _ _
  | described _ _ | hashed _ | localApplied _ _ _ | sent _ _ | candidateAdded _ _
  | localCandidate _ _ | prune _ | reset => trivial

end Step

/-- After every step each connection that was created is closed, or is that of a session in
the table, or is still being set up, and the table is within its limit, exactly in the runs in
which no set-up fails and none ends when the table has a session for the peer or is full. -/
theorem meets_accounted_iff (localPeerId : String) (events : List RTCEvent) :
    Trace.Meets next (fun s e => (s.next e).Accounted) { localPeerId } events ↔
      Trace.Meets next Smooth { localPeerId } events := by
  refine Trace.meets_congr_of_meets (P := Inv) (fun _ _ h hsmooth => h.next hsmooth) ?_
    (inv_init localPeerId) events
  intro s e h
  constructor
  · intro hacc
    exact ⟨h.channelCreated hacc, h.setUp hacc, h.roomToStore hacc⟩
  · intro hsmooth
    exact (h.next hsmooth).accounted

section Sample

def sampleDataChannel : RTCDataChannel := ⟨rtcDataChannelLabel, true, false, none, none⟩

def failedOffer : List RTCEvent :=
  [.acceptCapabilities "peer" 0 1000, .start "peer" 0 (some (some sampleDataChannel)),
    .described 0 none]

/-- The call has ended, and no session was stored, but the connection is open. -/
theorem not_accounted_failedOffer :
    ¬ ∀ localPeerId events,
      Trace.Meets next (fun s e => (s.next e).Accounted) { localPeerId } events := by
  intro h
  obtain ⟨-, -, hacc, -⟩ := h "local" failedOffer
  obtain ⟨o, -, ho⟩ := hacc.1 0 ⟨⟨"peer", false⟩, by decide, rfl⟩
  cases o with
  | session r => cases ho
  | call i =>
    cases i with
    | zero => exact absurd ho (by decide)
    | succ i => exact absurd ho (by exact nofun)

end Sample

end RTCSessionController

end Branch.Pwa
