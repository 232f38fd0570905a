import Branch.Lib.ListModify
import Branch.Lib.Trace
import Mathlib.Data.List.Nodup

/-!
The echo service of one relay, and the one of many, while they are started and stopped.
-/

namespace Branch.Core

open Branch.Lib

section Client

/-- What `attach` waits for, one after the other: an open socket, the challenge, the
verification and the proof, the last frame of the relay. What comes then is up to its caller. -/
inductive AttachStage where
  | opening
  | challenge
  | proof
  | ready
  | attached
  | started
  | failed
  deriving DecidableEq

structure RelayClient where
  socket : Bool := true
  ready : Bool := false
  stage : AttachStage := .opening
  deriving DecidableEq

namespace RelayClient

def disconnect (c : RelayClient) : RelayClient := { c with socket := false, ready := false }

/-- `attach` goes on with what it waited for. What it sends needs the socket. -/
def attach (c : RelayClient) : RelayClient :=
  match c.stage with
  | .opening => { c with stage := if c.socket then .challenge else .failed }
  | .challenge => { c with stage := .proof }
  | .proof => { c with stage := if c.socket then .ready else .failed }
  | .ready => { c with ready := true, stage := .attached }
  | _ => c

/-- What `attach` waits for fails, or what its caller sends. -/
def reject (c : RelayClient) : RelayClient :=
  if c.stage = .started then c else { c with stage := .failed }

end RelayClient

end Client

section Service

structure EchoTestService where
  clients : List RelayClient := []
  client : Option Nat := none
  heartbeatTimer : Bool := false
  /-- The timers that run. -/
  timers : Nat := 0

inductive ClientEvent where
  | attach (i : Nat)
  | reject (i : Nat)
  | resume (i : Nat)
  | close (i : Nat)

inductive EchoEvent where
  | start
  | stop
  | client (event : ClientEvent)

namespace EchoTestService

def stop (s : EchoTestService) : EchoTestService where
  clients := s.client.elim s.clients fun i => s.clients.modify i .disconnect
  client := none
  heartbeatTimer := false
  timers := if s.heartbeatTimer then s.timers - 1 else s.timers

/-- `start` up to where it waits for the client. -/
def start (s : EchoTestService) : EchoTestService :=
  { s.stop with clients := s.stop.clients ++ [{}], client := some s.clients.length }

/-- The rest of `start`: the client announces itself, which throws without a socket, and the
timer of the heartbeats is set. -/
def started (s : EchoTestService) (i : Nat) : EchoTestService :=
  match s.clients[i]? with
  | none => s
  | some c =>
    if c.stage ≠ .attached then s
    else if c.socket && c.ready then
      { s with
        clients := s.clients.modify i fun c => { c with stage := .started }
        heartbeatTimer := true
        timers := s.timers + 1 }
    else { s with clients := s.clients.modify i .reject }

def onClient (s : EchoTestService) : ClientEvent → EchoTestService
  | .attach i => { s with clients := s.clients.modify i .attach }
  | .reject i => { s with clients := s.clients.modify i .reject }
  | .resume i => s.started i
  | .close i => { s with clients := s.clients.modify i .disconnect }

def next (s : EchoTestService) : EchoEvent → EchoTestService
  | .start => s.start
  | .stop => s.stop
  | .client event => s.onClient event

structure Quiet (s : EchoTestService) : Prop where
  detached : ∀ c ∈ s.clients, c.socket = false
  timers : s.timers = 0

/-- The only client with a socket is the one of the service, and the only timer is that of a
client that was started. -/
structure Owned (s : EchoTestService) : Prop where
  socket : ∀ i c, s.clients[i]? = some c → c.socket = true → s.client = some i
  timers : s.timers = if s.heartbeatTimer then 1 else 0
  heartbeat : s.heartbeatTimer = true →
    ∃ i c, s.client = some i ∧ s.clients[i]? = some c ∧ c.stage = .started

variable {s : EchoTestService}

theorem owned_init : ({} : EchoTestService).Owned :=
  ⟨fun i c h => by simp at h, rfl, fun h => by cases h⟩

theorem Owned.quiet_stop (h : s.Owned) : s.stop.Quiet := by
  constructor
  · intro c hc
    obtain ⟨i, hi⟩ := List.getElem?_of_mem hc
    by_contra hsocket
    have hsocket : c.socket = true := by simpa using hsocket
    cases hclient : s.client with
    | none =>
      have hget : s.clients[i]? = some c := by simpa [stop, hclient] using hi
      have howner := h.socket i c hget hsocket
      rw [hclient] at howner
      cases howner
    | some j =>
      have hget : (s.clients.modify j .disconnect)[i]? = some c := by
        simpa [stop, hclient] using hi
      obtain ⟨old, hold, ⟨-, rfl⟩ | ⟨hne, rfl⟩⟩ := of_getElem?_modify hget
      · cases hsocket
      · have howner := h.socket i c hold hsocket
        rw [hclient] at howner
        exact hne (Option.some.inj howner)
  · have htimers := h.timers
    change (if s.heartbeatTimer then s.timers - 1 else s.timers) = 0
    split_ifs at htimers ⊢ <;> omega

theorem Quiet.owned_start (h : s.stop.Quiet) : s.start.Owned := by
  constructor
  · intro i c hget hsocket
    rcases getElem?_concat_eq_some_iff.mp hget with hold | ⟨rfl, -⟩
    · rw [h.detached c (List.mem_of_getElem? hold)] at hsocket
      cases hsocket
    · simp [start, stop]
      cases s.client <;> simp
  · exact h.timers
  · intro hheartbeat
    cases hheartbeat

theorem quiet_iff_of_modify {i : Nat} {f : RelayClient → RelayClient}
    (hf : ∀ c, (f c).socket = true → c.socket = true) (h : s.Quiet) :
    Quiet { s with clients := s.clients.modify i f } := by
  refine ⟨fun c hc => ?_, h.timers⟩
  obtain ⟨j, hj⟩ := List.getElem?_of_mem hc
  obtain ⟨old, hold, ⟨-, rfl⟩ | ⟨-, rfl⟩⟩ := of_getElem?_modify hj
  · have hdetached := h.detached old (List.mem_of_getElem? hold)
    by_contra hsocket
    rw [hf old (by simpa using hsocket)] at hdetached
    cases hdetached
  · exact h.detached _ (List.mem_of_getElem? hold)

theorem Owned.modify {i : Nat} {f : RelayClient → RelayClient}
    (hf : ∀ c, (f c).socket = true → c.socket = true)
    (hstage : ∀ c, c.stage = .started → (f c).stage = .started) (h : s.Owned) :
    Owned { s with clients := s.clients.modify i f } := by
  refine ⟨fun j c hget hsocket => ?_, h.timers, fun hheartbeat => ?_⟩
  · obtain ⟨old, hold, ⟨-, rfl⟩ | ⟨-, rfl⟩⟩ := of_getElem?_modify hget
    · exact h.socket j old hold (hf old hsocket)
    · exact h.socket j c hold hsocket
  · obtain ⟨j, c, hclient, hget, hstarted⟩ := h.heartbeat hheartbeat
    refine ⟨j, if i = j then f c else c, hclient, ?_, ?_⟩
    · rw [List.getElem?_modify, hget]
      rfl
    · split_ifs
      · exact hstage c hstarted
      · exact hstarted

theorem socket_attach (c : RelayClient) : c.attach.socket = c.socket := by
  unfold RelayClient.attach
  split <;> rfl

theorem started_attach {c : RelayClient} (h : c.stage = .started) : c.attach.stage = .started := by
  rw [RelayClient.attach, h]
  exact h

theorem socket_reject (c : RelayClient) : c.reject.socket = c.socket := by
  unfold RelayClient.reject
  split <;> rfl

theorem started_reject {c : RelayClient} (h : c.stage = .started) : c.reject.stage = .started := by
  rw [RelayClient.reject, if_pos h, h]

theorem Owned.onClient (h : s.Owned) (event : ClientEvent) : (s.onClient event).Owned := by
  cases event with
  | attach i => exact h.modify (fun c => (socket_attach c).symm.trans) fun _ => started_attach
  | reject i => exact h.modify (fun c => (socket_reject c).symm.trans) fun _ => started_reject
  | close i => exact h.modify (fun c hsocket => by cases hsocket) fun _ => id
  | resume i =>
    change (s.started i).Owned
    unfold started
    split
    · exact h
    · rename_i c hget
      split
      · exact h
      · rename_i hattached
        split
        · rename_i hready
          rw [Bool.and_eq_true] at hready
          have hclient := h.socket i c hget hready.1
          have hidle : s.heartbeatTimer = false := by
            by_contra hheartbeat
            obtain ⟨j, d, hj, hd, hstarted⟩ := h.heartbeat (by simpa using hheartbeat)
            obtain rfl := Option.some.inj (hclient.symm.trans hj)
            obtain rfl := Option.some.inj (hget.symm.trans hd)
            exact hattached (by rw [hstarted]; decide)
          have htimers := h.timers
          rw [hidle] at htimers
          refine ⟨fun j d hd hsocket => ?_, by simp [htimers], fun _ => ?_⟩
          · obtain ⟨old, hold, ⟨-, rfl⟩ | ⟨-, rfl⟩⟩ := of_getElem?_modify hd
            · exact h.socket j old hold hsocket
            · exact h.socket j d hold hsocket
          · refine ⟨i, { c with stage := .started }, hclient, ?_, rfl⟩
            rw [List.getElem?_modify, hget]
            simp
        · exact h.modify (fun c => (socket_reject c).symm.trans) fun _ => started_reject

theorem Quiet.onClient (h : s.Quiet) (event : ClientEvent) : (s.onClient event).Quiet := by
  cases event with
  | attach i => exact quiet_iff_of_modify (fun c => (socket_attach c).symm.trans) h
  | reject i => exact quiet_iff_of_modify (fun c => (socket_reject c).symm.trans) h
  | close i => exact quiet_iff_of_modify (fun c hsocket => by cases hsocket) h
  | resume i =>
    change (s.started i).Quiet
    unfold started
    split
    · exact h
    · rename_i c hget
      rw [h.detached c (List.mem_of_getElem? hget)]
      split
      · exact h
      · exact quiet_iff_of_modify (fun c => (socket_reject c).symm.trans) h

theorem Owned.next (h : s.Owned) (event : EchoEvent) : (s.next event).Owned := by
  cases event with
  | start => exact h.quiet_stop.owned_start
  | client event => exact h.onClient event
  | stop =>
    have hquiet := h.quiet_stop
    refine ⟨fun i c hget hsocket => ?_, hquiet.timers, fun hheartbeat => by cases hheartbeat⟩
    rw [hquiet.detached c (List.mem_of_getElem? hget)] at hsocket
    cases hsocket

end EchoTestService

end Service

section Routes

/-- A call of `startRoute`, with the service that it made. A call is stale when another start or
a stop came behind it. -/
structure RouteStart where
  route : Nat
  service : EchoTestService := EchoTestService.start {}
  pending : Bool := true
  registered : Bool := false
  stale : Bool := false

namespace RouteStart

/-- What a stop does with a service, which is stopped if it is registered. -/
def stop (r : RouteStart) : RouteStart :=
  { r with
    service := if r.registered then r.service.stop else r.service
    registered := false
    stale := true }

def stage (r : RouteStart) : Option AttachStage := r.service.clients.head?.map (·.stage)

structure Kept (r : RouteStart) : Prop where
  owned : r.service.Owned
  registered : r.registered = true → r.stale = false ∧ r.pending = false
  quiet : r.registered = false → r.pending = false → r.service.Quiet

theorem Kept.stop {r : RouteStart} (h : Kept r) :
    Kept r.stop := by
  unfold RouteStart.stop
  cases hregistered : r.registered with
  | true =>
    have hquiet := h.owned.quiet_stop
    exact ⟨h.owned.next .stop, nofun, fun _ _ => hquiet⟩
  | false => exact ⟨h.owned, nofun, fun _ => h.quiet hregistered⟩

theorem kept_new (route : Nat) : Kept { route := route } :=
  ⟨EchoTestService.owned_init.next .start, nofun, nofun⟩

end RouteStart

/-- All services that were made. The registered ones are those in the map, of which every route
has one; `validateRoutes` leaves one of equal routes, and they are numbered here. -/
abbrev MultiRouteEchoTestService := List RouteStart

inductive MultiRouteEvent where
  | start
  | stop
  | client (n : Nat) (event : ClientEvent)
  | settle (n : Nat)

namespace MultiRouteEchoTestService

def activeRouteCount (m : MultiRouteEchoTestService) : Nat := m.countP (·.registered)

def stop (m : MultiRouteEchoTestService) : MultiRouteEchoTestService := m.map .stop

def start (routes : Nat) (m : MultiRouteEchoTestService) : MultiRouteEchoTestService :=
  m.stop ++ (List.range routes).map fun route => { route := route }

/-- `services.set(routeKey(route), service)` -/
def register (m : MultiRouteEchoTestService) (n route : Nat) : MultiRouteEchoTestService :=
  (m.map fun r => { r with registered := r.registered && r.route ≠ route }).modify n fun r =>
    { r with pending := false, registered := true }

/-- The rest of `startRoute`, when the start of the service is over. -/
def settle (m : MultiRouteEchoTestService) (n : Nat) : MultiRouteEchoTestService :=
  match m[n]? with
  | none => m
  | some r =>
    if ¬ r.pending then m
    else if r.stage = some .started then m.register n r.route
    else if r.stage = some .failed then
      m.modify n fun r => { r with pending := false, service := r.service.stop }
    else m

def next (routes : Nat) (m : MultiRouteEchoTestService) :
    MultiRouteEvent → MultiRouteEchoTestService
  | .start => m.start routes
  | .stop => m.stop
  | .client n event => m.modify n fun r => { r with service := r.service.onClient event }
  | .settle n => m.settle n

def Timely (m : MultiRouteEchoTestService) : MultiRouteEvent → Prop
  | .settle n => ∀ r ∈ m[n]?, r.pending = true → r.stage = some .started → r.stale = false
  | _ => True

/-- The services are kept, and those that are not stale have different routes. -/
structure Kept (m : MultiRouteEchoTestService) : Prop where
  kept : ∀ r ∈ m, RouteStart.Kept r
  routes : ((m.filter (! ·.stale)).map (·.route)).Nodup

variable {m : MultiRouteEchoTestService} {routes : Nat}

theorem kept_modify {n : Nat} {f : RouteStart → RouteStart} (h : m.Kept)
    (hf : ∀ r, m[n]? = some r → RouteStart.Kept (f r)) (hroute : ∀ r, (f r).route = r.route)
    (hstale : ∀ r, (f r).stale = r.stale) : Kept (m.modify n f) := by
  constructor
  · intro r hr
    obtain ⟨i, hi⟩ := List.getElem?_of_mem hr
    obtain ⟨old, hold, ⟨rfl, rfl⟩ | ⟨-, rfl⟩⟩ := of_getElem?_modify hi
    · exact hf old hold
    · exact h.kept _ (List.mem_of_getElem? hold)
  · have hkeys : (m.modify n f).map (fun r => (r.stale, r.route)) =
        m.map fun r => (r.stale, r.route) :=
      map_modify_eq_map fun r _ => by rw [hroute, hstale]
    have hfilter : ∀ l : List RouteStart, (l.filter (! ·.stale)).map (·.route) =
        ((l.map fun r => (r.stale, r.route)).filter (! ·.1)).map Prod.snd := by
      intro l
      rw [List.filter_map, List.map_map]
      rfl
    rw [hfilter, hkeys, ← hfilter]
    exact h.routes

theorem filter_stop : m.stop.filter (! ·.stale) = [] := by
  refine List.filter_eq_nil_iff.mpr fun r hr => ?_
  obtain ⟨old, -, rfl⟩ := List.mem_map.mp hr
  exact Bool.false_ne_true

theorem Kept.stop (h : m.Kept) : m.stop.Kept := by
  constructor
  · intro r hr
    obtain ⟨old, hold, rfl⟩ := List.mem_map.mp hr
    exact (h.kept old hold).stop
  · rw [filter_stop]
    exact List.nodup_nil

theorem Kept.start (h : m.Kept) : (m.start routes).Kept := by
  constructor
  · intro r hr
    unfold MultiRouteEchoTestService.start at hr
    rcases List.mem_append.mp hr with hr | hr
    · exact h.stop.kept r hr
    · obtain ⟨route, -, rfl⟩ := List.mem_map.mp hr
      exact RouteStart.kept_new route
  · rw [MultiRouteEchoTestService.start, List.filter_append, filter_stop, List.filter_map,
      List.nil_append, List.map_map]
    exact (List.nodup_range.filter _).map fun _ _ => id

theorem Kept.settle {n : Nat} (h : m.Kept) (htimely : Timely m (.settle n)) :
    (m.settle n).Kept := by
  unfold MultiRouteEchoTestService.settle
  split
  · exact h
  · rename_i r hget
    have hmem := List.mem_of_getElem? hget
    split
    · exact h
    · rename_i hpending
      rw [not_not] at hpending
      split
      · rename_i hstarted
        have hfresh := htimely r hget hpending hstarted
        have hown : ∀ q ∈ m, { q with registered := q.registered && q.route ≠ r.route } = q := by
          intro q hq
          have hsame : (q.registered && q.route ≠ r.route) = q.registered →
              { q with registered := q.registered && q.route ≠ r.route } = q := by
            intro heq
            rw [heq]
          refine hsame ?_
          cases hregistered : q.registered with
          | false => rfl
          | true =>
            obtain ⟨hlive, hsettled⟩ := (h.kept q hq).registered hregistered
            have hne : q.route ≠ r.route := by
              intro heq
              have hsame := List.inj_on_of_nodup_map h.routes
                (List.mem_filter.mpr ⟨hq, by simp [hlive]⟩)
                (List.mem_filter.mpr ⟨hmem, by simp [hfresh]⟩) heq
              rw [hsame, hpending] at hsettled
              cases hsettled
            simp [hne]
        rw [register, List.map_congr_left hown, List.map_id']
        refine kept_modify h (fun q hq => ?_) (fun _ => rfl) fun _ => rfl
        obtain rfl := Option.some.inj (hget.symm.trans hq)
        exact ⟨(h.kept r hmem).owned, fun _ => ⟨hfresh, rfl⟩, nofun⟩
      · split
        · refine kept_modify h (fun q hq => ?_) (fun _ => rfl) fun _ => rfl
          have hkept := h.kept q (List.mem_of_getElem? hq)
          exact ⟨hkept.owned.next .stop, fun hregistered => ⟨(hkept.registered hregistered).1, rfl⟩,
            fun _ _ => hkept.owned.quiet_stop⟩
        · exact h

theorem Kept.next (h : m.Kept) {event : MultiRouteEvent} (htimely : Timely m event) :
    Kept (next routes m event) := by
  cases event with
  | start => exact h.start
  | stop => exact h.stop
  | settle n => exact h.settle htimely
  | client n event =>
    refine kept_modify h (fun q hq => ?_) (fun _ => rfl) fun _ => rfl
    have hkept := h.kept q (List.mem_of_getElem? hq)
    exact ⟨hkept.owned.onClient event, hkept.registered,
      fun hregistered hpending => (hkept.quiet hregistered hpending).onClient event⟩

def AllStale (m : MultiRouteEchoTestService) : Prop := ∀ r ∈ m, r.stale = true

theorem AllStale.modify {n : Nat} {f : RouteStart → RouteStart} (h : m.AllStale)
    (hf : ∀ r, (f r).stale = r.stale) : AllStale (m.modify n f) := by
  intro r hr
  obtain ⟨i, hi⟩ := List.getElem?_of_mem hr
  obtain ⟨old, hold, ⟨-, rfl⟩ | ⟨-, rfl⟩⟩ := of_getElem?_modify hi
  · rw [hf]
    exact h old (List.mem_of_getElem? hold)
  · exact h _ (List.mem_of_getElem? hold)

theorem allStale_stop : m.stop.AllStale := by
  intro r hr
  obtain ⟨old, -, rfl⟩ := List.mem_map.mp hr
  rfl

theorem AllStale.next (h : m.AllStale) {event : MultiRouteEvent} (hstart : event ≠ .start) :
    AllStale (next routes m event) := by
  cases event with
  | start => exact absurd rfl hstart
  | stop => exact allStale_stop
  | client n event => exact h.modify fun _ => rfl
  | settle n =>
    change AllStale (m.settle n)
    unfold MultiRouteEchoTestService.settle register
    split
    · exact h
    · split
      · exact h
      · split
        · refine AllStale.modify (fun r hr => ?_) fun _ => rfl
          obtain ⟨old, hold, rfl⟩ := List.mem_map.mp hr
          exact h old hold
        · split
          · exact h.modify fun _ => rfl
          · exact h

/-- Once a stop was called, no start came behind it and no route is pending, all is quiet. -/
def StaysStopped (routes : Nat) (events : List MultiRouteEvent) : Prop :=
  ∀ xs ys, events = xs ++ .stop :: ys → .start ∉ ys →
    (∀ r ∈ Trace.run (next routes) [] events, r.pending = false) →
    (∀ r ∈ Trace.run (next routes) [] events, r.service.Quiet) ∧
      (Trace.run (next routes) [] events).activeRouteCount = 0

theorem staysStopped_of_timely {events : List MultiRouteEvent}
    (h : Trace.Meets (next routes) Timely [] events) : StaysStopped routes events := by
  rintro xs ys rfl hstart hpending
  have hempty : Kept [] := ⟨nofun, List.nodup_nil⟩
  have hkept : Kept (Trace.run (next routes) [] (xs ++ .stop :: ys)) :=
    Trace.invariant_of_meets (fun _ _ hkept htimely => hkept.next htimely) hempty h
  have hnever : ∀ events (m : MultiRouteEchoTestService), .start ∉ events → m.AllStale →
      AllStale (Trace.run (next routes) m events) := by
    intro events
    induction events with
    | nil => exact fun _ _ => id
    | cons event events ih =>
      intro m hevents hstale
      rw [List.mem_cons, not_or] at hevents
      exact ih _ hevents.2 (hstale.next (Ne.symm hevents.1))
  have hstale : AllStale (Trace.run (next routes) [] (xs ++ .stop :: ys)) := by
    rw [Trace.run_append, Trace.run_cons]
    exact hnever ys _ hstart allStale_stop
  have hunregistered : ∀ r ∈ Trace.run (next routes) [] (xs ++ .stop :: ys),
      r.registered = false := by
    intro r hr
    by_contra hregistered
    have hlive := ((hkept.kept r hr).registered (by simpa using hregistered)).1
    rw [hstale r hr] at hlive
    cases hlive
  refine ⟨fun r hr => (hkept.kept r hr).quiet (hunregistered r hr) (hpending r hr), ?_⟩
  refine List.countP_eq_zero.mpr fun r hr => ?_
  rw [hunregistered r hr]
  exact Bool.false_ne_true

end MultiRouteEchoTestService

theorem EchoTestService.quiet_of_stopped {xs ys : List EchoEvent} (h : .start ∉ ys) :
    (Trace.run EchoTestService.next {} (xs ++ .stop :: ys)).Quiet := by
  have howned : (Trace.run EchoTestService.next {} xs).Owned :=
    Trace.invariant (fun _ event howned => howned.next event) EchoTestService.owned_init xs
  have hstep : ∀ (s : EchoTestService) event, s.Owned ∧ s.Quiet → event ≠ .start →
      (s.next event).Owned ∧ (s.next event).Quiet := by
    rintro s event ⟨howned, hquiet⟩ hevent
    refine ⟨howned.next event, ?_⟩
    cases event with
    | start => exact absurd rfl hevent
    | stop => exact howned.quiet_stop
    | client event => exact hquiet.onClient event
  rw [Trace.run_append, Trace.run_cons]
  have hstopped := howned.quiet_stop
  refine (Trace.invariant_of_meets hstep ⟨howned.next .stop, hstopped⟩ ?_).2
  refine (Trace.meets_iff_prefixes _ _ _ _).mpr fun before event after hsplit heq => h ?_
  rw [hsplit, heq]
  exact List.mem_append_right _ List.mem_cons_self

/-- The service of one relay stays stopped; the one of many does if no route that was pending at
a start or a stop is registered afterwards. -/
theorem echo_services_stay_stopped (routes : Nat) :
    (∀ xs ys, .start ∉ ys → (Trace.run EchoTestService.next {} (xs ++ .stop :: ys)).Quiet) ∧
      ∀ events, Trace.Meets (MultiRouteEchoTestService.next routes)
        MultiRouteEchoTestService.Timely [] events →
          MultiRouteEchoTestService.StaysStopped routes events :=
  ⟨fun _ _ => EchoTestService.quiet_of_stopped,
    fun _ => MultiRouteEchoTestService.staysStopped_of_timely⟩

def EchoServicesStayStopped : Prop :=
  (∀ xs ys, .start ∉ ys → (Trace.run EchoTestService.next {} (xs ++ .stop :: ys)).Quiet) ∧
    ∀ routes events, MultiRouteEchoTestService.StaysStopped routes events

/-- The route is started behind the call that stopped all of them. -/
def startedLate : List MultiRouteEvent :=
  [.start, .stop, .client 0 (.attach 0), .client 0 (.attach 0), .client 0 (.attach 0),
    .client 0 (.attach 0), .client 0 (.resume 0), .settle 0]

theorem not_echoServicesStayStopped : ¬ EchoServicesStayStopped := by
  intro h
  have hcount := (h.2 1 startedLate [.start] _ rfl (by simp) (by decide)).2
  exact absurd hcount (by decide)

theorem echo_services_stay_stopped_inTime :
    (Trace.run EchoTestService.next {} [.start, .stop, .client (.attach 0)]).Quiet ∧
      MultiRouteEchoTestService.StaysStopped 1 [.start, .client 0 (.reject 0), .settle 0, .stop] :=
  ⟨(echo_services_stay_stopped 1).1 [.start] [.client (.attach 0)] (by simp),
    (echo_services_stay_stopped 1).2 _
      ⟨trivial, trivial, fun r hr _ hstarted => by
        obtain rfl := Option.some.inj hr
        exact absurd hstarted (by decide), trivial, trivial⟩⟩

end Routes

end Branch.Core
