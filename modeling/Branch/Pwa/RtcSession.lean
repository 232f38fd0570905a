import Branch.Core.RtcSignaling
import Branch.Lib.InsertionMap
import Branch.Lib.Json
import Branch.Lib.ListModify
import Branch.Lib.Trace
import Branch.Lib.Utf16

/-!
The direct connections of a tab: how an offer and an answer set one up with a peer. The browser
makes the descriptions, and every one of its operations takes a while and may fail.
-/

namespace Branch.Pwa

open Branch.Core Branch.Lib

def maxRtcSessions : Nat := 32
def maxCapabilityEntries : Nat := 64
def rtcDataChannelLabel : String := "branch.rtc.data/0.draft"

structure RTCDataChannel where
  label : String
  ordered : Bool
  negotiated : Bool
  maxPacketLifeTime : Option Nat
  maxRetransmits : Option Nat

def prepareDataChannel (channel : RTCDataChannel) : Bool :=
  channel.label = rtcDataChannelLabel && channel.ordered && !channel.negotiated &&
    channel.maxPacketLifeTime.isNone && channel.maxRetransmits.isNone

section Fingerprint

def dropReturn (line : List Char) : List Char :=
  if line.getLast? = some '\r' then line.dropLast else line

def hexByte : List Char → Option UInt8
  | [high, low] => do
    let high ← Json.hexValue high
    let low ← Json.hexValue low
    some (UInt8.ofNat (16 * high + low))
  | _ => none

def fingerprintBytes (line : List Char) : Option (List UInt8) := do
  let hexadecimal ← "a=fingerprint:sha-256 ".toList.isPrefixOf? line
  let bytes ← (hexadecimal.splitOn ':').mapM hexByte
  guard (bytes.length = 32)
  return bytes

def extractDTLSFingerprintSHA256 (description : String) : Except String String :=
  let fingerprintLines := ((description.toList.splitOn '\n').map dropReturn).filter
    fun line => "a=fingerprint:".toList.isPrefixOf line
  match fingerprintLines with
  | [line] =>
    match fingerprintBytes line with
    | some bytes => .ok (Base64.encode bytes)
    | none => .error "invalid rtc fingerprint line"
  | _ => .error "invalid rtc fingerprint line"

end Fingerprint

abbrev RTCRole := RtcCandidateDirection

structure RTCPeerConnection where
  peerId : String
  closed : Bool := false
  deriving DecidableEq

inductive RTCSignal where
  | offer (body : RtcOffer)
  | answer (body : RtcAnswer)
  | candidate (body : RtcCandidate)
  | cancel (body : RtcCancel)
  deriving DecidableEq

/-- A session is known by its place among those stored so far, and its connection by its place
among those created. -/
structure RTCSession where
  peerId : String
  id : String
  generation : Nat
  role : RTCRole
  connection : Nat
  localDescriptionSHA256 : String
  remoteDescriptionSHA256 : Option String
  expiresAt : Nat
  receivedCandidates : List String := []
  pendingCandidates : List (String × RtcCandidate) := []
  sentCandidates : Nat := 0
  deriving DecidableEq

/-- A connection that is not yet that of a session. One for an answer has its offer. -/
structure RTCSetup where
  peerId : String
  now : Nat
  connection : Nat
  offer : Option RtcOffer
  deriving DecidableEq

inductive RTCSetupStage where
  | applyingOffer
  | describing
  | hashing (description : String)
  | applyingOwn (description descriptionSHA256 dtlsFingerprintSHA256 : String)
  deriving DecidableEq

inductive RTCResult where
  | started
  | notStarted
  | failed
  | accepted
  | ignored
  | duplicate
  | rejected
  deriving DecidableEq

/-- A call of `start` or `receive`: what it waits for, or its result. The origin of a signal is
the session of its sender that it comes from, which no operation reads. -/
inductive RTCCall where
  | validatingOffer (peerId : String) (offer : RtcOffer) (now : Nat)
  | settingUp (setup : RTCSetup) (stage : RTCSetupStage)
  | sending (peerId : String) (session : Nat)
  | validatingAnswer (peerId : String) (answer : RtcAnswer) (now origin : Nat)
  | applyingAnswer (session : Nat) (answer : RtcAnswer) (now origin : Nat)
  | addingPending (session : Nat) (key : String) (now : Nat)
  | addingCandidate (session : Nat) (key : String) (now : Nat)
  | returned (result : RTCResult)
  deriving DecidableEq

structure RTCSessionController where
  localPeerId : String
  connections : List RTCPeerConnection := []
  stored : List RTCSession := []
  sessions : InsertionMap String Nat := .empty
  capabilities : InsertionMap String Nat := .empty
  calls : List RTCCall := []

/-- A signal on its way, with the session that it comes from. -/
structure RTCSent where
  peerId : String
  signal : RTCSignal
  session : Nat
  deriving DecidableEq

/-- What happens next: a call, or that the call at a place is told the outcome it waits for. The
outcomes of the browser are of its choice: that an operation failed, what it describes. -/
inductive RTCEvent where
  | acceptCapabilities (peerId : String) (now expiresAt : Nat)
  | start (peerId : String) (now : Nat) (created : Option (Option RTCDataChannel))
  | receive (peerId : String) (signal : RTCSignal) (now origin : Nat)
  | validated (i : Nat) (created : Bool)
  | remoteApplied (i : Nat) (ok : Bool)
  | described (i : Nat) (description : Option String)
  | hashed (i : Nat)
  | localApplied (i : Nat) (ok : Bool) (newSessionId : String)
  | sent (i : Nat) (ok : Bool)
  | candidateAdded (i : Nat) (ok : Bool)
  | localCandidate (session : Nat) (candidate : String)
  | prune (now : Nat)
  | reset

namespace RTCSessionController

section Operations

def begin (s : RTCSessionController) (call : RTCCall) : RTCSessionController :=
  { s with calls := s.calls ++ [call] }

def resume (s : RTCSessionController) (i : Nat) (call : RTCCall) : RTCSessionController :=
  { s with calls := s.calls.set i call }

def finish (s : RTCSessionController) (i : Nat) (result : RTCResult) : RTCSessionController :=
  s.resume i (.returned result)

def session? (s : RTCSessionController) (peerId : String) : Option RTCSession :=
  (s.sessions.get? peerId).bind (s.stored[·]?)

def update (s : RTCSessionController) (r : Nat) (f : RTCSession → RTCSession) :
    RTCSessionController :=
  { s with stored := s.stored.modify r f }

def createConnection (s : RTCSessionController) (peerId : String) : RTCSessionController :=
  { s with connections := s.connections ++ [{ peerId }] }

def close (s : RTCSessionController) (connection : Nat) : RTCSessionController :=
  { s with connections := s.connections.modify connection fun c => { c with closed := true } }

def closeOf (s : RTCSessionController) (existing : Option RTCSession) : RTCSessionController :=
  match existing with
  | some session => s.close session.connection
  | none => s

def drop (s : RTCSessionController) (peerId : String) : RTCSessionController :=
  { s.closeOf (s.session? peerId) with sessions := s.sessions.delete peerId }

def makeRoom (s : RTCSessionController) : RTCSessionController × Bool :=
  if s.sessions.size < maxRtcSessions then (s, true)
  else
    match s.sessions.oldest? with
    | none => (s, false)
    | some oldest => (s.drop oldest, true)

def dropExpired (now : Nat) (s : RTCSessionController) (peerId : String) :
    RTCSessionController :=
  if (s.session? peerId).any fun session => session.expiresAt ≤ now then s.drop peerId else s

def prune (s : RTCSessionController) (now : Nat) : RTCSessionController :=
  let s := { s with capabilities := s.capabilities.filter fun _ expiresAt => now < expiresAt }
  s.sessions.keys.foldl (dropExpired now) s

def closeSession (s : RTCSessionController) (peerId : String) : RTCSessionController :=
  s.closeOf (s.session? peerId)

def reset (s : RTCSessionController) : RTCSessionController :=
  { s.sessions.keys.foldl closeSession s with sessions := .empty, capabilities := .empty }

def acceptCapabilities (s : RTCSessionController) (peerId : String) (now expiresAt : Nat) :
    RTCSessionController :=
  let s := s.prune now
  if peerId = "" ∨ expiresAt ≤ now then s
  else
    let capabilities := if s.capabilities.has peerId then s.capabilities
      else s.capabilities.shrink maxCapabilityEntries
    { s with capabilities := capabilities.set peerId expiresAt }

def failure (setup : RTCSetup) : RTCResult := if setup.offer.isSome then .rejected else .failed

def canStart (s : RTCSessionController) (peerId : String) (now : Nat) : Bool :=
  peerId ≠ "" && (s.capabilities.get? peerId).any (now < ·) && !s.sessions.has peerId

/-- The connection and its channel are created, unless one of these throws. -/
def startConnection (s : RTCSessionController) (peerId : String) (now : Nat)
    (created : Option (Option RTCDataChannel)) : RTCSessionController :=
  match created with
  | none => s.begin (.returned .failed)
  | some channel =>
    let connection := s.connections.length
    let s := s.createConnection peerId
    match channel with
    | none => s.begin (.returned .failed)
    | some channel =>
      if prepareDataChannel channel then
        s.begin (.settingUp { peerId, now, connection, offer := none } .describing)
      else (s.close connection).begin (.returned .notStarted)

def start (s : RTCSessionController) (peerId : String) (now : Nat)
    (created : Option (Option RTCDataChannel)) : RTCSessionController :=
  let s := s.prune now
  if s.canStart peerId now then
    let (s, room) := s.makeRoom
    if room then s.startConnection peerId now created else s.begin (.returned .notStarted)
  else s.begin (.returned .notStarted)

def receiveCandidate (s : RTCSessionController) (peerId : String) (candidate : RtcCandidate)
    (now : Nat) : RTCSessionController :=
  let rejected := s.begin (.returned .rejected)
  if ¬ (validateRtcCandidate candidate).isOk then rejected
  else
    match s.sessions.get? peerId, s.session? peerId with
    | some r, some session =>
      if session.id ≠ candidate.rtcSessionId ∨ session.generation ≠ candidate.generation then
        rejected
      else if candidate.direction = session.role then rejected
      else
        let key := candidate.descriptionSHA256 ++ "\u0000" ++ candidate.candidate
        if key ∈ session.receivedCandidates ∨ key ∈ session.pendingCandidates.map Prod.fst then
          s.begin (.returned .duplicate)
        else if session.receivedCandidates.length ≥ maxRtcCandidatesPerDirection then rejected
        else if session.remoteDescriptionSHA256 = none then
          if session.pendingCandidates.length ≥ maxRtcCandidatesPerDirection then rejected
          else
            (s.update r fun session =>
              { session with
                pendingCandidates := session.pendingCandidates ++ [(key, candidate)] }).begin
              (.returned .accepted)
        else if session.remoteDescriptionSHA256 ≠ some candidate.descriptionSHA256 then rejected
        else s.begin (.addingCandidate r key now)
    | _, _ => rejected

def receiveCancel (s : RTCSessionController) (peerId : String) (cancel : RtcCancel) :
    RTCSessionController :=
  match s.session? peerId with
  | none => s.begin (.returned .rejected)
  | some session =>
    if session.id ≠ cancel.rtcSessionId ∨ session.generation ≠ cancel.generation ∨
        session.remoteDescriptionSHA256 ≠ some cancel.descriptionSHA256 then
      s.begin (.returned .rejected)
    else (s.drop peerId).begin (.returned .accepted)

def receive (s : RTCSessionController) (peerId : String) (signal : RTCSignal)
    (now origin : Nat) : RTCSessionController :=
  let s := s.prune now
  match signal with
  | .offer offer => s.begin (.validatingOffer peerId offer now)
  | .answer answer => s.begin (.validatingAnswer peerId answer now origin)
  | .candidate candidate => s.receiveCandidate peerId candidate now
  | .cancel cancel => s.receiveCancel peerId cancel

/-- The description has the fingerprint that it is said to have. -/
def fingerprinted (offer : RtcOffer) : Bool :=
  match extractDTLSFingerprintSHA256 offer.description with
  | .ok fingerprint => fingerprint = offer.dtlsFingerprintSHA256
  | .error _ => false

/-- The rest of `receiveOffer`, up to the first wait for the browser. -/
def acceptOffer (s : RTCSessionController) (i : Nat) (peerId : String) (offer : RtcOffer)
    (now : Nat) (created : Bool) : RTCSessionController :=
  let (s, room) := s.makeRoom
  if ¬ room then s.finish i .rejected
  else if ¬ created then s.finish i .rejected
  else
    let connection := s.connections.length
    (s.createConnection peerId).resume i
      (.settingUp { peerId, now, connection, offer := some offer } .applyingOffer)

def receiveOffer (s : RTCSessionController) (i : Nat) (peerId : String) (offer : RtcOffer)
    (now : Nat) (created : Bool) : RTCSessionController :=
  if ¬ (validateRtcOffer offer).isOk ∨ ¬ fingerprinted offer then s.finish i .rejected
  else
    match s.session? peerId with
    | none => s.acceptOffer i peerId offer now created
    | some existing =>
      if existing.role = .offerer then
        if Utf16.units s.localPeerId < Utf16.units peerId then s.finish i .ignored
        else (s.drop peerId).acceptOffer i peerId offer now created
      else if existing.id = offer.rtcSessionId ∧
          existing.remoteDescriptionSHA256 = some offer.descriptionSHA256 then
        s.finish i .duplicate
      else s.finish i .rejected

def receiveAnswer (s : RTCSessionController) (i : Nat) (peerId : String) (answer : RtcAnswer)
    (now origin : Nat) : RTCSessionController :=
  if ¬ (validateRtcAnswer answer).isOk ∨ ¬ fingerprinted answer.toRtcOffer then
    s.finish i .rejected
  else
    match s.sessions.get? peerId, s.session? peerId with
    | some r, some session =>
      if session.role ≠ .offerer ∨ session.id ≠ answer.rtcSessionId ∨
          session.generation ≠ answer.generation ∨
          session.localDescriptionSHA256 ≠ answer.offerDescriptionSHA256 then
        s.finish i .rejected
      else if session.remoteDescriptionSHA256 = some answer.descriptionSHA256 then
        s.finish i .duplicate
      else if session.remoteDescriptionSHA256 ≠ none then s.finish i .rejected
      else s.resume i (.applyingAnswer r answer now origin)
    | _, _ => s.finish i .rejected

def validated (s : RTCSessionController) (i : Nat) (created : Bool) : RTCSessionController :=
  match s.calls[i]? with
  | some (.validatingOffer peerId offer now) => s.receiveOffer i peerId offer now created
  | some (.validatingAnswer peerId answer now origin) =>
    s.receiveAnswer i peerId answer now origin
  | _ => s

/-- The staged candidates that belong to another description are passed over. -/
def staged (session : RTCSession) : List (String × RtcCandidate) :=
  session.pendingCandidates.dropWhile fun e =>
    some e.2.descriptionSHA256 ≠ session.remoteDescriptionSHA256

/-- One turn of `applyPendingCandidates`, and the end of `receiveAnswer` after the last. -/
def applyPending (s : RTCSessionController) (i r now : Nat) : RTCSessionController :=
  match (s.stored[r]?).map staged with
  | some ((key, _) :: rest) =>
    (s.update r fun session => { session with pendingCandidates := rest }).resume i
      (.addingPending r key now)
  | _ =>
    (s.update r fun session =>
      { session with
        pendingCandidates := [], expiresAt := now + rtcSignalingControlTTLms }).finish i .accepted

def remoteApplied (s : RTCSessionController) (i : Nat) (ok : Bool) : RTCSessionController :=
  match s.calls[i]? with
  | some (.settingUp setup .applyingOffer) =>
    if ok then s.resume i (.settingUp setup .describing) else s.finish i (failure setup)
  | some (.applyingAnswer r answer now _) =>
    if ok then
      (s.update r fun session =>
        { session with
          remoteDescriptionSHA256 := some answer.descriptionSHA256 }).applyPending i r now
    else s.finish i .rejected
  | _ => s

def described (s : RTCSessionController) (i : Nat) (description : Option String) :
    RTCSessionController :=
  match s.calls[i]? with
  | some (.settingUp setup .describing) =>
    match description with
    | some description => s.resume i (.settingUp setup (.hashing description))
    | none => s.finish i (failure setup)
  | _ => s

def describe (description : String) : Except String (String × String) := do
  let localDescriptionSHA256 ← rtcDescriptionSHA256 description
  let fingerprint ← extractDTLSFingerprintSHA256 description
  return (localDescriptionSHA256, fingerprint)

def hashed (s : RTCSessionController) (i : Nat) : RTCSessionController :=
  match s.calls[i]? with
  | some (.settingUp setup (.hashing description)) =>
    match describe description with
    | .ok (digest, fingerprint) =>
      s.resume i (.settingUp setup (.applyingOwn description digest fingerprint))
    | .error _ => s.finish i (failure setup)
  | _ => s

def newSession (setup : RTCSetup) (newSessionId descriptionSHA256 : String) : RTCSession where
  peerId := setup.peerId
  id := (setup.offer.map RtcOffer.rtcSessionId).getD newSessionId
  generation := (setup.offer.map RtcOffer.generation).getD 0
  role := if setup.offer.isSome then .answerer else .offerer
  connection := setup.connection
  localDescriptionSHA256 := descriptionSHA256
  remoteDescriptionSHA256 := setup.offer.map RtcOffer.descriptionSHA256
  expiresAt := setup.now + rtcSignalingControlTTLms

def descriptionOf (session : RTCSession) (description dtlsFingerprintSHA256 : String) :
    RtcOffer where
  rtcSessionId := session.id
  generation := session.generation
  description := description
  descriptionSHA256 := session.localDescriptionSHA256
  dtlsFingerprintSHA256 := dtlsFingerprintSHA256

def signalOf (session : RTCSession) (description dtlsFingerprintSHA256 : String) : RTCSignal :=
  let body := descriptionOf session description dtlsFingerprintSHA256
  match session.remoteDescriptionSHA256 with
  | none => .offer body
  | some offerDescriptionSHA256 => .answer { body with offerDescriptionSHA256 }

/-- The session is stored, whatever the table has for the peer, and its offer or answer
is sent. -/
def store (s : RTCSessionController) (i : Nat) (session : RTCSession) : RTCSessionController :=
  { s with
    stored := s.stored ++ [session]
    sessions := s.sessions.set session.peerId s.stored.length }.resume i
    (.sending session.peerId s.stored.length)

def localApplied (s : RTCSessionController) (i : Nat) (ok : Bool) (newSessionId : String) :
    RTCSessionController × Option RTCSent :=
  match s.calls[i]? with
  | some (.settingUp setup (.applyingOwn description descriptionSHA256 fingerprint)) =>
    if ok then
      let session := newSession setup newSessionId descriptionSHA256
      (s.store i session,
        some ⟨setup.peerId, signalOf session description fingerprint, s.stored.length⟩)
    else (s.finish i (failure setup), none)
  | _ => (s, none)

def sentResult (session : Option RTCSession) (ok : Bool) : RTCResult :=
  if session.any fun session => session.role = .offerer then if ok then .started else .failed
  else if ok then .accepted else .rejected

/-- A failed send drops the session that the table has for the peer by now. -/
def sent (s : RTCSessionController) (i : Nat) (ok : Bool) : RTCSessionController :=
  match s.calls[i]? with
  | some (.sending peerId r) =>
    (if ok then s else s.drop peerId).finish i (sentResult s.stored[r]? ok)
  | _ => s

def addReceived (key : String) (session : RTCSession) : RTCSession :=
  { session with
    receivedCandidates := if key ∈ session.receivedCandidates then session.receivedCandidates
      else session.receivedCandidates ++ [key] }

def candidateAdded (s : RTCSessionController) (i : Nat) (ok : Bool) : RTCSessionController :=
  match s.calls[i]? with
  | some (.addingPending r key now) =>
    (if ok then s.update r (addReceived key) else s).applyPending i r now
  | some (.addingCandidate r key now) =>
    if ok then
      (s.update r fun session =>
        { addReceived key session with expiresAt := now + rtcSignalingControlTTLms }).finish i
        .accepted
    else s.finish i .rejected
  | _ => s

def candidateOf (session : RTCSession) (candidate : String) : RtcCandidate where
  rtcSessionId := session.id
  generation := session.generation
  direction := session.role
  descriptionSHA256 := session.localDescriptionSHA256
  candidate := candidate

/-- The browser has found a candidate for the connection of a session. -/
def localCandidate (s : RTCSessionController) (r : Nat) (candidate : String) :
    RTCSessionController × Option RTCSent :=
  match s.stored[r]? with
  | none => (s, none)
  | some session =>
    if s.sessions.get? session.peerId ≠ some r ∨
        session.sentCandidates ≥ maxRtcCandidatesPerDirection then (s, none)
    else
      (s.update r fun session => { session with sentCandidates := session.sentCandidates + 1 },
        some ⟨session.peerId, .candidate (candidateOf session candidate), r⟩)

end Operations

section Step

def step (s : RTCSessionController) : RTCEvent → RTCSessionController × Option RTCSent
  | .acceptCapabilities peerId now expiresAt => (s.acceptCapabilities peerId now expiresAt, none)
  | .start peerId now created => (s.start peerId now created, none)
  | .receive peerId signal now origin => (s.receive peerId signal now origin, none)
  | .validated i created => (s.validated i created, none)
  | .remoteApplied i ok => (s.remoteApplied i ok, none)
  | .described i description => (s.described i description, none)
  | .hashed i => (s.hashed i, none)
  | .localApplied i ok newSessionId => s.localApplied i ok newSessionId
  | .sent i ok => (s.sent i ok, none)
  | .candidateAdded i ok => (s.candidateAdded i ok, none)
  | .localCandidate r candidate => s.localCandidate r candidate
  | .prune now => (s.prune now, none)
  | .reset => (s.reset, none)

def next (s : RTCSessionController) (e : RTCEvent) : RTCSessionController := (s.step e).1

end Step

end RTCSessionController

end Branch.Pwa
