import Branch.Lib.ListModify
import Branch.Lib.Trace
import Branch.Pwa.RtcAdmissionLedger

/-!
What comes over the direct channel of one session: a frame is opened, reserved in the ledger,
dispatched and admitted. Each of these waits, and other frames are received meanwhile.
-/

namespace Branch.Pwa

open Branch.Core Branch.Lib

def fixedPathEpoch : Nat := 0
def fixedStreamId : Nat := 0
def fixedAckRequested : Bool := true

inductive RTCDataIngressOutcome where
  | admitted
  | duplicate
  | pending
  | conflict
  | rejected
  | admission
  deriving DecidableEq

structure RTCDataIngressOptions where
  remotePeerId : String
  rtcSessionId : String
  expiresAt : Nat

/-- Where a call of `receive` is. A call that threw has no outcome. -/
inductive IngressCall where
  | opening (frame : RtcData) (now : Nat)
  | hashing (frame : RtcData) (plaintext : List UInt8) (key fingerprint : String)
  | reserved (frame : RtcData) (plaintext : List UInt8) (reservation : RTCAdmissionReservation)
  | dispatching (frame : RtcData) (plaintext : List UInt8)
  | dispatched (frame : RtcData) (result : Option Bool) (outcome : Option RTCDataIngressOutcome)
  | returned (outcome : Option RTCDataIngressOutcome)
  deriving DecidableEq

structure RTCDataIngress where
  ledger : RTCAdmissionLedger := {}
  calls : List IngressCall := []

inductive IngressEffect where
  | dispatch (frame : RtcData) (plaintext : List UInt8)
  | send (frame : RtcAdmit)
  deriving DecidableEq

/-- Something arrives on the channel, or what a call waits for is there: the plaintext, the
digest, the reservation, the result of the dispatch. What cannot be decoded, opened or
dispatched is `none`. A call that is to send sends unless the channel throws. -/
inductive IngressEvent where
  | receive (now : Nat) (raw : Option RtcDataFrame) (keys : Bool)
  | opened (call : Nat) (plaintext : Option (List UInt8))
  | hashed (call : Nat)
  | resumed (call : Nat) (sends : Bool)
  | dispatched (call : Nat) (result : Option Bool) (now : Nat) (sends : Bool)
  | reset
  deriving DecidableEq

namespace RTCDataIngress

def start (s : RTCDataIngress) (call : IngressCall) : RTCDataIngress :=
  { s with calls := s.calls ++ [call] }

def resume (s : RTCDataIngress) (i : Nat) (call : IngressCall) : RTCDataIngress :=
  { s with calls := s.calls.set i call }

def receiveData (frame : RtcData) (now : Nat) (keys : Bool) : IngressCall :=
  if frame.pathEpoch ≠ fixedPathEpoch ∨ frame.streamId ≠ fixedStreamId ∨
      frame.ackRequested ≠ fixedAckRequested then .returned (some .rejected)
  else if ¬ keys then .returned (some .rejected)
  else .opening frame now

def receive (s : RTCDataIngress) (options : RTCDataIngressOptions) (now : Nat)
    (raw : Option RtcDataFrame) (keys : Bool) : RTCDataIngress :=
  if options.expiresAt ≤ now then
    start { s with ledger := s.ledger.reset } (.returned (some .rejected))
  else
    match raw.filter RtcDataFrame.valid with
    | none => s.start (.returned (some .rejected))
    | some (.admission frame) =>
      if frame.rtcSessionId ≠ options.rtcSessionId then s.start (.returned (some .rejected))
      else s.start (.returned (some .admission))
    | some (.data frame) =>
      if frame.rtcSessionId ≠ options.rtcSessionId then s.start (.returned (some .rejected))
      else s.start (receiveData frame now keys)

def opened (s : RTCDataIngress) (options : RTCDataIngressOptions) (i : Nat) (frame : RtcData)
    (now : Nat) : Option (List UInt8) → RTCDataIngress
  | none => s.resume i (.returned (some .rejected))
  | some plaintext =>
    match decodeBase64URL frame.ciphertext.toList with
    | .error _ => s.resume i (.returned none)
    | .ok ciphertext =>
      let (ledger, key) := s.ledger.reserve
        { senderPeerId := options.remotePeerId, streamId := frame.streamId,
          deliveryId := frame.deliveryId, ciphertext, expiresAt := options.expiresAt, now }
      match key with
      | none => resume { s with ledger } i (.returned none)
      | some key =>
        resume { s with ledger } i (.hashing frame plaintext key (ciphertextSHA256 ciphertext))

def hashed (s : RTCDataIngress) (options : RTCDataIngressOptions) (i : Nat) (frame : RtcData)
    (plaintext : List UInt8) (key fingerprint : String) : RTCDataIngress :=
  let (ledger, reservation) := s.ledger.reserveAs key fingerprint options.expiresAt
  resume { s with ledger } i (.reserved frame plaintext reservation)

def sendAdmit (options : RTCDataIngressOptions) (deliveryId : String) (sends : Bool) :
    Option IngressEffect :=
  if sends then some (.send { rtcSessionId := options.rtcSessionId, deliveryId }) else none

/-- The reservation comes back to `receiveData`. -/
def resumed (s : RTCDataIngress) (options : RTCDataIngressOptions) (i : Nat) (frame : RtcData)
    (plaintext : List UInt8) (sends : Bool) :
    RTCAdmissionReservation → RTCDataIngress × Option IngressEffect
  | .conflict => (s.resume i (.returned (some .conflict)), none)
  | .duplicatePending => (s.resume i (.returned (some .pending)), none)
  | .duplicateAdmitted =>
    (s.resume i (.returned (some (if sends then .duplicate else .rejected))),
      sendAdmit options frame.deliveryId sends)
  | .first => (s.resume i (.dispatching frame plaintext), some (.dispatch frame plaintext))

def dispatched (s : RTCDataIngress) (options : RTCDataIngressOptions) (i : Nat)
    (frame : RtcData) (now : Nat) (sends : Bool) :
    Option Bool → RTCDataIngress × Option IngressEffect
  | some true =>
    let (ledger, admitted) :=
      s.ledger.admitEntry options.remotePeerId frame.streamId frame.deliveryId now
    let s := { s with ledger }
    match admitted with
    | none => (s.resume i (.dispatched frame (some true) none), none)
    | some false => (s.resume i (.dispatched frame (some true) (some .rejected)), none)
    | some true =>
      (s.resume i (.dispatched frame (some true)
          (some (if sends then .admitted else .rejected))),
        sendAdmit options frame.deliveryId sends)
  | result => (s.resume i (.dispatched frame result (some .rejected)), none)

/-- A call is resumed by what it waits for, and by nothing else. -/
def step (s : RTCDataIngress) (options : RTCDataIngressOptions) :
    IngressEvent → RTCDataIngress × Option IngressEffect
  | .receive now raw keys => (s.receive options now raw keys, none)
  | .opened i plaintext =>
    match s.calls[i]? with
    | some (.opening frame now) => (s.opened options i frame now plaintext, none)
    | _ => (s, none)
  | .hashed i =>
    match s.calls[i]? with
    | some (.hashing frame plaintext key fingerprint) =>
      (s.hashed options i frame plaintext key fingerprint, none)
    | _ => (s, none)
  | .resumed i sends =>
    match s.calls[i]? with
    | some (.reserved frame plaintext reservation) =>
      s.resumed options i frame plaintext sends reservation
    | _ => (s, none)
  | .dispatched i result now sends =>
    match s.calls[i]? with
    | some (.dispatching frame _) => s.dispatched options i frame now sends result
    | _ => (s, none)
  | .reset => ({ s with ledger := s.ledger.reset }, none)

def next (options : RTCDataIngressOptions) (s : RTCDataIngress) (e : IngressEvent) :
    RTCDataIngress := (s.step options e).1

end RTCDataIngress

end Branch.Pwa
