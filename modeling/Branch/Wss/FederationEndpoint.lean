import Branch.Protocol.IdentityContact

/-!
The endpoints of other relays that a relay is ready to dial.
-/

namespace Branch.Wss

open Branch.Lib

def path : String := "/relay/v0"
def maxFederationEndpointBytes : Nat := 512

structure FederationEndpointPolicy where
  allowInsecureWS : Bool
  allowPrivateAddresses : Bool
  deriving DecidableEq

/-- `netip.Addr`. -/
inductive Addr where
  | ip4 (n : BitVec 32)
  | ip6 (n : BitVec 128) (zone : String)
  deriving DecidableEq

/-- The address lies in the network of an IPv4 prefix of so many bits. -/
def inPrefix4 (network : BitVec 32) (bits : Nat) (n : BitVec 32) : Bool :=
  n >>> (32 - bits) = network >>> (32 - bits)

def inPrefix6 (network : BitVec 128) (bits : Nat) (n : BitVec 128) : Bool :=
  n >>> (128 - bits) = network >>> (128 - bits)

namespace Addr

def unmap : Addr → Addr
  | ip6 n zone => if n >>> 32 = 0xffff then ip4 (n.setWidth 32) else ip6 n zone
  | address => address

def isPrivate : Addr → Bool
  | ip4 n =>
    inPrefix4 0x0a000000 8 n || inPrefix4 0xac100000 12 n || inPrefix4 0xc0a80000 16 n
  | ip6 n _ => n >>> 121 = 0xfc >>> 1

def isLoopback : Addr → Bool
  | ip4 n => n >>> 24 = 127
  | ip6 n _ => n = 1

def isLinkLocalUnicast : Addr → Bool
  | ip4 n => n >>> 16 = 0xa9fe
  | ip6 n _ => n >>> 118 = 0xfe80 >>> 6

def isMulticast : Addr → Bool
  | ip4 n => n >>> 28 = 0xe
  | ip6 n _ => n >>> 120 = 0xff

def isLinkLocalMulticast : Addr → Bool
  | ip4 n => n >>> 8 = 0xe00000
  | ip6 n _ => (n >>> 112) &&& 0xff0f = 0xff02

def isUnspecified (address : Addr) : Bool :=
  address = ip4 0 ∨ address = ip6 0 ""

def isGlobalUnicast (address : Addr) : Bool :=
  !(address = ip4 0 || address = ip4 0xffffffff) && !(address = ip6 0 "") &&
    !address.isLoopback && !address.isMulticast && !address.isLinkLocalUnicast

def isSpecial (address : Addr) : Bool :=
  !address.isGlobalUnicast || address.isPrivate || address.isLoopback ||
    address.isLinkLocalUnicast || address.isLinkLocalMulticast || address.isMulticast ||
    address.isUnspecified

end Addr

def privateOrSpecialAddress4 (n : BitVec 32) : Bool :=
  (Addr.ip4 n).isSpecial || inPrefix4 0x00000000 8 n || inPrefix4 0x64400000 10 n ||
    inPrefix4 0xc0000000 24 n || inPrefix4 0xc0000200 24 n || inPrefix4 0xc6120000 15 n ||
    inPrefix4 0xc6336400 24 n || inPrefix4 0xcb007100 24 n

/-- An address of the NAT64 prefix is as special as the one within it. A prefix holds no
address with a zone. -/
def privateOrSpecialAddress (address : Addr) : Bool :=
  match address.unmap with
  | .ip4 n => privateOrSpecialAddress4 n
  | .ip6 n zone =>
    if (Addr.ip6 n zone).isSpecial then true
    else if zone ≠ "" then false
    else if inPrefix6 0x0064ff9b000000000000000000000000 96 n then
      privateOrSpecialAddress4 (n.setWidth 32)
    else inPrefix6 0x20010db8000000000000000000000000 32 n

/-- What the cleaning reads of a parsed URL beside what the validator reads. -/
structure FederationURL extends Protocol.ParsedURL where
  host : String
  path : String
  rawQuery : String
  string : String

def missingFederationEndpoint : String := "missing federation peer endpoint"
def invalidFederationEndpoint : String := "invalid federation peer endpoint"
def invalidFederationPath : String := "invalid federation peer path"
def privateFederationAddress : String := "federation peer address is not public"

variable (urlParse : String → Option FederationURL) (parseAddr : String → Option Addr)

def cleanFederationEndpoint (raw : String) (policy : FederationEndpointPolicy) :
    Except String String := do
  let value := String.ofList (Text.strip Protocol.isSpace raw.toList)
  throwIf (value = "") missingFederationEndpoint
  throwIf (maxFederationEndpointBytes < value.utf8ByteSize ∨
    value.toList.any fun c => c = ' ' ∨ c = '\t' ∨ c = '\r' ∨ c = '\n') invalidFederationEndpoint
  match urlParse value with
  | none => throw invalidFederationEndpoint
  | some parsed =>
    throwIf (parsed.host = "") invalidFederationEndpoint
    throwIf (parsed.scheme ≠ "wss" ∧ ¬ (policy.allowInsecureWS ∧ parsed.scheme = "ws"))
      invalidFederationEndpoint
    throwIf (parsed.path ≠ path ∨ parsed.rawQuery ≠ "" ∨ parsed.fragment ≠ "" ∨
      parsed.hasUser ∨ parsed.port = "") invalidFederationPath
    throwIf (∃ address ∈ parseAddr parsed.hostname,
      ¬ policy.allowPrivateAddresses ∧ privateOrSpecialAddress address) privateFederationAddress
    return parsed.string

end Branch.Wss
