import Slotpilot.Domain.Ids
import Slotpilot.Lib.IpAddress
import Slotpilot.Lib.JsonCodec
import Slotpilot.Lib.StateResult

/-!
# Rig profiles

An endpoint is a host and a TCP port, written `host:port`. A profile has two of them, the downstream radio and the
`rigctld` service, and rejects those with one text.

* `endpoint_text_exact`: an endpoint reads back from its text, and a text that reads as an endpoint is its text unless the
  port is written with a sign or leading zeros;
* `RigProfile.new_ok`: what a profile accepts.
-/

set_option autoImplicit false

namespace Slotpilot.Domain

open Slotpilot.Lib

def maxEndpointHostBytes : Nat := 253

def maxHamlibVersionBytes : Nat := 64

def minPassbandHz : Nat := 50

def maxPassbandHz : Nat := 100000

/-- Failure parsing or constructing a read-only rig profile value. -/
inductive RigProfileError
  | incompleteEndpoint
  | invalidEndpointHost
  | invalidEndpointPort
  | managedServiceNotLoopback
  | endpointRolesConflict
  | invalidHamlibModel
  | invalidHamlibVersion
  | passbandOutOfRange
  deriving DecidableEq

/-! ## Hosts -/

/-- What stands between square brackets. -/
def stripBrackets : List Char → Option (List Char)
  | '[' :: value => if value.getLast? = some ']' then some value.dropLast else none
  | _ => none

/-- A character of a host that is not in brackets. -/
def isHostCharacter (c : Char) : Bool := c.isAlphanum || c == '.' || c == '-'

def validateHost (host : String) : Except RigProfileError Unit :=
  if host.toList = [] ∨ maxEndpointHostBytes < byteLength host.toList then .error .invalidEndpointHost
  else
    match stripBrackets host.toList with
    | some inner => if ((parseIpAddr inner).filter IpAddr.isIpv6).isSome then .ok () else .error .invalidEndpointHost
    | none =>
      if ':' ∈ host.toList ∨ host.toList.all isHostCharacter = false then .error .invalidEndpointHost else .ok ()

/-- The IP address that a host is, with or without brackets. -/
def hostLiteral (host : String) : Option IpAddr := parseIpAddr ((stripBrackets host.toList).getD host.toList)

def isLoopbackLiteral (host : String) : Bool := (hostLiteral host).any IpAddr.isLoopback

/-! ## Endpoints -/

/-- What an endpoint is for. -/
inductive EndpointRole
  | downstreamRig
  | rigctldService
  deriving DecidableEq

/-- Exact operator-configured endpoint of a role. -/
structure Endpoint (role : EndpointRole) where
  host : String
  port : UInt16
  valid : validateHost host = .ok ()
  nonzero : port ≠ 0
  deriving DecidableEq

/-- Exact operator-configured downstream radio CAT endpoint. -/
abbrev DownstreamRigEndpoint : Type := Endpoint .downstreamRig

/-- Exact endpoint of one `rigctld` service. -/
abbrev RigctldServiceEndpoint : Type := Endpoint .rigctldService

def splitEndpoint (value : String) : Except RigProfileError (String × UInt16) :=
  match rsplitOnce ':' value.toList with
  | none => .error .incompleteEndpoint
  | some (host, port) =>
    match parseUnsigned 65535 port with
    | none => .error .invalidEndpointPort
    | some port =>
      if port = 0 then .error .invalidEndpointPort
      else do
        validateHost (String.ofList host)
        .ok (String.ofList host, UInt16.ofNat port)

namespace Endpoint

variable {role : EndpointRole}

/-- The endpoint with an explicit host and TCP port. -/
def new (host : String) (port : UInt16) : Except RigProfileError (Endpoint role) :=
  match hvalid : validateHost host with
  | .error e => .error e
  | .ok () => if hport : port = 0 then .error .invalidEndpointPort else .ok ⟨host, port, hvalid, hport⟩

def fromStr (value : String) : Except RigProfileError (Endpoint role) := do
  let (host, port) ← splitEndpoint value
  new host port

/-- The text of an endpoint. -/
def display (self : Endpoint role) : String :=
  String.ofList (self.host.toList ++ ':' :: Nat.toDigits 10 self.port.toNat)

@[ext] theorem ext {a b : Endpoint role} (hhost : a.host = b.host) (hport : a.port = b.port) : a = b := by
  cases a
  cases b
  cases hhost
  cases hport
  rfl

@[simp] theorem new_ok {host : String} {port : UInt16} {endpoint : Endpoint role} :
    new host port = .ok endpoint ↔ endpoint.host = host ∧ endpoint.port = port := by
  unfold new
  constructor
  · intro h
    split at h
    · cases h
    · split_ifs at h
      cases h
      exact ⟨rfl, rfl⟩
  · rintro ⟨rfl, rfl⟩
    split
    · rename_i e herror
      rw [endpoint.valid] at herror
      cases herror
    · rw [dif_neg endpoint.nonzero]

@[simp] theorem toList_display (endpoint : Endpoint role) :
    endpoint.display.toList = endpoint.host.toList ++ ':' :: Nat.toDigits 10 endpoint.port.toNat :=
  String.toList_ofList

/-- A text of an endpoint is its host and a text of its port. -/
theorem fromStr_ok {value : String} {endpoint : Endpoint role} :
    fromStr value = .ok endpoint ↔ ∃ port, rsplitOnce ':' value.toList = some (endpoint.host.toList, port) ∧
      parseUnsigned 65535 port = some endpoint.port.toNat := by
  unfold fromStr splitEndpoint
  rw [exceptBind_ok]
  constructor
  · rintro ⟨⟨host, port⟩, hsplit, hnew⟩
    obtain ⟨rfl, rfl⟩ := new_ok.mp hnew
    cases hlast : rsplitOnce ':' value.toList with
    | none =>
      rw [hlast] at hsplit
      cases hsplit
    | some split =>
      obtain ⟨before, after⟩ := split
      rw [hlast] at hsplit
      cases hnumber : parseUnsigned 65535 after with
      | none =>
        dsimp only at hsplit
        rw [hnumber] at hsplit
        cases hsplit
      | some number =>
        dsimp only at hsplit
        rw [hnumber] at hsplit
        dsimp only at hsplit
        split_ifs at hsplit
        obtain ⟨-, -, hpair⟩ := exceptBind_ok.mp hsplit
        simp only [Except.ok.injEq, Prod.mk.injEq] at hpair
        obtain ⟨hhost, hport⟩ := hpair
        have hbound := parseUnsigned_le hnumber
        refine ⟨after, ?_, ?_⟩
        · rw [← hhost, String.toList_ofList]
        · rw [← hport, UInt16.toNat_ofNat', Nat.mod_eq_of_lt (by omega), hnumber]
  · rintro ⟨port, hlast, hnumber⟩
    have hnonzero : ¬endpoint.port.toNat = 0 := fun hzero => endpoint.nonzero (UInt16.toNat_inj.mp hzero)
    refine ⟨(endpoint.host, endpoint.port), ?_, new_ok.mpr ⟨rfl, rfl⟩⟩
    rw [hlast]
    dsimp only
    rw [hnumber]
    dsimp only
    rw [if_neg hnonzero, String.ofList_toList, endpoint.valid, UInt16.ofNat_toNat]
    rfl

theorem rsplitOnce_display (endpoint : Endpoint role) : rsplitOnce ':' endpoint.display.toList =
    some (endpoint.host.toList, Nat.toDigits 10 endpoint.port.toNat) := by
  rw [toList_display]
  apply rsplitOnce_append
  intro hcolon
  have hdigit : ':'.isDigit = true := Nat.isDigit_of_mem_toDigits (by decide) (Nat.le_refl 10) hcolon
  cases hdigit

/-- An endpoint reads back from its text. -/
theorem fromStr_display (endpoint : Endpoint role) : fromStr endpoint.display = .ok endpoint :=
  fromStr_ok.mpr ⟨_, endpoint.rsplitOnce_display,
    parseUnsigned_toDigits (Nat.le_of_lt_succ endpoint.port.toNat_lt)⟩

/-- Endpoints with one text have the same host and the same port. -/
theorem display_inj {a : Endpoint role} {other : EndpointRole} {b : Endpoint other} :
    a.display = b.display ↔ a.host = b.host ∧ a.port = b.port := by
  constructor
  · intro h
    have hsplit := a.rsplitOnce_display
    rw [h, b.rsplitOnce_display, Option.some.injEq, Prod.mk.injEq] at hsplit
    obtain ⟨hhost, hdigits⟩ := hsplit
    have hport : b.port.toNat = a.port.toNat := by
      rw [← @Nat.ofDigitChars_ten_toDigits b.port.toNat, hdigits, Nat.ofDigitChars_ten_toDigits]
    exact ⟨(String.toList_injective hhost).symm, (UInt16.toNat_inj.mp hport).symm⟩
  · rintro ⟨hhost, hport⟩
    rw [display, display, hhost, hport]

instance : JsonCodec (Endpoint role) where
  toJson endpoint := .string endpoint.display
  fromJson
    | .string value => (fromStr value).toOption
    | _ => none
  fromJson_toJson endpoint := by
    show (fromStr endpoint.display).toOption = some endpoint
    rw [fromStr_display]
    rfl
  toJson_ne_null _ := by simp

end Endpoint

/-- The port of a text begins with neither a sign nor a zero. -/
def PlainPort (value : String) : Prop :=
  ∀ host port, rsplitOnce ':' value.toList = some (host, port) → port.head? ≠ some '+' ∧ port.head? ≠ some '0'

/-- An accepted text is the text of its endpoint if its port is plain. -/
theorem display_fromStr {role : EndpointRole} {value : String} {endpoint : Endpoint role}
    (h : Endpoint.fromStr value = .ok endpoint) : endpoint.display = value ↔ PlainPort value := by
  obtain ⟨port, hsplit, hnumber⟩ := Endpoint.fromStr_ok.mp h
  have hpos : 0 < endpoint.port.toNat :=
    Nat.pos_of_ne_zero fun hzero => endpoint.nonzero (UInt16.toNat_inj.mp hzero)
  have hplain : PlainPort value ↔ port.head? ≠ some '+' ∧ port.head? ≠ some '0' := by
    unfold PlainPort
    rw [hsplit]
    simp
  rw [hplain, ← toDigits_parseUnsigned hnumber hpos, ← String.toList_inj, endpoint.toList_display, rsplitOnce_eq hsplit]
  simp

/-- **The text of an endpoint is exact but for the spelling of its port.** Every endpoint reads back from its text and from
JSON; an accepted text comes back exactly when its port has neither a plus sign nor a leading zero. -/
theorem endpoint_text_exact {role : EndpointRole} :
    (∀ endpoint : Endpoint role, Endpoint.fromStr endpoint.display = .ok endpoint ∧
      fromJson (toJson endpoint) = some endpoint) ∧
    ∀ (value : String) (endpoint : Endpoint role), Endpoint.fromStr value = .ok endpoint →
      ((endpoint.display = value ↔ PlainPort value) ∧ (toJson endpoint = .string value ↔ PlainPort value)) := by
  refine ⟨fun endpoint => ⟨endpoint.fromStr_display, fromJson_toJson endpoint⟩, fun value endpoint h => ?_⟩
  have hjson : toJson endpoint = .string value ↔ endpoint.display = value := by
    show Json.string endpoint.display = .string value ↔ _
    rw [Json.string.injEq]
  rw [hjson, display_fromStr h]
  exact ⟨Iff.rfl, Iff.rfl⟩

/-- A bracketed host with a plain port. -/
theorem endpoint_text_exact_bracketed : ∃ endpoint : RigctldServiceEndpoint,
    Endpoint.fromStr "[::1]:4532" = .ok endpoint ∧ endpoint.display = "[::1]:4532" := by
  obtain ⟨endpoint, h⟩ : ∃ endpoint : RigctldServiceEndpoint, Endpoint.fromStr "[::1]:4532" = .ok endpoint :=
    ⟨⟨"[::1]", 4532, by decide, by decide⟩, rfl⟩
  refine ⟨endpoint, h, (endpoint_text_exact.2 _ _ h).1.mpr ?_⟩
  intro host port hsplit
  cases hsplit
  decide

/-- A sign before the port is lost. -/
theorem port_spelling_lost : ¬∀ role : EndpointRole,
    (∀ endpoint : Endpoint role, Endpoint.fromStr endpoint.display = .ok endpoint) ∧
    ∀ (value : String) (endpoint : Endpoint role), Endpoint.fromStr value = .ok endpoint → endpoint.display = value := by
  intro h
  have hsigned : Endpoint.fromStr "k4.operator.lan:+80" =
      .ok (⟨"k4.operator.lan", 80, by decide, by decide⟩ : DownstreamRigEndpoint) := rfl
  have hlost := (h .downstreamRig).2 _ _ hsigned
  revert hlost
  decide

/-! ## Profiles -/

/-- How the adapter obtains its `rigctld` service. -/
inductive RigctldMode
  | managed
  | external
  deriving DecidableEq

/-- Nonzero Hamlib radio model identifier. -/
structure HamlibModelId where
  value : UInt32
  nonzero : value ≠ 0
  deriving DecidableEq

def HamlibModelId.new (value : UInt32) : Except RigProfileError HamlibModelId :=
  if h : value = 0 then .error .invalidHamlibModel else .ok ⟨value, h⟩

/-- The check of a Hamlib version. -/
def isHamlibVersion (value : String) : Bool :=
  !(value.toList.isEmpty || decide (maxHamlibVersionBytes < byteLength value.toList) ||
    !value.toList.all fun c => c.isAlphanum || c == '.' || c == '-' || c == '+')

/-- Bounded exact Hamlib version expectation. -/
structure HamlibVersionExpectation where
  text : String
  valid : isHamlibVersion text = true
  deriving DecidableEq

def HamlibVersionExpectation.new (value : String) : Except RigProfileError HamlibVersionExpectation :=
  if h : isHamlibVersion value = true then .ok ⟨value, h⟩ else .error .invalidHamlibVersion

/-- Radio-side modulation. -/
inductive RadioModulation
  | upperSideband
  | lowerSideband
  | dataUpperSideband
  | dataLowerSideband
  | continuousWave
  | continuousWaveReverse
  | amplitudeModulation
  | frequencyModulation
  | radioTeletype
  | radioTeletypeReverse
  deriving DecidableEq

/-- Exact radio passband width in integer hertz. -/
structure RadioPassband where
  hz : UInt32
  inRange : minPassbandHz ≤ hz.toNat ∧ hz.toNat ≤ maxPassbandHz
  deriving DecidableEq

def RadioPassband.fromHz (value : UInt32) : Except RigProfileError RadioPassband :=
  if h : minPassbandHz ≤ value.toNat ∧ value.toNat ≤ maxPassbandHz then .ok ⟨value, h⟩ else .error .passbandOutOfRange

/-- Exact VFO identity reported by a read-only rig backend. -/
inductive RigVfo
  | a
  | b
  | main
  | sub
  | memory
  deriving DecidableEq

/-- Exact split readback, without a transmit VFO when the backend supplied none. -/
structure SplitReadback where
  enabled : Bool
  transmitVfo : Option RigVfo
  deriving DecidableEq

/-- Immutable, version-identified read-only rig profile contract. -/
structure RigProfile where
  revisionId : ProfileRevisionId
  downstreamEndpoint : DownstreamRigEndpoint
  serviceEndpoint : RigctldServiceEndpoint
  rigctldMode : RigctldMode
  hamlibModel : HamlibModelId
  hamlibVersion : HamlibVersionExpectation
  requiredModulation : RadioModulation
  requiredPassband : RadioPassband
  distinct : downstreamEndpoint.display ≠ serviceEndpoint.display
  loopback : rigctldMode = .managed → isLoopbackLiteral serviceEndpoint.host = true

namespace RigProfile

variable {revisionId : ProfileRevisionId} {downstreamEndpoint : DownstreamRigEndpoint}
  {serviceEndpoint : RigctldServiceEndpoint} {rigctldMode : RigctldMode} {hamlibModel : HamlibModelId}
  {hamlibVersion : HamlibVersionExpectation} {requiredModulation : RadioModulation} {requiredPassband : RadioPassband}

/-- A complete explicit read-only rig profile. -/
def new (revisionId : ProfileRevisionId) (downstreamEndpoint : DownstreamRigEndpoint)
    (serviceEndpoint : RigctldServiceEndpoint) (rigctldMode : RigctldMode) (hamlibModel : HamlibModelId)
    (hamlibVersion : HamlibVersionExpectation) (requiredModulation : RadioModulation)
    (requiredPassband : RadioPassband) : Except RigProfileError RigProfile :=
  if hdistinct : downstreamEndpoint.display = serviceEndpoint.display then .error .endpointRolesConflict
  else if hloopback : rigctldMode = .managed ∧ isLoopbackLiteral serviceEndpoint.host = false then
    .error .managedServiceNotLoopback
  else
    .ok { revisionId, downstreamEndpoint, serviceEndpoint, rigctldMode, hamlibModel, hamlibVersion, requiredModulation,
          requiredPassband, distinct := hdistinct,
          loopback := fun hmanaged => Bool.of_not_eq_false fun hfalse => hloopback ⟨hmanaged, hfalse⟩ }

/-- A profile is accepted when its texts differ and a managed service is at a loopback address. -/
theorem new_ok : (∃ profile, new revisionId downstreamEndpoint serviceEndpoint rigctldMode hamlibModel hamlibVersion
      requiredModulation requiredPassband = .ok profile) ↔
    downstreamEndpoint.display ≠ serviceEndpoint.display ∧
      (rigctldMode = .managed → isLoopbackLiteral serviceEndpoint.host = true) := by
  unfold new
  constructor
  · rintro ⟨profile, h⟩
    split_ifs at h with hdistinct hloopback
    exact ⟨hdistinct, fun hmanaged => Bool.of_not_eq_false fun hfalse => hloopback ⟨hmanaged, hfalse⟩⟩
  · rintro ⟨hdistinct, hloopback⟩
    have hmanaged : ¬(rigctldMode = .managed ∧ isLoopbackLiteral serviceEndpoint.host = false) := by
      rintro ⟨hmode, hfalse⟩
      rw [hloopback hmode] at hfalse
      cases hfalse
    rw [dif_neg hdistinct, dif_neg hmanaged]
    exact ⟨_, rfl⟩

/-- An accepted profile keeps its endpoints and its mode. -/
theorem new_fields {profile : RigProfile} (h : new revisionId downstreamEndpoint serviceEndpoint rigctldMode hamlibModel
      hamlibVersion requiredModulation requiredPassband = .ok profile) :
    profile.downstreamEndpoint = downstreamEndpoint ∧ profile.serviceEndpoint = serviceEndpoint ∧
      profile.rigctldMode = rigctldMode := by
  unfold new at h
  split_ifs at h
  cases h
  exact ⟨rfl, rfl, rfl⟩

end RigProfile

end Slotpilot.Domain
