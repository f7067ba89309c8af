import Slotpilot.Domain.Rig

/-!
# Distinct endpoint roles

A profile compares its endpoints as texts, but one network endpoint has several texts: the letters of a host name can be
in either case, and an IPv6 address can be written in several ways. An IPv4 address has one text only.

* `sameHost_iff`: the accepted hosts that are one host in two spellings;
* `endpoint_roles_distinct`: the endpoints of accepted profiles are distinct exactly without such a pair of hosts.
-/

set_option autoImplicit false

namespace Slotpilot.Domain

open Slotpilot.Lib

/-! ## Hosts as addresses and names -/

/-- The hosts are one: as IP addresses if both are, and otherwise as names, whose case does not matter. -/
def SameHost (a b : String) : Prop :=
  match hostLiteral a, hostLiteral b with
  | some x, some y => x = y
  | _, _ => EqIgnoreAsciiCase a.toList b.toList

/-- The endpoints denote one network endpoint. -/
def SameEndpoint (downstream : DownstreamRigEndpoint) (service : RigctldServiceEndpoint) : Prop :=
  downstream.port = service.port ∧ SameHost downstream.host service.host

/-- One host in two spellings: a name in letters of different case, or the bracketed groups of one address. -/
def Respelled (a b : String) : Prop :=
  a ≠ b ∧
    match stripBrackets a.toList, stripBrackets b.toList with
    | some x, some y => parseIpAddr x = parseIpAddr y
    | none, none => EqIgnoreAsciiCase a.toList b.toList
    | _, _ => False

section Hosts

variable {a b host : String}

theorem stripBrackets_some {text inner : List Char} (h : stripBrackets text = some inner) : '[' ∈ text := by
  unfold stripBrackets at h
  split at h
  · exact List.mem_cons_self
  · cases h

/-- A host is a bracketed IPv6 address or a plain text. -/
theorem validateHost_ok (h : validateHost host = .ok ()) :
    (∃ inner address, stripBrackets host.toList = some inner ∧ parseIpAddr inner = some (.v6 address)) ∨
      stripBrackets host.toList = none ∧ ':' ∉ host.toList ∧ ∀ c ∈ host.toList, isHostCharacter c = true := by
  unfold validateHost at h
  by_cases hsize : host.toList = [] ∨ maxEndpointHostBytes < byteLength host.toList
  · rw [if_pos hsize] at h
    cases h
  rw [if_neg hsize] at h
  cases hstrip : stripBrackets host.toList with
  | some inner =>
    rw [hstrip] at h
    dsimp only at h
    split_ifs at h with hipv6
    cases hparse : parseIpAddr inner with
    | none =>
      rw [hparse] at hipv6
      cases hipv6
    | some address =>
      cases address with
      | v4 address =>
        rw [hparse] at hipv6
        cases hipv6
      | v6 address => exact .inl ⟨inner, address, rfl, hparse⟩
  | none =>
    rw [hstrip] at h
    dsimp only at h
    split_ifs at h with hplain
    rw [not_or, Bool.not_eq_false, List.all_eq_true] at hplain
    exact .inr ⟨rfl, hplain⟩

/-- A plain host that is an address is the text of an IPv4 address. -/
theorem plain_literal (hstrip : stripBrackets host.toList = none) (hcolon : ':' ∉ host.toList) {address : IpAddr}
    (h : hostLiteral host = some address) : ∃ v4, address = .v4 v4 ∧ host.toList = v4.text := by
  rw [hostLiteral, hstrip, Option.getD_none] at h
  cases address with
  | v4 v4 => exact ⟨v4, rfl, parseIpAddr_v4 h⟩
  | v6 v6 => exact absurd (parseIpAddr_v6 h) hcolon

theorem isUpper_ipv4 {address : Ipv4Addr} {c : Char} (h : c ∈ address.text) : c.isUpper = false := by
  obtain rfl | hdigit := mem_ipv4Text h
  · rfl
  · obtain ⟨-, hmax⟩ := toNat_isDigit hdigit
    have hsmall : ¬65 ≤ c.toNat := by omega
    simp [Char.isUpper, UInt32.le_iff_toNat_le, hsmall]

/-- A bracketed host and a plain one differ as names. -/
theorem bracket_ne {inner : List Char} (ha : stripBrackets a.toList = some inner)
    (hb : ∀ c ∈ b.toList, isHostCharacter c = true) : ¬EqIgnoreAsciiCase a.toList b.toList := by
  intro h
  have hbracket : '[' ∈ b.toList.map Char.toLower := by
    rw [← h]
    exact List.mem_map.mpr ⟨'[', stripBrackets_some ha, rfl⟩
  obtain ⟨c, hc, hlower⟩ := List.mem_map.mp hbracket
  cases hupper : c.isUpper with
  | true =>
    have hvalue := toNat_toLower hupper
    rw [hlower] at hvalue
    have hbracketValue : '['.toNat = 91 := rfl
    simp only [Char.isUpper, decide_eq_true_eq, ge_iff_le, UInt32.le_iff_toNat_le] at hupper
    have hmin : 65 ≤ c.toNat := hupper.1
    omega
  | false =>
    rw [toLower_of_not_isUpper hupper] at hlower
    subst hlower
    cases hb _ hc

/-- **One host in two spellings.** Accepted hosts of different texts are one host exactly if they are respelled. -/
theorem sameHost_iff (ha : validateHost a = .ok ()) (hb : validateHost b = .ok ()) (hne : a ≠ b) :
    SameHost a b ↔ Respelled a b := by
  unfold SameHost Respelled
  rw [and_iff_right hne]
  obtain ⟨x, addressA, hstripA, hparseA⟩ | ⟨hstripA, hcolonA, hplainA⟩ := validateHost_ok ha
  · have hliteralA : hostLiteral a = some (.v6 addressA) := by
      rw [hostLiteral, hstripA, Option.getD_some, hparseA]
    rw [hliteralA, hstripA]
    obtain ⟨y, addressB, hstripB, hparseB⟩ | ⟨hstripB, hcolonB, hplainB⟩ := validateHost_ok hb
    · -- Two bracketed addresses.
      have hliteralB : hostLiteral b = some (.v6 addressB) := by
        rw [hostLiteral, hstripB, Option.getD_some, hparseB]
      rw [hliteralB, hstripB]
      dsimp only
      rw [hparseA, hparseB, Option.some.injEq]
    · -- A bracketed address and a plain host.
      rw [hstripB]
      dsimp only
      rw [iff_false]
      cases hliteralB : hostLiteral b with
      | none => exact bracket_ne hstripA hplainB
      | some address =>
        obtain ⟨v4, rfl, -⟩ := plain_literal hstripB hcolonB hliteralB
        simp
  · rw [hstripA]
    obtain ⟨y, addressB, hstripB, hparseB⟩ | ⟨hstripB, hcolonB, hplainB⟩ := validateHost_ok hb
    · -- A plain host and a bracketed address.
      have hliteralB : hostLiteral b = some (.v6 addressB) := by
        rw [hostLiteral, hstripB, Option.getD_some, hparseB]
      rw [hstripB, hliteralB]
      dsimp only
      rw [iff_false]
      cases hliteralA : hostLiteral a with
      | none => exact fun h => bracket_ne hstripB hplainA h.symm
      | some address =>
        obtain ⟨v4, rfl, -⟩ := plain_literal hstripA hcolonA hliteralA
        simp
    · -- Two plain hosts: addresses are in IPv4, of which there is one text only.
      rw [hstripB]
      cases hliteralA : hostLiteral a with
      | none => exact Iff.rfl
      | some addressA =>
        cases hliteralB : hostLiteral b with
        | none => exact Iff.rfl
        | some addressB =>
          obtain ⟨v4A, rfl, htextA⟩ := plain_literal hstripA hcolonA hliteralA
          obtain ⟨v4B, rfl, htextB⟩ := plain_literal hstripB hcolonB hliteralB
          dsimp only
          constructor
          · intro h
            cases h
            exact absurd (String.toList_injective (htextA.trans htextB.symm)) hne
          · intro h
            have htexts := eq_of_eqIgnoreAsciiCase (fun c hc => isUpper_ipv4 (htextA ▸ hc))
              (fun c hc => isUpper_ipv4 (htextB ▸ hc)) h
            exact absurd (String.toList_injective htexts) hne

end Hosts

/-! ## Profiles -/

theorem isLoopbackLiteral_iff {host : String} : isLoopbackLiteral host = true ↔
    ∃ address, hostLiteral host = some address ∧ address.isLoopback = true := by
  rw [isLoopbackLiteral, Option.any_eq_true]

/-- The endpoints of a profile are distinct, and a managed service is at a loopback address. -/
def RigProfile.RolesDistinct (self : RigProfile) : Prop :=
  ¬SameEndpoint self.downstreamEndpoint self.serviceEndpoint ∧
    (self.rigctldMode = .managed →
      ∃ address, hostLiteral self.serviceEndpoint.host = some address ∧ address.isLoopback = true)

/-- **Endpoint roles are distinct but for respelled hosts.** The endpoints of an accepted profile denote one network
endpoint exactly when they have one port and their hosts are a name in letters of different case or one IPv6 address
written in two ways; in managed mode the service is always at a loopback address. -/
theorem endpoint_roles_distinct (revisionId : ProfileRevisionId) (downstream : DownstreamRigEndpoint)
    (service : RigctldServiceEndpoint) (mode : RigctldMode) (model : HamlibModelId)
    (version : HamlibVersionExpectation) (modulation : RadioModulation) (passband : RadioPassband) :
    (∀ profile, RigProfile.new revisionId downstream service mode model version modulation passband = .ok profile →
      profile.RolesDistinct) ↔
    ¬(downstream.port = service.port ∧ Respelled downstream.host service.host ∧
      (mode = .managed → isLoopbackLiteral service.host = true)) := by
  constructor
  · rintro h ⟨hport, hrespelled, hloopback⟩
    have hdistinct : downstream.display ≠ service.display := fun heq => hrespelled.1 (Endpoint.display_inj.mp heq).1
    obtain ⟨profile, hnew⟩ := RigProfile.new_ok.mpr ⟨hdistinct, hloopback⟩
    obtain ⟨hdifferent, -⟩ := h profile hnew
    obtain ⟨hdownstream, hservice, -⟩ := RigProfile.new_fields hnew
    rw [hdownstream, hservice] at hdifferent
    exact hdifferent ⟨hport, (sameHost_iff downstream.valid service.valid hrespelled.1).mpr hrespelled⟩
  · intro h profile hnew
    refine ⟨?_, fun hmanaged => isLoopbackLiteral_iff.mp (profile.loopback hmanaged)⟩
    obtain ⟨hdistinct, hloopback⟩ := RigProfile.new_ok.mp ⟨profile, hnew⟩
    obtain ⟨hdownstream, hservice, -⟩ := RigProfile.new_fields hnew
    rw [hdownstream, hservice]
    rintro ⟨hport, hhost⟩
    have hne : downstream.host ≠ service.host := fun heq => hdistinct (Endpoint.display_inj.mpr ⟨heq, hport⟩)
    exact h ⟨hport, (sameHost_iff downstream.valid service.valid hne).mp hhost, hloopback⟩

/-- One name in two cases is accepted for both roles. -/
theorem respelled_roles_accepted : ¬∀ (revisionId : ProfileRevisionId) (downstream : DownstreamRigEndpoint)
    (service : RigctldServiceEndpoint) (mode : RigctldMode) (model : HamlibModelId)
    (version : HamlibVersionExpectation) (modulation : RadioModulation) (passband : RadioPassband) (profile : RigProfile),
    RigProfile.new revisionId downstream service mode model version modulation passband = .ok profile →
      profile.RolesDistinct := by
  intro h
  have hdistinct := (endpoint_roles_distinct ⟨"prv_01jrigprofile", by decide⟩
    ⟨"Rig.lan", 4532, by decide, by decide⟩ ⟨"rig.lan", 4532, by decide, by decide⟩ .external ⟨2047, by decide⟩
    ⟨"4.7.1", by decide⟩ .dataUpperSideband ⟨3000, by decide⟩).mp fun profile => h _ _ _ _ _ _ _ _ profile
  refine hdistinct ⟨rfl, ⟨by decide, ?_⟩, by simp⟩
  exact (rfl : "Rig.lan".toList.map Char.toLower = "rig.lan".toList.map Char.toLower)

end Slotpilot.Domain
