import Slotpilot.Domain.Radio
import Slotpilot.Domain.Rig
import Slotpilot.Operations.Time

/-!
# Read-only rig contracts

The values that a rig port exchanges with its consumers: evidence for each read capability, observations with their
provenance, and the typed failures.

* `freshAt_eq`: the freshness of an observation by its two ages;
* `profile_validation_exact`: a profile is satisfied exactly when each required capability has evidence of its own.
-/

set_option autoImplicit false

namespace Slotpilot.Operations

open Domain Lib

def maxRigCapabilities : Nat := 7

def maxRigValidationFindings : Nat := 32

def maxRigFreshnessMillis : Nat := 300000

def maxRigTimingDivergenceMillis : Nat := 60000

/-- Failure constructing a bounded read-only rig contract value. -/
inductive RigContractError
  | zeroGeneration
  | invalidCapabilitySet
  | tooManyValidationFindings
  | negativeUtcTimestamp
  | invalidFreshnessPolicy
  deriving DecidableEq

/-! ## Capabilities -/

/-- One read operation whose support can be evaluated independently. -/
inductive RigCapability
  | dialFrequency
  | modulation
  | passband
  | vfo
  | split
  | power
  | ptt
  deriving DecidableEq

/-- Strength or failure state of evidence for one read capability. -/
inductive RigCapabilityStatus
  | backendClaimed
  | runtimeProbed
  | physicallyVerified
  | unsupported
  | unavailable
  | staleOrUnverified
  deriving DecidableEq

/-- Evidence for exactly one read capability. -/
structure RigCapabilityEvidence where
  capability : RigCapability
  status : RigCapabilityStatus
  deriving DecidableEq

/-- Positive generation of one persistent read-only rig connection. -/
structure RigConnectionGeneration where
  value : UInt64
  nonzero : value ≠ 0

theorem RigConnectionGeneration.eq_iff {a b : RigConnectionGeneration} : a.value = b.value ↔ a = b := by
  cases a
  cases b
  simp

instance : DecidableEq RigConnectionGeneration := fun _ _ => decidable_of_iff _ RigConnectionGeneration.eq_iff

def RigConnectionGeneration.new (value : UInt64) : Except RigContractError RigConnectionGeneration :=
  if h : value = 0 then .error .zeroGeneration else .ok ⟨value, h⟩

/-- Positive sequence of one observation within a connection generation. -/
structure RigObservationSequence where
  value : UInt64
  nonzero : value ≠ 0

theorem RigObservationSequence.eq_iff {a b : RigObservationSequence} : a.value = b.value ↔ a = b := by
  cases a
  cases b
  simp

instance : DecidableEq RigObservationSequence := fun _ _ => decidable_of_iff _ RigObservationSequence.eq_iff

def RigObservationSequence.new (value : UInt64) : Except RigContractError RigObservationSequence :=
  if h : value = 0 then .error .zeroGeneration else .ok ⟨value, h⟩

/-- Bounded capability report tied to one connection generation. -/
structure RigCapabilityReport where
  generation : RigConnectionGeneration
  evidence : List RigCapabilityEvidence
  unique : (evidence.map (·.capability)).Nodup
  deriving DecidableEq

/-- The list has as many different elements as elements; `dedup` is the set that the source collects. -/
def isUnique (capabilities : List RigCapability) : Bool := capabilities.dedup.length == capabilities.length

/-- A list with no element twice is as long as its set. -/
theorem isUnique_iff {capabilities : List RigCapability} : isUnique capabilities = true ↔ capabilities.Nodup := by
  unfold isUnique
  rw [beq_iff_eq]
  constructor
  · intro h
    rw [← capabilities.dedup_sublist.eq_of_length h]
    exact capabilities.nodup_dedup
  · intro h
    rw [h.dedup]

/-- There are only so many capabilities. -/
theorem length_le_of_nodup {capabilities : List RigCapability} (h : capabilities.Nodup) :
    capabilities.length ≤ maxRigCapabilities := by
  have hsub : capabilities ⊆ [.dialFrequency, .modulation, .passband, .vfo, .split, .power, .ptt] := by
    intro capability _
    cases capability <;> simp
  exact (h.subperm hsub).length_le

namespace RigCapabilityReport

/-- A report after the checks of its size and of unique capabilities. -/
def new (generation : RigConnectionGeneration) (evidence : List RigCapabilityEvidence) :
    Except RigContractError RigCapabilityReport :=
  if maxRigCapabilities < evidence.length then .error .invalidCapabilitySet
  else if h : isUnique (evidence.map (·.capability)) = true then .ok ⟨generation, evidence, isUnique_iff.mp h⟩
  else .error .invalidCapabilitySet

/-- The evidence for one capability, if the probe reported it. -/
def status (self : RigCapabilityReport) (capability : RigCapability) : Option RigCapabilityStatus :=
  (self.evidence.find? fun item => item.capability = capability).map (·.status)

theorem new_ok {generation : RigConnectionGeneration} {evidence : List RigCapabilityEvidence}
    {report : RigCapabilityReport} :
    new generation evidence = .ok report ↔ report.generation = generation ∧ report.evidence = evidence := by
  unfold new
  constructor
  · intro h
    split_ifs at h
    cases h
    exact ⟨rfl, rfl⟩
  · rintro ⟨rfl, rfl⟩
    have hlength := length_le_of_nodup report.unique
    rw [List.length_map] at hlength
    rw [if_neg (Nat.not_lt.mpr hlength), dif_pos (isUnique_iff.mpr report.unique)]

/-- Unique evidence is found by its capability. -/
theorem status_eq_some {self : RigCapabilityReport} {capability : RigCapability} {status : RigCapabilityStatus} :
    self.status capability = some status ↔ ⟨capability, status⟩ ∈ self.evidence := by
  obtain ⟨generation, evidence, hunique⟩ := self
  unfold RigCapabilityReport.status
  dsimp only
  induction evidence with
  | nil => simp
  | cons item evidence ih =>
    rw [List.map_cons, List.nodup_cons] at hunique
    obtain ⟨hnew, hrest⟩ := hunique
    rw [List.find?_cons, List.mem_cons]
    by_cases hitem : item.capability = capability
    · simp only [hitem, decide_true, Option.map_some, Option.some.injEq]
      constructor
      · rintro rfl
        exact .inl (by rw [← hitem])
      · rintro (rfl | hmem)
        · rfl
        · exact absurd (List.mem_map.mpr ⟨_, hmem, hitem.symm⟩) hnew
    · simp only [hitem, decide_false]
      rw [ih hrest]
      constructor
      · exact .inr
      · rintro (rfl | hmem)
        · exact absurd rfl hitem
        · exact hmem

end RigCapabilityReport

/-! ## Observations -/

/-- Readback state that never substitutes a primitive default for missing data. -/
inductive RigReadback (T : Type)
  | observed (value : T)
  | unsupported
  | unavailable
  | staleOrUnverified
  deriving DecidableEq

/-- Exact owned fields from one read-only observation. -/
structure RigObservationFields where
  dialFrequency : RigReadback DialFrequency
  modulation : RigReadback RadioModulation
  passband : RigReadback RadioPassband
  vfo : RigReadback RigVfo
  split : RigReadback SplitReadback
  power : RigReadback Power
  pttAsserted : RigReadback Bool
  deriving DecidableEq

/-- Paired UTC and process-local monotonic timestamp for a rig observation. -/
structure RigObservationTimestamp where
  utcUnixMillis : Int64
  monotonicMillis : UInt64
  nonneg : 0 ≤ utcUnixMillis.toInt

theorem RigObservationTimestamp.eq_iff {a b : RigObservationTimestamp} :
    a.utcUnixMillis = b.utcUnixMillis ∧ a.monotonicMillis = b.monotonicMillis ↔ a = b := by
  cases a
  cases b
  simp

instance : DecidableEq RigObservationTimestamp := fun _ _ => decidable_of_iff _ RigObservationTimestamp.eq_iff

def RigObservationTimestamp.new (utcUnixMillis : Int64) (monotonicMillis : UInt64) :
    Except RigContractError RigObservationTimestamp :=
  if h : utcUnixMillis.toInt < 0 then .error .negativeUtcTimestamp
  else .ok ⟨utcUnixMillis, monotonicMillis, Int.not_lt.mp h⟩

/-- The owned integer values of an injected clock sample. -/
def RigObservationTimestamp.fromClockSample (sample : ClockSample) : RigObservationTimestamp :=
  ⟨sample.utc.unixMillis, sample.monotonic.millis, sample.utc.nonneg⟩

/-- Source and ordering identity retained with every observation. -/
structure RigObservationProvenance where
  serviceInstanceId : ServiceInstanceId
  connectionGeneration : RigConnectionGeneration
  sequence : RigObservationSequence
  deriving DecidableEq

/-- One complete owned read-only observation before freshness admission. -/
structure RigObservation where
  profileRevisionId : ProfileRevisionId
  provenance : RigObservationProvenance
  observedAt : RigObservationTimestamp
  fields : RigObservationFields
  deriving DecidableEq

/-! ## Failures -/

/-- Read-only operation associated with a typed failure. -/
inductive RigOperation
  | connect
  | probe
  | read
  deriving DecidableEq

/-- Readback field associated with contradictory or unexpected evidence. -/
inductive RigObservedField
  | profileRevision
  | dialFrequency
  | modulation
  | passband
  | vfo
  | split
  | power
  | ptt
  | timing
  deriving DecidableEq

/-- Stable coarse kind used by lifecycle snapshots. -/
inductive RigFaultKind
  | notConnected
  | notProbed
  | disconnected
  | timeout
  | stale
  | timelineRegressed
  | contradictory
  | unsupported
  | malformed
  | unexpectedChange
  | generationChanged
  deriving DecidableEq

/-- Typed read-only rig failure. -/
inductive RigFault
  | notConnected
  | notProbed
  | disconnected
  | timeout (operation : RigOperation)
  | stale (ageMillis maximumMillis : UInt64)
  | timelineRegressed
  | contradictoryTiming (utcAgeMillis monotonicAgeMillis : UInt64)
  | contradictoryReadback (field : RigObservedField)
  | unsupported (capability : RigCapability)
  | malformedResponse
  | unexpectedChange (field : RigObservedField)
  | generationChanged (expected observed : RigConnectionGeneration)
  deriving DecidableEq

/-- The stable lifecycle fault kind. -/
def RigFault.kind : RigFault → RigFaultKind
  | .notConnected => .notConnected
  | .notProbed => .notProbed
  | .disconnected => .disconnected
  | .timeout _ => .timeout
  | .stale _ _ => .stale
  | .timelineRegressed => .timelineRegressed
  | .contradictoryTiming _ _ => .contradictory
  | .contradictoryReadback _ => .contradictory
  | .unsupported _ => .unsupported
  | .malformedResponse => .malformed
  | .unexpectedChange _ => .unexpectedChange
  | .generationChanged _ _ => .generationChanged

/-- Observable lifecycle of the read-only rig port. -/
inductive RigLifecycleState
  | disconnected
  | connecting
  | connected (generation : RigConnectionGeneration)
  | probing (generation : RigConnectionGeneration)
  | ready (generation : RigConnectionGeneration)
  | faulted (generation : Option RigConnectionGeneration) (fault : RigFaultKind)
  deriving DecidableEq

/-! ## Freshness -/

/-- Fixed limits for freshness and UTC/monotonic consistency. -/
structure RigFreshnessPolicy where
  maxAgeMillis : UInt64
  maxTimingDivergenceMillis : UInt64
  bounded : maxAgeMillis ≠ 0 ∧ maxAgeMillis.toNat ≤ maxRigFreshnessMillis ∧
    maxTimingDivergenceMillis.toNat ≤ maxRigTimingDivergenceMillis
  deriving DecidableEq

def RigFreshnessPolicy.new (maxAgeMillis maxTimingDivergenceMillis : UInt64) :
    Except RigContractError RigFreshnessPolicy :=
  if h : maxAgeMillis = 0 ∨ maxRigFreshnessMillis < maxAgeMillis.toNat ∨
      maxRigTimingDivergenceMillis < maxTimingDivergenceMillis.toNat then
    .error .invalidFreshnessPolicy
  else
    .ok { maxAgeMillis, maxTimingDivergenceMillis,
          bounded := by
            rw [not_or, not_or] at h
            exact ⟨h.1, Nat.not_lt.mp h.2.1, Nat.not_lt.mp h.2.2⟩ }

/-- Checked paired age of a fresh rig observation. -/
structure RigObservationAge where
  utcMillis : UInt64
  monotonicMillis : UInt64
  deriving DecidableEq

namespace RigObservation

variable {self : RigObservation} {now : ClockSample} {policy : RigFreshnessPolicy}

/-- Checks paired age, timing consistency and monotonic freshness. -/
def freshAt (self : RigObservation) (now : ClockSample) (policy : RigFreshnessPolicy) :
    Except RigFault RigObservationAge := do
  let utcDelta ← okOr .timelineRegressed (tryI64 (now.utc.unixMillis.toInt - self.observedAt.utcUnixMillis.toInt))
  let monotonicDelta ← okOr .timelineRegressed
    (tryU64 (now.monotonic.millis.toNat - self.observedAt.monotonicMillis.toNat))
  let utcMillis ← okOr .timelineRegressed (tryU64 utcDelta.toInt)
  let divergence := ((utcMillis.toNat : Int) - monotonicDelta.toNat).natAbs
  if policy.maxTimingDivergenceMillis.toNat < divergence then
    .error (.contradictoryTiming utcMillis monotonicDelta)
  else if policy.maxAgeMillis < monotonicDelta then
    .error (.stale monotonicDelta policy.maxAgeMillis)
  else .ok { utcMillis, monotonicMillis := monotonicDelta }

/-- The verdict on an observation by its ages on the two timelines. -/
def verdict (policy : RigFreshnessPolicy) (utcAge monotonicAge : Int) : Except RigFault RigObservationAge :=
  if utcAge < 0 ∨ monotonicAge < 0 then .error .timelineRegressed
  else
    let age : RigObservationAge := ⟨UInt64.ofNat utcAge.toNat, UInt64.ofNat monotonicAge.toNat⟩
    if (policy.maxTimingDivergenceMillis.toNat : Int) < |utcAge - monotonicAge| then
      .error (.contradictoryTiming age.utcMillis age.monotonicMillis)
    else if (policy.maxAgeMillis.toNat : Int) < monotonicAge then
      .error (.stale age.monotonicMillis policy.maxAgeMillis)
    else .ok age

/-- The checked subtractions fail only when a timeline has moved back. -/
theorem freshAt_eq : self.freshAt now policy =
    verdict policy (now.utc.unixMillis.toInt - self.observedAt.utcUnixMillis.toInt)
      (now.monotonic.millis.toNat - self.observedAt.monotonicMillis.toNat) := by
  have hnow := now.utc.nonneg
  have hobserved := self.observedAt.nonneg
  have hutcs := now.utc.unixMillis.toInt_lt
  have hmonotonic := now.monotonic.millis.toNat_lt
  have hutcs' := self.observedAt.utcUnixMillis.toInt_lt
  generalize hutcAge : now.utc.unixMillis.toInt - self.observedAt.utcUnixMillis.toInt = utcAge
  generalize hmonotonicAge :
    (now.monotonic.millis.toNat : Int) - self.observedAt.monotonicMillis.toNat = monotonicAge
  obtain ⟨utcDelta, hdelta⟩ := tryI64_isSome (z := utcAge) (by omega) (by omega)
  have hdeltaAge := tryI64_eq_some.mp hdelta
  unfold freshAt verdict
  rw [hutcAge, hmonotonicAge, hdelta]
  simp only [okOr, bind, Except.bind]
  by_cases hback : monotonicAge < 0
  · have hnone : tryU64 monotonicAge = none := by
      rw [tryU64, if_neg]
      intro hfits
      exact absurd (fitsUnsigned_iff.mp hfits).1 (Int.not_le.mpr hback)
    rw [if_pos (.inr hback), hnone]
  obtain ⟨monotonicDelta, hmonotonicDelta⟩ := tryU64_isSome (z := monotonicAge) (by omega) (by omega)
  have hmonotonicEq := tryU64_eq_some.mp hmonotonicDelta
  rw [hmonotonicDelta, hdeltaAge]
  by_cases hjump : utcAge < 0
  · have hnone : tryU64 utcAge = none := by
      rw [tryU64, if_neg]
      intro hfits
      exact absurd (fitsUnsigned_iff.mp hfits).1 (Int.not_le.mpr hjump)
    rw [if_pos (.inl hjump), hnone]
  obtain ⟨utcMillis, hutcMillis⟩ := tryU64_isSome (z := utcAge) (by omega) (by omega)
  have hutcEq := tryU64_eq_some.mp hutcMillis
  rw [if_neg (not_or.mpr ⟨hjump, hback⟩), hutcMillis, ← hutcEq, ← hmonotonicEq]
  simp only [Int.toNat_natCast, UInt64.ofNat_toNat]
  show (if policy.maxTimingDivergenceMillis.toNat < ((utcMillis.toNat : Int) - monotonicDelta.toNat).natAbs then
      Except.error (RigFault.contradictoryTiming utcMillis monotonicDelta)
    else if policy.maxAgeMillis < monotonicDelta then
      Except.error (RigFault.stale monotonicDelta policy.maxAgeMillis)
    else Except.ok (⟨utcMillis, monotonicDelta⟩ : RigObservationAge)) = _
  have hdivergence : policy.maxTimingDivergenceMillis.toNat < ((utcMillis.toNat : Int) - monotonicDelta.toNat).natAbs ↔
      (policy.maxTimingDivergenceMillis.toNat : Int) < |(utcMillis.toNat : Int) - monotonicDelta.toNat| := by
    rw [Int.abs_eq_natAbs]
    omega
  have hage : policy.maxAgeMillis < monotonicDelta ↔ (policy.maxAgeMillis.toNat : Int) < monotonicDelta.toNat := by
    rw [UInt64.lt_iff_toNat_lt]
    omega
  simp only [hdivergence, hage]

end RigObservation

/-! ## Profile validation -/

/-- Effect of one validation finding. -/
inductive RigValidationDisposition
  | satisfied
  | unverified
  | failed
  deriving DecidableEq

/-- Profile-validation outcome for one required read operation. -/
structure RigValidationFinding where
  capability : RigCapability
  status : RigCapabilityStatus
  disposition : RigValidationDisposition
  deriving DecidableEq

/-- Bounded validation result tied to one immutable profile revision. -/
structure RigProfileValidation where
  profileRevisionId : ProfileRevisionId
  findings : List RigValidationFinding
  bounded : findings.length ≤ maxRigValidationFindings
  deriving DecidableEq

namespace RigProfileValidation

def new (profileRevisionId : ProfileRevisionId) (findings : List RigValidationFinding) :
    Except RigContractError RigProfileValidation :=
  if h : maxRigValidationFindings < findings.length then .error .tooManyValidationFindings
  else .ok ⟨profileRevisionId, findings, Nat.not_lt.mp h⟩

/-- Whether every required capability has sufficient evidence. -/
def isSatisfied (self : RigProfileValidation) : Bool :=
  self.findings.all fun finding => finding.disposition = .satisfied

end RigProfileValidation

/-- The effect of evidence of one strength. -/
def dispositionOf : RigCapabilityStatus → RigValidationDisposition
  | .runtimeProbed | .physicallyVerified => .satisfied
  | .backendClaimed | .staleOrUnverified => .unverified
  | .unsupported | .unavailable => .failed

/-- The finding for one required capability. -/
def findingFor (report : RigCapabilityReport) (capability : RigCapability) : RigValidationFinding :=
  let status := (report.status capability).getD .staleOrUnverified
  { capability, status, disposition := dispositionOf status }

/-- Validates required reads without treating backend claims as probe evidence. -/
def validateProfileCapabilities (profile : RigProfile) (required : List RigCapability)
    (report : RigCapabilityReport) : Except RigContractError RigProfileValidation :=
  if maxRigCapabilities < required.length then .error .invalidCapabilitySet
  else if isUnique required = false then .error .invalidCapabilitySet
  else RigProfileValidation.new profile.revisionId (required.map (findingFor report))

/-- The evidence is that a getter succeeded. -/
def Proven (status : RigCapabilityStatus) : Prop := status = .runtimeProbed ∨ status = .physicallyVerified

theorem dispositionOf_satisfied {status : RigCapabilityStatus} :
    dispositionOf status = .satisfied ↔ Proven status := by
  unfold Proven
  cases status <;> simp [dispositionOf]

/-- A finding is satisfied by evidence of its capability alone. -/
theorem findingFor_satisfied {report : RigCapabilityReport} {capability : RigCapability} :
    (findingFor report capability).disposition = .satisfied ↔
      ∃ item ∈ report.evidence, item.capability = capability ∧ Proven item.status := by
  unfold findingFor
  rw [dispositionOf_satisfied]
  constructor
  · intro h
    cases hstatus : report.status capability with
    | none =>
      rw [hstatus] at h
      rcases h with h | h <;> cases h
    | some status =>
      rw [hstatus] at h
      exact ⟨⟨capability, status⟩, RigCapabilityReport.status_eq_some.mp hstatus, rfl, h⟩
  · rintro ⟨⟨_, status⟩, hmem, rfl, hproven⟩
    rw [RigCapabilityReport.status_eq_some.mpr hmem]
    exact hproven

/-- Only a list with no capability twice is validated, and then every check of a length passes. -/
theorem validateProfileCapabilities_eq (profile : RigProfile) (required : List RigCapability)
    (report : RigCapabilityReport) :
    (¬required.Nodup → validateProfileCapabilities profile required report = .error .invalidCapabilitySet) ∧
    (required.Nodup → ∃ validation, validateProfileCapabilities profile required report = .ok validation ∧
      validation.profileRevisionId = profile.revisionId ∧ validation.findings = required.map (findingFor report)) := by
  unfold validateProfileCapabilities
  constructor
  · intro h
    have hfalse : isUnique required = false := Bool.eq_false_iff.mpr fun hunique => h (isUnique_iff.mp hunique)
    rw [if_pos hfalse]
    split <;> rfl
  · intro h
    have hlength := length_le_of_nodup h
    have hunique := isUnique_iff.mpr h
    rw [if_neg (Nat.not_lt.mpr hlength), if_neg (by rw [hunique]; simp)]
    unfold RigProfileValidation.new
    have hfindings : ¬maxRigValidationFindings < (required.map (findingFor report)).length := by
      rw [List.length_map]
      unfold maxRigValidationFindings maxRigCapabilities at *
      omega
    rw [dif_neg hfindings]
    exact ⟨_, rfl, rfl, rfl⟩

/-- **A profile is satisfied by probe evidence of this connection alone.** Requirements with a capability twice are
refused; every other list is validated, with one finding for each requirement in order, and the validation is satisfied
exactly when the report has proven evidence of each required capability. A report that keeps this evidence keeps the
verdict. -/
theorem profile_validation_exact (profile : RigProfile) (required : List RigCapability) (report : RigCapabilityReport) :
    (validateProfileCapabilities profile required report = .error .invalidCapabilitySet ↔ ¬required.Nodup) ∧
    ((∃ validation, validateProfileCapabilities profile required report = .ok validation) ↔ required.Nodup) ∧
    ∀ validation, validateProfileCapabilities profile required report = .ok validation →
      validation.findings.map (·.capability) = required ∧
      (validation.isSatisfied = true ↔
        ∀ capability ∈ required, ∃ item ∈ report.evidence, item.capability = capability ∧ Proven item.status) ∧
      ∀ (later : RigCapabilityReport) (revalidation : RigProfileValidation),
        (∀ item ∈ report.evidence, Proven item.status → item ∈ later.evidence) →
        validateProfileCapabilities profile required later = .ok revalidation →
        validation.isSatisfied = true → revalidation.isSatisfied = true := by
  have hsatisfied : ∀ (report : RigCapabilityReport) validation,
      validateProfileCapabilities profile required report = .ok validation →
      validation.findings = required.map (findingFor report) ∧ (validation.isSatisfied = true ↔
        ∀ capability ∈ required, ∃ item ∈ report.evidence, item.capability = capability ∧ Proven item.status) := by
    intro report validation h
    obtain ⟨hrefused, haccepted⟩ := validateProfileCapabilities_eq profile required report
    by_cases hnodup : required.Nodup
    · obtain ⟨found, hfound, -, hfindings⟩ := haccepted hnodup
      rw [h] at hfound
      cases hfound
      refine ⟨hfindings, ?_⟩
      unfold RigProfileValidation.isSatisfied
      rw [hfindings, List.all_map, List.all_eq_true]
      simp only [Function.comp_apply, decide_eq_true_eq, findingFor_satisfied]
    · rw [hrefused hnodup] at h
      cases h
  obtain ⟨hrefused, haccepted⟩ := validateProfileCapabilities_eq profile required report
  refine ⟨⟨fun h hnodup => ?_, hrefused⟩, ⟨?_, fun hnodup => ?_⟩, fun validation h => ?_⟩
  · obtain ⟨validation, hok, -⟩ := haccepted hnodup
    rw [h] at hok
    cases hok
  · rintro ⟨validation, hok⟩
    by_contra hnodup
    rw [hrefused hnodup] at hok
    cases hok
  · obtain ⟨validation, hok, -⟩ := haccepted hnodup
    exact ⟨validation, hok⟩
  · obtain ⟨hfindings, hiff⟩ := hsatisfied report validation h
    refine ⟨?_, hiff, fun later revalidation hkept hlater hbefore => ?_⟩
    · rw [hfindings, List.map_map]
      exact List.map_id required
    · rw [(hsatisfied later revalidation hlater).2]
      intro capability hmem
      obtain ⟨item, hitem, hcapability, hproven⟩ := hiff.mp hbefore capability hmem
      exact ⟨item, hkept item hitem hproven, hcapability, hproven⟩

end Slotpilot.Operations
