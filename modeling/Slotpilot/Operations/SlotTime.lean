import Slotpilot.Operations.Time
import Slotpilot.Domain.Radio
import Slotpilot.Lib.StateResult

/-!
# Slots on the monotonic timeline

A sample pairs a UTC instant with a monotonic one. The slot of the sample starts at the last multiple of the slot duration
that is not after it, and the next slot one duration later. Its deadline is as far from the monotonic instant as its start
is from the UTC instant (`slot_schedule`), so it expires exactly when the slot starts.
-/

set_option autoImplicit false

namespace Slotpilot.Operations

open Lib Domain

/-! ## Scheduling -/

/-- A future scheduling value on the monotonic timeline. -/
structure MonotonicDeadline where
  instant : MonotonicInstant
  deriving DecidableEq

/-- The deadline has expired at a sample. -/
def MonotonicDeadline.isExpiredAt (self : MonotonicDeadline) (now : MonotonicInstant) : Bool :=
  now.millis ≥ self.instant.millis

namespace ClockSample

/-- Maps a future UTC instant to a monotonic deadline. -/
def deadlineFor (self : ClockSample) (target : UtcInstant) : Except SlotTimeError MonotonicDeadline := do
  let delta ← okOr .arithmeticOverflow (tryI64 (target.unixMillis.toInt - self.utc.unixMillis.toInt))
  if delta.toInt < 0 then .error .missedDeadline
  else
    let delta ← okOr .arithmeticOverflow (tryU64 delta.toInt)
    let value ← okOr .arithmeticOverflow (tryU64 (self.monotonic.millis.toNat + delta.toNat))
    pure ⟨⟨value⟩⟩

/-- The first slot strictly after the sample, and its deadline. -/
def nextSlot (self : ClockSample) (mode : OperatingMode) : Except SlotTimeError (UtcSlot × MonotonicDeadline) := do
  let duration := mode.slotMillis.toInt
  let index ← okOr .arithmeticOverflow (tryI64 (self.utc.unixMillis.toInt.tdiv duration))
  let following ← okOr .arithmeticOverflow (tryI64 (index.toInt + 1))
  let start ← okOr .arithmeticOverflow (tryI64 (following.toInt * duration))
  let utc ← UtcInstant.fromUnixMillis start
  let slot ← (UtcSlot.new mode start).mapError fun _ => .misalignedSlot
  let deadline ← self.deadlineFor utc
  pure (slot, deadline)

/-- The aligned slot that contains the sample. -/
def currentSlot (self : ClockSample) (mode : OperatingMode) : Except SlotTimeError UtcSlot :=
  let start := self.utc.unixMillis - self.utc.unixMillis % mode.slotMillis
  (UtcSlot.new mode start).mapError fun _ => .misalignedSlot

end ClockSample

/-! ## What the parts return -/

theorem slotMillis_bounds (mode : OperatingMode) : 2 ≤ mode.slotMillis.toInt ∧ mode.slotMillis.toInt ≤ 120000 := by
  cases mode <;> decide

/-- Aligned starts after the epoch make slots. -/
theorem slot_of_aligned (mode : OperatingMode) {start : Int64} (hnonneg : 0 ≤ start.toInt)
    (haligned : mode.slotMillis.toInt ∣ start.toInt) :
    ∃ slot, UtcSlot.new mode start = .ok slot ∧ slot.mode = mode ∧ slot.startUnixMillis = start := by
  have hmod : ¬start.toInt.tmod mode.slotMillis.toInt ≠ 0 := not_not.mpr (Int.tmod_eq_zero_of_dvd haligned)
  unfold UtcSlot.new
  rw [dif_neg (Int.not_lt.mpr hnonneg), dif_neg hmod]
  exact ⟨_, rfl, rfl, rfl⟩

variable {sample : ClockSample} {mode : OperatingMode}

/-- The deadline of a target that is not before the sample is as far away, when it has a representation. -/
theorem deadlineFor_of_le {target : UtcInstant} (h : sample.utc.unixMillis.toInt ≤ target.unixMillis.toInt) :
    (∃ deadline, sample.deadlineFor target = .ok deadline ∧
      (deadline.instant.millis.toNat : Int) =
        sample.monotonic.millis.toNat + (target.unixMillis.toInt - sample.utc.unixMillis.toInt)) ∨
    sample.deadlineFor target = .error .arithmeticOverflow ∧
      2 ^ 64 ≤ sample.monotonic.millis.toNat + (target.unixMillis.toInt - sample.utc.unixMillis.toInt) := by
  have hutc := sample.utc.nonneg
  have hrange := target.unixMillis.toInt_lt
  obtain ⟨delta, hdelta⟩ := tryI64_isSome (z := target.unixMillis.toInt - sample.utc.unixMillis.toInt) (by omega) (by omega)
  have hvalue := tryI64_eq_some.mp hdelta
  obtain ⟨unsigned, hunsigned⟩ := tryU64_isSome (z := delta.toInt) (by omega) (by omega)
  have hunsigned' := tryU64_eq_some.mp hunsigned
  have hforward : ¬delta.toInt < 0 := by omega
  have hend : sample.deadlineFor target =
      okOr .arithmeticOverflow (tryU64 (sample.monotonic.millis.toNat + unsigned.toNat)) >>= fun value =>
        .ok ⟨⟨value⟩⟩ := by
    unfold ClockSample.deadlineFor
    rw [hdelta]
    show (if delta.toInt < 0 then _ else _) = _
    rw [if_neg hforward, hunsigned]
    rfl
  rw [hend]
  cases hsum : tryU64 ((sample.monotonic.millis.toNat : Int) + unsigned.toNat) with
  | some value =>
    have hsum' := tryU64_eq_some.mp hsum
    refine .inl ⟨⟨⟨value⟩⟩, rfl, ?_⟩
    show (value.toNat : Int) = _
    omega
  | none =>
    refine .inr ⟨rfl, ?_⟩
    by_contra hfits
    obtain ⟨value, hsome⟩ := tryU64_isSome (z := (sample.monotonic.millis.toNat : Int) + unsigned.toNat)
      (by omega) (by omega)
    rw [hsome] at hsum
    cases hsum

/-- The slot of a sample starts at the last multiple of the duration. -/
theorem currentSlot_ok (sample : ClockSample) (mode : OperatingMode) :
    ∃ slot, sample.currentSlot mode = .ok slot ∧ slot.mode = mode ∧ mode.slotMillis.toInt ∣ slot.startUnixMillis.toInt ∧
      slot.startUnixMillis.toInt ≤ sample.utc.unixMillis.toInt ∧
      sample.utc.unixMillis.toInt < slot.startUnixMillis.toInt + mode.slotMillis.toInt := by
  have hutc := sample.utc.nonneg
  have hrange := sample.utc.unixMillis.toInt_lt
  have hpos : 0 < mode.slotMillis.toInt := Int.lt_of_lt_of_le (by decide) (slotMillis_bounds mode).1
  have hrem := Int.emod_nonneg sample.utc.unixMillis.toInt (Int.ne_of_gt hpos)
  have hlt := Int.emod_lt_of_pos sample.utc.unixMillis.toInt hpos
  have hquotient := Int.mul_nonneg (Int.le_of_lt hpos) (Int.ediv_nonneg hutc (Int.le_of_lt hpos))
  have hsplit := Int.mul_ediv_add_emod sample.utc.unixMillis.toInt mode.slotMillis.toInt
  have hstart : (sample.utc.unixMillis - sample.utc.unixMillis % mode.slotMillis).toInt =
      sample.utc.unixMillis.toInt - sample.utc.unixMillis.toInt % mode.slotMillis.toInt := by
    rw [Int64.toInt_sub, Int64.toInt_mod, Int.tmod_eq_emod_of_nonneg hutc, Int.bmod_eq_of_le (by omega) (by omega)]
  have haligned : mode.slotMillis.toInt ∣ sample.utc.unixMillis.toInt - sample.utc.unixMillis.toInt % mode.slotMillis.toInt :=
    Int.dvd_self_sub_emod
  have hnonneg : 0 ≤ (sample.utc.unixMillis - sample.utc.unixMillis % mode.slotMillis).toInt := by omega
  obtain ⟨slot, hslot, hmode, hvalue⟩ := slot_of_aligned mode hnonneg (hstart ▸ haligned)
  refine ⟨slot, ?_, hmode, ?_⟩
  · unfold ClockSample.currentSlot
    dsimp only
    rw [hslot]
    rfl
  · rw [hvalue, hstart]
    exact ⟨haligned, by omega, by omega⟩

/-- The slot at a start and its deadline. -/
def slotWithDeadline (sample : ClockSample) (mode : OperatingMode) (start : Int64) :
    Except SlotTimeError (UtcSlot × MonotonicDeadline) := do
  let utc ← UtcInstant.fromUnixMillis start
  let slot ← (UtcSlot.new mode start).mapError fun _ => .misalignedSlot
  let deadline ← sample.deadlineFor utc
  pure (slot, deadline)

/-- The next slot is the one a duration after the slot of the sample. -/
theorem nextSlot_eq {slot : UtcSlot} (hcurrent : sample.currentSlot mode = .ok slot) :
    sample.nextSlot mode =
      okOr .arithmeticOverflow (tryI64 (slot.startUnixMillis.toInt + mode.slotMillis.toInt)) >>=
        slotWithDeadline sample mode := by
  obtain ⟨_, hslot, -, ⟨quotient, hquotient⟩, hle, hlt⟩ := currentSlot_ok sample mode
  cases hcurrent.symm.trans hslot
  obtain ⟨htwo, -⟩ := slotMillis_bounds mode
  have hpos : 0 < mode.slotMillis.toInt := Int.lt_of_lt_of_le (by decide) htwo
  have hutc := sample.utc.nonneg
  have hrange := sample.utc.unixMillis.toInt_lt
  have hdiv : sample.utc.unixMillis.toInt.tdiv mode.slotMillis.toInt = quotient := by
    rw [Int.tdiv_eq_ediv_of_nonneg hutc, Int.ediv_eq_iff_of_pos hpos]
    rw [hquotient] at hle hlt
    constructor
    · linarith
    · linarith
  have hindex_nonneg : 0 ≤ quotient := by
    rw [← hdiv]
    exact Int.tdiv_nonneg hutc (Int.le_of_lt hpos)
  have hindex_le : 2 * quotient ≤ mode.slotMillis.toInt * quotient := Int.mul_le_mul_of_nonneg_right htwo hindex_nonneg
  obtain ⟨index, hindex⟩ := tryI64_isSome (z := quotient) (by omega) (by omega)
  have hindex' := tryI64_eq_some.mp hindex
  obtain ⟨following, hfollowing⟩ := tryI64_isSome (z := index.toInt + 1) (by omega) (by omega)
  have hfollowing' := tryI64_eq_some.mp hfollowing
  have hproduct : following.toInt * mode.slotMillis.toInt = slot.startUnixMillis.toInt + mode.slotMillis.toInt := by
    rw [hfollowing', hindex', hquotient]
    ring
  unfold ClockSample.nextSlot
  dsimp only
  rw [hdiv, hindex]
  show (okOr _ (tryI64 (index.toInt + 1)) >>= _) = _
  rw [hfollowing, ← hproduct]
  rfl

/-- The next slot starts one duration after that of the sample, when its start and its deadline have representations. -/
theorem nextSlot_ends {slot : UtcSlot} (hcurrent : sample.currentSlot mode = .ok slot) :
    (∃ next deadline, sample.nextSlot mode = .ok (next, deadline) ∧ next.mode = mode ∧
      next.startUnixMillis.toInt = slot.startUnixMillis.toInt + mode.slotMillis.toInt ∧
      (deadline.instant.millis.toNat : Int) =
        sample.monotonic.millis.toNat + (next.startUnixMillis.toInt - sample.utc.unixMillis.toInt)) ∨
    sample.nextSlot mode = .error .arithmeticOverflow ∧
      (2 ^ 63 ≤ slot.startUnixMillis.toInt + mode.slotMillis.toInt ∨
        2 ^ 64 ≤ sample.monotonic.millis.toNat +
          (slot.startUnixMillis.toInt + mode.slotMillis.toInt - sample.utc.unixMillis.toInt)) := by
  obtain ⟨_, hslot, -, haligned, hle, hlt⟩ := currentSlot_ok sample mode
  cases hcurrent.symm.trans hslot
  have hpos := (slotMillis_bounds mode).1
  have hutc := sample.utc.nonneg
  have hrange := slot.startUnixMillis.le_toInt
  rw [nextSlot_eq hcurrent]
  cases hstart : tryI64 (slot.startUnixMillis.toInt + mode.slotMillis.toInt) with
  | none =>
    refine .inr ⟨rfl, .inl ?_⟩
    by_contra hfits
    obtain ⟨start, hsome⟩ := tryI64_isSome (z := slot.startUnixMillis.toInt + mode.slotMillis.toInt) (by omega) (by omega)
    rw [hsome] at hstart
    cases hstart
  | some start =>
    have hstart' := tryI64_eq_some.mp hstart
    have hnonneg : 0 ≤ start.toInt := by omega
    obtain ⟨next, hnext, hmode, hvalue⟩ :=
      slot_of_aligned mode hnonneg (hstart' ▸ Int.dvd_add haligned (Int.dvd_refl _) : mode.slotMillis.toInt ∣ start.toInt)
    have hresult : (okOr SlotTimeError.arithmeticOverflow (some start) >>= slotWithDeadline sample mode) =
        sample.deadlineFor ⟨start, hnonneg⟩ >>= fun deadline => .ok (next, deadline) := by
      show slotWithDeadline sample mode start = _
      unfold slotWithDeadline UtcInstant.fromUnixMillis
      rw [dif_pos hnonneg, hnext]
      rfl
    have hafter : sample.utc.unixMillis.toInt ≤ (⟨start, hnonneg⟩ : UtcInstant).unixMillis.toInt := by
      show _ ≤ start.toInt
      omega
    rw [hresult]
    obtain ⟨deadline, hdeadline, hvalue'⟩ | ⟨herror, hlarge⟩ := deadlineFor_of_le hafter
    · refine .inl ⟨next, deadline, ?_, hmode, ?_, ?_⟩
      · rw [hdeadline]
        rfl
      · rw [hvalue, hstart']
      · rw [hvalue, hvalue']
    · refine .inr ⟨?_, .inr ?_⟩
      · rw [herror]
        rfl
      · rwa [← hstart']

/-! ## Scheduling -/

/-- The slot of a sample is the aligned one that contains it. The next slot is the one directly after; its deadline lies
as far after the monotonic instant as its start after the UTC instant, so it is in the future and expires when the slot
starts. It is refused exactly when its start or its deadline has no representation. -/
theorem slot_schedule (sample : ClockSample) (mode : OperatingMode) :
    ∃ slot, sample.currentSlot mode = .ok slot ∧ slot.mode = mode ∧
      mode.slotMillis.toInt ∣ slot.startUnixMillis.toInt ∧
      slot.startUnixMillis.toInt ≤ sample.utc.unixMillis.toInt ∧
      sample.utc.unixMillis.toInt < slot.startUnixMillis.toInt + mode.slotMillis.toInt ∧
      (∀ next deadline, sample.nextSlot mode = .ok (next, deadline) →
        next.mode = mode ∧ next.startUnixMillis.toInt = slot.startUnixMillis.toInt + mode.slotMillis.toInt ∧
        (deadline.instant.millis.toNat : Int) - sample.monotonic.millis.toNat =
          next.startUnixMillis.toInt - sample.utc.unixMillis.toInt ∧
        deadline.isExpiredAt sample.monotonic = false ∧
        ∀ now : MonotonicInstant, deadline.isExpiredAt now = true ↔
          next.startUnixMillis.toInt - sample.utc.unixMillis.toInt ≤
            (now.millis.toNat : Int) - sample.monotonic.millis.toNat) ∧
      (∀ error, sample.nextSlot mode = .error error →
        error = .arithmeticOverflow ∧
          (2 ^ 63 ≤ slot.startUnixMillis.toInt + mode.slotMillis.toInt ∨
            2 ^ 64 ≤ sample.monotonic.millis.toNat +
              (slot.startUnixMillis.toInt + mode.slotMillis.toInt - sample.utc.unixMillis.toInt))) := by
  obtain ⟨slot, hcurrent, hmode, haligned, hle, hlt⟩ := currentSlot_ok sample mode
  refine ⟨slot, hcurrent, hmode, haligned, hle, hlt, ?_, ?_⟩
  · intro next deadline hnext
    obtain ⟨_, _, hok, hmode, hstart, hdeadline⟩ | ⟨herror, -⟩ := nextSlot_ends hcurrent
    · cases hnext.symm.trans hok
      have hexpired (now : MonotonicInstant) : deadline.isExpiredAt now = true ↔
          next.startUnixMillis.toInt - sample.utc.unixMillis.toInt ≤
            (now.millis.toNat : Int) - sample.monotonic.millis.toNat := by
        unfold MonotonicDeadline.isExpiredAt
        rw [decide_eq_true_eq, ge_iff_le, UInt64.le_iff_toNat_le]
        omega
      refine ⟨hmode, hstart, by omega, ?_, hexpired⟩
      rw [← Bool.not_eq_true, hexpired]
      omega
    · cases hnext.symm.trans herror
  · intro error hnext
    obtain ⟨_, _, hok, -⟩ | ⟨herror, hlarge⟩ := nextSlot_ends hcurrent
    · cases hnext.symm.trans hok
    · cases hnext.symm.trans herror
      exact ⟨rfl, hlarge⟩

/-- A sample exactly on a boundary of both modes. -/
def boundarySample : ClockSample :=
  { utc := ⟨120000, by decide⟩, monotonic := ⟨5000⟩ }

/-- The slot after the boundary. -/
def boundarySlot : UtcSlot :=
  { mode := .ft8, startUnixMillis := 135000, nonneg := by decide, aligned := by decide }

/-- On a boundary the next slot is a whole duration away. -/
theorem slot_schedule_boundary :
    boundarySample.nextSlot .ft8 = .ok (boundarySlot, ⟨⟨20000⟩⟩) ∧
      ∀ now : MonotonicInstant, MonotonicDeadline.isExpiredAt ⟨⟨20000⟩⟩ now = true ↔
        15000 ≤ (now.millis.toNat : Int) - 5000 := by
  have hnext : boundarySample.nextSlot .ft8 = .ok (boundarySlot, ⟨⟨20000⟩⟩) := by rfl
  obtain ⟨slot, -, -, -, -, -, hok, -⟩ := slot_schedule boundarySample .ft8
  obtain ⟨-, -, -, -, hexpired⟩ := hok boundarySlot ⟨⟨20000⟩⟩ hnext
  exact ⟨hnext, hexpired⟩

end Slotpilot.Operations
