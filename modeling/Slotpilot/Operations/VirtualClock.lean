import Slotpilot.Operations.Time
import Slotpilot.Lib.StateResult
import Slotpilot.Lib.Machine

/-!
# The virtual clock

A clock that tests move by hand. `advance` moves UTC before it knows that the monotonic time can follow, so a call that
fails there has moved UTC alone (`Tears`). Away from that boundary every call moves both timelines or none
(`virtual_clock_atomic`).
-/

set_option autoImplicit false

namespace Slotpilot.Operations

open Lib

/-! ## The clock -/

/-- The instant some milliseconds later. -/
def UtcInstant.checkedAdd (self : UtcInstant) (millis : Nat) : Option UtcInstant :=
  match h : tryI64 (self.unixMillis.toInt + millis) with
  | some value => some
    { unixMillis := value
      nonneg := by
        have hvalue := tryI64_eq_some.mp h
        have hnonneg := self.nonneg
        omega }
  | none => none

theorem UtcInstant.checkedAdd_eq_some {self next : UtcInstant} {millis : Nat} :
    self.checkedAdd millis = some next ↔ next.unixMillis.toInt = self.unixMillis.toInt + millis := by
  unfold checkedAdd
  split
  · rename_i value h
    have hvalue := tryI64_eq_some.mp h
    rw [Option.some.injEq, ← UtcInstant.eq_iff, ← Int64.toInt_inj]
    show value.toInt = _ ↔ _
    omega
  · rename_i h
    rw [← tryI64_eq_some, h]
    simp

/-- A clock advanced explicitly by tests; each call holds its lock. -/
structure VirtualClock where
  state : ClockSample
  deriving DecidableEq

/-- A call of a virtual clock. -/
inductive VirtualCall
  | advance (millis : UInt64)
  | jumpUtc (deltaMillis : Int64)
  deriving DecidableEq

namespace VirtualClock

/-- An update of a virtual clock. -/
abbrev Update : Type := EStateM SlotTimeError VirtualClock Unit

/-- Advances UTC and monotonic time. -/
def advance (millis : UInt64) : Update := do
  let utcDelta ← orThrow .arithmeticOverflow (tryI64 millis.toNat)
  let self ← get
  let utc ← orThrow .arithmeticOverflow (self.state.utc.checkedAdd utcDelta.toInt.toNat)
  modify fun self => { self with state := { self.state with utc } }
  let value ← orThrow .arithmeticOverflow (tryU64 (self.state.monotonic.millis.toNat + millis.toNat))
  modify fun self => { self with state := { self.state with monotonic := ⟨value⟩ } }

/-- Moves only UTC. -/
def jumpUtc (deltaMillis : Int64) : Update := do
  let self ← get
  let updated ← orThrow .arithmeticOverflow (tryI64 (self.state.utc.unixMillis.toInt + deltaMillis.toInt))
  let utc ← fromResult (UtcInstant.fromUnixMillis updated)
  modify fun self => { self with state := { self.state with utc } }

/-- The update of a call. -/
def update : VirtualCall → Update
  | .advance millis => advance millis
  | .jumpUtc deltaMillis => jumpUtc deltaMillis

/-- One call. -/
def step (self : VirtualClock) (call : VirtualCall) : Except SlotTimeError Unit × VirtualClock :=
  (outcome (update call self), finalState (update call self))

/-- UTC minus monotonic time. -/
def offset (self : VirtualClock) : Int := self.state.utc.unixMillis.toInt - self.state.monotonic.millis.toNat

/-! ## One call -/

/-- The call advances UTC past a point that the monotonic time cannot follow to. -/
def Tears (self : VirtualClock) : VirtualCall → Prop
  | .advance millis =>
    millis.toNat < 2 ^ 63 ∧ self.state.utc.unixMillis.toInt + millis.toNat < 2 ^ 63 ∧
      2 ^ 64 ≤ self.state.monotonic.millis.toNat + millis.toNat
  | .jumpUtc _ => False

/-- A failed call changes nothing, and a successful advance moves both timelines by its milliseconds. -/
def AtomicStep (self : VirtualClock) (call : VirtualCall) : Prop :=
  (∀ error, (self.step call).1 = .error error → (self.step call).2 = self) ∧
    ∀ millis, call = .advance millis → (self.step call).1 = .ok () →
      (self.step call).2.state.utc.unixMillis.toInt = self.state.utc.unixMillis.toInt + millis.toNat ∧
        (self.step call).2.state.monotonic.millis.toNat = self.state.monotonic.millis.toNat + millis.toNat

variable {self : VirtualClock} {call : VirtualCall}

/-- What `advance` does: both timelines move, none moves, or UTC moves alone. -/
theorem advance_ends (self : VirtualClock) (millis : UInt64) :
    Ends (advance millis) self
      (fun _ next =>
        next.state.utc.unixMillis.toInt = self.state.utc.unixMillis.toInt + millis.toNat ∧
          next.state.monotonic.millis.toNat = self.state.monotonic.millis.toNat + millis.toNat ∧
          ¬self.Tears (.advance millis))
      (fun error next => error = .arithmeticOverflow ∧
        (next = self ∧ ¬self.Tears (.advance millis) ∨
          next.state.utc.unixMillis.toInt = self.state.utc.unixMillis.toInt + millis.toNat ∧
            next.state.monotonic = self.state.monotonic ∧ self.Tears (.advance millis))) := by
  unfold advance
  rw [ends_bind, ends_orThrow]
  refine ⟨fun utcDelta hdelta => ?_, fun hnone => ⟨rfl, .inl ⟨rfl, ?_⟩⟩⟩
  · rw [tryI64_eq_some] at hdelta
    have hmillis : utcDelta.toInt.toNat = millis.toNat := by omega
    have hsmall := utcDelta.toInt_lt
    simp only [ends_bind, ends_get, ends_orThrow, ends_modify, hmillis]
    refine ⟨fun utc hutc => ?_, fun hnone => ⟨trivial, .inl ⟨trivial, ?_⟩⟩⟩
    · rw [UtcInstant.checkedAdd_eq_some] at hutc
      have hfits := utc.unixMillis.toInt_lt
      refine ⟨fun value hvalue => ?_, fun hnone => ⟨trivial, .inr ⟨hutc, trivial, ?_⟩⟩⟩
      · rw [tryU64_eq_some] at hvalue
        have hrange := value.toNat_lt
        refine ⟨hutc, ?_, fun htears => ?_⟩
        · show value.toNat = _
          omega
        · obtain ⟨-, -, hlarge⟩ := htears
          omega
      · refine ⟨by omega, by omega, ?_⟩
        by_contra hlt
        obtain ⟨value, hsome⟩ := tryU64_isSome
          (z := (self.state.monotonic.millis.toNat : Int) + millis.toNat) (by omega) (by omega)
        rw [hsome] at hnone
        cases hnone
    · rintro ⟨-, hutc, -⟩
      have hnonneg := self.state.utc.nonneg
      obtain ⟨value, hsome⟩ := tryI64_isSome
        (z := self.state.utc.unixMillis.toInt + millis.toNat) (by omega) hutc
      have hinstant := tryI64_eq_some.mp hsome
      have hutcs := UtcInstant.checkedAdd_eq_some.mpr
        (show (⟨value, by omega⟩ : UtcInstant).unixMillis.toInt = _ from hinstant)
      rw [hutcs] at hnone
      cases hnone
  · rintro ⟨hmillis, -, -⟩
    obtain ⟨value, hsome⟩ := tryI64_isSome (z := (millis.toNat : Int)) (by omega) (by omega)
    rw [hsome] at hnone
    cases hnone

/-- A jump moves UTC alone or changes nothing. -/
theorem jumpUtc_ends (self : VirtualClock) (deltaMillis : Int64) :
    Ends (jumpUtc deltaMillis) self
      (fun _ next =>
        next.state.utc.unixMillis.toInt = self.state.utc.unixMillis.toInt + deltaMillis.toInt ∧
          next.state.monotonic = self.state.monotonic)
      (fun _ next => next = self) := by
  unfold jumpUtc
  simp only [ends_bind, ends_get, ends_orThrow, ends_fromResult, ends_modify]
  refine ⟨fun updated hupdated => ⟨fun utc hutc => ⟨?_, trivial⟩, fun _ _ => trivial⟩, fun _ => trivial⟩
  rw [tryI64_eq_some] at hupdated
  unfold UtcInstant.fromUnixMillis at hutc
  split at hutc
  · cases hutc
    exact hupdated
  · cases hutc

/-- A call is atomic exactly when it does not tear the timelines apart. -/
theorem atomicStep_iff : self.AtomicStep call ↔ ¬self.Tears call := by
  unfold AtomicStep step
  cases call with
  | advance millis =>
    have hends := advance_ends self millis
    have hrange := self.state.monotonic.millis.toNat_lt
    simp only [update]
    cases hrun : advance millis self with
    | ok value next =>
      obtain ⟨hutc, hmonotonic, hwhole⟩ := hends.of_ok hrun
      refine iff_of_true ⟨fun error herror => (nomatch herror), fun moved hmoved _ => ?_⟩ hwhole
      cases hmoved
      exact ⟨hutc, hmonotonic⟩
    | error error next =>
      obtain ⟨rfl, ⟨hsame, hwhole⟩ | ⟨hutc, -, htears⟩⟩ := hends.of_error hrun
      · exact iff_of_true ⟨fun _ _ => hsame, fun moved hmoved hok => nomatch hok⟩ hwhole
      · refine iff_of_false (fun hatomic => ?_) (not_not.mpr htears)
        have hsame : next = self := hatomic.1 _ rfl
        obtain ⟨-, -, hlarge⟩ := htears
        rw [hsame] at hutc
        omega
  | jumpUtc deltaMillis =>
    have hends := jumpUtc_ends self deltaMillis
    simp only [update]
    refine iff_of_true ⟨fun error herror => ?_, fun moved hmoved => nomatch hmoved⟩ id
    cases hrun : jumpUtc deltaMillis self with
    | ok value next =>
      rw [hrun] at herror
      cases herror
    | error error next => exact hends.of_error hrun

/-! ## Runs -/

/-- Every call of a run is atomic, and as long as UTC has not been moved alone it keeps its offset. -/
def AtomicRun (start : VirtualClock) (calls : List VirtualCall) : Prop :=
  EveryStep step AtomicStep start calls ∧
    ∀ before later, calls = before ++ later → (∀ call ∈ before, ∃ millis, call = .advance millis) →
      (final step start before).offset = start.offset

/-- An atomic advance keeps the offset. -/
theorem AtomicStep.offset {millis : UInt64} (h : self.AtomicStep (.advance millis)) :
    (self.step (.advance millis)).2.offset = self.offset := by
  cases hresult : (self.step (.advance millis)).1 with
  | ok value =>
    obtain ⟨hutc, hmonotonic⟩ := h.2 millis rfl hresult
    unfold VirtualClock.offset
    omega
  | error error => rw [h.1 error hresult]

/-- Atomic advances keep the offset. -/
theorem offset_final {start : VirtualClock} {calls : List VirtualCall} (h : EveryStep step AtomicStep start calls)
    (hadvances : ∀ call ∈ calls, ∃ millis, call = .advance millis) :
    (final step start calls).offset = start.offset := by
  induction calls generalizing start with
  | nil => rfl
  | cons call calls ih =>
    obtain ⟨millis, rfl⟩ := hadvances call List.mem_cons_self
    obtain ⟨hatomic, hlater⟩ := h
    rw [final_cons, ih hlater fun later hmem => hadvances later (List.mem_cons_of_mem _ hmem)]
    exact hatomic.offset

/-- **Atomicity of the virtual clock**: in a run every call moves both timelines or none, and advances alone keep the
offset, exactly when no call advances UTC past what the monotonic time can follow to. -/
theorem virtual_clock_atomic (start : VirtualClock) (calls : List VirtualCall) :
    AtomicRun start calls ↔ EveryStep step (fun self call => ¬self.Tears call) start calls := by
  constructor
  · intro h
    exact h.1.imp fun self call => atomicStep_iff.mp
  · intro h
    have hatomic : EveryStep step AtomicStep start calls := h.imp fun self call => atomicStep_iff.mpr
    refine ⟨hatomic, ?_⟩
    rintro before later rfl hadvances
    exact offset_final ((everyStep_append step).mp hatomic).1 hadvances

/-- A clock whose monotonic time cannot move. -/
def fullClock : VirtualClock :=
  { state := { utc := ⟨0, UtcInstant.epoch_nonneg⟩, monotonic := ⟨18446744073709551615⟩ } }

/-- A failed advance of a full clock has moved UTC. -/
theorem full_clock_torn : ¬∀ start calls, AtomicRun start calls := by
  intro h
  obtain ⟨⟨hatomic, -⟩, -⟩ := h fullClock [.advance 1]
  have hsame : (fullClock.step (.advance 1)).2 = fullClock := hatomic.1 .arithmeticOverflow (by rfl)
  have hutc : (fullClock.step (.advance 1)).2.state.utc.unixMillis = 1 := by rfl
  rw [hsame] at hutc
  cases hutc

end VirtualClock

end Slotpilot.Operations
