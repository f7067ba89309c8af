import Slotpilot.Audio.Assembly
import Slotpilot.Audio.Continuity
import Slotpilot.Lib.Interpolation
import Mathlib

/-!
# Reconstruction of windows from source frames

`reconstruct o x` are the events of the source frames `x` from the anchor of `o` on: tick `k` is `x` interpolated at
source position `k * rate / 12000` and rounded, one tick for each position up to the last frame. The chapters go up the
call chain, each with the step for its function: one pass of the resampling loop, the loop, one frame, one batch, one
accepted push. They give the run: the events of a run of accepted batches are `reconstruct` of its concatenated frames.
-/

set_option autoImplicit false

namespace Slotpilot.Audio

open Lib

/-! ## The values of the ticks -/

/-- The frames as a sequence. -/
def frameAt (x : List Int16) (i : Nat) : Int := (x.getD i 0).toInt

/-- The value of tick `k`. -/
def tickValue (o : Origin) (x : List Int16) (k : Nat) : Int := resampleAt (frameAt x) (k * o.rate / 12000)

/-- Ticks up to the last of `frames` source frames. -/
def tickCount (o : Origin) (frames : Nat) : Nat := if frames = 0 then 0 else (frames - 1) * 12000 / o.rate + 1

def tickValues (o : Origin) (x : List Int16) : List Int := (List.range (tickCount o x.length)).map (tickValue o x)

/-- The events of the source frames from the anchor on. -/
def reconstruct (o : Origin) (x : List Int16) : List EventContent := o.assembled (tickValues o x)

variable {o : Origin} {x : List Int16} {s : Int16} {k n : Nat}

theorem tickValue_eq : tickValue o x k = resampleAt (frameAt x) ((k * o.rate : Nat) / (12000 : Nat)) := by
  unfold tickValue
  push_cast
  rfl

theorem lt_tickCount_succ : k < tickCount o (n + 1) ↔ k * o.rate ≤ n * 12000 := by
  have hrate := o.rate_ge
  unfold tickCount
  rw [if_neg (by omega), Nat.add_sub_cancel, Nat.lt_succ_iff, Nat.le_div_iff_mul_le (by omega)]

theorem tickCount_mono (h : n ≤ k) : tickCount o n ≤ tickCount o k := by
  unfold tickCount
  split
  · omega
  · rw [if_neg (by omega)]
    exact Nat.add_le_add_right (Nat.div_le_div_right (Nat.mul_le_mul_right _ (by omega))) 1

theorem frameAt_append {i : Nat} (hi : i < x.length) : frameAt (x ++ [s]) i = frameAt x i := by
  unfold frameAt
  rw [List.getD_append _ _ _ _ hi]

theorem frameAt_last : frameAt (x ++ [s]) x.length = s.toInt := by
  unfold frameAt
  rw [List.getD_append_right _ _ _ _ le_rfl, Nat.sub_self]
  rfl

/-- A further frame does not change the ticks up to the frames before it. -/
theorem tickValue_append (hk : k < tickCount o x.length) : tickValue o (x ++ [s]) k = tickValue o x k := by
  obtain ⟨n, hn⟩ : ∃ n, x.length = n + 1 := by
    cases hx : x.length with
    | zero => rw [hx] at hk; cases hk
    | succ n => exact ⟨n, rfl⟩
  rw [hn, lt_tickCount_succ] at hk
  rw [tickValue_eq, tickValue_eq]
  exact resampleAt_congr (by omega) hk fun i hi => frameAt_append (by omega)

theorem interpolate_ok (previous current : Int16) (num : Int) (d : Nat) (hd : 0 < d) (hd' : d ≤ 2 ^ 64) (h0 : 0 ≤ num)
    (h1 : num ≤ d) :
    ∃ y, interpolate previous current num d = .ok y ∧
      y.toInt = previous.toInt + roundDiv ((current.toInt - previous.toInt) * num) d := by
  have hp := previous.toInt_lt
  have hp' := previous.le_toInt
  have hc := current.toInt_lt
  have hc' := current.le_toInt
  have hshare := roundDiv_share (a := current.toInt - previous.toInt) hd h0 h1
  have hlow : -(2 ^ 16 * 2 ^ 64) ≤ (current.toInt - previous.toInt) * num := by nlinarith
  have hhigh : (current.toInt - previous.toInt) * num ≤ 2 ^ 16 * 2 ^ 64 := by nlinarith
  obtain ⟨y, hy⟩ := tryI16_isSome
    (z := previous.toInt + roundDiv ((current.toInt - previous.toInt) * num) d) (by omega) (by omega)
  refine ⟨y, ?_, tryI16_eq_some.mp hy⟩
  have hadj : tryI128 ((current.toInt - previous.toInt) * num) = some ((current.toInt - previous.toInt) * num) :=
    tryI128_eq_some.mpr ⟨rfl, by omega, by omega⟩
  have hhalf : (d : Int).tdiv 2 = d / 2 := Int.tdiv_eq_ediv_of_nonneg (by omega)
  unfold interpolate
  rw [if_neg (by omega), hadj]
  simp only [hhalf, ge_iff_le]
  rw [roundDiv] at hy
  rw [hy]

/-! ## The resampling loop -/

namespace RationalResampler

variable {r : RationalResampler} {ys : List Int16}

/-- The frame before the one after `x`, with its distance to the anchor. -/
def previousFrame (x : List Int16) : Option (Nat × Int16) := x.getLast?.map fun s => (x.length - 1, s)

@[simp] theorem previousFrame_nil : previousFrame [] = none := rfl
@[simp] theorem previousFrame_append : previousFrame (x ++ [s]) = some (x.length, s) := by simp [previousFrame]

/-- After the frames `x` the loop for the frame `s` has emitted the ticks `ys`. -/
structure Looping (o : Origin) (x : List Int16) (s : Int16) (ys : List Int16) (r : RationalResampler) : Prop
    extends Holds o ys r where
  next : r.nextOutputTick = o.anchorTick + ys.length
  previous : r.previous = some ((previousFrame x).getD (x.length, s))
  values : ys.map Int16.toInt = (List.range ys.length).map (tickValue o (x ++ [s]))
  ge : tickCount o x.length ≤ ys.length
  le : ys.length ≤ tickCount o (x.length + 1)

theorem targetSourceTick_eq (hr : Serves o r) (hnext : r.nextOutputTick = o.anchorTick + n) (hn : n ≤ 2 ^ 66) :
    r.targetSourceTick = some ((n * o.rate : Nat) : Int) := by
  have hu := o.first.utcUnixMillis.toInt_lt
  have hu' := o.first.utcUnixMillis.le_toInt
  have hA : o.anchorTick = o.first.utcUnixMillis.toInt * 12 := rfl
  have hmul : n * o.rate ≤ 2 ^ 66 * 384000 := Nat.mul_le_mul hn o.rate_le
  unfold targetSourceTick
  rw [hr.anchor, outputTicksPerMillisecond_eq, ← hA, tryI128_eq_some.mpr ⟨rfl, by omega, by omega⟩]
  show (tryI128 (r.nextOutputTick - o.anchorTick)).bind _ = _
  rw [hnext, add_sub_cancel_left, tryI128_eq_some.mpr ⟨rfl, by omega, by omega⟩]
  show tryI128 ((n : Int) * r.sourceRateHz) = _
  rw [hr.rate, ← Nat.cast_mul]
  exact tryI128_eq_some.mpr ⟨rfl, by omega, by omega⟩

/-- The sample of a due tick is its value. -/
theorem tickSample_ok (h : Looping o x s ys r) (hx : x.length < 2 ^ 64) (hdue : ys.length * o.rate ≤ x.length * 12000) :
    ∃ y : Int16, y.toInt = tickValue o (x ++ [s]) ys.length ∧
      (let previous := (previousFrame x).getD (x.length, s)
      previous.1 * 12000 ≤ ys.length * o.rate ∧
      (if x.length = previous.1 then .ok previous.2
        else interpolate previous.2 s (((ys.length * o.rate : Nat) : Int) - (previous.1 * 12000 : Nat))
          (((x.length * 12000 : Nat) : Int) - (previous.1 * 12000 : Nat))) = .ok y) := by
  have hrate := o.rate_ge
  rcases List.eq_nil_or_concat x with rfl | ⟨z, p, rfl⟩
  · -- the first frame: the only due tick is tick 0
    obtain rfl : ys = [] := by
      rw [List.length_nil, Nat.zero_mul, Nat.le_zero, Nat.mul_eq_zero] at hdue
      exact List.length_eq_zero_iff.mp (by omega)
    simp only [previousFrame_nil, Option.getD_none, List.length_nil, Nat.zero_mul, le_refl, if_true, true_and]
    refine ⟨s, ?_, rfl⟩
    rw [tickValue, Nat.cast_zero, zero_mul, zero_div, resampleAt_zero]
    rfl
  · simp only [List.concat_eq_append, previousFrame_append, Option.getD_some, List.length_append,
      List.length_singleton] at *
    have hge : z.length * 12000 < ys.length * o.rate := by
      have := h.ge
      rw [List.length_append, List.length_singleton] at this
      by_contra hlt
      exact absurd (lt_tickCount_succ.mpr (not_lt.mp hlt)) (by omega)
    have hnum : ((ys.length * o.rate : Nat) : Int) - (z.length * 12000 : Nat) =
        ((ys.length * o.rate - z.length * 12000 : Nat) : Int) := (Nat.cast_sub hge.le).symm
    have hden : (((z.length + 1) * 12000 : Nat) : Int) - (z.length * 12000 : Nat) = ((12000 : Nat) : Int) := by omega
    rw [if_neg (by omega), hnum, hden]
    obtain ⟨y, hy, hval⟩ := interpolate_ok p s
      (ys.length * o.rate - z.length * 12000 : Nat) 12000 (by omega) (by omega) (by omega) (by omega)
    refine ⟨y, ?_, hge.le, hy⟩
    have hlast : frameAt (z ++ [p] ++ [s]) (z.length + 1) = s.toInt := by
      have := frameAt_last (x := z ++ [p]) (s := s)
      rwa [List.length_append, List.length_singleton] at this
    have hprev : frameAt (z ++ [p] ++ [s]) z.length = p.toInt := by
      rw [frameAt_append (by simp), frameAt_last]
    rw [tickValue_eq, resampleAt_between (j := z.length) (by omega) hge.le hdue, hval, hlast, hprev, ← hnum,
      Nat.cast_mul z.length]

/-- **One pass of the loop**: it ends past the last due tick, else it emits the next tick. -/
theorem pushTick_ends (h : Looping o x s ys r) (hx : o.first.position.frames.toNat + x.length < 2 ^ 64) :
    Ends (pushTick x.length s ((x.length * 12000 : Nat) : Int)) r
      (fun result r' =>
        match result with
        | none => r' = r ∧ x.length * 12000 < ys.length * o.rate
        | some events => ∃ y, Looping o x s (ys ++ [y]) r' ∧
          o.assembled ((ys ++ [y]).map Int16.toInt) = o.assembled (ys.map Int16.toInt) ++ events.map (·.content))
      (fun _ _ => ys.length * o.rate ≤ x.length * 12000 ∧ ¬o.SlotFits (Origin.slotTick (o.anchorTick + ys.length))) := by
  have hbound : ys.length ≤ 2 ^ 65 := by
    refine h.le.trans ?_
    rw [tickCount, if_neg (by omega), Nat.add_sub_cancel]
    have : x.length * 12000 / o.rate ≤ x.length * 12000 / 8000 := Nat.div_le_div_left o.rate_ge (by omega)
    omega
  have hA := o.first.utcUnixMillis.toInt_lt
  have hA' := o.first.utcUnixMillis.le_toInt
  simp only [pushTick, ends_bind, ends_get, ends_orThrow, ends_ite, ends_fromResult, ends_throw, ends_pure, ends_modify,
    targetSourceTick_eq h.toServes h.next (by omega), h.previous]
  refine ⟨?_, (by simp)⟩
  rintro _ ⟨rfl⟩
  refine ⟨fun hgt => ⟨trivial, by exact_mod_cast hgt⟩, fun hle => ?_⟩
  have hdue : ys.length * o.rate ≤ x.length * 12000 := by exact_mod_cast not_lt.mp hle
  obtain ⟨y, hy, hprev, hok⟩ := tickSample_ok h (by omega) hdue
  refine ⟨?_, (by simp)⟩
  rintro _ ⟨rfl⟩
  generalize (previousFrame x).getD (x.length, s) = previous at hprev hok
  have hmul : ys.length * o.rate ≤ 2 ^ 65 * 384000 := Nat.mul_le_mul hbound o.rate_le
  have hprevTick : tryI128 ((previous.1 : Int) * ft8ReceiveSampleRateHz) = some ((previous.1 * 12000 : Nat) : Int) := by
    rw [ft8ReceiveSampleRateHz_eq, ← Nat.cast_mul]
    exact tryI128_eq_some.mpr ⟨rfl, by omega, by omega⟩
  have hA : o.anchorTick = o.first.utcUnixMillis.toInt * 12 := rfl
  have hnextTick : tryI128 (r.nextOutputTick + 1) = some (o.anchorTick + (ys.length + 1 : Nat)) := by
    rw [tryI128_eq_some, h.next]
    push_cast
    exact ⟨by ring, by omega, by omega⟩
  have hframe : ys.length * o.rate / 12000 ≤ x.length := Nat.div_le_of_le_mul (by rw [mul_comm 12000]; exact hdue)
  simp only [hprevTick, hnextTick]
  refine ⟨?_, (by simp)⟩
  rintro _ ⟨rfl⟩
  refine ⟨fun hlt => absurd hlt (by omega), fun _ => ?_⟩
  rw [hok]
  refine ⟨?_, (by simp)⟩
  rintro _ ⟨rfl⟩
  refine (pushOutput_ends h.toHolds h.next (by omega)).imp ?_ (fun _ _ hno => ⟨hdue, hno⟩)
  rintro events _ ⟨hholds, ⟨active, rfl⟩, hevents⟩
  refine ⟨?_, (by simp)⟩
  rintro _ ⟨rfl⟩
  have hlen : (ys ++ [y]).length = ys.length + 1 := List.length_append
  refine ⟨y, ⟨⟨⟨hholds.anchor, hholds.rate, hholds.processGeneration, hholds.streamGeneration⟩, hholds.active,
    hholds.fits⟩, by rw [hlen], h.previous, ?_, by rw [hlen]; exact h.ge.trans (Nat.le_succ _), ?_⟩, hevents⟩
  · rw [hlen, List.range_succ, List.map_append, List.map_append, h.values, List.map_singleton, List.map_singleton, hy]
  · rw [hlen]
    exact lt_tickCount_succ.mpr hdue

/-- **The loop** emits the due ticks when its passes are enough for them. -/
theorem pushTicks_ends (passes : Nat) (h : Looping o x s ys r)
    (hx : o.first.position.frames.toNat + x.length < 2 ^ 64)
    (hpasses : x.length * 12000 < (ys.length + passes) * o.rate) :
    Ends (pushTicks x.length s ((x.length * 12000 : Nat) : Int) passes) r
      (fun events r' => ∃ zs, Looping o x s zs r' ∧ x.length * 12000 < zs.length * o.rate ∧
        o.assembled (zs.map Int16.toInt) = o.assembled (ys.map Int16.toInt) ++ events.map (·.content))
      (fun _ _ => ∃ k, k < tickCount o (x.length + 1) ∧ ¬o.SlotFits (Origin.slotTick (o.anchorTick + k))) := by
  induction passes generalizing ys r with
  | zero => exact ⟨ys, h, hpasses, by simp⟩
  | succ passes ih =>
    simp only [pushTicks, ends_bind]
    refine (pushTick_ends h hx).imp ?_ (fun _ _ hno => ⟨ys.length, lt_tickCount_succ.mpr hno.1, hno.2⟩)
    rintro (_ | events) r' hresult
    · obtain ⟨rfl, hdone⟩ := hresult
      exact ⟨ys, h, hdone, by simp⟩
    · obtain ⟨y, hloop, hevents⟩ := hresult
      simp only [ends_bind, ends_pure]
      refine (ih hloop ?_).imp ?_ (fun _ _ hno => hno)
      · rw [List.length_append, List.length_singleton, Nat.add_assoc, Nat.add_comm 1]
        exact hpasses
      · rintro later r'' ⟨zs, hzs, hdone, hlater⟩
        exact ⟨zs, hzs, hdone, by rw [hlater, hevents, List.map_append, List.append_assoc]⟩

/-! ## One frame -/

/-- The resampler has consumed the frames `x` and emitted the ticks `ys`. -/
structure Consumed (o : Origin) (x : List Int16) (ys : List Int16) (r : RationalResampler) : Prop
    extends Holds o ys r where
  next : r.nextOutputTick = o.anchorTick + ys.length
  previous : r.previous = previousFrame x
  values : ys.map Int16.toInt = tickValues o x

theorem Consumed.length_eq (h : Consumed o x ys r) : ys.length = tickCount o x.length := by
  have hlen := congrArg List.length h.values
  rwa [List.length_map, tickValues, List.length_map, List.length_range] at hlen

theorem tickValues_append : (List.range (tickCount o x.length)).map (tickValue o (x ++ [s])) = tickValues o x :=
  List.map_congr_left fun _ hk => tickValue_append (List.mem_range.mp hk)

/-- The passes of the loop are enough for the due ticks. -/
theorem loopPasses_enough (hr : Serves o r) (hnext : r.nextOutputTick = o.anchorTick + n) (frames : Nat) :
    frames * 12000 < (n + r.loopPasses ((frames * 12000 : Nat) : Int)) * o.rate := by
  have hrate := o.rate_ge
  have hA : o.first.utcUnixMillis.toInt * 12 = o.anchorTick := rfl
  simp only [loopPasses, hr.anchor, hr.rate, hnext, outputTicksPerMillisecond_eq, hA, add_sub_cancel_left]
  have hlt := Int.lt_ediv_add_one_mul_self (((frames * 12000 : Nat) : Int) - n * o.rate) (show (0 : Int) < o.rate by omega)
  generalize (((frames * 12000 : Nat) : Int) - n * o.rate) / o.rate = q at hlt ⊢
  have hq : (q + 1) * o.rate ≤ ((q + 1).toNat : Int) * o.rate :=
    mul_le_mul_of_nonneg_right (Int.self_le_toNat _) (by omega)
  zify at hlt ⊢
  linarith

theorem pushSample_ends (h : Consumed o x ys r) {position : UInt64}
    (hpos : position.toNat = o.first.position.frames.toNat + x.length) :
    Ends (pushSample position s) r
      (fun events r' => ∃ zs, Consumed o (x ++ [s]) zs r' ∧
        reconstruct o (x ++ [s]) = reconstruct o x ++ events.map (·.content))
      (fun _ _ => ∃ k, k < tickCount o (x.length + 1) ∧ ¬o.SlotFits (Origin.slotTick (o.anchorTick + k))) := by
  have hlt := position.toNat_lt
  have hfit : o.first.position.frames.toNat + x.length < 2 ^ 64 := hpos ▸ hlt
  rw [← h.anchor] at hpos
  obtain ⟨delta, hd⟩ := tryU64_isSome (z := (position.toNat : Int) - r.anchor.position.frames.toNat) (by omega) (by omega)
  have hdv := tryU64_eq_some.mp hd
  have hdelta : delta.toNat = x.length := by omega
  have hcur : tryI128 ((x.length : Int) * ft8ReceiveSampleRateHz) = some ((x.length * 12000 : Nat) : Int) := by
    rw [ft8ReceiveSampleRateHz_eq, ← Nat.cast_mul]
    exact tryI128_eq_some.mpr ⟨rfl, by omega, by omega⟩
  simp only [pushSample, ends_bind, ends_get, ends_orThrow, ends_modify, ends_pure, hd]
  refine ⟨?_, (by simp)⟩
  rintro _ ⟨rfl⟩
  simp only [hdelta, hcur]
  refine ⟨?_, (by simp)⟩
  rintro _ ⟨rfl⟩
  have hloop : Looping o x s ys { r with previous := some (r.previous.getD (x.length, s)) } := by
    refine ⟨⟨⟨h.anchor, h.rate, h.processGeneration, h.streamGeneration⟩, h.active, h.fits⟩, h.next, ?_, ?_, ?_, ?_⟩
    · simp only [h.previous]
    · rw [h.values, h.length_eq, tickValues_append]
    · exact h.length_eq.ge
    · rw [h.length_eq]; exact tickCount_mono (Nat.le_succ _)
  refine (pushTicks_ends _ hloop hfit (loopPasses_enough h.toServes h.next _)).imp ?_ (fun _ _ hno => hno)
  rintro events r' ⟨zs, hzs, hdone, hevents⟩
  have hlen : zs.length = tickCount o (x ++ [s]).length := by
    rw [List.length_append, List.length_singleton]
    refine Nat.le_antisymm hzs.le ?_
    by_contra hlt
    exact absurd (lt_tickCount_succ.mp (not_le.mp hlt)) (not_le.mpr hdone)
  have hvalues : zs.map Int16.toInt = tickValues o (x ++ [s]) := by rw [hzs.values, tickValues, hlen]
  refine ⟨zs, ⟨⟨⟨hzs.anchor, hzs.rate, hzs.processGeneration, hzs.streamGeneration⟩, hzs.active, hzs.fits⟩, hzs.next,
    previousFrame_append.symm, hvalues⟩, ?_⟩
  rw [reconstruct, reconstruct, ← hvalues, ← h.values, hevents]

/-! ## One batch -/

/-- The frames up to number `frames` have positions and their slots fit. -/
def FramesFit (o : Origin) (frames : Nat) : Prop :=
  o.first.position.frames.toNat + frames ≤ 2 ^ 64 ∧
    ∀ k < tickCount o frames, o.SlotFits (Origin.slotTick (o.anchorTick + k))

theorem pushSamples_ends (samples : List Int16) (index : Nat) {firstPosition : UInt64} (h : Consumed o x ys r)
    (hpos : firstPosition.toNat + index = o.first.position.frames.toNat + x.length) :
    Ends (pushSamples firstPosition index samples) r
      (fun events r' => ∃ zs, Consumed o (x ++ samples) zs r' ∧
        reconstruct o (x ++ samples) = reconstruct o x ++ events.map (·.content))
      (fun _ _ => ¬FramesFit o (x.length + samples.length)) := by
  induction samples generalizing x ys r index with
  | nil => exact ⟨ys, by simpa using h, by simp⟩
  | cons s samples ih =>
    simp only [pushSamples, ends_bind, ends_orThrow, ends_pure]
    refine ⟨fun position hp => ?_, fun hnone hfit => ?_⟩
    · rw [tryU64_eq_some] at hp
      refine (pushSample_ends h (by omega)).imp ?_ ?_
      · rintro events r' ⟨zs, hzs, hevents⟩
        refine (ih (index + 1) hzs (by rw [List.length_append, List.length_singleton]; omega)).imp ?_ ?_
        · rintro later r'' ⟨zs', hzs', hlater⟩
          rw [List.append_assoc, List.singleton_append] at hzs' hlater
          exact ⟨zs', hzs', by rw [hlater, hevents, List.map_append, List.append_assoc]⟩
        · rintro _ _ hno hfit
          rw [List.length_append, List.length_singleton] at hno
          exact hno (by rwa [List.length_cons, Nat.add_comm samples.length, ← Nat.add_assoc] at hfit)
      · rintro _ _ ⟨k, hk, hno⟩ hfit
        exact hno (hfit.2 k (hk.trans_le (tickCount_mono (by rw [List.length_cons]; omega))))
    · obtain ⟨u, hu⟩ := tryU64_isSome (z := (firstPosition.toNat : Int) + index) (by omega)
        (by have := hfit.1; rw [List.length_cons] at this; omega)
      rw [hu] at hnone
      cases hnone

end RationalResampler

/-! ## One accepted push -/

namespace Ft8ReceiveTimeline

open RationalResampler

variable {batch : CaptureBatch} {t : Ft8ReceiveTimeline} {observedAt : UInt64}

/-- The resampler that takes the batch: the timeline's own, else a new one anchored at the batch. -/
def Resampling (batch : CaptureBatch) (t : Ft8ReceiveTimeline) (r : RationalResampler) : Prop :=
  t.resampler = some r ∨ t.resampler = none ∧
    RationalResampler.new batch.firstFrame t.configuration.sampleRateHz t.processGeneration t.streamGeneration = .ok r

theorem ensureResampler_resampling :
    Ends (ensureResampler batch) t (fun _ u => ∃ r, Resampling batch t r ∧ u = { t with resampler := some r })
      (fun _ _ => t.resampler = none ∧ ∀ r, ¬Resampling batch t r) := by
  simp only [ensureResampler, ends_bind, ends_get, ends_ite, ends_fromResult, ends_modify, ends_pure]
  refine ⟨fun hnone => ⟨fun r hr => ⟨r, .inr ⟨hnone, hr⟩, rfl⟩, fun e he => ⟨hnone, ?_⟩⟩, fun hsome => ?_⟩
  · rintro r (hr | ⟨-, hr⟩)
    · rw [hnone] at hr; cases hr
    · rw [hr] at he; cases he
  · obtain ⟨r, hr⟩ := Option.ne_none_iff_exists'.mp hsome
    exact ⟨r, .inl hr, by rw [← hr]⟩

/-- The timeline after an accepted batch. -/
structure AcceptedInto (batch : CaptureBatch) (r : RationalResampler) (t u : Ft8ReceiveTimeline) : Prop where
  processGeneration : u.processGeneration = t.processGeneration
  streamGeneration : u.streamGeneration = t.streamGeneration
  configuration : u.configuration = t.configuration
  anchor : u.anchor = some (anchorAfter batch t)
  lastMonotonicMillis : u.lastMonotonicMillis = some batch.firstFrame.monotonicMillis
  expected : ExpectsAfter batch u
  resampler : u.resampler = some r

/-- **An accepted push** has checked the generation and the position, and its events are the resampler's. -/
theorem push_accepted :
    Ends (push batch observedAt) t
      (fun events u => t.validateIdentity batch = .ok () ∧ StartsExpected batch t ∧
        ∃ r r', Resampling batch t r ∧ RationalResampler.push batch r = .ok events r' ∧ AcceptedInto batch r' t u)
      (fun _ _ => True) := by
  simp only [push, ends_bind, ends_get, ends_fromResult, ends_modify, ends_pure]
  refine ⟨fun _ hid => ?_, fun _ _ => trivial⟩
  refine checkLateness_ends.imp ?_ (fun _ _ _ => trivial)
  rintro - _ ⟨rfl, -⟩
  refine checkPosition_ends.imp ?_ (fun _ _ _ => trivial)
  rintro - _ ⟨rfl, hstart⟩
  refine checkDiscontinuity_ends.imp ?_ (fun _ _ _ => trivial)
  rintro - t rfl
  refine checkMapping_ends.imp ?_ (fun _ _ _ => trivial)
  rintro - _ ⟨health, rfl⟩
  refine ensureResampler_resampling.imp ?_ (fun _ _ _ => trivial)
  rintro - _ ⟨r, hr, rfl⟩
  rw [onResampler, ends_onPart]
  refine ⟨fun _ => trivial, ?_⟩
  rintro _ ⟨rfl⟩
  refine (ends_run _ _).imp (fun events r' hpush => ?_) (fun _ _ _ => trivial)
  simp only [advanceExpected, ends_bind, ends_modify, ends_fromResult, exceptMapError_ok, implies_true, and_true]
  exact fun e he => ⟨hid, hstart, r, r', hr, hpush, ⟨rfl, rfl, rfl, rfl, rfl, ⟨e, he, rfl⟩, rfl⟩⟩

/-! ## Runs of accepted pushes -/

/-- The timeline has accepted the frames `x`, the first of them with the evidence of `o`. -/
structure Tracks (o : Origin) (x : List Int16) (t : Ft8ReceiveTimeline) : Prop where
  processGeneration : t.processGeneration = o.processGeneration
  streamGeneration : t.streamGeneration = o.streamGeneration
  configuration : t.configuration = o.configuration
  anchor : t.anchor = some ⟨o.first.position, o.first.utcUnixMillis, o.first.monotonicMillis⟩
  expected : ∃ e, t.expectedPosition = some e ∧ e.frames.toNat = o.first.position.frames.toNat + x.length
  resampler : ∃ r ys, t.resampler = some r ∧ Consumed o x ys r

/-- A new resampler has consumed no frames. -/
theorem consumed_new {o : Origin} {r : RationalResampler}
    (h : RationalResampler.new o.first o.configuration.sampleRateHz o.processGeneration o.streamGeneration = .ok r) :
    Consumed o [] [] r := by
  have hlead := o.leadTicks_lt
  unfold RationalResampler.new at h
  split at h
  · cases h
  · rename_i tick htick
    cases h
    obtain ⟨rfl, -⟩ := tryI128_eq_some.mp htick
    refine ⟨⟨⟨rfl, rfl, rfl, rfl⟩, ?_, (by simp)⟩, ?_, rfl, rfl⟩
    · unfold ActiveHolds
      rw [if_neg (by rw [List.length_nil]; omega)]
      show tickSamples o [] = []
      unfold tickSamples
      rw [List.drop_nil, remainder_nil, ite_self]
    · rw [List.length_nil, Nat.cast_zero, add_zero]
      rfl

/-- An accepted push consumes the frames of its batch and returns the events they add. -/
theorem accepted_step {o : Origin} {x : List Int16} {r : RationalResampler} {ys : List Int16}
    {events : List ReceiveTimelineEvent} {r' : RationalResampler} (hr : Consumed o x ys r)
    (hpos : batch.firstFrame.position.frames.toNat = o.first.position.frames.toNat + x.length)
    (hpush : RationalResampler.push batch r = .ok events r') :
    (∃ zs, Consumed o (x ++ batch.samples) zs r') ∧
      reconstruct o (x ++ batch.samples) = reconstruct o x ++ events.map (·.content) := by
  obtain ⟨zs, hzs, hevents⟩ := (pushSamples_ends batch.samples 0 hr hpos).of_ok hpush
  exact ⟨⟨zs, hzs⟩, hevents⟩

@[simp] theorem reconstruct_nil (o : Origin) : reconstruct o [] = [] := by
  simp [reconstruct, tickValues, tickCount, Origin.assembled, Origin.leadIncomplete]

/-- The origin of a fresh timeline's first batch. -/
def originOf (configuration : InputConfiguration) (processGeneration : ProcessGeneration)
    (streamGeneration : StreamGeneration) (first : CaptureBatch) : Origin :=
  { first := first.firstFrame, configuration, processGeneration, streamGeneration }

variable {processGeneration : ProcessGeneration} {streamGeneration : StreamGeneration}
  {configuration : InputConfiguration} {events : List ReceiveTimelineEvent} {u : Ft8ReceiveTimeline}

theorem tracks_first
    (h : push batch observedAt (new processGeneration streamGeneration configuration) = .ok events u) :
    let o := originOf configuration processGeneration streamGeneration batch
    Tracks o batch.samples u ∧ reconstruct o batch.samples = events.map (·.content) := by
  intro o
  obtain ⟨-, -, r, r', hr, hpush, hu⟩ := push_accepted.of_ok h
  obtain ⟨e, hend, he⟩ := hu.expected
  rcases hr with hr | ⟨-, hr⟩
  · cases hr
  · obtain ⟨⟨zs, hzs⟩, hevents⟩ := accepted_step (consumed_new (o := o) hr) (by rfl) hpush
    refine ⟨⟨hu.processGeneration, hu.streamGeneration, hu.configuration, hu.anchor,
      ⟨e, he, endPosition_ok.mp hend⟩, r', zs, hu.resampler, hzs⟩, ?_⟩
    rwa [reconstruct_nil, List.nil_append] at hevents

theorem tracks_next {o : Origin} {x : List Int16} (ht : Tracks o x t) (h : push batch observedAt t = .ok events u) :
    Tracks o (x ++ batch.samples) u ∧
      reconstruct o (x ++ batch.samples) = reconstruct o x ++ events.map (·.content) := by
  obtain ⟨-, hstart, r, r', hr, hpush, hu⟩ := push_accepted.of_ok h
  obtain ⟨e, hend, he⟩ := hu.expected
  obtain ⟨f, hf, hfv⟩ := ht.expected
  obtain ⟨r₀, ys, hr₀, hconsumed⟩ := ht.resampler
  have hpos := (hstart f hf).trans hfv
  rcases hr with hr | ⟨hr, -⟩
  · obtain rfl : r₀ = r := Option.some.inj (hr₀.symm.trans hr)
    obtain ⟨⟨zs, hzs⟩, hevents⟩ := accepted_step hconsumed hpos hpush
    refine ⟨⟨hu.processGeneration.trans ht.processGeneration, hu.streamGeneration.trans ht.streamGeneration,
      hu.configuration.trans ht.configuration, ?_, ⟨e, he, ?_⟩, r', zs, hu.resampler, hzs⟩, hevents⟩
    · rw [hu.anchor, anchorAfter, ht.anchor, Option.getD_some]
    · rw [endPosition_ok.mp hend, hpos, List.length_append, Nat.add_assoc]
  · rw [hr₀] at hr
    cases hr

/-! ## At most one event a push -/

theorem length_assembled (o : Origin) (values : List Int) :
    (o.assembled values).length =
      (if 0 < o.leadTicks ∧ o.leadTicks < values.length then 1 else 0) + (values.length - o.leadTicks) / 180000 := by
  unfold Origin.assembled Origin.leadIncomplete
  rw [List.length_append, List.length_mapIdx, length_blocks, List.length_drop]
  split <;> rfl

/-- A batch has few ticks compared with a slot. -/
theorem tickCount_batch (o : Origin) (n : Nat) {m : Nat} (hm : m ≤ 8192) :
    tickCount o (n + m) ≤ tickCount o n + 12289 := by
  have hrate := o.rate_ge
  have hle (a : Nat) (ha : a ≤ 8192 * 12000) : a / o.rate ≤ 12288 :=
    (Nat.div_le_div_left hrate (by omega)).trans (by omega)
  rcases n with - | n
  · have := hle ((m - 1) * 12000) (by omega)
    unfold tickCount
    split <;> rw [Nat.zero_add] at * <;> omega
  · have hsum : (n + m) * 12000 / o.rate ≤ n * 12000 / o.rate + m * 12000 / o.rate + 1 := by
      rw [Nat.add_mul, Nat.add_div (by omega)]
      split <;> omega
    have := hle (m * 12000) (by omega)
    unfold tickCount
    rw [if_neg (by omega), if_neg (by omega), show n + 1 + m - 1 = n + m by omega, Nat.add_sub_cancel]
    omega

theorem events_le_one {o : Origin} {x samples : List Int16} {events : List EventContent} (hm : samples.length ≤ 8192)
    (h : reconstruct o (x ++ samples) = reconstruct o x ++ events) : events.length ≤ 1 := by
  have hlen := congrArg List.length h
  have hlead := o.leadTicks_lt
  have hticks := tickCount_batch o x.length hm
  rw [List.length_append, reconstruct, reconstruct, length_assembled, length_assembled, tickValues, tickValues,
    List.length_map, List.length_map, List.length_range, List.length_range, List.length_append] at hlen
  have hmono := tickCount_mono (o := o) (Nat.le_add_right x.length samples.length)
  split at hlen <;> split at hlen <;> omega

/-! ## The run -/

/-- The frames of a run's batches, one after the other. -/
def framesOf (run : List (CaptureBatch × UInt64)) : List Int16 := run.flatMap (·.1.samples)

/-- The events of a push. -/
def eventsOf (entry : (CaptureBatch × UInt64) × Outcome) : List ReceiveTimelineEvent :=
  match entry.2 with
  | .ok events => events
  | .error _ => []

theorem step_ok {input : CaptureBatch × UInt64} (h : (step t input).1.isOk) :
    ∃ events, push input.1 input.2 t = .ok events (step t input).2 ∧ (step t input).1 = .ok events := by
  cases hout : (step t input).1 with
  | error e => rw [hout] at h; cases h
  | ok events => exact ⟨events, outcome_eq_ok.mp hout, rfl⟩

theorem eventsOf_ok {input : CaptureBatch × UInt64} {events : List ReceiveTimelineEvent}
    (h : (step t input).1 = .ok events) : eventsOf (input, (step t input).1) = events := by
  rw [eventsOf, h]

theorem tracks_run {o : Origin} {x : List Int16} (ht : Tracks o x t) (run : List (CaptureBatch × UInt64))
    (hok : ∀ entry ∈ transcript step t run, entry.2.isOk) :
    reconstruct o (x ++ framesOf run) =
        reconstruct o x ++ ((transcript step t run).flatMap eventsOf).map (·.content) ∧
      ∀ entry ∈ transcript step t run, (eventsOf entry).length ≤ 1 := by
  induction run generalizing x t with
  | nil => simp [framesOf]
  | cons input run ih =>
    simp only [transcript_cons, List.forall_mem_cons] at hok ⊢
    obtain ⟨events, hpush, hout⟩ := step_ok hok.1
    obtain ⟨hu, hevents⟩ := tracks_next ht hpush
    obtain ⟨hlater, hone⟩ := ih hu hok.2
    rw [List.flatMap_cons, eventsOf_ok hout, framesOf, List.flatMap_cons, ← List.append_assoc]
    refine ⟨?_, ?_, hone⟩
    · rw [← framesOf, hlater, hevents, List.map_append, List.append_assoc]
    · have := events_le_one input.1.samples_le hevents
      rwa [List.length_map] at this

/-- **Window reconstruction**: the events of a run of accepted pushes are those of its concatenated frames, the first
batch's evidence and the rate, and no push returns two. -/
theorem events_reconstructed (first : CaptureBatch × UInt64) (rest : List (CaptureBatch × UInt64))
    (hok : ∀ entry ∈ transcript step (new processGeneration streamGeneration configuration) (first :: rest),
      entry.2.isOk) :
    let entries := transcript step (new processGeneration streamGeneration configuration) (first :: rest)
    (entries.flatMap eventsOf).map (·.content) =
        reconstruct (originOf configuration processGeneration streamGeneration first.1) (framesOf (first :: rest)) ∧
      ∀ entry ∈ entries, (eventsOf entry).length ≤ 1 := by
  intro entries
  simp only [entries, transcript_cons, List.forall_mem_cons] at hok ⊢
  obtain ⟨events, hpush, hout⟩ := step_ok hok.1
  obtain ⟨ht, hevents⟩ := tracks_first hpush
  obtain ⟨hlater, hone⟩ := tracks_run ht rest hok.2
  rw [List.flatMap_cons, eventsOf_ok hout, framesOf, List.flatMap_cons]
  refine ⟨?_, ?_, hone⟩
  · rw [← framesOf, hlater, hevents, List.map_append]
  · have h : (events.map (·.content)).length ≤ 1 := events_le_one (x := []) first.1.samples_le
      (by rw [List.nil_append, reconstruct_nil, List.nil_append]; exact hevents)
    rwa [List.length_map] at h

/-- Eight frames at 12 kHz of a capture that starts one millisecond before a slot boundary. -/
def lateStartBatch (position : UInt64) : CaptureBatch × UInt64 :=
  (CaptureBatch.silent ⟨1, one_nonzero⟩ ⟨1, one_nonzero⟩ monoConfiguration ⟨⟨position⟩, 14999, 0⟩ 8 (by decide) (by decide),
    0)

/-- Two such batches give the partial first slot with its 12 ticks. -/
theorem events_reconstructed_lateStart :
    reconstruct (originOf monoConfiguration ⟨1, by decide⟩ ⟨1, by decide⟩ (lateStartBatch 0).1)
        (framesOf [lateStartBatch 0, lateStartBatch 8]) =
      [.incomplete 0 .captureStartedLate 12] := by
  refine (events_reconstructed (lateStartBatch 0) [lateStartBatch 8] ?_).1.symm.trans ?_
  · decide +kernel
  · decide +kernel

end Ft8ReceiveTimeline

end Slotpilot.Audio
