import Slotpilot.Api.ResponseSizes
import Slotpilot.Ipc.Frames

/-!
# Frames of the bounded responses

The API bounds the collections of its responses and the transport bounds the bytes of a frame. A response is written
exactly when its size, which its numbers and texts determine, is that of a frame (`response_fits_iff`); the bounds of the
collections are no reason for that: a full waterfall frame never fits (`full_waterfall_unfit`).
-/

set_option autoImplicit false

namespace Slotpilot.Ipc

open Lib Domain Api Json

/-- A value of the daemon with a bounded collection: the response to a history query, the response to a subscription,
and a waterfall frame. -/
inductive BoundedResponse
  | receiveHistory (apiVersion : Nat) (requestId : RequestId) (page : ReceiveHistoryPage)
  | subscription (response : SubscriptionResponse EventPayload)
  | waterfallFrame (frame : WaterfallFrame)

namespace BoundedResponse

/-- The documented bounds. -/
def InBounds : BoundedResponse → Prop
  | .receiveHistory _ _ page => page.validate = .ok ()
  | .subscription response =>
    ∀ events nextCursor hasMore, response.outcome = .events events nextCursor hasMore →
      events.length ≤ maxReplayEvents ∧ ∀ event ∈ events, event.event.validate = .ok ()
  | .waterfallFrame frame => frame.validate = .ok ()

/-- The JSON form. -/
def form : BoundedResponse → Json
  | .receiveHistory apiVersion requestId page => .object
    [("api_version", .int apiVersion), ("request_id", toJson requestId), ("outcome", .string "success"),
      ("payload", .object [("kind", .string "receive_history"), ("value", toJson page)])]
  | .subscription response => toJson response
  | .waterfallFrame frame => toJson frame

/-- The size that the numbers and texts of a response determine. -/
def size : BoundedResponse → Nat
  | .receiveHistory apiVersion requestId page =>
    52 + [intBytes apiVersion, jsonBytes requestId, 9, 18 + [17, jsonBytes page].sum].sum
  | .subscription response => jsonBytes response
  | .waterfallFrame frame => jsonBytes frame

theorem bytes_form (response : BoundedResponse) : response.form.bytes = response.size := by
  cases response with
  | receiveHistory apiVersion requestId page =>
    have hpayload : Sized (.object [("kind", .string "receive_history"), ("value", toJson page)])
        (18 + [17, jsonBytes page].sum) := by
      refine sized_object (.cons (sized_text (by decide)) (by simp)) ?_ (by simp)
      simp only [List.map]
      decide
    have hresponse : Sized (form (.receiveHistory apiVersion requestId page))
        (size (.receiveHistory apiVersion requestId page)) := by
      refine sized_object
        (.cons (sized_int _) (.cons (sized requestId) (.cons (sized_text (by decide)) (.cons hpayload .nil)))) ?_ (by simp)
      simp only [List.map]
      decide
    exact hresponse.bytes
  | subscription response => exact (sized response).bytes
  | waterfallFrame frame => exact (sized frame).bytes

end BoundedResponse

/-- The JSON library writes the compact text. -/
def Compact {E : Type} (json : SerdeJson E BoundedResponse) : Prop :=
  ∀ response, json.toVec response = .ok response.form.text.toUTF8.data.toList

/-- The compact text of a response is that of a frame, and no write rejects it as too large. -/
structure Fits (response : BoundedResponse) : Prop where
  bytes : response.form.bytes ≤ maxFrameBytes
  written : ∀ {E : Type} (json : SerdeJson E BoundedResponse), Compact json →
    ∀ cancellation writer later length maximum,
      writeFrame json response cancellation writer ≠ .error (.frameTooLarge length maximum) later

section Writing

variable {E T : Type} {json : SerdeJson E T} {value : T} {payload : List UInt8} {writer : ByteSink}

theorem writeAll_io (bytes : List UInt8) :
    Lib.Ends (writeAll bytes : EStateM (IpcError E) ByteSink Unit) writer (fun _ _ => True)
      (fun error _ => ∀ length maximum, error ≠ .frameTooLarge length maximum) := by
  unfold Lib.Ends writeAll
  obtain ⟨written, _ | ⟨_ | ⟨taken, error⟩, calls⟩⟩ := writer
  · trivial
  · trivial
  · intro length maximum hsame
    cases hsame

/-- A payload in bounds is not rejected as too large. -/
theorem writeFrame_small (hpayload : json.toVec value = .ok payload) (hbound : payload.length ≤ maxFrameBytes)
    (cancellation : Bool) :
    Lib.Ends (writeFrame json value cancellation) writer (fun _ _ => True)
      (fun error _ => ∀ length maximum, error ≠ .frameTooLarge length maximum) := by
  have hword : ¬payload.length ≥ 2 ^ 32 := by
    unfold maxFrameBytes at hbound
    omega
  unfold writeFrame check flush
  rw [ends_bind, ends_ite]
  constructor
  · intro _ length maximum hsame
    cases hsame
  intro _
  rw [ends_pure, ends_bind, ends_fromResult, hpayload]
  constructor
  swap
  · intro error herror
    cases herror
  rintro _ ⟨⟩
  rw [if_neg (Nat.not_lt.mpr hbound), if_neg hword, ends_bind]
  refine (writeAll_io _).imp ?_ (fun _ _ => id)
  intro _ afterLength _
  rw [ends_bind]
  refine (writeAll_io payload).imp ?_ (fun _ _ => id)
  intro _ afterPayload _
  exact writeAll_io []

/-- A longer payload is rejected. -/
theorem writeFrame_large (hpayload : json.toVec value = .ok payload) (hlarge : maxFrameBytes < payload.length) :
    writeFrame json value false writer = .error (.frameTooLarge payload.length maxFrameBytes) writer := by
  unfold writeFrame check
  simp only [Bool.false_eq_true, if_false, pure_bind, hpayload, Except.mapError, fromResult]
  rw [if_pos hlarge]
  rfl

end Writing

theorem fits_of_bytes {response : BoundedResponse} (hbytes : response.form.bytes ≤ maxFrameBytes) : Fits response := by
  refine ⟨hbytes, ?_⟩
  intro E json hcompact cancellation writer later length maximum hrejected
  exact (writeFrame_small (hcompact response) hbytes cancellation).of_error hrejected length maximum rfl

theorem unfit_of_size {response : BoundedResponse} (hlarge : maxFrameBytes < response.size) : ¬Fits response := by
  intro hfits
  have hbytes := hfits.bytes
  rw [response.bytes_form] at hbytes
  omega

/-- **A response fits** its frame exactly when its size does. -/
theorem response_fits_iff (response : BoundedResponse) : Fits response ↔ response.size ≤ 65536 := by
  rw [← response.bytes_form]
  exact ⟨Fits.bytes, fits_of_bytes⟩

/-- Every write of another response is rejected. -/
theorem unfit_rejected {response : BoundedResponse} (hunfit : ¬Fits response) {E : Type}
    {json : SerdeJson E BoundedResponse} (hcompact : Compact json) (writer : ByteSink) :
    writeFrame json response false writer = .error (.frameTooLarge response.size maxFrameBytes) writer := by
  have hlarge : ¬response.form.bytes ≤ maxFrameBytes := mt fits_of_bytes hunfit
  rw [← response.bytes_form]
  exact writeFrame_large (hcompact response) (Nat.not_le.mp hlarge)

/-- **A full waterfall frame does not fit.** -/
theorem full_waterfall_unfit {frame : WaterfallFrame} (hfull : frame.bins.length = maxWaterfallBins) :
    ¬Fits (.waterfallFrame frame) := by
  have hbin : ∀ bin ∈ frame.bins, 47 ≤ jsonBytes bin := by
    intro bin _
    have hfrequency := one_le_intBytes bin.frequencyMillihz.toNat
    have hmagnitude := one_le_intBytes bin.magnitudeMillidbfs.toInt
    show 47 ≤ 45 + [intBytes bin.frequencyMillihz.toNat, intBytes bin.magnitudeMillidbfs.toInt].sum
    simp only [List.sum_cons, List.sum_nil]
    omega
  have hbins := le_listBytes hbin
  rw [hfull, maxWaterfallBins] at hbins
  refine unfit_of_size ?_
  show 65536 < 80 + [jsonBytes frame.streamGeneration, jsonBytes frame.utcUnixMillis, jsonBytes frame.frameSequence,
    jsonBytes frame.coalesced, jsonBytes frame.bins].sum
  simp only [List.sum_cons, List.sum_nil]
  omega

/-! ## A page of history -/

/-- The bounds of a page and of its records. -/
theorem validate_page {page : ReceiveHistoryPage} :
    page.validate = .ok () ↔ page.records.length ≤ maxReceiveHistoryPage ∧
      ∀ record ∈ page.records, record.decodes.length ≤ maxReceiveDecodes := by
  have hrecord (record : ReceiveRecordSummary) : record.validate = .ok () ↔ record.decodes.length ≤ maxReceiveDecodes := by
    unfold ReceiveRecordSummary.validate
    split <;> simp <;> omega
  have hrecords (records : List ReceiveRecordSummary) :
      records.forM ReceiveRecordSummary.validate = .ok () ↔
        ∀ record ∈ records, record.decodes.length ≤ maxReceiveDecodes := by
    induction records with
    | nil => simp [pure, Except.pure]
    | cons record records ih =>
      have hcons : (record :: records).forM ReceiveRecordSummary.validate =
          record.validate >>= fun _ => records.forM ReceiveRecordSummary.validate := rfl
      rw [hcons, List.forall_mem_cons, ← ih, ← hrecord, exceptBind_ok]
      constructor
      · rintro ⟨_, hhead, hlater⟩
        exact ⟨hhead, hlater⟩
      · rintro ⟨hhead, hlater⟩
        exact ⟨(), hhead, hlater⟩
  unfold ReceiveHistoryPage.validate
  split
  · simp
    omega
  · rw [hrecords]
    exact ⟨fun h => ⟨by omega, h⟩, And.right⟩

/-- A record is at least as long as its decodes. -/
theorem decodes_le (record : ReceiveRecordSummary) : jsonBytes record.decodes ≤ jsonBytes record := by
  show _ ≤ 101 + List.sum _
  simp only [List.sum_cons, List.sum_nil]
  omega

/-- A history response is at least as long as its records. -/
theorem records_le (apiVersion : Nat) (requestId : RequestId) (page : ReceiveHistoryPage) :
    jsonBytes page.records ≤ (BoundedResponse.receiveHistory apiVersion requestId page).size := by
  have hpage : jsonBytes page.records ≤ jsonBytes page := by
    show _ ≤ 41 + List.sum _
    simp only [List.sum_cons, List.sum_nil]
    omega
  simp only [BoundedResponse.size, List.sum_cons, List.sum_nil]
  omega

theorem pageRequest_valid : validateId "req_" "req_00000001" = .ok () := by decide

/-- Eight digits are an identity. -/
theorem pageWindow_valid (i : Fin 100) :
    validateId "rxw_" ("rxw_" ++ String.ofList (Nat.toDigits 10 (10000000 + i.val))) = .ok () := by
  have hdigit : ∀ c ∈ Nat.toDigits 10 (10000000 + i.val), c.isDigit = true := fun c hc =>
    Nat.isDigit_of_mem_toDigits (by decide) (Nat.le_refl _) hc
  have hmost : (Nat.toDigits 10 (10000000 + i.val)).length ≤ 8 :=
    (Nat.length_toDigits_le_iff (by decide) (by decide)).mpr (by omega)
  have hleast : ¬(Nat.toDigits 10 (10000000 + i.val)).length ≤ 7 := fun hle =>
    absurd ((Nat.length_toDigits_le_iff (by decide) (by decide)).mp hle) (by omega)
  have hsize : ((Nat.toDigits 10 (10000000 + i.val)).map Char.utf8Size).sum =
      (Nat.toDigits 10 (10000000 + i.val)).length := by
    have hone : ∀ c ∈ Nat.toDigits 10 (10000000 + i.val), c.utf8Size = 1 := by
      intro c hc
      have hascii := isDigit_ascii (hdigit c hc)
      exact Char.utf8Size_eq_one_iff.mpr (by rw [UInt32.le_iff_toNat_le]; exact Nat.le_of_lt_succ hascii)
    rw [List.map_congr_left hone, List.map_const', List.sum_replicate, smul_eq_mul, Nat.mul_one]
  refine validateId_ok.mpr ⟨Nat.toDigits 10 (10000000 + i.val), ?_, ?_, ?_⟩
  · rw [String.toList_append, String.toList_ofList (l := Nat.toDigits 10 (10000000 + i.val))]
  · rw [hsize]
    omega
  · refine List.all_eq_true.mpr ?_
    intro c hc
    have hrange := hdigit c hc
    simp only [Char.isDigit, Bool.and_eq_true, decide_eq_true_eq] at hrange
    simp only [isIdCharacter, Bool.or_eq_true, Bool.and_eq_true, decide_eq_true_eq]
    exact .inr hrange

/-- A decode of a free text, each at its own frequency. -/
def pageDecode (j : Fin 10) : Ft8Decode where
  startOffsetMillis := 100
  audioFrequencyHz := UInt32.ofNat (1000 + 100 * j.val)
  signalToNoiseDb := -10
  classification := .freeText "TNX BOB 73 GL"

/-- A record of ten decodes. -/
def pageRecord (i : Fin 100) : ReceiveRecordSummary where
  sequence := UInt64.ofNat (i.val + 1)
  receiveWindowId := ⟨"rxw_" ++ String.ofList (Nat.toDigits 10 (10000000 + i.val)), pageWindow_valid i⟩
  slotStartUtcMillis := Int64.ofNat (15000 * i.val)
  selection := ⟨⟨.linuxAlsa, "hw:0"⟩, ⟨48000, 1, .signed16, 0⟩⟩
  audio := ⟨10, 0, 0, 0, 5⟩
  clock := .healthy 100
  decodes := (List.finRange 10).map pageDecode

/-- The greatest page of such records. -/
def fullPage : ReceiveHistoryPage where
  records := (List.finRange 100).map pageRecord
  nextSequence := 100
  hasMore := false

theorem fullPage_inBounds : fullPage.validate = .ok () := by
  refine validate_page.mpr ⟨by rw [fullPage, List.length_map, List.length_finRange]; decide, ?_⟩
  intro record hmember
  obtain ⟨i, -, rfl⟩ := List.mem_map.mp hmember
  rw [pageRecord, List.length_map, List.length_finRange]
  decide

theorem fullPage_unfit : ¬Fits (.receiveHistory 2 ⟨"req_00000001", pageRequest_valid⟩ fullPage) := by
  have hdecode : ∀ j : Fin 10, 100 ≤ jsonBytes (pageDecode j) := by decide
  have hrecord : ∀ record ∈ fullPage.records, 1010 ≤ jsonBytes record := by
    intro record hmember
    obtain ⟨i, -, rfl⟩ := List.mem_map.mp hmember
    have hdecodes : 10 * (100 + 1) ≤ jsonBytes (pageRecord i).decodes := by
      refine le_listBytes (l := (pageRecord i).decodes) ?_
      intro decode hmember
      obtain ⟨j, -, rfl⟩ := List.mem_map.mp hmember
      exact hdecode j
    exact hdecodes.trans (decodes_le _)
  have hlength : fullPage.records.length = 100 := by
    rw [fullPage, List.length_map, List.length_finRange]
  have hrecords := le_listBytes hrecord
  rw [hlength] at hrecords
  have hle := records_le 2 ⟨"req_00000001", pageRequest_valid⟩ fullPage
  refine unfit_of_size ?_
  rw [maxFrameBytes]
  omega

/-- **Responses in bounds need not fit**: a page of 100 records of ten decodes is rejected. -/
theorem response_fits_fails : ¬∀ response : BoundedResponse, response.InBounds → Fits response := by
  intro hall
  exact fullPage_unfit (hall _ fullPage_inBounds)

end Slotpilot.Ipc
