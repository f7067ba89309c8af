import Slotpilot.Daemon.EventFidelity

/-!
# Totality of subscriptions

`subscribe` converts the cursor of a request to a SQLite integer before it compares it with the committed sequences, so
a cursor of 2^63 or more is a storage error where one that is merely ahead has an outcome of its own.

* `subscribe_illegal`, `subscribe_readable`: the requests that are answered, and what a cursor ahead is answered;
* `answered_iff`: over a store whose payloads are read back, every other request is answered, and no further one;
* `readable_final`: the stores of a history whose payloads the codec reads back.
-/

set_option autoImplicit false

namespace Slotpilot.Daemon.EventHistory

open Lib Domain Storage Api

variable {Payload : Type} {codec : EventCodec Payload} {service : EventService} {generation : ServiceInstanceId}
  {request : SubscriptionRequest}

/-- The rows that the service's generation retains. -/
def ownRows (service : EventService) : List EventRow := service.store.ofInstance service.serviceInstanceId

/-- The retained rows of the service's generation hold valid identities and payloads. -/
structure Readable (codec : EventCodec Payload) (service : EventService) : Prop where
  identities : ∀ row ∈ ownRows service, HasIdentities row
  payloads : ∀ row ∈ ownRows service, (codec.fromJson row.eventJson).isSome

/-- A request is answered with an outcome, and a cursor ahead of the committed sequences with the one for it. -/
structure Answered (codec : EventCodec Payload) (service : EventService) (request : SubscriptionRequest) : Prop where
  total : ∃ outcome, service.subscribe codec request = .ok ⟨request.apiVersion, outcome⟩
  ahead : ∀ cursor, request.after = some cursor → Legal service.serviceInstanceId request →
    latest (ownRows service) < cursor.sequence →
      service.subscribe codec request =
        .ok ⟨request.apiVersion, .cursorUnavailable cursor ⟨service.serviceInstanceId, latest (ownRows service)⟩⟩

/-! ## Requests that are answered -/

/-- A request that is not legal has an outcome, whatever the store holds. -/
theorem subscribe_illegal (hillegal : ¬Legal service.serviceInstanceId request) :
    ∃ outcome, service.subscribe codec request = .ok ⟨request.apiVersion, outcome⟩ := by
  unfold EventService.subscribe
  by_cases hversion : request.apiVersion ∈ supportedApiVersions
  · by_cases hlimit : request.limit = 0 ∨ request.limit > maxReplayEvents
    · rw [if_neg (not_not.mpr hversion), if_pos hlimit]
      exact ⟨_, rfl⟩
    · have hother : request.after.elim service.serviceInstanceId (·.serviceInstanceId) ≠ service.serviceInstanceId := by
        intro hsame
        apply hillegal
        refine ⟨hversion, by omega, by omega, ?_⟩
        intro cursor hcursor
        rw [hcursor] at hsame
        exact hsame
      rw [if_neg (not_not.mpr hversion), if_neg hlimit]
      exact ⟨.incompatibleGeneration (request.after.elim service.serviceInstanceId (·.serviceInstanceId))
        service.serviceInstanceId, if_pos hother⟩
  · rw [if_pos hversion]
    exact ⟨_, rfl⟩

/-- The answer to a legal request is one of those that its rows determine. -/
theorem answers_of_readable (hreadable : Readable codec service) (hlegal : Legal service.serviceInstanceId request) :
    Answers codec service.serviceInstanceId request (ownRows service) (service.subscribe codec request) :=
  subscribe_answers (h := ⟨service.store, []⟩) hlegal hreadable.identities

/-- The rows of a page are among those of the generation. -/
theorem mem_of_mem_page {rows : List EventRow} {row : EventRow} {limit sequence : Nat}
    (h : row ∈ page EventRow.sequence limit sequence rows) : row ∈ rows :=
  (mem_after.mp (List.mem_of_mem_take h)).1

/-- A legal request whose cursor is a SQLite integer has an outcome. -/
theorem subscribe_readable (hreadable : Readable codec service) (hlegal : Legal service.serviceInstanceId request)
    (hfits : requestedSequence request < 2 ^ 63) : Answered codec service request := by
  have hanswers := answers_of_readable hreadable hlegal
  have hahead (cursor : EventCursor) (hcursor : request.after = some cursor) :
      requestedSequence request = cursor.sequence := by
    rw [requestedSequence, hcursor]
    rfl
  generalize hresult : service.subscribe codec request = result at hanswers
  cases hanswers with
  | unrepresentable hs => exact absurd hfits (Nat.not_lt.mpr hs)
  | gap first hs hfirst hgap =>
    refine ⟨⟨_, hresult⟩, ?_⟩
    intro cursor hcursor _ hlate
    -- a row is retained behind the cursor
    obtain ⟨⟨row, hrow, rfl⟩, -⟩ := earliest_eq_some.mp hfirst
    have hle := le_latest hrow
    have hsequence := hahead cursor hcursor
    omega
  | unavailable hs hcovers hlatest =>
    refine ⟨⟨_, hresult⟩, ?_⟩
    intro cursor hcursor _ _
    have hsame : (⟨service.serviceInstanceId, requestedSequence request⟩ : EventCursor) = cursor := by
      rw [hahead cursor hcursor, ← hlegal.generation cursor hcursor]
    rw [hresult, hsame]
  | undecodable hs hcovers hknown row hrow hjson =>
    have hread := hreadable.payloads row (mem_of_mem_page hrow)
    rw [hjson] at hread
    cases hread
  | events hs hcovers hknown events hevents =>
    refine ⟨⟨_, hresult⟩, ?_⟩
    intro cursor hcursor _ hlate
    have hsequence := hahead cursor hcursor
    omega

/-- **Totality of subscriptions**: over a store whose payloads are read back, a request is answered unless it is legal
and its cursor is 2^63 or more. -/
theorem answered_iff (hreadable : Readable codec service) (request : SubscriptionRequest) :
    Answered codec service request ↔
      ¬(Legal service.serviceInstanceId request ∧ 2 ^ 63 ≤ requestedSequence request) := by
  constructor
  · intro hanswered hlarge
    obtain ⟨hlegal, hs⟩ := hlarge
    obtain ⟨outcome, houtcome⟩ := hanswered.total
    have hanswers := answers_of_readable hreadable hlegal
    rw [houtcome] at hanswers
    cases hanswers <;> omega
  · intro hsmall
    by_cases hlegal : Legal service.serviceInstanceId request
    · apply subscribe_readable hreadable hlegal
      by_contra hlarge
      exact hsmall ⟨hlegal, Nat.le_of_not_lt hlarge⟩
    · exact ⟨subscribe_illegal hlegal, fun _ _ hlegal' _ => absurd hlegal' hlegal⟩

/-- A store with one notice. -/
def noticeService : EventService where
  store :=
    { rows := [noticeRow 1 firstNotice firstInstance], lastSequence := 1, numbered := List.pairwise_singleton _ _,
      assigned := fun _ hrow => Nat.le_of_eq (congrArg EventRow.sequence (List.mem_singleton.mp hrow)),
      fits := by decide }
  serviceInstanceId := firstInstance

theorem readable_notice : Readable noticeCodec noticeService := by
  have hrow : ∀ row ∈ ownRows noticeService, row = noticeRow 1 firstNotice firstInstance := by
    intro row hrow
    have hmember : row ∈ [noticeRow 1 firstNotice firstInstance] := (List.mem_filter.mp hrow).1
    exact List.mem_singleton.mp hmember
  constructor
  · intro row hmember
    rw [hrow row hmember]
    exact ⟨⟨firstNotice, rfl⟩, firstInstance, rfl⟩
  · intro row hmember
    rw [hrow row hmember]
    decide

/-- The largest cursor that is a SQLite integer. -/
theorem answered_notice : Answered noticeCodec noticeService (noticesAfter firstInstance (2 ^ 63 - 1) 1) :=
  (answered_iff readable_notice _).mpr (by
    intro hlarge
    exact absurd hlarge.2 (by decide))

/-- The cursor after it is ahead of the committed notice, and a storage error. -/
theorem large_cursor_unanswered :
    Readable noticeCodec noticeService ∧ latest (ownRows noticeService) = 1 ∧
      noticeService.subscribe noticeCodec (noticesAfter firstInstance (2 ^ 63) 1) =
        .error (.storage .invalidSequence) :=
  ⟨readable_notice, by decide, by decide⟩

/-! ## Stores of a history -/

/-- The published rows of a history whose payloads the codec reads back. -/
theorem readable_final {calls : List (HistoryCall Payload)}
    (hall : ∀ envelope, Publishes codec calls envelope → Recovers codec envelope.event) :
    Readable codec ((final (step codec) initial calls).service generation) := by
  have hvalid := history_valid codec calls
  constructor
  · exact hvalid.retainedBy_identities
  · intro row hrow
    have hmember := (mem_publishedBy.mp (hvalid.retainedBy_subset hrow)).1
    obtain ⟨envelope, hpublished, -, rfl⟩ := (mem_published calls).mp hmember
    obtain ⟨json, hwritten, hjson⟩ := hpublished.json
    rw [hjson, hall envelope hpublished json hwritten]
    rfl

end Slotpilot.Daemon.EventHistory
