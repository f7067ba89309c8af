import Slotpilot.Api.EventPayload
import Slotpilot.Lib.JsonParser
import Slotpilot.Daemon.ReplayLaws

/-!
# Fidelity of published payloads

An event that was published is replayed with the payload it was published with.

* `replaysPublished_iff`: this holds in every state of a history exactly when the codec reads back every payload that was
  accepted;
* `payloads_replayed_iff`: for the event payloads of the API, when every accepted payload is recoverable.
-/

set_option autoImplicit false

namespace Slotpilot.Daemon

open Lib Domain Storage Api Json

namespace EventHistory

variable {Payload : Type} {codec : EventCodec Payload} {h : EventHistory} {generation : ServiceInstanceId}
  {request : SubscriptionRequest} {envelope : EventEnvelope Payload}

/-- The page of a request has the row of a sequence. -/
structure Covers (h : EventHistory) (generation : ServiceInstanceId) (request : SubscriptionRequest) (sequence : Nat) :
    Prop where
  legal : Legal generation request
  reaches : ∀ first, earliest (h.retainedBy generation) = some first → first ≤ requestedSequence request + 1
  row : ∃ row ∈ page EventRow.sequence request.limit (requestedSequence request) (h.retainedBy generation),
    row.sequence = sequence

/-- Every page that covers an event has the event, in the version of the request. -/
def Replays (codec : EventCodec Payload) (h : EventHistory) (envelope : EventEnvelope Payload) : Prop :=
  ∀ request, Covers h envelope.serviceInstanceId request envelope.sequence →
    ∃ events next hasMore,
      answer codec h envelope.serviceInstanceId request =
        .ok ⟨request.apiVersion, .events events next hasMore⟩ ∧
      { envelope with apiVersion := request.apiVersion } ∈ events

/-- A run of calls publishes an event. -/
def Publishes (codec : EventCodec Payload) (calls : List (HistoryCall Payload)) (envelope : EventEnvelope Payload) : Prop :=
  ∃ call, (call, .published (.ok envelope)) ∈ transcript (step codec) initial calls

/-- **Publish and replay**: in every state of a history the events published before are replayed as they were published. -/
def ReplaysPublished (codec : EventCodec Payload) (calls : List (HistoryCall Payload)) : Prop :=
  ∀ before later envelope, calls = before ++ later → Publishes codec before envelope →
    Replays codec (final (step codec) initial before) envelope

/-- The codec reads back what it wrote for a payload. -/
def Recovers (codec : EventCodec Payload) (payload : Payload) : Prop :=
  ∀ json, codec.toJson payload = some json → codec.fromJson json = some payload

/-! ## Published events and their rows -/

theorem publishEvent_json {service service' : EventService} {eventId : EventId} {payload : Payload} {occurred : Int}
    (hok : service.publishEvent codec eventId payload occurred = .ok (envelope, service')) :
    (codec.toJson envelope.event).isSome := by
  unfold EventService.publishEvent at hok
  split at hok
  · simp only [exceptBind_ok, okOr_ok, exceptMapError_ok] at hok
    obtain ⟨json, hjson, _, _, hok⟩ := hok
    cases hok
    exact Option.isSome_iff_exists.mpr ⟨json, hjson⟩
  · cases hok

/-- A step publishes an event and appends its row, or publishes none and keeps the published rows. -/
theorem step_published (codec : EventCodec Payload) (h : EventHistory) (call : HistoryCall Payload) :
    (∃ envelope, (h.step codec call).1 = .published (.ok envelope) ∧ (codec.toJson envelope.event).isSome ∧
      envelope.sequence = h.store.lastSequence + 1 ∧
      (h.step codec call).2.store.rows = h.store.rows ++ [rowOf codec envelope] ∧
      (h.step codec call).2.published = h.published ++ [rowOf codec envelope]) ∨
    (∀ envelope, (h.step codec call).1 ≠ .published (.ok envelope)) ∧
      (h.step codec call).2.published = h.published := by
  cases call with
  | publish generation eventId payload occurred =>
    simp only [step, publish]
    split
    · rename_i envelope service hok
      obtain ⟨hsequence, -, -, hrows⟩ := publishEvent_ok hok
      exact .inl ⟨envelope, rfl, publishEvent_json hok, hsequence, hrows, rfl⟩
    · exact .inr ⟨fun _ heq => by simp at heq, rfl⟩
  | prune generation sequence =>
    simp only [step, prune]
    split <;> exact .inr ⟨fun _ heq => by simp at heq, rfl⟩

theorem publishes_append {calls : List (HistoryCall Payload)} {call : HistoryCall Payload} :
    Publishes codec (calls ++ [call]) envelope ↔ Publishes codec calls envelope ∨
      ((final (step codec) initial calls).step codec call).1 = .published (.ok envelope) := by
  unfold Publishes
  simp only [transcript_append, transcript_cons, transcript_nil, List.mem_append, List.mem_singleton, Prod.mk.injEq,
    exists_or]
  exact or_congr_right ⟨fun ⟨_, _, hanswer⟩ => hanswer.symm, fun hanswer => ⟨call, rfl, hanswer.symm⟩⟩

/-- The published rows are those of the published events. -/
theorem mem_published (calls : List (HistoryCall Payload)) {row : EventRow} :
    row ∈ (final (step codec) initial calls).published ↔ ∃ envelope, Publishes codec calls envelope ∧
      (codec.toJson envelope.event).isSome ∧ row = rowOf codec envelope := by
  induction calls using List.reverseRecOn with
  | nil => simp [Publishes, initial]
  | append_singleton calls call ih =>
    rw [final_append, final_cons, final_nil]
    rcases step_published codec (final (step codec) initial calls) call with
      ⟨envelope, hanswer, hjson, -, -, hpublished⟩ | ⟨hnone, hpublished⟩
    · rw [hpublished, List.mem_append, List.mem_singleton, ih]
      constructor
      · rintro (⟨other, hother, hrest⟩ | rfl)
        · exact ⟨other, publishes_append.mpr (.inl hother), hrest⟩
        · exact ⟨envelope, publishes_append.mpr (.inr hanswer), hjson, rfl⟩
      · rintro ⟨other, hother, hrest⟩
        rcases publishes_append.mp hother with hother | hother
        · exact .inl ⟨other, hother, hrest⟩
        · rw [hanswer] at hother
          cases hother
          exact .inr hrest.2
    · rw [hpublished, ih]
      constructor
      · rintro ⟨other, hother, hrest⟩
        exact ⟨other, publishes_append.mpr (.inl hother), hrest⟩
      · rintro ⟨other, hother, hrest⟩
        rcases publishes_append.mp hother with hother | hother
        · exact ⟨other, hother, hrest⟩
        · exact absurd hother (hnone other)

theorem Publishes.json {calls : List (HistoryCall Payload)} (hp : Publishes codec calls envelope) :
    ∃ json, codec.toJson envelope.event = some json ∧ (rowOf codec envelope).eventJson = json := by
  obtain ⟨call, hmember⟩ := hp
  obtain ⟨before, later, -, hanswer⟩ := exists_of_mem_transcript hmember
  rcases step_published codec (final (step codec) initial before) call with
    ⟨other, hother, hjson, -⟩ | ⟨hnone, -⟩
  · rw [hother] at hanswer
    cases hanswer
    obtain ⟨json, hjson⟩ := Option.isSome_iff_exists.mp hjson
    exact ⟨json, hjson, by simp [rowOf, hjson]⟩
  · exact absurd hanswer (hnone envelope)

theorem Publishes.row_mem {calls : List (HistoryCall Payload)} (hp : Publishes codec calls envelope) :
    rowOf codec envelope ∈ (final (step codec) initial calls).published := by
  obtain ⟨json, hjson, -⟩ := hp.json
  exact (mem_published calls).mpr ⟨envelope, hp, by rw [hjson]; rfl, rfl⟩

/-! ## Replay of published events -/

/-- The covering page of a history whose published payloads are read back. -/
theorem replays_of_recovers {calls : List (HistoryCall Payload)}
    (hall : ∀ other, Publishes codec calls other → Recovers codec other.event) (hp : Publishes codec calls envelope) :
    Replays codec (final (step codec) initial calls) envelope := by
  have hv : Valid (final (step codec) initial calls) := history_valid codec calls
  intro request hcovers
  obtain ⟨row, hrow, hsequence⟩ := hcovers.row
  obtain ⟨hretained, hafter⟩ := mem_after.mp (List.mem_of_mem_take hrow)
  have hanswer := hv.answers codec hcovers.legal
  generalize hresult : answer codec (final (step codec) initial calls) envelope.serviceInstanceId request = result at hanswer
  cases hanswer with
  | unrepresentable hs =>
    have hle := (hv.bounds (mem_publishedBy.mp (hv.retainedBy_subset hretained)).1).2
    have hfits := (final (step codec) initial calls).store.fits
    omega
  | gap first hs hfirst hgap =>
    have hreach := hcovers.reaches first hfirst
    omega
  | unavailable hs hreach hahead =>
    have hle := le_latest hretained
    omega
  | undecodable hs hreach hknown other hother hjson =>
    have hmember := hv.retainedBy_subset (mem_after.mp (List.mem_of_mem_take hother)).1
    obtain ⟨published, hpublished, -, rfl⟩ := (mem_published calls).mp (mem_publishedBy.mp hmember).1
    obtain ⟨json, hwritten, hrow⟩ := hpublished.json
    rw [hrow, hall published hpublished json hwritten] at hjson
    cases hjson
  | events hs hreach hknown events hevents =>
    refine ⟨events, _, _, rfl, ?_⟩
    obtain ⟨delivered, hdelivered, hdelivers⟩ := exists_of_forall₂_mem hevents.flip hrow
    -- the row of a sequence is unique, so the one in the page is that of the event
    have hsame : row = rowOf codec envelope :=
      hv.numbered.eq_of_number (mem_publishedBy.mp (hv.retainedBy_subset hretained)).1 hp.row_mem hsequence
    obtain ⟨json, hwritten, hjson⟩ := hp.json
    have hevent := hdelivers.event
    rw [hsame, hjson, hall envelope hp json hwritten] at hevent
    have heq : { envelope with apiVersion := request.apiVersion } = delivered := by
      obtain ⟨version, instanceId, sequence, eventId, occurred, event⟩ := delivered
      obtain ⟨rfl, hinstance, hnumber, hid, htime, -⟩ := hdelivers
      subst hsame
      cases Option.some.inj hevent
      cases TypedId.ext hinstance
      cases TypedId.ext hid
      cases hnumber
      cases htime
      rfl
    rw [heq]
    exact hdelivered

/-- The request for the one event after a sequence. -/
def nextEvent (generation : ServiceInstanceId) (sequence : Nat) : SubscriptionRequest where
  apiVersion := apiVersion
  after := some { serviceInstanceId := generation, sequence }
  limit := 1

/-- Right after its publication an event is the next one after its predecessor. -/
theorem covers_next (hv : Valid h) {call : HistoryCall Payload} (hsequence : envelope.sequence = h.store.lastSequence + 1)
    (hrows : (h.step codec call).2.store.rows = h.store.rows ++ [rowOf codec envelope]) :
    page EventRow.sequence 1 h.store.lastSequence ((h.step codec call).2.retainedBy envelope.serviceInstanceId) =
        [rowOf codec envelope] ∧
      Covers (h.step codec call).2 envelope.serviceInstanceId
        (nextEvent envelope.serviceInstanceId h.store.lastSequence) envelope.sequence := by
  have hretained : (h.step codec call).2.retainedBy envelope.serviceInstanceId =
      h.retainedBy envelope.serviceInstanceId ++ [rowOf codec envelope] := by
    show (h.step codec call).2.store.rows.filter _ = h.store.rows.filter _ ++ [rowOf codec envelope]
    rw [hrows, List.filter_append]
    simp [rowOf]
  have hold : after EventRow.sequence h.store.lastSequence (h.retainedBy envelope.serviceInstanceId) = [] := by
    refine List.filter_eq_nil_iff.mpr fun row hrow => ?_
    have hle := (hv.bounds (mem_publishedBy.mp (hv.retainedBy_subset hrow)).1).2
    simpa using hle
  have hpage : page EventRow.sequence 1 h.store.lastSequence
      ((h.step codec call).2.retainedBy envelope.serviceInstanceId) = [rowOf codec envelope] := by
    have hnew : h.store.lastSequence < (rowOf codec envelope).sequence := by
      show h.store.lastSequence < envelope.sequence
      omega
    rw [page, hretained, after, List.filter_append, List.filter_cons_of_pos (by simpa using hnew)]
    show (after EventRow.sequence h.store.lastSequence _ ++ [rowOf codec envelope]).take 1 = _
    rw [hold]
    rfl
  refine ⟨hpage, ⟨⟨?_, Nat.one_pos, ?_, fun cursor hcursor => ?_⟩, fun first hfirst => ?_, rowOf codec envelope, ?_, rfl⟩⟩
  · show apiVersion ∈ supportedApiVersions
    decide
  · show 1 ≤ maxReplayEvents
    decide
  · cases hcursor
    rfl
  · have hmember : rowOf codec envelope ∈ (h.step codec call).2.retainedBy envelope.serviceInstanceId := by
      rw [hretained]
      simp
    have hle : first ≤ envelope.sequence := (earliest_eq_some.mp hfirst).2 _ hmember
    show first ≤ h.store.lastSequence + 1
    omega
  · show rowOf codec envelope ∈ page EventRow.sequence 1 h.store.lastSequence _
    rw [hpage]
    exact List.mem_singleton_self _

/-- The first page after a publication shows whether the codec reads the payload back. -/
theorem recovers_of_replays {calls : List (HistoryCall Payload)} {call : HistoryCall Payload}
    (hanswer : ((final (step codec) initial calls).step codec call).1 = .published (.ok envelope))
    (hreplays : Replays codec ((final (step codec) initial calls).step codec call).2 envelope) :
    Recovers codec envelope.event := by
  have hv := history_valid codec calls
  rcases step_published codec (final (step codec) initial calls) call with
    ⟨other, hother, hjson, hsequence, hrows, -⟩ | ⟨hnone, -⟩
  · rw [hother] at hanswer
    cases hanswer
    obtain ⟨hpage, hcovers⟩ := covers_next hv hsequence hrows
    obtain ⟨events, next, hasMore, hreplayed, hmember⟩ := hreplays _ hcovers
    have hvalid : Valid ((final (step codec) initial calls).step codec call).2 := valid_step hv call
    have hanswers := hvalid.answers codec hcovers.legal
    rw [hreplayed] at hanswers
    cases hanswers with
    | events hs hreach hknown _ hevents =>
      obtain ⟨row, hrow, hdelivers⟩ := exists_of_forall₂_mem hevents hmember
      rw [show page EventRow.sequence (nextEvent envelope.serviceInstanceId _).limit
        (requestedSequence (nextEvent envelope.serviceInstanceId _)) _ = [rowOf codec envelope] from hpage] at hrow
      rw [List.mem_singleton.mp hrow] at hdelivers
      intro json hwritten
      have hevent := hdelivers.event
      rw [show (rowOf codec envelope).eventJson = json by simp [rowOf, hwritten]] at hevent
      exact hevent
  · exact absurd hanswer (hnone envelope)

/-- **Publish and replay**: the published events of a history are replayed as they were published exactly when the codec
reads back each of their payloads. -/
theorem replaysPublished_iff (calls : List (HistoryCall Payload)) :
    ReplaysPublished codec calls ↔ ∀ envelope, Publishes codec calls envelope → Recovers codec envelope.event := by
  constructor
  · rintro hreplays envelope ⟨call, hmember⟩
    obtain ⟨before, later, rfl, hanswer⟩ := exists_of_mem_transcript hmember
    refine recovers_of_replays hanswer ?_
    have hreached := hreplays (before ++ [call]) later envelope (by simp) (publishes_append.mpr (.inr hanswer))
    rwa [final_append] at hreached
  · rintro hrecovers before later envelope rfl hp
    refine replays_of_recovers (fun other hother => hrecovers other ?_) hp
    obtain ⟨call, hmember⟩ := hother
    exact ⟨call, by rw [transcript_append]; exact List.mem_append_left _ hmember⟩

end EventHistory

/-! ## The payloads of the API -/

/-- The text layer of serde, over values whose objects are sorted maps. -/
structure Serde where
  toText : JsonValue → Option String
  fromText : String → Option JsonValue

/-- Every text is read as the value it was written for. -/
def Serde.Faithful (self : Serde) : Prop :=
  ∀ value text, self.toText value = some text → self.fromText text = some value

/-- The codec of the API's payloads. -/
def payloadCodec (serde : Serde) (jsonValid : String → Bool) : EventCodec EventPayload where
  validate payload := decide (payload.validate = .ok ())
  toJson payload := serde.toText (.object payload.toMap)
  fromJson json := (serde.fromText json).bind fun value => value.asObject.bind EventPayload.fromMap
  jsonValid

namespace EventHistory

variable {serde : Serde} {jsonValid : String → Bool}

theorem recovers_payload (hserde : serde.Faithful) {payload : EventPayload}
    (hwritten : ((payloadCodec serde jsonValid).toJson payload).isSome) :
    Recovers (payloadCodec serde jsonValid) payload ↔ payload.Recoverable := by
  obtain ⟨json, hjson⟩ := Option.isSome_iff_exists.mp hwritten
  have hread : (payloadCodec serde jsonValid).fromJson json = EventPayload.fromMap payload.toMap := by
    show (serde.fromText json).bind _ = _
    rw [hserde _ _ hjson]
    rfl
  rw [← EventPayload.fromMap_toMap, ← hread]
  constructor
  · exact fun h => h json hjson
  · intro h other hother
    rw [← Option.some.inj (hjson.symm.trans hother)]
    exact h

/-- **Publish and replay of event payloads**: the published events of a history are replayed as they were published
exactly when their payloads are recoverable. -/
theorem payloads_replayed_iff (hserde : serde.Faithful) (calls : List (HistoryCall EventPayload)) :
    ReplaysPublished (payloadCodec serde jsonValid) calls ↔
      ∀ envelope, Publishes (payloadCodec serde jsonValid) calls envelope → envelope.event.Recoverable := by
  refine (replaysPublished_iff calls).trans (forall_congr' fun envelope => forall_congr' fun hp => ?_)
  obtain ⟨json, hjson, -⟩ := hp.json
  exact recovers_payload hserde (by rw [hjson]; rfl)

/-! ## A payload that is not read back -/

/-- The compact text of a value and its parser. -/
def compactSerde : Serde where
  toText value := some value.json.text
  fromText text := (parse text).map fun value => ⟨value.sortKeys, sortKeys_sortKeys value⟩

theorem compactSerde_faithful : compactSerde.Faithful := by
  rintro ⟨json, hcanonical⟩ text htext
  obtain rfl : json.text = text := Option.some.inj htext
  show (parse json.text).map _ = _
  rw [parse_text, Option.map_some]
  simp only [hcanonical]

/-- One payload published into an empty history. -/
def publishOnce (payload : EventPayload) : List (HistoryCall EventPayload) :=
  [.publish firstInstance firstNotice payload 0]

theorem payloads_replayed_iff_notice :
    ReplaysPublished (payloadCodec compactSerde fun _ => true) (publishOnce (.phase0Notice "ready")) ↔
      ∀ envelope, Publishes (payloadCodec compactSerde fun _ => true) (publishOnce (.phase0Notice "ready")) envelope →
        envelope.event.Recoverable :=
  payloads_replayed_iff compactSerde_faithful _

/-- An unknown payload with the kind of a notice is accepted. -/
theorem publishes_disguised : Publishes (payloadCodec compactSerde fun _ => true)
    (publishOnce (.unknown "phase0_notice" .empty))
    { apiVersion, serviceInstanceId := firstInstance, sequence := 1, eventId := firstNotice, occurredUtcMillis := 0,
      event := .unknown "phase0_notice" .empty } :=
  ⟨.publish firstInstance firstNotice (.unknown "phase0_notice" .empty) 0, List.mem_singleton.mpr rfl⟩

/-- An accepted payload with the kind of another type is not replayed. -/
theorem disguised_notice_lost :
    ¬∀ serde : Serde, serde.Faithful → ∀ jsonValid calls, ReplaysPublished (payloadCodec serde jsonValid) calls := by
  intro hall
  have hreplayed := hall compactSerde compactSerde_faithful (fun _ => true) (publishOnce (.unknown "phase0_notice" .empty))
  have hrecovers := (replaysPublished_iff _).mp hreplayed _ publishes_disguised
  have hread := (recovers_payload compactSerde_faithful rfl).mp hrecovers
  exact hread.1 (by simp [knownKinds])

end EventHistory

end Slotpilot.Daemon
