import Slotpilot.Daemon.EventHistory

/-!
# Replay of a history

What `subscribe` answers to a legal request depends on the requested sequence and the retained rows of the generation
alone (`subscribe_answers`), and in a valid history those are the generation's published rows from some sequence on
(`retainedBy_eq`).
-/

set_option autoImplicit false

namespace Slotpilot.Daemon.EventHistory

open Lib Domain Storage Api

variable {Payload : Type} {codec : EventCodec Payload} {h : EventHistory} {generation : ServiceInstanceId}
  {request : SubscriptionRequest}

/-! ## The answer to a legal request -/

/-- A request of a supported version and page size, without a cursor or with one of the generation. -/
structure Legal (generation : ServiceInstanceId) (request : SubscriptionRequest) : Prop where
  version : request.apiVersion ∈ supportedApiVersions
  limit_pos : 0 < request.limit
  limit_le : request.limit ≤ maxReplayEvents
  generation : ∀ cursor, request.after = some cursor → cursor.serviceInstanceId = generation

/-- The sequence of a request's cursor; zero without one. -/
def requestedSequence (request : SubscriptionRequest) : Nat := request.after.elim 0 (·.sequence)

/-- The first and the last sequence of some rows. -/
def earliest (rows : List EventRow) : Option Nat := (rows.map EventRow.sequence).min?

def latest (rows : List EventRow) : Nat := ((rows.map EventRow.sequence).max?).getD 0

/-- The envelope delivers the row: its fields, and the decoded payload. -/
structure Delivers (codec : EventCodec Payload) (apiVersion : Nat) (row : EventRow) (envelope : EventEnvelope Payload) :
    Prop where
  apiVersion : envelope.apiVersion = apiVersion
  serviceInstanceId : envelope.serviceInstanceId.text = row.serviceInstanceId
  sequence : envelope.sequence = row.sequence
  eventId : envelope.eventId.text = row.eventId
  occurredUtcMillis : envelope.occurredUtcMillis = row.occurredUtcMillis
  event : codec.fromJson row.eventJson = some envelope.event

theorem toStored_ok {row : EventRow} {stored : StoredEvent} :
    row.toStored = .ok stored ↔ stored.eventId.text = row.eventId ∧
      stored.serviceInstanceId.text = row.serviceInstanceId ∧ stored.sequence = row.sequence ∧
      stored.eventJson = row.eventJson ∧ stored.occurredUtcMillis = row.occurredUtcMillis := by
  obtain ⟨sequence, eventId, instanceId, json, occurred⟩ := stored
  simp only [EventRow.toStored, exceptBind_ok, exceptMapError_ok, TypedId.fromStr_ok]
  constructor
  · rintro ⟨eventId', he, instanceId', hi, h⟩
    cases h
    exact ⟨he, hi, rfl, rfl, rfl⟩
  · rintro ⟨he, hi, hs, hj, ho⟩
    refine ⟨eventId, he, instanceId, hi, ?_⟩
    cases hs
    cases hj
    cases ho
    rfl

theorem toEnvelope_ok {apiVersion : Nat} {row : EventRow} {stored : StoredEvent} {envelope : EventEnvelope Payload}
    (hrow : row.toStored = .ok stored) :
    EventService.toEnvelope codec apiVersion stored = .ok envelope ↔ Delivers codec apiVersion row envelope := by
  obtain ⟨he, hi, hs, hj, ho⟩ := toStored_ok.mp hrow
  obtain ⟨version, instanceId, sequence, eventId, occurred, event⟩ := envelope
  simp only [EventService.toEnvelope, exceptBind_ok, okOr_ok]
  constructor
  · rintro ⟨event', hevent, h⟩
    cases h
    exact ⟨rfl, hi, hs, he, ho, hj ▸ hevent⟩
  · rintro ⟨hv, hi', hs', he', ho', hevent⟩
    refine ⟨event, hj ▸ hevent, ?_⟩
    cases hv
    cases TypedId.ext (hi'.trans hi.symm)
    cases TypedId.ext (he'.trans he.symm)
    cases hs'.trans hs.symm
    cases ho'.trans ho.symm
    rfl

theorem mapM_toStored (rows : List EventRow) (hids : ∀ row ∈ rows, HasIdentities row) :
    ∃ stored, rows.mapM EventRow.toStored = .ok stored := by
  rcases mapM_cases EventRow.toStored rows with hok | ⟨row, hrow, e, he, -⟩
  · exact hok
  · obtain ⟨⟨eventId, heventId⟩, instanceId, hinstanceId⟩ := hids row hrow
    have hok : row.toStored = .ok ⟨row.sequence, eventId, instanceId, row.eventJson, row.occurredUtcMillis⟩ :=
      toStored_ok.mpr ⟨heventId, hinstanceId, rfl, rfl, rfl⟩
    rw [hok] at he
    cases he

/-- The outcome of a legal request, by the retained rows of the generation and the requested sequence. -/
inductive Answers (codec : EventCodec Payload) (generation : ServiceInstanceId) (request : SubscriptionRequest)
    (rows : List EventRow) : Except EventProcessorError (SubscriptionResponse Payload) → Prop
  | unrepresentable (hs : 2 ^ 63 ≤ requestedSequence request) :
    Answers codec generation request rows (.error (.storage .invalidSequence))
  | gap (first : Nat) (hs : requestedSequence request < 2 ^ 63) (hfirst : earliest rows = some first)
    (hgap : requestedSequence request < first - 1) :
    Answers codec generation request rows
      (.ok ⟨request.apiVersion, .cursorGap ⟨generation, requestedSequence request⟩ ⟨generation, first⟩⟩)
  | unavailable (hs : requestedSequence request < 2 ^ 63)
    (hcovers : ∀ first, earliest rows = some first → first ≤ requestedSequence request + 1)
    (hahead : latest rows < requestedSequence request) :
    Answers codec generation request rows
      (.ok ⟨request.apiVersion,
        .cursorUnavailable ⟨generation, requestedSequence request⟩ ⟨generation, latest rows⟩⟩)
  | undecodable (hs : requestedSequence request < 2 ^ 63)
    (hcovers : ∀ first, earliest rows = some first → first ≤ requestedSequence request + 1)
    (hknown : requestedSequence request ≤ latest rows) (row : EventRow)
    (hrow : row ∈ page EventRow.sequence request.limit (requestedSequence request) rows)
    (hjson : codec.fromJson row.eventJson = none) :
    Answers codec generation request rows (.error .invalidPersistedEvent)
  | events (hs : requestedSequence request < 2 ^ 63)
    (hcovers : ∀ first, earliest rows = some first → first ≤ requestedSequence request + 1)
    (hknown : requestedSequence request ≤ latest rows) (events : List (EventEnvelope Payload))
    (hevents : List.Forall₂ (Delivers codec request.apiVersion)
      (page EventRow.sequence request.limit (requestedSequence request) rows) events) :
    Answers codec generation request rows
      (.ok ⟨request.apiVersion, .events events
        ⟨generation, lastNumber EventRow.sequence (requestedSequence request)
          (page EventRow.sequence request.limit (requestedSequence request) rows)⟩
        (request.limit < (after EventRow.sequence (requestedSequence request) rows).length)⟩)

section Replay

variable {table : EventTable} {s limit : Nat}

theorem replayEvents_unrepresentable (hs : 2 ^ 63 ≤ s) :
    table.replayEvents generation s limit = .error .invalidSequence := by
  unfold EventTable.replayEvents toSqlInteger
  rw [if_neg (Nat.not_lt.mpr hs)]
  rfl

theorem replayEvents_ok (hs : s < 2 ^ 63) (hlimit : limit ≤ maxReplayEvents) {stored : List StoredEvent}
    (hstored : (page EventRow.sequence (limit + 1) s (table.ofInstance generation)).mapM EventRow.toStored =
      .ok stored) :
    table.replayEvents generation s limit = .ok
      { events := stored.take limit
        earliestSequence := earliest (table.ofInstance generation)
        latestSequence := ((table.ofInstance generation).map EventRow.sequence).max?
        hasMore := stored.length > limit } := by
  have hfetch : limit + 1 < 2 ^ 63 := by
    unfold maxReplayEvents at hlimit
    omega
  unfold EventTable.replayEvents
  rw [toSqlInteger_ok.mpr ⟨hs, rfl⟩, toSqlInteger_ok.mpr ⟨hfetch, rfl⟩]
  show Except.bind (List.mapM EventRow.toStored _) _ = _
  rw [hstored]
  rfl

end Replay

/-- A legal request is answered from the window that the store replays. -/
theorem subscribe_legal (hlegal : Legal generation request) :
    (h.service generation).subscribe codec request = (do
      let window ← (h.store.replayEvents generation (requestedSequence request) request.limit).mapError .storage
      match window.earliestSequence.filter fun first => requestedSequence request < first - 1 with
      | some first => pure ⟨request.apiVersion, .cursorGap ⟨generation, requestedSequence request⟩ ⟨generation, first⟩⟩
      | none =>
        if requestedSequence request > window.latestSequence.getD 0 then
          pure ⟨request.apiVersion, .cursorUnavailable ⟨generation, requestedSequence request⟩
            ⟨generation, window.latestSequence.getD 0⟩⟩
        else do
          let events ← window.events.mapM (EventService.toEnvelope codec request.apiVersion)
          pure ⟨request.apiVersion, .events events
            ⟨generation, (events.getLast?.map (·.sequence)).getD (requestedSequence request)⟩ window.hasMore⟩) := by
  have hlimit : ¬(request.limit = 0 ∨ request.limit > maxReplayEvents) := by
    have := hlegal.limit_pos
    have := hlegal.limit_le
    omega
  have hgeneration : request.after.elim generation (·.serviceInstanceId) = generation := by
    cases hafter : request.after with
    | none => rfl
    | some cursor => exact hlegal.generation cursor hafter
  unfold EventService.subscribe
  rw [if_neg (not_not.mpr hlegal.version), if_neg hlimit]
  show (if request.after.elim generation (·.serviceInstanceId) ≠ generation then _ else _) = _
  rw [if_neg (not_not.mpr hgeneration)]
  rfl

/-- The page of a window and whether more follows, from the rows it was read from. -/
theorem window_page {rows : List EventRow} {s limit : Nat} {stored : List StoredEvent}
    (hstored : (page EventRow.sequence (limit + 1) s rows).mapM EventRow.toStored = .ok stored) :
    List.Forall₂ (fun row st => row.toStored = .ok st) (page EventRow.sequence limit s rows) (stored.take limit) ∧
      (stored.length > limit ↔ limit < (after EventRow.sequence s rows).length) := by
  have hall := mapM_ok.mp hstored
  have hlength := hall.length_eq
  unfold page at *
  rw [List.length_take] at hlength
  have htake := List.forall₂_take limit hall
  rw [List.take_take, Nat.min_eq_left (Nat.le_succ limit)] at htake
  exact ⟨htake, by omega⟩

theorem lastNumber_delivers {version s : Nat} {rows : List EventRow} {events : List (EventEnvelope Payload)}
    (h : List.Forall₂ (Delivers codec version) rows events) :
    (events.getLast?.map (·.sequence)).getD s = lastNumber EventRow.sequence s rows := by
  have hmap : events.map (·.sequence) = rows.map EventRow.sequence := by
    induction h with
    | nil => rfl
    | cons hd _ ih => rw [List.map_cons, List.map_cons, hd.sequence, ih]
  rw [lastNumber, ← List.getLast?_map, ← List.getLast?_map, hmap]

theorem toEnvelope_error {version : Nat} {row : EventRow} {stored : StoredEvent} {e : EventProcessorError}
    (hrow : row.toStored = .ok stored) (he : EventService.toEnvelope codec version stored = .error e) :
    e = .invalidPersistedEvent ∧ codec.fromJson row.eventJson = none := by
  unfold EventService.toEnvelope at he
  rw [(toStored_ok.mp hrow).2.2.2.1] at he
  cases hdecode : codec.fromJson row.eventJson with
  | none =>
    rw [hdecode] at he
    cases he
    exact ⟨rfl, rfl⟩
  | some event =>
    rw [hdecode] at he
    cases he

/-- The page of a request that is neither before nor ahead of the retained rows. -/
theorem answers_page {rows : List EventRow} {stored : List StoredEvent} (hs : requestedSequence request < 2 ^ 63)
    (hcovers : ∀ first, earliest rows = some first → first ≤ requestedSequence request + 1)
    (hknown : requestedSequence request ≤ latest rows)
    (hpage : List.Forall₂ (fun row st => row.toStored = .ok st)
      (page EventRow.sequence request.limit (requestedSequence request) rows) stored) :
    Answers codec generation request rows (do
      let events ← stored.mapM (EventService.toEnvelope codec request.apiVersion)
      pure ⟨request.apiVersion, .events events
        ⟨generation, (events.getLast?.map (·.sequence)).getD (requestedSequence request)⟩
        (request.limit < (after EventRow.sequence (requestedSequence request) rows).length)⟩) := by
  rcases mapM_cases (EventService.toEnvelope codec request.apiVersion) stored with
    ⟨events, hevents⟩ | ⟨st, hst, e, he, hfail⟩
  · have hdelivers : List.Forall₂ (Delivers codec request.apiVersion)
        (page EventRow.sequence request.limit (requestedSequence request) rows) events := by
      refine forall₂_trans ?_ hpage (mapM_ok.mp hevents)
      intro row st envelope hrow henvelope
      exact (toEnvelope_ok hrow).mp henvelope
    have hanswer : Answers codec generation request rows _ := .events hs hcovers hknown events hdelivers
    rw [← lastNumber_delivers hdelivers] at hanswer
    rw [hevents]
    exact hanswer
  · obtain ⟨row, hrow, hrowst⟩ := exists_of_forall₂_mem hpage hst
    obtain ⟨rfl, hjson⟩ := toEnvelope_error hrowst he
    rw [hfail]
    exact .undecodable hs hcovers hknown row hrow hjson

/-- **The answer to a legal request** depends on the retained rows of the generation alone. -/
theorem subscribe_answers (hlegal : Legal generation request)
    (hids : ∀ row ∈ h.retainedBy generation, HasIdentities row) :
    Answers codec generation request (h.retainedBy generation) ((h.service generation).subscribe codec request) := by
  rw [subscribe_legal hlegal]
  by_cases hs : requestedSequence request < 2 ^ 63
  · obtain ⟨stored, hstored⟩ := mapM_toStored
      (page EventRow.sequence (request.limit + 1) (requestedSequence request) (h.retainedBy generation))
      fun row hrow => hids row (mem_after.mp (List.mem_of_mem_take hrow)).1
    obtain ⟨hpage, hmore⟩ := window_page hstored
    rw [replayEvents_ok hs hlegal.limit_le hstored]
    show Answers _ _ _ _ (match (earliest (h.retainedBy generation)).filter _ with | some _ => _ | none => _)
    split
    · rename_i first hgap
      obtain ⟨hfirst, hlt⟩ := Option.filter_eq_some_iff.mp hgap
      exact .gap first hs hfirst (of_decide_eq_true hlt)
    · rename_i hgap
      have hcovers : ∀ first, earliest (h.retainedBy generation) = some first →
          first ≤ requestedSequence request + 1 := by
        intro first hfirst
        have hnot := Option.filter_eq_none_iff.mp hgap first hfirst
        simp only [decide_eq_true_eq] at hnot
        omega
      split
      · rename_i hahead
        exact .unavailable hs hcovers hahead
      · rename_i hknown
        have hanswer : Answers codec generation request (h.retainedBy generation) _ :=
          answers_page hs hcovers (Nat.le_of_not_lt hknown) hpage
        rw [← decide_eq_decide.mpr hmore] at hanswer
        exact hanswer
  · rw [replayEvents_unrepresentable (Nat.le_of_not_lt hs)]
    exact .unrepresentable (Nat.le_of_not_lt hs)

/-! ## The rows of a generation -/

theorem mem_publishedBy {row : EventRow} :
    row ∈ h.publishedBy generation ↔ row ∈ h.published ∧ row.serviceInstanceId = generation.text := by
  simp [publishedBy]

theorem mem_retainedBy {row : EventRow} :
    row ∈ h.retainedBy generation ↔ row ∈ h.store.rows ∧ row.serviceInstanceId = generation.text := by
  simp [retainedBy, EventTable.ofInstance]

theorem earliest_eq_some {rows : List EventRow} {first : Nat} :
    earliest rows = some first ↔ (∃ row ∈ rows, row.sequence = first) ∧ ∀ row ∈ rows, first ≤ row.sequence := by
  simp [earliest, List.min?_eq_some_iff]

theorem le_latest {rows : List EventRow} {row : EventRow} (hrow : row ∈ rows) : row.sequence ≤ latest rows := by
  unfold latest
  cases hmax : (rows.map EventRow.sequence).max? with
  | none => simp [List.max?_eq_none_iff] at hmax; simp [hmax] at hrow
  | some m => exact (List.max?_eq_some_iff.mp hmax).2 _ (List.mem_map_of_mem hrow)

/-- The latest sequence is zero or that of a row. -/
theorem latest_cases (rows : List EventRow) : rows = [] ∧ latest rows = 0 ∨ ∃ row ∈ rows, row.sequence = latest rows := by
  unfold latest
  cases hmax : (rows.map EventRow.sequence).max? with
  | none => exact .inl ⟨by simpa [List.max?_eq_none_iff] using hmax, rfl⟩
  | some m =>
    obtain ⟨row, hrow, hm⟩ := List.mem_map.mp (List.max?_eq_some_iff.mp hmax).1
    exact .inr ⟨row, hrow, hm⟩

theorem exists_earliest {rows : List EventRow} (hne : rows ≠ []) : ∃ first, earliest rows = some first := by
  unfold earliest
  cases hmin : (rows.map EventRow.sequence).min? with
  | none => exact absurd (by simpa [List.min?_eq_none_iff] using hmin) hne
  | some m => exact ⟨m, rfl⟩

theorem retainedBy_numbered (h : EventHistory) (generation : ServiceInstanceId) :
    Numbered EventRow.sequence (h.retainedBy generation) := h.store.numbered.filter _

namespace Valid

variable (hv : Valid h)
include hv

/-- Retention keeps the rows of a generation from some sequence on. -/
theorem retainedBy_eq (generation : ServiceInstanceId) :
    ∃ cut, h.retainedBy generation = retained EventRow.sequence cut (h.publishedBy generation) := by
  obtain ⟨cut, hcut⟩ := hv.kept
  refine ⟨cut, ?_⟩
  rw [publishedBy, ← retained_filter, ← hcut]
  rfl

theorem retainedBy_subset {row : EventRow} (hrow : row ∈ h.retainedBy generation) : row ∈ h.publishedBy generation := by
  obtain ⟨cut, hcut⟩ := hv.retainedBy_eq generation
  rw [hcut] at hrow
  exact (mem_retained.mp hrow).1

theorem retainedBy_identities : ∀ row ∈ h.retainedBy generation, HasIdentities row := fun _ hrow =>
  hv.identities _ (mem_publishedBy.mp (hv.retainedBy_subset hrow)).1

/-- A published row behind a retained one is retained. -/
theorem retainedBy_later {row later : EventRow} (hrow : row ∈ h.retainedBy generation)
    (hlater : later ∈ h.publishedBy generation) (hle : row.sequence ≤ later.sequence) :
    later ∈ h.retainedBy generation := by
  obtain ⟨cut, hcut⟩ := hv.retainedBy_eq generation
  rw [hcut] at hrow ⊢
  exact mem_retained.mpr ⟨hlater, Nat.le_trans (mem_retained.mp hrow).2 hle⟩

/-- No row after a cursor that the retained rows cover has been deleted. -/
theorem after_retainedBy {s : Nat} (hne : h.retainedBy generation ≠ [])
    (hcovers : ∀ first, earliest (h.retainedBy generation) = some first → first ≤ s + 1) :
    after EventRow.sequence s (h.retainedBy generation) = after EventRow.sequence s (h.publishedBy generation) := by
  obtain ⟨first, hfirst⟩ := exists_earliest hne
  obtain ⟨⟨row, hrow, hsequence⟩, -⟩ := earliest_eq_some.mp hfirst
  obtain ⟨cut, hcut⟩ := hv.retainedBy_eq generation
  rw [hcut] at hrow ⊢
  have := (mem_retained.mp hrow).2
  have := hcovers first hfirst
  exact after_retained (by omega)

end Valid

end Slotpilot.Daemon.EventHistory
