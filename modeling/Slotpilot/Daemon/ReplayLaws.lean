import Slotpilot.Daemon.EventReplay

/-!
# The laws of replay

Over every history: no silent loss, no false gap, issued cursors stay known, and following from the beginning reads the
retained events. `subscribe` compares a cursor with the first and the last sequence among the retained rows of the
generation, while sequences are shared by all generations and survive retention. So each law holds exactly under a
condition on the generation's published and retained rows.
-/

set_option autoImplicit false

namespace Slotpilot.Daemon.EventHistory

open Lib Domain Storage Api

variable {Payload : Type} {codec : EventCodec Payload} {h : EventHistory} {generation : ServiceInstanceId}
  {request : SubscriptionRequest}

/-- What a subscription of a generation gives over the store of a history. -/
def answer (codec : EventCodec Payload) (h : EventHistory) (generation : ServiceInstanceId)
    (request : SubscriptionRequest) : Except EventProcessorError (SubscriptionResponse Payload) :=
  (h.service generation).subscribe codec request

theorem Valid.answers (hv : Valid h) (codec : EventCodec Payload) (hlegal : Legal generation request) :
    Answers codec generation request (h.retainedBy generation) (answer codec h generation request) :=
  subscribe_answers hlegal hv.retainedBy_identities

/-! ## Notices -/

def noticeHead : String := "\x7b\"kind\":\"phase0_notice\",\"message\":\""
def noticeTail : String := "\"\x7d"

def noticeMessage (json : String) : Option String := do
  let body ← json.toList.dropPrefix? noticeHead.toList
  let message ← body.dropSuffix? noticeTail.toList
  pure (String.ofList message)

/-- Notices of at most 512 bytes, encoded as JSON encodes a message without escapes. -/
def noticeCodec : EventCodec String where
  validate message := message.utf8ByteSize ≤ 512
  toJson message := some (noticeHead ++ message ++ noticeTail)
  fromJson := noticeMessage
  jsonValid json := (noticeMessage json).isSome

def firstInstance : ServiceInstanceId := ⟨"svc_01jabcde9", by decide⟩
def secondInstance : ServiceInstanceId := ⟨"svc_01jabcdf0", by decide⟩
def firstNotice : EventId := ⟨"evt_01jabcde9", by decide⟩
def secondNotice : EventId := ⟨"evt_01jabcdf0", by decide⟩

def publishNotice (generation : ServiceInstanceId) (eventId : EventId) : HistoryCall String :=
  .publish generation eventId "notice" 10

def noticeRow (sequence : Nat) (eventId : EventId) (generation : ServiceInstanceId) : EventRow :=
  ⟨sequence, eventId.text, generation.text, noticeHead ++ "notice" ++ noticeTail, 10⟩

def noticeEnvelope (sequence : Nat) (eventId : EventId) (generation : ServiceInstanceId) : EventEnvelope String :=
  ⟨apiVersion, generation, sequence, eventId, 10, "notice"⟩

def noticesAfter (generation : ServiceInstanceId) (sequence limit : Nat) : SubscriptionRequest :=
  ⟨apiVersion, some ⟨generation, sequence⟩, limit⟩

theorem noticesAfter_legal {generation : ServiceInstanceId} {sequence limit : Nat}
    (hlimit : 0 < limit ∧ limit ≤ maxReplayEvents) : Legal generation (noticesAfter generation sequence limit) :=
  ⟨List.mem_cons_self, hlimit.1, hlimit.2, fun cursor hcursor => by cases hcursor; rfl⟩

/-! ## No silent loss -/

/-- An `Events` answer misses no published row after the cursor: none is deleted, and the page, the next cursor and
`hasMore` are those of the published rows. -/
def Lossless (codec : EventCodec Payload) (h : EventHistory) (generation : ServiceInstanceId)
    (request : SubscriptionRequest) : Prop :=
  ∀ version events next hasMore, answer codec h generation request = .ok ⟨version, .events events next hasMore⟩ →
    let rows := after EventRow.sequence (requestedSequence request) (h.publishedBy generation)
    (∀ row ∈ rows, row ∈ h.store.rows) ∧
      List.Forall₂ (Delivers codec request.apiVersion) (rows.take request.limit) events ∧
      next = ⟨generation, (events.getLast?.map (·.sequence)).getD (requestedSequence request)⟩ ∧
      (hasMore = true ↔ request.limit < rows.length)

/-- The generation has published, all of it is deleted, and the request begins at zero. -/
def Forgotten (h : EventHistory) (generation : ServiceInstanceId) (request : SubscriptionRequest) : Prop :=
  requestedSequence request = 0 ∧ h.retainedBy generation = [] ∧ h.publishedBy generation ≠ []

theorem lossless_of_not_forgotten (hv : Valid h) (hlegal : Legal generation request)
    (hnot : ¬Forgotten h generation request) : Lossless codec h generation request := by
  intro version events next hasMore hanswer
  have hcases := hv.answers codec hlegal
  rw [hanswer] at hcases
  cases hcases with
  | events hs hcovers hknown _ hevents =>
    have hafter : after EventRow.sequence (requestedSequence request) (h.retainedBy generation) =
        after EventRow.sequence (requestedSequence request) (h.publishedBy generation) := by
      by_cases hne : h.retainedBy generation = []
      · rw [hne] at hknown ⊢
        have hpublished : h.publishedBy generation = [] := by
          by_contra hpublished
          exact hnot ⟨Nat.le_zero.mp hknown, hne, hpublished⟩
        rw [hpublished]
      · exact hv.after_retainedBy hne hcovers
    intro rows
    refine ⟨fun row hrow => ?_, ?_, ?_, ?_⟩
    · have hrow' : row ∈ after EventRow.sequence (requestedSequence request) (h.retainedBy generation) := by
        rw [hafter]
        exact hrow
      exact (mem_retainedBy.mp (mem_after.mp hrow').1).1
    · rw [page, hafter] at hevents
      exact hevents
    · rw [lastNumber_delivers hevents]
    · rw [decide_eq_true_eq, hafter]

theorem not_forgotten_of_lossless (hv : Valid h) (hlegal : Legal generation request)
    (hlossless : Lossless codec h generation request) : ¬Forgotten h generation request := by
  rintro ⟨hzero, hnone, hpublished⟩
  obtain ⟨row, hrow⟩ := List.exists_mem_of_ne_nil _ hpublished
  have hcases := hv.answers codec hlegal
  rw [hnone] at hcases
  generalize hanswer : answer codec h generation request = result at hcases
  cases hcases with
  | unrepresentable hs => omega
  | gap first hs hfirst hgap => cases hfirst
  | unavailable hs hcovers hahead => omega
  | undecodable hs hcovers hknown row hrow => cases List.mem_of_mem_take hrow
  | events hs hcovers hknown events hevents =>
    have hkept := (hlossless _ _ _ _ hanswer).1 row (mem_after.mpr ⟨hrow, ?_⟩)
    · have hretained := mem_retainedBy.mpr ⟨hkept, (mem_publishedBy.mp hrow).2⟩
      rw [hnone] at hretained
      cases hretained
    · have := (hv.bounds (mem_publishedBy.mp hrow).1).1
      omega

/-- **No silent loss**, except to a request from zero when everything that its generation published is deleted. -/
theorem lossless_iff (codec : EventCodec Payload) (calls : List (HistoryCall Payload)) (hlegal : Legal generation request) :
    Lossless codec (final (step codec) initial calls) generation request ↔
      ¬Forgotten (final (step codec) initial calls) generation request :=
  ⟨not_forgotten_of_lossless (history_valid codec calls) hlegal,
    lossless_of_not_forgotten (history_valid codec calls) hlegal⟩

/-- A page of one notice out of two. -/
theorem lossless_iff_page :
    Lossless noticeCodec
      (final (step noticeCodec) initial
        [publishNotice firstInstance firstNotice, publishNotice firstInstance secondNotice])
      firstInstance (noticesAfter firstInstance 0 1) := by
  refine (lossless_iff noticeCodec _ (noticesAfter_legal (by decide))).mpr fun hforgotten => ?_
  exact absurd hforgotten.2.1 (by decide)

/-- The only notice is deleted, and replay from zero is empty. -/
theorem lossless_fails :
    ¬∀ (calls : List (HistoryCall String)) (generation : ServiceInstanceId) (request : SubscriptionRequest),
      Legal generation request → Lossless noticeCodec (final (step noticeCodec) initial calls) generation request := by
  intro hall
  have hlossless := hall [publishNotice firstInstance firstNotice, .prune firstInstance 2] firstInstance
    (noticesAfter firstInstance 0 10) (noticesAfter_legal (by decide))
  have hanswer : answer noticeCodec
      (final (step noticeCodec) initial [publishNotice firstInstance firstNotice, .prune firstInstance 2])
      firstInstance (noticesAfter firstInstance 0 10) =
        .ok ⟨apiVersion, .events [] ⟨firstInstance, 0⟩ false⟩ := by decide
  have hkept := (hlossless _ _ _ _ hanswer).1 (noticeRow 1 firstNotice firstInstance) (by decide)
  exact absurd hkept (by decide)

/-! ## No false gap -/

/-- A gap answer means that a row of the generation after the cursor has been deleted. -/
def GapMeansLoss (codec : EventCodec Payload) (h : EventHistory) (generation : ServiceInstanceId)
    (request : SubscriptionRequest) : Prop :=
  ∀ version requested first, answer codec h generation request = .ok ⟨version, .cursorGap requested first⟩ →
    ∃ row ∈ h.publishedBy generation, requestedSequence request < row.sequence ∧ row ∉ h.store.rows

/-- Only other generations published between the cursor and the first retained row, which is not the next one. -/
def OthersBetween (h : EventHistory) (generation : ServiceInstanceId) (request : SubscriptionRequest) : Prop :=
  ∃ first, earliest (h.retainedBy generation) = some first ∧ requestedSequence request + 1 < first ∧
    ∀ row ∈ h.published, requestedSequence request < row.sequence → row.sequence < first →
      row.serviceInstanceId ≠ generation.text

theorem gapMeansLoss_of_not (hv : Valid h) (hlegal : Legal generation request)
    (hnot : ¬OthersBetween h generation request) : GapMeansLoss codec h generation request := by
  intro version requested first' hanswer
  have hcases := hv.answers codec hlegal
  rw [hanswer] at hcases
  cases hcases with
  | gap first hs hfirst hgap =>
    by_contra hno
    refine hnot ⟨first, hfirst, by omega, fun row hrow hlt hbefore hsame => hno ?_⟩
    refine ⟨row, mem_publishedBy.mpr ⟨hrow, hsame⟩, hlt, fun hkept => ?_⟩
    -- the first retained row is not after this one
    have := (earliest_eq_some.mp hfirst).2 row (mem_retainedBy.mpr ⟨hkept, hsame⟩)
    omega

theorem not_of_gapMeansLoss (hv : Valid h) (hlegal : Legal generation request)
    (hloss : GapMeansLoss codec h generation request) : ¬OthersBetween h generation request := by
  rintro ⟨first, hfirst, hlt, hothers⟩
  obtain ⟨⟨firstRow, hfirstRow, hsequence⟩, hleast⟩ := earliest_eq_some.mp hfirst
  have hbound := (hv.bounds (mem_publishedBy.mp (hv.retainedBy_subset hfirstRow)).1).2
  have hfits := h.store.fits
  have hcases := hv.answers codec hlegal
  generalize hanswer : answer codec h generation request = result at hcases
  have hnot (hcovers : ∀ f, earliest (h.retainedBy generation) = some f → f ≤ requestedSequence request + 1) :
      False := by
    have := hcovers first hfirst
    omega
  cases hcases with
  | unrepresentable hs => omega
  | gap first' hs hfirst' hgap =>
    obtain ⟨row, hrow, hafter, hdeleted⟩ := hloss _ _ _ hanswer
    obtain ⟨hpublished, hsame⟩ := mem_publishedBy.mp hrow
    refine hothers row hpublished hafter ?_ hsame
    by_contra hbehind
    have hkept := hv.retainedBy_later hfirstRow hrow (by omega)
    exact hdeleted (mem_retainedBy.mp hkept).1
  | unavailable hs hcovers hahead => exact hnot hcovers
  | undecodable hs hcovers => exact hnot hcovers
  | events hs hcovers => exact hnot hcovers

/-- **No false gap**, unless only other generations published between the cursor and the first retained row. -/
theorem gapMeansLoss_iff (codec : EventCodec Payload) (calls : List (HistoryCall Payload))
    (hlegal : Legal generation request) :
    GapMeansLoss codec (final (step codec) initial calls) generation request ↔
      ¬OthersBetween (final (step codec) initial calls) generation request :=
  ⟨not_of_gapMeansLoss (history_valid codec calls) hlegal, gapMeansLoss_of_not (history_valid codec calls) hlegal⟩

/-- A gap after the deletion of the first of two notices. -/
theorem gapMeansLoss_iff_pruned :
    GapMeansLoss noticeCodec
      (final (step noticeCodec) initial
        [publishNotice firstInstance firstNotice, publishNotice firstInstance secondNotice, .prune firstInstance 2])
      firstInstance (noticesAfter firstInstance 0 10) := by
  refine (gapMeansLoss_iff noticeCodec _ (noticesAfter_legal (by decide))).mpr ?_
  rintro ⟨first, hfirst, hlt, hothers⟩
  have hsecond : first = 2 := (Option.some.inj (hfirst.symm.trans (by decide : _ = some 2)))
  subst hsecond
  exact hothers (noticeRow 1 firstNotice firstInstance) (by decide) (by decide) (by decide) rfl

/-- The first notice of the second generation has sequence 2, and its replay from zero is a gap. -/
theorem gapMeansLoss_fails :
    ¬∀ (calls : List (HistoryCall String)) (generation : ServiceInstanceId) (request : SubscriptionRequest),
      Legal generation request →
        GapMeansLoss noticeCodec (final (step noticeCodec) initial calls) generation request := by
  intro hall
  have hmeans := hall [publishNotice firstInstance firstNotice, publishNotice secondInstance secondNotice] secondInstance
    (noticesAfter secondInstance 0 10) (noticesAfter_legal (by decide))
  have hanswer : answer noticeCodec
      (final (step noticeCodec) initial
        [publishNotice firstInstance firstNotice, publishNotice secondInstance secondNotice])
      secondInstance (noticesAfter secondInstance 0 10) =
        .ok ⟨apiVersion, .cursorGap ⟨secondInstance, 0⟩ ⟨secondInstance, 2⟩⟩ := by decide
  obtain ⟨row, hrow, -, hdeleted⟩ := hmeans _ _ _ hanswer
  have honly : publishedBy
      (final (step noticeCodec) initial
        [publishNotice firstInstance firstNotice, publishNotice secondInstance secondNotice])
      secondInstance = [noticeRow 2 secondNotice secondInstance] := by decide
  rw [honly, List.mem_singleton] at hrow
  rw [hrow] at hdeleted
  exact hdeleted (by decide)

/-! ## Issued cursors -/

/-- A history has issued a sequence to a generation: as that of an event it published, or as the next cursor of a page
read at some point. -/
def Issued (codec : EventCodec Payload) (calls : List (HistoryCall Payload)) (generation : ServiceInstanceId)
    (sequence : Nat) : Prop :=
  (∃ entry ∈ transcript (step codec) initial calls, ∃ envelope, entry.2 = .published (.ok envelope) ∧
      envelope.serviceInstanceId = generation ∧ envelope.sequence = sequence) ∨
    ∃ before later, calls = before ++ later ∧ ∃ request version events hasMore,
      answer codec (final (step codec) initial before) generation request =
        .ok ⟨version, .events events ⟨generation, sequence⟩ hasMore⟩

/-- The sequence is zero or not above that of a row the generation published. -/
def Reached (h : EventHistory) (generation : ServiceInstanceId) (sequence : Nat) : Prop :=
  sequence = 0 ∨ ∃ row ∈ h.publishedBy generation, sequence ≤ row.sequence

/-- Only a legal request is answered with events. -/
theorem legal_of_events {version : Nat} {events : List (EventEnvelope Payload)} {next : EventCursor} {hasMore : Bool}
    (hanswer : answer codec h generation request = .ok ⟨version, .events events next hasMore⟩) :
    Legal generation request := by
  unfold answer EventService.subscribe at hanswer
  simp only at hanswer
  split at hanswer
  · cases hanswer
  · rename_i hversion
    split at hanswer
    · cases hanswer
    · rename_i hlimit
      split at hanswer
      · cases hanswer
      · rename_i hgeneration
        refine ⟨not_not.mp hversion, by omega, by omega, fun cursor hcursor => ?_⟩
        rw [hcursor] at hgeneration
        exact not_not.mp hgeneration

theorem reached_of_events (hv : Valid h) {version sequence : Nat} {events : List (EventEnvelope Payload)}
    {hasMore : Bool}
    (hanswer : answer codec h generation request = .ok ⟨version, .events events ⟨generation, sequence⟩ hasMore⟩) :
    Reached h generation sequence := by
  have hcases := hv.answers codec (legal_of_events hanswer)
  rw [hanswer] at hcases
  cases hcases with
  | events hs hcovers hknown _ hevents =>
    rcases lastNumber_cases EventRow.sequence (requestedSequence request)
        (page EventRow.sequence request.limit (requestedSequence request) (h.retainedBy generation)) with
      hlast | ⟨row, hrow, hlast⟩
    · -- an empty page returns the requested sequence, which is not ahead of the retained rows
      rw [hlast]
      rcases latest_cases (h.retainedBy generation) with ⟨-, hzero⟩ | ⟨row, hrow, hlatest⟩
      · exact .inl (by omega)
      · exact .inr ⟨row, hv.retainedBy_subset hrow, by omega⟩
    · rw [hlast]
      exact .inr ⟨row, hv.retainedBy_subset (mem_after.mp (List.mem_of_mem_take hrow)).1, Nat.le_refl _⟩

theorem publishedBy_step (call : HistoryCall Payload) {row : EventRow} (hrow : row ∈ h.publishedBy generation) :
    row ∈ (h.step codec call).2.publishedBy generation := by
  obtain ⟨hpublished, hsame⟩ := mem_publishedBy.mp hrow
  refine mem_publishedBy.mpr ⟨?_, hsame⟩
  cases call with
  | publish g eventId payload occurred =>
    simp only [step, publish]
    split
    · exact List.mem_append_left _ hpublished
    · exact hpublished
  | prune g sequence =>
    simp only [step, prune]
    split <;> exact hpublished

/-- A reached sequence stays reached. -/
theorem Reached.final {sequence : Nat} (hr : Reached h generation sequence) (calls : List (HistoryCall Payload)) :
    Reached (Lib.final (step codec) h calls) generation sequence := by
  refine final_inv_all (I := fun h => Reached h generation sequence) (fun h call hr => ?_) hr calls
  exact hr.imp id fun ⟨row, hrow, hle⟩ => ⟨row, publishedBy_step call hrow, hle⟩

theorem reached_of_published {call : HistoryCall Payload} {envelope : EventEnvelope Payload}
    (hanswer : (h.step codec call).1 = .published (.ok envelope)) :
    Reached (h.step codec call).2 envelope.serviceInstanceId envelope.sequence := by
  cases call with
  | publish g eventId payload occurred =>
    simp only [step, publish] at hanswer ⊢
    split at hanswer
    · cases hanswer
      exact .inr ⟨rowOf codec envelope, mem_publishedBy.mpr ⟨by simp, rfl⟩, Nat.le_refl _⟩
    · cases hanswer
  | prune g sequence =>
    simp only [step, prune] at hanswer
    split at hanswer <;> cases hanswer

theorem reached_of_transcript (calls : List (HistoryCall Payload)) {entry : HistoryCall Payload × HistoryAnswer Payload}
    {envelope : EventEnvelope Payload} (hentry : entry ∈ transcript (step codec) h calls)
    (hanswer : entry.2 = .published (.ok envelope)) :
    Reached (Lib.final (step codec) h calls) envelope.serviceInstanceId envelope.sequence := by
  induction calls generalizing h with
  | nil => cases hentry
  | cons call calls ih =>
    rw [transcript_cons, List.mem_cons] at hentry
    rcases hentry with rfl | hentry
    · exact (reached_of_published hanswer).final calls
    · exact ih hentry

theorem reached_of_issued {calls : List (HistoryCall Payload)} {sequence : Nat}
    (hissued : Issued codec calls generation sequence) :
    Reached (Lib.final (step codec) initial calls) generation sequence := by
  rcases hissued with ⟨entry, hentry, envelope, hanswer, rfl, rfl⟩ | ⟨before, later, rfl, request, _, _, _, hanswer⟩
  · exact reached_of_transcript calls hentry hanswer
  · rw [final_append]
    exact (reached_of_events (history_valid codec before) hanswer).final later

/-- The answer is that the cursor is ahead of committed history. -/
def AnsweredUnavailable (codec : EventCodec Payload) (h : EventHistory) (generation : ServiceInstanceId)
    (request : SubscriptionRequest) : Prop :=
  ∃ version requested latest, answer codec h generation request = .ok ⟨version, .cursorUnavailable requested latest⟩

theorem unavailable_of_reached (hv : Valid h) (hlegal : Legal generation request)
    (hreached : Reached h generation (requestedSequence request)) (hzero : requestedSequence request ≠ 0)
    (hnone : h.retainedBy generation = []) : AnsweredUnavailable codec h generation request := by
  obtain ⟨row, hrow, hle⟩ := hreached.resolve_left hzero
  have hbound := (hv.bounds (mem_publishedBy.mp hrow).1).2
  have hfits := h.store.fits
  have hcases := hv.answers codec hlegal
  rw [hnone] at hcases
  unfold AnsweredUnavailable
  generalize answer codec h generation request = result at hcases
  have hlatest : latest [] = 0 := rfl
  cases hcases with
  | unrepresentable hs => omega
  | gap first hs hfirst hgap => cases hfirst
  | unavailable hs hcovers hahead => exact ⟨_, _, _, rfl⟩
  | undecodable hs hcovers hknown => omega
  | events hs hcovers hknown => omega

theorem not_unavailable_of_reached (hv : Valid h) (hlegal : Legal generation request)
    (hreached : Reached h generation (requestedSequence request))
    (hsome : requestedSequence request = 0 ∨ h.retainedBy generation ≠ []) :
    ¬AnsweredUnavailable codec h generation request := by
  rintro ⟨version, requested, ahead, hanswer⟩
  have hcases := hv.answers codec hlegal
  rw [hanswer] at hcases
  cases hcases with
  | unavailable hs hcovers hahead =>
    have hne := hsome.resolve_left (by omega)
    obtain ⟨row, hrow, hle⟩ := hreached.resolve_left (by omega)
    obtain ⟨kept, hkept⟩ := List.exists_mem_of_ne_nil _ hne
    have hkeptLatest := le_latest hkept
    have hlater := hv.retainedBy_later hkept hrow
    by_cases hbefore : kept.sequence ≤ row.sequence
    · have := le_latest (hlater hbefore)
      omega
    · omega

/-- **Issued cursors stay known** exactly while they are zero or their generation has a retained row. -/
theorem issued_known_iff (codec : EventCodec Payload) (calls : List (HistoryCall Payload))
    (hlegal : Legal generation request) (hissued : Issued codec calls generation (requestedSequence request)) :
    ¬AnsweredUnavailable codec (Lib.final (step codec) initial calls) generation request ↔
      requestedSequence request = 0 ∨ (Lib.final (step codec) initial calls).retainedBy generation ≠ [] := by
  have hv := history_valid codec calls
  have hreached := reached_of_issued hissued
  constructor
  · intro hknown
    by_contra hno
    obtain ⟨hzero, hnone⟩ := not_or.mp hno
    exact hknown (unavailable_of_reached hv hlegal hreached hzero (not_not.mp hnone))
  · exact not_unavailable_of_reached hv hlegal hreached

/-- Two notices are published and the first one is deleted. -/
def prunedNotices : List (HistoryCall String) :=
  [publishNotice firstInstance firstNotice, publishNotice firstInstance secondNotice, .prune firstInstance 2]

/-- The cursor of the deleted notice. -/
theorem issued_known_iff_pruned :
    ¬AnsweredUnavailable noticeCodec (Lib.final (step noticeCodec) initial prunedNotices) firstInstance
      (noticesAfter firstInstance 1 10) := by
  have hissued : Issued noticeCodec prunedNotices firstInstance 1 :=
    .inl ⟨(publishNotice firstInstance firstNotice, .published (.ok (noticeEnvelope 1 firstNotice firstInstance))),
      by decide, _, rfl, rfl, rfl⟩
  exact (issued_known_iff noticeCodec _ (noticesAfter_legal (by decide)) hissued).mpr (.inr (by decide))

/-- The cursor of a published notice that is deleted. -/
theorem issued_known_fails :
    ¬∀ (calls : List (HistoryCall String)) (generation : ServiceInstanceId) (request : SubscriptionRequest),
      Legal generation request → Issued noticeCodec calls generation (requestedSequence request) →
        ¬AnsweredUnavailable noticeCodec (Lib.final (step noticeCodec) initial calls) generation request := by
  intro hall
  have hissued : Issued noticeCodec [publishNotice firstInstance firstNotice, .prune firstInstance 2] firstInstance 1 :=
    .inl ⟨(publishNotice firstInstance firstNotice, .published (.ok (noticeEnvelope 1 firstNotice firstInstance))),
      by decide, _, rfl, rfl, rfl⟩
  refine hall _ _ (noticesAfter firstInstance 1 10) (noticesAfter_legal (by decide)) hissued ?_
  have hanswer : answer noticeCodec
      (Lib.final (step noticeCodec) initial [publishNotice firstInstance firstNotice, .prune firstInstance 2])
      firstInstance (noticesAfter firstInstance 1 10) =
        .ok ⟨apiVersion, .cursorUnavailable ⟨firstInstance, 1⟩ ⟨firstInstance, 0⟩⟩ := by decide
  exact ⟨_, _, _, hanswer⟩

/-! ## Following from the beginning -/

/-- Subscribes from a cursor and then from each returned one until nothing more follows, at most `fuel` times. -/
def follow (codec : EventCodec Payload) (h : EventHistory) (generation : ServiceInstanceId) (apiVersion limit : Nat) :
    Nat → Option EventCursor → Option (List (EventEnvelope Payload))
  | 0, _ => none
  | fuel + 1, after =>
    match answer codec h generation { apiVersion, after, limit } with
    | .ok ⟨_, .events events next hasMore⟩ =>
      if hasMore then (follow codec h generation apiVersion limit fuel (some next)).map (events ++ ·) else some events
    | _ => none

/-- From some number of requests on, following returns the retained rows of the generation in their order. -/
def FollowsRetained (codec : EventCodec Payload) (h : EventHistory) (generation : ServiceInstanceId)
    (apiVersion limit : Nat) : Prop :=
  ∃ events requests, List.Forall₂ (Delivers codec apiVersion) (h.retainedBy generation) events ∧
    ∀ fuel ≥ requests, follow codec h generation apiVersion limit fuel none = some events

section Follow

variable {apiVersion limit : Nat} {cursor : Option EventCursor}

/-- The page after a cursor that covers the retained rows. -/
theorem answer_covered (hv : Valid h) (hlegal : Legal generation request)
    (hcovers : ∀ first, earliest (h.retainedBy generation) = some first → first ≤ requestedSequence request + 1)
    (hknown : requestedSequence request ≤ latest (h.retainedBy generation))
    (hdecode : ∀ row ∈ h.retainedBy generation, (codec.fromJson row.eventJson).isSome) :
    ∃ events, List.Forall₂ (Delivers codec request.apiVersion)
        (page EventRow.sequence request.limit (requestedSequence request) (h.retainedBy generation)) events ∧
      answer codec h generation request = .ok ⟨request.apiVersion, .events events
        ⟨generation, lastNumber EventRow.sequence (requestedSequence request)
          (page EventRow.sequence request.limit (requestedSequence request) (h.retainedBy generation))⟩
        (request.limit < (after EventRow.sequence (requestedSequence request) (h.retainedBy generation)).length)⟩ := by
  have hbound : requestedSequence request < 2 ^ 63 := by
    have hfits := h.store.fits
    rcases latest_cases (h.retainedBy generation) with ⟨-, hzero⟩ | ⟨row, hrow, hlatest⟩
    · omega
    · have := h.store.assigned row (mem_retainedBy.mp hrow).1
      omega
  have hcases := hv.answers codec hlegal
  generalize answer codec h generation request = result at hcases
  cases hcases with
  | unrepresentable hs => omega
  | gap first hs hfirst hgap =>
    have := hcovers first hfirst
    omega
  | unavailable hs hcovers hahead => omega
  | undecodable hs hcovers hknown row hrow hjson =>
    have hsome := hdecode row (mem_after.mp (List.mem_of_mem_take hrow)).1
    rw [hjson] at hsome
    cases hsome
  | events hs hcovers hknown events hevents => exact ⟨events, hevents, rfl⟩

/-- The next cursor of a page is neither before the requested sequence nor ahead of the retained rows. -/
theorem lastNumber_known (limit : Nat) {rows : List EventRow} {s : Nat} (hknown : s ≤ latest rows) :
    s ≤ lastNumber EventRow.sequence s (page EventRow.sequence limit s rows) ∧
      lastNumber EventRow.sequence s (page EventRow.sequence limit s rows) ≤ latest rows := by
  rcases lastNumber_cases EventRow.sequence s (page EventRow.sequence limit s rows) with
    hlast | ⟨row, hrow, hlast⟩
  · rw [hlast]
    exact ⟨Nat.le_refl _, hknown⟩
  · obtain ⟨hmem, hlt⟩ := mem_after.mp (List.mem_of_mem_take hrow)
    rw [hlast]
    exact ⟨Nat.le_of_lt hlt, le_latest hmem⟩

/-- Following ends with a page after which nothing more follows. -/
theorem follow_page (hv : Valid h) (hdecode : ∀ row ∈ h.retainedBy generation, (codec.fromJson row.eventJson).isSome)
    (hlegal : Legal generation request)
    (hcovers : ∀ first, earliest (h.retainedBy generation) = some first → first ≤ requestedSequence request + 1)
    (hknown : requestedSequence request ≤ latest (h.retainedBy generation))
    (hlast : (after EventRow.sequence (requestedSequence request) (h.retainedBy generation)).length ≤ request.limit) :
    ∃ events, List.Forall₂ (Delivers codec request.apiVersion)
        (after EventRow.sequence (requestedSequence request) (h.retainedBy generation)) events ∧
      ∀ fuel > 0, follow codec h generation request.apiVersion request.limit fuel request.after = some events := by
  obtain ⟨events, hevents, hanswer⟩ := answer_covered hv hlegal hcovers hknown hdecode
  rw [page, List.take_of_length_le hlast] at hevents
  refine ⟨events, hevents, fun fuel hfuel => ?_⟩
  obtain ⟨fuel, rfl⟩ : ∃ k, fuel = k + 1 := ⟨fuel - 1, by omega⟩
  simp only [follow]
  rw [hanswer]
  simp [Nat.not_lt.mpr hlast]

/-- Following from a cursor that covers the retained rows returns the rows after it; the induction is on their number. -/
theorem follow_covered (hv : Valid h) (hdecode : ∀ row ∈ h.retainedBy generation, (codec.fromJson row.eventJson).isSome)
    (remaining : Nat) : ∀ request : SubscriptionRequest, Legal generation request →
      (∀ first, earliest (h.retainedBy generation) = some first → first ≤ requestedSequence request + 1) →
      requestedSequence request ≤ latest (h.retainedBy generation) →
      (after EventRow.sequence (requestedSequence request) (h.retainedBy generation)).length ≤ remaining →
      ∃ events, List.Forall₂ (Delivers codec request.apiVersion)
          (after EventRow.sequence (requestedSequence request) (h.retainedBy generation)) events ∧
        ∀ fuel > remaining, follow codec h generation request.apiVersion request.limit fuel request.after = some events := by
  induction remaining with
  | zero =>
    intro request hlegal hcovers hknown hlength
    exact follow_page hv hdecode hlegal hcovers hknown (Nat.le_trans hlength (Nat.zero_le _))
  | succ remaining ih =>
    intro request hlegal hcovers hknown hlength
    by_cases hmore : request.limit <
        (after EventRow.sequence (requestedSequence request) (h.retainedBy generation)).length
    · obtain ⟨events, hevents, hanswer⟩ := answer_covered hv hlegal hcovers hknown hdecode
      obtain ⟨hforward, hahead⟩ := lastNumber_known request.limit hknown
      have hdrop := after_lastNumber (s := requestedSequence request) (h.retainedBy_numbered generation)
        hlegal.limit_pos
      -- the rows after the next cursor are those behind the page, so there are fewer of them
      have hshorter := congrArg List.length hdrop
      rw [List.length_drop] at hshorter
      obtain ⟨later, hlater, hfollow⟩ := ih
        { request with after := some ⟨generation, lastNumber EventRow.sequence (requestedSequence request)
            (page EventRow.sequence request.limit (requestedSequence request) (h.retainedBy generation))⟩ }
        { hlegal with generation := fun cursor hcursor => by cases hcursor; rfl }
        (fun first hfirst => Nat.le_trans (hcovers first hfirst) (Nat.succ_le_succ hforward)) hahead
        (by
          have := hlegal.limit_pos
          show (after _ (lastNumber _ _ _) _).length ≤ _
          omega)
      refine ⟨events ++ later, ?_, fun fuel hfuel => ?_⟩
      · rw [← List.take_append_drop request.limit (after _ _ _), ← hdrop]
        exact List.rel_append hevents hlater
      · obtain ⟨fuel, rfl⟩ : ∃ k, fuel = k + 1 := ⟨fuel - 1, by omega⟩
        simp only [follow]
        rw [hanswer]
        simp only [hmore, decide_true, if_true]
        rw [hfollow fuel (by omega)]
        rfl
    · obtain ⟨events, hevents, hfollow⟩ := follow_page hv hdecode hlegal hcovers hknown (Nat.le_of_not_lt hmore)
      exact ⟨events, hevents, fun fuel hfuel => hfollow fuel (Nat.zero_lt_of_lt hfuel)⟩

/-- Without a cursor a legal page size makes a legal request. -/
theorem legal_start (generation : ServiceInstanceId) (hversion : apiVersion ∈ supportedApiVersions) (hlimit : 0 < limit ∧ limit ≤ maxReplayEvents) :
    Legal generation { apiVersion, after := none, limit } :=
  ⟨hversion, hlimit.1, hlimit.2, (by simp)⟩

/-- All published sequences are positive, so every retained row is after zero. -/
theorem after_zero (hv : Valid h) : after EventRow.sequence 0 (h.retainedBy generation) = h.retainedBy generation := by
  refine List.filter_eq_self.mpr fun row hrow => decide_eq_true ?_
  exact (hv.bounds (mem_publishedBy.mp (hv.retainedBy_subset hrow)).1).1

theorem followsRetained_of (hv : Valid h) (hversion : apiVersion ∈ supportedApiVersions)
    (hlimit : 0 < limit ∧ limit ≤ maxReplayEvents)
    (hdecode : ∀ row ∈ h.retainedBy generation, (codec.fromJson row.eventJson).isSome)
    (hfirst : ∀ first, earliest (h.retainedBy generation) = some first → first = 1) :
    FollowsRetained codec h generation apiVersion limit := by
  obtain ⟨events, hevents, hfollow⟩ := follow_covered hv hdecode (h.retainedBy generation).length
    { apiVersion, after := none, limit } (legal_start generation hversion hlimit)
    (fun first h1 => Nat.le_of_eq (hfirst first h1)) (Nat.zero_le _) (List.length_filter_le _ _)
  refine ⟨events, (h.retainedBy generation).length + 1, ?_, fun fuel hfuel => hfollow fuel hfuel⟩
  have hall : after EventRow.sequence (requestedSequence { apiVersion, after := none, limit })
      (h.retainedBy generation) = h.retainedBy generation := after_zero hv
  rw [hall] at hevents
  exact hevents

theorem of_followsRetained (hv : Valid h) (hversion : apiVersion ∈ supportedApiVersions)
    (hlimit : 0 < limit ∧ limit ≤ maxReplayEvents) (hfollows : FollowsRetained codec h generation apiVersion limit) :
    (∀ row ∈ h.retainedBy generation, (codec.fromJson row.eventJson).isSome) ∧
      ∀ first, earliest (h.retainedBy generation) = some first → first = 1 := by
  obtain ⟨events, requests, hevents, hfollow⟩ := hfollows
  refine ⟨fun row hrow => ?_, fun first hfirst => ?_⟩
  · obtain ⟨envelope, -, hdelivers⟩ := exists_of_forall₂_mem hevents.flip hrow
    rw [hdelivers.event]
    rfl
  · have hstart := hfollow (requests + 1) (Nat.le_succ requests)
    have hcases := hv.answers codec (legal_start generation hversion hlimit)
    simp only [follow] at hstart
    generalize answer codec h generation { apiVersion, after := none, limit } = result at hcases hstart
    have hpositive : 1 ≤ first := by
      obtain ⟨⟨row, hrow, hsequence⟩, -⟩ := earliest_eq_some.mp hfirst
      rw [← hsequence]
      exact (hv.bounds (mem_publishedBy.mp (hv.retainedBy_subset hrow)).1).1
    cases hcases with
    | events hs hcovers => exact Nat.le_antisymm (hcovers first hfirst) hpositive
    | unrepresentable | gap | unavailable | undecodable => cases hstart

/-- **Following from the beginning** returns the retained rows exactly when they decode and none is retained or the
first one is the first event of the store. -/
theorem followsRetained_iff (codec : EventCodec Payload) (calls : List (HistoryCall Payload))
    (generation : ServiceInstanceId) (hversion : apiVersion ∈ supportedApiVersions)
    (hlimit : 0 < limit ∧ limit ≤ maxReplayEvents) :
    let h := Lib.final (step codec) initial calls
    FollowsRetained codec h generation apiVersion limit ↔
      (∀ row ∈ h.retainedBy generation, (codec.fromJson row.eventJson).isSome) ∧
        ∀ first, earliest (h.retainedBy generation) = some first → first = 1 := by
  intro h
  have hv : Valid h := history_valid codec calls
  exact ⟨of_followsRetained hv hversion hlimit, fun ⟨hdecode, hfirst⟩ =>
    followsRetained_of hv hversion hlimit hdecode hfirst⟩

/-- Two notices in pages of one. -/
theorem followsRetained_iff_pages :
    FollowsRetained noticeCodec
      (Lib.final (step noticeCodec) initial
        [publishNotice firstInstance firstNotice, publishNotice firstInstance secondNotice])
      firstInstance Api.apiVersion 1 := by
  refine (followsRetained_iff noticeCodec _ firstInstance (by decide) (by decide)).mpr ⟨by decide, ?_⟩
  intro first hfirst
  exact Option.some.inj (hfirst.symm.trans (by decide : _ = some 1))

/-- After the first of two notices is deleted, following from the beginning meets a gap. -/
theorem followsRetained_fails :
    ¬∀ (calls : List (HistoryCall String)) (generation : ServiceInstanceId) (limit : Nat),
      0 < limit ∧ limit ≤ maxReplayEvents →
        FollowsRetained noticeCodec (Lib.final (step noticeCodec) initial calls) generation Api.apiVersion limit := by
  intro hall
  obtain ⟨events, requests, -, hfollow⟩ := hall
    [publishNotice firstInstance firstNotice, publishNotice firstInstance secondNotice, .prune firstInstance 2]
    firstInstance 10 (by decide)
  have hanswer : answer noticeCodec
      (Lib.final (step noticeCodec) initial
        [publishNotice firstInstance firstNotice, publishNotice firstInstance secondNotice, .prune firstInstance 2])
      firstInstance ⟨Api.apiVersion, none, 10⟩ =
        .ok ⟨Api.apiVersion, .cursorGap ⟨firstInstance, 0⟩ ⟨firstInstance, 2⟩⟩ := by decide
  have hnone := hfollow (requests + 1) (Nat.le_succ requests)
  simp only [follow] at hnone
  rw [hanswer] at hnone
  cases hnone

end Follow

end Slotpilot.Daemon.EventHistory
