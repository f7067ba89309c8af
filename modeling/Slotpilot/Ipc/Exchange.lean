import Slotpilot.Ipc.Frames

/-!
# Exchanges over the local transport

One connection carries one request and one response. The client writes the frame of the request and reads a response; the
server reads a request, runs its handler and writes the frame of the response. Either side may be cancelled or fail at
any point, and the transport may lose the end of what was written, deliver it in any pieces and fail at any read; it
does not change, reorder or invent bytes (`Carries`).

* `readFrame_carried`: a frame that is read is one that was written, whatever the transport did;
* `exchange_exact`: the handler runs at most once and only on the client's request, the client only receives its answer,
  and without a fault it does.
-/

set_option autoImplicit false

namespace Slotpilot.Ipc

open Slotpilot.Lib

/-! ## Unreliable streams -/

/-- All bytes that a stream can deliver. -/
def received (stream : ByteStream) : List UInt8 :=
  (stream.filterMap fun
    | .ok piece => some piece
    | .error _ => none).flatten

/-- The transport delivers some first part of the bytes that were written, in any pieces and with any failures. -/
def Carries (written : List UInt8) (stream : ByteStream) : Prop := received stream <+: written

@[simp] theorem received_nil : received [] = [] := rfl

@[simp] theorem received_ok (piece : List UInt8) (later : ByteStream) :
    received (.ok piece :: later) = piece ++ received later := rfl

@[simp] theorem received_error (error : StreamError) (later : ByteStream) :
    received (.error error :: later) = received later := rfl

/-- A full buffer has the first bytes of the stream. -/
theorem readExactly_received {size : Nat} {stream later : ByteStream} {bytes : List UInt8}
    (h : readExactly size stream = (.ok bytes, later)) : bytes.length = size ∧ received stream = bytes ++ received later := by
  induction stream generalizing size bytes with
  | nil =>
    cases size with
    | zero =>
      cases h
      exact ⟨rfl, rfl⟩
    | succ size => cases h
  | cons next rest ih =>
    cases size with
    | zero =>
      cases h
      exact ⟨rfl, rfl⟩
    | succ size =>
      cases next with
      | error error =>
        rw [readExactly] at h
        split at h
        · exact ih h
        · cases h
      | ok piece =>
        rw [readExactly] at h
        split at h
        · cases h
        split at h
        · rename_i hlong
          cases h
          refine ⟨by rw [List.length_take]; omega, ?_⟩
          rw [received_ok, received_ok, ← List.append_assoc, List.take_append_drop]
        · rename_i hshort
          cases hrest : readExactly (size + 1 - piece.length) rest with
          | mk result final =>
            rw [hrest] at h
            cases result with
            | error error => cases h
            | ok taken =>
              cases h
              obtain ⟨hlength, hreceived⟩ := ih hrest
              refine ⟨by rw [List.length_append, hlength]; omega, ?_⟩
              rw [received_ok, hreceived, List.append_assoc]

theorem readExact_received {ε : Type} {io : StreamError → ε} {size : Nat} {stream later : ByteStream}
    {bytes : List UInt8} (h : readExact io size stream = .ok bytes later) :
    bytes.length = size ∧ received stream = bytes ++ received later := by
  unfold readExact at h
  cases hrun : readExactly size stream with
  | mk result final =>
    rw [hrun] at h
    cases result with
    | error error => cases h
    | ok taken =>
      cases h
      exact readExactly_received hrun

theorem readSome_received {ε : Type} {io : StreamError → ε} {size : Nat} {stream later : ByteStream}
    {bytes : List UInt8} (h : readSome io size stream = .ok bytes later) :
    bytes.length ≤ size ∧ received stream = bytes ++ received later := by
  unfold readSome at h
  split at h
  · cases h
    exact ⟨Nat.zero_le _, rfl⟩
  · cases h
  · rename_i piece rest
    cases h
    refine ⟨List.length_take_le _ _, ?_⟩
    split
    · rename_i hall
      rw [List.take_of_length_le hall]
      rfl
    · rw [received_ok, received_ok, ← List.append_assoc, List.take_append_drop]

section Reading

variable {E T : Type} {json : SerdeJson E T} {cancellation : Bool × Bool} {stream later : ByteStream} {value : T}

/-- A check passes before cancellation was requested. -/
theorem check_ok {σ : Type} {isCancelled : Bool} {s t : σ} {u : Unit} :
    (check isCancelled : EStateM (IpcError E) σ Unit) s = .ok u t ↔ isCancelled = false ∧ s = t := by
  unfold check
  cases isCancelled with
  | false => simp
  | true => simp

/-- A frame that is read stands first in the stream. -/
theorem readFrame_received (h : readFrame json cancellation stream = .ok value later) :
    ∃ front payload, front.length = 4 ∧ payload.length = ofBeBytes front ∧ payload.length ≤ maxFrameBytes ∧
      json.fromSlice payload = .ok value ∧ received stream = front ++ payload ++ received later := by
  unfold readFrame at h
  obtain ⟨_, first, hfirst, h⟩ := bind_ok.mp h
  obtain ⟨-, rfl⟩ := check_ok.mp hfirst
  obtain ⟨head, afterHead, hhead, h⟩ := bind_ok.mp h
  split at h
  · exact absurd h throw_ok
  rename_i hne
  obtain ⟨rest, afterLength, hrest, h⟩ := bind_ok.mp h
  split at h
  · exact absurd h throw_ok
  rename_i hbound
  obtain ⟨_, checked, hchecked, h⟩ := bind_ok.mp h
  obtain ⟨-, rfl⟩ := check_ok.mp hchecked
  obtain ⟨payload, afterPayload, hpayload, h⟩ := bind_ok.mp h
  obtain ⟨hvalue, rfl⟩ := fromResult_ok.mp h
  obtain ⟨hone, hstream⟩ := readSome_received hhead
  obtain ⟨hthree, hafter⟩ := readExact_received hrest
  obtain ⟨hlength, hbody⟩ := readExact_received hpayload
  have hpos := List.length_pos_iff.mpr hne
  refine ⟨head ++ rest, payload, ?_, hlength, ?_, exceptMapError_ok.mp hvalue, ?_⟩
  · rw [List.length_append]
    omega
  · rw [hlength]
    exact Nat.le_of_not_lt hbound
  · rw [hstream, hafter, hbody]
    simp only [List.append_assoc]

/-- A frame that is read from a transport which carries one frame is that frame. -/
theorem readFrame_carried {payload : List UInt8} (hbound : payload.length ≤ maxFrameBytes)
    (hcarries : Carries (frame payload) stream) (h : readFrame json cancellation stream = .ok value later) :
    json.fromSlice payload = .ok value := by
  obtain ⟨front, body, hfront, hlength, -, hvalue, hreceived⟩ := readFrame_received h
  obtain ⟨rest, hframe⟩ := hcarries
  rw [hreceived, frame, List.append_assoc, List.append_assoc] at hframe
  obtain ⟨rfl, hbody⟩ := List.append_inj hframe (by rw [hfront, length_toBeBytes])
  rw [ofBeBytes_length hbound] at hlength
  obtain ⟨rfl, -⟩ := List.append_inj (hbody.trans (List.append_nil payload).symm) hlength
  exact hvalue

end Reading

/-! ## What a failing writer has written -/

section Writing

variable {E T : Type} {json : SerdeJson E T} {value : T} {payload : List UInt8} {writer : ByteSink}

/-- A writer that fails has written a first part of the bytes. -/
theorem writeAll_written (bytes : List UInt8) :
    Ends (writeAll bytes : EStateM (IpcError E) ByteSink Unit) writer
      (fun _ later => later.written = writer.written ++ bytes)
      (fun _ later => ∃ part, part <+: bytes ∧ later.written = writer.written ++ part) := by
  unfold Ends writeAll
  obtain ⟨written, _ | ⟨_ | ⟨taken, error⟩, calls⟩⟩ := writer
  · rfl
  · rfl
  · exact ⟨bytes.take taken, List.take_prefix _ _, rfl⟩

/-- Nothing was added to what was written, or a first part of the frame of the value. -/
def Wrote (json : SerdeJson E T) (value : T) (before after : List UInt8) : Prop :=
  after = before ∨ ∃ payload part, Encodes json value payload ∧ part <+: frame payload ∧ after = before ++ part

/-- Whatever fails, what was written of a value is a first part of its frame. -/
theorem writeFrame_wrote (cancellation : Bool) :
    Wrote json value writer.written (finalState (writeFrame json value cancellation writer)).written := by
  rw [← ends_final (P := fun later : ByteSink => Wrote json value writer.written later.written)]
  unfold writeFrame check
  rw [ends_bind, ends_ite]
  refine ⟨fun _ => .inl rfl, fun _ => ?_⟩
  rw [ends_pure, ends_bind, ends_fromResult]
  refine ⟨fun payload hpayload => ?_, fun _ _ => .inl rfl⟩
  rw [ends_ite]
  refine ⟨fun _ => .inl rfl, fun hbound => ?_⟩
  rw [ends_ite]
  refine ⟨fun _ => .inl rfl, fun _ => ?_⟩
  have hencodes : Encodes json value payload := ⟨exceptMapError_ok.mp hpayload, Nat.le_of_not_lt hbound⟩
  have hwrote : ∀ part : List UInt8, part <+: frame payload →
      Wrote json value writer.written (writer.written ++ part) := fun part hpart =>
    .inr ⟨payload, part, hencodes, hpart, rfl⟩
  rw [ends_bind]
  refine (writeAll_written _).imp ?_ ?_
  · intro _ afterLength hlength
    rw [ends_bind]
    refine (writeAll_written payload).imp ?_ ?_
    · intro _ afterPayload hwritten
      refine (writeAll_written []).imp ?_ ?_
      · intro _ later hflush
        rw [hflush, hwritten, hlength, List.append_nil, List.append_assoc]
        exact hwrote _ (List.prefix_refl _)
      · rintro _ later ⟨part, hpart, hflush⟩
        rw [hflush, hwritten, hlength, List.prefix_nil.mp hpart, List.append_nil, List.append_assoc]
        exact hwrote _ (List.prefix_refl _)
    · rintro _ later ⟨part, hpart, hwritten⟩
      rw [hwritten, hlength, List.append_assoc]
      exact hwrote _ ((List.prefix_append_right_inj _).mpr hpart)
  · rintro _ later ⟨part, hpart, hwritten⟩
    rw [hwritten]
    exact hwrote _ (hpart.trans (List.prefix_append _ _))

end Writing

/-! ## One connection -/

/-- How the calls of a writer go. -/
abbrev WriterCalls : Type := List (Option (Nat × StreamError))

/-- What the client meets while it makes an exchange. -/
structure ClientSide (E : Type) where
  /-- The token before the connection is made. -/
  beforeConnect : Bool
  connected : Except (IpcError E) Unit
  writing : Bool
  calls : WriterCalls
  reading : Bool × Bool
  returned : ByteStream

/-- What the server meets while it serves a connection. -/
structure ServerSide (E : Type) where
  /-- The token before the connection is accepted. -/
  beforeAccept : Bool
  /-- Whether a peer was accepted and authorized. -/
  authorized : Except (IpcError E) Unit
  /-- The token after that. -/
  afterAccept : Bool
  reading : Bool × Bool
  inbound : ByteStream
  writing : Bool
  calls : WriterCalls

section Exchange

variable {E Request Response σ : Type} (requests : SerdeJson E Request) (responses : SerdeJson E Response)

/-- Connects, sends one bounded value and receives one; with the bytes that were written. -/
def exchange (side : ClientSide E) (request : Request) : Except (IpcError E) Response × List UInt8 :=
  if side.beforeConnect then (.error .cancelled, [])
  else
    match side.connected with
    | .error error => (.error error, [])
    | .ok () =>
      match writeFrame requests request side.writing ⟨[], side.calls⟩ with
      | .error error writer => (.error error, writer.written)
      | .ok () writer =>
        match readFrame responses side.reading side.returned with
        | .error error _ => (.error error, writer.written)
        | .ok response _ => (.ok response, writer.written)

/-- Accepts one bounded request and writes one response; with the bytes that were written and the state that the handler
left. -/
def serveExchange (handler : Request → σ → Response × σ) (side : ServerSide E) (s : σ) :
    Except (IpcError E) Unit × List UInt8 × σ :=
  if side.beforeAccept then (.error .cancelled, [], s)
  else
    match side.authorized with
    | .error error => (.error error, [], s)
    | .ok () =>
      if side.afterAccept then (.error .cancelled, [], s)
      else
        match readFrame requests side.reading side.inbound with
        | .error error _ => (.error error, [], s)
        | .ok request _ =>
          let (response, s) := handler request s
          match writeFrame responses response side.writing ⟨[], side.calls⟩ with
          | .error error writer => (.error error, writer.written, s)
          | .ok () writer => (.ok (), writer.written, s)

/-- The two ends of one connection. -/
structure Connection (E : Type) where
  client : ClientSide E
  server : ServerSide E

/-- Each end is delivered some first part of what the other end has written. -/
def Connection.Carried (connection : Connection E) (handler : Request → σ → Response × σ) (request : Request) (s : σ) :
    Prop :=
  Carries (exchange requests responses connection.client request).2 connection.server.inbound ∧
    Carries (serveExchange requests responses handler connection.server s).2.1 connection.client.returned

/-- Nothing is cancelled and nothing fails. -/
structure Connection.Undisturbed (connection : Connection E) : Prop where
  beforeConnect : connection.client.beforeConnect = false
  connected : connection.client.connected = .ok ()
  sending : connection.client.writing = false ∧ connection.client.calls = []
  receiving : connection.client.reading = (false, false)
  beforeAccept : connection.server.beforeAccept = false
  authorized : connection.server.authorized = .ok ()
  afterAccept : connection.server.afterAccept = false
  reading : connection.server.reading = (false, false)
  writing : connection.server.writing = false ∧ connection.server.calls = []

variable {requests} {responses} {handler : Request → σ → Response × σ} {request : Request} {s : σ}

theorem Carries.extend {part whole : List UInt8} {stream : ByteStream} (h : Carries part stream)
    (hpart : part <+: whole) : Carries whole stream := List.IsPrefix.trans h hpart

/-- Nothing is read from a transport that carries nothing. -/
theorem not_read {E T : Type} {json : SerdeJson E T} {cancellation : Bool × Bool} {stream later : ByteStream} {value : T}
    (hcarries : Carries [] stream) : readFrame json cancellation stream ≠ .ok value later := by
  intro h
  obtain ⟨front, payload, hfront, -, -, -, hreceived⟩ := readFrame_received h
  have hnil := List.prefix_nil.mp hcarries
  rw [hreceived, List.append_assoc] at hnil
  rw [(List.append_eq_nil_iff.mp hnil).1] at hfront
  cases hfront

/-- A client has written a first part of the frame of its request. -/
theorem exchange_wrote (side : ClientSide E) (request : Request) :
    Wrote requests request [] (exchange requests responses side request).2 := by
  have hwrote := @writeFrame_wrote _ _ requests request ⟨[], side.calls⟩ side.writing
  unfold exchange
  split
  · exact .inl rfl
  split
  · exact .inl rfl
  cases hwrite : writeFrame requests request side.writing ⟨[], side.calls⟩ with
  | error error writer =>
    rw [hwrite] at hwrote
    exact hwrote
  | ok _ writer =>
    rw [hwrite] at hwrote
    dsimp only
    cases readFrame responses side.reading side.returned <;> exact hwrote

/-- What is read from a transport which carries what was written of a value is that value. -/
theorem read_wrote {E T : Type} {json : SerdeJson E T} {cancellation : Bool × Bool} {stream later : ByteStream}
    {value read : T} {written : List UInt8} (hjson : json.Faithful) (hwrote : Wrote json value [] written)
    (hcarries : Carries written stream) (h : readFrame json cancellation stream = .ok read later) : read = value := by
  rcases hwrote with rfl | ⟨payload, part, ⟨hvec, hbound⟩, hpart, rfl⟩
  · exact absurd h (not_read hcarries)
  · have hread := readFrame_carried hbound (Carries.extend hcarries hpart) h
    rw [hjson value payload hvec] at hread
    exact (Except.ok.inj hread).symm

/-- A server runs its handler on the request of the client and answers with a first part of the response, or it does
nothing. -/
theorem serveExchange_cases (hrequests : requests.Faithful) (side : ServerSide E) {written : List UInt8}
    (hwrote : Wrote requests request [] written) (hcarries : Carries written side.inbound) :
    ((serveExchange requests responses handler side s).2.1 = [] ∧
      (serveExchange requests responses handler side s).2.2 = s) ∨
    (Wrote responses (handler request s).1 [] (serveExchange requests responses handler side s).2.1 ∧
      (serveExchange requests responses handler side s).2.2 = (handler request s).2) := by
  unfold serveExchange
  split
  · exact .inl ⟨rfl, rfl⟩
  split
  · exact .inl ⟨rfl, rfl⟩
  split
  · exact .inl ⟨rfl, rfl⟩
  cases hread : readFrame requests side.reading side.inbound with
  | error error later => exact .inl ⟨rfl, rfl⟩
  | ok read later =>
    cases read_wrote hrequests hwrote hcarries hread
    have hanswer := @writeFrame_wrote _ _ responses (handler request s).1 ⟨[], side.calls⟩ side.writing
    dsimp only
    cases hwrite : writeFrame responses (handler request s).1 side.writing ⟨[], side.calls⟩ with
    | error error writer =>
      rw [hwrite] at hanswer
      exact .inr ⟨hanswer, rfl⟩
    | ok _ writer =>
      rw [hwrite] at hanswer
      exact .inr ⟨hanswer, rfl⟩

/-- A response that the client receives is the answer to its request. -/
theorem exchange_answered (hrequests : requests.Faithful) (hresponses : responses.Faithful) {connection : Connection E}
    {response : Response} (hcarried : connection.Carried requests responses handler request s)
    (h : (exchange requests responses connection.client request).1 = .ok response) :
    response = (handler request s).1 ∧
      (serveExchange requests responses handler connection.server s).2.2 = (handler request s).2 := by
  obtain ⟨hinbound, hreturned⟩ := hcarried
  obtain ⟨later, hread⟩ : ∃ later, readFrame responses connection.client.reading connection.client.returned =
      .ok response later := by
    unfold exchange at h
    split at h
    · cases h
    split at h
    · cases h
    split at h
    · cases h
    split at h
    · cases h
    · rename_i later hread
      cases h
      exact ⟨later, hread⟩
  rcases serveExchange_cases hrequests connection.server (exchange_wrote _ request) hinbound with
    ⟨hnothing, -⟩ | ⟨hwrote, hstate⟩
  · rw [hnothing] at hreturned
    exact absurd hread (not_read hreturned)
  · exact ⟨read_wrote hresponses hwrote hreturned hread, hstate⟩

/-- An undisturbed client sends the frame of its request. -/
theorem exchange_sends {connection : Connection E} (h : connection.Undisturbed) {payload : List UInt8}
    (hpayload : Encodes requests request payload) :
    (exchange requests responses connection.client request).2 = frame payload ∧
      ∀ response later, readFrame responses (false, false) connection.client.returned = .ok response later →
        (exchange requests responses connection.client request).1 = .ok response := by
  have hwrite : writeFrame requests request false ⟨[], []⟩ = .ok () ⟨[] ++ frame payload, []⟩ :=
    writeFrame_run hpayload rfl
  unfold exchange
  rw [h.beforeConnect, h.connected, h.sending.1, h.sending.2, h.receiving]
  simp only [Bool.false_eq_true, if_false, hwrite, List.nil_append]
  constructor
  · cases readFrame responses (false, false) connection.client.returned <;> rfl
  · intro response later hread
    rw [hread]

/-- An undisturbed server that is delivered a frame runs its handler and answers. -/
theorem serveExchange_answers (hrequests : requests.Faithful) {connection : Connection E} (h : connection.Undisturbed)
    {payload answer : List UInt8} (hpayload : Encodes requests request payload)
    (hanswer : Encodes responses (handler request s).1 answer)
    (hdelivers : Delivers connection.server.inbound (frame payload)) :
    serveExchange requests responses handler connection.server s = (.ok (), frame answer, (handler request s).2) := by
  rw [← List.append_nil (frame payload)] at hdelivers
  obtain ⟨later, hread, -⟩ := readFrame_run hrequests hpayload hdelivers
  have hwrite : writeFrame responses (handler request s).1 false ⟨[], []⟩ = .ok () ⟨[] ++ frame answer, []⟩ :=
    writeFrame_run hanswer rfl
  unfold serveExchange
  rw [h.beforeAccept, h.authorized, h.afterAccept, h.reading, h.writing.1, h.writing.2]
  simp only [Bool.false_eq_true, if_false, hread, hwrite, List.nil_append]

variable (handler)

/-- **An exchange is exact.** On a transport that may stop anywhere, fragment and fail, whatever either side is cancelled
or fails at: the handler has run on the client's request or not at all, and never twice; a response that the client
receives is the handler's answer to its request, and then the handler has run. When nothing is disturbed, both frames are
in bounds and each end is delivered what the other wrote, the client receives that answer. -/
theorem exchange_exact (hrequests : requests.Faithful) (hresponses : responses.Faithful) (connection : Connection E)
    (request : Request) (s : σ) :
    (connection.Carried requests responses handler request s →
      ((serveExchange requests responses handler connection.server s).2.2 = s ∨
        (serveExchange requests responses handler connection.server s).2.2 = (handler request s).2) ∧
      ∀ response, (exchange requests responses connection.client request).1 = .ok response →
        response = (handler request s).1 ∧
          (serveExchange requests responses handler connection.server s).2.2 = (handler request s).2) ∧
    (connection.Undisturbed → ∀ payload answer, Encodes requests request payload →
      Encodes responses (handler request s).1 answer → Delivers connection.server.inbound (frame payload) →
      Delivers connection.client.returned (frame answer) →
      (exchange requests responses connection.client request).1 = .ok (handler request s).1 ∧
        serveExchange requests responses handler connection.server s =
          (.ok (), frame answer, (handler request s).2)) := by
  constructor
  · intro hcarried
    constructor
    · rcases serveExchange_cases hrequests connection.server (exchange_wrote _ request) hcarried.1 with
        ⟨-, hstate⟩ | ⟨-, hstate⟩
      · exact .inl hstate
      · exact .inr hstate
    · intro response h
      exact exchange_answered hrequests hresponses hcarried h
  · intro hundisturbed payload answer hpayload hanswer hinbound hreturned
    have hserved := serveExchange_answers hrequests hundisturbed hpayload hanswer hinbound
    rw [← List.append_nil (frame answer)] at hreturned
    obtain ⟨later, hread, -⟩ := readFrame_run hresponses hanswer hreturned
    exact ⟨(exchange_sends hundisturbed hpayload).2 _ later hread, hserved⟩

end Exchange

/-- A connection whose client is cut off after the server has answered. -/
def cutConnection : Connection Unit where
  client :=
    { beforeConnect := false, connected := .ok (), writing := false, calls := [], reading := (false, false),
      returned := [.ok [0, 0], .error .other] }
  server :=
    { beforeAccept := false, authorized := .ok (), afterAccept := false, reading := (false, false),
      inbound := [.ok [0], .ok [0, 0, 4, 116], .error .interrupted, .ok [114, 117, 101]], writing := false, calls := [] }

/-- A connection that carries both frames in fragments. -/
def wholeConnection : Connection Unit where
  client := { cutConnection.client with returned := [.ok [0], .ok [0, 0, 5, 102], .ok [97, 108, 115, 101]] }
  server := { cutConnection.server with inbound := [.ok [0, 0], .ok [0, 4, 116], .ok [114, 117, 101]] }

/-- A handler that negates its request and counts. -/
def negateFlag (flag : Bool) (count : Nat) : Bool × Nat := (!flag, count + 1)

/-- The handler has run on the request of the client that was cut off, and the other client receives its answer. -/
theorem exchange_exact_cut :
    (serveExchange flagJson flagJson negateFlag cutConnection.server 0).2.2 = 1 ∧
      (exchange flagJson flagJson cutConnection.client true).1.isOk = false ∧
      (serveExchange flagJson flagJson negateFlag wholeConnection.server 1).2.2 = 2 ∧
      (exchange flagJson flagJson wholeConnection.client true).1 = .ok false := by
  have hcut := exchange_exact negateFlag flagJson_faithful flagJson_faithful cutConnection true 0
  have hcarried : cutConnection.Carried flagJson flagJson negateFlag true 0 :=
    ⟨⟨[], rfl⟩, ⟨[0, 5, 102, 97, 108, 115, 101], rfl⟩⟩
  have hran : (serveExchange flagJson flagJson negateFlag cutConnection.server 0).2.2 = 1 :=
    (hcut.1 hcarried).1.resolve_left (by decide)
  have hwhole := exchange_exact negateFlag flagJson_faithful flagJson_faithful wholeConnection true 1
  have hundisturbed : wholeConnection.Undisturbed := ⟨rfl, rfl, ⟨rfl, rfl⟩, rfl, rfl, rfl, rfl, rfl, ⟨rfl, rfl⟩⟩
  obtain ⟨hreceived, hserved⟩ := hwhole.2 hundisturbed [116, 114, 117, 101] [102, 97, 108, 115, 101] ⟨rfl, by decide⟩
    ⟨rfl, by decide⟩ ⟨[[0, 0], [0, 4, 116], [114, 117, 101]], rfl, by decide, rfl⟩
    ⟨[[0], [0, 0, 5, 102], [97, 108, 115, 101]], rfl, by decide, rfl⟩
  exact ⟨hran, rfl, congrArg (fun served => served.2.2) hserved, hreceived⟩

end Slotpilot.Ipc
