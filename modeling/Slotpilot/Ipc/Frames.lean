import Slotpilot.Lib.ByteStream
import Slotpilot.Lib.LittleEndian

/-!
# Frames of the local transport

A frame is a four-byte big-endian length and one JSON value of at most `maxFrameBytes`. `writeFrame` appends one to a
writer and `readFrame` takes one from a stream: the first byte in one read, the rest of the length in a second and the
payload in a third.

* `writeFrame_ends`: a written frame is the length of its payload and the payload;
* `readFrame_ends`: what a read ends in, by the number of bytes that the stream still delivers;
* `frame_codec`: what was written reads back however the stream is fragmented, and a short or oversized frame fails.
-/

set_option autoImplicit false

namespace Slotpilot.Ipc

open Slotpilot.Lib

/-! ## The transport -/

/-- Maximum JSON payload accepted by the transport. -/
def maxFrameBytes : Nat := 64 * 1024

/-- Stable local-transport failure, with the failure `E` of the JSON library. -/
inductive IpcError (E : Type)
  | io (error : StreamError)
  | frameTooLarge (length maximum : Nat)
  | malformedFrame (error : E)
  | disconnected
  | cancelled

/-- The JSON library on the values of one type. -/
structure SerdeJson (E T : Type) where
  toVec : T → Except E (List UInt8)
  fromSlice : List UInt8 → Except E T

/-- The bytes of a value are read as that value. -/
def SerdeJson.Faithful {E T : Type} (json : SerdeJson E T) : Prop :=
  ∀ value payload, json.toVec value = .ok payload → json.fromSlice payload = .ok value

/-- The bytes that a writer has taken, and how its next calls go: each takes all its bytes, or some and then fails. -/
structure ByteSink where
  written : List UInt8
  calls : List (Option (Nat × StreamError))
  deriving DecidableEq

/-- The four bytes of a length, highest first. -/
def toBeBytes (length : Nat) : List UInt8 := (leBytes 4 length).reverse

/-- The length that some bytes are, highest first. -/
def ofBeBytes (bytes : List UInt8) : Nat := ofLeBytes bytes.reverse

section Functions

variable {E T : Type}

/-- Writes all the bytes; after the listed calls the writer does not fail. -/
def writeAll (bytes : List UInt8) : EStateM (IpcError E) ByteSink Unit := fun writer =>
  match writer.calls with
  | some (taken, error) :: calls => .error (.io error) { written := writer.written ++ bytes.take taken, calls }
  | none :: calls => .ok () { written := writer.written ++ bytes, calls }
  | [] => .ok () { written := writer.written ++ bytes, calls := [] }

/-- Flushes the writer: a call that has no bytes. -/
def flush : EStateM (IpcError E) ByteSink Unit := writeAll []

/-- Fails once cancellation was requested. -/
def check {σ : Type} (isCancelled : Bool) : EStateM (IpcError E) σ Unit :=
  if isCancelled then throw .cancelled else pure ()

/-- Writes one bounded JSON frame; `cancellation` is what its check of the token sees. -/
def writeFrame (json : SerdeJson E T) (value : T) (cancellation : Bool) : EStateM (IpcError E) ByteSink Unit := do
  check cancellation
  let payload ← fromResult ((json.toVec value).mapError .malformedFrame)
  if payload.length > maxFrameBytes then throw (.frameTooLarge payload.length maxFrameBytes)
  else if payload.length ≥ 2 ^ 32 then throw (.frameTooLarge payload.length maxFrameBytes)
  else
    writeAll (toBeBytes payload.length)
    writeAll payload
    flush

/-- The failure of a read that has begun a frame. -/
def readFailed : StreamError → IpcError E
  | .unexpectedEof => .disconnected
  | error => .io error

/-- Reads one bounded JSON frame; `cancellation` is what its checks of the token see, first and before the payload. -/
def readFrame (json : SerdeJson E T) (cancellation : Bool × Bool) : EStateM (IpcError E) ByteStream T := do
  check cancellation.1
  let read ← readSome .io 1
  if read = [] then throw .disconnected
  else
    let remaining ← readExact readFailed 3
    let length := ofBeBytes (read ++ remaining)
    if length > maxFrameBytes then throw (.frameTooLarge length maxFrameBytes)
    else
      check cancellation.2
      let payload ← readExact readFailed length
      fromResult ((json.fromSlice payload).mapError .malformedFrame)

/-- Writes frames one after the other. -/
def writeFrames (json : SerdeJson E T) : List T → EStateM (IpcError E) ByteSink Unit
  | [] => pure ()
  | value :: values => do
    writeFrame json value false
    writeFrames json values

/-- Reads frames one after the other. -/
def readFrames (json : SerdeJson E T) : Nat → EStateM (IpcError E) ByteStream (List T)
  | 0 => pure []
  | count + 1 => do
    let value ← readFrame json (false, false)
    let values ← readFrames json count
    pure (value :: values)

end Functions

/-! ## Lengths -/

theorem length_toBeBytes (length : Nat) : (toBeBytes length).length = 4 := by
  rw [toBeBytes, List.length_reverse, length_leBytes]

theorem ofBeBytes_toBeBytes {length : Nat} (h : length < 2 ^ 32) : ofBeBytes (toBeBytes length) = length := by
  rw [ofBeBytes, toBeBytes, List.reverse_reverse]
  exact ofLeBytes_leBytes h

/-! ## Frames -/

/-- The frame of a payload. -/
def frame (payload : List UInt8) : List UInt8 := toBeBytes payload.length ++ payload

theorem length_frame (payload : List UInt8) : (frame payload).length = 4 + payload.length := by
  rw [frame, List.length_append, length_toBeBytes]

/-- The length that a frame in bounds declares. -/
theorem ofBeBytes_length {payload : List UInt8} (h : payload.length ≤ maxFrameBytes) :
    ofBeBytes (toBeBytes payload.length) = payload.length := by
  unfold maxFrameBytes at h
  exact ofBeBytes_toBeBytes (by omega)

/-- The value has this payload, which is in bounds. -/
def Encodes {E T : Type} (json : SerdeJson E T) (value : T) (payload : List UInt8) : Prop :=
  json.toVec value = .ok payload ∧ payload.length ≤ maxFrameBytes

/-! ## Writing -/

section Writing

variable {E T : Type} {json : SerdeJson E T} {value : T} {payload : List UInt8} {writer : ByteSink}

/-- A writer that does not fail takes all the bytes. -/
theorem writeAll_run (bytes : List UInt8) (hcalls : writer.calls = []) :
    (writeAll bytes : EStateM (IpcError E) ByteSink Unit) writer =
      .ok () { writer with written := writer.written ++ bytes } := by
  obtain ⟨written, calls⟩ := writer
  cases hcalls
  rfl

/-- Whatever the writer does, what it took of bytes that were all written are these bytes. -/
theorem writeAll_ends (bytes : List UInt8) :
    Ends (writeAll bytes : EStateM (IpcError E) ByteSink Unit) writer
      (fun _ later => later.written = writer.written ++ bytes) (fun _ _ => True) := by
  unfold Ends writeAll
  obtain ⟨written, _ | ⟨_ | ⟨taken, error⟩, calls⟩⟩ := writer
  · rfl
  · rfl
  · trivial

/-- A frame that was written is the frame of its payload, and that payload is in bounds. -/
theorem writeFrame_ends (cancellation : Bool) :
    Ends (writeFrame json value cancellation) writer
      (fun _ later => ∃ payload, Encodes json value payload ∧ later.written = writer.written ++ frame payload)
      (fun _ _ => True) := by
  unfold writeFrame check
  rw [ends_bind, ends_ite]
  refine ⟨fun _ => trivial, fun _ => ?_⟩
  rw [ends_pure, ends_bind, ends_fromResult]
  refine ⟨fun payload hpayload => ?_, fun _ _ => trivial⟩
  rw [ends_ite]
  refine ⟨fun _ => trivial, fun hbound => ?_⟩
  rw [ends_ite]
  refine ⟨fun _ => trivial, fun _ => ?_⟩
  rw [ends_bind]
  refine (writeAll_ends _).imp ?_ fun _ _ h => h
  intro _ afterLength hlength
  rw [ends_bind]
  refine (writeAll_ends payload).imp ?_ fun _ _ h => h
  intro _ afterPayload hwritten
  refine (writeAll_ends []).imp ?_ fun _ _ h => h
  intro _ later hflush
  refine ⟨payload, ⟨exceptMapError_ok.mp hpayload, Nat.le_of_not_lt hbound⟩, ?_⟩
  rw [hflush, hwritten, hlength, List.append_nil, List.append_assoc, frame]

/-- A writer that does not fail takes the frame of a payload in bounds. -/
theorem writeFrame_run (h : Encodes json value payload) (hcalls : writer.calls = []) :
    writeFrame json value false writer = .ok () { writer with written := writer.written ++ frame payload } := by
  obtain ⟨hpayload, hbound⟩ := h
  have hword : ¬payload.length ≥ 2 ^ 32 := by
    unfold maxFrameBytes at hbound
    omega
  unfold writeFrame check flush
  simp only [Bool.false_eq_true, if_false, pure_bind, hpayload, Except.mapError, fromResult]
  rw [if_neg (Nat.not_lt.mpr hbound), if_neg hword, bind_ok]
  refine ⟨(), _, writeAll_run _ hcalls, ?_⟩
  rw [bind_ok]
  refine ⟨(), _, writeAll_run payload ?_, ?_⟩
  · exact hcalls
  refine (writeAll_run [] ?_).trans ?_
  · exact hcalls
  · rw [List.append_nil, List.append_assoc, frame]

/-- What was written for some values are the frames of their payloads. -/
theorem writeFrames_ends (values : List T) :
    Ends (writeFrames json values) writer
      (fun _ later => ∃ payloads, List.Forall₂ (Encodes json) values payloads ∧
        later.written = writer.written ++ (payloads.map frame).flatten)
      (fun _ _ => True) := by
  induction values generalizing writer with
  | nil => exact ⟨[], .nil, (List.append_nil _).symm⟩
  | cons value values ih =>
    rw [writeFrames, ends_bind]
    refine (writeFrame_ends false).imp ?_ fun _ _ h => h
    rintro _ next ⟨payload, hpayload, hnext⟩
    refine ih.imp ?_ fun _ _ h => h
    rintro _ later ⟨payloads, hpayloads, hlater⟩
    refine ⟨payload :: payloads, .cons hpayload hpayloads, ?_⟩
    rw [hlater, hnext, List.map_cons, List.flatten_cons, List.append_assoc]

/-- A writer that does not fail takes the frames of payloads in bounds. -/
theorem writeFrames_run {values : List T} {payloads : List (List UInt8)}
    (h : List.Forall₂ (Encodes json) values payloads) (hcalls : writer.calls = []) :
    writeFrames json values writer =
      .ok () { writer with written := writer.written ++ (payloads.map frame).flatten } := by
  induction h generalizing writer with
  | nil => rw [List.map_nil, List.flatten_nil, List.append_nil]; rfl
  | cons hpayload _ ih =>
    rw [writeFrames, bind_ok]
    refine ⟨(), _, writeFrame_run hpayload hcalls, ?_⟩
    refine (ih ?_).trans ?_
    · exact hcalls
    · rw [List.map_cons, List.flatten_cons, List.append_assoc]

end Writing

/-! ## Reading -/

section Reading

variable {E T : Type} (json : SerdeJson E T) {stream : ByteStream}

/-- A stream that ends within the length is disconnected. -/
theorem readFrame_short {bytes : List UInt8} (h : Delivers stream bytes) (hshort : bytes.length < 4) :
    Ends (readFrame json (false, false)) stream (fun _ _ => False) (fun error _ => error = .disconnected) := by
  unfold readFrame check
  simp only [Bool.false_eq_true, if_false, pure_bind]
  rw [ends_bind]
  refine (readSome_ends h Nat.one_pos).imp ?_ fun _ _ hfalse => hfalse.elim
  rintro taken later ⟨-, -, rest, rfl, hlater⟩
  rw [ends_ite]
  refine ⟨fun _ => rfl, fun hne => ?_⟩
  rw [ends_bind]
  refine (readExact_ends hlater 3).imp ?_ ?_
  · rintro read _ ⟨hrest, -⟩
    have hpos := List.length_pos_iff.mpr hne
    rw [List.length_append] at hshort
    omega
  · rintro _ _ ⟨-, rfl⟩
    rfl

/-- What a read ends in once the four bytes `front` of the length are there. -/
theorem readFrame_ends {front body : List UInt8} (h : Delivers stream (front ++ body)) (hfront : front.length = 4) :
    Ends (readFrame json (false, false)) stream
      (fun value later => ofBeBytes front ≤ maxFrameBytes ∧ ofBeBytes front ≤ body.length ∧
        json.fromSlice (body.take (ofBeBytes front)) = .ok value ∧ Delivers later (body.drop (ofBeBytes front)))
      (fun error later =>
        maxFrameBytes < ofBeBytes front ∧ error = .frameTooLarge (ofBeBytes front) maxFrameBytes ∧
            Delivers later body ∨
          ofBeBytes front ≤ maxFrameBytes ∧ body.length < ofBeBytes front ∧ error = .disconnected ∨
          ofBeBytes front ≤ maxFrameBytes ∧ ofBeBytes front ≤ body.length ∧
            ∃ failure, json.fromSlice (body.take (ofBeBytes front)) = .error failure ∧
              error = .malformedFrame failure) := by
  unfold readFrame check
  simp only [Bool.false_eq_true, if_false, pure_bind]
  rw [ends_bind]
  refine (readSome_ends h Nat.one_pos).imp ?_ fun _ _ hfalse => hfalse.elim
  rintro taken later ⟨hone, hempty, rest, hbytes, hlater⟩
  rw [ends_ite]
  constructor
  · intro hnil
    have := congrArg List.length (hempty hnil)
    simp [hfront] at this
  intro hne
  have htaken : taken.length = 1 := by
    have := List.length_pos_iff.mpr hne
    omega
  -- The three other bytes of the length.
  obtain ⟨hfour, hbody⟩ : front = taken ++ rest.take 3 ∧ body = rest.drop 3 := by
    have hsplit : front ++ body = (taken ++ rest.take 3) ++ rest.drop 3 := by
      rw [List.append_assoc, List.take_append_drop, hbytes]
    refine List.append_inj hsplit ?_
    have hlength := congrArg List.length hbytes
    rw [List.length_append, List.length_append, hfront, htaken] at hlength
    rw [List.length_append, List.length_take, hfront, htaken]
    omega
  rw [ends_bind]
  refine (readExact_ends hlater 3).imp ?_ ?_
  · rintro _ afterLength ⟨-, rfl, hafter⟩
    rw [← hfour, ends_ite]
    rw [← hbody] at hafter
    refine ⟨fun hlarge => .inl ⟨hlarge, rfl, hafter⟩, fun hbound => ?_⟩
    have hmaximum := Nat.le_of_not_lt hbound
    rw [ends_bind]
    refine (readExact_ends hafter _).imp ?_ ?_
    · rintro _ afterPayload ⟨hall, rfl, hrest⟩
      rw [ends_fromResult]
      constructor
      · intro value hvalue
        exact ⟨hmaximum, hall, exceptMapError_ok.mp hvalue, hrest⟩
      · intro error herror
        cases hjson : json.fromSlice (body.take (ofBeBytes front)) with
        | ok value =>
          rw [hjson] at herror
          cases herror
        | error failure =>
          rw [hjson] at herror
          cases herror
          exact .inr (.inr ⟨hmaximum, hall, failure, rfl, rfl⟩)
    · rintro _ _ ⟨hshort, rfl⟩
      exact .inr (.inl ⟨hmaximum, hshort, rfl⟩)
  · rintro _ _ ⟨hshort, -⟩
    have hlength := congrArg List.length hbytes
    rw [List.length_append, List.length_append, hfront, htaken] at hlength
    omega

variable {json}

/-- A frame in bounds reads as its value, and exactly its bytes are gone. -/
theorem readFrame_run (hjson : json.Faithful) {value : T} {payload rest : List UInt8}
    (hpayload : Encodes json value payload) (h : Delivers stream (frame payload ++ rest)) :
    ∃ later, readFrame json (false, false) stream = .ok value later ∧ Delivers later rest := by
  obtain ⟨hvec, hbound⟩ := hpayload
  rw [frame, List.append_assoc] at h
  have hends := readFrame_ends json h (length_toBeBytes _)
  rw [ofBeBytes_length hbound, List.take_left, List.drop_left, hjson value payload hvec] at hends
  have hall : payload.length ≤ (payload ++ rest).length := by
    rw [List.length_append]
    exact Nat.le_add_right _ _
  cases hrun : readFrame json (false, false) stream with
  | ok read later =>
    obtain ⟨-, -, hread, hlater⟩ := hends.of_ok hrun
    cases hread
    exact ⟨later, rfl, hlater⟩
  | error error later =>
    obtain ⟨hlarge, -⟩ | ⟨-, hshort, -⟩ | ⟨-, -, failure, hfailed, -⟩ := hends.of_error hrun
    · exact absurd hbound (Nat.not_le.mpr hlarge)
    · exact absurd hall (Nat.not_le.mpr hshort)
    · cases hfailed

/-- Frames in bounds read as their values in order, and exactly their bytes are gone. -/
theorem readFrames_run (hjson : json.Faithful) {values : List T} {payloads : List (List UInt8)} {rest : List UInt8}
    (hpayloads : List.Forall₂ (Encodes json) values payloads)
    (h : Delivers stream ((payloads.map frame).flatten ++ rest)) :
    ∃ later, readFrames json values.length stream = .ok values later ∧ Delivers later rest := by
  induction hpayloads generalizing stream with
  | nil => exact ⟨stream, rfl, h⟩
  | cons hpayload _ ih =>
    rw [List.map_cons, List.flatten_cons, List.append_assoc] at h
    obtain ⟨next, hread, hnext⟩ := readFrame_run hjson hpayload h
    obtain ⟨later, hreads, hlater⟩ := ih hnext
    refine ⟨later, ?_, hlater⟩
    rw [List.length_cons, readFrames, bind_ok]
    refine ⟨_, next, hread, ?_⟩
    rw [bind_ok]
    exact ⟨_, later, hreads, rfl⟩

/-- A stream that ends within a frame is disconnected. -/
theorem readFrame_truncated {payload part : List UInt8} (hbound : payload.length ≤ maxFrameBytes)
    (hpart : part <+: frame payload) (hstrict : part ≠ frame payload) (h : Delivers stream part) :
    ∃ later, readFrame json (false, false) stream = .error .disconnected later := by
  have hless : part.length < 4 + payload.length := by
    rw [← length_frame]
    exact Nat.lt_of_le_of_ne hpart.length_le fun heq => hstrict (hpart.eq_of_length heq)
  rcases Nat.lt_or_ge part.length 4 with hshort | hlong
  · -- Within the length.
    have hends := readFrame_short json h hshort
    cases hrun : readFrame json (false, false) stream with
    | ok value later => exact (hends.of_ok hrun).elim
    | error error later =>
      cases hends.of_error hrun
      exact ⟨later, rfl⟩
  · -- Within the payload.
    have hfront : toBeBytes payload.length <+: part :=
      List.prefix_of_prefix_length_le (List.prefix_append _ _) hpart (by rwa [length_toBeBytes])
    obtain ⟨body, rfl⟩ := hfront
    have hends := readFrame_ends json h (length_toBeBytes _)
    rw [List.length_append, length_toBeBytes] at hless
    rw [ofBeBytes_length hbound] at hends
    cases hrun : readFrame json (false, false) stream with
    | ok value later =>
      obtain ⟨-, hall, -⟩ := hends.of_ok hrun
      omega
    | error error later =>
      obtain ⟨hlarge, -⟩ | ⟨-, -, rfl⟩ | ⟨-, hall, -⟩ := hends.of_error hrun
      · omega
      · exact ⟨later, rfl⟩
      · omega

/-- A declared length above the maximum fails before the payload is read. -/
theorem readFrame_oversized {length : Nat} {rest : List UInt8} (hlarge : maxFrameBytes < length)
    (hword : length < 2 ^ 32) (h : Delivers stream (toBeBytes length ++ rest)) :
    ∃ later, readFrame json (false, false) stream = .error (.frameTooLarge length maxFrameBytes) later ∧
      Delivers later rest := by
  have hends := readFrame_ends json h (length_toBeBytes _)
  rw [ofBeBytes_toBeBytes hword] at hends
  cases hrun : readFrame json (false, false) stream with
  | ok value later =>
    obtain ⟨hbound, -⟩ := hends.of_ok hrun
    omega
  | error error later =>
    obtain ⟨-, rfl, hlater⟩ | ⟨hbound, -⟩ | ⟨hbound, -⟩ := hends.of_error hrun
    · exact ⟨later, rfl, hlater⟩
    · omega
    · omega

end Reading

/-- **The frame codec.** Payloads in bounds are written, and what was written are frames of payloads in bounds. However
a stream of such frames is fragmented, reading returns their values in order and consumes exactly their bytes; a stream
that ends within a frame is disconnected; and a declared length above the maximum fails with the payload unread. -/
theorem frame_codec {E T : Type} (json : SerdeJson E T) (hjson : json.Faithful) :
    (∀ values payloads, List.Forall₂ (Encodes json) values payloads →
      (∀ writer : ByteSink, writer.calls = [] → writeFrames json values writer =
        .ok () { writer with written := writer.written ++ (payloads.map frame).flatten }) ∧
      ∀ stream rest, Delivers stream ((payloads.map frame).flatten ++ rest) →
        ∃ later, readFrames json values.length stream = .ok values later ∧ Delivers later rest) ∧
    (∀ values (writer later : ByteSink), writeFrames json values writer = .ok () later →
      ∃ payloads, List.Forall₂ (Encodes json) values payloads ∧
        later.written = writer.written ++ (payloads.map frame).flatten) ∧
    (∀ payload : List UInt8, payload.length ≤ maxFrameBytes → ∀ part, part <+: frame payload → part ≠ frame payload →
      ∀ stream, Delivers stream part → ∃ later, readFrame json (false, false) stream = .error .disconnected later) ∧
    ∀ length, maxFrameBytes < length → length < 2 ^ 32 →
      ∀ stream rest, Delivers stream (toBeBytes length ++ rest) →
        ∃ later, readFrame json (false, false) stream = .error (.frameTooLarge length maxFrameBytes) later ∧
          Delivers later rest := by
  refine ⟨fun values payloads hpayloads => ⟨fun writer hcalls => ?_, fun stream rest h => ?_⟩, ?_, ?_, ?_⟩
  · exact writeFrames_run hpayloads hcalls
  · exact readFrames_run hjson hpayloads h
  · intro values writer later hrun
    exact (writeFrames_ends values).of_ok hrun
  · intro payload hbound part hpart hstrict stream h
    exact readFrame_truncated hbound hpart hstrict h
  · intro length hlarge hword stream rest h
    exact readFrame_oversized hlarge hword h

/-- The JSON library on truth values. -/
def flagJson : SerdeJson Unit Bool where
  toVec value := .ok (if value then [116, 114, 117, 101] else [102, 97, 108, 115, 101])
  fromSlice bytes :=
    if bytes = [116, 114, 117, 101] then .ok true
    else if bytes = [102, 97, 108, 115, 101] then .ok false
    else .error ()

theorem flagJson_faithful : flagJson.Faithful := by
  intro value payload h
  cases value <;> cases h <;> rfl

/-- Two frames in five pieces, with one byte left. -/
theorem frame_codec_pieces :
    ∃ later, readFrames flagJson 2
        ([[0], [0, 0, 4, 116, 114], [117, 101, 0, 0, 0], [5, 102, 97, 108], [115, 101, 7]].map .ok) =
      .ok [true, false] later ∧ Delivers later [7] := by
  have hpayloads : List.Forall₂ (Encodes flagJson) [true, false] [[116, 114, 117, 101], [102, 97, 108, 115, 101]] :=
    .cons ⟨rfl, by decide⟩ (.cons ⟨rfl, by decide⟩ .nil)
  apply ((frame_codec flagJson flagJson_faithful).1 _ _ hpayloads).2
  exact ⟨_, rfl, by decide, rfl⟩

end Slotpilot.Ipc
