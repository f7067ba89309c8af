import Slotpilot.Lib.StateResult

/-!
# Reading a fragmented stream

A stream delivers its bytes in pieces. One read takes what the next piece has, up to the size of its buffer, and no bytes
at the end of the stream; `readExact` reads until its buffer is full. However a stream of bytes is fragmented, a full buffer
holds its first bytes and leaves the rest, and a short stream ends in `unexpectedEof` (`readExact_ends`).
-/

set_option autoImplicit false

namespace Slotpilot.Lib

/-- Failure of a stream. -/
inductive StreamError
  | interrupted
  | unexpectedEof
  | other
  deriving DecidableEq

/-- The pieces and failures that a stream is going to deliver; it ends after them. -/
abbrev ByteStream : Type := List (Except StreamError (List UInt8))

/-- One read into a buffer of `size` bytes. -/
def readSome {ε : Type} (io : StreamError → ε) (size : Nat) : EStateM ε ByteStream (List UInt8)
  | [] => .ok [] []
  | .error error :: later => .error (io error) later
  | .ok piece :: later => .ok (piece.take size) (if piece.length ≤ size then later else .ok (piece.drop size) :: later)

/-- Reads until `size` bytes are there; an interrupted read is made again, and a read of no bytes ends the stream. -/
def readExactly : (size : Nat) → ByteStream → Except StreamError (List UInt8) × ByteStream
  | 0, stream => (.ok [], stream)
  | _ + 1, [] => (.error .unexpectedEof, [])
  | size + 1, .error error :: later =>
    if error = .interrupted then readExactly (size + 1) later else (.error error, later)
  | size + 1, .ok piece :: later =>
    if piece = [] then (.error .unexpectedEof, later)
    else if size + 1 < piece.length then (.ok (piece.take (size + 1)), .ok (piece.drop (size + 1)) :: later)
    else
      ((readExactly (size + 1 - piece.length) later).1.map (piece ++ ·),
        (readExactly (size + 1 - piece.length) later).2)

/-- Fills a buffer of `size` bytes. -/
def readExact {ε : Type} (io : StreamError → ε) (size : Nat) : EStateM ε ByteStream (List UInt8) := fun stream =>
  match readExactly size stream with
  | (.ok bytes, later) => .ok bytes later
  | (.error error, later) => .error (io error) later

/-- The stream delivers these bytes, in some nonempty pieces, and then ends. -/
def Delivers (stream : ByteStream) (bytes : List UInt8) : Prop :=
  ∃ pieces : List (List UInt8), stream = pieces.map .ok ∧ (∀ piece ∈ pieces, piece ≠ []) ∧ pieces.flatten = bytes

section Reads

variable {ε : Type} {io : StreamError → ε} {stream : ByteStream} {bytes : List UInt8} {size : Nat}

theorem Delivers.cons {piece : List UInt8} (hne : piece ≠ []) (h : Delivers stream bytes) :
    Delivers (.ok piece :: stream) (piece ++ bytes) := by
  obtain ⟨pieces, rfl, hpieces, rfl⟩ := h
  exact ⟨piece :: pieces, rfl, List.forall_mem_cons.mpr ⟨hne, hpieces⟩, rfl⟩

/-- A stream that delivers bytes is at its end, or its next piece begins with some of them. -/
theorem Delivers.cases (h : Delivers stream bytes) :
    stream = [] ∧ bytes = [] ∨
      ∃ piece later rest, stream = .ok piece :: later ∧ piece ≠ [] ∧ Delivers later rest ∧ bytes = piece ++ rest := by
  obtain ⟨pieces, rfl, hne, rfl⟩ := h
  cases pieces with
  | nil => exact .inl ⟨rfl, rfl⟩
  | cons piece pieces =>
    obtain ⟨hpiece, hlater⟩ := List.forall_mem_cons.mp hne
    exact .inr ⟨piece, _, pieces.flatten, rfl, hpiece, ⟨pieces, rfl, hlater, rfl⟩, rfl⟩

/-- However the bytes are fragmented, the first ones fill the buffer and the others stay. -/
theorem readExactly_delivers (h : Delivers stream bytes) (hsize : size ≤ bytes.length) :
    (readExactly size stream).1 = .ok (bytes.take size) ∧ Delivers (readExactly size stream).2 (bytes.drop size) := by
  induction stream generalizing size bytes with
  | nil =>
    obtain ⟨-, rfl⟩ | ⟨piece, later, rest, hstream, -⟩ := h.cases
    · obtain rfl : size = 0 := Nat.le_zero.mp hsize
      exact ⟨rfl, h⟩
    · cases hstream
  | cons next later ih =>
    obtain ⟨hstream, -⟩ | ⟨piece, _, rest, hstream, hne, hlater, rfl⟩ := h.cases
    · cases hstream
    cases hstream
    cases size with
    | zero => exact ⟨rfl, h⟩
    | succ size =>
      rw [readExactly, if_neg hne]
      split
      · rename_i hlong
        have hleft : piece.drop (size + 1) ≠ [] := by
          rw [← List.length_pos_iff, List.length_drop]
          omega
        rw [List.take_append_of_le_length (by omega), List.drop_append_of_le_length (by omega)]
        exact ⟨rfl, hlater.cons hleft⟩
      · rename_i hshort
        rw [List.length_append] at hsize
        have hrest : size + 1 - piece.length ≤ rest.length := by omega
        obtain ⟨htaken, hleft⟩ := ih hlater hrest
        rw [List.take_append, List.drop_append, List.take_of_length_le (by omega), List.drop_of_length_le (by omega),
          List.nil_append]
        refine ⟨?_, hleft⟩
        rw [htaken]
        rfl

/-- Too few bytes end the stream before the buffer is full. -/
theorem readExactly_short (h : Delivers stream bytes) (hsize : bytes.length < size) :
    (readExactly size stream).1 = .error .unexpectedEof := by
  induction stream generalizing size bytes with
  | nil =>
    cases size with
    | zero => exact absurd hsize (Nat.not_lt_zero _)
    | succ size => rfl
  | cons next later ih =>
    obtain ⟨hstream, -⟩ | ⟨piece, _, rest, hstream, hne, hlater, rfl⟩ := h.cases
    · cases hstream
    cases hstream
    rw [List.length_append] at hsize
    cases size with
    | zero => exact absurd hsize (Nat.not_lt_zero _)
    | succ size =>
      have hrest : rest.length < size + 1 - piece.length := by omega
      rw [readExactly, if_neg hne, if_neg (by omega), ih hlater hrest]
      rfl

/-- A full buffer has the first bytes of the stream; the stream keeps the others. -/
theorem readExact_ends (h : Delivers stream bytes) (size : Nat) :
    Ends (readExact io size) stream
      (fun taken later => size ≤ bytes.length ∧ taken = bytes.take size ∧ Delivers later (bytes.drop size))
      (fun error _ => bytes.length < size ∧ error = io .unexpectedEof) := by
  unfold Ends readExact
  by_cases hsize : size ≤ bytes.length
  · obtain ⟨htaken, hleft⟩ := readExactly_delivers h hsize
    cases hrun : readExactly size stream with
    | mk result later =>
      rw [hrun] at htaken hleft
      cases htaken
      exact ⟨hsize, rfl, hleft⟩
  · have hshort := readExactly_short h (Nat.lt_of_not_le hsize)
    cases hrun : readExactly size stream with
    | mk result later =>
      rw [hrun] at hshort
      cases hshort
      exact ⟨Nat.lt_of_not_le hsize, rfl⟩

/-- One read has the first bytes of the stream, none only at its end. -/
theorem readSome_ends (h : Delivers stream bytes) (hsize : 0 < size) :
    Ends (readSome io size) stream
      (fun taken later => taken.length ≤ size ∧ (taken = [] → bytes = []) ∧
        ∃ rest, bytes = taken ++ rest ∧ Delivers later rest)
      (fun _ _ => False) := by
  unfold Ends
  obtain ⟨rfl, rfl⟩ | ⟨piece, later, rest, rfl, hne, hlater, rfl⟩ := h.cases
  · exact ⟨Nat.zero_le _, fun _ => rfl, [], rfl, h⟩
  · rw [readSome]
    dsimp only
    have htaken : piece.take size ≠ [] := by
      rw [← List.length_pos_iff, List.length_take, Nat.lt_min]
      exact ⟨hsize, List.length_pos_iff.mpr hne⟩
    refine ⟨List.length_take_le _ _, fun hempty => absurd hempty htaken, piece.drop size ++ rest, ?_, ?_⟩
    · rw [← List.append_assoc, List.take_append_drop]
    · split
      · rename_i hall
        rwa [List.drop_of_length_le hall, List.nil_append]
      · rename_i hmore
        have hleft : piece.drop size ≠ [] := by
          rw [← List.length_pos_iff, List.length_drop]
          omega
        exact hlater.cons hleft

end Reads

end Slotpilot.Lib
