import Slotpilot.Lib.LittleEndian

/-!
# Lists of tagged chunks

A chunk is a tag of four bytes, the size of its body in four bytes, the body, and one more byte when the size is odd.
`splitChunk` takes the first chunk off some bytes. It inverts writing (`splitChunk_bytes`) and everything it takes was
written so (`splitChunk_eq_some`), so bytes are written from at most one list of chunks (`chunkBytes_injective`).
-/

set_option autoImplicit false

namespace Slotpilot.Lib

/-- A tagged chunk with the byte that makes it even, if it needs one. -/
@[ext] structure Chunk where
  tag : List UInt8
  body : List UInt8
  padding : List UInt8
  tagged : tag.length = 4
  fits : body.length < 2 ^ 32
  padded : padding.length = body.length % 2
  deriving DecidableEq

/-- The bytes of a chunk. -/
def Chunk.bytes (self : Chunk) : List UInt8 := self.tag ++ leBytes 4 self.body.length ++ self.body ++ self.padding

/-- The bytes of a list of chunks. -/
def chunkBytes (chunks : List Chunk) : List UInt8 := chunks.flatMap Chunk.bytes

/-- Bytes of a chunk whose body has a given size. -/
def chunkSpan (size : Nat) : Nat := 8 + size + size % 2

/-- The size that the first chunk of some bytes declares. -/
def declaredSize (region : List UInt8) : Nat := ofLeBytes ((region.drop 4).take 4)

variable {c d : Chunk} {chunks : List Chunk} {region rest : List UInt8}

@[simp] theorem length_bytes (c : Chunk) : c.bytes.length = chunkSpan c.body.length := by
  simp [Chunk.bytes, chunkSpan, c.tagged, c.padded]
  omega

@[simp] theorem chunkBytes_nil : chunkBytes [] = [] := rfl

@[simp] theorem chunkBytes_cons (c : Chunk) (chunks : List Chunk) :
    chunkBytes (c :: chunks) = c.bytes ++ chunkBytes chunks := rfl

theorem declaredSize_lt (region : List UInt8) : declaredSize region < 2 ^ 32 := by
  have hlt := ofLeBytes_lt ((region.drop 4).take 4)
  have hlen : ((region.drop 4).take 4).length ≤ 4 := List.length_take_le _ _
  have hpow := Nat.pow_le_pow_right (show 0 < 256 by decide) hlen
  unfold declaredSize
  omega

section Split

variable (h : chunkSpan (declaredSize region) ≤ region.length)
include h

theorem span_tag : (region.take 4).length = 4 := by
  unfold chunkSpan at h
  rw [List.length_take]
  omega

theorem span_body : ((region.drop 8).take (declaredSize region)).length = declaredSize region := by
  unfold chunkSpan at h
  rw [List.length_take, List.length_drop]
  omega

theorem span_fits : ((region.drop 8).take (declaredSize region)).length < 2 ^ 32 := by
  rw [span_body h]
  exact declaredSize_lt region

theorem span_padding : ((region.drop (8 + declaredSize region)).take (declaredSize region % 2)).length =
    ((region.drop 8).take (declaredSize region)).length % 2 := by
  rw [span_body h]
  unfold chunkSpan at h
  rw [List.length_take, List.length_drop]
  omega

end Split

/-- The first chunk of some bytes and the bytes after it, unless the bytes end before it does. -/
def splitChunk (region : List UInt8) : Option (Chunk × List UInt8) :=
  if h : chunkSpan (declaredSize region) ≤ region.length then
    some
      ({ tag := region.take 4
         body := (region.drop 8).take (declaredSize region)
         padding := (region.drop (8 + declaredSize region)).take (declaredSize region % 2)
         tagged := span_tag h
         fits := span_fits h
         padded := span_padding h },
       region.drop (chunkSpan (declaredSize region)))
  else none

/-- What is taken off was written as a chunk. -/
theorem splitChunk_eq_some (h : splitChunk region = some (c, rest)) : region = c.bytes ++ rest := by
  unfold splitChunk at h
  split at h
  · rename_i hspan
    cases h
    have hsize : leBytes 4 (declaredSize region) = (region.drop 4).take 4 := by
      have hlen : ((region.drop 4).take 4).length = 4 := by
        unfold chunkSpan at hspan
        rw [List.length_take, List.length_drop]
        omega
      have hread := leBytes_ofLeBytes ((region.drop 4).take 4)
      rwa [hlen] at hread
    have hbody : (region.drop 8).take (declaredSize region) ++ region.drop (8 + declaredSize region) =
        region.drop 8 := by rw [← List.drop_drop, List.take_append_drop]
    have hpadding : (region.drop (8 + declaredSize region)).take (declaredSize region % 2) ++
        region.drop (chunkSpan (declaredSize region)) = region.drop (8 + declaredSize region) := by
      have hdrop : region.drop (chunkSpan (declaredSize region)) =
          (region.drop (8 + declaredSize region)).drop (declaredSize region % 2) := by rw [List.drop_drop, chunkSpan]
      rw [hdrop, List.take_append_drop]
    have htag : region.take 4 ++ ((region.drop 4).take 4 ++ region.drop 8) = region := by
      rw [show (8 : Nat) = 4 + 4 from rfl, ← List.drop_drop, List.take_append_drop, List.take_append_drop]
    simp only [Chunk.bytes, span_body hspan, hsize, List.append_assoc]
    rw [hpadding, hbody, htag]
  · cases h

/-- A region that has room for its first chunk starts with one. -/
theorem exists_chunk (h : chunkSpan (declaredSize region) ≤ region.length) :
    ∃ c : Chunk, region = c.bytes ++ region.drop (chunkSpan (declaredSize region)) ∧ c.tag = region.take 4 ∧
      c.body = (region.drop 8).take (declaredSize region) :=
  ⟨_, splitChunk_eq_some (dif_pos h), rfl, rfl⟩

/-! ## Reading a written chunk -/

theorem take_tag (c : Chunk) (rest : List UInt8) : (c.bytes ++ rest).take 4 = c.tag := by
  rw [Chunk.bytes, List.append_assoc, List.append_assoc, List.append_assoc, List.take_left' c.tagged]

theorem drop_tag (c : Chunk) (rest : List UInt8) :
    (c.bytes ++ rest).drop 4 = leBytes 4 c.body.length ++ (c.body ++ (c.padding ++ rest)) := by
  rw [Chunk.bytes, List.append_assoc, List.append_assoc, List.append_assoc, List.drop_left' c.tagged]

theorem declaredSize_bytes (c : Chunk) (rest : List UInt8) : declaredSize (c.bytes ++ rest) = c.body.length := by
  rw [declaredSize, drop_tag, List.take_left' (length_leBytes _ _), ofLeBytes_leBytes c.fits]

theorem drop_header (c : Chunk) (rest : List UInt8) :
    (c.bytes ++ rest).drop 8 = c.body ++ (c.padding ++ rest) := by
  rw [show (8 : Nat) = 4 + 4 from rfl, ← List.drop_drop, drop_tag, List.drop_left' (length_leBytes _ _)]

/-- A chunk is taken off as it was written. -/
theorem splitChunk_bytes (c : Chunk) (rest : List UInt8) : splitChunk (c.bytes ++ rest) = some (c, rest) := by
  have hsize := declaredSize_bytes c rest
  have hbody : ((c.bytes ++ rest).drop 8).take c.body.length = c.body := by rw [drop_header, List.take_left]
  have hdrop : (c.bytes ++ rest).drop (8 + c.body.length) = c.padding ++ rest := by
    rw [← List.drop_drop, drop_header, List.drop_left]
  have hpadding : ((c.bytes ++ rest).drop (8 + c.body.length)).take (c.body.length % 2) = c.padding := by
    rw [hdrop, List.take_left' c.padded]
  have hrest : (c.bytes ++ rest).drop (chunkSpan c.body.length) = rest := by
    rw [← length_bytes, List.drop_left]
  have hspan : chunkSpan (declaredSize (c.bytes ++ rest)) ≤ (c.bytes ++ rest).length := by
    rw [hsize, List.length_append, length_bytes]
    omega
  unfold splitChunk
  rw [dif_pos hspan, Option.some.injEq, Prod.mk.injEq, Chunk.ext_iff]
  simp only [hsize]
  exact ⟨⟨take_tag c rest, hbody, hpadding⟩, hrest⟩

/-- Bytes are written from at most one list of chunks. -/
theorem chunkBytes_injective : Function.Injective chunkBytes := by
  have hne (c : Chunk) (rest : List UInt8) : c.bytes ++ rest ≠ [] := by
    intro h
    have hlen := congrArg List.length h
    rw [List.length_append, length_bytes, chunkSpan, List.length_nil] at hlen
    omega
  intro a
  induction a with
  | nil =>
    intro b h
    cases b with
    | nil => rfl
    | cons d b => exact absurd h.symm (hne d _)
  | cons c a ih =>
    intro b h
    cases b with
    | nil => exact absurd h (hne c _)
    | cons d b =>
      have hsplit := splitChunk_bytes c (chunkBytes a)
      rw [← chunkBytes_cons, h, chunkBytes_cons, splitChunk_bytes, Option.some.injEq, Prod.mk.injEq] at hsplit
      rw [hsplit.1, ih hsplit.2.symm]

end Slotpilot.Lib
