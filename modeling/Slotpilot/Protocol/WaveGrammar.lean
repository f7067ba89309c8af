import Slotpilot.Protocol.WaveFile

/-!
# The files that are accepted

`riffFile` is the file that a list of chunks is written to. A pass of the loop takes the first chunk off the bytes that
are left inside the RIFF size (`readChunk_ok`), so the loop succeeds on exactly the chunk lists (`readChunks_ok`) and
parsing on exactly the files with one format and one data chunk (`decodePcmWave_ok`). No access leaves the bytes
(`decodePcmWave_inRange`). The encoder writes such a file (`encodePcmWave_eq`), which makes parsing its inverse.
-/

set_option autoImplicit false

namespace Slotpilot.Protocol

open Lib

/-- The file of a list of chunks, with some bytes after its end. -/
def riffFile (chunks : List Chunk) (trailing : List UInt8) : List UInt8 :=
  riffTag ++ leBytes 4 (4 + (chunkBytes chunks).length) ++ waveTag ++ chunkBytes chunks ++ trailing

/-- A list of chunks fits the size field of a file. -/
def RiffSized (chunks : List Chunk) : Prop := 4 + (chunkBytes chunks).length < 2 ^ 32

instance (chunks : List Chunk) : Decidable (RiffSized chunks) := inferInstanceAs (Decidable (_ < _))

/-- The body of a `fmt ` chunk for a format: six fields, and bytes that nothing reads. -/
def FormatBody (format : PcmFormat) (body : List UInt8) : Prop :=
  ∃ extra, body = leBytes 2 1 ++ (leBytes 2 format.channels ++ (leBytes 4 format.sampleRateHz ++
    (leBytes 4 (format.sampleRateHz * (format.channels * 2)) ++ (leBytes 2 (format.channels * 2) ++
      (leBytes 2 16 ++ extra)))))

/-- The chunks with a tag. -/
def chunksOf (tag : List UInt8) (chunks : List Chunk) : List Chunk := chunks.filter fun c => c.tag = tag

variable {bytes body trailing : List UInt8} {riffSize offset next width value : Nat} {parsed later : WaveChunks}
variable {chunks : List Chunk} {format : PcmFormat} {buffer : PcmBuffer}

theorem okOr_some {α ε : Type} (e : ε) (a : α) : okOr e (some a) = .ok a := rfl

theorem except_ok_bind {α β ε : Type} (a : α) (f : α → Except ε β) : ((Except.ok a : Except ε α) >>= f) = f a := rfl

theorem except_mapError_ok {α ε δ : Type} (f : ε → δ) (a : α) : (Except.ok a : Except ε α).mapError f = .ok a := rfl

/-! ## Samples -/

@[simp] theorem length_sampleBytes (samples : List Int16) :
    (samples.flatMap sampleBytes).length = samples.length * 2 := by
  induction samples with
  | nil => rfl
  | cons sample samples ih =>
    rw [List.flatMap_cons, List.length_append, ih, sampleBytes, length_leBytes, List.length_cons]
    omega

/-- Samples are read as they were written. -/
theorem samplesOf_sampleBytes (samples : List Int16) : samplesOf (samples.flatMap sampleBytes) = samples := by
  induction samples with
  | nil => rfl
  | cons sample samples ih =>
    have hlt : sample.toUInt16.toNat < 256 ^ 2 := sample.toUInt16.toNat_lt
    have hread := ofLeBytes_leBytes hlt
    simp only [List.flatMap_cons, sampleBytes, leBytes, List.cons_append, List.nil_append, samplesOf, ih] at hread ⊢
    rw [hread, UInt16.ofNat_toNat, Int16.toInt16_toUInt16]

/-- Complete pairs of bytes are written as they were read. -/
theorem sampleBytes_samplesOf (h : bytes.length % 2 = 0) : (samplesOf bytes).flatMap sampleBytes = bytes := by
  induction bytes using samplesOf.induct with
  | case1 low high bytes ih =>
    have hlt : ofLeBytes [low, high] < 256 ^ 2 := ofLeBytes_lt [low, high]
    have hwrite := leBytes_ofLeBytes [low, high]
    have hnat : (UInt16.ofNat (ofLeBytes [low, high])).toNat = ofLeBytes [low, high] := by
      rw [UInt16.toNat_ofNat']
      omega
    have hrest : bytes.length % 2 = 0 := by
      simp only [List.length_cons] at h
      omega
    rw [samplesOf, List.flatMap_cons, ih hrest, sampleBytes, UInt16.toUInt16_toInt16, hnat]
    exact congrArg (· ++ bytes) hwrite
  | case2 bytes hshort =>
    match bytes, hshort, h with
    | [], _, _ => rfl
    | [byte], _, h => cases h
    | low :: high :: bytes, hshort, _ => exact absurd rfl (hshort low high bytes)

/-! ## Fields -/

/-- A slice of the bytes. -/
theorem slice_ok {start stop : Nat} (hstart : start ≤ stop) (hstop : stop ≤ bytes.length) :
    slice bytes start stop = .ok ((bytes.drop start).take (stop - start)) := by
  rw [slice, okOr_ok, getRange, if_pos ⟨hstart, hstop⟩]

@[simp] theorem checkedAdd_eq_some {a b c : Nat} : checkedAdd a b = some c ↔ a + b = c ∧ c < 2 ^ 64 := by
  unfold checkedAdd
  split <;> simp <;> omega

/-- A field is read where it stands. -/
theorem readField_ok (bytes : List UInt8) {offset : Nat} (value : Nat) (hwidth : 0 < width)
    (hsmall : offset + width < 2 ^ 64) :
    readField width bytes offset = .ok value ↔
      value < 256 ^ width ∧ bytes.drop offset = leBytes width value ++ bytes.drop (offset + width) := by
  simp only [readField, exceptBind_ok, okOr_ok, checkedAdd_eq_some, getRange]
  constructor
  · intro h
    obtain ⟨stop, ⟨rfl, -⟩, read, hread, hvalue⟩ := h
    split at hread
    · rename_i hbounds
      cases hread
      cases hvalue
      have hlen : ((bytes.drop offset).take (offset + width - offset)).length = width := by
        rw [List.length_take, List.length_drop]
        omega
      have hlt := ofLeBytes_lt ((bytes.drop offset).take (offset + width - offset))
      have hwrite := leBytes_ofLeBytes ((bytes.drop offset).take (offset + width - offset))
      rw [hlen] at hlt hwrite
      refine ⟨hlt, ?_⟩
      rw [hwrite, Nat.add_sub_cancel_left, ← List.drop_drop, List.take_append_drop]
    · cases hread
  · intro h
    have hlen := congrArg List.length h.2
    rw [List.length_append, length_leBytes, List.length_drop, List.length_drop] at hlen
    refine ⟨offset + width, ⟨rfl, by omega⟩, leBytes width value, ?_, ?_⟩
    · rw [if_pos (by omega), Nat.add_sub_cancel_left, h.2, List.take_left' (length_leBytes _ _)]
    · exact congrArg Except.ok (ofLeBytes_leBytes h.1)

/-- Every field inside the bytes is read. -/
theorem readU32_inside (hinside : offset + 4 ≤ bytes.length) (hsmall : offset + 4 < 2 ^ 64) :
    readU32 bytes offset = .ok (ofLeBytes ((bytes.drop offset).take 4)) := by
  simp only [readU32, readField, exceptBind_ok, okOr_ok, checkedAdd_eq_some]
  refine ⟨offset + 4, ⟨rfl, hsmall⟩, (bytes.drop offset).take 4, ?_, rfl⟩
  rw [getRange, if_pos (by omega), Nat.add_sub_cancel_left]

/-- What follows a field. -/
theorem drop_field {rest : List UInt8} (h : bytes.drop offset = leBytes width value ++ rest) :
    bytes.drop (offset + width) = rest := by
  rw [← List.drop_drop, h, List.drop_left' (length_leBytes _ _)]

/-- A format is the one of its rate and its channels. -/
theorem pcmFormat_new_ok {sampleRateHz channels : Nat} :
    PcmFormat.new sampleRateHz channels = .ok format ↔
      format.sampleRateHz = sampleRateHz ∧ format.channels = channels := by
  obtain ⟨rate, channel, hrate, hchannel⟩ := format
  unfold PcmFormat.new
  constructor
  · intro h
    split at h
    · split at h
      · cases h
        exact ⟨rfl, rfl⟩
      · cases h
    · cases h
  · intro h
    obtain ⟨rfl, rfl⟩ := h
    rw [dif_pos hrate, dif_pos hchannel]

/-- The formats that a body stands for. -/
theorem parseFormat_ok : parseFormat body = .ok format ↔ FormatBody format body := by
  have h16 {offset : Nat} (hsmall : offset + 2 < 2 ^ 64) (value : Nat) := readField_ok body value (by omega) hsmall
  have h32 {offset : Nat} (hsmall : offset + 4 < 2 ^ 64) (value : Nat) := readField_ok body value (by omega) hsmall
  constructor
  · intro h
    unfold parseFormat at h
    split at h
    · cases h
    simp (disch := omega) only [exceptBind_ok, okOr_ok, tryU16_eq_some, tryU32_eq_some, readU16, readU32, h16, h32] at h
    obtain ⟨encoding, ⟨-, h0⟩, channels, ⟨-, h2⟩, rate, ⟨-, h4⟩, byteRate, ⟨-, h8⟩, align, ⟨-, h12⟩, bits, ⟨-, h14⟩,
      expectedAlign, ⟨halign, -⟩, expectedRate, ⟨hrate, -⟩, h⟩ := h
    split at h
    · cases h
    rename_i hsupported
    simp only [exceptMapError_ok, pcmFormat_new_ok] at h
    obtain ⟨rfl, rfl⟩ := h
    obtain ⟨rfl, rfl, rfl, rfl⟩ : encoding = 1 ∧ bits = 16 ∧ align = expectedAlign ∧ byteRate = expectedRate := by
      omega
    have halign : align = format.channels * 2 := by omega
    have hrate : byteRate = format.sampleRateHz * align := by exact_mod_cast hrate
    refine ⟨body.drop 16, ?_⟩
    rw [← h14, ← halign, ← h12, ← hrate, ← h8, ← h4, ← h2, ← h0, List.drop_zero]
  · intro h
    obtain ⟨extra, h⟩ := h
    have hrate := format.rate
    have hchannel := format.channel
    have hlen := congrArg List.length h
    simp only [List.length_append, length_leBytes] at hlen
    have h0 : body.drop 0 = _ := h
    have h2 := drop_field h0
    have h4 := drop_field h2
    have h8 := drop_field h4
    have h12 := drop_field h8
    have h14 := drop_field h12
    have hend := drop_field h14
    have hbyteRate : format.sampleRateHz * (format.channels * 2) ≤ 384000 * (8 * 2) :=
      Nat.mul_le_mul hrate.2 (Nat.mul_le_mul_right 2 hchannel.2)
    unfold parseFormat
    rw [if_neg (by omega)]
    simp (disch := omega) only [exceptBind_ok, okOr_ok, tryU16_eq_some, tryU32_eq_some, readU16, readU32, h16, h32]
    refine ⟨1, ⟨by omega, h0.trans (by rw [h2])⟩, format.channels, ⟨by omega, h2.trans (by rw [h4])⟩,
      format.sampleRateHz, ⟨by omega, h4.trans (by rw [h8])⟩,
      format.sampleRateHz * (format.channels * 2), ⟨by omega, h8.trans (by rw [h12])⟩,
      format.channels * 2, ⟨by omega, h12.trans (by rw [h14])⟩, 16, ⟨by omega, h14.trans (by rw [hend])⟩,
      format.channels * 2, ⟨rfl, by omega⟩, format.sampleRateHz * (format.channels * 2), ⟨rfl, by omega⟩, ?_⟩
    rw [if_neg (by omega)]
    simp only [exceptMapError_ok, pcmFormat_new_ok, and_self]

/-! ## One chunk -/

/-- The bytes inside the RIFF size that are left at an offset. -/
def regionAt (bytes : List UInt8) (riffSize offset : Nat) : List UInt8 := (bytes.take riffSize).drop offset

theorem regionAt_add (bytes : List UInt8) (riffSize offset count : Nat) :
    regionAt bytes riffSize (offset + count) = (regionAt bytes riffSize offset).drop count := by
  rw [regionAt, regionAt, List.drop_drop]

theorem length_regionAt (hsize : riffSize ≤ bytes.length) (offset : Nat) :
    (regionAt bytes riffSize offset).length = riffSize - offset := by
  rw [regionAt, List.length_drop, List.length_take, Nat.min_eq_left hsize]

/-- Keeps what each chunk of a list gives. -/
def takeChunks (parsed : WaveChunks) (chunks : List Chunk) : Except PcmWaveError WaveChunks :=
  chunks.foldlM (fun parsed c => takeChunk parsed c.tag c.body) parsed

@[simp] theorem takeChunks_nil (parsed : WaveChunks) : takeChunks parsed [] = .ok parsed := rfl

@[simp] theorem takeChunks_cons (parsed : WaveChunks) (c : Chunk) (chunks : List Chunk) :
    takeChunks parsed (c :: chunks) = takeChunk parsed c.tag c.body >>= fun later => takeChunks later chunks := rfl

section Region

variable (hsize : riffSize ≤ bytes.length) (hriff : riffSize < 2 ^ 33)
include hsize

/-- A slice inside the RIFF size is part of the region. -/
theorem slice_region (offset : Nat) {start stop : Nat} (hstart : start ≤ stop) (hstop : offset + stop ≤ riffSize) :
    slice bytes (offset + start) (offset + stop) =
      .ok (((regionAt bytes riffSize offset).drop start).take (stop - start)) := by
  have hregion : ((regionAt bytes riffSize offset).drop start).take (stop - start) =
      (bytes.drop (offset + start)).take (stop - start) := by
    rw [regionAt, List.drop_drop, List.drop_take, List.take_take, Nat.min_eq_left (by omega)]
  rw [slice_ok (by omega) (by omega), hregion, Nat.add_sub_add_left]

include hriff

/-- The size field of a header inside the RIFF size. -/
theorem readU32_region (hheader : offset + 8 ≤ riffSize) :
    readU32 bytes (offset + 4) = .ok (declaredSize (regionAt bytes riffSize offset)) := by
  have hregion : ((regionAt bytes riffSize offset).drop 4).take 4 = (bytes.drop (offset + 4)).take 4 := by
    rw [regionAt, List.drop_drop, List.drop_take, List.take_take, Nat.min_eq_left (by omega)]
  rw [readU32_inside (by omega) (by omega), declaredSize, hregion]

/-- A pass of the loop in terms of the region. -/
theorem readChunk_eq (hoffset : offset < riffSize) (parsed : WaveChunks) :
    readChunk bytes riffSize offset parsed =
      if offset + 8 > riffSize then .error (.error .truncated)
      else if offset + 8 + declaredSize (regionAt bytes riffSize offset) > riffSize then .error (.error .truncated)
      else
        (takeChunk parsed ((regionAt bytes riffSize offset).take 4)
            (((regionAt bytes riffSize offset).drop 8).take (declaredSize (regionAt bytes riffSize offset)))).mapError
          .error >>= fun later =>
        if offset + chunkSpan (declaredSize (regionAt bytes riffSize offset)) > riffSize then .error (.error .truncated)
        else .ok (offset + chunkSpan (declaredSize (regionAt bytes riffSize offset)), later) := by
  have hdeclared := declaredSize_lt (regionAt bytes riffSize offset)
  have hheader : checkedAdd offset chunkHeaderBytes = some (offset + 8) := by
    rw [checkedAdd_eq_some, chunkHeaderBytes]
    omega
  have hend : checkedAdd (offset + 8) (declaredSize (regionAt bytes riffSize offset)) =
      some (offset + 8 + declaredSize (regionAt bytes riffSize offset)) := by
    rw [checkedAdd_eq_some]
    omega
  have hnext : checkedAdd (offset + 8 + declaredSize (regionAt bytes riffSize offset))
      (declaredSize (regionAt bytes riffSize offset) % 2) =
      some (offset + chunkSpan (declaredSize (regionAt bytes riffSize offset))) := by
    rw [checkedAdd_eq_some, chunkSpan]
    omega
  unfold readChunk
  rw [hheader, okOr_some, except_ok_bind]
  by_cases hfirst : offset + 8 > riffSize
  · rw [if_pos hfirst, if_pos hfirst]
    rfl
  have hid := slice_region hsize offset (show 0 ≤ 4 by omega) (by omega)
  rw [Nat.add_zero, List.drop_zero, Nat.sub_zero] at hid
  rw [if_neg hfirst, if_neg hfirst, hid, except_ok_bind, readU32_region hsize hriff (by omega), except_mapError_ok,
    except_ok_bind]
  dsimp only
  rw [hend, okOr_some, except_ok_bind]
  by_cases hsecond : offset + 8 + declaredSize (regionAt bytes riffSize offset) > riffSize
  · rw [if_pos hsecond, if_pos hsecond]
    rfl
  have hbody := slice_region hsize offset (Nat.le_add_right 8 (declaredSize (regionAt bytes riffSize offset))) (by omega)
  rw [← Nat.add_assoc, Nat.add_sub_cancel_left] at hbody
  rw [if_neg hsecond, if_neg hsecond, hbody, except_ok_bind, hnext]
  rfl

/-- A pass takes the first chunk of the region. -/
theorem readChunk_ok (hoffset : offset < riffSize) :
    readChunk bytes riffSize offset parsed = .ok (next, later) ↔
      ∃ c : Chunk, regionAt bytes riffSize offset = c.bytes ++ regionAt bytes riffSize next ∧
        next = offset + c.bytes.length ∧ takeChunk parsed c.tag c.body = .ok later := by
  have hlen := length_regionAt hsize offset
  rw [readChunk_eq hsize hriff hoffset]
  constructor
  · intro h
    split at h
    · cases h
    split at h
    · cases h
    simp only [exceptBind_ok, exceptMapError_ok] at h
    obtain ⟨taken, htaken, h⟩ := h
    split at h
    · cases h
    cases h
    have hspan : chunkSpan (declaredSize (regionAt bytes riffSize offset)) ≤
        (regionAt bytes riffSize offset).length := by omega
    have hrest := regionAt_add bytes riffSize offset (chunkSpan (declaredSize (regionAt bytes riffSize offset)))
    obtain ⟨c, hbytes, htag, hbody⟩ := exists_chunk hspan
    have hsize' : declaredSize (regionAt bytes riffSize offset) = c.body.length := by
      rw [hbytes]
      exact declaredSize_bytes c _
    refine ⟨c, ?_, ?_, ?_⟩
    · rwa [hrest]
    · rw [length_bytes, hsize']
    · rwa [htag, hbody]
  · intro h
    obtain ⟨c, hbytes, rfl, htaken⟩ := h
    have hsize' : declaredSize (regionAt bytes riffSize offset) = c.body.length := by
      rw [hbytes]
      exact declaredSize_bytes c _
    have htag : (regionAt bytes riffSize offset).take 4 = c.tag := by
      rw [hbytes]
      exact take_tag c _
    have hbody : ((regionAt bytes riffSize offset).drop 8).take c.body.length = c.body := by
      rw [hbytes, drop_header, List.take_left]
    have hspan := congrArg List.length hbytes
    rw [hlen, List.length_append, length_bytes, chunkSpan] at hspan
    rw [hsize', htag, hbody, htaken, except_mapError_ok, except_ok_bind, if_neg (by omega), if_neg (by omega),
      if_neg (by unfold chunkSpan; omega), length_bytes]

/-- A pass reads only inside the bytes. -/
theorem readChunk_inRange (hoffset : offset < riffSize) :
    readChunk bytes riffSize offset parsed ≠ .error .outOfRange := by
  intro h
  rw [readChunk_eq hsize hriff hoffset] at h
  split at h
  · cases h
  split at h
  · cases h
  cases htaken : takeChunk parsed ((regionAt bytes riffSize offset).take 4)
      (((regionAt bytes riffSize offset).drop 8).take (declaredSize (regionAt bytes riffSize offset))) with
  | error e =>
    rw [htaken] at h
    cases h
  | ok taken =>
    rw [htaken, except_mapError_ok, except_ok_bind] at h
    split at h <;> cases h

/-! ## All chunks -/

/-- The loop takes the whole region apart into chunks and keeps what each of them gives. -/
theorem readChunks_ok :
    readChunks bytes riffSize offset parsed = .ok later ↔
      ∃ chunks, regionAt bytes riffSize offset = chunkBytes chunks ∧ takeChunks parsed chunks = .ok later := by
  fun_induction readChunks bytes riffSize offset parsed with
  | case1 offset parsed hoffset next taken hread ih =>
    rw [ih]
    obtain ⟨c, hbytes, rfl, htaken⟩ := (readChunk_ok hsize hriff hoffset).mp hread
    constructor
    · intro h
      obtain ⟨chunks, hrest, hlater⟩ := h
      exact ⟨c :: chunks, by rw [hbytes, hrest, chunkBytes_cons], by rw [takeChunks_cons, htaken]; exact hlater⟩
    · intro h
      obtain ⟨chunks, hchunks, hlater⟩ := h
      cases chunks with
      | nil =>
        have hlen := congrArg List.length hchunks
        rw [length_regionAt hsize, chunkBytes_nil, List.length_nil] at hlen
        omega
      | cons d chunks =>
        have hsplit := splitChunk_bytes c (regionAt bytes riffSize (offset + c.bytes.length))
        rw [← hbytes, hchunks, chunkBytes_cons, splitChunk_bytes, Option.some.injEq, Prod.mk.injEq] at hsplit
        obtain ⟨rfl, hrest⟩ := hsplit
        rw [takeChunks_cons, htaken] at hlater
        exact ⟨chunks, hrest.symm, hlater⟩
  | case2 offset parsed hoffset failure hread =>
    constructor
    · intro h
      cases h
    · intro h
      obtain ⟨chunks, hchunks, hlater⟩ := h
      cases chunks with
      | nil =>
        have hlen := congrArg List.length hchunks
        rw [length_regionAt hsize, chunkBytes_nil, List.length_nil] at hlen
        omega
      | cons c chunks =>
        rw [takeChunks_cons, exceptBind_ok] at hlater
        obtain ⟨taken, htaken, -⟩ := hlater
        have hrest : regionAt bytes riffSize (offset + c.bytes.length) = chunkBytes chunks := by
          rw [regionAt_add, hchunks, chunkBytes_cons, List.drop_left]
        rw [chunkBytes_cons, ← hrest] at hchunks
        rw [(readChunk_ok hsize hriff hoffset).mpr ⟨c, hchunks, rfl, htaken⟩] at hread
        cases hread
  | case3 offset parsed hoffset =>
    have hlen := length_regionAt hsize offset
    have hempty : regionAt bytes riffSize offset = chunkBytes [] := List.eq_nil_of_length_eq_zero (by omega)
    constructor
    · intro h
      cases h
      exact ⟨[], hempty, rfl⟩
    · intro h
      obtain ⟨chunks, hchunks, hlater⟩ := h
      rw [← chunkBytes_injective (hempty.symm.trans hchunks), takeChunks_nil] at hlater
      cases hlater
      rfl

/-- The loop reads only inside the bytes. -/
theorem readChunks_inRange : readChunks bytes riffSize offset parsed ≠ .error .outOfRange := by
  fun_induction readChunks bytes riffSize offset parsed with
  | case1 offset parsed hoffset next taken hread ih => exact ih
  | case2 offset parsed hoffset failure hread =>
    intro h
    cases h
    exact readChunk_inRange hsize hriff hoffset hread
  | case3 offset parsed hoffset =>
    intro h
    cases h

end Region

/-! ## What the chunks give -/

/-- What is found after some chunks: what was found before, or what the only chunk gives. -/
def Kept {α : Type} (found : Option α) (gives : Chunk → α → Prop) (given : List Chunk) (later : Option α) : Prop :=
  (given = [] ∧ later = found) ∨ ∃ c a, found = none ∧ given = [c] ∧ gives c a ∧ later = some a

section Kept

variable {α : Type} {found : Option α} {gives : Chunk → α → Prop} {given : List Chunk} {kept : Option α}

@[simp] theorem kept_nil : Kept found gives [] kept ↔ kept = found := by
  simp [Kept]

/-- A chunk is kept once. -/
theorem kept_cons {c : Chunk} :
    Kept found gives (c :: given) kept ↔ found = none ∧ ∃ a, gives c a ∧ Kept (some a) gives given kept := by
  constructor
  · intro h
    obtain ⟨h, -⟩ | ⟨d, a, rfl, h, hgives, rfl⟩ := h
    · cases h
    · cases h
      exact ⟨rfl, a, hgives, kept_nil.mpr rfl⟩
  · intro h
    obtain ⟨rfl, a, hgives, ⟨rfl, rfl⟩ | ⟨-, -, h, -⟩⟩ := h
    · exact .inr ⟨c, a, rfl, rfl, hgives, rfl⟩
    · cases h

/-- Without anything before, something is found when exactly one chunk is given. -/
theorem kept_some {a : α} : Kept none gives given (some a) ↔ ∃ c, given = [c] ∧ gives c a := by
  constructor
  · intro h
    obtain ⟨-, h⟩ | ⟨c, b, -, hgiven, hgives, h⟩ := h
    · cases h
    · cases h
      exact ⟨c, hgiven, hgives⟩
  · intro h
    obtain ⟨c, hgiven, hgives⟩ := h
    exact .inr ⟨c, a, rfl, hgiven, hgives, rfl⟩

end Kept

theorem chunksOf_cons (tag : List UInt8) (c : Chunk) (chunks : List Chunk) :
    chunksOf tag (c :: chunks) = if c.tag = tag then c :: chunksOf tag chunks else chunksOf tag chunks := by
  simp [chunksOf, List.filter_cons]

/-- What one chunk gives. -/
theorem takeChunk_ok {tag : List UInt8} :
    takeChunk parsed tag body = .ok later ↔
      if tag = fmtTag then
        parsed.format = none ∧ ∃ format, FormatBody format body ∧ { parsed with format := some format } = later
      else if tag = dataTag then parsed.data = none ∧ { parsed with data := some body } = later
      else parsed = later := by
  unfold takeChunk
  by_cases hfmt : tag = fmtTag
  · rw [if_pos hfmt, if_pos hfmt]
    cases parsed.format with
    | none => simp [parseFormat_ok, pure, Except.pure]
    | some format => simp
  · rw [if_neg hfmt, if_neg hfmt]
    by_cases hdata : tag = dataTag
    · rw [if_pos hdata, if_pos hdata]
      cases parsed.data <;> simp
    · rw [if_neg hdata, if_neg hdata, Except.ok.injEq]

/-- The format is that of the only `fmt ` chunk, and the data that of the only `data` chunk. -/
theorem takeChunks_ok :
    takeChunks parsed chunks = .ok later ↔
      Kept parsed.format (fun c format => FormatBody format c.body) (chunksOf fmtTag chunks) later.format ∧
        Kept parsed.data (fun c data => c.body = data) (chunksOf dataTag chunks) later.data := by
  induction chunks generalizing parsed with
  | nil =>
    obtain ⟨format, data⟩ := parsed
    obtain ⟨format', data'⟩ := later
    simp [chunksOf, eq_comm]
  | cons c chunks ih =>
    rw [takeChunks_cons, chunksOf_cons, chunksOf_cons]
    simp only [exceptBind_ok, takeChunk_ok, ih]
    by_cases hfmt : c.tag = fmtTag
    · have hdata : c.tag ≠ dataTag := by
        rw [hfmt]
        decide
      rw [if_pos hfmt, if_neg hdata, kept_cons]
      simp only [if_pos hfmt]
      constructor
      · intro h
        obtain ⟨_, ⟨hnone, format, hbody, rfl⟩, hformat, hdata⟩ := h
        exact ⟨⟨hnone, format, hbody, hformat⟩, hdata⟩
      · intro h
        obtain ⟨⟨hnone, format, hbody, hformat⟩, hdata⟩ := h
        exact ⟨_, ⟨hnone, format, hbody, rfl⟩, hformat, hdata⟩
    · rw [if_neg hfmt]
      simp only [if_neg hfmt]
      by_cases hdata : c.tag = dataTag
      · rw [if_pos hdata, kept_cons]
        simp only [if_pos hdata]
        constructor
        · intro h
          obtain ⟨_, ⟨hnone, rfl⟩, hformat, hdata⟩ := h
          exact ⟨hformat, hnone, c.body, rfl, hdata⟩
        · intro h
          obtain ⟨hformat, hnone, _, rfl, hdata⟩ := h
          exact ⟨_, ⟨hnone, rfl⟩, hformat, hdata⟩
      · rw [if_neg hdata]
        simp only [if_neg hdata, exists_eq_left']

/-! ## The file -/

/-- The end of parsing: the buffer of what the chunks gave. -/
def finishWave (parsed : WaveChunks) : Except WaveFailure PcmBuffer := do
  let format ← okOr (.error .missingOrDuplicateChunk) parsed.format
  let data ← okOr (.error .missingOrDuplicateChunk) parsed.data
  if data.length % 2 ≠ 0 ∨ data.length / 2 > maxOfflinePcmSamples then throw (.error .fileTooLarge)
  else (PcmBuffer.new format (samplesOf data)).mapError fun error => .error (.pcm error)

/-- A buffer is the one of its format and its samples. -/
theorem pcmBuffer_new_ok {samples : List Int16} :
    PcmBuffer.new format samples = .ok buffer ↔ buffer.format = format ∧ buffer.samples = samples := by
  obtain ⟨format', samples', hbounded, hcomplete⟩ := buffer
  unfold PcmBuffer.new
  constructor
  · intro h
    split at h
    · cases h
    split at h
    · cases h
      exact ⟨rfl, rfl⟩
    · cases h
  · intro h
    obtain ⟨rfl, rfl⟩ := h
    rw [dif_neg (Nat.not_lt.mpr hbounded), dif_pos hcomplete]

/-- The chunks give the format and the samples of the buffer. -/
theorem finishWave_ok :
    finishWave parsed = .ok buffer ↔
      parsed.format = some buffer.format ∧ parsed.data = some (buffer.samples.flatMap sampleBytes) := by
  simp only [finishWave, exceptBind_ok, okOr_ok]
  constructor
  · intro h
    obtain ⟨format, hformat, data, hdata, h⟩ := h
    split at h
    · cases h
    rename_i heven
    simp only [exceptMapError_ok, pcmBuffer_new_ok] at h
    obtain ⟨rfl, hsamples⟩ := h
    refine ⟨hformat, ?_⟩
    rw [hsamples, sampleBytes_samplesOf (by omega), hdata]
  · intro h
    obtain ⟨hformat, hdata⟩ := h
    have hbounded := buffer.bounded
    refine ⟨_, hformat, _, hdata, ?_⟩
    rw [length_sampleBytes, if_neg (by omega)]
    simp only [exceptMapError_ok, pcmBuffer_new_ok, samplesOf_sampleBytes, and_self]

theorem finishWave_inRange : finishWave parsed ≠ .error .outOfRange := by
  intro h
  unfold finishWave at h
  cases hformat : parsed.format with
  | none =>
    rw [hformat] at h
    cases h
  | some format =>
    cases hdata : parsed.data with
    | none =>
      rw [hformat, hdata] at h
      cases h
    | some data =>
      rw [hformat, hdata, okOr_some, except_ok_bind, okOr_some, except_ok_bind] at h
      split at h
      · cases h
      · cases hbuffer : PcmBuffer.new format (samplesOf data) <;> rw [hbuffer] at h <;> cases h

/-- The bytes start with a file header that declares a size. -/
def Headed (bytes : List UInt8) (declared : Nat) : Prop :=
  declared < 2 ^ 32 ∧ bytes = riffTag ++ (leBytes 4 declared ++ (waveTag ++ bytes.drop 12))

/-- Parsing behind a header inside whose size the bytes end. -/
theorem decodePcmWave_headed {declared : Nat} (h : Headed bytes declared) (hsize : declared + 8 ≤ bytes.length)
    (hmin : 4 ≤ declared) :
    decodePcmWave bytes =
      readChunks bytes (declared + 8) headerBytes { format := none, data := none } >>= finishWave := by
  obtain ⟨hdeclared, hbytes⟩ := h
  have h0 : bytes.drop 0 = riffTag ++ (leBytes 4 declared ++ (waveTag ++ bytes.drop 12)) := hbytes
  have h4 : bytes.drop (0 + 4) = leBytes 4 declared ++ (waveTag ++ bytes.drop 12) := by
    rw [← List.drop_drop, h0]
    rfl
  have h8 := drop_field h4
  have hriff : slice bytes 0 4 = .ok riffTag := by
    rw [slice_ok (by omega) (by omega), h0]
    rfl
  have hwave : slice bytes 8 12 = .ok waveTag := by
    rw [slice_ok (by omega) (by omega), h8]
    rfl
  have hread : readU32 bytes 4 = .ok declared :=
    (readField_ok bytes declared (by omega) (by omega)).mpr ⟨hdeclared, by rw [h4, h8]⟩
  have hadd : checkedAdd declared 8 = some (declared + 8) := checkedAdd_eq_some.mpr ⟨rfl, by omega⟩
  unfold decodePcmWave
  rw [if_neg (by unfold headerBytes; omega), hriff, except_ok_bind, hwave, except_ok_bind, if_neg (by simp), hread,
    except_mapError_ok, except_ok_bind, hadd, okOr_some, except_ok_bind, if_neg (by omega),
    if_neg (by unfold headerBytes; omega)]
  rfl

/-- Parsing fails with an error, or the bytes start with a header inside whose size they end. -/
theorem decodePcmWave_cases (bytes : List UInt8) :
    (∃ error, decodePcmWave bytes = .error (.error error)) ∨
      ∃ declared, Headed bytes declared ∧ declared + 8 ≤ bytes.length ∧ 4 ≤ declared := by
  unfold decodePcmWave
  by_cases hlen : bytes.length < headerBytes
  · rw [if_pos hlen]
    exact .inl ⟨_, rfl⟩
  have htwelve : 12 ≤ bytes.length := Nat.le_of_not_gt hlen
  rw [if_neg hlen, slice_ok (by omega) (by omega), except_ok_bind, slice_ok (by omega) (by omega), except_ok_bind]
  by_cases htags : (bytes.drop 0).take (4 - 0) ≠ riffTag ∨ (bytes.drop 8).take (12 - 8) ≠ waveTag
  · rw [if_pos htags]
    exact .inl ⟨_, rfl⟩
  obtain ⟨declared, hread⟩ : ∃ declared, readU32 bytes 4 = .ok declared := ⟨_, readU32_inside (by omega) (by omega)⟩
  obtain ⟨hdeclared, hfield⟩ := (readField_ok bytes declared (by omega) (by omega)).mp hread
  have hadd : checkedAdd declared 8 = some (declared + 8) := checkedAdd_eq_some.mpr ⟨rfl, by omega⟩
  rw [if_neg htags, hread, except_mapError_ok, except_ok_bind, hadd, okOr_some, except_ok_bind]
  by_cases hlong : declared + 8 > bytes.length
  · rw [if_pos hlong]
    exact .inl ⟨_, rfl⟩
  by_cases hshort : declared + 8 < headerBytes
  · rw [if_neg hlong, if_pos hshort]
    exact .inl ⟨_, rfl⟩
  refine .inr ⟨declared, ⟨hdeclared, ?_⟩, by omega, by unfold headerBytes at hshort; omega⟩
  obtain ⟨hriff, hwave⟩ : (bytes.drop 0).take 4 = riffTag ∧ (bytes.drop 8).take 4 = waveTag := by
    simpa using htags
  have hdrop : bytes.drop 12 = (bytes.drop 8).drop 4 := by rw [List.drop_drop]
  rw [← hwave, hdrop, List.take_append_drop, ← hfield, ← hriff, List.drop_zero, List.take_append_drop]

/-- The bytes behind the header of a file. -/
theorem drop_riffFile (chunks : List Chunk) (trailing : List UInt8) :
    (riffFile chunks trailing).drop 12 = chunkBytes chunks ++ trailing := by
  have hheader : (riffTag ++ leBytes 4 (4 + (chunkBytes chunks).length) ++ waveTag).length = 12 := by
    simp [riffTag, waveTag]
  rw [riffFile, List.append_assoc, List.drop_left' hheader]

theorem length_riffFile (chunks : List Chunk) (trailing : List UInt8) :
    (riffFile chunks trailing).length = 12 + (chunkBytes chunks).length + trailing.length := by
  simp [riffFile, riffTag, waveTag]
  omega

theorem headed_riffFile (h : RiffSized chunks) (trailing : List UInt8) :
    Headed (riffFile chunks trailing) (4 + (chunkBytes chunks).length) := by
  refine ⟨h, ?_⟩
  rw [drop_riffFile, riffFile]
  simp only [List.append_assoc]

/-- The bytes inside the size of a file are its chunks. -/
theorem regionAt_riffFile (chunks : List Chunk) (trailing : List UInt8) :
    regionAt (riffFile chunks trailing) (4 + (chunkBytes chunks).length + 8) headerBytes = chunkBytes chunks := by
  rw [regionAt, List.drop_take, headerBytes, drop_riffFile, List.take_left' (by omega)]

/-- Behind a header inside whose size the bytes end they are the file of every chunk list that its region is. -/
theorem eq_riffFile {declared : Nat} (h : Headed bytes declared) (hsize : declared + 8 ≤ bytes.length)
    (hmin : 4 ≤ declared) (hregion : regionAt bytes (declared + 8) headerBytes = chunkBytes chunks) :
    bytes = riffFile chunks (bytes.drop (declared + 8)) ∧ RiffSized chunks := by
  obtain ⟨hdeclared, hbytes⟩ := h
  have hlen := length_regionAt hsize headerBytes
  rw [hregion, headerBytes] at hlen
  have heq : 4 + (chunkBytes chunks).length = declared := by omega
  have hdrop : bytes.drop (declared + 8) = (bytes.drop 12).drop (declared + 8 - 12) := by
    rw [List.drop_drop, Nat.add_sub_of_le (by omega)]
  have hrest : chunkBytes chunks ++ bytes.drop (declared + 8) = bytes.drop 12 := by
    rw [← hregion, regionAt, List.drop_take, hdrop, headerBytes, List.take_append_drop]
  refine ⟨?_, by unfold RiffSized; omega⟩
  rw [riffFile, heq, List.append_assoc, hrest, List.append_assoc, List.append_assoc]
  exact hbytes

/-- Parsing accepts the files with one format and one data chunk, and returns these. -/
theorem decodePcmWave_ok :
    decodePcmWave bytes = .ok buffer ↔
      ∃ chunks trailing, bytes = riffFile chunks trailing ∧ RiffSized chunks ∧
        (∃ c, chunksOf fmtTag chunks = [c] ∧ FormatBody buffer.format c.body) ∧
        ∃ c, chunksOf dataTag chunks = [c] ∧ c.body = buffer.samples.flatMap sampleBytes := by
  constructor
  · intro h
    obtain ⟨error, herror⟩ | ⟨declared, hheaded, hsize, hmin⟩ := decodePcmWave_cases bytes
    · rw [h] at herror
      cases herror
    rw [decodePcmWave_headed hheaded hsize hmin, exceptBind_ok] at h
    obtain ⟨parsed, hparsed, h⟩ := h
    obtain ⟨hformat, hdata⟩ := finishWave_ok.mp h
    have hriff := hheaded.1
    obtain ⟨chunks, hregion, htaken⟩ := (readChunks_ok hsize (by omega)).mp hparsed
    obtain ⟨hbytes, hfits⟩ := eq_riffFile hheaded hsize hmin hregion
    rw [takeChunks_ok, hformat, hdata, kept_some, kept_some] at htaken
    exact ⟨chunks, _, hbytes, hfits, htaken⟩
  · intro h
    obtain ⟨chunks, trailing, rfl, hfits, hkept⟩ := h
    have hlen := length_riffFile chunks trailing
    have hriff : 4 + (chunkBytes chunks).length + 8 < 2 ^ 33 := by
      unfold RiffSized at hfits
      omega
    rw [decodePcmWave_headed (headed_riffFile hfits trailing) (by omega) (by omega), exceptBind_ok]
    have hformat : Kept none (fun c format => FormatBody format c.body) (chunksOf fmtTag chunks) (some buffer.format) :=
      kept_some.mpr hkept.1
    have hdata : Kept none (fun c data => c.body = data) (chunksOf dataTag chunks)
        (some (buffer.samples.flatMap sampleBytes)) := kept_some.mpr hkept.2
    refine ⟨{ format := some buffer.format, data := some (buffer.samples.flatMap sampleBytes) }, ?_, ?_⟩
    · rw [readChunks_ok (by omega) hriff]
      exact ⟨chunks, regionAt_riffFile chunks trailing, takeChunks_ok.mpr ⟨hformat, hdata⟩⟩
    · exact finishWave_ok.mpr ⟨rfl, rfl⟩

/-- No access leaves the bytes. -/
theorem decodePcmWave_inRange (bytes : List UInt8) : decodePcmWave bytes ≠ .error .outOfRange := by
  intro h
  obtain ⟨error, herror⟩ | ⟨declared, hheaded, hsize, hmin⟩ := decodePcmWave_cases bytes
  · rw [h] at herror
    cases herror
  have hriff := hheaded.1
  rw [decodePcmWave_headed hheaded hsize hmin] at h
  cases hparsed : readChunks bytes (declared + 8) headerBytes { format := none, data := none } with
  | ok parsed =>
    rw [hparsed] at h
    exact finishWave_inRange h
  | error failure =>
    rw [hparsed] at h
    cases h
    exact readChunks_inRange hsize (by omega) hparsed

/-! ## Encoding -/

/-- The format chunk that the encoder writes. -/
def formatChunk (format : PcmFormat) : Chunk where
  tag := fmtTag
  body := leBytes 2 1 ++ (leBytes 2 format.channels ++ (leBytes 4 format.sampleRateHz ++
    (leBytes 4 (format.sampleRateHz * (format.channels * 2)) ++ (leBytes 2 (format.channels * 2) ++ leBytes 2 16))))
  padding := []
  tagged := rfl
  fits := by simp
  padded := by simp

/-- The data chunk that the encoder writes. -/
def dataChunk (buffer : PcmBuffer) : Chunk where
  tag := dataTag
  body := buffer.samples.flatMap sampleBytes
  padding := []
  tagged := rfl
  fits := by
    have hbounded := buffer.bounded
    unfold maxOfflinePcmSamples at hbounded
    rw [length_sampleBytes]
    omega
  padded := by
    rw [length_sampleBytes, List.length_nil]
    omega

theorem length_written (buffer : PcmBuffer) :
    (chunkBytes [formatChunk buffer.format, dataChunk buffer]).length = 32 + buffer.samples.length * 2 := by
  have hformat : (formatChunk buffer.format).body.length = 16 := by simp [formatChunk]
  have hdata : (dataChunk buffer).body.length = buffer.samples.length * 2 := length_sampleBytes _
  rw [chunkBytes_cons, chunkBytes_cons, chunkBytes_nil, List.append_nil, List.length_append, length_bytes, length_bytes,
    hformat, hdata, chunkSpan, chunkSpan]
  omega

theorem riffSized_written (buffer : PcmBuffer) : RiffSized [formatChunk buffer.format, dataChunk buffer] := by
  have hbounded := buffer.bounded
  unfold maxOfflinePcmSamples at hbounded
  rw [RiffSized, length_written]
  omega

/-- The encoder writes the file of the two chunks. -/
theorem encodePcmWave_eq (buffer : PcmBuffer) :
    encodePcmWave buffer = .ok (riffFile [formatChunk buffer.format, dataChunk buffer] []) := by
  have hbounded := buffer.bounded
  unfold maxOfflinePcmSamples at hbounded
  have hchannel := buffer.format.channel
  have hrate := buffer.format.rate
  have hbyteRate : buffer.format.sampleRateHz * (buffer.format.channels * 2) ≤ 384000 * (8 * 2) :=
    Nat.mul_le_mul hrate.2 (Nat.mul_le_mul_right 2 hchannel.2)
  have hlen := length_written buffer
  simp only [encodePcmWave, exceptBind_ok, okOr_ok, tryU16_eq_some, tryU32_eq_some, checkedAdd_eq_some]
  refine ⟨buffer.samples.length * 2, ⟨rfl, by omega⟩, 36 + buffer.samples.length * 2, ⟨rfl, by omega⟩,
    buffer.format.channels * 2, ⟨rfl, by omega⟩, buffer.format.sampleRateHz * (buffer.format.channels * 2),
    ⟨rfl, by omega⟩, _, ⟨rfl, by omega⟩, ?_⟩
  rw [riffFile, hlen]
  have hformat : (formatChunk buffer.format).body.length = 16 := by simp [formatChunk]
  have hdata : (dataChunk buffer).body.length = buffer.samples.length * 2 := length_sampleBytes _
  rw [chunkBytes_cons, chunkBytes_cons, chunkBytes_nil, Chunk.bytes, Chunk.bytes, hformat, hdata,
    show 4 + (32 + buffer.samples.length * 2) = 36 + buffer.samples.length * 2 by omega]
  simp only [formatChunk, dataChunk, List.append_assoc, List.append_nil]
  rfl

/-- What the encoder writes is parsed as the buffer. -/
theorem decodePcmWave_encoded (buffer : PcmBuffer) :
    decodePcmWave (riffFile [formatChunk buffer.format, dataChunk buffer] []) = .ok buffer := by
  have hne : dataTag ≠ fmtTag := by decide
  rw [decodePcmWave_ok]
  refine ⟨_, [], rfl, riffSized_written buffer, ⟨formatChunk buffer.format, ?_, ?_⟩, dataChunk buffer, ?_, rfl⟩
  · simp [chunksOf, formatChunk, dataChunk, hne]
  · exact ⟨[], by simp [formatChunk]⟩
  · simp [chunksOf, formatChunk, dataChunk, hne.symm]

/-- Every buffer is written, and read back as it was; so is what parsing returns. -/
theorem pcmWave_round_trip :
    (∀ buffer, ∃ bytes, encodePcmWave buffer = .ok bytes ∧ decodePcmWave bytes = .ok buffer) ∧
      ∀ bytes buffer, decodePcmWave bytes = .ok buffer →
        ∃ again, encodePcmWave buffer = .ok again ∧ decodePcmWave again = .ok buffer := by
  constructor
  · intro buffer
    exact ⟨_, encodePcmWave_eq buffer, decodePcmWave_encoded buffer⟩
  · intro bytes buffer _
    exact ⟨_, encodePcmWave_eq buffer, decodePcmWave_encoded buffer⟩

/-! ## The grammar -/

/-- The chunks of a file are determined by its bytes. -/
theorem riffFile_chunks {chunks' : List Chunk} {trailing' : List UInt8} (h : RiffSized chunks) (h' : RiffSized chunks')
    (heq : riffFile chunks trailing = riffFile chunks' trailing') : chunks = chunks' := by
  have hread (chunks : List Chunk) (trailing : List UInt8) (h : RiffSized chunks) :
      ofLeBytes (((riffFile chunks trailing).drop 4).take 4) = 4 + (chunkBytes chunks).length := by
    have hdrop : (riffFile chunks trailing).drop 4 =
        leBytes 4 (4 + (chunkBytes chunks).length) ++ (waveTag ++ (chunkBytes chunks ++ trailing)) := by
      simp only [riffFile, List.append_assoc]
      rfl
    rw [hdrop, List.take_left' (length_leBytes _ _), ofLeBytes_leBytes h]
  have hlen := hread chunks trailing h
  rw [heq, hread chunks' trailing' h'] at hlen
  have hbody := congrArg (List.drop 12) heq
  rw [drop_riffFile, drop_riffFile] at hbody
  exact chunkBytes_injective (List.append_inj_left hbody (by omega))

/-- Parsing ends with a buffer or with an error of the source. -/
theorem decodePcmWave_error (h : ∀ buffer, decodePcmWave bytes ≠ .ok buffer) :
    ∃ error, decodePcmWave bytes = .error (.error error) := by
  cases hdecode : decodePcmWave bytes with
  | ok buffer => exact absurd hdecode (h buffer)
  | error failure =>
    cases failure with
    | error error => exact ⟨error, rfl⟩
    | outOfRange => exact absurd hdecode (decodePcmWave_inRange bytes)

theorem length_samplesOf (h : bytes.length % 2 = 0) : (samplesOf bytes).length = bytes.length / 2 := by
  have hlen := length_sampleBytes (samplesOf bytes)
  rw [sampleBytes_samplesOf h] at hlen
  omega

/-- A file with one format and one data chunk of complete frames is parsed as these. -/
theorem decodePcmWave_riffFile {f d : Chunk} (hfits : RiffSized chunks) (hf : chunksOf fmtTag chunks = [f])
    (hformat : FormatBody format f.body) (hd : chunksOf dataTag chunks = [d]) (heven : d.body.length % 2 = 0)
    (hbounded : d.body.length / 2 ≤ maxOfflinePcmSamples) (hframes : d.body.length / 2 % format.channels = 0)
    (trailing : List UInt8) :
    ∃ buffer, decodePcmWave (riffFile chunks trailing) = .ok buffer ∧ buffer.format = format ∧
      buffer.samples.flatMap sampleBytes = d.body := by
  have hlen := length_samplesOf heven
  have hsamples := sampleBytes_samplesOf heven
  refine ⟨⟨format, samplesOf d.body, by omega, by rw [hlen, hframes]⟩, ?_, rfl, hsamples⟩
  exact decodePcmWave_ok.mpr ⟨chunks, trailing, rfl, hfits, ⟨f, hf, hformat⟩, d, hd, hsamples.symm⟩

/-- A file that lacks or repeats a format or a data chunk is refused. -/
theorem decodePcmWave_unpaired {tag : List UInt8} (hfits : RiffSized chunks) (htag : tag = fmtTag ∨ tag = dataTag)
    (hcount : (chunksOf tag chunks).length ≠ 1) (trailing : List UInt8) :
    ∃ error, decodePcmWave (riffFile chunks trailing) = .error (.error error) := by
  apply decodePcmWave_error
  intro buffer h
  obtain ⟨chunks', trailing', heq, hfits', ⟨f, hf, -⟩, d, hd, -⟩ := decodePcmWave_ok.mp h
  rw [riffFile_chunks hfits hfits' heq] at hcount
  obtain rfl | rfl := htag
  · exact hcount (by rw [hf]; rfl)
  · exact hcount (by rw [hd]; rfl)

/-- Files of one format and one data chunk in complete frames are parsed as these, parsing always ends inside the bytes,
and bytes that are no list of chunks under their size, or lack or repeat one of the two, are refused. -/
theorem pcmWave_grammar :
    (∀ chunks trailing f d format, RiffSized chunks → chunksOf fmtTag chunks = [f] → FormatBody format f.body →
        chunksOf dataTag chunks = [d] → d.body.length % 2 = 0 → d.body.length / 2 ≤ maxOfflinePcmSamples →
        d.body.length / 2 % format.channels = 0 →
        ∃ buffer, decodePcmWave (riffFile chunks trailing) = .ok buffer ∧ buffer.format = format ∧
          buffer.samples.flatMap sampleBytes = d.body) ∧
      (∀ bytes, (∃ buffer, decodePcmWave bytes = .ok buffer) ∨ ∃ error, decodePcmWave bytes = .error (.error error)) ∧
      (∀ bytes, (∀ chunks trailing, RiffSized chunks → bytes ≠ riffFile chunks trailing) →
        ∃ error, decodePcmWave bytes = .error (.error error)) ∧
      ∀ chunks trailing tag, RiffSized chunks → tag = fmtTag ∨ tag = dataTag → (chunksOf tag chunks).length ≠ 1 →
        ∃ error, decodePcmWave (riffFile chunks trailing) = .error (.error error) := by
  refine ⟨?accepted, ?ended, ?truncated, ?unpaired⟩
  case accepted =>
    intro chunks trailing f d format hfits hf hformat hd heven hbounded hframes
    exact decodePcmWave_riffFile hfits hf hformat hd heven hbounded hframes trailing
  case ended =>
    intro bytes
    by_cases h : ∃ buffer, decodePcmWave bytes = .ok buffer
    · exact .inl h
    · exact .inr (decodePcmWave_error fun buffer hbuffer => h ⟨buffer, hbuffer⟩)
  case truncated =>
    intro bytes hnone
    apply decodePcmWave_error
    intro buffer h
    obtain ⟨chunks, trailing, hbytes, hfits, -⟩ := decodePcmWave_ok.mp h
    exact hnone chunks trailing hfits hbytes
  case unpaired =>
    intro chunks trailing tag hfits htag hcount
    exact decodePcmWave_unpaired hfits htag hcount trailing

/-- One channel. -/
def monoFormat : PcmFormat := ⟨48000, 1, by decide, by decide⟩

/-- One sample. -/
def oneSample : Chunk := ⟨dataTag, [0x34, 0x12], [], rfl, by decide, rfl⟩

/-- An unknown chunk of one byte. -/
def oddChunk : Chunk := ⟨[0x4a, 0x55, 0x4e, 0x4b], [0x07], [0xff], rfl, by decide, rfl⟩

/-- The data may come first, and unknown chunks of odd size between. -/
theorem pcmWave_data_first :
    ∃ buffer, decodePcmWave (riffFile [oneSample, oddChunk, formatChunk monoFormat] [0x00]) = .ok buffer ∧
      buffer.format = monoFormat ∧ buffer.samples.flatMap sampleBytes = [0x34, 0x12] :=
  pcmWave_grammar.1 _ [0x00] (formatChunk monoFormat) oneSample monoFormat (by decide) (by decide)
    ⟨[], by simp [formatChunk]⟩ (by decide) (by decide) (by decide) (by decide)

/-- Two channels. -/
def stereoFormat : PcmFormat := ⟨48000, 2, by decide, by decide⟩

/-- Half a stereo frame. -/
def halfFrame : Chunk := ⟨dataTag, [0x01, 0x00], [], rfl, by decide, rfl⟩

/-- A data chunk of even length that ends inside a frame is refused. -/
theorem pcmWave_half_frame :
    RiffSized [formatChunk stereoFormat, halfFrame] ∧
      chunksOf fmtTag [formatChunk stereoFormat, halfFrame] = [formatChunk stereoFormat] ∧
      FormatBody stereoFormat (formatChunk stereoFormat).body ∧
      chunksOf dataTag [formatChunk stereoFormat, halfFrame] = [halfFrame] ∧ halfFrame.body.length % 2 = 0 ∧
      ∀ buffer, decodePcmWave (riffFile [formatChunk stereoFormat, halfFrame] []) ≠ .ok buffer := by
  have hfits : RiffSized [formatChunk stereoFormat, halfFrame] := by decide
  have hbody : FormatBody stereoFormat (formatChunk stereoFormat).body := ⟨[], by simp [formatChunk]⟩
  have hf : chunksOf fmtTag [formatChunk stereoFormat, halfFrame] = [formatChunk stereoFormat] := by decide
  have hd : chunksOf dataTag [formatChunk stereoFormat, halfFrame] = [halfFrame] := by decide
  refine ⟨hfits, hf, hbody, hd, rfl, ?_⟩
  intro buffer h
  obtain ⟨chunks, trailing, heq, hfits', ⟨f, hf', hformat⟩, d, hd', hdata⟩ := decodePcmWave_ok.mp h
  rw [← riffFile_chunks hfits hfits' heq] at hf' hd'
  cases hf.symm.trans hf'
  cases hd.symm.trans hd'
  have hsame : buffer.format = stereoFormat := by
    have h1 := parseFormat_ok.mpr hformat
    rw [parseFormat_ok.mpr hbody] at h1
    exact (Except.ok.inj h1).symm
  have hlen := congrArg List.length hdata
  have hbytes : halfFrame.body.length = 2 := rfl
  have htwo : stereoFormat.channels = 2 := rfl
  have hcomplete := buffer.complete
  rw [hbytes, length_sampleBytes] at hlen
  rw [hsame, htwo] at hcomplete
  omega

end Slotpilot.Protocol
