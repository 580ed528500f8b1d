import Timelocked.Base

/-!
One encrypted chunk on the wire: a fixed header and its ciphertext. The reader
accepts any nonzero terminal byte, so a stored frame carries that byte and the
decoded header only says whether it is zero.
-/
namespace ChunkFrame
open ByteCodec RunRules Base

def aeadTagBytes : UInt32 := 16

structure ChunkFrameHeader where
  index : UInt64
  isLast : Bool
  plaintextLen : UInt32
  ciphertextLen : UInt32
  nonce : Block 24
  deriving DecidableEq

/-- `u8::from(bool)`. -/
def flagByte (isLast : Bool) : UInt8 := if isLast then 1 else 0

def writeChunkFrame (host : Host) (writer : Writer) (frame : ChunkFrameHeader)
    (ciphertext : Bytes) : Op Unit := do
  Run.lift (rejectIf (frame.ciphertextLen.toNat ≠ ciphertext.length)
    (.invalidArgument "ciphertext_len does not match ciphertext bytes"))
  writeAll host writer (leBytes frame.index)
  writeAll host writer [flagByte frame.isLast]
  writeAll host writer (leBytes frame.plaintextLen)
  writeAll host writer (leBytes frame.ciphertextLen)
  writeAll host writer frame.nonce.1
  writeAll host writer ciphertext

def readExactOrEof (width : Nat) (input : Bytes) : Except Error (Option (Block width × Bytes)) :=
  if enough : width ≤ input.length then
    .ok (some (⟨input.take width, List.length_take_of_le enough⟩, input.drop width))
  else if input = [] then .ok none
  else .error (.invalidFormat "unexpected eof while reading chunk frame")

/-- The frame at the cursor with its ciphertext and the input after it, or
nothing at the end of the input. -/
def readChunkFrame (input : Bytes) :
    Except Error (Option (ChunkFrameHeader × Bytes × Bytes)) := do
  match ← readExactOrEof 8 input with
  | none => pure none
  | some (indexBytes, rest) =>
      let (last, rest) ← takeWord eof UInt8 rest
      let (plaintextLen, rest) ← takeWord eof UInt32 rest
      let (ciphertextLen, rest) ← takeWord eof UInt32 rest
      rejectIf (ciphertextLen < aeadTagBytes)
        (.invalidFormat "ciphertext length must include AEAD tag")
      let (nonce, rest) ← takeExact eof 24 rest
      let (ciphertext, rest) ← takeExact eof ciphertextLen.toNat rest
      pure (some (⟨ofLeBytes indexBytes.1, last ≠ 0, plaintextLen, ciphertextLen, nonce⟩,
        ciphertext.1, rest))

def validateChunkFrame (frame : ChunkFrameHeader) (ciphertextLen : Nat) (chunkSize : UInt32)
    (expectedIndex : Nat) : Except Error Unit := do
  let index := frame.index
  let plaintextLen := frame.plaintextLen
  rejectIf (index.toNat ≠ expectedIndex)
    (.invalidFormat s!"non-contiguous chunk index at {expectedIndex}, got {index}")
  rejectIf (plaintextLen > chunkSize)
    (.invalidFormat
      s!"chunk {index} plaintext_len {plaintextLen} exceeds configured chunk size {chunkSize}")
  rejectIf (frame.ciphertextLen ≠ plaintextLen + aeadTagBytes)
    (.invalidFormat s!"chunk {index} ciphertext_len mismatch")
  rejectIf (UInt32.ofNat ciphertextLen ≠ frame.ciphertextLen)
    (.invalidFormat s!"chunk {index} ciphertext bytes truncated")

def chunkAadMagic : Bytes := asBytes "TLCK-CHUNK-AD-v1"

def buildChunkAad (superblockDigest : Block 32) (index : UInt64) (plaintextLen : UInt32)
    (isLast : Bool) : Bytes :=
  chunkAadMagic ++ superblockDigest.1 ++ leBytes index ++ leBytes plaintextLen ++
    [flagByte isLast]

structure StoredFrame where
  terminal : UInt8
  plaintextLen : UInt32
  nonce : Block 24
  ciphertext : Bytes

namespace StoredFrame

def header (frame : StoredFrame) (index : UInt64) : ChunkFrameHeader where
  index := index
  isLast := frame.terminal ≠ 0
  plaintextLen := frame.plaintextLen
  ciphertextLen := UInt32.ofNat frame.ciphertext.length
  nonce := frame.nonce

def bytes (frame : StoredFrame) (index : UInt64) : Bytes :=
  leBytes index ++ (leBytes frame.terminal ++ (leBytes frame.plaintextLen ++
    (leBytes (UInt32.ofNat frame.ciphertext.length) ++ (frame.nonce.1 ++ frame.ciphertext))))

/-- The ciphertext is the size its length field can say, tag included. -/
def Sized (frame : StoredFrame) : Prop :=
  16 ≤ frame.ciphertext.length ∧ frame.ciphertext.length < 2 ^ 32

end StoredFrame

theorem toNat_ofNat_length (bytes : Bytes) (fits : bytes.length < 2 ^ 32) :
    (UInt32.ofNat bytes.length).toNat = bytes.length := by
  rw [UInt32.toNat_ofNat']
  exact Nat.mod_eq_of_lt fits

theorem readExactOrEof_eq_some (width : Nat) (input : Bytes) (block : Block width)
    (rest : Bytes) :
    readExactOrEof width input = .ok (some (block, rest)) ↔ input = block.1 ++ rest := by
  unfold readExactOrEof
  constructor
  · intro success
    split at success
    · obtain ⟨rfl, rfl⟩ := Prod.mk.inj (Option.some.inj (Except.ok.inj success))
      exact (List.take_append_drop width input).symm
    · split at success <;> cases success
  · intro split
    obtain ⟨bytes, rfl⟩ := block
    subst split
    simp

theorem readExactOrEof_eq_none (width : Nat) (input : Bytes) (positive : 0 < width) :
    readExactOrEof width input = .ok none ↔ input = [] := by
  unfold readExactOrEof
  constructor
  · intro success
    split at success
    · cases success
    · split at success
      · assumption
      · cases success
  · intro empty
    subst empty
    rw [dif_neg (by simpa [Nat.pos_iff_ne_zero] using positive), if_pos rfl]

theorem readChunkFrame_eq_none (input : Bytes) :
    readChunkFrame input = .ok none ↔ input = [] := by
  rw [← readExactOrEof_eq_none 8 input (by decide)]
  unfold readChunkFrame
  constructor
  · intro success
    obtain ⟨first, read, rest⟩ := (bind_eq_ok _ _ _).mp success
    cases first with
    | none => exact read
    | some pair =>
        simp only [bind_eq_ok, pure_eq_ok] at rest
        obtain ⟨_, _, _, _, _, _, _, _, _, _, _, _, finished⟩ := rest
        cases finished
  · intro read
    rw [read]
    rfl

/-- What is read is exactly a stored frame followed by the rest. -/
theorem readChunkFrame_eq_some (input ciphertext rest : Bytes) (header : ChunkFrameHeader) :
    readChunkFrame input = .ok (some (header, ciphertext, rest)) ↔
      ∃ frame : StoredFrame, frame.Sized ∧ header = frame.header header.index ∧
        ciphertext = frame.ciphertext ∧ input = frame.bytes header.index ++ rest := by
  unfold readChunkFrame
  constructor
  · -- What was read field by field is the frame spelled by those fields.
    intro success
    obtain ⟨first, read, success⟩ := (bind_eq_ok _ _ _).mp success
    cases first with
    | none => cases success
    | some pair =>
        obtain ⟨indexBytes, rest₀⟩ := pair
        have split₀ := (readExactOrEof_eq_some 8 _ _ _).mp read
        obtain ⟨⟨last, rest₁⟩, split₁, success⟩ := (bind_eq_ok _ _ _).mp success
        obtain ⟨⟨plaintextLen, rest₂⟩, split₂, success⟩ := (bind_eq_ok _ _ _).mp success
        obtain ⟨⟨ciphertextLen, rest₃⟩, split₃, success⟩ := (bind_eq_ok _ _ _).mp success
        obtain ⟨_, tagged, success⟩ := (bind_eq_ok _ _ _).mp success
        obtain ⟨⟨nonce, rest₄⟩, split₄, success⟩ := (bind_eq_ok _ _ _).mp success
        obtain ⟨⟨body, rest₅⟩, split₅, success⟩ := (bind_eq_ok _ _ _).mp success
        rw [takeWord_eq_ok] at split₁ split₂ split₃
        rw [takeExact_eq_ok] at split₄ split₅
        rw [rejectIf_eq_ok] at tagged
        obtain ⟨rfl, rfl, rfl⟩ : _ ∧ _ ∧ _ := by
          simpa [pure_eq_ok] using success
        have width : body.1.length = ciphertextLen.toNat := body.2
        have length : UInt32.ofNat body.1.length = ciphertextLen := by
          rw [width]
          exact UInt32.ofNat_toNat
        refine ⟨⟨last, plaintextLen, nonce, body.1⟩, ⟨?_, ?_⟩, ?_, rfl, ?_⟩
        · have enough : ¬ ciphertextLen.toNat < 16 := fun small =>
            tagged (UInt32.lt_iff_toNat_lt.mpr small)
          simp only [width]
          omega
        · simp only [width]
          exact ciphertextLen.toNat_lt
        · simp [StoredFrame.header, length]
        · have indexed : leBytes (ofLeBytes indexBytes.1 : UInt64) = indexBytes.1 :=
            leBytes_ofLeBytes _ indexBytes.2
          simp only [StoredFrame.bytes, indexed, length, List.append_assoc]
          rw [split₀, split₁, split₂, split₃, split₄, split₅]
  · -- A frame is read back: each reader takes the next field and leaves the rest.
    rintro ⟨frame, ⟨tagged, fits⟩, same, rfl, rfl⟩
    have length := toNat_ofNat_length frame.ciphertext fits
    have indexRead : readExactOrEof 8 (frame.bytes header.index ++ rest) =
        .ok (some (⟨leBytes header.index, leBytes_length header.index⟩,
          leBytes frame.terminal ++ (leBytes frame.plaintextLen ++
            (leBytes (UInt32.ofNat frame.ciphertext.length) ++
              (frame.nonce.1 ++ (frame.ciphertext ++ rest)))))) := by
      rw [readExactOrEof_eq_some]
      simp only [StoredFrame.bytes, List.append_assoc]
    have notShort : ¬ UInt32.ofNat frame.ciphertext.length < aeadTagBytes := by
      rw [UInt32.lt_iff_toNat_lt, length]
      simpa [aeadTagBytes] using tagged
    have body : takeExact eof (UInt32.ofNat frame.ciphertext.length).toNat
        (frame.ciphertext ++ rest) = .ok (⟨frame.ciphertext, length.symm⟩, rest) :=
      (takeExact_eq_ok eof _ _ ⟨frame.ciphertext, length.symm⟩ rest).mpr rfl
    have decoded : (⟨header.index, decide (frame.terminal ≠ 0), frame.plaintextLen,
        UInt32.ofNat frame.ciphertext.length, frame.nonce⟩ : ChunkFrameHeader) = header :=
      same.symm
    rw [indexRead, ok_bind]
    simp only [takeWord_append, takeExact_append, ok_bind, rejectIf, notShort, if_false, body,
      pure_eq_ok, ofLeBytes_leBytes, decoded]

def writtenFrame (header : ChunkFrameHeader) (ciphertext : Bytes) : StoredFrame :=
  ⟨flagByte header.isLast, header.plaintextLen, header.nonce, ciphertext⟩

theorem writeChunkFrame_ok (host : Host) (writer : Writer) (header : ChunkFrameHeader)
    (ciphertext : Bytes) (before after : World)
    (written : writeChunkFrame host writer header ciphertext before = (.ok (), after)) :
    header.ciphertextLen.toNat = ciphertext.length ∧
      Wrote ((writtenFrame header ciphertext).bytes header.index) before after := by
  unfold writeChunkFrame at written
  simp only [Run.bind_eq_ok, Run.lift_apply, Prod.mk.injEq, rejectIf_eq_ok] at written
  obtain ⟨_, _, ⟨lengths, rfl⟩, _, w₁, wrote₁, _, w₂, wrote₂, _, w₃, wrote₃, _, w₄, wrote₄, _, w₅,
    wrote₅, wrote₆⟩ := written
  have sized : header.ciphertextLen.toNat = ciphertext.length := not_not.mp lengths
  have length : UInt32.ofNat ciphertext.length = header.ciphertextLen := by
    rw [← sized]
    exact UInt32.ofNat_toNat
  have flag : leBytes (flagByte header.isLast) = [flagByte header.isLast] := by
    cases header.isLast <;> rfl
  refine ⟨sized, ?_⟩
  have all := wrote_wrote (writeAll_ok _ _ _ _ _ wrote₁) (wrote_wrote (writeAll_ok _ _ _ _ _ wrote₂)
    (wrote_wrote (writeAll_ok _ _ _ _ _ wrote₃) (wrote_wrote (writeAll_ok _ _ _ _ _ wrote₄)
      (wrote_wrote (writeAll_ok _ _ _ _ _ wrote₅) (writeAll_ok _ _ _ _ _ wrote₆)))))
  rw [StoredFrame.bytes, writtenFrame, length, flag]
  exact all

/-- A writer that takes every byte holds the frame it was given. -/
theorem writeChunkFrame_takes (host : Host) (writer : Writer) (takes : writer.Takes host)
    (header : ChunkFrameHeader) (ciphertext : Bytes)
    (sized : header.ciphertextLen.toNat = ciphertext.length) (before : World) :
    ∃ after, writeChunkFrame host writer header ciphertext before = (.ok (), after) ∧
      after.sink = before.sink ++ (writtenFrame header ciphertext).bytes header.index := by
  obtain ⟨w₁, first, _⟩ := writeAll_takes host writer takes (leBytes header.index) before
  obtain ⟨w₂, second, _⟩ := writeAll_takes host writer takes [flagByte header.isLast] w₁
  obtain ⟨w₃, third, _⟩ := writeAll_takes host writer takes (leBytes header.plaintextLen) w₂
  obtain ⟨w₄, fourth, _⟩ := writeAll_takes host writer takes (leBytes header.ciphertextLen) w₃
  obtain ⟨w₅, fifth, _⟩ := writeAll_takes host writer takes header.nonce.1 w₄
  obtain ⟨after, last, _⟩ := writeAll_takes host writer takes ciphertext w₅
  have written : writeChunkFrame host writer header ciphertext before = (.ok (), after) := by
    have fits : rejectIf (header.ciphertextLen.toNat ≠ ciphertext.length)
        (Error.invalidArgument "ciphertext_len does not match ciphertext bytes") = .ok () :=
      (rejectIf_eq_ok _ _ ()).mpr (by simp [sized])
    unfold writeChunkFrame
    rw [Run.lift_bind_of_ok fits, Run.bind_of_ok first,
      Run.bind_of_ok second, Run.bind_of_ok third, Run.bind_of_ok fourth, Run.bind_of_ok fifth]
    exact last
  exact ⟨after, written, (writeChunkFrame_ok _ _ _ _ _ _ written).2.sink⟩

theorem writeChunkFrame_steady {related : World → World → Prop} (steady : Steady related)
    (host : Host) (writer : Writer) (frame : ChunkFrameHeader)
    (ciphertext : Bytes) : Run.Keeps related (writeChunkFrame host writer frame ciphertext) := by
  have written := writeAll_steady steady host writer
  refine steady.lift_bind fun _ => ?_
  refine steady.bind (written _) fun _ => ?_
  refine steady.bind (written _) fun _ => ?_
  refine steady.bind (written _) fun _ => ?_
  refine steady.bind (written _) fun _ => ?_
  exact steady.bind (written _) fun _ => written ciphertext

end ChunkFrame
