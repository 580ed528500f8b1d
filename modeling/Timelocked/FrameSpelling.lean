import Timelocked.ChunkFrame

/-!
How many spellings one frame has. Every field of a header is stored in one way
except the terminal flag: the reader takes any nonzero byte for it and the
writer stores a one, so the frames that decode alike differ in that byte alone.
-/
namespace FrameSpelling
open ByteCodec RunRules Base ChunkFrame

def flagOffset : Nat := 8

/-- The flag byte is one that the writer stores. -/
def Canonical (stored : Bytes) : Prop := stored[flagOffset]? = some 0 ∨ stored[flagOffset]? = some 1

/-- The bytes of a frame before its flag, its flag, and the bytes after it. -/
theorem bytes_split (frame : StoredFrame) (index : UInt64) :
    ∃ after, ∀ flag, ({ frame with terminal := flag } : StoredFrame).bytes index =
      leBytes index ++ flag :: after := by
  refine ⟨leBytes frame.plaintextLen ++ (leBytes (UInt32.ofNat frame.ciphertext.length) ++
    (frame.nonce.1 ++ frame.ciphertext)), fun flag => ?_⟩
  have single : leBytes flag = [flag] := by
    simp [leBytes, Word.width, Word.toNat, toLe]
  rw [StoredFrame.bytes, single]
  rfl

theorem bytes_flag (frame : StoredFrame) (index : UInt64) :
    (frame.bytes index)[flagOffset]? = some frame.terminal := by
  obtain ⟨after, split⟩ := bytes_split frame index
  have width : (leBytes index).length = flagOffset := leBytes_length index
  have whole := split frame.terminal
  rw [show ({ frame with terminal := frame.terminal } : StoredFrame) = frame from rfl] at whole
  rw [whole, ← width, List.getElem?_append_right (Nat.le_refl _), Nat.sub_self]
  rfl

theorem bytes_set_flag (frame : StoredFrame) (index : UInt64) (flag : UInt8) :
    (frame.bytes index).set flagOffset flag =
      ({ frame with terminal := flag } : StoredFrame).bytes index := by
  obtain ⟨after, split⟩ := bytes_split frame index
  have width : (leBytes index).length = flagOffset := leBytes_length index
  have whole := split frame.terminal
  rw [show ({ frame with terminal := frame.terminal } : StoredFrame) = frame from rfl] at whole
  rw [whole, split flag, ← width, List.set_append_right _ _ (Nat.le_refl _), Nat.sub_self]
  rfl

/-- The strings that decode to one frame are those that differ from the first in
the flag byte, and not in whether it is zero. -/
theorem same_frame_iff (stored other rest ciphertext : Bytes) (header : ChunkFrameHeader)
    (decoded : readChunkFrame (stored ++ rest) = .ok (some (header, ciphertext, rest))) :
    readChunkFrame (other ++ rest) = .ok (some (header, ciphertext, rest)) ↔
      ∃ flag : UInt8, decide (flag ≠ 0) = header.isLast ∧ other = stored.set flagOffset flag := by
  obtain ⟨frame, sized, same, rfl, whole⟩ := (readChunkFrame_eq_some _ _ _ _).mp decoded
  obtain rfl := List.append_cancel_right whole
  rw [readChunkFrame_eq_some]
  constructor
  · rintro ⟨again, _, same', body, whole'⟩
    obtain rfl := List.append_cancel_right whole'
    refine ⟨again.terminal, (congrArg ChunkFrameHeader.isLast same').symm, ?_⟩
    rw [bytes_set_flag]
    -- Two frames of one header and one ciphertext have all fields but the flag in common.
    have lengths : again.plaintextLen = frame.plaintextLen := by
      have first := congrArg ChunkFrameHeader.plaintextLen same
      exact (congrArg ChunkFrameHeader.plaintextLen same').symm.trans first
    have nonces : again.nonce = frame.nonce := by
      have first := congrArg ChunkFrameHeader.nonce same
      exact (congrArg ChunkFrameHeader.nonce same').symm.trans first
    obtain ⟨terminal, plaintextLen, nonce, ciphertext⟩ := again
    dsimp only at lengths nonces body
    rw [lengths, nonces, ← body]
  · rintro ⟨flag, kept, rfl⟩
    refine ⟨{ frame with terminal := flag }, sized, ?_, rfl, by rw [bytes_set_flag]⟩
    have flagged : (({ frame with terminal := flag } : StoredFrame).header header.index) =
        { frame.header header.index with isLast := decide (flag ≠ 0) } := rfl
    rw [flagged, kept, ← same]

/-- What is written reads back, whatever follows it. -/
theorem written_reads (header : ChunkFrameHeader) (ciphertext rest : Bytes)
    (sized : header.ciphertextLen.toNat = ciphertext.length) (tagged : 16 ≤ ciphertext.length) :
    readChunkFrame ((writtenFrame header ciphertext).bytes header.index ++ rest) =
      .ok (some (header, ciphertext, rest)) := by
  have small := header.ciphertextLen.toNat_lt
  have length : header.ciphertextLen = UInt32.ofNat ciphertext.length := by
    rw [← sized]
    exact UInt32.ofNat_toNat.symm
  have same : header = (writtenFrame header ciphertext).header header.index := by
    obtain ⟨index, isLast, plaintextLen, ciphertextLen, nonce⟩ := header
    simp only [StoredFrame.header, writtenFrame, ChunkFrameHeader.mk.injEq, true_and, and_true]
    exact ⟨by cases isLast <;> rfl, length⟩
  exact (readChunkFrame_eq_some _ _ _ _).mpr
    ⟨writtenFrame header ciphertext, ⟨tagged, sized ▸ small⟩, same, rfl, rfl⟩

/-- Writing a frame that was read gives the bytes it was read from, but for the flag. -/
theorem rewritten (stored rest ciphertext : Bytes) (header : ChunkFrameHeader)
    (decoded : readChunkFrame (stored ++ rest) = .ok (some (header, ciphertext, rest))) :
    header.ciphertextLen.toNat = ciphertext.length ∧ 16 ≤ ciphertext.length ∧
      (writtenFrame header ciphertext).bytes header.index =
        stored.set flagOffset (flagByte header.isLast) := by
  obtain ⟨frame, ⟨tagged, fits⟩, same, rfl, whole⟩ := (readChunkFrame_eq_some _ _ _ _).mp decoded
  obtain rfl := List.append_cancel_right whole
  have length : header.ciphertextLen.toNat = frame.ciphertext.length := by
    rw [congrArg ChunkFrameHeader.ciphertextLen same]
    exact toNat_ofNat_length frame.ciphertext fits
  refine ⟨length, tagged, ?_⟩
  rw [bytes_set_flag, writtenFrame, congrArg ChunkFrameHeader.plaintextLen same,
    congrArg ChunkFrameHeader.nonce same]
  rfl

theorem stored_flag (stored rest ciphertext : Bytes) (header : ChunkFrameHeader)
    (decoded : readChunkFrame (stored ++ rest) = .ok (some (header, ciphertext, rest))) :
    ∃ flag, stored[flagOffset]? = some flag ∧ decide (flag ≠ 0) = header.isLast := by
  obtain ⟨frame, _, same, _, whole⟩ := (readChunkFrame_eq_some _ _ _ _).mp decoded
  obtain rfl := List.append_cancel_right whole
  exact ⟨frame.terminal, bytes_flag frame header.index,
    (congrArg ChunkFrameHeader.isLast same).symm⟩

theorem canonical_iff (stored : Bytes) (header : ChunkFrameHeader) (flag : UInt8)
    (here : stored[flagOffset]? = some flag) (flagged : decide (flag ≠ 0) = header.isLast) :
    Canonical stored ↔ stored.set flagOffset (flagByte header.isLast) = stored := by
  rw [Canonical, here, ← flagged]
  have kept : ∀ value, stored.set flagOffset value = stored ↔ value = flag := by
    intro value
    obtain ⟨inside, found⟩ := List.getElem?_eq_some_iff.mp here
    constructor
    · intro same
      have there : (stored.set flagOffset value)[flagOffset]? = some value :=
        List.getElem?_set_self inside
      rw [same, here] at there
      exact (Option.some.inj there).symm
    · rintro rfl
      rw [← found]
      exact List.set_getElem_self inside
  rw [kept]
  by_cases zero : flag = 0
  · simp [zero, flagByte]
  · simp [zero, flagByte, eq_comm]

theorem changed_flag_iff (stored : Bytes) (flag : UInt8) (offset : Nat) (byte : UInt8)
    (here : stored[flagOffset]? = some flag) (inside : offset < stored.length)
    (changed : stored[offset]? ≠ some byte) :
    (∃ other : UInt8, decide (other ≠ 0) = decide (flag ≠ 0) ∧
        stored.set offset byte = stored.set flagOffset other) ↔
      offset = flagOffset ∧ some flag ≠ some 0 ∧ byte ≠ 0 := by
  obtain ⟨within, _⟩ := List.getElem?_eq_some_iff.mp here
  have written : (stored.set offset byte)[offset]? = some byte := List.getElem?_set_self inside
  constructor
  · rintro ⟨other, kept, same⟩
    by_cases there : offset = flagOffset
    · subst there
      have flagWritten : (stored.set flagOffset other)[flagOffset]? = some other :=
        List.getElem?_set_self within
      rw [← same, written] at flagWritten
      obtain rfl := Option.some.inj flagWritten
      have different : flag ≠ byte := fun equal => changed (equal ▸ here)
      refine ⟨rfl, ?_, ?_⟩
      · intro zero
        obtain rfl := Option.some.inj zero
        have none_ : byte = 0 := by simpa using kept
        exact different none_.symm
      · rintro rfl
        exact different (by simpa using kept.symm)
    · rw [same, List.getElem?_set_ne (Ne.symm there)] at written
      exact absurd written changed
  · rintro ⟨rfl, notZero, nonzero⟩
    have flagged : flag ≠ 0 := fun zero => notZero (congrArg some zero)
    exact ⟨byte, by simp [nonzero, flagged], rfl⟩

/-- Writing then reading is always faithful. Reading then writing is faithful to
the canonical flag bytes, and of the changes of one byte only that from one
nonzero flag to another leaves the frame as it was. -/
theorem codec_bijective (host : Host) (writer : Writer) (takes : writer.Takes host)
    (before : World) :
    (∀ header ciphertext rest, header.ciphertextLen.toNat = ciphertext.length →
      16 ≤ ciphertext.length →
        ∃ after written, writeChunkFrame host writer header ciphertext before = (.ok (), after) ∧
          after.sink = before.sink ++ written ∧
          readChunkFrame (written ++ rest) = .ok (some (header, ciphertext, rest))) ∧
    ∀ stored rest header ciphertext,
      readChunkFrame (stored ++ rest) = .ok (some (header, ciphertext, rest)) →
        ((∃ after, writeChunkFrame host writer header ciphertext before = (.ok (), after) ∧
          after.sink = before.sink ++ stored) ↔ Canonical stored) ∧
        ∀ offset byte, offset < stored.length → stored[offset]? ≠ some byte →
          (readChunkFrame (stored.set offset byte ++ rest) =
              .ok (some (header, ciphertext, rest)) ↔
            offset = flagOffset ∧ stored[flagOffset]? ≠ some 0 ∧ byte ≠ 0) := by
  constructor
  · intro header ciphertext rest sized tagged
    obtain ⟨after, written, sink⟩ :=
      writeChunkFrame_takes host writer takes header ciphertext sized before
    exact ⟨after, _, written, sink, written_reads header ciphertext rest sized tagged⟩
  · intro stored rest header ciphertext decoded
    obtain ⟨flag, here, flagged⟩ := stored_flag stored rest ciphertext header decoded
    constructor
    · obtain ⟨sized, _, again⟩ := rewritten stored rest ciphertext header decoded
      obtain ⟨after, written, sink⟩ :=
        writeChunkFrame_takes host writer takes header ciphertext sized before
      rw [canonical_iff stored header flag here flagged, ← again]
      constructor
      · rintro ⟨other, written', sink'⟩
        obtain rfl : after = other := (Prod.mk.inj (written.symm.trans written')).2
        exact List.append_cancel_left (sink.symm.trans sink')
      · intro same
        exact ⟨after, written, by rw [sink, same]⟩
    · intro offset byte inside changed
      rw [same_frame_iff stored _ rest ciphertext header decoded, ← flagged, here]
      exact changed_flag_iff stored flag offset byte here inside changed

def smallFrame (flag : UInt8) : StoredFrame := ⟨flag, 0, zeros 24, (zeros 16).1⟩

theorem smallFrame_reads (flag : UInt8) :
    readChunkFrame ((smallFrame flag).bytes 0 ++ []) =
      .ok (some ((smallFrame flag).header 0, (smallFrame flag).ciphertext, [])) :=
  (readChunkFrame_eq_some _ _ _ _).mpr ⟨smallFrame flag,
    ⟨by simp [smallFrame, (zeros 16).2], by simp [smallFrame, (zeros 16).2]⟩, rfl, rfl, rfl⟩

theorem codec_bijective_small :
    ∃ after, writeChunkFrame (calmHost plainCrates) .memory ((smallFrame 1).header 0)
        (smallFrame 1).ciphertext (freshWorld .bare) = (.ok (), after) ∧
      after.sink = (freshWorld .bare).sink ++ (smallFrame 1).bytes 0 :=
  ((codec_bijective (calmHost plainCrates) .memory trivial (freshWorld .bare)).2 _ [] _ _
    (smallFrame_reads 1)).1.mpr (.inr (bytes_flag (smallFrame 1) 0))

/-- A frame with the flag byte two is read, and written back with a one. -/
theorem codec_many_to_one :
    ¬ ∀ stored rest header ciphertext,
      readChunkFrame (stored ++ rest) = .ok (some (header, ciphertext, rest)) →
        ∃ after, writeChunkFrame (calmHost plainCrates) .memory header ciphertext
            (freshWorld .bare) = (.ok (), after) ∧
          after.sink = (freshWorld .bare).sink ++ stored := by
  intro all
  obtain ⟨after, written, sink⟩ := all _ [] _ _ (smallFrame_reads 2)
  have wrote := (writeChunkFrame_ok _ _ _ _ _ _ written).2.sink
  have same := List.append_cancel_left (wrote.symm.trans sink)
  have flags := congrArg (fun bytes : Bytes => bytes[flagOffset]?) same
  rw [bytes_flag] at flags
  have differ : (1 : UInt8) = 2 := Option.some.inj (flags.trans (bytes_flag (smallFrame 2) 0))
  cases differ

end FrameSpelling
